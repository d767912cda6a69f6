import Mathlib.Data.List.Induction
import Mathlib.Data.Prod.Lex
import ClusterKeeper.Version
/-!
The latest of the versions that are offered.

An offer is gone through from its beginning, and the latest entry so far is kept until a greater one
comes. So of entries with the same numbers the first one stays, whichever way they are written, and
an entry that is no version is the end of it wherever it stands.
-/

namespace ClusterKeeper.Version

variable {offered before after more : List RemoteVersion} {entry latest latest' : RemoteVersion}
  {version version' : Version} {fault fault' : Fault}

/-- The numbers of a version, of which the first counts first. -/
def rank (version : Version) : ℕ ×ₗ ℕ := toLex (version.major, version.minor)

theorem atMost_iff : version.atMost version' = true ↔ version.rank ≤ version'.rank := by
  simp [atMost, rank, Prod.Lex.toLex_le_toLex]

theorem atMost_eq_false_iff : version.atMost version' = false ↔ version'.rank < version.rank := by
  rw [← Bool.not_eq_true, atMost_iff, not_le]

/-- Versions of the same rank are the same. -/
theorem rank_injective : Function.Injective rank := by
  rintro ⟨major, minor⟩ ⟨major', minor'⟩ h
  have hpair : (major, minor) = (major', minor') := toLex.injective h
  cases hpair
  rfl

/-- Every entry can be read, as a version that passes the test. -/
def AllRead (test : Version → Prop) (entries : List RemoteVersion) : Prop :=
  ∀ entry ∈ entries, ∃ version, read entry.id = .ok version ∧ test version

theorem AllRead.mono {test test' : Version → Prop} (h : AllRead test before)
    (himp : ∀ version, test version → test' version) : AllRead test' before := by
  intro entry hentry
  obtain ⟨version, hread, htest⟩ := h entry hentry
  exact ⟨version, hread, himp version htest⟩

theorem AllRead.of_mem {test : Version → Prop} (h : AllRead test before) (hentry : entry ∈ before)
    (hread : read entry.id = .ok version) : test version := by
  obtain ⟨_, hother, htest⟩ := h entry hentry
  cases hread.symm.trans hother
  exact htest

theorem AllRead.not_rejected {test : Version → Prop} (h : AllRead test before)
    (hentry : entry ∈ before) : read entry.id ≠ .error fault := by
  obtain ⟨_, hother, _⟩ := h entry hentry
  intro hread
  cases hread.symm.trans hother

theorem AllRead.append {test : Version → Prop} (h : AllRead test before)
    (h' : AllRead test after) : AllRead test (before ++ after) :=
  List.forall_mem_append.mpr ⟨h, h'⟩

theorem AllRead.singleton {test : Version → Prop} (hread : read entry.id = .ok version)
    (htest : test version) : AllRead test [entry] :=
  List.forall_mem_singleton.mpr ⟨version, hread, htest⟩

/-- The first entry of a kind is the same however the list is split there. -/
theorem eq_of_first {kind : RemoteVersion → Prop} {before' after' : List RemoteVersion}
    {entry' : RemoteVersion} (hsplit : before ++ entry :: after = before' ++ entry' :: after')
    (hbefore : ∀ other ∈ before, ¬ kind other) (hbefore' : ∀ other ∈ before', ¬ kind other)
    (hentry : kind entry) (hentry' : kind entry') : entry = entry' := by
  rcases List.append_eq_append_iff.mp hsplit with ⟨between, rfl, hrest⟩ | ⟨between, rfl, hrest⟩
  · cases between with
    | nil => exact (List.cons.inj hrest).1
    | cons head tail =>
        obtain ⟨rfl, -⟩ := List.cons.inj hrest
        exact absurd hentry (hbefore' entry (by simp))
  · cases between with
    | nil => exact (List.cons.inj hrest).1.symm
    | cons head tail =>
        obtain ⟨rfl, -⟩ := List.cons.inj hrest
        exact absurd hentry' (hbefore entry' (by simp))

/-- The entry is of that version, those before it are of lesser ones, and those behind it of none
that is greater. -/
def IsLatest (offered : List RemoteVersion) (latest : RemoteVersion) (version : Version) : Prop :=
  read latest.id = .ok version ∧ ∃ before after, offered = before ++ latest :: after ∧
    AllRead (·.rank < version.rank) before ∧ AllRead (·.rank ≤ version.rank) after

/-- The first entry that is no version is turned down so. -/
def FirstRejected (offered : List RemoteVersion) (fault : Fault) : Prop :=
  ∃ before entry after, offered = before ++ entry :: after ∧ AllRead (fun _ => True) before ∧
    read entry.id = .error fault

namespace IsLatest

theorem mem (h : IsLatest offered latest version) : latest ∈ offered := by
  obtain ⟨_, before, after, rfl, _⟩ := h
  simp

/-- No entry is of a greater version. -/
theorem allRead (h : IsLatest offered latest version) :
    AllRead (·.rank ≤ version.rank) offered := by
  obtain ⟨hread, before, after, rfl, hbefore, hafter⟩ := h
  have hself : AllRead (·.rank ≤ version.rank) [latest] := .singleton hread le_rfl
  exact (hbefore.mono fun _ => le_of_lt).append (hself.append hafter)

theorem rank_le (h : IsLatest offered latest version) (hentry : entry ∈ offered)
    (hread : read entry.id = .ok version') : version'.rank ≤ version.rank :=
  h.allRead.of_mem hentry hread

theorem version_unique (h : IsLatest offered latest version)
    (h' : IsLatest offered latest' version') : version = version' :=
  rank_injective (le_antisymm (h'.rank_le h.mem h.1) (h.rank_le h'.mem h'.1))

/-- There is one latest entry. -/
theorem unique (h : IsLatest offered latest version) (h' : IsLatest offered latest' version') :
    latest = latest' := by
  obtain rfl := h.version_unique h'
  obtain ⟨hread, before, after, rfl, hbefore, -⟩ := h
  obtain ⟨hread', before', after', hsplit, hbefore', -⟩ := h'
  have hlesser : ∀ {front : List RemoteVersion}, AllRead (·.rank < version.rank) front →
      ∀ entry ∈ front, read entry.id ≠ .ok version :=
    fun hfront entry hentry hread => lt_irrefl _ (hfront.of_mem hentry hread)
  exact eq_of_first hsplit (hlesser hbefore) (hlesser hbefore') hread hread'

/-- An entry that is not greater changes nothing. -/
theorem snoc_of_le (h : IsLatest offered latest version) (hread : read entry.id = .ok version')
    (hle : version'.rank ≤ version.rank) : IsLatest (offered ++ [entry]) latest version := by
  obtain ⟨hlatest, before, after, rfl, hbefore, hafter⟩ := h
  exact ⟨hlatest, before, after ++ [entry], by simp, hbefore, hafter.append (.singleton hread hle)⟩

/-- A greater entry takes over. -/
theorem snoc_of_lt (h : IsLatest offered latest version) (hread : read entry.id = .ok version')
    (hlt : version.rank < version'.rank) : IsLatest (offered ++ [entry]) entry version' :=
  ⟨hread, offered, [], rfl, h.allRead.mono fun _ hle => lt_of_le_of_lt hle hlt,
    fun _ hnone => absurd hnone List.not_mem_nil⟩

theorem of_singleton (hread : read entry.id = .ok version) : IsLatest [entry] entry version :=
  ⟨hread, [], [], rfl, fun _ hnone => absurd hnone List.not_mem_nil,
    fun _ hnone => absurd hnone List.not_mem_nil⟩

end IsLatest

namespace FirstRejected

theorem append (h : FirstRejected offered fault) (more : List RemoteVersion) :
    FirstRejected (offered ++ more) fault := by
  obtain ⟨before, entry, after, rfl, hbefore, hread⟩ := h
  exact ⟨before, entry, after ++ more, by simp, hbefore, hread⟩

theorem exists_mem (h : FirstRejected offered fault) :
    ∃ entry ∈ offered, read entry.id = .error fault := by
  obtain ⟨before, entry, after, rfl, _, hread⟩ := h
  exact ⟨entry, by simp, hread⟩

theorem not_allRead {test : Version → Prop} (h : FirstRejected offered fault) :
    ¬ AllRead test offered := by
  intro hall
  obtain ⟨entry, hentry, hread⟩ := h.exists_mem
  exact hall.not_rejected hentry hread

/-- One entry is the first that is turned down. -/
theorem unique (h : FirstRejected offered fault) (h' : FirstRejected offered fault') :
    fault = fault' := by
  obtain ⟨before, entry, after, rfl, hbefore, hread⟩ := h
  obtain ⟨before', entry', after', hsplit, hbefore', hread'⟩ := h'
  have hreadable : ∀ {front : List RemoteVersion}, AllRead (fun _ => True) front →
      ∀ entry ∈ front, ¬ ∃ fault, read entry.id = .error fault :=
    fun hfront entry hentry hrejected => hfront.not_rejected hentry hrejected.choose_spec
  obtain rfl := eq_of_first hsplit (hreadable hbefore) (hreadable hbefore') ⟨_, hread⟩ ⟨_, hread'⟩
  exact Except.error.inj (hread.symm.trans hread')

end FirstRejected

/-- What is known of an offer that was gone through. -/
def Surveyed (offered : List RemoteVersion) :
    Except Fault (Option (RemoteVersion × Version)) → Prop
  | .ok none => offered = []
  | .ok (some (latest, version)) => IsLatest offered latest version
  | .error fault => FirstRejected offered fault

/-- One more entry is looked at. -/
theorem surveyed_laterOf {best : Option (RemoteVersion × Version)}
    (h : Surveyed offered (.ok best)) : Surveyed (offered ++ [entry]) (laterOf best entry) := by
  cases hread : read entry.id with
  | error fault =>
      have hlater : laterOf best entry = .error fault := by
        rw [laterOf, hread]
        rfl
      rw [hlater]
      refine ⟨offered, entry, [], rfl, ?_, hread⟩
      rcases best with _ | ⟨latest, greatest⟩
      · rw [show offered = [] from h]
        exact fun _ hnone => absurd hnone List.not_mem_nil
      · exact IsLatest.allRead h |>.mono fun _ _ => trivial
  | ok version =>
      rcases best with _ | ⟨latest, greatest⟩
      · have hlater : laterOf none entry = .ok (some (entry, version)) := by
          rw [laterOf, hread]
          rfl
        rw [hlater, show offered = [] from h]
        exact .of_singleton hread
      · have hlater : laterOf (some (latest, greatest)) entry =
            if version.atMost greatest then .ok (some (latest, greatest))
            else .ok (some (entry, version)) := by
          rw [laterOf, hread]
          rfl
        rw [hlater]
        split
        · next hle => exact IsLatest.snoc_of_le h hread (atMost_iff.mp hle)
        · next hlt =>
            exact IsLatest.snoc_of_lt h hread (atMost_eq_false_iff.mp (Bool.eq_false_iff.mpr hlt))

/-- All of an offer is gone through, up to the first entry that is turned down. -/
theorem surveyed_foldlM (offered : List RemoteVersion) :
    Surveyed offered (offered.foldlM laterOf none) := by
  induction offered using List.reverseRecOn with
  | nil => exact rfl
  | append_singleton front entry ih =>
      rw [List.foldlM_append]
      cases hfront : front.foldlM laterOf none with
      | error fault =>
          rw [hfront] at ih
          exact FirstRejected.append ih [entry]
      | ok best =>
          rw [hfront] at ih
          have hstep : Surveyed _ (laterOf best entry) := surveyed_laterOf ih
          have hlast : [entry].foldlM laterOf best = laterOf best entry := by
            rw [List.foldlM_cons]
            cases laterOf best entry <;> rfl
          change Surveyed _ ([entry].foldlM laterOf best)
          rwa [hlast]

theorem latestOf_nil : latestOf [] = .error (.invalidVersion "" "provider returned no versions") :=
  rfl

theorem latestOf_eq_ok_iff : latestOf offered = .ok latest ↔
    ∃ version, IsLatest offered latest version := by
  have hsurvey := surveyed_foldlM offered
  rw [latestOf]
  cases hfold : offered.foldlM laterOf none with
  | error fault =>
      rw [hfold] at hsurvey
      constructor
      · intro h
        cases h
      · rintro ⟨version, hlatest⟩
        exact absurd hlatest.allRead hsurvey.not_allRead
  | ok best =>
      rw [hfold] at hsurvey
      rcases best with _ | ⟨found, version⟩
      · obtain rfl : offered = [] := hsurvey
        constructor
        · intro h
          cases h
        · rintro ⟨version, hlatest⟩
          exact absurd hlatest.mem List.not_mem_nil
      · constructor
        · intro h
          cases h
          exact ⟨version, hsurvey⟩
        · rintro ⟨version', hlatest⟩
          exact congrArg Except.ok (IsLatest.unique hsurvey hlatest)

theorem latestOf_eq_error_iff (hoffered : offered ≠ []) :
    latestOf offered = .error fault ↔ FirstRejected offered fault := by
  have hsurvey := surveyed_foldlM offered
  rw [latestOf]
  cases hfold : offered.foldlM laterOf none with
  | error found =>
      rw [hfold] at hsurvey
      constructor
      · intro h
        cases h
        exact hsurvey
      · intro hrejected
        exact congrArg Except.error (FirstRejected.unique hsurvey hrejected)
  | ok best =>
      rw [hfold] at hsurvey
      rcases best with _ | ⟨found, version⟩
      · exact absurd hsurvey hoffered
      · constructor
        · intro h
          cases h
        · intro hrejected
          exact absurd (IsLatest.allRead hsurvey) hrejected.not_allRead

/-- There is no latest version where there is none at all, or an entry that is none. -/
theorem exists_latestOf_eq_error_iff : (∃ fault, latestOf offered = .error fault) ↔
    offered = [] ∨ ∃ entry ∈ offered, ∃ fault, read entry.id = .error fault := by
  constructor
  · rintro ⟨fault, h⟩
    by_cases hoffered : offered = []
    · exact .inl hoffered
    · obtain ⟨entry, hentry, hread⟩ := ((latestOf_eq_error_iff hoffered).mp h).exists_mem
      exact .inr ⟨entry, hentry, fault, hread⟩
  · rintro (rfl | ⟨entry, hentry, fault, hread⟩)
    · exact ⟨_, latestOf_nil⟩
    · cases hresult : latestOf offered with
      | error fault' => exact ⟨fault', rfl⟩
      | ok latest =>
          obtain ⟨version, hlatest⟩ := latestOf_eq_ok_iff.mp hresult
          exact absurd hread (hlatest.allRead.not_rejected hentry)

/-- The latest entry is of that version. -/
def Resolves (offered : List RemoteVersion) (version : Version) : Prop :=
  ∃ latest, latestOf offered = .ok latest ∧ read latest.id = .ok version

/-- It is the greatest version of an entry, where all can be read. -/
theorem resolves_iff : Resolves offered version ↔
    (∃ entry ∈ offered, read entry.id = .ok version) ∧
      AllRead (·.rank ≤ version.rank) offered := by
  constructor
  · rintro ⟨latest, hresult, hread⟩
    obtain ⟨version', hlatest⟩ := latestOf_eq_ok_iff.mp hresult
    cases hread.symm.trans hlatest.1
    exact ⟨⟨latest, hlatest.mem, hread⟩, hlatest.allRead⟩
  · rintro ⟨⟨entry, hentry, hread⟩, hall⟩
    cases hresult : latestOf offered with
    | error fault =>
        have hoffered : offered ≠ [] := List.ne_nil_of_mem hentry
        exact absurd hall ((latestOf_eq_error_iff hoffered).mp hresult).not_allRead
    | ok latest =>
        obtain ⟨version', hlatest⟩ := latestOf_eq_ok_iff.mp hresult
        have heq := rank_injective (le_antisymm (hall.of_mem hlatest.mem hlatest.1)
          (hlatest.rank_le hentry hread))
        exact ⟨latest, hresult, heq ▸ hlatest.1⟩

theorem resolves_perm {shuffled : List RemoteVersion} (hperm : offered.Perm shuffled) :
    Resolves offered version ↔ Resolves shuffled version := by
  simp only [resolves_iff, AllRead, hperm.mem_iff]

theorem Resolves.append (h : Resolves offered version) (more : List RemoteVersion) :
    (∃ fault, latestOf (offered ++ more) = .error fault) ∨
      ∃ later, Resolves (offered ++ more) later ∧ version.rank ≤ later.rank := by
  obtain ⟨⟨entry, hentry, hread⟩, _⟩ := resolves_iff.mp h
  cases hresult : latestOf (offered ++ more) with
  | error fault => exact .inl ⟨fault, rfl⟩
  | ok latest =>
      obtain ⟨later, hlatest⟩ := latestOf_eq_ok_iff.mp hresult
      exact .inr ⟨later, ⟨latest, hresult, hlatest.1⟩,
        hlatest.rank_le (List.mem_append_left more hentry) hread⟩

/-- The latest version of an offer is its first entry with the greatest numbers, as it is written
there. An offer without entries has none, nor has one with an entry that is no version, and what is
wrong with the first such entry is reported. The order of the entries does not change the numbers
that come out, and further entries can only raise them, or spoil the offer. -/
theorem latest_of_offer (offered : List RemoteVersion) :
    ((∃ fault, latestOf offered = .error fault) ↔
      offered = [] ∨ ∃ entry ∈ offered, ∃ fault, read entry.id = .error fault) ∧
    (offered = [] →
      latestOf offered = .error (.invalidVersion "" "provider returned no versions")) ∧
    (offered ≠ [] → ∀ fault, latestOf offered = .error fault ↔ FirstRejected offered fault) ∧
    (∀ latest, latestOf offered = .ok latest ↔ ∃ version, IsLatest offered latest version) ∧
    (∀ shuffled, offered.Perm shuffled → ∀ version,
      Resolves offered version ↔ Resolves shuffled version) ∧
    ∀ more version, Resolves offered version →
      (∃ fault, latestOf (offered ++ more) = .error fault) ∨
        ∃ later, Resolves (offered ++ more) later ∧ version.rank ≤ later.rank := by
  refine ⟨exists_latestOf_eq_error_iff, ?_, ?_, ?_, ?_, ?_⟩
  · rintro rfl
    exact latestOf_nil
  · exact fun hoffered fault => latestOf_eq_error_iff hoffered
  · exact fun latest => latestOf_eq_ok_iff
  · exact fun shuffled hperm version => resolves_perm hperm
  · exact fun more version hresolves => hresolves.append more

/-- Versions that are written in several ways, and one that is out of the order of texts. -/
def oddOffer : List RemoteVersion := [⟨"1.9"⟩, ⟨"+1.30"⟩, ⟨"01.30"⟩, ⟨"1.29"⟩]

/-- The first way of writing the greatest version is the one that comes out, and behind an entry
that is none nothing does. -/
theorem odd_offer_latest :
    oddOffer ≠ [] ∧ oddOffer.Perm oddOffer.reverse ∧ Resolves oddOffer ⟨1, 30⟩ ∧
      latestOf oddOffer = .ok ⟨"+1.30"⟩ ∧ Resolves oddOffer.reverse ⟨1, 30⟩ ∧
      ((∃ fault, latestOf (oddOffer ++ [⟨"1.30-lke"⟩]) = .error fault) ∨
        ∃ later, Resolves (oddOffer ++ [⟨"1.30-lke"⟩]) later ∧ rank ⟨1, 30⟩ ≤ later.rank) := by
  have hlatest : latestOf oddOffer = .ok ⟨"+1.30"⟩ := by decide +kernel
  have hresolves : Resolves oddOffer ⟨1, 30⟩ := ⟨⟨"+1.30"⟩, hlatest, by decide +kernel⟩
  have hperm : oddOffer.Perm oddOffer.reverse := (List.reverse_perm oddOffer).symm
  obtain ⟨-, -, -, -, hshuffled, hmore⟩ := latest_of_offer oddOffer
  exact ⟨by decide, hperm, hresolves, hlatest, (hshuffled _ hperm _).mp hresolves,
    hmore [⟨"1.30-lke"⟩] _ hresolves⟩

end ClusterKeeper.Version
