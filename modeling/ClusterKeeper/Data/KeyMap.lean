/-!
Finite maps from names to values, kept in ascending code point order of the names.

The order is part of the type, so a map has one representation: two maps with the same lookups
are equal (`KeyMap.ext`), equality is decidable, and walking a map visits its names in order.
-/

namespace ClusterKeeper

/-- A map from names to values, as a list of entries with strictly ascending names. -/
structure KeyMap (α : Type) where
  entries : List (String × α)
  ascending : entries.Pairwise fun a b => a.1 < b.1

namespace KeyMap

variable {α β : Type}

/-! ### Entry lists -/

/-- The value beside the first entry of that name. -/
def lookupIn (key : String) : List (String × α) → Option α
  | [] => none
  | (name, value) :: rest => if name = key then some value else lookupIn key rest

/-- Puts an entry at its place in an ascending list; an entry of the same name gives way. -/
def insertIn (key : String) (value : α) : List (String × α) → List (String × α)
  | [] => [(key, value)]
  | (name, old) :: rest =>
      if key < name then (key, value) :: (name, old) :: rest
      else if key = name then (key, value) :: rest
      else (name, old) :: insertIn key value rest

theorem lookupIn_insertIn (key other : String) (value : α) (entries : List (String × α)) :
    lookupIn other (insertIn key value entries) =
      if key = other then some value else lookupIn other entries := by
  induction entries with
  | nil => simp [insertIn, lookupIn]
  | cons head rest ih =>
      obtain ⟨name, old⟩ := head
      by_cases hlt : key < name
      · simp [insertIn, lookupIn, hlt]
      · by_cases heq : key = name
        · subst heq
          by_cases hother : key = other <;> simp [insertIn, lookupIn, hother]
        · by_cases hname : name = other
          · subst hname
            simp [insertIn, lookupIn, hlt, heq]
          · simp [insertIn, lookupIn, hlt, heq, hname, ih]

theorem mem_insertIn {key : String} {value : α} {entry : String × α}
    {entries : List (String × α)} (h : entry ∈ insertIn key value entries) :
    entry = (key, value) ∨ entry ∈ entries := by
  induction entries with
  | nil => simpa [insertIn] using h
  | cons head rest ih =>
      obtain ⟨name, old⟩ := head
      unfold insertIn at h
      split at h
      · simpa using h
      · split at h
        · simp only [List.mem_cons] at h ⊢
          exact h.imp_right Or.inr
        · simp only [List.mem_cons] at h ⊢
          rcases h with h | h
          · exact Or.inr (Or.inl h)
          · exact (ih h).imp_right Or.inr

theorem insertIn_ascending (key : String) (value : α) {entries : List (String × α)}
    (h : entries.Pairwise fun a b => a.1 < b.1) :
    (insertIn key value entries).Pairwise fun a b => a.1 < b.1 := by
  induction entries with
  | nil => simp [insertIn]
  | cons head rest ih =>
      obtain ⟨name, old⟩ := head
      have hrest := List.pairwise_cons.mp h
      unfold insertIn
      split
      · next hlt =>
          refine List.pairwise_cons.mpr ⟨fun entry hmem => ?_, h⟩
          rcases List.mem_cons.mp hmem with rfl | hmem
          · exact hlt
          · exact String.lt_trans hlt (hrest.1 entry hmem)
      · split
        · next heq =>
            subst heq
            exact List.pairwise_cons.mpr hrest
        · next hnlt hne =>
            refine List.pairwise_cons.mpr ⟨fun entry hmem => ?_, ih hrest.2⟩
            rcases mem_insertIn hmem with rfl | hmem
            · exact (String.le_total key name).elim
                (fun hle => absurd (String.le_antisymm hle (String.not_lt.mp hnlt)) hne)
                (fun hle => Decidable.byContradiction fun hn =>
                  hne (String.le_antisymm (String.not_lt.mp hn) hle))
            · exact hrest.1 entry hmem

theorem lookupIn_eq_none {key : String} {entries : List (String × α)}
    (h : ∀ entry ∈ entries, key < entry.1) : lookupIn key entries = none := by
  induction entries with
  | nil => rfl
  | cons head rest ih =>
      have hne : head.1 ≠ key := fun heq =>
        String.lt_irrefl key (heq ▸ h head List.mem_cons_self)
      simp [lookupIn, hne, ih fun entry hmem => h entry (List.mem_cons_of_mem _ hmem)]

/-- Ascending lists with the same lookups are the same list. -/
theorem eq_of_lookupIn_eq {left right : List (String × α)}
    (hleft : left.Pairwise fun a b => a.1 < b.1) (hright : right.Pairwise fun a b => a.1 < b.1)
    (h : ∀ key, lookupIn key left = lookupIn key right) : left = right := by
  induction left generalizing right with
  | nil =>
      cases right with
      | nil => rfl
      | cons head rest => simpa [lookupIn] using h head.1
  | cons head rest ih =>
      cases right with
      | nil => simpa [lookupIn] using h head.1
      | cons head' rest' =>
          obtain ⟨name, value⟩ := head
          obtain ⟨name', value'⟩ := head'
          have hl := List.pairwise_cons.mp hleft
          have hr := List.pairwise_cons.mp hright
          have hnames : name = name' := by
            refine Decidable.byContradiction fun hne => ?_
            by_cases hlt : name < name'
            · have hnone : lookupIn name ((name', value') :: rest') = none :=
                lookupIn_eq_none fun entry hmem => by
                  rcases List.mem_cons.mp hmem with rfl | hmem
                  · exact hlt
                  · exact String.lt_trans hlt (hr.1 entry hmem)
              have := h name
              rw [hnone] at this
              simp [lookupIn] at this
            · have hlt' : name' < name := Decidable.byContradiction fun hn =>
                hne (String.le_antisymm (String.not_lt.mp hn) (String.not_lt.mp hlt))
              have hnone : lookupIn name' ((name, value) :: rest) = none :=
                lookupIn_eq_none fun entry hmem => by
                  rcases List.mem_cons.mp hmem with rfl | hmem
                  · exact hlt'
                  · exact String.lt_trans hlt' (hl.1 entry hmem)
              have := h name'
              rw [hnone] at this
              simp [lookupIn] at this
          subst hnames
          have hvalue : value = value' := by simpa [lookupIn] using h name
          subst hvalue
          have htail : rest = rest' := ih hl.2 hr.2 fun key => by
            by_cases hkey : name = key
            · subst hkey
              rw [lookupIn_eq_none hl.1, lookupIn_eq_none hr.1]
            · simpa [lookupIn, hkey] using h key
          rw [htail]

/-! ### Maps -/

/-- The map without entries. -/
def empty : KeyMap α := ⟨[], List.Pairwise.nil⟩

instance : Inhabited (KeyMap α) := ⟨empty⟩

instance : EmptyCollection (KeyMap α) := ⟨empty⟩

/-- The value of a name. -/
def get? (map : KeyMap α) (key : String) : Option α := lookupIn key map.entries

/-- Sets the value of a name. -/
def insert (map : KeyMap α) (key : String) (value : α) : KeyMap α :=
  ⟨insertIn key value map.entries, insertIn_ascending key value map.ascending⟩

/-- Whether the name has a value. -/
def contains (map : KeyMap α) (key : String) : Bool := (map.get? key).isSome

/-- Whether there are no entries. -/
def isEmpty (map : KeyMap α) : Bool := map.entries.isEmpty

/-- The number of entries. -/
def size (map : KeyMap α) : Nat := map.entries.length

/-- The names, in order. -/
def keys (map : KeyMap α) : List String := map.entries.map (·.1)

/-- Of several values for one name the last is kept. -/
def ofList (entries : List (String × α)) : KeyMap α :=
  entries.foldl (fun map entry => map.insert entry.1 entry.2) empty

/-- Changes each value, seeing its name. -/
def mapWithKey (f : String → α → β) (map : KeyMap α) : KeyMap β :=
  ⟨map.entries.map fun entry => (entry.1, f entry.1 entry.2), by
    simpa [List.pairwise_map] using map.ascending⟩

/-- Changes each value. -/
def map (f : α → β) (m : KeyMap α) : KeyMap β := m.mapWithKey fun _ => f

/-- Keeps the entries that the function maps to a value. -/
def filterMap (f : String → α → Option β) (map : KeyMap α) : KeyMap β :=
  ⟨map.entries.filterMap fun entry => (f entry.1 entry.2).map (entry.1, ·), by
    refine List.Pairwise.filterMap _ (fun a b hab x hx y hy => ?_) map.ascending
    simp only [Option.map_eq_some_iff] at hx hy
    obtain ⟨_, _, rfl⟩ := hx
    obtain ⟨_, _, rfl⟩ := hy
    exact hab⟩

/-- Keeps the entries that pass the test. -/
def filter (keep : String → α → Bool) (map : KeyMap α) : KeyMap α :=
  ⟨map.entries.filter fun entry => keep entry.1 entry.2, map.ascending.filter _⟩

/-- Takes a name out of the map. -/
def erase (map : KeyMap α) (key : String) : KeyMap α := map.filter fun name _ => name != key

instance [DecidableEq α] : DecidableEq (KeyMap α) := fun a b =>
  if h : a.entries = b.entries then
    isTrue (by cases a; cases b; simpa using h)
  else
    isFalse fun heq => h (congrArg entries heq)

instance [Repr α] : Repr (KeyMap α) := ⟨fun map prec => reprPrec map.entries prec⟩

/-- Two maps with the same lookups are equal. -/
@[ext] theorem ext {a b : KeyMap α} (h : ∀ key, a.get? key = b.get? key) : a = b := by
  have := eq_of_lookupIn_eq a.ascending b.ascending h
  cases a
  cases b
  simpa using this

@[simp] theorem get?_empty (key : String) : (empty : KeyMap α).get? key = none := rfl

theorem get?_insert (map : KeyMap α) (key other : String) (value : α) :
    (map.insert key value).get? other = if key = other then some value else map.get? other :=
  lookupIn_insertIn key other value map.entries

@[simp] theorem get?_insert_self (map : KeyMap α) (key : String) (value : α) :
    (map.insert key value).get? key = some value := by simp [get?_insert]

theorem lookupIn_map (f : String → α → β) (key : String) (entries : List (String × α)) :
    lookupIn key (entries.map fun entry => (entry.1, f entry.1 entry.2)) =
      (lookupIn key entries).map (f key) := by
  induction entries with
  | nil => rfl
  | cons head rest ih =>
      by_cases h : head.1 = key
      · simp [lookupIn, h]
      · simp [lookupIn, h, ih]

@[simp] theorem get?_mapWithKey (f : String → α → β) (map : KeyMap α) (key : String) :
    (map.mapWithKey f).get? key = (map.get? key).map (f key) :=
  lookupIn_map f key map.entries

@[simp] theorem get?_map (f : α → β) (map : KeyMap α) (key : String) :
    (map.map f).get? key = (map.get? key).map f :=
  get?_mapWithKey _ map key

theorem lookupIn_eq_some_iff {key : String} {value : α} {entries : List (String × α)}
    (h : entries.Pairwise fun a b => a.1 < b.1) :
    lookupIn key entries = some value ↔ (key, value) ∈ entries := by
  induction entries with
  | nil => simp [lookupIn]
  | cons head rest ih =>
      obtain ⟨name, old⟩ := head
      have hrest := List.pairwise_cons.mp h
      by_cases hname : name = key
      · subst hname
        have hnot : (name, value) ∉ rest := fun hmem =>
          String.lt_irrefl name (hrest.1 _ hmem)
        simp [lookupIn, hnot, eq_comm]
      · have hne : ¬(key = name ∧ value = old) := fun hand => hname hand.1.symm
        simp [lookupIn, hname, ih hrest.2, hne]

theorem get?_eq_some_iff {map : KeyMap α} {key : String} {value : α} :
    map.get? key = some value ↔ (key, value) ∈ map.entries :=
  lookupIn_eq_some_iff map.ascending

/-- What is found first is found at the least name where there is anything to be found. -/
theorem findSome?_entries_eq_some_iff {f : String × α → Option β} {map : KeyMap α} {b : β} :
    map.entries.findSome? f = some b ↔ ∃ key value, map.get? key = some value ∧
      f (key, value) = some b ∧
      ∀ other value', other < key → map.get? other = some value' → f (other, value') = none := by
  rw [List.findSome?_eq_some_iff]
  constructor
  · rintro ⟨before, ⟨key, value⟩, after, hentries, hfound, hbefore⟩
    have hmem : (key, value) ∈ map.entries := by simp [hentries]
    refine ⟨key, value, get?_eq_some_iff.mpr hmem, hfound, fun other value' hlt hother => ?_⟩
    have hother : (other, value') ∈ before ++ (key, value) :: after :=
      hentries ▸ get?_eq_some_iff.mp hother
    have hascending := hentries ▸ map.ascending
    rcases List.mem_append.mp hother with hother | hother
    · exact hbefore _ hother
    · rcases List.mem_cons.mp hother with heq | hother
      · cases heq
        exact absurd hlt (String.lt_irrefl _)
      · have hgt := (List.pairwise_cons.mp (List.pairwise_append.mp hascending).2.1).1 _ hother
        exact absurd (String.lt_trans hlt hgt) (String.lt_irrefl _)
  · rintro ⟨key, value, hmem, hfound, hbefore⟩
    obtain ⟨before, after, hentries⟩ := List.append_of_mem (get?_eq_some_iff.mp hmem)
    refine ⟨before, (key, value), after, hentries, hfound, fun entry hentry => ?_⟩
    have hascending := hentries ▸ map.ascending
    have hlt := (List.pairwise_append.mp hascending).2.2 entry hentry _ List.mem_cons_self
    exact hbefore entry.1 entry.2 hlt (get?_eq_some_iff.mpr (by simp [hentries, hentry]))

theorem get?_filterMap (f : String → α → Option β) (map : KeyMap α) (key : String) :
    (map.filterMap f).get? key = (map.get? key).bind (f key) := by
  apply Option.ext
  intro value
  rw [get?_eq_some_iff, Option.bind_eq_some_iff]
  constructor
  · intro hmem
    obtain ⟨⟨name, old⟩, hentry, heq⟩ := List.mem_filterMap.mp hmem
    obtain ⟨_, hvalue, heq⟩ := Option.map_eq_some_iff.mp heq
    cases heq
    exact ⟨old, get?_eq_some_iff.mpr hentry, hvalue⟩
  · intro hbind
    obtain ⟨old, hold, hvalue⟩ := hbind
    exact List.mem_filterMap.mpr ⟨(key, old), get?_eq_some_iff.mp hold, by simp [hvalue]⟩

theorem get?_filter (keep : String → α → Bool) (map : KeyMap α) (key : String) :
    (map.filter keep).get? key = (map.get? key).filter (keep key) := by
  apply Option.ext
  intro value
  have hmem : (key, value) ∈ (map.filter keep).entries ↔
      (key, value) ∈ map.entries ∧ keep key value = true := List.mem_filter
  rw [get?_eq_some_iff, hmem, ← get?_eq_some_iff, Option.filter_eq_some_iff]

theorem lookupIn_erase (key other : String) (entries : List (String × α)) :
    lookupIn other (entries.filter fun entry => entry.1 != key) =
      if key = other then none else lookupIn other entries := by
  induction entries with
  | nil => simp [lookupIn]
  | cons head rest ih =>
      obtain ⟨name, value⟩ := head
      by_cases hname : name = key
      · subst hname
        by_cases hother : name = other
        · subst hother
          simpa [lookupIn] using ih
        · simp [lookupIn, ih, hother]
      · by_cases hother : name = other
        · subst hother
          simp [lookupIn, hname, Ne.symm hname]
        · simp [lookupIn, hname, hother, ih]

theorem get?_erase (map : KeyMap α) (key other : String) :
    (map.erase key).get? other = if key = other then none else map.get? other :=
  lookupIn_erase key other map.entries

theorem contains_iff {map : KeyMap α} {key : String} :
    map.contains key = true ↔ ∃ value, map.get? key = some value := by
  simp [contains, Option.isSome_iff_exists]

theorem mem_keys_iff {map : KeyMap α} {key : String} :
    key ∈ map.keys ↔ ∃ value, map.get? key = some value := by
  simp [keys, get?_eq_some_iff]

theorem isEmpty_iff {map : KeyMap α} : map.isEmpty = true ↔ ∀ key, map.get? key = none := by
  rw [isEmpty, List.isEmpty_iff]
  constructor
  · intro hnil key
    rw [get?, hnil]
    rfl
  · intro hnone
    apply List.eq_nil_iff_forall_not_mem.mpr
    intro entry hentry
    have hsome := get?_eq_some_iff.mpr hentry
    rw [hnone entry.1] at hsome
    cases hsome

theorem get?_foldl_insert {entries : List (String × α)} (h : (entries.map (·.1)).Nodup)
    (map : KeyMap α) (key : String) (value : α) :
    (entries.foldl (fun map entry => map.insert entry.1 entry.2) map).get? key = some value ↔
      (key, value) ∈ entries ∨ key ∉ entries.map (·.1) ∧ map.get? key = some value := by
  induction entries generalizing map with
  | nil => simp
  | cons head rest ih =>
      obtain ⟨name, first⟩ := head
      simp only [List.map_cons, List.nodup_cons] at h
      rw [List.foldl_cons, ih h.2, get?_insert]
      by_cases hname : name = key
      · subst hname
        have hnot : (name, value) ∉ rest := fun hmem => h.1 (List.mem_map_of_mem hmem)
        simp [h.1, hnot, eq_comm]
      · simp [hname, Ne.symm hname]

/-- In a list without repeated names every entry counts. -/
theorem get?_ofList {entries : List (String × α)} (h : (entries.map (·.1)).Nodup) {key : String}
    {value : α} : (ofList entries).get? key = some value ↔ (key, value) ∈ entries := by
  rw [ofList, get?_foldl_insert h]
  simp

/-- Whatever is looked up was in the list. -/
theorem mem_of_get?_ofList {entries : List (String × α)} {key : String} {value : α}
    (h : (ofList entries).get? key = some value) : (key, value) ∈ entries := by
  have hfold : ∀ map : KeyMap α,
      (entries.foldl (fun map entry => map.insert entry.1 entry.2) map).get? key = some value →
        (key, value) ∈ entries ∨ map.get? key = some value := by
    clear h
    induction entries with
    | nil => exact fun map h => Or.inr h
    | cons head rest ih =>
        intro map h
        rcases ih (map.insert head.1 head.2) h with h | h
        · exact Or.inl (List.mem_cons_of_mem head h)
        · rw [get?_insert] at h
          by_cases hname : head.1 = key
          · rw [if_pos hname] at h
            cases h
            exact Or.inl (hname ▸ List.mem_cons_self)
          · rw [if_neg hname] at h
            exact Or.inr h
  simpa using hfold empty h

theorem keys_ascending (map : KeyMap α) : map.keys.Pairwise (· < ·) :=
  List.pairwise_map.mpr map.ascending

theorem nodup_keys (map : KeyMap α) : map.keys.Nodup := by
  apply map.keys_ascending.imp
  intro first second hlt heq
  rw [heq] at hlt
  exact String.lt_irrefl _ hlt

theorem mem_keys_insert {map : KeyMap α} {key other : String} {value : α} :
    other ∈ (map.insert key value).keys ↔ other = key ∨ other ∈ map.keys := by
  rw [mem_keys_iff, mem_keys_iff, get?_insert]
  by_cases hkey : key = other
  · simp [hkey]
  · simp [hkey, Ne.symm hkey]

/-- The names of a map that is made from a list are the names in the list. -/
theorem mem_keys_ofList {entries : List (String × α)} {key : String} :
    key ∈ (ofList entries).keys ↔ key ∈ entries.map (·.1) := by
  have hfold : ∀ map : KeyMap α,
      key ∈ (entries.foldl (fun map entry => map.insert entry.1 entry.2) map).keys ↔
        key ∈ entries.map (·.1) ∨ key ∈ map.keys := by
    induction entries with
    | nil => simp
    | cons head rest ih =>
        intro map
        rw [List.foldl_cons, ih, mem_keys_insert, List.map_cons, List.mem_cons]
        exact or_left_comm.trans or_assoc.symm
  have hempty : key ∉ (empty : KeyMap α).keys := List.not_mem_nil
  rw [ofList, hfold, or_iff_left hempty]

/-- A map is read back from its entries. -/
theorem ofList_entries (map : KeyMap α) : ofList map.entries = map := by
  apply ext
  intro key
  apply Option.ext
  intro value
  rw [get?_ofList map.nodup_keys, get?_eq_some_iff]

end KeyMap

end ClusterKeeper
