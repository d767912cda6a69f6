import Mathlib.Data.List.Induction
import ClusterKeeper.Proofs.Pass.Tally
/-!
What failure counts count.

The count of a resource is the number of its failures since its last success, up to the largest
number that a count can hold. A pass is a success where the attempt that it made came to an end
without a fault; of a resource with nothing left to delete the finalizer has to be taken off too.
Occurrences of other resources change nothing, as keys tell resources apart where no namespace has a
slash in it.
-/

namespace ClusterKeeper

variable {σ : Type} {conduct : Conduct σ} {settings : Settings}
  {cluster other : ClusterDeclaration} {scene : Scene σ} {history : List Occurrence}
  {occurrence : Occurrence}

/-- A resource: its namespace and its name. -/
abbrev Resource : Type := String × String

/-- The resource that is declared. -/
def ClusterDeclaration.resource (cluster : ClusterDeclaration) : Resource :=
  (cluster.inNamespace, cluster.name)

/-- The namespace of the resource has no slash in it. -/
def ClusterDeclaration.HasPlainNamespace (cluster : ClusterDeclaration) : Prop :=
  '/' ∉ cluster.inNamespace.toList

instance : Decidable cluster.HasPlainNamespace :=
  inferInstanceAs (Decidable ('/' ∉ cluster.inNamespace.toList))

/-- What stands before the slash of a key is the namespace. -/
theorem ClusterDeclaration.takeWhile_key (h : cluster.HasPlainNamespace) :
    cluster.key.toList.takeWhile (· != '/') = cluster.inNamespace.toList := by
  have hkey : cluster.key.toList = cluster.inNamespace.toList ++ '/' :: cluster.name.toList := by
    simp [key]
  have hpos : ∀ c ∈ cluster.inNamespace.toList, (c != '/') = true := by
    intro c hc
    rw [bne_iff_ne]
    rintro rfl
    exact h hc
  rw [hkey, List.takeWhile_append_of_pos hpos, List.takeWhile_cons_of_neg (by simp),
    List.append_nil]

theorem ClusterDeclaration.key_eq_iff (h : cluster.HasPlainNamespace)
    (hother : other.HasPlainNamespace) :
    cluster.key = other.key ↔ cluster.resource = other.resource := by
  constructor
  · intro hkey
    have hnamespace : cluster.inNamespace = other.inNamespace := by
      apply String.toList_injective
      rw [← takeWhile_key h, hkey, takeWhile_key hother]
    have hname : cluster.name = other.name := by
      rw [key, key, hnamespace] at hkey
      apply String.toList_injective
      have hchars := congrArg String.toList hkey
      simpa using hchars
    rw [resource, resource, hnamespace, hname]
  · intro hresource
    obtain ⟨hnamespace, hname⟩ := Prod.mk.inj hresource
    rw [key, key, hnamespace, hname]

/-- The API server takes the finalizer off. -/
def World.releases (world : World σ) (cluster : ClusterDeclaration) (scene : Scene σ) : Bool :=
  let reply : Except Fault Unit :=
    (world.run (Pass.call (.removeFinalizer cluster.inNamespace cluster.name)) scene).1
  reply.isOk

/-- The attempt of the pass came to an end without a fault, and if that left nothing of a resource
that is to be deleted the finalizer was taken off. -/
def World.succeeds (world : World σ) (cluster : ClusterDeclaration) (scene : Scene σ) : Bool :=
  let found := world.run (prepare cluster) (scene.recording cluster.currentStatus)
  let engaged := world.run (Attempt.engage cluster).run found.2
  found.1.isNone &&
    match engaged.1 with
    | .ok progress =>
        if cluster.isBeingDeleted = true ∧ progress = .settled then
          world.releases cluster engaged.2
        else true
    | .error _ => false

/-- A pass that ends before the provider is dealt with forgets no failures. -/
theorem ensures_prepare_unforgetful (cluster : ClusterDeclaration) (scene : Scene σ) :
    Pass.Ensures conduct (prepare cluster)
      (unlessEnded (fun _ => True) fun ending _ => ending.forgetsFailures = false) scene := by
  apply Pass.ensures_prepare
  · exact fun _ _ => rfl
  · intro _ _ _
    rw [Pass.ensures_releaseResource]
    intro response _ _
    cases (response.reply : Except Fault Unit) <;> rfl
  · exact fun _ _ _ _ => trivial
  · exact fun _ _ _ => Pass.Ensures.of_forall fun _ _ => rfl
  · exact fun _ _ => trivial
  · intro _ response _ _
    cases (response.reply : Except Fault Unit) with
    | error fault => exact rfl
    | ok _ => exact trivial

/-- The end of a pass, unless its last call failed. -/
def PassEnd.unlessFailed (ending : PassEnd) : Except Fault Unit → PassEnd
  | .ok () => ending
  | .error fault => .failed fault

theorem PassEnd.forgetsFailures_unlessFailed (action : Action) (reply : Except Fault Unit) :
    ((PassEnd.through action).unlessFailed reply).forgetsFailures = reply.isOk := by
  cases reply <;> rfl

theorem releaseResource_eq (cluster : ClusterDeclaration) (ending : PassEnd) :
    releaseResource cluster ending =
      Pass.call (.removeFinalizer cluster.inNamespace cluster.name) >>= fun reply =>
        return ending.unlessFailed reply := by
  refine congrArg (Pass.call (.removeFinalizer cluster.inNamespace cluster.name) >>= ·)
    (funext fun reply => ?_)
  cases (reply : Except Fault Unit) <;> rfl

theorem World.forgetsFailures_releaseResource (world : World σ) (action : Action) :
    (world.run (releaseResource cluster (.through action)) scene).1.forgetsFailures =
      world.releases cluster scene := by
  rw [releaseResource_eq, run_bind]
  exact PassEnd.forgetsFailures_unlessFailed action _

theorem World.forgetsFailures_wrapUp (world : World σ) (r : Except Fault Progress) :
    (world.run (wrapUp settings cluster r) scene).1.forgetsFailures =
      match r with
      | .ok progress =>
          if cluster.isBeingDeleted = true ∧ progress = .settled then world.releases cluster scene
          else true
      | .error _ => false := by
  cases r with
  | error fault =>
      rw [wrapUp, failPass, run_bind]
      rfl
  | ok progress =>
      dsimp only [wrapUp]
      split
      · exact world.forgetsFailures_releaseResource _
      · rfl

/-- Successes are the passes after which failures are forgotten. -/
theorem World.forgetsFailures_reconcile (world : World σ) (settings : Settings)
    (cluster : ClusterDeclaration) (scene : Scene σ) :
    (world.run (reconcile settings cluster) scene).1.forgetsFailures =
      world.succeeds cluster scene := by
  have hprepare := run_of_ensures (world.keeps_any id)
    (ensures_prepare_unforgetful cluster ((scene.recording cluster.currentStatus).through id))
  rw [World.succeeds]
  cases hfound : (world.run (prepare cluster) (scene.recording cluster.currentStatus)).1 with
  | some ending =>
      rw [hfound] at hprepare
      rw [run_reconcile]
      dsimp only
      rw [hfound]
      exact hprepare
  | none =>
      rw [run_reconcile_of_none _ _ _ _ hfound]
      exact world.forgetsFailures_wrapUp _

namespace Occurrence

/-- The resource that something occurs to. -/
def subject : Occurrence → ClusterDeclaration
  | pass _ _ cluster _ _ _ => cluster
  | failure cluster _ => cluster

/-- A successful pass over the resource. -/
def isSuccessOf (resource : Resource) : Occurrence → Bool
  | pass world _ cluster cancelled memory state =>
      cluster.resource == resource && world.succeeds cluster (.start cancelled memory state)
  | failure _ _ => false

/-- A failed pass over the resource that is responded to. One that was told to stop has not failed.
-/
def isFailureOf (resource : Resource) : Occurrence → Bool
  | pass .. => false
  | failure cluster fault => cluster.resource == resource && fault != .cancelled

end Occurrence

/-- How often the resource has failed since its last success, or since the beginning. -/
def failuresSince (resource : Resource) (history : List Occurrence) : Nat :=
  (history.reverse.takeWhile fun occurrence => !occurrence.isSuccessOf resource).countP
    (·.isFailureOf resource)

theorem failuresSince_snoc (resource : Resource) (history : List Occurrence)
    (occurrence : Occurrence) :
    failuresSince resource (history ++ [occurrence]) =
      if occurrence.isSuccessOf resource then 0
      else if occurrence.isFailureOf resource then failuresSince resource history + 1
      else failuresSince resource history := by
  rw [failuresSince, failuresSince, List.reverse_append, List.reverse_singleton,
    List.singleton_append]
  cases hsuccess : occurrence.isSuccessOf resource with
  | true => simp [hsuccess]
  | false => cases hfailure : occurrence.isFailureOf resource <;> simp [hsuccess, hfailure]

/-- The largest number that a count can hold. -/
def greatestCount : Nat := 4294967295

theorem FailureCounts.toNat_next (n : UInt32) :
    (FailureCounts.next n).toNat = min (n.toNat + 1) greatestCount := by
  have hle : n.toNat ≤ greatestCount := Nat.le_of_lt_succ n.toNat_lt
  rw [next]
  split
  · next h =>
      rw [h]
      rfl
  · next h =>
      have hne : n.toNat ≠ greatestCount := fun heq => h (UInt32.toNat_inj.mp heq)
      have hsum : (n + 1).toNat = n.toNat + 1 := by
        rw [UInt32.toNat_add]
        exact Nat.mod_eq_of_lt (by simp only [greatestCount, UInt32.toNat_one] at *; omega)
      rw [hsum, Nat.min_eq_left (by omega)]

/-- What a single occurrence does to the count of a resource. -/
theorem FailureCounts.count_after (counts : FailureCounts) (h : cluster.HasPlainNamespace)
    (hother : occurrence.subject.HasPlainNamespace) :
    (counts.after occurrence).count cluster.key =
      if occurrence.isSuccessOf cluster.resource then 0
      else if occurrence.isFailureOf cluster.resource then next (counts.count cluster.key)
      else counts.count cluster.key := by
  have hkey := ClusterDeclaration.key_eq_iff hother h
  cases occurrence with
  | pass world settings other cancelled memory state =>
      simp only [FailureCounts.after, PassEnd.account, World.forgetsFailures_reconcile,
        Occurrence.isSuccessOf, Occurrence.isFailureOf]
      simp only [Occurrence.subject] at hkey
      by_cases hsucceeds : world.succeeds other (.start cancelled memory state) = true
      · simp [hsucceeds, count_reset, hkey]
      · simp [hsucceeds]
  | failure other fault =>
      simp only [FailureCounts.after, respondToFailure, Occurrence.isSuccessOf,
        Occurrence.isFailureOf]
      simp only [Occurrence.subject] at hkey
      by_cases hfault : fault = .cancelled
      · simp [hfault]
      · by_cases hsame : other.resource = cluster.resource
        · simp [hfault, count_fail, hsame, hkey.mpr hsame]
        · simp [hfault, count_fail, hkey, hsame]

/-- What occurs to another resource leaves the count alone. -/
theorem FailureCounts.count_after_of_ne (counts : FailureCounts) (h : cluster.HasPlainNamespace)
    (hother : occurrence.subject.HasPlainNamespace)
    (hne : occurrence.subject.resource ≠ cluster.resource) :
    (counts.after occurrence).count cluster.key = counts.count cluster.key := by
  rw [counts.count_after h hother]
  cases occurrence <;> simp_all [Occurrence.subject, Occurrence.isSuccessOf, Occurrence.isFailureOf]

/-- A count is the number of failures since the last success. -/
theorem toNat_count_tally (h : cluster.HasPlainNamespace)
    (hplain : ∀ occurrence ∈ history, occurrence.subject.HasPlainNamespace) :
    ((tally history).count cluster.key).toNat =
      min (failuresSince cluster.resource history) greatestCount := by
  induction history using List.reverseRecOn with
  | nil => rfl
  | append_singleton history occurrence ih =>
      obtain ⟨hhistory, hlast⟩ := List.forall_mem_append.mp hplain
      have hcount := ih hhistory
      rw [tally_snoc, failuresSince_snoc,
        FailureCounts.count_after _ h (hlast occurrence (List.mem_singleton_self _))]
      split
      · rfl
      · split
        · rw [FailureCounts.toNat_next, hcount]
          omega
        · exact hcount

/-- After any history the count of a resource is the number of its failures since its last success,
as far as a count goes. Nothing that occurs to another resource changes it. The delay after one more
failure is the base delay for the count with that failure, with jitter, and there is none where the
pass was told to stop. -/
theorem counts_are_failures_since_success (history : List Occurrence)
    (cluster : ClusterDeclaration) (h : cluster.HasPlainNamespace)
    (hplain : ∀ occurrence ∈ history, occurrence.subject.HasPlainNamespace) :
    ((tally history).count cluster.key).toNat =
        min (failuresSince cluster.resource history) greatestCount ∧
      (∀ occurrence : Occurrence, occurrence.subject.HasPlainNamespace →
        occurrence.subject.resource ≠ cluster.resource →
        (tally (history ++ [occurrence])).count cluster.key = (tally history).count cluster.key) ∧
      ∀ (b : Backoff) (jitter : Binary64) (fault : Fault),
        let response := (respondToFailure (tally history) cluster.key fault).1
        let counted := (tally (history ++ [.failure cluster fault])).count cluster.key
        response.action? b jitter =
            (if fault = .cancelled then some .awaitChange
              else ((b.baseDelay? counted).bind fun base => b.jittered? base jitter).map
                .requeue) ∧
          (fault ≠ .cancelled → counted.toNat =
            min (failuresSince cluster.resource history + 1) greatestCount) := by
  have hcount := toNat_count_tally h hplain
  refine ⟨hcount, ?_, ?_⟩
  · intro occurrence hother hne
    rw [tally_snoc]
    exact FailureCounts.count_after_of_ne _ h hother hne
  · intro b jitter fault response counted
    have hcounted : counted = (respondToFailure (tally history) cluster.key fault).2.count
        cluster.key := by
      simp only [counted, tally_snoc]
      rfl
    by_cases hfault : fault = .cancelled
    · simp [response, respondToFailure, hfault, FailureResponse.action?]
    · have hnext : counted = FailureCounts.next ((tally history).count cluster.key) := by
        rw [hcounted]
        simp [respondToFailure, hfault, FailureCounts.count_fail]
      constructor
      · rw [hcounted]
        simp [response, respondToFailure, hfault, FailureResponse.action?, Backoff.drawn?]
      · intro _
        rw [hnext, FailureCounts.toNat_next, hcount]
        omega

/-- Another resource beside the workshop. -/
def foundry : ClusterDeclaration :=
  { workshop with metadata := { workshop.metadata with name := some "foundry" } }

/-- A pass over that resource that could not connect. -/
def foundryFailure : Occurrence := .failure foundry connectionFault

/-- The workshop fails, and is a success when its cluster turns out to be gone. After that it fails
twice more, and is told to stop once; the foundry fails in between. -/
def busyHistory : List Occurrence :=
  [workshopFailure, foundryFailure, vacantPass vanishedWorkshop, workshopFailure,
   .failure workshop .cancelled, foundryFailure, workshopFailure]

/-- After its third failure since the success the workshop waits twenty seconds, or thirty where
the jitter is largest. -/
theorem workshop_failures_counted :
    workshop.HasPlainNamespace ∧
      (∀ occurrence ∈ busyHistory, occurrence.subject.HasPlainNamespace) ∧
      failuresSince workshop.resource busyHistory = 2 ∧
      ((tally busyHistory).count workshop.key).toNat = 2 ∧
      foundry.resource ≠ workshop.resource ∧
      (tally (busyHistory ++ [foundryFailure])).count workshop.key =
        (tally busyHistory).count workshop.key ∧
      ((tally (busyHistory ++ [workshopFailure])).count workshop.key).toNat = 3 ∧
      Settings.standard.backoff.baseDelay? 3 = some (.ofSeconds 20) ∧
      (respondToFailure (tally busyHistory) workshop.key connectionFault).1.action?
        Settings.standard.backoff (.finite (3 / 2)) = some (.requeue (.ofSeconds 30)) := by
  have hplain : workshop.HasPlainNamespace := by decide +kernel
  have hhistory : ∀ occurrence ∈ busyHistory, occurrence.subject.HasPlainNamespace := by
    simp only [busyHistory, List.forall_mem_cons, List.not_mem_nil, false_implies, implies_true,
      and_true]
    exact ⟨hplain, hplain, hplain, hplain, hplain, hplain, hplain⟩
  have hfailures : failuresSince workshop.resource busyHistory = 2 := by decide +kernel
  have hne : foundry.resource ≠ workshop.resource := by decide +kernel
  obtain ⟨hcount, hother, hdelay⟩ :=
    counts_are_failures_since_success busyHistory workshop hplain hhistory
  have hfault : connectionFault ≠ .cancelled := by decide +kernel
  have hlast : Occurrence.failure workshop connectionFault = workshopFailure := rfl
  obtain ⟨haction, hnext⟩ := hdelay Settings.standard.backoff (.finite (3 / 2)) connectionFault
  have hthird := hnext hfault
  rw [hfailures] at hcount hthird
  have hcounted : (tally (busyHistory ++ [workshopFailure])).count workshop.key = 3 :=
    UInt32.toNat_inj.mp hthird
  have hbase : Settings.standard.backoff.baseDelay? 3 = some (.ofSeconds 20) := by decide +kernel
  have hdrawn : Settings.standard.backoff.jittered? (.ofSeconds 20) (.finite (3 / 2)) =
      some (.ofSeconds 30) := by decide +kernel
  rw [if_neg hfault] at haction
  rw [hlast, hcounted, hbase, Option.bind_some, hdrawn] at haction
  exact ⟨hplain, hhistory, hfailures, hcount, hne, hother foundryFailure hplain hne, hthird, hbase,
    haction⟩

end ClusterKeeper
