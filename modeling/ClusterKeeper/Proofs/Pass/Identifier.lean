import ClusterKeeper.Proofs.Pass.Courses
import ClusterKeeper.Proofs.Pass.Custody
/-!
The identifier on record.

A pass asks for at most one new cluster, and only where none is on record or the provider denied
that it knows the one that is; a pass that does so changes nothing else. What it writes has the
identifier that was on record, or that of the cluster that was accepted. Over any number of passes
an identifier is therefore never cleared, and it is replaced only by a successor.
-/

namespace ClusterKeeper

variable {σ : Type} {cluster : ClusterDeclaration} {exchanges : List Exchange}
  {recorded : Option ClusterId}

namespace Call

/-- The call changes a remote cluster or its pools, or deletes it. -/
def IsMutation : Call → Prop
  | updateCluster .. | deleteCluster _ | createPool .. | updatePool .. | deletePool .. => True
  | _ => False

theorem IsPreliminary.not_isMutation {c : Call} (h : c.IsPreliminary) : ¬ c.IsMutation := by
  cases c <;> first | exact id | exact h.elim

theorem FollowsUp.not_isMutation {id : ClusterId} {c : Call} (h : c.FollowsUp id) :
    ¬ c.IsMutation := by
  cases c <;> first | exact fun hmutation => hmutation | exact h.elim

theorem not_isMutation_of_createsCluster {c : Call} (h : c.createsCluster = true) :
    ¬ c.IsMutation := by
  cases c <;> first | exact id | cases h

end Call

/-- The status is written, to whatever resource. -/
def Exchange.Writes (e : Exchange) (status : ClusterStatus) : Prop :=
  ∃ inNamespace name, e.call = .patchStatus inNamespace name status

/-- How the exchanges of a pass treat the identifier on record. -/
structure KeepsIdentifier (recorded : Option ClusterId) (exchanges : List Exchange) : Prop where
  once : exchanges.countP (fun e => e.call.createsCluster) ≤ 1
  /-- A new cluster is asked for only where none is left. -/
  vacant : ∀ before e after, exchanges = before ++ e :: after → e.call.createsCluster = true →
    ∀ id, recorded = some id → ∃ x ∈ before, x.Denies id
  /-- A pass that asks for a new cluster changes no other. -/
  alone : ∀ e ∈ exchanges, e.call.createsCluster = true → ∀ x ∈ exchanges, ¬ x.call.IsMutation
  /-- Until a cluster is accepted the identifier on record is written. -/
  retained : ∀ before e after status, exchanges = before ++ e :: after → e.Writes status →
    (∀ x ∈ before, ∀ remote, ¬ x.Accepts remote) → status.clusterId = recorded
  /-- Once a cluster is accepted its identifier is written. -/
  renewed : ∀ before e after status, exchanges = before ++ e :: after → e.Writes status →
    ∀ x ∈ before, ∀ remote, x.Accepts remote → status.clusterId = some remote.id

theorem Exchange.Writes.clusterId_of_retains {e : Exchange} {status : ClusterStatus}
    (h : e.Writes status) (hcall : e.call.Retains recorded) : status.clusterId = recorded := by
  obtain ⟨inNamespace, name, heq⟩ := h
  rw [heq] at hcall
  exact hcall

theorem Exchange.Writes.clusterId_of_followsUp {e : Exchange} {status : ClusterStatus}
    {id : ClusterId} (h : e.Writes status) (hcall : e.call.FollowsUp id) :
    status.clusterId = some id := by
  obtain ⟨inNamespace, name, heq⟩ := h
  rw [heq] at hcall
  exact hcall

/-- Where no cluster is asked for, the identifier on record is kept. -/
theorem keepsIdentifier_of_retains (h : ∀ e ∈ exchanges, e.call.Retains recorded) :
    KeepsIdentifier recorded exchanges := by
  have hnone : ∀ e ∈ exchanges, e.call.createsCluster = false :=
    fun e he => (h e he).createsCluster
  have hasked : ∀ e ∈ exchanges, ¬ e.call.createsCluster = true := by
    intro e he
    rw [hnone e he]
    exact Bool.false_ne_true
  constructor
  · rw [List.countP_eq_zero.mpr hasked]
    exact Nat.zero_le 1
  · rintro before e after rfl hcreates
    exact absurd hcreates (hasked e (List.mem_append_right _ List.mem_cons_self))
  · intro e he hcreates
    exact absurd hcreates (hasked e he)
  · rintro before e after status rfl hwrites _
    exact hwrites.clusterId_of_retains (h e (List.mem_append_right _ List.mem_cons_self))
  · rintro before e after status rfl _ x hx remote haccepts
    exact absurd haccepts.createsCluster (hasked x (List.mem_append_left _ hx))

/-- What is found at another place than the first of its kind comes after that. -/
theorem mem_of_append_cons_eq {α : Type} {before after before' after' : List α} {x y : α}
    (h : before ++ x :: after = before' ++ y :: after') (hy : y ∉ before) (hne : x ≠ y) :
    x ∈ before' ∧ y ∈ after := by
  rcases List.append_eq_append_iff.mp h with ⟨between, rfl, hafter⟩ | ⟨between, rfl, hafter⟩
  · cases between with
    | nil => exact absurd (List.head_eq_of_cons_eq hafter) hne
    | cons z between =>
        obtain ⟨rfl, rfl⟩ := List.cons.inj hafter
        exact ⟨List.mem_append_right _ List.mem_cons_self,
          List.mem_append_right _ List.mem_cons_self⟩
  · cases between with
    | nil => exact absurd (List.head_eq_of_cons_eq hafter).symm hne
    | cons z between =>
        obtain ⟨rfl, _⟩ := List.cons.inj hafter
        exact absurd (List.mem_append_right _ List.mem_cons_self) hy

/-- What is done after a new cluster was asked for changes none, and it writes the identifier of the
cluster if that was accepted, and the one on record otherwise. -/
theorem Outcome.calls {ending : PassEnd} {e : Exchange} {after : List Exchange}
    (h : Outcome cluster ending e after) :
    (∀ x ∈ after, ¬ x.call.IsMutation) ∧
      ((∀ remote, ¬ e.Accepts remote) →
        ∀ x ∈ after, x.call.Retains cluster.currentStatus.clusterId) ∧
      ∀ remote, e.Accepts remote → ∀ x ∈ after, x.call.FollowsUp remote.id := by
  cases h with
  | fruitless hnone hconclusion =>
      have hwrites := hconclusion.writes
      refine ⟨fun x hx => ?_, fun _ x hx => ?_, fun remote haccepts => ?_⟩
      · obtain ⟨status, response, rfl, _⟩ := hwrites x hx
        exact id
      · obtain ⟨status, response, rfl, hid⟩ := hwrites x hx
        exact hid
      · exact absurd haccepts (hnone remote)
  | fruitful haccepts haftermath hconclusion =>
      have hfollows := List.forall_mem_append.mpr ⟨haftermath.followsUp rfl,
        hconclusion.followsUp (haftermath.clusterId rfl)⟩
      refine ⟨fun x hx => (hfollows x hx).not_isMutation, fun hnone => ?_, fun other hother => ?_⟩
      · exact absurd haccepts (hnone _)
      · rw [← haccepts.unique hother]
        exact hfollows

/-- A pass that asks for a new cluster keeps the identifier on record until one is accepted. -/
theorem CreatingPass.keepsIdentifier {ending : PassEnd} (h : CreatingPass cluster ending exchanges) :
    KeepsIdentifier cluster.currentStatus.clusterId exchanges := by
  obtain ⟨before, e, after, rfl, hpoised, hcreates, houtcome⟩ := h.split
  obtain ⟨hmutation, hfruitless, hfruitful⟩ := houtcome.calls
  have hbefore : ∀ x ∈ before, x.call.createsCluster = false :=
    fun x hx => (hpoised.preliminary x hx).createsCluster
  have hnot : ∀ {x : Exchange} {status : ClusterStatus}, x.Writes status → x ∉ before ∧ e ≠ x := by
    rintro x status ⟨inNamespace, name, hcall⟩
    refine ⟨fun hx => ?_, ?_⟩
    · have hpreliminary := hpoised.preliminary x hx
      rw [hcall] at hpreliminary
      exact hpreliminary
    · rintro rfl
      rw [hcall] at hcreates
      cases hcreates
  constructor
  · rw [List.countP_append, List.countP_cons, List.countP_eq_zero.mpr, List.countP_eq_zero.mpr]
    · split <;> simp
    · intro x hx
      simp [houtcome.createsCluster x hx]
    · intro x hx
      simp [hbefore x hx]
  · intro before' e' after' hsplit hcreates' id hid
    obtain ⟨rfl, _, _⟩ := hpoised.creation_unique houtcome hsplit hcreates'
    exact hpoised.vacant id hid
  · intro _ _ _ x hx
    rcases List.mem_append.mp hx with hx | hx
    · exact (hpoised.preliminary x hx).not_isMutation
    · rcases List.mem_cons.mp hx with rfl | hx
      · exact Call.not_isMutation_of_createsCluster hcreates
      · exact hmutation x hx
  · intro before' x after' status hsplit hwrites hnone
    obtain ⟨hmem, hne⟩ := hnot hwrites
    obtain ⟨he, hx⟩ := mem_of_append_cons_eq hsplit hmem hne
    exact hwrites.clusterId_of_retains (hfruitless (hnone e he) x hx)
  · intro before' x after' status hsplit hwrites y hy remote haccepts
    obtain ⟨hmem, hne⟩ := hnot hwrites
    obtain ⟨_, hx⟩ := mem_of_append_cons_eq hsplit hmem hne
    obtain ⟨first, second, rfl⟩ := List.append_of_mem hy
    rw [List.append_assoc] at hsplit
    obtain ⟨_, rfl, _⟩ := hpoised.creation_unique houtcome hsplit haccepts.createsCluster
    exact hwrites.clusterId_of_followsUp (hfruitful remote haccepts x hx)

theorem HasCourse.keepsIdentifier {ending : PassEnd} {scene : Scene σ}
    (h : HasCourse cluster ending scene) :
    KeepsIdentifier cluster.currentStatus.clusterId scene.exchanges := by
  rcases h with hretained | hcreating
  · exact keepsIdentifier_of_retains hretained.calls
  · exact hcreating.keepsIdentifier

/-- What a pass may leave on record: the identifier that it found there, or one that it wrote. -/
def Leaves (recorded : Option ClusterId) (exchanges : List Exchange) (next : Option ClusterId) :
    Prop :=
  next = recorded ∨ ∃ e ∈ exchanges, ∃ status, e.Writes status ∧ next = status.clusterId

/-- The provider denied that it knows a cluster, and then accepted another one. -/
def Replaces (exchanges : List Exchange) (old new : ClusterId) : Prop :=
  ∃ before denial between acceptance after remote,
    exchanges = before ++ denial :: (between ++ acceptance :: after) ∧
    denial.Denies old ∧ acceptance.Accepts remote ∧ remote.id = new

/-- A pass leaves an identifier on record as it was, or replaced it. -/
theorem KeepsIdentifier.leaves {old : ClusterId} {next : Option ClusterId}
    (h : KeepsIdentifier (some old) exchanges) (hleaves : Leaves (some old) exchanges next) :
    next = some old ∨ ∃ new, next = some new ∧ Replaces exchanges old new := by
  rcases hleaves with rfl | ⟨e, he, status, hwrites, rfl⟩
  · exact Or.inl rfl
  · obtain ⟨before, after, hsplit⟩ := List.append_of_mem he
    by_cases hnone : ∀ x ∈ before, ∀ remote, ¬ x.Accepts remote
    · exact Or.inl (h.retained before e after status hsplit hwrites hnone)
    · push Not at hnone
      obtain ⟨x, hx, remote, haccepts⟩ := hnone
      -- The creation was asked for where none was left, so the denial is before it.
      refine Or.inr ⟨remote.id, h.renewed before e after status hsplit hwrites x hx remote haccepts,
        ?_⟩
      obtain ⟨earlier, between, rfl⟩ := List.append_of_mem hx
      have hcreation : exchanges = earlier ++ x :: (between ++ e :: after) := by
        rw [hsplit, List.append_assoc]
        rfl
      obtain ⟨denial, hmem, hdenies⟩ :=
        h.vacant earlier x _ hcreation haccepts.createsCluster old rfl
      obtain ⟨first, second, rfl⟩ := List.append_of_mem hmem
      refine ⟨first, denial, second, x, between ++ e :: after, remote, ?_, hdenies, haccepts, rfl⟩
      rw [hcreation, List.append_assoc]
      rfl

/-- The exchanges of passes over a resource, one pass after the other, from one identifier on record
to another. Between passes anything else about the resource may change. -/
inductive History (recorded : Option ClusterId) :
    List (List Exchange) → Option ClusterId → Prop where
  | start : History recorded [] recorded
  | pass {σ : Type} (world : World σ) (settings : Settings) (cluster : ClusterDeclaration)
      (cancelled : Bool) (memory : ClusterStatus) (state : σ) {passes next} :
      History recorded passes cluster.currentStatus.clusterId →
      Leaves cluster.currentStatus.clusterId
        (world.run (reconcile settings cluster) (.start cancelled memory state)).2.exchanges next →
      History recorded (passes ++
        [(world.run (reconcile settings cluster) (.start cancelled memory state)).2.exchanges]) next

/-- How one identifier came after another in a history: by passes that left it as it was, and passes
that replaced it. -/
inductive Succession (first : ClusterId) : List (List Exchange) → ClusterId → Prop where
  | start : Succession first [] first
  | kept {passes id} (exchanges : List Exchange) : Succession first passes id →
      Succession first (passes ++ [exchanges]) id
  | replaced {passes old new exchanges} : Succession first passes old →
      Replaces exchanges old new → Succession first (passes ++ [exchanges]) new

theorem History.succession {first : ClusterId} {passes : List (List Exchange)}
    {last : Option ClusterId} (h : History (some first) passes last) :
    ∃ id, last = some id ∧ Succession first passes id := by
  induction h with
  | start => exact ⟨first, rfl, .start⟩
  | pass world settings cluster cancelled memory state _ hleaves ih =>
      obtain ⟨old, hold, hsuccession⟩ := ih
      have hkeeps := (hasCourse_of_pass world settings cluster cancelled memory
        state).keepsIdentifier
      rw [hold] at hkeeps hleaves
      rcases hkeeps.leaves hleaves with rfl | ⟨new, rfl, hreplaces⟩
      · exact ⟨old, rfl, hsuccession.kept _⟩
      · exact ⟨new, rfl, hsuccession.replaced hreplaces⟩

/-- Every pass keeps to the discipline of the identifier on record. Over any number of passes, an
identifier is never cleared, and replaced only after the provider denied that it knows the cluster
and accepted a new one. -/
theorem identifier_replaced_only_when_denied :
    (∀ {σ : Type} (world : World σ) (settings : Settings) (cluster : ClusterDeclaration)
      (cancelled : Bool) (memory : ClusterStatus) (state : σ),
      KeepsIdentifier cluster.currentStatus.clusterId
        (world.run (reconcile settings cluster) (.start cancelled memory state)).2.exchanges) ∧
    ∀ first passes last, History (some first) passes last →
      ∃ id, last = some id ∧ Succession first passes id := by
  constructor
  · intro σ world settings cluster cancelled memory state
    exact (hasCourse_of_pass world settings cluster cancelled memory state).keepsIdentifier
  · intro first passes last hhistory
    exact hhistory.succession

/-- A declaration whose cluster is on record. -/
def lostWorkshop : ClusterDeclaration :=
  workshop.withStatus { ClusterStatus.blank with clusterId := some 41 }

/-- What a pass over it does where that cluster is gone. -/
def lostWorkshopPass : List Exchange :=
  (plainWorld.run (reconcile Settings.standard lostWorkshop)
    (.start false .blank ⟨lostWorkshop, [], []⟩)).2.exchanges

/-- The cluster is replaced by another one. -/
theorem lost_workshop_replaced :
    History (some 41) [lostWorkshopPass] (some 42) ∧ Succession 41 [lostWorkshopPass] 42 := by
  obtain ⟨before, after, hsplit⟩ : ∃ before after, lostWorkshopPass = before ++
      .writing lostWorkshop (lostWorkshop.currentStatus.withCreated 42) (promptly (.ok ())) ::
        after := ⟨[_, _, _], _, rfl⟩
  have hwritten : ∃ e ∈ lostWorkshopPass, ∃ status, e.Writes status ∧
      some 42 = status.clusterId := by
    rw [hsplit]
    exact ⟨_, List.mem_append_right _ List.mem_cons_self, _, ⟨_, _, rfl⟩, rfl⟩
  have hhistory : History (some 41) [lostWorkshopPass] (some 42) :=
    History.pass plainWorld Settings.standard lostWorkshop false .blank ⟨lostWorkshop, [], []⟩
      .start (Or.inr hwritten)
  obtain ⟨id, hid, hsuccession⟩ := identifier_replaced_only_when_denied.2 41 _ _ hhistory
  cases hid
  exact ⟨hhistory, hsuccession⟩

end ClusterKeeper
