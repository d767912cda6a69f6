import ClusterKeeper.Pass.TearDown
import ClusterKeeper.Proofs.Pass.Interruption
/-!
The status on record and the status in memory.

An attempt changes the status in memory, and it writes every change before it makes another call. So
whenever the provider or the secrets are asked for something, the record says where the pass is, and
the next pass can go on from there. Only a write that fails leaves the record behind, and it ends
the attempt.
-/

namespace ClusterKeeper

open Dialogue (only_question)

variable {σ α β : Type} {conduct : Conduct σ} {cluster : ClusterDeclaration}
  {entry : ClusterStatus} {scene : Scene σ} {log : List Event}

/-- The call writes a status. -/
def Call.WritesStatus : Call → Prop
  | patchStatus .. => True
  | _ => False

theorem Call.IsRoutine.not_writesStatus {c : Call} (h : c.IsRoutine) : ¬ c.WritesStatus := by
  cases c with
  | patchStatus inNamespace name status => exact h.elim
  | _ => exact id

namespace Event

/-- The status that an event has put on record. -/
def written? : Event → Option ClusterStatus
  | exchange ⟨.patchStatus _ _ status, response, _, _⟩ =>
      match (response.reply : Except Fault Unit) with
      | .ok () => some status
      | .error _ => none
  | _ => none

theorem written?_of_not_writesStatus {e : Exchange} (h : ¬ e.call.WritesStatus) :
    (exchange e).written? = none := by
  obtain ⟨c, response, abandoned, memory⟩ := e
  cases c with
  | patchStatus inNamespace name status => exact absurd trivial h
  | _ => rfl

end Event

/-- The status on record after the events of a log: the last that was written, if any. -/
def stored (entry : ClusterStatus) (log : List Event) : ClusterStatus :=
  log.foldl (fun status event => event.written?.getD status) entry

theorem stored_append (entry : ClusterStatus) (first second : List Event) :
    stored entry (first ++ second) = stored (stored entry first) second :=
  List.foldl_append

theorem stored_snoc (entry : ClusterStatus) (log : List Event) (event : Event) :
    stored entry (log ++ [event]) = event.written?.getD (stored entry log) :=
  stored_append entry log [event]

/-- A status that is written is on record then. -/
theorem stored_after_write (status : ClusterStatus) {inNamespace name : String}
    {response : Response (Except Fault Unit)} (hreply : response.reply = .ok ()) (abandoned : Bool)
    (state : σ) :
    stored entry (World.after scene (.patchStatus inNamespace name status) response abandoned
      state).log = status := by
  refine (stored_snoc entry scene.log _).trans ?_
  simp [Event.written?, hreply]

/-- A write that fails leaves what is on record. -/
theorem stored_after_refusal (status : ClusterStatus) {inNamespace name : String}
    {response : Response (Except Fault Unit)} {fault : Fault}
    (hreply : response.reply = .error fault) (abandoned : Bool) (state : σ) :
    stored entry (World.after scene (.patchStatus inNamespace name status) response abandoned
      state).log = stored entry scene.log := by
  refine (stored_snoc entry scene.log _).trans ?_
  simp [Event.written?, hreply]

/-- A call that writes no status leaves what is on record. -/
theorem stored_after_call {c : Call} (h : ¬ c.WritesStatus) (response : Response c.Reply)
    (abandoned : Bool) (state : σ) :
    stored entry (World.after scene c response abandoned state).log = stored entry scene.log := by
  refine (stored_snoc entry scene.log _).trans ?_
  rw [Event.written?_of_not_writesStatus h, Option.getD_none]

theorem stored_checked : stored entry scene.checked.log = stored entry scene.log :=
  stored_snoc entry scene.log _

/-- In the log every call that writes no status was made with the status on record in memory, and
every status that was written was the one in memory and had no failure. -/
structure KeepsRecord (entry : ClusterStatus) (log : List Event) : Prop where
  current : ∀ before e after, log = before ++ .exchange e :: after → ¬ e.call.WritesStatus →
    e.memory = stored entry before
  written : ∀ e, .exchange e ∈ log → ∀ inNamespace name status,
    e.call = .patchStatus inNamespace name status →
    e.memory = status ∧ status.failureMessage = none

namespace KeepsRecord

theorem nil (entry : ClusterStatus) : KeepsRecord entry [] where
  current := fun before e after hlog => by simp at hlog
  written := fun e he => absurd he List.not_mem_nil

theorem snoc (h : KeepsRecord entry log) {event : Event}
    (hcurrent : ∀ e, event = .exchange e → ¬ e.call.WritesStatus → e.memory = stored entry log)
    (hwritten : ∀ e, event = .exchange e → ∀ inNamespace name status,
      e.call = .patchStatus inNamespace name status →
      e.memory = status ∧ status.failureMessage = none) :
    KeepsRecord entry (log ++ [event]) where
  current := by
    intro before e after hlog hnot
    rcases snoc_eq_append_cons hlog with ⟨rfl, rfl⟩ | ⟨rest, hbefore, _⟩
    · have hsame := List.append_inj_left' hlog rfl
      rw [← hsame]
      exact hcurrent e rfl hnot
    · exact h.current before e rest hbefore hnot
  written := by
    intro e he
    rcases List.mem_append.mp he with he | he
    · exact h.written e he
    · exact hwritten e (List.mem_singleton.mp he).symm

theorem checkpoint (h : KeepsRecord entry log) (cancelled : Bool) :
    KeepsRecord entry (log ++ [.checkpoint cancelled]) := by
  apply h.snoc
  · intro e he
    cases he
  · intro e he
    cases he

/-- A call that writes no status, made with the status on record in memory. -/
theorem call (h : KeepsRecord entry log) {e : Exchange} (hnot : ¬ e.call.WritesStatus)
    (hmemory : e.memory = stored entry log) : KeepsRecord entry (log ++ [.exchange e]) := by
  apply h.snoc
  · rintro _ ⟨⟩ _
    exact hmemory
  · rintro _ ⟨⟩ inNamespace name status hcall
    rw [hcall] at hnot
    exact absurd trivial hnot

/-- A status without a failure is written from memory. -/
theorem write (h : KeepsRecord entry log) {inNamespace name : String} {status : ClusterStatus}
    {response : Response (Except Fault Unit)} {abandoned : Bool}
    (hstatus : status.failureMessage = none) :
    KeepsRecord entry
      (log ++ [.exchange ⟨.patchStatus inNamespace name status, response, abandoned, status⟩]) := by
  apply h.snoc
  · rintro _ ⟨⟩ hnot
    exact absurd trivial hnot
  · rintro _ ⟨⟩ _ _ _ hcall
    cases hcall
    exact ⟨rfl, hstatus⟩

end KeepsRecord

/-- The status in memory is the one on record, as it was at every call. -/
structure OnRecord (entry : ClusterStatus) (scene : Scene σ) : Prop where
  memory : scene.memory = stored entry scene.log
  kept : KeepsRecord entry scene.log

/-- The last event of the log is a write of the status that failed with that fault. -/
def EndsInRefusal (fault : Fault) (log : List Event) : Prop :=
  ∃ before inNamespace name status response memory,
    log = before ++ [.exchange ⟨.patchStatus inNamespace name status, response, false, memory⟩] ∧
      response.reply = Except.error fault

/-- At the end the status in memory is the one on record, unless the attempt ended in a write that
failed. -/
structure EndsOnRecord (entry : ClusterStatus) (r : Except Fault α) (scene : Scene σ) : Prop where
  memory : scene.memory = stored entry scene.log ∨
    ∃ fault, r = .error fault ∧ EndsInRefusal fault scene.log
  kept : KeepsRecord entry scene.log

theorem OnRecord.endsOnRecord (h : OnRecord entry scene) (r : Except Fault α) :
    EndsOnRecord entry r scene := ⟨Or.inl h.memory, h.kept⟩

/-- An attempt that did not fail ends on record. -/
theorem EndsOnRecord.onRecord {a : α} (h : EndsOnRecord entry (.ok a) scene) :
    OnRecord entry scene := by
  refine ⟨h.memory.resolve_right ?_, h.kept⟩
  rintro ⟨fault, hok, _⟩
  cases hok

theorem preserves_onRecord (conduct : Conduct σ) (entry : ClusterStatus) :
    conduct.Preserves (fun c => ¬ c.WritesStatus) (OnRecord entry) where
  checked := fun scene h =>
    ⟨h.memory.trans stored_checked.symm, h.kept.checkpoint scene.cancelled⟩
  after := fun _ _ response abandoned state hkind _ h =>
    ⟨h.memory.trans (stored_after_call hkind response abandoned state).symm,
      h.kept.call hkind h.memory⟩

/-- An attempt that begins on record ends on record. -/
def Attempt.StaysOnRecord (conduct : Conduct σ) (entry : ClusterStatus) (attempt : Attempt α) :
    Prop :=
  ∀ scene, OnRecord entry scene → Attempt.Ensures conduct attempt (EndsOnRecord entry) scene

namespace Attempt

theorem stays_pure (a : α) : StaysOnRecord conduct entry (pure a) := fun _ h => h.endsOnRecord _

theorem stays_throw (fault : Fault) : StaysOnRecord (α := α) conduct entry (throw fault) :=
  fun _ h => h.endsOnRecord _

theorem stays_status : StaysOnRecord conduct entry status := fun _ h => h.endsOnRecord _

theorem StaysOnRecord.bind {attempt : Attempt α} {next : α → Attempt β}
    (h : StaysOnRecord conduct entry attempt)
    (hnext : ∀ a, StaysOnRecord conduct entry (next a)) :
    StaysOnRecord conduct entry (attempt >>= next) := by
  intro scene hscene
  refine (h scene hscene).bind ?_ ?_
  · exact fun a scene' hend => hnext a scene' hend.onRecord
  · rintro fault scene' hend
    refine ⟨hend.memory.imp_right ?_, hend.kept⟩
    rintro ⟨_, ⟨⟩, hrefusal⟩
    exact ⟨fault, rfl, hrefusal⟩

theorem stays_calls {calls : Calls α} (hcalls : calls.Only fun c => ¬ c.WritesStatus) :
    StaysOnRecord conduct entry (Attempt.calls calls) := fun _ h =>
  ((preserves_onRecord conduct entry).calls hcalls h).mono fun r _ hscene => hscene.endsOnRecord r

theorem stays_step {step : Step α} (hstep : step.run.Only fun c => ¬ c.WritesStatus) :
    StaysOnRecord conduct entry (Attempt.step step) := fun _ h =>
  ((preserves_onRecord conduct entry).step hstep h).mono fun r _ hscene => hscene.endsOnRecord r

/-- A write brings the record up to the status in memory. -/
theorem ensures_persist_endsOnRecord (h : KeepsRecord entry scene.log) :
    Ensures conduct (persist cluster) (EndsOnRecord entry) scene := by
  rw [ensures_persist]
  intro response state _
  refine ⟨?_, h.write rfl⟩
  cases hreply : (response.reply : Except Fault Unit) with
  | ok _ => exact Or.inl (stored_after_write _ hreply false state).symm
  | error fault => exact Or.inr ⟨fault, rfl, scene.log, _, _, _, response, _, rfl, hreply⟩

/-- A change of the status in memory is written at once. -/
theorem stays_change (change : ClusterStatus → ClusterStatus) :
    StaysOnRecord conduct entry (modifyStatus change >>= fun _ => persist cluster) := by
  intro scene h
  rw [ensures_bind, ensures_modifyStatus]
  exact ensures_persist_endsOnRecord h.kept

/-- To stay on record comes from the parts of an attempt. -/
theorem inherited_staysOnRecord (conduct : Conduct σ) (cluster : ClusterDeclaration)
    (entry : ClusterStatus) :
    Inherited cluster fun _ => StaysOnRecord conduct entry where
  value := stays_pure
  fault := stays_throw
  bind := StaysOnRecord.bind
  status := stays_status
  calls := fun hcalls => stays_calls (hcalls.mono fun _ hkind => hkind.not_writesStatus)
  change := fun _ => stays_change _

theorem create_eq (cluster : ClusterDeclaration) :
    create cluster = step (chooseVersion cluster.spec) >>= fun version =>
      step (Step.provider "create cluster"
        (Call.createCluster (creationRequest cluster version)).ask) >>= fun created =>
      recordCreated cluster created.id >>= fun _ =>
      (observePools created.id >>= fun _ => persist cluster) >>= fun _ => pure .inFlight := by
  simp only [create, recordCreated, bind_assoc]

theorem stays_create (cluster : ClusterDeclaration) :
    StaysOnRecord conduct entry (create cluster) := by
  rw [create_eq]
  refine (stays_step ((chooseVersion_only _).mono ?_)).bind fun version => ?_
  · rintro _ rfl
    exact id
  · refine (stays_step (Step.only_provider (only_question id))).bind fun created => ?_
    refine (stays_change _).bind fun _ => ?_
    exact ((inherited_staysOnRecord conduct cluster entry).observed created.id).bind
      fun _ => stays_pure _

theorem stays_converge (cluster : ClusterDeclaration) :
    StaysOnRecord conduct entry (converge cluster) := by
  refine stays_status.bind fun status => ?_
  split
  · exact stays_create cluster
  · refine (stays_calls (only_question id)).bind fun reply => ?_
    split
    · exact (inherited_staysOnRecord conduct cluster entry).update _
    · exact stays_create cluster
    · exact stays_throw _

end Attempt

end ClusterKeeper
