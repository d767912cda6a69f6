import ClusterKeeper.Proofs.Pass.Explanation
/-!
Two runs of one pass that differ in the status in memory.

In a world that writes statuses beside everything else, writes always succeed, and what is replied to
other calls does not depend on them. There two runs agree if they make the same other calls and come
to the same end. What relates the statuses in memory before the runs may relate them afterwards, or
bring them nearer to each other.
-/

namespace ClusterKeeper

open Dialogue

variable {σ τ α β : Type} {world : World σ} {view : σ → τ} {cluster : ClusterDeclaration}

/-- Statuses are written beside everything else: writes succeed and stop nobody, and what other calls
bring depends on a view of the state that no write changes. -/
structure World.WritesAside (world : World σ) (view : σ → τ) : Prop where
  succeeds : ∀ inNamespace name status s,
    (world.respond (.patchStatus inNamespace name status) s).1.reply = Except.ok ()
  calm : ∀ inNamespace name status s,
    (world.respond (.patchStatus inNamespace name status) s).1.cancels = false
  unseen : ∀ inNamespace name status s,
    view (world.respond (.patchStatus inNamespace name status) s).2 = view s
  determined : ∀ c, ¬ c.WritesStatus → ∀ s t, view s = view t →
    (world.respond c s).1 = (world.respond c t).1 ∧
      view (world.respond c s).2 = view (world.respond c t).2

/-- Nothing but statuses tells the scenes apart. -/
structure Scene.Alike (view : σ → τ) (left right : Scene σ) : Prop where
  cancelled : left.cancelled = right.cancelled
  transcript : transcript left.exchanges = transcript right.exchanges
  seen : view left.state = view right.state

namespace Scene.Alike

variable {left middle right : Scene σ}

theorem refl (scene : Scene σ) : Alike view scene scene := ⟨rfl, rfl, rfl⟩

theorem symm (h : Alike view left right) : Alike view right left :=
  ⟨h.cancelled.symm, h.transcript.symm, h.seen.symm⟩

theorem trans (h : Alike view left middle) (hnext : Alike view middle right) :
    Alike view left right :=
  ⟨h.cancelled.trans hnext.cancelled, h.transcript.trans hnext.transcript,
    h.seen.trans hnext.seen⟩

theorem checked (h : Alike view left right) : Alike view left.checked right.checked where
  cancelled := h.cancelled
  transcript := by
    rw [exchanges_checked, exchanges_checked]
    exact h.transcript
  seen := h.seen

/-- The same call brings the same reply. -/
theorem answerInterruptible (h : Alike view left right) (haside : world.WritesAside view)
    {c : Call} (hc : ¬ c.WritesStatus) :
    (world.answerInterruptible c left).1 = (world.answerInterruptible c right).1 ∧
      Alike view (world.answerInterruptible c left).2 (world.answerInterruptible c right).2 := by
  obtain ⟨hresponse, hseen⟩ := haside.determined c hc left.state right.state h.seen
  dsimp only [World.answerInterruptible]
  rw [hresponse, h.cancelled]
  refine ⟨rfl, ?_, ?_, hseen⟩
  · dsimp only [World.after]
    rw [h.cancelled]
  · rw [exchanges_after, exchanges_after, transcript_append, transcript_append, h.transcript]
    simp [ClusterKeeper.transcript, Exchange.turn?_of_not_writesStatus hc]

end Scene.Alike

/-- Runs from scenes that are alike, with statuses related as before, come to the same result in
scenes that are alike, with statuses related as after. -/
def Pass.Agrees (world : World σ) (view : σ → τ) (before : ClusterStatus → ClusterStatus → Prop)
    (after : α → ClusterStatus → ClusterStatus → Prop) (pass : Pass α) : Prop :=
  ∀ left right : Scene σ, Scene.Alike view left right → before left.memory right.memory →
    (world.run pass left).1 = (world.run pass right).1 ∧
      Scene.Alike view (world.run pass left).2 (world.run pass right).2 ∧
      after (world.run pass left).1 (world.run pass left).2.memory (world.run pass right).2.memory

namespace Pass

variable {before : ClusterStatus → ClusterStatus → Prop}

theorem Agrees.bind {pass : Pass α} {next : α → Pass β}
    {mid : α → ClusterStatus → ClusterStatus → Prop}
    {after : β → ClusterStatus → ClusterStatus → Prop} (h : pass.Agrees world view before mid)
    (hnext : ∀ a, (next a).Agrees world view (mid a) after) :
    (pass >>= next).Agrees world view before after := by
  intro left right halike hbefore
  obtain ⟨hresult, halike', hmid⟩ := h left right halike hbefore
  rw [World.run_bind, World.run_bind, ← hresult]
  exact hnext _ _ _ halike' hmid

theorem agrees_done {after : α → ClusterStatus → ClusterStatus → Prop} (a : α)
    (h : ∀ s t, before s t → after a s t) :
    Pass.Agrees world view before after (.done a) :=
  fun _ _ halike hbefore => ⟨rfl, halike, h _ _ hbefore⟩

/-- Calls that write no status agree, and leave the statuses in memory. -/
theorem agrees_abandonable (haside : world.WritesAside view) {sequence : Calls α}
    (hkind : sequence.Only fun c => ¬ c.WritesStatus) :
    (abandonable sequence).Agrees world view before fun _ => before := by
  induction sequence with
  | done a => exact agrees_done _ fun _ _ h => h
  | ask c next ih =>
      intro left right halike hbefore
      obtain ⟨hreply, halike'⟩ := halike.answerInterruptible haside hkind.1
      have hrun : ∀ scene, world.run (abandonable (.ask c next)) scene =
          world.run (unlessGivenUp (fun reply => abandonable (next reply))
            (world.answerInterruptible c scene).1) (world.answerInterruptible c scene).2 :=
        fun _ => rfl
      rw [hrun, hrun, ← hreply]
      cases (world.answerInterruptible c left).1 with
      | none => exact ⟨rfl, halike', hbefore⟩
      | some reply => exact ih reply (hkind.2 reply) _ _ halike' hbefore

theorem agrees_interruptible (haside : world.WritesAside view) {sequence : Calls α}
    (hkind : sequence.Only fun c => ¬ c.WritesStatus) :
    (interruptible sequence).Agrees world view before fun _ => before := by
  intro left right halike hbefore
  have hrun : ∀ scene, world.run (interruptible sequence) scene =
      world.run (if scene.cancelled then .done none else abandonable sequence) scene.checked :=
    fun _ => rfl
  rw [hrun, hrun, ← halike.cancelled]
  cases left.cancelled with
  | true => exact ⟨rfl, halike.checked, hbefore⟩
  | false => exact agrees_abandonable haside hkind _ _ halike.checked hbefore

end Pass

/-- The status after a change that is made unless it is so already. -/
def StatusChange.unless (change : StatusChange) (met : ClusterStatus → Prop) [DecidablePred met]
    (status : ClusterStatus) : ClusterStatus :=
  if met status then status else change.written status

namespace Attempt

/-- Runs of the attempt agree, with statuses related as after where it is through. -/
def Agrees (world : World σ) (view : σ → τ) (before : ClusterStatus → ClusterStatus → Prop)
    (after : α → ClusterStatus → ClusterStatus → Prop) (attempt : Attempt α) : Prop :=
  Pass.Agrees world view before (fun r s t => ∀ a, r = .ok a → after a s t) attempt.run

variable {before middle : ClusterStatus → ClusterStatus → Prop}
  {after : α → ClusterStatus → ClusterStatus → Prop}

theorem agrees_pure (a : α) (h : ∀ s t, before s t → after a s t) :
    Agrees world view before after (pure a) := by
  apply Pass.agrees_done
  rintro s t hbefore _ ⟨⟩
  exact h s t hbefore

theorem agrees_throw (fault : Fault) : Agrees world view before after (throw fault) := by
  apply Pass.agrees_done
  rintro s t _ a ⟨⟩

theorem Agrees.bind {attempt : Attempt α} {next : α → Attempt β}
    {after' : β → ClusterStatus → ClusterStatus → Prop}
    (h : attempt.Agrees world view before after)
    (hnext : ∀ a, (next a).Agrees world view (after a) after') :
    (attempt >>= next).Agrees world view before after' := by
  rw [Agrees, ExceptT.run_bind]
  refine Pass.Agrees.bind h fun r => ?_
  cases r with
  | ok a =>
      intro left right halike hafter
      exact hnext a left right halike (hafter a rfl)
  | error fault =>
      apply Pass.agrees_done
      rintro s t _ a ⟨⟩

theorem agrees_calls (haside : world.WritesAside view) {sequence : Calls α}
    (hkind : sequence.Only fun c => ¬ c.WritesStatus) :
    Agrees world view before (fun _ => before) (calls sequence) := by
  refine Pass.Agrees.bind (Pass.agrees_interruptible haside hkind) fun o => ?_
  cases o with
  | some a => exact Pass.agrees_done _ fun _ _ h _ _ => h
  | none => exact Pass.agrees_done _ fun _ _ h _ _ => h

theorem agrees_step (haside : world.WritesAside view) {s : Step α}
    (hkind : s.run.Only fun c => ¬ c.WritesStatus) :
    Agrees world view before (fun _ => before) (step s) := by
  refine (agrees_calls haside hkind).bind fun r => ?_
  cases r with
  | ok a => exact agrees_pure a fun _ _ h => h
  | error fault => exact agrees_throw fault

/-- What is read of the status is related as the statuses are. -/
theorem agrees_status (next : ClusterStatus → Attempt α)
    (h : ∀ s t, before s t → next s = next t ∧ Agrees world view before after (next s)) :
    Agrees world view before after (status >>= next) := by
  intro left right halike hbefore
  obtain ⟨heq, hagrees⟩ := h _ _ hbefore
  have hrun : ∀ scene, world.run (status >>= next).run scene =
      world.run (next scene.memory).run scene := fun _ => rfl
  rw [hrun, hrun, ← heq]
  exact hagrees left right halike hbefore

/-- A run that ends well in a scene that only statuses tell from the first, with this status in
memory. -/
structure Amends (world : World σ) (view : σ → τ) (attempt : Attempt Unit) (scene : Scene σ)
    (status : ClusterStatus) : Prop where
  result : (world.run attempt.run scene).1 = .ok ()
  alike : Scene.Alike view scene (world.run attempt.run scene).2
  memory : (world.run attempt.run scene).2.memory = status

theorem amends_amend (haside : world.WritesAside view) (change : StatusChange) (scene : Scene σ) :
    Amends world view (amend cluster change) scene (change.written scene.memory) := by
  let written := change.written scene.memory
  let response := world.respond (.patchStatus cluster.inNamespace cluster.name written) scene.state
  have hrun : world.run (amend cluster change).run scene = (response.1.reply,
      World.after (scene.recording written) (.patchStatus cluster.inNamespace cluster.name written)
        response.1 false response.2) := by
    cases change <;> rfl
  refine ⟨?_, ⟨?_, ?_, ?_⟩, ?_⟩
  · rw [hrun]
    exact haside.succeeds _ _ _ _
  · have hcalm : response.1.cancels = false := haside.calm _ _ _ _
    rw [hrun]
    simp [World.after, Scene.recording, hcalm]
  · rw [hrun, Scene.exchanges_after, transcript_append]
    exact (List.append_nil _).symm
  · rw [hrun]
    exact (haside.unseen _ _ _ _).symm
  · rw [hrun]
    rfl

theorem amends_amendUnless (haside : world.WritesAside view) (met : ClusterStatus → Prop)
    [DecidablePred met] (change : StatusChange) (scene : Scene σ) :
    Amends world view (amendUnless cluster met change) scene
      (change.unless met scene.memory) := by
  have hrun : world.run (amendUnless cluster met change).run scene =
      world.run (if met scene.memory then pure () else amend cluster change : Attempt Unit).run
        scene := rfl
  by_cases hmet : met scene.memory
  · rw [if_pos hmet] at hrun
    rw [StatusChange.unless, if_pos hmet]
    constructor <;> rw [hrun]
    · rfl
    · exact Scene.Alike.refl scene
    · rfl
  · rw [if_neg hmet] at hrun
    have hamend : Amends world view (amend cluster change) scene _ :=
      amends_amend haside change scene
    rw [StatusChange.unless, if_neg hmet]
    constructor <;> rw [hrun]
    · exact hamend.result
    · exact hamend.alike
    · exact hamend.memory

/-- An amendment brings related statuses to where it brings each. -/
theorem agrees_of_amends {attempt : Attempt Unit} {amended : ClusterStatus → ClusterStatus}
    {after : Unit → ClusterStatus → ClusterStatus → Prop}
    (hamends : ∀ scene, Amends world view attempt scene (amended scene.memory))
    (h : ∀ s t, before s t → after () (amended s) (amended t)) :
    Agrees world view before after attempt := by
  intro left right halike hbefore
  obtain ⟨hleft, halikeLeft, hmemoryLeft⟩ := hamends left
  obtain ⟨hright, halikeRight, hmemoryRight⟩ := hamends right
  refine ⟨hleft.trans hright.symm, (halikeLeft.symm.trans halike).trans halikeRight, ?_⟩
  rintro ⟨⟩ _
  rw [hmemoryLeft, hmemoryRight]
  exact h _ _ hbefore

theorem agrees_amend (haside : world.WritesAside view) (change : StatusChange)
    {after : Unit → ClusterStatus → ClusterStatus → Prop}
    (h : ∀ s t, before s t → after () (change.written s) (change.written t)) :
    Agrees world view before after (amend cluster change) :=
  agrees_of_amends (amends_amend haside change) h

theorem agrees_amendUnless (haside : world.WritesAside view) (met : ClusterStatus → Prop)
    [DecidablePred met] {change : StatusChange}
    {after : Unit → ClusterStatus → ClusterStatus → Prop}
    (h : ∀ s t, before s t → after () (change.unless met s) (change.unless met t)) :
    Agrees world view before after (amendUnless cluster met change) :=
  agrees_of_amends (amends_amendUnless haside met change) h

end Attempt

end ClusterKeeper
