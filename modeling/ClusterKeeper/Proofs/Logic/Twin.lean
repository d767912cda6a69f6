import ClusterKeeper.Pass.World
/-!
The pass that nobody stops.

To every world there is one that responds alike but never tells a pass to stop. A pass in the world
and its twin in the other do the same until the first sees that it has been told to stop, or gives a
call up for that.
-/

namespace ClusterKeeper

variable {σ α : Type}

/-- The response with nobody told to stop. -/
def Response.calmed (response : Response α) : Response α := { response with cancels := false }

namespace Event

/-- The pass saw that it had been told to stop, or it gave a call up. -/
def Halts : Event → Prop
  | exchange e => e.abandoned = true
  | checkpoint cancelled => cancelled = true

/-- The event as it is where nobody tells the pass to stop. -/
def calmed : Event → Event
  | exchange ⟨c, response, _, memory⟩ => exchange ⟨c, response.calmed, false, memory⟩
  | checkpoint _ => checkpoint false

end Event

/-- The scenes differ in no more than that the first pass may have been told to stop. -/
structure Scene.Twins (scene twin : Scene σ) : Prop where
  calm : twin.cancelled = false
  memory : twin.memory = scene.memory
  state : twin.state = scene.state
  log : twin.log = scene.log.map Event.calmed

namespace World

/-- The world that responds alike and tells nobody to stop. -/
def calmed (world : World σ) : World σ where
  respond c s := ((world.respond c s).1.calmed, (world.respond c s).2)

theorem log_prefix_answer (world : World σ) (p : Prompt) (scene : Scene σ) :
    scene.log <+: (world.answer p scene).2.log := by
  cases p with
  | call c => exact List.prefix_append _ _
  | interruptibleCall c => exact List.prefix_append _ _
  | isCancelled => exact List.prefix_append _ _
  | memory => exact List.prefix_rfl
  | record status => exact List.prefix_rfl

/-- A pass takes nothing out of the log. -/
theorem log_prefix_run (world : World σ) (pass : Pass α) (scene : Scene σ) :
    scene.log <+: (world.run pass scene).2.log := by
  induction pass generalizing scene with
  | done a => exact List.prefix_rfl
  | ask p next ih => exact (world.log_prefix_answer p scene).trans (ih _ _)

variable {world : World σ} {scene twin : Scene σ}

/-- Twins make the same call. -/
theorem twins_after (h : scene.Twins twin) (c : Call) (abandoned : Bool) :
    (after scene c (world.respond c scene.state).1 abandoned (world.respond c scene.state).2).Twins
      (after twin c (world.calmed.respond c twin.state).1 false
        (world.calmed.respond c twin.state).2) where
  calm := by
    rw [after, h.calm]
    rfl
  memory := h.memory
  state := by
    rw [after, h.state]
    rfl
  log := by
    rw [after, after, h.log, h.memory, h.state, List.map_append]
    rfl

/-- Twins are answered alike, unless the first halts at the question and the other goes on. -/
theorem answer_twin (h : scene.Twins twin) (p : Prompt) :
    ((world.answer p scene).1 = (world.calmed.answer p twin).1 ∧
      (world.answer p scene).2.Twins (world.calmed.answer p twin).2) ∨
    ∃ event, (world.answer p scene).2.log = scene.log ++ [event] ∧ event.Halts ∧
      (world.calmed.answer p twin).2.log = (scene.log ++ [event]).map Event.calmed := by
  cases p with
  | call c =>
      refine Or.inl ⟨?_, twins_after h c false⟩
      change _ = (world.respond c twin.state).1.reply
      rw [h.state]
      rfl
  | interruptibleCall c =>
      have htwin : world.calmed.answerInterruptible c twin =
          (some (world.respond c scene.state).1.reply,
            after twin c (world.calmed.respond c twin.state).1 false
              (world.calmed.respond c twin.state).2) := by
        simp [answerInterruptible, calmed, Response.calmed, h.calm, h.state]
      rw [answer, answer, htwin]
      cases hgiven : (scene.cancelled || (world.respond c scene.state).1.cancels) &&
          (world.respond c scene.state).1.suspends with
      | true =>
          have hup : world.answerInterruptible c scene = (none, after scene c
              (world.respond c scene.state).1 true (world.respond c scene.state).2) := by
            simp only [answerInterruptible, hgiven, if_true]
          rw [hup]
          exact Or.inr ⟨_, rfl, rfl, (twins_after h c true).log⟩
      | false =>
          have hwaited : world.answerInterruptible c scene =
              (some (world.respond c scene.state).1.reply, after scene c
                (world.respond c scene.state).1 false (world.respond c scene.state).2) := by
            simp only [answerInterruptible, hgiven, Bool.false_eq_true, if_false]
          rw [hwaited]
          exact Or.inl ⟨rfl, twins_after h c false⟩
  | isCancelled =>
      cases hcancelled : scene.cancelled with
      | true =>
          refine Or.inr ⟨.checkpoint true, ?_, rfl, ?_⟩
          · change scene.log ++ [_] = _
            rw [hcancelled]
          · change twin.log ++ [_] = _
            rw [h.log, h.calm, List.map_append]
            rfl
      | false =>
          refine Or.inl ⟨hcancelled.trans h.calm.symm, h.calm, h.memory, h.state, ?_⟩
          change twin.log ++ [_] = (scene.log ++ [_]).map Event.calmed
          rw [h.log, h.calm, List.map_append]
          rfl
  | memory => exact Or.inl ⟨h.memory.symm, h⟩
  | record status => exact Or.inl ⟨rfl, h.calm, rfl, h.state, h.log⟩

/-- A pass does the same as its twin, or it does so up to an event at which it halts. -/
theorem run_twin (h : scene.Twins twin) (pass : Pass α) :
    ((world.run pass scene).1 = (world.calmed.run pass twin).1 ∧
      (world.run pass scene).2.Twins (world.calmed.run pass twin).2) ∨
    ∃ cut event rest, (world.run pass scene).2.log = cut ++ event :: rest ∧ event.Halts ∧
      (cut ++ [event]).map Event.calmed <+: (world.calmed.run pass twin).2.log := by
  induction pass generalizing scene twin with
  | done a => exact Or.inl ⟨rfl, h⟩
  | ask p next ih =>
      rcases answer_twin h p with ⟨hanswer, hnext⟩ | ⟨event, hlog, hhalts, htwin⟩
      · rw [run, run, Dialogue.run_ask, Dialogue.run_ask, ← hanswer]
        exact ih _ hnext
      · obtain ⟨rest, hrest⟩ := world.log_prefix_run (next (world.answer p scene).1)
          (world.answer p scene).2
        refine Or.inr ⟨scene.log, event, rest, ?_, hhalts, ?_⟩
        · rw [hlog, List.append_assoc] at hrest
          exact hrest.symm
        · rw [← htwin]
          exact world.calmed.log_prefix_run _ _

end World

end ClusterKeeper
