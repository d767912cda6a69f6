import ClusterKeeper.Pass.Prompt
/-!
Worlds in which passes run.

A world answers calls from a state of its own. A response may cancel the pass, which lasts, and it
may keep the caller waiting. The log has every call with its response, also one that was given up,
and every point at which the pass looked whether to stop.
-/

namespace ClusterKeeper

/-- How the world responds to a call. -/
structure Response (α : Type) where
  reply : α
  /-- The pass is told to stop during the call. -/
  cancels : Bool
  /-- The caller has to wait for the reply. -/
  suspends : Bool

/-- What answers calls. -/
structure World (σ : Type) where
  respond : (c : Call) → σ → Response c.Reply × σ

/-- A call that was made. -/
structure Exchange where
  call : Call
  response : Response call.Reply
  /-- The caller did not wait for the reply. -/
  abandoned : Bool
  /-- The status that the pass had in memory. -/
  memory : ClusterStatus

/-- What is kept in a log. -/
inductive Event where
  | exchange (e : Exchange)
  /-- The pass looked whether it had been told to stop. -/
  | checkpoint (cancelled : Bool)

namespace Event

/-- The call of an event, if it is one. -/
def exchange? : Event → Option Exchange
  | exchange e => some e
  | checkpoint _ => none

end Event

/-- Where a pass is. -/
structure Scene (σ : Type) where
  /-- The pass has been told to stop. -/
  cancelled : Bool
  memory : ClusterStatus
  log : List Event
  state : σ

namespace Scene

variable {σ : Type}

/-- The calls that were made. -/
def exchanges (scene : Scene σ) : List Exchange := scene.log.filterMap Event.exchange?

/-- The beginning of a pass. -/
def start (cancelled : Bool) (memory : ClusterStatus) (state : σ) : Scene σ :=
  ⟨cancelled, memory, [], state⟩

end Scene

namespace World

variable {σ α : Type}

/-- Where a pass is after a response to a call. -/
def after (scene : Scene σ) (c : Call) (response : Response c.Reply) (abandoned : Bool)
    (state : σ) : Scene σ :=
  { scene with
    cancelled := scene.cancelled || response.cancels
    log := scene.log ++ [.exchange ⟨c, response, abandoned, scene.memory⟩]
    state }

/-- Answers a call that is waited for. -/
def answerCall (world : World σ) (c : Call) (scene : Scene σ) : c.Reply × Scene σ :=
  let (response, state) := world.respond c scene.state
  (response.reply, after scene c response false state)

/-- Answers a call that is given up if it has to wait while the pass is told to stop. -/
def answerInterruptible (world : World σ) (c : Call) (scene : Scene σ) :
    Option c.Reply × Scene σ :=
  let (response, state) := world.respond c scene.state
  let abandoned := (scene.cancelled || response.cancels) && response.suspends
  (if abandoned then none else some response.reply, after scene c response abandoned state)

/-- Answers a pass. -/
def answer (world : World σ) : (p : Prompt) → Scene σ → p.Answer × Scene σ
  | .call c, scene => world.answerCall c scene
  | .interruptibleCall c, scene => world.answerInterruptible c scene
  | .isCancelled, scene =>
      (scene.cancelled, { scene with log := scene.log ++ [.checkpoint scene.cancelled] })
  | .memory, scene => (scene.memory, scene)
  | .record status, scene => ((), { scene with memory := status })

/-- Runs a pass. -/
def run (world : World σ) (pass : Pass α) (scene : Scene σ) : α × Scene σ :=
  Dialogue.run world.answer pass scene

/-- Runs a sequence of calls on its own. -/
def runCalls (world : World σ) (calls : Calls α) (scene : Scene σ) : α × Scene σ :=
  Dialogue.run world.answerCall calls scene

@[simp] theorem run_done (world : World σ) (a : α) (scene : Scene σ) :
    world.run (.done a) scene = (a, scene) := rfl

/-- Of two passes in sequence the second begins where the first ends. -/
theorem run_bind (world : World σ) {β : Type} (first : Pass α) (next : α → Pass β)
    (scene : Scene σ) :
    world.run (first >>= next) scene =
      world.run (next (world.run first scene).1) (world.run first scene).2 :=
  Dialogue.run_bind world.answer first next scene

@[simp] theorem run_call (world : World σ) (c : Call) (scene : Scene σ) :
    world.run (Pass.call c) scene = world.answerCall c scene := rfl

@[simp] theorem run_memory (world : World σ) (scene : Scene σ) :
    world.run Pass.memory scene = (scene.memory, scene) := rfl

@[simp] theorem run_record (world : World σ) (status : ClusterStatus) (scene : Scene σ) :
    world.run (Pass.record status) scene = ((), { scene with memory := status }) := rfl

/-- A step does not begin in a pass that has been told to stop. -/
theorem run_interruptible_of_cancelled (world : World σ) (calls : Calls α) {scene : Scene σ}
    (h : scene.cancelled = true) :
    world.run (Pass.interruptible calls) scene =
      (none, { scene with log := scene.log ++ [.checkpoint true] }) := by
  obtain ⟨cancelled, memory, log, state⟩ := scene
  obtain rfl : cancelled = true := h
  rfl

/-- A call that is not waited for is logged all the same. -/
theorem answerInterruptible_abandoned (world : World σ) {c : Call} {scene : Scene σ}
    {response : Response c.Reply} {state : σ} (h : world.respond c scene.state = (response, state))
    (hstop : scene.cancelled = true ∨ response.cancels = true) (hwait : response.suspends = true) :
    world.answerInterruptible c scene = (none, after scene c response true state) := by
  have hstop : (scene.cancelled || response.cancels) = true := by simpa using hstop
  simp [answerInterruptible, h, hstop, hwait]

end World

end ClusterKeeper
