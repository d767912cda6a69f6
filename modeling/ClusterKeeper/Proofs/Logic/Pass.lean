import ClusterKeeper.Pass.Attempt
import ClusterKeeper.Pass.World
import ClusterKeeper.Proofs.Logic.Dialogue
/-!
What passes ensure, given what their collaborators may do.

A conduct relates a call, made in a state of the collaborators, to the responses that may come and
the states that may follow. A pass ensures a postcondition under a conduct if that holds however the
collaborators respond within it, and so it holds of the pass's run in every world that keeps to the
conduct. The conduct that allows everything gives statements about all worlds.
-/

namespace ClusterKeeper

variable {σ τ α β : Type}

/-- What the collaborators may do: respond to a call made in one state and be in another. -/
abbrev Conduct (σ : Type) : Type := σ → (c : Call) → Response c.Reply → σ → Prop

namespace Scene

/-- The scene with only a view of the state. -/
def through (view : τ → σ) (scene : Scene τ) : Scene σ :=
  ⟨scene.cancelled, scene.memory, scene.log, view scene.state⟩

/-- The scene after the pass looked whether to stop. -/
def checked (scene : Scene σ) : Scene σ :=
  { scene with log := scene.log ++ [.checkpoint scene.cancelled] }

/-- The scene with another status in memory. -/
def recording (scene : Scene σ) (status : ClusterStatus) : Scene σ :=
  { scene with memory := status }

@[simp] theorem exchanges_checked (scene : Scene σ) :
    scene.checked.exchanges = scene.exchanges := by
  rw [exchanges, checked, List.filterMap_append]
  exact List.append_nil _

@[simp] theorem exchanges_after (scene : Scene σ) (c : Call) (response : Response c.Reply)
    (abandoned : Bool) (state : σ) :
    (World.after scene c response abandoned state).exchanges =
      scene.exchanges ++ [⟨c, response, abandoned, scene.memory⟩] := by
  rw [exchanges, World.after, List.filterMap_append]
  rfl

/-- The calls that were made, with their arguments. -/
def calls (scene : Scene σ) : List Call := scene.exchanges.map Exchange.call

@[simp] theorem calls_checked (scene : Scene σ) : scene.checked.calls = scene.calls := by
  rw [calls, exchanges_checked, calls]

@[simp] theorem calls_after (scene : Scene σ) (c : Call) (response : Response c.Reply)
    (abandoned : Bool) (state : σ) :
    (World.after scene c response abandoned state).calls = scene.calls ++ [c] := by
  rw [calls, exchanges_after, List.map_append]
  rfl

/-- The exchanges after a call that can be interrupted. -/
theorem exchanges_after_checked (scene : Scene σ) (c : Call) (response : Response c.Reply)
    (abandoned : Bool) (state : σ) :
    (World.after scene.checked c response abandoned state).exchanges =
      scene.exchanges ++ [⟨c, response, abandoned, scene.memory⟩] := by
  rw [exchanges_after, exchanges_checked]
  rfl

end Scene

namespace Conduct

/-- Collaborators that may do anything. -/
def any : Conduct σ := fun _ _ _ _ => True

/-- Every response that the conduct allows has to be reckoned with. -/
def onCall (conduct : Conduct σ) : Dialogue.Rules Call Call.Reply (Scene σ) :=
  fun c post scene => ∀ response state, conduct scene.state c response state →
    post response.reply (World.after scene c response false state)

/-- The same for a call that is given up if it has to wait while the pass is told to stop. -/
def onInterruptibleCall (conduct : Conduct σ) (c : Call)
    (post : Option c.Reply → Scene σ → Prop) (scene : Scene σ) : Prop :=
  ∀ response state, conduct scene.state c response state →
    let abandoned := (scene.cancelled || response.cancels) && response.suspends
    post (if abandoned then none else some response.reply)
      (World.after scene c response abandoned state)

/-- The rules for passes. -/
def onPrompt (conduct : Conduct σ) : Dialogue.Rules Prompt Prompt.Answer (Scene σ)
  | .call c, post, scene => conduct.onCall c post scene
  | .interruptibleCall c, post, scene => conduct.onInterruptibleCall c post scene
  | .isCancelled, post, scene => post scene.cancelled scene.checked
  | .memory, post, scene => post scene.memory scene
  | .record status, post, scene => post () (scene.recording status)

theorem onCall_mono (conduct : Conduct σ) : conduct.onCall.Mono := by
  intro c weak strong scene himp h response state hconduct
  exact himp _ _ (h response state hconduct)

theorem onPrompt_mono (conduct : Conduct σ) : conduct.onPrompt.Mono := by
  intro p weak strong scene himp h
  cases p with
  | call c => exact onCall_mono conduct c weak strong scene himp h
  | interruptibleCall c =>
      intro response state hconduct
      exact himp _ _ (h response state hconduct)
  | isCancelled => exact himp _ _ h
  | memory => exact himp _ _ h
  | record status => exact himp _ _ h

theorem onPrompt_conj (conduct : Conduct σ) : conduct.onPrompt.Conj := by
  intro p first second scene hfirst hsecond
  cases p with
  | call c => exact fun response state h => ⟨hfirst response state h, hsecond response state h⟩
  | interruptibleCall c =>
      exact fun response state h => ⟨hfirst response state h, hsecond response state h⟩
  | isCancelled => exact ⟨hfirst, hsecond⟩
  | memory => exact ⟨hfirst, hsecond⟩
  | record status => exact ⟨hfirst, hsecond⟩

end Conduct

/-- Every run of the step within the conduct ends as the postcondition says. -/
def Step.Ensures (conduct : Conduct σ) (step : Step α)
    (post : Except Fault α → Scene σ → Prop) (scene : Scene σ) : Prop :=
  Dialogue.Ensures conduct.onCall step.run post scene

/-- Every run of the pass within the conduct ends as the postcondition says. -/
def Pass.Ensures (conduct : Conduct σ) (pass : Pass α) (post : α → Scene σ → Prop)
    (scene : Scene σ) : Prop :=
  Dialogue.Ensures conduct.onPrompt pass post scene

/-- Every run of the attempt within the conduct ends as the postcondition says. -/
def Attempt.Ensures (conduct : Conduct σ) (attempt : Attempt α)
    (post : Except Fault α → Scene σ → Prop) (scene : Scene σ) : Prop :=
  Pass.Ensures conduct attempt.run post scene

namespace World

/-- Seen through the view, the world does only what the conduct allows. -/
def Keeps (world : World τ) (view : τ → σ) (conduct : Conduct σ) : Prop :=
  ∀ c t, conduct (view t) c (world.respond c t).1 (view (world.respond c t).2)

theorem keeps_any (world : World τ) (view : τ → σ) : world.Keeps view Conduct.any :=
  fun _ _ => trivial

variable {world : World τ} {view : τ → σ} {conduct : Conduct σ}

/-- What a step ensures is true of its runs. -/
theorem runCalls_of_ensures (hkeeps : world.Keeps view conduct) {step : Step α}
    {post : Except Fault α → Scene σ → Prop} {scene : Scene τ}
    (h : Step.Ensures conduct step post (scene.through view)) :
    post (world.runCalls step.run scene).1 ((world.runCalls step.run scene).2.through view) := by
  refine Dialogue.run_of_ensures (Scene.through view) ?_ h
  intro c post scene hpost
  exact hpost _ _ (hkeeps c scene.state)

/-- What a pass ensures is true of its runs. -/
theorem run_of_ensures (hkeeps : world.Keeps view conduct) {pass : Pass α}
    {post : α → Scene σ → Prop} {scene : Scene τ}
    (h : Pass.Ensures conduct pass post (scene.through view)) :
    post (world.run pass scene).1 ((world.run pass scene).2.through view) := by
  refine Dialogue.run_of_ensures (Scene.through view) ?_ h
  intro p post scene hpost
  cases p with
  | call c => exact hpost _ _ (hkeeps c scene.state)
  | interruptibleCall c => exact hpost _ _ (hkeeps c scene.state)
  | isCancelled => exact hpost
  | memory => exact hpost
  | record status => exact hpost

end World

/-- The log of a sequence of calls of one kind has calls of that kind. -/
theorem World.exchanges_of_only {kind : Call → Prop} {calls : Calls α} (h : calls.Only kind)
    (world : World τ) {scene : Scene τ} (hscene : ∀ e ∈ scene.exchanges, kind e.call) :
    ∀ e ∈ (world.runCalls calls scene).2.exchanges, kind e.call := by
  have hkeeps : ∀ (c : Call) (scene : Scene τ), kind c → (∀ e ∈ scene.exchanges, kind e.call) →
      Conduct.any.onCall c (fun _ scene' => ∀ e ∈ scene'.exchanges, kind e.call) scene := by
    intro c scene hc hscene response state _ e he
    rw [Scene.exchanges_after] at he
    rcases List.mem_append.mp he with he | he
    · exact hscene e he
    · rw [List.mem_singleton.mp he]
      exact hc
  have hensures := h.ensures hkeeps (Conduct.onCall_mono Conduct.any) hscene
  refine Dialogue.run_of_ensures id ?_ hensures
  intro c post scene hpost
  exact hpost _ _ trivial

namespace Step

variable {conduct : Conduct σ} {scene : Scene σ}

/-- A sequence whose first part ends in no fault. -/
theorem Ensures.seq {step : Step α} {next : α → Step β} {mid : α → Scene σ → Prop}
    {post : Except Fault β → Scene σ → Prop}
    (h : Ensures conduct step (Dialogue.returning mid) scene)
    (hnext : ∀ a scene', mid a scene' → Ensures conduct (next a) post scene') :
    Ensures conduct (step >>= next) post scene :=
  Dialogue.Ensures.run_seq conduct.onCall_mono h hnext

/-- One call, with something made of its reply. -/
theorem ensures_ask (c : Call) (f : c.Reply → Except Fault α)
    {post : Except Fault α → Scene σ → Prop}
    (h : ∀ response state, conduct scene.state c response state →
      post (f response.reply) (World.after scene c response false state)) :
    Ensures conduct (ExceptT.mk (.ask c fun reply => .done (f reply))) post scene := h

end Step

variable {conduct : Conduct σ} {scene : Scene σ}

namespace Pass

theorem ensures_bind (pass : Pass α) (next : α → Pass β) (post : β → Scene σ → Prop) :
    Ensures conduct (pass >>= next) post scene ↔
      Ensures conduct pass (fun a => Ensures conduct (next a) post) scene :=
  Dialogue.ensures_bind pass next post scene

theorem Ensures.mono {pass : Pass α} {weak strong : α → Scene σ → Prop}
    (h : Ensures conduct pass strong scene) (himp : ∀ a scene', strong a scene' → weak a scene') :
    Ensures conduct pass weak scene :=
  Dialogue.Ensures.mono conduct.onPrompt_mono himp h

/-- What is true of every end in every scene is ensured. -/
theorem Ensures.of_forall {pass : Pass α} {post : α → Scene σ → Prop}
    (h : ∀ a scene', post a scene') : Ensures conduct pass post scene := by
  induction pass generalizing scene with
  | done a => exact h a scene
  | ask p next ih =>
      cases p with
      | call c => exact fun _ _ _ => ih _
      | interruptibleCall c => exact fun _ _ _ => ih _
      | isCancelled => exact ih _
      | memory => exact ih _
      | record status => exact ih _

theorem ensures_call (c : Call) (post : c.Reply → Scene σ → Prop) :
    Ensures conduct (call c) post scene ↔ conduct.onCall c post scene := Iff.rfl

theorem ensures_memory (post : ClusterStatus → Scene σ → Prop) :
    Ensures conduct memory post scene ↔ post scene.memory scene := Iff.rfl

theorem ensures_record (status : ClusterStatus) (post : Unit → Scene σ → Prop) :
    Ensures conduct (record status) post scene ↔ post () (scene.recording status) := Iff.rfl

/-- A sequence that may be given up goes on only where its call was not. -/
theorem ensures_abandonable_ask (c : Call) (next : c.Reply → Calls α)
    (post : Option α → Scene σ → Prop) :
    Ensures conduct (abandonable (.ask c next)) post scene ↔
      conduct.onInterruptibleCall c (fun
        | some reply, scene' => Ensures conduct (abandonable (next reply)) post scene'
        | none, scene' => post none scene') scene := by
  refine forall_congr' fun response => forall_congr' fun state => imp_congr_right fun _ => ?_
  dsimp only
  cases (scene.cancelled || response.cancels) && response.suspends <;> exact Iff.rfl

/-- Calls that can be interrupted are not begun in a pass that has been told to stop. -/
theorem ensures_interruptible (calls : Calls α) (post : Option α → Scene σ → Prop) :
    Ensures conduct (interruptible calls) post scene ↔
      if scene.cancelled then post none scene.checked
      else Ensures conduct (abandonable calls) post scene.checked := by
  change Dialogue.Ensures _ (if scene.cancelled then _ else _) _ _ ↔ _
  split <;> exact Iff.rfl

end Pass

namespace Attempt

theorem ensures_bind (attempt : Attempt α) (next : α → Attempt β)
    (post : Except Fault β → Scene σ → Prop) :
    Ensures conduct (attempt >>= next) post scene ↔
      Ensures conduct attempt
        (Dialogue.orFault (fun a => Ensures conduct (next a) post) post) scene :=
  Dialogue.ensures_run_bind attempt next post scene

theorem Ensures.mono {attempt : Attempt α} {weak strong : Except Fault α → Scene σ → Prop}
    (h : Ensures conduct attempt strong scene)
    (himp : ∀ r scene', strong r scene' → weak r scene') : Ensures conduct attempt weak scene :=
  Pass.Ensures.mono h himp

theorem Ensures.and {attempt : Attempt α} {first second : Except Fault α → Scene σ → Prop}
    (hfirst : Ensures conduct attempt first scene) (hsecond : Ensures conduct attempt second scene) :
    Ensures conduct attempt (fun r scene' => first r scene' ∧ second r scene') scene :=
  Dialogue.Ensures.and conduct.onPrompt_mono conduct.onPrompt_conj hfirst hsecond

/-- What the parts of a sequence ensure, put together. -/
theorem Ensures.bind {attempt : Attempt α} {next : α → Attempt β}
    {mid : Except Fault α → Scene σ → Prop} {post : Except Fault β → Scene σ → Prop}
    (h : Ensures conduct attempt mid scene)
    (hok : ∀ a scene', mid (.ok a) scene' → Ensures conduct (next a) post scene')
    (herror : ∀ fault scene', mid (.error fault) scene' → post (.error fault) scene') :
    Ensures conduct (attempt >>= next) post scene :=
  Dialogue.Ensures.run_bind conduct.onPrompt_mono h hok herror

theorem Ensures.mono_returning {attempt : Attempt α} {weak strong : α → Scene σ → Prop}
    (h : Ensures conduct attempt (Dialogue.returning strong) scene)
    (himp : ∀ a scene', strong a scene' → weak a scene') :
    Ensures conduct attempt (Dialogue.returning weak) scene :=
  h.mono (Dialogue.returning.mono himp)

/-- A sequence whose first part ends in no fault. -/
theorem Ensures.seq {attempt : Attempt α} {next : α → Attempt β} {mid : α → Scene σ → Prop}
    {post : Except Fault β → Scene σ → Prop}
    (h : Ensures conduct attempt (Dialogue.returning mid) scene)
    (hnext : ∀ a scene', mid a scene' → Ensures conduct (next a) post scene') :
    Ensures conduct (attempt >>= next) post scene :=
  Dialogue.Ensures.run_seq conduct.onPrompt_mono h hnext

/-- What an attempt that makes calls ends in, for what became of the calls. -/
def ofCalls (post : Except Fault α → Scene σ → Prop) : Option α → Scene σ → Prop
  | some a, scene => post (.ok a) scene
  | none, scene => post (.error .cancelled) scene

theorem ensures_calls (calls : Calls α) (post : Except Fault α → Scene σ → Prop) :
    Ensures conduct (Attempt.calls calls) post scene ↔
      Pass.Ensures conduct (Pass.interruptible calls) (ofCalls post) scene := by
  refine (Pass.ensures_bind _ _ _).trans (iff_of_eq ?_)
  refine congrArg (fun q => Pass.Ensures conduct (Pass.interruptible calls) q scene) ?_
  funext o scene'
  cases o <;> rfl

theorem ensures_step (step : Step α) (post : Except Fault α → Scene σ → Prop) :
    Ensures conduct (Attempt.step step) post scene ↔
      Ensures conduct (Attempt.calls step.run) (Dialogue.orFault post post) scene := by
  rw [Attempt.step, ensures_bind]
  refine iff_of_eq (congrArg (fun q => Ensures conduct (Attempt.calls step.run) q scene) ?_)
  funext r scene'
  rcases r with fault | fault | a <;> rfl

/-- One call that can be interrupted, with something made of its reply. -/
theorem ensures_calls_ask (c : Call) (f : c.Reply → α) (post : Except Fault α → Scene σ → Prop) :
    Ensures conduct (Attempt.calls (.ask c fun reply => .done (f reply))) post scene ↔
      if scene.cancelled then post (.error .cancelled) scene.checked
      else ∀ response state, conduct scene.state c response state →
        if response.cancels && response.suspends then
          post (.error .cancelled) (World.after scene.checked c response true state)
        else post (.ok (f response.reply)) (World.after scene.checked c response false state) := by
  rw [ensures_calls, Pass.ensures_interruptible]
  cases hcancelled : scene.cancelled with
  | true => exact Iff.rfl
  | false =>
      rw [if_neg Bool.false_ne_true, if_neg Bool.false_ne_true, Pass.ensures_abandonable_ask]
      refine forall_congr' fun response => forall_congr' fun state => imp_congr_right fun _ => ?_
      have hchecked : scene.checked.cancelled = false := hcancelled
      rw [hchecked, Bool.false_or]
      dsimp only
      cases response.cancels && response.suspends <;> exact Iff.rfl

theorem ensures_step_ask (c : Call) (f : c.Reply → Except Fault α)
    (post : Except Fault α → Scene σ → Prop) :
    Ensures conduct (Attempt.step (ExceptT.mk (.ask c fun reply => .done (f reply)))) post scene ↔
      if scene.cancelled then post (.error .cancelled) scene.checked
      else ∀ response state, conduct scene.state c response state →
        if response.cancels && response.suspends then
          post (.error .cancelled) (World.after scene.checked c response true state)
        else post (f response.reply) (World.after scene.checked c response false state) := by
  rw [ensures_step]
  exact ensures_calls_ask c f (Dialogue.orFault post post)

theorem ensures_status (post : Except Fault ClusterStatus → Scene σ → Prop) :
    Ensures conduct status post scene ↔ post (.ok scene.memory) scene := Iff.rfl

theorem ensures_modifyStatus (change : ClusterStatus → ClusterStatus)
    (post : Except Fault Unit → Scene σ → Prop) :
    Ensures conduct (modifyStatus change) post scene ↔
      post (.ok ()) (scene.recording (change scene.memory)) := Iff.rfl

/-- Writing the status is one call that cannot be interrupted, with no failure in it. -/
theorem ensures_persist (cluster : ClusterDeclaration)
    (post : Except Fault Unit → Scene σ → Prop) :
    Ensures conduct (persist cluster) post scene ↔
      conduct.onCall (.patchStatus cluster.inNamespace cluster.name
          { scene.memory with failureMessage := none }) post
        (scene.recording { scene.memory with failureMessage := none }) := Iff.rfl

theorem ensures_enter (cluster : ClusterDeclaration) (phase : Phase)
    (post : Except Fault Unit → Scene σ → Prop) :
    Ensures conduct (enter cluster phase) post scene ↔
      if scene.memory.phase = phase then post (.ok ()) scene
      else Ensures conduct (persist cluster) post
        (scene.recording { scene.memory with phase }) := by
  rw [enter, ensures_bind, ensures_status, Dialogue.orFault_ok]
  split <;> exact Iff.rfl

end Attempt

/-- Nobody tells a pass to stop. -/
def Conduct.IsCalm (conduct : Conduct σ) : Prop :=
  ∀ s c response s', conduct s c response s' → response.cancels = false

theorem Pass.ensures_abandonable_of_calm (hcalm : conduct.IsCalm) {calls : Calls α}
    {post : α → Scene σ → Prop} (hgoing : scene.cancelled = false)
    (hcalls : Dialogue.Ensures conduct.onCall calls post scene) :
    Pass.Ensures conduct (Pass.abandonable calls) (fun o scene' => ∃ a, o = some a ∧ post a scene')
      scene := by
  induction calls generalizing scene with
  | done a => exact ⟨a, rfl, hcalls⟩
  | ask c next ih =>
      rw [Pass.ensures_abandonable_ask]
      intro response state hconduct
      have hstays : (scene.cancelled || response.cancels) = false := by
        rw [hgoing, hcalm _ _ _ _ hconduct]
        rfl
      dsimp only
      rw [hstays, Bool.false_and, if_neg Bool.false_ne_true]
      exact ih response.reply hstays (hcalls response state hconduct)

/-- Calls that could be interrupted come to their end. -/
theorem Attempt.ensures_calls_of_calm (hcalm : conduct.IsCalm) {calls : Calls α}
    {post : Except Fault α → Scene σ → Prop} (hgoing : scene.cancelled = false)
    (hcalls : Dialogue.Ensures conduct.onCall calls (fun a => post (.ok a)) scene.checked) :
    Attempt.Ensures conduct (Attempt.calls calls) post scene := by
  have hchecked : scene.checked.cancelled = false := hgoing
  have hrun := Pass.ensures_abandonable_of_calm hcalm hchecked hcalls
  rw [Attempt.ensures_calls, Pass.ensures_interruptible, hgoing, if_neg Bool.false_ne_true]
  apply hrun.mono
  rintro o scene' ⟨a, rfl, hpost⟩
  exact hpost

/-- A step that could be interrupted comes to its end. -/
theorem Attempt.ensures_step_of_calm (hcalm : conduct.IsCalm) {step : Step α}
    {post : Except Fault α → Scene σ → Prop} (hgoing : scene.cancelled = false)
    (hstep : Step.Ensures conduct step post scene.checked) :
    Attempt.Ensures conduct (Attempt.step step) post scene := by
  rw [Attempt.ensures_step]
  apply Attempt.ensures_calls_of_calm hcalm hgoing
  refine Dialogue.Ensures.mono conduct.onCall_mono ?_ hstep
  intro r scene' hpost
  cases r with
  | ok a => exact hpost
  | error fault => exact hpost

end ClusterKeeper
