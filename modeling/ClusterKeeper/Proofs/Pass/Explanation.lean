import ClusterKeeper.Proofs.Logic.Transcript
import ClusterKeeper.Proofs.Pass.Erasure
/-!
What became of an attempt, told from what was exchanged.

While nobody stops it, an attempt goes as its step does, which is what is left of it without the
status, until a status cannot be written. So if all statuses were written, the replies to its other
calls fix how it ends; if not, it ends in a fault.
-/

namespace ClusterKeeper

open Dialogue

variable {σ α : Type} {conduct : Conduct σ} {cluster : ClusterDeclaration} {scene : Scene σ}
  {exchanges first second : List Exchange}

namespace Exchange

/-- The call with its reply, unless it writes the status. -/
def turn? : Exchange → Option (Turn Call Call.Reply)
  | ⟨.patchStatus .., _, _, _⟩ => none
  | ⟨c, response, _, _⟩ => some ⟨c, response.reply⟩

/-- The status was written, if one was to be. -/
def Succeeds : Exchange → Prop
  | ⟨.patchStatus .., response, _, _⟩ => response.reply = Except.ok ()
  | _ => True

theorem turn?_of_not_writesStatus {c : Call} (h : ¬ c.WritesStatus) (response : Response c.Reply)
    (abandoned : Bool) (memory : ClusterStatus) :
    turn? ⟨c, response, abandoned, memory⟩ = some ⟨c, response.reply⟩ := by
  cases c with
  | patchStatus inNamespace name status => exact absurd trivial h
  | _ => rfl

theorem succeeds_of_not_writesStatus {e : Exchange} (h : ¬ e.call.WritesStatus) : e.Succeeds := by
  obtain ⟨c, response, abandoned, memory⟩ := e
  cases c with
  | patchStatus inNamespace name status => exact absurd trivial h
  | _ => exact trivial

end Exchange

/-- The calls that write no status, with their replies. -/
def transcript (exchanges : List Exchange) : List (Turn Call Call.Reply) :=
  exchanges.filterMap Exchange.turn?

/-- Every status was written that was to be. -/
def AllWritten (exchanges : List Exchange) : Prop := ∀ e ∈ exchanges, e.Succeeds

theorem transcript_append : transcript (first ++ second) = transcript first ++ transcript second :=
  List.filterMap_append

theorem allWritten_append : AllWritten (first ++ second) ↔ AllWritten first ∧ AllWritten second :=
  List.forall_mem_append

theorem allWritten_nil : AllWritten [] := fun _ he => absurd he List.not_mem_nil

theorem allWritten_writing {status : ClusterStatus} {response : Response (Except Fault Unit)} :
    AllWritten [.writing cluster status response] ↔ response.reply = .ok () :=
  List.forall_mem_singleton

/-- The exchanges tell how an attempt at the step ended. -/
inductive Step.Explains (s : Step α) : Except Fault α → List Exchange → Prop where
  | through {r exchanges} : AllWritten exchanges → s.run.Plays (transcript exchanges) r →
      Explains s r exchanges
  | refused {fault exchanges} : ¬ AllWritten exchanges → Explains s (.error fault) exchanges

namespace Step.Explains

variable {s : Step α} {r : Except Fault α}

/-- How the attempt ended well is seen from its exchanges. -/
theorem eq_ok_iff (h : s.Explains r exchanges) (a : α) :
    r = .ok a ↔ AllWritten exchanges ∧ s.run.Plays (transcript exchanges) (.ok a) := by
  constructor
  · rintro rfl
    cases h with
    | through hwritten hplays => exact ⟨hwritten, hplays⟩
  · rintro ⟨hwritten, hplays⟩
    cases h with
    | through _ hplays' => exact hplays'.unique hplays
    | refused hnot => exact absurd hwritten hnot

/-- An explanation that goes on after the first part ended well. -/
theorem bind {β : Type} {next : α → Step β} {a : α} {r : Except Fault β}
    (hfirst : s.Explains (.ok a) first) (hsecond : (next a).Explains r second) :
    (s >>= next).Explains r (first ++ second) := by
  obtain ⟨hwritten, hplays⟩ := (hfirst.eq_ok_iff a).mp rfl
  cases hsecond with
  | through hwritten' hplays' =>
      apply through (allWritten_append.mpr ⟨hwritten, hwritten'⟩)
      rw [transcript_append]
      exact hplays.run_bind hplays'
  | refused hnot => exact refused fun h => hnot (allWritten_append.mp h).2

theorem bind_error {β : Type} {next : α → Step β} {fault : Fault}
    (h : s.Explains (.error fault) exchanges) : (s >>= next).Explains (.error fault) exchanges := by
  cases h with
  | through hwritten hplays => exact through hwritten hplays.run_bind_error
  | refused hnot => exact refused hnot

end Step.Explains

/-- The scene comes after another, in a pass that goes on, with those exchanges between. -/
structure Scene.Follows (scene : Scene σ) (exchanges : List Exchange) (scene' : Scene σ) :
    Prop where
  going : scene'.cancelled = false
  exchanges : scene'.exchanges = scene.exchanges ++ exchanges

/-- Calls that write no status, when nobody stops the pass, are told by their exchanges. -/
theorem ensures_plays (hcalm : conduct.IsCalm) {sequence : Calls α}
    (hkind : sequence.Only fun c => ¬ c.WritesStatus) (hgoing : scene.cancelled = false) :
    Ensures conduct.onCall sequence (fun a scene' => ∃ rest, scene.Follows rest scene' ∧
      AllWritten rest ∧ sequence.Plays (transcript rest) a) scene := by
  induction sequence generalizing scene with
  | done a =>
      exact ⟨[], ⟨hgoing, (List.append_nil _).symm⟩, allWritten_nil, rfl, rfl⟩
  | ask c next ih =>
      intro response state hconduct
      have hgoes : (World.after scene c response false state).cancelled = false := by
        simp [World.after, hgoing, hcalm _ _ _ _ hconduct]
      refine Ensures.mono conduct.onCall_mono ?_ (ih response.reply (hkind.2 response.reply) hgoes)
      rintro a scene' ⟨rest, hfollows, hwritten, hplays⟩
      refine ⟨⟨c, response, false, scene.memory⟩ :: rest, ⟨hfollows.going, ?_⟩, ?_, ?_⟩
      · rw [hfollows.exchanges, Scene.exchanges_after, List.append_assoc]
        rfl
      · exact List.forall_mem_cons.mpr
          ⟨Exchange.succeeds_of_not_writesStatus hkind.1, hwritten⟩
      · rw [transcript, List.filterMap_cons, Exchange.turn?_of_not_writesStatus hkind.1]
        exact ⟨response.reply, _, rfl, hplays⟩

namespace Attempt

/-- An amendment goes well where the status is written, and makes no other call. -/
theorem ensures_amend_explained (hcalm : conduct.IsCalm) (hgoing : scene.cancelled = false)
    (change : StatusChange) :
    Attempt.Ensures conduct (amend cluster change) (fun r scene' => ∃ rest,
      scene.Follows rest scene' ∧ (pure () : Step Unit).Explains r rest) scene := by
  rw [ensures_amend]
  intro response state hconduct
  refine ⟨[.writing cluster (change.written scene.memory) response], ⟨?_, ?_⟩, ?_⟩
  · have hcancels := hcalm _ _ _ _ hconduct
    simp [World.after, Scene.recording, hgoing, hcancels]
  · exact Scene.exchanges_after _ _ _ _ _
  · cases hreply : (response.reply : Except Fault Unit) with
    | ok _ => exact .through (allWritten_writing.mpr hreply) ⟨rfl, rfl⟩
    | error fault =>
        refine .refused fun h => ?_
        rw [allWritten_writing.mp h] at hreply
        cases hreply

/-- While nobody stops it, an attempt goes as the step does that it erases to. -/
theorem ErasesTo.ensures_explained {kind : Call → Prop} {allowed : StatusChange → Prop}
    {attempt : Attempt α} {s : Step α} (h : ErasesTo cluster kind allowed attempt s)
    (hkind : ∀ c, kind c → ¬ c.WritesStatus) (hcalm : conduct.IsCalm)
    (hgoing : scene.cancelled = false) :
    Attempt.Ensures conduct attempt (fun r scene' => ∃ rest,
      scene.Follows rest scene' ∧ s.Explains r rest) scene := by
  induction h generalizing scene with
  | value a => exact ⟨[], ⟨hgoing, (List.append_nil _).symm⟩, .through allWritten_nil ⟨rfl, rfl⟩⟩
  | failure fault =>
      exact ⟨[], ⟨hgoing, (List.append_nil _).symm⟩, .through allWritten_nil ⟨rfl, rfl⟩⟩
  | bind _ _ ihfirst ihnext =>
      refine (ihfirst hgoing).bind ?_ ?_
      · rintro a scene' ⟨first, hfollows, hfirst⟩
        refine (ihnext a hfollows.going).mono ?_
        rintro r scene'' ⟨second, hfollows', hsecond⟩
        refine ⟨first ++ second, ⟨hfollows'.going, ?_⟩, hfirst.bind hsecond⟩
        rw [hfollows'.exchanges, hfollows.exchanges, List.append_assoc]
      · rintro fault scene' ⟨first, hfollows, hfirst⟩
        exact ⟨first, hfollows, hfirst.bind_error⟩
  | calls hsequence =>
      have hchecked : scene.checked.cancelled = false := hgoing
      apply ensures_calls_of_calm hcalm hgoing
      refine Dialogue.Ensures.mono conduct.onCall_mono ?_
        (ensures_plays hcalm (hsequence.mono hkind) hchecked)
      rintro a scene' ⟨rest, hfollows, hwritten, hplays⟩
      refine ⟨rest, ⟨hfollows.going, ?_⟩, .through hwritten ?_⟩
      · rw [hfollows.exchanges, Scene.exchanges_checked]
      · exact plays_lift_ok.mpr hplays
  | amend _ => exact ensures_amend_explained hcalm hgoing _
  | amendUnless met _ =>
      rw [ensures_amendUnless]
      split
      · exact ⟨[], ⟨hgoing, (List.append_nil _).symm⟩, .through allWritten_nil ⟨rfl, rfl⟩⟩
      · exact ensures_amend_explained hcalm hgoing _

end Attempt

end ClusterKeeper
