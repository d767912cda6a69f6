import ClusterKeeper.Pass.Call
/-!
Passes, and steps of them that can be interrupted.

A pass makes calls and holds the status of its resource in memory. It may be told to stop. A step of
it that is interruptible does not begin once that has happened, and it is abandoned at a call that
has to wait; what the call does remotely is not known then. All other calls run to their end.
-/

namespace ClusterKeeper

/-- What a pass asks for. -/
inductive Prompt where
  /-- A call that is waited for in any case. -/
  | call (c : Call)
  /-- A call that is given up if it has to wait while the pass is told to stop. -/
  | interruptibleCall (c : Call)
  /-- Whether the pass has been told to stop. -/
  | isCancelled
  /-- The status in memory. -/
  | memory
  /-- Another status in memory. -/
  | record (status : ClusterStatus)
  deriving Repr, DecidableEq

namespace Prompt

/-- What comes back: no reply to a call that was given up. -/
def Answer : Prompt → Type
  | call c => c.Reply
  | interruptibleCall c => Option c.Reply
  | isCancelled => Bool
  | memory => ClusterStatus
  | record _ => Unit

end Prompt

/-- A pass over one resource. -/
abbrev Pass (α : Type) : Type := Dialogue Prompt Prompt.Answer α

namespace Pass

/-- One call that is waited for. -/
def call (c : Call) : Pass c.Reply := Dialogue.question (A := Prompt.Answer) (.call c)

def memory : Pass ClusterStatus := Dialogue.question (A := Prompt.Answer) .memory

/-- Puts another status into memory. -/
def record (status : ClusterStatus) : Pass Unit :=
  Dialogue.question (A := Prompt.Answer) (.record status)

/-- Goes on with a reply, or ends where there is none. -/
def unlessGivenUp {ρ α : Type} (next : ρ → Pass (Option α)) : Option ρ → Pass (Option α)
  | some reply => next reply
  | none => .done none

/-- Makes the calls of a sequence until one is given up. -/
def abandonable {α : Type} : Calls α → Pass (Option α)
  | .done a => .done (some a)
  | .ask c next =>
      .ask (.interruptibleCall c) (unlessGivenUp fun reply => abandonable (next reply))

/-- Runs a sequence of calls unless the pass has been told to stop. None where the sequence did not
begin or was abandoned. -/
def interruptible {α : Type} (calls : Calls α) : Pass (Option α) :=
  .ask .isCancelled fun (cancelled : Bool) =>
    if cancelled then .done none else abandonable calls

end Pass

end ClusterKeeper
