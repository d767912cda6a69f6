import ClusterKeeper.Pass.Prompt
/-!
Attempts: parts of a pass that may end in a fault.

The status in memory outlives a fault, so that what was done remotely is not forgotten. Writing it
clears the last failure and is not interruptible.
-/

namespace ClusterKeeper

/-- What an attempt that is through leaves behind. -/
inductive Progress where
  /-- The resource is as wanted. -/
  | settled
  /-- The provider is still at work. -/
  | inFlight
  deriving Repr, DecidableEq

/-- A part of a pass that may end in a fault. -/
abbrev Attempt (α : Type) : Type := ExceptT Fault (Dialogue Prompt Prompt.Answer) α

namespace Attempt

/-- Runs a sequence of calls as one interruptible step. -/
def calls {α : Type} (sequence : Calls α) : Attempt α :=
  ExceptT.mk do
    match ← Pass.interruptible sequence with
    | some a => return .ok a
    | none => return .error .cancelled

/-- Runs an interruptible step. -/
def step {α : Type} (s : Step α) : Attempt α := do
  match ← calls s.run with
  | .ok a => return a
  | .error fault => throw fault

def status : Attempt ClusterStatus := ExceptT.lift Pass.memory

/-- Changes the status in memory. -/
def modifyStatus (change : ClusterStatus → ClusterStatus) : Attempt Unit :=
  ExceptT.lift do Pass.record (change (← Pass.memory))

/-- Writes the status. A status that is written has no failure. -/
def persist (cluster : ClusterDeclaration) : Attempt Unit := do
  modifyStatus fun status => { status with failureMessage := none }
  ExceptT.mk (Pass.call (.patchStatus cluster.inNamespace cluster.name (← status)))

/-- Enters a phase and writes it, unless it has been entered already. -/
def enter (cluster : ClusterDeclaration) (phase : Phase) : Attempt Unit := do
  if (← status).phase = phase then return ()
  modifyStatus fun status => { status with phase }
  persist cluster

end Attempt

end ClusterKeeper
