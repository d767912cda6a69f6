import ClusterKeeper.Fault
import ClusterKeeper.Provider.Types
import ClusterKeeper.Text.Numeral
import ClusterKeeper.Text.Split
/-!
Versions of Kubernetes: two numerals with a point between them.

The latest of a list is the greatest by major, then by minor number, and the earliest of several
equal ones. One entry that is no version makes the whole list useless.
-/

namespace ClusterKeeper

structure Version where
  major : Nat
  minor : Nat
  deriving Repr, DecidableEq

namespace Version

/-- What keeps a text from being a version. -/
inductive Flaw where
  | segments (count : Nat)
  | major (flaw : Text.Numeral.Flaw)
  | minor (flaw : Text.Numeral.Flaw)
  deriving Repr, DecidableEq

/-- The wording of a flaw. -/
def Flaw.message : Flaw → String
  | segments count => s!"expected 2 segments, got {count}"
  | major flaw => s!"major: {flaw.message}"
  | minor flaw => s!"minor: {flaw.message}"

/-- Reads two numerals with a point between them. -/
def readChars (text : List Char) : Except Flaw Version :=
  match Text.pieces (· == '.') text with
  | [first, second] => do
      let major ← (Text.Numeral.readChars Text.Numeral.max32 first).mapError .major
      let minor ← (Text.Numeral.readChars Text.Numeral.max32 second).mapError .minor
      return ⟨major, minor⟩
  | segments => .error (.segments segments.length)

/-- Reads a version. -/
def read (text : String) : Except Fault Version :=
  (readChars text.toList).mapError fun flaw => .invalidVersion text flaw.message

/-- Whether the first version is at most the second: by major, then by minor number. -/
def atMost (a b : Version) : Bool :=
  decide (a.major < b.major ∨ a.major = b.major ∧ a.minor ≤ b.minor)

/-- One more entry beside the latest of those before it, which it has to exceed to take over. -/
def laterOf (best : Option (RemoteVersion × Version)) (entry : RemoteVersion) :
    Except Fault (Option (RemoteVersion × Version)) := do
  let version ← read entry.id
  match best with
  | some (latest, greatest) =>
      if version.atMost greatest then return some (latest, greatest)
      else return some (entry, version)
  | none => return some (entry, version)

def latestOf (offered : List RemoteVersion) : Except Fault RemoteVersion := do
  match ← offered.foldlM laterOf none with
  | some (latest, _) => return latest
  | none => throw (.invalidVersion "" "provider returned no versions")

example : readChars "1.30".toList = .ok ⟨1, 30⟩ := by rfl
example : readChars "1".toList = .error (.segments 1) := by rfl

end Version

end ClusterKeeper
