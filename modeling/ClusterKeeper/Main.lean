import ClusterKeeper.CommandLine
/-!
The program: arguments, environment and files come from outside, and an outcome goes back.
-/

namespace ClusterKeeper

/-- The number of an error, which may come with its sign changed. -/
def errorNumber (code : UInt32) : UInt32 := min code (0 - code)

/-- Why a file could not be read. -/
def fileProblem : IO.Error → CommandLine.FileProblem
  | .noFileOrDirectory .. => .missing
  | .inappropriateType _ code _ => if errorNumber code = 20 then .notDirectory else .isDirectory
  | .invalidArgument .. => .nameTooLong
  | reason => .other (toString reason)

/-- A file as its text, or as the reason why there is none. -/
def readText (path : String) : IO (Except CommandLine.FileProblem String) := do
  try
    match String.fromUTF8? (← IO.FS.readBinFile path) with
    | some text => return .ok text
    | none => return .error .notText
  catch reason =>
    return .error (fileProblem reason)

/-- The variables of the environment that have a meaning. -/
def readEnvironment : IO CommandLine.Environment := do
  let names := CommandLine.settingNames.map CommandLine.variableName
  let values ← names.mapM fun name => return (name, ← IO.getEnv name)
  return fun name => (values.lookup name).join

/-- Carries out what the arguments ask for. -/
def runProgram (arguments : List String) : IO CommandLine.Outcome := do
  let environment ← readEnvironment
  match CommandLine.parse? environment false arguments with
  | some (.validate path) =>
      let text ← readText path
      return CommandLine.run environment (fun _ => text) arguments
  | _ => return CommandLine.run environment (fun _ => .error .missing) arguments

end ClusterKeeper

/-- Runs the program and ends as it says. -/
def main (arguments : List String) : IO UInt32 := do
  let outcome ← ClusterKeeper.runProgram arguments
  IO.print outcome.stdout
  IO.eprint outcome.stderr
  return outcome.exit.toUInt32
