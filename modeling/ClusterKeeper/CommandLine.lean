import ClusterKeeper.Data.Yaml.Printer
import ClusterKeeper.Data.Yaml.Reader
import ClusterKeeper.Resource.Definition
import ClusterKeeper.Resource.Validation
import ClusterKeeper.Settings
import ClusterKeeper.Text.Numeral
import ClusterKeeper.Text.Quoted
/-!
The command line: what its arguments ask for, and what is printed.

Options are given at most once, with their value in the next argument or behind an equals sign. A
setting that is not given as an option is looked up in the environment.
-/

namespace ClusterKeeper.CommandLine

/-- What is asked for. -/
inductive Command where
  /-- The definition of the resource. -/
  | definition
  | version
  /-- Whether the declaration in a file is acceptable. -/
  | validate (path : String)
  /-- The settings that hold. -/
  | settings (settings : Settings)
  | nothing
  deriving Repr, DecidableEq

/-- What a run leaves behind. -/
structure Outcome where
  exit : UInt8
  stdout : String
  stderr : String
  deriving Repr, DecidableEq

/-- A variable of the environment, if it is set. -/
abbrev Environment : Type := String → Option String

/-! ### Options -/

/-- An option with a value. -/
structure OptionName where
  long : String
  short : Option Char
  deriving Repr, DecidableEq

/-- What one argument is. -/
inductive Argument where
  /-- A long option, possibly with a value. -/
  | long (name : String) (value : Option String)
  /-- Short options in one word. -/
  | short (first : Char) (rest : List Char)
  /-- The mark behind which there are no options. -/
  | separator
  | word (text : String)
  deriving Repr, DecidableEq

def Argument.ofChars : List Char → Argument
  | ['-', '-'] => separator
  | '-' :: '-' :: text =>
      let name := text.takeWhile (· != '=')
      let behind := text.drop name.length
      long (String.ofList name)
        (if behind.isEmpty then none else some (String.ofList (behind.drop 1)))
  | '-' :: first :: rest => short first rest
  | text => word (String.ofList text)

def Argument.ofString (text : String) : Argument := ofChars text.toList

/-- The option that an argument names, and the value that stands in the same argument. -/
def Argument.option? (options : List OptionName) : Argument → Option (OptionName × Option String)
  | long name value => (options.find? fun o => o.long == name).map (·, value)
  | short first rest =>
      let value := match rest with
        | [] => none
        | '=' :: value => some (String.ofList value)
        | value => some (String.ofList value)
      (options.find? fun o => o.short == some first).map (·, value)
  | _ => none

/-- The values of options by their long names. Every argument has to be one of the options, each of
them at most once. -/
def readOptions? (options : List OptionName) :
    KeyMap String → List String → Option (KeyMap String)
  | given, [] => some given
  | given, argument :: rest =>
      match Argument.ofString argument with
      | .separator => if rest.isEmpty then some given else none
      | argument =>
          (argument.option? options).bind fun (option, value) =>
            if given.contains option.long then none
            else match value, rest with
              | some value, rest => readOptions? options (given.insert option.long value) rest
              | none, value :: rest =>
                  match Argument.ofString value with
                  | .word value => readOptions? options (given.insert option.long value) rest
                  | _ => none
              | none, [] => none

/-! ### Commands -/

/-- The option with the file to be validated. -/
def fileOption : OptionName := ⟨"file", some 'f'⟩

def settingOption (name : String) : OptionName := ⟨name, none⟩

/-- The names of the options for settings. -/
def settingNames : List String :=
  ["requeue-interval-secs", "resync-interval-secs", "watch-namespace", "backoff-initial-secs",
   "backoff-max-secs"]

/-- The variable of the environment for a setting. -/
def variableName (setting : String) : String :=
  "LKE_" ++ String.ofList (setting.toList.map fun c => if c == '-' then '_' else c.toUpper)

/-- A number of seconds. -/
def seconds? (text : String) : Option UInt64 :=
  match Text.Numeral.read Text.Numeral.max64 text with
  | .ok n => some (UInt64.ofNat n)
  | .error _ => none

/-- The settings from options and the environment. -/
def settings? (environment : Environment) (given : KeyMap String) : Option Settings := do
  let text? (name : String) : Option String := given.get? name <|> environment (variableName name)
  let number? (name : String) (standard : UInt64) : Option UInt64 :=
    match text? name with
    | some text => seconds? text
    | none => some standard
  return {
    requeueInterval := ← number? "requeue-interval-secs" Settings.standard.requeueInterval
    resyncInterval := ← number? "resync-interval-secs" Settings.standard.resyncInterval
    watchNamespace := text? "watch-namespace"
    backoffInitial := ← number? "backoff-initial-secs" Settings.standard.backoffInitial
    backoffMaximum := ← number? "backoff-max-secs" Settings.standard.backoffMaximum }

/-- What a command with its arguments asks for. -/
def subcommand? (environment : Environment) (name : String) (arguments : List String) :
    Option Command :=
  if name = "validate" then do
    let given ← readOptions? [fileOption] KeyMap.empty arguments
    let path ← given.get? fileOption.long
    if path.isEmpty then none else return .validate path
  else if name = "config" then do
    let given ← readOptions? (settingNames.map settingOption) KeyMap.empty arguments
    return .settings (← settings? environment given)
  else none

/-- What the arguments ask for; none if they are not understood. The definition takes precedence
over a command, which has to be understood all the same. -/
def parse? (environment : Environment) (definition : Bool) : List String → Option Command
  | [] => some (if definition then .definition else .nothing)
  | argument :: rest =>
      match Argument.ofString argument with
      | .long "crd" none => if definition then none else parse? environment true rest
      | .long "version" none => some .version
      | .short 'V' _ => some .version
      | .separator =>
          if rest.isEmpty then some (if definition then .definition else .nothing) else none
      | .word name =>
          (subcommand? environment name rest).map fun command =>
            if definition then .definition else command
      | _ => none

/-! ### Running -/

/-- The name and version of the program. -/
def programVersion : String := "lke-operator 0.1.0"

/-- The namespace to watch, or a word for all of them. -/
def watchedText (s : Settings) : String := s.watchNamespace.getD "<all>"

def settingsText (s : Settings) : String :=
  s!"requeueInterval: {s.requeueDelay.seconds}s\n" ++
  s!"resyncInterval: {s.resyncDelay.seconds}s\n" ++
  s!"watchNamespace: {watchedText s}\n" ++
  s!"backoffInitial: {s.backoff.initial.seconds}s\n" ++
  s!"backoffMax: {s.backoff.maximum.seconds}s\n"

/-- The end of a run that printed something. -/
def success (text : String) : Outcome := ⟨0, text, ""⟩

/-- The end of a run that failed. -/
def failure (reason : String) : Outcome := ⟨1, "", s!"Error: {reason}\n"⟩

/-- The end of a run whose arguments are not understood. -/
def misuse : Outcome := ⟨2, "", "error: the arguments are not understood\n"⟩

/-- Why a file cannot be read. -/
inductive FileProblem where
  | missing
  /-- Something on the way to it is no directory. -/
  | notDirectory
  | isDirectory
  | nameTooLong
  /-- Its octets are no text. -/
  | notText
  | other (reason : String)
  deriving Repr, DecidableEq

/-- The wording of a reason why a file cannot be read. -/
def FileProblem.message : FileProblem → String
  | missing => "No such file or directory (os error 2)"
  | notDirectory => "Not a directory (os error 20)"
  | isDirectory => "Is a directory (os error 21)"
  | nameTooLong => "File name too long (os error 36)"
  | notText => "stream did not contain valid UTF-8"
  | other reason => reason

/-- Checks the text of a declaration. -/
def validateText (text : String) : Outcome :=
  match (Yaml.read (Formed.form ClusterDeclaration) text).bind decode with
  | .error mismatch => failure s!"Failed to parse LKEClusterConfig: {mismatch.message}"
  | .ok (cluster : ClusterDeclaration) =>
      match cluster.spec.validate with
      | .error fault => failure s!"Invalid LKEClusterConfig: {fault.message}"
      | .ok () => success "ok\n"

/-- Carries a command out. A file is read as its text, or as the reason why there is none. -/
def Command.run (readFile : String → Except FileProblem String) : Command → Outcome
  | definition => success (Yaml.write Definition.document ++ "\n")
  | version => success (programVersion ++ "\n")
  | settings s => success (settingsText s)
  | validate path =>
      match readFile path with
      | .ok text => validateText text
      | .error problem => failure s!"Failed to read {Text.quotedPath path}: {problem.message}"
  | nothing =>
      failure ("no command given; use --crd to print the CRD, `validate -f <file>` to check a " ++
        "manifest or `config` to show controller settings")

/-- Runs the program. -/
def run (environment : Environment) (readFile : String → Except FileProblem String)
    (arguments : List String) : Outcome :=
  match parse? environment false arguments with
  | some command => command.run readFile
  | none => misuse

end ClusterKeeper.CommandLine
