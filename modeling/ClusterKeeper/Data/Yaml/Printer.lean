import ClusterKeeper.Data.Json.Printer
import ClusterKeeper.Data.Yaml.Scalar
import ClusterKeeper.Data.Yaml.Word
/-!
Writing YAML texts in block style.

Members stand on lines of their own, deeper by two than what they are members of; the items of a
list are as deep as the list's name, and a list or object without contents is written in brackets. A
text is written bare where it reads back as that text, as a literal block where it has several
lines, and between single quotes otherwise.
-/

namespace ClusterKeeper.Yaml

/-- Words that stand for something other than a text. -/
def isTypedWord (word : List Char) : Bool :=
  let text := String.ofList word
  isNullWord text || (wordBool? text).isSome ||
    word.all (fun c => c.isDigit || ['+', '-', '.', 'e', 'E', 'x', 'o'].contains c)

/-- Whether a text of one line may stand without quotes: it is one bare word, the whole of it. -/
def mayStandBare (text : List Char) : Bool :=
  let glyphs := placeFrom 0 1 text
  beginsPlain true glyphs && !isTypedWord text &&
    match plain? false 0 Gathered.start glyphs with
    | some (g, rest) => rest.isEmpty && g.gap.isNone
    | none => false

/-- The lines of a text, without their ends. -/
def linesOf (text : List Char) : List (List Char) :=
  match text with
  | [] => [[]]
  | c :: rest =>
      match linesOf rest with
      | [] => [[c]]
      | first :: others => if c == '\n' then [] :: first :: others else (c :: first) :: others

/-- A text between single quotes. -/
def singleQuote (text : List Char) : String :=
  String.ofList (['\''] ++ text.flatMap (fun c => if c == '\'' then ['\'', '\''] else [c]) ++ ['\''])

/-- The spaces before a line. -/
def margin (depth : Nat) : String := String.ofList (List.replicate depth ' ')

/-- A literal block without a line end behind it; empty lines have no margin. -/
def literal (depth : Nat) (text : List Char) : String :=
  let line (content : List Char) : String :=
    if content.isEmpty then "\n" else "\n" ++ margin depth ++ String.ofList content
  "|-" ++ String.join ((linesOf text).map line)

/-- A text as the value of a member at a depth. -/
def scalarText (depth : Nat) (text : String) : String :=
  let chars := text.toList
  if chars.contains '\n' then literal (depth + 2) chars
  else if mayStandBare chars then text
  else singleQuote chars

/-- A value on one line, at a depth: one that has no parts. -/
def atom (depth : Nat) : Value → String
  | .bool b => if b then "true" else "false"
  | .int n => toString n
  | .decimal mantissa exponent => Json.decimalText mantissa exponent
  | .text s => scalarText depth s
  | .list _ => "[]"
  | .object _ => "\x7b\x7d"
  | _ => "null"

mutual

/-- What stands behind the name of a member at a depth. -/
def memberText (depth : Nat) : Value → String
  | .list (item :: items) => "\n" ++ itemLines depth (item :: items)
  | .object (member :: members) =>
      "\n" ++ memberLines (margin (depth + 2)) (depth + 2) (member :: members)
  | value => " " ++ atom depth value ++ "\n"

/-- The items of a list whose dashes are at a depth. -/
def itemLines (depth : Nat) : List Value → String
  | [] => ""
  | item :: items => margin depth ++ "-" ++ itemText depth item ++ itemLines depth items

/-- What stands behind the dash of an item: the first member of an object follows at once. -/
def itemText (depth : Nat) : Value → String
  | .object (member :: members) => memberLines " " (depth + 2) (member :: members)
  | .list (item :: items) => "\n" ++ itemLines (depth + 2) (item :: items)
  | value => " " ++ atom depth value ++ "\n"

/-- Members at a depth, the first of them behind a lead. -/
def memberLines (lead : String) (depth : Nat) : List (String × Value) → String
  | [] => ""
  | (name, value) :: members =>
      lead ++ scalarText depth name ++ ":" ++ memberText depth value ++
        memberLines (margin depth) depth members

end

/-- The YAML text of an object. -/
def write : Value → String
  | .object members => memberLines "" 0 members
  | value => atom 0 value ++ "\n"

end ClusterKeeper.Yaml
