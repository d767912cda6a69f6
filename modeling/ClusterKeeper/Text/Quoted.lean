import ClusterKeeper.Text.Printable
/-!
Quoted texts, as error messages show them.

A text stands between double quotes. A quote or a backslash inside it gets a backslash; tab, line
feed, carriage return and NUL have a letter each; every other character that is not printable is
written by its code point in lower-case hexadecimal. All else stands for itself. Inside the name of
a file a single quote gets a backslash as well.
-/

namespace ClusterKeeper.Text

/-- The digits of a number in lower-case hexadecimal. -/
def hexDigits (n : Nat) : List Char := Nat.toDigits 16 n

/-- The written form of one character. -/
def quoteChar (c : Char) : List Char :=
  if c = '"' then ['\\', '"']
  else if c = '\\' then ['\\', '\\']
  else if c = '\t' then ['\\', 't']
  else if c = '\n' then ['\\', 'n']
  else if c = '\r' then ['\\', 'r']
  else if c = '\x00' then ['\\', '0']
  else if isPrintable c then [c]
  else ['\\', 'u', '\x7b'] ++ hexDigits c.toNat ++ ['\x7d']

/-- A text between quotes. -/
def quoted (text : String) : String :=
  String.ofList (['"'] ++ text.toList.flatMap quoteChar ++ ['"'])

/-- The written form of one character of the name of a file. -/
def quotePathChar (c : Char) : List Char := if c = '\'' then ['\\', '\''] else quoteChar c

/-- The name of a file between quotes. -/
def quotedPath (path : String) : String :=
  String.ofList (['"'] ++ path.toList.flatMap quotePathChar ++ ['"'])

end ClusterKeeper.Text
