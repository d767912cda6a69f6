import ClusterKeeper.Data.Yaml.Block
import ClusterKeeper.Data.Yaml.Token
/-!
Splitting YAML texts into tokens.

What may be a key is known as one only when the colon behind it is met. Until then its place among
the tokens is kept, where the key is announced later on, and with it the mapping that it begins. A
key and its colon are in one line, not too far from each other. Outside brackets the columns of
dashes and keys say how deep blocks are.
-/

namespace ClusterKeeper.Yaml

/-- Something that may turn out to be a key. -/
structure KeyCandidate where
  /-- The number of tokens before it. -/
  place : Nat
  line : Nat
  column : Nat
  /-- In its column there can be nothing but a key. -/
  required : Bool
  deriving Repr, DecidableEq

/-- Where a reader of tokens stands. -/
structure Lexer where
  rest : List Glyph
  /-- The tokens so far, last first. -/
  tokens : List Token
  /-- The number of tokens so far. -/
  count : Nat
  /-- The columns of the open blocks, innermost first. -/
  blocks : List Nat
  candidate : Option KeyCandidate
  /-- The candidates outside the open brackets, innermost first. -/
  outer : List (Option KeyCandidate)
  /-- A key may begin here. -/
  keyAllowed : Bool

/-- A step of a reader of tokens. -/
abbrev Lexing (α : Type) : Type := StateT Lexer Option α

namespace Lexer

/-- The beginning of a text. -/
def start (text : List Glyph) : Lexer := ⟨text, [], 0, [], none, [], true⟩

/-- The greatest distance of a key and its colon. -/
def keyReach : Nat := 1024

/-- Whether brackets are open. -/
def inFlow (l : Lexer) : Bool := !l.outer.isEmpty

/-- The least column of further lines of a scalar. -/
def least (l : Lexer) : Nat := l.blocks.head?.elim 0 (· + 1)

/-- The column of the next character. -/
def column (l : Lexer) : Nat := l.rest.head?.elim 0 (·.column)

/-- Puts tokens, last first, at a place among those so far. -/
def insert (place : Nat) (tokens : List Token) (l : Lexer) : Lexer :=
  let (behind, before) := l.tokens.splitAt (l.count - place)
  { l with tokens := behind ++ (tokens ++ before), count := l.count + tokens.length }

/-- Adds tokens, last first. -/
def push (tokens : List Token) (l : Lexer) : Lexer :=
  { l with tokens := tokens ++ l.tokens, count := l.count + tokens.length }

/-- Adds a token that is some characters long. -/
def pushTaking (taken : Nat) (token : Token) (l : Lexer) : Lexer :=
  { l.push [token] with rest := l.rest.drop taken }

/-- Whether a candidate is out of the reach of a colon at the next character. -/
def isStale (l : Lexer) (k : KeyCandidate) : Bool :=
  l.rest.head?.any fun g => g.line != k.line || decide (k.column + keyReach < g.column)

/-- Begins a block at a column, unless the innermost one is as deep. The token that announces it
goes before the others. None of this is done in brackets. -/
def openBlock (column place : Nat) (block : Token) (tokens : List Token) (l : Lexer) : Lexer :=
  if !l.inFlow && l.blocks.head?.all (· < column) then
    { l.insert place (tokens ++ [block]) with blocks := column :: l.blocks }
  else l.insert place tokens

/-- Ends the blocks that are deeper than `column`, or all. None is ended in brackets. -/
def closeBlocks (column : Option Nat) (l : Lexer) : Lexer :=
  if l.inFlow then l
  else
    let closed := l.blocks.takeWhile fun block => column.all (· < block)
    { l.push (closed.map fun _ => .blockEnd) with blocks := l.blocks.drop closed.length }

/-- Passes over white space, line ends and comments. Outside brackets a new line may begin with a
key, and there a tab does not indent one. -/
def skip : (inComment : Bool) → Lexer → List Glyph → Lexer
  | _, l, [] => { l with rest := [] }
  | inComment, l, c :: rest =>
      if isBreak c.char then skip false { l with keyAllowed := l.keyAllowed || !l.inFlow } rest
      else if inComment then skip true l rest
      else if c.char == orderMark && c.column == 0 then skip false l rest
      else if c.char == ' ' then skip false l rest
      else if c.char == '\t' && (l.inFlow || !l.keyAllowed) then skip false l rest
      else if c.char == '#' then skip true l rest
      else { l with rest := c :: rest }

end Lexer

open Lexer

/-- Refuses what is read unless a condition holds. -/
def Lexing.ensure (condition : Bool) : Lexing Unit := if condition then pure () else failure

/-- What may no longer be a key is none. It is refused where there must be one. -/
def Lexing.dropStale : Lexing Unit := do
  let l ← get
  let stale (k? : Option KeyCandidate) : Bool := k?.any l.isStale
  let refused (k? : Option KeyCandidate) : Bool := k?.any fun k => l.isStale k && k.required
  ensure (!(l.candidate :: l.outer).any refused)
  let keep (k? : Option KeyCandidate) : Option KeyCandidate := if stale k? then none else k?
  set { l with candidate := keep l.candidate, outer := l.outer.map keep }

/-- What might have been a key is none. -/
def Lexing.dropCandidate : Lexing Unit := do
  let l ← get
  ensure (l.candidate.all fun k => !k.required)
  set { l with candidate := none }

/-- What follows may be a key, if one may begin here. -/
def Lexing.noteCandidate : Lexing Unit := do
  if (← get).keyAllowed then
    dropCandidate
    modify fun l =>
      let required := !l.inFlow && l.blocks.head? == some l.column
      { l with candidate := l.rest.head?.map fun g => ⟨l.count, g.line, g.column, required⟩ }

/-- Says whether a key may begin behind the next token. -/
def Lexing.allowKey (allowed : Bool) : Lexing Unit :=
  modify fun l => { l with keyAllowed := allowed }

/-- Goes on behind a token that has been read. -/
def Lexing.finish (token : Token) (rest : List Glyph) : Lexing Unit :=
  modify fun l => { l.push [token] with rest }

/-- A directive or a mark between documents. -/
def Lexing.betweenDocuments : Lexing Unit := do
  modify (closeBlocks none)
  dropCandidate
  allowKey false

/-- An opening bracket. -/
def Lexing.openFlow (token : Token) : Lexing Unit := do
  noteCandidate
  modify fun l => { l with outer := l.candidate :: l.outer, candidate := none, keyAllowed := true }
  modify (pushTaking 1 token)

/-- A closing bracket. -/
def Lexing.closeFlow (token : Token) : Lexing Unit := do
  dropCandidate
  modify fun l => match l.outer with
    | candidate :: outer => { l with candidate, outer }
    | [] => l
  allowKey false
  modify (pushTaking 1 token)

/-- A dash before an item. -/
def Lexing.dash : Lexing Unit := do
  let l ← get
  ensure (l.inFlow || l.keyAllowed)
  if !l.inFlow then modify (openBlock l.column l.count .blockSequence [])
  dropCandidate
  allowKey true
  modify (pushTaking 1 .dash)

/-- A question mark before a key. -/
def Lexing.explicitKey : Lexing Unit := do
  let l ← get
  ensure (l.inFlow || l.keyAllowed)
  if !l.inFlow then modify (openBlock l.column l.count .blockMapping [])
  dropCandidate
  allowKey (!l.inFlow)
  modify (pushTaking 1 .key)

/-- A colon before a value. What might have been a key is one now. -/
def Lexing.colon : Lexing Unit := do
  let l ← get
  match l.candidate with
  | some k => do
      modify (openBlock k.column k.place .blockMapping [.key])
      modify fun l => { l with candidate := none }
      allowKey false
  | none => do
      ensure (l.inFlow || l.keyAllowed)
      if !l.inFlow then modify (openBlock l.column l.count .blockMapping [])
      allowKey (!l.inFlow)
  modify (pushTaking 1 .value)

/-- A name behind a mark, with what may stand behind names. -/
def Lexing.mark (token : String → Token) : Lexing Unit := do
  noteCandidate
  allowKey false
  let (name, rest) := nameChars ((← get).rest.drop 1)
  let mayFollow := ['?', ':', ',', ']', '\x7d', '%', '@', '`']
  ensure (!name.isEmpty && (endsToken rest || (next? rest).any mayFollow.contains))
  finish (token name) rest

/-- A literal block. What stands behind it is at the beginning of a line. -/
def Lexing.block (style : ScalarStyle) : Lexing Unit := do
  dropCandidate
  allowKey true
  let l ← get
  let (text, rest) ← block? (style == .folded) l.blocks.head? (l.rest.drop 1)
  finish (.scalar ⟨style, text⟩) rest

/-- A text between quotes. -/
def Lexing.quoted (read? : List Glyph → Option (String × List Glyph)) : Lexing Unit := do
  noteCandidate
  allowKey false
  let (text, rest) ← read? ((← get).rest.drop 1)
  finish (.scalar ⟨.quoted, text⟩) rest

/-- A bare word. -/
def Lexing.plain : Lexing Unit := do
  noteCandidate
  let l ← get
  let (g, rest) ← plain? l.inFlow l.least Gathered.start l.rest
  allowKey g.gap.isAcross
  finish (.scalar ⟨.plain, g.trimmed⟩) rest

def Lexing.tag : Lexing Unit := do
  noteCandidate
  allowKey false
  let l ← get
  let (name, rest) ← tag? l.inFlow (l.rest.drop 1)
  finish (.tag name) rest

/-- The next token, which begins with a character. -/
def Lexing.token (c : Glyph) (rest : List Glyph) : Lexing Unit := do
  let inFlow := (← get).inFlow
  let standsAlone := endsToken rest
  if c.column == 0 && c.char == '%' then
    betweenDocuments
    let (directive, rest) ← directive? rest
    finish (.directive directive) rest
  else if atDocumentMark (c :: rest) then
    betweenDocuments
    modify (pushTaking 3 (if c.char == '-' then .documentStart else .documentEnd))
  else if beginsPlain inFlow (c :: rest) && !(c.char == '-' && standsAlone) then plain
  else match c.char with
    | '[' => openFlow .openSequence
    | '\x7b' => openFlow .openMapping
    | ']' => closeFlow .closeSequence
    | '\x7d' => closeFlow .closeMapping
    | ',' => do
        dropCandidate
        allowKey true
        modify (pushTaking 1 .comma)
    | '-' => dash
    | '?' => if inFlow || standsAlone then explicitKey else failure
    | ':' => if inFlow || standsAlone then colon else failure
    | '*' => mark .reference
    | '&' => mark .anchor
    | '!' => tag
    | '|' => if inFlow then failure else block .literal
    | '>' => if inFlow then failure else block .folded
    | '\'' => quoted (singleQuoted? Gathered.start)
    | '"' => quoted (doubleQuoted? Gathered.start .none)
    | _ => failure

/-- All tokens that are left, of which there are not more than `fuel`. -/
def Lexing.all : (fuel : Nat) → Lexing Unit
  | 0 => failure
  | fuel + 1 => do
      modify fun l => skip false l l.rest
      dropStale
      match (← get).rest with
      | [] => do
          modify (closeBlocks none)
          dropCandidate
      | c :: rest => do
          modify (closeBlocks (some c.column))
          token c rest
          all fuel

def tokens? (text : List Glyph) : Option (List Token) :=
  ((Lexing.all (text.length + 1)).run (Lexer.start text)).map fun (_, l) => l.tokens.reverse

end ClusterKeeper.Yaml
