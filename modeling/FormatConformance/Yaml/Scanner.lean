import FormatConformance.Yaml.Token

/-!
Where the scanning of a text stands. Indentation opens and closes block collections; what stands
before a colon becomes a key only when the colon is met, so that the tokens of a key are put in
place afterwards.
-/

namespace FormatConformance.Yaml

structure PendingKey where
  position : Nat
  index : Nat
  line : Nat
  column : Nat
  required : Bool

/-- The place in the text, and what is open there. Only line feeds start a new column count. -/
structure Scanner where
  rest : Text
  index : Nat := 0
  line : Nat := 0
  column : Nat := 0
  indents : List Nat := []
  keys : List (Option PendingKey) := [none]
  keyAllowed : Bool := true
  adjacent : Option Nat := none
  tokens : List Token := []

namespace Scanner

def inFlow (s : Scanner) : Bool := 1 < s.keys.length

def margin (s : Scanner) : Nat :=
  match s.indents with
  | [] => 0
  | column :: _ => column + 1

def advance (s : Scanner) : Scanner :=
  match s.rest with
  | [] => s
  | '\n' :: rest => { s with rest, index := s.index + 1, line := s.line + 1, column := 0 }
  | _ :: rest => { s with rest, index := s.index + 1, column := s.column + 1 }

def advanceBy : Nat → Scanner → Scanner
  | 0, s => s
  | n + 1, s => advanceBy n s.advance

def advanceWhile (test : Char → Bool) (s : Scanner) : Scanner :=
  s.advanceBy (s.rest.takeWhile test).length

def skipBreak (s : Scanner) : Scanner :=
  match s.rest with
  | '\r' :: '\n' :: _ => s.advanceBy 2
  | '\r' :: _ | '\n' :: _ => s.advance
  | _ => s

def skipComment (s : Scanner) : Scanner :=
  if s.rest.head? == some '#' then s.advanceWhile (!isBreak ·) else s

def push (s : Scanner) (t : Token) : Scanner := { s with tokens := s.tokens ++ [t] }

def allowKey (s : Scanner) (allowed : Bool) : Scanner := { s with keyAllowed := allowed }

def atMarker (s : Scanner) : Bool :=
  s.column == 0 &&
    ((['-', '-', '-'].isPrefixOf s.rest || ['.', '.', '.'].isPrefixOf s.rest) &&
      endsWord (s.rest.drop 3))

def unroll (s : Scanner) (margin : Nat) : Scanner :=
  if s.inFlow then s
  else
    let closed := s.indents.takeWhile (margin ≤ ·)
    { s with
      indents := s.indents.drop closed.length
      tokens := s.tokens ++ closed.map fun _ => .blockEnd }

def roll (s : Scanner) (column position : Nat) (t : Token) : Scanner :=
  if s.inFlow || column < s.margin then s
  else { s with indents := column :: s.indents, tokens := s.tokens.insertIdx position t }

def dropKey (s : Scanner) : Option Scanner :=
  match s.keys with
  | some key :: keys => if key.required then none else some { s with keys := none :: keys }
  | _ => some s

def saveKey (s : Scanner) : Option Scanner :=
  if s.keyAllowed then do
    let s ← s.dropKey
    let key : PendingKey :=
      { position := s.tokens.length, index := s.index, line := s.line, column := s.column,
        required := s.inFlow && s.margin == s.column + 1 }
    return { s with keys := some key :: s.keys.drop 1 }
  else some s

def longestKey : Nat := 1024

/-- Keys do not reach over the end of a line, nor are they longer than the longest one. -/
def dropStaleKeys (s : Scanner) : Option Scanner := do
  let keys ← s.keys.mapM fun key => match key with
    | some key =>
      if key.line < s.line || key.index + longestKey < s.index then
        (if key.required then none else some none)
      else some (some key)
    | none => some none
  return { s with keys }

def skipBlanks : Nat → Scanner → Scanner
  | 0, s => s
  | fuel + 1, s =>
    match s.rest with
    | ' ' :: _ => skipBlanks fuel s.advance
    | '\t' :: _ => if s.inFlow || !s.keyAllowed then skipBlanks fuel s.advance else s
    | '\n' :: _ | '\r' :: _ =>
      skipBlanks fuel (s.skipBreak.allowKey (!s.inFlow || s.keyAllowed))
    | '#' :: _ => skipBlanks fuel s.skipComment
    | _ => s

end Scanner

end FormatConformance.Yaml
