import FormatConformance.Text.Basic

/-! Line terminators: which one a text uses, how outputs spell the unusual ones out so that a
comparison of two texts shows them, and how one terminator is put in place of another. -/

namespace FormatConformance

inductive LineEnding where
  | lf
  | crlf
  | cr
  deriving DecidableEq, Repr

namespace LineEnding

def chars : LineEnding → Text
  | lf => ['\n']
  | crlf => ['\r', '\n']
  | cr => ['\r']

def optionName : LineEnding → String
  | lf => "lf"
  | crlf => "crlf"
  | cr => "cr"

def all : List LineEnding := [lf, crlf, cr]

def probes : List LineEnding := [crlf, cr]

def guess : Text → LineEnding
  | [] => lf
  | '\r' :: '\n' :: _ => crlf
  | '\r' :: _ => cr
  | '\n' :: _ => lf
  | _ :: rest => guess rest

/-- Spells carriage returns out as `<CRLF>` and `<CR>`, with a line feed after each. -/
def spellOut : Text → Text
  | [] => []
  | '\r' :: '\n' :: rest => '<' :: 'C' :: 'R' :: 'L' :: 'F' :: '>' :: '\n' :: spellOut rest
  | '\r' :: rest => '<' :: 'C' :: 'R' :: '>' :: '\n' :: spellOut rest
  | c :: rest => c :: spellOut rest

def setAll (terminator : Text) : Text → Text
  | [] => []
  | '\r' :: '\n' :: rest => terminator ++ setAll terminator rest
  | '\r' :: rest => terminator ++ setAll terminator rest
  | '\n' :: rest => terminator ++ setAll terminator rest
  | c :: rest => c :: setAll terminator rest

def unify (t : Text) : Text := setAll (guess t).chars t

/-- Writes a terminator in place of every line feed, carriage returns being left alone. -/
def substitute (ending : LineEnding) (t : Text) : Text :=
  t.flatMap fun c => if c = '\n' then ending.chars else [c]

/-- The terminators of a text in order, a carriage return before a line feed making one with it. -/
def terminators : Text → List LineEnding
  | [] => []
  | '\r' :: '\n' :: rest => crlf :: terminators rest
  | '\r' :: rest => cr :: terminators rest
  | '\n' :: rest => lf :: terminators rest
  | _ :: rest => terminators rest

def pieces : Text → List Text
  | [] => [[]]
  | '\r' :: '\n' :: rest => [] :: pieces rest
  | '\r' :: rest => [] :: pieces rest
  | '\n' :: rest => [] :: pieces rest
  | c :: rest => (pieces rest).modifyHead (c :: ·)

end LineEnding

def byteOrderMark : Char := '\ufeff'

end FormatConformance
