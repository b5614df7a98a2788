import FormatConformance.Text.Letter
import FormatConformance.Text.LineBreak
import FormatConformance.Text.Search
import FormatConformance.Text.Width

/-!
Filling: lines that are too wide are broken between words, after hyphens inside words, and inside
words that are wider than a line. Each line starts with an indent, the first one with one of its
own.
-/

namespace FormatConformance.Text

structure Word where
  body : Text
  blanks : Nat
  deriving DecidableEq, Repr

def Word.ofText (t : Text) : Word :=
  let body := (t.reverse.dropWhile (· == ' ')).reverse
  ⟨body, t.length - body.length⟩

def dropLastTrue (flags : List Bool) : List Bool :=
  let trailing := flags.reverse.takeWhile (! ·)
  match flags.reverse.drop trailing.length with
  | [] => flags
  | _ :: rest => rest.reverse ++ false :: trailing

def suppressesBreak (c : Char) : Bool := c == '-' || c.toNat == 0xAD

/-- Whether a word starts at each character. Breaks behind hyphens are left to the words, and the
last opportunity, which is the end of the text unless a hyphen stands there, is not used. -/
def wordStarts (t : Text) : List Bool :=
  let before := none :: t.map some
  let starts := (breaksBefore t).zipWith
    (fun flag previous => flag && !(previous.any suppressesBreak)) before
  if t.getLast?.any suppressesBreak then dropLastTrue starts else starts

def cutWords : List (Char × Bool) → List Bool → Text → Text → List Text
  | [], _, hidden, current =>
    let last := (hidden ++ current).reverse
    if last.isEmpty then [] else [last]
  | (c, false) :: rest, starts, hidden, current => cutWords rest starts (c :: hidden) current
  | (c, true) :: rest, starts, hidden, current =>
    if starts.head?.getD false then
      current.reverse :: cutWords rest starts.tail [] (c :: hidden)
    else cutWords rest starts.tail [] (c :: hidden ++ current)

def lineWords (t : Text) : List Word :=
  let marked := visible t
  let stripped := (marked.filter Prod.snd).map Prod.fst
  (cutWords marked (wordStarts stripped) [] []).map Word.ofText

def cutHyphens (previous : Option Char) : Text → Text → List Text
  | [], current => [current.reverse]
  | c :: rest, current =>
    let between := previous.any isLetterOrDigit && rest.head?.any isLetterOrDigit
    if c == '-' && between then (c :: current).reverse :: cutHyphens (some c) rest []
    else cutHyphens (some c) rest (c :: current)

def Word.ofParts (parts : List Text) (blanks : Nat) : List Word :=
  match parts with
  | [] => []
  | [last] => [⟨last, blanks⟩]
  | part :: rest => ⟨part, 0⟩ :: Word.ofParts rest blanks

def cutColumns (limit : Nat) : List (Char × Bool) → Nat → Text → List Text
  | [], _, current => if current.isEmpty then [] else [current.reverse]
  | (c, shown) :: rest, used, current =>
    let size := if shown then columns c else 0
    if shown && 0 < used && limit < used + size then
      current.reverse :: cutColumns limit rest size [c]
    else cutColumns limit rest (used + size) (c :: current)

def Word.narrow (limit : Nat) (w : Word) : List Word :=
  (Word.ofParts (cutHyphens none w.body []) w.blanks).flatMap fun part =>
    if limit < width part.body then
      Word.ofParts (cutColumns limit (visible part.body) 0 []) part.blanks
    else [part]

/-- Puts words on lines as long as they fit; `line` holds the words of the line in progress, last
word first, and `used` their columns. -/
def firstFit (limit : Nat) : List Word → List Word → Nat → List (List Word)
  | [], line, _ => [line.reverse]
  | w :: rest, line, used =>
    let size := width w.body
    if limit < used + size && !line.isEmpty then
      line.reverse :: firstFit limit rest [w] (size + w.blanks)
    else firstFit limit rest (w :: line) (used + size + w.blanks)

def lineText : List Word → Text
  | [] => []
  | [w] => w.body
  | w :: rest => w.body ++ List.replicate w.blanks ' ' ++ lineText rest

/-- The lines that a line without terminator is broken into. An empty word comes first, so that the
first word may go to a new line like any other. -/
def breakLine (limit : Nat) (t : Text) : List Text :=
  let words := ⟨[], 0⟩ :: (lineWords t).flatMap (Word.narrow limit)
  (firstFit limit words [] 0).map lineText

structure Indent where
  first : Text
  further : Text

def fill (columns : Nat) (indent : Indent) (t : Text) : Text :=
  let broken := (t.splitOn '\n').flatMap (breakLine (columns - width indent.further))
  let lines := match broken with
    | [] => []
    | first :: rest => (indent.first ++ first) :: rest.map (indent.further ++ ·)
  ['\n'].intercalate lines

end FormatConformance.Text
