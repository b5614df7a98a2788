import FormatConformance.Text.BreakClass

/-!
Opportunities for line breaks: the Unicode line breaking algorithm. The classes on both sides of a
place, looked through blanks where a rule says so, decide whether a line may be broken there. Marks
take part in nothing: they belong to the character before them. In scripts without blanks, lines are
broken between runs of different scripts.
-/

namespace FormatConformance.Text

namespace BreakClass

def isComplex : BreakClass → Bool
  | complex _ => true
  | _ => false

def isLetter (b : BreakClass) : Bool :=
  b == alphabetic || b == hebrew || b == dottedCircle || b.isComplex

def isMandatory (b : BreakClass) : Bool :=
  b == mandatory || b == carriageReturn || b == lineFeed || b == nextLine

def isMark (b : BreakClass) : Bool := b == combining || b == joiner

def takesMarks (b : BreakClass) : Bool := !(b.isMandatory || b == space || b == zeroWidthSpace)

def isOpening (b : BreakClass) : Bool := b == openPunctuation || b == wideOpenPunctuation

def isClosing (b : BreakClass) : Bool := b == closePunctuation || b == closeParenthesis

def isQuotation (b : BreakClass) : Bool :=
  b == quotation || b == openQuotation || b == closeQuotation

def isPicture (b : BreakClass) : Bool :=
  b == ideographic || b == reservedPicture || b == emojiBase || b == emojiModifier

def isHangul (b : BreakClass) : Bool :=
  b == leadingJamo || b == vowelJamo || b == trailingJamo || b == hangulPair || b == hangulTriple

def isAffix (b : BreakClass) : Bool := b == prefixNumeric || b == postfixNumeric

def isAksara (b : BreakClass) : Bool := b == aksara || b == aksaraStart || b == dottedCircle

def neverStarts (b : BreakClass) : Bool :=
  b.isClosing || b == exclamation || b == infixSeparator || b == symbolSeparator || b == wordJoiner

def holdsApart (a b : BreakClass) : Bool :=
  a.isOpening || (a.isClosing && b == nonStarter) || (a == breakBoth && b == breakBoth)

def endsQuotation : Option BreakClass → Bool
  | none => true
  | some b => b.isMandatory || b.isQuotation || b.isClosing || b == space || b == glue ||
    b == wordJoiner || b == exclamation || b == infixSeparator || b == symbolSeparator ||
    b == zeroWidthSpace

def startsQuotation : Option BreakClass → Bool
  | none => true
  | some a => a.isMandatory || a.isOpening || a.isQuotation || a == glue || a == space ||
    a == zeroWidthSpace

def holdsNumber (a b : BreakClass) : Bool :=
  ((a.isClosing || a == numeric) && b.isAffix) || (a.isAffix && (b.isOpening || b == numeric)) ||
  ((a == hyphen || a == infixSeparator || a == numeric || a == symbolSeparator) && b == numeric)

def holdsSyllable (a b : BreakClass) : Bool :=
  (a == leadingJamo && b.isHangul && b != trailingJamo) ||
  ((a == vowelJamo || a == hangulPair) && (b == vowelJamo || b == trailingJamo)) ||
  ((a == trailingJamo || a == hangulTriple) && b == trailingJamo) ||
  (a.isHangul && b == postfixNumeric) || (a == prefixNumeric && b.isHangul)

def holdsAksara (a b : BreakClass) : Bool :=
  (a == aksaraPrebase && b.isAksara) || (a.isAksara && (b == viramaFinal || b == virama))

def holdsPair (a b : BreakClass) : Bool :=
  b == breakAfter || b == hyphen || b == nonStarter || a == breakBefore ||
  (a == symbolSeparator && b == hebrew) || b == inseparable ||
  (a.isLetter && b == numeric) || (a == numeric && b.isLetter) ||
  (a == prefixNumeric && b.isPicture) || (a.isPicture && b == postfixNumeric) ||
  (a.isAffix && b.isLetter) || (a.isLetter && b.isAffix) ||
  holdsNumber a b || holdsSyllable a b || holdsAksara a b ||
  ((a.isLetter || a == infixSeparator) && b.isLetter) ||
  ((a.isLetter || a == numeric) && b == openPunctuation) ||
  (a == closeParenthesis && (b.isLetter || b == numeric)) ||
  ((a == emojiBase || a == reservedPicture) && b == emojiModifier)

def holds (a b : BreakClass) : Bool :=
  a == wordJoiner || a == glue ||
  (b == glue && a != breakAfter && a != hyphen) ||
  a.isQuotation || b.isQuotation || (a != contingent && b != contingent && holdsPair a b)

end BreakClass

structure BreakState where
  last : Option BreakClass := none
  earlier : Option BreakClass := none
  solid : Option BreakClass := none
  quoting : Bool := false
  joined : Bool := false
  regionals : Nat := 0
  /-- Whether a character of a script without blanks came last, with no mark on it. -/
  unspaced : Bool := false
  paired : Bool := false

namespace BreakState

def holdsInContext (s : BreakState) (a b : BreakClass) (next : Option BreakClass) : Bool :=
  (s.earlier == some .hebrew && (a == .hyphen || a == .breakAfter)) ||
  (s.earlier.any (·.isAksara) && a == .virama && (b == .aksara || b == .dottedCircle)) ||
  (a.isAksara && b.isAksara && next == some .viramaFinal) ||
  (a == .regional && b == .regional && s.regionals % 2 == 1)

/-- Whether the line may be broken between `a` and `b`, neither of which ends a line or is a mark;
`next` is what follows `b`. -/
def parts (s : BreakState) (a b : BreakClass) (next : Option BreakClass) : Bool :=
  if b.neverStarts || s.quoting || (b == .closeQuotation && BreakClass.endsQuotation next) ||
    s.solid.any (·.holdsApart b) then false
  else if a == .dottedCircle && b == .dottedCircle then s.paired
  else a == .space || !(a.holds b || s.holdsInContext a b next)

def breaks (s : BreakState) (b : BreakClass) (next : Option BreakClass) : Bool :=
  match s.last with
  | none => false
  | some a =>
    if a.isMandatory then !(a == .carriageReturn && b == .lineFeed)
    else if s.unspaced && b.isComplex then a != b
    else if b.isMandatory || b == .space || b == .zeroWidthSpace then false
    else if s.solid == some .zeroWidthSpace then true
    else if s.joined || (b.isMark && a.takesMarks) then false
    else s.parts a (if b.isMark then .alphabetic else b) next

def after (s : BreakState) (b : BreakClass) : BreakState :=
  if b.isMark && s.last.any (·.takesMarks) then
    { s with joined := b == .joiner, unspaced := false }
  else
    let cls := if b.isMark then .alphabetic else b
    if cls == .space then
      { s with
        last := some .space
        earlier := s.last
        joined := false
        unspaced := false
        paired := false }
    else
      { last := some cls
        earlier := s.last
        solid := some cls
        quoting := cls == .openQuotation && BreakClass.startsQuotation s.last
        joined := b == .joiner
        regionals := if cls == .regional then
          (if s.last == some .regional then s.regionals + 1 else 1) else 0
        unspaced := cls.isComplex
        paired := cls == .dottedCircle && s.last == some .dottedCircle && !s.paired }

end BreakState

def breaksFrom : BreakState → List BreakClass → List Bool
  | _, [] => []
  | s, b :: rest => s.breaks b (rest.find? (!·.isMark)) :: breaksFrom (s.after b) rest

def breaksBefore (t : Text) : List Bool := breaksFrom {} (t.map BreakClass.ofChar)

end FormatConformance.Text
