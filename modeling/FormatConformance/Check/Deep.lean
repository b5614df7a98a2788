import FormatConformance.Check.Basic
import FormatConformance.Text.Blank

/-!
Deep checks, which format or parse again. Each of them passes or fails with one reason; an engine
that rejects a text that it is given on the way fails the check.
-/

namespace FormatConformance

abbrev Check (α : Type) := ExceptT Failure Logged α

structure Subject where
  engine : Engine
  code : Text
  options : Options
  pass : Pass

namespace Subject

def refused {α : Type} (s : Subject) (answer : Except Rejection α) : Except Failure α :=
  answer.mapError (.unexpectedError (Grammar.label s.options.parser))

def format (s : Subject) (text : Text) : Check Pass :=
  ExceptT.mk ((Pass.run s.engine text s.options).map s.refused)

def parse (s : Subject) (text : Text) : Check Json :=
  ExceptT.mk ((s.engine.callParse text s.options).map s.refused)

def require (result : Except Failure Unit) : Check Unit := ExceptT.mk (.pure result)

/-- Formatting the output again must not change it, unless the fixture is known not to settle; then
it must still not settle. Fixtures with markers are left out, because what is formatted is not the
fixture itself. -/
def checkSettled (s : Subject) (unstable : Bool) : Check Unit :=
  if !(s.pass.changed || unstable) || s.pass.input != s.code then Pure.pure ()
  else do
    let second ← s.format s.pass.output
    match diff s.pass.spelledOutput second.spelledOutput, unstable with
    | some difference, false => throw (.notIdempotent difference)
    | none, true => throw .unstableConverged
    | _, _ => Pure.pure ()

def isVoid (text : Text) : Bool := text.all fun c => Text.isBlank c || c == byteOrderMark

/-- The tree of the output must be that of the input, unless the fixture is known to change it;
then it must still change it. -/
def checkTree (s : Subject) (unstable : Bool) : Check Unit :=
  if !s.pass.changed || isVoid s.code then Pure.pure ()
  else do
    let before ← s.parse s.pass.input
    let after ← s.parse s.pass.output
    match before == after, unstable with
    | false, false =>
      throw (.treeChanged ((diff before.pretty.toList after.pretty.toList).getD ""))
    | true, true => throw .treeUnstableConverged
    | _, _ => Pure.pure ()

def skipsEndOfLine (code : Text) (options : Options) : Bool :=
  code.contains '\r' || options.requiresPragma || options.hasReversedRange

def probedOutput (s : Subject) (ending : LineEnding) : Text :=
  if s.options.keepsEndOfLine then
    LineEnding.spellOut (LineEnding.substitute ending s.pass.outputWithCursor)
  else s.pass.spelledOutput

def checkEnding (s : Subject) (ending : LineEnding) : Check Unit := do
  let probed ← s.format (LineEnding.substitute ending s.code)
  require (agree (s.probedOutput ending) probed.spelledOutput (.endOfLineProbe ending))

/-- The fixture with another terminator must be formatted the same way, up to the terminator if the
engine is told to keep it. -/
def checkEndings (s : Subject) : Check Unit :=
  if skipsEndOfLine s.code s.pass.options then Pure.pure ()
  else LineEnding.probes.forM s.checkEnding

def checkByteOrderMark (s : Subject) : Check Unit :=
  if s.code.head? == some byteOrderMark then Pure.pure ()
  else do
    let probed ← s.format (byteOrderMark :: s.code)
    require (agree (byteOrderMark :: s.pass.spelledOutput) probed.spelledOutput
      .byteOrderMarkProbe)

def checkDeeply (s : Subject) (unstable treeUnstable : Bool) : Check Unit := do
  s.checkSettled unstable
  s.checkTree treeUnstable
  s.checkEndings
  s.checkByteOrderMark

end Subject

end FormatConformance
