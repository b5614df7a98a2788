import FormatConformance.Check.Failure
import FormatConformance.Diff.Unified
import FormatConformance.Engine.Pass

/-! Checks of a single pass, which ask nothing of the engine. -/

namespace FormatConformance

def agree (expected actual : Text) (failure : String → Failure) : Except Failure Unit :=
  match diff expected actual with
  | some difference => .error (failure difference)
  | none => .ok ()

namespace Pass

def checkEndOfLine (pass : Pass) : Except Failure Unit :=
  agree (LineEnding.spellOut (LineEnding.unify pass.outputWithCursor)) pass.spelledOutput
    .mixedEndOfLine

def checkOutput (pass : Pass) (expected : Text) (label : String) : Except Failure Unit :=
  agree (LineEnding.spellOut expected) pass.spelledOutput (.outputMismatch label)

end Pass

end FormatConformance
