import FormatConformance.Engine.Basic
import FormatConformance.Text.LineEnding

/-! Why an entry fails, with the message, the code and the advice that are shown for it. -/

namespace FormatConformance

/-- A text that differs from the one stored under the key. There is no diff where none is stored. -/
structure SnapshotMismatch where
  key : String
  diff : Option String
  deriving DecidableEq, Repr

inductive Failure where
  | mixedEndOfLine (diff : String)
  | unexpectedSuccess (label : String)
  | unexpectedError (label : String) (cause : Rejection)
  | primaryUnavailable (cause : Rejection)
  | outputMismatch (label : String) (diff : String)
  | notIdempotent (diff : String)
  | unstableConverged
  | treeChanged (diff : String)
  | treeUnstableConverged
  | endOfLineProbe (ending : LineEnding) (diff : String)
  | byteOrderMarkProbe (diff : String)
  | snapshot (mismatch : SnapshotMismatch)
  deriving DecidableEq, Repr

namespace SnapshotMismatch

def message (m : SnapshotMismatch) : String :=
  "snapshot `" ++ m.key ++ "` does not match its baseline:\n" ++
    m.diff.getD "snapshot assertion failed"

end SnapshotMismatch

namespace Failure

def message : Failure → String
  | mixedEndOfLine diff => "output mixes line terminators:\n" ++ diff
  | unexpectedSuccess label => "[" ++ label ++ "] formatting was expected to fail but succeeded"
  | unexpectedError label cause => "[" ++ label ++ "] formatting failed: " ++ cause.message
  | primaryUnavailable cause => "the primary result could not be computed: " ++ cause.message
  | outputMismatch label diff =>
    "[" ++ label ++ "] output differs from the expected output:\n" ++ diff
  | notIdempotent diff => "formatting the output again changed it:\n" ++ diff
  | unstableConverged => "fixture is listed as unstable but now reaches a fixed point"
  | treeChanged diff => "formatting changed the structural tree:\n" ++ diff
  | treeUnstableConverged =>
    "fixture is listed as structurally unstable but its tree is now preserved"
  | endOfLineProbe ending diff =>
    "input with " ++ ending.optionName ++ " line endings formatted differently:\n" ++ diff
  | byteOrderMarkProbe diff => "input with a byte order mark formatted differently:\n" ++ diff
  | snapshot mismatch => mismatch.message

def code : Failure → String
  | mixedEndOfLine _ => "fmtspec::mixed_end_of_line"
  | unexpectedSuccess _ => "fmtspec::unexpected_success"
  | unexpectedError _ _ => "fmtspec::unexpected_error"
  | primaryUnavailable _ => "fmtspec::primary_unavailable"
  | outputMismatch _ _ => "fmtspec::output_mismatch"
  | notIdempotent _ => "fmtspec::not_idempotent"
  | unstableConverged => "fmtspec::unstable_converged"
  | treeChanged _ => "fmtspec::ast_changed"
  | treeUnstableConverged => "fmtspec::ast_unstable_converged"
  | endOfLineProbe _ _ => "fmtspec::end_of_line_probe"
  | byteOrderMarkProbe _ => "fmtspec::bom_probe"
  | snapshot _ => "fmtspec::snapshot_mismatch"

def advice : Failure → Option String
  | unstableConverged => some "remove the fixture from the unstable list"
  | treeUnstableConverged => some "remove the fixture from the structurally unstable list"
  | snapshot _ => some "if the new output is intended, update the stored baseline"
  | _ => none

def sources : Failure → List String
  | unexpectedError _ cause | primaryUnavailable cause => [cause.message]
  | _ => []

end Failure

end FormatConformance
