import FormatConformance.Text.Blank
import FormatConformance.Text.Search
import FormatConformance.Yaml.Reader

/-!
Snapshot files: a header between two lines of dashes, which is a YAML mapping, then the text. An
older form has a header of plain lines that ends with an empty line. Texts are compared without
blanks at their end and with line feeds alone between lines; failing that, as they were compared in
older files.
-/

namespace FormatConformance

structure SnapshotFile where
  text : Text
  bare : Bool
  attachment : Option Text := none

inductive SnapshotFault where
  | notUnderstood
  | noNumber
  deriving DecidableEq, Repr

namespace SnapshotFile

def rule : Text := ['-', '-', '-']

def isRule (line : Text) : Bool := Text.trimEnd line == rule

def origin : Text := "src/snapshot".toList

def isOrigin (source : Text) : Bool := source.takeWhile (· ≠ '.') == origin

def hasRemarks (pairs : List (Yaml × Yaml)) : Bool :=
  (["description", "expression", "input_file"].any fun key =>
    ((Yaml.valueOf? pairs key).bind Yaml.text?).isSome) ||
  match Yaml.valueOf? pairs "info" with
  | none | some .null => false
  | some _ => true

def isBare (pairs : List (Yaml × Yaml)) : Bool :=
  ((Yaml.valueOf? pairs "source").bind Yaml.text?).any isOrigin && !hasRemarks pairs

def isBinary (pairs : List (Yaml × Yaml)) : Bool :=
  (Yaml.valueOf? pairs "snapshot_kind").bind Yaml.text? == some "binary".toList

def withoutEnd (line : Text) : Text :=
  match line.reverse with
  | '\n' :: '\r' :: rest | '\n' :: rest => rest.reverse
  | _ => line

def textOf (lines : List Text) : Text := ['\n'].intercalate (lines.map withoutEnd)

def readRuled (first : Text) (rest : List Text) : Except SnapshotFault SnapshotFile :=
  let header := rest.takeWhile fun line => !isRule line
  match Yaml.read? (first ++ header.flatten) with
  | some (.mapping pairs) =>
    let attachment := (Yaml.valueOf? pairs "extension").bind Yaml.text?
    if isBinary pairs && attachment.isNone then .error .notUnderstood
    else
      let text := textOf (rest.drop (header.length + 1))
      .ok ⟨text, isBare pairs, attachment.filter fun _ => isBinary pairs⟩
  | some .endless => .error .noNumber
  | _ => .error .notUnderstood

def remark? (key : String) (line : Text) : Option Text := do
  let (name, value) ← Text.splitFirst? [':'] line
  guard (Text.asString (name.map Char.toLower) == key)
  return Text.trim value

def readPlain (rest : List Text) : SnapshotFile :=
  let header := rest.takeWhile fun line => !(Text.trimEnd line).isEmpty
  let source := (header.filterMap (remark? "source")).getLast?
  ⟨textOf (rest.drop (header.length + 1)),
    source.any isOrigin && (header.filterMap (remark? "expression")).isEmpty, none⟩

def lines (t : Text) : List Text :=
  let pieces := t.splitOn '\n'
  (pieces.dropLast.map (· ++ ['\n'])) ++ (pieces.getLast?.toList.filter (!·.isEmpty))

def read (content : Text) : Except SnapshotFault SnapshotFile :=
  match lines content with
  | [] => .ok (readPlain [])
  | first :: rest => if isRule first then readRuled first rest else .ok (readPlain rest)

def normal (t : Text) : Text := Text.replaceAll ['\r', '\n'] ['\n'] (Text.trimEnd t)

/-- The form in which texts were compared in older files: without line ends at the start, and
without a line of dashes there. -/
def reduced (t : Text) : Text :=
  let below := (normal t).dropWhile fun c => c == '\r' || c == '\n'
  ((rule ++ ['\n']).isPrefixOf? below).getD below

def admits (f : SnapshotFile) (t : Text) : Bool :=
  f.attachment.isNone && (normal f.text == normal t || reduced f.text == reduced t)

def isExact (f : SnapshotFile) (t : Text) : Bool :=
  f.attachment.isNone && normal f.text == normal t && f.bare

def belowHeader? (content : Text) : Option Text := do
  let behind ← (rule ++ ['\n']).isPrefixOf? content
  let (_, body) ← Text.splitFirst? (['\n'] ++ rule ++ ['\n']) behind
  return body

def shown? (content : Text) : Option Text := (belowHeader? content).map Text.trimEnd

def header : Text := "---\nsource: ".toList ++ origin ++ "\n---\n".toList

def written (t : Text) : Text := header ++ normal t ++ ['\n']

end SnapshotFile

end FormatConformance
