import FormatConformance.FileTree
import FormatConformance.Snapshot.File
import FormatConformance.Snapshot.FileName
import FormatConformance.Snapshot.Policy
import FormatConformance.Snapshot.Store

/-!
Directories of snapshot files. A directory keeps each baseline in a file of its own. Unless the
policy takes it over, a text without an equal baseline is refused, and at most laid beside the
baseline as a pending text; an equal text puts an end to what is pending.
-/

namespace FormatConformance

structure SnapshotDirectory where
  path : List String
  /-- There is none if the environment asks for something unknown; all texts are refused then. -/
  policy : Option SnapshotPolicy

namespace SnapshotDirectory

def ending : String := "snap"

def fileName (key : String) : String := FileName.ofKey key ++ "." ++ ending

/-- The file of a pending text. Without a name, the ending itself is what the file is named for. -/
def pendingName (key : String) : String :=
  (if FileName.ofKey key = "" then "." ++ ending ++ "." ++ ending else fileName key) ++ ".new"

def bodies (d : SnapshotDirectory) (tree : FileTree) : List (String × Text) :=
  (tree.children d.path).filterMap fun (name, node) =>
    node.content?.map fun content =>
      (name, (SnapshotFile.belowHeader? content.toList).getD content.toList)

def content? (d : SnapshotDirectory) (key : String) (tree : FileTree) : Option Text :=
  ((tree.node? (d.path ++ [fileName key])).bind FileNode.content?).map String.toList

def write? (d : SnapshotDirectory) (name : String) (t : Text) (tree : FileTree) : Option FileTree :=
  if FileTree.nameLimit < name.utf8ByteSize ||
    tree.node? (d.path ++ [name]) == some .directory then none
  else some (tree.write (d.path ++ [name]) (.text (Text.asString (SnapshotFile.written t))))

/-- Removes the bytes that are pending under a key. There must be a directory or nothing at all, and
no directory among what is pending. -/
def clear? (d : SnapshotDirectory) (key : String) (tree : FileTree) : Option FileTree :=
  match tree.node? d.path with
  | none => some tree
  | some .directory =>
    let pending := (tree.children d.path).filter fun (name, _) =>
      name.startsWith (fileName key ++ ".new.")
    if pending.any fun (_, node) => node == .directory then none
    else some (pending.foldl (fun tree (name, _) => tree.remove (d.path ++ [name])) tree)
  | some _ => none

def settle (d : SnapshotDirectory) (key : String) (tree : FileTree) : FileTree :=
  let names := d.path ++ [pendingName key]
  if tree.node? names == some .directory then tree else tree.remove names

/-- The files after a text that has no equal baseline, and whether it is let through; nothing if the
files could not be written. -/
def takeOver? (d : SnapshotDirectory) (policy : SnapshotPolicy) (key : String) (t : Text)
    (tree : FileTree) : Option (Bool × FileTree) :=
  let accepted := fun (_ : Unit) => (d.write? (fileName key) t tree).map fun tree => (true, tree)
  let pending := fun (_ : Unit) =>
    (d.write? (pendingName key) t tree).map fun tree => (policy.lenient, tree)
  match policy.update with
  | .never => some (policy.lenient, tree)
  | .pending => pending ()
  | .unseen =>
    if (tree.node? (d.path ++ [fileName key])).isSome then pending () else accepted ()
  | .always | .force => accepted ()

def confirm? (d : SnapshotDirectory) (policy : SnapshotPolicy) (key : String) (exact : Bool)
    (t : Text) (tree : FileTree) : Option FileTree :=
  let tree := d.settle key tree
  if policy.update = .force && !exact then d.write? (fileName key) t tree else some tree

def hasBytes (d : SnapshotDirectory) (key : String) (tree : FileTree) (file : SnapshotFile) :
    Bool :=
  file.attachment.all fun ending =>
    (tree.node? (d.path ++ [fileName key ++ "." ++ Text.asString ending])).any (· ≠ .directory)

def file (d : SnapshotDirectory) (key : String) (tree : FileTree) :
    Except SnapshotFault (Option SnapshotFile) :=
  match (d.content? key tree).map SnapshotFile.read with
  | none | some (.error .notUnderstood) => .ok none
  | some (.error fault) => .error fault
  | some (.ok file) => .ok (if d.hasBytes key tree file then some file else none)

def examine? (d : SnapshotDirectory) (key : String) (t : Text) (tree : FileTree) :
    Option (Bool × FileTree) := do
  let policy ← d.policy
  let file ← (d.file key tree).toOption
  let tree ← d.clear? key tree
  let isExact := file.any (·.isExact t)
  if (if policy.exact then isExact else file.any (·.admits t)) then
    return (true, ← d.confirm? policy key isExact t tree)
  else d.takeOver? policy key t tree

def assertMatches (d : SnapshotDirectory) (key : String) (t : Text) (tree : FileTree) :
    Except SnapshotMismatch Unit × FileTree :=
  let (passed, after) := (d.examine? key t tree).getD (false, tree)
  if passed then (.ok (), after)
  else
    let difference := do
      let baseline ← SnapshotFile.shown? (← d.content? key after)
      diff baseline (Text.trimEnd t)
    (.error ⟨key, difference⟩, after)

def store (d : SnapshotDirectory) : SnapshotStore FileTree :=
  ⟨d.assertMatches, d.assertMatches⟩

end SnapshotDirectory

end FormatConformance
