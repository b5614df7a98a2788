import FormatConformance.FileTree
import FormatConformance.Json.Reader
import FormatConformance.Text.Utf8

/-!
File trees as lists of JSON. An entry is a path with its content: a string is a text, a list of
numbers holds bytes, and anything else is a directory. A third item that is true makes a text
executable.
-/

namespace FormatConformance.Listing

def bytesNode (bytes : List Json) : FileNode :=
  match Text.ofBytes? (bytes.map fun byte => UInt8.ofNat (byte.nat?.getD 0)) with
  | some text => .text (Text.asString text)
  | none => .binary

def node (content : Json) (executable : Bool) : FileNode :=
  match content with
  | .string text => if executable then .script text else .text text
  | .array bytes => bytesNode bytes
  | _ => .directory

def entry? : Json → Option (List String × FileNode)
  | .array (.string path :: rest) =>
    some (Path.names path, node (rest.headD .null) ((rest.getD 1 .null).bool?.getD false))
  | _ => none

/-- Writes the entries of a listing below a directory, later ones over earlier ones. -/
def writeAll (directory : List String) (tree : FileTree) (entries : List Json) : FileTree :=
  (entries.filterMap entry?).foldl (fun tree (names, node) => tree.write (directory ++ names) node)
    tree

def read (directory : List String) (source : String) : Except Json.Error FileTree :=
  (Json.read source).map fun value => match value with
    | .array entries => writeAll directory [] entries
    | _ => []

def changed (before after : FileTree) : Json :=
  .array ((after.filter fun entry => !before.contains entry).filterMap fun (names, node) =>
    match node with
    | .text content | .script content =>
      some (.array [.string (Path.ofPieces names), .string content])
    | _ => none)

end FormatConformance.Listing
