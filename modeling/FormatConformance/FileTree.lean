import FormatConformance.Path

/-!
File trees as values: what lies at each path, how a path is followed, and what goes wrong with
reading a file or listing a directory. Relative paths start in a directory of the tree.

Every name in a tree is a Unicode string; a file may hold bytes that are no text, its name may not.
-/

namespace FormatConformance

inductive FileNode where
  | text (content : String)
  | script (content : String)
  | binary
  | directory
  deriving DecidableEq, Repr

def FileNode.content? : FileNode → Option String
  | .text content | .script content => some content
  | _ => none

inductive FileTrouble where
  | missing
  | notDirectory
  | isDirectory
  | denied
  | nameTooLong
  | zeroCharacter
  | notText
  deriving DecidableEq, Repr

namespace FileTrouble

def reason : FileTrouble → String
  | missing => "No such file or directory"
  | notDirectory => "Not a directory"
  | isDirectory => "Is a directory"
  | denied => "Permission denied"
  | nameTooLong => "File name too long"
  | zeroCharacter => "file name contained an unexpected NUL byte"
  | notText => "stream did not contain valid UTF-8"

def number? : FileTrouble → Option Nat
  | missing => some 2
  | notDirectory => some 20
  | isDirectory => some 21
  | denied => some 13
  | nameTooLong => some 36
  | zeroCharacter | notText => none

def message (trouble : FileTrouble) : String :=
  match trouble.number? with
  | some n => trouble.reason ++ " (os error " ++ toString n ++ ")"
  | none => trouble.reason

end FileTrouble

inductive FileAction where
  | openFile
  | readFile
  | listDirectory
  deriving DecidableEq, Repr

structure FileError where
  action : FileAction
  path : String
  trouble : FileTrouble
  deriving DecidableEq, Repr

namespace FileError

def message (e : FileError) : String :=
  (match e.action with
    | .openFile => "failed to open file `"
    | .readFile => "failed to read from file `"
    | .listDirectory => "failed to read directory `") ++
    e.path ++ "`: " ++ e.trouble.message

end FileError

/-- Nodes by the names that lead to them from the top, in the order in which they are listed. -/
abbrev FileTree := List (List String × FileNode)

namespace FileTree

def home : List String := ["work"]

def systemPrograms : List String :=
  ["[", "basename", "bash", "cat", "cut", "dash", "dirname", "echo", "egrep", "env", "expr",
    "false", "fgrep", "grep", "head", "mktemp", "printf", "rev", "rm", "sed", "seq", "sh", "sleep",
    "sort", "tac", "tail", "tee", "test", "touch", "tr", "true", "uniq", "wc"]

def systemDirectories : List String :=
  ["bin", "boot", "dev", "etc", "home", "lib", "media", "mnt", "opt", "proc", "root", "run", "sbin",
    "srv", "sys", "tmp", "usr", "var"]

/-- The devices that lie outside of the trees. Nothing is read from them. -/
def devices : List String := ["full", "null", "random", "stderr", "stdin", "stdout", "tty",
  "urandom", "zero"]

def outside : FileTree :=
  (home, .directory) :: systemDirectories.map (fun name => ([name], .directory)) ++
    ["bin", "lib", "local", "sbin", "share"].map (fun name => (["usr", name], .directory)) ++
    devices.map (fun name => (["dev", name], .text "")) ++
    ["passwd", "group", "hosts", "hostname"].map (fun name => (["etc", name], .text "")) ++
    systemPrograms.flatMap fun name => [(["bin", name], .binary), (["usr", "bin", name], .binary)]

/-- The top of a tree is a directory. -/
def node? (tree : FileTree) (names : List String) : Option FileNode :=
  if names.isEmpty then some .directory else tree.lookup names <|> outside.lookup names

def ensure (tree : FileTree) (names : List String) (node : FileNode) : FileTree :=
  if (tree.lookup names).isSome then tree else tree ++ [(names, node)]

def ensureParents (tree : FileTree) (names : List String) : FileTree :=
  (List.range names.length).foldl
    (fun tree n => if n = 0 then tree else tree.ensure (names.take n) .directory) tree

def write (tree : FileTree) (names : List String) (node : FileNode) : FileTree :=
  let tree := tree.ensureParents names
  if (tree.lookup names).isSome then
    tree.map fun entry => if entry.1 = names then (names, node) else entry
  else tree ++ [(names, node)]

def remove (tree : FileTree) (names : List String) : FileTree :=
  tree.filter fun entry => entry.1 ≠ names

def nameLimit : Nat := 255

def pathLimit : Nat := 4095

def follow (tree : FileTree) : List String → List String → Except FileTrouble (List String)
  | reached, [] => .ok reached
  | reached, piece :: rest =>
    match tree.node? reached.reverse with
    | some .directory =>
      match Path.part? piece with
      | none | some .root | some .here => follow tree reached rest
      | some .up => follow tree (reached.drop 1) rest
      | some (.name text) =>
        if nameLimit < text.utf8ByteSize then .error .nameTooLong
        else if (tree.node? (text :: reached).reverse).isSome then
          follow tree (text :: reached) rest
        else .error .missing
    | some _ => .error .notDirectory
    | none => .error .missing

def resolveFrom (tree : FileTree) (base : List String) (path : String) :
    Except FileTrouble (List String) :=
  if path.toList.contains '\x00' then .error .zeroCharacter
  else if path = "" then .error .missing
  else if pathLimit < path.utf8ByteSize then .error .nameTooLong
  else
    let start := if Path.isAbsolute path then [] else base.reverse
    (tree.follow start (Path.pieces path)).map List.reverse

def resolve (tree : FileTree) (path : String) : Except FileTrouble (List String) :=
  tree.resolveFrom home path

def readText (tree : FileTree) (path : String) : Except FileError String :=
  match tree.resolve path with
  | .error trouble => .error ⟨.openFile, path, trouble⟩
  | .ok names =>
    match tree.node? names with
    | some (.text content) | some (.script content) => .ok content
    | some .binary => .error ⟨.readFile, path, .notText⟩
    | some .directory => .error ⟨.readFile, path, .isDirectory⟩
    | none => .error ⟨.openFile, path, .missing⟩

def children (tree : FileTree) (names : List String) : List (String × FileNode) :=
  tree.filterMap fun (path, node) =>
    match path.getLast? with
    | some last => if path.dropLast = names then some (last, node) else none
    | none => none

def list (tree : FileTree) (path : String) : Except FileError (List (String × FileNode)) :=
  match tree.resolve path with
  | .error trouble => .error ⟨.listDirectory, path, trouble⟩
  | .ok names =>
    match tree.node? names with
    | some .directory => .ok (tree.children names)
    | some _ => .error ⟨.listDirectory, path, .notDirectory⟩
    | none => .error ⟨.listDirectory, path, .missing⟩

end FileTree

end FormatConformance
