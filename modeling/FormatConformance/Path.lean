import FormatConformance.Text.Search

/-!
Paths with `/` between their parts. Empty pieces between slashes and single dots mean nothing,
except for a dot at the front of a relative path; names are the parts that are left besides `..`.

A path is a Unicode string here. The names in a real file system need not be: what is no Unicode
in such a name may be lost when it is shown, so that two paths may show alike. Only paths that show
as they are have a counterpart in this type.
-/

namespace FormatConformance.Path

inductive Part where
  | root
  | here
  | up
  | name (text : String)
  deriving DecidableEq, Repr

def pieces (path : String) : List String := (path.toList.splitOn '/').map String.ofList

def part? (piece : String) : Option Part :=
  if piece = "" || piece = "." then none
  else if piece = ".." then some .up
  else some (.name piece)

/-- The piece at the front of a path that has further ones or is the whole path. -/
def front? (piece : String) (alone : Bool) : Option Part :=
  if piece = "" then if alone then none else some .root
  else if piece = "." then some .here
  else part? piece

def parts (path : String) : List Part :=
  match pieces path with
  | [] => []
  | first :: rest => (front? first rest.isEmpty).toList ++ rest.filterMap part?

def isAbsolute (path : String) : Bool := path.startsWith "/"

def names (path : String) : List String :=
  (parts path).filterMap fun part => match part with
    | .name text => some text
    | _ => none

def fileName? (path : String) : Option String :=
  match (parts path).getLast? with
  | some (.name text) => some text
  | _ => none

/-- What follows the last dot of a file name. A dot that starts the name does not count. -/
def extension? (path : String) : Option String := do
  let name ← fileName? path
  let reversed := name.toList.reverse
  let after := reversed.takeWhile (· ≠ '.')
  match reversed.drop after.length with
  | [] => none
  | [_] => none
  | _ => some (String.ofList after.reverse)

/-- Puts a path behind another one; an absolute path stands alone. -/
def join (base path : String) : String :=
  if isAbsolute path then path
  else if base = "" || base.endsWith "/" then base ++ path
  else base ++ "/" ++ path

def startsWith (path base : String) : Bool := (parts base).isPrefixOf (parts path)

def trimEnd (pieces : List String) : List String :=
  (pieces.reverse.dropWhile fun piece => (part? piece).isNone).reverse

def dropParts : Nat → List String → List String
  | 0, pieces => pieces
  | _, [] => []
  | n + 1, piece :: rest =>
    if (part? piece).isSome then dropParts n rest else dropParts (n + 1) rest

def ofPieces (pieces : List String) : String := "/".intercalate pieces

def relativeTo? (path base : String) : Option String :=
  if startsWith path base then
    match pieces path with
    | [] => some path
    | first :: rest =>
      let front := front? first rest.isEmpty
      match (parts base).length with
      | 0 =>
        match front with
        | some _ =>
          let kept := trimEnd rest
          some (if kept.isEmpty && first = "" then "/" else ofPieces (first :: kept))
        | none => some (ofPieces (trimEnd (first :: rest)))
      | n + 1 =>
        let behind := dropParts (if front.isSome then n else n + 1) rest
        some (ofPieces (trimEnd (behind.dropWhile fun piece => (part? piece).isNone)))
  else none

end FormatConformance.Path
