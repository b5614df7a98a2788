import FormatConformance.Text.Basic

/-! Sets of characters as patterns write them: single characters, ranges and named classes. -/

namespace FormatConformance.Tool

abbrev CharRange := Char × Char

def classes : List (String × List CharRange) :=
  [("alpha", [('A', 'Z'), ('a', 'z')]),
    ("digit", [('0', '9')]),
    ("alnum", [('0', '9'), ('A', 'Z'), ('a', 'z')]),
    ("upper", [('A', 'Z')]),
    ("lower", [('a', 'z')]),
    ("space", [('\t', '\r'), (' ', ' ')]),
    ("blank", [('\t', '\t'), (' ', ' ')]),
    ("punct", [('!', '/'), (':', '@'), ('[', '`'), ('\x7b', '~')]),
    ("print", [(' ', '~')]),
    ("graph", [('!', '~')]),
    ("cntrl", [('\x00', '\x1f'), ('\x7f', '\x7f')]),
    ("xdigit", [('0', '9'), ('A', 'F'), ('a', 'f')])]

structure CharSet where
  negated : Bool
  ranges : List CharRange
  deriving DecidableEq, Repr

namespace CharSet

def contains (set : CharSet) (c : Char) : Bool :=
  (set.ranges.any fun (low, high) => low ≤ c && c ≤ high) != set.negated

end CharSet

def namedClass? (t : Text) : Option (List CharRange × Text) := do
  let name := t.takeWhile Char.isAlpha
  let ranges ← classes.lookup (Text.asString name)
  match t.drop name.length with
  | ':' :: ']' :: rest => some (ranges, rest)
  | _ => none

/-- The members of a set up to its closing bracket, which is no member unless it comes first. The
second part is the text after the set. -/
def members (first : Bool) : Nat → Text → Option (List CharRange × Text)
  | 0, _ => none
  | fuel + 1, t =>
    match t with
    | [] => none
    | '[' :: ':' :: rest =>
      match namedClass? rest with
      | some (ranges, rest) => do
        let (more, rest) ← members false fuel rest
        return (ranges ++ more, rest)
      | none => do
        let (more, rest) ← members false fuel (':' :: rest)
        return (('[', '[') :: more, rest)
    | c :: rest =>
      if c == ']' && !first then some ([], rest)
      else match rest with
        | '-' :: ']' :: _ => do
          let (more, rest) ← members false fuel rest
          return ((c, c) :: more, rest)
        | '-' :: high :: rest => do
          let (more, rest) ← members false fuel rest
          return ((c, high) :: more, rest)
        | rest => do
          let (more, rest) ← members false fuel rest
          return ((c, c) :: more, rest)

def CharSet.read? (negators : Text) (t : Text) : Option (CharSet × Text) :=
  let negated := t.head?.any negators.contains
  let inside := if negated then t.drop 1 else t
  (members true (inside.length + 1) inside).map fun (ranges, rest) => (⟨negated, ranges⟩, rest)

end FormatConformance.Tool
