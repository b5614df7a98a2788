import FormatConformance.Shell.Syntax
import FormatConformance.Tool.CharSet

/-! Patterns of the shell, and the parts of texts that they match. -/

namespace FormatConformance.Shell

inductive Glob where
  | exactly (c : Char)
  | any
  | many
  | oneOf (set : Tool.CharSet)
  deriving DecidableEq, Repr

def globMatches : List Glob → Text → Bool
  | [], t => t.isEmpty
  | [.many], _ => true
  | .many :: rest, t => (List.range (t.length + 1)).any fun n => globMatches rest (t.drop n)
  | .any :: rest, t => match t with
    | [] => false
    | _ :: t => globMatches rest t
  | .oneOf set :: rest, t => match t with
    | [] => false
    | c :: t => set.contains c && globMatches rest t
  | .exactly c :: rest, t => match t with
    | [] => false
    | d :: t => c == d && globMatches rest t

structure Mark where
  char : Char
  quoted : Bool
  deriving DecidableEq, Repr

/-- The pattern that marks spell. A bracket that is not closed stands for itself, and inside a set
quotes mean nothing. `skip` marks belong to a set that was read. -/
def globOf : Nat → List Mark → List Glob
  | _, [] => []
  | skip + 1, _ :: rest => globOf skip rest
  | 0, mark :: rest =>
    if mark.quoted then .exactly mark.char :: globOf 0 rest
    else match mark.char with
      | '*' => .many :: globOf 0 rest
      | '?' => .any :: globOf 0 rest
      | '[' =>
        match Tool.CharSet.read? ['!', '^'] (rest.map Mark.char) with
        | some (set, behind) => .oneOf set :: globOf (rest.length - behind.length) rest
        | none => .exactly '[' :: globOf 0 rest
      | c => .exactly c :: globOf 0 rest

def matchedStart? (glob : List Glob) (t : Text) (counts : List Nat) : Option Nat :=
  counts.find? fun n => globMatches glob (t.take n)

def Trim.apply (trim : Trim) (glob : List Glob) (t : Text) : Text :=
  let counts := List.range (t.length + 1)
  let behind := fun n => globMatches glob (t.drop n)
  match trim with
  | .shortestStart => t.drop ((matchedStart? glob t counts).getD 0)
  | .longestStart => t.drop ((matchedStart? glob t counts.reverse).getD 0)
  | .shortestEnd => t.take ((counts.reverse.find? behind).getD t.length)
  | .longestEnd => t.take ((counts.find? behind).getD t.length)

end FormatConformance.Shell
