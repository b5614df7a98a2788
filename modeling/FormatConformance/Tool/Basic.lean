import FormatConformance.Text.Search

/-! Tools: commands that turn the contents of files into output. All texts are byte texts. -/

namespace FormatConformance

namespace Tool

structure Outcome where
  output : Text := []
  errors : Text := []
  status : Nat := 0
  deriving DecidableEq, Repr

namespace Outcome

def printed (output : Text) : Outcome := { output }

def succeeded (success : Bool) : Outcome := { status := if success then 0 else 1 }

def refused (name : String) (message : Text) (status : Nat) : Outcome :=
  { errors := name.toList ++ ": ".toList ++ message ++ ['\n'], status }

def append (a b : Outcome) : Outcome where
  output := a.output ++ b.output
  errors := a.errors ++ b.errors
  status := max a.status b.status

instance : Append Outcome := ⟨append⟩

end Outcome

structure Input where
  name : Text
  content : Text

/-- What a tool does with its arguments. -/
inductive Plan where
  | finish (outcome : Outcome)
  | take (count : Nat)
  | read (files : List Text) (work : List Input → Outcome)

end Tool

abbrev Tool := List Text → Tool.Plan

namespace Tool

def Plan.filter (files : List Text) (work : Text → Text) : Plan :=
  .read files fun inputs => .printed (work (inputs.flatMap Input.content))

structure Options where
  letters : List (Char × Text) := []
  operands : List Text := []

namespace Options

def has (o : Options) (letter : Char) : Bool := (o.letters.lookup letter).isSome

/-- The argument of an option; the one that is given last counts. -/
def get? (o : Options) (letter : Char) : Option Text := o.letters.reverse.lookup letter

def all (o : Options) (letter : Char) : List Text :=
  o.letters.filterMap fun (other, arg) => if other == letter then some arg else none

def readLetters (takers : Text) : Text → List (Char × Text) × Option Char
  | [] => ([], none)
  | c :: rest =>
    if takers.contains c then if rest.isEmpty then ([], some c) else ([(c, rest)], none)
    else
      let (letters, last) := readLetters takers rest
      ((c, []) :: letters, last)

def read (takers : Text) : Nat → List Text → Options
  | 0, _ => {}
  | fuel + 1, args =>
    match args with
    | [] => {}
    | ['-', '-'] :: rest => { operands := rest }
    | ('-' :: c :: group) :: rest =>
      let (letters, last) := readLetters takers (c :: group)
      match last with
      | none =>
        let more := read takers fuel rest
        { more with letters := letters ++ more.letters }
      | some taker =>
        let more := read takers fuel rest.tail
        { more with letters := letters ++ (taker, rest.headD []) :: more.letters }
    | operand :: rest =>
      let more := read takers fuel rest
      { more with operands := operand :: more.operands }

def ofArguments (takers : String) (args : List Text) : Options :=
  read takers.toList (args.length + 1) args

end Options

def lines (t : Text) : List Text :=
  if t.isEmpty then []
  else
    let pieces := t.splitOn '\n'
    if pieces.getLast? == some [] then pieces.dropLast else pieces

def unlines (ls : List Text) : Text := ls.flatMap fun l => l ++ ['\n']

def decimal? (t : Text) : Option Nat :=
  if t.isEmpty || !t.all Char.isDigit then none
  else some (t.foldl (fun n c => n * 10 + (c.toNat - 48)) 0)

def shown (n : Nat) : Text := (toString n).toList

def padStart (width : Nat) (t : Text) : Text := List.replicate (width - t.length) ' ' ++ t

end Tool

end FormatConformance
