import FormatConformance.Shell.Arithmetic

/-! Test expressions, as the commands `test` and `[` evaluate them. -/

namespace FormatConformance.Shell.Test

inductive FileKind where
  | regular (size : Nat) (executable : Bool)
  | directory
  | device
  deriving DecidableEq, Repr

abbrev Files := Text → Option FileKind

def unaryOperators : List String :=
  ["-n", "-z", "-e", "-f", "-d", "-r", "-w", "-x", "-s", "-h", "-L", "-p", "-S", "-b", "-c", "-u",
    "-g", "-k", "-t", "-O", "-G"]

def binaryOperators : List String :=
  ["=", "!=", "<", ">", "-eq", "-ne", "-lt", "-le", "-gt", "-ge", "-nt", "-ot", "-ef"]

def isUnary (t : Text) : Bool := unaryOperators.contains (Text.asString t)

def isBinary (t : Text) : Bool := binaryOperators.contains (Text.asString t)

def isOperand (rest : List Text) : Bool :=
  match rest with
  | [] => true
  | second :: _ :: _ => isBinary second
  | [_] => false

def integer (t : Text) : Except Text Int :=
  match Arithmetic.readInteger? t with
  | some n => .ok n
  | none => .error ("Illegal number: ".toList ++ t)

def unary (files : Files) (operator arg : Text) : Bool :=
  match Text.asString operator with
  | "-n" => !arg.isEmpty
  | "-z" => arg.isEmpty
  | "-e" | "-r" | "-w" | "-O" | "-G" => (files arg).isSome
  | "-f" => match files arg with
    | some (.regular _ _) => true
    | _ => false
  | "-d" => files arg == some .directory
  | "-c" => files arg == some .device
  | "-x" => match files arg with
    | some (.regular _ executable) => executable
    | some .directory => true
    | _ => false
  | "-s" => match files arg with
    | some (.regular size _) => 0 < size
    | some .directory => true
    | _ => false
  | _ => false

def binary (left operator right : Text) : Except Text Bool := do
  match Text.asString operator with
  | "=" => return left == right
  | "!=" => return left != right
  | "<" => return left < right
  | ">" => return right < left
  | "-eq" => return (← integer left) == (← integer right)
  | "-ne" => return (← integer left) != (← integer right)
  | "-lt" => return (← integer left) < (← integer right)
  | "-le" => return (← integer left) ≤ (← integer right)
  | "-gt" => return (← integer right) < (← integer left)
  | "-ge" => return (← integer right) ≤ (← integer left)
  | _ => return false

abbrev Evaluation := StateT (List Text) (Except Text)

def accept (word : Text) : Evaluation Bool := do
  match ← get with
  | first :: rest =>
    if first == word then
      set rest
      return true
    else return false
  | [] => return false

mutual

def disjunction (files : Files) : Nat → Evaluation Bool
  | 0 => return false
  | fuel + 1 => do
    let left ← conjunction files fuel
    if ← accept ['-', 'o'] then
      let right ← disjunction files fuel
      return left || right
    else return left

def conjunction (files : Files) : Nat → Evaluation Bool
  | 0 => return false
  | fuel + 1 => do
    let left ← negation files fuel
    if ← accept ['-', 'a'] then
      let right ← conjunction files fuel
      return left && right
    else return left

def negation (files : Files) : Nat → Evaluation Bool
  | 0 => return false
  | fuel + 1 => do
    match ← get with
    | ['!'] :: rest =>
      if rest.isEmpty then primary files fuel
      else
        set rest
        return !(← negation files fuel)
    | _ => primary files fuel

def primary (files : Files) : Nat → Evaluation Bool
  | 0 => return false
  | fuel + 1 => do
    match ← get with
    | [] => return false
    | first :: rest =>
      if first == ['('] && !rest.isEmpty && !isOperand rest then
        set rest
        let inside ← disjunction files fuel
        if ← accept [')'] then return inside else throw "closing paren expected".toList
      if isUnary first && !isOperand rest then
        set (rest.drop 1)
        return unary files first (rest.headD [])
      match rest with
      | operator :: right :: further =>
        if isBinary operator then
          set further
          binary first operator right
        else
          set rest
          return !first.isEmpty
      | [operator] =>
        if isBinary operator then throw (operator ++ ": argument expected".toList)
        set rest
        return !first.isEmpty
      | [] =>
        set rest
        return !first.isEmpty

end

def expression (files : Files) (words : List Text) : Except Text Bool := do
  let (result, rest) ← (disjunction files (8 * words.length + 8)).run words
  if rest.isEmpty then return result
  else
    let last := (words[words.length - rest.length - 1]?).getD []
    throw (last ++ ": unexpected operator".toList)

/-- Whether a test of the given words succeeds, or a complaint about it. A binary operator in the
middle of three words wins over everything else. -/
def holds (files : Files) (words : List Text) : Except Text Bool :=
  match words with
  | [] => .ok false
  | [word] => .ok !word.isEmpty
  | [left, operator, right] =>
    if isBinary operator then binary left operator right else expression files words
  | _ => expression files words

end FormatConformance.Shell.Test
