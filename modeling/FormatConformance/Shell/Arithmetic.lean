import FormatConformance.Text.Search

/-!
Arithmetic of the shell: expressions over integers of 64 bits and over variables, which assignments
in an expression change.
-/

namespace FormatConformance.Shell.Arithmetic

inductive Token where
  | number (n : Int)
  | name (name : String)
  | operator (text : String)
  deriving DecidableEq, Repr

inductive Expression where
  | number (n : Int)
  | variable (name : String)
  | unary (operator : String) (argument : Expression)
  | binary (operator : String) (left right : Expression)
  | conditional (test yes no : Expression)
  | assign (name : String) (operator : Option String) (value : Expression)
  deriving Repr

def digitValue (c : Char) : Nat :=
  if c.isDigit then c.toNat - 48 else if c.isUpper then c.toNat - 55 else c.toNat - 87

def isHexDigit (c : Char) : Bool :=
  c.isDigit || ('a' ≤ c && c ≤ 'f') || ('A' ≤ c && c ≤ 'F')

def valueIn (base : Nat) (digits : Text) : Nat :=
  digits.foldl (fun n c => n * base + digitValue c) 0

/-- The number at the front of a text, by its base, and the text behind it. Without a digit behind
it, the mark of base sixteen is not part of the number. -/
def takeNumber (t : Text) : Nat × Text :=
  match t with
  | '0' :: 'x' :: rest | '0' :: 'X' :: rest =>
    let digits := rest.takeWhile isHexDigit
    if digits.isEmpty then (0, t.drop 1) else (valueIn 16 digits, rest.drop digits.length)
  | '0' :: rest =>
    let digits := rest.takeWhile Char.isDigit
    (valueIn 8 digits, rest.drop digits.length)
  | t =>
    let digits := t.takeWhile Char.isDigit
    (valueIn 10 digits, t.drop digits.length)

def isSpace (c : Char) : Bool := c == ' ' || ('\t' ≤ c && c ≤ '\r')

def readInteger? (t : Text) : Option Int :=
  let t := t.dropWhile isSpace
  let (negative, digits) := match t with
    | '-' :: rest => (true, rest)
    | '+' :: rest => (false, rest)
    | t => (false, t)
  if digits.head?.any Char.isDigit then
    let (n, rest) := takeNumber digits
    if rest.all isSpace then some (if negative then -n else n) else none
  else none

def wrap (n : Int) : Int := n.bmod (Nat.pow 2 64)

/-- The operators, with longer ones in front of those that they start with. -/
def operators : List String :=
  ["<<=", ">>=", "<<", ">>", "<=", ">=", "==", "!=", "&&", "||", "+=", "-=", "*=", "/=", "%=",
    "&=", "^=", "|=", "+", "-", "*", "/", "%", "<", ">", "&", "^", "|", "!", "~", "?", ":", "=",
    "(", ")"]

def tokens : Nat → Text → List Token
  | 0, _ => []
  | _, [] => []
  | fuel + 1, c :: rest =>
    if isSpace c then tokens fuel rest
    else if c.isDigit then
      let (n, behind) := takeNumber (c :: rest)
      .number n :: tokens fuel behind
    else if c.isAlpha || c == '_' then
      let name := (c :: rest).takeWhile fun d => d.isAlphanum || d == '_'
      .name (Text.asString name) :: tokens fuel ((c :: rest).drop name.length)
    else
      match operators.find? fun o => o.toList.isPrefixOf (c :: rest) with
      | some o => .operator o :: tokens fuel ((c :: rest).drop o.length)
      | none => [.operator (String.singleton c)]

def strength? : Token → Option (String × Nat)
  | .operator o =>
    (([(["||"], 1), (["&&"], 2), (["|"], 3), (["^"], 4), (["&"], 5), (["==", "!="], 6),
      (["<", ">", "<=", ">="], 7), (["<<", ">>"], 8), (["+", "-"], 9),
      (["*", "/", "%"], 10)] : List (List String × Nat)).find? fun row => row.1.contains o).map
        fun row => (o, row.2)
  | _ => none

def assigner? : Token → Option (Option String)
  | .operator o =>
    if o == "=" then some none
    else if ["+=", "-=", "*=", "/=", "%=", "<<=", ">>=", "&=", "^=", "|="].contains o then
      some (some (Text.asString o.toList.dropLast))
    else none
  | _ => none

abbrev Parser := StateT (List Token) (Except String)

def acceptOperator (o : String) : Parser Bool := do
  match ← get with
  | .operator p :: rest =>
    if p == o then
      set rest
      return true
    else return false
  | _ => return false

mutual

def assignment : Nat → Parser Expression
  | 0 => throw "expecting primary"
  | fuel + 1 => do
    match ← get with
    | .name name :: sign :: rest =>
      match assigner? sign with
      | some operator =>
        set rest
        return .assign name operator (← assignment fuel)
      | none => choice fuel
    | _ => choice fuel

def choice : Nat → Parser Expression
  | 0 => throw "expecting primary"
  | fuel + 1 => do
    let first ← unary fuel
    let test ← operands first 1 fuel
    if ← acceptOperator "?" then
      let yes ← assignment fuel
      if ← acceptOperator ":" then return .conditional test yes (← choice fuel)
      else throw "expecting ':'"
    else return test

/-- Continues an expression with operators that bind at least as strongly as `least`. -/
def operands (left : Expression) (least : Nat) : Nat → Parser Expression
  | 0 => throw "expecting primary"
  | fuel + 1 => do
    match ← get with
    | token :: rest =>
      match strength? token with
      | some (operator, strength) =>
        if strength < least then return left
        set rest
        let next ← unary fuel
        let right ← operands next (strength + 1) fuel
        operands (.binary operator left right) least fuel
      | none => return left
    | [] => return left

def unary : Nat → Parser Expression
  | 0 => throw "expecting primary"
  | fuel + 1 => do
    match ← get with
    | .operator o :: rest =>
      if ["+", "-", "!", "~"].contains o then
        set rest
        return .unary o (← unary fuel)
      else if o == "(" then
        set rest
        let inside ← assignment fuel
        if ← acceptOperator ")" then return inside else throw "expecting ')'"
      else throw "expecting primary"
    | .number n :: rest =>
      set rest
      return .number n
    | .name name :: rest =>
      set rest
      return .variable name
    | [] => throw "expecting primary"

end

def read (t : Text) : Except String Expression := do
  let found := tokens (t.length + 1) t
  let (e, rest) ← (assignment (8 * found.length + 8)).run found
  if rest.isEmpty then return e else throw "expecting EOF"

inductive Trouble where
  | divisionByZero
  | noNumber (value : Text)
  deriving DecidableEq, Repr

def truth (b : Bool) : Int := if b then 1 else 0

def bits (n : Int) : Nat := (n.emod (Int.pow 2 64)).toNat

def operate (operator : String) (a b : Int) : Except Trouble Int :=
  match operator with
  | "+" => .ok (a + b)
  | "-" => .ok (a - b)
  | "*" => .ok (a * b)
  | "/" => if b = 0 then .error .divisionByZero else .ok (a.tdiv b)
  | "%" => if b = 0 then .error .divisionByZero else .ok (a.tmod b)
  | "<<" => .ok (a * Int.pow 2 (bits b % 64))
  | ">>" => .ok (a.fdiv (Int.pow 2 (bits b % 64)))
  | "<" => .ok (truth (a < b))
  | "<=" => .ok (truth (a ≤ b))
  | ">" => .ok (truth (b < a))
  | ">=" => .ok (truth (b ≤ a))
  | "==" => .ok (truth (a == b))
  | "!=" => .ok (truth (a != b))
  | "&" => .ok (bits a &&& bits b : Nat)
  | "^" => .ok (bits a ^^^ bits b : Nat)
  | _ => .ok (bits a ||| bits b : Nat)

/-- Evaluations look variables up and record the values given to them, the latest first. -/
abbrev Evaluation := StateT (List (String × Text)) (Except Trouble)

def lookup (bindings : String → Option Text) (name : String) : Evaluation Int := do
  match (← get).lookup name <|> bindings name with
  | none => return 0
  | some t =>
    if t.isEmpty then return 0
    match readInteger? t with
    | some n => return wrap n
    | none => throw (.noNumber t)

def eval (bindings : String → Option Text) : Expression → Evaluation Int
  | .number n => return wrap n
  | .variable name => lookup bindings name
  | .unary operator e => do
    let n ← eval bindings e
    match operator with
    | "-" => return wrap (-n)
    | "!" => return truth (n == 0)
    | "~" => return wrap (-n - 1)
    | _ => return n
  | .binary operator left right => do
    let a ← eval bindings left
    if operator == "&&" then
      if a == 0 then return 0
      return truth ((← eval bindings right) != 0)
    if operator == "||" then
      if a != 0 then return 1
      return truth ((← eval bindings right) != 0)
    let b ← eval bindings right
    return wrap (← operate operator a b)
  | .conditional test yes no => do
    if (← eval bindings test) != 0 then eval bindings yes else eval bindings no
  | .assign name operator e => do
    let n ← eval bindings e
    let n ← match operator with
      | none => pure n
      | some o => do pure (wrap (← operate o (← lookup bindings name) n))
    modify fun changes => (name, (toString n).toList) :: changes
    return n

def complaint (reason : String) (t : Text) : Text :=
  ("arithmetic expression: " ++ reason ++ ": \"").toList ++ t ++ ['"']

def value (bindings : String → Option Text) (t : Text) :
    Except Text (Int × List (String × Text)) :=
  if t.all isSpace then .ok (0, [])
  else match read t with
    | .error reason => .error (complaint reason t)
    | .ok e =>
      match (eval bindings e).run [] with
      | .ok result => .ok result
      | .error .divisionByZero => .error (complaint "division by zero" t)
      | .error (.noNumber text) => .error ("Illegal number: ".toList ++ text)

end FormatConformance.Shell.Arithmetic
