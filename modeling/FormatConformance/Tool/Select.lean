import FormatConformance.Tool.Basic
import FormatConformance.Tool.Regex

/-! Selecting the lines that match an expression, and expressions over arguments. -/

namespace FormatConformance.Tool

def selectors (o : Options) (patterns : List Text) : Option (List Regex) :=
  (patterns.flatMap (List.splitOn '\n')).mapM fun pattern => do
    let e ← if o.has 'F' then some (Regex.ofText pattern) else Regex.read? (o.has 'E') pattern
    let e := if o.has 'i' then e.foldCase else e
    return if o.has 'x' then .follow .lineStart (.follow e .lineEnd) else e

def allMatches (e : Regex) : Nat → Text → List Text
  | 0, _ => []
  | fuel + 1, t =>
    match e.search t with
    | none => []
    | some found =>
      if found.matched.isEmpty then
        match found.rest with
        | [] => []
        | _ :: rest => allMatches e fuel rest
      else found.matched :: allMatches e fuel found.rest

def shownLines (o : Options) (es : List Regex) (named : Bool) (name : Text)
    (selected : List (Text × Nat)) : Text :=
  let label := if named && !o.has 'h' then name ++ [':'] else []
  if o.has 'q' then []
  else if o.has 'l' then if selected.isEmpty then [] else name ++ ['\n']
  else if o.has 'c' then label ++ shown selected.length ++ ['\n']
  else selected.flatMap fun (line, n) =>
    let label := label ++ if o.has 'n' then shown n ++ [':'] else []
    if o.has 'o' then
      (es.flatMap fun e => allMatches e (line.length + 1) line).flatMap fun part =>
        label ++ part ++ ['\n']
    else label ++ line ++ ['\n']

def select (extended : Bool) : Tool := fun args =>
  let o := Options.ofArguments "efmABC" args
  let o := if extended then { o with letters := ('E', []) :: o.letters } else o
  let (patterns, files) := match o.all 'e', o.operands with
    | [], pattern :: files => ([pattern], files)
    | patterns, files => (patterns, files)
  match selectors o patterns with
  | none => .finish (.refused "grep" "Invalid regular expression".toList 2)
  | some es =>
    .read files fun inputs =>
      let selected := fun (input : Input) =>
        let found := ((lines input.content).zipIdx 1).filter fun (line, _) =>
          (es.any fun e => (e.search line).isSome) != o.has 'v'
        match (o.get? 'm').bind decimal? with
        | some n => found.take n
        | none => found
      let any := inputs.any fun input => !(selected input).isEmpty
      { output := inputs.flatMap fun input =>
          shownLines o es (1 < inputs.length) input.name (selected input)
        status := if any then 0 else 1 }

/-- The value of the operation of two values, or of one that neither is a number for. -/
def combine (left operator right : Text) : Except Text Text :=
  let number? := fun (t : Text) => (Text.asString t).toInt?
  let truth := fun (b : Bool) => Except.ok (if b then ['1'] else ['0'])
  let numeric := fun (f : Int → Int → Except Text Int) =>
    match number? left, number? right with
    | some a, some b => (f a b).map fun n => (toString n).toList
    | _, _ => .error "non-integer argument".toList
  let order := match number? left, number? right with
    | some a, some b => compare a b
    | _, _ => compare left right
  match Text.asString operator with
  | "+" => numeric fun a b => .ok (a + b)
  | "-" => numeric fun a b => .ok (a - b)
  | "*" => numeric fun a b => .ok (a * b)
  | "/" => numeric fun a b => if b = 0 then .error "division by zero".toList else .ok (a.tdiv b)
  | "%" => numeric fun a b => if b = 0 then .error "division by zero".toList else .ok (a.tmod b)
  | "=" | "==" => truth (order == .eq)
  | "!=" => truth (order != .eq)
  | "<" => truth (order == .lt)
  | "<=" => truth (order != .gt)
  | ">" => truth (order == .gt)
  | ">=" => truth (order != .lt)
  | ":" =>
    match Regex.read? false right with
    | none => .error "Invalid regular expression".toList
    | some e =>
      match (Regex.follow .lineStart e).matchAt? ⟨left, 0, []⟩ with
      | none => .ok (if right.length ≠ (Text.replaceAll "\\(".toList [] right).length then []
          else ['0'])
      | some place =>
        match place.groups.lookup 1 with
        | some group => .ok group
        | none => .ok (toString place.offset).toList
  | _ => .error "syntax error".toList

def evaluateFrom (left : Text) : List Text → Except Text Text
  | [] => .ok left
  | operator :: right :: rest => do evaluateFrom (← combine left operator right) rest
  | [_] => .error "syntax error".toList

def evaluate : Tool := fun args =>
  match args with
  | [] => .finish (.refused "expr" "missing operand".toList 2)
  | [word, t] =>
    if word == "length".toList then .finish (.printed (shown t.length ++ ['\n']))
    else .finish (.refused "expr" "syntax error".toList 2)
  | first :: rest =>
    match evaluateFrom first rest with
    | .error message => .finish (.refused "expr" message 2)
    | .ok value =>
      let status := if value.isEmpty || value == ['0'] then 1 else 0
      .finish { output := value ++ ['\n'], status := status }

end FormatConformance.Tool
