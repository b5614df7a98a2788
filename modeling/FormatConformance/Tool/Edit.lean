import FormatConformance.Tool.Filter
import FormatConformance.Tool.Regex

/-!
Editing a stream line by line by a list of instructions. An instruction applies to the lines that
its addresses select; after the last instruction the line is printed and the next one begins.
-/

namespace FormatConformance.Tool

inductive Address where
  | line (number : Nat)
  | last
  | matching (e : Regex)

inductive Action where
  | substitute (e : Regex) (replacement : Text) (everywhere print : Bool) (occurrence : Nat)
  | print
  | delete
  | deleteFirst
  | quit (silently : Bool)
  | number
  | exchangeChars (first second : Text)
  | next
  | append
  | printFirst
  | hold (more : Bool)
  | fetch (more : Bool)
  | swap
  | label (name : Text)
  | branch (name : Text) (ifChanged : Bool)
  | insert (t : Text)
  | attach (t : Text)
  | change (t : Text)
  | opening
  | closing
  | nothing

structure Instruction where
  addresses : List Address
  negated : Bool
  action : Action

abbrev EditReader := StateT Text Option

namespace EditReader

def skip (chars : Text) : EditReader Unit := modify fun t => t.dropWhile chars.contains

def accept (c : Char) : EditReader Bool := do
  match ← get with
  | d :: rest =>
    if c == d then
      set rest
      return true
    else return false
  | [] => return false

def delimited (delimiter : Char) : Nat → EditReader Text
  | 0 => failure
  | fuel + 1 => do
    match ← get with
    | [] => failure
    | '\\' :: c :: rest =>
      set rest
      let more ← delimited delimiter fuel
      return if c == delimiter then c :: more else '\\' :: c :: more
    | c :: rest =>
      set rest
      if c == delimiter then return [] else return c :: (← delimited delimiter fuel)

def digits : EditReader Text := do
  let t ← get
  let found := t.takeWhile Char.isDigit
  set (t.drop found.length)
  return found

def upTo (ends : Text) : EditReader Text := do
  let t ← get
  let found := t.takeWhile fun c => !ends.contains c
  set (t.drop found.length)
  return found

def address? (extended : Bool) : EditReader (Option Address) := do
  match ← get with
  | '$' :: rest =>
    set rest
    return some .last
  | '/' :: rest =>
    set rest
    let t ← delimited '/' (rest.length + 1)
    let ignoresCase ← accept 'I'
    let e ← Regex.read? extended t
    return some (.matching (if ignoresCase then e.foldCase else e))
  | '\\' :: c :: rest =>
    set rest
    let e ← Regex.read? extended (← delimited c (rest.length + 1))
    return some (.matching e)
  | c :: _ => if c.isDigit then return (decimal? (← digits)).map .line else return none
  | [] => return none

def lineText : EditReader Text := do
  skip [' ', '\t']
  if ← accept '\\' then skip ['\n']
  upTo ['\n']

def substitution (extended : Bool) : EditReader Action := do
  match ← get with
  | [] => failure
  | delimiter :: rest =>
    set rest
    let pattern ← delimited delimiter (rest.length + 1)
    let replacement ← delimited delimiter (rest.length + 1)
    let flags ← upTo [';', '\n', '\x7d', ' ', '#']
    let e ← Regex.read? extended pattern
    let e := if flags.any (['i', 'I'].contains ·) then e.foldCase else e
    let occurrence := (decimal? (flags.filter Char.isDigit)).getD 1
    return .substitute e replacement (flags.contains 'g') (flags.contains 'p') occurrence

def action (extended : Bool) : EditReader Action := do
  match ← get with
  | [] => return .nothing
  | c :: rest =>
    set rest
    match c with
    | 's' => substitution extended
    | 'y' =>
      match rest with
      | [] => failure
      | delimiter :: rest =>
        set rest
        let first ← delimited delimiter (rest.length + 1)
        let second ← delimited delimiter (rest.length + 1)
        let chars := fun t => (setChars 0 t).map Prod.fst
        return .exchangeChars (chars first) (chars second)
    | 'p' => return .print
    | 'd' => return .delete
    | 'D' => return .deleteFirst
    | 'q' => return .quit false
    | 'Q' => return .quit true
    | '=' => return .number
    | 'n' => return .next
    | 'N' => return .append
    | 'P' => return .printFirst
    | 'h' => return .hold false
    | 'H' => return .hold true
    | 'g' => return .fetch false
    | 'G' => return .fetch true
    | 'x' => return .swap
    | ':' =>
      skip [' ']
      return .label (← upTo [';', '\n'])
    | 'b' =>
      skip [' ']
      return .branch (← upTo [';', '\n', '\x7d']) false
    | 't' =>
      skip [' ']
      return .branch (← upTo [';', '\n', '\x7d']) true
    | 'i' => return .insert (← lineText)
    | 'a' => return .attach (← lineText)
    | 'c' => return .change (← lineText)
    | '\x7b' => return .opening
    | '\x7d' => return .closing
    | '#' =>
      let _ ← upTo ['\n']
      return .nothing
    | _ => failure

def instructions (extended : Bool) : Nat → EditReader (List Instruction)
  | 0 => failure
  | fuel + 1 => do
    skip [' ', '\t', '\n', ';']
    if (← get).isEmpty then return []
    let first ← address? extended
    skip [' ']
    let second ← if ← accept ',' then
        skip [' ']
        address? extended
      else pure none
    skip [' ']
    let negated ← accept '!'
    skip [' ']
    let a ← action extended
    return ⟨first.toList ++ second.toList, negated, a⟩ :: (← instructions extended fuel)

end EditReader

structure Editor where
  line : Text
  lineNumber : Nat
  ahead : List Text
  held : Text := []
  changed : Bool := false
  pending : List Nat := []
  attached : List Text := []
  output : List Text := []
  complete : Bool

namespace Editor

def isLast (e : Editor) : Bool := e.ahead.isEmpty

def meets (e : Editor) : Address → Bool
  | .line n => e.lineNumber == n
  | .last => e.isLast
  | .matching r => (r.search e.line).isSome

def selects (e : Editor) (place : Nat) (addresses : List Address) : Bool × Editor :=
  match addresses with
  | [] => (true, e)
  | [only] => (e.meets only, e)
  | first :: second :: _ =>
    let closed := { e with pending := e.pending.filter (· ≠ place) }
    if e.pending.contains place then
      let ends : Bool := match second with
        | .line n => n ≤ e.lineNumber
        | other => e.meets other
      (match second with
        | .line n => e.lineNumber ≤ n
        | _ => true, if ends then closed else e)
    else if e.meets first then
      let single : Bool := match second with
        | .line n => n ≤ e.lineNumber
        | .last => e.isLast
        | _ => false
      (true, if single then e else { e with pending := place :: e.pending })
    else (false, e)

/-- A line goes out with its end, which the last line of the input may lack. -/
def emit (e : Editor) (t : Text) : Editor :=
  let ending := if e.isLast && !e.complete then [] else ['\n']
  { e with output := (t ++ ending) :: e.output }

def emitLine (e : Editor) (t : Text) : Editor := { e with output := (t ++ ['\n']) :: e.output }

def flush (e : Editor) : Editor :=
  { e with attached := [], output := e.attached.map (· ++ ['\n']) ++ e.output }

def finishLine (e : Editor) (silent : Bool) : Editor :=
  (if silent then e else e.emit e.line).flush

def replacement (found : Regex.Match) : Text → Text
  | '\\' :: c :: rest =>
    if '1' ≤ c && c ≤ '9' then
      (found.groups.lookup (c.toNat - 48)).getD [] ++ replacement found rest
    else if c == 'n' then '\n' :: replacement found rest
    else if c == 't' then '\t' :: replacement found rest
    else c :: replacement found rest
  | '&' :: rest => found.matched ++ replacement found rest
  | c :: rest => c :: replacement found rest
  | [] => []

def substituteFrom (e : Regex) (new : Text) (everywhere : Bool) :
    Nat → Nat → Nat → Text → Option Text
  | 0, _, _, _ => none
  | fuel + 1, occurrence, offset, t =>
    match e.searchFrom [] offset t with
    | none => none
    | some found =>
      let reached := offset + found.before.length + found.matched.length
      let behind := fun (occurrence : Nat) =>
        if found.matched.isEmpty then
          match found.rest with
          | [] => none
          | c :: rest =>
            ((substituteFrom e new everywhere fuel occurrence (reached + 1) rest).orElse
              fun _ => some rest).map (c :: ·)
        else substituteFrom e new everywhere fuel occurrence reached found.rest
      if 1 < occurrence then
        (behind (occurrence - 1)).map fun rest => found.before ++ found.matched ++ rest
      else
        let rest := if everywhere then (behind 1).getD found.rest else found.rest
        some (found.before ++ replacement found new ++ rest)

def advance? (e : Editor) : Option Editor :=
  match e.ahead with
  | [] => none
  | line :: ahead =>
    some { e with line, ahead, lineNumber := e.lineNumber + 1 }

end Editor

def behindBlock : Nat → Nat → List Instruction → Nat
  | _, place, [] => place
  | depth, place, i :: rest =>
    match i.action with
    | .opening => behindBlock (depth + 1) (place + 1) rest
    | .closing =>
      match depth with
      | 0 => place + 1
      | depth + 1 => behindBlock depth (place + 1) rest
    | _ => behindBlock depth (place + 1) rest

def labelPlace (all : List Instruction) (name : Text) : Nat :=
  (all.findIdx? fun i => match i.action with
    | .label other => other == name
    | _ => false).getD all.length

inductive Step where
  | goOn (e : Editor) (place : Nat)
  | newLine (e : Editor) (silently : Bool)
  | restart (e : Editor)
  | stop (e : Editor) (silently : Bool)

def act (silent : Bool) (all : List Instruction) (e : Editor) (place : Nat) : Action → Step
  | .substitute r new everywhere print occurrence =>
    match Editor.substituteFrom r new everywhere (e.line.length + 2) occurrence 0 e.line with
    | none => .goOn e place
    | some line =>
      let e := { e with line, changed := true }
      .goOn (if print then e.emit e.line else e) place
  | .print => .goOn (e.emit e.line) place
  | .delete => .newLine e true
  | .deleteFirst =>
    match e.line.dropWhile (· ≠ '\n') with
    | [] => .newLine e true
    | _ :: rest => .restart { e with line := rest }
  | .quit silently => .stop e silently
  | .number => .goOn (e.emitLine (shown e.lineNumber)) place
  | .exchangeChars first second =>
    .goOn { e with line := e.line.map (exchanged first second) } place
  | .next =>
    let printed := e.finishLine silent
    match printed.advance? with
    | some e => .goOn e place
    | none => .stop e silent
  | .append =>
    match e.advance? with
    | some further => .goOn { further with line := e.line ++ '\n' :: further.line } place
    | none => .stop e silent
  | .printFirst => .goOn (e.emitLine (e.line.takeWhile (· ≠ '\n'))) place
  | .hold more => .goOn { e with held := if more then e.held ++ '\n' :: e.line else e.line } place
  | .fetch more => .goOn { e with line := if more then e.line ++ '\n' :: e.held else e.held } place
  | .swap => .goOn { e with line := e.held, held := e.line } place
  | .branch name ifChanged =>
    if ifChanged && !e.changed then .goOn e place
    else
      .goOn (if ifChanged then { e with changed := false } else e)
        (if name.isEmpty then all.length else labelPlace all name)
  | .insert t => .goOn (e.emitLine t) place
  | .attach t => .goOn { e with attached := t :: e.attached } place
  | .change t => .newLine (e.emitLine t) true
  | .label _ | .opening | .closing | .nothing => .goOn e place

def runEditor (silent : Bool) (all : List Instruction) : Nat → Editor → Nat → Editor
  | 0, e, _ => e
  | fuel + 1, e, place =>
    let nextLine := fun (e : Editor) =>
      match e.advance? with
      | some e => runEditor silent all fuel { e with changed := false } 0
      | none => e
    match all[place]? with
    | none => nextLine (e.finishLine silent)
    | some i =>
      let (met, e) := e.selects place i.addresses
      if met == i.negated then
        match i.action with
        | .opening =>
          runEditor silent all fuel e (behindBlock 0 (place + 1) (all.drop (place + 1)))
        | _ => runEditor silent all fuel e (place + 1)
      else
        match act silent all e (place + 1) i.action with
        | .goOn e place => runEditor silent all fuel e place
        | .newLine e silently => nextLine (e.finishLine (silent || silently))
        | .restart e => runEditor silent all fuel e 0
        | .stop e silently => e.finishLine (silent || silently)

def editText (silent : Bool) (all : List Instruction) (t : Text) : Text :=
  match lines t with
  | [] => []
  | line :: ahead =>
    let complete := t.getLast? == some '\n'
    let fuel := (ahead.length + 2) * (all.length + 2) * 16 + t.length * (all.length + 2)
    (runEditor silent all fuel { line, ahead, lineNumber := 1, complete } 0).output.reverse.flatten

def edit : Tool := fun args =>
  let args := args.map fun arg => match Text.asString arg with
    | "--quiet" | "--silent" => ['-', 'n']
    | "--regexp-extended" => ['-', 'E']
    | _ => arg
  let o := Options.ofArguments "efl" args
  let extended := o.has 'E' || o.has 'r'
  let (scripts, files) := match o.all 'e', o.operands with
    | [], script :: files => ([script], files)
    | scripts, files => (scripts, files)
  let source := ['\n'].intercalate scripts
  match (EditReader.instructions extended (source.length + 1)).run source with
  | none => .finish (.refused "sed" "-e expression #1, char 1: unknown command".toList 1)
  | some (all, _) => .filter files (editText (o.has 'n') all)

end FormatConformance.Tool
