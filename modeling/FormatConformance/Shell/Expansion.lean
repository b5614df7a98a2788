import FormatConformance.Shell.Arithmetic
import FormatConformance.Shell.Pattern
import FormatConformance.Shell.State

/-!
What words stand for: the values of their pieces, which become fields, a single text or a pattern.
Scripts in words are run by a `Runner`, which is handed down to everything that runs scripts.
-/

namespace FormatConformance.Shell

inductive Value where
  | solid (t : Text)
  | bare (t : Text)
  | soft (t : Text)
  | next
  deriving DecidableEq, Repr

/-- How scripts and words inside of others are carried out. A script that is tested may fail without
ending a shell that ends at failures. -/
structure Runner where
  script : (tested : Bool) → Script → Action Unit
  word : Word → Action (List Value)
  rounds : Nat

namespace Value

def ofExpansion (t : Text) (quoted : Bool) : Value := if quoted then .solid t else .soft t

def text : Value → Text
  | .solid t | .bare t | .soft t => t
  | .next => [' ']

def expanded (quoted : Bool) : Value → Value
  | .bare t => ofExpansion t quoted
  | v => v

end Value

def whole (values : List Value) : Text := values.flatMap Value.text

def marks (values : List Value) : List Mark :=
  values.flatMap fun v => match v with
    | .solid t => t.map (⟨·, true⟩)
    | v => v.text.map (⟨·, false⟩)

def pattern (values : List Value) : List Glob := globOf 0 (marks values)

structure Splitting where
  done : List Text := []
  current : Option Text := none
  /-- Whether blanks ended the last field, so that a separator may follow that belongs to them. -/
  afterBlank : Bool := false

namespace Splitting

def isIfsBlank (c : Char) : Bool := c == ' ' || c == '\t' || c == '\n'

def close (s : Splitting) (afterBlank : Bool) : Splitting :=
  match s.current with
  | some t => ⟨t :: s.done, none, afterBlank⟩
  | none => s

def split (separators : Text) (s : Splitting) (c : Char) : Splitting :=
  if !separators.contains c then
    { s with current := some (s.current.getD [] ++ [c]), afterBlank := false }
  else if isIfsBlank c then s.close true
  else if s.current.isSome then s.close false
  else if s.afterBlank then { s with afterBlank := false }
  else { s with done := [] :: s.done }

def add (separators : Text) (s : Splitting) : Value → Splitting
  | .solid t | .bare t => { s with current := some (s.current.getD [] ++ t), afterBlank := false }
  | .soft t => t.foldl (split separators) s
  | .next => { s.close false with afterBlank := false }

end Splitting

def fields (separators : Text) (values : List Value) : List Text :=
  let s := (values.foldl (Splitting.add separators) {}).close false
  s.done.reverse

def processId : Text := "7".toList

def State.parameter? (s : State) (name : String) : Option Text :=
  match name with
  | "#" => some (toString s.args.length).toList
  | "?" => some (toString s.status).toList
  | "$" => some processId
  | "-" => some s.flags
  | "!" => none
  | "0" => some s.name
  | "@" => if s.args.isEmpty then none else some ([' '].intercalate s.args)
  | "*" => if s.args.isEmpty then none else some ((s.separators.take 1).intercalate s.args)
  | _ =>
    match name.toNat? with
    | some n => s.args[n - 1]?
    | none => s.value? name

def argumentValues (s : State) (name : String) (quoted : Bool) : List Value :=
  if name == "*" && quoted then [.solid ((s.parameter? "*").getD [])]
  else
    ((s.args.map fun arg => [Value.ofExpansion arg quoted]).intersperse [.next]).flatten

def parameterValues (name : String) (quoted : Bool) : Action (List Value) := do
  let s ← get
  if name == "@" || name == "*" then return argumentValues s name quoted
  match s.parameter? name with
  | some t => return [.ofExpansion t quoted]
  | none =>
    if s.flags.contains 'u' && name != "!" then
      giveUp (name.toList ++ ": parameter not set".toList)
    return [.ofExpansion [] quoted]

def withoutLastLines (t : Text) : Text :=
  ((t.filter (· ≠ '\x00')).reverse.dropWhile (· == '\n')).reverse

def printedBy (run : Action Unit) : Action Text := do
  let index ← newStream []
  apart do
    setChannel 1 (some (.stream index))
    run
  modify fun s => { s with substituted := s.status }
  return ((← get).streams[index]?).getD []

def expandFallback (run : Runner) (name : String) (kind : Fallback) (emptyToo : Bool) (word : Word)
    (quoted : Bool) : Action (List Value) := do
  let value := (← get).parameter? name
  let missing := value.isNone || (emptyToo && value == some [])
  let values : Action (List Value) := do
    return (← run.word word).map (Value.expanded quoted)
  match kind with
  | .alternative => if missing then return [.ofExpansion [] quoted] else values
  | _ =>
    if !missing then parameterValues name quoted
    else match kind with
      | .complaint =>
        let message := whole (← run.word word)
        let usual := "parameter not set".toList ++ if emptyToo then " or null".toList else []
        giveUp (name.toList ++ ": ".toList ++ if word.isEmpty then usual else message)
      | .assigned =>
        let t := whole (← run.word word)
        setVariable name t
        return [.ofExpansion t quoted]
      | _ => values

def expandPiece (run : Runner) (p : Piece) : Action (List Value) := do
  match p with
  | .text content quoted => return [if quoted then .solid content else .bare content]
  | .parameter name quoted => parameterValues name quoted
  | .length name quoted =>
    let s ← get
    let count := if name == "@" || name == "*" then s.args.length
      else ((s.parameter? name).getD []).length
    return [.ofExpansion (toString count).toList quoted]
  | .fallback name kind emptyToo word quoted => expandFallback run name kind emptyToo word quoted
  | .trimmed name trim word quoted =>
    let t := whole (← parameterValues name true)
    return [.ofExpansion (trim.apply (pattern (← run.word word)) t) quoted]
  | .printed commands quoted =>
    let before := (← get).status
    let t ← printedBy (run.script false commands)
    finish before
    return [.ofExpansion (withoutLastLines t) quoted]
  | .computed expression quoted =>
    let t := whole (← run.word expression)
    match Arithmetic.value (← get).parameter? t with
    | .error message => giveUp message
    | .ok (n, changes) =>
      for (name, value) in changes.reverse do
        setVariable name value
      return [.ofExpansion (toString n).toList quoted]
  | .senseless => giveUp "Bad substitution".toList

def expandWord (run : Runner) (w : Word) : Action (List Value) :=
  w.foldlM (fun values p => return values ++ (← expandPiece run p)) []

def wordText (run : Runner) (w : Word) : Action Text := do return whole (← expandWord run w)

def wordFields (run : Runner) (w : Word) : Action (List Text) := do
  let values ← expandWord run w
  return fields (← get).separators values

end FormatConformance.Shell
