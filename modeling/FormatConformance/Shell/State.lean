import FormatConformance.Shell.Syntax
import FormatConformance.Text.ByteText
import FormatConformance.Workplace

/-!
What a shell holds while it runs a script, and the streams that it reads and writes. A stream is
written at its end and read from its front, so that the commands of a pipeline run one after the
other. A shell that was started from another one shares its streams and the files that were written,
and nothing else.
-/

namespace FormatConformance.Shell

inductive Channel where
  | stream (index : Nat)
  | file (path : Text)
  | nowhere
  deriving DecidableEq, Repr

structure State where
  place : Workplace
  name : Text
  args : List Text
  bindings : List (String × Text) := []
  exported : List String := []
  readOnly : List String := []
  functions : List (String × Command) := []
  flags : Text := []
  traps : List (String × Text) := []
  descriptors : List (Nat × Channel)
  line : Nat := 0
  status : Nat := 0
  substituted : Nat := 0
  loops : Nat := 0
  /-- What the local variables of the functions in progress hid, innermost first. -/
  hidden : List (List (String × Option Text)) := []
  streams : Array Text
  files : List (Text × Text) := []

inductive Ending where
  | exited (status : Nat)
  | killed (signal : Nat)
  | returned (status : Nat)
  | broke (levels : Nat)
  /-- The innermost loops end but for the last one, which goes on with its next round. -/
  | continued (levels : Nat)
  deriving DecidableEq, Repr

abbrev Action := ExceptT Ending (StateM State)

def finish (status : Nat) : Action Unit := modify fun s => { s with status }

def channel? (descriptor : Nat) : Action (Option Channel) := do
  return (← get).descriptors.lookup descriptor

def State.content? (s : State) (path : Text) : Option Text :=
  s.files.lookup path <|>
    ((s.place.node? (Text.asString (Text.ofBytes (Text.byteValues path)))).bind
      FileNode.content?).map Text.ofWord

def State.writeFile (s : State) (path content : Text) : State :=
  { s with files := (path, content) :: s.files.filter fun file => file.1 ≠ path }

def send (descriptor : Nat) (t : Text) : Action Unit := do
  match ← channel? descriptor with
  | some (.stream index) =>
    modify fun s => { s with streams := s.streams.modify index (· ++ t) }
  | some (.file path) =>
    modify fun s => s.writeFile path ((s.files.lookup path).getD [] ++ t)
  | _ => return ()

def readAll (descriptor : Nat) : Action Text := do
  match ← channel? descriptor with
  | some (.stream index) =>
    let t := ((← get).streams[index]?).getD []
    modify fun s => { s with streams := s.streams.set! index [] }
    return t
  | _ => return []

def readBytes (descriptor count : Nat) : Action Text := do
  match ← channel? descriptor with
  | some (.stream index) =>
    let t := ((← get).streams[index]?).getD []
    modify fun s => { s with streams := s.streams.set! index (t.drop count) }
    return t.take count
  | _ => return []

def readLine (descriptor : Nat) : Action Text := do
  match ← channel? descriptor with
  | some (.stream index) =>
    let t := ((← get).streams[index]?).getD []
    let line := t.takeWhile (· ≠ '\n')
    let rest := t.drop line.length
    modify fun s => { s with streams := s.streams.set! index (rest.drop 1) }
    return line ++ rest.take 1
  | _ => return []

def newStream (t : Text) : Action Nat := do
  let index := (← get).streams.size
  modify fun s => { s with streams := s.streams.push t }
  return index

def setChannel (descriptor : Nat) (channel : Option Channel) : Action Unit :=
  modify fun s =>
    let others := s.descriptors.filter fun entry => entry.1 ≠ descriptor
    { s with descriptors := (channel.map fun c => (descriptor, c)).toList ++ others }

def keepingDescriptors {α : Type} (run : Action α) : Action α := do
  let kept := (← get).descriptors
  let restore : Action Unit := modify fun s => { s with descriptors := kept }
  try
    let result ← run
    restore
    return result
  catch ending =>
    restore
    throw ending

def complain (message : Text) : Action Unit := do
  let s ← get
  send 2 (s.name ++ ": ".toList ++ (toString s.line).toList ++ ": ".toList ++ message ++ ['\n'])

def giveUp {α : Type} (message : Text) : Action α := do
  complain message
  throw (.exited 2)

def State.value? (s : State) (name : String) : Option Text := s.bindings.lookup name

def State.separators (s : State) : Text := (s.value? "IFS").getD " \t\n".toList

def State.bind (s : State) (name : String) (value : Text) : State :=
  { s with bindings := (name, value) :: s.bindings.filter fun entry => entry.1 ≠ name }

def State.unbind (s : State) (name : String) : State :=
  { s with bindings := s.bindings.filter fun entry => entry.1 ≠ name }

def setVariable (name : String) (value : Text) : Action Unit := do
  if (← get).readOnly.contains name then giveUp (name.toList ++ ": is read only".toList)
  modify fun s => s.bind name value

/-- Runs commands in a shell of their own. What they do to the streams and files stays, and their
status is kept; only the end of the process goes further. -/
def apart (run : Action Unit) : Action Unit := do
  let before ← get
  let (result, after) := (run.run).run { before with traps := [] }
  let status := match result with
    | .ok _ | .error (.broke _) | .error (.continued _) => after.status
    | .error (.exited status) | .error (.returned status) => status
    | .error (.killed _) => before.status
  set { before with streams := after.streams, files := after.files, status }
  if let .error (.killed signal) := result then throw (.killed signal)

end FormatConformance.Shell
