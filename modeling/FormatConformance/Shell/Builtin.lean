import FormatConformance.Shell.Expansion
import FormatConformance.Shell.Print
import FormatConformance.Shell.Reader
import FormatConformance.Shell.Test

/-! The commands that a shell carries out itself, except for those that start programs. -/

namespace FormatConformance.Shell

/-- A command with its arguments. Its scripts are tested if the command is. -/
abbrev Builtin := Runner → (tested : Bool) → List Text → Action Unit

def refuse (name : String) (message : Text) (status : Nat) : Action Unit := do
  complain (name.toList ++ ": ".toList ++ message)
  finish status

def surrender {α : Type} (name : String) (message : Text) : Action α :=
  giveUp (name.toList ++ ": ".toList ++ message)

def numberArgument (name : String) (t : Text) : Action Nat :=
  if t.isEmpty || !t.all Char.isDigit then surrender name ("Illegal number: ".toList ++ t)
  else return Arithmetic.valueIn 10 t

def evaluateText (run : Runner) (tested : Bool) (t : Text) : Action Unit := do
  let reading := Reading.ofText t
  if reading.lines.all List.isEmpty then finish 0
  for line in reading.lines do
    run.script tested line
  match reading.fault with
  | none => return ()
  | some fault =>
    modify fun s => { s with line := fault.line }
    giveUp fault.message

def evaluate : Builtin := fun run tested args => do
  evaluateText run tested ([' '].intercalate args)

def source : Builtin := fun run tested args => do
  match args with
  | [] => finish 0
  | path :: _ =>
    match (← get).content? path with
    | none =>
      if path.contains '/' then
        surrender "." ("cannot open ".toList ++ path ++ ": No such file".toList)
      else surrender "." (path ++ ": not found".toList)
    | some t =>
      try evaluateText run tested t
      catch
      | .returned status => finish status
      | ending => throw ending

def exit : Builtin := fun _ _ args => do
  match args with
  | [] => throw (.exited (← get).status)
  | code :: _ => throw (.exited ((← numberArgument "exit" code) % 256))

def returns : Builtin := fun _ _ args => do
  match args with
  | [] => throw (.returned (← get).status)
  | code :: _ => throw (.returned ((← numberArgument "return" code) % 256))

def loopCount (name : String) (args : List Text) : Action Nat := do
  let asked ← match args with
    | [] => pure 1
    | t :: _ => numberArgument name t
  return min asked (← get).loops

def breaks : Builtin := fun _ _ args => do
  let levels ← loopCount "break" args
  finish 0
  if 0 < levels then throw (.broke levels)

def continues : Builtin := fun _ _ args => do
  let levels ← loopCount "continue" args
  finish 0
  if 0 < levels then throw (.continued levels)

def signalNumbers : List (String × Nat) :=
  [("EXIT", 0), ("HUP", 1), ("INT", 2), ("QUIT", 3), ("ILL", 4), ("TRAP", 5), ("ABRT", 6),
    ("BUS", 7), ("FPE", 8), ("KILL", 9), ("USR1", 10), ("SEGV", 11), ("USR2", 12), ("PIPE", 13),
    ("ALRM", 14), ("TERM", 15), ("CHLD", 17), ("CONT", 18), ("URG", 23), ("WINCH", 28)]

def harmless : List String := ["EXIT", "CHLD", "CONT", "URG", "WINCH"]

def signal? (t : Text) : Option String :=
  let name := Text.asString t
  match name.toNat? with
  | some n => (signalNumbers.find? fun row => row.2 == n).map Prod.fst
  | none =>
    let short := ((['S', 'I', 'G'].isPrefixOf? t).map Text.asString).getD name
    (signalNumbers.find? fun row => row.1 == short).map Prod.fst

def trap : Builtin := fun _ _ args => do
  finish 0
  match args with
  | [] => return ()
  | ['-'] :: signals =>
    let names := signals.filterMap signal?
    modify fun s => { s with traps := s.traps.filter fun row => !names.contains row.1 }
  | action :: signals =>
    if (signal? action).isSome && signals.isEmpty then
      modify fun s => { s with traps := s.traps.filter fun row => some row.1 != signal? action }
    else
      for t in signals do
        match signal? t with
        | some name =>
          modify fun s =>
            { s with traps := (name, action) :: s.traps.filter fun row => row.1 != name }
        | none => refuse "trap" (t ++ ": bad trap".toList) 1

def receive (run : Runner) (name : String) : Action Unit := do
  finish 0
  let number := (signalNumbers.lookup name).getD 0
  if name == "KILL" then throw (.killed number)
  match (← get).traps.lookup name with
  | some [] => return ()
  | some action =>
    evaluateText run false action
    finish 0
  | none =>
    if !harmless.contains name then throw (.killed number)

def kill : Builtin := fun run _ args => do
  let (wanted, targets) := match args with
    | ['-', 's'] :: name :: rest => (signal? name, rest)
    | ['-', '-'] :: rest => (some "TERM", rest)
    | ('-' :: name) :: rest => (signal? name, rest)
    | rest => (some "TERM", rest)
  match wanted with
  | none => surrender "kill" ("Illegal option ".toList ++ args.headD [])
  | some name =>
    if targets.contains processId then receive run name
    else refuse "kill" "No such process".toList 1

def optionNames : List (String × Char) :=
  [("errexit", 'e'), ("nounset", 'u'), ("xtrace", 'x'), ("noglob", 'f'), ("noexec", 'n'),
    ("verbose", 'v'), ("allexport", 'a'), ("noclobber", 'C'), ("notify", 'b'), ("monitor", 'm'),
    ("ignoreeof", 'I'), ("interactive", 'i'), ("stdin", 's'), ("vi", 'V'), ("emacs", 'E')]

def setFlag (on : Bool) (letter : Char) : Action Unit :=
  modify fun s =>
    let others := s.flags.filter (· ≠ letter)
    { s with flags := if on then letter :: others else others }

def setLetters (name : String) (on : Bool) (letters : Text) : Action Unit := do
  for letter in letters do
    if optionNames.any fun row => row.2 == letter then setFlag on letter
    else
      surrender name ("Illegal option ".toList ++ [if on then '-' else '+', letter])

def setOptions (name : String) : List Text → Action (List Text × Bool)
  | ['-', '-'] :: rest => return (rest, true)
  | ['-'] :: rest => return (rest, !rest.isEmpty)
  | [sign, 'o'] :: option :: rest => do
    match optionNames.lookup (Text.asString option) with
    | some letter =>
      setFlag (sign == '-') letter
      setOptions name rest
    | none => surrender name ("Illegal option ".toList ++ sign :: 'o' :: ' ' :: option)
  | (sign :: letter :: letters) :: rest => do
    if sign == '-' || sign == '+' then
      setLetters name (sign == '-') (letter :: letters)
      setOptions name rest
    else return ((sign :: letter :: letters) :: rest, true)
  | rest => return (rest, !rest.isEmpty)

def sets : Builtin := fun _ _ args => do
  let (rest, replaces) ← setOptions "set" args
  if replaces then modify fun s => { s with args := rest }
  finish 0

def shift : Builtin := fun _ _ args => do
  let count ← match args with
    | [] => pure 1
    | t :: _ => numberArgument "shift" t
  if (← get).args.length < count then surrender "shift" "can't shift that many".toList
  modify fun s => { s with args := s.args.drop count }
  finish 0

def nameAndValue (arg : Text) : String × Option Text :=
  let name := arg.takeWhile (· ≠ '=')
  (Text.asString name, (arg.drop name.length).tail?)

def requireName (command name : String) : Action Unit :=
  if isName name.toList then return ()
  else surrender command (name.toList ++ ": bad variable name".toList)

def declareAll (command : String) (mark : String → Action Unit) : List Text → Action Unit
  | [] => finish 0
  | ['-', _] :: rest => declareAll command mark rest
  | arg :: rest => do
    let (name, value) := nameAndValue arg
    requireName command name
    mark name
    match value with
    | some t => setVariable name t
    | none => return ()
    declareAll command mark rest

def exports : Builtin := fun _ _ args =>
  declareAll "export" (fun name => modify fun s => { s with exported := name :: s.exported }) args

def protects : Builtin := fun _ _ args => do
  declareAll "readonly" (fun _ => return ()) args
  modify fun s =>
    { s with readOnly := args.map (fun arg => (nameAndValue arg).1) ++ s.readOnly }

def hide (name : String) : Action Unit :=
  modify fun s => match s.hidden with
    | frame :: outer =>
      if frame.any fun row => row.1 == name then s
      else { s with hidden := ((name, s.value? name) :: frame) :: outer }
    | [] => s

def localize : Builtin := fun _ _ args => do
  if (← get).hidden.isEmpty then surrender "local" "not in a function".toList
  declareAll "local" hide args

def unsets : Builtin := fun _ _ args => do
  let functions := args.head? == some ['-', 'f']
  for arg in if args.head?.any fun t => t.head? == some '-' then args.tail else args do
    let name := Text.asString arg
    if functions then
      modify fun s => { s with functions := s.functions.filter fun f => f.1 != name }
    else
      if (← get).readOnly.contains name then
        surrender "unset" (arg ++ ": is read only".toList)
      modify fun s => s.unbind name
  finish 0

/-- The marks of a line of input, where a backslash quotes the character behind it unless the line
is `raw`. The second part tells whether the next line belongs to it. -/
def inputMarks (raw : Bool) : Text → List Mark × Bool
  | [] => ([], false)
  | c :: rest =>
    if c == '\\' && !raw then
      match rest with
      | [] => ([], false)
      | '\n' :: _ => ([], true)
      | d :: rest =>
        let (marks, joined) := inputMarks raw rest
        (⟨d, true⟩ :: marks, joined)
    else if c == '\n' then ([], false)
    else
      let (marks, joined) := inputMarks raw rest
      (⟨c, false⟩ :: marks, joined)

def readMarks (raw : Bool) : Nat → Action (List Mark × Bool)
  | 0 => return ([], false)
  | fuel + 1 => do
    let line ← readLine 0
    let (marks, joined) := inputMarks raw line
    if joined then
      let (more, complete) ← readMarks raw fuel
      return (marks ++ more, complete)
    else return (marks, line.getLast? == some '\n')

def takeField (separators : Text) (isLast : Bool) (marks : List Mark) : Text × List Mark :=
  let parts := fun (m : Mark) => !m.quoted && separators.contains m.char
  let blank := fun (m : Mark) => parts m && Splitting.isIfsBlank m.char
  let marks := marks.dropWhile blank
  let field := marks.takeWhile fun m => !parts m
  let rest := (marks.drop field.length).dropWhile blank
  let rest := match rest with
    | m :: more => if parts m && !blank m then more.dropWhile blank else rest
    | [] => []
  if isLast && !rest.isEmpty then
    (((marks.reverse.dropWhile blank).reverse).map Mark.char, [])
  else (field.map Mark.char, rest)

def assignFields (separators : Text) : List String → List Mark → Action Unit
  | [], _ => return ()
  | name :: names, marks => do
    let (field, rest) := takeField separators names.isEmpty marks
    setVariable name field
    assignFields separators names rest

def reads : Builtin := fun _ _ args => do
  let raw := args.any fun t => t.head? == some '-' && t.contains 'r'
  let names := args.filter fun t => t.head? != some '-'
  if names.isEmpty then refuse "read" "arg count".toList 2
  else
    let lineCount := (← get).streams.toList.flatten.length + 1
    let (marks, complete) ← readMarks raw lineCount
    assignFields (← get).separators (names.map Text.asString) marks
    finish (if complete then 0 else 1)

def fileKind? (s : State) (path : Text) : Option Test.FileKind :=
  if path == "/dev/null".toList then some .device
  else match s.files.lookup path with
    | some t => some (.regular t.length false)
    | none =>
      match s.place.node? (Text.asString (Text.ofBytes (Text.byteValues path))) with
      | some (.text content) => some (.regular content.utf8ByteSize false)
      | some (.script content) => some (.regular content.utf8ByteSize true)
      | some .binary => some (.regular 1 true)
      | some .directory => some .directory
      | none => none

def tests (name : String) : Builtin := fun _ _ args => do
  match Test.holds (fileKind? (← get)) args with
  | .ok success => finish (if success then 0 else 1)
  | .error message => refuse name message 2

def bracket : Builtin := fun run tested args =>
  if args.getLast? == some [']'] then tests "[" run tested args.dropLast
  else refuse "[" "missing ]".toList 2

def prints : Builtin := fun _ _ args => do
  let formatted := printf args
  send 1 formatted.text
  for message in formatted.complaints do
    complain ("printf: ".toList ++ message)
  match formatted.fault with
  | some message => refuse "printf" message 2
  | none => finish (if formatted.complaints.isEmpty then 0 else 1)

def echoes : Builtin := fun _ _ args => do
  send 1 (echo args)
  finish 0

def changeDirectory : Builtin := fun _ _ args => do
  let s ← get
  let path := args.headD ['/']
  match s.place.resolve (Text.asString (Text.ofBytes (Text.byteValues path))) with
  | .ok names =>
    if s.place.tree.node? names == some .directory then
      modify fun s => { s with place := { s.place with directory := names } }
      finish 0
    else refuse "cd" ("can't cd to ".toList ++ path) 2
  | .error _ => refuse "cd" ("can't cd to ".toList ++ path) 2

def printDirectory : Builtin := fun _ _ _ => do
  send 1 (Text.ofWord ("/" ++ Path.ofPieces (← get).place.directory ++ "\n"))
  finish 0

def succeeds (success : Bool) : Builtin := fun _ _ _ => finish (if success then 0 else 1)

/-- The commands whose failures end the shell and whose assignments last. -/
def special : List (String × Builtin) :=
  [(":", succeeds true), (".", source), ("break", breaks), ("continue", continues),
    ("eval", evaluate), ("exit", exit), ("export", exports), ("readonly", protects),
    ("return", returns), ("set", sets), ("shift", shift), ("times", succeeds true),
    ("trap", trap), ("unset", unsets)]

def builtins : List (String × Builtin) :=
  [("[", bracket), ("alias", succeeds true), ("bg", succeeds true), ("cd", changeDirectory),
    ("echo", echoes), ("false", succeeds false), ("hash", succeeds true), ("jobs", succeeds true),
    ("kill", kill), ("local", localize), ("printf", prints), ("pwd", printDirectory),
    ("read", reads), ("test", tests "test"), ("true", succeeds true), ("umask", succeeds true),
    ("wait", succeeds true)]

def declarations : List String := ["export", "local", "readonly"]

end FormatConformance.Shell
