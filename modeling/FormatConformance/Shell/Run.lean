import FormatConformance.Shell.Builtin
import FormatConformance.Shell.Launch
import FormatConformance.Tool.Catalogue

/-!
Running scripts. What a command does is given by a `Runner` for the scripts and words inside of it,
so that no definition here calls itself but `Runner.ofFuel`, which goes down one level at a time.
-/

namespace FormatConformance.Shell

def openReason (mode : OpenMode) : FileTrouble → String
  | .missing => if mode == .reading then "No such file" else "Directory nonexistent"
  | trouble => trouble.reason

def parentPath (path : Text) : Text :=
  let behind := (path.reverse.takeWhile (· ≠ '/')).length
  let directory := path.take (path.length - behind)
  if directory.isEmpty then ['.'] else directory

def deviceDescriptor? (path : Text) : Option Nat :=
  match Text.asString path with
  | "/dev/stdin" | "/dev/fd/0" | "/proc/self/fd/0" => some 0
  | "/dev/stdout" | "/dev/fd/1" | "/proc/self/fd/1" => some 1
  | "/dev/stderr" | "/dev/fd/2" | "/proc/self/fd/2" => some 2
  | _ => none

def openPath (mode : OpenMode) (path : Text) : Action (Except FileTrouble Channel) := do
  let s ← get
  if path == "/dev/null".toList then return .ok .nowhere
  if let some descriptor := deviceDescriptor? path then
    return .ok (((← channel? descriptor)).getD .nowhere)
  let resolved := fun (t : Text) =>
    s.place.resolve (Text.asString (Text.ofBytes (Text.byteValues t)))
  let node := fun (t : Text) => (resolved t).map s.place.tree.node?
  match mode, s.content? path with
  | .reading, some t => return .ok (.stream (← newStream t))
  | .reading, none =>
    match node path with
    | .ok (some .directory) => return .ok .nowhere
    | .ok _ => return .ok (.stream (← newStream []))
    | .error trouble => return .error trouble
  | _, content =>
    match node path with
    | .ok (some .directory) => return .error .isDirectory
    | _ =>
      match node (parentPath path) with
      | .ok (some .directory) =>
        let kept := if mode == .appending then content.getD [] else []
        modify fun s => s.writeFile path kept
        return .ok (.file path)
      | .ok _ => return .error .notDirectory
      | .error trouble => return .error trouble

def redirect (run : Runner) : Redirect → Action Bool
  | .file descriptor mode path => do
    let path := whole (← run.word path)
    match ← openPath mode path with
    | .ok channel =>
      setChannel descriptor (some channel)
      return true
    | .error trouble =>
      let verb := if mode == .reading then "cannot open " else "cannot create "
      complain (verb.toList ++ path ++ ": ".toList ++ (openReason mode trouble).toList)
      return false
  | .copy descriptor source => do
    let source := whole (← run.word source)
    if source == ['-'] then
      setChannel descriptor none
      return true
    else if source.isEmpty || !source.all Char.isDigit then
      giveUp "Syntax error: Bad fd number".toList
    else
      match ← channel? (Arithmetic.valueIn 10 source) with
      | some channel =>
        setChannel descriptor (some channel)
        return true
      | none =>
        complain (source ++ ": Bad file descriptor".toList)
        return false
  | .document descriptor content => do
    let t := whole (← run.word content)
    setChannel descriptor (some (.stream (← newStream t)))
    return true

def redirectAll (run : Runner) : List Redirect → Action Bool
  | [] => return true
  | r :: rest => do
    if ← redirect run r then redirectAll run rest else return false

def untilExit (run : Runner) (act : Action Unit) : Action Unit := do
  let ending : Option Ending ←
    try
      act
      pure none
    catch e => pure (some e)
  match (← get).traps.lookup "EXIT", ending with
  | none, none => return ()
  | none, some e => throw e
  | some _, some (.killed signal) => throw (.killed signal)
  | some action, _ =>
    let last := (← get).status
    let status := match ending with
      | some (.exited n) | some (.returned n) => n
      | _ => last
    modify fun s => { s with traps := s.traps.filter fun row => row.1 != "EXIT", status }
    evaluateText run false action
    throw (.exited status)

def subshell (run : Runner) (tested : Bool) (commands : Script) : Action Unit :=
  apart (untilExit run (run.script tested commands))

def deliver (outcome : Tool.Outcome) : Action Unit := do
  send 1 outcome.output
  send 2 outcome.errors
  finish outcome.status

def gather (name : String) : List Text → Action (List Tool.Input × Tool.Outcome)
  | [] => return ([], {})
  | path :: rest => do
    let here : Except FileTrouble Text ←
      if path == ['-'] then .ok <$> readAll 0
      else if path == "/dev/null".toList then pure (.ok [])
      else match deviceDescriptor? path with
        | some descriptor => .ok <$> readAll descriptor
        | none => do
          let s ← get
          match s.content? path with
          | some t => pure (.ok t)
          | none =>
            match s.place.resolve (Text.asString (Text.ofBytes (Text.byteValues path))) with
            | .ok _ => pure (.error .isDirectory)
            | .error trouble => pure (.error trouble)
    let (inputs, trouble) ← gather name rest
    match here with
    | .ok t => return (⟨path, t⟩ :: inputs, trouble)
    | .error e =>
      let message := path ++ ": ".toList ++ e.reason.toList
      let status := if name == "grep" then 2 else 1
      return (inputs, Tool.Outcome.refused name message status ++ trouble)

def useTool (name : String) (tool : Tool) : Builtin := fun _ _ args => do
  match tool args with
  | .finish outcome => deliver outcome
  | .take count =>
    send 1 (← readBytes 0 count)
    finish 0
  | .read files work =>
    if files.isEmpty then deliver (work [⟨[], ← readAll 0⟩])
    else
      let (inputs, trouble) ← gather name files
      let outcome := if inputs.isEmpty then {} else work inputs
      deliver { outcome with
        errors := trouble.errors ++ outcome.errors, status := max trouble.status outcome.status }

def tee : Builtin := fun _ _ args => do
  let t ← readAll 0
  send 1 t
  finish 0
  let appends := args.contains ['-', 'a']
  for path in args.filter (· ≠ ['-', 'a']) do
    match ← openPath (if appends then .appending else .writing) path with
    | .ok channel =>
      keepingDescriptors do
        setChannel 9 (some channel)
        send 9 t
    | .error trouble =>
      send 2 ("tee: ".toList ++ path ++ ": ".toList ++ trouble.reason.toList ++ ['\n'])
      finish 1

def touch : Builtin := fun _ _ args => do
  for path in args do
    let _ ← openPath .appending path
  finish 0

def removeFiles : Builtin := fun _ _ args => do
  modify fun s => { s with files := s.files.filter fun file => !args.contains file.1 }
  finish 0

def makeTemporary : Builtin := fun _ _ _ => do
  let path := "/tmp/tmp.".toList ++ (toString ((← get).files.length + 1)).toList
  modify fun s => s.writeFile path []
  send 1 (path ++ ['\n'])
  finish 0

structure ShellOptions where
  isText : Bool := false
  isInput : Bool := false
  rest : List Text

def shellOptions : List Text → Action ShellOptions
  | ['-', '-'] :: rest => return { rest }
  | ['-'] :: rest => return { rest }
  | [sign, 'o'] :: option :: rest => do
    let _ ← setOptions "sh" [[sign, 'o'], option]
    shellOptions rest
  | (sign :: letter :: letters) :: rest => do
    if sign == '-' || sign == '+' then
      let own := fun (c : Char) => c == 'c' || c == 's' || c == 'l'
      for c in (letter :: letters).filter fun c => !own c do
        if optionNames.any fun row => row.2 == c then setFlag (sign == '-') c
        else giveUp ("Illegal option ".toList ++ [sign, c])
      let more ← shellOptions rest
      return { more with
        isText := more.isText || (letter :: letters).contains 'c'
        isInput := more.isInput || (letter :: letters).contains 's' }
    else return { rest := (sign :: letter :: letters) :: rest }
  | rest => return { rest }

def shell : Builtin := fun run _ args => do
  let options ← shellOptions args
  if options.isText then
    match options.rest with
    | [] => giveUp "-c requires an argument".toList
    | text :: rest =>
      modify fun s => { s with name := rest.headD s.name, args := rest.tail }
      untilExit run (evaluateText run false text)
  else
    match options.isInput, options.rest with
    | false, path :: rest =>
      match ← openPath .reading path with
      | .error trouble =>
        giveUp ("cannot open ".toList ++ path ++ ": ".toList ++
          (openReason .reading trouble).toList)
      | .ok _ =>
        let text := ((← get).content? path).getD []
        modify fun s => { s with name := path, args := rest }
        untilExit run (evaluateText run false text)
    | _, rest =>
      modify fun s => { s with args := rest }
      let text ← readAll 0
      untilExit run (evaluateText run false text)

/-- Runs a shell in a process of its own. Of the variables it gets those that are exported. -/
def startShell (name : Text) : Builtin := fun run tested args =>
  apart do
    modify fun s => { s with
      name, line := 0, flags := [], functions := [], hidden := [], loops := 0, readOnly := []
      bindings := s.bindings.filter fun row => s.exported.contains row.1 }
    shell run tested args

def utility? (name : Text) (program : String) : Option Builtin :=
  match Tool.catalogue.lookup program with
  | some tool => some (useTool program tool)
  | none =>
    match program with
    | "sh" | "dash" | "bash" => some (startShell name)
    | "tee" => some tee
    | "touch" => some touch
    | "rm" => some removeFiles
    | "mktemp" => some makeTemporary
    | _ => builtins.lookup program

def splitWords (t : Text) : List Text :=
  (t.splitOn ' ').filter fun word => !word.isEmpty

/-- Starts a program; the scripts on the way to it and the commands of `env` use up `fuel`. Gives
the trouble back that keeps it from starting. -/
def start (run : Runner) : Nat → Text → List Text → Action (Option StartTrouble)
  | 0, _, _ => return some .tooManyLevels
  | fuel + 1, name, args => do
    match launch (← get).place levels name args with
    | .error trouble => return some trouble
    | .ok found =>
      if found.program == "env" then
        environment fuel found.args
        return none
      else match utility? found.name found.program with
        | some utility =>
          utility run false found.args
          return none
        | none => return some (.file .missing)
where
  environment (fuel : Nat) (args : List Text) : Action Unit := do
    let args := match args with
      | ['-', 'S'] :: line :: rest => splitWords line ++ rest
      | ('-' :: 'S' :: line) :: rest => splitWords line ++ rest
      | args => args
    let args := args.dropWhile fun t => t == ['-', 'i'] || t == ['-']
    let given := args.takeWhile fun t => t.contains '='
    for t in given do
      let (name, value) := nameAndValue t
      modify fun s => { s.bind name (value.getD []) with exported := name :: s.exported }
    match args.drop given.length with
    | [] => finish 0
    | name :: rest =>
      match ← start run fuel name rest with
      | none => return ()
      | some trouble =>
        let reason := match trouble with
          | .file trouble => trouble.reason
          | .unknownFormat => "Exec format error"
          | _ => "Too many levels of symbolic links"
        send 2 ("env: '".toList ++ name ++ "': ".toList ++ reason.toList ++ ['\n'])
        if name.contains ' ' then
          send 2 "env: use -[v]S to pass options in shebang lines\n".toList
        finish (if trouble == .file .missing then 127 else 126)

def signalReport (signal : Nat) : Text :=
  match signal with
  | 1 => "Hangup\n".toList
  | 2 | 13 => []
  | 9 => "Killed\n".toList
  | 15 => "Terminated\n".toList
  | _ => "Aborted\n".toList

/-- Starts a program for a command of a script. A script without interpreter is run by the shell. -/
def callProgram (run : Runner) (name : Text) (args : List Text) : Action Unit := do
  let trouble ←
    try start run levels name args
    catch
    | .killed signal =>
      send 2 (signalReport signal)
      finish (128 + signal)
      pure none
    | ending => throw ending
  match trouble with
  | none => return ()
  | some .unknownFormat => startShell (Text.ofWord "/bin/sh") run false (name :: args)
  | some trouble =>
    let (reason, status) := match trouble with
      | .file .missing | .file .notDirectory => ("not found", 127)
      | .file .nameTooLong => (FileTrouble.reason .nameTooLong, 127)
      | .file trouble => (trouble.reason, 126)
      | _ => ("Too many levels of symbolic links", 127)
    complain (name ++ ": ".toList ++ reason.toList)
    finish status

def callFunction (run : Runner) (tested : Bool) (body : Command) (args : List Text) :
    Action Unit := do
  let before ← get
  modify fun s => { s with args, hidden := [] :: s.hidden, loops := 0 }
  let leave : Action Unit := modify fun s =>
    let shown := (s.hidden.headD []).foldl (fun s (name, value) => match value with
      | some t => s.bind name t
      | none => s.unbind name) s
    { shown with args := before.args, hidden := before.hidden, loops := before.loops }
  try
    run.script tested [body]
    leave
  catch
  | .returned status =>
    leave
    finish status
  | ending =>
    leave
    throw ending

def commandKind? (s : State) (name : Text) : Option (String × Option Text) :=
  let word := Text.asString name
  let own := ["command", "type"]
  if Parser.keywords.contains word then some ("a shell keyword", none)
  else if (special.lookup word).isSome || word == "exec" then
    some ("a special shell builtin", none)
  else if (s.functions.lookup word).isSome then some ("a shell function", none)
  else if (builtins.lookup word).isSome || own.contains word then some ("a shell builtin", none)
  else match launch s.place levels name [] with
    | .ok _ =>
      some ("", some (if name.contains '/' then name else "/usr/bin/".toList ++ name))
    | .error _ => none

def showPath (name : Text) : Action Unit := do
  match commandKind? (← get) name with
  | some (_, path) =>
    send 1 (path.getD name ++ ['\n'])
    finish 0
  | none => finish 127

def describe : List Text → Action Unit
  | [] => return ()
  | name :: rest => do
    match commandKind? (← get) name with
    | some (kind, path) => send 1 (name ++ " is ".toList ++ path.getD kind.toList ++ ['\n'])
    | none =>
      send 1 (name ++ ": not found\n".toList)
      finish 127
    describe rest

def call (run : Runner) (tested functions : Bool) (name : Text) (args : List Text) :
    Action Unit := do
  let word := Text.asString name
  match special.lookup word with
  | some builtin => builtin run tested args
  | none =>
    let s ← get
    match if functions then s.functions.lookup word else none with
    | some body => callFunction run tested body args
    | none =>
      match builtins.lookup word with
      | some builtin => builtin run tested args
      | none => callProgram run name args

def callAny (run : Runner) (tested : Bool) (name : Text) (args : List Text) : Action Unit := do
  match Text.asString name, args with
  | "exec", [] => finish 0
  | "exec", name :: args =>
    callProgram run name args
    throw (.exited (← get).status)
  | "command", ['-', 'v'] :: name :: _ => showPath name
  | "command", ['-', 'V'] :: names | "type", names =>
    finish 0
    describe names
  | "command", args =>
    match args.dropWhile (· == ['-', 'p']) with
    | [] => finish 0
    | name :: args => call run tested false name args
  | _, _ => call run tested true name args

def checkFailure (tested : Bool) : Action Unit := do
  let s ← get
  if !tested && s.status != 0 && s.flags.contains 'e' then throw (.exited s.status)

/-- The fields of the words of a command. Assignments behind a command that declares are not split.
-/
def argumentFields (run : Runner) : List Word → Action (List Text)
  | [] => return []
  | first :: rest => do
    let front ← wordFields run first
    let declares := front.head?.any fun name => declarations.contains (Text.asString name)
    let more ← rest.mapM fun w =>
      if declares && (assignment? w).isSome then return [← wordText run w] else wordFields run w
    return front ++ more.flatten

def showCommand (assigned : List (String × Text)) (args : List Text) : Action Unit := do
  if (← get).flags.contains 'x' then
    let shown := assigned.map (fun (name, t) => name.toList ++ '=' :: t) ++ args
    send 2 ("+ ".toList ++ [' '].intercalate shown ++ ['\n'])

def assignAll (run : Runner) (assignments : List (String × Word)) :
    Action (List (String × Text)) :=
  assignments.mapM fun (name, w) => do
    let t ← wordText run w
    setVariable name t
    return (name, t)

def withVariables (run : Runner) (assignments : List (String × Word)) (args : List Text)
    (act : Action Unit) : Action Unit := do
  let before ← get
  let assigned ← assignAll run assignments
  showCommand assigned args
  modify fun s => { s with exported := assigned.map Prod.fst ++ s.exported }
  let restore : Action Unit := modify fun s =>
    let s := assigned.foldl (fun s (name, _) => match before.value? name with
      | some t => s.bind name t
      | none => s.unbind name) s
    { s with exported := before.exported }
  try
    act
    if !assigned.isEmpty then restore
  catch ending =>
    if !assigned.isEmpty then restore
    throw ending

def runSimple (run : Runner) (tested : Bool) (line : Nat) (assignments : List (String × Word))
    (words : List Word) (redirects : List Redirect) : Action Unit := do
  modify fun s => { s with line, substituted := 0 }
  let args ← argumentFields run words
  match args with
  | [] =>
    keepingDescriptors do
      if ← redirectAll run redirects then
        let assigned ← assignAll run assignments
        if !assigned.isEmpty then showCommand assigned []
        finish (← get).substituted
      else finish 2
  | name :: rest =>
    let word := Text.asString name
    let isSpecial := (special.lookup word).isSome || word == "exec"
    let act : Action Unit := do
      if ← redirectAll run redirects then
        if isSpecial then
          let assigned ← assignAll run assignments
          showCommand assigned args
          callAny run tested name rest
        else withVariables run assignments args (callAny run tested name rest)
      else if isSpecial then throw (.exited 2)
      else finish 2
    if word == "exec" then act else keepingDescriptors act
  checkFailure tested

def runPipeline (run : Runner) (tested : Bool) : List Command → Action Unit
  | [] => return ()
  | [c] => subshell run tested [c]
  | c :: rest => do
    let index ← newStream []
    keepingDescriptors do
      setChannel 1 (some (.stream index))
      subshell run tested [c]
    keepingDescriptors do
      setChannel 0 (some (.stream index))
      runPipeline run tested rest

def runRound (body : Action Unit) : Action Bool :=
  try
    body
    return true
  catch
  | .broke levels =>
    if levels ≤ 1 then return false else throw (.broke (levels - 1))
  | .continued levels =>
    if levels ≤ 1 then return true else throw (.continued (levels - 1))
  | ending => throw ending

def limitSignal : Nat := 9

def runLoop (run : Runner) (tested isUntil : Bool) (test body : Script) :
    Nat → Nat → Action Unit
  | 0, _ => throw (.killed limitSignal)
  | rounds + 1, status => do
    let goesOn ← runRound do
      run.script true test
      if ((← get).status == 0) == isUntil then
        finish status
        throw (.broke 1)
      run.script tested body
    if goesOn then runLoop run tested isUntil test body rounds (← get).status

def runEach (run : Runner) (tested : Bool) (name : String) (body : Script) :
    List Text → Action Unit
  | [] => return ()
  | t :: rest => do
    setVariable name t
    if ← runRound (run.script tested body) then runEach run tested name body rest

def insideLoop (act : Action Unit) : Action Unit := do
  let loops := (← get).loops
  modify fun s => { s with loops := loops + 1 }
  try
    act
    modify fun s => { s with loops }
  catch ending =>
    modify fun s => { s with loops }
    throw ending

def anyMatches (run : Runner) (subject : Text) : List Word → Action Bool
  | [] => return false
  | w :: rest => do
    let values ← expandWord run w
    if globMatches (pattern values) subject then return true else anyMatches run subject rest

def choose (run : Runner) (tested : Bool) (subject : Text) :
    List (List Word × Script) → Action Unit
  | [] => finish 0
  | (patterns, commands) :: rest => do
    if ← anyMatches run subject patterns then
      if commands.isEmpty then finish 0 else run.script tested commands
    else choose run tested subject rest

def runCommand (run : Runner) (tested : Bool) (c : Command) : Action Unit := do
  match c with
  | .simple line assignments words redirects =>
    runSimple run tested line assignments words redirects
  | .pipeline commands =>
    runPipeline run tested commands
    checkFailure tested
  | .negated c =>
    run.script true [c]
    finish (if (← get).status == 0 then 1 else 0)
  | .both first second =>
    run.script true [first]
    if (← get).status == 0 then run.script tested [second]
  | .either first second =>
    run.script true [first]
    if (← get).status != 0 then run.script tested [second]
  | .branch test yes no =>
    run.script true test
    if (← get).status == 0 then run.script tested yes
    else if no.isEmpty then finish 0
    else run.script tested no
  | .choice line subject clauses =>
    modify fun s => { s with line }
    choose run tested (← wordText run subject) clauses
  | .loop isUntil test body => insideLoop (runLoop run tested isUntil test body run.rounds 0)
  | .each line name words body =>
    modify fun s => { s with line }
    let items := (← words.mapM (wordFields run)).flatten
    if items.isEmpty then finish 0 else insideLoop (runEach run tested name body items)
  | .group commands => run.script tested commands
  | .subshell commands =>
    subshell run tested commands
    checkFailure tested
  | .background c =>
    subshell run true [c]
    finish 0
  | .define name body =>
    modify fun s =>
      { s with functions := (name, body) :: s.functions.filter fun f => f.1 != name }
    finish 0
  | .redirected c redirects =>
    let failed ← keepingDescriptors do
      if ← redirectAll run redirects then
        run.script tested [c]
        return false
      else return true
    if failed then
      finish 2
      checkFailure tested

/-- The runner that goes `fuel` levels down. A run that would go deeper is killed. -/
def Runner.ofFuel (rounds : Nat) : Nat → Runner
  | 0 => ⟨fun _ _ => throw (.killed limitSignal), fun _ => throw (.killed limitSignal), rounds⟩
  | fuel + 1 =>
    let inner := ofFuel rounds fuel
    { script := fun tested commands => do
        for c in commands do
          runCommand inner tested c
      word := expandWord inner
      rounds }

structure Completion where
  status : Option Nat
  output : List UInt8
  errors : List UInt8
  deriving DecidableEq, Repr

def Completion.succeeded (c : Completion) : Bool := c.status == some 0

def depthLimit : Nat := 2000

def roundLimit : Nat := 100000

def execute (place : Workplace) (name : Text) (args : List Text) (input : List UInt8) :
    Except StartTrouble Completion :=
  let s : State :=
    { place, name, args := []
      descriptors := [(0, .stream 0), (1, .stream 1), (2, .stream 2)]
      streams := #[Text.ofByteValues input, [], []] }
  let (result, after) := ((start (Runner.ofFuel roundLimit depthLimit) levels name args).run).run s
  let bytes := fun (index : Nat) => Text.byteValues ((after.streams[index]?).getD [])
  let completed := fun (status : Option Nat) => Completion.mk status (bytes 1) (bytes 2)
  match result with
  | .ok (some trouble) => .error trouble
  | .ok none | .error (.broke _) | .error (.continued _) => .ok (completed (some after.status))
  | .error (.exited status) | .error (.returned status) => .ok (completed (some status))
  | .error (.killed _) => .ok (completed none)

end FormatConformance.Shell
