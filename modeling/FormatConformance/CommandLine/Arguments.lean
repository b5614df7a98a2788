import FormatConformance.Settings
import FormatConformance.Snapshot.Policy

/-!
Arguments of the command line. An option with a value has it behind an equals sign or in the next
argument; switches have none and may also be turned on by the environment. The first fault from the
left decides, unless the help or the version is asked for before it.
-/

namespace FormatConformance.CommandLine

inductive Switch where
  | standalone
  | deep
  | checkReaders
  | accept
  deriving DecidableEq, Repr

inductive Value where
  | root
  | engine
  | standaloneEngine
  deriving DecidableEq, Repr

inductive Query where
  | help
  | version
  deriving DecidableEq, Repr

inductive Purpose where
  | switch (switch : Switch)
  | value (value : Value)
  | verbose
  | query (query : Query)
  deriving DecidableEq, Repr

namespace Purpose

def ofName? : String → Option Purpose
  | "root" => some (.value .root)
  | "engine" => some (.value .engine)
  | "standalone-engine" => some (.value .standaloneEngine)
  | "standalone" => some (.switch .standalone)
  | "full" => some (.switch .deep)
  | "check-parsers" => some (.switch .checkReaders)
  | "accept" => some (.switch .accept)
  | "debug" => some .verbose
  | "help" => some (.query .help)
  | "version" => some (.query .version)
  | _ => none

def ofLetter? (c : Char) : Option Purpose :=
  if c = 'd' then some .verbose
  else if c = 'h' then some (.query .help)
  else if c = 'V' then some (.query .version)
  else none

end Purpose

inductive Fault where
  | unknownOption (option : String)
  | repeatedOption (option : String)
  | missingValue (option : String)
  | emptyValue (option : String)
  | unwantedValue (option : String)
  | noDirectory
  | noEngine
  deriving DecidableEq, Repr

namespace Fault

def message : Fault → String
  | unknownOption option => "unexpected argument '" ++ option ++ "' found"
  | repeatedOption option => "the argument '" ++ option ++ "' cannot be used multiple times"
  | missingValue option | emptyValue option =>
    "a value is required for '" ++ option ++ "' but none was supplied"
  | unwantedValue option => "unexpected value for '" ++ option ++ "' found"
  | noDirectory => "no fixture directory was given"
  | noEngine => "the required argument '--engine' was not provided"

end Fault

inductive Stop where
  | answer (query : Query)
  | fault (fault : Fault)
  deriving DecidableEq, Repr

structure Arguments where
  directories : List String := []
  values : List (Value × String) := []
  switches : List Switch := []
  verbosity : Nat := 0
  deriving DecidableEq, Repr

namespace Arguments

def addDirectory (a : Arguments) (dir : String) : Except Stop Arguments :=
  if dir = "" then .error (.fault (.emptyValue "dirs"))
  else .ok { a with directories := a.directories ++ [dir] }

def addDirectories (a : Arguments) (dirs : List String) : Except Stop Arguments :=
  dirs.foldlM addDirectory a

def addValue (a : Arguments) (option : String) (value : Value) (given : String) :
    Except Stop Arguments :=
  if given = "" then .error (.fault (.emptyValue option))
  else if (a.values.lookup value).isSome then .error (.fault (.repeatedOption option))
  else .ok { a with values := (value, given) :: a.values }

def addPlain (a : Arguments) (option : String) : Purpose → Except Stop Arguments
  | .switch s =>
    if a.switches.contains s then .error (.fault (.repeatedOption option))
    else .ok { a with switches := s :: a.switches }
  | .verbose => .ok { a with verbosity := a.verbosity + 1 }
  | .query q => .error (.answer q)
  | .value _ => .error (.fault (.missingValue option))

def addLetter (a : Arguments) (letter : Char) : Except Stop Arguments :=
  let option := String.ofList ['-', letter]
  match Purpose.ofLetter? letter with
  | some purpose => a.addPlain option purpose
  | none => .error (.fault (.unknownOption option))

def splitOption (body : Text) : String × Option String :=
  let name := body.takeWhile (· ≠ '=')
  (Text.asString name, match body.drop name.length with
    | [] => none
    | _ :: given => some (Text.asString given))

/-- Whether an argument can only be an option, and so no value of the one before. -/
def isOption (arg : String) : Bool := arg.startsWith "-" && arg ≠ "-"

def readFrom (a : Arguments) : List String → Except Stop Arguments
  | [] => .ok a
  | arg :: rest =>
    match arg.toList with
    | ['-', '-'] => a.addDirectories rest
    | '-' :: '-' :: body =>
      let (name, given) := splitOption body
      let option := "--" ++ name
      match Purpose.ofName? name, given with
      | none, _ => .error (.fault (.unknownOption option))
      | some (.value value), some given => do
        readFrom (← a.addValue option value given) rest
      | some (.value value), none =>
        match rest with
        | [] => .error (.fault (.missingValue option))
        | next :: rest => do
          if isOption next then throw (.fault (.missingValue option))
          readFrom (← a.addValue option value next) rest
      | some _, some _ => .error (.fault (.unwantedValue option))
      | some purpose, none => do readFrom (← a.addPlain option purpose) rest
    | '-' :: letter :: letters => do
      readFrom (← (letter :: letters).foldlM addLetter a) rest
    | _ => do readFrom (← a.addDirectory arg) rest

def read (args : List String) : Except Stop Arguments := readFrom {} args

end Arguments

abbrev Environment := List (String × String)

def Switch.environmentName? : Switch → Option String
  | .standalone => some Settings.standaloneVariable
  | .deep => some Settings.deepVariable
  | .checkReaders => some Settings.checkReadersVariable
  | .accept => none

/-- Whether the value of a variable turns a switch on; blanks around it make it another value. -/
def turnsOn (value : String) : Bool :=
  !(["", "n", "no", "f", "false", "off", "0"].contains (Settings.lowered value.toList))

structure Request where
  directories : List String
  root : String
  engine : String
  standaloneEngine : Option String
  standalone : Bool
  deep : Bool
  checkReaders : Bool
  accepting : Bool
  deriving DecidableEq, Repr

namespace Request

def isOn (a : Arguments) (environment : Environment) (switch : Switch) : Bool :=
  a.switches.contains switch ||
    (switch.environmentName?.bind fun name => environment.lookup name).any turnsOn

def ofArguments (a : Arguments) (environment : Environment) : Except Stop Request :=
  match a.directories.isEmpty, a.values.lookup .engine with
  | true, _ => .error (.fault .noDirectory)
  | false, none => .error (.fault .noEngine)
  | false, some engine =>
    .ok {
      directories := a.directories
      root := (a.values.lookup .root).getD "."
      engine
      standaloneEngine := a.values.lookup .standaloneEngine
      standalone := isOn a environment .standalone
      deep := isOn a environment .deep
      checkReaders := isOn a environment .checkReaders
      accepting := isOn a environment .accept }

def read (args : List String) (environment : Environment) : Except Stop Request := do
  ofArguments (← Arguments.read args) environment

end Request

end FormatConformance.CommandLine
