import FormatConformance.Text.ByteText
import FormatConformance.Workplace

/-!
What runs when a program is started. A program is one of the system, or a script whose first line
names another program as its interpreter.
-/

namespace FormatConformance.Shell

inductive StartTrouble where
  | file (trouble : FileTrouble)
  | zeroCharacter
  | unknownFormat
  | tooManyLevels
  deriving DecidableEq, Repr

namespace StartTrouble

def message : StartTrouble → String
  | file trouble => trouble.message
  | zeroCharacter => "nul byte found in provided data"
  | unknownFormat => "Exec format error (os error 8)"
  | tooManyLevels => "Too many levels of symbolic links (os error 40)"

end StartTrouble

structure Launch where
  program : String
  name : Text
  args : List Text

/-- What follows the first two characters of a script up to the end of its line: an interpreter and
perhaps one argument, which may hold blanks. -/
def interpreter? (content : Text) : Option (Text × Option Text) := do
  let isBlank := fun (c : Char) => c == ' ' || c == '\t'
  let behind ← ['#', '!'].isPrefixOf? content
  let line := (behind.takeWhile (· ≠ '\n')).dropWhile isBlank
  let line := (line.reverse.dropWhile isBlank).reverse
  let path := line.takeWhile fun c => !isBlank c
  let arg := (line.drop path.length).dropWhile isBlank
  if path.isEmpty then none else some (path, if arg.isEmpty then none else some arg)

def systemProgram? : List String → Option String
  | ["bin", name] | ["usr", "bin", name] =>
    if FileTree.systemPrograms.contains name then some name else none
  | _ => none

/-- Finds what runs for a program; `fuel` bounds the scripts that are interpreters of scripts. A
name without slashes is looked for among the programs of the system. -/
def launch (place : Workplace) : Nat → Text → List Text → Except StartTrouble Launch
  | 0, _, _ => .error .tooManyLevels
  | fuel + 1, name, args =>
    let path := Text.asString (Text.ofBytes (Text.byteValues name))
    if path.toList.contains '/' then
      match place.resolve path with
      | .error trouble => .error (.file trouble)
      | .ok names =>
        match systemProgram? names with
        | some program => .ok ⟨program, name, args⟩
        | none =>
          match place.tree.node? names with
          | some (.script content) =>
            match interpreter? (Text.ofWord content) with
            | none => .error .unknownFormat
            | some (interpreter, arg) =>
              launch place fuel interpreter (arg.toList ++ name :: args)
          | some _ => .error (.file .denied)
          | none => .error (.file .missing)
    else if FileTree.nameLimit < name.length then .error (.file .nameTooLong)
    else if path == "." || path == ".." then .error (.file .denied)
    else if FileTree.systemPrograms.contains path then .ok ⟨path, name, args⟩
    else .error (.file .missing)

def levels : Nat := 6

end FormatConformance.Shell
