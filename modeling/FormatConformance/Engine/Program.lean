import FormatConformance.Engine.Response
import FormatConformance.Shell.Run
import FormatConformance.Text.Blank
import FormatConformance.Workplace

/-!
Engines that are programs. A program is started once for every request, with the kind of the request
as its last argument and the request as its input. It answers with its output if it succeeds; else
its error stream is the message. Programs are scripts of a file tree and the shell itself.
-/

namespace FormatConformance

structure Program where
  path : String
  args : List String := []

namespace Program

def start (p : Program) (place : Workplace) (last : String) (input : List UInt8) :
    Except Shell.StartTrouble Shell.Completion :=
  let args := p.args ++ [last]
  if (p.path :: args).any fun t => t.toList.contains '\x00' then .error .zeroCharacter
  else Shell.execute place (Text.ofWord p.path) (args.map Text.ofWord) input

def request (text : Text) (options : Options) : Text :=
  "\x7b\"text\":".toList ++ (Json.string (Text.asString text)).compactChars ++
    ",\"options\":".toList ++ options.text.toList ++ ['\x7d']

def answer (p : Program) (place : Workplace) (kind : CallKind) (text : Text) (options : Options) :
    Except Rejection (List UInt8) :=
  match p.start place kind.name (Text.toBytes (request text options)) with
  | .error trouble => .error ⟨"failed to run " ++ p.path ++ ": " ++ trouble.message⟩
  | .ok completion =>
    if completion.succeeded then .ok completion.output
    else .error ⟨Text.asString (Text.trim (Text.ofBytes completion.errors))⟩

def malformed (kind : CallKind) (error : Json.Error) : Rejection :=
  ⟨"malformed " ++ kind.name ++ " response: " ++ error.message⟩

def engine (p : Program) (place : Workplace) : Engine where
  format text options := do
    let output ← p.answer place .format text options
    (Response.readFormatted output).mapError (malformed .format)
  parse text options := do
    let output ← p.answer place .parse text options
    (Json.readBytes output).mapError (malformed .parse)

def launch (place : Workplace) (path : String) : Engine := engine ⟨path, []⟩ place

end Program

end FormatConformance
