import FormatConformance.Harness.Run
import FormatConformance.Text.Fill

/-! Failures as they are shown on a terminal: the titles, the code, the message and its sources in
a frame, and the advice. -/

namespace FormatConformance

namespace Report

def lineWidth : Nat := 198

def messageIndent : Text.Indent := ⟨"  × ".toList, "  │ ".toList⟩

def sourceIndent (last : Bool) : Text.Indent :=
  if last then ⟨"  ╰─▶ ".toList, "      ".toList⟩ else ⟨"  ├─▶ ".toList, "  │   ".toList⟩

def adviceIndent : Text.Indent := ⟨"  help: ".toList, "        ".toList⟩

def paragraph (indent : Text.Indent) (message : String) : Text :=
  Text.fill lineWidth indent message.toList ++ ['\n']

def renderSources : List String → Text
  | [] => []
  | source :: rest => paragraph (sourceIndent rest.isEmpty) source ++ renderSources rest

def heading (outcome : Outcome) : Text :=
  "── ".toList ++ outcome.fixture.toList ++ " › ".toList ++ outcome.title.toList ++ ['\n']

def renderFailure (outcome : Outcome) (failure : Failure) : Text :=
  heading outcome ++ failure.code.toList ++ ['\n', '\n'] ++
    paragraph messageIndent failure.message ++ renderSources failure.sources ++
    (failure.advice.map (paragraph adviceIndent)).getD []

def render (report : Report) : String :=
  Text.asString (report.failures.flatMap fun (outcome, failure) => renderFailure outcome failure)

def complaint? (report : Report) : Option String :=
  if report.isSuccess then none
  else some (toString report.failures.length ++ " of " ++ toString report.length ++
    " entries failed\n" ++ report.render)

end Report

end FormatConformance
