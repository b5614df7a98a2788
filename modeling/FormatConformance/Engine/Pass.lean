import FormatConformance.Engine.Basic
import FormatConformance.Text.LineEnding

/-!
Formatting passes. A pass takes the markers out of a text, hands what is left to the engine with
their offsets among the options, and keeps the texts on both sides with the cursor shown in them.
-/

namespace FormatConformance

structure Pass where
  changed : Bool
  options : Options
  input : Text
  inputWithCursor : Text
  output : Text
  outputWithCursor : Text
  /-- The output with the cursor, carriage returns being spelled out. -/
  spelledOutput : Text

namespace Pass

/-- The options of a pass: offsets of markers stand in place of declared ones. -/
def sent (text : Text) (options : Options) : Options := options.withOffsets (Offsets.strip text).2

def ofAnswer (text : Text) (options : Options) (formatted : Formatted) : Pass :=
  let input := (Offsets.strip text).1
  let sent := sent text options
  let inputWithCursor := withCursor input sent.offsets.cursor
  let outputWithCursor := withCursor formatted.text formatted.cursor
  { changed := outputWithCursor != inputWithCursor
    options := sent
    input
    inputWithCursor
    output := formatted.text
    outputWithCursor
    spelledOutput := LineEnding.spellOut outputWithCursor }

def run (engine : Engine) (text : Text) (options : Options) : Logged (Except Rejection Pass) :=
  (engine.callFormat (Offsets.strip text).1 (sent text options)).map fun answer =>
    answer.map (ofAnswer text options)

end Pass

end FormatConformance
