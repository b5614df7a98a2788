import FormatConformance.Json.Printer
import FormatConformance.Json.Fault
import FormatConformance.Text.Hidden

/-! Reading data out of JSON values. What does not fit is described by the kind of value found and
by what was expected in its place. -/

namespace FormatConformance.Json

def kind : Json → String
  | null => "null"
  | bool b => "boolean `" ++ (if b then "true" else "false") ++ "`"
  | int n => "integer `" ++ String.ofList (intText n) ++ "`"
  | float x => "floating point `" ++ String.ofList (numberLayout.text x.value) ++ "`"
  | string s => "string " ++ String.ofList (Text.quoted s.toList)
  | array _ => "sequence"
  | object _ => "map"

def wrongKind (value : Json) (expected : String) : String :=
  "invalid type: " ++ value.kind ++ ", expected " ++ expected

def outOfRange (n : Int) (expected : String) : String :=
  "invalid value: " ++ (int n).kind ++ ", expected " ++ expected

def matchesNone (choice : String) : String :=
  "data did not match any variant of untagged enum " ++ choice

def asString : Json → Except String String
  | string s => .ok s
  | value => .error (value.wrongKind "a string")

def asOffset : Json → Except String Nat
  | int n => if 0 ≤ n then .ok n.toNat else .error (outOfRange n "usize")
  | value => .error (value.wrongKind "usize")

def asPath : Json → Except String String
  | string s => .ok s
  | value => .error (value.wrongKind "path string")

def asList : Json → Except String (List Json)
  | array items => .ok items
  | value => .error (value.wrongKind "a sequence")

def orNull {α : Type} (read : Json → Except String α) : Json → Except String (Option α)
  | null => .ok none
  | value => (read value).map some

end FormatConformance.Json
