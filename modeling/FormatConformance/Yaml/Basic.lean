import FormatConformance.Text.Basic

/-! YAML values, and what a text without quotes stands for. -/

namespace FormatConformance

inductive Yaml where
  | null
  | boolean (value : Bool)
  | number
  | text (value : Text)
  | sequence (items : List Yaml)
  | mapping (pairs : List (Yaml × Yaml))
  | misfit
  /-- A collection in which a misfit comes first of all that it cannot hold. -/
  | spoiled
  /-- A name for what is no finite number, or a collection in which one comes first of all that it
  cannot hold. -/
  | endless

namespace Yaml

structure Tag where
  secondary : Bool
  suffix : Text
  deriving DecidableEq, Repr

def dropSign : Text → Text
  | '+' :: rest | '-' :: rest => rest
  | t => t

def isHexDigit (c : Char) : Bool :=
  c.isDigit || ('a' ≤ c && c ≤ 'f') || ('A' ≤ c && c ≤ 'F')

def isOctalDigit (c : Char) : Bool := '0' ≤ c && c ≤ '7'

def digitsValue (base : Nat) (digits : Text) : Nat :=
  digits.foldl (fun n c =>
    base * n + (if c.isDigit then c.toNat - '0'.toNat else c.toLower.toNat - 'a'.toNat + 10)) 0

def isInteger (base : Nat) (isDigit : Char → Bool) (t : Text) : Bool :=
  let digits := dropSign t
  !digits.isEmpty && digits.all isDigit &&
    digitsValue base digits ≤ (if t.head? == some '-' then Nat.pow 2 63 else Nat.pow 2 63 - 1)

def isDecimal (t : Text) : Bool :=
  let t := dropSign t
  let whole := t.takeWhile Char.isDigit
  let rest := t.drop whole.length
  let (places, rest) := match rest with
    | '.' :: rest => (rest.takeWhile Char.isDigit, rest.dropWhile Char.isDigit)
    | _ => ([], rest)
  let ended := match rest with
    | [] => true
    | e :: exponent =>
      (e == 'e' || e == 'E') && !(dropSign exponent).isEmpty && (dropSign exponent).all Char.isDigit
  (!(whole ++ places).isEmpty && ended) ||
    ["inf", "infinity", "nan"].contains (Text.asString (t.map Char.toLower))

def pointedNames : List String :=
  [".inf", ".Inf", ".INF", "+.inf", "+.Inf", "+.INF", "-.inf", "-.Inf", "-.INF", ".nan", ".NAN"]

def isPointedName (t : Text) : Bool := pointedNames.contains (Text.asString t)

def isNumber (t : Text) : Bool :=
  isDecimal t || match t with
    | '0' :: 'x' :: digits => isInteger 16 isHexDigit digits
    | '0' :: 'o' :: digits => isInteger 8 isOctalDigit digits
    | '+' :: digits => isInteger 10 Char.isDigit digits
    | _ => false

def ofPlain (t : Text) : Yaml :=
  match Text.asString t with
  | "~" | "null" => null
  | "true" => boolean true
  | "false" => boolean false
  | _ => if isNumber t then number else if isPointedName t then endless else text t

def ofTagged (tag : Option Tag) (t : Text) : Yaml :=
  match tag with
  | none => ofPlain t
  | some tag =>
    match tag.secondary, Text.asString tag.suffix with
    | true, "bool" =>
      match Text.asString t with
      | "true" => boolean true
      | "false" => boolean false
      | _ => misfit
    | true, "int" => if isInteger 10 Char.isDigit t then number else misfit
    | true, "float" =>
      if isDecimal t then number else if isPointedName t then endless else misfit
    | true, "null" => if ["~", "null"].contains (Text.asString t) then null else misfit
    | _, _ => text t

def isUsable : Yaml → Bool
  | misfit | spoiled | endless => false
  | _ => true

def ofParts (parts : List Yaml) (collection : Yaml) : Yaml :=
  match parts.find? (!·.isUsable) with
  | none => collection
  | some endless => endless
  | some _ => spoiled

def ofItems (items : List Yaml) : Yaml := ofParts items (sequence items)

def pairUp : List Yaml → List (Yaml × Yaml)
  | misfit :: rest => pairUp rest
  | key :: value :: rest => (key, value) :: pairUp rest
  | _ => []

def ofNodes (nodes : List Yaml) : Yaml :=
  let pairs := pairUp nodes
  ofParts (pairs.flatMap fun (key, value) => [key, value]) (mapping pairs)

/-- The value of a key; of repeated keys the last one counts. -/
def valueOf? (pairs : List (Yaml × Yaml)) (key : String) : Option Yaml :=
  (pairs.reverse.find? fun pair => match pair.1 with
    | .text t => t == key.toList
    | _ => false).map Prod.snd

def text? : Yaml → Option Text
  | text t => some t
  | _ => none

def boolean? : Yaml → Option Bool
  | boolean b => some b
  | _ => none

def get? (y : Yaml) (key : String) : Option Yaml :=
  match y with
  | mapping pairs => valueOf? pairs key
  | _ => none

end Yaml

end FormatConformance
