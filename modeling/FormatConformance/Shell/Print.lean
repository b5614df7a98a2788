import FormatConformance.Shell.Arithmetic
import FormatConformance.Text.ByteText

/-! The commands `echo` and `printf`, which turn their arguments into output. -/

namespace FormatConformance.Shell

def letterEscape (c : Char) : Option Char :=
  if c == 'a' then some '\x07'
  else if c == 'b' then some '\x08'
  else if c == 'e' then some '\x1b'
  else if c == 'f' then some '\x0c'
  else if c == 'n' then some '\n'
  else if c == 'r' then some '\r'
  else if c == 't' then some '\t'
  else if c == 'v' then some '\x0b'
  else if c == '\\' then some '\\'
  else none

def isOctal (c : Char) : Bool := '0' ≤ c && c ≤ '7'

def octalChar (digits : Text) : Char := Char.ofNat (Arithmetic.valueIn 8 digits % 256)

def escapeText (t : Text) : Text × Nat :=
  match t with
  | [] => (['\\'], 0)
  | c :: _ =>
    match letterEscape c with
    | some meant => ([meant], 1)
    | none =>
      let digits := (t.takeWhile isOctal).take 3
      if digits.isEmpty then (['\\'], 0) else ([octalChar digits], digits.length)

structure Printed where
  text : Text
  ended : Bool := false

/-- An argument with its escapes carried out. Octal numbers may have a zero of their own in front,
and one escape ends all output. `skip` more characters belong to an escape. -/
def unescape : Nat → Text → Printed
  | _, [] => ⟨[], false⟩
  | skip + 1, _ :: rest => unescape skip rest
  | 0, c :: rest =>
    if c == '\\' then
      match rest with
      | 'c' :: _ => ⟨[], true⟩
      | '0' :: digits =>
        let digits := (digits.takeWhile isOctal).take 3
        let more := unescape (digits.length + 1) rest
        ⟨octalChar digits :: more.text, more.ended⟩
      | _ =>
        let (meant, count) := escapeText rest
        let more := unescape count rest
        ⟨meant ++ more.text, more.ended⟩
    else
      let more := unescape 0 rest
      ⟨c :: more.text, more.ended⟩

def echo (args : List Text) : Text :=
  let (silent, words) := match args with
    | ['-', 'n'] :: rest => (true, rest)
    | _ => (false, args)
  let printed := unescape 0 ([' '].intercalate words)
  if printed.ended || silent then printed.text else printed.text ++ ['\n']

structure Formatted where
  text : Text := []
  complaints : List Text := []
  ended : Bool := false
  fault : Option Text := none
  left : List Text

def Formatted.append (a b : Formatted) : Formatted :=
  { b with text := a.text ++ b.text, complaints := a.complaints ++ b.complaints }

structure Layout where
  flags : Text
  width : Nat
  leftAligned : Bool
  precision : Option Nat

namespace Layout

def pad (layout : Layout) (t : Text) : Text :=
  let blanks := List.replicate (layout.width - t.length) ' '
  if layout.leftAligned then t ++ blanks else blanks ++ t

def number (layout : Layout) (sign digits : Text) : Text :=
  let digits := match layout.precision with
    | some p => List.replicate (p - digits.length) '0' ++ digits
    | none => digits
  if layout.flags.contains '0' && !layout.leftAligned && layout.precision.isNone then
    sign ++ List.replicate (layout.width - sign.length - digits.length) '0' ++ digits
  else layout.pad (sign ++ digits)

def signed (layout : Layout) (n : Int) : Text :=
  let sign := if n < 0 then ['-'] else if layout.flags.contains '+' then ['+']
    else if layout.flags.contains ' ' then [' '] else []
  layout.number sign (toString n.natAbs).toList

def unsigned (layout : Layout) (base : Nat) (upper : Bool) (n : Int) : Text :=
  let digits := Nat.toDigits base (Arithmetic.bits n)
  let digits := if upper then digits.map Char.toUpper else digits
  let shown := layout.flags.contains '#' && n != 0
  if shown && base == 16 then layout.number (if upper then "0X".toList else "0x".toList) digits
  else layout.number [] (if shown && base == 8 then '0' :: digits else digits)

end Layout

def argumentNumber (arg : Text) : Int × List Text :=
  match arg with
  | [] => (0, [])
  | '\'' :: rest | '"' :: rest => ((rest.head?.map fun c => (c.toNat : Int)).getD 0, [])
  | _ =>
    let t := arg.dropWhile Arithmetic.isSpace
    let (negative, digits) := match t with
      | '-' :: rest => (true, rest)
      | '+' :: rest => (false, rest)
      | t => (false, t)
    if digits.head?.any Char.isDigit then
      let (n, rest) := Arithmetic.takeNumber digits
      (if negative then -n else n,
        if rest.isEmpty then [] else [arg ++ ": not completely converted".toList])
    else (0, [arg ++ ": expected numeric value".toList])

def takeSize (t : Text) (args : List Text) : Option Int × Text × List Text :=
  match t with
  | '*' :: rest => (some (argumentNumber (args.headD [])).1, rest, args.tail)
  | t =>
    let digits := t.takeWhile Char.isDigit
    (if digits.isEmpty then none else some (Arithmetic.valueIn 10 digits),
      t.drop digits.length, args)

def convert (layout : Layout) (conversion : Char) (args : List Text) : Option Formatted :=
  let arg := args.headD []
  let (n, complaints) := argumentNumber arg
  let numeric := fun t => some { text := t, complaints, left := args.tail : Formatted }
  let limited := fun (t : Text) => match layout.precision with
    | some p => t.take p
    | none => t
  match conversion with
  | 's' => some { text := layout.pad (limited arg), left := args.tail }
  | 'c' => some { text := layout.pad (arg.take 1), left := args.tail }
  | 'b' =>
    let printed := unescape 0 arg
    some { text := layout.pad (limited printed.text), ended := printed.ended, left := args.tail }
  | 'd' | 'i' => numeric (layout.signed n)
  | 'u' => numeric (layout.unsigned 10 false n)
  | 'o' => numeric (layout.unsigned 8 false n)
  | 'x' => numeric (layout.unsigned 16 false n)
  | 'X' => numeric (layout.unsigned 16 true n)
  | _ => none

def conversion (t : Text) (args : List Text) : Formatted × Nat :=
  let flags := t.takeWhile "#-+ 0".toList.contains
  let (width, rest, args) := takeSize (t.drop flags.length) args
  let (precision, rest, args) := match rest with
    | '.' :: rest =>
      let (p, rest, args) := takeSize rest args
      (some ((p.getD 0).toNat), rest, args)
    | rest => (none, rest, args)
  let width := width.getD 0
  let layout : Layout :=
    ⟨flags, width.natAbs, flags.contains '-' || width < 0, precision⟩
  let used := t.length - rest.length + 1
  match rest.head?.bind fun c => convert layout c args with
  | some formatted => (formatted, used)
  | none =>
    let fault := '%' :: t.take used ++ ": invalid directive".toList
    ({ ended := true, fault := some fault, left := args }, used)

def formatOnce : Nat → Text → List Text → Formatted
  | _, [], args => { left := args }
  | skip + 1, _ :: rest, args => formatOnce skip rest args
  | 0, c :: rest, args =>
    if c == '\\' then
      let (meant, count) := escapeText rest
      Formatted.append { text := meant, left := args } (formatOnce count rest args)
    else if c == '%' then
      if rest.head? == some '%' then
        Formatted.append { text := ['%'], left := args } (formatOnce 1 rest args)
      else
        let (formatted, count) := conversion rest args
        if formatted.ended then formatted
        else formatted.append (formatOnce count rest formatted.left)
    else Formatted.append { text := [c], left := args } (formatOnce 0 rest args)

/-- A format is used again as long as it takes arguments and some are left. -/
def formatAll (format : Text) : Nat → List Text → Formatted
  | 0, args => { left := args }
  | uses + 1, args =>
    let formatted := formatOnce 0 format args
    if formatted.ended || formatted.left.isEmpty || formatted.left.length == args.length then
      formatted
    else formatted.append (formatAll format uses formatted.left)

def printf (args : List Text) : Formatted :=
  match args with
  | [] => { fault := some "usage: printf format [arg ...]".toList, left := [] }
  | ['-', '-'] :: format :: rest => formatAll format (rest.length + 1) rest
  | format :: rest => formatAll format (rest.length + 1) rest

end FormatConformance.Shell
