import FormatConformance.Text.Blank
import FormatConformance.Tool.Basic
import FormatConformance.Tool.CharSet

/-! Tools that keep, count, sort or exchange parts of their input. -/

namespace FormatConformance.Tool

structure Count where
  lines : Nat
  words : Nat
  bytes : Nat

def Count.ofText (t : Text) : Count :=
  ⟨t.count '\n', (Text.words (t.map fun c => if c.toNat < 0x80 then c else 'x')).length, t.length⟩

def Count.shown (o : Options) (c : Count) : List Nat :=
  let all := !(o.has 'l' || o.has 'w' || o.has 'c' || o.has 'm')
  (if all || o.has 'l' then [c.lines] else []) ++ (if all || o.has 'w' then [c.words] else []) ++
    (if o.has 'm' then [c.bytes] else []) ++ (if all || o.has 'c' then [c.bytes] else [])

def count : Tool := fun args =>
  let o := Options.ofArguments "" args
  .read o.operands fun inputs =>
    .printed (inputs.flatMap fun input =>
      let numbers := (Count.ofText input.content).shown o
      let width := if numbers.length ≤ 1 then 1 else if o.operands.isEmpty then 7
        else (shown input.content.length).length
      let row := [' '].intercalate (numbers.map fun n => padStart width (shown n))
      row ++ (if o.operands.isEmpty then [] else ' ' :: input.name) ++ ['\n'])

def octal (digits : Text) : Char :=
  Char.ofNat (digits.foldl (fun n c => n * 8 + (c.toNat - 48)) 0 % 256)

/-- The characters of a set of `tr`, where escapes are carried out but ranges are not. The second
part of a pair tells whether the character may stand between the ends of a range. -/
def setChars : Nat → Text → List (Char × Bool)
  | _, [] => []
  | skip + 1, _ :: rest => setChars skip rest
  | 0, '\\' :: c :: rest =>
    let digits := ((c :: rest).takeWhile fun d => '0' ≤ d && d ≤ '7').take 3
    if digits.isEmpty then
      let meant := match c with
        | 'n' => '\n' | 't' => '\t' | 'r' => '\r' | 'a' => '\x07' | 'b' => '\x08'
        | 'f' => '\x0c' | 'v' => '\x0b' | c => c
      (meant, false) :: setChars 1 (c :: rest)
    else (octal digits, false) :: setChars digits.length (c :: rest)
  | 0, c :: rest => (c, c == '-') :: setChars 0 rest

def charsFrom (low high : Char) : Text :=
  (List.range (high.toNat + 1 - low.toNat)).map fun n => Char.ofNat (low.toNat + n)

def withRanges : List (Char × Bool) → Text
  | (low, _) :: ('-', true) :: (high, _) :: rest => charsFrom low high ++ withRanges rest
  | (c, _) :: rest => c :: withRanges rest
  | [] => []

def expandSet : Nat → Text → Text
  | 0, _ => []
  | fuel + 1, t =>
    let plain := t.takeWhile (· ≠ '[')
    withRanges (setChars 0 plain) ++
      match t.drop plain.length with
      | '[' :: ':' :: rest =>
        match namedClass? rest with
        | some (ranges, rest) =>
          (ranges.flatMap fun (low, high) => charsFrom low high) ++ expandSet fuel rest
        | none => '[' :: ':' :: expandSet fuel rest
      | '[' :: rest =>
        withRanges (setChars 0 ('[' :: rest.takeWhile (· ≠ '['))) ++
          expandSet fuel (rest.dropWhile (· ≠ '['))
      | _ => []

def squeeze (set : Text) : Text → Text
  | c :: d :: rest =>
    if c == d && set.contains c then squeeze set (d :: rest) else c :: squeeze set (d :: rest)
  | t => t

/-- The character at the same place of the second set as one is in the first. The last one of the
second set stands for what it lacks. -/
def exchanged (first second : Text) (c : Char) : Char :=
  match first.reverse.idxOf? c with
  | none => c
  | some n =>
    match second[first.length - 1 - n]?, second.getLast? with
    | some d, _ => d
    | none, some d => d
    | none, none => c

def allChars : Text := (List.range 256).map Char.ofNat

def exchange : Tool := fun args =>
  let o := Options.ofArguments "" args
  let complement := o.has 'c' || o.has 'C'
  let set := fun (t : Text) => expandSet (t.length + 1) t
  let first := set (o.operands.headD [])
  let first := if complement then allChars.filter fun c => !first.contains c else first
  let second := set ((o.operands[1]?).getD [])
  if o.has 'd' then
    .filter [] fun t =>
      let kept := t.filter fun c => !first.contains c
      if o.has 's' then squeeze second kept else kept
  else if o.has 's' && o.operands.length ≤ 1 then .filter [] (squeeze first)
  else if o.operands.length ≤ 1 then
    .finish (.refused "tr" "missing operand".toList 1)
  else
    .filter [] fun t =>
      let changed := t.map (exchanged first second)
      if o.has 's' then squeeze second changed else changed

def linesWithEnds (t : Text) : List Text :=
  let ls := lines t
  match ls.getLast? with
  | none => []
  | some last =>
    ls.dropLast.map (· ++ ['\n']) ++ [if t.getLast? == some '\n' then last ++ ['\n'] else last]

def amount (args : List Text) : Options × Option Text × Option Text :=
  match args with
  | ('-' :: d :: digits) :: rest =>
    if d.isDigit then
      let o := Options.ofArguments "nc" rest
      (o, some (d :: digits), none)
    else
      let o := Options.ofArguments "nc" args
      (o, o.get? 'n', o.get? 'c')
  | _ =>
    let o := Options.ofArguments "nc" args
    (o, o.get? 'n', o.get? 'c')

def firstItems {α : Type} (number : Text) (items : List α) : List α :=
  match number with
  | '-' :: digits => items.take (items.length - (decimal? digits).getD 0)
  | digits => items.take ((decimal? digits).getD 10)

def lastItems {α : Type} (number : Text) (items : List α) : List α :=
  match number with
  | '+' :: digits => items.drop ((decimal? digits).getD 1 - 1)
  | '-' :: digits | digits => items.drop (items.length - (decimal? digits).getD 10)

def first : Tool := fun args =>
  let (o, lineCount, byteCount) := amount args
  match o.operands, byteCount.bind decimal? with
  | [], some n => .take n
  | files, _ =>
    .filter files fun t =>
      match byteCount with
      | some n => firstItems n t
      | none => (firstItems (lineCount.getD "10".toList) (linesWithEnds t)).flatten

def last : Tool := fun args =>
  let (o, lineCount, byteCount) := amount args
  .filter o.operands fun t =>
    match byteCount with
    | some n => lastItems n t
    | none => (lastItems (lineCount.getD "10".toList) (linesWithEnds t)).flatten

def placeRanges (list : Text) : List (Nat × Option Nat) :=
  (list.splitOn ',').map fun item =>
    let low := item.takeWhile (· ≠ '-')
    match item.drop low.length with
    | _ :: high => ((decimal? low).getD 1, decimal? high)
    | [] => ((decimal? low).getD 1, decimal? low)

def inRanges (ranges : List (Nat × Option Nat)) (place : Nat) : Bool :=
  ranges.any fun (low, high) => low ≤ place && high.all (place ≤ ·)

def keepPlaces {α : Type} (ranges : List (Nat × Option Nat)) (items : List α) : List α :=
  ((items.zipIdx 1).filter fun (_, place) => inRanges ranges place).map Prod.fst

def cut : Tool := fun args =>
  let o := Options.ofArguments "bcfd" args
  let ranges := placeRanges ((o.get? 'b' <|> o.get? 'c' <|> o.get? 'f').getD [])
  let delimiter := ((o.get? 'd').getD ['\t']).headD '\t'
  .filter o.operands fun t =>
    unlines ((lines t).filterMap fun line =>
      if o.has 'f' then
        if !line.contains delimiter then if o.has 's' then none else some line
        else some ([delimiter].intercalate (keepPlaces ranges (line.splitOn delimiter)))
      else some (keepPlaces ranges line))

def leadingNumber (line : Text) : Int :=
  let t := line.dropWhile fun c => c == ' ' || c == '\t'
  match t with
  | '-' :: digits => -((decimal? (digits.takeWhile Char.isDigit)).getD 0 : Nat)
  | digits => ((decimal? (digits.takeWhile Char.isDigit)).getD 0 : Nat)

def sort : Tool := fun args =>
  let o := Options.ofArguments "ktSo" args
  .filter o.operands fun t =>
    let before := fun (a b : Text) => match compare a b with
      | .gt => false
      | _ => true
    let numeric := fun (a b : Text) =>
      let m := leadingNumber a
      let n := leadingNumber b
      m < n || (m == n && before a b)
    let order := if o.has 'n' then numeric else before
    let sorted := (lines t).mergeSort (if o.has 'r' then fun a b => order b a else order)
    unlines (if o.has 'u' then sorted.eraseReps else sorted)

def runs : List Text → List (Text × Nat)
  | [] => []
  | line :: rest =>
    match runs rest with
    | (next, n) :: more => if line == next then (next, n + 1) :: more
      else (line, 1) :: (next, n) :: more
    | [] => [(line, 1)]

def unique : Tool := fun args =>
  let o := Options.ofArguments "fsw" args
  .filter o.operands fun t =>
    unlines ((runs (lines t)).filterMap fun (line, n) =>
      if (o.has 'd' && n == 1) || (o.has 'u' && n != 1) then none
      else if o.has 'c' then some (padStart 7 (shown n) ++ ' ' :: line)
      else some line)

def reversed : Tool := fun args =>
  .filter args fun t => (linesWithEnds t).flatMap fun line =>
    if line.getLast? == some '\n' then line.dropLast.reverse ++ ['\n'] else line.reverse

def backwards : Tool := fun args => .filter args fun t => (linesWithEnds t).reverse.flatten

def copy : Tool := fun args =>
  let o := Options.ofArguments "" args
  .filter o.operands fun t =>
    if o.has 'n' then
      ((linesWithEnds t).zipIdx 1).flatMap fun (line, n) => padStart 6 (shown n) ++ '\t' :: line
    else t

def sequence : Tool := fun args =>
  let number := fun (t : Text) => leadingNumber t
  let (low, step, high) := match args with
    | [high] => (1, 1, number high)
    | [low, high] => (number low, 1, number high)
    | low :: step :: high :: _ => (number low, number step, number high)
    | [] => (1, 1, 0)
  if step = 0 then .finish { status := 1 }
  else
    let count := (high - low).fdiv step + 1
    .finish (.printed (unlines ((List.range count.toNat).map fun (n : Nat) =>
      (toString (low + step * n)).toList)))

def baseName : Tool := fun args =>
  let path := args.headD []
  let trimmed := (path.reverse.dropWhile (· == '/')).reverse
  let name := (trimmed.reverse.takeWhile (· ≠ '/')).reverse
  let name := if trimmed.isEmpty && !path.isEmpty then ['/'] else name
  let name := match args[1]? with
    | some ending =>
      if ending.isSuffixOf name && ending != name then name.take (name.length - ending.length)
      else name
    | none => name
  .finish (.printed (name ++ ['\n']))

def directoryName : Tool := fun args =>
  let path := args.headD []
  let trimmed := path.reverse.dropWhile (· == '/')
  let above := trimmed.dropWhile (· ≠ '/')
  let directory := (above.dropWhile (· == '/')).reverse
  let directory :=
    if !directory.isEmpty then directory
    else if above.isEmpty && path.head? != some '/' then ['.'] else ['/']
  .finish (.printed (directory ++ ['\n']))

end FormatConformance.Tool
