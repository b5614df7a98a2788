import FormatConformance.Tool.CharSet

/-!
Regular expressions, basic and extended. Of the matches at the first place that has one, the longest
wins. Both dialects are read into the same signs, from which the expression is built.
-/

namespace FormatConformance.Tool

inductive Regex where
  | empty
  | one (set : CharSet)
  | lineStart
  | lineEnd
  | follow (first second : Regex)
  | either (first second : Regex)
  | times (inner : Regex) (least : Nat) (most : Option Nat)
  | group (number : Nat) (inner : Regex)
  | same (number : Nat)
  deriving Repr

namespace Regex

inductive Sign where
  | one (set : CharSet)
  | lineStart
  | lineEnd
  | opening
  | closing
  | bar
  | times (least : Nat) (most : Option Nat)
  | same (number : Nat)
  deriving Repr

def only (c : Char) : Sign := .one ⟨false, [(c, c)]⟩

def wordRanges : List CharRange := [('0', '9'), ('A', 'Z'), ('a', 'z'), ('_', '_')]

def spaceRanges : List CharRange := [('\t', '\r'), (' ', ' ')]

def escaped (c : Char) : Sign :=
  match c with
  | 'n' => only '\n'
  | 't' => only '\t'
  | 'w' => .one ⟨false, wordRanges⟩
  | 'W' => .one ⟨true, wordRanges⟩
  | 's' => .one ⟨false, spaceRanges⟩
  | 'S' => .one ⟨true, spaceRanges⟩
  | c => if '1' ≤ c && c ≤ '9' then .same (c.toNat - 48) else only c

def number (digits : Text) : Nat := digits.foldl (fun n c => n * 10 + (c.toNat - 48)) 0

def interval (t : Text) : Sign × Text :=
  let least := t.takeWhile Char.isDigit
  match t.drop least.length with
  | ',' :: rest =>
    let most := rest.takeWhile Char.isDigit
    (.times (number least) (if most.isEmpty then none else some (number most)),
      rest.drop most.length)
  | rest => (.times (number least) (some (number least)), rest)

def basicSigns (first : Bool) : Nat → Text → Option (List Sign)
  | 0, _ => none
  | fuel + 1, t =>
    let go := fun (sign : Sign) (first : Bool) (rest : Text) =>
      (basicSigns first fuel rest).map (sign :: ·)
    match t with
    | [] => some []
    | '\\' :: '(' :: rest => go .opening true rest
    | '\\' :: ')' :: rest => go .closing false rest
    | '\\' :: '|' :: rest => go .bar true rest
    | '\\' :: '+' :: rest => go (.times 1 none) false rest
    | '\\' :: '?' :: rest => go (.times 0 (some 1)) false rest
    | '\\' :: '\x7b' :: rest =>
      let (sign, rest) := interval rest
      go sign false (rest.drop 2)
    | '\\' :: c :: rest => go (escaped c) false rest
    | '*' :: rest => if first then go (only '*') false rest else go (.times 0 none) false rest
    | '^' :: rest => if first then go .lineStart true rest else go (only '^') false rest
    | '$' :: rest =>
      match rest with
      | [] | '\\' :: ')' :: _ | '\\' :: '|' :: _ => go .lineEnd false rest
      | _ => go (only '$') false rest
    | '.' :: rest => go (.one ⟨true, []⟩) false rest
    | '[' :: rest => do
      let (set, rest) ← CharSet.read? ['^'] rest
      go (.one set) false rest
    | c :: rest => go (only c) false rest

def extendedSigns : Nat → Text → Option (List Sign)
  | 0, _ => none
  | fuel + 1, t =>
    let go := fun (sign : Sign) (rest : Text) => (extendedSigns fuel rest).map (sign :: ·)
    match t with
    | [] => some []
    | '\\' :: c :: rest => go (escaped c) rest
    | '(' :: rest => go .opening rest
    | ')' :: rest => go .closing rest
    | '|' :: rest => go .bar rest
    | '*' :: rest => go (.times 0 none) rest
    | '+' :: rest => go (.times 1 none) rest
    | '?' :: rest => go (.times 0 (some 1)) rest
    | '\x7b' :: rest =>
      if rest.head?.any fun c => c.isDigit || c == ',' then
        let (sign, rest) := interval rest
        go sign (rest.drop 1)
      else go (only '\x7b') rest
    | '^' :: rest => go .lineStart rest
    | '$' :: rest => go .lineEnd rest
    | '.' :: rest => go (.one ⟨true, []⟩) rest
    | '[' :: rest => do
      let (set, rest) ← CharSet.read? ['^'] rest
      go (.one set) rest
    | c :: rest => go (only c) rest

structure Progress where
  signs : List Sign
  groups : Nat := 0

abbrev Builder := StateT Progress Option

def repeated (inner : Regex) : List Sign → Regex × List Sign
  | .times least most :: rest => repeated (.times inner least most) rest
  | signs => (inner, signs)

mutual

def readAlternatives : Nat → Builder Regex
  | 0 => failure
  | fuel + 1 => do
    let first ← readBranch fuel
    let s ← get
    match s.signs with
    | .bar :: rest =>
      set { s with signs := rest }
      return .either first (← readAlternatives fuel)
    | _ => return first

def readBranch : Nat → Builder Regex
  | 0 => failure
  | fuel + 1 => do
    let s ← get
    match s.signs with
    | [] | .bar :: _ | .closing :: _ => return .empty
    | sign :: rest =>
      set { s with signs := rest }
      let atom ← match sign with
        | .one set => pure (.one set)
        | .lineStart => pure .lineStart
        | .lineEnd => pure .lineEnd
        | .same n => pure (.same n)
        | .opening => readGroup fuel
        | _ => failure
      let (piece, rest) := repeated atom (← get).signs
      modify fun s => { s with signs := rest }
      return .follow piece (← readBranch fuel)

def readGroup : Nat → Builder Regex
  | 0 => failure
  | fuel + 1 => do
    let n := (← get).groups + 1
    modify fun s => { s with groups := n }
    let inner ← readAlternatives fuel
    let s ← get
    match s.signs with
    | .closing :: rest =>
      set { s with signs := rest }
      return .group n inner
    | _ => failure

end

def bothCases (range : CharRange) : List CharRange :=
  let (low, high) := range
  [range, (low.toLower, high.toLower), (low.toUpper, high.toUpper)]

def foldCase : Regex → Regex
  | .one set => .one { set with ranges := set.ranges.flatMap bothCases }
  | .follow a b => .follow a.foldCase b.foldCase
  | .either a b => .either a.foldCase b.foldCase
  | .times inner least most => .times inner.foldCase least most
  | .group n inner => .group n inner.foldCase
  | e => e

def read? (extended : Bool) (t : Text) : Option Regex := do
  let fuel := t.length + 1
  let signs ← if extended then extendedSigns fuel t else basicSigns true fuel t
  let (e, s) ← (readAlternatives (4 * signs.length + 4)).run { signs }
  if s.signs.isEmpty then some e else none

def ofText (t : Text) : Regex :=
  t.foldr (fun c e => .follow (.one ⟨false, [(c, c)]⟩) e) .empty

structure Place where
  rest : Text
  offset : Nat
  groups : List (Nat × Text) := []

def further (first : Option Place) (second : Unit → Option Place) : Option Place :=
  match first with
  | none => second ()
  | some a =>
    if a.rest.isEmpty then some a
    else match second () with
      | some b => if a.offset < b.offset then some b else some a
      | none => some a

def size : Regex → Nat
  | .follow a b | .either a b => a.size + b.size + 1
  | .times inner _ _ | .group _ inner => inner.size + 1
  | _ => 1

/-- The furthest place at which a match can end that goes on with `next`. Every step goes down in
the expression or repeats a part of it that has matched something. -/
def advance : Nat → Regex → (Place → Option Place) → Place → Option Place
  | 0, _, _, _ => none
  | fuel + 1, e, next, p =>
    match e with
    | .empty => next p
    | .one set =>
      match p.rest with
      | c :: rest =>
        if set.contains c then next { p with rest := rest, offset := p.offset + 1 } else none
      | [] => none
    | .lineStart => if p.offset = 0 then next p else none
    | .lineEnd => if p.rest.isEmpty then next p else none
    | .follow a b => advance fuel a (advance fuel b next) p
    | .either a b => further (advance fuel a next p) fun _ => advance fuel b next p
    | .group n inner =>
      advance fuel inner (fun q =>
        next { q with groups := (n, p.rest.take (q.offset - p.offset)) :: q.groups }) p
    | .same n =>
      match p.groups.lookup n with
      | none => none
      | some t =>
        match t.isPrefixOf? p.rest with
        | some rest => next { p with rest := rest, offset := p.offset + t.length }
        | none => none
    | .times inner least most =>
      if most == some 0 then next p
      else
        let again := fun (q : Place) =>
          if q.offset = p.offset then if least = 0 then none else next q
          else advance fuel (.times inner (least - 1) (most.map (· - 1))) next q
        let more := advance fuel inner again p
        if least = 0 then further more fun _ => next p else more

structure Match where
  before : Text
  matched : Text
  groups : List (Nat × Text)
  rest : Text

def matchAt? (e : Regex) (p : Place) : Option Place :=
  advance (e.size + 2 * p.rest.length + 4) e some p

def searchFrom (e : Regex) (before : Text) (offset : Nat) : Text → Option Match
  | [] =>
    (e.matchAt? ⟨[], offset, []⟩).map fun q => ⟨before.reverse, [], q.groups, []⟩
  | c :: rest =>
    match e.matchAt? ⟨c :: rest, offset, []⟩ with
    | some q =>
      some ⟨before.reverse, (c :: rest).take (q.offset - offset), q.groups, q.rest⟩
    | none => searchFrom e (c :: before) (offset + 1) rest

def search (e : Regex) (t : Text) : Option Match := e.searchFrom [] 0 t

end Regex

end FormatConformance.Tool
