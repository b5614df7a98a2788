/-!
Shortest decimals of doubles. A positive double is `significand · 2 ^ exponent`; the reals that
round to it form an interval, whose ends belong to it if the significand is even. The shortest
decimal is the point of the interval on the coarsest grid of powers of ten that meets it, the
nearest one to the double if there are two.
-/

namespace FormatConformance.Decimal

/-- The double `significand · 2 ^ exponent`. The gap below is half the gap above where the
exponent changes. -/
structure Binary where
  significand : Nat
  exponent : Int
  narrowBelow : Bool

def Binary.ofFloat (x : Float) : Binary :=
  let bits : Nat := x.toBits.toNat
  let field : Nat := bits / Nat.pow 2 52 % Nat.pow 2 11
  let fraction : Nat := bits % Nat.pow 2 52
  if field = 0 then ⟨fraction, -1074, false⟩
  else ⟨Nat.pow 2 52 + fraction, (field : Int) - 1075, fraction == 0 && field != 1⟩

def isNegative (x : Float) : Bool := x.toBits.toNat / Nat.pow 2 63 == 1

structure Point where
  digits : Nat
  exponent : Int
  deriving DecidableEq, Repr

structure Interval where
  low : Nat
  middle : Nat
  high : Nat
  denominator : Nat
  closed : Bool

def Binary.interval (b : Binary) : Interval :=
  let scale := Nat.pow 2 (b.exponent - 2).toNat
  let m := 4 * b.significand
  ⟨(m - (if b.narrowBelow then 1 else 2)) * scale, m * scale, (m + 2) * scale,
    Nat.pow 2 (2 - b.exponent).toNat, b.significand % 2 == 0⟩

def Interval.scale (i : Interval) (factor : Nat) : Interval :=
  { i with low := i.low * factor, middle := i.middle * factor, high := i.high * factor }

def Interval.contains (i : Interval) (value : Nat) : Bool :=
  if i.closed then i.low ≤ value && value ≤ i.high else i.low < value && value < i.high

def Interval.onGrid? (i : Interval) (exponent : Int) : Option Nat :=
  let j := i.scale (Nat.pow 10 (-exponent).toNat)
  let unit := i.denominator * Nat.pow 10 exponent.toNat
  let below := j.middle / unit
  let above := below + 1
  let belowIn := 0 < below && j.contains (below * unit)
  let aboveIn := j.contains (above * unit)
  match belowIn, aboveIn with
  | false, false => none
  | true, false => some below
  | false, true => some above
  | true, true =>
    let rest := 2 * (j.middle - below * unit)
    if rest < unit then some below
    else if unit < rest then some above
    else if below % 2 = 0 then some below else some above

def Interval.coarsest (i : Interval) : Nat → Int → Point
  | 0, exponent => ⟨0, exponent⟩
  | steps + 1, exponent =>
    match i.onGrid? exponent with
    | some digits => ⟨digits, exponent⟩
    | none => i.coarsest steps (exponent - 1)

/-- Every positive double is met between the grids of `10 ^ 309` and `10 ^ -324`. -/
def shortest (b : Binary) : Point := b.interval.coarsest 650 309

structure Layout where
  least : Int
  greatest : Int

def zeros (n : Nat) : List Char := List.replicate n '0'

def Layout.magnitude (layout : Layout) (p : Point) : List Char :=
  let digits := Nat.toDigits 10 p.digits
  let scientific := p.exponent + digits.length - 1
  if layout.least ≤ scientific && scientific ≤ layout.greatest then
    if 0 ≤ p.exponent then digits ++ zeros p.exponent.toNat ++ ['.', '0']
    else if 0 ≤ scientific then
      digits.take (scientific.toNat + 1) ++ '.' :: digits.drop (scientific.toNat + 1)
    else '0' :: '.' :: zeros ((-scientific).toNat - 1) ++ digits
  else
    let fraction := digits.drop 1
    let sign := if scientific < 0 then '-' else '+'
    digits.take 1 ++ (if fraction.isEmpty then [] else '.' :: fraction) ++
      'e' :: sign :: Nat.toDigits 10 scientific.natAbs

def Layout.text (layout : Layout) (x : Float) : List Char :=
  let b := Binary.ofFloat x
  let magnitude := if b.significand = 0 then ['0', '.', '0'] else layout.magnitude (shortest b)
  if isNegative x then '-' :: magnitude else magnitude

end FormatConformance.Decimal
