import HealControl.Decimal.Digits

/-!
# The shortest decimal of a double

A finite double stands for the reals that round to it. `shortest` finds the decimal of fewest
digits among them, the one nearest to the double if several have that few, and `render` writes it
down. All arithmetic is exact, on natural numbers.
-/
namespace HealControl.Decimal

structure Dyadic where
  mantissa : Nat
  exponent : Int

def Dyadic.ofBits (bits : UInt64) : Dyadic :=
  let fraction : Nat := bits.toNat % Nat.pow 2 52
  let biased : Nat := bits.toNat / Nat.pow 2 52 % Nat.pow 2 11
  if biased = 0 then ⟨fraction, -1074⟩ else ⟨fraction + Nat.pow 2 52, (biased : Int) - 1075⟩

/-- Four times a dyadic number and its two rounding bounds, as numerators over one denominator. -/
structure Interval where
  low : Nat
  middle : Nat
  high : Nat
  denominator : Nat
  closed : Bool

/-- The reals that round to a double; the bounds belong to them when the mantissa is even. The
step below a power of two is half as wide. -/
def Dyadic.interval (d : Dyadic) : Interval :=
  let m := d.mantissa
  let narrow := m = Nat.pow 2 52 ∧ d.exponent ≠ -1074
  let low := if narrow then 4 * m - 1 else 4 * m - 2
  let up := Nat.pow 2 d.exponent.toNat
  let down := 4 * Nat.pow 2 (-d.exponent).toNat
  ⟨low * up, 4 * m * up, (4 * m + 2) * up, down, m % 2 = 0⟩

structure Scaled where
  digits : Nat
  exponent : Int
deriving DecidableEq, Repr

def Interval.holds (i : Interval) (n : Nat) (e : Int) : Bool :=
  let value := n * Nat.pow 10 e.toNat * i.denominator
  let scale := Nat.pow 10 (-e).toNat
  if i.closed then i.low * scale ≤ value && value ≤ i.high * scale
  else i.low * scale < value && value < i.high * scale

def Interval.distance (i : Interval) (n : Nat) (e : Int) : Nat :=
  let value := n * Nat.pow 10 e.toNat * i.denominator
  let middle := i.middle * Nat.pow 10 (-e).toNat
  (value - middle) + (middle - value)

/-- The point of the grid of step `10 ^ e` that lies in the interval, the nearer of the two next
to the middle; of two equally near ones the even one. -/
def Interval.onGrid? (i : Interval) (e : Int) : Option Nat :=
  let below := i.middle * Nat.pow 10 (-e).toNat / (i.denominator * Nat.pow 10 e.toNat)
  match i.holds below e, i.holds (below + 1) e with
  | true, true =>
    let a := i.distance below e
    let b := i.distance (below + 1) e
    if a < b then some below
    else if b < a then some (below + 1)
    else some (if below % 2 = 0 then below else below + 1)
  | true, false => some below
  | false, true => some (below + 1)
  | false, false => none

/-- The coarsest grid with a point in the interval, tried from the step `10 ^ e` downwards. -/
def Interval.coarsest (i : Interval) : Nat → Int → Scaled
  | 0, e => ⟨i.middle * Nat.pow 10 (-e).toNat / (i.denominator * Nat.pow 10 e.toNat), e⟩
  | fuel + 1, e =>
    match i.onGrid? e with
    | some (n + 1) => ⟨n + 1, e⟩
    | _ => i.coarsest fuel (e - 1)

/-- The decimal of fewest digits that reads back as the positive double. -/
def shortest (d : Dyadic) : Scaled :=
  let i := d.interval
  let wholeDigits := (digits (i.middle / i.denominator)).length
  if i.denominator ≤ i.middle then i.coarsest 24 wholeDigits else i.coarsest 400 0

/-- How a double is written: positionally from the decimal exponent `leastPositional` to
`mostPositional`, otherwise with an exponent. -/
structure Format where
  leastPositional : Int
  mostPositional : Int
  exponentMark : Char
  plusSign : Bool

def stripZeros (cs : List Char) : List Char :=
  (cs.reverse.dropWhile (· == '0')).reverse

def fractionPart (cs : List Char) : List Char :=
  '.' :: (if cs.isEmpty then ['0'] else cs)

def Format.place (f : Format) (cs : List Char) (e : Int) : List Char :=
  if f.leastPositional ≤ e ∧ e ≤ f.mostPositional then
    if e < 0 then ['0', '.'] ++ List.replicate (e.natAbs - 1) '0' ++ cs
    else
      let whole := e.toNat + 1
      cs.take whole ++ List.replicate (whole - cs.length) '0' ++ fractionPart (cs.drop whole)
  else
    let rest := cs.drop 1
    let sign := if e < 0 then ['-'] else if f.plusSign then ['+'] else []
    cs.take 1 ++ (if rest.isEmpty then [] else '.' :: rest) ++ f.exponentMark :: sign
      ++ digits e.natAbs

def Format.render (f : Format) (bits : UInt64) : List Char :=
  let d := Dyadic.ofBits bits
  let body :=
    if d.mantissa = 0 then ['0', '.', '0']
    else
      let s := shortest d
      let cs := digits s.digits
      f.place (stripZeros cs) (s.exponent + cs.length - 1)
  if Nat.pow 2 63 ≤ bits.toNat then '-' :: body else body

end HealControl.Decimal
