import HealControl.Decimal.Shortest
import HealControl.Json.Fault

/-!
# Numbers of a document

A number token is its digits. It is an integer when it has neither fraction nor exponent and fits
into 64 bits; otherwise it is a double.
-/
namespace HealControl.Json

structure Exponent where
  negative : Bool
  digits : List Nat
deriving DecidableEq, Repr

structure Number where
  negative : Bool
  whole : List Nat
  fraction : List Nat
  exponent : Option Exponent
deriving DecidableEq, Repr

namespace Number

def valueOf (digits : List Nat) : Nat :=
  digits.foldl (fun n d => 10 * n + d) 0

/-- The number as an integer of 64 bits, signed or unsigned. Minus zero is none. -/
def integer? (n : Number) : Option Int :=
  let value := valueOf n.whole
  if n.fraction.isEmpty ∧ n.exponent.isNone then
    if n.negative then
      if 0 < value ∧ value ≤ Nat.pow 2 63 then some (-(value : Int)) else none
    else if value < UInt64.size then some (value : Int) else none
  else none

/-- A decimal `significand * 10 ^ exponent` whose significand fits into 64 bits. -/
structure Approximation where
  significand : Nat
  exponent : Int

def push? (significand digit : Nat) : Option Nat :=
  let next := 10 * significand + digit
  if next < UInt64.size then some next else none

/-- Takes in the digits before the point; those that no longer fit count as zeros. -/
def pushWhole : Nat → List Nat → Approximation
  | n, [] => ⟨n, 0⟩
  | n, d :: ds =>
    match push? n d with
    | some m => pushWhole m ds
    | none => ⟨n, ds.length + 1⟩

/-- Takes in the digits after the point up to the first that no longer fits. -/
def pushFraction : Approximation → List Nat → Approximation
  | a, [] => a
  | a, d :: ds =>
    match push? a.significand d with
    | some m => pushFraction ⟨m, a.exponent - 1⟩ ds
    | none => a

def approximation (n : Number) : Approximation :=
  pushFraction (pushWhole 0 n.whole) n.fraction

def powerOfTen (n : Nat) : Float :=
  Float.ofScientific 1 false n

/-- A double times a power of ten, none if that is out of range. Powers below -308 are taken in
several steps; a significand of 64 bits is zero after three of them. -/
def scale? : Nat → Float → Int → Option Float
  | 0, f, _ => some f
  | fuel + 1, f, e =>
    if 0 ≤ e then
      if e ≤ 308 then
        let g := f * powerOfTen e.toNat
        if g.isInf then none else some g
      else if f == 0 then some f else none
    else if -308 ≤ e then some (f / powerOfTen e.natAbs)
    else if f == 0 then some f
    else scale? fuel (f / powerOfTen 308) (e + 308)

/-- The double that a number token stands for, none if it is out of range. An exponent beyond 32
bits makes the number zero or puts it out of range. -/
def float? (n : Number) : Option Float := do
  let a := n.approximation
  let magnitude : Float ←
    match n.exponent with
    | none => scale? 4 (UInt64.ofNat a.significand).toFloat a.exponent
    | some e =>
      let size := valueOf e.digits
      if size < Nat.pow 2 31 then
        scale? 4 (UInt64.ofNat a.significand).toFloat
          (a.exponent + if e.negative then -(size : Int) else size)
      else if a.significand ≠ 0 ∧ !e.negative then none
      else some 0
  some (if n.negative then -magnitude else magnitude)

def floatFormat : Decimal.Format where
  leastPositional := -5
  mostPositional := 15
  exponentMark := 'e'
  plusSign := true

def found (n : Number) : Except SyntaxFault Found :=
  match n.integer? with
  | some i => .ok (.integer i)
  | none =>
    match n.float? with
    | some f => .ok (.float (String.ofList (floatFormat.render f.toBits)))
    | none => .error .numberOutOfRange

end Number

end HealControl.Json
