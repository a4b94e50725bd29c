/-!
# Labels outside ASCII as letters, digits and hyphens

The code of a label is its ASCII characters, and then, in ascending order of their code points,
how many steps of a counter lie between one other character and the next. `encode` writes it,
`decode?` reads it.
-/
namespace HealControl.Url.Punycode

def digit (n : Nat) : Char :=
  Char.ofNat (if n < 26 then 0x61 + n else 0x30 + (n - 26))

def digitValue? (c : Char) : Option Nat :=
  let n := c.toNat
  if 0x61 ≤ n ∧ n ≤ 0x7A then some (n - 0x61)
  else if 0x30 ≤ n ∧ n ≤ 0x39 then some (26 + (n - 0x30))
  else none

/-- The least digit, from 1 to 26, that does not end a number at position `k`. -/
def threshold (k bias : Nat) : Nat :=
  max 1 (min 26 (k - bias))

/-- Counts by how many powers of 35 a number exceeds 455. At most `fuel` are counted, and no
number of 64 bits has more than 13. -/
def divisions : Nat → Nat → Nat × Nat
  | 0, delta => (0, delta)
  | fuel + 1, delta =>
    if 455 < delta then
      let (k, rest) := divisions fuel (delta / 35)
      (k + 36, rest)
    else (0, delta)

def adapt (delta count : Nat) (first : Bool) : Nat :=
  let delta := if first then delta / 700 else delta / 2
  let (k, rest) := divisions 64 (delta + delta / count)
  k + 36 * rest / (rest + 38)

/-- A number as digits of variable base, from the position `k` on. At least 10 values of a digit
go on, so `fuel` need not exceed the number of its binary digits. -/
def digitsOf : Nat → Nat → Nat → Nat → List Char
  | 0, _, _, _ => []
  | fuel + 1, bias, k, n =>
    let t := threshold k bias
    if n < t then [digit n]
    else digit (t + (n - t) % (36 - t)) :: digitsOf fuel bias (k + 36) ((n - t) / (36 - t))

/-- An encoding in progress: what is written, the counter since the last character, the bias and
the number of characters that are written. -/
structure Encoder where
  out : List Char
  delta : Nat
  bias : Nat
  handled : Nat

def Encoder.pass (basic m : Nat) (s : Encoder) (c : Char) : Encoder :=
  if c.toNat < m then { s with delta := s.delta + 1 }
  else if c.toNat = m then
    { out := s.out ++ digitsOf 64 s.bias 36 s.delta
      delta := 0
      bias := adapt s.delta (s.handled + 1) (s.handled == basic)
      handled := s.handled + 1 }
  else s

def writeAll (label : List Char) (basic : Nat) : List Nat → Nat → Encoder → Encoder
  | [], _, s => s
  | m :: ms, n, s =>
    let s := { s with delta := s.delta + (m - n) * (s.handled + 1) }
    let s := label.foldl (Encoder.pass basic m) s
    writeAll label basic ms (m + 1) { s with delta := s.delta + 1 }

def encode (label : List Char) : List Char :=
  let basic := label.filter fun c => c.toNat < 0x80
  let others := (label.filter fun c => 0x80 ≤ c.toNat).map Char.toNat
  let points := (others.mergeSort fun a b => a ≤ b).eraseDups
  basic ++ (if basic.isEmpty then [] else ['-']) ++
    (writeAll label basic.length points 0x80 ⟨[], 0, 72, basic.length⟩).out

/-- A decoding in progress: the label so far, the code point and the place of the last character
that was put into it, the bias, and the number that is being read with the weight and the position
of its next digit. -/
structure Decoder where
  label : List Char
  point : Nat
  place : Nat
  bias : Nat
  number : Nat
  weight : Nat
  position : Nat

def Decoder.place? (s : Decoder) (steps : Nat) : Option Decoder :=
  let count := s.label.length + 1
  let point := s.point + (s.place + steps) / count
  let place := (s.place + steps) % count
  if h : point.isValidChar then
    some
      { label := s.label.take place ++ Char.ofNatAux point h :: s.label.drop place
        point := point
        place := place + 1
        bias := adapt steps count (s.place == 0)
        number := 0
        weight := 1
        position := 36 }
  else none

def Decoder.step (s : Decoder) (c : Char) : Option Decoder := do
  let value ← digitValue? c
  let t := threshold s.position s.bias
  let number := s.number + value * s.weight
  if value < t then s.place? number
  else
    some { s with
      number := number
      weight := s.weight * (36 - t)
      position := s.position + 36 }

def decode? (code : List Char) : Option (List Char) := do
  let digits := (code.reverse.takeWhile (· != '-')).reverse
  let basic := (code.reverse.dropWhile (· != '-')).tail.reverse
  let s ← digits.foldlM Decoder.step ⟨basic, 0x80, 0, 72, 0, 1, 36⟩
  if s.position = 36 then some s.label else none

end HealControl.Url.Punycode
