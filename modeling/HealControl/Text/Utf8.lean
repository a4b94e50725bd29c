/-!
# UTF-8

Characters as bytes and back. Reading refuses overlong forms, surrogates, values above `0x10FFFF`
and sequences that are cut short, so a text has one spelling in bytes. Reading takes back what
writing produces.
-/
namespace HealControl.Text.Utf8

def encodeChar (c : Char) : List UInt8 :=
  let n := c.toNat
  if n < 0x80 then [n.toUInt8]
  else if n < 0x800 then [(0xC0 + n / 0x40).toUInt8, (0x80 + n % 0x40).toUInt8]
  else if n < 0x10000 then
    [(0xE0 + n / 0x1000).toUInt8, (0x80 + n / 0x40 % 0x40).toUInt8, (0x80 + n % 0x40).toUInt8]
  else
    [(0xF0 + n / 0x40000).toUInt8, (0x80 + n / 0x1000 % 0x40).toUInt8,
      (0x80 + n / 0x40 % 0x40).toUInt8, (0x80 + n % 0x40).toUInt8]

def encode (cs : List Char) : List UInt8 :=
  cs.flatMap encodeChar

def bytes (s : String) : List UInt8 :=
  encode s.toList

/-- The six bits that a continuation byte carries. -/
def tail? (b : UInt8) : Option Nat :=
  if 0x80 ≤ b.toNat ∧ b.toNat < 0xC0 then some (b.toNat - 0x80) else none

/-- The character of value `n`, if it is one and its shortest spelling starts at `least`. -/
def scalar? (least n : Nat) : Option Char :=
  if h : n.isValidChar then (if least ≤ n then some (Char.ofNatAux n h) else none) else none

def pair? (a b : UInt8) : Option Char := do
  let x ← tail? b
  scalar? 0x80 ((a.toNat - 0xC0) * 0x40 + x)

def triple? (a b b' : UInt8) : Option Char := do
  let x ← tail? b
  let y ← tail? b'
  scalar? 0x800 ((a.toNat - 0xE0) * 0x1000 + x * 0x40 + y)

def quad? (a b b' b'' : UInt8) : Option Char := do
  let x ← tail? b
  let y ← tail? b'
  let z ← tail? b''
  scalar? 0x10000 ((a.toNat - 0xF0) * 0x40000 + x * 0x1000 + y * 0x40 + z)

def cons? (c : Option Char) (cs : Option (List Char)) : Option (List Char) :=
  match c with
  | some c => cs.map (c :: ·)
  | none => none

def decode? : List UInt8 → Option (List Char)
  | [] => some []
  | a :: r₁ =>
    if a.toNat < 0x80 then cons? (scalar? 0 a.toNat) (decode? r₁)
    else match r₁ with
      | [] => none
      | b :: r₂ =>
        if a.toNat < 0xC0 then none
        else if a.toNat < 0xE0 then cons? (pair? a b) (decode? r₂)
        else match r₂ with
          | [] => none
          | b' :: r₃ =>
            if a.toNat < 0xF0 then cons? (triple? a b b') (decode? r₃)
            else match r₃ with
              | [] => none
              | b'' :: r₄ => cons? (quad? a b b' b'') (decode? r₄)

theorem encode_append (cs ds : List Char) : encode (cs ++ ds) = encode cs ++ encode ds :=
  List.flatMap_append

theorem encode_cons (c : Char) (cs : List Char) : encode (c :: cs) = encodeChar c ++ encode cs :=
  List.flatMap_cons

theorem encodeChar_of_lt {c : Char} (h : c.toNat < 0x80) : encodeChar c = [c.toNat.toUInt8] := by
  simp only [encodeChar, if_pos h]

theorem length_encodeChar_pos (c : Char) : 0 < (encodeChar c).length := by
  unfold encodeChar
  dsimp only
  repeat' split
  all_goals exact Nat.succ_pos _

theorem scalar?_eq {least n : Nat} {c : Char} (hn : n = c.toNat) (h : least ≤ n) :
    scalar? least n = some c := by
  subst hn
  have hv : c.toNat.isValidChar := c.valid
  rw [scalar?, dif_pos hv, if_pos h]
  congr 1

theorem toNat_byte {n : Nat} (h : n < 256) : n.toUInt8.toNat = n := by
  simp only [Nat.toUInt8_eq, UInt8.toNat_ofNat']
  omega

theorem tail?_byte {n : Nat} (h : n < 0x40) : tail? (0x80 + n).toUInt8 = some n := by
  have hn : (0x80 + n).toUInt8.toNat = 0x80 + n := toNat_byte (by omega)
  have hr : 0x80 ≤ 0x80 + n ∧ 0x80 + n < 0xC0 := ⟨by omega, by omega⟩
  simp only [tail?, hn, hr, and_self, if_true, Nat.add_sub_cancel_left]

theorem pair?_bytes {c : Char} (h : 0x80 ≤ c.toNat) (h' : c.toNat < 0x800) :
    pair? (0xC0 + c.toNat / 0x40).toUInt8 (0x80 + c.toNat % 0x40).toUInt8 = some c := by
  have ha := toNat_byte (n := 0xC0 + c.toNat / 0x40) (by omega)
  rw [pair?, tail?_byte (by omega), Option.bind_eq_bind, Option.bind_some]
  exact scalar?_eq (by omega) (by omega)

theorem triple?_bytes {c : Char} (h : 0x800 ≤ c.toNat) (h' : c.toNat < 0x10000) :
    triple? (0xE0 + c.toNat / 0x1000).toUInt8 (0x80 + c.toNat / 0x40 % 0x40).toUInt8
      (0x80 + c.toNat % 0x40).toUInt8 = some c := by
  have ha := toNat_byte (n := 0xE0 + c.toNat / 0x1000) (by omega)
  rw [triple?, tail?_byte (by omega), Option.bind_eq_bind, Option.bind_some,
    tail?_byte (by omega), Option.bind_some]
  exact scalar?_eq (by omega) (by omega)

theorem quad?_bytes {c : Char} (h : 0x10000 ≤ c.toNat) (h' : c.toNat < 0x110000) :
    quad? (0xF0 + c.toNat / 0x40000).toUInt8 (0x80 + c.toNat / 0x1000 % 0x40).toUInt8
      (0x80 + c.toNat / 0x40 % 0x40).toUInt8 (0x80 + c.toNat % 0x40).toUInt8 = some c := by
  have ha := toNat_byte (n := 0xF0 + c.toNat / 0x40000) (by omega)
  rw [quad?, tail?_byte (by omega), Option.bind_eq_bind, Option.bind_some,
    tail?_byte (by omega), Option.bind_some,
    tail?_byte (by omega), Option.bind_some]
  exact scalar?_eq (by omega) (by omega)

theorem toNat_lt (c : Char) : c.toNat < 0x110000 := by
  rcases c.valid with h | h
  · exact Nat.lt_of_lt_of_le h (by decide)
  · exact h.2

/-- The bytes of a character read as that character, whatever follows. -/
theorem decode?_encodeChar (c : Char) (bs : List UInt8) :
    decode? (encodeChar c ++ bs) = (decode? bs).map (c :: ·) := by
  have hv := toNat_lt c
  unfold encodeChar
  simp only
  split
  · have ha := toNat_byte (n := c.toNat) (by omega)
    rw [List.cons_append, decode?.eq_def]
    simp only [ha, if_pos (show c.toNat < 0x80 by omega), scalar?_eq rfl (Nat.zero_le _),
      List.nil_append, cons?]
  · split
    · have ha := toNat_byte (n := 0xC0 + c.toNat / 0x40) (by omega)
      rw [List.cons_append, List.cons_append, decode?.eq_def]
      simp only [if_neg (show ¬ (0xC0 + c.toNat / 0x40).toUInt8.toNat < 0x80 by omega),
        if_neg (show ¬ (0xC0 + c.toNat / 0x40).toUInt8.toNat < 0xC0 by omega),
        if_pos (show (0xC0 + c.toNat / 0x40).toUInt8.toNat < 0xE0 by omega),
        pair?_bytes (c := c) (by omega) (by omega), List.nil_append, cons?]
    · split
      · have ha := toNat_byte (n := 0xE0 + c.toNat / 0x1000) (by omega)
        rw [List.cons_append, List.cons_append, List.cons_append, decode?.eq_def]
        simp only [if_neg (show ¬ (0xE0 + c.toNat / 0x1000).toUInt8.toNat < 0x80 by omega),
          if_neg (show ¬ (0xE0 + c.toNat / 0x1000).toUInt8.toNat < 0xC0 by omega),
          if_neg (show ¬ (0xE0 + c.toNat / 0x1000).toUInt8.toNat < 0xE0 by omega),
          if_pos (show (0xE0 + c.toNat / 0x1000).toUInt8.toNat < 0xF0 by omega),
          triple?_bytes (c := c) (by omega) (by omega), List.nil_append, cons?]
      · have ha := toNat_byte (n := 0xF0 + c.toNat / 0x40000) (by omega)
        rw [List.cons_append, List.cons_append, List.cons_append, List.cons_append,
          decode?.eq_def]
        simp only [if_neg (show ¬ (0xF0 + c.toNat / 0x40000).toUInt8.toNat < 0x80 by omega),
          if_neg (show ¬ (0xF0 + c.toNat / 0x40000).toUInt8.toNat < 0xC0 by omega),
          if_neg (show ¬ (0xF0 + c.toNat / 0x40000).toUInt8.toNat < 0xE0 by omega),
          if_neg (show ¬ (0xF0 + c.toNat / 0x40000).toUInt8.toNat < 0xF0 by omega),
          quad?_bytes (c := c) (by omega) (by omega), List.nil_append, cons?]

/-- Reading takes back what writing produces. -/
theorem decode?_encode (cs : List Char) : decode? (encode cs) = some cs := by
  induction cs with
  | nil => rfl
  | cons c rest ih =>
    have h := decode?_encodeChar c (encode rest)
    rw [ih] at h
    exact h

theorem encode_injective {cs ds : List Char} (h : encode cs = encode ds) : cs = ds := by
  have hdecode := decode?_encode cs
  rw [h, decode?_encode, Option.some.injEq] at hdecode
  exact hdecode.symm

def text? (bs : List UInt8) : Option String :=
  (decode? bs).map String.ofList

@[simp] theorem text?_bytes (s : String) : text? (bytes s) = some s := by
  simp [text?, bytes, decode?_encode]

end HealControl.Text.Utf8
