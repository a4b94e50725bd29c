import HealControl.Json.Codec
import HealControl.Proofs.Json.Grammar

/-!
# Reading what was written

The text of a value is one of the texts of its document, so it is read as the document of that
value, whatever the value holds.
-/
namespace HealControl.Json

open HealControl.Text

/-! ## The document of a value -/

/-- A character of a literal: an escaped unit if it is a control character without an escape of
its own, its bytes otherwise. -/
def piecesOf (c : Char) : List Piece :=
  if c.toNat < 0x20 ∧ c.toNat ∉ [8, 9, 10, 12, 13] then [.unit c.toNat]
  else (Utf8.encodeChar c).map .byte

def Literal.ofText (s : String) : Literal :=
  ⟨s.toList.flatMap piecesOf, .closed⟩

def Number.ofInt (n : Int) : Number :=
  ⟨n < 0, (Decimal.digits n.natAbs).map Decimal.digitValue, [], none⟩

mutual

def Value.doc : Value → Doc
  | .null => .null
  | .bool b => .bool b
  | .int n => .number (.ofInt n)
  | .text s => .text (.ofText s)
  | .list items => .list (itemDocs items) .closed
  | .object fields => .object (fieldDocs fields) .closed

def itemDocs : List Value → List Doc
  | [] => []
  | v :: rest => v.doc :: itemDocs rest

def fieldDocs : List (String × Value) → List (Doc × Doc)
  | [] => []
  | f :: rest => fieldDoc f :: fieldDocs rest

def fieldDoc : String × Value → Doc × Doc
  | (k, v) => (.text (.ofText k), v.doc)

end

/-! ## Literals -/

def IsPlain (b : UInt8) : Prop :=
  b ≠ 0x22 ∧ b ≠ 0x5C ∧ 0x20 ≤ b.toNat

theorem piecesSpelledAs_plain {bytes : List UInt8} (h : ∀ b ∈ bytes, IsPlain b) :
    PiecesSpelledAs (bytes.map .byte) bytes := by
  induction bytes with
  | nil => exact .nil
  | cons b rest ih =>
    obtain ⟨⟨hquote, hslash, hcontrol⟩, hrest⟩ := List.forall_mem_cons.mp h
    exact .cons (.plain hquote hslash hcontrol) (ih hrest)

theorem PiecesSpelledAs.append {pieces pieces' : List Piece} {bytes bytes' : List UInt8}
    (h : PiecesSpelledAs pieces bytes) (h' : PiecesSpelledAs pieces' bytes') :
    PiecesSpelledAs (pieces ++ pieces') (bytes ++ bytes') := by
  induction h with
  | nil => exact h'
  | cons h hrest ih =>
    rw [List.cons_append, List.append_assoc]
    exact .cons h ih

theorem PiecesSpelledAs.single {piece : Piece} {bytes : List UInt8} (h : piece.SpelledAs bytes) :
    PiecesSpelledAs [piece] bytes := by
  have hpieces := PiecesSpelledAs.cons h .nil
  rwa [List.append_nil] at hpieces

theorem isPlain_of_le {b : UInt8} (h : 0x80 ≤ b.toNat) : IsPlain b := by
  refine ⟨?_, ?_, by omega⟩
  · rintro rfl
    simp at h
  · rintro rfl
    simp at h

theorem isPlain_encodeChar {c : Char} (hquote : c ≠ '"') (hslash : c ≠ '\\')
    (hcontrol : 0x20 ≤ c.toNat) : ∀ b ∈ Utf8.encodeChar c, IsPlain b := by
  have hlt := Utf8.toNat_lt c
  intro b hb
  by_cases hascii : c.toNat < 0x80
  · rw [Utf8.encodeChar_of_lt hascii, List.mem_singleton] at hb
    subst hb
    have hnat : c.toNat.toUInt8.toNat = c.toNat := Utf8.toNat_byte (by omega)
    refine ⟨?_, ?_, by rwa [hnat]⟩
    · intro he
      rw [he] at hnat
      exact hquote (Char.toNat_inj.mp hnat.symm)
    · intro he
      rw [he] at hnat
      exact hslash (Char.toNat_inj.mp hnat.symm)
  · -- every byte of a longer sequence has its first bit set
    apply isPlain_of_le
    simp only [Utf8.encodeChar, if_neg hascii] at hb
    split at hb
    · simp only [List.mem_cons, List.not_mem_nil, or_false] at hb
      rcases hb with rfl | rfl <;> rw [Utf8.toNat_byte] <;> omega
    · split at hb
      · simp only [List.mem_cons, List.not_mem_nil, or_false] at hb
        rcases hb with rfl | rfl | rfl <;> rw [Utf8.toNat_byte] <;> omega
      · simp only [List.mem_cons, List.not_mem_nil, or_false] at hb
        rcases hb with rfl | rfl | rfl | rfl <;> rw [Utf8.toNat_byte] <;> omega

theorem hexadecimal?_hexDigit : ∀ n < 16,
    Utf8.encodeChar (hexDigit n) = [(hexDigit n).toNat.toUInt8] ∧
      hexadecimal? (hexDigit n).toNat.toUInt8 = some n := by
  decide

theorem spelledAs_unit {n : Nat} (h : n < 0x20) :
    (Piece.unit n).SpelledAs
      (Utf8.encode ['\\', 'u', '0', '0', hexDigit (n / 16), hexDigit (n % 16)]) := by
  obtain ⟨hhigh, hhighValue⟩ := hexadecimal?_hexDigit (n / 16) (by omega)
  obtain ⟨hlow, hlowValue⟩ := hexadecimal?_hexDigit (n % 16) (by omega)
  have hvalue : hexValue? [(hexDigit (n % 16)).toNat.toUInt8, (hexDigit (n / 16)).toNat.toUInt8,
      0x30, 0x30] = some n := by
    have hzero : hexadecimal? 0x30 = some 0 := rfl
    simp only [hexValue?, hhighValue, hlowValue, hzero, Option.bind_eq_bind, Option.bind_some,
      Option.pure_def]
    congr 1
    omega
  have hbytes : Utf8.encode ['\\', 'u', '0', '0', hexDigit (n / 16), hexDigit (n % 16)] =
      [0x5C, 0x75, 0x30, 0x30, (hexDigit (n / 16)).toNat.toUInt8,
        (hexDigit (n % 16)).toNat.toUInt8] := by
    simp only [Utf8.encode, List.flatMap_cons, List.flatMap_nil, hhigh, hlow]
    rfl
  rw [hbytes]
  exact .unit rfl hvalue

theorem spelledAs_escapeChar (c : Char) :
    PiecesSpelledAs (piecesOf c) (Utf8.encode (escapeChar c)) := by
  unfold escapeChar
  split
  · subst c
    exact .single (.escape rfl)
  split
  · subst c
    exact .single (.escape rfl)
  split
  · subst c
    exact .single (.escape rfl)
  split
  · subst c
    exact .single (.escape rfl)
  split
  · subst c
    exact .single (.escape rfl)
  split
  · rename_i h
    obtain rfl : c = '\x08' := Char.toNat_inj.mp h
    exact .single (.escape rfl)
  split
  · rename_i h
    obtain rfl : c = '\x0c' := Char.toNat_inj.mp h
    exact .single (.escape rfl)
  split
  · rename_i hquote hslash hline hreturn htab hback hfeed hcontrol
    have hline' : c.toNat ≠ 10 := fun h => hline (Char.toNat_inj.mp h)
    have hreturn' : c.toNat ≠ 13 := fun h => hreturn (Char.toNat_inj.mp h)
    have htab' : c.toNat ≠ 9 := fun h => htab (Char.toNat_inj.mp h)
    have hpieces : piecesOf c = [.unit c.toNat] := by
      simp [piecesOf, hcontrol, hback, hfeed, hline', hreturn', htab']
    rw [hpieces]
    exact .single (spelledAs_unit hcontrol)
  · rename_i hquote hslash _ _ _ _ _ hcontrol
    have hpieces : piecesOf c = (Utf8.encodeChar c).map .byte := by
      rw [piecesOf, if_neg (fun h => hcontrol h.1)]
    rw [hpieces, Utf8.encode_cons, Utf8.encode, List.flatMap_nil, List.append_nil]
    exact piecesSpelledAs_plain (isPlain_encodeChar hquote hslash (Nat.le_of_not_lt hcontrol))

theorem spelledAs_flatMap_escapeChar (cs : List Char) :
    PiecesSpelledAs (cs.flatMap piecesOf) (Utf8.encode (cs.flatMap escapeChar)) := by
  induction cs with
  | nil => exact .nil
  | cons c rest ih =>
    rw [List.flatMap_cons, List.flatMap_cons, Utf8.encode_append]
    exact (spelledAs_escapeChar c).append ih

theorem spelledAs_literal (s : String) : (Literal.ofText s).SpelledAs (Utf8.encode (literal s)) := by
  rw [literal, List.cons_append, Utf8.encode_cons, Utf8.encode_append]
  exact .intro (spelledAs_flatMap_escapeChar s.toList)

/-! ## Numbers -/

theorem digitValue_of_isDigit {c : Char} (h : c.isDigit) :
    Decimal.digitValue c < 10 ∧ 0x30 + Decimal.digitValue c = c.toNat := by
  have hrange : 48 ≤ c.toNat ∧ c.toNat ≤ 57 := by
    simpa [Char.isDigit, UInt32.le_iff_toNat_le] using h
  rw [Decimal.digitValue]
  omega

theorem encode_digits {cs : List Char} (h : ∀ c ∈ cs, c.isDigit) :
    Utf8.encode cs = digitBytes (cs.map Decimal.digitValue) := by
  induction cs with
  | nil => rfl
  | cons c rest ih =>
    obtain ⟨hc, hrest⟩ := List.forall_mem_cons.mp h
    obtain ⟨hlt, hvalue⟩ := digitValue_of_isDigit hc
    rw [Utf8.encode_cons, Utf8.encodeChar_of_lt (by omega), ih hrest, ← hvalue]
    rfl

/-- A number is one digit, or it starts with a digit that is not zero. -/
theorem digits_eq_cons (n : Nat) : ∃ c cs, Decimal.digits n = c :: cs ∧
    (∀ d ∈ c :: cs, d.isDigit) ∧ (Decimal.digitValue c = 0 → cs = []) := by
  have hdigits : ∀ d ∈ Decimal.digits n, d.isDigit := fun d hd =>
    Nat.isDigit_of_mem_toDigits (by decide) (by decide) hd
  have hhead : ∃ c cs, Decimal.digits n = c :: cs ∧
      (Decimal.digitValue c = 0 → n = 0 ∧ cs = []) := by
    clear hdigits
    -- The digits of a longer number are those of a tenth of it and one more, so it starts as that does.
    induction n using Nat.strongRecOn with
    | _ n ih =>
      by_cases hn : n < 10
      · have hzero : ∀ m < 10, Decimal.digitValue m.digitChar = 0 → m = 0 := by decide
        exact ⟨n.digitChar, [], Nat.toDigits_of_lt_base hn, fun h => ⟨hzero n hn h, rfl⟩⟩
      · obtain ⟨c, cs, hc, hzero⟩ := ih (n / 10) (by omega)
        refine ⟨c, cs ++ [(n % 10).digitChar], ?_, ?_⟩
        · rw [Decimal.digits, Nat.toDigits_of_base_le (by decide) (by omega)]
          rw [Decimal.digits] at hc
          rw [hc, List.cons_append]
        · intro h
          have := (hzero h).1
          omega
  obtain ⟨c, cs, hc, hzero⟩ := hhead
  exact ⟨c, cs, hc, hc ▸ hdigits, fun h => (hzero h).2⟩

theorem spelledAs_signed (n : Int) :
    (Number.ofInt n).SpelledAs (Utf8.encode (Decimal.signed n)) := by
  obtain ⟨c, cs, hdigits, hall, hzero⟩ := digits_eq_cons n.natAbs
  have hwhole : WholeDigits ((c :: cs).map Decimal.digitValue) := by
    refine ⟨⟨List.cons_ne_nil _ _, ?_⟩, ?_⟩
    · intro d hd
      obtain ⟨b, hb, rfl⟩ := List.mem_map.mp hd
      exact (digitValue_of_isDigit (hall b hb)).1
    · intro h
      have hc : Decimal.digitValue c = 0 := Option.some.inj h
      rw [hzero hc, List.map_cons, hc, List.map_nil]
  have hbytes : Number.SpelledAs ⟨n < 0, _, [], none⟩ _ := .intro hwhole .none .none
  rw [Number.ofInt, Decimal.signed, hdigits]
  rw [List.append_nil, List.append_nil, ← encode_digits hall] at hbytes
  by_cases hn : n < 0
  · rw [if_pos hn, Utf8.encode_cons]
    rwa [if_pos (decide_eq_true hn)] at hbytes
  · rw [if_neg hn]
    rwa [if_neg (by simp [hn])] at hbytes

/-! ## Values -/

theorem writtenAs_of_spelledAs {d : Doc} {bytes : List UInt8} (h : d.SpelledAs bytes) :
    d.WrittenAs bytes := by
  have hwritten := Doc.WrittenAs.intro (List.forall_mem_nil _) h (List.forall_mem_nil _)
  rwa [List.nil_append, List.append_nil] at hwritten

mutual

theorem spelledAs_value (v : Value) : v.doc.SpelledAs (Utf8.encode v.chars) := by
  cases v with
  | null => exact .null
  | bool b =>
    cases b with
    | true => exact .true
    | false => exact .false
  | int n => exact .number (spelledAs_signed n)
  | text s => exact .text (spelledAs_literal s)
  | list items =>
    cases items with
    | nil => exact .emptyList (List.forall_mem_nil _)
    | cons v rest =>
      have hv := writtenAs_of_spelledAs (spelledAs_value v)
      obtain ⟨bytes, hbytes, hitems⟩ := itemsWrittenAs_more rest hv
      rw [Value.chars, Utf8.encode_cons, itemsChars, Utf8.encode_append, hbytes]
      exact .list hitems
  | object fields =>
    cases fields with
    | nil => exact .emptyObject (List.forall_mem_nil _)
    | cons f rest =>
      obtain ⟨bytes, hbytes, hfields⟩ := fieldsWrittenAs_more rest (fieldWrittenAs_field f)
      rw [Value.chars, Utf8.encode_cons, fieldsChars, Utf8.encode_append, hbytes]
      exact .object hfields

theorem itemsWrittenAs_more (vs : List Value) {d : Doc} {bytes : List UInt8}
    (h : d.WrittenAs bytes) : ∃ all, bytes ++ Utf8.encode (moreItemsChars vs) = all ++ [0x5D] ∧
      ItemsWrittenAs (d :: itemDocs vs) all := by
  cases vs with
  | nil => exact ⟨bytes, rfl, .one h⟩
  | cons v rest =>
    have hv := writtenAs_of_spelledAs (spelledAs_value v)
    obtain ⟨all, hall, hitems⟩ := itemsWrittenAs_more rest hv
    refine ⟨bytes ++ 0x2C :: all, ?_, .more h hitems⟩
    rw [moreItemsChars, List.cons_append, Utf8.encode_cons, Utf8.encode_append, hall]
    simp [Utf8.encodeChar_of_lt]

theorem fieldsWrittenAs_more (fs : List (String × Value)) {f : Doc × Doc} {bytes : List UInt8}
    (h : FieldWrittenAs f bytes) :
    ∃ all, bytes ++ Utf8.encode (moreFieldsChars fs) = all ++ [0x7D] ∧
      FieldsWrittenAs (f :: fieldDocs fs) all := by
  cases fs with
  | nil => exact ⟨bytes, rfl, .one h⟩
  | cons g rest =>
    obtain ⟨all, hall, hfields⟩ := fieldsWrittenAs_more rest (fieldWrittenAs_field g)
    refine ⟨bytes ++ 0x2C :: all, ?_, .more h hfields⟩
    rw [moreFieldsChars, List.cons_append, Utf8.encode_cons, Utf8.encode_append, hall]
    simp [Utf8.encodeChar_of_lt]

theorem fieldWrittenAs_field (f : String × Value) :
    FieldWrittenAs (fieldDoc f) (Utf8.encode (fieldChars f)) := by
  obtain ⟨k, v⟩ := f
  have hv := writtenAs_of_spelledAs (spelledAs_value v)
  have hfield := FieldWrittenAs.intro (List.forall_mem_nil _) (spelledAs_literal k)
    (List.forall_mem_nil _) hv
  rw [fieldChars, Utf8.encode_append, Utf8.encode_cons]
  exact hfield

end

/-- The text of a value reads as the document of the value, and nothing is left over. -/
theorem ofBytes_bytes (v : Value) : Document.ofBytes v.bytes = ⟨v.doc, false⟩ :=
  ofBytes_of_writtenAs (writtenAs_of_spelledAs (spelledAs_value v))

end HealControl.Json
