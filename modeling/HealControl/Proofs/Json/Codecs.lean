import HealControl.Proofs.Json.RoundTrip
import HealControl.Proofs.Time.ReadBack

/-!
# Codecs that read back

Each of the codecs that the fields of records are made of reads back every value of its type, the
two ends of each range of integers among them. A codec built from others does so if they do. Where
`null` has a meaning of its own no other value may be written as `null`.
-/
namespace HealControl.Json

open HealControl.Time (Timestamp)

/-! ## Integers -/

theorem valueOf_digits (n : Nat) :
    Number.valueOf ((Decimal.digits n).map Decimal.digitValue) = n := by
  have hdigits := Decimal.ofDigits_digits n
  rw [Decimal.ofDigits, Nat.ofDigitChars_eq_foldl] at hdigits
  rw [Number.valueOf, List.foldl_map]
  exact hdigits

theorem integer?_ofInt {n : Int} (hlow : -9223372036854775808 ≤ n)
    (hhigh : n ≤ 18446744073709551615) : (Number.ofInt n).integer? = some n := by
  have hsize : UInt64.size = 18446744073709551616 := rfl
  have hleast : Nat.pow 2 63 = 9223372036854775808 := rfl
  simp only [Number.ofInt, Number.integer?, valueOf_digits, List.isEmpty_nil, Option.isNone_none,
    and_self, if_true, decide_eq_true_eq, hsize, hleast]
  by_cases hn : n < 0
  · have hrange : 0 < n.natAbs ∧ n.natAbs ≤ 9223372036854775808 := by omega
    rw [if_pos hn, if_pos hrange]
    congr 1
    omega
  · have hrange : n.natAbs < 18446744073709551616 := by omega
    rw [if_neg hn, if_pos hrange]
    congr 1
    omega

def InWords (low high : Int) : Prop :=
  -9223372036854775808 ≤ low ∧ high ≤ 18446744073709551615

variable {α β : Type}

theorem decode_integer (wanted : Wanted) {low high n : Int} (h : InWords low high)
    (hlow : low ≤ n) (hhigh : n ≤ high) :
    (Codec.integer wanted low high).decode (Value.int n).doc = .ok n := by
  have hinteger : (Number.ofInt n).integer? = some n :=
    integer?_ofInt (Int.le_trans h.1 hlow) (Int.le_trans hhigh h.2)
  simp only [Codec.integer, Value.doc, hinteger, if_pos (And.intro hlow hhigh)]

theorem reads_via {c : Codec α} {ofBase : α → β} {toBase : β → α}
    (h : ∀ b, c.decode (c.encode (toBase b)).doc = .ok (toBase b))
    (hinverse : ∀ b, ofBase (toBase b) = b) : (c.via ofBase toBase).Reads := by
  intro b
  simp only [Codec.via, h b, Except.map, hinverse b]

theorem reads_integer_via (wanted : Wanted) {low high : Int} {ofBase : Int → β} {toBase : β → Int}
    (h : InWords low high) (hrange : ∀ b, low ≤ toBase b ∧ toBase b ≤ high)
    (hinverse : ∀ b, ofBase (toBase b) = b) :
    ((Codec.integer wanted low high).via ofBase toBase).Reads := by
  apply reads_via _ hinverse
  intro b
  exact decode_integer wanted h (hrange b).1 (hrange b).2

@[simp] theorem reads_byte : Codec.byte.Reads := by
  apply reads_integer_via .byte ⟨by decide, by decide⟩
  · intro n
    have hlt := n.toNat_lt
    omega
  · intro n
    simp

theorem word64_range (n : UInt64) :
    (0 : Int) ≤ n.toNat ∧ (n.toNat : Int) ≤ 18446744073709551615 := by
  have hlt := n.toNat_lt
  omega

@[simp] theorem reads_word64 : Codec.word64.Reads :=
  reads_integer_via .word64 ⟨by decide, by decide⟩ word64_range (by simp)

@[simp] theorem reads_size : Codec.size.Reads :=
  reads_integer_via .size ⟨by decide, by decide⟩ word64_range (by simp)

@[simp] theorem reads_int64 : Codec.int64.Reads := by
  apply reads_integer_via .int64 ⟨by decide, by decide⟩
  · intro n
    have hlow := n.le_toInt
    have hhigh := n.toInt_lt
    omega
  · exact Int64.ofInt_toInt

@[simp] theorem reads_int32 : Codec.int32.Reads := by
  apply reads_integer_via .int32 ⟨by decide, by decide⟩
  · intro n
    have hlow := n.le_toInt
    have hhigh := n.toInt_lt
    omega
  · exact Int32.ofInt_toInt

/-! ## Truth values, names and timestamps -/

@[simp] theorem reads_bool : Codec.bool.Reads := fun _ => rfl

theorem malformed_text (s : String) : malformed (Literal.ofText s).text = .ok s := by
  rw [text_ofText]
  rfl

theorem reads_variant {ofName : String → α} {toName : α → String}
    (h : ∀ a, ofName (toName a) = a) : (Codec.variant ofName toName).Reads := by
  intro a
  have htext := malformed_text (toName a)
  simp only [Codec.variant, Value.doc, htext, Except.map, h a]

@[simp] theorem reads_timestamp : Codec.timestamp.Reads := by
  intro t
  have htext := malformed_text (String.ofList t.text)
  have hread := Timestamp.ofText_text t
  simp only [Codec.timestamp, Value.doc, htext, bind, Except.bind, String.toList_ofList, hread]

/-! ## Absent values -/

def Codec.NeverNull (c : Codec α) : Prop :=
  ∀ a, (c.encode a).doc ≠ .null

@[simp] theorem reads_option {c : Codec α} (h : c.Reads) (hnull : c.NeverNull) :
    (Codec.option c).Reads := by
  intro a
  cases a with
  | none => rfl
  | some a =>
    have hne := hnull a
    simp only [Codec.option, h a, Except.map]

@[simp] theorem reads_nullAs {c : Codec α} (empty : α) (h : c.Reads) (hnull : c.NeverNull) :
    (Codec.nullAs empty c).Reads := by
  intro a
  have hne := hnull a
  simp only [Codec.nullAs, h a]

@[simp] theorem neverNull_schema {ρ : Type} (s : Schema ρ) : s.codec.NeverNull := by
  intro r
  simp [Schema.codec, Value.doc]

@[simp] theorem neverNull_list (c : Codec α) : (Codec.list c).NeverNull := by
  intro as
  simp [Codec.list, Value.doc]

@[simp] theorem neverNull_dict (c : Codec α) : (Codec.dict c).NeverNull := by
  intro d
  simp [Codec.dict, Value.doc]

/-! ## Lists and dictionaries -/

theorem mapM_itemDocs {c : Codec α} (h : c.Reads) (as : List α) :
    (itemDocs (as.map c.encode)).mapM c.decode = .ok as := by
  induction as with
  | nil => rfl
  | cons a as ih =>
    rw [List.map_cons, itemDocs, List.mapM_cons, h a, ih]
    rfl

@[simp] theorem reads_list {c : Codec α} (h : c.Reads) : (Codec.list c).Reads := by
  intro as
  have hitems := mapM_itemDocs h as
  simp only [Codec.list, Value.doc, hitems, bind, Except.bind, ListEnd.fault?]

theorem insertField_fieldDoc {c : Codec α} (h : c.Reads) (d : Dict α) (key : String) (a : α) :
    Codec.insertField c d (fieldDoc (key, c.encode a)) = .ok (d.insert key a) := by
  have hkey := key_ofText key
  simp only [Codec.insertField, fieldDoc, hkey, h a, bind, Except.bind, pure, Except.pure]

/-- Entries of new keys come after those that a dictionary has. -/
theorem foldlM_insertField {c : Codec α} (h : c.Reads) (es : List (String × α)) {d : Dict α}
    (hnodup : ((d.entries ++ es).map Prod.fst).Nodup) :
    (fieldDocs (es.map fun e => (e.1, c.encode e.2))).foldlM (Codec.insertField c) d =
      .ok ⟨d.entries ++ es, hnodup⟩ := by
  induction es generalizing d with
  | nil =>
    have hall : d = ⟨d.entries ++ [], hnodup⟩ := Dict.ext_entries (List.append_nil _).symm
    exact congrArg Except.ok hall
  | cons e es ih =>
    have hnew : e.1 ∉ d.keys := by
      rw [List.map_append, List.nodup_append] at hnodup
      intro hmem
      exact hnodup.2.2 e.1 hmem e.1 List.mem_cons_self rfl
    have hentries : (d.insert e.1 e.2).entries ++ es = d.entries ++ e :: es := by
      rw [Dict.entries_insert_of_not_mem hnew, List.append_assoc, List.singleton_append]
    have hinsert := insertField_fieldDoc h d e.1 e.2
    have hrest := ih (d := d.insert e.1 e.2) (hentries ▸ hnodup)
    rw [List.map_cons, fieldDocs, List.foldlM_cons, hinsert]
    simp only [bind, Except.bind, hrest, hentries]

@[simp] theorem reads_dict {c : Codec α} (h : c.Reads) : (Codec.dict c).Reads := by
  intro d
  have hfields := foldlM_insertField h d.entries (d := .empty) d.nodup
  simp only [Codec.dict, Value.doc, hfields, bind, Except.bind, ObjectEnd.fault?]
  rfl

end HealControl.Json
