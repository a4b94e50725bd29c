import HealControl.Json.Record
import HealControl.Proofs.Json.ReadBack

/-!
# Records that read back

A codec reads back what it writes if it finds every value in the document of that value. For a
record this follows from its fields: they have different names, each of them reads back, and one
that is left out has the value that it takes when it is missing. A record of another type sees in
such a document only fields that it does not know, which it passes over.
-/
namespace HealControl.Json

open HealControl.Text

/-! ## Texts -/

theorem spell_bytes (closing : Closing) (bytes : List UInt8) (rest : List Piece) :
    spell closing (bytes.map Piece.byte ++ rest) = (spell closing rest).map (bytes ++ ·) := by
  induction bytes with
  | nil =>
    cases h : spell closing rest <;> simp [h, Except.map]
  | cons b bytes ih =>
    rw [List.map_cons, List.cons_append, spell, ih]
    cases spell closing rest <;> rfl

theorem spell_piecesOf (closing : Closing) (c : Char) (rest : List Piece) :
    spell closing (piecesOf c ++ rest) =
      (spell closing rest).map (Utf8.encodeChar c ++ ·) := by
  unfold piecesOf
  split
  · rename_i h
    have htrailing : isTrailing c.toNat = false := by
      simp only [isTrailing, Bool.and_eq_false_iff, decide_eq_false_iff_not]
      omega
    have hleading : isLeading c.toNat = false := by
      simp only [isLeading, Bool.and_eq_false_iff, decide_eq_false_iff_not]
      omega
    rw [List.cons_append, List.nil_append, spell.eq_def]
    simp only [htrailing, hleading, Bool.false_eq_true, if_false, Char.ofNat_toNat]
    cases spell closing rest <;> rfl
  · exact spell_bytes closing _ rest

theorem spell_flatMap_piecesOf (cs : List Char) :
    spell .closed (cs.flatMap piecesOf) = .ok (Utf8.encode cs) := by
  induction cs with
  | nil => rfl
  | cons c rest ih =>
    rw [List.flatMap_cons, spell_piecesOf, ih]
    rfl

theorem text_ofText (s : String) : (Literal.ofText s).text = .ok s := by
  have hspell : spell (Literal.ofText s).closing (Literal.ofText s).pieces =
      .ok (Utf8.bytes s) := spell_flatMap_piecesOf s.toList
  have htext := Utf8.text?_bytes s
  simp only [Literal.text, hspell, bind, Except.bind, htext]

theorem key_ofText (s : String) : (Doc.text (.ofText s)).key = .ok s := by
  rw [Doc.key, text_ofText]
  rfl

/-! ## Codecs -/

/-- Every value is found again in the document that it is written as. -/
def Codec.Reads {α : Type} (c : Codec α) : Prop :=
  ∀ a, c.decode (c.encode a).doc = .ok a

theorem decode_bytes {α : Type} (c : Codec α) (v : Value) :
    c.ofBytes v.bytes = c.decode v.doc := by
  rw [Codec.ofBytes, ofBytes_bytes]
  cases c.decode v.doc <;> rfl

theorem Codec.Reads.ofBytes {α : Type} {c : Codec α} (h : c.Reads) (a : α) :
    c.ofBytes (c.encode a).bytes = .ok a := by
  rw [decode_bytes, h a]

@[simp] theorem reads_text : Codec.text.Reads := by
  intro s
  have h := text_ofText s
  simp only [Codec.text, Value.doc, h]
  rfl

/-- A field whose values read back, also those that are left out. -/
structure Field.Reads (f : Field) : Prop where
  written : f.codec.Reads
  omitted : ∀ a, f.omitted a → f.missing = some a

@[simp] theorem reads_required {α : Type} (name : String) (c : Codec α) :
    (Field.required name c).Reads ↔ c.Reads :=
  ⟨Field.Reads.written, fun h => ⟨h, fun _ ha => Bool.noConfusion ha⟩⟩

@[simp] theorem reads_optional {α : Type} (name : String) (c : Codec α) (missing : α) :
    (Field.optional name c missing).Reads ↔ c.Reads :=
  ⟨Field.Reads.written, fun h => ⟨h, fun _ ha => Bool.noConfusion ha⟩⟩

@[simp] theorem reads_omitting {α : Type} [DecidableEq α] (name : String) (c : Codec α)
    (missing : α) : (Field.omitting name c missing).Reads ↔ c.Reads := by
  constructor
  · exact Field.Reads.written
  · intro h
    refine ⟨h, ?_⟩
    intro (a : α) (ha : decide (a = missing) = true)
    have hmissing : a = missing := of_decide_eq_true ha
    exact congrArg some hmissing.symm

/-! ## Records -/

def Slots.ofRow : (fs : List Field) → Row fs → Slots fs
  | [], _ => ()
  | f :: fs, (a, row) => (if f.omitted a then Option.none else some a, Slots.ofRow fs row)

theorem key_fieldDoc (f : String × Value) : (fieldDoc f).1.key = .ok f.1 := by
  obtain ⟨k, v⟩ := f
  exact key_ofText k

theorem read?_cons_of_ne {f : Field} {fs : List Field} {name : String} (h : f.name ≠ name)
    (value : Doc) (slot : Option f.type) (slots : Slots fs) :
    Slots.read? (f :: fs) name value (slot, slots) =
      (Slots.read? fs name value slots).map fun r => r.map fun slots => (slot, slots) := by
  cases slot with
  | none =>
    rw [Slots.read?, if_neg h]
    rfl
  | some a =>
    rw [Slots.read?, if_neg h]
    rfl

/-- Fields of other names leave the slot of a field as it is. -/
theorem readAll_cons_of_ne {f : Field} {fs : List Field} {written : List (String × Value)}
    (h : ∀ w ∈ written, f.name ≠ w.1) (slot : Option f.type) (slots : Slots fs) :
    Slots.readAll (f :: fs) (fieldDocs written) (slot, slots) =
      (Slots.readAll fs (fieldDocs written) slots).map fun slots => (slot, slots) := by
  induction written generalizing slots with
  | nil => rfl
  | cons w rest ih =>
    obtain ⟨hw, hrest⟩ := List.forall_mem_cons.mp h
    have hkey := key_fieldDoc w
    have hread := read?_cons_of_ne hw (fieldDoc w).2 slot slots
    cases hfound : Slots.read? fs w.1 (fieldDoc w).2 slots with
    | none =>
      rw [hfound] at hread
      simp only [fieldDocs, Slots.readAll, hkey, bind, Except.bind, hread, hfound, Option.map_none]
      cases malformed (fieldDoc w).2.skip with
      | error fault => rfl
      | ok _ => exact ih hrest slots
    | some result =>
      rw [hfound] at hread
      simp only [fieldDocs, Slots.readAll, hkey, bind, Except.bind, hread, hfound, Option.map_some]
      cases result with
      | error fault => rfl
      | ok slots => exact ih hrest slots

theorem name_mem_of_mem_fields {fs : List Field} {row : Row fs} {w : String × Value}
    (h : w ∈ Row.fields fs row) : w.1 ∈ fs.map Field.name := by
  induction fs with
  | nil => cases h
  | cons f fs ih =>
    obtain ⟨a, row⟩ := row
    rw [Row.fields] at h
    split at h
    · exact List.mem_cons_of_mem _ (ih h)
    · rcases List.mem_cons.mp h with rfl | hrest
      · exact List.mem_cons_self
      · exact List.mem_cons_of_mem _ (ih hrest)

theorem readAll_fields {fs : List Field} (hnames : (fs.map Field.name).Nodup)
    (hfields : ∀ f ∈ fs, f.Reads) (row : Row fs) :
    Slots.readAll fs (fieldDocs (Row.fields fs row)) (Slots.none fs) =
      .ok (Slots.ofRow fs row) := by
  induction fs with
  | nil => rfl
  | cons f fs ih =>
    obtain ⟨a, row⟩ := row
    obtain ⟨hf, hrest⟩ := List.forall_mem_cons.mp hfields
    rw [List.map_cons, List.nodup_cons] at hnames
    have hothers : ∀ w ∈ Row.fields fs row, f.name ≠ w.1 := by
      intro w hw he
      exact hnames.1 (he ▸ name_mem_of_mem_fields hw)
    have hslots := ih hnames.2 hrest row
    rw [Row.fields, Slots.none, Slots.ofRow]
    split
    · rw [readAll_cons_of_ne hothers, hslots]
      rfl
    · -- the slot of this field is filled first, and the fields that follow do not touch it
      have hkey := key_fieldDoc (f.name, f.codec.encode a)
      have hread : Slots.read? (f :: fs) f.name (f.codec.encode a).doc (none, Slots.none fs) =
          some (.ok (some a, Slots.none fs)) := by
        rw [Slots.read?, if_pos rfl, hf.written a]
        rfl
      have hfilled := readAll_cons_of_ne hothers (some a) (Slots.none fs)
      rw [hslots] at hfilled
      simp only [fieldDocs, Slots.readAll, hkey, bind, Except.bind]
      have hdoc : (fieldDoc (f.name, f.codec.encode a)).2 = (f.codec.encode a).doc := rfl
      rw [hdoc, hread]
      exact hfilled

theorem row_ofRow {fs : List Field} (hfields : ∀ f ∈ fs, f.Reads) (row : Row fs) :
    Slots.row fs (Slots.ofRow fs row) = .ok row := by
  induction fs with
  | nil => rfl
  | cons f fs ih =>
    obtain ⟨a, row⟩ := row
    obtain ⟨hf, hrest⟩ := List.forall_mem_cons.mp hfields
    have hvalue : f.value (if f.omitted a then none else some a) = .ok a := by
      split
      · rename_i h
        rw [Field.value, Option.none_or, hf.omitted a h]
      · rfl
    rw [Slots.ofRow, Slots.row, hvalue, ih hrest row]
    rfl

/-- A record reads back if its fields do. -/
theorem reads_schema {ρ : Type} (s : Schema ρ) (hnames : (s.fields.map Field.name).Nodup)
    (hfields : ∀ f ∈ s.fields, f.Reads) : s.codec.Reads := by
  intro r
  have hslots := readAll_fields hnames hfields (s.toRow r)
  have hrow : s.row (Value.object (Row.fields s.fields (s.toRow r))).doc = .ok (s.toRow r) := by
    simp only [Value.doc, Schema.row, hslots, bind, Except.bind, ObjectEnd.fault?]
    exact row_ofRow hfields (s.toRow r)
  have hdecode : s.codec.decode (s.codec.encode r).doc = .ok (s.ofRow (s.toRow r)) := by
    simp only [Schema.codec, hrow, Except.map]
  rw [hdecode, s.ofRow_toRow]

theorem read?_eq_none {fs : List Field} {name : String} (h : name ∉ fs.map Field.name) (d : Doc)
    (slots : Slots fs) : Slots.read? fs name d slots = none := by
  induction fs with
  | nil => rfl
  | cons f fs ih =>
    obtain ⟨slot, slots⟩ := slots
    rw [List.map_cons, List.mem_cons, not_or] at h
    rw [read?_cons_of_ne (Ne.symm h.1), ih h.2 slots]
    rfl

/-- Fields of unknown names are passed over. -/
theorem readAll_of_unknown {fs : List Field} {written : List (String × Value)}
    (h : ∀ w ∈ written, w.1 ∉ fs.map Field.name) (slots : Slots fs) :
    Slots.readAll fs (fieldDocs written) slots = .ok slots := by
  induction written with
  | nil => rfl
  | cons w rest ih =>
    obtain ⟨hw, hrest⟩ := List.forall_mem_cons.mp h
    have hskip : (fieldDoc w).2.skip = .ok () := by
      obtain ⟨k, v⟩ := w
      exact (spelledAs_value v).skip
    have hmalformed : malformed (fieldDoc w).2.skip = .ok () := by
      rw [hskip]
      rfl
    simp only [fieldDocs, Slots.readAll, key_fieldDoc w, bind, Except.bind, read?_eq_none hw,
      hmalformed]
    exact ih hrest

end HealControl.Json
