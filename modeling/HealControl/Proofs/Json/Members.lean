import HealControl.Proofs.Json.NestedChanges
import Mathlib.Data.List.Basic

/-!
# Members of records

A field of a schema is a member of the records that are read with it: what stands in its place of a
row is what the member has, and setting it there sets the member. So two documents that differ in
one field are read to records that differ in one member.
-/
namespace HealControl.Json

/-! ## Records that differ in one member -/

structure Schema.Member {ρ : Type} (s : Schema ρ) (f : Field) where
  place : f.In s.fields
  first : place.First
  get : ρ → f.type
  set : f.type → ρ → ρ
  get_ofRow : ∀ row, get (s.ofRow row) = place.get row
  set_ofRow : ∀ a row, set a (s.ofRow row) = s.ofRow (place.set a row)

variable {ρ α : Type} {s : Schema ρ} {f : Field}

/-- The member of the first record is what is given for its field, and the second document is read
exactly if its field is, to the record with that member. -/
theorem decode_of_differAt (m : s.Member f) {x x' : Option Doc} {d d' : Doc}
    (h : DifferAt m.place x x' d d') {r : ρ} (hr : s.codec.decode d = .ok r) :
    f.given x = .ok (m.get r) ∧
      ∀ r', s.codec.decode d' = .ok r' ↔ ∃ a, f.given x' = .ok a ∧ r' = m.set a r := by
  obtain ⟨row, hrow, rfl⟩ := map_eq_ok_iff.mp hr
  obtain ⟨hx, hothers⟩ := row_of_differAt m.first h hrow
  refine ⟨m.get_ofRow row ▸ hx, fun r' => map_eq_ok_iff.trans ⟨?_, ?_⟩⟩
  · rintro ⟨row', hrow', rfl⟩
    obtain ⟨a, ha, rfl⟩ := (hothers row').mp hrow'
    exact ⟨a, ha, (m.set_ofRow a row).symm⟩
  · rintro ⟨a, ha, rfl⟩
    exact ⟨m.place.set a row, (hothers _).mpr ⟨a, ha, rfl⟩, (m.set_ofRow a row).symm⟩

/-! ## Documents that change what they are read as -/

/-- Of two related documents the second one is read as `g` of what the first one is read as. -/
def Codec.Tracks (c : Codec α) (R : Doc → Doc → Prop) (g : α → α) : Prop :=
  ∀ ⦃d d' : Doc⦄, R d d' → ∀ ⦃a : α⦄, c.decode d = .ok a → c.decode d' = .ok (g a)

def ReplacedBy (d' : Doc) (_ e : Doc) : Prop :=
  e = d'

/-- Records whose members are given as related documents, and that are the same otherwise. -/
def Schema.Member.Differs (m : s.Member f) (R : Doc → Doc → Prop) (d d' : Doc) : Prop :=
  ∃ x x', R x x' ∧ DifferAt m.place (some x) (some x') d d'

def ItemDiffers (i : Nat) (R : Doc → Doc → Prop) (d d' : Doc) : Prop :=
  ∃ x x', R x x' ∧ DifferAtItem i x x' d d'

variable {c : Codec α} {R : Doc → Doc → Prop}

theorem tracks_replacedBy {x : Doc} {a : α} (h : c.decode x = .ok a) :
    c.Tracks (ReplacedBy x) fun _ => a := by
  rintro d d' rfl _ _
  exact h

theorem Schema.Member.tracks (m : s.Member f) {g : f.type → f.type} (h : f.codec.Tracks R g) :
    s.codec.Tracks (m.Differs R) fun r => m.set (g (m.get r)) r := by
  rintro d d' ⟨x, x', hx, hd⟩ r hr
  obtain ⟨hget, hothers⟩ := decode_of_differAt m hd hr
  exact (hothers _).mpr ⟨_, h hx hget, rfl⟩

theorem Codec.Tracks.item {g : α → α} (h : c.Tracks R g) (i : Nat) :
    c.list.Tracks (ItemDiffers i R) fun as => as.modify i g := by
  rintro d d' ⟨x, x', hx, hd⟩ as has
  obtain ⟨a, ha, hitem, hothers⟩ := decode_list_of_differAtItem hd has
  have hmodify : as.modify i g = as.set i (g a) := by
    rw [List.modify_eq_set_getElem?, ha]
    rfl
  exact (hothers _).mpr ⟨g a, h hx hitem, hmodify⟩

theorem Codec.Tracks.nullAsItem {g : α → α} (h : c.Tracks R g) (i : Nat) (empty : List α) :
    (c.list.nullAs empty).Tracks (ItemDiffers i R) fun as => as.modify i g := by
  rintro d d' hd as has
  have hnull : d ≠ .null ∧ d' ≠ .null := by
    obtain ⟨_, _, _, ⟨_⟩⟩ := hd
    exact ⟨nofun, nofun⟩
  rw [decode_nullAs_of_ne hnull.1] at has
  rw [decode_nullAs_of_ne hnull.2]
  exact h.item i hd has

theorem tracks_changed {R : FieldsChange} (h : FieldsChange.Keeps R) :
    c.Tracks (Changed R c) id :=
  fun _ _ hd _ ha => decode_of_changed h hd ha

/-! ## Texts of changed documents -/

/-- The second text is one of a document that is in the relation to what the first one is read
as. -/
def Rewritten (R : Doc → Doc → Prop) (bytes bytes' : List UInt8) : Prop :=
  ∃ d, R (Document.ofBytes bytes).root d ∧ d.WrittenAs bytes'

theorem ofBytes_eq_decode {d : Doc} {bytes : List UInt8} (h : d.WrittenAs bytes) :
    c.ofBytes bytes = c.decode d := by
  rw [Codec.ofBytes, ofBytes_of_writtenAs h]
  cases c.decode d <;> rfl

theorem decode_of_ofBytes {bytes : List UInt8} {a : α} (h : c.ofBytes bytes = .ok a) :
    c.decode (Document.ofBytes bytes).root = .ok a := by
  obtain ⟨b, hb, htrailing⟩ := bind_eq_ok_iff.mp h
  split at htrailing
  · contradiction
  · obtain rfl : b = a := Except.ok.inj htrailing
    exact hb

theorem Rewritten.exists_decode {bytes bytes' : List UInt8} (h : Rewritten R bytes bytes')
    {a : α} (ha : c.ofBytes bytes = .ok a) :
    ∃ d d', R d d' ∧ c.decode d = .ok a ∧ c.ofBytes bytes' = c.decode d' := by
  obtain ⟨d', hR, hd'⟩ := h
  exact ⟨_, d', hR, decode_of_ofBytes ha, ofBytes_eq_decode hd'⟩

theorem Codec.Tracks.ofBytes {g : α → α} (h : c.Tracks R g) {bytes bytes' : List UInt8}
    (hrewritten : Rewritten R bytes bytes') {a : α} (ha : c.ofBytes bytes = .ok a) :
    c.ofBytes bytes' = .ok (g a) := by
  obtain ⟨d, d', hd, ha, hbytes⟩ := hrewritten.exists_decode ha
  rw [hbytes, h hd ha]

theorem rewritten_bytes {v v' : Value} (h : R v.doc v'.doc) :
    Rewritten R v.bytes v'.bytes := by
  refine ⟨v'.doc, ?_, writtenAs_of_spelledAs (spelledAs_value v')⟩
  rwa [ofBytes_bytes]

/-! ## Values that differ in one place -/

theorem fieldDocs_append (fs gs : List (String × Value)) :
    fieldDocs (fs ++ gs) = fieldDocs fs ++ fieldDocs gs := by
  induction fs with
  | nil => rfl
  | cons f fs ih => rw [List.cons_append, fieldDocs, fieldDocs, ih, List.cons_append]

theorem itemDocs_append (vs ws : List Value) : itemDocs (vs ++ ws) = itemDocs vs ++ itemDocs ws := by
  induction vs with
  | nil => rfl
  | cons v vs ih => rw [List.cons_append, itemDocs, itemDocs, ih, List.cons_append]

theorem length_itemDocs (vs : List Value) : (itemDocs vs).length = vs.length := by
  induction vs with
  | nil => rfl
  | cons v vs ih => rw [itemDocs, List.length_cons, List.length_cons, ih]

theorem differAt_object {p : f.In s.fields} (fs gs : List (String × Value)) (v v' : Value) :
    DifferAt p (some v.doc) (some v'.doc) (Value.object (fs ++ (f.name, v) :: gs)).doc
      (Value.object (fs ++ (f.name, v') :: gs)).doc := by
  have hmember : DifferAt p (some v.doc) (some v'.doc)
      (.object (fieldDocs fs ++ entry _ (some v.doc) ++ fieldDocs gs) .closed)
      (.object (fieldDocs fs ++ entry _ (some v'.doc) ++ fieldDocs gs) .closed) :=
    .member (key_ofText f.name) nofun
  rw [Value.doc, Value.doc, fieldDocs_append, fieldDocs_append]
  rwa [List.append_assoc, List.append_assoc] at hmember

theorem lacks_fieldDocs {fs : List (String × Value)} {name : String}
    (h : name ∉ fs.map Prod.fst) : Lacks (fieldDocs fs) name := by
  induction fs with
  | nil => exact List.forall_mem_nil _
  | cons g fs ih =>
    rw [List.map_cons, List.mem_cons, not_or] at h
    refine List.forall_mem_cons.mpr ⟨fun hkey => h.1 ?_, ih h.2⟩
    exact (Except.ok.inj ((key_fieldDoc g).symm.trans hkey)).symm

theorem differAt_object_absent {p : f.In s.fields} {fs : List (String × Value)}
    (h : f.name ∉ fs.map Prod.fst) (v : Value) :
    DifferAt p none (some v.doc) (Value.object fs).doc (Value.object (fs ++ [(f.name, v)])).doc := by
  have hmember : DifferAt p none (some v.doc) (.object (fieldDocs fs ++ [] ++ []) .closed)
      (.object (fieldDocs fs ++ fieldDocs [(f.name, v)] ++ []) .closed) := by
    refine .member (key_ofText f.name) fun _ => ?_
    rw [List.append_nil]
    exact lacks_fieldDocs h
  rw [Value.doc, Value.doc, fieldDocs_append]
  rwa [List.append_nil, List.append_nil, List.append_nil] at hmember

theorem differAtItem_list (vs ws : List Value) (v v' : Value) :
    DifferAtItem vs.length v.doc v'.doc (Value.list (vs ++ v :: ws)).doc
      (Value.list (vs ++ v' :: ws)).doc := by
  rw [Value.doc, Value.doc, itemDocs_append, itemDocs_append]
  exact .intro (length_itemDocs vs)

end HealControl.Json
