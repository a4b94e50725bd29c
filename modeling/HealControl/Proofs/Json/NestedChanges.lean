import HealControl.Proofs.Json.FieldChanges

/-!
# Changes inside of documents

A change to the fields of an object that is read as a record may stand at any depth: in a field of
another record, in an item of a list or in an entry of a dictionary. If the record is read as before,
so is the document around it.
-/
namespace HealControl.Json

variable {α : Type} {c : Codec α}

/-! ## Lists -/

/-- Two lists of which one has the item `x` at place `i` and the other one `x'`, and which are the
same otherwise. -/
inductive DifferAtItem (i : Nat) (x x' : Doc) : Doc → Doc → Prop
  | intro {before after : List Doc} {ending : ListEnd} (hlength : before.length = i) :
      DifferAtItem i x x' (.list (before ++ x :: after) ending) (.list (before ++ x' :: after) ending)

theorem decode_list_eq_ok_iff {items : List Doc} {ending : ListEnd} {as : List α} :
    (Codec.list c).decode (.list items ending) = .ok as ↔
      ending.fault? = none ∧ items.mapM c.decode = .ok as := by
  rw [Codec.list, bind_eq_ok_iff]
  cases ending.fault? <;> simp

theorem length_of_mapM {items : List Doc} {as : List α} (h : items.mapM c.decode = .ok as) :
    as.length = items.length := by
  induction items generalizing as with
  | nil =>
    obtain rfl : [] = as := Except.ok.inj h
    rfl
  | cons d items ih =>
    rw [List.mapM_cons] at h
    obtain ⟨a, -, h⟩ := bind_eq_ok_iff.mp h
    obtain ⟨rest, hrest, h⟩ := bind_eq_ok_iff.mp h
    obtain rfl : a :: rest = as := Except.ok.inj h
    rw [List.length_cons, List.length_cons, ih hrest]

theorem mapM_append_cons_eq_ok_iff {before after : List Doc} {d : Doc} {as : List α} :
    (before ++ d :: after).mapM c.decode = .ok as ↔
      ∃ bs a cs, before.mapM c.decode = .ok bs ∧ c.decode d = .ok a ∧ after.mapM c.decode = .ok cs ∧
        as = bs ++ a :: cs := by
  rw [List.mapM_append, List.mapM_cons]
  constructor
  · intro h
    obtain ⟨bs, hbs, h⟩ := bind_eq_ok_iff.mp h
    obtain ⟨rest, hrest, h⟩ := bind_eq_ok_iff.mp h
    obtain ⟨a, ha, hrest⟩ := bind_eq_ok_iff.mp hrest
    obtain ⟨cs, hcs, hrest⟩ := bind_eq_ok_iff.mp hrest
    obtain rfl : a :: cs = rest := Except.ok.inj hrest
    exact ⟨bs, a, cs, hbs, ha, hcs, (Except.ok.inj h).symm⟩
  · rintro ⟨bs, a, cs, hbs, ha, hcs, rfl⟩
    rw [hbs, ha, hcs]
    rfl

/-- The item of the first list is read, and the second list is read exactly if its item is, to the
values with that one in the item's place. -/
theorem decode_list_of_differAtItem {i : Nat} {x x' d d' : Doc} (h : DifferAtItem i x x' d d')
    {as : List α} (has : (Codec.list c).decode d = .ok as) :
    ∃ a, as[i]? = some a ∧ c.decode x = .ok a ∧
      ∀ as', (Codec.list c).decode d' = .ok as' ↔ ∃ a', c.decode x' = .ok a' ∧ as' = as.set i a' := by
  obtain ⟨rfl⟩ := h
  rename_i before after ending
  obtain ⟨hending, hitems⟩ := decode_list_eq_ok_iff.mp has
  obtain ⟨bs, a, cs, hbs, ha, hcs, rfl⟩ := mapM_append_cons_eq_ok_iff.mp hitems
  have hlength := length_of_mapM hbs
  refine ⟨a, by simp [← hlength], ha, fun as' => ?_⟩
  rw [decode_list_eq_ok_iff, mapM_append_cons_eq_ok_iff, and_iff_right hending]
  constructor
  · rintro ⟨bs', a', cs', hbs', ha', hcs', rfl⟩
    obtain rfl : bs = bs' := Except.ok.inj (hbs.symm.trans hbs')
    obtain rfl : cs = cs' := Except.ok.inj (hcs.symm.trans hcs')
    exact ⟨a', ha', by simp [← hlength]⟩
  · rintro ⟨a', ha', rfl⟩
    exact ⟨bs, a', cs, hbs, ha', hcs, by simp [← hlength]⟩

/-! ## Dictionaries -/

theorem decode_dict_eq_ok_iff {fields : List (Doc × Doc)} {ending : ObjectEnd} {dict : Dict α} :
    (Codec.dict c).decode (.object fields ending) = .ok dict ↔
      ending.fault? = none ∧ fields.foldlM (Codec.insertField c) .empty = .ok dict := by
  rw [Codec.dict, bind_eq_ok_iff]
  cases ending.fault? <;> simp

theorem decode_dict_of_entry {before after : List (Doc × Doc)} {key x x' : Doc}
    {ending : ObjectEnd} {dict : Dict α}
    (h : ∀ a, c.decode x = .ok a → c.decode x' = .ok a)
    (hdict : (Codec.dict c).decode (.object (before ++ (key, x) :: after) ending) = .ok dict) :
    (Codec.dict c).decode (.object (before ++ (key, x') :: after) ending) = .ok dict := by
  obtain ⟨hending, hfields⟩ := decode_dict_eq_ok_iff.mp hdict
  refine decode_dict_eq_ok_iff.mpr ⟨hending, ?_⟩
  rw [List.foldlM_append] at hfields ⊢
  obtain ⟨first, hfirst, hfields⟩ := bind_eq_ok_iff.mp hfields
  rw [List.foldlM_cons] at hfields
  obtain ⟨next, hnext, hafter⟩ := bind_eq_ok_iff.mp hfields
  obtain ⟨name, hname, hnext⟩ := bind_eq_ok_iff.mp hnext
  obtain ⟨a, ha, hnext⟩ := bind_eq_ok_iff.mp hnext
  -- The same value under the same key, so the fields behind start from the same dictionary.
  have hnext' : Codec.insertField c first (key, x') = .ok next := by
    rw [Codec.insertField, hname]
    simp only [h a ha]
    exact hnext
  rw [hfirst, ← hafter]
  change (Codec.insertField c first (key, x') >>= _) = _
  rw [hnext']
  rfl

/-! ## Any depth -/

abbrev FieldsChange := ⦃ρ : Type⦄ → Schema ρ → List (Doc × Doc) → List (Doc × Doc) → Prop

/-- Two documents of a type of which one has a change of an object that is read as a record, be it
the document or any part of it. -/
inductive Changed (R : FieldsChange) : {α : Type} → Codec α → Doc → Doc → Prop
  | here {ρ : Type} {s : Schema ρ} {fields fields' : List (Doc × Doc)} {ending : ObjectEnd}
      (h : R s fields fields') :
      Changed R s.codec (.object fields ending) (.object fields' ending)
  | field {ρ : Type} {s : Schema ρ} {f : Field} {p : f.In s.fields} {x x' d d' : Doc}
      (hp : p.First) (h : Changed R f.codec x x') (hd : DifferAt p (some x) (some x') d d') :
      Changed R s.codec d d'
  | item {α : Type} {c : Codec α} {i : Nat} {x x' d d' : Doc} (h : Changed R c x x')
      (hd : DifferAtItem i x x' d d') : Changed R c.list d d'
  | entry {α : Type} {c : Codec α} {before after : List (Doc × Doc)} {key x x' : Doc}
      {ending : ObjectEnd} (h : Changed R c x x') :
      Changed R c.dict (.object (before ++ (key, x) :: after) ending)
        (.object (before ++ (key, x') :: after) ending)
  | option {α : Type} {c : Codec α} {d d' : Doc} (h : Changed R c d d') : Changed R c.option d d'
  | nullAs {α : Type} {empty : α} {c : Codec α} {d d' : Doc} (h : Changed R c d d') :
      Changed R (c.nullAs empty) d d'

def FieldsChange.Keeps (R : FieldsChange) : Prop :=
  ∀ {ρ : Type} (s : Schema ρ) {fields fields' : List (Doc × Doc)}, R s fields fields' →
    ∀ {ending : ObjectEnd} {row : Row s.fields},
      s.row (.object fields ending) = .ok row → s.row (.object fields' ending) = .ok row

variable {R : FieldsChange} {d d' : Doc}

theorem ne_null_of_changed (h : Changed R c d d') : d ≠ .null ∧ d' ≠ .null := by
  induction h with
  | here => exact ⟨nofun, nofun⟩
  | field hp h hd ih => cases hd <;> exact ⟨nofun, nofun⟩
  | item h hd ih => cases hd; exact ⟨nofun, nofun⟩
  | entry => exact ⟨nofun, nofun⟩
  | option h ih => exact ih
  | nullAs h ih => exact ih

theorem decode_option_of_ne (h : d ≠ .null) : (Codec.option c).decode d = (c.decode d).map some := by
  cases d <;> first | rfl | exact absurd rfl h

theorem decode_nullAs_of_ne {empty : α} (h : d ≠ .null) :
    (Codec.nullAs empty c).decode d = c.decode d := by
  cases d <;> first | rfl | exact absurd rfl h

/-- If a change of fields keeps the record, it keeps what the whole document is read as. -/
theorem decode_of_changed (hR : FieldsChange.Keeps R) (h : Changed R c d d') {a : α}
    (ha : c.decode d = .ok a) : c.decode d' = .ok a := by
  -- The induction is on the way to the changed object.
  induction h with
  | @here ρ s fields fields' ending hfields =>
    obtain ⟨row, hrow, rfl⟩ := map_eq_ok_iff.mp ha
    exact map_eq_ok_iff.mpr ⟨row, hR s hfields hrow, rfl⟩
  | @field ρ s f p x x' d d' hp h hd ih =>
    obtain ⟨row, hrow, rfl⟩ := map_eq_ok_iff.mp ha
    obtain ⟨hx, hothers⟩ := row_of_differAt hp hd hrow
    exact map_eq_ok_iff.mpr ⟨row, (hothers row).mpr ⟨p.get row, ih hx, (p.set_get row).symm⟩, rfl⟩
  | item h hd ih =>
    obtain ⟨b, hb, hx, hothers⟩ := decode_list_of_differAtItem hd ha
    obtain ⟨hi, rfl⟩ := List.getElem?_eq_some_iff.mp hb
    exact (hothers _).mpr ⟨_, ih hx, (List.set_getElem_self hi).symm⟩
  | entry h ih => exact decode_dict_of_entry (fun _ => ih) ha
  | option h ih =>
    obtain ⟨hd, hd'⟩ := ne_null_of_changed h
    rw [decode_option_of_ne hd] at ha
    rw [decode_option_of_ne hd']
    obtain ⟨b, hb, rfl⟩ := map_eq_ok_iff.mp ha
    exact map_eq_ok_iff.mpr ⟨b, ih hb, rfl⟩
  | nullAs h ih =>
    obtain ⟨hd, hd'⟩ := ne_null_of_changed h
    rw [decode_nullAs_of_ne hd] at ha
    rw [decode_nullAs_of_ne hd']
    exact ih ha

end HealControl.Json
