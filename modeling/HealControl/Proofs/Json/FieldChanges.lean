import HealControl.Proofs.Json.RoundTrip

/-!
# Records that differ in one field

Two documents of a record that differ in what they give for one field, a value or nothing, are read
to rows that differ in that field. The second one is read exactly if its value of the field is. It
is the same whether the record is given as an object, at whatever place among the others the field
stands, or as a list.
-/
namespace HealControl.Json

/-! ## Results -/

section Results

variable {ε α β : Type}

theorem map_eq_ok_iff {r : Except ε α} {g : α → β} {b : β} :
    r.map g = .ok b ↔ ∃ a, r = .ok a ∧ g a = b := by
  cases r <;> simp [Except.map]

theorem bind_eq_ok_iff {r : Except ε α} {g : α → Except ε β} {b : β} :
    r >>= g = .ok b ↔ ∃ a, r = .ok a ∧ g a = .ok b := by
  cases r <;> simp [bind, Except.bind]

end Results

/-! ## The place of a field -/

inductive Field.In (f : Field) : List Field → Type 1
  | here {fs : List Field} : Field.In f (f :: fs)
  | there {g : Field} {fs : List Field} (p : Field.In f fs) : Field.In f (g :: fs)

namespace Field.In

variable {f : Field} {fs : List Field}

def index : {fs : List Field} → f.In fs → Nat
  | _, here => 0
  | _, there p => p.index + 1

/-- No field before it has its name. -/
def First : {fs : List Field} → f.In fs → Prop
  | _, here => True
  | g :: _, there p => g.name ≠ f.name ∧ p.First

def get : {fs : List Field} → f.In fs → Row fs → f.type
  | _, here, (a, _) => a
  | _, there p, (_, row) => p.get row

def set : {fs : List Field} → f.In fs → f.type → Row fs → Row fs
  | _, here, a, (_, row) => (a, row)
  | _, there p, a, (b, row) => (b, p.set a row)

def slot : {fs : List Field} → f.In fs → Slots fs → Option f.type
  | _, here, (a, _) => a
  | _, there p, (_, slots) => p.slot slots

def fill : {fs : List Field} → f.In fs → Option f.type → Slots fs → Slots fs
  | _, here, o, (_, slots) => (o, slots)
  | _, there p, o, (b, slots) => (b, p.fill o slots)

@[simp] theorem set_get (p : f.In fs) (row : Row fs) : p.set (p.get row) row = row := by
  induction p with
  | here => rfl
  | there p ih => exact congrArg (row.1, ·) (ih row.2)

@[simp] theorem slot_fill (p : f.In fs) (o : Option f.type) (slots : Slots fs) :
    p.slot (p.fill o slots) = o := by
  induction p with
  | here => rfl
  | there p ih => exact ih slots.2

@[simp] theorem fill_fill (p : f.In fs) (o o' : Option f.type) (slots : Slots fs) :
    p.fill o (p.fill o' slots) = p.fill o slots := by
  induction p with
  | here => rfl
  | there p ih => exact congrArg (slots.1, ·) (ih slots.2)

@[simp] theorem fill_slot (p : f.In fs) (slots : Slots fs) : p.fill (p.slot slots) slots = slots := by
  induction p with
  | here => rfl
  | there p ih => exact congrArg (slots.1, ·) (ih slots.2)

@[simp] theorem slot_none (p : f.In fs) : p.slot (Slots.none fs) = none := by
  induction p with
  | here => rfl
  | there p ih => exact ih

end Field.In

variable {f : Field} {fs : List Field} {p : f.In fs} {slots slots' : Slots fs}

/-! ## Reading one field of an object -/

def Slots.readField (fs : List Field) (slots : Slots fs) (e : Doc × Doc) :
    Except Fault (Slots fs) := do
  let name ← e.1.key
  match Slots.read? fs name e.2 slots with
  | some result => result
  | Option.none => do
    malformed e.2.skip
    return slots

theorem readAll_eq_foldlM (fields : List (Doc × Doc)) (slots : Slots fs) :
    Slots.readAll fs fields slots = fields.foldlM (Slots.readField fs) slots := by
  induction fields generalizing slots with
  | nil => rfl
  | cons e rest ih =>
    rw [List.foldlM_cons, Slots.readAll, Slots.readField]
    cases e.1.key with
    | error fault => rfl
    | ok name =>
      simp only [bind, Except.bind]
      cases Slots.read? fs name e.2 slots with
      | none =>
        cases malformed e.2.skip with
        | error fault => rfl
        | ok _ => exact ih slots
      | some result =>
        cases result with
        | error fault => rfl
        | ok slots => exact ih slots

theorem read?_of_first (hp : p.First) (d : Doc) (slots : Slots fs) :
    Slots.read? fs f.name d slots = some
      (match p.slot slots with
      | some _ => .error (.unfit (.duplicateField f.name))
      | none => (f.codec.decode d).map fun a => p.fill (some a) slots) := by
  induction p with
  | here =>
    obtain ⟨slot, slots⟩ := slots
    cases slot with
    | none => exact if_pos rfl
    | some a => exact if_pos rfl
  | there p ih =>
    obtain ⟨slot, slots⟩ := slots
    rw [read?_cons_of_ne hp.1, ih hp.2 slots]
    change some (Except.map _ (match p.slot slots with | some _ => _ | none => _)) =
      some (match p.slot slots with | some _ => _ | none => _)
    cases p.slot slots with
    | none => cases f.codec.decode d <;> rfl
    | some a => rfl

theorem read?_fill (p : f.In fs) {name : String} (hname : f.name ≠ name) (d : Doc)
    (o : Option f.type) (slots : Slots fs) :
    Slots.read? fs name d (p.fill o slots) =
      (Slots.read? fs name d slots).map fun r => r.map (p.fill o) := by
  induction p with
  | @here fs =>
    obtain ⟨slot, slots⟩ := slots
    change Slots.read? (f :: fs) name d (o, slots) = _
    rw [read?_cons_of_ne hname, read?_cons_of_ne hname]
    cases Slots.read? fs name d slots with
    | none => rfl
    | some r => cases r <;> rfl
  | @there g fs p ih =>
    obtain ⟨slot, slots⟩ := slots
    change Slots.read? (g :: fs) name d (slot, p.fill o slots) = _
    by_cases hg : g.name = name
    · cases slot with
      | none =>
        rw [Slots.read?, Slots.read?, if_pos hg, if_pos hg]
        cases g.codec.decode d <;> rfl
      | some a =>
        rw [Slots.read?, Slots.read?, if_pos hg, if_pos hg]
        rfl
    · rw [read?_cons_of_ne hg, read?_cons_of_ne hg, ih slots]
      cases Slots.read? fs name d slots with
      | none => rfl
      | some r => cases r <;> rfl

theorem readField_of_first (hp : p.First) {e : Doc × Doc} (he : e.1.key = .ok f.name)
    (slots : Slots fs) :
    Slots.readField fs slots e =
      match p.slot slots with
      | some _ => .error (.unfit (.duplicateField f.name))
      | none => (f.codec.decode e.2).map fun a => p.fill (some a) slots := by
  rw [Slots.readField, he]
  simp only [bind, Except.bind, read?_of_first hp]

/-- Reading a field of another name does not look at what has been read of this one. -/
theorem readField_fill (p : f.In fs) {e : Doc × Doc} (he : e.1.key ≠ .ok f.name)
    (o : Option f.type) (slots : Slots fs) :
    Slots.readField fs (p.fill o slots) e = (Slots.readField fs slots e).map (p.fill o) := by
  rw [Slots.readField, Slots.readField]
  cases hkey : e.1.key with
  | error fault => rfl
  | ok name =>
    have hname : f.name ≠ name := fun hname => he (hname ▸ hkey)
    simp only [bind, Except.bind, read?_fill p hname]
    cases Slots.read? fs name e.2 slots with
    | none => cases malformed e.2.skip <;> rfl
    | some r => rfl

/-! ## Reading the fields of an object -/

def Lacks (fields : List (Doc × Doc)) (name : String) : Prop :=
  ∀ e ∈ fields, e.1.key ≠ .ok name

theorem foldlM_readField_fill (p : f.In fs) {fields : List (Doc × Doc)}
    (h : Lacks fields f.name) (o : Option f.type) (slots : Slots fs) :
    fields.foldlM (Slots.readField fs) (p.fill o slots) =
      (fields.foldlM (Slots.readField fs) slots).map (p.fill o) := by
  induction fields generalizing slots with
  | nil => rfl
  | cons e rest ih =>
    obtain ⟨he, hrest⟩ := List.forall_mem_cons.mp h
    rw [List.foldlM_cons, List.foldlM_cons, readField_fill p he]
    cases Slots.readField fs slots e with
    | error fault => rfl
    | ok slots => exact ih hrest slots

theorem readField_eq_ok (hp : p.First) {e : Doc × Doc}
    (h : Slots.readField fs slots e = .ok slots') :
    (e.1.key = .ok f.name ∧ p.slot slots = none ∧ ∃ a, p.slot slots' = some a) ∨
      (e.1.key ≠ .ok f.name ∧ p.slot slots' = p.slot slots) := by
  by_cases he : e.1.key = .ok f.name
  · rw [readField_of_first hp he] at h
    cases hslot : p.slot slots with
    | some a => simp [hslot] at h
    | none =>
      simp only [hslot] at h
      obtain ⟨a, -, rfl⟩ := map_eq_ok_iff.mp h
      exact .inl ⟨he, rfl, a, p.slot_fill (some a) slots⟩
  · have hfill := readField_fill p he (p.slot slots) slots
    rw [p.fill_slot, h] at hfill
    have hslots : slots' = p.fill (p.slot slots) slots' := Except.ok.inj hfill
    refine .inr ⟨he, ?_⟩
    rw [hslots, p.slot_fill]

/-- What has been read of a field stays, and the field is not given again. -/
theorem slot_of_foldlM (hp : p.First) {fields : List (Doc × Doc)} {a : f.type}
    (h : fields.foldlM (Slots.readField fs) slots = .ok slots') (hslot : p.slot slots = some a) :
    Lacks fields f.name ∧ p.slot slots' = some a := by
  induction fields generalizing slots with
  | nil =>
    obtain rfl : slots = slots' := Except.ok.inj h
    exact ⟨List.forall_mem_nil _, hslot⟩
  | cons e rest ih =>
    rw [List.foldlM_cons] at h
    obtain ⟨next, hnext, hrest⟩ := bind_eq_ok_iff.mp h
    obtain ⟨-, hempty, -⟩ | ⟨he, hkept⟩ := readField_eq_ok hp hnext
    · rw [hslot] at hempty
      contradiction
    · obtain ⟨hlacks, hlast⟩ := ih hrest (hkept.trans hslot)
      exact ⟨List.forall_mem_cons.mpr ⟨he, hlacks⟩, hlast⟩

/-- A field of which nothing has been read was not given. -/
theorem lacks_of_slot_eq_none (hp : p.First) {fields : List (Doc × Doc)}
    (h : fields.foldlM (Slots.readField fs) slots = .ok slots') (hslot : p.slot slots' = none) :
    Lacks fields f.name := by
  induction fields generalizing slots with
  | nil => exact List.forall_mem_nil _
  | cons e rest ih =>
    rw [List.foldlM_cons] at h
    obtain ⟨next, hnext, hrest⟩ := bind_eq_ok_iff.mp h
    refine List.forall_mem_cons.mpr ⟨?_, ih hrest⟩
    obtain ⟨-, -, a, ha⟩ | ⟨he, -⟩ := readField_eq_ok hp hnext
    · have hlast := (slot_of_foldlM hp hrest ha).2
      rw [hslot] at hlast
      contradiction
    · exact he

/-! ## What is given for a field -/

def Field.given (f : Field) : Option Doc → Except Fault f.type
  | none => f.value none
  | some d => f.codec.decode d

def Field.read (f : Field) : Option Doc → Except Fault (Option f.type)
  | none => .ok none
  | some d => (f.codec.decode d).map some

def entry (key : Doc) (x : Option Doc) : List (Doc × Doc) :=
  x.toList.map (key, ·)

theorem given_eq_ok_iff {x : Option Doc} {a : f.type} :
    f.given x = .ok a ↔ ∃ o, f.read x = .ok o ∧ f.value o = .ok a := by
  cases x with
  | none => simp [Field.given, Field.read]
  | some d =>
    cases hd : f.codec.decode d <;>
      simp [Field.given, Field.read, Field.value, hd, Except.map]

theorem slot_eq_none_of_lacks (p : f.In fs) {fields : List (Doc × Doc)}
    (hlacks : Lacks fields f.name)
    (h : fields.foldlM (Slots.readField fs) (Slots.none fs) = .ok slots) : p.slot slots = none := by
  have hstart : p.fill none (Slots.none fs) = Slots.none fs := by
    rw [← p.slot_none, p.fill_slot]
  have hfill := foldlM_readField_fill p hlacks none (Slots.none fs)
  rw [hstart, h] at hfill
  have hslots : slots = p.fill none slots := Except.ok.inj hfill
  rw [hslots, p.slot_fill]

theorem foldlM_cons_eq_ok_iff (hp : p.First) {after : List (Doc × Doc)} {key d : Doc}
    (hkey : key.key = .ok f.name) (hafter : Lacks after f.name) (hslot : p.slot slots = none) :
    ((key, d) :: after).foldlM (Slots.readField fs) slots = .ok slots' ↔
      ∃ last a, after.foldlM (Slots.readField fs) slots = .ok last ∧ f.codec.decode d = .ok a ∧
        slots' = p.fill (some a) last := by
  have hfield := readField_of_first hp (e := (key, d)) hkey slots
  simp only [hslot] at hfield
  rw [List.foldlM_cons, hfield, bind_eq_ok_iff]
  constructor
  -- What comes behind does not look at the slot of the field, so that may be filled in last.
  · rintro ⟨next, hnext, h⟩
    obtain ⟨a, ha, rfl⟩ := map_eq_ok_iff.mp hnext
    rw [foldlM_readField_fill p hafter] at h
    obtain ⟨last, hlast, rfl⟩ := map_eq_ok_iff.mp h
    exact ⟨last, a, hlast, ha, rfl⟩
  · rintro ⟨last, a, hlast, ha, rfl⟩
    refine ⟨_, map_eq_ok_iff.mpr ⟨a, ha, rfl⟩, ?_⟩
    rw [foldlM_readField_fill p hafter]
    exact map_eq_ok_iff.mpr ⟨last, hlast, rfl⟩

/-- A field may as well be read after all others. -/
theorem foldlM_entry_eq_ok_iff (hp : p.First) {before after : List (Doc × Doc)} {key : Doc}
    (hkey : key.key = .ok f.name) (hlacks : Lacks (before ++ after) f.name) (x : Option Doc) :
    (before ++ entry key x ++ after).foldlM (Slots.readField fs) (Slots.none fs) = .ok slots' ↔
      ∃ slots o, (before ++ after).foldlM (Slots.readField fs) (Slots.none fs) = .ok slots ∧
        f.read x = .ok o ∧ slots' = p.fill o slots := by
  obtain ⟨hbefore, hafter⟩ := List.forall_mem_append.mp hlacks
  cases x with
  | none =>
    rw [entry, Option.toList_none, List.map_nil, List.append_nil]
    constructor
    · intro h
      refine ⟨slots', none, h, rfl, ?_⟩
      rw [← slot_eq_none_of_lacks p hlacks h, p.fill_slot]
    · rintro ⟨slots, o, h, ho, rfl⟩
      obtain rfl : none = o := Except.ok.inj ho
      rw [← slot_eq_none_of_lacks p hlacks h, p.fill_slot, h]
  | some d =>
    rw [entry, Option.toList_some, List.map_cons, List.map_nil, List.append_assoc,
      List.singleton_append, List.foldlM_append, List.foldlM_append, bind_eq_ok_iff]
    constructor
    · rintro ⟨slots, hread, h⟩
      have hslot := slot_eq_none_of_lacks p hbefore hread
      obtain ⟨last, a, hlast, ha, rfl⟩ := (foldlM_cons_eq_ok_iff hp hkey hafter hslot).mp h
      exact ⟨last, some a, bind_eq_ok_iff.mpr ⟨slots, hread, hlast⟩,
        map_eq_ok_iff.mpr ⟨a, ha, rfl⟩, rfl⟩
    · rintro ⟨last, o, h, ho, rfl⟩
      obtain ⟨slots, hread, hlast⟩ := bind_eq_ok_iff.mp h
      obtain ⟨a, ha, rfl⟩ := map_eq_ok_iff.mp ho
      have hslot := slot_eq_none_of_lacks p hbefore hread
      exact ⟨slots, hread,
        (foldlM_cons_eq_ok_iff hp hkey hafter hslot).mpr ⟨last, a, hlast, ha, rfl⟩⟩

theorem row_cons_eq_ok_iff {g : Field} {slot : Option g.type} {b : g.type} {rest : Row fs} :
    Slots.row (g :: fs) (slot, slots) = .ok (b, rest) ↔
      g.value slot = .ok b ∧ Slots.row fs slots = .ok rest := by
  rw [Slots.row]
  constructor
  · intro h
    obtain ⟨b', hb, h⟩ := bind_eq_ok_iff.mp h
    obtain ⟨rest', hrest, h⟩ := bind_eq_ok_iff.mp h
    obtain ⟨rfl, rfl⟩ := Prod.mk.inj (Except.ok.inj h)
    exact ⟨hb, hrest⟩
  · rintro ⟨hb, hrest⟩
    rw [hb, hrest]
    rfl

theorem value_slot (p : f.In fs) {row : Row fs} (h : Slots.row fs slots = .ok row) :
    f.value (p.slot slots) = .ok (p.get row) := by
  induction p with
  | here => exact (row_cons_eq_ok_iff.mp h).1
  | there p ih => exact ih (row_cons_eq_ok_iff.mp h).2

theorem row_fill_eq_ok_iff (p : f.In fs) {row : Row fs} (h : Slots.row fs slots = .ok row)
    (o : Option f.type) (row' : Row fs) :
    Slots.row fs (p.fill o slots) = .ok row' ↔ ∃ a, f.value o = .ok a ∧ row' = p.set a row := by
  induction p with
  | here =>
    obtain ⟨-, hrest⟩ := row_cons_eq_ok_iff.mp h
    refine row_cons_eq_ok_iff.trans ⟨?_, ?_⟩
    · rintro ⟨ho, hrest'⟩
      exact ⟨row'.1, ho, Prod.ext rfl (Except.ok.inj (hrest'.symm.trans hrest))⟩
    · rintro ⟨a, ho, rfl⟩
      exact ⟨ho, hrest⟩
  | there p ih =>
    obtain ⟨hfirst, hrest⟩ := row_cons_eq_ok_iff.mp h
    refine row_cons_eq_ok_iff.trans ⟨?_, ?_⟩
    · rintro ⟨hfirst', hrest'⟩
      obtain ⟨a, ha, hset⟩ := (ih hrest row'.2).mp hrest'
      exact ⟨a, ha, Prod.ext (Except.ok.inj (hfirst'.symm.trans hfirst)) hset⟩
    · rintro ⟨a, ha, rfl⟩
      exact ⟨hfirst, (ih hrest _).mpr ⟨a, ha, rfl⟩⟩

/-! ## Reading the items of a list -/

section Items

variable {record : String} {count : Nat} {ending : ListEnd} {n : Nat}

theorem missing_cons_eq_ok_iff {g : Field} {b : g.type} {rest : Row fs} :
    Row.missing record count n (g :: fs) = .ok (b, rest) ↔
      g.value none = .ok b ∧ Row.missing record count (n + 1) fs = .ok rest := by
  rw [Row.missing, Field.value, Option.none_or]
  cases g.missing with
  | none => simp
  | some a =>
    constructor
    · intro h
      obtain ⟨rest', hrest, h⟩ := bind_eq_ok_iff.mp h
      obtain ⟨rfl, rfl⟩ := Prod.mk.inj (Except.ok.inj h)
      exact ⟨rfl, hrest⟩
    · rintro ⟨hb, hrest⟩
      obtain rfl : a = b := Except.ok.inj hb
      change Row.missing record count (n + 1) fs >>= _ = _
      rw [hrest]
      rfl

theorem ofItems_nil_eq_ok_iff {row : Row fs} :
    Row.ofItems record count ending fs n [] = .ok row ↔
      ending.fault? = none ∧ Row.missing record count n fs = .ok row := by
  cases fs with
  | nil =>
    rw [Row.ofItems]
    cases ending with
    | closed => exact (and_iff_right rfl).symm
    | dangling => exact iff_of_false nofun nofun
    | cut => exact iff_of_false nofun nofun
    | junk => exact iff_of_false nofun nofun
  | cons g fs =>
    rw [Row.ofItems]
    cases ending.fault? <;> simp

theorem ofItems_cons_eq_ok_iff {g : Field} {d : Doc} {items : List Doc} {b : g.type}
    {rest : Row fs} :
    Row.ofItems record count ending (g :: fs) n (d :: items) = .ok (b, rest) ↔
      g.codec.decode d = .ok b ∧ Row.ofItems record count ending fs (n + 1) items = .ok rest := by
  rw [Row.ofItems]
  constructor
  · intro h
    obtain ⟨b', hb, h⟩ := bind_eq_ok_iff.mp h
    obtain ⟨rest', hrest, h⟩ := bind_eq_ok_iff.mp h
    obtain ⟨rfl, rfl⟩ := Prod.mk.inj (Except.ok.inj h)
    exact ⟨hb, hrest⟩
  · rintro ⟨hb, hrest⟩
    rw [hb, hrest]
    rfl

/-- An item may be left out if nothing follows it. -/
theorem ofItems_given_eq_ok_iff {x : Option Doc} {rest : List Doc} (hx : x = none → rest = [])
    {a : f.type} {row : Row fs} :
    Row.ofItems record count ending (f :: fs) n (x.toList ++ rest) = .ok (a, row) ↔
      f.given x = .ok a ∧ Row.ofItems record count ending fs (n + 1) rest = .ok row := by
  cases x with
  | none =>
    obtain rfl := hx rfl
    rw [ofItems_nil_eq_ok_iff, and_left_comm]
    exact ofItems_nil_eq_ok_iff.trans (and_congr_right' missing_cons_eq_ok_iff)
  | some d => exact ofItems_cons_eq_ok_iff

theorem ofItems_of_given (p : f.In fs) {items rest : List Doc} {x x' : Option Doc}
    (hlength : items.length = p.index) (hx : x = none → rest = []) (hx' : x' = none → rest = [])
    {row : Row fs}
    (h : Row.ofItems record count ending fs n (items ++ x.toList ++ rest) = .ok row) :
    f.given x = .ok (p.get row) ∧
      ∀ row', Row.ofItems record count ending fs n (items ++ x'.toList ++ rest) = .ok row' ↔
        ∃ a, f.given x' = .ok a ∧ row' = p.set a row := by
  -- The induction is on the place of the field; every item before it goes to the field before it.
  induction p generalizing items n with
  | here =>
    obtain rfl := List.eq_nil_of_length_eq_zero hlength
    rw [List.nil_append] at h ⊢
    obtain ⟨hfirst, hrest⟩ := (ofItems_given_eq_ok_iff hx).mp h
    refine ⟨hfirst, fun row' => (ofItems_given_eq_ok_iff hx').trans ⟨?_, ?_⟩⟩
    · rintro ⟨ha, hrest'⟩
      exact ⟨row'.1, ha, Prod.ext rfl (Except.ok.inj (hrest'.symm.trans hrest))⟩
    · rintro ⟨a, ha, rfl⟩
      exact ⟨ha, hrest⟩
  | there p ih =>
    obtain ⟨d, items, rfl⟩ := List.exists_cons_of_length_eq_add_one hlength
    obtain ⟨hfirst, hrest⟩ := ofItems_cons_eq_ok_iff.mp h
    obtain ⟨hgiven, hothers⟩ := ih (Nat.succ.inj hlength) hrest
    refine ⟨hgiven, fun row' => ofItems_cons_eq_ok_iff.trans ⟨?_, ?_⟩⟩
    · rintro ⟨hfirst', hrest'⟩
      obtain ⟨a, ha, hset⟩ := (hothers row'.2).mp hrest'
      exact ⟨a, ha, Prod.ext (Except.ok.inj (hfirst'.symm.trans hfirst)) hset⟩
    · rintro ⟨a, ha, rfl⟩
      exact ⟨hfirst, (hothers _).mpr ⟨a, ha, rfl⟩⟩

end Items

/-! ## Documents that differ in one field -/

theorem lacks_of_entry (hp : p.First) {before after : List (Doc × Doc)} {key d : Doc}
    (hkey : key.key = .ok f.name)
    (h : (before ++ entry key (some d) ++ after).foldlM (Slots.readField fs) slots = .ok slots') :
    Lacks (before ++ after) f.name := by
  rw [entry, Option.toList_some, List.map_cons, List.map_nil, List.append_assoc,
    List.singleton_append, List.foldlM_append] at h
  obtain ⟨first, hbefore, h⟩ := bind_eq_ok_iff.mp h
  rw [List.foldlM_cons] at h
  obtain ⟨next, hnext, hafter⟩ := bind_eq_ok_iff.mp h
  obtain ⟨-, hempty, a, hfilled⟩ | ⟨hne, -⟩ := readField_eq_ok hp hnext
  · exact List.forall_mem_append.mpr
      ⟨lacks_of_slot_eq_none hp hbefore hempty, (slot_of_foldlM hp hafter hfilled).1⟩
  · exact absurd hkey hne

/-- Two documents of which one gives `x` for a field and the other one `x'`, and which are the same
otherwise. What an object does not give stands nowhere in it; a list gives all fields up to its
last one. -/
inductive DifferAt (p : f.In fs) (x x' : Option Doc) : Doc → Doc → Prop
  | member {before after : List (Doc × Doc)} {key : Doc} {ending : ObjectEnd}
      (hkey : key.key = .ok f.name) (hlacks : x = none → Lacks (before ++ after) f.name) :
      DifferAt p x x' (.object (before ++ entry key x ++ after) ending)
        (.object (before ++ entry key x' ++ after) ending)
  | item {items rest : List Doc} {ending : ListEnd} (hlength : items.length = p.index)
      (hx : x = none → rest = []) (hx' : x' = none → rest = []) :
      DifferAt p x x' (.list (items ++ x.toList ++ rest) ending)
        (.list (items ++ x'.toList ++ rest) ending)

theorem row_object_eq_ok_iff {ρ : Type} (s : Schema ρ) {fields : List (Doc × Doc)}
    {ending : ObjectEnd} {row : Row s.fields} :
    s.row (.object fields ending) = .ok row ↔ ending.fault? = none ∧
      ∃ slots, fields.foldlM (Slots.readField s.fields) (Slots.none s.fields) = .ok slots ∧
        Slots.row s.fields slots = .ok row := by
  rw [Schema.row, readAll_eq_foldlM, bind_eq_ok_iff]
  cases ending.fault? <;> simp

/-- The field of the first document is read, and the second document is read exactly if its field
is, to the row with that value in the field's place. -/
theorem row_of_differAt {ρ : Type} {s : Schema ρ} {p : f.In s.fields} (hp : p.First)
    {x x' : Option Doc} {d d' : Doc} (h : DifferAt p x x' d d') {row : Row s.fields}
    (hrow : s.row d = .ok row) :
    f.given x = .ok (p.get row) ∧
      ∀ row', s.row d' = .ok row' ↔ ∃ a, f.given x' = .ok a ∧ row' = p.set a row := by
  cases h with
  | @member before after key ending hkey hlacks =>
    obtain ⟨hending, slots', hread, hslots⟩ := (row_object_eq_ok_iff s).mp hrow
    have hall : Lacks (before ++ after) f.name := by
      cases x with
      | none => exact hlacks rfl
      | some d => exact lacks_of_entry hp hkey hread
    -- Both documents read the other fields to the same slots, and fill in this field last.
    obtain ⟨slots, o, hothers, ho, rfl⟩ := (foldlM_entry_eq_ok_iff hp hkey hall x).mp hread
    have hvalue := value_slot p hslots
    rw [p.slot_fill] at hvalue
    refine ⟨given_eq_ok_iff.mpr ⟨o, ho, hvalue⟩, fun row' => ?_⟩
    rw [row_object_eq_ok_iff]
    constructor
    · rintro ⟨-, slots', hread', hslots'⟩
      obtain ⟨slots₁, o', hothers', ho', rfl⟩ :=
        (foldlM_entry_eq_ok_iff hp hkey hall x').mp hread'
      obtain rfl : slots = slots₁ := Except.ok.inj (hothers.symm.trans hothers')
      rw [← p.fill_fill o' o, row_fill_eq_ok_iff p hslots] at hslots'
      obtain ⟨a, ha, hset⟩ := hslots'
      exact ⟨a, given_eq_ok_iff.mpr ⟨o', ho', ha⟩, hset⟩
    · rintro ⟨a, ha, rfl⟩
      obtain ⟨o', ho', hvalue'⟩ := given_eq_ok_iff.mp ha
      refine ⟨hending, p.fill o' slots,
        (foldlM_entry_eq_ok_iff hp hkey hall x').mpr ⟨slots, o', hothers, ho', rfl⟩, ?_⟩
      rw [← p.fill_fill o' o, row_fill_eq_ok_iff p hslots]
      exact ⟨a, hvalue', rfl⟩
  | item hlength hx hx' => exact ofItems_of_given p hlength hx hx' hrow

end HealControl.Json
