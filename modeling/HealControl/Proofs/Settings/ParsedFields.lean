import HealControl.Proofs.Settings.FieldStarts
import HealControl.Proofs.Text.Trimming

/-!
# Parsed texts

Every text can be parsed if the keys are plain and distinct. A piece between two starts holds all
of the key that starts it and its equals sign, so it is read as that key and the value after it;
and as the keys of the pieces are distinct, no piece replaces what another one has set.
-/
namespace HealControl.Settings

open HealControl.Text

def fieldPlaces (cs : List Char) (keys : List String) : List (Nat × String) :=
  (keys.filterMap fun key => (fieldStart? cs key).map (·, key)).mergeSort fun a b => a.1 ≤ b.1

def fieldEnd (cs : List Char) (later : List (Nat × String)) : Nat :=
  (later.head?.map Prod.fst).getD cs.length

def paramsAt (cs : List Char) : List (Nat × String) → Params
  | [] => []
  | (i, key) :: later =>
    ⟨key, String.ofList (bareValue ((cs.take (fieldEnd cs later)).drop
      (i + key.toList.length + 1)))⟩ :: paramsAt cs later

def fieldParams (cs : List Char) (keys : List String) : Params :=
  paramsAt cs (fieldPlaces cs keys)

variable {cs : List Char} {keys : List String} {key : String} {i : Nat}

/-! ## The order of the places -/

theorem mem_fieldPlaces_iff :
    (i, key) ∈ fieldPlaces cs keys ↔ key ∈ keys ∧ fieldStart? cs key = some i := by
  simp [fieldPlaces]

theorem pairwise_mergeSort_le {α : Type} (f : α → Nat) (xs : List α) :
    (xs.mergeSort fun a b => f a ≤ f b).Pairwise fun a b => f a ≤ f b := by
  have hsorted := @List.pairwise_mergeSort _ (fun a b => decide (f a ≤ f b))
    (by simp; omega) (by simp; omega) xs
  simpa only [decide_eq_true_eq] using hsorted

theorem pairwise_le_fieldPlaces (cs : List Char) (keys : List String) :
    (fieldPlaces cs keys).Pairwise fun a b => a.1 ≤ b.1 :=
  pairwise_mergeSort_le Prod.fst _

theorem pairwise_ne_fieldPlaces (hkeys : PlainKeys keys) (cs : List Char) :
    (fieldPlaces cs keys).Pairwise fun a b => a.2 ≠ b.2 := by
  refine ((List.mergeSort_perm _ _).pairwise_iff Ne.symm).mpr
    (List.Pairwise.filterMap _ ?_ hkeys.distinct)
  intro key other hne place hplace place' hplace'
  obtain ⟨_, -, rfl⟩ := Option.map_eq_some_iff.mp hplace
  obtain ⟨_, -, rfl⟩ := Option.map_eq_some_iff.mp hplace'
  exact hne

theorem perm_fieldPlaces (cs : List Char) (keys : List String) :
    ((fieldPlaces cs keys).map Prod.fst).Perm (keys.filterMap (fieldStart? cs)) := by
  have hperm := (List.mergeSort_perm (keys.filterMap fun key => (fieldStart? cs key).map (·, key))
    fun a b => a.1 ≤ b.1).map Prod.fst
  have hfst : (keys.filterMap fun key => (fieldStart? cs key).map (·, key)).map Prod.fst =
      keys.filterMap (fieldStart? cs) := by
    simp [List.map_filterMap, Function.comp_def]
  rwa [hfst] at hperm

theorem fieldStarts_eq (cs : List Char) (keys : List String) :
    fieldStarts cs keys = (fieldPlaces cs keys).map Prod.fst := by
  have hperm : (fieldStarts cs keys).Perm ((fieldPlaces cs keys).map Prod.fst) :=
    (List.mergeSort_perm _ _).trans (perm_fieldPlaces cs keys).symm
  exact hperm.eq_of_pairwise (fun a b _ _ => Nat.le_antisymm) (pairwise_mergeSort_le id _)
    (List.pairwise_map.mpr (pairwise_le_fieldPlaces cs keys))

structure FieldAt (cs : List Char) (place : Nat × String) : Prop where
  plain : PlainKey place.2
  starts : StartsAt place.2 cs place.1

theorem fieldAt_of_mem (hkeys : PlainKeys keys) :
    ∀ place ∈ fieldPlaces cs keys, FieldAt cs place := by
  rintro ⟨i, key⟩ hplace
  obtain ⟨hkey, hstart⟩ := mem_fieldPlaces_iff.mp hplace
  exact ⟨hkeys.plain key hkey, startsAt_of_fieldStart? (hkeys.plain key hkey) hstart⟩

/-- Between two starts there is room for the key and the equals sign. -/
theorem pairwise_room_fieldPlaces (hkeys : PlainKeys keys)
    (cs : List Char) :
    (fieldPlaces cs keys).Pairwise fun a b => a.1 + a.2.toList.length + 1 ≤ b.1 := by
  refine ((pairwise_le_fieldPlaces cs keys).and (pairwise_ne_fieldPlaces hkeys cs)).imp_of_mem ?_
  intro a b ha hb ⟨hle, hne⟩
  have hfield := fieldAt_of_mem hkeys a ha
  have hfield' := fieldAt_of_mem hkeys b hb
  have hplace : a.1 ≠ b.1 := fun heq =>
    hne (hfield.starts.key_unique hfield.plain hfield'.plain (heq ▸ hfield'.starts))
  have hgap := hfield.starts.add_lt hfield.plain hfield'.starts (by omega)
  omega

theorem pairwise_lt_fieldPlaces (hkeys : PlainKeys keys)
    (cs : List Char) : (fieldPlaces cs keys).Pairwise fun a b => a.1 < b.1 :=
  (pairwise_room_fieldPlaces hkeys cs).imp fun hroom => by omega

theorem nodup_of_pairwise_lt {places : List (Nat × String)}
    (hplaces : places.Pairwise fun a b => a.1 < b.1) : places.Nodup :=
  hplaces.imp fun hlt heq => by simp [heq] at hlt

/-- There is one list of the places of the fields in order. -/
theorem fieldPlaces_unique (hkeys : PlainKeys keys)
    {places : List (Nat × String)} (hplaces : places.Pairwise fun a b => a.1 < b.1)
    (hmem : ∀ i key, (i, key) ∈ places ↔ key ∈ keys ∧ fieldStart? cs key = some i) :
    fieldPlaces cs keys = places := by
  have hsorted := pairwise_lt_fieldPlaces hkeys cs
  have hperm : (fieldPlaces cs keys).Perm places :=
    (List.perm_ext_iff_of_nodup (nodup_of_pairwise_lt hsorted)
      (nodup_of_pairwise_lt hplaces)).mpr
        fun (i, key) => mem_fieldPlaces_iff.trans (hmem i key).symm
  exact hperm.eq_of_pairwise (fun _ _ _ _ hab hba => absurd hab (by omega)) hsorted hplaces

/-- A field at the front of a text is the first one. -/
theorem fieldPlaces_eq_cons (hkeys : PlainKeys keys)
    (hkey : key ∈ keys) (hstart : fieldStart? cs key = some 0) :
    ∃ later, fieldPlaces cs keys = (0, key) :: later := by
  have hmem : (0, key) ∈ fieldPlaces cs keys := mem_fieldPlaces_iff.mpr ⟨hkey, hstart⟩
  have hsorted := pairwise_lt_fieldPlaces hkeys cs
  cases hplaces : fieldPlaces cs keys with
  | nil => simp [hplaces] at hmem
  | cons first later =>
    rw [hplaces] at hmem hsorted
    obtain rfl | hlater := List.mem_cons.mp hmem
    · exact ⟨later, rfl⟩
    · exact absurd ((List.pairwise_cons.mp hsorted).1 _ hlater) (Nat.not_lt_zero _)

/-! ## Reading the pieces -/

theorem cut_cons (cs : List Char) (start : Nat) (later : List Nat) :
    cut cs (start :: later) =
      (cs.take (later.head?.getD cs.length)).drop start :: cut cs later := by
  cases later with
  | nil => simp [cut]
  | cons stop rest => simp [cut, List.drop_take]

theorem head?_not_isBlank (hkey : PlainKey key) (value : List Char) :
    ∀ c ∈ (key.toList ++ '=' :: value).head?, isBlank c = false := by
  intro c hc
  cases htext : key.toList with
  | nil =>
    rw [htext] at hc
    obtain rfl : '=' = c := by simpa using hc
    decide
  | cons first rest =>
    rw [htext] at hc
    obtain rfl : first = c := by simpa using hc
    exact (hkey first (by simp [htext])).2

theorem bareValue_dropEndWhile (value : List Char) :
    bareValue (dropEndWhile isBlank value) = bareValue value := by
  rw [bareValue, trim, trimWhile_dropEndWhile]
  rfl

theorem ofField_trim (hkey : PlainKey key) (value : List Char) :
    Param.ofField (String.ofList (trim (key.toList ++ '=' :: value))) =
      .ok ⟨key, String.ofList (bareValue value)⟩ := by
  have hpiece : trim (key.toList ++ '=' :: value) =
      key.toList ++ '=' :: dropEndWhile isBlank value := by
    rw [trim, trimWhile_of_head (head?_not_isBlank hkey value)]
    exact dropEndWhile_append_cons (by decide) key.toList value
  simp only [Param.ofField, hpiece, String.toList_ofList, hkey.takeWhile, hkey.dropWhile,
    String.ofList_toList, bareValue_dropEndWhile]

theorem StartsAt.drop_take (h : StartsAt key cs i) {stop : Nat}
    (hstop : i + key.toList.length + 1 ≤ stop) :
    (cs.take stop).drop i =
      key.toList ++ '=' :: (cs.take stop).drop (i + key.toList.length + 1) := by
  obtain ⟨before, value, rfl, rfl, -⟩ := h
  obtain ⟨n, rfl⟩ := Nat.exists_eq_add_of_le hstop
  have hlength : (before ++ (key.toList ++ ['='])).length =
      before.length + key.toList.length + 1 := by
    simp [Nat.add_assoc]
  have htext : before ++ (key.toList ++ '=' :: value) =
      before ++ (key.toList ++ ['=']) ++ value := by simp
  rw [htext, ← hlength, List.take_length_add_append, List.drop_left, List.append_assoc,
    List.drop_left]
  simp

theorem StartsAt.add_le_fieldEnd (h : StartsAt key cs i) {later : List (Nat × String)}
    (hlater : ∀ place ∈ later, i + key.toList.length + 1 ≤ place.1) :
    i + key.toList.length + 1 ≤ fieldEnd cs later := by
  cases later with
  | nil =>
    have hlength : i + key.toList.length < cs.length := h.lt_length
    simp only [fieldEnd, List.head?_nil, Option.map_none, Option.getD_none]
    omega
  | cons next rest => exact hlater next List.mem_cons_self

/-- The pieces at such places are read one by one. -/
theorem map_ofField_cut (places : List (Nat × String))
    (hfields : ∀ place ∈ places, FieldAt cs place)
    (hroom : places.Pairwise fun a b => a.1 + a.2.toList.length + 1 ≤ b.1) :
    (cut cs (places.map Prod.fst)).map (fun piece => Param.ofField (String.ofList (trim piece))) =
      (paramsAt cs places).map .ok := by
  induction places with
  | nil => rfl
  | cons place later ih =>
    obtain ⟨i, key⟩ := place
    obtain ⟨⟨hplain, hstart⟩, hfields⟩ := List.forall_mem_cons.mp hfields
    obtain ⟨hnext, hroom⟩ := List.pairwise_cons.mp hroom
    have hstop : i + key.toList.length + 1 ≤ fieldEnd cs later := hstart.add_le_fieldEnd hnext
    have hpiece := ofField_trim hplain
      ((cs.take (fieldEnd cs later)).drop (i + key.toList.length + 1))
    rw [← hstart.drop_take hstop] at hpiece
    rw [List.map_cons, cut_cons, List.map_cons, ih hfields hroom, paramsAt, List.map_cons,
      List.head?_map]
    exact congrArg (· :: _) hpiece

/-! ## Parsing -/

theorem set_of_not_mem {ps : Params} {value : String} (h : key ∉ ps.map Param.key) :
    Params.set key value ps = ps ++ [⟨key, value⟩] := by
  induction ps with
  | nil => rfl
  | cons p rest ih =>
    rw [List.map_cons, List.mem_cons, not_or] at h
    rw [Params.set, if_neg (Ne.symm h.1), ih h.2, List.cons_append]

theorem foldlM_set {texts : List String} {ps : Params}
    (hread : texts.map Param.ofField = ps.map .ok) (read : Params)
    (hkeys : ((read ++ ps).map Param.key).Nodup) :
    texts.foldlM (fun read text => do
      let p ← Param.ofField text
      return Params.set p.key p.value read) read = .ok (read ++ ps) := by
  induction texts generalizing ps read with
  | nil =>
    obtain rfl : ps = [] := by simpa [eq_comm] using hread
    rw [List.append_nil]
    rfl
  | cons text texts ih =>
    obtain ⟨p, ps, rfl, hp, hrest⟩ : ∃ p rest, ps = p :: rest ∧ .ok p = Param.ofField text ∧
        rest.map .ok = texts.map Param.ofField := by
      simpa [List.map_eq_cons_iff] using hread.symm
    have hnew : p.key ∉ read.map Param.key := by
      rw [List.map_append, List.map_cons] at hkeys
      exact fun hmem => (List.nodup_append.mp hkeys).2.2 _ hmem _ List.mem_cons_self rfl
    have hfirst := ih hrest.symm (Params.set p.key p.value read)
      (by rw [set_of_not_mem hnew, List.append_assoc]; exact hkeys)
    rw [List.foldlM_cons, ← hp]
    refine hfirst.trans ?_
    rw [set_of_not_mem hnew, List.append_assoc]
    rfl

theorem map_key_paramsAt (cs : List Char) (places : List (Nat × String)) :
    (paramsAt cs places).map Param.key = places.map Prod.snd := by
  induction places with
  | nil => rfl
  | cons place later ih => rw [paramsAt, List.map_cons, List.map_cons, ih]

/-- Parsing never fails, and yields the parameters of the fields. -/
theorem parse_eq_fieldParams (hkeys : PlainKeys keys)
    (input : String) : Params.parse input keys = .ok (fieldParams input.toList keys) := by
  have hread : (fields input keys).map Param.ofField =
      (fieldParams input.toList keys).map .ok := by
    rw [fields, fieldStarts_eq, List.map_map]
    exact map_ofField_cut _ (fieldAt_of_mem hkeys) (pairwise_room_fieldPlaces hkeys _)
  have hdistinct : ((fieldParams input.toList keys).map Param.key).Nodup := by
    rw [fieldParams, map_key_paramsAt]
    exact List.pairwise_map.mpr (pairwise_ne_fieldPlaces hkeys _)
  exact foldlM_set hread [] hdistinct

/-! ## A text with more before it -/

/-- The same places in a text that has `n` more characters before it. -/
def shift (n : Nat) (places : List (Nat × String)) : List (Nat × String) :=
  places.map fun place => (n + place.1, place.2)

theorem pairwise_lt_shift {places : List (Nat × String)}
    (hplaces : places.Pairwise fun a b => a.1 < b.1) (n : Nat) :
    (shift n places).Pairwise fun a b => a.1 < b.1 :=
  List.pairwise_map.mpr (hplaces.imp fun hlt => Nat.add_lt_add_left hlt n)

theorem mem_shift_iff {n : Nat} {places : List (Nat × String)} :
    (i, key) ∈ shift n places ↔ ∃ j, (j, key) ∈ places ∧ i = n + j := by
  simp [shift, eq_comm]

theorem fieldEnd_shift (before cs : List Char) (places : List (Nat × String)) :
    fieldEnd (before ++ cs) (shift before.length places) = before.length + fieldEnd cs places := by
  cases places <;> simp [fieldEnd, shift]

theorem paramsAt_shift (before cs : List Char) (places : List (Nat × String)) :
    paramsAt (before ++ cs) (shift before.length places) = paramsAt cs places := by
  induction places with
  | nil => rfl
  | cons place later ih =>
    obtain ⟨i, key⟩ := place
    rw [shift, List.map_cons, ← shift, paramsAt, paramsAt, ih, fieldEnd_shift,
      List.take_length_add_append, Nat.add_assoc, Nat.add_assoc, List.drop_length_add_append,
      ← Nat.add_assoc]

end HealControl.Settings
