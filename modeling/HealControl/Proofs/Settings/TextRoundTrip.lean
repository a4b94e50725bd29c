import HealControl.Proofs.Settings.ParsedFields

/-!
# Parameters read back from their text

A value with blanks stands in quotation marks, but the search for fields does not see them: where
such a value mentions a key, the field of that key may start inside the value. It does not if the
key has had its own field before. So the text of parameters is read as these parameters exactly if
no value mentions a key before that key's own parameter.
-/
namespace HealControl.Settings

open HealControl.Text

/-- After `n` characters of the value and a blank, the key stands with an equals sign after it. -/
def MentionsAt (value key : String) (n : Nat) : Prop :=
  ∃ before c after, value.toList = before ++ c :: (key.toList ++ '=' :: after) ∧
    isBlank c = true ∧ before.length = n

theorem mentionsAt_iff {value key : String} {n : Nat} :
    MentionsAt value key n ↔ value.toList[n]?.any isBlank = true ∧
      (key.toList ++ ['=']) <+: value.toList.drop (n + 1) := by
  constructor
  · rintro ⟨before, c, after, htext, hblank, rfl⟩
    rw [htext]
    exact ⟨by simp [hblank], by simp⟩
  · rintro ⟨hany, hpattern⟩
    obtain ⟨c, hc, hblank⟩ := (Option.any_eq_true _ _).mp hany
    obtain ⟨after, hafter⟩ := pattern_prefix_iff.mp hpattern
    obtain ⟨hn, hc⟩ := List.getElem?_eq_some_iff.mp hc
    refine ⟨value.toList.take n, c, after, ?_, hblank, by simp; omega⟩
    rw [← hafter, ← hc, ← List.drop_eq_getElem_cons, List.take_append_drop]

instance (value key : String) (n : Nat) : Decidable (MentionsAt value key n) :=
  decidable_of_iff _ mentionsAt_iff.symm

def Mentions (value key : String) : Prop :=
  ∃ n, MentionsAt value key n

theorem MentionsAt.lt_length {value key : String} {n : Nat} (h : MentionsAt value key n) :
    n < value.toList.length := by
  obtain ⟨before, c, after, htext, -, rfl⟩ := h
  simp [htext]

instance (value key : String) : Decidable (Mentions value key) :=
  decidable_of_iff (∃ n < value.toList.length, MentionsAt value key n)
    ⟨fun ⟨n, _, h⟩ => ⟨n, h⟩, fun ⟨n, h⟩ => ⟨n, h.lt_length, h⟩⟩

/-- Of the given keys, each value mentions only its own and those of the parameters before it. -/
def MentionsBack (keys : List String) (ps : Params) : Prop :=
  ∀ i, (h : i < ps.length) → ∀ key ∈ keys, Mentions ps[i].value key →
    key ∈ (ps.take (i + 1)).map Param.key

instance (keys : List String) (ps : Params) : Decidable (MentionsBack keys ps) :=
  inferInstanceAs (Decidable (∀ i, (h : i < ps.length) → ∀ key ∈ keys, Mentions ps[i].value key →
    key ∈ (ps.take (i + 1)).map Param.key))

def isQuote (c : Char) : Bool :=
  c == '"' || c.toNat == 0x27

def Unquoted (value : String) : Prop :=
  (∀ c ∈ value.toList.head?, isQuote c = false) ∧ ∀ c ∈ value.toList.getLast?, isQuote c = false

instance (value : String) : Decidable (Unquoted value) :=
  @instDecidableAnd _ _ (Option.decidableForallMem _) (Option.decidableForallMem _)

variable {p : Param} {rest : Params} {keys : List String} {key : String} {n i : Nat}

theorem mentionsBack_cons_iff (hkeys : PlainKeys keys) :
    MentionsBack keys (p :: rest) ↔
      (∀ key ∈ keys, Mentions p.value key → key = p.key) ∧
        MentionsBack (keys.erase p.key) rest := by
  constructor
  · intro h
    refine ⟨fun key hkey hmention => ?_, fun i hi key hkey hmention => ?_⟩
    · simpa using h 0 (Nat.zero_lt_succ _) key hkey hmention
    · obtain ⟨hne, hkey⟩ := hkeys.distinct.mem_erase_iff.mp hkey
      have hearlier := h (i + 1) (Nat.succ_lt_succ hi) key hkey hmention
      rw [List.take_succ_cons, List.map_cons, List.mem_cons] at hearlier
      exact hearlier.resolve_left hne
  · rintro ⟨hfirst, hrest⟩ i hi key hkey hmention
    rw [List.take_succ_cons, List.map_cons, List.mem_cons]
    cases i with
    | zero => exact .inl (hfirst key hkey hmention)
    | succ i =>
      by_cases hown : key = p.key
      · exact .inl hown
      · exact .inr (hrest i (Nat.lt_of_succ_lt_succ hi) key (hkeys.distinct.mem_erase_iff.mpr ⟨hown, hkey⟩)
          hmention)

/-! ## The text of a parameter -/

def mark (p : Param) : List Char :=
  if p.value.toList.any isBlank then ['"'] else []

def written (p : Param) : List Char :=
  mark p ++ (p.value.toList ++ mark p)

def following (rest : Params) : List Char :=
  if rest = [] then [] else ' ' :: (Params.text rest).toList

theorem toList_paramText (p : Param) :
    (Params.paramText p).toList = p.key.toList ++ '=' :: written p := by
  by_cases hblank : p.value.toList.any isBlank = true <;>
    simp [Params.paramText, written, mark, hblank]

theorem toList_text_cons (p : Param) (rest : Params) :
    (Params.text (p :: rest)).toList = p.key.toList ++ '=' :: (written p ++ following rest) := by
  cases rest with
  | nil =>
    simp [Params.text, following, toList_paramText]
  | cons q rest =>
    simp [Params.text, following, String.toList_intercalate, toList_paramText]

def lead (p : Param) : List Char :=
  p.key.toList ++ '=' :: (written p ++ [' '])

theorem length_lead (p : Param) :
    (lead p).length = p.key.toList.length + (written p).length + 2 := by
  simp [lead]
  omega

theorem toList_text_cons_cons (p q : Param) (rest : Params) :
    (Params.text (p :: q :: rest)).toList = lead p ++ (Params.text (q :: rest)).toList := by
  rw [toList_text_cons]
  simp [following, lead]

theorem following_head? (rest : Params) : ∀ c ∈ (following rest).head?, isBlank c = true := by
  unfold following
  split
  · simp
  · intro c hc
    obtain rfl : ' ' = c := by simpa using hc
    decide

theorem mark_of_mem {c : Char} (hc : c ∈ p.value.toList) (hblank : isBlank c = true) :
    mark p = ['"'] :=
  if_pos (List.any_eq_true.mpr ⟨c, hc, hblank⟩)

theorem MentionsAt.mark (h : MentionsAt p.value key n) : Settings.mark p = ['"'] := by
  obtain ⟨before, c, after, hvalue, hblank, -⟩ := h
  exact mark_of_mem (by simp [hvalue]) hblank

/-- A blank in the written value is one of the value, which then stands in marks. -/
theorem written_eq_append_blank {before after : List Char} {c : Char} (hblank : isBlank c = true)
    (h : written p = before ++ c :: after) :
    ∃ before' after', before = '"' :: before' ∧ after = after' ++ ['"'] ∧
      p.value.toList = before' ++ c :: after' := by
  have hmark : ∀ d ∈ mark p, d = '"' := by
    intro d hd
    unfold mark at hd
    split at hd
    · exact List.mem_singleton.mp hd
    · exact absurd hd List.not_mem_nil
  have hquote : c ≠ '"' := by
    rintro rfl
    exact absurd hblank (by decide)
  have hmem : c ∈ p.value.toList := by
    have hc : c ∈ written p := h ▸ List.mem_append_right _ List.mem_cons_self
    rw [written, List.mem_append, List.mem_append] at hc
    obtain hc | hc | hc := hc
    · exact absurd (hmark c hc) hquote
    · exact hc
    · exact absurd (hmark c hc) hquote
  rw [written, mark_of_mem hmem hblank, List.singleton_append] at h
  cases before with
  | nil => exact absurd (List.cons.inj h).1.symm hquote
  | cons d before' =>
    rw [List.cons_append] at h
    obtain ⟨rfl, hrest⟩ := List.cons.inj h
    obtain ⟨as, rfl, hend⟩ | ⟨as, hvalue, hend⟩ := List.append_eq_append_iff.mp hrest
    · -- Past the value there is only the closing mark.
      obtain ⟨-, hnone⟩ | ⟨rfl, hc⟩ := List.append_eq_singleton_iff.mp hend.symm
      · exact absurd (List.cons.inj hnone).1 hquote
      · simp at hc
    · cases as with
      | nil => exact absurd (List.cons.inj hend).1 hquote
      | cons d after' =>
        obtain ⟨rfl, rfl⟩ := List.cons.inj hend
        exact ⟨before', after', rfl, rfl, hvalue⟩

/-! ## Starts in the text of parameters -/

/-- A key and its equals sign that stand before a closing mark stand in the value. -/
theorem eq_append_of_before_mark {left tail value : List Char} (hkey : PlainKey key)
    (htail : ∀ c ∈ tail.head?, isBlank c = true)
    (h : key.toList ++ '=' :: value = left ++ '"' :: tail) :
    ∃ after, left = key.toList ++ '=' :: after := by
  obtain ⟨as, rfl, hvalue⟩ | ⟨as, hsplit, hmark⟩ := List.append_eq_append_iff.mp h
  · cases as with
    | nil => simp at hvalue
    | cons c after => exact ⟨after, by rw [(List.cons.inj hvalue).1]⟩
  · -- Otherwise the mark, and then the blank or the end after it, would belong to the key.
    cases as with
    | nil => simp at hmark
    | cons c as =>
      obtain ⟨-, htail'⟩ := List.cons.inj hmark
      cases as with
      | nil => exact absurd (htail '=' (by simp [htail'])) (by decide)
      | cons d as =>
        have hd : isBlank d = true := htail d (by simp [htail'])
        have hd' := (hkey d (by simp [hsplit])).2
        rw [hd] at hd'
        contradiction

theorem startsAt_of_following {value : List Char} {c : Char} (before : List Char)
    (hblank : isBlank c = true)
    (h : following rest = before ++ c :: (key.toList ++ '=' :: value)) :
    StartsAt key (Params.text rest).toList before.length := by
  unfold following at h
  split at h
  · simp at h
  · cases before with
    | nil => exact ⟨[], value, (List.cons.inj h).2, rfl, by simp⟩
    | cons d before =>
      rw [List.cons_append] at h
      refine ⟨before ++ [c], value, ?_, by simp, by simp [hblank]⟩
      rw [(List.cons.inj h).2, List.append_assoc, List.singleton_append]

theorem StartsAt.following (h : StartsAt key (Params.text rest).toList i) :
    Settings.following rest = ' ' :: (Params.text rest).toList := by
  refine if_neg ?_
  rintro rfl
  exact absurd h.lt_length (by simp [Params.text])

/-- The field of another key starts after a blank that follows the equals sign of the first one. -/
theorem StartsAt.exists_blank {own : String} {text : List Char} (hown : PlainKey own)
    (hkey : PlainKey key) (hne : key ≠ own) (h : StartsAt key (own.toList ++ '=' :: text) i) :
    ∃ inner c value, isBlank c = true ∧ text = inner ++ c :: (key.toList ++ '=' :: value) ∧
      i = own.toList.length + 2 + inner.length := by
  have hfront : StartsAt own (own.toList ++ '=' :: text) 0 := ⟨[], text, rfl, rfl, by simp⟩
  have hpos : 0 < i := by
    refine Nat.pos_of_ne_zero ?_
    rintro rfl
    exact hne (h.key_unique hkey hown hfront)
  have hgap := hfront.add_lt hown h hpos
  obtain ⟨before, value, htext, rfl, hblank⟩ := h
  obtain rfl | ⟨before, c, rfl⟩ := List.eq_nil_or_concat before
  · exact absurd hpos (Nat.lt_irrefl 0)
  rw [List.concat_eq_append] at htext hblank hgap
  rw [List.append_assoc, List.singleton_append] at htext
  rw [List.length_append, List.length_singleton] at hgap
  have hprefix : (own.toList ++ ['=']) <+: before :=
    List.prefix_of_prefix_length_le ⟨text, by simpa using htext⟩ (List.prefix_append _ _)
      (by simp; omega)
  obtain ⟨inner, rfl⟩ := hprefix
  refine ⟨inner, c, value, hblank c List.getLast?_concat, ?_, by simp; omega⟩
  simpa using htext

/-- A field starts in the text where the first value mentions its key, or where it starts in the
text of the other parameters. -/
theorem startsAt_text_cons_iff (hown : PlainKey p.key) (hkey : PlainKey key) (hne : key ≠ p.key) :
    StartsAt key (Params.text (p :: rest)).toList i ↔
      (∃ n, MentionsAt p.value key n ∧ i = p.key.toList.length + 3 + n) ∨
        ∃ j, StartsAt key (Params.text rest).toList j ∧
          i = (lead p).length + j := by
  rw [toList_text_cons, length_lead]
  constructor
  · intro h
    obtain ⟨inner, c, value, hblank, htext, rfl⟩ := h.exists_blank hown hkey hne
    obtain ⟨as, rfl, hrest⟩ | ⟨as, hwritten, hrest⟩ := List.append_eq_append_iff.mp htext
    · exact .inr ⟨as.length, startsAt_of_following as hblank hrest, by simp; omega⟩
    cases as with
    | nil =>
      rw [List.append_nil] at hwritten
      exact .inr ⟨0, startsAt_of_following [] hblank hrest.symm, by rw [hwritten]; omega⟩
    | cons d as =>
      rw [List.cons_append] at hrest
      obtain ⟨rfl, hpattern⟩ := List.cons.inj hrest
      obtain ⟨before, after, rfl, rfl, hvalue⟩ := written_eq_append_blank hblank hwritten
      rw [List.append_assoc, List.singleton_append] at hpattern
      obtain ⟨after, rfl⟩ := eq_append_of_before_mark hkey (following_head? rest) hpattern
      exact .inl ⟨before.length, ⟨before, c, after, hvalue, hblank, rfl⟩, by simp; omega⟩
  · rintro (⟨n, hmention, rfl⟩ | ⟨j, hstart, rfl⟩)
    · have hmark := hmention.mark
      obtain ⟨before, c, after, hvalue, hblank, rfl⟩ := hmention
      refine ⟨p.key.toList ++ '=' :: '"' :: before ++ [c], after ++ '"' :: following rest, ?_,
        by simp; omega, fun d hd => ?_⟩
      · simp [written, hmark, hvalue]
      · rw [List.getLast?_concat] at hd
        rwa [← Option.some.inj hd]
    · have hlater := hstart.append (c := ' ') (by decide) (p.key.toList ++ '=' :: written p)
      rw [List.append_assoc, List.cons_append, ← hstart.following] at hlater
      convert hlater using 1
      simp
      omega

/-! ## The values that are read -/

theorem bareValue_eq (cs : List Char) : bareValue cs = trimWhile isQuote (trim cs) :=
  rfl

theorem bareValue_written (h : Unquoted p.value) (run : List Char)
    (hrun : ∀ c ∈ run, isBlank c = true) : bareValue (written p ++ run) = p.value.toList := by
  rw [bareValue_eq, trim, trimWhile_append_of_all hrun]
  by_cases hblank : p.value.toList.any isBlank = true
  · have hmark : mark p = ['"'] := if_pos hblank
    have hends : ∀ c, c = '"' → isBlank c = false := by
      rintro c rfl
      decide
    have htrim : trimWhile isBlank (written p) = written p := by
      rw [written, hmark, ← List.append_assoc]
      exact trimWhile_of_ends (fun c hc => hends c (by simpa using hc.symm))
        fun c hc => hends c (Option.some.inj (List.getLast?_concat.symm.trans hc)).symm
    rw [htrim, written, hmark, List.singleton_append, trimWhile_cons_of_pos (by decide),
      trimWhile_append_of_all (by simp; decide), trimWhile_of_ends h.1 h.2]
  · have hnone : ∀ c ∈ p.value.toList, isBlank c = false := by simpa using hblank
    have hwritten : written p = p.value.toList := by simp [written, mark, hblank]
    rw [hwritten, trimWhile_of_ends (fun c hc => hnone c (List.mem_of_mem_head? hc))
      (fun c hc => hnone c (List.mem_of_mem_getLast? hc)), trimWhile_of_ends h.1 h.2]

/-- A value that ends where a field starts inside of it is read as a shorter one. -/
theorem length_bareValue_le (before : List Char) {c : Char} (hblank : isBlank c = true) :
    (bareValue ('"' :: (before ++ [c]))).length ≤ before.length := by
  have htrim : trim ('"' :: (before ++ [c])) = '"' :: dropEndWhile isBlank before := by
    rw [trim, trimWhile_of_head (by simp; decide), ← List.cons_append,
      dropEndWhile_append_of_all (by simpa using hblank)]
    exact dropEndWhile_append_cons (by decide) [] before
  rw [bareValue_eq, htrim, trimWhile_cons_of_pos (by decide)]
  exact Nat.le_trans (length_trimWhile_le _ _) (List.rdropWhile_prefix _ _).length_le

theorem fieldPlaces_nil (keys : List String) : fieldPlaces [] keys = [] := by
  simp [fieldPlaces, fieldStart?, findStart]

theorem drop_key (key : String) (text : List Char) :
    (key.toList ++ '=' :: text).drop (0 + key.toList.length + 1) = text := by
  rw [Nat.zero_add, List.drop_length_add_append, List.drop_succ_cons, List.drop_zero]

/-- Up to a key that it mentions, the first value stands behind its mark and ends in a blank. -/
theorem take_text_of_mentionsAt (h : MentionsAt p.value key n) :
    ∃ before c, isBlank c = true ∧ before.length = n ∧
      (Params.text (p :: rest)).toList.take (p.key.toList.length + 3 + n) =
        p.key.toList ++ '=' :: ('"' :: (before ++ [c])) := by
  have hmark := h.mark
  obtain ⟨before, c, after, hvalue, hblank, rfl⟩ := h
  have htext : (Params.text (p :: rest)).toList =
      (p.key.toList ++ '=' :: ('"' :: (before ++ [c]))) ++
        (key.toList ++ '=' :: after ++ '"' :: following rest) := by
    simp [toList_text_cons, written, hmark, hvalue]
  refine ⟨before, c, hblank, rfl, ?_⟩
  rw [htext]
  exact List.take_left' (by simp; omega)

theorem length_lead_of_mentionsAt (h : MentionsAt p.value key n) :
    p.key.toList.length + 3 + n < (lead p).length := by
  have hlength := h.lt_length
  rw [length_lead, written, h.mark]
  simp
  omega

/-! ## The first field of the text -/

theorem fieldStart?_text_own (hown : PlainKey p.key) :
    fieldStart? (Params.text (p :: rest)).toList p.key = some 0 := by
  rw [toList_text_cons]
  exact fieldStart?_eq_zero hown ⟨[], _, rfl, rfl, by simp⟩

theorem fieldStart?_text_other (hown : PlainKey p.key) (hkey : PlainKey key) (hne : key ≠ p.key)
    (hmention : ¬ Mentions p.value key) :
    fieldStart? (Params.text (p :: rest)).toList key =
      (fieldStart? (Params.text rest).toList key).map ((lead p).length + ·) := by
  refine fieldStart?_eq_add hkey fun i => ?_
  rw [startsAt_text_cons_iff hown hkey hne]
  exact or_iff_right fun ⟨n, hn, _⟩ => hmention ⟨n, hn⟩

section FirstField

variable (hkeys : PlainKeys keys) (hp : p.key ∈ keys)
include hkeys hp

/-- Where the first value mentions no other key, the field of any other key starts in the rest. -/
theorem fieldPlaces_text_cons (hmention : ∀ key ∈ keys, Mentions p.value key → key = p.key) :
    fieldPlaces (Params.text (p :: rest)).toList keys =
      (0, p.key) :: shift (lead p).length
        (fieldPlaces (Params.text rest).toList (keys.erase p.key)) := by
  have hown := hkeys.plain p.key hp
  have hsorted := pairwise_lt_fieldPlaces (hkeys.erase p.key) (Params.text rest).toList
  have hother : ∀ key ∈ keys, key ≠ p.key → fieldStart? (Params.text (p :: rest)).toList key =
      (fieldStart? (Params.text rest).toList key).map ((lead p).length + ·) := fun key hkey hne =>
    fieldStart?_text_other hown (hkeys.plain key hkey) hne fun h => hne (hmention key hkey h)
  refine fieldPlaces_unique hkeys
    (List.pairwise_cons.mpr ⟨?_, pairwise_lt_shift hsorted _⟩) fun i key => ?_
  · rintro ⟨i, key⟩ hplace
    obtain ⟨j, -, rfl⟩ := mem_shift_iff.mp hplace
    rw [length_lead]
    omega
  rw [List.mem_cons, mem_shift_iff, Prod.mk.injEq]
  constructor
  · rintro (⟨rfl, rfl⟩ | ⟨j, hplace, rfl⟩)
    · exact ⟨hp, fieldStart?_text_own hown⟩
    · obtain ⟨hkey, hstart⟩ := mem_fieldPlaces_iff.mp hplace
      obtain ⟨hne, hkey⟩ := hkeys.distinct.mem_erase_iff.mp hkey
      exact ⟨hkey, by rw [hother key hkey hne, hstart]; rfl⟩
  · rintro ⟨hkey, hstart⟩
    by_cases hne : key = p.key
    · subst hne
      rw [fieldStart?_text_own hown] at hstart
      exact .inl ⟨(Option.some.inj hstart).symm, rfl⟩
    · rw [hother key hkey hne] at hstart
      obtain ⟨j, hj, rfl⟩ := Option.map_eq_some_iff.mp hstart
      exact .inr ⟨j, mem_fieldPlaces_iff.mpr ⟨hkeys.distinct.mem_erase_iff.mpr ⟨hne, hkey⟩, hj⟩, rfl⟩

theorem fieldParams_text_cons (hmention : ∀ key ∈ keys, Mentions p.value key → key = p.key)
    (hunquoted : Unquoted p.value) (hrest : ∀ q ∈ rest, q.key ∈ keys.erase p.key) :
    fieldParams (Params.text (p :: rest)).toList keys =
      p :: fieldParams (Params.text rest).toList (keys.erase p.key) := by
  have hothers := hkeys.erase p.key
  rw [fieldParams, fieldPlaces_text_cons hkeys hp hmention, paramsAt]
  cases rest with
  | nil =>
    have hvalue := bareValue_written hunquoted [] (by simp)
    have htext : (Params.text [p]).toList = p.key.toList ++ '=' :: (written p ++ []) :=
      toList_text_cons p []
    have hend : fieldEnd (Params.text [p]).toList [] = (Params.text [p]).toList.length := rfl
    rw [show (Params.text []).toList = [] from rfl, fieldParams, fieldPlaces_nil, shift,
      List.map_nil, hend, List.take_length, htext, drop_key, hvalue, String.ofList_toList]
    rfl
  | cons q rest =>
    -- The next field starts right behind the space.
    have hq := hrest q List.mem_cons_self
    obtain ⟨later, hplaces⟩ :=
      fieldPlaces_eq_cons hothers hq (fieldStart?_text_own (hothers.plain _ hq))
    have hend : fieldEnd (Params.text (p :: q :: rest)).toList (shift (lead p).length
        (fieldPlaces (Params.text (q :: rest)).toList (keys.erase p.key))) = (lead p).length := by
      rw [toList_text_cons_cons, fieldEnd_shift, hplaces]
      rfl
    have hvalue := bareValue_written hunquoted [' '] (by simp; decide)
    rw [hend, toList_text_cons_cons, List.take_left, paramsAt_shift, lead, drop_key, hvalue,
      String.ofList_toList, fieldParams]

/-- Where the first value mentions another key, the second field starts inside of it. -/
theorem fieldPlaces_text_of_mentions (hkey : key ∈ keys) (hne : key ≠ p.key)
    (hmention : Mentions p.value key) :
    ∃ n other later, MentionsAt p.value other n ∧
      fieldPlaces (Params.text (p :: rest)).toList keys =
        (0, p.key) :: (p.key.toList.length + 3 + n, other) :: later := by
  have hown := hkeys.plain p.key hp
  obtain ⟨n, hn⟩ := hmention
  have hstart : StartsAt key (Params.text (p :: rest)).toList (p.key.toList.length + 3 + n) :=
    (startsAt_text_cons_iff hown (hkeys.plain key hkey) hne).mpr (.inl ⟨n, hn, rfl⟩)
  obtain ⟨m, hm, hfirst⟩ := fieldStart?_le (hkeys.plain key hkey) hstart
  obtain ⟨later, hplaces⟩ := fieldPlaces_eq_cons hkeys hp
    (fieldStart?_text_own hown : fieldStart? (Params.text (p :: rest)).toList p.key = some 0)
  have hmem : (m, key) ∈ later := by
    have hmem := mem_fieldPlaces_iff.mpr ⟨hkey, hfirst⟩
    rw [hplaces, List.mem_cons] at hmem
    exact hmem.resolve_left fun heq => hne (Prod.mk.inj heq).2
  cases later with
  | nil => exact absurd hmem List.not_mem_nil
  | cons next later =>
    obtain ⟨m', other⟩ := next
    have hle : m' ≤ m := by
      have hsorted := pairwise_le_fieldPlaces (Params.text (p :: rest)).toList keys
      rw [hplaces] at hsorted
      obtain heq | hlater := List.mem_cons.mp hmem
      · rw [(Prod.mk.inj heq).1]
      · exact (List.pairwise_cons.mp (List.pairwise_cons.mp hsorted).2).1 _ hlater
    have hother : other ≠ p.key := by
      have hdistinct := pairwise_ne_fieldPlaces hkeys (Params.text (p :: rest)).toList
      rw [hplaces] at hdistinct
      exact Ne.symm ((List.pairwise_cons.mp hdistinct).1 _ List.mem_cons_self)
    have hfield := fieldAt_of_mem hkeys (m', other)
      (hplaces ▸ List.mem_cons_of_mem _ List.mem_cons_self)
    obtain ⟨n', hn', rfl⟩ | ⟨j, -, rfl⟩ :=
      (startsAt_text_cons_iff hown hfield.plain hother).mp hfield.starts
    · exact ⟨n', other, later, hn', hplaces⟩
    · have hlead := length_lead_of_mentionsAt hn
      omega

theorem fieldParams_text_ne (hkey : key ∈ keys) (hne : key ≠ p.key)
    (hmention : Mentions p.value key) :
    fieldParams (Params.text (p :: rest)).toList keys ≠ p :: rest := by
  obtain ⟨n, other, later, hother, hplaces⟩ :=
    fieldPlaces_text_of_mentions hkeys hp hkey hne hmention
  obtain ⟨before, c, hblank, rfl, htake⟩ := take_text_of_mentionsAt hother
  intro heq
  rw [fieldParams, hplaces, paramsAt] at heq
  have hread : bareValue ('"' :: (before ++ [c])) = p.value.toList := by
    have hvalue := congrArg (fun q => q.value.toList) (List.cons.inj heq).1
    simp only [String.toList_ofList] at hvalue
    rw [← hvalue, fieldEnd, List.head?_cons, Option.map_some, Option.getD_some, htake, drop_key]
  have hshort := length_bareValue_le before hblank
  rw [hread] at hshort
  exact absurd hother.lt_length (Nat.not_lt.mpr hshort)

end FirstField

/-- Quotation marks protect a value exactly from its own key and from the keys before it. -/
theorem parse_text_eq_iff (ps : Params) (keys : List String) (hps : (ps.map Param.key).Nodup)
    (hkeys : PlainKeys keys) (hknown : ∀ p ∈ ps, p.key ∈ keys)
    (hunquoted : ∀ p ∈ ps, Unquoted p.value) :
    Params.parse ps.text keys = .ok ps ↔ MentionsBack keys ps := by
  rw [parse_eq_fieldParams hkeys, Except.ok.injEq]
  induction ps generalizing keys with
  | nil =>
    have hnone : fieldParams (Params.text []).toList keys = [] := by
      rw [show (Params.text []).toList = [] from rfl, fieldParams, fieldPlaces_nil]
      rfl
    exact iff_of_true hnone fun i hi => absurd hi (Nat.not_lt_zero i)
  | cons p rest ih =>
    obtain ⟨hp, hknown⟩ := List.forall_mem_cons.mp hknown
    obtain ⟨hfirst, hunquoted⟩ := List.forall_mem_cons.mp hunquoted
    rw [List.map_cons, List.nodup_cons] at hps
    have hrest : ∀ q ∈ rest, q.key ∈ keys.erase p.key := fun q hq =>
      hkeys.distinct.mem_erase_iff.mpr ⟨fun heq => hps.1 (heq ▸ List.mem_map_of_mem hq), hknown q hq⟩
    rw [mentionsBack_cons_iff hkeys]
    by_cases hmention : ∀ key ∈ keys, Mentions p.value key → key = p.key
    · rw [fieldParams_text_cons hkeys hp hmention hfirst hrest, List.cons.injEq,
        ih (keys.erase p.key) hps.2 (hkeys.erase _) hrest hunquoted]
      exact and_congr_left' (iff_of_true rfl hmention)
    · refine iff_of_false ?_ fun h => hmention h.1
      push Not at hmention
      obtain ⟨key, hkey, hkeyMention, hne⟩ := hmention
      exact fieldParams_text_ne hkeys hp hkey hne hkeyMention

theorem parse_text_eq_earlier_key :
    Mentions "see timeout=5s " "timeout" ∧
      Params.parse (Params.text [⟨"timeout", "30s"⟩, ⟨"comment", "see timeout=5s "⟩])
        ["comment", "timeout"] = .ok [⟨"timeout", "30s"⟩, ⟨"comment", "see timeout=5s "⟩] :=
  ⟨by decide, (parse_text_eq_iff _ _ (by decide) ⟨by decide, by decide⟩ (by decide)
    (by decide)).mpr (by decide)⟩

/-- Quotation marks do not protect a value from the key of a later parameter. -/
theorem parse_text_ne_later_key :
    ¬ ∀ (ps : Params) (keys : List String), (ps.map Param.key).Nodup → keys.Nodup →
      (∀ key ∈ keys, key ≠ "" ∧ PlainKey key) → (∀ p ∈ ps, p.key ∈ keys) →
      (∀ p ∈ ps, Unquoted p.value) → Params.parse ps.text keys = .ok ps := by
  intro h
  have hprotected := h [⟨"comment", "see timeout=5s"⟩, ⟨"timeout", "30s"⟩] ["comment", "timeout"]
    (by decide) (by decide) (by decide) (by decide) (by decide)
  have hmention : Mentions "see timeout=5s" "timeout" := by decide
  have hkeys : PlainKeys ["comment", "timeout"] := ⟨by decide, by decide⟩
  rw [parse_eq_fieldParams hkeys, Except.ok.injEq] at hprotected
  exact fieldParams_text_ne hkeys (by decide) (by decide) (by decide) hmention hprotected

end HealControl.Settings
