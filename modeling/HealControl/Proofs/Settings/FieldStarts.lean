import HealControl.Settings.Fields

/-!
# Where fields start

The search for a field passes over the text that it has matched. It misses no place for that: an
equals sign ends what it looks for and no key has one, so two occurrences of a key do not overlap.
Fields of different keys do not overlap either, since a field starts after a blank and a key has
none. The places of the fields of a text are therefore distinct, and so in one order only.
-/
namespace HealControl.Settings

open HealControl.Text (isBlank)

/-! ## The first place of a key -/

def PlainKey (key : String) : Prop :=
  ∀ c ∈ key.toList, c ≠ '=' ∧ isBlank c = false

instance (key : String) : Decidable (PlainKey key) :=
  List.decidableBAll (fun c => c ≠ '=' ∧ isBlank c = false) key.toList

structure PlainKeys (keys : List String) : Prop where
  plain : ∀ key ∈ keys, PlainKey key
  distinct : keys.Nodup

theorem PlainKeys.erase {keys : List String} (h : PlainKeys keys) (key : String) :
    PlainKeys (keys.erase key) :=
  ⟨fun _ hother => h.plain _ (List.mem_of_mem_erase hother), h.distinct.erase key⟩

/-- At place `i` of a text the key stands with an equals sign after it, and nothing or a blank
before it. -/
def StartsAt (key : String) (cs : List Char) (i : Nat) : Prop :=
  ∃ before value, cs = before ++ (key.toList ++ '=' :: value) ∧ before.length = i ∧
    ∀ c ∈ before.getLast?, isBlank c = true

def FirstPlace (P : Nat → Prop) : Option Nat → Prop
  | some i => P i ∧ ∀ j < i, ¬ P j
  | none => ∀ i, ¬ P i

theorem FirstPlace.unique {P : Nat → Prop} {a b : Option Nat} (ha : FirstPlace P a)
    (hb : FirstPlace P b) : a = b := by
  cases a with
  | none =>
    cases b with
    | none => rfl
    | some j => exact absurd hb.1 (ha j)
  | some i =>
    cases b with
    | none => exact absurd ha.1 (hb i)
    | some j =>
      have hij : ¬ i < j := fun h => hb.2 i h ha.1
      have hji : ¬ j < i := fun h => ha.2 j h hb.1
      rw [show i = j by omega]

variable {key other : String} {cs : List Char} {i j : Nat}

theorem pattern_prefix_iff {key : String} {cs : List Char} :
    (key.toList ++ ['=']) <+: cs ↔ ∃ value, cs = key.toList ++ '=' :: value := by
  simp [List.IsPrefix, eq_comm]

theorem startsAt_length_iff (before : List Char) :
    StartsAt key (before ++ cs) before.length ↔
      (key.toList ++ ['=']) <+: cs ∧ ∀ c ∈ before.getLast?, isBlank c = true := by
  rw [pattern_prefix_iff]
  constructor
  · rintro ⟨before', value, htext, hlength, hblank⟩
    obtain ⟨rfl, rfl⟩ := List.append_inj htext hlength.symm
    exact ⟨⟨value, rfl⟩, hblank⟩
  · rintro ⟨⟨value, rfl⟩, hblank⟩
    exact ⟨before, value, rfl, rfl, hblank⟩

theorem StartsAt.lt_length (h : StartsAt key cs i) : i + key.toList.length < cs.length := by
  obtain ⟨before, value, rfl, rfl, -⟩ := h
  simp only [List.length_append, List.length_cons]
  omega

/-- Behind a blank a text has the starts that it has alone. -/
theorem StartsAt.append (h : StartsAt key cs i) {c : Char} (hblank : isBlank c = true)
    (text : List Char) : StartsAt key (text ++ c :: cs) (text.length + 1 + i) := by
  obtain ⟨before, value, rfl, rfl, hbefore⟩ := h
  refine ⟨text ++ c :: before, value, by simp, by simp; omega, ?_⟩
  obtain rfl | ⟨before, d, rfl⟩ := List.eq_nil_or_concat before
  · simp [hblank]
  · rw [List.concat_eq_append] at hbefore ⊢
    rw [← List.cons_append, ← List.append_assoc, List.getLast?_concat]
    rwa [List.getLast?_concat] at hbefore

/-- Two occurrences of a key with its equals sign do not overlap. -/
theorem not_pattern_prefix_drop (hkey : PlainKey key) (hcs : (key.toList ++ ['=']) <+: cs)
    (hj : j < key.toList.length) : ¬ (key.toList ++ ['=']) <+: cs.drop (j + 1) := by
  intro hlater
  obtain ⟨value, rfl⟩ := pattern_prefix_iff.mp hcs
  -- The equals sign of the earlier occurrence would stand inside the key of the later one.
  have hmark : (key.toList ++ '=' :: value)[key.toList.length]? = some '=' := by simp
  have hinside := List.prefix_iff_getElem?.mp hlater (key.toList.length - (j + 1))
    (by rw [List.length_append]; omega)
  rw [List.getElem?_drop, show j + 1 + (key.toList.length - (j + 1)) = key.toList.length by omega,
    hmark, List.getElem_append_left (by omega)] at hinside
  exact (hkey _ (List.getElem_mem (by omega))).1 (Option.some.inj hinside).symm

theorem findStart_first (hkey : PlainKey key) (cs before : List Char) (free : Bool) (skip : Nat)
    (hfree : free = true ↔ ∀ c ∈ before.getLast?, isBlank c = true)
    (hbefore : ∀ j < before.length, ¬ StartsAt key (before ++ cs) j)
    (hskip : ∀ j < skip, ¬ (key.toList ++ ['=']) <+: cs.drop j) :
    FirstPlace (StartsAt key (before ++ cs))
      (findStart (key.toList ++ ['=']) free skip before.length cs) := by
  -- The induction is on the text that remains; what has been read moves over to `before`.
  induction cs generalizing before free skip with
  | nil =>
    intro j hstart
    have hlength := hstart.lt_length
    rw [List.append_nil] at hlength
    exact hbefore j (by omega) hstart
  | cons c rest ih =>
    have hnext : ∀ skip', ¬ StartsAt key (before ++ c :: rest) before.length →
        (∀ j < skip', ¬ (key.toList ++ ['=']) <+: rest.drop j) →
        FirstPlace (StartsAt key (before ++ c :: rest))
          (findStart (key.toList ++ ['=']) (isBlank c) skip' (before.length + 1) rest) := by
      intro skip' hhere hskip'
      rw [List.append_cons, show before.length + 1 = (before ++ [c]).length by simp]
      refine ih (before ++ [c]) (isBlank c) skip' (by simp) (fun j hj => ?_) hskip'
      rw [← List.append_cons]
      rw [List.length_append, List.length_singleton] at hj
      obtain hj | rfl : j < before.length ∨ j = before.length := by omega
      · exact hbefore j hj
      · exact hhere
    rw [findStart]
    split
    · next hmatch =>
      obtain ⟨-, hpattern⟩ := hmatch
      rw [List.isPrefixOf_iff_prefix] at hpattern
      cases hfree' : free with
      | true =>
        exact ⟨(startsAt_length_iff before).mpr ⟨hpattern, hfree.mp hfree'⟩, hbefore⟩
      | false =>
        refine hnext _ (fun hstart => ?_) (fun j hj => ?_)
        · have := hfree.mpr ((startsAt_length_iff before).mp hstart).2
          rw [hfree'] at this
          contradiction
        · rw [List.length_append, List.length_singleton] at hj
          exact not_pattern_prefix_drop hkey hpattern (by omega)
    · next hmatch =>
      refine hnext _ (fun hstart => ?_) (fun j hj => hskip (j + 1) (by omega))
      have hpattern := ((startsAt_length_iff before).mp hstart).1
      rw [List.isPrefixOf_iff_prefix] at hmatch
      obtain rfl | hpos := Nat.eq_zero_or_pos skip
      · exact hmatch ⟨rfl, hpattern⟩
      · exact hskip 0 hpos hpattern

/-- The field of a key starts at the first place where it can. -/
theorem fieldStart?_first (hkey : PlainKey key) (cs : List Char) :
    FirstPlace (StartsAt key cs) (fieldStart? cs key) :=
  findStart_first hkey cs [] true 0 (by simp) (by simp) (by simp)

theorem startsAt_of_fieldStart? (hkey : PlainKey key) (h : fieldStart? cs key = some i) :
    StartsAt key cs i := by
  have hfirst := fieldStart?_first hkey cs
  rw [h] at hfirst
  exact hfirst.1

theorem fieldStart?_le (hkey : PlainKey key) (h : StartsAt key cs i) :
    ∃ j ≤ i, fieldStart? cs key = some j := by
  have hfirst := fieldStart?_first hkey cs
  cases hstart : fieldStart? cs key with
  | none =>
    rw [hstart] at hfirst
    exact absurd h (hfirst i)
  | some j =>
    rw [hstart] at hfirst
    exact ⟨j, Nat.le_of_not_lt fun hij => hfirst.2 i hij h, rfl⟩

theorem fieldStart?_eq_zero (hkey : PlainKey key) (h : StartsAt key cs 0) :
    fieldStart? cs key = some 0 := by
  obtain ⟨j, hj, hstart⟩ := fieldStart?_le hkey h
  rw [hstart, Nat.le_zero.mp hj]

/-- If the places of a text are those of another one, `n` further on, so is the first. -/
theorem fieldStart?_eq_add {text : List Char} {n : Nat} (hkey : PlainKey key)
    (h : ∀ i, StartsAt key text i ↔ ∃ j, StartsAt key cs j ∧ i = n + j) :
    fieldStart? text key = (fieldStart? cs key).map (n + ·) := by
  have hfirst := fieldStart?_first hkey cs
  refine (fieldStart?_first hkey text).unique ?_
  cases hstart : fieldStart? cs key with
  | none =>
    rw [hstart] at hfirst
    intro i hi
    obtain ⟨j, hj, -⟩ := (h i).mp hi
    exact hfirst j hj
  | some first =>
    rw [hstart] at hfirst
    refine ⟨(h _).mpr ⟨first, hfirst.1, rfl⟩, fun i hi hstart' => ?_⟩
    obtain ⟨j, hj, rfl⟩ := (h i).mp hstart'
    exact hfirst.2 j (Nat.lt_of_add_lt_add_left hi) hj

/-! ## Places of different keys -/

theorem PlainKey.takeWhile (hkey : PlainKey key) (value : List Char) :
    (key.toList ++ '=' :: value).takeWhile (· != '=') = key.toList := by
  rw [List.takeWhile_append_of_pos fun c hc => by simpa using (hkey c hc).1]
  simp

theorem PlainKey.dropWhile (hkey : PlainKey key) (value : List Char) :
    (key.toList ++ '=' :: value).dropWhile (· != '=') = '=' :: value := by
  rw [List.dropWhile_append_of_pos fun c hc => by simpa using (hkey c hc).1]
  simp

/-- At one place there is one key. -/
theorem StartsAt.key_unique (hkey : PlainKey key) (hother : PlainKey other)
    (h : StartsAt key cs i) (h' : StartsAt other cs i) : key = other := by
  obtain ⟨before, value, rfl, rfl, -⟩ := h
  obtain ⟨before', value', htext, hlength, -⟩ := h'
  obtain ⟨-, htext⟩ := List.append_inj htext hlength.symm
  have hkeys := congrArg (List.takeWhile (· != '=')) htext
  rw [hkey.takeWhile, hother.takeWhile] at hkeys
  exact String.toList_inj.mp hkeys

/-- Nothing starts inside a key, nor right after its equals sign. -/
theorem not_startsAt_inside (hkey : PlainKey key) {before value : List Char}
    (hcs : cs = before ++ (key.toList ++ '=' :: value)) (hbefore : before.length < j)
    (hnear : j ≤ before.length + key.toList.length + 1) : ¬ StartsAt other cs j := by
  rintro ⟨before', value', htext, rfl, hblank⟩
  -- The character before the start would belong to the key or be the equals sign.
  have hlast : (before' ++ (other.toList ++ '=' :: value'))[before'.length - 1]? =
      before'.getLast? := by
    rw [List.getElem?_append_left (by omega), List.getLast?_eq_getElem?]
  have hchar : (before ++ (key.toList ++ '=' :: value))[before'.length - 1]? =
      (key.toList ++ ['='])[before'.length - 1 - before.length]? := by
    rw [List.getElem?_append_right (by omega), List.append_cons,
      List.getElem?_append_left (by simp; omega)]
  rw [← hcs, htext, hlast] at hchar
  have hne : before' ≠ [] := List.ne_nil_of_length_pos (by omega)
  obtain ⟨c, hc⟩ := Option.isSome_iff_exists.mp (List.getLast?_isSome.mpr hne)
  have hc' : c ∈ key.toList ++ ['='] := List.mem_of_getElem? (hchar.symm.trans hc)
  have hcblank : isBlank c = true := hblank c hc
  rw [List.mem_append, List.mem_singleton] at hc'
  obtain hc' | rfl := hc'
  · rw [(hkey c hc').2] at hcblank
    contradiction
  · exact absurd hcblank (by decide)

/-- A field does not start inside the key of another one, nor right after its equals sign. -/
theorem StartsAt.add_lt (hkey : PlainKey key) (h : StartsAt key cs i) (h' : StartsAt other cs j)
    (hij : i < j) : i + key.toList.length + 1 < j := by
  obtain ⟨before, value, hcs, rfl, -⟩ := h
  exact Nat.lt_of_not_le fun hnear => not_startsAt_inside hkey hcs hij hnear h'

end HealControl.Settings
