import Mathlib.Tactic.ByContra
import HealControl.Url.Resolve

/-!
# What is encoded is found again

Decoding takes back what encoding a text does, as long as the percent sign is encoded too. In a path
it is not: there a text is read as it is unless it already holds the code of a byte, and with such a
code it is read as something shorter. The pairs of a form are found again in any case.
-/
namespace HealControl.Url

open HealControl.Text

def startsWithDigits : List Char → Bool
  | a :: b :: _ => (hexValue? a).isSome && (hexValue? b).isSome
  | _ => false

/-- Whether a text holds the code of a byte: a percent sign with two hexadecimal digits. -/
def holdsCode : List Char → Bool
  | [] => false
  | c :: rest => (c == '%' && startsWithDigits rest) || holdsCode rest

def plusToSpace (c : Char) : Char :=
  if c = '+' then ' ' else c

def formBytes (cs : List Char) : List UInt8 :=
  percentDecode (cs.map plusToSpace)

def formDecode (cs : List Char) : List (List UInt8 × List UInt8) :=
  ((cs.splitOn '&').filter fun piece => !piece.isEmpty).map fun piece =>
    (formBytes (piece.takeWhile (· != '=')), formBytes ((piece.dropWhile (· != '=')).drop 1))

section
variable {a b c : Char} {cs ds : List Char} {set : Char → Bool}

/-! ## Hexadecimal digits -/

theorem hexValue?_upperHexDigit {n : Nat} (h : n < 16) : hexValue? (upperHexDigit n) = some n := by
  revert n
  decide

theorem ofNat_digits (b : UInt8) : UInt8.ofNat (16 * (b.toNat / 16) + b.toNat % 16) = b := by
  rw [Nat.div_add_mod, UInt8.ofNat_toNat]

theorem toNat_lt_of_hexValue? (h : (hexValue? c).isSome) : c.toNat < 0x67 := by
  by_contra hlarge
  have hnone : hexValue? c = none := by
    rw [hexValue?, if_neg (by omega), if_neg (by omega), if_neg (by omega)]
  simp [hnone] at h

/-- A hexadecimal digit stands for itself wherever something is encoded. -/
theorem plain_of_hexValue? (h : (hexValue? c).isSome) :
    inPathSet c = false ∧ isFormChar c = true := by
  have hall : ∀ n < 0x67, (hexValue? (Char.ofNat n)).isSome →
      inPathSet (Char.ofNat n) = false ∧ isFormChar (Char.ofNat n) = true := by decide
  have hdigit := hall c.toNat (toNat_lt_of_hexValue? h)
  rw [Char.ofNat_toNat] at hdigit
  exact hdigit h

theorem startsWithDigits_cons_of_none (hc : hexValue? c = none) :
    startsWithDigits (c :: cs) = false := by
  cases cs <;> simp [startsWithDigits, hc]

theorem startsWithDigits_append_cons (hc : hexValue? c = none) :
    startsWithDigits (cs ++ c :: ds) = startsWithDigits cs := by
  match cs with
  | [] => exact startsWithDigits_cons_of_none hc
  | [a] => simp [startsWithDigits, hc]
  | a :: b :: rest => rfl

theorem startsWithDigits_append_of (h : startsWithDigits cs) : startsWithDigits (cs ++ ds) := by
  match cs with
  | [] => contradiction
  | [a] => contradiction
  | a :: b :: rest => exact h

/-! ## Decoding -/

theorem percentDecode_code {x y : Nat} (ha : hexValue? a = some x) (hb : hexValue? b = some y) :
    percentDecode ('%' :: a :: b :: cs) = UInt8.ofNat (16 * x + y) :: percentDecode cs := by
  simp [percentDecode, ha, hb]

/-- A character that is not the percent sign of a code stands for its own bytes. -/
theorem percentDecode_cons (h : c = '%' → startsWithDigits cs = false) :
    percentDecode (c :: cs) = Utf8.encodeChar c ++ percentDecode cs := by
  by_cases hc : c = '%'
  · subst hc
    match cs, h rfl with
    | [], _ => rfl
    | [a], _ => rfl
    | a :: b :: rest, hdigits =>
      rw [startsWithDigits, Bool.and_eq_false_iff] at hdigits
      cases ha : hexValue? a <;> cases hb : hexValue? b <;>
        simp_all [percentDecode, Utf8.encodeChar]
  · rw [percentDecode]
    exact fun a b rest heq => absurd heq hc

theorem percentDecode_cons_of_ne (h : c ≠ '%') :
    percentDecode (c :: cs) = Utf8.encodeChar c ++ percentDecode cs :=
  percentDecode_cons fun hc => absurd hc h

/-- A text is read code by code and character by character. -/
@[elab_as_elim]
theorem percentDecode_induction {motive : List Char → Prop} (nil : motive [])
    (code : ∀ a b rest x y, hexValue? a = some x → hexValue? b = some y → motive rest →
      motive ('%' :: a :: b :: rest))
    (char : ∀ c rest, (c = '%' → startsWithDigits rest = false) → motive rest →
      motive (c :: rest)) (cs : List Char) : motive cs := by
  induction cs using percentDecode.induct with
  | case1 => exact nil
  | case2 a b rest x y hb ha ih => exact code a b rest x y ha hb ih
  | case3 a b rest hno ih =>
    refine char '%' (a :: b :: rest) (fun _ => ?_) ih
    cases ha : hexValue? a with
    | none => simp [startsWithDigits, ha]
    | some x =>
      cases hb : hexValue? b with
      | none => simp [startsWithDigits, hb]
      | some y => exact (hno x y ha hb).elim
  | case4 c rest hno ih =>
    refine char c rest (fun hc => ?_) ih
    match rest with
    | [] => rfl
    | [a] => rfl
    | a :: b :: after => exact (hno a b after hc rfl).elim

theorem percentDecode_append_cons (hc : hexValue? c = none) (cs ds : List Char) :
    percentDecode (cs ++ c :: ds) = percentDecode cs ++ percentDecode (c :: ds) := by
  induction cs using percentDecode_induction with
  | nil => rfl
  | code a b rest x y ha hb ih =>
    simp only [List.cons_append, percentDecode_code ha hb, ih]
  | char d rest hd ih =>
    have hd' : d = '%' → startsWithDigits (rest ++ c :: ds) = false := fun h => by
      rw [startsWithDigits_append_cons hc, hd h]
    rw [List.cons_append, percentDecode_cons hd, percentDecode_cons hd', ih, List.append_assoc]

/-! ## Encoded texts -/

theorem percentDecode_bytes (bs : List UInt8) (cs : List Char) :
    percentDecode (bs.flatMap percentByte ++ cs) = bs ++ percentDecode cs := by
  induction bs with
  | nil => rfl
  | cons b bs ih =>
    have hb := b.toNat_lt
    have hhigh := hexValue?_upperHexDigit (n := b.toNat / 16) (by omega)
    have hlow := hexValue?_upperHexDigit (n := b.toNat % 16) (by omega)
    rw [List.flatMap_cons, percentByte]
    simp only [List.cons_append, List.nil_append, percentDecode_code hhigh hlow, ofNat_digits, ih]

theorem percentEncode_cons (c : Char) (cs : List Char) :
    percentEncode set (c :: cs) = percentChar set c ++ percentEncode set cs :=
  List.flatMap_cons

theorem percentChar_of_plain (hc : set c = false) : percentChar set c = [c] := by
  rw [percentChar, hc]
  rfl

/-- A character is found again, encoded or not, unless it is taken for the percent sign of a
code. -/
theorem percentDecode_percentChar
    (h : c = '%' → set c = false → startsWithDigits cs = false) :
    percentDecode (percentChar set c ++ cs) = Utf8.encodeChar c ++ percentDecode cs := by
  cases hc : set c with
  | true => rw [percentChar, hc, if_pos rfl, percentDecode_bytes]
  | false =>
    rw [percentChar_of_plain hc]
    exact percentDecode_cons fun h' => h h' hc

theorem percentDecode_percentEncode (hset : set '%' = true) (cs : List Char) :
    percentDecode (percentEncode set cs) = Utf8.encode cs := by
  induction cs with
  | nil => rfl
  | cons c cs ih =>
    have hc : c = '%' → set c = false → startsWithDigits (percentEncode set cs) = false := by
      rintro rfl hplain
      simp [hset] at hplain
    rw [percentEncode_cons, percentDecode_percentChar hc, ih, Utf8.encode_cons]

/-! ## Paths -/

theorem hexValue?_of_inPathSet (hc : inPathSet c = true) : hexValue? c = none := by
  by_contra hdigit
  have hplain := (plain_of_hexValue? (Option.isSome_iff_ne_none.mpr hdigit)).1
  simp [hc] at hplain

theorem percentEncode_cons_of_set (hc : set c = true) (cs : List Char) :
    ∃ more, percentEncode set (c :: cs) = '%' :: more := by
  obtain ⟨b, bs, hbytes⟩ := List.exists_cons_of_length_pos (Utf8.length_encodeChar_pos c)
  rw [percentEncode_cons, percentChar, if_pos hc, hbytes, List.flatMap_cons, percentByte]
  exact ⟨_, rfl⟩

/-- Encoding a path neither makes a code of a percent sign nor breaks one. -/
theorem startsWithDigits_percentEncode (cs : List Char) :
    startsWithDigits (percentEncode inPathSet cs) = startsWithDigits cs := by
  have hpercent : hexValue? '%' = none := by decide
  match cs with
  | [] => rfl
  | a :: rest =>
    cases ha : inPathSet a with
    | true =>
      obtain ⟨more, hmore⟩ := percentEncode_cons_of_set ha rest
      rw [hmore, startsWithDigits_cons_of_none hpercent,
        startsWithDigits_cons_of_none (hexValue?_of_inPathSet ha)]
    | false =>
      rw [percentEncode_cons, percentChar_of_plain ha]
      match rest with
      | [] => rfl
      | b :: rest =>
        cases hb : inPathSet b with
        | true =>
          obtain ⟨more, hmore⟩ := percentEncode_cons_of_set hb rest
          simp [hmore, startsWithDigits, hpercent, hexValue?_of_inPathSet hb]
        | false =>
          rw [percentEncode_cons, percentChar_of_plain hb]
          rfl

/-- The text of a path is read like the text that it encodes. -/
theorem percentDecode_path (cs : List Char) :
    percentDecode (percentEncode inPathSet cs) = percentDecode cs := by
  induction cs using percentDecode_induction with
  | nil => rfl
  | code a b rest x y ha hb ih =>
    have hplain : ∀ {c : Char} {n : Nat}, hexValue? c = some n → inPathSet c = false :=
      fun hc => (plain_of_hexValue? (by simp [hc])).1
    rw [percentEncode_cons, percentEncode_cons, percentEncode_cons,
      percentChar_of_plain (c := '%') rfl, percentChar_of_plain (hplain ha),
      percentChar_of_plain (hplain hb)]
    simp only [List.cons_append, List.nil_append, percentDecode_code ha hb, ih]
  | char c rest hc ih =>
    rw [percentEncode_cons, percentDecode_cons hc, percentDecode_percentChar, ih]
    intro h _
    rw [startsWithDigits_percentEncode, hc h]

theorem holdsCode_mono (h : cs <:+: ds) (hcode : holdsCode cs = true) :
    holdsCode ds = true := by
  obtain ⟨before, after, rfl⟩ := h
  have hbefore : holdsCode (before ++ cs) = true := by
    induction before with
    | nil => exact hcode
    | cons c before ih => rw [List.cons_append, holdsCode, ih, Bool.or_true]
  generalize before ++ cs = front at hbefore
  induction front with
  | nil => contradiction
  | cons c front ih =>
    rw [holdsCode, Bool.or_eq_true, Bool.and_eq_true] at hbefore
    rw [List.cons_append, holdsCode, Bool.or_eq_true, Bool.and_eq_true]
    exact hbefore.imp (And.imp_right startsWithDigits_append_of) ih

theorem percentDecode_of_noCode (h : holdsCode cs = false) :
    percentDecode cs = Utf8.encode cs := by
  induction cs with
  | nil => rfl
  | cons c rest ih =>
    rw [holdsCode, Bool.or_eq_false_iff, Bool.and_eq_false_imp] at h
    rw [percentDecode_cons fun hc => h.1 (by simp [hc]), ih h.2, Utf8.encode_cons]

theorem length_percentDecode_le (cs : List Char) :
    (percentDecode cs).length ≤ (Utf8.encode cs).length := by
  induction cs using percentDecode_induction with
  | nil => exact Nat.le_refl 0
  | code a b rest x y ha hb ih =>
    simp only [percentDecode_code ha hb, Utf8.encode_cons, List.length_cons, List.length_append]
    have := Utf8.length_encodeChar_pos '%'
    omega
  | char c rest hc ih =>
    simp only [percentDecode_cons hc, Utf8.encode_cons, List.length_append]
    omega

/-- A code stands for a single byte, and is three bytes long itself. -/
theorem length_percentDecode_lt (h : holdsCode cs = true) :
    (percentDecode cs).length < (Utf8.encode cs).length := by
  induction cs using percentDecode_induction with
  | nil => contradiction
  | code a b rest x y ha hb ih =>
    have := length_percentDecode_le rest
    have := Utf8.length_encodeChar_pos '%'
    have := Utf8.length_encodeChar_pos a
    simp only [percentDecode_code ha hb, Utf8.encode_cons, List.length_cons, List.length_append]
    omega
  | char c rest hc ih =>
    have hrest : holdsCode rest = true := by
      rw [holdsCode, Bool.or_eq_true, Bool.and_eq_true] at h
      refine h.resolve_left ?_
      rintro ⟨heq, hdigits⟩
      simp [hc (by simpa using heq)] at hdigits
    have := ih hrest
    simp only [percentDecode_cons hc, Utf8.encode_cons, List.length_append]
    omega

/-! ## Forms -/

theorem mem_flatMap_percentByte {bs : List UInt8} (h : c ∈ bs.flatMap percentByte) :
    c = '%' ∨ isFormChar c = true := by
  obtain ⟨b, -, hc⟩ := List.mem_flatMap.mp h
  have hb := b.toNat_lt
  have hdigit : ∀ n < 16, isFormChar (upperHexDigit n) = true := fun n hn =>
    (plain_of_hexValue? (by simp [hexValue?_upperHexDigit hn])).2
  simp only [percentByte, List.mem_cons, List.not_mem_nil, or_false] at hc
  rcases hc with rfl | rfl | rfl
  · exact .inl rfl
  · exact .inr (hdigit _ (by omega))
  · exact .inr (hdigit _ (by omega))

theorem mem_formChar {d : Char} (h : d ∈ formChar c) :
    d = '%' ∨ d = '+' ∨ isFormChar d = true := by
  rw [formChar] at h
  split at h
  · next hplain => exact .inr (.inr (List.mem_singleton.mp h ▸ hplain))
  · split at h
    · exact .inr (.inl (List.mem_singleton.mp h))
    · exact (mem_flatMap_percentByte h).imp_right .inr

theorem plusToSpace_of_isFormChar (h : isFormChar c = true) : plusToSpace c = c :=
  if_neg fun hc => absurd (hc ▸ h) (by decide)

/-- Once its plus signs are read as spaces, a value is its text with a set of characters
encoded. -/
theorem map_plusToSpace_formChar (c : Char) : (formChar c).map plusToSpace =
    percentChar (fun c => !isFormChar c && c != ' ') c := by
  by_cases hplain : isFormChar c = true
  · rw [formChar, if_pos hplain, percentChar, if_neg (by simp [hplain]), List.map_singleton,
      plusToSpace_of_isFormChar hplain]
  by_cases hspace : c = ' '
  · subst hspace
    rfl
  have hbytes : ∀ d ∈ (Utf8.encodeChar c).flatMap percentByte, plusToSpace d = id d := by
    intro d hd
    rcases mem_flatMap_percentByte hd with rfl | hd
    · rfl
    · exact plusToSpace_of_isFormChar hd
  rw [formChar, if_neg hplain, if_neg hspace, percentChar, if_pos (by simp [hplain, hspace]),
    List.map_congr_left hbytes, List.map_id]

theorem formBytes_formEncode (s : String) : formBytes (formEncode s) = Utf8.bytes s := by
  rw [formBytes, formEncode, List.map_flatMap]
  simp only [map_plusToSpace_formChar]
  exact percentDecode_percentEncode (by decide) s.toList

theorem not_mem_formEncode {s : String} (hplus : c ≠ '+') (hpercent : c ≠ '%')
    (hplain : isFormChar c = false) : c ∉ formEncode s := by
  intro h
  obtain ⟨d, -, hd⟩ := List.mem_flatMap.mp h
  rcases mem_formChar hd with h | h | h
  · exact hpercent h
  · exact hplus h
  · simp [hplain] at h

theorem not_mem_formPair (pair : String × String) : '&' ∉ formPair pair := by
  have hvalue : ∀ s, '&' ∉ formEncode s := fun s =>
    not_mem_formEncode (by decide) (by decide) (by decide)
  simp [formPair, hvalue]

theorem formPair_ne_nil (pair : String × String) : formPair pair ≠ [] := by
  simp [formPair]

theorem formPairs_of_ne_nil (h : cs ≠ []) (pairs : List (String × String)) :
    formPairs cs pairs = cs ++ pairs.flatMap fun pair => '&' :: formPair pair := by
  induction pairs generalizing cs with
  | nil => exact (List.append_nil cs).symm
  | cons pair rest ih =>
    have hne : cs.isEmpty = false := by simpa using h
    rw [formPairs, ih (by simp [formPair_ne_nil]), hne, List.flatMap_cons]
    simp

theorem splitOn_formPairs (pair : String × String) (pairs : List (String × String)) :
    (formPair pair ++ pairs.flatMap fun pair => '&' :: formPair pair).splitOn '&' =
      formPair pair :: pairs.map formPair := by
  have hplain : ∀ pair : String × String, ∀ c ∈ formPair pair, (c == '&') = false :=
    fun pair c hc => by simpa using fun h : c = '&' => not_mem_formPair pair (h ▸ hc)
  induction pairs generalizing pair with
  | nil =>
    rw [List.flatMap_nil, List.append_nil]
    exact List.splitOnP_eq_singleton (hplain pair)
  | cons next rest ih =>
    have hrest := ih next
    rw [List.splitOn] at hrest ⊢
    rw [List.flatMap_cons, List.cons_append,
      List.splitOnP_append_cons_of_forall_mem (hplain pair) '&' rfl, hrest, List.map_cons]

theorem formDecode_formPairs (pairs : List (String × String)) :
    formDecode (formPairs [] pairs) =
      pairs.map fun pair => (Utf8.bytes pair.1, Utf8.bytes pair.2) := by
  have hpiece : ∀ pair : String × String,
      (formBytes ((formPair pair).takeWhile (· != '=')),
        formBytes (((formPair pair).dropWhile (· != '=')).drop 1)) =
      (Utf8.bytes pair.1, Utf8.bytes pair.2) := by
    intro pair
    have hkey : ∀ c ∈ formEncode pair.1, (c != '=') = true := fun c hc => by
      have hnot := not_mem_formEncode (c := '=') (s := pair.1) (by decide) (by decide) (by decide)
      simpa using fun h : c = '=' => hnot (h ▸ hc)
    rw [formPair, List.takeWhile_append_of_pos hkey, List.dropWhile_append_of_pos hkey]
    simp [formBytes_formEncode]
  cases pairs with
  | nil => rfl
  | cons pair rest =>
    rw [formPairs, formPairs_of_ne_nil (by simp [formPair_ne_nil])]
    simp only [List.isEmpty_nil, if_true, List.nil_append, formDecode, splitOn_formPairs]
    rw [← List.map_cons (f := formPair), List.filter_map, List.filter_eq_self.mpr, List.map_map]
    · exact List.map_congr_left fun pair _ => hpiece pair
    · intro pair _
      simpa using formPair_ne_nil pair

end

end HealControl.Url
