import Mathlib.Algebra.Ring.Nat
import Mathlib.Data.List.Flatten
import HealControl.Proofs.Text.Trimming
import HealControl.Proofs.Url.Decoding

/-!
# Paths that are spelled out

The text of a path is read as what it says exactly if no character and no part of it means something
else in a URL. A backslash is taken for a slash. Whatever else has another meaning makes the path
shorter, and nothing ever makes up for it.
-/
namespace HealControl.Url

open HealControl.Text

/-- No character and no part of a path means something else in a URL. -/
structure SpelledOut (cs : List Char) : Prop where
  noTail : ∀ c ∈ cs, startsTail c = false
  noBackslash : '\\' ∉ cs
  noHidden : ∀ c ∈ cs, isHidden c = false
  noCode : holdsCode cs = false
  noDots : ∀ part ∈ cs.splitOn '/', part ≠ ['.'] ∧ part ≠ ['.', '.']
  noBlankEnd : ∀ c ∈ cs.getLast?, isOuterBlank c = false

def isSpelledOut (cs : List Char) : Bool :=
  cs.all (fun c => !startsTail c && c != '\\' && !isHidden c) && !holdsCode cs &&
    (cs.splitOn '/').all (fun part => part != ['.'] && part != ['.', '.']) &&
    cs.getLast?.all fun c => !isOuterBlank c

theorem isSpelledOut_iff {cs : List Char} : isSpelledOut cs = true ↔ SpelledOut cs := by
  simp only [isSpelledOut, Bool.and_eq_true, List.all_eq_true, Option.all_eq_true,
    Bool.not_eq_true', bne_iff_ne]
  constructor
  · rintro ⟨⟨⟨hchars, hcode⟩, hdots⟩, hblank⟩
    exact ⟨fun c hc => (hchars c hc).1.1, fun hc => (hchars _ hc).1.2 rfl,
      fun c hc => (hchars c hc).2, hcode, hdots, hblank⟩
  · rintro ⟨htail, hback, hhidden, hcode, hdots, hblank⟩
    exact ⟨⟨⟨fun c hc => ⟨⟨htail c hc, fun h => hback (h ▸ hc)⟩, hhidden c hc⟩, hcode⟩, hdots⟩,
      hblank⟩

instance : DecidablePred SpelledOut := fun _ => decidable_of_iff _ isSpelledOut_iff

def isDots (segment : List Char) : Bool :=
  isSingleDot segment || isDoubleDot segment

def segmentOf (part : List Char) : List Char :=
  percentEncode inPathSet (visible part)

/-- The number of bytes that segments stand for, each with its slash. -/
def readLength (segments : List (List Char)) : Nat :=
  (segments.map fun segment => (percentDecode segment).length + 1).sum

def slashed (cs : List Char) : List Char :=
  cs.map fun c => if isSlash .special c then '/' else c

section
variable {c : Char} {cs ds segment : List Char} {segments parts : List (List Char)}
  {r : PathReader}

/-! ## Dots -/

theorem eq_nil_of_undot_eq_nil (h : undot segment = []) : segment = [] := by
  unfold undot at h
  split at h <;> simp_all

/-- A dot that may be encoded is read as a dot. -/
theorem percentDecode_of_undot_eq_cons (h : undot segment = '.' :: ds) :
    ∃ rest, undot rest = ds ∧ percentDecode segment = 0x2E :: percentDecode rest := by
  unfold undot at h
  split at h
  · next rest => exact ⟨rest, (List.cons.inj h).2, percentDecode_code (x := 2) (y := 14) rfl rfl⟩
  · next rest => exact ⟨rest, (List.cons.inj h).2, percentDecode_code (x := 2) (y := 14) rfl rfl⟩
  · next c rest _ _ =>
    obtain ⟨rfl, hrest⟩ := List.cons.inj h
    exact ⟨rest, hrest, percentDecode_cons_of_ne (by decide)⟩
  · contradiction

theorem percentDecode_of_isDots (h : isDots segment = true) :
    percentDecode segment = [0x2E] ∨ percentDecode segment = [0x2E, 0x2E] := by
  rw [isDots, Bool.or_eq_true, isSingleDot, isDoubleDot, beq_iff_eq, beq_iff_eq] at h
  rcases h with h | h <;> obtain ⟨rest, hrest, hdecode⟩ := percentDecode_of_undot_eq_cons h
  · rw [hdecode, eq_nil_of_undot_eq_nil hrest]
    exact .inl rfl
  · obtain ⟨more, hmore, hsecond⟩ := percentDecode_of_undot_eq_cons hrest
    rw [hdecode, hsecond, eq_nil_of_undot_eq_nil hmore]
    exact .inr rfl

/-! ## Reading a path -/

theorem keep_special (r : PathReader) (segment : List Char) :
    r.keep .special segment = { r with segments := segment :: r.segments } :=
  if_neg fun h => by simp at h

theorem readLength_cons (segment : List Char) (segments : List (List Char)) :
    readLength (segment :: segments) = (percentDecode segment).length + 1 + readLength segments :=
  rfl

theorem readLength_parent_le (segments : List (List Char)) :
    readLength (parent segments) ≤ readLength segments := by
  cases segments with
  | nil => exact Nat.le_refl _
  | cons segment rest =>
    rw [parent]
    split
    · exact Nat.le_refl _
    · exact Nat.le_add_left _ _

theorem push_of_not_isDots (h : isDots segment = false) :
    r.push .special segment = { r with segments := segment :: r.segments } := by
  rw [isDots, Bool.or_eq_false_iff] at h
  simp [PathReader.push, h, keep_special]

theorem finish_of_not_isDots (h : isDots segment = false) :
    r.finish .special segment = { r with segments := segment :: r.segments } := by
  rw [isDots, Bool.or_eq_false_iff] at h
  simp [PathReader.finish, h, keep_special]

theorem readLength_push_of_isDots (h : isDots segment = true) :
    readLength (r.push .special segment).segments ≤ readLength r.segments := by
  rw [isDots, Bool.or_eq_true] at h
  rw [PathReader.push]
  split
  · exact readLength_parent_le r.segments
  · next hdouble => rw [if_pos (h.resolve_right hdouble)]

/-- Dots at the end leave an empty segment, which is its slash. -/
theorem readLength_finish_of_isDots (h : isDots segment = true) :
    readLength (r.finish .special segment).segments ≤ 1 + readLength r.segments := by
  rw [isDots, Bool.or_eq_true] at h
  rw [PathReader.finish]
  split
  · exact Nat.add_le_add_left (readLength_parent_le r.segments) 1
  · next hdouble =>
    rw [if_pos (h.resolve_right hdouble)]
    exact Nat.le_refl _

theorem readLength_push_le (r : PathReader) (segment : List Char) :
    readLength (r.push .special segment).segments + (if isDots segment then 1 else 0) ≤
      readLength r.segments + ((percentDecode segment).length + 1) := by
  cases h : isDots segment with
  | false =>
    rw [push_of_not_isDots h, readLength_cons]
    simp only [Bool.false_eq_true, if_false]
    omega
  | true =>
    have hpush := readLength_push_of_isDots (r := r) h
    rw [if_pos rfl]
    omega

theorem readLength_finish_le (r : PathReader) (segment : List Char) :
    readLength (r.finish .special segment).segments + (if isDots segment then 1 else 0) ≤
      readLength r.segments + ((percentDecode segment).length + 1) := by
  cases h : isDots segment with
  | false =>
    rw [finish_of_not_isDots h, readLength_cons]
    simp only [Bool.false_eq_true, if_false]
    omega
  | true =>
    have hfinish := readLength_finish_of_isDots (r := r) h
    have hdots : 1 ≤ (percentDecode segment).length := by
      rcases percentDecode_of_isDots h with h | h <;> rw [h] <;> decide
    rw [if_pos rfl]
    omega

theorem pushAll_special_cons (r : PathReader) (part : List Char) (parts : List (List Char)) :
    r.pushAll .special (part :: parts) =
      if parts.isEmpty then r.finish .special (segmentOf part)
      else (r.push .special (segmentOf part)).pushAll .special parts := by
  rw [PathReader.pushAll]
  rfl

/-- Without dots every part becomes a segment. -/
theorem segments_pushAll (h : ∀ part ∈ parts, isDots (segmentOf part) = false) (r : PathReader) :
    (r.pushAll .special parts).segments = (parts.map segmentOf).reverse ++ r.segments := by
  induction parts generalizing r with
  | nil => rfl
  | cons part rest ih =>
    rw [List.forall_mem_cons] at h
    rw [pushAll_special_cons, finish_of_not_isDots h.1, push_of_not_isDots h.1]
    cases rest with
    | nil => rfl
    | cons next rest => simp [ih h.2]

/-- Each part of dots makes a path shorter. -/
theorem readLength_pushAll_le (r : PathReader) (parts : List (List Char)) :
    readLength (r.pushAll .special parts).segments +
        parts.countP (fun part => isDots (segmentOf part)) ≤
      readLength r.segments + readLength (parts.map segmentOf) := by
  induction parts generalizing r with
  | nil => exact Nat.le_refl _
  | cons part rest ih =>
    rw [pushAll_special_cons, List.countP_cons, List.map_cons, readLength_cons]
    cases rest with
    | nil =>
      have hfinish := readLength_finish_le r (segmentOf part)
      simp only [List.isEmpty_nil, if_true, List.countP_nil, List.map_nil]
      omega
    | cons next rest =>
      have hpush := readLength_push_le r (segmentOf part)
      have hrest := ih (r.push .special (segmentOf part))
      simp only [List.isEmpty_cons, Bool.false_eq_true, if_false]
      omega

/-! ## The text of segments -/

theorem text_segments_nil : Path.text (.segments []) = [] := rfl

theorem text_segments_cons (segment : List Char) (segments : List (List Char)) :
    Path.text (.segments (segment :: segments)) =
      '/' :: (segment ++ Path.text (.segments segments)) :=
  List.flatMap_cons

theorem length_percentDecode_text (segments : List (List Char)) :
    (percentDecode (Path.text (.segments segments))).length = readLength segments := by
  induction segments with
  | nil => rfl
  | cons segment rest ih =>
    have hsplit : percentDecode (segment ++ Path.text (.segments rest)) =
        percentDecode segment ++ percentDecode (Path.text (.segments rest)) := by
      cases rest with
      | nil => simp [text_segments_nil, percentDecode]
      | cons next rest =>
        rw [text_segments_cons]
        exact percentDecode_append_cons (by decide) segment _
    rw [text_segments_cons, percentDecode_cons_of_ne (by decide), hsplit, readLength_cons,
      Utf8.encodeChar_of_lt (by decide), ← ih]
    simp only [List.length_append, List.length_singleton]
    omega

theorem slashed_cons (c : Char) (cs : List Char) :
    slashed (c :: cs) = (if isSlash .special c then '/' else c) :: slashed cs :=
  List.map_cons

theorem slashed_slash (cs : List Char) : slashed ('/' :: cs) = '/' :: slashed cs := rfl

/-- The parts of a text with a slash before each are that text, with slashes for backslashes. -/
theorem flatMap_splitOnP (cs : List Char) :
    ((cs.splitOnP (isSlash .special)).flatMap fun part => '/' :: part) =
      slashed ('/' :: cs) := by
  rw [slashed_slash]
  induction cs with
  | nil => rfl
  | cons c cs ih =>
    rw [List.splitOnP_cons_eq_if_modifyHead, slashed_cons]
    by_cases hc : isSlash .special c = true
    · rw [if_pos hc, if_pos hc, List.flatMap_cons, ih]
      rfl
    · obtain ⟨part, parts, hparts⟩ :=
        List.exists_cons_of_ne_nil (List.splitOnP_ne_nil (isSlash .special) cs)
      rw [hparts, List.flatMap_cons, List.cons_append, List.cons.injEq] at ih
      rw [if_neg hc, if_neg hc, hparts, List.modifyHead_cons, List.flatMap_cons, ← ih.2]
      rfl

theorem text_map_segmentOf (cs : List Char) :
    Path.text (.segments ((cs.splitOnP (isSlash .special)).map segmentOf)) =
      percentEncode inPathSet (visible (slashed ('/' :: cs))) := by
  rw [← flatMap_splitOnP, visible, List.filter_flatMap, percentEncode, List.flatMap_assoc,
    Path.text, List.flatMap_map]
  rfl

/-! ## Texts that are shortened -/

theorem eq_of_sublist_of_length_encode (h : ds.Sublist cs)
    (hlength : (Utf8.encode cs).length ≤ (Utf8.encode ds).length) : ds = cs :=
  Utf8.encode_injective ((h.flatMap Utf8.encodeChar).eq_of_length_le hlength)

theorem isSlash_special_iff (c : Char) : isSlash .special c = true ↔ c = '/' ∨ c = '\\' := by
  simp [isSlash]

theorem length_encode_slashed (cs : List Char) :
    (Utf8.encode (slashed cs)).length = (Utf8.encode cs).length := by
  induction cs with
  | nil => rfl
  | cons c cs ih =>
    have hc : (Utf8.encodeChar (if isSlash .special c then '/' else c)).length =
        (Utf8.encodeChar c).length := by
      split
      · next hslash =>
        rcases (isSlash_special_iff c).mp hslash with rfl | rfl <;> rfl
      · rfl
    rw [slashed_cons, Utf8.encode_cons, Utf8.encode_cons, List.length_append,
      List.length_append, hc, ih]

theorem slashed_eq_self_iff : slashed cs = cs ↔ '\\' ∉ cs := by
  constructor
  · intro h hmem
    rw [← h, slashed, List.mem_map] at hmem
    obtain ⟨c, -, hc⟩ := hmem
    split at hc
    · contradiction
    · next hslash => exact hslash (hc ▸ rfl)
  · intro h
    have hself : ∀ c ∈ cs, (if isSlash .special c then '/' else c) = id c := by
      intro c hc
      split
      · next hslash =>
        rcases (isSlash_special_iff c).mp hslash with rfl | rfl
        · rfl
        · exact absurd hc h
      · rfl
    rw [slashed, List.map_congr_left hself, List.map_id]

theorem splitOnP_isSlash (h : '\\' ∉ cs) : cs.splitOnP (isSlash .special) = cs.splitOn '/' := by
  rw [List.splitOn]
  induction cs with
  | nil => rfl
  | cons c cs ih =>
    rw [List.mem_cons, not_or] at h
    have hc : isSlash .special c = (c == '/') := by simp [isSlash, Ne.symm h.1]
    rw [List.splitOnP_cons_eq_if_modifyHead, List.splitOnP_cons_eq_if_modifyHead, ih h.2, hc]

/-! ## A text as a path -/

def pathRest (cs : List Char) : List Char :=
  (dropEndWhile isOuterBlank cs).takeWhile fun c => !startsTail c

theorem prefix_pathRest_self (cs : List Char) : pathRest cs <+: cs :=
  (List.takeWhile_prefix _).trans (List.rdropWhile_prefix _ _)

theorem pathRest_eq_self_iff : pathRest cs = cs ↔
    (∀ c ∈ cs, startsTail c = false) ∧ ∀ c ∈ cs.getLast?, isOuterBlank c = false := by
  rw [← dropEndWhile_eq_self_iff]
  constructor
  · intro h
    have hlength : cs.length ≤ (dropEndWhile isOuterBlank cs).length :=
      calc cs.length = (pathRest cs).length := by rw [h]
        _ ≤ (dropEndWhile isOuterBlank cs).length := (List.takeWhile_prefix _).length_le
    have hkept := (List.rdropWhile_prefix isOuterBlank cs).eq_of_length_le hlength
    rw [pathRest, dropEndWhile_eq_rdropWhile, hkept, List.takeWhile_eq_self_iff] at h
    exact ⟨fun c hc => by simpa using h c hc, hkept⟩
  · rintro ⟨htail, hkept⟩
    rw [pathRest, hkept, List.takeWhile_eq_self_iff]
    exact fun c hc => by simp [htail c hc]

theorem readLength_reverse (segments : List (List Char)) :
    readLength segments.reverse = readLength segments := by
  simp only [readLength, List.map_reverse, List.sum_reverse]

theorem readLength_map_segmentOf (cs : List Char) :
    readLength ((cs.splitOnP (isSlash .special)).map segmentOf) =
      (percentDecode (visible (slashed ('/' :: cs)))).length := by
  rw [← length_percentDecode_text, text_map_segmentOf, percentDecode_path]

/-- Each part of dots makes a path shorter than its text is read as. -/
theorem length_readSegments_le (cs : List Char) :
    (percentDecode (Path.text (.segments (readSegments .special cs)))).length +
        (cs.splitOnP (isSlash .special)).countP (fun part => isDots (segmentOf part)) ≤
      (percentDecode (visible (slashed ('/' :: cs)))).length := by
  have hparts := readLength_pushAll_le (.after []) (cs.splitOnP (isSlash .special))
  have hnone : readLength (PathReader.after []).segments = 0 := rfl
  rw [hnone, Nat.zero_add, readLength_map_segmentOf] at hparts
  rw [length_percentDecode_text, readSegments, readLength_reverse]
  exact hparts

theorem text_readSegments
    (h : ∀ part ∈ cs.splitOnP (isSlash .special), isDots (segmentOf part) = false) :
    Path.text (.segments (readSegments .special cs)) =
      percentEncode inPathSet (visible (slashed ('/' :: cs))) := by
  rw [readSegments, readPath, segments_pushAll h, PathReader.after, List.append_nil,
    List.reverse_reverse, text_map_segmentOf]

theorem isDots_segmentOf_iff (hhidden : ∀ c ∈ cs, isHidden c = false)
    (hcode : holdsCode cs = false) :
    isDots (segmentOf cs) = true ↔ cs = ['.'] ∨ cs = ['.', '.'] := by
  constructor
  · intro h
    have hvisible : visible cs = cs := List.filter_eq_self.mpr fun c hc => by simp [hhidden c hc]
    have hread : percentDecode (segmentOf cs) = Utf8.encode cs := by
      rw [segmentOf, percentDecode_path, hvisible, percentDecode_of_noCode hcode]
    rcases percentDecode_of_isDots h with h | h <;> rw [hread] at h
    · exact .inl (Utf8.encode_injective (h.trans rfl))
    · exact .inr (Utf8.encode_injective (h.trans rfl))
  · rintro (rfl | rfl) <;> rfl

theorem spelledOut_cons_iff : SpelledOut ('/' :: cs) ↔
    pathRest cs = cs ∧ '\\' ∉ cs ∧ (∀ c ∈ cs, isHidden c = false) ∧ holdsCode cs = false ∧
      ∀ part ∈ cs.splitOn '/', part ≠ ['.'] ∧ part ≠ ['.', '.'] := by
  have hparts : ('/' :: cs).splitOn '/' = [] :: cs.splitOn '/' :=
    List.splitOnP_cons_eq_if_modifyHead '/' cs
  have hlast : (∀ c ∈ ('/' :: cs).getLast?, isOuterBlank c = false) ↔
      ∀ c ∈ cs.getLast?, isOuterBlank c = false := by
    cases cs with
    | nil => simp [isOuterBlank]
    | cons c cs => rw [List.getLast?_cons_cons]
  rw [pathRest_eq_self_iff]
  constructor
  · rintro ⟨htail, hback, hhidden, hcode, hdots, hblank⟩
    rw [List.forall_mem_cons] at htail hhidden
    rw [hparts, List.forall_mem_cons] at hdots
    rw [holdsCode] at hcode
    exact ⟨⟨htail.2, hlast.mp hblank⟩, fun h => hback (.tail _ h), hhidden.2, hcode, hdots.2⟩
  · rintro ⟨⟨htail, hblank⟩, hback, hhidden, hcode, hdots⟩
    refine ⟨List.forall_mem_cons.mpr ⟨rfl, htail⟩, by simpa using hback,
      List.forall_mem_cons.mpr ⟨rfl, hhidden⟩, hcode, ?_, hlast.mpr hblank⟩
    rw [hparts, List.forall_mem_cons]
    exact ⟨by decide, hdots⟩

theorem kept_of_length_encode_le (cs : List Char) (h : (Utf8.encode ('/' :: cs)).length ≤
    (Utf8.encode (visible (slashed ('/' :: pathRest cs)))).length) :
    pathRest cs = cs ∧ visible (slashed ('/' :: cs)) = slashed ('/' :: cs) := by
  have hsublist : (visible (slashed ('/' :: pathRest cs))).Sublist (slashed ('/' :: cs)) :=
    List.filter_sublist.trans (((prefix_pathRest_self cs).sublist.cons_cons '/').map _)
  have hkept : visible (slashed ('/' :: pathRest cs)) = slashed ('/' :: cs) :=
    eq_of_sublist_of_length_encode hsublist (by rwa [length_encode_slashed])
  have hrest : pathRest cs = cs := by
    refine (prefix_pathRest_self cs).eq_of_length_le ?_
    have hle := List.length_filter_le (fun c => !isHidden c) (slashed ('/' :: pathRest cs))
    rw [← visible, hkept] at hle
    simpa [slashed] using hle
  rw [hrest] at hkept
  exact ⟨hrest, hkept⟩

/-- A path that is read as what it says loses nothing on the way, as nothing makes up for it. -/
theorem spelledOut_of_read (h : percentDecode (Path.text (.segments (readSegments .special
    (pathRest cs)))) = Utf8.encode ('/' :: cs)) : SpelledOut ('/' :: cs) := by
  -- Every step from the text to the bytes keeps its length or shortens it, so each has to keep it.
  have hlength := congrArg List.length h
  have hsegments := length_readSegments_le (pathRest cs)
  have hdecode := length_percentDecode_le (visible (slashed ('/' :: pathRest cs)))
  obtain ⟨hrest, hvisible⟩ := kept_of_length_encode_le cs (by omega)
  rw [hrest] at h hlength hsegments hdecode
  rw [hvisible] at hsegments hdecode
  rw [length_encode_slashed] at hdecode
  have hcode : holdsCode (slashed ('/' :: cs)) = false := by
    by_contra hcode
    have hlt := length_percentDecode_lt (Bool.of_not_eq_false hcode)
    rw [length_encode_slashed] at hlt
    omega
  have hdots : ∀ part ∈ cs.splitOnP (isSlash .special), isDots (segmentOf part) = false := by
    have hcount : (cs.splitOnP (isSlash .special)).countP
        (fun part => isDots (segmentOf part)) = 0 := by omega
    simpa using List.countP_eq_zero.mp hcount
  rw [text_readSegments hdots, hvisible, percentDecode_path, percentDecode_of_noCode hcode] at h
  -- All that is left is that no slash came from a backslash.
  have hslashed := Utf8.encode_injective h
  have hback : '\\' ∉ cs := fun hmem => slashed_eq_self_iff.mp hslashed (.tail _ hmem)
  rw [hslashed] at hvisible hcode
  rw [splitOnP_isSlash hback] at hdots
  refine spelledOut_cons_iff.mpr ⟨hrest, hback, fun c hc => ?_, hcode, fun part hpart => ?_⟩
  · simpa using List.filter_eq_self.mp hvisible c (.tail _ hc)
  · have hpart := hdots part hpart
    constructor <;> rintro rfl <;> exact absurd hpart (by decide)

theorem text_of_spelledOut (h : SpelledOut ('/' :: cs)) :
    Path.text (.segments (readSegments .special (pathRest cs))) =
      percentEncode inPathSet ('/' :: cs) := by
  have hslashed := slashed_eq_self_iff.mpr h.noBackslash
  have hvisible : visible ('/' :: cs) = '/' :: cs :=
    List.filter_eq_self.mpr fun c hc => by simp [h.noHidden c hc]
  obtain ⟨hrest, hback, -, -, hdots⟩ := spelledOut_cons_iff.mp h
  have hkept : ∀ part ∈ cs.splitOnP (isSlash .special), isDots (segmentOf part) = false := by
    intro part hpart
    have hwithin : part <:+: '/' :: cs := by
      rw [← hslashed, ← flatMap_splitOnP]
      exact (List.suffix_cons '/' part).isInfix.trans
        (List.infix_of_mem_flatten (List.mem_map_of_mem hpart))
    have hcode : holdsCode part = false :=
      Bool.eq_false_iff.mpr fun hcode => by simpa [h.noCode] using holdsCode_mono hwithin hcode
    have hhidden : ∀ c ∈ part, isHidden c = false := fun c hc => h.noHidden c (hwithin.mem hc)
    rw [splitOnP_isSlash hback] at hpart
    rw [Bool.eq_false_iff, Ne, isDots_segmentOf_iff hhidden hcode, not_or]
    exact hdots part hpart
  rw [hrest, text_readSegments hkept, hslashed, hvisible]

/-- A path is read as what it says exactly if it is spelled out. -/
theorem percentDecode_readSegments_iff (cs : List Char) :
    percentDecode (Path.text (.segments (readSegments .special (pathRest cs)))) =
      Utf8.encode ('/' :: cs) ↔ SpelledOut ('/' :: cs) := by
  refine ⟨spelledOut_of_read, fun h => ?_⟩
  rw [text_of_spelledOut h, percentDecode_path, percentDecode_of_noCode h.noCode]

end

end HealControl.Url
