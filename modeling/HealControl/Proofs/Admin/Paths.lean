import Mathlib.Tactic.ByContra
import HealControl.Admin.Client

/-!
# Paths of heal requests

A server knows a sequence by the path of its request, a caller by its bucket and its prefix. Two
pairs of them have one path if both buckets are empty, or if one bucket goes on in the prefix of the
other.
-/
namespace HealControl.Admin

/-- The end of a path that a prefix makes. -/
def prefixEnd (objectPrefix : String) : String :=
  if objectPrefix.isEmpty then "" else separator ++ objectPrefix

/-- The longer bucket begins with the other one and goes on in its prefix. -/
structure GoesOn (bucket objectPrefix longer rest : String) : Prop where
  bucket_ne : bucket ≠ ""
  prefix_ne : objectPrefix ≠ ""
  split : ∃ part, longer = bucket ++ separator ++ part ∧ objectPrefix = part ++ prefixEnd rest

theorem append_eq_append_cases {s t u v : String} (h : s ++ t = u ++ v) :
    (∃ w, u = s ++ w ∧ t = w ++ v) ∨ ∃ w, s = u ++ w ∧ v = w ++ t := by
  have hlist := congrArg String.toList h
  rw [String.toList_append, String.toList_append, List.append_eq_append_iff] at hlist
  rcases hlist with ⟨w, hu, ht⟩ | ⟨w, hs, hv⟩
  · refine Or.inl ⟨.ofList w, String.toList_inj.mp ?_, String.toList_inj.mp ?_⟩
    · rw [String.toList_append, String.toList_ofList, hu]
    · rw [String.toList_append, String.toList_ofList, ht]
  · refine Or.inr ⟨.ofList w, String.toList_inj.mp ?_, String.toList_inj.mp ?_⟩
    · rw [String.toList_append, String.toList_ofList, hs]
    · rw [String.toList_append, String.toList_ofList, hv]

@[simp] theorem prefixEnd_empty : prefixEnd "" = "" := rfl

theorem prefixEnd_of_ne {objectPrefix : String} (h : objectPrefix ≠ "") :
    prefixEnd objectPrefix = separator ++ objectPrefix := by
  have he : objectPrefix.isEmpty = false := by simpa using h
  rw [prefixEnd, he]
  rfl

/-- A separator is a single character: a part of it that is not empty is all of it. -/
theorem eq_of_separator_eq_append {part rest : String} (hpart : part ≠ "")
    (h : separator = part ++ rest) : part = separator ∧ rest = "" := by
  have hlist : part.toList ++ rest.toList = ['/'] := by
    rw [← String.toList_append, ← h]
    rfl
  rcases List.append_eq_singleton_iff.mp hlist with ⟨hp, -⟩ | ⟨hp, hr⟩
  · exact absurd (String.toList_inj.mp hp) hpart
  · exact ⟨String.toList_inj.mp hp, String.toList_inj.mp hr⟩

theorem prefixEnd_eq_append {objectPrefix part rest : String} (hpart : part ≠ "")
    (h : prefixEnd objectPrefix = part ++ rest) :
    objectPrefix ≠ "" ∧ ∃ more, part = separator ++ more ∧ objectPrefix = more ++ rest := by
  have hne : objectPrefix ≠ "" := by
    rintro rfl
    exact hpart (String.append_eq_empty_iff.mp h.symm).1
  rw [prefixEnd_of_ne hne] at h
  refine ⟨hne, ?_⟩
  rcases append_eq_append_cases h with hlong | ⟨w, hsep, hrest⟩
  · exact hlong
  · obtain ⟨hall, rfl⟩ := eq_of_separator_eq_append hpart hsep
    refine ⟨"", ?_, ?_⟩
    · rw [hall, String.append_empty]
    · rw [hrest, String.empty_append, String.empty_append]

theorem prefixEnd_injective {p q : String} (h : prefixEnd p = prefixEnd q) : p = q := by
  by_cases hp : p = ""
  · subst hp
    by_contra hq
    rw [prefixEnd_empty, prefixEnd_of_ne (Ne.symm hq)] at h
    exact absurd (String.append_eq_empty_iff.mp h.symm).1 (by decide)
  · by_cases hq : q = ""
    · subst hq
      rw [prefixEnd_empty, prefixEnd_of_ne hp] at h
      exact absurd (String.append_eq_empty_iff.mp h).1 (by decide)
    · rw [prefixEnd_of_ne hp, prefixEnd_of_ne hq, String.append_right_inj] at h
      exact h

/-! ## The path of a bucket and a prefix -/

section
variable {bucket objectPrefix bucket' objectPrefix' : String}

theorem healPath_of_ne (h : bucket ≠ "") :
    healPath bucket objectPrefix = apiPath ++ "/heal/" ++ (bucket ++ prefixEnd objectPrefix) := by
  have hb : bucket.isEmpty = false := by simpa using h
  rw [healPath, prefixEnd, hb, Bool.false_or, String.append_assoc]

theorem healPath_empty : healPath "" objectPrefix = apiPath ++ "/heal/" ++ "" := rfl

/-- With an empty bucket the prefix is no part of the path. -/
theorem healPath_eq_empty_iff :
    healPath bucket objectPrefix = healPath "" objectPrefix' ↔ bucket = "" := by
  constructor
  · intro h
    by_contra hb
    rw [healPath_of_ne hb, healPath_empty, String.append_right_inj] at h
    exact hb (String.append_eq_empty_iff.mp h).1
  · rintro rfl
    rfl

theorem GoesOn.append_eq (h : GoesOn bucket objectPrefix bucket' objectPrefix') :
    bucket ++ prefixEnd objectPrefix = bucket' ++ prefixEnd objectPrefix' := by
  obtain ⟨part, hbucket, hrest⟩ := h.split
  rw [prefixEnd_of_ne h.prefix_ne, hbucket, hrest]
  simp only [String.append_assoc]

theorem GoesOn.longer_ne (h : GoesOn bucket objectPrefix bucket' objectPrefix') : bucket' ≠ "" := by
  obtain ⟨part, hbucket, -⟩ := h.split
  intro he
  rw [hbucket, String.append_eq_empty_iff, String.append_eq_empty_iff] at he
  exact h.bucket_ne he.1.1

theorem GoesOn.separator_mem (h : GoesOn bucket objectPrefix bucket' objectPrefix') :
    '/' ∈ bucket'.toList := by
  obtain ⟨part, rfl, -⟩ := h.split
  rw [String.toList_append, String.toList_append]
  exact List.mem_append_left _ (List.mem_append_right _ List.mem_cons_self)

theorem GoesOn.healPath_eq (h : GoesOn bucket objectPrefix bucket' objectPrefix') :
    healPath bucket objectPrefix = healPath bucket' objectPrefix' := by
  rw [healPath_of_ne h.bucket_ne, healPath_of_ne h.longer_ne, h.append_eq]

theorem goesOn_of_append {part : String} (hbucket : bucket ≠ "") (hpart : part ≠ "")
    (hrest : prefixEnd objectPrefix = part ++ prefixEnd objectPrefix') :
    GoesOn bucket objectPrefix (bucket ++ part) objectPrefix' := by
  obtain ⟨hne, more, rfl, hsplit⟩ := prefixEnd_eq_append hpart hrest
  exact ⟨hbucket, hne, more, String.append_assoc.symm, hsplit⟩

/-- What has one path: a bucket and a prefix with themselves, empty buckets, and a bucket that goes
on in the prefix of the other. -/
theorem healPath_eq_iff :
    healPath bucket objectPrefix = healPath bucket' objectPrefix' ↔
      (bucket = bucket' ∧ objectPrefix = objectPrefix') ∨ (bucket = "" ∧ bucket' = "") ∨
      GoesOn bucket objectPrefix bucket' objectPrefix' ∨
      GoesOn bucket' objectPrefix' bucket objectPrefix := by
  constructor
  · intro h
    by_cases hb : bucket = ""
    · subst hb
      exact Or.inr (Or.inl ⟨rfl, healPath_eq_empty_iff.mp h.symm⟩)
    by_cases hb' : bucket' = ""
    · subst hb'
      exact Or.inr (Or.inl ⟨healPath_eq_empty_iff.mp h, rfl⟩)
    rw [healPath_of_ne hb, healPath_of_ne hb', String.append_right_inj] at h
    by_cases hsame : bucket = bucket'
    · subst hsame
      rw [String.append_right_inj] at h
      exact Or.inl ⟨rfl, prefixEnd_injective h⟩
    -- the shorter bucket ends within the longer one
    right
    right
    rcases append_eq_append_cases h with ⟨part, rfl, hrest⟩ | ⟨part, rfl, hrest⟩
    · have hpart : part ≠ "" := by
        rintro rfl
        exact hsame String.append_empty.symm
      exact Or.inl (goesOn_of_append hb hpart hrest)
    · have hpart : part ≠ "" := by
        rintro rfl
        exact hsame String.append_empty
      exact Or.inr (goesOn_of_append hb' hpart hrest)
  · rintro (⟨rfl, rfl⟩ | ⟨rfl, rfl⟩ | h | h)
    · rfl
    · rfl
    · exact h.healPath_eq
    · exact h.healPath_eq.symm

end

end HealControl.Admin
