import HealControl.Text.Blank
import Mathlib.Data.List.DropRight

/-!
# Trimmed texts

Trimming drops a run of characters of a class at either end and nothing else: a text between two
such runs is found again if it neither begins nor ends with a character of the class.
-/
namespace HealControl.Text

variable {p : Char → Bool} {cs run : List Char} {c : Char}

theorem dropEndWhile_eq_rdropWhile (p : Char → Bool) (cs : List Char) :
    dropEndWhile p cs = cs.rdropWhile p :=
  rfl

theorem dropEndWhile_append_of_all (hrun : ∀ c ∈ run, p c = true) (cs : List Char) :
    dropEndWhile p (cs ++ run) = dropEndWhile p cs := by
  rw [dropEndWhile, List.reverse_append,
    List.dropWhile_append_of_pos fun c hc => hrun c (List.mem_reverse.mp hc)]
  rfl

theorem dropEndWhile_eq_self_iff :
    dropEndWhile p cs = cs ↔ ∀ c ∈ cs.getLast?, p c = false := by
  rw [dropEndWhile_eq_rdropWhile, List.rdropWhile_eq_self_iff]
  constructor
  · intro h c hc
    obtain ⟨hne, rfl⟩ := List.mem_getLast?_eq_getLast hc
    simpa using h hne
  · exact fun h hne => by simp [h _ (List.getLast?_eq_some_getLast hne)]

/-- What stands before a character outside the class is kept. -/
theorem dropEndWhile_append_cons (hc : p c = false) (before after : List Char) :
    dropEndWhile p (before ++ c :: after) = before ++ c :: dropEndWhile p after := by
  have hstop : (after.reverse ++ c :: before.reverse).dropWhile p =
      after.reverse.dropWhile p ++ c :: before.reverse := by
    rw [List.dropWhile_append]
    split
    · next hempty => rw [List.isEmpty_iff.mp hempty, List.nil_append,
        List.dropWhile_cons_of_neg (by simp [hc])]
    · rfl
  calc dropEndWhile p (before ++ c :: after)
      = ((after.reverse ++ c :: before.reverse).dropWhile p).reverse := by simp [dropEndWhile]
    _ = (after.reverse.dropWhile p ++ c :: before.reverse).reverse := by rw [hstop]
    _ = before ++ c :: dropEndWhile p after := by simp [dropEndWhile]

theorem length_trimWhile_le (p : Char → Bool) (cs : List Char) :
    (trimWhile p cs).length ≤ cs.length :=
  Nat.le_trans (List.rdropWhile_prefix p _).length_le (List.length_dropWhile_le p cs)

theorem trimWhile_append_of_all (hrun : ∀ c ∈ run, p c = true) (cs : List Char) :
    trimWhile p (cs ++ run) = trimWhile p cs := by
  rw [trimWhile, trimWhile, List.dropWhile_append]
  split
  · next hempty => rw [List.isEmpty_iff.mp hempty, List.dropWhile_eq_nil_iff.mpr hrun]
  · exact dropEndWhile_append_of_all hrun _

theorem trimWhile_dropEndWhile (p : Char → Bool) (cs : List Char) :
    trimWhile p (dropEndWhile p cs) = trimWhile p cs := by
  calc trimWhile p (dropEndWhile p cs)
      = trimWhile p (cs.rdropWhile p ++ cs.rtakeWhile p) :=
        (trimWhile_append_of_all (fun _ hc => List.mem_rtakeWhile_imp hc) _).symm
    _ = trimWhile p cs := by rw [List.rdropWhile_append_rtakeWhile]

theorem trimWhile_cons_of_pos (hc : p c = true) (cs : List Char) :
    trimWhile p (c :: cs) = trimWhile p cs := by
  rw [trimWhile, List.dropWhile_cons_of_pos hc]
  rfl

/-- A text that begins with no character of the class is only trimmed at the end. -/
theorem trimWhile_of_head (hhead : ∀ c ∈ cs.head?, p c = false) :
    trimWhile p cs = dropEndWhile p cs := by
  cases cs with
  | nil => rfl
  | cons c rest => rw [trimWhile, List.dropWhile_cons_of_neg (by simp [hhead c List.head?_cons])]

theorem trimWhile_of_ends (hhead : ∀ c ∈ cs.head?, p c = false)
    (hlast : ∀ c ∈ cs.getLast?, p c = false) : trimWhile p cs = cs := by
  rw [trimWhile_of_head hhead, dropEndWhile_eq_self_iff.mpr hlast]

end HealControl.Text
