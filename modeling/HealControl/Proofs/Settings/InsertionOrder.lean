import HealControl.Settings.Params
import Mathlib.Data.List.Induction
import Mathlib.Data.List.Nodup

/-!
# Parameters that were set one after the other

Parameters that come from calls of `set` alone are a map that remembers the order of insertion. Such
a map is all that its calls tell (`HoldsCalls`): each key stands where it was first set and has the
value that it was last given. One more call keeps that, so every run of calls does.
-/
namespace HealControl.Settings.Params

def setAll (calls : List Param) : Params :=
  calls.foldl (fun ps call => set call.key call.value ps) []

def lastValue? (key : String) (calls : List Param) : Option String :=
  ((calls.filter fun call => call.key = key).getLast?).map Param.value

/-- Each key stands once, in the order in which the calls first set them, and has the value that it
was given last. -/
structure HoldsCalls (calls : List Param) (ps : Params) : Prop where
  distinct : (ps.map Param.key).Nodup
  ordered : ps.map Param.key = (calls.map Param.key).eraseDups
  last : ∀ key, ps.lookup? key = lastValue? key calls

variable {calls : List Param} {ps : Params}

theorem lastValue?_concat (key : String) (calls : List Param) (call : Param) :
    lastValue? key (calls ++ [call]) =
      if call.key = key then some call.value else lastValue? key calls := by
  by_cases h : call.key = key <;> simp [lastValue?, h]

theorem eraseDups_concat (keys : List String) (key : String) :
    (keys ++ [key]).eraseDups =
      if key ∈ keys then keys.eraseDups else keys.eraseDups ++ [key] := by
  by_cases h : key ∈ keys <;> simp [List.eraseDups_append, List.removeAll, List.eraseDups_cons, h]

theorem nodup_map_key_set (h : (ps.map Param.key).Nodup) (key value : String) :
    ((set key value ps).map Param.key).Nodup := by
  rw [map_key_set]
  split
  · exact h
  · rename_i hnew
    rw [← List.concat_eq_append]
    exact List.Nodup.concat hnew h

/-- One more call is held as well. -/
theorem HoldsCalls.set (h : HoldsCalls calls ps) (call : Param) :
    HoldsCalls (calls ++ [call]) (Params.set call.key call.value ps) where
  distinct := nodup_map_key_set h.distinct call.key call.value
  ordered := by
    rw [map_key_set, List.map_append, List.map_singleton, eraseDups_concat, h.ordered]
    simp only [List.mem_eraseDups]
  last key := by
    rw [lookup?_set, lastValue?_concat, h.last]

theorem holdsCalls_setAll (calls : List Param) : HoldsCalls calls (setAll calls) := by
  induction calls using List.reverseRecOn with
  | nil => exact ⟨List.nodup_nil, rfl, fun _ => rfl⟩
  | append_singleton calls call ih =>
    rw [setAll, List.foldl_append]
    exact ih.set call

/-- A call leaves every parameter of another key in its place, and adds none. -/
theorem getElem?_set_of_ne {key : String} {p : Param} (h : p.key ≠ key) (value : String)
    (ps : Params) (i : Nat) : (set key value ps)[i]? = some p ↔ ps[i]? = some p := by
  have hother : ∀ v, (⟨key, v⟩ : Param) ≠ p := by
    rintro v rfl
    exact h rfl
  induction ps generalizing i with
  | nil => cases i <;> simp [set, hother]
  | cons q rest ih =>
    by_cases hq : q.key = key
    · have hq' : q ≠ p := fun e => h (e ▸ hq)
      cases i <;> simp [set, hq, hq', hother]
    · cases i <;> simp [set, hq, ih]

theorem keys_eq (ps : Params) :
    ps.keys = ps.map Param.key ++ if commentKey ∈ ps.map Param.key then [] else [commentKey] := by
  rw [keys]
  split <;> simp [*]

/-- The keys that are listed are those there would be if a comment were set as well. -/
theorem keys_eq_map_key_set (value : String) (ps : Params) :
    ps.keys = (set commentKey value ps).map Param.key :=
  (map_key_set ps commentKey value).symm

theorem count_commentKey_keys (h : (ps.map Param.key).Nodup) : ps.keys.count commentKey = 1 := by
  have hnodup := nodup_map_key_set h commentKey ""
  rw [← keys_eq_map_key_set] at hnodup
  have hmem : commentKey ∈ ps.keys := by
    rw [keys]
    split
    · assumption
    · exact List.mem_append_right _ List.mem_cons_self
  exact List.count_eq_one_of_mem hnodup hmem

/-- Parameters that were set one after the other are a map in the order of insertion: a key stands
where it was first set, has its last value and is not moved by others, and the keys that are listed
are these and that of a comment, which is listed once. -/
theorem insertionOrdered_setAll (calls : List Param) :
    let ps := setAll calls
    HoldsCalls calls ps ∧
    (∀ (key value : String) (i : Nat) (p : Param), p.key ≠ key →
      ((set key value ps)[i]? = some p ↔ ps[i]? = some p)) ∧
    ps.keys = (calls.map Param.key).eraseDups ++
      (if commentKey ∈ calls.map Param.key then [] else [commentKey]) ∧
    ps.keys.count commentKey = 1 := by
  intro ps
  have hholds : HoldsCalls calls ps := holdsCalls_setAll calls
  refine ⟨hholds, fun key value i p h => getElem?_set_of_ne h value ps i, ?_,
    count_commentKey_keys hholds.distinct⟩
  rw [keys_eq, hholds.ordered]
  simp only [List.mem_eraseDups]

/-- The timeout is set twice and then once more, the comment between the first two times. -/
theorem insertionOrdered_timeout :
    let ps := setAll [⟨"timeout", "1s"⟩, ⟨"comment", "slow"⟩, ⟨"timeout", "2s"⟩]
    "comment" ≠ "timeout" ∧ ps.lookup? "timeout" = some "2s" ∧
    (set "timeout" "3s" ps)[1]? = some ⟨"comment", "slow"⟩ ∧
    ps.keys = ["timeout", "comment"] ∧ ps.keys.count commentKey = 1 := by
  intro ps
  have hne : "comment" ≠ "timeout" := by decide
  obtain ⟨hholds, hothers, hkeys, hcomment⟩ := insertionOrdered_setAll
    [⟨"timeout", "1s"⟩, ⟨"comment", "slow"⟩, ⟨"timeout", "2s"⟩]
  exact ⟨hne, hholds.last "timeout", (hothers "timeout" "3s" 1 ⟨"comment", "slow"⟩ hne).mpr rfl,
    hkeys, hcomment⟩

end HealControl.Settings.Params
