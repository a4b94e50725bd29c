import HealControl.Json.Record
import HealControl.Text.Blank

/-!
# Parameters

Parameters are pairs of a key and a value, in order. `set` keeps the keys distinct; parameters
from elsewhere may repeat one, and then its first value counts.
-/
namespace HealControl.Settings

open HealControl.Json

structure Param where
  key : String
  value : String
deriving DecidableEq, Repr

def Param.schema : Schema Param where
  name := "KV"
  fields := [.required "key" .text, .required "value" .text]
  toRow p := (p.key, p.value, ())
  ofRow := fun (a, b, ()) => ⟨a, b⟩
  ofRow_toRow _ := rfl

/-- The key of a comment, which any settings may have. -/
def commentKey : String := "comment"

abbrev Params := List Param

namespace Params

def keys (ps : Params) : List String :=
  let keys := ps.map Param.key
  if commentKey ∈ keys then keys else keys ++ [commentKey]

def set (key value : String) : Params → Params
  | [] => [⟨key, value⟩]
  | p :: rest => if p.key = key then ⟨key, value⟩ :: rest else p :: set key value rest

def lookup? (ps : Params) (key : String) : Option String :=
  (ps.find? fun p => p.key = key).map Param.value

@[simp] theorem lookup?_nil (key : String) : lookup? [] key = none := rfl

@[simp] theorem lookup?_cons (p : Param) (ps : Params) (key : String) :
    lookup? (p :: ps) key = if p.key = key then some p.value else lookup? ps key := by
  by_cases h : p.key = key <;> simp [lookup?, h]

theorem lookup?_set (ps : Params) (key value k : String) :
    (set key value ps).lookup? k = if key = k then some value else ps.lookup? k := by
  induction ps with
  | nil => simp [set]
  | cons p rest ih =>
    by_cases h : p.key = key <;> by_cases hk : key = k <;> by_cases hp : p.key = k <;>
      simp_all [set]

theorem map_key_set (ps : Params) (key value : String) :
    (set key value ps).map Param.key =
      if key ∈ ps.map Param.key then ps.map Param.key else ps.map Param.key ++ [key] := by
  induction ps with
  | nil => simp [set]
  | cons p rest ih =>
    by_cases h : p.key = key
    · simp [set, h]
    · have h' : key ≠ p.key := fun hk => h hk.symm
      rw [set, if_neg h, List.map_cons, ih]
      by_cases hm : key ∈ rest.map Param.key
      · rw [if_pos hm, List.map_cons, if_pos (List.mem_cons_of_mem _ hm)]
      · rw [if_neg hm, List.map_cons, if_neg (by simp [h', List.mem_cons] at hm ⊢; exact hm),
          List.cons_append]

def get (ps : Params) (key : String) : String :=
  (ps.lookup? key).getD ""

/-- A parameter as text. A value with blanks in it stands in quotation marks. -/
def paramText (p : Param) : String :=
  let mark := if p.value.toList.any Text.isBlank then "\"" else ""
  p.key ++ "=" ++ mark ++ p.value ++ mark

def text (ps : Params) : String :=
  " ".intercalate (ps.map paramText)

def unknownKeys (ps valid : Params) : List String :=
  (ps.map Param.key).filter fun key => key ≠ commentKey && (valid.lookup? key).isNone

end Params

end HealControl.Settings
