import HealControl.Settings.Params
import HealControl.Time.SpanReader
import HealControl.Url.Parser

/-!
# Parameters from text

A text is cut into fields where one of the known keys stands with an equals sign after it, at the
front or after a blank. What is before the first field does not count. Each key starts at most one
field, at the first place where it can.
-/
namespace HealControl.Settings

open HealControl.Text (isBlank trim trimWhile)
open HealControl.Time (SpanFault)
open HealControl.Url (UrlFault)

inductive SettingsFault
  | valueMissing (key : String)
  | unknownKeys (keys : List String) (subsystem : String)
  | invalidEndpoint (fault : UrlFault)
  | invalidSpan (key : String) (fault : SpanFault)
deriving DecidableEq, Repr

def subsystem : String := "heal_admin"

def SettingsFault.message : SettingsFault → String
  | .valueMissing key => "key '" ++ key ++ "' must have value"
  | .unknownKeys keys sys =>
    "found invalid keys (" ++ ",".intercalate keys ++ ") for '" ++ sys ++ "' sub-system"
  | .invalidEndpoint fault => subsystem ++ " 'endpoint' value invalid: " ++ fault.message
  | .invalidSpan key fault => subsystem ++ " '" ++ key ++ "' value invalid: " ++ fault.message

/-- Where the pattern first stands at the front or after a blank. Occurrences are counted without
overlap: `skip` characters belong to the last one. `free` says whether a field may start here, at
`index`. -/
def findStart (pattern : List Char) : Bool → Nat → Nat → List Char → Option Nat
  | _, _, _, [] => none
  | free, skip, index, c :: rest =>
    if skip = 0 ∧ pattern.isPrefixOf (c :: rest) then
      if free then some index
      else findStart pattern (isBlank c) (pattern.length - 1) (index + 1) rest
    else findStart pattern (isBlank c) (skip - 1) (index + 1) rest

def fieldStart? (cs : List Char) (key : String) : Option Nat :=
  findStart (key.toList ++ ['=']) true 0 0 cs

def fieldStarts (cs : List Char) (keys : List String) : List Nat :=
  (keys.filterMap (fieldStart? cs)).mergeSort fun a b => a ≤ b

def cut (cs : List Char) : List Nat → List (List Char)
  | [] => []
  | [start] => [cs.drop start]
  | start :: stop :: rest => (cs.drop start).take (stop - start) :: cut cs (stop :: rest)

def fields (input : String) (keys : List String) : List String :=
  (cut input.toList (fieldStarts input.toList keys)).map fun cs => String.ofList (trim cs)

/-- A value without the blanks around it, and then without quotation marks around it. -/
def bareValue (cs : List Char) : List Char :=
  trimWhile (fun c => c == '"' || c.toNat == 0x27) (trim cs)

def Param.ofField (field : String) : Except SettingsFault Param :=
  let key := field.toList.takeWhile (· != '=')
  match field.toList.dropWhile (· != '=') with
  | [] => .error (.valueMissing field)
  | _ :: value => .ok ⟨String.ofList key, String.ofList (bareValue value)⟩

def Params.parse (input : String) (keys : List String) : Except SettingsFault Params :=
  (fields input keys).foldlM (fun ps field => do
    let p ← Param.ofField field
    return Params.set p.key p.value ps) []

def Params.check (ps : Params) (sys : String) (valid : Params) : Except SettingsFault Unit :=
  let unknown := ps.unknownKeys valid
  if unknown.isEmpty then .ok () else .error (.unknownKeys unknown sys)

end HealControl.Settings
