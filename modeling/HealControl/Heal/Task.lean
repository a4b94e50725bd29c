import HealControl.Heal.Options
import HealControl.Heal.Result

/-!
# Heal sequences as told by the server

A server answers the start of a heal sequence with a receipt, and a question about it with its
status.
-/
namespace HealControl.Heal

open HealControl.Json
open HealControl.Time (Timestamp)

structure HealReceipt where
  clientToken : String
  clientAddress : String
  startTime : Timestamp
deriving DecidableEq

/-- An object without a token is no receipt. -/
def HealReceipt.schema : Schema HealReceipt where
  name := "HealStartSuccess"
  fields := [
    .required "clientToken" .text,
    .optional "clientAddress" .text "",
    .optional "startTime" .timestamp .epoch]
  toRow r := (r.clientToken, r.clientAddress, r.startTime, ())
  ofRow := fun (a, b, c, ()) => ⟨a, b, c⟩
  ofRow_toRow _ := rfl

instance : Inhabited HealReceipt := ⟨⟨"", "", .epoch⟩⟩

/-- The status of a sequence, with the results since the last time it was asked for. -/
structure TaskStatus where
  summary : String
  failureDetail : String
  startTime : Timestamp
  settings : HealOptions
  items : List HealResult
deriving DecidableEq

def TaskStatus.schema : Schema TaskStatus where
  name := "HealTaskStatus"
  fields := [
    .required "summary" .text,
    .optional "detail" .text "",
    .optional "startTime" .timestamp .epoch,
    .optional "settings" HealOptions.schema.codec default,
    .omitting "items" (.nullAs [] (.list HealResult.schema.codec)) []]
  toRow s := (s.summary, s.failureDetail, s.startTime, s.settings, s.items, ())
  ofRow := fun (a, b, c, d, e, ()) => ⟨a, b, c, d, e⟩
  ofRow_toRow _ := rfl

instance : Inhabited TaskStatus := ⟨⟨"", "", .epoch, default, []⟩⟩

end HealControl.Heal
