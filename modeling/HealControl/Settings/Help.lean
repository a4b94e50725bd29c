import HealControl.Settings.Params

/-!
# The settings and what they are for
-/
namespace HealControl.Settings

open HealControl.Json

inductive Setting
  | endpoint
  | authToken
  | timeout
  | statusTimeout
  | pollInterval
deriving DecidableEq, Repr

namespace Setting

def all : List Setting :=
  [.endpoint, .authToken, .timeout, .statusTimeout, .pollInterval]

def key : Setting → String
  | .endpoint => "endpoint"
  | .authToken => "auth_token"
  | .timeout => "timeout"
  | .statusTimeout => "status_timeout"
  | .pollInterval => "poll_interval"

def variableName : Setting → String
  | .endpoint => "HULK_HEAL_ADMIN_ENDPOINT"
  | .authToken => "HULK_HEAL_ADMIN_AUTH_TOKEN"
  | .timeout => "HULK_HEAL_ADMIN_TIMEOUT"
  | .statusTimeout => "HULK_HEAL_ADMIN_STATUS_TIMEOUT"
  | .pollInterval => "HULK_HEAL_ADMIN_POLL_INTERVAL"

def defaultValue : Setting → String
  | .endpoint => "http://127.0.0.1:9000"
  | .authToken => ""
  | .timeout => "1m"
  | .statusTimeout => "10s"
  | .pollInterval => "2s"

def kind : Setting → String
  | .endpoint => "url"
  | .authToken => "string"
  | .timeout | .statusTimeout | .pollInterval => "duration"

def description : Setting → String
  | .endpoint => "admin API endpoint of the node to send heal requests to"
  | .authToken => "bearer token sent in the Authorization header"
  | .timeout => "timeout of a single heal start/status/stop request. eg. 30s"
  | .statusTimeout => "per node timeout when collecting background heal status. eg. 10s"
  | .pollInterval => "maximum wait between two heal status polls. eg. 2s"

end Setting

def defaults : Params :=
  Setting.all.map fun s => ⟨s.key, s.defaultValue⟩

structure HelpEntry where
  key : String
  kind : String
  description : String
  isOptional : Bool
deriving DecidableEq, Repr, Inhabited

def HelpEntry.schema : Schema HelpEntry where
  name := "HelpKV"
  fields := [
    .required "key" .text,
    .required "type" .text,
    .required "description" .text,
    .required "optional" .bool]
  toRow h := (h.key, h.kind, h.description, h.isOptional, ())
  ofRow := fun (a, b, c, d, ()) => ⟨a, b, c, d⟩
  ofRow_toRow _ := rfl

def Setting.help (s : Setting) : HelpEntry :=
  ⟨s.key, s.kind, s.description, s ≠ .endpoint⟩

def help : List HelpEntry :=
  Setting.all.map Setting.help ++
    [⟨commentKey, "sentence", "optionally add a comment to this setting", true⟩]

def help? (key : String) : Option HelpEntry :=
  help.find? fun h => h.key = key

end HealControl.Settings
