import HealControl.Session.Table
import HealControl.Settings.Config

/-!
# From a configuration to its users
-/
namespace HealControl

open HealControl.Settings (Config)
open HealControl.Time (Span)

/-- The sequences of one caller, and the longest wait between two polls of one of them. -/
structure Sessions where
  table : Session.Table
  pollInterval : Span

def Sessions.new (pollInterval : Span) : Sessions :=
  ⟨.empty, pollInterval⟩

def Sessions.ofConfig (c : Config) : Sessions :=
  .new c.pollInterval

structure Watch where
  endpoints : List String
  timeout : Span

def Watch.ofConfig (endpoints : List Url) (c : Config) : Watch :=
  ⟨endpoints.map Url.text, c.statusTimeout⟩

def Settings.Config.initial : Except Settings.SettingsFault Config :=
  Config.lookup [] fun _ => none

end HealControl
