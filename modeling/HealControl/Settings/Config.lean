import HealControl.Settings.Fields
import HealControl.Settings.Help

/-!
# Configuration

The configuration is looked up setting by setting: in the environment, else in the parameters,
else among the defaults. A value that counts must be valid; one that is overruled need not be.
-/
namespace HealControl.Settings

open HealControl.Time (Span)

structure Config where
  endpoint : Url
  authToken : Option String
  timeout : Span
  statusTimeout : Span
  pollInterval : Span

abbrev Environment := String → Option String

def effective (ps : Params) (env : Environment) (s : Setting) : String :=
  ((env s.variableName).or (ps.lookup? s.key)).getD s.defaultValue

def lookupSpan (ps : Params) (env : Environment) (s : Setting) : Except SettingsFault Span :=
  (Span.ofText (effective ps env s)).mapError (.invalidSpan s.key)

/-- An empty token is none. -/
def lookupToken (ps : Params) (env : Environment) : Option String :=
  let token := effective ps env .authToken
  if token.isEmpty then none else some token

def Config.lookup (ps : Params) (env : Environment) : Except SettingsFault Config := do
  ps.check subsystem defaults
  let endpoint ← (Url.parse (effective ps env .endpoint)).mapError .invalidEndpoint
  let timeout ← lookupSpan ps env .timeout
  let statusTimeout ← lookupSpan ps env .statusTimeout
  let pollInterval ← lookupSpan ps env .pollInterval
  return ⟨endpoint, lookupToken ps env, timeout, statusTimeout, pollInterval⟩

end HealControl.Settings
