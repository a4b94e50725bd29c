import HealControl.Admin.Address
import HealControl.Admin.Request
import HealControl.Log.Record
import HealControl.Url.Resolve

/-!
# Sending requests to an endpoint
-/
namespace HealControl.Admin

open HealControl.Url (UrlFault)

/-- The URL that a request is sent to: its path on the host of the endpoint, with its values after
any that the path itself brings. -/
def Request.url (endpoint : Url) (r : Request) : Except UrlFault Url := do
  return (← endpoint.resolve r.path).withPairs r.query

def Request.record (u : Url) : Log.Record :=
  ⟨.debug, Request.method ++ " " ++ u.text⟩

end HealControl.Admin
