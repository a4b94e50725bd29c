import HealControl.Url.Host

/-!
# URLs

A URL in its parts, each already encoded, and its text.
-/
namespace HealControl.Url

/-- The kinds of schemes. A special scheme has a host and lets a backslash stand for a slash. -/
inductive SchemeKind
  | file
  | special
  | plain
deriving DecidableEq, Repr

def schemeKind (scheme : String) : SchemeKind :=
  if scheme = "file" then .file
  else if scheme = "http" ∨ scheme = "https" ∨ scheme = "ws" ∨ scheme = "wss" ∨ scheme = "ftp" then
    .special
  else .plain

def defaultPort? (scheme : String) : Option Nat :=
  if scheme = "http" ∨ scheme = "ws" then some 80
  else if scheme = "https" ∨ scheme = "wss" then some 443
  else if scheme = "ftp" then some 21
  else none

/-- Who is addressed where: the part of a URL after two slashes. A host may be missing where the
scheme allows it. -/
structure Authority where
  user : List Char
  password : List Char
  host : Option Host
  port : Option Nat
deriving DecidableEq, Repr

inductive Path
  | opaqueText (cs : List Char)
  | segments (parts : List (List Char))
deriving DecidableEq, Repr

end HealControl.Url

namespace HealControl

structure Url where
  scheme : String
  authority : Option Url.Authority
  path : Url.Path
  query : Option (List Char)
  fragment : Option (List Char)
deriving DecidableEq, Repr

end HealControl

namespace HealControl.Url

def Authority.text (a : Authority) : List Char :=
  let secret := if a.password.isEmpty then [] else ':' :: a.password
  a.user ++ secret ++ (if a.user.isEmpty && a.password.isEmpty then [] else ['@']) ++
    (a.host.map Host.text).getD [] ++
    (match a.port with
    | some port => ':' :: Decimal.digits port
    | none => [])

def Path.text : Path → List Char
  | .opaqueText cs => cs
  | .segments parts => parts.flatMap fun part => '/' :: part

/-- What stands between the scheme and the path. Without an authority a path must not look like
one. -/
def authorityText (u : Url) : List Char :=
  match u.authority with
  | some a => '/' :: '/' :: a.text
  | none =>
    match u.path with
    | .segments ([] :: _ :: _) => ['/', '.']
    | _ => []

def text (u : Url) : String :=
  String.ofList <| u.scheme.toList ++ ':' :: u.authorityText ++ u.path.text ++
    ((u.query.map fun q => '?' :: q).getD []) ++ ((u.fragment.map fun f => '#' :: f).getD [])

def hostText? (u : Url) : Option String := do
  let a ← u.authority
  let host ← a.host
  some (String.ofList host.text)

end HealControl.Url
