import HealControl.Text.Blank
import HealControl.Url.Path

/-!
# URLs from text

`Url.parse` reads a URL that stands on its own. Blanks and controls around it do not count, and
neither do tabs and line breaks in it.
-/
namespace HealControl.Url

open HealControl.Text (isLetter lowerLetter)

def isOuterBlank (c : Char) : Bool :=
  c.toNat ≤ 0x20

def trimOuter (cs : List Char) : List Char :=
  Text.trimWhile isOuterBlank cs

def isSchemeChar (c : Char) : Bool :=
  isLetter c || Decimal.isDigit c || c == '+' || c == '-' || c == '.'

def readScheme (cs : List Char) : Except UrlFault (String × List Char) :=
  match cs with
  | [] => .error .noBase
  | c :: _ =>
    match isLetter c, cs.dropWhile isSchemeChar with
    | true, ':' :: rest =>
      .ok (String.ofList ((cs.takeWhile isSchemeChar).map lowerLetter), rest)
    | _, _ => .error .noBase

def endsAuthority (kind : SchemeKind) (c : Char) : Bool :=
  c == '/' || c == '?' || c == '#' || (kind != .plain && c == '\\')

def splitLastAt (cs : List Char) : Option (List Char × List Char) :=
  match cs.reverse.dropWhile (· != '@') with
  | [] => none
  | _ :: before => some (before.reverse, (cs.reverse.takeWhile (· != '@')).reverse)

def readUser (cs : List Char) : List Char × List Char :=
  let user := cs.takeWhile (· != ':')
  let password := (cs.dropWhile (· != ':')).drop 1
  (percentEncode inUserSet user, percentEncode inUserSet password)

def splitHost : Bool → List Char → List Char × List Char
  | _, [] => ([], [])
  | bracketed, c :: rest =>
    if c = ':' ∧ !bracketed then ([], c :: rest)
    else
      let (host, rest) :=
        splitHost (if c = '[' then true else if c = ']' then false else bracketed) rest
      (c :: host, rest)

/-- Reads a port. A backslash ends it whatever the scheme is; what follows it then belongs to the
path. -/
def readPort (scheme : String) (cs : List Char) : Except UrlFault (Option Nat × List Char) :=
  let run := cs.takeWhile Decimal.isDigit
  let rest := cs.dropWhile Decimal.isDigit
  if 65535 < Decimal.ofDigits run then .error .invalidPort
  else if rest.isEmpty ∨ rest.head? = some '\\' then
    let port := Decimal.ofDigits run
    .ok (if run.isEmpty ∨ defaultPort? scheme = some port then none else some port, rest)
  else .error .invalidPort

def readHost (kind : SchemeKind) (cs : List Char) : Except UrlFault Host :=
  match kind with
  | .plain => Host.ofOpaqueText cs
  | _ => if cs.isEmpty then .error .emptyHost else Host.ofText cs

/-- Reads an authority, and what a port leaves of it to the path. A user and a port need a host,
and so does an `@` if more of the URL follows. -/
def readAuthority (scheme : String) (kind : SchemeKind) (cs : List Char) (isLast : Bool) :
    Except UrlFault (Authority × List Char) := do
  let (userText, hostText) := (splitLastAt cs).getD ([], cs)
  if cs = ['@'] ∧ !isLast then .error .emptyHost
  else
    let (user, password) := readUser userText
    let (hostText, rest) := splitHost false hostText
    let host ← readHost kind hostText
    if hostText.isEmpty then
      if rest.isEmpty ∧ user.isEmpty ∧ password.isEmpty then .ok (⟨[], [], none, none⟩, [])
      else .error .emptyHost
    else
      match rest with
      | ':' :: portText => do
        let (port, rest) ← readPort scheme portText
        .ok (⟨user, password, some host, port⟩, rest)
      | rest => .ok (⟨user, password, some host, none⟩, rest)

structure Tail where
  query : Option (List Char)
  fragment : Option (List Char)

def querySet : SchemeKind → Char → Bool
  | .plain => inQuerySet
  | _ => inSpecialQuerySet

def readFragment : List Char → Option (List Char)
  | '#' :: rest => some (percentEncode inFragmentSet rest)
  | _ => none

def readTail (kind : SchemeKind) : List Char → Tail
  | '?' :: rest =>
    ⟨some (percentEncode (querySet kind) (rest.takeWhile (· != '#'))),
      readFragment (rest.dropWhile (· != '#'))⟩
  | cs => ⟨none, readFragment cs⟩

def startsTail (c : Char) : Bool :=
  c == '?' || c == '#'

/-- The segments of the path after an authority. Where the host is the rule there is always
one. -/
def pathAfterAuthority (kind : SchemeKind) (cs : List Char) : List (List Char) :=
  match kind, cs with
  | .plain, [] => []
  | _, [] => readSegments kind []
  | kind, c :: rest =>
    if isSlash kind c then readSegments kind rest else readSegments kind (c :: rest)

def readAfterSlashes (scheme : String) (kind : SchemeKind) (cs : List Char) :
    Except UrlFault Url := do
  let after := cs.dropWhile fun c => !endsAuthority kind c
  let (authority, left) ←
    readAuthority scheme kind (cs.takeWhile fun c => !endsAuthority kind c) after.isEmpty
  let rest := left ++ after
  let tail := readTail kind (rest.dropWhile fun c => !startsTail c)
  let parts := pathAfterAuthority kind (rest.takeWhile fun c => !startsTail c)
  .ok ⟨scheme, some authority, .segments parts, tail.query, tail.fragment⟩

def readFileHost (cs : List Char) : Except UrlFault (Option Host) :=
  if cs.isEmpty then .ok none
  else
    match Host.ofText cs with
    | .error fault => .error fault
    | .ok host =>
      .ok (if host = .name ['l', 'o', 'c', 'a', 'l', 'h', 'o', 's', 't'] then none else some host)

/-- A path that was given a drive has no host. -/
def fileUrl (host : Option Host) (path : PathReader) (tail : Tail) : Url :=
  ⟨"file", some ⟨[], [], if path.onDrive then none else host, none⟩,
    .segments (trimSegments path.segments.reverse), tail.query, tail.fragment⟩

def afterSlash? (kind : SchemeKind) (cs : List Char) : Option (List Char) :=
  match cs.dropWhile isHidden with
  | [] => none
  | c :: rest => if isSlash kind c then some rest else none

/-- Reads what follows the two slashes of the scheme `file`. Without a host the path keeps its first
slash, so that it starts with an empty segment. -/
def readAfterFileSlashes (cs : List Char) (tail : Tail) : Except UrlFault Url := do
  let hostText := visible (cs.takeWhile fun c => !isSlash .file c)
  let path := cs.dropWhile fun c => !isSlash .file c
  if isDrive hostText then .ok (fileUrl none (readPath .file [] cs) tail)
  else
    match ← readFileHost hostText with
    | none => .ok (fileUrl none (readPath .file [] path) tail)
    | some host => .ok (fileUrl (some host) (readPath .file [] (path.drop 1)) tail)

def readFile (cs : List Char) : Except UrlFault Url :=
  let tail := readTail .file (visible (cs.dropWhile fun c => !startsTail c))
  let body := cs.takeWhile fun c => !startsTail c
  match afterSlash? .file body with
  | none => .ok (fileUrl none (readPath .file [] body) tail)
  | some rest =>
    match afterSlash? .file rest with
    | none => .ok (fileUrl none (readPath .file [] rest) tail)
    | some rest => readAfterFileSlashes rest tail

def readPlain (scheme : String) (cs : List Char) : Except UrlFault Url :=
  match cs with
  | '/' :: '/' :: rest => readAfterSlashes scheme .plain rest
  | cs =>
    let tail := readTail .plain (cs.dropWhile fun c => !startsTail c)
    let body := cs.takeWhile fun c => !startsTail c
    let path : Path :=
      match body with
      | '/' :: rest => .segments (readSegments .plain rest)
      | body => .opaqueText (percentEncode isControl body)
    .ok ⟨scheme, none, path, tail.query, tail.fragment⟩

/-- Reads a URL. In a file URL a hidden character may stand for a slash, so it is not dropped
first. -/
def parse (s : String) : Except UrlFault Url := do
  let cs := trimOuter s.toList
  let (scheme, rest) ← readScheme (visible cs)
  match schemeKind scheme with
  | .file => readFile ((cs.dropWhile (· != ':')).drop 1)
  | .special => readAfterSlashes scheme .special (rest.dropWhile (isSlash .special))
  | .plain => readPlain scheme rest

end HealControl.Url
