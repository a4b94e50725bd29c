import HealControl.Url.Parser

/-!
# Addresses on a host

The URL of an absolute path on the host of another URL, and values that are added to its query.
-/
namespace HealControl.Url

/-- The letter of the drive that an absolute path of a file URL inherits from the base. -/
def inheritedDrive (base : Url) : List (List Char) :=
  match schemeKind base.scheme, base.path with
  | .file, .segments (first :: _) => if isPlainDrive first then [first] else []
  | _, _ => []

/-- The URL that the text of an absolute path, with an optional query and fragment, names on the
host of a base. The path, query and fragment of the base do not count. A path on a drive has no
host. -/
def resolve (base : Url) (reference : String) : Except UrlFault Url :=
  match base.path with
  | .opaqueText _ => .error .opaqueBase
  | .segments _ =>
    let kind := schemeKind base.scheme
    let drive := inheritedDrive base
    let cs := trimOuter reference.toList
    let tail := readTail kind (visible (cs.dropWhile fun c => !startsTail c))
    let body := cs.takeWhile fun c => !startsTail c
    let parts := (readPath kind drive ((afterSlash? kind body).getD body)).segments.reverse
    .ok { base with
          authority := if drive.isEmpty then base.authority else some ⟨[], [], none, none⟩
          path := .segments (if kind = .file then trimSegments parts else parts)
          query := tail.query
          fragment := tail.fragment }

def formPair (pair : String × String) : List Char :=
  formEncode pair.1 ++ '=' :: formEncode pair.2

def formPairs : List Char → List (String × String) → List Char
  | cs, [] => cs
  | cs, pair :: rest =>
    formPairs (cs ++ (if cs.isEmpty then [] else ['&']) ++ formPair pair) rest

def withPairs (u : Url) (pairs : List (String × String)) : Url :=
  if pairs.isEmpty then u else { u with query := some (formPairs (u.query.getD []) pairs) }

end HealControl.Url
