import HealControl.Text.Letter
import HealControl.Url.Basic

/-!
# Paths

A path is read segment by segment. A segment of one dot is dropped, one of two dots takes the
segment before it along, and either dot may be percent-encoded. In file URLs the letter of a drive
stays where it is, and a path that starts with one has no host.
-/
namespace HealControl.Url

open HealControl.Text (isLetter)

/-- Tabs and line breaks do not count in a URL. -/
def isHidden (c : Char) : Bool :=
  c == '\t' || c == '\n' || c == '\r'

def visible (cs : List Char) : List Char :=
  cs.filter fun c => !isHidden c

def isDrive : List Char → Bool
  | [a, b] => isLetter a && (b == ':' || b == '|')
  | _ => false

def isPlainDrive : List Char → Bool
  | [a, b] => isLetter a && b == ':'
  | _ => false

/-- A segment with its encoded dots written as dots. -/
def undot : List Char → List Char
  | '%' :: '2' :: 'e' :: rest => '.' :: undot rest
  | '%' :: '2' :: 'E' :: rest => '.' :: undot rest
  | c :: rest => c :: undot rest
  | [] => []

def isSingleDot (segment : List Char) : Bool :=
  undot segment == ['.']

def isDoubleDot (segment : List Char) : Bool :=
  undot segment == ['.', '.']

def leadsWithDrive (segment : List Char) : Bool :=
  isDrive (segment.take 2) && (segment.length == 2 || segment[2]? == some '\\')

/-- The segments before two dots, last first, without the last one. The letter of a drive is
kept. -/
def parent : List (List Char) → List (List Char)
  | [] => []
  | segment :: rest => if leadsWithDrive segment then segment :: rest else rest

/-- A path in the middle of being read: its segments, last first, and whether the first of them was
given as the letter of a drive. -/
structure PathReader where
  segments : List (List Char)
  onDrive : Bool

def PathReader.after (before : List (List Char)) : PathReader :=
  ⟨before, false⟩

/-- Keeps a segment. In a file URL the first one may be the letter of a drive, which is then
followed by a colon. -/
def PathReader.keep (kind : SchemeKind) (r : PathReader) (segment : List Char) : PathReader :=
  if kind = .file ∧ r.segments = [] ∧ isDrive segment then ⟨[segment.take 1 ++ [':']], true⟩
  else { r with segments := segment :: r.segments }

def PathReader.push (kind : SchemeKind) (r : PathReader) (segment : List Char) : PathReader :=
  if isDoubleDot segment then { r with segments := parent r.segments }
  else if isSingleDot segment then r
  else r.keep kind segment

def PathReader.finish (kind : SchemeKind) (r : PathReader) (segment : List Char) : PathReader :=
  if isDoubleDot segment then { r with segments := [] :: parent r.segments }
  else if isSingleDot segment then { r with segments := [] :: r.segments }
  else r.keep kind segment

/-- The two parts of the first segment of a file URL that starts with the letter of a drive and a
colon, right after which a hidden character stands and later one that counts. -/
def hiddenBreak? (kind : SchemeKind) (r : PathReader) (segment : List Char) :
    Option (List Char × List Char) :=
  match kind, r.segments, segment.dropWhile isHidden with
  | .file, [], a :: afterLetter =>
    match afterLetter.dropWhile isHidden with
    | ':' :: b :: rest =>
      if isLetter a ∧ isHidden b ∧ visible rest ≠ [] then some ([a, ':'], visible rest) else none
    | _ => none
  | _, _, _ => none

/-- The path with its segments. A hidden break makes two segments of one, and what follows it is
kept even if it is dots. -/
def PathReader.pushAll (kind : SchemeKind) (r : PathReader) : List (List Char) → PathReader
  | [] => r
  | segment :: rest =>
    match hiddenBreak? kind r segment with
    | some (drive, after) =>
      pushAll kind { r with segments := [percentEncode inPathSet after, drive] } rest
    | none =>
      let segment := percentEncode inPathSet (visible segment)
      if rest.isEmpty then r.finish kind segment else pushAll kind (r.push kind segment) rest

def isSlash (kind : SchemeKind) (c : Char) : Bool :=
  c == '/' || (kind != .plain && c == '\\')

def readPath (kind : SchemeKind) (before : List (List Char)) (cs : List Char) : PathReader :=
  (PathReader.after before).pushAll kind (cs.splitOnP (isSlash kind))

def readSegments (kind : SchemeKind) (cs : List Char) : List (List Char) :=
  (readPath kind [] cs).segments.reverse

def trimSegments (parts : List (List Char)) : List (List Char) :=
  match parts.dropWhile List.isEmpty with
  | [] => [[]]
  | parts => parts

end HealControl.Url
