import HealControl.Json.Literal
import HealControl.Json.Number

/-!
# Documents

A document is read into a tree before it is given a type. The tree also holds what broke: reading
goes on up to the first byte that fits no document, and the break stays in its place. What it
means depends on who looks. A decoder reports the first break or misfit that it meets; `Doc.skip`
is the decoder that only wants a well-formed value.
-/
namespace HealControl.Json

/-- How a list ends: with its bracket, with a comma before it, with the end of what could be read,
or with something that is neither a comma nor the bracket. -/
inductive ListEnd
  | closed
  | dangling
  | cut
  | junk
deriving DecidableEq, Repr

/-- How an object ends. It may be cut where a key has to follow a comma. -/
inductive ObjectEnd
  | closed
  | dangling
  | cut
  | cutAfterComma
  | junk
deriving DecidableEq, Repr

/-- A document. The key of an object's field is a document too, for only some readers insist on a
text. A value is `absent` when no token starts where it should stand, `broken` when a word or
number starts but does not go on as it should, and a `cutNumber` when the text ends within a
number. -/
inductive Doc
  | null
  | bool (b : Bool)
  | number (n : Number)
  | text (l : Literal)
  | list (items : List Doc) (ending : ListEnd)
  | object (fields : List (Doc × Doc)) (ending : ObjectEnd)
  | absent (fault : SyntaxFault)
  | broken (fault : SyntaxFault)
  | cutNumber

instance : Inhabited Doc := ⟨.null⟩

structure Document where
  root : Doc
  trailing : Bool

def ListEnd.fault? : ListEnd → Option SyntaxFault
  | .closed => none
  | .dangling => some .trailingComma
  | .cut => some .endOfList
  | .junk => some .expectedListCommaOrEnd

def ObjectEnd.fault? : ObjectEnd → Option SyntaxFault
  | .closed => none
  | .dangling => some .trailingComma
  | .cut => some .endOfObject
  | .cutAfterComma => some .endOfValue
  | .junk => some .expectedObjectCommaOrEnd

def ListEnd.skip : ListEnd → Except SyntaxFault Unit
  | .dangling => .error .expectedValue
  | ending =>
    match ending.fault? with
    | some fault => .error fault
    | none => .ok ()

def ObjectEnd.skip : ObjectEnd → Except SyntaxFault Unit
  | .dangling => .error .keyNotText
  | .cutAfterComma => .error .endOfObject
  | ending =>
    match ending.fault? with
    | some fault => .error fault
    | none => .ok ()

def Doc.skipKey : Doc → Except SyntaxFault Unit
  | .text l => l.skip
  | _ => .error .keyNotText

mutual

/-- Passes over a value, which must be well formed. Its numbers may be of any size, and its texts
need not spell anything. -/
def Doc.skip : Doc → Except SyntaxFault Unit
  | .null => .ok ()
  | .bool _ => .ok ()
  | .number _ => .ok ()
  | .text l => l.skip
  | .list items ending => do skipItems items; ending.skip
  | .object fields ending => do skipFields fields; ending.skip
  | .absent fault => .error fault
  | .broken fault => .error fault
  | .cutNumber => .error .invalidNumber

def skipItems : List Doc → Except SyntaxFault Unit
  | [] => .ok ()
  | d :: rest => do d.skip; skipItems rest

def skipFields : List (Doc × Doc) → Except SyntaxFault Unit
  | [] => .ok ()
  | f :: rest => do skipField f; skipFields rest

def skipField : Doc × Doc → Except SyntaxFault Unit
  | (key, value) => do key.skipKey; value.skip

end

/-- Reports what is there in place of something else. Lists and objects are not looked into. -/
def Doc.found : Doc → Except SyntaxFault Found
  | .null => .ok .null
  | .bool b => .ok (.boolean b)
  | .number n => n.found
  | .text l => do return .text (← l.text)
  | .list .. => .ok .list
  | .object .. => .ok .map
  | .absent fault => .error fault
  | .broken fault => .error fault
  | .cutNumber => .error .endOfValue

end HealControl.Json
