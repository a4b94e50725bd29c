import HealControl.Text.Utf8
import HealControl.Url.Domain.Direction
import HealControl.Url.Domain.Folding
import HealControl.Url.Domain.Joiner
import HealControl.Url.Punycode

/-!
# Domain names in ASCII

A domain name is folded and composed first. A label of it with characters outside ASCII is then
sent as `xn--` and its code. A label that already looks like that has to be the code of such a
label, and that label has to be folded and composed already.
-/
namespace HealControl.Url

open HealControl.Text (isMark)

/-- The characters of ASCII that no domain name may hold: controls, spaces and the delimiters of a
URL. -/
def isForbiddenInDomain (c : Char) : Bool :=
  c.toNat ≤ 0x20 || c.toNat == 0x7F || c == '%' || c == '#' || c == '/' || c == ':' || c == '<' ||
    c == '>' || c == '?' || c == '@' || c == '[' || c == '\\' || c == ']' || c == '^' || c == '|'

def foldDomain? (cs : List Char) : Option (List Char) := do
  let folded ← cs.mapM Domain.foldChar?
  some (if folded.all (·.all (·.toNat < 0x80)) then folded.flatten
    else Domain.compose folded.flatten)

def isAscii (label : List Char) : Bool :=
  label.all fun c => c.toNat < 0x80

def longestLabel : Nat := 1000

def longestCode : Nat := 2000

/-- The label of a code. It has a character outside ASCII, and none that would be folded. -/
def labelOfCode? (code : List Char) : Option (List Char) := do
  let label ← if code.length ≤ longestCode then Punycode.decode? code else none
  if Punycode.encode label = code ∧ !isAscii label ∧ foldDomain? label = some label then some label
  else none

/-- Whether a label outside ASCII may stand in a name: it does not start with a mark, its joiners
make a difference, and it is not too long. -/
def isWellFormedLabel (label : List Char) : Bool :=
  !label.head?.any isMark && Domain.joinersFit [] label && label.length ≤ longestLabel

def readLabel? (label : List Char) : Option (List Char) := do
  let label ←
    match label with
    | 'x' :: 'n' :: '-' :: '-' :: code => labelOfCode? code
    | _ => some label
  if isAscii label || isWellFormedLabel label then some label else none

def writeLabel (label : List Char) : List Char :=
  if isAscii label then label else 'x' :: 'n' :: '-' :: '-' :: Punycode.encode label

def domainToAscii? (bytes : List UInt8) : Option (List Char) := do
  let cs ← foldDomain? (← Text.Utf8.decode? bytes)
  if cs.any isForbiddenInDomain then none
  else
    let labels ← (cs.splitOn '.').mapM readLabel?
    if Domain.directionsFit labels then some (['.'].intercalate (labels.map writeLabel)) else none

end HealControl.Url
