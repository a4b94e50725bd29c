import HealControl.Decimal.Digits
import HealControl.Url.Domain
import HealControl.Url.Percent

/-!
# Hosts

A host is a name, or an address of version 4 or 6 of the Internet Protocol. A name that ends like
a number is read as an address of version 4, in any of its short, octal and hexadecimal spellings.
-/
namespace HealControl.Url

inductive UrlFault
  | emptyHost
  | invalidPort
  | invalidIpv4
  | invalidIpv6
  | invalidDomain
  | invalidDomainCharacter
  | noBase
  | opaqueBase
deriving DecidableEq, Repr

def UrlFault.message : UrlFault → String
  | .emptyHost => "empty host"
  | .invalidPort => "invalid port number"
  | .invalidIpv4 => "invalid IPv4 address"
  | .invalidIpv6 => "invalid IPv6 address"
  | .invalidDomain => "invalid international domain name"
  | .invalidDomainCharacter => "invalid domain character"
  | .noBase => "relative URL without a base"
  | .opaqueBase => "relative URL with a cannot-be-a-base base"

inductive Host
  | name (cs : List Char)
  | ipv4 (address : Nat)
  | ipv6 (pieces : List Nat)
deriving DecidableEq, Repr

def numberOf? (base : Nat) : Nat → List Char → Option Nat
  | n, [] => some n
  | n, c :: rest => do
    let d ← hexValue? c
    if d < base then numberOf? base (n * base + d) rest else none

/-- A number in an address of version 4: decimal, octal after a zero, or hexadecimal. -/
def ipv4Number? : List Char → Option Nat
  | [] => none
  | '0' :: 'x' :: rest => numberOf? 16 0 rest
  | '0' :: 'X' :: rest => numberOf? 16 0 rest
  | ['0'] => some 0
  | '0' :: rest => numberOf? 8 0 rest
  | cs => numberOf? 10 0 cs

def dottedParts (cs : List Char) : List (List Char) :=
  let parts := cs.splitOn '.'
  match parts.getLast? with
  | some [] => parts.dropLast
  | _ => parts

def endsInNumber (cs : List Char) : Bool :=
  match (dottedParts cs).getLast? with
  | none => false
  | some last => (!last.isEmpty && last.all Decimal.isDigit) || (ipv4Number? last).isSome

/-- The address whose first bytes are `heads`, with the number `last` in the remaining ones. -/
def ipv4Of? (heads : List Nat) (last : Nat) : Option Nat :=
  if heads.length < 4 ∧ last < Nat.pow 256 (4 - heads.length) ∧ heads.all (· < 256) then
    some (heads.foldl (fun n h => n * 256 + h) 0 * Nat.pow 256 (4 - heads.length) + last)
  else none

def ipv4? (cs : List Char) : Option Nat := do
  let numbers ← (dottedParts cs).mapM ipv4Number?
  let last ← numbers.getLast?
  ipv4Of? numbers.dropLast last

def decimalByte? (cs : List Char) : Option Nat :=
  if cs.isEmpty ∨ !cs.all Decimal.isDigit ∨ (cs.head? = some '0' ∧ 1 < cs.length) then none
  else
    let n := Decimal.ofDigits cs
    if n < 256 then some n else none

def dottedPieces? (cs : List Char) : Option (List Nat) := do
  match ← (cs.splitOn '.').mapM decimalByte? with
  | [a, b, c, d] => some [a * 256 + b, c * 256 + d]
  | _ => none

/-- The pieces of a group: one of up to four hexadecimal digits, or two in the form of version 4
if that is allowed. -/
def groupPieces? (dotted : Bool) (cs : List Char) : Option (List Nat) :=
  if cs.isEmpty then none
  else if dotted && cs.contains '.' then dottedPieces? cs
  else if cs.length ≤ 4 then (numberOf? 16 0 cs).map fun n => [n]
  else none

def groupsPieces? (dotted : Bool) : List (List Char) → Option (List Nat)
  | [] => some []
  | [g] => groupPieces? dotted g
  | g :: rest => do return (← groupPieces? false g) ++ (← groupsPieces? dotted rest)

def textPieces? (dotted : Bool) (cs : List Char) : Option (List Nat) :=
  if cs.isEmpty then some [] else groupsPieces? dotted (cs.splitOn ':')

def splitPair : List Char → Option (List Char × List Char)
  | ':' :: ':' :: rest => some ([], rest)
  | c :: rest => (splitPair rest).map fun (a, b) => (c :: a, b)
  | [] => none

/-- Reads an address of version 6. A pair of colons stands for one or more pieces of zero. -/
def ipv6? (cs : List Char) : Option (List Nat) :=
  match splitPair cs with
  | none => do
    let pieces ← groupsPieces? true (cs.splitOn ':')
    if pieces.length = 8 then some pieces else none
  | some (a, b) => do
    let left ← textPieces? false a
    let right ← textPieces? true b
    if left.length + right.length < 8 then
      some (left ++ List.replicate (8 - left.length - right.length) 0 ++ right)
    else none

def bracketed (cs : List Char) : Except UrlFault Host :=
  if cs.getLast? = some ']' then
    match ipv6? (cs.drop 1).dropLast with
    | some pieces => .ok (.ipv6 pieces)
    | none => .error .invalidIpv6
  else .error .invalidIpv6

def Host.ofText (cs : List Char) : Except UrlFault Host :=
  if cs.head? = some '[' then bracketed cs
  else
    match domainToAscii? (percentDecode cs) with
    | none => .error .invalidDomain
    | some domain =>
      if domain.isEmpty then .error .emptyHost
      else if endsInNumber domain then
        match ipv4? domain with
        | some address => .ok (.ipv4 address)
        | none => .error .invalidIpv4
      else .ok (.name domain)

def isForbiddenInHost (c : Char) : Bool :=
  c.toNat == 0 || c == '\t' || c == '\n' || c == '\r' || c == ' ' || c == '#' || c == '/' ||
    c == ':' || c == '<' || c == '>' || c == '?' || c == '@' || c == '[' || c == '\\' ||
    c == ']' || c == '^' || c == '|'

/-- The host of a scheme that is not special is taken as it is. -/
def Host.ofOpaqueText (cs : List Char) : Except UrlFault Host :=
  if cs.head? = some '[' then bracketed cs
  else if cs.any isForbiddenInHost then .error .invalidDomainCharacter
  else .ok (.name (percentEncode isControl cs))

def zeroRun (pieces : List Nat) : Nat :=
  (pieces.takeWhile (· == 0)).length

/-- Where the first of the longest runs of zeros starts, and its length, for runs longer than
`best`. -/
def longestZeroRun : Nat → Nat → List Nat → Option (Nat × Nat)
  | _, _, [] => none
  | start, best, n :: rest =>
    let run := zeroRun (n :: rest)
    if best < run then
      match longestZeroRun (start + 1) run rest with
      | some found => some found
      | none => some (start, run)
    else longestZeroRun (start + 1) best rest

def piecesText (pieces : List Nat) : List Char :=
  [':'].intercalate (pieces.map (Nat.toDigits 16))

/-- The first of the longest runs of two or more pieces of zero is left out. -/
def Host.text : Host → List Char
  | .name cs => cs
  | .ipv4 address =>
    ['.'].intercalate ([address / 16777216 % 256, address / 65536 % 256, address / 256 % 256,
      address % 256].map Decimal.digits)
  | .ipv6 pieces =>
    '[' ::
      (match longestZeroRun 0 1 pieces with
      | none => piecesText pieces
      | some (start, run) =>
        piecesText (pieces.take start) ++ [':', ':'] ++ piecesText (pieces.drop (start + run))) ++
      [']']

end HealControl.Url
