import HealControl.Json.Doc

/-!
# Reading documents

The reader takes one byte at a time. It keeps the lists and objects that are still open, innermost
first, and what it expects next. A byte that fits nothing stops it: the break becomes the last
value of the innermost frame, and the frames around it are cut there.
-/
namespace HealControl.Json

/-- A list or object around a value that is not finished, with its contents so far, last first. -/
inductive Frame
  | item (items : List Doc)
  | key (fields : List (Doc × Doc))
  | field (fields : List (Doc × Doc)) (key : Doc)

/-- A place between two tokens, with the frames around it. The contents of the innermost list or
object are given last first; there are none at `firstItem` and `firstKey`. -/
inductive Place
  | value (outer : List Frame)
  | firstItem (outer : List Frame)
  | item (items : List Doc) (outer : List Frame)
  | afterItem (items : List Doc) (outer : List Frame)
  | firstKey (outer : List Frame)
  | key (fields : List (Doc × Doc)) (outer : List Frame)
  | colon (fields : List (Doc × Doc)) (key : Doc) (outer : List Frame)
  | afterField (fields : List (Doc × Doc)) (outer : List Frame)
  | done (root : Doc)

inductive NumberPart
  | minus
  | zero
  | whole
  | point
  | fraction
  | mark
  | markSign
  | exponent
deriving DecidableEq, Repr

/-- A number in the middle of being read, its digits last first. -/
structure NumberReader where
  part : NumberPart
  negative : Bool
  whole : List Nat
  fraction : List Nat
  exponentNegative : Bool
  exponent : List Nat

/-- What was read last of a text literal; a hexadecimal escape holds its digits so far, last
first. -/
inductive TextPart
  | plain
  | escape
  | hex (digits : List UInt8)

structure TextReader where
  part : TextPart
  pieces : List Piece

inductive Reader
  | between (place : Place)
  | word (rest : List UInt8) (value : Doc) (outer : List Frame)
  | number (n : NumberReader) (outer : List Frame)
  | text (t : TextReader) (outer : List Frame)
  | stopped (document : Document)

def isSpace (b : UInt8) : Bool :=
  b == 0x20 || b == 0x0A || b == 0x09 || b == 0x0D

def decimal? (b : UInt8) : Option Nat :=
  if 0x30 ≤ b.toNat ∧ b.toNat ≤ 0x39 then some (b.toNat - 0x30) else none

def hexadecimal? (b : UInt8) : Option Nat :=
  let n := b.toNat
  if 0x30 ≤ n ∧ n ≤ 0x39 then some (n - 0x30)
  else if 0x41 ≤ n ∧ n ≤ 0x46 then some (n - 0x37)
  else if 0x61 ≤ n ∧ n ≤ 0x66 then some (n - 0x57)
  else none

def deliver (d : Doc) : List Frame → Place
  | [] => .done d
  | .item items :: outer => .afterItem (d :: items) outer
  | .key fields :: outer => .colon fields d outer
  | .field fields key :: outer => .afterField ((key, d) :: fields) outer

/-- The document that holds `d` as its last part, with all frames around it cut. -/
def enclose (d : Doc) : List Frame → Doc
  | [] => d
  | .item items :: outer => enclose (.list (d :: items).reverse .cut) outer
  | .key fields :: outer =>
    enclose (.object ((d, .absent .endOfObject) :: fields).reverse .cut) outer
  | .field fields key :: outer => enclose (.object ((key, d) :: fields).reverse .cut) outer

def endWith (d : Doc) (outer : List Frame) : Document :=
  ⟨enclose d outer, false⟩

def stop (d : Doc) (outer : List Frame) : Reader :=
  .stopped (endWith d outer)

def NumberReader.begin (part : NumberPart) (negative : Bool) (whole : List Nat) : NumberReader :=
  ⟨part, negative, whole, [], false, []⟩

def startValue (b : UInt8) (outer : List Frame) : Reader :=
  if b = 0x22 then .text ⟨.plain, []⟩ outer
  else if b = 0x5B then .between (.firstItem outer)
  else if b = 0x7B then .between (.firstKey outer)
  else if b = 0x6E then .word [0x75, 0x6C, 0x6C] .null outer
  else if b = 0x74 then .word [0x72, 0x75, 0x65] (.bool true) outer
  else if b = 0x66 then .word [0x61, 0x6C, 0x73, 0x65] (.bool false) outer
  else if b = 0x2D then .number (.begin .minus true []) outer
  else if b = 0x30 then .number (.begin .zero false [0]) outer
  else
    match decimal? b with
    | some d => .number (.begin .whole false [d]) outer
    | none => stop (.absent .expectedValue) outer

def Place.token (b : UInt8) : Place → Reader
  | .value outer => startValue b outer
  | .firstItem outer =>
    if b = 0x5D then .between (deliver (.list [] .closed) outer)
    else startValue b (.item [] :: outer)
  | .item items outer =>
    if b = 0x5D then stop (.list items.reverse .dangling) outer
    else startValue b (.item items :: outer)
  | .afterItem items outer =>
    if b = 0x2C then .between (.item items outer)
    else if b = 0x5D then .between (deliver (.list items.reverse .closed) outer)
    else stop (.list items.reverse .junk) outer
  | .firstKey outer =>
    if b = 0x7D then .between (deliver (.object [] .closed) outer)
    else startValue b (.key [] :: outer)
  | .key fields outer =>
    if b = 0x7D then stop (.object fields.reverse .dangling) outer
    else startValue b (.key fields :: outer)
  | .colon fields name outer =>
    if b = 0x3A then .between (.value (.field fields name :: outer))
    else stop (.absent .expectedColon) (.field fields name :: outer)
  | .afterField fields outer =>
    if b = 0x2C then .between (.key fields outer)
    else if b = 0x7D then .between (deliver (.object fields.reverse .closed) outer)
    else stop (.object fields.reverse .junk) outer
  | .done root => .stopped ⟨root, true⟩

def Place.step (p : Place) (b : UInt8) : Reader :=
  if isSpace b then .between p else p.token b

def NumberReader.number? (n : NumberReader) : Option Number :=
  match n.part with
  | .zero | .whole => some ⟨n.negative, n.whole.reverse, [], none⟩
  | .fraction => some ⟨n.negative, n.whole.reverse, n.fraction.reverse, none⟩
  | .exponent =>
    some ⟨n.negative, n.whole.reverse, n.fraction.reverse,
      some ⟨n.exponentNegative, n.exponent.reverse⟩⟩
  | _ => none

/-- A zero at the front is not followed by another digit. -/
def NumberReader.pushDigit? (n : NumberReader) (d : Nat) : Option NumberReader :=
  match n.part with
  | .minus => some { n with part := if d = 0 then .zero else .whole, whole := [d] }
  | .zero => none
  | .whole => some { n with whole := d :: n.whole }
  | .point | .fraction => some { n with part := .fraction, fraction := d :: n.fraction }
  | .mark | .markSign | .exponent =>
    some { n with part := .exponent, exponent := d :: n.exponent }

def NumberReader.pushMark? (n : NumberReader) (b : UInt8) : Option NumberReader :=
  match n.part with
  | .zero | .whole =>
    if b = 0x2E then some { n with part := .point }
    else if b = 0x65 ∨ b = 0x45 then some { n with part := .mark }
    else none
  | .fraction => if b = 0x65 ∨ b = 0x45 then some { n with part := .mark } else none
  | .mark =>
    if b = 0x2B then some { n with part := .markSign }
    else if b = 0x2D then some { n with part := .markSign, exponentNegative := true }
    else none
  | _ => none

def NumberReader.step (n : NumberReader) (outer : List Frame) (b : UInt8) : Reader :=
  match decimal? b with
  | some d =>
    match n.pushDigit? d with
    | some n => .number n outer
    | none => stop (.broken .invalidNumber) outer
  | none =>
    match n.pushMark? b, n.number? with
    | some n, _ => .number n outer
    | none, some value => (deliver (.number value) outer).step b
    | none, none => stop (.broken .invalidNumber) outer

def escaped? (b : UInt8) : Option UInt8 :=
  if b = 0x22 ∨ b = 0x5C ∨ b = 0x2F then some b
  else if b = 0x62 then some 0x08
  else if b = 0x66 then some 0x0C
  else if b = 0x6E then some 0x0A
  else if b = 0x72 then some 0x0D
  else if b = 0x74 then some 0x09
  else none

def TextReader.literal (t : TextReader) (closing : Closing) : Literal :=
  ⟨t.pieces.reverse, closing⟩

def hexValue? : List UInt8 → Option Nat
  | [] => some 0
  | b :: rest => do return 16 * (← hexValue? rest) + (← hexadecimal? b)

def TextReader.step (t : TextReader) (outer : List Frame) (b : UInt8) : Reader :=
  match t.part with
  | .plain =>
    if b = 0x22 then .between (deliver (.text (t.literal .closed)) outer)
    else if b = 0x5C then .text { t with part := .escape } outer
    else if b.toNat < 0x20 then stop (.text (t.literal .control)) outer
    else .text { t with pieces := .byte b :: t.pieces } outer
  | .escape =>
    if b = 0x75 then .text { t with part := .hex [] } outer
    else
      match escaped? b with
      | some c => .text ⟨.plain, .byte c :: t.pieces⟩ outer
      | none => stop (.text (t.literal .unknownEscape)) outer
  | .hex digits =>
    if digits.length < 3 then .text { t with part := .hex (b :: digits) } outer
    else
      match hexValue? (b :: digits) with
      | some n => .text ⟨.plain, .unit n :: t.pieces⟩ outer
      | none => stop (.text (t.literal .badHex)) outer

/-- Takes a byte inside one of the words `null`, `true` and `false`, of which `rest` is still to
come. -/
def wordStep (rest : List UInt8) (value : Doc) (outer : List Frame) (b : UInt8) : Reader :=
  match rest with
  | [] => (deliver value outer).step b
  | c :: rest =>
    if b = c then
      if rest.isEmpty then .between (deliver value outer) else .word rest value outer
    else stop (.broken .expectedWord) outer

def Reader.step (r : Reader) (b : UInt8) : Reader :=
  match r with
  | .between place => place.step b
  | .word rest value outer => wordStep rest value outer b
  | .number n outer => n.step outer b
  | .text t outer => t.step outer b
  | .stopped document => .stopped document

def Place.finish : Place → Document
  | .value outer => endWith (.absent .endOfValue) outer
  | .firstItem outer => endWith (.list [] .cut) outer
  | .item items outer => endWith (.absent .endOfValue) (.item items :: outer)
  | .afterItem items outer => endWith (.list items.reverse .cut) outer
  | .firstKey outer => endWith (.object [] .cut) outer
  | .key fields outer => endWith (.object fields.reverse .cutAfterComma) outer
  | .colon fields name outer => endWith (.absent .endOfObject) (.field fields name :: outer)
  | .afterField fields outer => endWith (.object fields.reverse .cut) outer
  | .done root => ⟨root, false⟩

def Reader.finish : Reader → Document
  | .between place => place.finish
  | .word _ _ outer => endWith (.broken .endOfValue) outer
  | .number n outer =>
    match n.number? with
    | some value => (deliver (.number value) outer).finish
    | none => endWith .cutNumber outer
  | .text t outer => endWith (.text (t.literal .cut)) outer
  | .stopped document => document

def Reader.initial : Reader :=
  .between (.value [])

def Document.ofBytes (bytes : List UInt8) : Document :=
  (bytes.foldl Reader.step .initial).finish

end HealControl.Json
