import HealControl.Json.Reader
import Mathlib.Tactic.IntervalCases

/-!
# The grammar of documents

The texts of a document, apart from how they are read: blanks may stand between tokens, a character
of a literal may be escaped, a number may have a fraction and an exponent. The reader finds in every
text of a document that document, so what can be read of a document does not depend on which of its
texts is given. It is followed through the text from the outside in: a place that awaits a value is
left by the first byte of any value, and when the last byte has been read the document is in its
place, but for a number, which only the next byte shows to have ended.
-/
namespace HealControl.Json

/-! ## Texts -/

def Blanks (bytes : List UInt8) : Prop :=
  ∀ b ∈ bytes, isSpace b = true

/-- A byte may stand for itself or be escaped; a code unit is given by its four digits. -/
inductive Piece.SpelledAs : Piece → List UInt8 → Prop
  | plain {b : UInt8} (hquote : b ≠ 0x22) (hslash : b ≠ 0x5C) (hcontrol : 0x20 ≤ b.toNat) :
      Piece.SpelledAs (.byte b) [b]
  | escape {b c : UInt8} (h : escaped? b = some c) : Piece.SpelledAs (.byte c) [0x5C, b]
  | unit {digits : List UInt8} {n : Nat} (hlength : digits.length = 4)
      (h : hexValue? digits.reverse = some n) :
      Piece.SpelledAs (.unit n) (0x5C :: 0x75 :: digits)

inductive PiecesSpelledAs : List Piece → List UInt8 → Prop
  | nil : PiecesSpelledAs [] []
  | cons {piece : Piece} {pieces : List Piece} {bytes rest : List UInt8}
      (h : piece.SpelledAs bytes) (hrest : PiecesSpelledAs pieces rest) :
      PiecesSpelledAs (piece :: pieces) (bytes ++ rest)

inductive Literal.SpelledAs : Literal → List UInt8 → Prop
  | intro {pieces : List Piece} {bytes : List UInt8} (h : PiecesSpelledAs pieces bytes) :
      Literal.SpelledAs ⟨pieces, .closed⟩ (0x22 :: bytes ++ [0x22])

structure Digits (digits : List Nat) : Prop where
  nonempty : digits ≠ []
  decimal : ∀ d ∈ digits, d < 10

def digitBytes (digits : List Nat) : List UInt8 :=
  digits.map fun d => (0x30 + d).toUInt8

inductive FractionSpelledAs : List Nat → List UInt8 → Prop
  | none : FractionSpelledAs [] []
  | some {digits : List Nat} (h : Digits digits) :
      FractionSpelledAs digits (0x2E :: digitBytes digits)

inductive SignSpelledAs : Bool → List UInt8 → Prop
  | none : SignSpelledAs false []
  | plus : SignSpelledAs false [0x2B]
  | minus : SignSpelledAs true [0x2D]

inductive ExponentSpelledAs : Option Exponent → List UInt8 → Prop
  | none : ExponentSpelledAs none []
  | some {mark : UInt8} {negative : Bool} {sign : List UInt8} {digits : List Nat}
      (hmark : mark = 0x65 ∨ mark = 0x45) (hsign : SignSpelledAs negative sign)
      (h : Digits digits) :
      ExponentSpelledAs (some ⟨negative, digits⟩) (mark :: (sign ++ digitBytes digits))

/-- The digits before the point, with no zero at the front unless that is the only one. -/
structure WholeDigits (digits : List Nat) : Prop extends Digits digits where
  zero : digits.head? = some 0 → digits = [0]

inductive Number.SpelledAs : Number → List UInt8 → Prop
  | intro {negative : Bool} {whole fraction : List Nat} {exponent : Option Exponent}
      {fractionBytes exponentBytes : List UInt8} (hwhole : WholeDigits whole)
      (hfraction : FractionSpelledAs fraction fractionBytes)
      (hexponent : ExponentSpelledAs exponent exponentBytes) :
      Number.SpelledAs ⟨negative, whole, fraction, exponent⟩
        ((if negative then [0x2D] else []) ++ (digitBytes whole ++ (fractionBytes ++ exponentBytes)))

mutual

/-- The texts of a document without blanks around them. -/
inductive Doc.SpelledAs : Doc → List UInt8 → Prop
  | null : Doc.SpelledAs .null [0x6E, 0x75, 0x6C, 0x6C]
  | true : Doc.SpelledAs (.bool true) [0x74, 0x72, 0x75, 0x65]
  | false : Doc.SpelledAs (.bool false) [0x66, 0x61, 0x6C, 0x73, 0x65]
  | number {n : Number} {bytes : List UInt8} (h : n.SpelledAs bytes) :
      Doc.SpelledAs (.number n) bytes
  | text {l : Literal} {bytes : List UInt8} (h : l.SpelledAs bytes) : Doc.SpelledAs (.text l) bytes
  | emptyList {blanks : List UInt8} (h : Blanks blanks) :
      Doc.SpelledAs (.list [] .closed) (0x5B :: (blanks ++ [0x5D]))
  | list {items : List Doc} {bytes : List UInt8} (h : ItemsWrittenAs items bytes) :
      Doc.SpelledAs (.list items .closed) (0x5B :: (bytes ++ [0x5D]))
  | emptyObject {blanks : List UInt8} (h : Blanks blanks) :
      Doc.SpelledAs (.object [] .closed) (0x7B :: (blanks ++ [0x7D]))
  | object {fields : List (Doc × Doc)} {bytes : List UInt8} (h : FieldsWrittenAs fields bytes) :
      Doc.SpelledAs (.object fields .closed) (0x7B :: (bytes ++ [0x7D]))

inductive Doc.WrittenAs : Doc → List UInt8 → Prop
  | intro {d : Doc} {before bytes after : List UInt8} (hbefore : Blanks before)
      (h : Doc.SpelledAs d bytes) (hafter : Blanks after) :
      Doc.WrittenAs d (before ++ (bytes ++ after))

inductive ItemsWrittenAs : List Doc → List UInt8 → Prop
  | one {d : Doc} {bytes : List UInt8} (h : Doc.WrittenAs d bytes) : ItemsWrittenAs [d] bytes
  | more {d : Doc} {items : List Doc} {bytes rest : List UInt8} (h : Doc.WrittenAs d bytes)
      (hrest : ItemsWrittenAs items rest) : ItemsWrittenAs (d :: items) (bytes ++ 0x2C :: rest)

inductive FieldWrittenAs : Doc × Doc → List UInt8 → Prop
  | intro {l : Literal} {d : Doc} {before key after bytes : List UInt8} (hbefore : Blanks before)
      (hkey : l.SpelledAs key) (hafter : Blanks after) (h : Doc.WrittenAs d bytes) :
      FieldWrittenAs (.text l, d) (before ++ (key ++ (after ++ 0x3A :: bytes)))

inductive FieldsWrittenAs : List (Doc × Doc) → List UInt8 → Prop
  | one {f : Doc × Doc} {bytes : List UInt8} (h : FieldWrittenAs f bytes) :
      FieldsWrittenAs [f] bytes
  | more {f : Doc × Doc} {fields : List (Doc × Doc)} {bytes rest : List UInt8}
      (h : FieldWrittenAs f bytes) (hrest : FieldsWrittenAs fields rest) :
      FieldsWrittenAs (f :: fields) (bytes ++ 0x2C :: rest)

end

/-! ## Passing over -/

theorem Literal.SpelledAs.skipKey {l : Literal} {bytes : List UInt8} (h : l.SpelledAs bytes) :
    (Doc.text l).skipKey = .ok () := by
  cases h
  rfl

mutual

theorem Doc.SpelledAs.skip : ∀ {d : Doc} {bytes : List UInt8}, d.SpelledAs bytes → d.skip = .ok ()
  | _, _, .null => rfl
  | _, _, .true => rfl
  | _, _, .false => rfl
  | _, _, .number _ => rfl
  | _, _, .text h => h.skipKey
  | _, _, .emptyList _ => rfl
  | _, _, .list h => by
    rw [Doc.skip, h.skip]
    rfl
  | _, _, .emptyObject _ => rfl
  | _, _, .object h => by
    rw [Doc.skip, h.skip]
    rfl

theorem Doc.WrittenAs.skip : ∀ {d : Doc} {bytes : List UInt8}, d.WrittenAs bytes → d.skip = .ok ()
  | _, _, .intro _ h _ => h.skip

theorem ItemsWrittenAs.skip : ∀ {items : List Doc} {bytes : List UInt8},
    ItemsWrittenAs items bytes → skipItems items = .ok ()
  | _, _, .one h => by
    rw [skipItems, h.skip]
    rfl
  | _, _, .more h hrest => by
    rw [skipItems, h.skip]
    exact hrest.skip

theorem FieldWrittenAs.skip : ∀ {f : Doc × Doc} {bytes : List UInt8}, FieldWrittenAs f bytes →
    skipField f = .ok ()
  | _, _, .intro _ hkey _ h => by
    rw [skipField, hkey.skipKey]
    exact h.skip

theorem FieldsWrittenAs.skip : ∀ {fields : List (Doc × Doc)} {bytes : List UInt8},
    FieldsWrittenAs fields bytes → skipFields fields = .ok ()
  | _, _, .one h => by
    rw [skipFields, h.skip]
    rfl
  | _, _, .more h hrest => by
    rw [skipFields, h.skip]
    exact hrest.skip

end

/-! ## The reader on blanks -/

def Reader.read (r : Reader) (bytes : List UInt8) : Reader :=
  bytes.foldl Reader.step r

theorem read_append (r : Reader) (bytes rest : List UInt8) :
    r.read (bytes ++ rest) = (r.read bytes).read rest :=
  List.foldl_append

theorem read_cons (r : Reader) (b : UInt8) (bytes : List UInt8) :
    r.read (b :: bytes) = (r.step b).read bytes :=
  rfl

theorem read_blanks {r : Reader} (h : ∀ b, isSpace b = true → r.step b = r) {bytes : List UInt8}
    (hbytes : Blanks bytes) : r.read bytes = r := by
  induction bytes with
  | nil => rfl
  | cons b rest ih =>
    obtain ⟨hb, hrest⟩ := List.forall_mem_cons.mp hbytes
    rw [read_cons, h b hb, ih hrest]

theorem step_blank (place : Place) {b : UInt8} (h : isSpace b = true) :
    (Reader.between place).step b = .between place := by
  rw [Reader.step, Place.step, if_pos h]

/-- A reader that passes over blanks and takes the next byte as the first one of a value, unless
that is a closing bracket. -/
structure Reader.Awaits (r : Reader) (outer : List Frame) : Prop where
  blank : ∀ b : UInt8, isSpace b = true → r.step b = r
  first : ∀ b : UInt8, isSpace b = false → b ≠ 0x5D → b ≠ 0x7D → r.step b = startValue b outer

theorem awaits_value (outer : List Frame) : (Reader.between (.value outer)).Awaits outer where
  blank _ := step_blank _
  first b hb _ _ := by simp [Reader.step, Place.step, Place.token, hb]

theorem awaits_firstItem (outer : List Frame) :
    (Reader.between (.firstItem outer)).Awaits (.item [] :: outer) where
  blank _ := step_blank _
  first b hb hlist _ := by simp [Reader.step, Place.step, Place.token, hb, hlist]

theorem awaits_item (items : List Doc) (outer : List Frame) :
    (Reader.between (.item items outer)).Awaits (.item items :: outer) where
  blank _ := step_blank _
  first b hb hlist _ := by simp [Reader.step, Place.step, Place.token, hb, hlist]

theorem awaits_firstKey (outer : List Frame) :
    (Reader.between (.firstKey outer)).Awaits (.key [] :: outer) where
  blank _ := step_blank _
  first b hb _ hobject := by simp [Reader.step, Place.step, Place.token, hb, hobject]

theorem awaits_key (fields : List (Doc × Doc)) (outer : List Frame) :
    (Reader.between (.key fields outer)).Awaits (.key fields :: outer) where
  blank _ := step_blank _
  first b hb _ hobject := by simp [Reader.step, Place.step, Place.token, hb, hobject]

variable {r : Reader} {outer : List Frame}

theorem Reader.Awaits.read_first (h : r.Awaits outer) {b : UInt8} (hspace : isSpace b = false)
    (hlist : b ≠ 0x5D) (hobject : b ≠ 0x7D) (bytes : List UInt8) :
    r.read (b :: bytes) = (startValue b outer).read bytes := by
  rw [read_cons, h.first b hspace hlist hobject]

/-- A reader that has read the document `d`, which is in its place or is a number that may end. -/
inductive Reader.Holds (d : Doc) (outer : List Frame) : Reader → Prop
  | placed : Holds d outer (.between (deliver d outer))
  | number (n : NumberReader) (m : Number) (ends : n.number? = some m) (doc : d = .number m) :
      Holds d outer (.number n outer)

def Ends (b : UInt8) : Prop :=
  isSpace b = true ∨ b = 0x2C ∨ b = 0x5D ∨ b = 0x7D

theorem Ends.ne {b : UInt8} (h : Ends b) :
    decimal? b = none ∧ b ≠ 0x2E ∧ b ≠ 0x65 ∧ b ≠ 0x45 := by
  simp only [Ends, isSpace, Bool.or_eq_true, beq_iff_eq] at h
  rcases h with ((((rfl | rfl) | rfl) | rfl) | rfl | rfl | rfl) <;> decide

theorem Reader.Holds.step {d : Doc} (h : r.Holds d outer) {b : UInt8} (hb : Ends b) :
    r.step b = (deliver d outer).step b := by
  cases h with
  | placed => rfl
  | number n m ends doc =>
    -- None of these bytes goes on with a number, so it is put in its place before the byte is taken.
    obtain ⟨hdigit, hpoint, hmark, hmark'⟩ := hb.ne
    have hpush : n.pushMark? b = none := by
      unfold NumberReader.number? at ends
      split at ends <;> simp_all [NumberReader.pushMark?]
    subst doc
    simp only [Reader.step, NumberReader.step, hdigit, hpush, ends]

theorem Reader.Holds.read_blanks {d : Doc} (h : r.Holds d outer) {bytes : List UInt8}
    (hbytes : Blanks bytes) : (r.read bytes).Holds d outer := by
  cases bytes with
  | nil => exact h
  | cons b rest =>
    obtain ⟨hb, hrest⟩ := List.forall_mem_cons.mp hbytes
    have hplaced : (deliver d outer).step b = .between (deliver d outer) := step_blank _ hb
    rw [read_cons, h.step (.inl hb), hplaced, Json.read_blanks (fun _ => step_blank _) hrest]
    exact .placed

theorem Reader.Holds.finish {d : Doc} (h : r.Holds d outer) :
    r.finish = (deliver d outer).finish := by
  cases h with
  | placed => rfl
  | number n m ends doc =>
    subst doc
    simp only [Reader.finish, ends]

/-! ## The reader on literals -/

theorem read_piece (pieces : List Piece) {piece : Piece} {bytes : List UInt8}
    (h : piece.SpelledAs bytes) :
    (Reader.text ⟨.plain, pieces⟩ outer).read bytes = .text ⟨.plain, piece :: pieces⟩ outer := by
  cases h with
  | plain hquote hslash hcontrol =>
    simp [Reader.read, Reader.step, TextReader.step, hquote, hslash, Nat.not_lt.mpr hcontrol]
  | @escape b c h =>
    have hunit : b ≠ 0x75 := by
      rintro rfl
      exact nomatch h
    simp [Reader.read, Reader.step, TextReader.step, hunit, h]
  | @unit digits n hlength h =>
    match digits, hlength with
    | [a, b, c, d], _ =>
      have hvalue : hexValue? [d, c, b, a] = some n := h
      simp [Reader.read, Reader.step, TextReader.step, hvalue]

theorem read_pieces (done : List Piece) {pieces : List Piece} {bytes : List UInt8}
    (h : PiecesSpelledAs pieces bytes) :
    (Reader.text ⟨.plain, done⟩ outer).read bytes =
      .text ⟨.plain, pieces.reverse ++ done⟩ outer := by
  induction h generalizing done with
  | nil => rfl
  | cons h hrest ih =>
    rw [read_append, read_piece done h, ih, List.reverse_cons, List.append_assoc,
      List.singleton_append]

theorem Reader.Awaits.read_literal (h : r.Awaits outer) {l : Literal} {bytes : List UInt8}
    (hl : l.SpelledAs bytes) : r.read bytes = .between (deliver (.text l) outer) := by
  cases hl with
  | @intro pieces bytes hpieces =>
    have hstart : startValue 0x22 outer = .text ⟨.plain, []⟩ outer := rfl
    have hliteral : (TextReader.mk .plain (pieces.reverse ++ [])).literal .closed =
        ⟨pieces, .closed⟩ := by
      simp [TextReader.literal]
    rw [List.cons_append, h.read_first rfl (by decide) (by decide), hstart, read_append,
      read_pieces [] hpieces, ← hliteral]
    rfl

/-! ## The reader on numbers -/

theorem decimal?_digit : ∀ d < 10, decimal? (0x30 + d).toUInt8 = some d := by
  decide

theorem step_digit (outer : List Frame) {n m : NumberReader} {d : Nat} (hd : d < 10)
    (h : n.pushDigit? d = some m) :
    (Reader.number n outer).step (0x30 + d).toUInt8 = .number m outer := by
  simp only [Reader.step, NumberReader.step, decimal?_digit d hd, h]

/-- Reads digits of which the number reader keeps all, one before the other. -/
theorem read_digits (outer : List Frame) {next : List Nat → NumberReader}
    (hnext : ∀ d ds, (next ds).pushDigit? d = some (next (d :: ds))) {digits : List Nat}
    (h : ∀ d ∈ digits, d < 10) (done : List Nat) :
    (Reader.number (next done) outer).read (digitBytes digits) =
      .number (next (digits.reverse ++ done)) outer := by
  induction digits generalizing done with
  | nil => rfl
  | cons d digits ih =>
    obtain ⟨hd, hdigits⟩ := List.forall_mem_cons.mp h
    have hstep := step_digit outer hd (hnext d done)
    rw [digitBytes, List.map_cons, read_cons, hstep, List.reverse_cons, List.append_assoc]
    exact ih hdigits (d :: done)

def NumberPart.first (digit : Nat) : NumberPart :=
  if digit = 0 then .zero else .whole

theorem startValue_digit (outer : List Frame) {d : Nat} (hd : d < 10) :
    startValue (0x30 + d).toUInt8 outer = .number (.begin (.first d) false [d]) outer := by
  interval_cases d <;> rfl

theorem digit_first : ∀ d < 10, isSpace (0x30 + d).toUInt8 = false ∧
    (0x30 + d).toUInt8 ≠ 0x5D ∧ (0x30 + d).toUInt8 ≠ 0x7D := by
  decide

/-- The reader after the first digit of a number. -/
theorem Reader.Awaits.read_sign (h : r.Awaits outer) (negative : Bool) {d : Nat} (hd : d < 10)
    (bytes : List UInt8) :
    r.read ((if negative then [0x2D] else []) ++ (0x30 + d).toUInt8 :: bytes) =
      (Reader.number (.begin (.first d) negative [d]) outer).read bytes := by
  cases negative with
  | false =>
    obtain ⟨hspace, hlist, hobject⟩ := digit_first d hd
    rw [← startValue_digit outer hd]
    exact h.read_first hspace hlist hobject bytes
  | true =>
    have hminus : startValue 0x2D outer = .number (.begin .minus true []) outer := rfl
    have hpush : (NumberReader.begin .minus true []).pushDigit? d =
        some (.begin (.first d) true [d]) := rfl
    rw [if_pos rfl, List.singleton_append, h.read_first rfl (by decide) (by decide), hminus,
      read_cons, step_digit outer hd hpush]

/-- The reader after the digits of a number before its point. -/
theorem Reader.Awaits.read_whole (h : r.Awaits outer) (negative : Bool) {whole : List Nat}
    (hwhole : WholeDigits whole) : ∃ part, (part = .zero ∨ part = .whole) ∧
      ∀ bytes, r.read ((if negative then [0x2D] else []) ++ (digitBytes whole ++ bytes)) =
        (Reader.number ⟨part, negative, whole.reverse, [], false, []⟩ outer).read bytes := by
  obtain ⟨d, digits, rfl⟩ := List.exists_cons_of_ne_nil hwhole.nonempty
  obtain ⟨hd, hdigits⟩ := List.forall_mem_cons.mp hwhole.decimal
  rw [digitBytes, List.map_cons]
  -- The reader takes no digit behind a leading zero, and no text of a number has one there.
  by_cases hzero : d = 0
  · obtain rfl : digits = [] := by
      have := hwhole.zero (congrArg some hzero)
      simp_all
    refine ⟨.first d, ?_, fun bytes => ?_⟩
    · exact .inl (if_pos hzero)
    · exact h.read_sign negative hd bytes
  · refine ⟨.whole, .inr rfl, fun bytes => ?_⟩
    have hpush : ∀ d ds, (NumberReader.begin .whole negative ds).pushDigit? d =
        some (.begin .whole negative (d :: ds)) := fun _ _ => rfl
    have hrun := read_digits outer hpush hdigits [d]
    rw [List.cons_append, h.read_sign negative hd, NumberPart.first, if_neg hzero, read_append]
    rw [List.reverse_cons, ← NumberReader.begin, ← hrun]
    rfl

/-- The reader after the digits of a number behind its point. -/
theorem read_fraction (outer : List Frame) {part : NumberPart}
    (hpart : part = .zero ∨ part = .whole) (negative : Bool) (whole : List Nat)
    {fraction : List Nat} {bytes : List UInt8} (h : FractionSpelledAs fraction bytes) :
    ∃ part', ((part' = .zero ∨ part' = .whole) ∧ fraction = [] ∨ part' = .fraction) ∧
      (Reader.number ⟨part, negative, whole, [], false, []⟩ outer).read bytes =
        .number ⟨part', negative, whole, fraction.reverse, false, []⟩ outer := by
  cases h with
  | none => exact ⟨part, .inl ⟨hpart, rfl⟩, rfl⟩
  | some hdigits =>
    refine ⟨.fraction, .inr rfl, ?_⟩
    obtain ⟨d, digits, rfl⟩ := List.exists_cons_of_ne_nil hdigits.nonempty
    obtain ⟨hd, hdigits⟩ := List.forall_mem_cons.mp hdigits.decimal
    have hpoint : (Reader.number ⟨part, negative, whole, [], false, []⟩ outer).step 0x2E =
        .number ⟨.point, negative, whole, [], false, []⟩ outer := by
      obtain rfl | rfl := hpart <;> rfl
    have hfirst : NumberReader.pushDigit? ⟨.point, negative, whole, [], false, []⟩ d =
        some ⟨.fraction, negative, whole, [d], false, []⟩ := rfl
    have hpush : ∀ d ds, NumberReader.pushDigit? ⟨.fraction, negative, whole, ds, false, []⟩ d =
        some ⟨.fraction, negative, whole, d :: ds, false, []⟩ := fun _ _ => rfl
    have hrun := read_digits outer hpush hdigits [d]
    rw [digitBytes, List.map_cons, read_cons, hpoint, read_cons, step_digit outer hd hfirst,
      List.reverse_cons, ← hrun]
    rfl

theorem step_mark {part : NumberPart}
    (hpart : part = .zero ∨ part = .whole ∨ part = .fraction) {negative : Bool}
    {whole fraction : List Nat} {mark : UInt8} (hmark : mark = 0x65 ∨ mark = 0x45) :
    (Reader.number ⟨part, negative, whole, fraction, false, []⟩ outer).step mark =
      .number ⟨.mark, negative, whole, fraction, false, []⟩ outer := by
  obtain rfl | rfl | rfl := hpart <;> obtain rfl | rfl := hmark <;> rfl

theorem read_exponentSign (outer : List Frame) (negative : Bool) (whole fraction : List Nat)
    {minus : Bool} {bytes : List UInt8} (h : SignSpelledAs minus bytes) :
    ∃ part, (part = .mark ∨ part = .markSign) ∧
      (Reader.number ⟨.mark, negative, whole, fraction, false, []⟩ outer).read bytes =
        .number ⟨part, negative, whole, fraction, minus, []⟩ outer := by
  cases h with
  | none => exact ⟨.mark, .inl rfl, rfl⟩
  | plus => exact ⟨.markSign, .inr rfl, rfl⟩
  | minus => exact ⟨.markSign, .inr rfl, rfl⟩

theorem holds_exponent {part : NumberPart} {negative : Bool} {whole fraction : List Nat}
    {exponent : Option Exponent} {bytes : List UInt8}
    (hpart : (part = .zero ∨ part = .whole) ∧ fraction = [] ∨ part = .fraction)
    (h : ExponentSpelledAs exponent bytes) :
    ((Reader.number ⟨part, negative, whole.reverse, fraction.reverse, false, []⟩ outer).read
      bytes).Holds (.number ⟨negative, whole, fraction, exponent⟩) outer := by
  cases h with
  | none =>
    refine .number _ _ ?_ rfl
    obtain ⟨rfl | rfl, rfl⟩ | rfl := hpart <;> simp [NumberReader.number?]
  | @some mark minus sign digits hmark hsign hdigits =>
    obtain ⟨d, digits, rfl⟩ := List.exists_cons_of_ne_nil hdigits.nonempty
    obtain ⟨hd, hdigits⟩ := List.forall_mem_cons.mp hdigits.decimal
    obtain ⟨part', hpart', hsigned⟩ := read_exponentSign outer negative whole.reverse
      fraction.reverse hsign
    have hfirst : NumberReader.pushDigit?
        ⟨part', negative, whole.reverse, fraction.reverse, minus, []⟩ d =
          some ⟨.exponent, negative, whole.reverse, fraction.reverse, minus, [d]⟩ := by
      obtain rfl | rfl := hpart' <;> rfl
    have hpush : ∀ d ds, NumberReader.pushDigit?
        ⟨.exponent, negative, whole.reverse, fraction.reverse, minus, ds⟩ d =
          some ⟨.exponent, negative, whole.reverse, fraction.reverse, minus, d :: ds⟩ :=
      fun _ _ => rfl
    have hrun := read_digits outer hpush hdigits [d]
    have hmarked : part = .zero ∨ part = .whole ∨ part = .fraction := by
      obtain ⟨h | h, -⟩ | h := hpart <;> simp [h]
    rw [read_cons, step_mark hmarked hmark, read_append, hsigned, digitBytes, List.map_cons,
      read_cons, step_digit outer hd hfirst]
    change (Reader.read _ (digitBytes digits)).Holds _ _
    rw [hrun]
    refine .number _ _ ?_ rfl
    simp [NumberReader.number?]

theorem Reader.Awaits.holds_number (h : r.Awaits outer) {n : Number} {bytes : List UInt8}
    (hn : n.SpelledAs bytes) : (r.read bytes).Holds (.number n) outer := by
  cases hn with
  | @intro negative whole fraction exponent fractionBytes exponentBytes hwhole hfraction hexponent =>
    obtain ⟨part, hpart, hread⟩ := h.read_whole negative hwhole
    obtain ⟨part', hpart', hread'⟩ := read_fraction outer hpart negative whole.reverse hfraction
    rw [hread, read_append, hread']
    exact holds_exponent hpart' hexponent

/-! ## The reader on documents -/

mutual

theorem Doc.SpelledAs.holds : ∀ {d : Doc} {bytes : List UInt8}, d.SpelledAs bytes →
    ∀ {r : Reader} {outer : List Frame}, r.Awaits outer → (r.read bytes).Holds d outer
  | _, _, .null, _, _, h => by
    rw [h.read_first rfl (by decide) (by decide)]
    exact .placed
  | _, _, .true, _, _, h => by
    rw [h.read_first rfl (by decide) (by decide)]
    exact .placed
  | _, _, .false, _, _, h => by
    rw [h.read_first rfl (by decide) (by decide)]
    exact .placed
  | _, _, .number hn, _, _, h => h.holds_number hn
  | _, _, .text hl, _, _, h => by
    rw [h.read_literal hl]
    exact .placed
  | _, _, .emptyList hblanks, _, outer, h => by
    have hopen : startValue 0x5B outer = .between (.firstItem outer) := rfl
    rw [h.read_first rfl (by decide) (by decide), hopen, read_append,
      read_blanks (fun _ => step_blank _) hblanks]
    exact .placed
  | _, _, .list hitems, _, outer, h => by
    have hopen : startValue 0x5B outer = .between (.firstItem outer) := rfl
    rw [h.read_first rfl (by decide) (by decide), hopen, read_append, read_cons,
      hitems.read (awaits_firstItem outer)]
    exact .placed
  | _, _, .emptyObject hblanks, _, outer, h => by
    have hopen : startValue 0x7B outer = .between (.firstKey outer) := rfl
    rw [h.read_first rfl (by decide) (by decide), hopen, read_append,
      read_blanks (fun _ => step_blank _) hblanks]
    exact .placed
  | _, _, .object hfields, _, outer, h => by
    have hopen : startValue 0x7B outer = .between (.firstKey outer) := rfl
    rw [h.read_first rfl (by decide) (by decide), hopen, read_append, read_cons,
      hfields.read (awaits_firstKey outer)]
    exact .placed

theorem Doc.WrittenAs.holds : ∀ {d : Doc} {bytes : List UInt8}, d.WrittenAs bytes →
    ∀ {r : Reader} {outer : List Frame}, r.Awaits outer → (r.read bytes).Holds d outer
  | _, _, .intro hbefore hd hafter, _, _, h => by
    rw [read_append, read_append, read_blanks h.blank hbefore]
    exact (hd.holds h).read_blanks hafter

theorem ItemsWrittenAs.read : ∀ {items : List Doc} {bytes : List UInt8},
    ItemsWrittenAs items bytes → ∀ {r : Reader} {done : List Doc} {outer : List Frame},
      r.Awaits (.item done :: outer) →
        (r.read bytes).step 0x5D = .between (deliver (.list (done.reverse ++ items) .closed) outer)
  | _, _, .one hd, _, done, outer, h => by
    -- The bracket ends the last item, if that is a number, as well as the list.
    have hclose := (hd.holds h).step (b := 0x5D) (by simp [Ends])
    rw [hclose, ← List.reverse_cons]
    rfl
  | _, _, .more hd hrest, _, done, outer, h => by
    have hcomma := (hd.holds h).step (b := 0x2C) (by simp [Ends])
    rw [read_append, read_cons, hcomma, List.append_cons, ← List.reverse_cons]
    exact hrest.read (awaits_item _ outer)

theorem FieldWrittenAs.holds : ∀ {f : Doc × Doc} {bytes : List UInt8}, FieldWrittenAs f bytes →
    ∀ {r : Reader} {done : List (Doc × Doc)} {outer : List Frame},
      r.Awaits (.key done :: outer) → (r.read bytes).Holds f.2 (.field done f.1 :: outer)
  | _, _, .intro hbefore hkey hafter hd, _, done, outer, h => by
    rw [read_append, read_append, read_append, read_blanks h.blank hbefore, h.read_literal hkey,
      read_blanks (fun _ => step_blank _) hafter]
    exact hd.holds (awaits_value _)

theorem FieldsWrittenAs.read : ∀ {fields : List (Doc × Doc)} {bytes : List UInt8},
    FieldsWrittenAs fields bytes → ∀ {r : Reader} {done : List (Doc × Doc)} {outer : List Frame},
      r.Awaits (.key done :: outer) →
        (r.read bytes).step 0x7D =
          .between (deliver (.object (done.reverse ++ fields) .closed) outer)
  | _, _, .one hf, _, done, outer, h => by
    have hclose := (hf.holds h).step (b := 0x7D) (by simp [Ends])
    rw [hclose, ← List.reverse_cons]
    rfl
  | _, _, .more hf hrest, _, done, outer, h => by
    have hcomma := (hf.holds h).step (b := 0x2C) (by simp [Ends])
    rw [read_append, read_cons, hcomma, List.append_cons, ← List.reverse_cons]
    exact hrest.read (awaits_key _ outer)

end

/-- Every text of a document is read as that document, with nothing left over. -/
theorem ofBytes_of_writtenAs {d : Doc} {bytes : List UInt8} (h : d.WrittenAs bytes) :
    Document.ofBytes bytes = ⟨d, false⟩ :=
  (h.holds (awaits_value [])).finish

end HealControl.Json
