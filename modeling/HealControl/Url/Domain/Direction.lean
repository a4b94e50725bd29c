import HealControl.Text.Mark

/-!
# Writing direction

If a domain name holds characters that are written from right to left, each of its labels has to
be of one direction, so that the name looks the same wherever it stands.
-/
namespace HealControl.Url.Domain

open HealControl.Text (inRanges isNonspacing)

inductive Direction
  | leftToRight
  | rightToLeft
  | europeanNumber
  | arabicNumber
  | neutral
  | nonspacing
deriving DecidableEq, Repr

/-- The code points whose Unicode property `Bidi_Class` is `Right_To_Left` or `Arabic_Letter`. -/
def rightToLeftRanges : List (Nat × Nat) := [
  (0x590, 0x590), (0x5BE, 0x5BE), (0x5C0, 0x5C0), (0x5C3, 0x5C3), (0x5C6, 0x5C6), (0x5C8, 0x5FF),
  (0x608, 0x608), (0x60B, 0x60B), (0x60D, 0x60D), (0x61B, 0x64A), (0x66D, 0x66F), (0x671, 0x6D5),
  (0x6E5, 0x6E6), (0x6EE, 0x6EF), (0x6FA, 0x710), (0x712, 0x72F), (0x74B, 0x7A5), (0x7B1, 0x7EA),
  (0x7F4, 0x7F5), (0x7FA, 0x7FC), (0x7FE, 0x815), (0x81A, 0x81A), (0x824, 0x824), (0x828, 0x828),
  (0x82E, 0x858), (0x85C, 0x88F), (0x892, 0x896), (0x8A0, 0x8C9), (0x200F, 0x200F),
  (0xFB1D, 0xFB1D), (0xFB1F, 0xFB28), (0xFB2A, 0xFBC2), (0xFBD3, 0xFD3D), (0xFD50, 0xFD8F),
  (0xFD92, 0xFDC7), (0xFDF0, 0xFDFC), (0xFE70, 0xFEFE), (0x10800, 0x1091E), (0x10920, 0x10A00),
  (0x10A04, 0x10A04), (0x10A07, 0x10A0B), (0x10A10, 0x10A37), (0x10A3B, 0x10A3E),
  (0x10A40, 0x10AE4), (0x10AE7, 0x10B38), (0x10B40, 0x10D23), (0x10D28, 0x10D2F),
  (0x10D3A, 0x10D3F), (0x10D4A, 0x10D68), (0x10D6F, 0x10E5F), (0x10E7F, 0x10EAA),
  (0x10EAD, 0x10ECF), (0x10ED9, 0x10EF9), (0x10F00, 0x10F45), (0x10F51, 0x10F81),
  (0x10F86, 0x10FFF), (0x1E800, 0x1E8CF), (0x1E8D7, 0x1E943), (0x1E94B, 0x1EEEF),
  (0x1EEF2, 0x1EFFF)]

/-- The code points whose `Bidi_Class` is `Arabic_Number`. -/
def arabicNumberRanges : List (Nat × Nat) := [
  (0x600, 0x605), (0x660, 0x669), (0x66B, 0x66C), (0x6DD, 0x6DD), (0x890, 0x891), (0x8E2, 0x8E2),
  (0x10D30, 0x10D39), (0x10D40, 0x10D49), (0x10E60, 0x10E7E)]

/-- The code points of folded names whose `Bidi_Class` is `European_Number`. -/
def europeanNumberRanges : List (Nat × Nat) := [
  (0x30, 0x39), (0x6F0, 0x6F9), (0x102E1, 0x102FB)]

/-- The code points whose `Bidi_Class` is that of a neutral character, a separator or terminator of
numbers, or a boundary, as far as a folded name can hold them. -/
def neutralRanges : List (Nat × Nat) := [
  (0x0, 0x2F), (0x3A, 0x60), (0x7B, 0xD7), (0xF7, 0xF7), (0x2B9, 0x2BA), (0x2C2, 0x2CF),
  (0x2D2, 0x2ED), (0x2EF, 0x2FF), (0x375, 0x375), (0x3F6, 0x3F6), (0x58A, 0x58F), (0x606, 0x607),
  (0x609, 0x60A), (0x60C, 0x60C), (0x60E, 0x60F), (0x66A, 0x66A), (0x6DE, 0x6DE), (0x6E9, 0x6E9),
  (0x7F6, 0x7F9), (0x9F2, 0x9F3), (0x9FB, 0x9FB), (0xAF1, 0xAF1), (0xBF3, 0xBFA), (0xC78, 0xC7E),
  (0xE3F, 0xE3F), (0xF3A, 0xF3D), (0x1390, 0x1399), (0x1400, 0x1400), (0x169B, 0x169C),
  (0x17DB, 0x17DB), (0x17F0, 0x180A), (0x1940, 0x1945), (0x19DE, 0x19FF), (0x200C, 0x214D),
  (0x218A, 0x2335), (0x237B, 0x2394), (0x2396, 0x26AB), (0x26AD, 0x27FF), (0x2900, 0x2BFF),
  (0x2CE5, 0x2CEA), (0x2CF9, 0x2CFF), (0x2E00, 0x3004), (0x3008, 0x3020), (0x3030, 0x3030),
  (0x3037, 0x3037), (0x303D, 0x303F), (0x30A0, 0x30A0), (0x30FB, 0x30FB), (0x31C0, 0x31E5),
  (0x4DC0, 0x4DFF), (0xA490, 0xA4C6), (0xA60D, 0xA60F), (0xA673, 0xA67F), (0xA700, 0xA721),
  (0xA788, 0xA788), (0xA828, 0xA82B), (0xA838, 0xA839), (0xA874, 0xA877), (0xAB6A, 0xAB6B),
  (0xFBC3, 0xFE46), (0x10101, 0x10101), (0x10140, 0x1018C), (0x10190, 0x101A0), (0x1091F, 0x1091F),
  (0x10B39, 0x10B3F), (0x10D6E, 0x10D6E), (0x10ED0, 0x10ED8), (0x11052, 0x11065),
  (0x11660, 0x1166C), (0x11FD5, 0x11FF1), (0x16FE2, 0x16FE2), (0x1CC00, 0x1CEF0),
  (0x1D1E9, 0x1D245), (0x1D300, 0x1D356), (0x1E2FF, 0x1E2FF), (0x1EEF0, 0x1F12F),
  (0x1F16D, 0x1F16F), (0x1F1AD, 0x1F1AD), (0x1F260, 0x1FBFA)]

def isLetterMark (c : Char) : Bool :=
  c.toNat == 0xCBF || c.toNat == 0xCC6 || c.toNat == 0x11A07 || c.toNat == 0x11A08 ||
    c.toNat == 0x11C3F

def direction (c : Char) : Direction :=
  if isNonspacing c && !isLetterMark c then .nonspacing
  else if inRanges rightToLeftRanges c.toNat then .rightToLeft
  else if inRanges arabicNumberRanges c.toNat then .arabicNumber
  else if inRanges europeanNumberRanges c.toNat then .europeanNumber
  else if inRanges neutralRanges c.toNat then .neutral
  else .leftToRight

def isRightToLeft (c : Char) : Bool :=
  0x590 ≤ c.toNat && (direction c == .rightToLeft || direction c == .arabicNumber)

/-- Whether the characters after the first one of a label are all of the directions `within`, and
the last one that takes up room is of the directions `atEnd`. -/
def runsAs (within atEnd : List Direction) (rest : List Direction) : Bool :=
  rest.all (fun d => d == .nonspacing || within.contains d) &&
    (rest.reverse.dropWhile (· == .nonspacing)).head?.all atEnd.contains

/-- Whether a label is of one direction. It starts with a letter, and ends with a letter or number
of the same direction. From right to left, it does not mix two kinds of numbers. -/
def isOneDirection (label : List Char) : Bool :=
  match label.map direction with
  | [] => true
  | .leftToRight :: rest =>
    runsAs [.leftToRight, .europeanNumber, .neutral] [.leftToRight, .europeanNumber] rest
  | .rightToLeft :: rest =>
    runsAs [.rightToLeft, .arabicNumber, .europeanNumber, .neutral]
        [.rightToLeft, .arabicNumber, .europeanNumber] rest &&
      !(rest.contains .arabicNumber && rest.contains .europeanNumber)
  | _ => false

/-- Whether the labels of a name can be told apart in writing: they all go from left to right, or
each is of one direction. -/
def directionsFit (labels : List (List Char)) : Bool :=
  !labels.any (·.any isRightToLeft) || labels.all isOneDirection

end HealControl.Url.Domain
