import Relay.Text.Mark

/-!
# The direction of domain names

Text runs from left to right or from right to left, and some scripts mix both. So that a name with
parts from right to left is shown in one way only, each of its labels has to run in one direction
(RFC 5893). This file fixes the directions of the characters that a name may hold (`direction`) and
the rule for labels (`runsOneWay`).

The tables leave out characters that no name may hold, so that a range may run across them.
-/

namespace Relay.Url.Domain

/-! ## 1. Characters -/

/-- How a character runs. -/
inductive Direction where
  | leftToRight
  | rightToLeft
  /-- European digits, from left to right in any text. -/
  | european
  /-- Arabic digits, from left to right in text that runs from right to left. -/
  | arabic
  /-- As the character before it. -/
  | mark
  /-- As the text around it. -/
  | neutral
  deriving DecidableEq, Repr

/-- The letters that run from right to left. -/
def rightToLeft : List (Nat × Nat) := Text.Table.ranges
  "5BE 5C0 5C3 5C6 5D0.5F4 608 60B 60D 61B.64A 66D.66F 671.6D5 6E5.6E6 6EE.6EF 6FA.710 712.72F
   74D.7A5 7B1.7EA 7F4.7F5 7FA 7FE.815 81A 824 828 830.858 85E.88F 8A0.8C9 FBB2.FBC2 FE73
   10800.1091B 10920.10A00 10A10.10A35 10A40.10AE4 10AEB.10B35 10B40.10D23 10D40.10D4F 10D6F.10D8F
   10E80.10EA9 10EAD.10EC7 10F00.10F45 10F51.10F81 10F86.10FF6 1E800.1E8CF 1E922.1E943 1E94B.1ED3D"

/-- Arabic digits and the signs between them. -/
def arabicDigits : List (Nat × Nat) := Text.Table.ranges
  "660.669 66B.66C 10D30.10D39 10E60.10E7E"

/-- European digits. -/
def europeanDigits : List (Nat × Nat) := Text.Table.ranges
  "30.39 6F0.6F9 102E1.102FB"

/-- Beyond the letters of ASCII, the characters that run as the text around them. -/
def neutrals : List (Nat × Nat) := Text.Table.ranges
  "7B.D7 F7 2B9.2BA 2C2.2CF 2D2.2ED 2EF.2FF 375 3F6 58A.58F 606.607 609.60A 60C 60E.60F 66A 6DE 6E9
   7F6.7F9 9F2.9F3 9FB AF1 BF3.BFA C78.C7E E3F F3A.F3D 1390.1399 1400 169B.169C 17DB 17F0.180A
   1940.1945 19DE.19FF 200C.20C1 2104.214D 218A.2335 237B.2394 2396.26AB 26AD.27FF 2900.2BFF
   2CE5.2CEA 2CF9.2CFF 2E00.3004 3008.3020 3030 3037 303D.303F 30A0 30FB 31C0.31E5 4DC0.4DFF
   A490.A4C6 A60D.A60F A673 A67E.A67F A700.A721 A788 A828.A82B A838.A839 A874.A877 AB6A.AB6B
   FBC3.FDFF FE45.FE46 10101 10140.1018C 10190.101A0 1091F 10B39.10B3F 10D6E 10ED0.10ED8
   11052.11065 11660.1166C 11FD5.11FF1 16FE2 1CC00.1CEF0 1D1E9.1D241 1D245 1D300.1D356 1E2FF
   1EEF0.1F12F 1F16D.1F16F 1F1AD 1F260.1FBFA"

/-- The marks without room of their own that run from left to right. -/
def steadyMarks : List Nat :=
  [0xCBF, 0xCC6, 0x11C3F]

/-- How a character runs. -/
def direction (c : Char) : Direction :=
  let n := c.toNat
  if Text.isNonspacingMark c then if steadyMarks.contains n then .leftToRight else .mark
  else if Text.inRanges rightToLeft n then .rightToLeft
  else if Text.inRanges arabicDigits n then .arabic
  else if Text.inRanges europeanDigits n then .european
  else if Text.inRanges neutrals n then .neutral
  else if n < 0x80 ∧ !c.isAlpha then .neutral
  else .leftToRight

/-! ## 2. Labels -/

/-- Whether the direction makes a name one that runs from right to left somewhere. -/
def Direction.isFromRight : Direction → Bool
  | .rightToLeft | .arabic => true
  | _ => false

/-- The directions of a label without the marks at its end. -/
def withoutLastMarks (label : List Direction) : List Direction :=
  (label.reverse.dropWhile (· == .mark)).reverse

/-- Whether a label that begins from left to right runs so: nothing in it runs from right to left,
and its end does not depend on what follows. -/
def isLeftToRight (label : List Direction) : Bool :=
  label.all (fun d => !d.isFromRight) &&
    match (withoutLastMarks label).getLast? with
    | some .leftToRight | some .european => true
    | _ => false

/-- Whether a label that begins from right to left runs so: it holds no letters from left to right,
digits of one kind only, and its end does not depend on what follows. -/
def isRightToLeft (label : List Direction) : Bool :=
  !label.contains .leftToRight && !(label.contains .european && label.contains .arabic) &&
    match (withoutLastMarks label).getLast? with
    | some .rightToLeft | some .european | some .arabic => true
    | _ => false

/-- Whether a label runs in one direction, which its first character fixes. -/
def runsOneWay (label : List Char) : Bool :=
  match label.map direction with
  | [] => true
  | .leftToRight :: rest => isLeftToRight (.leftToRight :: rest)
  | .rightToLeft :: rest => isRightToLeft (.rightToLeft :: rest)
  | _ => false

/-- Whether the labels of a name may stand together: once any of them has something that runs from
right to left, each has to run in one direction. -/
def runTogether (labels : List (List Char)) : Bool :=
  labels.all (fun label => label.all (fun c => !(direction c).isFromRight)) ||
    labels.all runsOneWay

end Relay.Url.Domain
