import TexTranscript.Unicode.Mark

/-!
# Directions of writing

A character is written from left to right or from right to left, or it takes part in
the direction of what surrounds it, in one way or another. These are the bidirectional
classes of Unicode 17, for the characters that can occur in a host name.

## Main definitions

* `Direction` – the classes.
* `Direction.of` – the class of a character.
-/

namespace TexTranscript

/-- **How a character takes part in the direction of a text.** -/
inductive Direction where
  | leftToRight
  | rightToLeft
  | arabic
  | arabicNumber
  | europeanNumber
  | europeanSeparator
  | commonSeparator
  | europeanTerminator
  | otherNeutral
  | boundaryNeutral
  | nonspacingMark
  /-- Spaces and what separates lines. -/
  | separator
deriving Repr, DecidableEq, Inhabited

namespace Direction

/-- The letters of most scripts that are written from right to left. -/
def rightToLefts : CodeRanges := CodeTable.ranges
  "5BE 5C0 5C3 5C6 5D0-5F4 7C0-7EA 7F4-7F5 7FA 7FE-815 81A 824 828 830-858 85E 10800-1091B
   10920-10A00 10A10-10A35 10A40-10AE4 10AEB-10B35 10B40-10CFF 10D4A-10D4F 10D6F-10D8F
   10E80-10EA9 10EAD-10EB1 10F00-10F27 10F70-10F81 10F86-10FF6 1E800-1E8CF 1E922-1E943
   1E94B-1E95F"

/-- The letters of Arabic and of scripts like it. -/
def arabics : CodeRanges := CodeTable.ranges
  "608 60B 60D 61B-64A 66D-66F 671-6D5 6E5-6E6 6EE-6EF 6FA-710 712-72F 74D-7A5 7B1 860-88F
   8A0-8C9 FBB2-FBC2 FE73 10D00-10D23 10EC2-10EC7 10F30-10F45 10F51-10F59 1EC71-1ED3D"

/-- Digits and signs of Arabic numbers. -/
def arabicNumbers : CodeRanges := CodeTable.ranges "660-669 66B-66C 10D30-10D49 10E60-10E7E"

/-- Digits of European numbers. -/
def europeanNumbers : CodeRanges := CodeTable.ranges "30-39 6F0-6F9 102E1-102FB"

/-- Signs in front of European numbers. -/
def europeanSeparators : CodeRanges := CodeTable.ranges "2B 2D 2212"

/-- What separates groups of digits. -/
def commonSeparators : CodeRanges := CodeTable.ranges "2C 2E-2F 3A 60C 2044"

/-- What stands beside European numbers. -/
def europeanTerminators : CodeRanges := CodeTable.ranges
  "23-25 A2-A5 B0-B1 58F 609-60A 66A 9F2-9F3 9FB AF1 BF9 E3F 17DB 2030-2032 20A0-20C1 212E 2213
   A838-A839 11FDD-11FE0 1E2FF"

/-- Symbols and punctuation. -/
def otherNeutrals : CodeRanges := CodeTable.ranges
  "21-22 26-2A 3B-60 7B-7E A1 A6-AE B6-D7 F7 2B9-2BA 2C2-2CF 2D2-2ED 2EF-2FF 375 3F6 58A-58E
   606-607 60E-60F 6DE 6E9 7F6-7F9 BF3-BF8 BFA C78-C7E F3A-F3D 1390-1399 1400 169B-169C 17F0-180A
   1940-1945 19DE-19FF 2010-2027 2035-2043 2045-205E 2104-2129 213A-214D 218A-2211 2214-2335
   237B-2394 2396-26AB 26AD-27FF 2900-2BFF 2CE5-2CEA 2CF9-2CFF 2E00-3004 3008-3020 3030 3037
   303D-303F 30A0 30FB 31C0-31E5 4DC0-4DFF A490-A4C6 A60D-A60F A673 A67E-A67F A700-A721 A788
   A828-A82B A874-A877 AB6A-AB6B FBC3-FDFF FE45-FE46 10101 10140-1018C 10190-101A0 1091F
   10B39-10B3F 10D6E 10ED0-10ED8 11052-11065 11660-1166C 11FD5-11FDC 11FE1-11FF1 16FE2
   1CC00-1CEF0 1D1E9-1D241 1D245 1D300-1D356 1EEF0-1F12F 1F16D-1F16F 1F1AD 1F260-1FBFA"

/-- What has no form of its own. -/
def boundaryNeutrals : CodeRanges := CodeTable.ranges "0-8 E-1B 7F 200C-200D"

/-- Spaces and what separates lines. -/
def separators : CodeRanges := CodeTable.ranges "9 A B C D 1C-1E 1F 20"

/-- The marks that are written like letters, and the spacing mark that is not. -/
def exceptions : CodeRanges × CodeRanges :=
  (CodeTable.ranges "CBF CC6 11A07-11A08 11C3F", CodeTable.ranges "1171E")

/-- The classes, with their members. -/
def members : List (Direction × CodeRanges) :=
  [(rightToLeft, rightToLefts), (arabic, arabics), (arabicNumber, arabicNumbers),
   (europeanNumber, europeanNumbers), (europeanSeparator, europeanSeparators),
   (commonSeparator, commonSeparators), (europeanTerminator, europeanTerminators),
   (otherNeutral, otherNeutrals), (boundaryNeutral, boundaryNeutrals),
   (separator, separators), (leftToRight, exceptions.1), (nonspacingMark, exceptions.2)]

/-- **The class of a character.** -/
def of (c : Char) : Direction :=
  match members.find? fun m => m.2.holds c.toNat with
  | some m => m.1
  | none => if Mark.isNonspacing c then nonspacingMark else leftToRight

/-- What makes a text one of both directions. -/
def isRightToLeft (d : Direction) : Bool := d = rightToLeft || d = arabic || d = arabicNumber

end Direction

end TexTranscript
