import DagConsole.Text.Category

/-! Directions of writing, and the labels that may stand in a domain name which is written from
right to left somewhere. -/
namespace DagConsole.Domain

open Text (CodeSet)

/-- How a character takes part in the direction of a text. -/
inductive Direction where
  | leftToRight
  | rightToLeft
  /-- A digit that goes with either direction. -/
  | digit
  /-- A digit of a text from right to left. -/
  | arabicDigit
  /-- A mark, which goes with the character before it. -/
  | mark
  | neutral
deriving DecidableEq

namespace Direction

/-- The marks that are written from left to right. -/
def flatMarks : CodeSet := .ofChart "CBF CC6 11A07 11A08 11C3F"

def arabicDigits : CodeSet := .ofChart "660-669 66B-66C 10D30-10D39 10E60-10E7E"

def digits : CodeSet := .ofChart "6F0-6F9 102E1-102FB"

/-- The characters of domain names, beside marks and digits, that no direction owns. -/
def neutrals : CodeSet := .ofChart
  "A1-D7 F7 2B9-2BA 2C2-2CF 2D2-2ED 2EF-2FF 375 3F6 58A-58F 606-607 609-60A 60C 60E-60F 66A 6DE
   6E9 7F6-7F9 9F2-9F3 9FB AF1 BF3-BFA C78-C7E E3F F3A-F3D 1390-1399 1400 169B-169C 17DB
   17F0-180A 1940-1945 19DE-19FF 200C-214D 218A-2335 237B-2394 2396-26AB 26AD-27FF 2900-2BFF
   2CE5-2CEA 2CF9-2CFF 2E00-3004 3008-3020 3030 3037 303D-303F 30A0 30FB 31C0-31E5 4DC0-4DFF
   A490-A4C6 A60D-A60F A673-A67F A700-A721 A788 A828-A82B A838-A839 A874-A877 AB6A-AB6B
   FBC3-FE46 10101 10140-1018C 10190-101A0 1091F 10B39-10B3F 10D6E 10ED0-10ED8 11052-11065
   11660-1166C 11FD5-11FF1 16FE2 1CC00-1CEF0 1D1E9-1D245 1D300-1D356 1E2FF 1EEF0-1F12F
   1F16D-1F16F 1F1AD 1F260-1FBFA"

/-- The scripts that are written from right to left. -/
def rightToLeftScripts : CodeSet := .ofChart "5BE-8C9 FBB2-FE73 10800-10FF6 1E800-1ED3D"

/-- The direction of a character of a domain name. -/
def of (n : Nat) : Direction :=
  if n < 0x80 then
    if 0x30 ≤ n ∧ n ≤ 0x39 then .digit
    else if (0x41 ≤ n ∧ n ≤ 0x5A) ∨ (0x61 ≤ n ∧ n ≤ 0x7A) then .leftToRight
    else .neutral
  else if Text.nonspacing.contains n && !flatMarks.contains n then .mark
  else if arabicDigits.contains n then .arabicDigit
  else if digits.contains n then .digit
  else if neutrals.contains n then .neutral
  else if rightToLeftScripts.contains n then .rightToLeft
  else .leftToRight

/-- Whether a direction makes a domain name one that is written from right to left somewhere. -/
def turns (direction : Direction) : Bool :=
  direction == .rightToLeft || direction == .arabicDigit

/-- Whether a label starts with a letter, keeps to its direction, and ends in a letter or digit of
that direction, marks aside. With letters from right to left, all digits are of one kind. -/
def fits : List Direction → Bool
  | [] => true
  | first :: rest =>
    let rest := (rest.reverse.dropWhile (· == .mark)).reverse
    let endsIn (last : List Direction) : Bool := rest.getLast?.all last.contains
    match first with
    | .leftToRight => !rest.any turns && endsIn [.leftToRight, .digit]
    | .rightToLeft =>
      !rest.contains .leftToRight && endsIn [.rightToLeft, .digit, .arabicDigit] &&
        !(rest.contains .digit && rest.contains .arabicDigit)
    | _ => false

end Direction

end DagConsole.Domain
