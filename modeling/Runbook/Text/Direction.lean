import Runbook.Text.Composition

/-!
# Writing directions and joining letters

How characters behave in text that mixes scripts written to the left and to the right, and how the
letters of connected scripts join with their neighbours. The tables are for the characters of names:
their ranges also run over codes that no name may hold.
-/

namespace Runbook.Text

/-- How a character behaves in mixed text. -/
inductive Direction where
  /-- A letter of a script that is written to the right. -/
  | rightward
  /-- A letter of a script that is written to the left. -/
  | leftward
  /-- A digit of the European series. -/
  | europeanDigit
  /-- A digit of the Arabic series. -/
  | arabicDigit
  /-- A mark, which follows the character that it combines with. -/
  | mark
  /-- A sign without a direction of its own. -/
  | neutral
deriving DecidableEq, Repr, Inhabited

/-- The letters of scripts that are written to the left. -/
def leftwardCodes : CodeTable := .ofText "
5BE-5F4 608 60B 60D 61B-64A 66D-6D5 6E5-6E6 6EE-7F5 7FA-8C9 FBB2-FBC2 FE73 10800-1091B 10920-10B35
10B40-10D4F 10D6F-10EC7 10F00-10FF6 1E800-1ED3D"

/-- The digits of the Arabic series. -/
def arabicDigits : CodeTable := .ofText "660-669 66B-66C 10D30-10D49 10E60-10E7E"

/-- The digits of the European series. -/
def europeanDigits : CodeTable := .ofText "30-39 6F0-6F9 102E1-102FB"

/-- Signs without a direction of their own. -/
def neutralCodes : CodeTable := .ofText "
0-60 7B-D7 F7 2B9-2BA 2C2-2CF 2D2-2ED 2EF-2FF 375 3F6 58A-7F9 9F2-9F3 9FB AF1 BF3-BFA C78-C7E E3F
F3A-F3D 1390-1399 1400 169B-169C 17DB 17F0-180A 1940-1945 19DE-19FF 200C-214D 218A-2335 237B-2394
2396-26AB 26AD-27FF 2900-2BFF 2CE5-2CEA 2CF9-2CFF 2E00-3004 3008-3020 3030 3037 303D-303F 30A0
30FB 31C0-31E5 4DC0-4DFF A490-A4C6 A60D-A60F A673-A67F A700-A721 A788 A828-A82B A838-A839
A874-A877 AB6A-AB6B FBC3-FE46 10101 10140-1018C 10190-101A0 1091F-10ED8 11052-11065 11660-1166C
11FD5-11FF1 16FE2 1CC00-1CEF0 1D1E9-1D245 1D300-1D356 1E2FF 1EEF0-1F12F 1F16D-1F16F 1F1AD
1F260-1FBFA"

/-- Marks without width that behave like the letters they combine with. -/
def letterlikeMarks : CodeTable := .ofText "CBF CC6 11A07-11A08 11C3F"

/-- The direction of a character. -/
def direction (c : Char) : Direction :=
  let code := c.toNat
  if arabicDigits.contains code then .arabicDigit
  else if europeanDigits.contains code then .europeanDigit
  else if (isNonspacingMark c && !letterlikeMarks.contains code) || code == 0x1171E then .mark
  else if leftwardCodes.contains code then .leftward
  else if neutralCodes.contains code then .neutral
  else .rightward

/-! ## Joining letters -/

/-- The letters that join on both sides. -/
def dualJoiningCodes : CodeTable := .ofText "
620 626 628 62A-62E 633-63F 641-647 649-64A 66E-66F 678-687 69A-6BF 6C1-6C2 6CC 6CE 6D0-6D1
6FA-6FC 6FF 712-714 71A-71D 71F-727 729 72B 72D-72E 74E-758 75C-76A 76D-770 772 775-777 77A-77F
7CA-7EA 841-845 848 84A-853 855 860 862-865 868 886 889-88D 88F 8A0-8A9 8AF-8B0 8B3-8B8 8BA-8C8
1807 1820-1878 1887-18A8 18AA A840-A871 10AC0-10AC4 10AD3-10AD6 10AD8-10ADC 10ADE-10AE0
10AEB-10AEE 10B80 10B82 10B86-10B88 10B8A-10B8B 10B8D 10B90 10BAD-10BAE 10D01-10D21 10D23
10EC3-10EC4 10EC6-10EC7 10F30-10F32 10F34-10F44 10F51-10F53 10F70-10F73 10F76-10F81 10FB0
10FB2-10FB3 10FB8 10FBB-10FBC 10FBE-10FBF 10FC1 10FC4 10FCA 1E900-1E943"

/-- The letters that join only with the letter in front of them. -/
def backJoiningCodes : CodeTable := .ofText "
622-625 627 629 62F-632 648 671-673 675-677 688-699 6C0 6C3-6CB 6CD 6CF 6D2-6D3 6D5 6EE-6EF 710
715-719 71E 728 72A 72C 72F 74D 759-75B 76B-76C 771 773-774 778-779 840 846-847 849 854 856-858
867 869-86A 870-882 88E 8AA-8AC 8AE 8B1-8B2 8B9 10AC5 10AC7 10AC9-10ACA 10ACE-10AD2 10ADD 10AE1
10AE4 10AEF 10B81 10B83-10B85 10B89 10B8C 10B8E-10B8F 10B91 10BA9-10BAC 10D22 10EC2 10F33 10F54
10F74-10F75 10FB4-10FB6 10FB9-10FBA 10FBD 10FC2-10FC3 10FC9"

/-- The letters that join only with the letter behind them. -/
def aheadJoiningCodes : CodeTable := .ofText "A872 10ACD 10AD7 10D00 10FCB"

/-- Whether a letter joins with the one behind it. -/
def joinsAhead (c : Char) : Bool :=
  dualJoiningCodes.contains c.toNat || aheadJoiningCodes.contains c.toNat

/-- Whether a letter joins with the one in front of it. -/
def joinsBack (c : Char) : Bool :=
  dualJoiningCodes.contains c.toNat || backJoiningCodes.contains c.toNat

/-- Whether letters join across a character as if it were not there. -/
def isTransparent (c : Char) : Bool := isNonspacingMark c || c.toNat == 0x1E94B

end Runbook.Text
