/-
How many columns of a terminal a text takes: none for marks that combine with the character before and
for controls, two for wide characters, one for the rest.
-/
import WebForm.Text.Alphabet

namespace WebForm.Terminal

/-- Characters that take two columns. -/
def wideChars : CodeRanges := .ofWords
  ["1100 115F 231A 231B 2329 232A 23E9 23EC 23F0 23F0 23F3 23F3 25FD 25FE 2614 2615 2648 2653 267F 267F",
   "2693 2693 26A1 26A1 26AA 26AB 26BD 26BE 26C4 26C5 26CE 26CE 26D4 26D4 26EA 26EA 26F2 26F3 26F5 26F5",
   "26FA 26FA 26FD 26FD 2705 2705 270A 270B 2728 2728 274C 274C 274E 274E 2753 2755 2757 2757 2795 2797",
   "27B0 27B0 27BF 27BF 2B1B 2B1C 2B50 2B50 2B55 2B55 2E80 3029 302E 303E 3041 3096 309B 3247 3250 4DBF",
   "4E00 A4C6 A960 A97C AC00 D7A3 F900 FAD9 FE10 FE19 FE30 FE6B FF01 FF60 FFE0 FFE6 16FE0 16FE3",
   "16FF0 1B2FB 1F004 1F004 1F0CF 1F0CF 1F18E 1F18E 1F191 1F19A 1F200 1F320 1F32D 1F335 1F337 1F37C",
   "1F37E 1F393 1F3A0 1F3CA 1F3CF 1F3D3 1F3E0 1F3F0 1F3F4 1F3F4 1F3F8 1F43E 1F440 1F440 1F442 1F4FC",
   "1F4FF 1F53D 1F54B 1F54E 1F550 1F567 1F57A 1F57A 1F595 1F596 1F5A4 1F5A4 1F5FB 1F64F 1F680 1F6C5",
   "1F6CC 1F6CC 1F6D0 1F6D2 1F6D5 1F6DF 1F6EB 1F6EC 1F6F4 1F6FC 1F7E0 1F7F0 1F90C 1F93A 1F93C 1F945",
   "1F947 1F9FF 1FA70 1FAF6 20000 3134A"]

/-- Characters that take no column. -/
def zeroChars : CodeRanges := .ofWords
  ["300 36F 483 489 591 5BD 5BF 5BF 5C1 5C2 5C4 5C5 5C7 5C7 610 61A 64B 65F 670 670 6D6 6DC 6DF 6E4",
   "6E7 6E8 6EA 6ED 711 711 730 74A 7A6 7B0 7EB 7F3 7FD 7FD 816 819 81B 823 825 827 829 82D 859 85B",
   "898 89F 8CA 8E1 8E3 902 93A 93A 93C 93C 941 948 94D 94D 951 957 962 963 981 981 9BC 9BC 9C1 9C4",
   "9CD 9CD 9E2 9E3 9FE A02 A3C A3C A41 A51 A70 A71 A75 A75 A81 A82 ABC ABC AC1 AC8 ACD ACD AE2 AE3",
   "AFA B01 B3C B3C B3F B3F B41 B44 B4D B56 B62 B63 B82 B82 BC0 BC0 BCD BCD C00 C00 C04 C04 C3C C3C",
   "C3E C40 C46 C56 C62 C63 C81 C81 CBC CBC CBF CBF CC6 CC6 CCC CCD CE2 CE3 D00 D01 D3B D3C D41 D44",
   "D4D D4D D62 D63 D81 D81 DCA DCA DD2 DD6 E31 E31 E34 E3A E47 E4E EB1 EB1 EB4 EBC EC8 ECD F18 F19",
   "F35 F35 F37 F37 F39 F39 F71 F7E F80 F84 F86 F87 F8D FBC FC6 FC6 102D 1030 1032 1037 1039 103A",
   "103D 103E 1058 1059 105E 1060 1071 1074 1082 1082 1085 1086 108D 108D 109D 109D 135D 135F 1712 1714",
   "1732 1733 1752 1753 1772 1773 17B4 17B5 17B7 17BD 17C6 17C6 17C9 17D3 17DD 17DD 180B 180D 180F 180F",
   "1885 1886 18A9 18A9 1920 1922 1927 1928 1932 1932 1939 193B 1A17 1A18 1A1B 1A1B 1A56 1A56 1A58 1A60",
   "1A62 1A62 1A65 1A6C 1A73 1A7F 1AB0 1B03 1B34 1B34 1B36 1B3A 1B3C 1B3C 1B42 1B42 1B6B 1B73 1B80 1B81",
   "1BA2 1BA5 1BA8 1BA9 1BAB 1BAD 1BE6 1BE6 1BE8 1BE9 1BED 1BED 1BEF 1BF1 1C2C 1C33 1C36 1C37 1CD0 1CD2",
   "1CD4 1CE0 1CE2 1CE8 1CED 1CED 1CF4 1CF4 1CF8 1CF9 1DC0 1DFF 200B 200F 2028 202E 2060 2063 20D0 20F0",
   "2CEF 2CF1 2D7F 2D7F 2DE0 2DFF 302A 302D 3099 309A A66F A672 A674 A67D A69E A69F A6F0 A6F1 A802 A802",
   "A806 A806 A80B A80B A825 A826 A82C A82C A8C4 A8C5 A8E0 A8F1 A8FF A8FF A926 A92D A947 A951 A980 A982",
   "A9B3 A9B3 A9B6 A9B9 A9BC A9BD A9E5 A9E5 AA29 AA2E AA31 AA32 AA35 AA36 AA43 AA43 AA4C AA4C AA7C AA7C",
   "AAB0 AAB0 AAB2 AAB4 AAB7 AAB8 AABE AABF AAC1 AAC1 AAEC AAED AAF6 AAF6 ABE5 ABE5 ABE8 ABE8 ABED ABED",
   "FB1E FB1E FE00 FE0F FE20 FE2F 101FD 101FD 102E0 102E0 10376 1037A 10A01 10A0F 10A38 10A3F",
   "10AE5 10AE6 10D24 10D27 10EAB 10EAC 10F46 10F50 10F82 10F85 11001 11001 11038 11046 11070 11070",
   "11073 11074 1107F 11081 110B3 110B6 110B9 110BA 110C2 110C2 11100 11102 11127 1112B 1112D 11134",
   "11173 11173 11180 11181 111B6 111BE 111C9 111CC 111CF 111CF 1122F 11231 11234 11234 11236 11237",
   "1123E 1123E 112DF 112DF 112E3 112EA 11300 11301 1133B 1133C 11340 11340 11366 11374 11438 1143F",
   "11442 11444 11446 11446 1145E 1145E 114B3 114B8 114BA 114BA 114BF 114C0 114C2 114C3 115B2 115B5",
   "115BC 115BD 115BF 115C0 115DC 115DD 11633 1163A 1163D 1163D 1163F 11640 116AB 116AB 116AD 116AD",
   "116B0 116B5 116B7 116B7 1171D 1171F 11722 11725 11727 1172B 1182F 11837 11839 1183A 1193B 1193C",
   "1193E 1193E 11943 11943 119D4 119DB 119E0 119E0 11A01 11A0A 11A33 11A38 11A3B 11A3E 11A47 11A47",
   "11A51 11A56 11A59 11A5B 11A8A 11A96 11A98 11A99 11C30 11C3D 11C3F 11C3F 11C92 11CA7 11CAA 11CB0",
   "11CB2 11CB3 11CB5 11CB6 11D31 11D45 11D47 11D47 11D90 11D91 11D95 11D95 11D97 11D97 11EF3 11EF4",
   "16AF0 16AF4 16B30 16B36 16F4F 16F4F 16F8F 16F92 16FE4 16FE4 1BC9D 1BC9E 1CF00 1CF46 1D167 1D169",
   "1D17B 1D182 1D185 1D18B 1D1AA 1D1AD 1D242 1D244 1DA00 1DA36 1DA3B 1DA6C 1DA75 1DA75 1DA84 1DA84",
   "1DA9B 1DAAF 1E000 1E02A 1E130 1E136 1E2AE 1E2AE 1E2EC 1E2EF 1E8D0 1E8D6 1E944 1E94A E0100 E01EF"]

/-- The columns that a character takes. -/
def charWidth (c : Char) : Nat :=
  let n := c.toNat
  if n < 32 ∨ (127 ≤ n ∧ n < 160) then 0
  else if n < 0x300 then 1
  else if zeroChars.contains n then 0
  else if wideChars.contains n then 2
  else 1

/-- The columns that a text takes. -/
def width (cs : List Char) : Nat := (cs.map charWidth).foldl (· + ·) 0

end WebForm.Terminal
