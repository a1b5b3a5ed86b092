/-
Properties of characters outside ASCII, as tables of the character database: what counts as a
letter or number, as a decimal digit, as printable, as part of a name, and how case is changed.
A table is written as the bounds of its ranges in hexadecimal.
-/
import WebForm.Number.Numeral

namespace WebForm

/-! ## Tables -/

def readHexWord (word : String) : Int :=
  match word.toList with
  | '-' :: ds => -(ofDigits 16 ds : Int)
  | ds => ofDigits 16 ds

/-- The words of a table, in order. -/
def readHexWords (lines : List String) : List Int :=
  lines.flatMap fun line => (line.splitOn " ").map readHexWord

/-- A set of code points as ascending ranges, both ends included. -/
structure CodeRanges where
  ranges : Array (Nat × Nat)

namespace CodeRanges

/-- Pairs of bounds, in order. -/
def pairUp : List Int → List (Nat × Nat)
  | a :: b :: rest => (a.toNat, b.toNat) :: pairUp rest
  | _ => []

/-- A set from the words of its table. -/
def ofWords (lines : List String) : CodeRanges := ⟨(pairUp (readHexWords lines)).toArray⟩

/-- The range with index in `[lo, hi)` that holds `n`, by halving; `fuel` bounds the halvings. -/
def search (ranges : Array (Nat × Nat)) (n : Nat) : Nat → Nat → Nat → Option (Nat × Nat)
  | 0, _, _ => none
  | fuel + 1, lo, hi =>
    if hi ≤ lo then none
    else
      let mid := (lo + hi) / 2
      match ranges[mid]? with
      | none => none
      | some (a, b) =>
        if n < a then search ranges n fuel lo mid
        else if b < n then search ranges n fuel (mid + 1) hi
        else some (a, b)

/-- The range that holds a code point. -/
def range? (s : CodeRanges) (n : Nat) : Option (Nat × Nat) := search s.ranges n 32 0 s.ranges.size

/-- Whether a code point belongs to the set. -/
def contains (s : CodeRanges) (n : Nat) : Bool := (s.range? n).isSome

end CodeRanges

/-- A change of case for the code points `first`, `first + step`, … up to `last`. -/
structure CaseRun where
  first : Nat
  last : Nat
  step : Nat
  shift : Int

/-- A change of case as ascending runs. -/
structure CaseRuns where
  runs : List CaseRun

namespace CaseRun

/-- Whether a run changes a code point. -/
def covers (r : CaseRun) (n : Nat) : Bool := r.first ≤ n && n ≤ r.last && (n - r.first) % r.step == 0

/-- Whether a run changes some code point from `lo` to `hi`. -/
def meets (r : CaseRun) (lo hi : Nat) : Bool :=
  let start := if lo ≤ r.first then r.first else r.first + (lo - r.first + r.step - 1) / r.step * r.step
  start ≤ r.last && start ≤ hi

end CaseRun

namespace CaseRuns

/-- Runs from groups of four words. -/
def group : List Int → List CaseRun
  | a :: b :: c :: d :: rest => ⟨a.toNat, b.toNat, c.toNat, d⟩ :: group rest
  | _ => []

/-- Runs from the words of their table. -/
def ofWords (lines : List String) : CaseRuns := ⟨group (readHexWords lines)⟩

/-- The code point with its case changed. -/
def apply (c : CaseRuns) (n : Nat) : Nat :=
  match c.runs.find? (·.covers n) with
  | some r => ((n : Int) + r.shift).toNat
  | none => n

/-- The code points that are changed into `n`. -/
def sources (c : CaseRuns) (n : Nat) : List Nat :=
  c.runs.filterMap fun r =>
    let m := ((n : Int) - r.shift).toNat
    if r.covers m ∧ ((m : Int) + r.shift) = n then some m else none

/-- Whether some code point from `lo` to `hi` is changed. -/
def meets (c : CaseRuns) (lo hi : Nat) : Bool := c.runs.any (·.meets lo hi)

end CaseRuns

/-! ## Data -/

/-- Letters and numbers of every script. -/
def alphanumeric : CodeRanges := .ofWords
  ["30 39 41 5A 61 7A AA AA B2 B3 B5 B5 B9 BA BC BE C0 D6 D8 F6 F8 2C1 2C6 2D1 2E0 2E4 2EC 2EC 2EE 2EE",
   "370 374 376 377 37A 37D 37F 37F 386 386 388 38A 38C 38C 38E 3A1 3A3 3F5 3F7 481 48A 52F 531 556 559 559",
   "560 588 5D0 5EA 5EF 5F2 620 64A 660 669 66E 66F 671 6D3 6D5 6D5 6E5 6E6 6EE 6FC 6FF 6FF 710 710 712 72F",
   "74D 7A5 7B1 7B1 7C0 7EA 7F4 7F5 7FA 7FA 800 815 81A 81A 824 824 828 828 840 858 860 86A 870 887 889 88E",
   "8A0 8C9 904 939 93D 93D 950 950 958 961 966 96F 971 980 985 98C 98F 990 993 9A8 9AA 9B0 9B2 9B2 9B6 9B9",
   "9BD 9BD 9CE 9CE 9DC 9DD 9DF 9E1 9E6 9F1 9F4 9F9 9FC 9FC A05 A0A A0F A10 A13 A28 A2A A30 A32 A33 A35 A36",
   "A38 A39 A59 A5C A5E A5E A66 A6F A72 A74 A85 A8D A8F A91 A93 AA8 AAA AB0 AB2 AB3 AB5 AB9 ABD ABD AD0 AD0",
   "AE0 AE1 AE6 AEF AF9 AF9 B05 B0C B0F B10 B13 B28 B2A B30 B32 B33 B35 B39 B3D B3D B5C B5D B5F B61 B66 B6F",
   "B71 B77 B83 B83 B85 B8A B8E B90 B92 B95 B99 B9A B9C B9C B9E B9F BA3 BA4 BA8 BAA BAE BB9 BD0 BD0 BE6 BF2",
   "C05 C0C C0E C10 C12 C28 C2A C39 C3D C3D C58 C5A C5D C5D C60 C61 C66 C6F C78 C7E C80 C80 C85 C8C C8E C90",
   "C92 CA8 CAA CB3 CB5 CB9 CBD CBD CDD CDE CE0 CE1 CE6 CEF CF1 CF2 D04 D0C D0E D10 D12 D3A D3D D3D D4E D4E",
   "D54 D56 D58 D61 D66 D78 D7A D7F D85 D96 D9A DB1 DB3 DBB DBD DBD DC0 DC6 DE6 DEF E01 E30 E32 E33 E40 E46",
   "E50 E59 E81 E82 E84 E84 E86 E8A E8C EA3 EA5 EA5 EA7 EB0 EB2 EB3 EBD EBD EC0 EC4 EC6 EC6 ED0 ED9 EDC EDF",
   "F00 F00 F20 F33 F40 F47 F49 F6C F88 F8C 1000 102A 103F 1049 1050 1055 105A 105D 1061 1061 1065 1066",
   "106E 1070 1075 1081 108E 108E 1090 1099 10A0 10C5 10C7 10C7 10CD 10CD 10D0 10FA 10FC 1248 124A 124D",
   "1250 1256 1258 1258 125A 125D 1260 1288 128A 128D 1290 12B0 12B2 12B5 12B8 12BE 12C0 12C0 12C2 12C5",
   "12C8 12D6 12D8 1310 1312 1315 1318 135A 1369 137C 1380 138F 13A0 13F5 13F8 13FD 1401 166C 166F 167F",
   "1681 169A 16A0 16EA 16EE 16F8 1700 1711 171F 1731 1740 1751 1760 176C 176E 1770 1780 17B3 17D7 17D7",
   "17DC 17DC 17E0 17E9 17F0 17F9 1810 1819 1820 1878 1880 1884 1887 18A8 18AA 18AA 18B0 18F5 1900 191E",
   "1946 196D 1970 1974 1980 19AB 19B0 19C9 19D0 19DA 1A00 1A16 1A20 1A54 1A80 1A89 1A90 1A99 1AA7 1AA7",
   "1B05 1B33 1B45 1B4C 1B50 1B59 1B83 1BA0 1BAE 1BE5 1C00 1C23 1C40 1C49 1C4D 1C7D 1C80 1C88 1C90 1CBA",
   "1CBD 1CBF 1CE9 1CEC 1CEE 1CF3 1CF5 1CF6 1CFA 1CFA 1D00 1DBF 1E00 1F15 1F18 1F1D 1F20 1F45 1F48 1F4D",
   "1F50 1F57 1F59 1F59 1F5B 1F5B 1F5D 1F5D 1F5F 1F7D 1F80 1FB4 1FB6 1FBC 1FBE 1FBE 1FC2 1FC4 1FC6 1FCC",
   "1FD0 1FD3 1FD6 1FDB 1FE0 1FEC 1FF2 1FF4 1FF6 1FFC 2070 2071 2074 2079 207F 2089 2090 209C 2102 2102",
   "2107 2107 210A 2113 2115 2115 2119 211D 2124 2124 2126 2126 2128 2128 212A 212D 212F 2139 213C 213F",
   "2145 2149 214E 214E 2150 2189 2460 249B 24EA 24FF 2776 2793 2C00 2CE4 2CEB 2CEE 2CF2 2CF3 2CFD 2CFD",
   "2D00 2D25 2D27 2D27 2D2D 2D2D 2D30 2D67 2D6F 2D6F 2D80 2D96 2DA0 2DA6 2DA8 2DAE 2DB0 2DB6 2DB8 2DBE",
   "2DC0 2DC6 2DC8 2DCE 2DD0 2DD6 2DD8 2DDE 2E2F 2E2F 3005 3007 3021 3029 3031 3035 3038 303C 3041 3096",
   "309D 309F 30A1 30FA 30FC 30FF 3105 312F 3131 318E 3192 3195 31A0 31BF 31F0 31FF 3220 3229 3248 324F",
   "3251 325F 3280 3289 32B1 32BF 3400 4DBF 4E00 A48C A4D0 A4FD A500 A60C A610 A62B A640 A66E A67F A69D",
   "A6A0 A6EF A717 A71F A722 A788 A78B A7CA A7D0 A7D1 A7D3 A7D3 A7D5 A7D9 A7F2 A801 A803 A805 A807 A80A",
   "A80C A822 A830 A835 A840 A873 A882 A8B3 A8D0 A8D9 A8F2 A8F7 A8FB A8FB A8FD A8FE A900 A925 A930 A946",
   "A960 A97C A984 A9B2 A9CF A9D9 A9E0 A9E4 A9E6 A9FE AA00 AA28 AA40 AA42 AA44 AA4B AA50 AA59 AA60 AA76",
   "AA7A AA7A AA7E AAAF AAB1 AAB1 AAB5 AAB6 AAB9 AABD AAC0 AAC0 AAC2 AAC2 AADB AADD AAE0 AAEA AAF2 AAF4",
   "AB01 AB06 AB09 AB0E AB11 AB16 AB20 AB26 AB28 AB2E AB30 AB5A AB5C AB69 AB70 ABE2 ABF0 ABF9 AC00 D7A3",
   "D7B0 D7C6 D7CB D7FB F900 FA6D FA70 FAD9 FB00 FB06 FB13 FB17 FB1D FB1D FB1F FB28 FB2A FB36 FB38 FB3C",
   "FB3E FB3E FB40 FB41 FB43 FB44 FB46 FBB1 FBD3 FD3D FD50 FD8F FD92 FDC7 FDF0 FDFB FE70 FE74 FE76 FEFC",
   "FF10 FF19 FF21 FF3A FF41 FF5A FF66 FFBE FFC2 FFC7 FFCA FFCF FFD2 FFD7 FFDA FFDC 10000 1000B 1000D 10026",
   "10028 1003A 1003C 1003D 1003F 1004D 10050 1005D 10080 100FA 10107 10133 10140 10178 1018A 1018B",
   "10280 1029C 102A0 102D0 102E1 102FB 10300 10323 1032D 1034A 10350 10375 10380 1039D 103A0 103C3",
   "103C8 103CF 103D1 103D5 10400 1049D 104A0 104A9 104B0 104D3 104D8 104FB 10500 10527 10530 10563",
   "10570 1057A 1057C 1058A 1058C 10592 10594 10595 10597 105A1 105A3 105B1 105B3 105B9 105BB 105BC",
   "10600 10736 10740 10755 10760 10767 10780 10785 10787 107B0 107B2 107BA 10800 10805 10808 10808",
   "1080A 10835 10837 10838 1083C 1083C 1083F 10855 10858 10876 10879 1089E 108A7 108AF 108E0 108F2",
   "108F4 108F5 108FB 1091B 10920 10939 10980 109B7 109BC 109CF 109D2 10A00 10A10 10A13 10A15 10A17",
   "10A19 10A35 10A40 10A48 10A60 10A7E 10A80 10A9F 10AC0 10AC7 10AC9 10AE4 10AEB 10AEF 10B00 10B35",
   "10B40 10B55 10B58 10B72 10B78 10B91 10BA9 10BAF 10C00 10C48 10C80 10CB2 10CC0 10CF2 10CFA 10D23",
   "10D30 10D39 10E60 10E7E 10E80 10EA9 10EB0 10EB1 10F00 10F27 10F30 10F45 10F51 10F54 10F70 10F81",
   "10FB0 10FCB 10FE0 10FF6 11003 11037 11052 1106F 11071 11072 11075 11075 11083 110AF 110D0 110E8",
   "110F0 110F9 11103 11126 11136 1113F 11144 11144 11147 11147 11150 11172 11176 11176 11183 111B2",
   "111C1 111C4 111D0 111DA 111DC 111DC 111E1 111F4 11200 11211 11213 1122B 11280 11286 11288 11288",
   "1128A 1128D 1128F 1129D 1129F 112A8 112B0 112DE 112F0 112F9 11305 1130C 1130F 11310 11313 11328",
   "1132A 11330 11332 11333 11335 11339 1133D 1133D 11350 11350 1135D 11361 11400 11434 11447 1144A",
   "11450 11459 1145F 11461 11480 114AF 114C4 114C5 114C7 114C7 114D0 114D9 11580 115AE 115D8 115DB",
   "11600 1162F 11644 11644 11650 11659 11680 116AA 116B8 116B8 116C0 116C9 11700 1171A 11730 1173B",
   "11740 11746 11800 1182B 118A0 118F2 118FF 11906 11909 11909 1190C 11913 11915 11916 11918 1192F",
   "1193F 1193F 11941 11941 11950 11959 119A0 119A7 119AA 119D0 119E1 119E1 119E3 119E3 11A00 11A00",
   "11A0B 11A32 11A3A 11A3A 11A50 11A50 11A5C 11A89 11A9D 11A9D 11AB0 11AF8 11C00 11C08 11C0A 11C2E",
   "11C40 11C40 11C50 11C6C 11C72 11C8F 11D00 11D06 11D08 11D09 11D0B 11D30 11D46 11D46 11D50 11D59",
   "11D60 11D65 11D67 11D68 11D6A 11D89 11D98 11D98 11DA0 11DA9 11EE0 11EF2 11FB0 11FB0 11FC0 11FD4",
   "12000 12399 12400 1246E 12480 12543 12F90 12FF0 13000 1342E 14400 14646 16800 16A38 16A40 16A5E",
   "16A60 16A69 16A70 16ABE 16AC0 16AC9 16AD0 16AED 16B00 16B2F 16B40 16B43 16B50 16B59 16B5B 16B61",
   "16B63 16B77 16B7D 16B8F 16E40 16E96 16F00 16F4A 16F50 16F50 16F93 16F9F 16FE0 16FE1 16FE3 16FE3",
   "17000 187F7 18800 18CD5 18D00 18D08 1AFF0 1AFF3 1AFF5 1AFFB 1AFFD 1AFFE 1B000 1B122 1B150 1B152",
   "1B164 1B167 1B170 1B2FB 1BC00 1BC6A 1BC70 1BC7C 1BC80 1BC88 1BC90 1BC99 1D2E0 1D2F3 1D360 1D378",
   "1D400 1D454 1D456 1D49C 1D49E 1D49F 1D4A2 1D4A2 1D4A5 1D4A6 1D4A9 1D4AC 1D4AE 1D4B9 1D4BB 1D4BB",
   "1D4BD 1D4C3 1D4C5 1D505 1D507 1D50A 1D50D 1D514 1D516 1D51C 1D51E 1D539 1D53B 1D53E 1D540 1D544",
   "1D546 1D546 1D54A 1D550 1D552 1D6A5 1D6A8 1D6C0 1D6C2 1D6DA 1D6DC 1D6FA 1D6FC 1D714 1D716 1D734",
   "1D736 1D74E 1D750 1D76E 1D770 1D788 1D78A 1D7A8 1D7AA 1D7C2 1D7C4 1D7CB 1D7CE 1D7FF 1DF00 1DF1E",
   "1E100 1E12C 1E137 1E13D 1E140 1E149 1E14E 1E14E 1E290 1E2AD 1E2C0 1E2EB 1E2F0 1E2F9 1E7E0 1E7E6",
   "1E7E8 1E7EB 1E7ED 1E7EE 1E7F0 1E7FE 1E800 1E8C4 1E8C7 1E8CF 1E900 1E943 1E94B 1E94B 1E950 1E959",
   "1EC71 1ECAB 1ECAD 1ECAF 1ECB1 1ECB4 1ED01 1ED2D 1ED2F 1ED3D 1EE00 1EE03 1EE05 1EE1F 1EE21 1EE22",
   "1EE24 1EE24 1EE27 1EE27 1EE29 1EE32 1EE34 1EE37 1EE39 1EE39 1EE3B 1EE3B 1EE42 1EE42 1EE47 1EE47",
   "1EE49 1EE49 1EE4B 1EE4B 1EE4D 1EE4F 1EE51 1EE52 1EE54 1EE54 1EE57 1EE57 1EE59 1EE59 1EE5B 1EE5B",
   "1EE5D 1EE5D 1EE5F 1EE5F 1EE61 1EE62 1EE64 1EE64 1EE67 1EE6A 1EE6C 1EE72 1EE74 1EE77 1EE79 1EE7C",
   "1EE7E 1EE7E 1EE80 1EE89 1EE8B 1EE9B 1EEA1 1EEA3 1EEA5 1EEA9 1EEAB 1EEBB 1F100 1F10C 1FBF0 1FBF9",
   "20000 2A6DF 2A700 2B738 2B740 2B81D 2B820 2CEA1 2CEB0 2EBE0 2F800 2FA1D 30000 3134A"]

/-- Decimal digits of every script; each range starts at a zero and runs through whole decades. -/
def decimalDigits : CodeRanges := .ofWords
  ["30 39 660 669 6F0 6F9 7C0 7C9 966 96F 9E6 9EF A66 A6F AE6 AEF B66 B6F BE6 BEF C66 C6F CE6 CEF D66 D6F",
   "DE6 DEF E50 E59 ED0 ED9 F20 F29 1040 1049 1090 1099 17E0 17E9 1810 1819 1946 194F 19D0 19D9 1A80 1A89",
   "1A90 1A99 1B50 1B59 1BB0 1BB9 1C40 1C49 1C50 1C59 A620 A629 A8D0 A8D9 A900 A909 A9D0 A9D9 A9F0 A9F9",
   "AA50 AA59 ABF0 ABF9 FF10 FF19 104A0 104A9 10D30 10D39 11066 1106F 110F0 110F9 11136 1113F 111D0 111D9",
   "112F0 112F9 11450 11459 114D0 114D9 11650 11659 116C0 116C9 11730 11739 118E0 118E9 11950 11959",
   "11C50 11C59 11D50 11D59 11DA0 11DA9 16A60 16A69 16AC0 16AC9 16B50 16B59 1D7CE 1D7FF 1E140 1E149",
   "1E2F0 1E2F9 1E950 1E959 1FBF0 1FBF9"]

/-- Characters shown as themselves: all but separators other than the space, controls, format
characters and unassigned ones. -/
def printable : CodeRanges := .ofWords
  ["20 7E A1 AC AE 377 37A 37F 384 38A 38C 38C 38E 3A1 3A3 52F 531 556 559 58A 58D 58F 591 5C7 5D0 5EA",
   "5EF 5F4 606 61B 61D 6DC 6DE 70D 710 74A 74D 7B1 7C0 7FA 7FD 82D 830 83E 840 85B 85E 85E 860 86A 870 88E",
   "898 8E1 8E3 983 985 98C 98F 990 993 9A8 9AA 9B0 9B2 9B2 9B6 9B9 9BC 9C4 9C7 9C8 9CB 9CE 9D7 9D7 9DC 9DD",
   "9DF 9E3 9E6 9FE A01 A03 A05 A0A A0F A10 A13 A28 A2A A30 A32 A33 A35 A36 A38 A39 A3C A3C A3E A42 A47 A48",
   "A4B A4D A51 A51 A59 A5C A5E A5E A66 A76 A81 A83 A85 A8D A8F A91 A93 AA8 AAA AB0 AB2 AB3 AB5 AB9 ABC AC5",
   "AC7 AC9 ACB ACD AD0 AD0 AE0 AE3 AE6 AF1 AF9 AFF B01 B03 B05 B0C B0F B10 B13 B28 B2A B30 B32 B33 B35 B39",
   "B3C B44 B47 B48 B4B B4D B55 B57 B5C B5D B5F B63 B66 B77 B82 B83 B85 B8A B8E B90 B92 B95 B99 B9A B9C B9C",
   "B9E B9F BA3 BA4 BA8 BAA BAE BB9 BBE BC2 BC6 BC8 BCA BCD BD0 BD0 BD7 BD7 BE6 BFA C00 C0C C0E C10 C12 C28",
   "C2A C39 C3C C44 C46 C48 C4A C4D C55 C56 C58 C5A C5D C5D C60 C63 C66 C6F C77 C8C C8E C90 C92 CA8 CAA CB3",
   "CB5 CB9 CBC CC4 CC6 CC8 CCA CCD CD5 CD6 CDD CDE CE0 CE3 CE6 CEF CF1 CF2 D00 D0C D0E D10 D12 D44 D46 D48",
   "D4A D4F D54 D63 D66 D7F D81 D83 D85 D96 D9A DB1 DB3 DBB DBD DBD DC0 DC6 DCA DCA DCF DD4 DD6 DD6 DD8 DDF",
   "DE6 DEF DF2 DF4 E01 E3A E3F E5B E81 E82 E84 E84 E86 E8A E8C EA3 EA5 EA5 EA7 EBD EC0 EC4 EC6 EC6 EC8 ECD",
   "ED0 ED9 EDC EDF F00 F47 F49 F6C F71 F97 F99 FBC FBE FCC FCE FDA 1000 10C5 10C7 10C7 10CD 10CD 10D0 1248",
   "124A 124D 1250 1256 1258 1258 125A 125D 1260 1288 128A 128D 1290 12B0 12B2 12B5 12B8 12BE 12C0 12C0",
   "12C2 12C5 12C8 12D6 12D8 1310 1312 1315 1318 135A 135D 137C 1380 1399 13A0 13F5 13F8 13FD 1400 167F",
   "1681 169C 16A0 16F8 1700 1715 171F 1736 1740 1753 1760 176C 176E 1770 1772 1773 1780 17DD 17E0 17E9",
   "17F0 17F9 1800 180D 180F 1819 1820 1878 1880 18AA 18B0 18F5 1900 191E 1920 192B 1930 193B 1940 1940",
   "1944 196D 1970 1974 1980 19AB 19B0 19C9 19D0 19DA 19DE 1A1B 1A1E 1A5E 1A60 1A7C 1A7F 1A89 1A90 1A99",
   "1AA0 1AAD 1AB0 1ACE 1B00 1B4C 1B50 1B7E 1B80 1BF3 1BFC 1C37 1C3B 1C49 1C4D 1C88 1C90 1CBA 1CBD 1CC7",
   "1CD0 1CFA 1D00 1F15 1F18 1F1D 1F20 1F45 1F48 1F4D 1F50 1F57 1F59 1F59 1F5B 1F5B 1F5D 1F5D 1F5F 1F7D",
   "1F80 1FB4 1FB6 1FC4 1FC6 1FD3 1FD6 1FDB 1FDD 1FEF 1FF2 1FF4 1FF6 1FFE 2010 2027 2030 205E 2070 2071",
   "2074 208E 2090 209C 20A0 20C0 20D0 20F0 2100 218B 2190 2426 2440 244A 2460 2B73 2B76 2B95 2B97 2CF3",
   "2CF9 2D25 2D27 2D27 2D2D 2D2D 2D30 2D67 2D6F 2D70 2D7F 2D96 2DA0 2DA6 2DA8 2DAE 2DB0 2DB6 2DB8 2DBE",
   "2DC0 2DC6 2DC8 2DCE 2DD0 2DD6 2DD8 2DDE 2DE0 2E5D 2E80 2E99 2E9B 2EF3 2F00 2FD5 2FF0 2FFB 3001 303F",
   "3041 3096 3099 30FF 3105 312F 3131 318E 3190 31E3 31F0 321E 3220 A48C A490 A4C6 A4D0 A62B A640 A6F7",
   "A700 A7CA A7D0 A7D1 A7D3 A7D3 A7D5 A7D9 A7F2 A82C A830 A839 A840 A877 A880 A8C5 A8CE A8D9 A8E0 A953",
   "A95F A97C A980 A9CD A9CF A9D9 A9DE A9FE AA00 AA36 AA40 AA4D AA50 AA59 AA5C AAC2 AADB AAF6 AB01 AB06",
   "AB09 AB0E AB11 AB16 AB20 AB26 AB28 AB2E AB30 AB6B AB70 ABED ABF0 ABF9 AC00 D7A3 D7B0 D7C6 D7CB D7FB",
   "F900 FA6D FA70 FAD9 FB00 FB06 FB13 FB17 FB1D FB36 FB38 FB3C FB3E FB3E FB40 FB41 FB43 FB44 FB46 FBC2",
   "FBD3 FD8F FD92 FDC7 FDCF FDCF FDF0 FE19 FE20 FE52 FE54 FE66 FE68 FE6B FE70 FE74 FE76 FEFC FF01 FFBE",
   "FFC2 FFC7 FFCA FFCF FFD2 FFD7 FFDA FFDC FFE0 FFE6 FFE8 FFEE FFFC FFFD 10000 1000B 1000D 10026",
   "10028 1003A 1003C 1003D 1003F 1004D 10050 1005D 10080 100FA 10100 10102 10107 10133 10137 1018E",
   "10190 1019C 101A0 101A0 101D0 101FD 10280 1029C 102A0 102D0 102E0 102FB 10300 10323 1032D 1034A",
   "10350 1037A 10380 1039D 1039F 103C3 103C8 103D5 10400 1049D 104A0 104A9 104B0 104D3 104D8 104FB",
   "10500 10527 10530 10563 1056F 1057A 1057C 1058A 1058C 10592 10594 10595 10597 105A1 105A3 105B1",
   "105B3 105B9 105BB 105BC 10600 10736 10740 10755 10760 10767 10780 10785 10787 107B0 107B2 107BA",
   "10800 10805 10808 10808 1080A 10835 10837 10838 1083C 1083C 1083F 10855 10857 1089E 108A7 108AF",
   "108E0 108F2 108F4 108F5 108FB 1091B 1091F 10939 1093F 1093F 10980 109B7 109BC 109CF 109D2 10A03",
   "10A05 10A06 10A0C 10A13 10A15 10A17 10A19 10A35 10A38 10A3A 10A3F 10A48 10A50 10A58 10A60 10A9F",
   "10AC0 10AE6 10AEB 10AF6 10B00 10B35 10B39 10B55 10B58 10B72 10B78 10B91 10B99 10B9C 10BA9 10BAF",
   "10C00 10C48 10C80 10CB2 10CC0 10CF2 10CFA 10D27 10D30 10D39 10E60 10E7E 10E80 10EA9 10EAB 10EAD",
   "10EB0 10EB1 10F00 10F27 10F30 10F59 10F70 10F89 10FB0 10FCB 10FE0 10FF6 11000 1104D 11052 11075",
   "1107F 110BC 110BE 110C2 110D0 110E8 110F0 110F9 11100 11134 11136 11147 11150 11176 11180 111DF",
   "111E1 111F4 11200 11211 11213 1123E 11280 11286 11288 11288 1128A 1128D 1128F 1129D 1129F 112A9",
   "112B0 112EA 112F0 112F9 11300 11303 11305 1130C 1130F 11310 11313 11328 1132A 11330 11332 11333",
   "11335 11339 1133B 11344 11347 11348 1134B 1134D 11350 11350 11357 11357 1135D 11363 11366 1136C",
   "11370 11374 11400 1145B 1145D 11461 11480 114C7 114D0 114D9 11580 115B5 115B8 115DD 11600 11644",
   "11650 11659 11660 1166C 11680 116B9 116C0 116C9 11700 1171A 1171D 1172B 11730 11746 11800 1183B",
   "118A0 118F2 118FF 11906 11909 11909 1190C 11913 11915 11916 11918 11935 11937 11938 1193B 11946",
   "11950 11959 119A0 119A7 119AA 119D7 119DA 119E4 11A00 11A47 11A50 11AA2 11AB0 11AF8 11C00 11C08",
   "11C0A 11C36 11C38 11C45 11C50 11C6C 11C70 11C8F 11C92 11CA7 11CA9 11CB6 11D00 11D06 11D08 11D09",
   "11D0B 11D36 11D3A 11D3A 11D3C 11D3D 11D3F 11D47 11D50 11D59 11D60 11D65 11D67 11D68 11D6A 11D8E",
   "11D90 11D91 11D93 11D98 11DA0 11DA9 11EE0 11EF8 11FB0 11FB0 11FC0 11FF1 11FFF 12399 12400 1246E",
   "12470 12474 12480 12543 12F90 12FF2 13000 1342E 14400 14646 16800 16A38 16A40 16A5E 16A60 16A69",
   "16A6E 16ABE 16AC0 16AC9 16AD0 16AED 16AF0 16AF5 16B00 16B45 16B50 16B59 16B5B 16B61 16B63 16B77",
   "16B7D 16B8F 16E40 16E9A 16F00 16F4A 16F4F 16F87 16F8F 16F9F 16FE0 16FE4 16FF0 16FF1 17000 187F7",
   "18800 18CD5 18D00 18D08 1AFF0 1AFF3 1AFF5 1AFFB 1AFFD 1AFFE 1B000 1B122 1B150 1B152 1B164 1B167",
   "1B170 1B2FB 1BC00 1BC6A 1BC70 1BC7C 1BC80 1BC88 1BC90 1BC99 1BC9C 1BC9F 1CF00 1CF2D 1CF30 1CF46",
   "1CF50 1CFC3 1D000 1D0F5 1D100 1D126 1D129 1D172 1D17B 1D1EA 1D200 1D245 1D2E0 1D2F3 1D300 1D356",
   "1D360 1D378 1D400 1D454 1D456 1D49C 1D49E 1D49F 1D4A2 1D4A2 1D4A5 1D4A6 1D4A9 1D4AC 1D4AE 1D4B9",
   "1D4BB 1D4BB 1D4BD 1D4C3 1D4C5 1D505 1D507 1D50A 1D50D 1D514 1D516 1D51C 1D51E 1D539 1D53B 1D53E",
   "1D540 1D544 1D546 1D546 1D54A 1D550 1D552 1D6A5 1D6A8 1D7CB 1D7CE 1DA8B 1DA9B 1DA9F 1DAA1 1DAAF",
   "1DF00 1DF1E 1E000 1E006 1E008 1E018 1E01B 1E021 1E023 1E024 1E026 1E02A 1E100 1E12C 1E130 1E13D",
   "1E140 1E149 1E14E 1E14F 1E290 1E2AE 1E2C0 1E2F9 1E2FF 1E2FF 1E7E0 1E7E6 1E7E8 1E7EB 1E7ED 1E7EE",
   "1E7F0 1E7FE 1E800 1E8C4 1E8C7 1E8D6 1E900 1E94B 1E950 1E959 1E95E 1E95F 1EC71 1ECB4 1ED01 1ED3D",
   "1EE00 1EE03 1EE05 1EE1F 1EE21 1EE22 1EE24 1EE24 1EE27 1EE27 1EE29 1EE32 1EE34 1EE37 1EE39 1EE39",
   "1EE3B 1EE3B 1EE42 1EE42 1EE47 1EE47 1EE49 1EE49 1EE4B 1EE4B 1EE4D 1EE4F 1EE51 1EE52 1EE54 1EE54",
   "1EE57 1EE57 1EE59 1EE59 1EE5B 1EE5B 1EE5D 1EE5D 1EE5F 1EE5F 1EE61 1EE62 1EE64 1EE64 1EE67 1EE6A",
   "1EE6C 1EE72 1EE74 1EE77 1EE79 1EE7C 1EE7E 1EE7E 1EE80 1EE89 1EE8B 1EE9B 1EEA1 1EEA3 1EEA5 1EEA9",
   "1EEAB 1EEBB 1EEF0 1EEF1 1F000 1F02B 1F030 1F093 1F0A0 1F0AE 1F0B1 1F0BF 1F0C1 1F0CF 1F0D1 1F0F5",
   "1F100 1F1AD 1F1E6 1F202 1F210 1F23B 1F240 1F248 1F250 1F251 1F260 1F265 1F300 1F6D7 1F6DD 1F6EC",
   "1F6F0 1F6FC 1F700 1F773 1F780 1F7D8 1F7E0 1F7EB 1F7F0 1F7F0 1F800 1F80B 1F810 1F847 1F850 1F859",
   "1F860 1F887 1F890 1F8AD 1F8B0 1F8B1 1F900 1FA53 1FA60 1FA6D 1FA70 1FA74 1FA78 1FA7C 1FA80 1FA86",
   "1FA90 1FAAC 1FAB0 1FABA 1FAC0 1FAC5 1FAD0 1FAD9 1FAE0 1FAE7 1FAF0 1FAF6 1FB00 1FB92 1FB94 1FBCA",
   "1FBF0 1FBF9 20000 2A6DF 2A700 2B738 2B740 2B81D 2B820 2CEA1 2CEB0 2EBE0 2F800 2FA1D 30000 3134A",
   "E0100 E01EF"]

/-- Characters that may start a name. -/
def nameStart : CodeRanges := .ofWords
  ["41 5A 5F 5F 61 7A AA AA B5 B5 BA BA C0 D6 D8 F6 F8 2C1 2C6 2D1 2E0 2E4 2EC 2EC 2EE 2EE 370 374 376 377",
   "37B 37D 37F 37F 386 386 388 38A 38C 38C 38E 3A1 3A3 3F5 3F7 481 48A 52F 531 556 559 559 560 588 5D0 5EA",
   "5EF 5F2 620 64A 66E 66F 671 6D3 6D5 6D5 6E5 6E6 6EE 6EF 6FA 6FC 6FF 6FF 710 710 712 72F 74D 7A5 7B1 7B1",
   "7CA 7EA 7F4 7F5 7FA 7FA 800 815 81A 81A 824 824 828 828 840 858 860 86A 870 887 889 88E 8A0 8C9 904 939",
   "93D 93D 950 950 958 961 971 980 985 98C 98F 990 993 9A8 9AA 9B0 9B2 9B2 9B6 9B9 9BD 9BD 9CE 9CE 9DC 9DD",
   "9DF 9E1 9F0 9F1 9FC 9FC A05 A0A A0F A10 A13 A28 A2A A30 A32 A33 A35 A36 A38 A39 A59 A5C A5E A5E A72 A74",
   "A85 A8D A8F A91 A93 AA8 AAA AB0 AB2 AB3 AB5 AB9 ABD ABD AD0 AD0 AE0 AE1 AF9 AF9 B05 B0C B0F B10 B13 B28",
   "B2A B30 B32 B33 B35 B39 B3D B3D B5C B5D B5F B61 B71 B71 B83 B83 B85 B8A B8E B90 B92 B95 B99 B9A B9C B9C",
   "B9E B9F BA3 BA4 BA8 BAA BAE BB9 BD0 BD0 C05 C0C C0E C10 C12 C28 C2A C39 C3D C3D C58 C5A C5D C5D C60 C61",
   "C80 C80 C85 C8C C8E C90 C92 CA8 CAA CB3 CB5 CB9 CBD CBD CDD CDE CE0 CE1 CF1 CF2 D04 D0C D0E D10 D12 D3A",
   "D3D D3D D4E D4E D54 D56 D5F D61 D7A D7F D85 D96 D9A DB1 DB3 DBB DBD DBD DC0 DC6 E01 E30 E32 E32 E40 E46",
   "E81 E82 E84 E84 E86 E8A E8C EA3 EA5 EA5 EA7 EB0 EB2 EB2 EBD EBD EC0 EC4 EC6 EC6 EDC EDF F00 F00 F40 F47",
   "F49 F6C F88 F8C 1000 102A 103F 103F 1050 1055 105A 105D 1061 1061 1065 1066 106E 1070 1075 1081",
   "108E 108E 10A0 10C5 10C7 10C7 10CD 10CD 10D0 10FA 10FC 1248 124A 124D 1250 1256 1258 1258 125A 125D",
   "1260 1288 128A 128D 1290 12B0 12B2 12B5 12B8 12BE 12C0 12C0 12C2 12C5 12C8 12D6 12D8 1310 1312 1315",
   "1318 135A 1380 138F 13A0 13F5 13F8 13FD 1401 166C 166F 167F 1681 169A 16A0 16EA 16EE 16F8 1700 1711",
   "171F 1731 1740 1751 1760 176C 176E 1770 1780 17B3 17D7 17D7 17DC 17DC 1820 1878 1880 18A8 18AA 18AA",
   "18B0 18F5 1900 191E 1950 196D 1970 1974 1980 19AB 19B0 19C9 1A00 1A16 1A20 1A54 1AA7 1AA7 1B05 1B33",
   "1B45 1B4C 1B83 1BA0 1BAE 1BAF 1BBA 1BE5 1C00 1C23 1C4D 1C4F 1C5A 1C7D 1C80 1C88 1C90 1CBA 1CBD 1CBF",
   "1CE9 1CEC 1CEE 1CF3 1CF5 1CF6 1CFA 1CFA 1D00 1DBF 1E00 1F15 1F18 1F1D 1F20 1F45 1F48 1F4D 1F50 1F57",
   "1F59 1F59 1F5B 1F5B 1F5D 1F5D 1F5F 1F7D 1F80 1FB4 1FB6 1FBC 1FBE 1FBE 1FC2 1FC4 1FC6 1FCC 1FD0 1FD3",
   "1FD6 1FDB 1FE0 1FEC 1FF2 1FF4 1FF6 1FFC 2071 2071 207F 207F 2090 209C 2102 2102 2107 2107 210A 2113",
   "2115 2115 2118 211D 2124 2124 2126 2126 2128 2128 212A 2139 213C 213F 2145 2149 214E 214E 2160 2188",
   "2C00 2CE4 2CEB 2CEE 2CF2 2CF3 2D00 2D25 2D27 2D27 2D2D 2D2D 2D30 2D67 2D6F 2D6F 2D80 2D96 2DA0 2DA6",
   "2DA8 2DAE 2DB0 2DB6 2DB8 2DBE 2DC0 2DC6 2DC8 2DCE 2DD0 2DD6 2DD8 2DDE 3005 3007 3021 3029 3031 3035",
   "3038 303C 3041 3096 309D 309F 30A1 30FA 30FC 30FF 3105 312F 3131 318E 31A0 31BF 31F0 31FF 3400 4DBF",
   "4E00 A48C A4D0 A4FD A500 A60C A610 A61F A62A A62B A640 A66E A67F A69D A6A0 A6EF A717 A71F A722 A788",
   "A78B A7CA A7D0 A7D1 A7D3 A7D3 A7D5 A7D9 A7F2 A801 A803 A805 A807 A80A A80C A822 A840 A873 A882 A8B3",
   "A8F2 A8F7 A8FB A8FB A8FD A8FE A90A A925 A930 A946 A960 A97C A984 A9B2 A9CF A9CF A9E0 A9E4 A9E6 A9EF",
   "A9FA A9FE AA00 AA28 AA40 AA42 AA44 AA4B AA60 AA76 AA7A AA7A AA7E AAAF AAB1 AAB1 AAB5 AAB6 AAB9 AABD",
   "AAC0 AAC0 AAC2 AAC2 AADB AADD AAE0 AAEA AAF2 AAF4 AB01 AB06 AB09 AB0E AB11 AB16 AB20 AB26 AB28 AB2E",
   "AB30 AB5A AB5C AB69 AB70 ABE2 AC00 D7A3 D7B0 D7C6 D7CB D7FB F900 FA6D FA70 FAD9 FB00 FB06 FB13 FB17",
   "FB1D FB1D FB1F FB28 FB2A FB36 FB38 FB3C FB3E FB3E FB40 FB41 FB43 FB44 FB46 FBB1 FBD3 FC5D FC64 FD3D",
   "FD50 FD8F FD92 FDC7 FDF0 FDF9 FE71 FE71 FE73 FE73 FE77 FE77 FE79 FE79 FE7B FE7B FE7D FE7D FE7F FEFC",
   "FF21 FF3A FF41 FF5A FF66 FF9D FFA0 FFBE FFC2 FFC7 FFCA FFCF FFD2 FFD7 FFDA FFDC 10000 1000B 1000D 10026",
   "10028 1003A 1003C 1003D 1003F 1004D 10050 1005D 10080 100FA 10140 10174 10280 1029C 102A0 102D0",
   "10300 1031F 1032D 1034A 10350 10375 10380 1039D 103A0 103C3 103C8 103CF 103D1 103D5 10400 1049D",
   "104B0 104D3 104D8 104FB 10500 10527 10530 10563 10570 1057A 1057C 1058A 1058C 10592 10594 10595",
   "10597 105A1 105A3 105B1 105B3 105B9 105BB 105BC 10600 10736 10740 10755 10760 10767 10780 10785",
   "10787 107B0 107B2 107BA 10800 10805 10808 10808 1080A 10835 10837 10838 1083C 1083C 1083F 10855",
   "10860 10876 10880 1089E 108E0 108F2 108F4 108F5 10900 10915 10920 10939 10980 109B7 109BE 109BF",
   "10A00 10A00 10A10 10A13 10A15 10A17 10A19 10A35 10A60 10A7C 10A80 10A9C 10AC0 10AC7 10AC9 10AE4",
   "10B00 10B35 10B40 10B55 10B60 10B72 10B80 10B91 10C00 10C48 10C80 10CB2 10CC0 10CF2 10D00 10D23",
   "10E80 10EA9 10EB0 10EB1 10F00 10F1C 10F27 10F27 10F30 10F45 10F70 10F81 10FB0 10FC4 10FE0 10FF6",
   "11003 11037 11071 11072 11075 11075 11083 110AF 110D0 110E8 11103 11126 11144 11144 11147 11147",
   "11150 11172 11176 11176 11183 111B2 111C1 111C4 111DA 111DA 111DC 111DC 11200 11211 11213 1122B",
   "11280 11286 11288 11288 1128A 1128D 1128F 1129D 1129F 112A8 112B0 112DE 11305 1130C 1130F 11310",
   "11313 11328 1132A 11330 11332 11333 11335 11339 1133D 1133D 11350 11350 1135D 11361 11400 11434",
   "11447 1144A 1145F 11461 11480 114AF 114C4 114C5 114C7 114C7 11580 115AE 115D8 115DB 11600 1162F",
   "11644 11644 11680 116AA 116B8 116B8 11700 1171A 11740 11746 11800 1182B 118A0 118DF 118FF 11906",
   "11909 11909 1190C 11913 11915 11916 11918 1192F 1193F 1193F 11941 11941 119A0 119A7 119AA 119D0",
   "119E1 119E1 119E3 119E3 11A00 11A00 11A0B 11A32 11A3A 11A3A 11A50 11A50 11A5C 11A89 11A9D 11A9D",
   "11AB0 11AF8 11C00 11C08 11C0A 11C2E 11C40 11C40 11C72 11C8F 11D00 11D06 11D08 11D09 11D0B 11D30",
   "11D46 11D46 11D60 11D65 11D67 11D68 11D6A 11D89 11D98 11D98 11EE0 11EF2 11FB0 11FB0 12000 12399",
   "12400 1246E 12480 12543 12F90 12FF0 13000 1342E 14400 14646 16800 16A38 16A40 16A5E 16A70 16ABE",
   "16AD0 16AED 16B00 16B2F 16B40 16B43 16B63 16B77 16B7D 16B8F 16E40 16E7F 16F00 16F4A 16F50 16F50",
   "16F93 16F9F 16FE0 16FE1 16FE3 16FE3 17000 187F7 18800 18CD5 18D00 18D08 1AFF0 1AFF3 1AFF5 1AFFB",
   "1AFFD 1AFFE 1B000 1B122 1B150 1B152 1B164 1B167 1B170 1B2FB 1BC00 1BC6A 1BC70 1BC7C 1BC80 1BC88",
   "1BC90 1BC99 1D400 1D454 1D456 1D49C 1D49E 1D49F 1D4A2 1D4A2 1D4A5 1D4A6 1D4A9 1D4AC 1D4AE 1D4B9",
   "1D4BB 1D4BB 1D4BD 1D4C3 1D4C5 1D505 1D507 1D50A 1D50D 1D514 1D516 1D51C 1D51E 1D539 1D53B 1D53E",
   "1D540 1D544 1D546 1D546 1D54A 1D550 1D552 1D6A5 1D6A8 1D6C0 1D6C2 1D6DA 1D6DC 1D6FA 1D6FC 1D714",
   "1D716 1D734 1D736 1D74E 1D750 1D76E 1D770 1D788 1D78A 1D7A8 1D7AA 1D7C2 1D7C4 1D7CB 1DF00 1DF1E",
   "1E100 1E12C 1E137 1E13D 1E14E 1E14E 1E290 1E2AD 1E2C0 1E2EB 1E7E0 1E7E6 1E7E8 1E7EB 1E7ED 1E7EE",
   "1E7F0 1E7FE 1E800 1E8C4 1E900 1E943 1E94B 1E94B 1EE00 1EE03 1EE05 1EE1F 1EE21 1EE22 1EE24 1EE24",
   "1EE27 1EE27 1EE29 1EE32 1EE34 1EE37 1EE39 1EE39 1EE3B 1EE3B 1EE42 1EE42 1EE47 1EE47 1EE49 1EE49",
   "1EE4B 1EE4B 1EE4D 1EE4F 1EE51 1EE52 1EE54 1EE54 1EE57 1EE57 1EE59 1EE59 1EE5B 1EE5B 1EE5D 1EE5D",
   "1EE5F 1EE5F 1EE61 1EE62 1EE64 1EE64 1EE67 1EE6A 1EE6C 1EE72 1EE74 1EE77 1EE79 1EE7C 1EE7E 1EE7E",
   "1EE80 1EE89 1EE8B 1EE9B 1EEA1 1EEA3 1EEA5 1EEA9 1EEAB 1EEBB 20000 2A6DF 2A700 2B738 2B740 2B81D",
   "2B820 2CEA1 2CEB0 2EBE0 2F800 2FA1D 30000 3134A"]

/-- Characters that may continue a name. -/
def nameContinue : CodeRanges := .ofWords
  ["30 39 41 5A 5F 5F 61 7A AA AA B5 B5 B7 B7 BA BA C0 D6 D8 F6 F8 2C1 2C6 2D1 2E0 2E4 2EC 2EC 2EE 2EE",
   "300 374 376 377 37B 37D 37F 37F 386 38A 38C 38C 38E 3A1 3A3 3F5 3F7 481 483 487 48A 52F 531 556 559 559",
   "560 588 591 5BD 5BF 5BF 5C1 5C2 5C4 5C5 5C7 5C7 5D0 5EA 5EF 5F2 610 61A 620 669 66E 6D3 6D5 6DC 6DF 6E8",
   "6EA 6FC 6FF 6FF 710 74A 74D 7B1 7C0 7F5 7FA 7FA 7FD 7FD 800 82D 840 85B 860 86A 870 887 889 88E 898 8E1",
   "8E3 963 966 96F 971 983 985 98C 98F 990 993 9A8 9AA 9B0 9B2 9B2 9B6 9B9 9BC 9C4 9C7 9C8 9CB 9CE 9D7 9D7",
   "9DC 9DD 9DF 9E3 9E6 9F1 9FC 9FC 9FE 9FE A01 A03 A05 A0A A0F A10 A13 A28 A2A A30 A32 A33 A35 A36 A38 A39",
   "A3C A3C A3E A42 A47 A48 A4B A4D A51 A51 A59 A5C A5E A5E A66 A75 A81 A83 A85 A8D A8F A91 A93 AA8 AAA AB0",
   "AB2 AB3 AB5 AB9 ABC AC5 AC7 AC9 ACB ACD AD0 AD0 AE0 AE3 AE6 AEF AF9 AFF B01 B03 B05 B0C B0F B10 B13 B28",
   "B2A B30 B32 B33 B35 B39 B3C B44 B47 B48 B4B B4D B55 B57 B5C B5D B5F B63 B66 B6F B71 B71 B82 B83 B85 B8A",
   "B8E B90 B92 B95 B99 B9A B9C B9C B9E B9F BA3 BA4 BA8 BAA BAE BB9 BBE BC2 BC6 BC8 BCA BCD BD0 BD0 BD7 BD7",
   "BE6 BEF C00 C0C C0E C10 C12 C28 C2A C39 C3C C44 C46 C48 C4A C4D C55 C56 C58 C5A C5D C5D C60 C63 C66 C6F",
   "C80 C83 C85 C8C C8E C90 C92 CA8 CAA CB3 CB5 CB9 CBC CC4 CC6 CC8 CCA CCD CD5 CD6 CDD CDE CE0 CE3 CE6 CEF",
   "CF1 CF2 D00 D0C D0E D10 D12 D44 D46 D48 D4A D4E D54 D57 D5F D63 D66 D6F D7A D7F D81 D83 D85 D96 D9A DB1",
   "DB3 DBB DBD DBD DC0 DC6 DCA DCA DCF DD4 DD6 DD6 DD8 DDF DE6 DEF DF2 DF3 E01 E3A E40 E4E E50 E59 E81 E82",
   "E84 E84 E86 E8A E8C EA3 EA5 EA5 EA7 EBD EC0 EC4 EC6 EC6 EC8 ECD ED0 ED9 EDC EDF F00 F00 F18 F19 F20 F29",
   "F35 F35 F37 F37 F39 F39 F3E F47 F49 F6C F71 F84 F86 F97 F99 FBC FC6 FC6 1000 1049 1050 109D 10A0 10C5",
   "10C7 10C7 10CD 10CD 10D0 10FA 10FC 1248 124A 124D 1250 1256 1258 1258 125A 125D 1260 1288 128A 128D",
   "1290 12B0 12B2 12B5 12B8 12BE 12C0 12C0 12C2 12C5 12C8 12D6 12D8 1310 1312 1315 1318 135A 135D 135F",
   "1369 1371 1380 138F 13A0 13F5 13F8 13FD 1401 166C 166F 167F 1681 169A 16A0 16EA 16EE 16F8 1700 1715",
   "171F 1734 1740 1753 1760 176C 176E 1770 1772 1773 1780 17D3 17D7 17D7 17DC 17DD 17E0 17E9 180B 180D",
   "180F 1819 1820 1878 1880 18AA 18B0 18F5 1900 191E 1920 192B 1930 193B 1946 196D 1970 1974 1980 19AB",
   "19B0 19C9 19D0 19DA 1A00 1A1B 1A20 1A5E 1A60 1A7C 1A7F 1A89 1A90 1A99 1AA7 1AA7 1AB0 1ABD 1ABF 1ACE",
   "1B00 1B4C 1B50 1B59 1B6B 1B73 1B80 1BF3 1C00 1C37 1C40 1C49 1C4D 1C7D 1C80 1C88 1C90 1CBA 1CBD 1CBF",
   "1CD0 1CD2 1CD4 1CFA 1D00 1F15 1F18 1F1D 1F20 1F45 1F48 1F4D 1F50 1F57 1F59 1F59 1F5B 1F5B 1F5D 1F5D",
   "1F5F 1F7D 1F80 1FB4 1FB6 1FBC 1FBE 1FBE 1FC2 1FC4 1FC6 1FCC 1FD0 1FD3 1FD6 1FDB 1FE0 1FEC 1FF2 1FF4",
   "1FF6 1FFC 203F 2040 2054 2054 2071 2071 207F 207F 2090 209C 20D0 20DC 20E1 20E1 20E5 20F0 2102 2102",
   "2107 2107 210A 2113 2115 2115 2118 211D 2124 2124 2126 2126 2128 2128 212A 2139 213C 213F 2145 2149",
   "214E 214E 2160 2188 2C00 2CE4 2CEB 2CF3 2D00 2D25 2D27 2D27 2D2D 2D2D 2D30 2D67 2D6F 2D6F 2D7F 2D96",
   "2DA0 2DA6 2DA8 2DAE 2DB0 2DB6 2DB8 2DBE 2DC0 2DC6 2DC8 2DCE 2DD0 2DD6 2DD8 2DDE 2DE0 2DFF 3005 3007",
   "3021 302F 3031 3035 3038 303C 3041 3096 3099 309A 309D 309F 30A1 30FA 30FC 30FF 3105 312F 3131 318E",
   "31A0 31BF 31F0 31FF 3400 4DBF 4E00 A48C A4D0 A4FD A500 A60C A610 A62B A640 A66F A674 A67D A67F A6F1",
   "A717 A71F A722 A788 A78B A7CA A7D0 A7D1 A7D3 A7D3 A7D5 A7D9 A7F2 A827 A82C A82C A840 A873 A880 A8C5",
   "A8D0 A8D9 A8E0 A8F7 A8FB A8FB A8FD A92D A930 A953 A960 A97C A980 A9C0 A9CF A9D9 A9E0 A9FE AA00 AA36",
   "AA40 AA4D AA50 AA59 AA60 AA76 AA7A AAC2 AADB AADD AAE0 AAEF AAF2 AAF6 AB01 AB06 AB09 AB0E AB11 AB16",
   "AB20 AB26 AB28 AB2E AB30 AB5A AB5C AB69 AB70 ABEA ABEC ABED ABF0 ABF9 AC00 D7A3 D7B0 D7C6 D7CB D7FB",
   "F900 FA6D FA70 FAD9 FB00 FB06 FB13 FB17 FB1D FB28 FB2A FB36 FB38 FB3C FB3E FB3E FB40 FB41 FB43 FB44",
   "FB46 FBB1 FBD3 FC5D FC64 FD3D FD50 FD8F FD92 FDC7 FDF0 FDF9 FE00 FE0F FE20 FE2F FE33 FE34 FE4D FE4F",
   "FE71 FE71 FE73 FE73 FE77 FE77 FE79 FE79 FE7B FE7B FE7D FE7D FE7F FEFC FF10 FF19 FF21 FF3A FF3F FF3F",
   "FF41 FF5A FF66 FFBE FFC2 FFC7 FFCA FFCF FFD2 FFD7 FFDA FFDC 10000 1000B 1000D 10026 10028 1003A",
   "1003C 1003D 1003F 1004D 10050 1005D 10080 100FA 10140 10174 101FD 101FD 10280 1029C 102A0 102D0",
   "102E0 102E0 10300 1031F 1032D 1034A 10350 1037A 10380 1039D 103A0 103C3 103C8 103CF 103D1 103D5",
   "10400 1049D 104A0 104A9 104B0 104D3 104D8 104FB 10500 10527 10530 10563 10570 1057A 1057C 1058A",
   "1058C 10592 10594 10595 10597 105A1 105A3 105B1 105B3 105B9 105BB 105BC 10600 10736 10740 10755",
   "10760 10767 10780 10785 10787 107B0 107B2 107BA 10800 10805 10808 10808 1080A 10835 10837 10838",
   "1083C 1083C 1083F 10855 10860 10876 10880 1089E 108E0 108F2 108F4 108F5 10900 10915 10920 10939",
   "10980 109B7 109BE 109BF 10A00 10A03 10A05 10A06 10A0C 10A13 10A15 10A17 10A19 10A35 10A38 10A3A",
   "10A3F 10A3F 10A60 10A7C 10A80 10A9C 10AC0 10AC7 10AC9 10AE6 10B00 10B35 10B40 10B55 10B60 10B72",
   "10B80 10B91 10C00 10C48 10C80 10CB2 10CC0 10CF2 10D00 10D27 10D30 10D39 10E80 10EA9 10EAB 10EAC",
   "10EB0 10EB1 10F00 10F1C 10F27 10F27 10F30 10F50 10F70 10F85 10FB0 10FC4 10FE0 10FF6 11000 11046",
   "11066 11075 1107F 110BA 110C2 110C2 110D0 110E8 110F0 110F9 11100 11134 11136 1113F 11144 11147",
   "11150 11173 11176 11176 11180 111C4 111C9 111CC 111CE 111DA 111DC 111DC 11200 11211 11213 11237",
   "1123E 1123E 11280 11286 11288 11288 1128A 1128D 1128F 1129D 1129F 112A8 112B0 112EA 112F0 112F9",
   "11300 11303 11305 1130C 1130F 11310 11313 11328 1132A 11330 11332 11333 11335 11339 1133B 11344",
   "11347 11348 1134B 1134D 11350 11350 11357 11357 1135D 11363 11366 1136C 11370 11374 11400 1144A",
   "11450 11459 1145E 11461 11480 114C5 114C7 114C7 114D0 114D9 11580 115B5 115B8 115C0 115D8 115DD",
   "11600 11640 11644 11644 11650 11659 11680 116B8 116C0 116C9 11700 1171A 1171D 1172B 11730 11739",
   "11740 11746 11800 1183A 118A0 118E9 118FF 11906 11909 11909 1190C 11913 11915 11916 11918 11935",
   "11937 11938 1193B 11943 11950 11959 119A0 119A7 119AA 119D7 119DA 119E1 119E3 119E4 11A00 11A3E",
   "11A47 11A47 11A50 11A99 11A9D 11A9D 11AB0 11AF8 11C00 11C08 11C0A 11C36 11C38 11C40 11C50 11C59",
   "11C72 11C8F 11C92 11CA7 11CA9 11CB6 11D00 11D06 11D08 11D09 11D0B 11D36 11D3A 11D3A 11D3C 11D3D",
   "11D3F 11D47 11D50 11D59 11D60 11D65 11D67 11D68 11D6A 11D8E 11D90 11D91 11D93 11D98 11DA0 11DA9",
   "11EE0 11EF6 11FB0 11FB0 12000 12399 12400 1246E 12480 12543 12F90 12FF0 13000 1342E 14400 14646",
   "16800 16A38 16A40 16A5E 16A60 16A69 16A70 16ABE 16AC0 16AC9 16AD0 16AED 16AF0 16AF4 16B00 16B36",
   "16B40 16B43 16B50 16B59 16B63 16B77 16B7D 16B8F 16E40 16E7F 16F00 16F4A 16F4F 16F87 16F8F 16F9F",
   "16FE0 16FE1 16FE3 16FE4 16FF0 16FF1 17000 187F7 18800 18CD5 18D00 18D08 1AFF0 1AFF3 1AFF5 1AFFB",
   "1AFFD 1AFFE 1B000 1B122 1B150 1B152 1B164 1B167 1B170 1B2FB 1BC00 1BC6A 1BC70 1BC7C 1BC80 1BC88",
   "1BC90 1BC99 1BC9D 1BC9E 1CF00 1CF2D 1CF30 1CF46 1D165 1D169 1D16D 1D172 1D17B 1D182 1D185 1D18B",
   "1D1AA 1D1AD 1D242 1D244 1D400 1D454 1D456 1D49C 1D49E 1D49F 1D4A2 1D4A2 1D4A5 1D4A6 1D4A9 1D4AC",
   "1D4AE 1D4B9 1D4BB 1D4BB 1D4BD 1D4C3 1D4C5 1D505 1D507 1D50A 1D50D 1D514 1D516 1D51C 1D51E 1D539",
   "1D53B 1D53E 1D540 1D544 1D546 1D546 1D54A 1D550 1D552 1D6A5 1D6A8 1D6C0 1D6C2 1D6DA 1D6DC 1D6FA",
   "1D6FC 1D714 1D716 1D734 1D736 1D74E 1D750 1D76E 1D770 1D788 1D78A 1D7A8 1D7AA 1D7C2 1D7C4 1D7CB",
   "1D7CE 1D7FF 1DA00 1DA36 1DA3B 1DA6C 1DA75 1DA75 1DA84 1DA84 1DA9B 1DA9F 1DAA1 1DAAF 1DF00 1DF1E",
   "1E000 1E006 1E008 1E018 1E01B 1E021 1E023 1E024 1E026 1E02A 1E100 1E12C 1E130 1E13D 1E140 1E149",
   "1E14E 1E14E 1E290 1E2AE 1E2C0 1E2F9 1E7E0 1E7E6 1E7E8 1E7EB 1E7ED 1E7EE 1E7F0 1E7FE 1E800 1E8C4",
   "1E8D0 1E8D6 1E900 1E94B 1E950 1E959 1EE00 1EE03 1EE05 1EE1F 1EE21 1EE22 1EE24 1EE24 1EE27 1EE27",
   "1EE29 1EE32 1EE34 1EE37 1EE39 1EE39 1EE3B 1EE3B 1EE42 1EE42 1EE47 1EE47 1EE49 1EE49 1EE4B 1EE4B",
   "1EE4D 1EE4F 1EE51 1EE52 1EE54 1EE54 1EE57 1EE57 1EE59 1EE59 1EE5B 1EE5B 1EE5D 1EE5D 1EE5F 1EE5F",
   "1EE61 1EE62 1EE64 1EE64 1EE67 1EE6A 1EE6C 1EE72 1EE74 1EE77 1EE79 1EE7C 1EE7E 1EE7E 1EE80 1EE89",
   "1EE8B 1EE9B 1EEA1 1EEA3 1EEA5 1EEA9 1EEAB 1EEBB 1FBF0 1FBF9 20000 2A6DF 2A700 2B738 2B740 2B81D",
   "2B820 2CEA1 2CEB0 2EBE0 2F800 2FA1D 30000 3134A E0100 E01EF"]

/-- Change to lower case, by the first character of the lower-case form. -/
def lowerRuns : CaseRuns := .ofWords
  ["41 5A 1 20 C0 D6 1 20 D8 DE 1 20 100 12E 2 1 130 130 1 -C7 132 136 2 1 139 147 2 1 14A 176 2 1",
   "178 178 1 -79 179 17D 2 1 181 181 1 D2 182 184 2 1 186 186 1 CE 187 187 1 1 189 18A 1 CD 18B 18B 1 1",
   "18E 18E 1 4F 18F 18F 1 CA 190 190 1 CB 191 191 1 1 193 193 1 CD 194 194 1 CF 196 196 1 D3 197 197 1 D1",
   "198 198 1 1 19C 19C 1 D3 19D 19D 1 D5 19F 19F 1 D6 1A0 1A4 2 1 1A6 1A6 1 DA 1A7 1A7 1 1 1A9 1A9 1 DA",
   "1AC 1AC 1 1 1AE 1AE 1 DA 1AF 1AF 1 1 1B1 1B2 1 D9 1B3 1B5 2 1 1B7 1B7 1 DB 1B8 1B8 1 1 1BC 1BC 1 1",
   "1C4 1C4 1 2 1C5 1C5 1 1 1C7 1C7 1 2 1C8 1C8 1 1 1CA 1CA 1 2 1CB 1DB 2 1 1DE 1EE 2 1 1F1 1F1 1 2",
   "1F2 1F4 2 1 1F6 1F6 1 -61 1F7 1F7 1 -38 1F8 21E 2 1 220 220 1 -82 222 232 2 1 23A 23A 1 2A2B 23B 23B 1 1",
   "23D 23D 1 -A3 23E 23E 1 2A28 241 241 1 1 243 243 1 -C3 244 244 1 45 245 245 1 47 246 24E 2 1 370 372 2 1",
   "376 376 1 1 37F 37F 1 74 386 386 1 26 388 38A 1 25 38C 38C 1 40 38E 38F 1 3F 391 3A1 1 20 3A3 3AB 1 20",
   "3CF 3CF 1 8 3D8 3EE 2 1 3F4 3F4 1 -3C 3F7 3F7 1 1 3F9 3F9 1 -7 3FA 3FA 1 1 3FD 3FF 1 -82 400 40F 1 50",
   "410 42F 1 20 460 480 2 1 48A 4BE 2 1 4C0 4C0 1 F 4C1 4CD 2 1 4D0 52E 2 1 531 556 1 30 10A0 10C5 1 1C60",
   "10C7 10C7 1 1C60 10CD 10CD 1 1C60 13A0 13EF 1 97D0 13F0 13F5 1 8 1C90 1CBA 1 -BC0 1CBD 1CBF 1 -BC0",
   "1E00 1E94 2 1 1E9E 1E9E 1 -1DBF 1EA0 1EFE 2 1 1F08 1F0F 1 -8 1F18 1F1D 1 -8 1F28 1F2F 1 -8",
   "1F38 1F3F 1 -8 1F48 1F4D 1 -8 1F59 1F5F 2 -8 1F68 1F6F 1 -8 1F88 1F8F 1 -8 1F98 1F9F 1 -8 1FA8 1FAF 1 -8",
   "1FB8 1FB9 1 -8 1FBA 1FBB 1 -4A 1FBC 1FBC 1 -9 1FC8 1FCB 1 -56 1FCC 1FCC 1 -9 1FD8 1FD9 1 -8",
   "1FDA 1FDB 1 -64 1FE8 1FE9 1 -8 1FEA 1FEB 1 -70 1FEC 1FEC 1 -7 1FF8 1FF9 1 -80 1FFA 1FFB 1 -7E",
   "1FFC 1FFC 1 -9 2126 2126 1 -1D5D 212A 212A 1 -20BF 212B 212B 1 -2046 2132 2132 1 1C 2160 216F 1 10",
   "2183 2183 1 1 24B6 24CF 1 1A 2C00 2C2F 1 30 2C60 2C60 1 1 2C62 2C62 1 -29F7 2C63 2C63 1 -EE6",
   "2C64 2C64 1 -29E7 2C67 2C6B 2 1 2C6D 2C6D 1 -2A1C 2C6E 2C6E 1 -29FD 2C6F 2C6F 1 -2A1F 2C70 2C70 1 -2A1E",
   "2C72 2C72 1 1 2C75 2C75 1 1 2C7E 2C7F 1 -2A3F 2C80 2CE2 2 1 2CEB 2CED 2 1 2CF2 2CF2 1 1 A640 A66C 2 1",
   "A680 A69A 2 1 A722 A72E 2 1 A732 A76E 2 1 A779 A77B 2 1 A77D A77D 1 -8A04 A77E A786 2 1 A78B A78B 1 1",
   "A78D A78D 1 -A528 A790 A792 2 1 A796 A7A8 2 1 A7AA A7AA 1 -A544 A7AB A7AB 1 -A54F A7AC A7AC 1 -A54B",
   "A7AD A7AD 1 -A541 A7AE A7AE 1 -A544 A7B0 A7B0 1 -A512 A7B1 A7B1 1 -A52A A7B2 A7B2 1 -A515",
   "A7B3 A7B3 1 3A0 A7B4 A7C2 2 1 A7C4 A7C4 1 -30 A7C5 A7C5 1 -A543 A7C6 A7C6 1 -8A38 A7C7 A7C9 2 1",
   "A7D0 A7D0 1 1 A7D6 A7D8 2 1 A7F5 A7F5 1 1 FF21 FF3A 1 20 10400 10427 1 28 104B0 104D3 1 28",
   "10570 1057A 1 27 1057C 1058A 1 27 1058C 10592 1 27 10594 10595 1 27 10C80 10CB2 1 40 118A0 118BF 1 20",
   "16E40 16E5F 1 20 1E900 1E921 1 22"]

/-- Change to upper case, by the first character of the upper-case form. -/
def upperRuns : CaseRuns := .ofWords
  ["61 7A 1 -20 B5 B5 1 2E7 DF DF 1 -8C E0 F6 1 -20 F8 FE 1 -20 FF FF 1 79 101 12F 2 -1 131 131 1 -E8",
   "133 137 2 -1 13A 148 2 -1 149 149 1 173 14B 177 2 -1 17A 17E 2 -1 17F 17F 1 -12C 180 180 1 C3",
   "183 185 2 -1 188 188 1 -1 18C 18C 1 -1 192 192 1 -1 195 195 1 61 199 199 1 -1 19A 19A 1 A3 19E 19E 1 82",
   "1A1 1A5 2 -1 1A8 1A8 1 -1 1AD 1AD 1 -1 1B0 1B0 1 -1 1B4 1B6 2 -1 1B9 1B9 1 -1 1BD 1BD 1 -1 1BF 1BF 1 38",
   "1C5 1C5 1 -1 1C6 1C6 1 -2 1C8 1C8 1 -1 1C9 1C9 1 -2 1CB 1CB 1 -1 1CC 1CC 1 -2 1CE 1DC 2 -1 1DD 1DD 1 -4F",
   "1DF 1EF 2 -1 1F0 1F0 1 -1A6 1F2 1F2 1 -1 1F3 1F3 1 -2 1F5 1F5 1 -1 1F9 21F 2 -1 223 233 2 -1",
   "23C 23C 1 -1 23F 240 1 2A3F 242 242 1 -1 247 24F 2 -1 250 250 1 2A1F 251 251 1 2A1C 252 252 1 2A1E",
   "253 253 1 -D2 254 254 1 -CE 256 257 1 -CD 259 259 1 -CA 25B 25B 1 -CB 25C 25C 1 A54F 260 260 1 -CD",
   "261 261 1 A54B 263 263 1 -CF 265 265 1 A528 266 266 1 A544 268 268 1 -D1 269 269 1 -D3 26A 26A 1 A544",
   "26B 26B 1 29F7 26C 26C 1 A541 26F 26F 1 -D3 271 271 1 29FD 272 272 1 -D5 275 275 1 -D6 27D 27D 1 29E7",
   "280 280 1 -DA 282 282 1 A543 283 283 1 -DA 287 287 1 A52A 288 288 1 -DA 289 289 1 -45 28A 28B 1 -D9",
   "28C 28C 1 -47 292 292 1 -DB 29D 29D 1 A515 29E 29E 1 A512 345 345 1 54 371 373 2 -1 377 377 1 -1",
   "37B 37D 1 82 390 390 1 9 3AC 3AC 1 -26 3AD 3AF 1 -25 3B0 3B0 1 -B 3B1 3C1 1 -20 3C2 3C2 1 -1F",
   "3C3 3CB 1 -20 3CC 3CC 1 -40 3CD 3CE 1 -3F 3D0 3D0 1 -3E 3D1 3D1 1 -39 3D5 3D5 1 -2F 3D6 3D6 1 -36",
   "3D7 3D7 1 -8 3D9 3EF 2 -1 3F0 3F0 1 -56 3F1 3F1 1 -50 3F2 3F2 1 7 3F3 3F3 1 -74 3F5 3F5 1 -60",
   "3F8 3F8 1 -1 3FB 3FB 1 -1 430 44F 1 -20 450 45F 1 -50 461 481 2 -1 48B 4BF 2 -1 4C2 4CE 2 -1",
   "4CF 4CF 1 -F 4D1 52F 2 -1 561 586 1 -30 587 587 1 -52 10D0 10FA 1 BC0 10FD 10FF 1 BC0 13F8 13FD 1 -8",
   "1C80 1C80 1 -186E 1C81 1C81 1 -186D 1C82 1C82 1 -1864 1C83 1C84 1 -1862 1C85 1C85 1 -1863",
   "1C86 1C86 1 -185C 1C87 1C87 1 -1825 1C88 1C88 1 89C2 1D79 1D79 1 8A04 1D7D 1D7D 1 EE6 1D8E 1D8E 1 8A38",
   "1E01 1E95 2 -1 1E96 1E96 1 -1E4E 1E97 1E97 1 -1E43 1E98 1E98 1 -1E41 1E99 1E99 1 -1E40 1E9A 1E9A 1 -1E59",
   "1E9B 1E9B 1 -3B 1EA1 1EFF 2 -1 1F00 1F07 1 8 1F10 1F15 1 8 1F20 1F27 1 8 1F30 1F37 1 8 1F40 1F45 1 8",
   "1F50 1F50 1 -1BAB 1F51 1F51 1 8 1F52 1F52 1 -1BAD 1F53 1F53 1 8 1F54 1F54 1 -1BAF 1F55 1F55 1 8",
   "1F56 1F56 1 -1BB1 1F57 1F57 1 8 1F60 1F67 1 8 1F70 1F71 1 4A 1F72 1F75 1 56 1F76 1F77 1 64",
   "1F78 1F79 1 80 1F7A 1F7B 1 70 1F7C 1F7D 1 7E 1F80 1F87 1 -78 1F88 1F8F 1 -80 1F90 1F97 1 -68",
   "1F98 1F9F 1 -70 1FA0 1FA7 1 -38 1FA8 1FAF 1 -40 1FB0 1FB2 1 8 1FB3 1FB3 1 -1C22 1FB4 1FB4 1 -1C2E",
   "1FB6 1FB6 1 -1C25 1FB7 1FB7 1 -1C26 1FBC 1FBC 1 -1C2B 1FBE 1FBE 1 -1C25 1FC2 1FC2 1 8 1FC3 1FC3 1 -1C2C",
   "1FC4 1FC4 1 -1C3B 1FC6 1FC6 1 -1C2F 1FC7 1FC7 1 -1C30 1FCC 1FCC 1 -1C35 1FD0 1FD1 1 8 1FD2 1FD2 1 -1C39",
   "1FD3 1FD3 1 -1C3A 1FD6 1FD6 1 -1C3D 1FD7 1FD7 1 -1C3E 1FE0 1FE1 1 8 1FE2 1FE2 1 -1C3D 1FE3 1FE3 1 -1C3E",
   "1FE4 1FE4 1 -1C43 1FE5 1FE5 1 7 1FE6 1FE6 1 -1C41 1FE7 1FE7 1 -1C42 1FF2 1FF2 1 8 1FF3 1FF3 1 -1C4A",
   "1FF4 1FF4 1 -1C65 1FF6 1FF6 1 -1C4D 1FF7 1FF7 1 -1C4E 1FFC 1FFC 1 -1C53 214E 214E 1 -1C 2170 217F 1 -10",
   "2184 2184 1 -1 24D0 24E9 1 -1A 2C30 2C5F 1 -30 2C61 2C61 1 -1 2C65 2C65 1 -2A2B 2C66 2C66 1 -2A28",
   "2C68 2C6C 2 -1 2C73 2C73 1 -1 2C76 2C76 1 -1 2C81 2CE3 2 -1 2CEC 2CEE 2 -1 2CF3 2CF3 1 -1",
   "2D00 2D25 1 -1C60 2D27 2D27 1 -1C60 2D2D 2D2D 1 -1C60 A641 A66D 2 -1 A681 A69B 2 -1 A723 A72F 2 -1",
   "A733 A76F 2 -1 A77A A77C 2 -1 A77F A787 2 -1 A78C A78C 1 -1 A791 A793 2 -1 A794 A794 1 30 A797 A7A9 2 -1",
   "A7B5 A7C3 2 -1 A7C8 A7CA 2 -1 A7D1 A7D1 1 -1 A7D7 A7D9 2 -1 A7F6 A7F6 1 -1 AB53 AB53 1 -3A0",
   "AB70 ABBF 1 -97D0 FB00 FB00 1 -FABA FB01 FB01 1 -FABB FB02 FB02 1 -FABC FB03 FB03 1 -FABD",
   "FB04 FB04 1 -FABE FB05 FB05 1 -FAB2 FB06 FB06 1 -FAB3 FB13 FB13 1 -F5CF FB14 FB14 1 -F5D0",
   "FB15 FB15 1 -F5D1 FB16 FB16 1 -F5C8 FB17 FB17 1 -F5D3 FF41 FF5A 1 -20 10428 1044F 1 -28",
   "104D8 104FB 1 -28 10597 105A1 1 -27 105A3 105B1 1 -27 105B3 105B9 1 -27 105BB 105BC 1 -27",
   "10CC0 10CF2 1 -40 118C0 118DF 1 -20 16E60 16E7F 1 -20 1E922 1E943 1 -22"]

/-- Lower-case characters with the same upper-case form, by code point. -/
def caseVariants : List (Nat × List Nat) :=
  [(0x69, [0x131]), (0x73, [0x17F]), (0xB5, [0x3BC]), (0x131, [0x69]), (0x17F, [0x73]),
   (0x345, [0x3B9, 0x1FBE]), (0x390, [0x1FD3]), (0x3B0, [0x1FE3]), (0x3B2, [0x3D0]), (0x3B5, [0x3F5]),
   (0x3B8, [0x3D1]), (0x3B9, [0x345, 0x1FBE]), (0x3BA, [0x3F0]), (0x3BC, [0xB5]), (0x3C0, [0x3D6]),
   (0x3C1, [0x3F1]), (0x3C2, [0x3C3]), (0x3C3, [0x3C2]), (0x3C6, [0x3D5]), (0x3D0, [0x3B2]),
   (0x3D1, [0x3B8]), (0x3D5, [0x3C6]), (0x3D6, [0x3C0]), (0x3F0, [0x3BA]), (0x3F1, [0x3C1]),
   (0x3F5, [0x3B5]), (0x432, [0x1C80]), (0x434, [0x1C81]), (0x43E, [0x1C82]), (0x441, [0x1C83]),
   (0x442, [0x1C84, 0x1C85]), (0x44A, [0x1C86]), (0x463, [0x1C87]), (0x1C80, [0x432]),
   (0x1C81, [0x434]), (0x1C82, [0x43E]), (0x1C83, [0x441]), (0x1C84, [0x442, 0x1C85]),
   (0x1C85, [0x442, 0x1C84]), (0x1C86, [0x44A]), (0x1C87, [0x463]), (0x1C88, [0xA64B]),
   (0x1E61, [0x1E9B]), (0x1E9B, [0x1E61]), (0x1FBE, [0x345, 0x3B9]), (0x1FD3, [0x390]),
   (0x1FE3, [0x3B0]), (0xA64B, [0x1C88]), (0xFB05, [0xFB06]), (0xFB06, [0xFB05])]

/-! ## Properties -/

/-- Whether a character is a letter or a number. -/
def isAlphanumeric (c : Char) : Bool :=
  if c.toNat < 128 then c.isAlphanum else alphanumeric.contains c.toNat

/-- Whether a character is shown as itself. -/
def isPrintable (c : Char) : Bool :=
  if c.toNat < 128 then 32 ≤ c.toNat && c.toNat < 127 else printable.contains c.toNat

/-- The value of a decimal digit of any script. -/
def decimalValue? (c : Char) : Option Nat :=
  if c.toNat < 128 then digit? 10 c else (decimalDigits.range? c.toNat).map fun r => (c.toNat - r.1) % 10

/-- Whether a text is a name: a letter or underscore, then letters, digits, marks and underscores. -/
def isName : List Char → Bool
  | [] => false
  | c :: rest => nameStart.contains c.toNat && rest.all fun d => nameContinue.contains d.toNat

/-- The lower-case form of a code point. -/
def lowerCode (n : Nat) : Nat := if n < 128 then (if 65 ≤ n ∧ n ≤ 90 then n + 32 else n) else lowerRuns.apply n

/-- The upper-case form of a code point. -/
def upperCode (n : Nat) : Nat := if n < 128 then (if 97 ≤ n ∧ n ≤ 122 then n - 32 else n) else upperRuns.apply n

/-- The other lower-case code points with the same upper-case form. -/
def variantsOf (n : Nat) : List Nat := ((caseVariants.find? (·.1 == n)).map (·.2)).getD []

end WebForm
