import CodeAtlas.Text.Case

/-!
# Letters and numbers

The characters that count as part of a word in a search, and which characters a search without
regard to case takes for one.
-/

namespace CodeAtlas.Text

/-- Letters and numbers of every kind. -/
def alnumRuns : List Run := runsOf (numerals "30 39 1 41 5A 1 61 7A 1 AA AA 1 B2 B3 1 B5 B5 1 B9 BA 1 BC BE 1 C0 D6 1 D8 F6 1 F8 2C1 1 2C6 2D1
1 2E0 2E4 1 2EC 2EC 1 2EE 2EE 1 370 374 1 376 377 1 37A 37D 1 37F 37F 1 386 386 1 388 38A 1 38C
38C 1 38E 3A1 1 3A3 3F5 1 3F7 481 1 48A 52F 1 531 556 1 559 559 1 560 588 1 5D0 5EA 1 5EF 5F2 1
620 64A 1 660 669 1 66E 66F 1 671 6D3 1 6D5 6D5 1 6E5 6E6 1 6EE 6FC 1 6FF 6FF 1 710 710 1 712
72F 1 74D 7A5 1 7B1 7B1 1 7C0 7EA 1 7F4 7F5 1 7FA 7FA 1 800 815 1 81A 81A 1 824 824 1 828 828 1
840 858 1 860 86A 1 870 887 1 889 88E 1 8A0 8C9 1 904 939 1 93D 93D 1 950 950 1 958 961 1 966
96F 1 971 980 1 985 98C 1 98F 990 1 993 9A8 1 9AA 9B0 1 9B2 9B2 1 9B6 9B9 1 9BD 9BD 1 9CE 9CE 1
9DC 9DD 1 9DF 9E1 1 9E6 9F1 1 9F4 9F9 1 9FC 9FC 1 A05 A0A 1 A0F A10 1 A13 A28 1 A2A A30 1 A32
A33 1 A35 A36 1 A38 A39 1 A59 A5C 1 A5E A5E 1 A66 A6F 1 A72 A74 1 A85 A8D 1 A8F A91 1 A93 AA8 1
AAA AB0 1 AB2 AB3 1 AB5 AB9 1 ABD ABD 1 AD0 AD0 1 AE0 AE1 1 AE6 AEF 1 AF9 AF9 1 B05 B0C 1 B0F
B10 1 B13 B28 1 B2A B30 1 B32 B33 1 B35 B39 1 B3D B3D 1 B5C B5D 1 B5F B61 1 B66 B6F 1 B71 B77 1
B83 B83 1 B85 B8A 1 B8E B90 1 B92 B95 1 B99 B9A 1 B9C B9C 1 B9E B9F 1 BA3 BA4 1 BA8 BAA 1 BAE
BB9 1 BD0 BD0 1 BE6 BF2 1 C05 C0C 1 C0E C10 1 C12 C28 1 C2A C39 1 C3D C3D 1 C58 C5A 1 C5D C5D 1
C60 C61 1 C66 C6F 1 C78 C7E 1 C80 C80 1 C85 C8C 1 C8E C90 1 C92 CA8 1 CAA CB3 1 CB5 CB9 1 CBD
CBD 1 CDD CDE 1 CE0 CE1 1 CE6 CEF 1 CF1 CF2 1 D04 D0C 1 D0E D10 1 D12 D3A 1 D3D D3D 1 D4E D4E 1
D54 D56 1 D58 D61 1 D66 D78 1 D7A D7F 1 D85 D96 1 D9A DB1 1 DB3 DBB 1 DBD DBD 1 DC0 DC6 1 DE6
DEF 1 E01 E30 1 E32 E33 1 E40 E46 1 E50 E59 1 E81 E82 1 E84 E84 1 E86 E8A 1 E8C EA3 1 EA5 EA5 1
EA7 EB0 1 EB2 EB3 1 EBD EBD 1 EC0 EC4 1 EC6 EC6 1 ED0 ED9 1 EDC EDF 1 F00 F00 1 F20 F33 1 F40
F47 1 F49 F6C 1 F88 F8C 1 1000 102A 1 103F 1049 1 1050 1055 1 105A 105D 1 1061 1061 1 1065 1066
1 106E 1070 1 1075 1081 1 108E 108E 1 1090 1099 1 10A0 10C5 1 10C7 10C7 1 10CD 10CD 1 10D0 10FA
1 10FC 1248 1 124A 124D 1 1250 1256 1 1258 1258 1 125A 125D 1 1260 1288 1 128A 128D 1 1290 12B0
1 12B2 12B5 1 12B8 12BE 1 12C0 12C0 1 12C2 12C5 1 12C8 12D6 1 12D8 1310 1 1312 1315 1 1318 135A
1 1369 137C 1 1380 138F 1 13A0 13F5 1 13F8 13FD 1 1401 166C 1 166F 167F 1 1681 169A 1 16A0 16EA
1 16EE 16F8 1 1700 1711 1 171F 1731 1 1740 1751 1 1760 176C 1 176E 1770 1 1780 17B3 1 17D7 17D7
1 17DC 17DC 1 17E0 17E9 1 17F0 17F9 1 1810 1819 1 1820 1878 1 1880 1884 1 1887 18A8 1 18AA 18AA
1 18B0 18F5 1 1900 191E 1 1946 196D 1 1970 1974 1 1980 19AB 1 19B0 19C9 1 19D0 19DA 1 1A00 1A16
1 1A20 1A54 1 1A80 1A89 1 1A90 1A99 1 1AA7 1AA7 1 1B05 1B33 1 1B45 1B4C 1 1B50 1B59 1 1B83 1BA0
1 1BAE 1BE5 1 1C00 1C23 1 1C40 1C49 1 1C4D 1C7D 1 1C80 1C88 1 1C90 1CBA 1 1CBD 1CBF 1 1CE9 1CEC
1 1CEE 1CF3 1 1CF5 1CF6 1 1CFA 1CFA 1 1D00 1DBF 1 1E00 1F15 1 1F18 1F1D 1 1F20 1F45 1 1F48 1F4D
1 1F50 1F57 1 1F59 1F5F 2 1F60 1F7D 1 1F80 1FB4 1 1FB6 1FBC 1 1FBE 1FBE 1 1FC2 1FC4 1 1FC6 1FCC
1 1FD0 1FD3 1 1FD6 1FDB 1 1FE0 1FEC 1 1FF2 1FF4 1 1FF6 1FFC 1 2070 2071 1 2074 2079 1 207F 2089
1 2090 209C 1 2102 2102 1 2107 2107 1 210A 2113 1 2115 2115 1 2119 211D 1 2124 212A 2 212B 212D
1 212F 2139 1 213C 213F 1 2145 2149 1 214E 214E 1 2150 2189 1 2460 249B 1 24EA 24FF 1 2776 2793
1 2C00 2CE4 1 2CEB 2CEE 1 2CF2 2CF3 1 2CFD 2CFD 1 2D00 2D25 1 2D27 2D27 1 2D2D 2D2D 1 2D30 2D67
1 2D6F 2D6F 1 2D80 2D96 1 2DA0 2DA6 1 2DA8 2DAE 1 2DB0 2DB6 1 2DB8 2DBE 1 2DC0 2DC6 1 2DC8 2DCE
1 2DD0 2DD6 1 2DD8 2DDE 1 2E2F 2E2F 1 3005 3007 1 3021 3029 1 3031 3035 1 3038 303C 1 3041 3096
1 309D 309F 1 30A1 30FA 1 30FC 30FF 1 3105 312F 1 3131 318E 1 3192 3195 1 31A0 31BF 1 31F0 31FF
1 3220 3229 1 3248 324F 1 3251 325F 1 3280 3289 1 32B1 32BF 1 3400 4DBF 1 4E00 A48C 1 A4D0 A4FD
1 A500 A60C 1 A610 A62B 1 A640 A66E 1 A67F A69D 1 A6A0 A6EF 1 A717 A71F 1 A722 A788 1 A78B A7CA
1 A7D0 A7D1 1 A7D3 A7D3 1 A7D5 A7D9 1 A7F2 A801 1 A803 A805 1 A807 A80A 1 A80C A822 1 A830 A835
1 A840 A873 1 A882 A8B3 1 A8D0 A8D9 1 A8F2 A8F7 1 A8FB A8FB 1 A8FD A8FE 1 A900 A925 1 A930 A946
1 A960 A97C 1 A984 A9B2 1 A9CF A9D9 1 A9E0 A9E4 1 A9E6 A9FE 1 AA00 AA28 1 AA40 AA42 1 AA44 AA4B
1 AA50 AA59 1 AA60 AA76 1 AA7A AA7A 1 AA7E AAAF 1 AAB1 AAB1 1 AAB5 AAB6 1 AAB9 AABD 1 AAC0 AAC0
1 AAC2 AAC2 1 AADB AADD 1 AAE0 AAEA 1 AAF2 AAF4 1 AB01 AB06 1 AB09 AB0E 1 AB11 AB16 1 AB20 AB26
1 AB28 AB2E 1 AB30 AB5A 1 AB5C AB69 1 AB70 ABE2 1 ABF0 ABF9 1 AC00 D7A3 1 D7B0 D7C6 1 D7CB D7FB
1 F900 FA6D 1 FA70 FAD9 1 FB00 FB06 1 FB13 FB17 1 FB1D FB1D 1 FB1F FB28 1 FB2A FB36 1 FB38 FB3C
1 FB3E FB3E 1 FB40 FB41 1 FB43 FB44 1 FB46 FBB1 1 FBD3 FD3D 1 FD50 FD8F 1 FD92 FDC7 1 FDF0 FDFB
1 FE70 FE74 1 FE76 FEFC 1 FF10 FF19 1 FF21 FF3A 1 FF41 FF5A 1 FF66 FFBE 1 FFC2 FFC7 1 FFCA FFCF
1 FFD2 FFD7 1 FFDA FFDC 1 10000 1000B 1 1000D 10026 1 10028 1003A 1 1003C 1003D 1 1003F 1004D 1
10050 1005D 1 10080 100FA 1 10107 10133 1 10140 10178 1 1018A 1018B 1 10280 1029C 1 102A0 102D0
1 102E1 102FB 1 10300 10323 1 1032D 1034A 1 10350 10375 1 10380 1039D 1 103A0 103C3 1 103C8
103CF 1 103D1 103D5 1 10400 1049D 1 104A0 104A9 1 104B0 104D3 1 104D8 104FB 1 10500 10527 1
10530 10563 1 10570 1057A 1 1057C 1058A 1 1058C 10592 1 10594 10595 1 10597 105A1 1 105A3 105B1
1 105B3 105B9 1 105BB 105BC 1 10600 10736 1 10740 10755 1 10760 10767 1 10780 10785 1 10787
107B0 1 107B2 107BA 1 10800 10805 1 10808 10808 1 1080A 10835 1 10837 10838 1 1083C 1083C 1
1083F 10855 1 10858 10876 1 10879 1089E 1 108A7 108AF 1 108E0 108F2 1 108F4 108F5 1 108FB 1091B
1 10920 10939 1 10980 109B7 1 109BC 109CF 1 109D2 10A00 1 10A10 10A13 1 10A15 10A17 1 10A19
10A35 1 10A40 10A48 1 10A60 10A7E 1 10A80 10A9F 1 10AC0 10AC7 1 10AC9 10AE4 1 10AEB 10AEF 1
10B00 10B35 1 10B40 10B55 1 10B58 10B72 1 10B78 10B91 1 10BA9 10BAF 1 10C00 10C48 1 10C80 10CB2
1 10CC0 10CF2 1 10CFA 10D23 1 10D30 10D39 1 10E60 10E7E 1 10E80 10EA9 1 10EB0 10EB1 1 10F00
10F27 1 10F30 10F45 1 10F51 10F54 1 10F70 10F81 1 10FB0 10FCB 1 10FE0 10FF6 1 11003 11037 1
11052 1106F 1 11071 11072 1 11075 11075 1 11083 110AF 1 110D0 110E8 1 110F0 110F9 1 11103 11126
1 11136 1113F 1 11144 11144 1 11147 11147 1 11150 11172 1 11176 11176 1 11183 111B2 1 111C1
111C4 1 111D0 111DA 1 111DC 111DC 1 111E1 111F4 1 11200 11211 1 11213 1122B 1 11280 11286 1
11288 11288 1 1128A 1128D 1 1128F 1129D 1 1129F 112A8 1 112B0 112DE 1 112F0 112F9 1 11305 1130C
1 1130F 11310 1 11313 11328 1 1132A 11330 1 11332 11333 1 11335 11339 1 1133D 1133D 1 11350
11350 1 1135D 11361 1 11400 11434 1 11447 1144A 1 11450 11459 1 1145F 11461 1 11480 114AF 1
114C4 114C5 1 114C7 114C7 1 114D0 114D9 1 11580 115AE 1 115D8 115DB 1 11600 1162F 1 11644 11644
1 11650 11659 1 11680 116AA 1 116B8 116B8 1 116C0 116C9 1 11700 1171A 1 11730 1173B 1 11740
11746 1 11800 1182B 1 118A0 118F2 1 118FF 11906 1 11909 11909 1 1190C 11913 1 11915 11916 1
11918 1192F 1 1193F 1193F 1 11941 11941 1 11950 11959 1 119A0 119A7 1 119AA 119D0 1 119E1 119E1
1 119E3 119E3 1 11A00 11A00 1 11A0B 11A32 1 11A3A 11A3A 1 11A50 11A50 1 11A5C 11A89 1 11A9D
11A9D 1 11AB0 11AF8 1 11C00 11C08 1 11C0A 11C2E 1 11C40 11C40 1 11C50 11C6C 1 11C72 11C8F 1
11D00 11D06 1 11D08 11D09 1 11D0B 11D30 1 11D46 11D46 1 11D50 11D59 1 11D60 11D65 1 11D67 11D68
1 11D6A 11D89 1 11D98 11D98 1 11DA0 11DA9 1 11EE0 11EF2 1 11FB0 11FB0 1 11FC0 11FD4 1 12000
12399 1 12400 1246E 1 12480 12543 1 12F90 12FF0 1 13000 1342E 1 14400 14646 1 16800 16A38 1
16A40 16A5E 1 16A60 16A69 1 16A70 16ABE 1 16AC0 16AC9 1 16AD0 16AED 1 16B00 16B2F 1 16B40 16B43
1 16B50 16B59 1 16B5B 16B61 1 16B63 16B77 1 16B7D 16B8F 1 16E40 16E96 1 16F00 16F4A 1 16F50
16F50 1 16F93 16F9F 1 16FE0 16FE1 1 16FE3 16FE3 1 17000 187F7 1 18800 18CD5 1 18D00 18D08 1
1AFF0 1AFF3 1 1AFF5 1AFFB 1 1AFFD 1AFFE 1 1B000 1B122 1 1B150 1B152 1 1B164 1B167 1 1B170 1B2FB
1 1BC00 1BC6A 1 1BC70 1BC7C 1 1BC80 1BC88 1 1BC90 1BC99 1 1D2E0 1D2F3 1 1D360 1D378 1 1D400
1D454 1 1D456 1D49C 1 1D49E 1D49F 1 1D4A2 1D4A2 1 1D4A5 1D4A6 1 1D4A9 1D4AC 1 1D4AE 1D4B9 1
1D4BB 1D4BB 1 1D4BD 1D4C3 1 1D4C5 1D505 1 1D507 1D50A 1 1D50D 1D514 1 1D516 1D51C 1 1D51E 1D539
1 1D53B 1D53E 1 1D540 1D544 1 1D546 1D546 1 1D54A 1D550 1 1D552 1D6A5 1 1D6A8 1D6C0 1 1D6C2
1D6DA 1 1D6DC 1D6FA 1 1D6FC 1D714 1 1D716 1D734 1 1D736 1D74E 1 1D750 1D76E 1 1D770 1D788 1
1D78A 1D7A8 1 1D7AA 1D7C2 1 1D7C4 1D7CB 1 1D7CE 1D7FF 1 1DF00 1DF1E 1 1E100 1E12C 1 1E137 1E13D
1 1E140 1E149 1 1E14E 1E14E 1 1E290 1E2AD 1 1E2C0 1E2EB 1 1E2F0 1E2F9 1 1E7E0 1E7E6 1 1E7E8
1E7EB 1 1E7ED 1E7EE 1 1E7F0 1E7FE 1 1E800 1E8C4 1 1E8C7 1E8CF 1 1E900 1E943 1 1E94B 1E94B 1
1E950 1E959 1 1EC71 1ECAB 1 1ECAD 1ECAF 1 1ECB1 1ECB4 1 1ED01 1ED2D 1 1ED2F 1ED3D 1 1EE00 1EE03
1 1EE05 1EE1F 1 1EE21 1EE22 1 1EE24 1EE24 1 1EE27 1EE27 1 1EE29 1EE32 1 1EE34 1EE37 1 1EE39
1EE39 1 1EE3B 1EE3B 1 1EE42 1EE42 1 1EE47 1EE4D 2 1EE4E 1EE4F 1 1EE51 1EE52 1 1EE54 1EE54 1
1EE57 1EE61 2 1EE62 1EE62 1 1EE64 1EE64 1 1EE67 1EE6A 1 1EE6C 1EE72 1 1EE74 1EE77 1 1EE79 1EE7C
1 1EE7E 1EE7E 1 1EE80 1EE89 1 1EE8B 1EE9B 1 1EEA1 1EEA3 1 1EEA5 1EEA9 1 1EEAB 1EEBB 1 1F100
1F10C 1 1FBF0 1FBF9 1 20000 2A6DF 1 2A700 2B738 1 2B740 2B81D 1 2B820 2CEA1 1 2CEB0 2EBE0 1
2F800 2FA1D 1 30000 3134A 1")

def isAlnum (c : Char) : Bool := inRuns alnumRuns c

/-- The one-character small form: the first of two where the full mapping gives two. -/
def foldChar (c : Char) : Char := if c = '\u0130' then 'i' else lowerChar c

/-- Small letters that share a capital, as pairs. -/
def sharedCapitals : List Nat := numerals "69 131 73 17F B5 3BC 131 69 17F 73 345 3B9 345 1FBE 390 1FD3 3B0 1FE3 3B2 3D0 3B5 3F5 3B8 3D1
3B9 345 3B9 1FBE 3BA 3F0 3BC B5 3C0 3D6 3C1 3F1 3C2 3C3 3C3 3C2 3C6 3D5 3D0 3B2 3D1 3B8 3D5 3C6
3D6 3C0 3F0 3BA 3F1 3C1 3F5 3B5 432 1C80 434 1C81 43E 1C82 441 1C83 442 1C84 442 1C85 44A 1C86 463 1C87
1C80 432 1C81 434 1C82 43E 1C83 441 1C84 442 1C84 1C85 1C85 442 1C85 1C84 1C86 44A 1C87 463 1C88 A64B 1E61 1E9B
1E9B 1E61 1FBE 345 1FBE 3B9 1FD3 390 1FE3 3B0 A64B 1C88 FB05 FB06 FB06 FB05"

/-- The second parts of the pairs that begin with `n`. -/
def partners (n : Nat) : List Nat → List Nat
  | a :: b :: rest => if a = n then b :: partners n rest else partners n rest
  | _ => []

/-- Small letters other than `c` that share a capital with it. -/
def siblings (c : Char) : List Char := (partners c.toNat sharedCapitals).map Char.ofNat

/-- The characters whose small form is `c`. -/
def unfoldings (c : Char) : List Char :=
  let n := c.toNat
  let raised := lowerShifts.filterMap fun s =>
    let back : Run := ⟨s.image, s.image + (s.last - s.first), s.stride⟩
    if back.has n then some (Char.ofNat (s.first + (n - s.image))) else none
  c :: raised

end CodeAtlas.Text
