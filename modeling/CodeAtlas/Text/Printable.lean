import CodeAtlas.Text.Runs

/-!
# Printable characters

A character is printable unless it is a control, a format character, a separator other than the
blank, unassigned or for private use.
-/

namespace CodeAtlas.Text

/-- The characters that a quoted text shows as an escape. -/
def unprintableRuns : List Run := runsOf (numerals "0 1F 1 7F A0 1 AD AD 1 378 379 1 380 383 1 38B 38B 1 38D 38D 1 3A2 3A2 1 530 530 1 557 558 1 58B
58C 1 590 590 1 5C8 5CF 1 5EB 5EE 1 5F5 605 1 61C 61C 1 6DD 6DD 1 70E 70F 1 74B 74C 1 7B2 7BF 1
7FB 7FC 1 82E 82F 1 83F 83F 1 85C 85D 1 85F 85F 1 86B 86F 1 88F 897 1 8E2 8E2 1 984 984 1 98D
98E 1 991 992 1 9A9 9A9 1 9B1 9B1 1 9B3 9B5 1 9BA 9BB 1 9C5 9C6 1 9C9 9CA 1 9CF 9D6 1 9D8 9DB 1
9DE 9DE 1 9E4 9E5 1 9FF A00 1 A04 A04 1 A0B A0E 1 A11 A12 1 A29 A29 1 A31 A31 1 A34 A34 1 A37
A37 1 A3A A3B 1 A3D A3D 1 A43 A46 1 A49 A4A 1 A4E A50 1 A52 A58 1 A5D A5D 1 A5F A65 1 A77 A80 1
A84 A84 1 A8E A8E 1 A92 A92 1 AA9 AA9 1 AB1 AB1 1 AB4 AB4 1 ABA ABB 1 AC6 AC6 1 ACA ACA 1 ACE
ACF 1 AD1 ADF 1 AE4 AE5 1 AF2 AF8 1 B00 B00 1 B04 B04 1 B0D B0E 1 B11 B12 1 B29 B29 1 B31 B31 1
B34 B34 1 B3A B3B 1 B45 B46 1 B49 B4A 1 B4E B54 1 B58 B5B 1 B5E B5E 1 B64 B65 1 B78 B81 1 B84
B84 1 B8B B8D 1 B91 B91 1 B96 B98 1 B9B B9B 1 B9D B9D 1 BA0 BA2 1 BA5 BA7 1 BAB BAD 1 BBA BBD 1
BC3 BC5 1 BC9 BC9 1 BCE BCF 1 BD1 BD6 1 BD8 BE5 1 BFB BFF 1 C0D C0D 1 C11 C11 1 C29 C29 1 C3A
C3B 1 C45 C45 1 C49 C49 1 C4E C54 1 C57 C57 1 C5B C5C 1 C5E C5F 1 C64 C65 1 C70 C76 1 C8D C8D 1
C91 C91 1 CA9 CA9 1 CB4 CB4 1 CBA CBB 1 CC5 CC5 1 CC9 CC9 1 CCE CD4 1 CD7 CDC 1 CDF CDF 1 CE4
CE5 1 CF0 CF0 1 CF3 CFF 1 D0D D0D 1 D11 D11 1 D45 D45 1 D49 D49 1 D50 D53 1 D64 D65 1 D80 D80 1
D84 D84 1 D97 D99 1 DB2 DB2 1 DBC DBC 1 DBE DBF 1 DC7 DC9 1 DCB DCE 1 DD5 DD5 1 DD7 DD7 1 DE0
DE5 1 DF0 DF1 1 DF5 E00 1 E3B E3E 1 E5C E80 1 E83 E83 1 E85 E85 1 E8B E8B 1 EA4 EA4 1 EA6 EA6 1
EBE EBF 1 EC5 EC5 1 EC7 EC7 1 ECE ECF 1 EDA EDB 1 EE0 EFF 1 F48 F48 1 F6D F70 1 F98 F98 1 FBD
FBD 1 FCD FCD 1 FDB FFF 1 10C6 10C6 1 10C8 10CC 1 10CE 10CF 1 1249 1249 1 124E 124F 1 1257 1257
1 1259 1259 1 125E 125F 1 1289 1289 1 128E 128F 1 12B1 12B1 1 12B6 12B7 1 12BF 12BF 1 12C1 12C1
1 12C6 12C7 1 12D7 12D7 1 1311 1311 1 1316 1317 1 135B 135C 1 137D 137F 1 139A 139F 1 13F6 13F7
1 13FE 13FF 1 1680 1680 1 169D 169F 1 16F9 16FF 1 1716 171E 1 1737 173F 1 1754 175F 1 176D 176D
1 1771 1771 1 1774 177F 1 17DE 17DF 1 17EA 17EF 1 17FA 17FF 1 180E 180E 1 181A 181F 1 1879 187F
1 18AB 18AF 1 18F6 18FF 1 191F 191F 1 192C 192F 1 193C 193F 1 1941 1943 1 196E 196F 1 1975 197F
1 19AC 19AF 1 19CA 19CF 1 19DB 19DD 1 1A1C 1A1D 1 1A5F 1A5F 1 1A7D 1A7E 1 1A8A 1A8F 1 1A9A 1A9F
1 1AAE 1AAF 1 1ACF 1AFF 1 1B4D 1B4F 1 1B7F 1B7F 1 1BF4 1BFB 1 1C38 1C3A 1 1C4A 1C4C 1 1C89 1C8F
1 1CBB 1CBC 1 1CC8 1CCF 1 1CFB 1CFF 1 1F16 1F17 1 1F1E 1F1F 1 1F46 1F47 1 1F4E 1F4F 1 1F58 1F5E
2 1F7E 1F7F 1 1FB5 1FB5 1 1FC5 1FC5 1 1FD4 1FD5 1 1FDC 1FDC 1 1FF0 1FF1 1 1FF5 1FF5 1 1FFF 200F
1 2028 202F 1 205F 206F 1 2072 2073 1 208F 208F 1 209D 209F 1 20C1 20CF 1 20F1 20FF 1 218C 218F
1 2427 243F 1 244B 245F 1 2B74 2B75 1 2B96 2B96 1 2CF4 2CF8 1 2D26 2D26 1 2D28 2D2C 1 2D2E 2D2F
1 2D68 2D6E 1 2D71 2D7E 1 2D97 2D9F 1 2DA7 2DA7 1 2DAF 2DAF 1 2DB7 2DB7 1 2DBF 2DBF 1 2DC7 2DC7
1 2DCF 2DCF 1 2DD7 2DD7 1 2DDF 2DDF 1 2E5E 2E7F 1 2E9A 2E9A 1 2EF4 2EFF 1 2FD6 2FEF 1 2FFC 3000
1 3040 3040 1 3097 3098 1 3100 3104 1 3130 3130 1 318F 318F 1 31E4 31EF 1 321F 321F 1 A48D A48F
1 A4C7 A4CF 1 A62C A63F 1 A6F8 A6FF 1 A7CB A7CF 1 A7D2 A7D2 1 A7D4 A7D4 1 A7DA A7F1 1 A82D A82F
1 A83A A83F 1 A878 A87F 1 A8C6 A8CD 1 A8DA A8DF 1 A954 A95E 1 A97D A97F 1 A9CE A9CE 1 A9DA A9DD
1 A9FF A9FF 1 AA37 AA3F 1 AA4E AA4F 1 AA5A AA5B 1 AAC3 AADA 1 AAF7 AB00 1 AB07 AB08 1 AB0F AB10
1 AB17 AB1F 1 AB27 AB27 1 AB2F AB2F 1 AB6C AB6F 1 ABEE ABEF 1 ABFA ABFF 1 D7A4 D7AF 1 D7C7 D7CA
1 D7FC D7FF 1 E000 F8FF 1 FA6E FA6F 1 FADA FAFF 1 FB07 FB12 1 FB18 FB1C 1 FB37 FB37 1 FB3D FB3D
1 FB3F FB3F 1 FB42 FB42 1 FB45 FB45 1 FBC3 FBD2 1 FD90 FD91 1 FDC8 FDCE 1 FDD0 FDEF 1 FE1A FE1F
1 FE53 FE53 1 FE67 FE67 1 FE6C FE6F 1 FE75 FE75 1 FEFD FF00 1 FFBF FFC1 1 FFC8 FFC9 1 FFD0 FFD1
1 FFD8 FFD9 1 FFDD FFDF 1 FFE7 FFE7 1 FFEF FFFB 1 FFFE FFFF 1 1000C 1000C 1 10027 10027 1 1003B
1003B 1 1003E 1003E 1 1004E 1004F 1 1005E 1007F 1 100FB 100FF 1 10103 10106 1 10134 10136 1
1018F 1018F 1 1019D 1019F 1 101A1 101CF 1 101FE 1027F 1 1029D 1029F 1 102D1 102DF 1 102FC 102FF
1 10324 1032C 1 1034B 1034F 1 1037B 1037F 1 1039E 1039E 1 103C4 103C7 1 103D6 103FF 1 1049E
1049F 1 104AA 104AF 1 104D4 104D7 1 104FC 104FF 1 10528 1052F 1 10564 1056E 1 1057B 1057B 1
1058B 1058B 1 10593 10593 1 10596 10596 1 105A2 105A2 1 105B2 105B2 1 105BA 105BA 1 105BD 105FF
1 10737 1073F 1 10756 1075F 1 10768 1077F 1 10786 10786 1 107B1 107B1 1 107BB 107FF 1 10806
10807 1 10809 10809 1 10836 10836 1 10839 1083B 1 1083D 1083E 1 10856 10856 1 1089F 108A6 1
108B0 108DF 1 108F3 108F3 1 108F6 108FA 1 1091C 1091E 1 1093A 1093E 1 10940 1097F 1 109B8 109BB
1 109D0 109D1 1 10A04 10A04 1 10A07 10A0B 1 10A14 10A14 1 10A18 10A18 1 10A36 10A37 1 10A3B
10A3E 1 10A49 10A4F 1 10A59 10A5F 1 10AA0 10ABF 1 10AE7 10AEA 1 10AF7 10AFF 1 10B36 10B38 1
10B56 10B57 1 10B73 10B77 1 10B92 10B98 1 10B9D 10BA8 1 10BB0 10BFF 1 10C49 10C7F 1 10CB3 10CBF
1 10CF3 10CF9 1 10D28 10D2F 1 10D3A 10E5F 1 10E7F 10E7F 1 10EAA 10EAA 1 10EAE 10EAF 1 10EB2
10EFF 1 10F28 10F2F 1 10F5A 10F6F 1 10F8A 10FAF 1 10FCC 10FDF 1 10FF7 10FFF 1 1104E 11051 1
11076 1107E 1 110BD 110BD 1 110C3 110CF 1 110E9 110EF 1 110FA 110FF 1 11135 11135 1 11148 1114F
1 11177 1117F 1 111E0 111E0 1 111F5 111FF 1 11212 11212 1 1123F 1127F 1 11287 11287 1 11289
11289 1 1128E 1128E 1 1129E 1129E 1 112AA 112AF 1 112EB 112EF 1 112FA 112FF 1 11304 11304 1
1130D 1130E 1 11311 11312 1 11329 11329 1 11331 11331 1 11334 11334 1 1133A 1133A 1 11345 11346
1 11349 1134A 1 1134E 1134F 1 11351 11356 1 11358 1135C 1 11364 11365 1 1136D 1136F 1 11375
113FF 1 1145C 1145C 1 11462 1147F 1 114C8 114CF 1 114DA 1157F 1 115B6 115B7 1 115DE 115FF 1
11645 1164F 1 1165A 1165F 1 1166D 1167F 1 116BA 116BF 1 116CA 116FF 1 1171B 1171C 1 1172C 1172F
1 11747 117FF 1 1183C 1189F 1 118F3 118FE 1 11907 11908 1 1190A 1190B 1 11914 11914 1 11917
11917 1 11936 11936 1 11939 1193A 1 11947 1194F 1 1195A 1199F 1 119A8 119A9 1 119D8 119D9 1
119E5 119FF 1 11A48 11A4F 1 11AA3 11AAF 1 11AF9 11BFF 1 11C09 11C09 1 11C37 11C37 1 11C46 11C4F
1 11C6D 11C6F 1 11C90 11C91 1 11CA8 11CA8 1 11CB7 11CFF 1 11D07 11D07 1 11D0A 11D0A 1 11D37
11D39 1 11D3B 11D3B 1 11D3E 11D3E 1 11D48 11D4F 1 11D5A 11D5F 1 11D66 11D66 1 11D69 11D69 1
11D8F 11D8F 1 11D92 11D92 1 11D99 11D9F 1 11DAA 11EDF 1 11EF9 11FAF 1 11FB1 11FBF 1 11FF2 11FFE
1 1239A 123FF 1 1246F 1246F 1 12475 1247F 1 12544 12F8F 1 12FF3 12FFF 1 1342F 143FF 1 14647
167FF 1 16A39 16A3F 1 16A5F 16A5F 1 16A6A 16A6D 1 16ABF 16ABF 1 16ACA 16ACF 1 16AEE 16AEF 1
16AF6 16AFF 1 16B46 16B4F 1 16B5A 16B5A 1 16B62 16B62 1 16B78 16B7C 1 16B90 16E3F 1 16E9B 16EFF
1 16F4B 16F4E 1 16F88 16F8E 1 16FA0 16FDF 1 16FE5 16FEF 1 16FF2 16FFF 1 187F8 187FF 1 18CD6
18CFF 1 18D09 1AFEF 1 1AFF4 1AFF4 1 1AFFC 1AFFC 1 1AFFF 1AFFF 1 1B123 1B14F 1 1B153 1B163 1
1B168 1B16F 1 1B2FC 1BBFF 1 1BC6B 1BC6F 1 1BC7D 1BC7F 1 1BC89 1BC8F 1 1BC9A 1BC9B 1 1BCA0 1CEFF
1 1CF2E 1CF2F 1 1CF47 1CF4F 1 1CFC4 1CFFF 1 1D0F6 1D0FF 1 1D127 1D128 1 1D173 1D17A 1 1D1EB
1D1FF 1 1D246 1D2DF 1 1D2F4 1D2FF 1 1D357 1D35F 1 1D379 1D3FF 1 1D455 1D455 1 1D49D 1D49D 1
1D4A0 1D4A1 1 1D4A3 1D4A4 1 1D4A7 1D4A8 1 1D4AD 1D4AD 1 1D4BA 1D4BA 1 1D4BC 1D4BC 1 1D4C4 1D4C4
1 1D506 1D506 1 1D50B 1D50C 1 1D515 1D515 1 1D51D 1D51D 1 1D53A 1D53A 1 1D53F 1D53F 1 1D545
1D545 1 1D547 1D549 1 1D551 1D551 1 1D6A6 1D6A7 1 1D7CC 1D7CD 1 1DA8C 1DA9A 1 1DAA0 1DAA0 1
1DAB0 1DEFF 1 1DF1F 1DFFF 1 1E007 1E007 1 1E019 1E01A 1 1E022 1E022 1 1E025 1E025 1 1E02B 1E0FF
1 1E12D 1E12F 1 1E13E 1E13F 1 1E14A 1E14D 1 1E150 1E28F 1 1E2AF 1E2BF 1 1E2FA 1E2FE 1 1E300
1E7DF 1 1E7E7 1E7E7 1 1E7EC 1E7EC 1 1E7EF 1E7EF 1 1E7FF 1E7FF 1 1E8C5 1E8C6 1 1E8D7 1E8FF 1
1E94C 1E94F 1 1E95A 1E95D 1 1E960 1EC70 1 1ECB5 1ED00 1 1ED3E 1EDFF 1 1EE04 1EE04 1 1EE20 1EE20
1 1EE23 1EE23 1 1EE25 1EE26 1 1EE28 1EE28 1 1EE33 1EE33 1 1EE38 1EE3C 2 1EE3D 1EE41 1 1EE43
1EE46 1 1EE48 1EE4C 2 1EE50 1EE50 1 1EE53 1EE53 1 1EE55 1EE56 1 1EE58 1EE60 2 1EE63 1EE63 1
1EE65 1EE66 1 1EE6B 1EE6B 1 1EE73 1EE73 1 1EE78 1EE78 1 1EE7D 1EE7D 1 1EE7F 1EE7F 1 1EE8A 1EE8A
1 1EE9C 1EEA0 1 1EEA4 1EEA4 1 1EEAA 1EEAA 1 1EEBC 1EEEF 1 1EEF2 1EFFF 1 1F02C 1F02F 1 1F094
1F09F 1 1F0AF 1F0B0 1 1F0C0 1F0C0 1 1F0D0 1F0D0 1 1F0F6 1F0FF 1 1F1AE 1F1E5 1 1F203 1F20F 1
1F23C 1F23F 1 1F249 1F24F 1 1F252 1F25F 1 1F266 1F2FF 1 1F6D8 1F6DC 1 1F6ED 1F6EF 1 1F6FD 1F6FF
1 1F774 1F77F 1 1F7D9 1F7DF 1 1F7EC 1F7EF 1 1F7F1 1F7FF 1 1F80C 1F80F 1 1F848 1F84F 1 1F85A
1F85F 1 1F888 1F88F 1 1F8AE 1F8AF 1 1F8B2 1F8FF 1 1FA54 1FA5F 1 1FA6E 1FA6F 1 1FA75 1FA77 1
1FA7D 1FA7F 1 1FA87 1FA8F 1 1FAAD 1FAAF 1 1FABB 1FABF 1 1FAC6 1FACF 1 1FADA 1FADF 1 1FAE8 1FAEF
1 1FAF7 1FAFF 1 1FB93 1FB93 1 1FBCB 1FBEF 1 1FBFA 1FFFF 1 2A6E0 2A6FF 1 2B739 2B73F 1 2B81E
2B81F 1 2CEA2 2CEAF 1 2EBE1 2F7FF 1 2FA1E 2FFFF 1 3134B E00FF 1 E01F0 10FFFF 1")

def isPrintable (c : Char) : Bool :=
  if c.toNat < 127 then 32 ≤ c.toNat else !inRuns unprintableRuns c

end CodeAtlas.Text
