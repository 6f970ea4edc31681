import CodeAtlas.Text.Runs

/-!
# Letter case

Small letters and capitals of all scripts, by the Unicode character data. `lower` follows the
full mapping: `İ` becomes two characters, and a capital sigma at the end of a word becomes the
final form.
-/

namespace CodeAtlas.Text

/-! ## Tables -/

/-- Capitals, small counterparts aside: derived property `Uppercase`. -/
def upperRuns : List Run := runsOf (numerals "41 5A 1 C0 D6 1 D8 DE 1 100 136 2 139 147 2 14A 178 2 179 17D 2 181 182 1 184 184 1 186 187 1
189 18B 1 18E 191 1 193 194 1 196 198 1 19C 19D 1 19F 1A0 1 1A2 1A6 2 1A7 1A7 1 1A9 1A9 1 1AC
1AC 1 1AE 1AF 1 1B1 1B3 1 1B5 1B5 1 1B7 1B8 1 1BC 1BC 1 1C4 1C4 1 1C7 1C7 1 1CA 1CA 1 1CD 1DB 2
1DE 1EE 2 1F1 1F1 1 1F4 1F4 1 1F6 1F8 1 1FA 232 2 23A 23B 1 23D 23E 1 241 241 1 243 246 1 248
24E 2 370 370 1 372 372 1 376 376 1 37F 37F 1 386 386 1 388 38A 1 38C 38C 1 38E 38F 1 391 3A1 1
3A3 3AB 1 3CF 3CF 1 3D2 3D4 1 3D8 3EE 2 3F4 3F4 1 3F7 3F7 1 3F9 3FA 1 3FD 42F 1 460 480 2 48A
4C0 2 4C1 4CD 2 4D0 52E 2 531 556 1 10A0 10C5 1 10C7 10C7 1 10CD 10CD 1 13A0 13F5 1 1C90 1CBA 1
1CBD 1CBF 1 1E00 1E94 2 1E9E 1EFE 2 1F08 1F0F 1 1F18 1F1D 1 1F28 1F2F 1 1F38 1F3F 1 1F48 1F4D 1
1F59 1F5F 2 1F68 1F6F 1 1FB8 1FBB 1 1FC8 1FCB 1 1FD8 1FDB 1 1FE8 1FEC 1 1FF8 1FFB 1 2102 2102 1
2107 2107 1 210B 210D 1 2110 2112 1 2115 2115 1 2119 211D 1 2124 212A 2 212B 212D 1 2130 2133 1
213E 213F 1 2145 2145 1 2160 216F 1 2183 2183 1 24B6 24CF 1 2C00 2C2F 1 2C60 2C60 1 2C62 2C64 1
2C67 2C6D 2 2C6E 2C70 1 2C72 2C72 1 2C75 2C75 1 2C7E 2C80 1 2C82 2CE2 2 2CEB 2CEB 1 2CED 2CED 1
2CF2 2CF2 1 A640 A66C 2 A680 A69A 2 A722 A72E 2 A732 A76E 2 A779 A77D 2 A77E A786 2 A78B A78B 1
A78D A78D 1 A790 A790 1 A792 A792 1 A796 A7AA 2 A7AB A7AE 1 A7B0 A7B4 1 A7B6 A7C4 2 A7C5 A7C7 1
A7C9 A7C9 1 A7D0 A7D0 1 A7D6 A7D6 1 A7D8 A7D8 1 A7F5 A7F5 1 FF21 FF3A 1 10400 10427 1 104B0
104D3 1 10570 1057A 1 1057C 1058A 1 1058C 10592 1 10594 10595 1 10C80 10CB2 1 118A0 118BF 1
16E40 16E5F 1 1D400 1D419 1 1D434 1D44D 1 1D468 1D481 1 1D49C 1D49C 1 1D49E 1D49F 1 1D4A2 1D4A2
1 1D4A5 1D4A6 1 1D4A9 1D4AC 1 1D4AE 1D4B5 1 1D4D0 1D4E9 1 1D504 1D505 1 1D507 1D50A 1 1D50D
1D514 1 1D516 1D51C 1 1D538 1D539 1 1D53B 1D53E 1 1D540 1D544 1 1D546 1D546 1 1D54A 1D550 1
1D56C 1D585 1 1D5A0 1D5B9 1 1D5D4 1D5ED 1 1D608 1D621 1 1D63C 1D655 1 1D670 1D689 1 1D6A8 1D6C0
1 1D6E2 1D6FA 1 1D71C 1D734 1 1D756 1D76E 1 1D790 1D7A8 1 1D7CA 1D7CA 1 1E900 1E921 1 1F130
1F149 1 1F150 1F169 1 1F170 1F189 1")

/-- The one-to-one part of the mapping to small letters. -/
def lowerShifts : List Shift := shiftsOf (numerals "41 5A 1 61 C0 D6 1 E0 D8 DE 1 F8 100 12E 2 101 132 136 2 133 139 147 2 13A 14A 176 2 14B 178 178
1 FF 179 17D 2 17A 181 181 1 253 182 184 2 183 186 186 1 254 187 187 1 188 189 18A 1 256 18B 18B
1 18C 18E 18E 1 1DD 18F 18F 1 259 190 190 1 25B 191 191 1 192 193 193 1 260 194 194 1 263 196
196 1 269 197 197 1 268 198 198 1 199 19C 19C 1 26F 19D 19D 1 272 19F 19F 1 275 1A0 1A4 2 1A1
1A6 1A6 1 280 1A7 1A7 1 1A8 1A9 1A9 1 283 1AC 1AC 1 1AD 1AE 1AE 1 288 1AF 1AF 1 1B0 1B1 1B2 1
28A 1B3 1B5 2 1B4 1B7 1B7 1 292 1B8 1B8 1 1B9 1BC 1BC 1 1BD 1C4 1C4 1 1C6 1C5 1C5 1 1C6 1C7 1C7
1 1C9 1C8 1C8 1 1C9 1CA 1CA 1 1CC 1CB 1DB 2 1CC 1DE 1EE 2 1DF 1F1 1F1 1 1F3 1F2 1F4 2 1F3 1F6
1F6 1 195 1F7 1F7 1 1BF 1F8 21E 2 1F9 220 220 1 19E 222 232 2 223 23A 23A 1 2C65 23B 23B 1 23C
23D 23D 1 19A 23E 23E 1 2C66 241 241 1 242 243 243 1 180 244 244 1 289 245 245 1 28C 246 24E 2
247 370 372 2 371 376 376 1 377 37F 37F 1 3F3 386 386 1 3AC 388 38A 1 3AD 38C 38C 1 3CC 38E 38F
1 3CD 391 3A1 1 3B1 3A3 3AB 1 3C3 3CF 3CF 1 3D7 3D8 3EE 2 3D9 3F4 3F4 1 3B8 3F7 3F7 1 3F8 3F9
3F9 1 3F2 3FA 3FA 1 3FB 3FD 3FF 1 37B 400 40F 1 450 410 42F 1 430 460 480 2 461 48A 4BE 2 48B
4C0 4C0 1 4CF 4C1 4CD 2 4C2 4D0 52E 2 4D1 531 556 1 561 10A0 10C5 1 2D00 10C7 10C7 1 2D27 10CD
10CD 1 2D2D 13A0 13EF 1 AB70 13F0 13F5 1 13F8 1C90 1CBA 1 10D0 1CBD 1CBF 1 10FD 1E00 1E94 2 1E01
1E9E 1E9E 1 DF 1EA0 1EFE 2 1EA1 1F08 1F0F 1 1F00 1F18 1F1D 1 1F10 1F28 1F2F 1 1F20 1F38 1F3F 1
1F30 1F48 1F4D 1 1F40 1F59 1F5F 2 1F51 1F68 1F6F 1 1F60 1F88 1F8F 1 1F80 1F98 1F9F 1 1F90 1FA8
1FAF 1 1FA0 1FB8 1FB9 1 1FB0 1FBA 1FBB 1 1F70 1FBC 1FBC 1 1FB3 1FC8 1FCB 1 1F72 1FCC 1FCC 1 1FC3
1FD8 1FD9 1 1FD0 1FDA 1FDB 1 1F76 1FE8 1FE9 1 1FE0 1FEA 1FEB 1 1F7A 1FEC 1FEC 1 1FE5 1FF8 1FF9 1
1F78 1FFA 1FFB 1 1F7C 1FFC 1FFC 1 1FF3 2126 2126 1 3C9 212A 212A 1 6B 212B 212B 1 E5 2132 2132 1
214E 2160 216F 1 2170 2183 2183 1 2184 24B6 24CF 1 24D0 2C00 2C2F 1 2C30 2C60 2C60 1 2C61 2C62
2C62 1 26B 2C63 2C63 1 1D7D 2C64 2C64 1 27D 2C67 2C6B 2 2C68 2C6D 2C6D 1 251 2C6E 2C6E 1 271
2C6F 2C6F 1 250 2C70 2C70 1 252 2C72 2C72 1 2C73 2C75 2C75 1 2C76 2C7E 2C7F 1 23F 2C80 2CE2 2
2C81 2CEB 2CED 2 2CEC 2CF2 2CF2 1 2CF3 A640 A66C 2 A641 A680 A69A 2 A681 A722 A72E 2 A723 A732
A76E 2 A733 A779 A77B 2 A77A A77D A77D 1 1D79 A77E A786 2 A77F A78B A78B 1 A78C A78D A78D 1 265
A790 A792 2 A791 A796 A7A8 2 A797 A7AA A7AA 1 266 A7AB A7AB 1 25C A7AC A7AC 1 261 A7AD A7AD 1
26C A7AE A7AE 1 26A A7B0 A7B0 1 29E A7B1 A7B1 1 287 A7B2 A7B2 1 29D A7B3 A7B3 1 AB53 A7B4 A7C2 2
A7B5 A7C4 A7C4 1 A794 A7C5 A7C5 1 282 A7C6 A7C6 1 1D8E A7C7 A7C9 2 A7C8 A7D0 A7D0 1 A7D1 A7D6
A7D8 2 A7D7 A7F5 A7F5 1 A7F6 FF21 FF3A 1 FF41 10400 10427 1 10428 104B0 104D3 1 104D8 10570
1057A 1 10597 1057C 1058A 1 105A3 1058C 10592 1 105B3 10594 10595 1 105BB 10C80 10CB2 1 10CC0
118A0 118BF 1 118C0 16E40 16E5F 1 16E60 1E900 1E921 1 1E922")

/-- Characters that a search for a neighbouring letter skips: property `Case_Ignorable`. -/
def ignorableRuns : List Run := runsOf (numerals "27 27 1 2E 2E 1 3A 3A 1 5E 5E 1 60 60 1 A8 A8 1 AD AD 1 AF AF 1 B4 B4 1 B7 B8 1 2B0 36F 1 374
375 1 37A 37A 1 384 385 1 387 387 1 483 489 1 559 559 1 55F 55F 1 591 5BD 1 5BF 5BF 1 5C1 5C2 1
5C4 5C5 1 5C7 5C7 1 5F4 5F4 1 600 605 1 610 61A 1 61C 61C 1 640 640 1 64B 65F 1 670 670 1 6D6
6DD 1 6DF 6E8 1 6EA 6ED 1 70F 70F 1 711 711 1 730 74A 1 7A6 7B0 1 7EB 7F5 1 7FA 7FA 1 7FD 7FD 1
816 82D 1 859 85B 1 888 888 1 890 891 1 898 89F 1 8C9 902 1 93A 93A 1 93C 93C 1 941 948 1 94D
94D 1 951 957 1 962 963 1 971 971 1 981 981 1 9BC 9BC 1 9C1 9C4 1 9CD 9CD 1 9E2 9E3 1 9FE 9FE 1
A01 A02 1 A3C A3C 1 A41 A42 1 A47 A48 1 A4B A4D 1 A51 A51 1 A70 A71 1 A75 A75 1 A81 A82 1 ABC
ABC 1 AC1 AC5 1 AC7 AC8 1 ACD ACD 1 AE2 AE3 1 AFA AFF 1 B01 B01 1 B3C B3C 1 B3F B3F 1 B41 B44 1
B4D B4D 1 B55 B56 1 B62 B63 1 B82 B82 1 BC0 BC0 1 BCD BCD 1 C00 C00 1 C04 C04 1 C3C C3C 1 C3E
C40 1 C46 C48 1 C4A C4D 1 C55 C56 1 C62 C63 1 C81 C81 1 CBC CBC 1 CBF CBF 1 CC6 CC6 1 CCC CCD 1
CE2 CE3 1 D00 D01 1 D3B D3C 1 D41 D44 1 D4D D4D 1 D62 D63 1 D81 D81 1 DCA DCA 1 DD2 DD4 1 DD6
DD6 1 E31 E31 1 E34 E3A 1 E46 E4E 1 EB1 EB1 1 EB4 EBC 1 EC6 EC6 1 EC8 ECD 1 F18 F19 1 F35 F39 2
F71 F7E 1 F80 F84 1 F86 F87 1 F8D F97 1 F99 FBC 1 FC6 FC6 1 102D 1030 1 1032 1037 1 1039 103A 1
103D 103E 1 1058 1059 1 105E 1060 1 1071 1074 1 1082 1082 1 1085 1086 1 108D 108D 1 109D 109D 1
10FC 10FC 1 135D 135F 1 1712 1714 1 1732 1733 1 1752 1753 1 1772 1773 1 17B4 17B5 1 17B7 17BD 1
17C6 17C6 1 17C9 17D3 1 17D7 17D7 1 17DD 17DD 1 180B 180F 1 1843 1843 1 1885 1886 1 18A9 18A9 1
1920 1922 1 1927 1928 1 1932 1932 1 1939 193B 1 1A17 1A18 1 1A1B 1A1B 1 1A56 1A56 1 1A58 1A5E 1
1A60 1A60 1 1A62 1A62 1 1A65 1A6C 1 1A73 1A7C 1 1A7F 1A7F 1 1AA7 1AA7 1 1AB0 1ACE 1 1B00 1B03 1
1B34 1B34 1 1B36 1B3A 1 1B3C 1B3C 1 1B42 1B42 1 1B6B 1B73 1 1B80 1B81 1 1BA2 1BA5 1 1BA8 1BA9 1
1BAB 1BAD 1 1BE6 1BE6 1 1BE8 1BE9 1 1BED 1BED 1 1BEF 1BF1 1 1C2C 1C33 1 1C36 1C37 1 1C78 1C7D 1
1CD0 1CD2 1 1CD4 1CE0 1 1CE2 1CE8 1 1CED 1CED 1 1CF4 1CF4 1 1CF8 1CF9 1 1D2C 1D6A 1 1D78 1D78 1
1D9B 1DFF 1 1FBD 1FBD 1 1FBF 1FC1 1 1FCD 1FCF 1 1FDD 1FDF 1 1FED 1FEF 1 1FFD 1FFE 1 200B 200F 1
2018 2019 1 2024 2024 1 2027 2027 1 202A 202E 1 2060 2064 1 2066 206F 1 2071 2071 1 207F 207F 1
2090 209C 1 20D0 20F0 1 2C7C 2C7D 1 2CEF 2CF1 1 2D6F 2D6F 1 2D7F 2D7F 1 2DE0 2DFF 1 2E2F 2E2F 1
3005 3005 1 302A 302D 1 3031 3035 1 303B 303B 1 3099 309E 1 30FC 30FE 1 A015 A015 1 A4F8 A4FD 1
A60C A60C 1 A66F A672 1 A674 A67D 1 A67F A67F 1 A69C A69F 1 A6F0 A6F1 1 A700 A721 1 A770 A770 1
A788 A78A 1 A7F2 A7F4 1 A7F8 A7F9 1 A802 A802 1 A806 A806 1 A80B A80B 1 A825 A826 1 A82C A82C 1
A8C4 A8C5 1 A8E0 A8F1 1 A8FF A8FF 1 A926 A92D 1 A947 A951 1 A980 A982 1 A9B3 A9B3 1 A9B6 A9B9 1
A9BC A9BD 1 A9CF A9CF 1 A9E5 A9E6 1 AA29 AA2E 1 AA31 AA32 1 AA35 AA36 1 AA43 AA43 1 AA4C AA4C 1
AA70 AA70 1 AA7C AA7C 1 AAB0 AAB0 1 AAB2 AAB4 1 AAB7 AAB8 1 AABE AABF 1 AAC1 AAC1 1 AADD AADD 1
AAEC AAED 1 AAF3 AAF4 1 AAF6 AAF6 1 AB5B AB5F 1 AB69 AB6B 1 ABE5 ABE5 1 ABE8 ABE8 1 ABED ABED 1
FB1E FB1E 1 FBB2 FBC2 1 FE00 FE0F 1 FE13 FE13 1 FE20 FE2F 1 FE52 FE52 1 FE55 FE55 1 FEFF FEFF 1
FF07 FF07 1 FF0E FF0E 1 FF1A FF1A 1 FF3E FF3E 1 FF40 FF40 1 FF70 FF70 1 FF9E FF9F 1 FFE3 FFE3 1
FFF9 FFFB 1 101FD 101FD 1 102E0 102E0 1 10376 1037A 1 10780 10785 1 10787 107B0 1 107B2 107BA 1
10A01 10A03 1 10A05 10A06 1 10A0C 10A0F 1 10A38 10A3A 1 10A3F 10A3F 1 10AE5 10AE6 1 10D24 10D27
1 10EAB 10EAC 1 10F46 10F50 1 10F82 10F85 1 11001 11001 1 11038 11046 1 11070 11070 1 11073
11074 1 1107F 11081 1 110B3 110B6 1 110B9 110BA 1 110BD 110BD 1 110C2 110C2 1 110CD 110CD 1
11100 11102 1 11127 1112B 1 1112D 11134 1 11173 11173 1 11180 11181 1 111B6 111BE 1 111C9 111CC
1 111CF 111CF 1 1122F 11231 1 11234 11234 1 11236 11237 1 1123E 1123E 1 112DF 112DF 1 112E3
112EA 1 11300 11301 1 1133B 1133C 1 11340 11340 1 11366 1136C 1 11370 11374 1 11438 1143F 1
11442 11444 1 11446 11446 1 1145E 1145E 1 114B3 114B8 1 114BA 114BA 1 114BF 114C0 1 114C2 114C3
1 115B2 115B5 1 115BC 115BD 1 115BF 115C0 1 115DC 115DD 1 11633 1163A 1 1163D 1163D 1 1163F
11640 1 116AB 116AB 1 116AD 116AD 1 116B0 116B5 1 116B7 116B7 1 1171D 1171F 1 11722 11725 1
11727 1172B 1 1182F 11837 1 11839 1183A 1 1193B 1193C 1 1193E 1193E 1 11943 11943 1 119D4 119D7
1 119DA 119DB 1 119E0 119E0 1 11A01 11A0A 1 11A33 11A38 1 11A3B 11A3E 1 11A47 11A47 1 11A51
11A56 1 11A59 11A5B 1 11A8A 11A96 1 11A98 11A99 1 11C30 11C36 1 11C38 11C3D 1 11C3F 11C3F 1
11C92 11CA7 1 11CAA 11CB0 1 11CB2 11CB3 1 11CB5 11CB6 1 11D31 11D36 1 11D3A 11D3A 1 11D3C 11D3D
1 11D3F 11D45 1 11D47 11D47 1 11D90 11D91 1 11D95 11D95 1 11D97 11D97 1 11EF3 11EF4 1 13430
13438 1 16AF0 16AF4 1 16B30 16B36 1 16B40 16B43 1 16F4F 16F4F 1 16F8F 16F9F 1 16FE0 16FE1 1
16FE3 16FE4 1 1AFF0 1AFF3 1 1AFF5 1AFFB 1 1AFFD 1AFFE 1 1BC9D 1BC9E 1 1BCA0 1BCA3 1 1CF00 1CF2D
1 1CF30 1CF46 1 1D167 1D169 1 1D173 1D182 1 1D185 1D18B 1 1D1AA 1D1AD 1 1D242 1D244 1 1DA00
1DA36 1 1DA3B 1DA6C 1 1DA75 1DA75 1 1DA84 1DA84 1 1DA9B 1DA9F 1 1DAA1 1DAAF 1 1E000 1E006 1
1E008 1E018 1 1E01B 1E021 1 1E023 1E024 1 1E026 1E02A 1 1E130 1E13D 1 1E2AE 1E2AE 1 1E2EC 1E2EF
1 1E8D0 1E8D6 1 1E944 1E94B 1 1F3FB 1F3FF 1 E0001 E0001 1 E0020 E007F 1 E0100 E01EF 1")

/-- Letters with case that are not skipped: property `Cased`. -/
def casedRuns : List Run := runsOf (numerals "41 5A 1 61 7A 1 AA AA 1 B5 B5 1 BA BA 1 C0 D6 1 D8 F6 1 F8 1BA 1 1BC 1BF 1 1C4 293 1 295 2AF 1
370 373 1 376 377 1 37B 37D 1 37F 37F 1 386 386 1 388 38A 1 38C 38C 1 38E 3A1 1 3A3 3F5 1 3F7
481 1 48A 52F 1 531 556 1 560 588 1 10A0 10C5 1 10C7 10C7 1 10CD 10CD 1 10D0 10FA 1 10FD 10FF 1
13A0 13F5 1 13F8 13FD 1 1C80 1C88 1 1C90 1CBA 1 1CBD 1CBF 1 1D00 1D2B 1 1D6B 1D77 1 1D79 1D9A 1
1E00 1F15 1 1F18 1F1D 1 1F20 1F45 1 1F48 1F4D 1 1F50 1F57 1 1F59 1F5F 2 1F60 1F7D 1 1F80 1FB4 1
1FB6 1FBC 1 1FBE 1FBE 1 1FC2 1FC4 1 1FC6 1FCC 1 1FD0 1FD3 1 1FD6 1FDB 1 1FE0 1FEC 1 1FF2 1FF4 1
1FF6 1FFC 1 2102 2102 1 2107 2107 1 210A 2113 1 2115 2115 1 2119 211D 1 2124 212A 2 212B 212D 1
212F 2134 1 2139 2139 1 213C 213F 1 2145 2149 1 214E 214E 1 2160 217F 1 2183 2184 1 24B6 24E9 1
2C00 2C7B 1 2C7E 2CE4 1 2CEB 2CEE 1 2CF2 2CF3 1 2D00 2D25 1 2D27 2D27 1 2D2D 2D2D 1 A640 A66D 1
A680 A69B 1 A722 A76F 1 A771 A787 1 A78B A78E 1 A790 A7CA 1 A7D0 A7D1 1 A7D3 A7D3 1 A7D5 A7D9 1
A7F5 A7F6 1 A7FA A7FA 1 AB30 AB5A 1 AB60 AB68 1 AB70 ABBF 1 FB00 FB06 1 FB13 FB17 1 FF21 FF3A 1
FF41 FF5A 1 10400 1044F 1 104B0 104D3 1 104D8 104FB 1 10570 1057A 1 1057C 1058A 1 1058C 10592 1
10594 10595 1 10597 105A1 1 105A3 105B1 1 105B3 105B9 1 105BB 105BC 1 10C80 10CB2 1 10CC0 10CF2
1 118A0 118DF 1 16E40 16E7F 1 1D400 1D454 1 1D456 1D49C 1 1D49E 1D49F 1 1D4A2 1D4A2 1 1D4A5
1D4A6 1 1D4A9 1D4AC 1 1D4AE 1D4B9 1 1D4BB 1D4BB 1 1D4BD 1D4C3 1 1D4C5 1D505 1 1D507 1D50A 1
1D50D 1D514 1 1D516 1D51C 1 1D51E 1D539 1 1D53B 1D53E 1 1D540 1D544 1 1D546 1D546 1 1D54A 1D550
1 1D552 1D6A5 1 1D6A8 1D6C0 1 1D6C2 1D6DA 1 1D6DC 1D6FA 1 1D6FC 1D714 1 1D716 1D734 1 1D736
1D74E 1 1D750 1D76E 1 1D770 1D788 1 1D78A 1D7A8 1 1D7AA 1D7C2 1 1D7C4 1D7CB 1 1DF00 1DF09 1
1DF0B 1DF1E 1 1E900 1E943 1 1F130 1F149 1 1F150 1F169 1 1F170 1F189 1")

/-! ## Classes -/

def isUpper (c : Char) : Bool := inRuns upperRuns c

def isIgnorable (c : Char) : Bool := inRuns ignorableRuns c

def isCased (c : Char) : Bool := inRuns casedRuns c

/-! ## Small letters -/

/-- The small form of a character away from the two contextual cases. -/
def lowerChar (c : Char) : Char :=
  if c.toNat < 128 then c.toLower else (shifted? lowerShifts c).getD c

/-- Is the first character that case does not ignore a letter with case? -/
def nextIsCased (cs : List Char) : Bool :=
  match cs.dropWhile isIgnorable with
  | [] => false
  | c :: _ => isCased c

/-- Small forms of the rest of a text; `before` holds the characters passed, latest first. -/
def lowerAux (before : List Char) : List Char → List Char
  | [] => []
  | c :: rest =>
    let small :=
      if c = '\u0130' then ['i', '\u0307']
      else if c = '\u03a3' then
        if nextIsCased before && !nextIsCased rest then ['\u03c2'] else ['\u03c3']
      else [lowerChar c]
    small ++ lowerAux (c :: before) rest

/-- The text in small letters. -/
def lower (s : String) : String := String.ofList (lowerAux [] s.toList)

/-- Does the text begin with a capital? -/
def startsUpper (s : String) : Bool := s.toList.head?.any isUpper

end CodeAtlas.Text
