import PlatformLauncher.Text.RangeTable

/-!
What becomes of the characters of a host name: the mapping of UTS #46, bidirectional classes and
joining types, as far as they decide whether a name is accepted.
-/
namespace PlatformLauncher.Host

open Text

/-- Characters that stand for others: a range with the first of as many targets in a row, or one
character with a text. -/
abbrev MappingTable := List (Nat × Nat × List Nat)

def MappingTable.ofWritten (s : String) : MappingTable :=
  (pieces ' ' (s.toList.map fun c => if c = '\n' then ' ' else c)).filterMap fun word => do
    let (source, target) ← cutAt? '=' word
    let (low, high) ← RangeTable.range? source
    pure (low, high, (pieces '+' target).filterMap hexValue?)

def MappingTable.find? (t : MappingTable) (c : Char) : Option Text :=
  (List.find? (fun (low, high, _) => low ≤ c.toNat && c.toNat ≤ high) t).map fun (low, _, target) =>
    match target with
    | [first] => [Char.ofNat (first + (c.toNat - low))]
    | _ => target.map Char.ofNat

def disallowed : RangeTable := .ofWritten "
  80-9F 378-379 380-383 38B 38D 3A2 530 557-558 58B-58C 590 5C8-5CF 5EB-5EE 5F5-605 61C 6DD
  70E-70F 74B-74C 7B2-7BF 7FB-7FC 82E-82F 83F 85C-85D 85F 86B-86F 890-896 8E2 984 98D-98E
  991-992 9A9 9B1 9B3-9B5 9BA-9BB 9C5-9C6 9C9-9CA 9CF-9D6 9D8-9DB 9DE 9E4-9E5 9FF-A00 A04
  A0B-A0E A11-A12 A29 A31 A34 A37 A3A-A3B A3D A43-A46 A49-A4A A4E-A50 A52-A58 A5D A5F-A65
  A77-A80 A84 A8E A92 AA9 AB1 AB4 ABA-ABB AC6 ACA ACE-ACF AD1-ADF AE4-AE5 AF2-AF8 B00 B04
  B0D-B0E B11-B12 B29 B31 B34 B3A-B3B B45-B46 B49-B4A B4E-B54 B58-B5B B5E B64-B65 B78-B81 B84
  B8B-B8D B91 B96-B98 B9B B9D BA0-BA2 BA5-BA7 BAB-BAD BBA-BBD BC3-BC5 BC9 BCE-BCF BD1-BD6
  BD8-BE5 BFB-BFF C0D C11 C29 C3A-C3B C45 C49 C4E-C54 C57 C5B C5E-C5F C64-C65 C70-C76 C8D C91
  CA9 CB4 CBA-CBB CC5 CC9 CCE-CD4 CD7-CDB CDF CE4-CE5 CF0 CF4-CFF D0D D11 D45 D49 D50-D53
  D64-D65 D80 D84 D97-D99 DB2 DBC DBE-DBF DC7-DC9 DCB-DCE DD5 DD7 DE0-DE5 DF0-DF1 DF5-E00
  E3B-E3E E5C-E80 E83 E85 E8B EA4 EA6 EBE-EBF EC5 EC7 ECF EDA-EDB EE0-EFF F48 F6D-F70 F98 FBD
  FCD FDB-FFF 10C6 10C8-10CC 10CE-10CF 1249 124E-124F 1257 1259 125E-125F 1289 128E-128F 12B1
  12B6-12B7 12BF 12C1 12C6-12C7 12D7 1311 1316-1317 135B-135C 137D-137F 139A-139F 13F6-13F7
  13FE-13FF 1680 169D-169F 16F9-16FF 1716-171E 1737-173F 1754-175F 176D 1771 1774-177F 17DE-17DF
  17EA-17EF 17FA-17FF 181A-181F 1879-187F 18AB-18AF 18F6-18FF 191F 192C-192F 193C-193F 1941-1943
  196E-196F 1975-197F 19AC-19AF 19CA-19CF 19DB-19DD 1A1C-1A1D 1A5F 1A7D-1A7E 1A8A-1A8F 1A9A-1A9F
  1AAE-1AAF 1ADE-1ADF 1AEC-1AFF 1B4D 1BF4-1BFB 1C38-1C3A 1C4A-1C4C 1C8B-1C8F 1CBB-1CBC 1CC8-1CCF
  1CFB-1CFF 1F16-1F17 1F1E-1F1F 1F46-1F47 1F4E-1F4F 1F58 1F5A 1F5C 1F5E 1F7E-1F7F 1FB5 1FC5
  1FD4-1FD5 1FDC 1FF0-1FF1 1FF5 1FFF 200E-200F 2024-2026 2028-202E 2065-2069 2072-2073 208F
  209D-209F 20C2-20CF 20F1-20FF 218C-218F 242A-243F 244B-245F 2488-249B 2B74-2B75 2CF4-2CF8 2D26
  2D28-2D2C 2D2E-2D2F 2D68-2D6E 2D71-2D7E 2D97-2D9F 2DA7 2DAF 2DB7 2DBF 2DC7 2DCF 2DD7 2DDF
  2E5E-2E7F 2E9A 2EF4-2EFF 2FD6-2FFF 3040 3097-3098 3100-3104 3130 318F 31E6-31EF 321F 33C2 33C7
  33D8 A48D-A48F A4C7-A4CF A62C-A63F A6F8-A6FF A7DD-A7F0 A82D-A82F A83A-A83F A878-A87F A8C6-A8CD
  A8DA-A8DF A954-A95E A97D-A97F A9CE A9DA-A9DD A9FF AA37-AA3F AA4E-AA4F AA5A-AA5B AAC3-AADA
  AAF7-AB00 AB07-AB08 AB0F-AB10 AB17-AB1F AB27 AB2F AB6C-AB6F ABEE-ABEF ABFA-ABFF D7A4-D7AF
  D7C7-D7CA D7FC-D7FF E000-F8FF FA6E-FA6F FADA-FAFF FB07-FB12 FB18-FB1C FB37 FB3D FB3F FB42 FB45
  FDD0-FDEF FE12 FE19-FE1F FE30 FE52-FE53 FE67 FE6C-FE6F FE75 FEFD-FEFE FF00 FFBF-FFC1 FFC8-FFC9
  FFD0-FFD1 FFD8-FFD9 FFDD-FFDF FFE7 FFEF-FFFF 1000C 10027 1003B 1003E 1004E-1004F 1005E-1007F
  100FB-100FF 10103-10106 10134-10136 1018F 1019D-1019F 101A1-101CF 101FE-1027F 1029D-1029F
  102D1-102DF 102FC-102FF 10324-1032C 1034B-1034F 1037B-1037F 1039E 103C4-103C7 103D6-103FF
  1049E-1049F 104AA-104AF 104D4-104D7 104FC-104FF 10528-1052F 10564-1056E 1057B 1058B 10593
  10596 105A2 105B2 105BA 105BD-105BF 105F4-105FF 10737-1073F 10756-1075F 10768-1077F 10786
  107B1 107BB-107FF 10806-10807 10809 10836 10839-1083B 1083D-1083E 10856 1089F-108A6
  108B0-108DF 108F3 108F6-108FA 1091C-1091E 1093A-1093E 1095A-1097F 109B8-109BB 109D0-109D1
  10A04 10A07-10A0B 10A14 10A18 10A36-10A37 10A3B-10A3E 10A49-10A4F 10A59-10A5F 10AA0-10ABF
  10AE7-10AEA 10AF7-10AFF 10B36-10B38 10B56-10B57 10B73-10B77 10B92-10B98 10B9D-10BA8
  10BB0-10BFF 10C49-10C7F 10CB3-10CBF 10CF3-10CF9 10D28-10D2F 10D3A-10D3F 10D66-10D68
  10D86-10D8D 10D90-10E5F 10E7F 10EAA 10EAE-10EAF 10EB2-10EC1 10EC8-10ECF 10ED9-10EF9
  10F28-10F2F 10F5A-10F6F 10F8A-10FAF 10FCC-10FDF 10FF7-10FFF 1104E-11051 11076-1107E 110BD
  110C3-110CF 110E9-110EF 110FA-110FF 11135 11148-1114F 11177-1117F 111E0 111F5-111FF 11212
  11242-1127F 11287 11289 1128E 1129E 112AA-112AF 112EB-112EF 112FA-112FF 11304 1130D-1130E
  11311-11312 11329 11331 11334 1133A 11345-11346 11349-1134A 1134E-1134F 11351-11356
  11358-1135C 11364-11365 1136D-1136F 11375-1137F 1138A 1138C-1138D 1138F 113B6 113C1
  113C3-113C4 113C6 113CB 113D6 113D9-113E0 113E3-113FF 1145C 11462-1147F 114C8-114CF
  114DA-1157F 115B6-115B7 115DE-115FF 11645-1164F 1165A-1165F 1166D-1167F 116BA-116BF
  116CA-116CF 116E4-116FF 1171B-1171C 1172C-1172F 11747-117FF 1183C-1189F 118F3-118FE
  11907-11908 1190A-1190B 11914 11917 11936 11939-1193A 11947-1194F 1195A-1199F 119A8-119A9
  119D8-119D9 119E5-119FF 11A48-11A4F 11AA3-11AAF 11AF9-11AFF 11B0A-11B5F 11B68-11BBF
  11BE2-11BEF 11BFA-11BFF 11C09 11C37 11C46-11C4F 11C6D-11C6F 11C90-11C91 11CA8 11CB7-11CFF
  11D07 11D0A 11D37-11D39 11D3B 11D3E 11D48-11D4F 11D5A-11D5F 11D66 11D69 11D8F 11D92
  11D99-11D9F 11DAA-11DAF 11DDC-11DDF 11DEA-11EDF 11EF9-11EFF 11F11 11F3B-11F3D 11F5B-11FAF
  11FB1-11FBF 11FF2-11FFE 1239A-123FF 1246F 12475-1247F 12544-12F8F 12FF3-12FFF 13430-1343F
  13456-1345F 143FB-143FF 14647-160FF 1613A-167FF 16A39-16A3F 16A5F 16A6A-16A6D 16ABF
  16ACA-16ACF 16AEE-16AEF 16AF6-16AFF 16B46-16B4F 16B5A 16B62 16B78-16B7C 16B90-16D3F
  16D7A-16E3F 16E9B-16E9F 16EB9-16EBA 16ED4-16EFF 16F4B-16F4E 16F88-16F8E 16FA0-16FDF
  16FE5-16FEF 16FF7-16FFF 18CD6-18CFE 18D1F-18D7F 18DF3-1AFEF 1AFF4 1AFFC 1AFFF 1B123-1B131
  1B133-1B14F 1B153-1B154 1B156-1B163 1B168-1B16F 1B2FC-1BBFF 1BC6B-1BC6F 1BC7D-1BC7F
  1BC89-1BC8F 1BC9A-1BC9B 1BCA4-1CBFF 1CCFD-1CCFF 1CEB4-1CEB9 1CED1-1CEDF 1CEF1-1CEFF
  1CF2E-1CF2F 1CF47-1CF4F 1CFC4-1CFFF 1D0F6-1D0FF 1D127-1D128 1D1EB-1D1FF 1D246-1D2BF
  1D2D4-1D2DF 1D2F4-1D2FF 1D357-1D35F 1D379-1D3FF 1D455 1D49D 1D4A0-1D4A1 1D4A3-1D4A4
  1D4A7-1D4A8 1D4AD 1D4BA 1D4BC 1D4C4 1D506 1D50B-1D50C 1D515 1D51D 1D53A 1D53F 1D545
  1D547-1D549 1D551 1D6A6-1D6A7 1D7CC-1D7CD 1DA8C-1DA9A 1DAA0 1DAB0-1DEFF 1DF1F-1DF24
  1DF2B-1DFFF 1E007 1E019-1E01A 1E022 1E025 1E02B-1E02F 1E06E-1E08E 1E090-1E0FF 1E12D-1E12F
  1E13E-1E13F 1E14A-1E14D 1E150-1E28F 1E2AF-1E2BF 1E2FA-1E2FE 1E300-1E4CF 1E4FA-1E5CF
  1E5FB-1E5FE 1E600-1E6BF 1E6DF 1E6F6-1E6FD 1E700-1E7DF 1E7E7 1E7EC 1E7EF 1E7FF 1E8C5-1E8C6
  1E8D7-1E8FF 1E94C-1E94F 1E95A-1E95D 1E960-1EC70 1ECB5-1ED00 1ED3E-1EDFF 1EE04 1EE20 1EE23
  1EE25-1EE26 1EE28 1EE33 1EE38 1EE3A 1EE3C-1EE41 1EE43-1EE46 1EE48 1EE4A 1EE4C 1EE50 1EE53
  1EE55-1EE56 1EE58 1EE5A 1EE5C 1EE5E 1EE60 1EE63 1EE65-1EE66 1EE6B 1EE73 1EE78 1EE7D 1EE7F
  1EE8A 1EE9C-1EEA0 1EEA4 1EEAA 1EEBC-1EEEF 1EEF2-1EFFF 1F02C-1F02F 1F094-1F09F 1F0AF-1F0B0
  1F0C0 1F0D0 1F0F6-1F100 1F1AE-1F1E5 1F203-1F20F 1F23C-1F23F 1F249-1F24F 1F252-1F25F
  1F266-1F2FF 1F6D9-1F6DB 1F6ED-1F6EF 1F6FD-1F6FF 1F7DA-1F7DF 1F7EC-1F7EF 1F7F1-1F7FF
  1F80C-1F80F 1F848-1F84F 1F85A-1F85F 1F888-1F88F 1F8AE-1F8AF 1F8BC-1F8BF 1F8C2-1F8CF
  1F8D9-1F8FF 1FA58-1FA5F 1FA6E-1FA6F 1FA7D-1FA7F 1FA8B-1FA8D 1FAC7 1FAC9-1FACC 1FADD-1FADE
  1FAEB-1FAEE 1FAF9-1FAFF 1FB93 1FBFB-1FFFF 2A6E0-2A6FF 2B81E-2B81F 2CEAE-2CEAF 2EBE1-2EBEF
  2EE5E-2F7FF 2FA1E-2FFFF 3134B-3134F 3347A-E00FF E01F0-10FFFF"

def ignored : RangeTable := .ofWritten "
  AD 34F 115F-1160 17B4-17B5 180B-180F 200B 2060-2064 206A-206F 3164 FE00-FE0F FEFF FFA0
  1BCA0-1BCA3 1D173-1D17A E0100-E01EF"

def mapped : RangeTable := .ofWritten "
  A0 A8 AA AF B2-B5 B8-BA BC-BE C0-D6 D8-DE 100 102 104 106 108 10A 10C 10E 110 112 114 116 118
  11A 11C 11E 120 122 124 126 128 12A 12C 12E 130 132-134 136 139 13B 13D 13F-141 143 145 147
  149-14A 14C 14E 150 152 154 156 158 15A 15C 15E 160 162 164 166 168 16A 16C 16E 170 172 174
  176 178-179 17B 17D 17F 181-182 184 186-187 189-18B 18E-191 193-194 196-198 19C-19D 19F-1A0
  1A2 1A4 1A6-1A7 1A9 1AC 1AE-1AF 1B1-1B3 1B5 1B7-1B8 1BC 1C4-1CD 1CF 1D1 1D3 1D5 1D7 1D9 1DB
  1DE 1E0 1E2 1E4 1E6 1E8 1EA 1EC 1EE 1F1-1F4 1F6-1F8 1FA 1FC 1FE 200 202 204 206 208 20A 20C
  20E 210 212 214 216 218 21A 21C 21E 220 222 224 226 228 22A 22C 22E 230 232 23A-23B 23D-23E
  241 243-246 248 24A 24C 24E 2B0-2B8 2D8-2DD 2E0-2E4 340-341 343-345 370 372 374 376 37A
  37E-37F 384-38A 38C 38E-38F 391-3A1 3A3-3AB 3CF-3D6 3D8 3DA 3DC 3DE 3E0 3E2 3E4 3E6 3E8 3EA
  3EC 3EE 3F0-3F2 3F4-3F5 3F7 3F9-3FA 3FD-42F 460 462 464 466 468 46A 46C 46E 470 472 474 476
  478 47A 47C 47E 480 48A 48C 48E 490 492 494 496 498 49A 49C 49E 4A0 4A2 4A4 4A6 4A8 4AA 4AC
  4AE 4B0 4B2 4B4 4B6 4B8 4BA 4BC 4BE 4C0-4C1 4C3 4C5 4C7 4C9 4CB 4CD 4D0 4D2 4D4 4D6 4D8 4DA
  4DC 4DE 4E0 4E2 4E4 4E6 4E8 4EA 4EC 4EE 4F0 4F2 4F4 4F6 4F8 4FA 4FC 4FE 500 502 504 506 508
  50A 50C 50E 510 512 514 516 518 51A 51C 51E 520 522 524 526 528 52A 52C 52E 531-556 587
  675-678 958-95F 9DC-9DD 9DF A33 A36 A59-A5B A5E B5C-B5D E33 EB3 EDC-EDD F0C F43 F4D F52 F57
  F5C F69 F73 F75-F79 F81 F93 F9D FA2 FA7 FAC FB9 10A0-10C5 10C7 10CD 10FC 13F8-13FD 1C80-1C89
  1C90-1CBA 1CBD-1CBF 1D2C-1D2E 1D30-1D3A 1D3C-1D4D 1D4F-1D6A 1D78 1D9B-1DBF 1E00 1E02 1E04 1E06
  1E08 1E0A 1E0C 1E0E 1E10 1E12 1E14 1E16 1E18 1E1A 1E1C 1E1E 1E20 1E22 1E24 1E26 1E28 1E2A 1E2C
  1E2E 1E30 1E32 1E34 1E36 1E38 1E3A 1E3C 1E3E 1E40 1E42 1E44 1E46 1E48 1E4A 1E4C 1E4E 1E50 1E52
  1E54 1E56 1E58 1E5A 1E5C 1E5E 1E60 1E62 1E64 1E66 1E68 1E6A 1E6C 1E6E 1E70 1E72 1E74 1E76 1E78
  1E7A 1E7C 1E7E 1E80 1E82 1E84 1E86 1E88 1E8A 1E8C 1E8E 1E90 1E92 1E94 1E9A-1E9B 1E9E 1EA0 1EA2
  1EA4 1EA6 1EA8 1EAA 1EAC 1EAE 1EB0 1EB2 1EB4 1EB6 1EB8 1EBA 1EBC 1EBE 1EC0 1EC2 1EC4 1EC6 1EC8
  1ECA 1ECC 1ECE 1ED0 1ED2 1ED4 1ED6 1ED8 1EDA 1EDC 1EDE 1EE0 1EE2 1EE4 1EE6 1EE8 1EEA 1EEC 1EEE
  1EF0 1EF2 1EF4 1EF6 1EF8 1EFA 1EFC 1EFE 1F08-1F0F 1F18-1F1D 1F28-1F2F 1F38-1F3F 1F48-1F4D 1F59
  1F5B 1F5D 1F5F 1F68-1F6F 1F71 1F73 1F75 1F77 1F79 1F7B 1F7D 1F80-1FAF 1FB2-1FB4 1FB7-1FC4
  1FC7-1FCF 1FD3 1FD8-1FDB 1FDD-1FDF 1FE3 1FE8-1FEF 1FF2-1FF4 1FF7-1FFE 2000-200A 2011 2017 202F
  2033-2034 2036-2037 203C 203E 2047-2049 2057 205F 2070-2071 2074-208E 2090-209C 20A8 2100-2103
  2105-2107 2109-2113 2115-2116 2119-211D 2120-2122 2124 2126 2128 212A-212D 212F-2139 213B-2140
  2145-2149 2150-217F 2183 2189 222C-222D 222F-2230 2329-232A 2460-2487 249C-24EA 2A0C 2A74-2A76
  2ADC 2C00-2C2F 2C60 2C62-2C64 2C67 2C69 2C6B 2C6D-2C70 2C72 2C75 2C7C-2C80 2C82 2C84 2C86 2C88
  2C8A 2C8C 2C8E 2C90 2C92 2C94 2C96 2C98 2C9A 2C9C 2C9E 2CA0 2CA2 2CA4 2CA6 2CA8 2CAA 2CAC 2CAE
  2CB0 2CB2 2CB4 2CB6 2CB8 2CBA 2CBC 2CBE 2CC0 2CC2 2CC4 2CC6 2CC8 2CCA 2CCC 2CCE 2CD0 2CD2 2CD4
  2CD6 2CD8 2CDA 2CDC 2CDE 2CE0 2CE2 2CEB 2CED 2CF2 2D6F 2E9F 2EF3 2F00-2FD5 3000 3002 3036
  3038-303A 309B-309C 309F 30FF 3131-3163 3165-318E 3192-319F 3200-321E 3220-3247 3250-327E
  3280-33C1 33C3-33C6 33C8-33D7 33D9-33FF A640 A642 A644 A646 A648 A64A A64C A64E A650 A652 A654
  A656 A658 A65A A65C A65E A660 A662 A664 A666 A668 A66A A66C A680 A682 A684 A686 A688 A68A A68C
  A68E A690 A692 A694 A696 A698 A69A A69C-A69D A722 A724 A726 A728 A72A A72C A72E A732 A734 A736
  A738 A73A A73C A73E A740 A742 A744 A746 A748 A74A A74C A74E A750 A752 A754 A756 A758 A75A A75C
  A75E A760 A762 A764 A766 A768 A76A A76C A76E A770 A779 A77B A77D-A77E A780 A782 A784 A786 A78B
  A78D A790 A792 A796 A798 A79A A79C A79E A7A0 A7A2 A7A4 A7A6 A7A8 A7AA-A7AE A7B0-A7B4 A7B6 A7B8
  A7BA A7BC A7BE A7C0 A7C2 A7C4-A7C7 A7C9 A7CB-A7CC A7CE A7D0 A7D2 A7D4 A7D6 A7D8 A7DA A7DC
  A7F1-A7F5 A7F8-A7F9 AB5C-AB5F AB69 AB70-ABBF F900-FA0D FA10 FA12 FA15-FA1E FA20 FA22 FA25-FA26
  FA2A-FA6D FA70-FAD9 FB00-FB06 FB13-FB17 FB1D FB1F-FB36 FB38-FB3C FB3E FB40-FB41 FB43-FB44
  FB46-FBB1 FBD3-FD3D FD50-FD8F FD92-FDC7 FDF0-FDFC FE10-FE11 FE13-FE18 FE31-FE44 FE47-FE51
  FE54-FE66 FE68-FE6B FE70-FE72 FE74 FE76-FEFC FF01-FF9F FFA1-FFBE FFC2-FFC7 FFCA-FFCF FFD2-FFD7
  FFDA-FFDC FFE0-FFE6 FFE8-FFEE 10400-10427 104B0-104D3 10570-1057A 1057C-1058A 1058C-10592
  10594-10595 10781-10785 10787-107B0 107B2-107BA 10C80-10CB2 10D50-10D65 118A0-118BF
  16E40-16E5F 16EA0-16EB8 1CCD6-1CCF9 1D15E-1D164 1D1BB-1D1C0 1D400-1D454 1D456-1D49C
  1D49E-1D49F 1D4A2 1D4A5-1D4A6 1D4A9-1D4AC 1D4AE-1D4B9 1D4BB 1D4BD-1D4C3 1D4C5-1D505
  1D507-1D50A 1D50D-1D514 1D516-1D51C 1D51E-1D539 1D53B-1D53E 1D540-1D544 1D546 1D54A-1D550
  1D552-1D6A5 1D6A8-1D7CB 1D7CE-1D7FF 1E030-1E06D 1E900-1E921 1EE00-1EE03 1EE05-1EE1F
  1EE21-1EE22 1EE24 1EE27 1EE29-1EE32 1EE34-1EE37 1EE39 1EE3B 1EE42 1EE47 1EE49 1EE4B
  1EE4D-1EE4F 1EE51-1EE52 1EE54 1EE57 1EE59 1EE5B 1EE5D 1EE5F 1EE61-1EE62 1EE64 1EE67-1EE6A
  1EE6C-1EE72 1EE74-1EE77 1EE79-1EE7C 1EE7E 1EE80-1EE89 1EE8B-1EE9B 1EEA1-1EEA3 1EEA5-1EEA9
  1EEAB-1EEBB 1F101-1F10A 1F110-1F12E 1F130-1F14F 1F16A-1F16C 1F190 1F200-1F202 1F210-1F23B
  1F240-1F248 1F250-1F251 1FBF0-1FBF9 2F800-2FA1D"

def asciiMapping : MappingTable := .ofWritten "
  A0=20 A8=20+308 AA=61 AF=20+304 B2-B3=32 B4=20+301 B8=20+327 B9=31 BA=6F BC=31+2044+34
  BD=31+2044+32 BE=33+2044+34 130=69+307 132=69+6A 133=69+6A 13F=6C+B7 140=6C+B7 149=2BC+6E
  17F=73 1C4=64+17E 1C5=64+17E 1C6=64+17E 1C7=6C+6A 1C8=6C+6A 1C9=6C+6A 1CA=6E+6A 1CB=6E+6A
  1CC=6E+6A 1F1=64+7A 1F2=64+7A 1F3=64+7A 2B0=68 2B2=6A 2B3=72 2B7=77 2B8=79 2D8=20+306
  2D9=20+307 2DA=20+30A 2DB=20+328 2DC=20+303 2DD=20+30B 2E1=6C 2E2=73 2E3=78 37A=20+3B9 37E=3B
  384=20+301 385=20+308+301 1D2C=61 1D2E=62 1D30-1D31=64 1D33-1D3A=67 1D3C=6F 1D3E=70 1D3F=72
  1D40-1D41=74 1D42=77 1D43=61 1D47=62 1D48-1D49=64 1D4D=67 1D4F=6B 1D50=6D 1D52=6F 1D56=70
  1D57-1D58=74 1D5B=76 1D62=69 1D63=72 1D64-1D65=75 1D9C=63 1DA0=66 1DBB=7A 1E9A=61+2BE
  1FBD=20+313 1FBF=20+313 1FC0=20+342 1FC1=20+308+342 1FCD=20+313+300 1FCE=20+313+301
  1FCF=20+313+342 1FDD=20+314+300 1FDE=20+314+301 1FDF=20+314+342 1FED=20+308+300
  1FEE=20+308+301 1FEF=60 1FFD=20+301 1FFE=20+314 2000=20 2001=20 2002=20 2003=20 2004=20
  2005=20 2006=20 2007=20 2008=20 2009=20 200A=20 2017=20+333 202F=20 203C=21+21 203E=20+305
  2047=3F+3F 2048=3F+21 2049=21+3F 205F=20 2070=30 2071=69 2074-2079=34 207A=2B 207C=3D
  207D-207E=28 207F=6E 2080-2089=30 208A=2B 208C=3D 208D-208E=28 2090=61 2091=65 2092=6F 2093=78
  2095=68 2096-2099=6B 209A=70 209B-209C=73 20A8=72+73 2100=61+2F+63 2101=61+2F+73 2102=63
  2103=B0+63 2105=63+2F+6F 2106=63+2F+75 2109=B0+66 210A-210B=67 210C=68 210D=68 210E=68 2110=69
  2111=69 2112=6C 2113=6C 2115=6E 2116=6E+6F 2119-211B=70 211C=72 211D=72 2120=73+6D
  2121=74+65+6C 2122=74+6D 2124=7A 2128=7A 212A=6B 212C-212D=62 212F=65 2130-2131=65 2133=6D
  2134=6F 2139=69 213B=66+61+78 2145=64 2146-2147=64 2148-2149=69 2150=31+2044+37
  2151=31+2044+39 2152=31+2044+31+30 2153=31+2044+33 2154=32+2044+33 2155=31+2044+35
  2156=32+2044+35 2157=33+2044+35 2158=34+2044+35 2159=31+2044+36 215A=35+2044+36
  215B=31+2044+38 215C=33+2044+38 215D=35+2044+38 215E=37+2044+38 215F=31+2044 2160=69
  2161=69+69 2162=69+69+69 2163=69+76 2164=76 2165=76+69 2166=76+69+69 2167=76+69+69+69
  2168=69+78 2169=78 216A=78+69 216B=78+69+69 216C=6C 216D-216E=63 216F=6D 2170=69 2171=69+69
  2172=69+69+69 2173=69+76 2174=76 2175=76+69 2176=76+69+69 2177=76+69+69+69 2178=69+78 2179=78
  217A=78+69 217B=78+69+69 217C=6C 217D-217E=63 217F=6D 2189=30+2044+33 2460-2468=31 2469=31+30
  246A=31+31 246B=31+32 246C=31+33 246D=31+34 246E=31+35 246F=31+36 2470=31+37 2471=31+38
  2472=31+39 2473=32+30 2474=28+31+29 2475=28+32+29 2476=28+33+29 2477=28+34+29 2478=28+35+29
  2479=28+36+29 247A=28+37+29 247B=28+38+29 247C=28+39+29 247D=28+31+30+29 247E=28+31+31+29
  247F=28+31+32+29 2480=28+31+33+29 2481=28+31+34+29 2482=28+31+35+29 2483=28+31+36+29
  2484=28+31+37+29 2485=28+31+38+29 2486=28+31+39+29 2487=28+32+30+29 249C=28+61+29
  249D=28+62+29 249E=28+63+29 249F=28+64+29 24A0=28+65+29 24A1=28+66+29 24A2=28+67+29
  24A3=28+68+29 24A4=28+69+29 24A5=28+6A+29 24A6=28+6B+29 24A7=28+6C+29 24A8=28+6D+29
  24A9=28+6E+29 24AA=28+6F+29 24AB=28+70+29 24AC=28+71+29 24AD=28+72+29 24AE=28+73+29
  24AF=28+74+29 24B0=28+75+29 24B1=28+76+29 24B2=28+77+29 24B3=28+78+29 24B4=28+79+29
  24B5=28+7A+29 24B6-24CF=61 24D0-24E9=61 24EA=30 2A74=3A+3A+3D 2A75=3D+3D 2A76=3D+3D+3D 2C7C=6A
  2C7D=76 3000=20 3002=2E 309B=20+3099 309C=20+309A 3200=28+1100+29 3201=28+1102+29
  3202=28+1103+29 3203=28+1105+29 3204=28+1106+29 3205=28+1107+29 3206=28+1109+29
  3207=28+110B+29 3208=28+110C+29 3209=28+110E+29 320A=28+110F+29 320B=28+1110+29
  320C=28+1111+29 320D=28+1112+29 320E=28+AC00+29 320F=28+B098+29 3210=28+B2E4+29
  3211=28+B77C+29 3212=28+B9C8+29 3213=28+BC14+29 3214=28+C0AC+29 3215=28+C544+29
  3216=28+C790+29 3217=28+CC28+29 3218=28+CE74+29 3219=28+D0C0+29 321A=28+D30C+29
  321B=28+D558+29 321C=28+C8FC+29 321D=28+C624+C804+29 321E=28+C624+D6C4+29 3220=28+4E00+29
  3221=28+4E8C+29 3222=28+4E09+29 3223=28+56DB+29 3224=28+4E94+29 3225=28+516D+29
  3226=28+4E03+29 3227=28+516B+29 3228=28+4E5D+29 3229=28+5341+29 322A=28+6708+29
  322B=28+706B+29 322C=28+6C34+29 322D=28+6728+29 322E=28+91D1+29 322F=28+571F+29
  3230=28+65E5+29 3231=28+682A+29 3232=28+6709+29 3233=28+793E+29 3234=28+540D+29
  3235=28+7279+29 3236=28+8CA1+29 3237=28+795D+29 3238=28+52B4+29 3239=28+4EE3+29
  323A=28+547C+29 323B=28+5B66+29 323C=28+76E3+29 323D=28+4F01+29 323E=28+8CC7+29
  323F=28+5354+29 3240=28+796D+29 3241=28+4F11+29 3242=28+81EA+29 3243=28+81F3+29 3250=70+74+65
  3251=32+31 3252=32+32 3253=32+33 3254=32+34 3255=32+35 3256=32+36 3257=32+37 3258=32+38
  3259=32+39 325A=33+30 325B=33+31 325C=33+32 325D=33+33 325E=33+34 325F=33+35 32B1=33+36
  32B2=33+37 32B3=33+38 32B4=33+39 32B5=34+30 32B6=34+31 32B7=34+32 32B8=34+33 32B9=34+34
  32BA=34+35 32BB=34+36 32BC=34+37 32BD=34+38 32BE=34+39 32BF=35+30 32C0=31+6708 32C1=32+6708
  32C2=33+6708 32C3=34+6708 32C4=35+6708 32C5=36+6708 32C6=37+6708 32C7=38+6708 32C8=39+6708
  32C9=31+30+6708 32CA=31+31+6708 32CB=31+32+6708 32CC=68+67 32CD=65+72+67 32CE=65+76
  32CF=6C+74+64 3358=30+70B9 3359=31+70B9 335A=32+70B9 335B=33+70B9 335C=34+70B9 335D=35+70B9
  335E=36+70B9 335F=37+70B9 3360=38+70B9 3361=39+70B9 3362=31+30+70B9 3363=31+31+70B9
  3364=31+32+70B9 3365=31+33+70B9 3366=31+34+70B9 3367=31+35+70B9 3368=31+36+70B9
  3369=31+37+70B9 336A=31+38+70B9 336B=31+39+70B9 336C=32+30+70B9 336D=32+31+70B9
  336E=32+32+70B9 336F=32+33+70B9 3370=32+34+70B9 3371=68+70+61 3372=64+61 3373=61+75
  3374=62+61+72 3375=6F+76 3376=70+63 3377=64+6D 3378=64+6D+32 3379=64+6D+33 337A=69+75
  3380=70+61 3381=6E+61 3382=3BC+61 3383=6D+61 3384=6B+61 3385=6B+62 3386=6D+62 3387=67+62
  3388=63+61+6C 3389=6B+63+61+6C 338A=70+66 338B=6E+66 338C=3BC+66 338D=3BC+67 338E=6D+67
  338F=6B+67 3390=68+7A 3391=6B+68+7A 3392=6D+68+7A 3393=67+68+7A 3394=74+68+7A 3395=3BC+6C
  3396=6D+6C 3397=64+6C 3398=6B+6C 3399=66+6D 339A=6E+6D 339B=3BC+6D 339C=6D+6D 339D=63+6D
  339E=6B+6D 339F=6D+6D+32 33A0=63+6D+32 33A1=6D+32 33A2=6B+6D+32 33A3=6D+6D+33 33A4=63+6D+33
  33A5=6D+33 33A6=6B+6D+33 33A7=6D+2215+73 33A8=6D+2215+73+32 33A9=70+61 33AA=6B+70+61
  33AB=6D+70+61 33AC=67+70+61 33AD=72+61+64 33AE=72+61+64+2215+73 33AF=72+61+64+2215+73+32
  33B0=70+73 33B1=6E+73 33B2=3BC+73 33B3=6D+73 33B4=70+76 33B5=6E+76 33B6=3BC+76 33B7=6D+76
  33B8=6B+76 33B9=6D+76 33BA=70+77 33BB=6E+77 33BC=3BC+77 33BD=6D+77 33BE=6B+77 33BF=6D+77
  33C0=6B+3C9 33C1=6D+3C9 33C3=62+71 33C4=63+63 33C5=63+64 33C6=63+2215+6B+67 33C8=64+62
  33C9=67+79 33CA=68+61 33CB=68+70 33CC=69+6E 33CD=6B+6B 33CE=6B+6D 33CF=6B+74 33D0=6C+6D
  33D1=6C+6E 33D2=6C+6F+67 33D3=6C+78 33D4=6D+62 33D5=6D+69+6C 33D6=6D+6F+6C 33D7=70+68
  33D9=70+70+6D 33DA=70+72 33DB=73+72 33DC=73+76 33DD=77+62 33DE=76+2215+6D 33DF=61+2215+6D
  33E0=31+65E5 33E1=32+65E5 33E2=33+65E5 33E3=34+65E5 33E4=35+65E5 33E5=36+65E5 33E6=37+65E5
  33E7=38+65E5 33E8=39+65E5 33E9=31+30+65E5 33EA=31+31+65E5 33EB=31+32+65E5 33EC=31+33+65E5
  33ED=31+34+65E5 33EE=31+35+65E5 33EF=31+36+65E5 33F0=31+37+65E5 33F1=31+38+65E5
  33F2=31+39+65E5 33F3=32+30+65E5 33F4=32+31+65E5 33F5=32+32+65E5 33F6=32+33+65E5
  33F7=32+34+65E5 33F8=32+35+65E5 33F9=32+36+65E5 33FA=32+37+65E5 33FB=32+38+65E5
  33FC=32+39+65E5 33FD=33+30+65E5 33FE=33+31+65E5 33FF=67+61+6C A7F1=73 A7F2=63 A7F3=66 A7F4=71
  FB00=66+66 FB01=66+69 FB02=66+6C FB03=66+66+69 FB04=66+66+6C FB05=73+74 FB06=73+74 FB29=2B
  FC5E=20+64C+651 FC5F=20+64D+651 FC60=20+64E+651 FC61=20+64F+651 FC62=20+650+651
  FC63=20+651+670 FDFA=635+644+649+20+627+644+644+647+20+639+644+64A+647+20+648+633+644+645
  FDFB=62C+644+20+62C+644+627+644+647 FE10=2C FE13-FE14=3A FE15=21 FE16=3F FE33=5F FE34=5F
  FE35-FE36=28 FE37=7B FE38=7D FE47=5B FE48=5D FE49=20+305 FE4A=20+305 FE4B=20+305 FE4C=20+305
  FE4D=5F FE4E=5F FE4F=5F FE50=2C FE54=3B FE55=3A FE56=3F FE57=21 FE59-FE5A=28 FE5B=7B FE5C=7D
  FE5F=23 FE60=26 FE61-FE62=2A FE63=2D FE64=3C FE65=3E FE66=3D FE68=5C FE69-FE6A=24 FE6B=40
  FE70=20+64B FE72=20+64C FE74=20+64D FE76=20+64E FE78=20+64F FE7A=20+650 FE7C=20+651
  FE7E=20+652 FF01-FF20=21 FF21-FF3A=61 FF3B-FF5E=5B FF61=2E FFE3=20+304 107A5=71 1CCD6-1CCEF=61
  1CCF0-1CCF9=30 1D400-1D419=61 1D41A-1D433=61 1D434-1D44D=61 1D44E-1D454=61 1D456-1D467=69
  1D468-1D481=61 1D482-1D49B=61 1D49C=61 1D49E-1D49F=63 1D4A2=67 1D4A5-1D4A6=6A 1D4A9-1D4AC=6E
  1D4AE-1D4B5=73 1D4B6-1D4B9=61 1D4BB=66 1D4BD-1D4C3=68 1D4C5-1D4CF=70 1D4D0-1D4E9=61
  1D4EA-1D503=61 1D504-1D505=61 1D507-1D50A=64 1D50D-1D514=6A 1D516-1D51C=73 1D51E-1D537=61
  1D538-1D539=61 1D53B-1D53E=64 1D540-1D544=69 1D546=6F 1D54A-1D550=73 1D552-1D56B=61
  1D56C-1D585=61 1D586-1D59F=61 1D5A0-1D5B9=61 1D5BA-1D5D3=61 1D5D4-1D5ED=61 1D5EE-1D607=61
  1D608-1D621=61 1D622-1D63B=61 1D63C-1D655=61 1D656-1D66F=61 1D670-1D689=61 1D68A-1D6A3=61
  1D7CE-1D7D7=30 1D7D8-1D7E1=30 1D7E2-1D7EB=30 1D7EC-1D7F5=30 1D7F6-1D7FF=30 1F101=30+2C
  1F102=31+2C 1F103=32+2C 1F104=33+2C 1F105=34+2C 1F106=35+2C 1F107=36+2C 1F108=37+2C
  1F109=38+2C 1F10A=39+2C 1F110=28+61+29 1F111=28+62+29 1F112=28+63+29 1F113=28+64+29
  1F114=28+65+29 1F115=28+66+29 1F116=28+67+29 1F117=28+68+29 1F118=28+69+29 1F119=28+6A+29
  1F11A=28+6B+29 1F11B=28+6C+29 1F11C=28+6D+29 1F11D=28+6E+29 1F11E=28+6F+29 1F11F=28+70+29
  1F120=28+71+29 1F121=28+72+29 1F122=28+73+29 1F123=28+74+29 1F124=28+75+29 1F125=28+76+29
  1F126=28+77+29 1F127=28+78+29 1F128=28+79+29 1F129=28+7A+29 1F12A=3014+73+3015 1F12B=63
  1F12C=72 1F12D=63+64 1F12E=77+7A 1F130-1F149=61 1F14A=68+76 1F14B=6D+76 1F14C=73+64
  1F14D=73+73 1F14E=70+70+76 1F14F=77+63 1F16A=6D+63 1F16B=6D+64 1F16C=6D+72 1F190=64+6A
  1FBF0-1FBF9=30"

def mark : RangeTable := .ofWritten "
  300-36F 483-489 591-5BD 5BF 5C1-5C2 5C4-5C5 5C7 610-61A 64B-65F 670 6D6-6DC 6DF-6E4 6E7-6E8
  6EA-6ED 711 730-74A 7A6-7B0 7EB-7F3 7FD 816-819 81B-823 825-827 829-82D 859-85B 898-89F
  8CA-8E1 8E3-903 93A-93C 93E-94F 951-957 962-963 981-983 9BC 9BE-9C4 9C7-9C8 9CB-9CD 9D7
  9E2-9E3 9FE A01-A03 A3C A3E-A42 A47-A48 A4B-A4D A51 A70-A71 A75 A81-A83 ABC ABE-AC5 AC7-AC9
  ACB-ACD AE2-AE3 AFA-AFF B01-B03 B3C B3E-B44 B47-B48 B4B-B4D B55-B57 B62-B63 B82 BBE-BC2
  BC6-BC8 BCA-BCD BD7 C00-C04 C3C C3E-C44 C46-C48 C4A-C4D C55-C56 C62-C63 C81-C83 CBC CBE-CC4
  CC6-CC8 CCA-CCD CD5-CD6 CE2-CE3 CF3 D00-D03 D3B-D3C D3E-D44 D46-D48 D4A-D4D D57 D62-D63
  D81-D83 DCA DCF-DD4 DD6 DD8-DDF DF2-DF3 E31 E34-E3A E47-E4E EB1 EB4-EBC EC8-ECE F18-F19 F35
  F37 F39 F3E-F3F F71-F84 F86-F87 F8D-F97 F99-FBC FC6 102B-103E 1056-1059 105E-1060 1062-1064
  1067-106D 1071-1074 1082-108D 108F 109A-109D 135D-135F 1712-1715 1732-1734 1752-1753 1772-1773
  17B4-17D3 17DD 180B-180D 180F 1885-1886 18A9 1920-192B 1930-193B 1A17-1A1B 1A55-1A5E 1A60-1A7C
  1A7F 1AB0-1ACE 1B00-1B04 1B34-1B44 1B6B-1B73 1B80-1B82 1BA1-1BAD 1BE6-1BF3 1C24-1C37 1CD0-1CD2
  1CD4-1CE8 1CED 1CF4 1CF7-1CF9 1DC0-1DFF 20D0-20F0 2CEF-2CF1 2D7F 2DE0-2DFF 302A-302F 3099-309A
  A66F-A672 A674-A67D A69E-A69F A6F0-A6F1 A802 A806 A80B A823-A827 A82C A880-A881 A8B4-A8C5
  A8E0-A8F1 A8FF A926-A92D A947-A953 A980-A983 A9B3-A9C0 A9E5 AA29-AA36 AA43 AA4C-AA4D AA7B-AA7D
  AAB0 AAB2-AAB4 AAB7-AAB8 AABE-AABF AAC1 AAEB-AAEF AAF5-AAF6 ABE3-ABEA ABEC-ABED FB1E FE00-FE0F
  FE20-FE2F 101FD 102E0 10376-1037A 10A01-10A03 10A05-10A06 10A0C-10A0F 10A38-10A3A 10A3F
  10AE5-10AE6 10D24-10D27 10EAB-10EAC 10EFD-10EFF 10F46-10F50 10F82-10F85 11000-11002
  11038-11046 11070 11073-11074 1107F-11082 110B0-110BA 110C2 11100-11102 11127-11134
  11145-11146 11173 11180-11182 111B3-111C0 111C9-111CC 111CE-111CF 1122C-11237 1123E 11241
  112DF-112EA 11300-11303 1133B-1133C 1133E-11344 11347-11348 1134B-1134D 11357 11362-11363
  11366-1136C 11370-11374 11435-11446 1145E 114B0-114C3 115AF-115B5 115B8-115C0 115DC-115DD
  11630-11640 116AB-116B7 1171D-1172B 1182C-1183A 11930-11935 11937-11938 1193B-1193E 11940
  11942-11943 119D1-119D7 119DA-119E0 119E4 11A01-11A0A 11A33-11A39 11A3B-11A3E 11A47
  11A51-11A5B 11A8A-11A99 11C2F-11C36 11C38-11C3F 11C92-11CA7 11CA9-11CB6 11D31-11D36 11D3A
  11D3C-11D3D 11D3F-11D45 11D47 11D8A-11D8E 11D90-11D91 11D93-11D97 11EF3-11EF6 11F00-11F01
  11F03 11F34-11F3A 11F3E-11F42 13440 13447-13455 16AF0-16AF4 16B30-16B36 16F4F 16F51-16F87
  16F8F-16F92 16FE4 16FF0-16FF1 1BC9D-1BC9E 1CF00-1CF2D 1CF30-1CF46 1D165-1D169 1D16D-1D172
  1D17B-1D182 1D185-1D18B 1D1AA-1D1AD 1D242-1D244 1DA00-1DA36 1DA3B-1DA6C 1DA75 1DA84
  1DA9B-1DA9F 1DAA1-1DAAF 1E000-1E006 1E008-1E018 1E01B-1E021 1E023-1E024 1E026-1E02A 1E08F
  1E130-1E136 1E2AE 1E2EC-1E2EF 1E4EC-1E4EF 1E8D0-1E8D6 1E944-1E94A E0100-E01EF"

def bidiLeft : RangeTable := .ofWritten "
  41-5A 61-7A AA B5 BA C0-D6 D8-F6 F8-2B8 2BB-2C1 2D0-2D1 2E0-2E4 2EE 370-373 376-37D 37F-383
  386 388-3F5 3F7-482 48A-589 58B-58C 903-939 93B 93D-940 949-94C 94E-950 958-961 964-980
  982-9BB 9BD-9C0 9C5-9CC 9CE-9E1 9E4-9F1 9F4-9FA 9FC-9FD 9FF-A00 A03-A3B A3D-A40 A43-A46
  A49-A4A A4E-A50 A52-A6F A72-A74 A76-A80 A83-ABB ABD-AC0 AC6 AC9-ACC ACE-AE1 AE4-AF0 AF2-AF9
  B00 B02-B3B B3D-B3E B40 B45-B4C B4E-B54 B57-B61 B64-B81 B83-BBF BC1-BCC BCE-BF2 BFB-BFF
  C01-C03 C05-C3B C3D C41-C45 C49 C4E-C54 C57-C61 C64-C77 C7F-C80 C82-CBB CBD-CCB CCE-CE1
  CE4-CFF D02-D3A D3D-D40 D45-D4C D4E-D61 D64-D80 D82-DC9 DCB-DD1 DD5 DD7-E30 E32-E33 E3B-E3E
  E40-E46 E4F-EB0 EB2-EB3 EBD-EC7 ECF-F17 F1A-F34 F36 F38 F3E-F70 F7F F85 F88-F8C F98 FBD-FC5
  FC7-102C 1031 1038 103B-103C 103F-1057 105A-105D 1061-1070 1075-1081 1083-1084 1087-108C
  108E-109C 109E-135C 1360-138F 139A-13FF 1401-167F 1681-169A 169D-1711 1715-1731 1734-1751
  1754-1771 1774-17B3 17B6 17BE-17C5 17C7-17C8 17D4-17DA 17DC 17DE-17EF 17FA-17FF 1810-1884
  1887-18A8 18AA-191F 1923-1926 1929-1931 1933-1938 193C-193F 1941-1943 1946-19DD 1A00-1A16
  1A19-1A1A 1A1C-1A55 1A57 1A5F 1A61 1A63-1A64 1A6D-1A72 1A7D-1A7E 1A80-1AAF 1ACF-1AFF 1B04-1B33
  1B35 1B3B 1B3D-1B41 1B43-1B6A 1B74-1B7F 1B82-1BA1 1BA6-1BA7 1BAA 1BAE-1BE5 1BE7 1BEA-1BEC 1BEE
  1BF2-1C2B 1C34-1C35 1C38-1CCF 1CD3 1CE1 1CE9-1CEC 1CEE-1CF3 1CF5-1CF7 1CFA-1DBF 1E00-1FBC 1FBE
  1FC2-1FCC 1FD0-1FDC 1FE0-1FEC 1FF0-1FFC 1FFF 200E 2071-2073 207F 208F-209F 20F1-20FF 2102 2107
  210A-2113 2115 2119-211D 2124 2126 2128 212A-212D 212F-2139 213C-213F 2145-2149 214E-214F
  2160-2188 218C-218F 2336-237A 2395 2427-243F 244B-245F 249C-24E9 26AC 2800-28FF 2B74-2B75 2B96
  2C00-2CE4 2CEB-2CEE 2CF2-2CF8 2D00-2D7E 2D80-2DDF 2E5E-2E7F 2E9A 2EF4-2EFF 2FD6-2FEF 2FFC-2FFF
  3005-3007 3021-3029 302E-302F 3031-3035 3038-303C 3040-3098 309D-309F 30A1-30FA 30FC-31BF
  31E4-321C 321F-324F 3260-327B 327F-32B0 32C0-32CB 32D0-3376 337B-33DD 33E0-33FE 3400-4DBF
  4E00-A48F A4C7-A60C A610-A66E A680-A69D A6A0-A6EF A6F2-A6FF A722-A787 A789-A801 A803-A805
  A807-A80A A80C-A824 A827 A82D-A837 A83A-A873 A878-A8C3 A8C6-A8DF A8F2-A8FE A900-A925 A92E-A946
  A952-A97F A983-A9B2 A9B4-A9B5 A9BA-A9BB A9BE-A9E4 A9E6-AA28 AA2F-AA30 AA33-AA34 AA37-AA42
  AA44-AA4B AA4D-AA7B AA7D-AAAF AAB1 AAB5-AAB6 AAB9-AABD AAC0 AAC2-AAEB AAEE-AAF5 AAF7-AB69
  AB6C-ABE4 ABE6-ABE7 ABE9-ABEC ABEE-D7FF E000-FB1C FE1A-FE1F FE53 FE67 FE6C-FE6F FF00 FF21-FF3A
  FF41-FF5A FF66-FFDF FFE7 FFEF 10000-10100 10102-1013F 1018D-1018F 1019D-1019F 101A1-101FC
  101FE-102DF 102FC-10375 1037B-107FF 11000 11002-11037 11047-11051 11066-1106F 11071-11072
  11075-1107E 11082-110B2 110B7-110B8 110BB-110C1 110C3-110FF 11103-11126 1112C 11135-11172
  11174-1117F 11182-111B5 111BF-111C8 111CD-111CE 111D0-1122E 11232-11233 11235 11238-1123D
  1123F-11240 11242-112DE 112E0-112E2 112EB-112FF 11302-1133A 1133D-1133F 11341-11365
  1136D-1136F 11375-11437 11440-11441 11445 11447-1145D 1145F-114B2 114B9 114BB-114BE 114C1
  114C4-115B1 115B6-115BB 115BE 115C1-115DB 115DE-11632 1163B-1163C 1163E 11641-1165F
  1166D-116AA 116AC 116AE-116AF 116B6 116B8-1171C 11720-11721 11726 1172C-1182E 11838
  1183B-1193A 1193D 1193F-11942 11944-119D3 119D8-119D9 119DC-119DF 119E1-11A00 11A07-11A08
  11A0B-11A32 11A39-11A3A 11A3F-11A46 11A48-11A50 11A57-11A58 11A5C-11A89 11A97 11A9A-11C2F
  11C37 11C3E-11C91 11CA8-11CA9 11CB1 11CB4 11CB7-11D30 11D37-11D39 11D3B 11D3E 11D46
  11D48-11D8F 11D92-11D94 11D96 11D98-11EF2 11EF5-11EFF 11F02-11F35 11F3B-11F3F 11F41
  11F43-11FD4 11FF2-1343F 13441-13446 13456-16AEF 16AF5-16B2F 16B37-16F4E 16F50-16F8E
  16F93-16FE1 16FE3 16FE5-1BC9C 1BC9F 1BCA4-1CEFF 1CF2E-1CF2F 1CF47-1D166 1D16A-1D172
  1D183-1D184 1D18C-1D1A9 1D1AE-1D1E8 1D1EB-1D1FF 1D246-1D2FF 1D357-1D6DA 1D6DC-1D714
  1D716-1D74E 1D750-1D788 1D78A-1D7C2 1D7C4-1D7CD 1D800-1D9FF 1DA37-1DA3A 1DA6D-1DA74
  1DA76-1DA83 1DA85-1DA9A 1DAA0 1DAB0-1DFFF 1E007 1E019-1E01A 1E022 1E025 1E02B-1E08E
  1E090-1E12F 1E137-1E2AD 1E2AF-1E2EB 1E2F0-1E2FE 1E300-1E4EB 1E4F0-1E7FF 1F02C-1F02F
  1F094-1F09F 1F0AF-1F0B0 1F0C0 1F0D0 1F0F6-1F0FF 1F110-1F12E 1F130-1F169 1F170-1F1AC
  1F1AE-1F25F 1F266-1F2FF 1F6D8-1F6DB 1F6ED-1F6EF 1F6FD-1F6FF 1F777-1F77A 1F7DA-1F7DF
  1F7EC-1F7EF 1F7F1-1F7FF 1F80C-1F80F 1F848-1F84F 1F85A-1F85F 1F888-1F88F 1F8AE-1F8AF
  1F8B2-1F8FF 1FA54-1FA5F 1FA6E-1FA6F 1FA7D-1FA7F 1FA89-1FA8F 1FABE 1FAC6-1FACD 1FADC-1FADF
  1FAE9-1FAEF 1FAF9-1FAFF 1FB93 1FBCB-1FBEF 1FBFA-1FFFD 20000-2FFFD 30000-3FFFD 40000-4FFFD
  50000-5FFFD 60000-6FFFD 70000-7FFFD 80000-8FFFD 90000-9FFFD A0000-AFFFD B0000-BFFFD
  C0000-CFFFD D0000-DFFFD E1000-EFFFD F0000-FFFFD 100000-10FFFD"

def bidiRight : RangeTable := .ofWritten "
  590 5BE 5C0 5C3 5C6 5C8-5FF 7C0-7EA 7F4-7F5 7FA-7FC 7FE-815 81A 824 828 82E-858 85C-85F 200F
  FB1D FB1F-FB28 FB2A-FB4F 10800-1091E 10920-10A00 10A04 10A07-10A0B 10A10-10A37 10A3B-10A3E
  10A40-10AE4 10AE7-10B38 10B40-10CFF 10D40-10E5F 10E7F-10EAA 10EAD-10EBF 10F00-10F2F
  10F70-10F81 10F86-10FFF 1E800-1E8CF 1E8D7-1E943 1E94B-1EC6F 1ECC0-1ECFF 1ED50-1EDFF
  1EF00-1EFFF"

def bidiArabic : RangeTable := .ofWritten "
  608 60B 60D 61B-64A 66D-66F 671-6D5 6E5-6E6 6EE-6EF 6FA-710 712-72F 74B-7A5 7B1-7BF 860-88F
  892-897 8A0-8C9 FB50-FD3D FD50-FDCE FDF0-FDFC FE70-FEFE 10D00-10D23 10D28-10D2F 10D3A-10D3F
  10EC0-10EFC 10F30-10F45 10F51-10F6F 1EC70-1ECBF 1ED00-1ED4F 1EE00-1EEEF 1EEF2-1EEFF"

def bidiEuropeanNumber : RangeTable := .ofWritten "
  30-39 B2-B3 B9 6F0-6F9 2070 2074-2079 2080-2089 2488-249B FF10-FF19 102E1-102FB 1D7CE-1D7FF
  1F100-1F10A 1FBF0-1FBF9"

def bidiArabicNumber : RangeTable := .ofWritten "
  600-605 660-669 66B-66C 6DD 890-891 8E2 10D30-10D39 10E60-10E7E"

def bidiNonspacing : RangeTable := .ofWritten "
  300-36F 483-489 591-5BD 5BF 5C1-5C2 5C4-5C5 5C7 610-61A 64B-65F 670 6D6-6DC 6DF-6E4 6E7-6E8
  6EA-6ED 711 730-74A 7A6-7B0 7EB-7F3 7FD 816-819 81B-823 825-827 829-82D 859-85B 898-89F
  8CA-8E1 8E3-902 93A 93C 941-948 94D 951-957 962-963 981 9BC 9C1-9C4 9CD 9E2-9E3 9FE A01-A02
  A3C A41-A42 A47-A48 A4B-A4D A51 A70-A71 A75 A81-A82 ABC AC1-AC5 AC7-AC8 ACD AE2-AE3 AFA-AFF
  B01 B3C B3F B41-B44 B4D B55-B56 B62-B63 B82 BC0 BCD C00 C04 C3C C3E-C40 C46-C48 C4A-C4D
  C55-C56 C62-C63 C81 CBC CCC-CCD CE2-CE3 D00-D01 D3B-D3C D41-D44 D4D D62-D63 D81 DCA DD2-DD4
  DD6 E31 E34-E3A E47-E4E EB1 EB4-EBC EC8-ECE F18-F19 F35 F37 F39 F71-F7E F80-F84 F86-F87
  F8D-F97 F99-FBC FC6 102D-1030 1032-1037 1039-103A 103D-103E 1058-1059 105E-1060 1071-1074 1082
  1085-1086 108D 109D 135D-135F 1712-1714 1732-1733 1752-1753 1772-1773 17B4-17B5 17B7-17BD 17C6
  17C9-17D3 17DD 180B-180D 180F 1885-1886 18A9 1920-1922 1927-1928 1932 1939-193B 1A17-1A18 1A1B
  1A56 1A58-1A5E 1A60 1A62 1A65-1A6C 1A73-1A7C 1A7F 1AB0-1ACE 1B00-1B03 1B34 1B36-1B3A 1B3C 1B42
  1B6B-1B73 1B80-1B81 1BA2-1BA5 1BA8-1BA9 1BAB-1BAD 1BE6 1BE8-1BE9 1BED 1BEF-1BF1 1C2C-1C33
  1C36-1C37 1CD0-1CD2 1CD4-1CE0 1CE2-1CE8 1CED 1CF4 1CF8-1CF9 1DC0-1DFF 20D0-20F0 2CEF-2CF1 2D7F
  2DE0-2DFF 302A-302D 3099-309A A66F-A672 A674-A67D A69E-A69F A6F0-A6F1 A802 A806 A80B A825-A826
  A82C A8C4-A8C5 A8E0-A8F1 A8FF A926-A92D A947-A951 A980-A982 A9B3 A9B6-A9B9 A9BC-A9BD A9E5
  AA29-AA2E AA31-AA32 AA35-AA36 AA43 AA4C AA7C AAB0 AAB2-AAB4 AAB7-AAB8 AABE-AABF AAC1 AAEC-AAED
  AAF6 ABE5 ABE8 ABED FB1E FE00-FE0F FE20-FE2F 101FD 102E0 10376-1037A 10A01-10A03 10A05-10A06
  10A0C-10A0F 10A38-10A3A 10A3F 10AE5-10AE6 10D24-10D27 10EAB-10EAC 10EFD-10EFF 10F46-10F50
  10F82-10F85 11001 11038-11046 11070 11073-11074 1107F-11081 110B3-110B6 110B9-110BA 110C2
  11100-11102 11127-1112B 1112D-11134 11173 11180-11181 111B6-111BE 111C9-111CC 111CF
  1122F-11231 11234 11236-11237 1123E 11241 112DF 112E3-112EA 11300-11301 1133B-1133C 11340
  11366-1136C 11370-11374 11438-1143F 11442-11444 11446 1145E 114B3-114B8 114BA 114BF-114C0
  114C2-114C3 115B2-115B5 115BC-115BD 115BF-115C0 115DC-115DD 11633-1163A 1163D 1163F-11640
  116AB 116AD 116B0-116B5 116B7 1171D-1171F 11722-11725 11727-1172B 1182F-11837 11839-1183A
  1193B-1193C 1193E 11943 119D4-119D7 119DA-119DB 119E0 11A01-11A06 11A09-11A0A 11A33-11A38
  11A3B-11A3E 11A47 11A51-11A56 11A59-11A5B 11A8A-11A96 11A98-11A99 11C30-11C36 11C38-11C3D
  11C92-11CA7 11CAA-11CB0 11CB2-11CB3 11CB5-11CB6 11D31-11D36 11D3A 11D3C-11D3D 11D3F-11D45
  11D47 11D90-11D91 11D95 11D97 11EF3-11EF4 11F00-11F01 11F36-11F3A 11F40 11F42 13440
  13447-13455 16AF0-16AF4 16B30-16B36 16F4F 16F8F-16F92 16FE4 1BC9D-1BC9E 1CF00-1CF2D
  1CF30-1CF46 1D167-1D169 1D17B-1D182 1D185-1D18B 1D1AA-1D1AD 1D242-1D244 1DA00-1DA36
  1DA3B-1DA6C 1DA75 1DA84 1DA9B-1DA9F 1DAA1-1DAAF 1E000-1E006 1E008-1E018 1E01B-1E021
  1E023-1E024 1E026-1E02A 1E08F 1E130-1E136 1E2AE 1E2EC-1E2EF 1E4EC-1E4EF 1E8D0-1E8D6
  1E944-1E94A E0100-E01EF"

/-- Canonical_Combining_Class=9. -/
def virama : RangeTable := .ofWritten "
  94D 9CD A4D ACD B4D BCD C4D CCD D3B-D3C D4D DCA E3A EBA F84 1039-103A 1714-1715 1734 17D2 1A60
  1B44 1BAA-1BAB 1BF2-1BF3 2D7F A806 A82C A8C4 A953 A9C0 AAF6 ABED 10A3F 11046 11070 1107F 110B9
  11133-11134 111C0 11235 112EA 1134D 11442 114C2 115BF 1163F 116B6 1172B 11839 1193D-1193E
  119E0 11A34 11A47 11A99 11C3F 11D44-11D45 11D97 11F41-11F42"

def joinsLeft : RangeTable := .ofWritten "
  620 626 628 62A-62E 633-63F 641-647 649-64A 66E-66F 678-687 69A-6BF 6C1-6C2 6CC 6CE 6D0-6D1
  6FA-6FC 6FF 712-714 71A-71D 71F-727 729 72B 72D-72E 74E-758 75C-76A 76D-770 772 775-777
  77A-77F 7CA-7EA 841-845 848 84A-853 855 860 862-865 868 886 889-88D 8A0-8A9 8AF-8B0 8B3-8B8
  8BA-8C8 1807 1820-1878 1887-18A8 18AA A840-A872 10AC0-10AC4 10ACD 10AD3-10ADC 10ADE-10AE0
  10AEB-10AEE 10B80 10B82 10B86-10B88 10B8A-10B8B 10B8D 10B90 10BAD-10BAE 10D00-10D21 10D23
  10F30-10F32 10F34-10F44 10F51-10F53 10F70-10F73 10F76-10F81 10FB0 10FB2-10FB3 10FB8
  10FBB-10FBC 10FBE-10FBF 10FC1 10FC4 10FCA-10FCB 1E900-1E943"

def joinsRight : RangeTable := .ofWritten "
  620 622-63F 641-64A 66E-66F 671-673 675-6D3 6D5 6EE-6EF 6FA-6FC 6FF 710 712-72F 74D-77F
  7CA-7EA 840-858 860 862-865 867-86A 870-882 886 889-88E 8A0-8AC 8AE-8C8 1807 1820-1878
  1887-18A8 18AA A840-A871 10AC0-10AC5 10AC7 10AC9-10ACA 10ACE-10AD6 10AD8-10AE1 10AE4
  10AEB-10AEF 10B80-10B91 10BA9-10BAE 10D01-10D23 10F30-10F44 10F51-10F54 10F70-10F81 10FB0
  10FB2-10FB6 10FB8-10FBF 10FC1-10FC4 10FC9-10FCA 1E900-1E943"

def joinsThrough : RangeTable := .ofWritten "
  AD 300-36F 483-489 591-5BD 5BF 5C1-5C2 5C4-5C5 5C7 610-61A 61C 64B-65F 670 6D6-6DC 6DF-6E4
  6E7-6E8 6EA-6ED 70F 711 730-74A 7A6-7B0 7EB-7F3 7FD 816-819 81B-823 825-827 829-82D 859-85B
  898-89F 8CA-8E1 8E3-902 93A 93C 941-948 94D 951-957 962-963 981 9BC 9C1-9C4 9CD 9E2-9E3 9FE
  A01-A02 A3C A41-A42 A47-A48 A4B-A4D A51 A70-A71 A75 A81-A82 ABC AC1-AC5 AC7-AC8 ACD AE2-AE3
  AFA-AFF B01 B3C B3F B41-B44 B4D B55-B56 B62-B63 B82 BC0 BCD C00 C04 C3C C3E-C40 C46-C48
  C4A-C4D C55-C56 C62-C63 C81 CBC CBF CC6 CCC-CCD CE2-CE3 D00-D01 D3B-D3C D41-D44 D4D D62-D63
  D81 DCA DD2-DD4 DD6 E31 E34-E3A E47-E4E EB1 EB4-EBC EC8-ECE F18-F19 F35 F37 F39 F71-F7E
  F80-F84 F86-F87 F8D-F97 F99-FBC FC6 102D-1030 1032-1037 1039-103A 103D-103E 1058-1059
  105E-1060 1071-1074 1082 1085-1086 108D 109D 135D-135F 1712-1714 1732-1733 1752-1753 1772-1773
  17B4-17B5 17B7-17BD 17C6 17C9-17D3 17DD 180B-180D 180F 1885-1886 18A9 1920-1922 1927-1928 1932
  1939-193B 1A17-1A18 1A1B 1A56 1A58-1A5E 1A60 1A62 1A65-1A6C 1A73-1A7C 1A7F 1AB0-1ACE 1B00-1B03
  1B34 1B36-1B3A 1B3C 1B42 1B6B-1B73 1B80-1B81 1BA2-1BA5 1BA8-1BA9 1BAB-1BAD 1BE6 1BE8-1BE9 1BED
  1BEF-1BF1 1C2C-1C33 1C36-1C37 1CD0-1CD2 1CD4-1CE0 1CE2-1CE8 1CED 1CF4 1CF8-1CF9 1DC0-1DFF 200B
  200E-200F 202A-202E 2060-2064 206A-206F 20D0-20F0 2CEF-2CF1 2D7F 2DE0-2DFF 302A-302D 3099-309A
  A66F-A672 A674-A67D A69E-A69F A6F0-A6F1 A802 A806 A80B A825-A826 A82C A8C4-A8C5 A8E0-A8F1 A8FF
  A926-A92D A947-A951 A980-A982 A9B3 A9B6-A9B9 A9BC-A9BD A9E5 AA29-AA2E AA31-AA32 AA35-AA36 AA43
  AA4C AA7C AAB0 AAB2-AAB4 AAB7-AAB8 AABE-AABF AAC1 AAEC-AAED AAF6 ABE5 ABE8 ABED FB1E FE00-FE0F
  FE20-FE2F FEFF FFF9-FFFB 101FD 102E0 10376-1037A 10A01-10A03 10A05-10A06 10A0C-10A0F
  10A38-10A3A 10A3F 10AE5-10AE6 10D24-10D27 10EAB-10EAC 10EFD-10EFF 10F46-10F50 10F82-10F85
  11001 11038-11046 11070 11073-11074 1107F-11081 110B3-110B6 110B9-110BA 110C2 11100-11102
  11127-1112B 1112D-11134 11173 11180-11181 111B6-111BE 111C9-111CC 111CF 1122F-11231 11234
  11236-11237 1123E 11241 112DF 112E3-112EA 11300-11301 1133B-1133C 11340 11366-1136C
  11370-11374 11438-1143F 11442-11444 11446 1145E 114B3-114B8 114BA 114BF-114C0 114C2-114C3
  115B2-115B5 115BC-115BD 115BF-115C0 115DC-115DD 11633-1163A 1163D 1163F-11640 116AB 116AD
  116B0-116B5 116B7 1171D-1171F 11722-11725 11727-1172B 1182F-11837 11839-1183A 1193B-1193C
  1193E 11943 119D4-119D7 119DA-119DB 119E0 11A01-11A0A 11A33-11A38 11A3B-11A3E 11A47
  11A51-11A56 11A59-11A5B 11A8A-11A96 11A98-11A99 11C30-11C36 11C38-11C3D 11C3F 11C92-11CA7
  11CAA-11CB0 11CB2-11CB3 11CB5-11CB6 11D31-11D36 11D3A 11D3C-11D3D 11D3F-11D45 11D47
  11D90-11D91 11D95 11D97 11EF3-11EF4 11F00-11F01 11F36-11F3A 11F40 11F42 13430-13440
  13447-13455 16AF0-16AF4 16B30-16B36 16F4F 16F8F-16F92 16FE4 1BC9D-1BC9E 1BCA0-1BCA3
  1CF00-1CF2D 1CF30-1CF46 1D167-1D169 1D173-1D182 1D185-1D18B 1D1AA-1D1AD 1D242-1D244
  1DA00-1DA36 1DA3B-1DA6C 1DA75 1DA84 1DA9B-1DA9F 1DAA1-1DAAF 1E000-1E006 1E008-1E018
  1E01B-1E021 1E023-1E024 1E026-1E02A 1E08F 1E130-1E136 1E2AE 1E2EC-1E2EF 1E4EC-1E4EF
  1E8D0-1E8D6 1E944-1E94B E0001 E0020-E007F E0100-E01EF"

end PlatformLauncher.Host
