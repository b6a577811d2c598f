import ScriptHost.Text.Basic

/-!
# Upper and lower case

The case classes and full case maps of the Unicode standard (version 17.0), and the upper
and lower case of a text made from them.
-/

namespace ScriptHost.Text

/-! ## Cased and case-ignorable characters

Two character classes of the Unicode standard (version 17.0) that decide where a word
ends for case mapping: `Cased` holds the letters that have case, `Case_Ignorable` the
marks and punctuation that may stand inside a word without ending it.
-/

def casedText : String :=
  "41-5A 61-7A AA B5 BA C0-D6 D8-F6 F8-1BA 1BC-1BF 1C4-293 296-2B8 2C0-2C1 2E0-2E4 345 " ++
  "370-373 376-377 37A-37D 37F 386 388-38A 38C 38E-3A1 3A3-3F5 3F7-481 48A-52F 531-556 " ++
  "560-588 10A0-10C5 10C7 10CD 10D0-10FA 10FC-10FF 13A0-13F5 13F8-13FD 1C80-1C8A 1C90-1CBA " ++
  "1CBD-1CBF 1D00-1DBF 1E00-1F15 1F18-1F1D 1F20-1F45 1F48-1F4D 1F50-1F57 1F59 1F5B 1F5D " ++
  "1F5F-1F7D 1F80-1FB4 1FB6-1FBC 1FBE 1FC2-1FC4 1FC6-1FCC 1FD0-1FD3 1FD6-1FDB 1FE0-1FEC " ++
  "1FF2-1FF4 1FF6-1FFC 2071 207F 2090-209C 2102 2107 210A-2113 2115 2119-211D 2124 2126 " ++
  "2128 212A-212D 212F-2134 2139 213C-213F 2145-2149 214E 2160-217F 2183-2184 24B6-24E9 " ++
  "2C00-2CE4 2CEB-2CEE 2CF2-2CF3 2D00-2D25 2D27 2D2D A640-A66D A680-A69D A722-A787 " ++
  "A78B-A78E A790-A7DC A7F1-A7F6 A7F8-A7FA AB30-AB5A AB5C-AB69 AB70-ABBF FB00-FB06 " ++
  "FB13-FB17 FF21-FF3A FF41-FF5A 10400-1044F 104B0-104D3 104D8-104FB 10570-1057A " ++
  "1057C-1058A 1058C-10592 10594-10595 10597-105A1 105A3-105B1 105B3-105B9 105BB-105BC " ++
  "10780 10783-10785 10787-107B0 107B2-107BA 10C80-10CB2 10CC0-10CF2 10D50-10D65 " ++
  "10D70-10D85 118A0-118DF 16E40-16E7F 16EA0-16EB8 16EBB-16ED3 1D400-1D454 1D456-1D49C " ++
  "1D49E-1D49F 1D4A2 1D4A5-1D4A6 1D4A9-1D4AC 1D4AE-1D4B9 1D4BB 1D4BD-1D4C3 1D4C5-1D505 " ++
  "1D507-1D50A 1D50D-1D514 1D516-1D51C 1D51E-1D539 1D53B-1D53E 1D540-1D544 1D546 " ++
  "1D54A-1D550 1D552-1D6A5 1D6A8-1D6C0 1D6C2-1D6DA 1D6DC-1D6FA 1D6FC-1D714 1D716-1D734 " ++
  "1D736-1D74E 1D750-1D76E 1D770-1D788 1D78A-1D7A8 1D7AA-1D7C2 1D7C4-1D7CB 1DF00-1DF09 " ++
  "1DF0B-1DF1E 1DF25-1DF2A 1E030-1E06D 1E900-1E943 1F130-1F149 1F150-1F169 1F170-1F189 "

def caseIgnorableText : String :=
  "27 2E 3A 5E 60 A8 AD AF B4 B7-B8 2B0-36F 374-375 37A 384-385 387 483-489 559 55F " ++
  "591-5BD 5BF 5C1-5C2 5C4-5C5 5C7 5F4 600-605 610-61A 61C 640 64B-65F 670 6D6-6DD 6DF-6E8 " ++
  "6EA-6ED 70F 711 730-74A 7A6-7B0 7EB-7F5 7FA 7FD 816-82D 859-85B 888 890-891 897-89F " ++
  "8C9-902 93A 93C 941-948 94D 951-957 962-963 971 981 9BC 9C1-9C4 9CD 9E2-9E3 9FE A01-A02 " ++
  "A3C A41-A42 A47-A48 A4B-A4D A51 A70-A71 A75 A81-A82 ABC AC1-AC5 AC7-AC8 ACD AE2-AE3 " ++
  "AFA-AFF B01 B3C B3F B41-B44 B4D B55-B56 B62-B63 B82 BC0 BCD C00 C04 C3C C3E-C40 C46-C48 " ++
  "C4A-C4D C55-C56 C62-C63 C81 CBC CBF CC6 CCC-CCD CE2-CE3 D00-D01 D3B-D3C D41-D44 D4D " ++
  "D62-D63 D81 DCA DD2-DD4 DD6 E31 E34-E3A E46-E4E EB1 EB4-EBC EC6 EC8-ECE F18-F19 F35 F37 " ++
  "F39 F71-F7E F80-F84 F86-F87 F8D-F97 F99-FBC FC6 102D-1030 1032-1037 1039-103A 103D-103E " ++
  "1058-1059 105E-1060 1071-1074 1082 1085-1086 108D 109D 10FC 135D-135F 1712-1714 " ++
  "1732-1733 1752-1753 1772-1773 17B4-17B5 17B7-17BD 17C6 17C9-17D3 17D7 17DD 180B-180F " ++
  "1843 1885-1886 18A9 1920-1922 1927-1928 1932 1939-193B 1A17-1A18 1A1B 1A56 1A58-1A5E " ++
  "1A60 1A62 1A65-1A6C 1A73-1A7C 1A7F 1AA7 1AB0-1ADD 1AE0-1AEB 1B00-1B03 1B34 1B36-1B3A " ++
  "1B3C 1B42 1B6B-1B73 1B80-1B81 1BA2-1BA5 1BA8-1BA9 1BAB-1BAD 1BE6 1BE8-1BE9 1BED " ++
  "1BEF-1BF1 1C2C-1C33 1C36-1C37 1C78-1C7D 1CD0-1CD2 1CD4-1CE0 1CE2-1CE8 1CED 1CF4 " ++
  "1CF8-1CF9 1D2C-1D6A 1D78 1D9B-1DFF 1FBD 1FBF-1FC1 1FCD-1FCF 1FDD-1FDF 1FED-1FEF " ++
  "1FFD-1FFE 200B-200F 2018-2019 2024 2027 202A-202E 2060-2064 2066-206F 2071 207F " ++
  "2090-209C 20D0-20F0 2C7C-2C7D 2CEF-2CF1 2D6F 2D7F 2DE0-2DFF 2E2F 3005 302A-302D " ++
  "3031-3035 303B 3099-309E 30FC-30FE A015 A4F8-A4FD A60C A66F-A672 A674-A67D A67F " ++
  "A69C-A69F A6F0-A6F1 A700-A721 A770 A788-A78A A7F1-A7F4 A7F8-A7F9 A802 A806 A80B " ++
  "A825-A826 A82C A8C4-A8C5 A8E0-A8F1 A8FF A926-A92D A947-A951 A980-A982 A9B3 A9B6-A9B9 " ++
  "A9BC-A9BD A9CF A9E5-A9E6 AA29-AA2E AA31-AA32 AA35-AA36 AA43 AA4C AA70 AA7C AAB0 " ++
  "AAB2-AAB4 AAB7-AAB8 AABE-AABF AAC1 AADD AAEC-AAED AAF3-AAF4 AAF6 AB5B-AB5F AB69-AB6B " ++
  "ABE5 ABE8 ABED FB1E FBB2-FBC2 FE00-FE0F FE13 FE20-FE2F FE52 FE55 FEFF FF07 FF0E FF1A " ++
  "FF3E FF40 FF70 FF9E-FF9F FFE3 FFF9-FFFB 101FD 102E0 10376-1037A 10780-10785 10787-107B0 " ++
  "107B2-107BA 10A01-10A03 10A05-10A06 10A0C-10A0F 10A38-10A3A 10A3F 10AE5-10AE6 " ++
  "10D24-10D27 10D4E 10D69-10D6D 10D6F 10EAB-10EAC 10EC5 10EFA-10EFF 10F46-10F50 " ++
  "10F82-10F85 11001 11038-11046 11070 11073-11074 1107F-11081 110B3-110B6 110B9-110BA " ++
  "110BD 110C2 110CD 11100-11102 11127-1112B 1112D-11134 11173 11180-11181 111B6-111BE " ++
  "111C9-111CC 111CF 1122F-11231 11234 11236-11237 1123E 11241 112DF 112E3-112EA " ++
  "11300-11301 1133B-1133C 11340 11366-1136C 11370-11374 113BB-113C0 113CE 113D0 113D2 " ++
  "113E1-113E2 11438-1143F 11442-11444 11446 1145E 114B3-114B8 114BA 114BF-114C0 " ++
  "114C2-114C3 115B2-115B5 115BC-115BD 115BF-115C0 115DC-115DD 11633-1163A 1163D " ++
  "1163F-11640 116AB 116AD 116B0-116B5 116B7 1171D 1171F 11722-11725 11727-1172B " ++
  "1182F-11837 11839-1183A 1193B-1193C 1193E 11943 119D4-119D7 119DA-119DB 119E0 " ++
  "11A01-11A0A 11A33-11A38 11A3B-11A3E 11A47 11A51-11A56 11A59-11A5B 11A8A-11A96 " ++
  "11A98-11A99 11B60 11B62-11B64 11B66 11C30-11C36 11C38-11C3D 11C3F 11C92-11CA7 " ++
  "11CAA-11CB0 11CB2-11CB3 11CB5-11CB6 11D31-11D36 11D3A 11D3C-11D3D 11D3F-11D45 11D47 " ++
  "11D90-11D91 11D95 11D97 11DD9 11EF3-11EF4 11F00-11F01 11F36-11F3A 11F40 11F42 11F5A " ++
  "13430-13440 13447-13455 1611E-16129 1612D-1612F 16AF0-16AF4 16B30-16B36 16B40-16B43 " ++
  "16D40-16D42 16D6B-16D6C 16F4F 16F8F-16F9F 16FE0-16FE1 16FE3-16FE4 16FF2-16FF3 " ++
  "1AFF0-1AFF3 1AFF5-1AFFB 1AFFD-1AFFE 1BC9D-1BC9E 1BCA0-1BCA3 1CF00-1CF2D 1CF30-1CF46 " ++
  "1D167-1D169 1D173-1D182 1D185-1D18B 1D1AA-1D1AD 1D242-1D244 1DA00-1DA36 1DA3B-1DA6C " ++
  "1DA75 1DA84 1DA9B-1DA9F 1DAA1-1DAAF 1E000-1E006 1E008-1E018 1E01B-1E021 1E023-1E024 " ++
  "1E026-1E02A 1E030-1E06D 1E08F 1E130-1E13D 1E2AE 1E2EC-1E2EF 1E4EB-1E4EF 1E5EE-1E5EF " ++
  "1E6E3 1E6E6 1E6EE-1E6EF 1E6F5 1E6FF 1E8D0-1E8D6 1E944-1E94B 1F3FB-1F3FF E0001 " ++
  "E0020-E007F E0100-E01EF "

def casedTable : Array (Nat × Nat) :=
  readRanges casedText

def caseIgnorableTable : Array (Nat × Nat) :=
  readRanges caseIgnorableText

/-- A letter that has case. -/
def isCased (c : Char) : Bool :=
  rangesContain casedTable c.toNat

/-- A character that a word may hold without ending there. -/
def isCaseIgnorable (c : Char) : Bool :=
  rangesContain caseIgnorableTable c.toNat

/-! ## Case maps

The full case maps of the Unicode standard (version 17.0), without the mappings that
depend on language or context. Most characters map to one character at a fixed
distance, so the one-character maps are stored as runs `start:count:stride:delta`: the
`count` code points `start`, `start + stride`, … each map to themselves plus `delta`.
Characters that map to several characters (`ß` to `SS`) are listed on their own.
-/

structure CaseRun where
  start : Nat
  count : Nat
  stride : Nat
  delta : Int
  deriving Repr

/-- The image of `c` under the run, when the run covers `c`. -/
def CaseRun.image? (r : CaseRun) (c : Nat) : Option Nat :=
  if r.start ≤ c ∧ c < r.start + r.count * r.stride ∧ (c - r.start) % r.stride = 0 then
    some ((c : Int) + r.delta).toNat
  else none

def readRun (s : String) : CaseRun :=
  match s.splitOn ":" with
  | [a, n, k, d] => ⟨hexValue a, hexValue n, hexValue k, signedHexValue d⟩
  | _ => ⟨0, 0, 1, 0⟩

def readExpansion (s : String) : Nat × List Nat :=
  match s.splitOn ":" with
  | [c, img] => (hexValue c, (img.splitOn ",").map hexValue)
  | _ => (0, [])

structure CaseMap where
  runs : Array CaseRun
  expansions : Array (Nat × List Nat)

def CaseMap.read (runs expansions : String) : CaseMap :=
  { runs := ((fieldsOf runs).map readRun).toArray
    expansions := ((fieldsOf expansions).map readExpansion).toArray }

/-- The image of a character: its expansion, else its run's image, else itself. -/
def CaseMap.apply (m : CaseMap) (c : Char) : List Char :=
  match m.expansions.find? (·.1 == c.toNat) with
  | some (_, img) => img.map Char.ofNat
  | none =>
      match m.runs.findSome? (·.image? c.toNat) with
      | some d => [Char.ofNat d]
      | none => [c]

def upperRuns : String :=
  "61:1A:1:-20 B5:1:1:2E7 E0:17:1:-20 F8:7:1:-20 FF:1:1:79 101:18:2:-1 131:1:1:-E8 " ++
  "133:3:2:-1 13A:8:2:-1 14B:17:2:-1 17A:3:2:-1 17F:1:1:-12C 180:1:1:C3 183:2:2:-1 " ++
  "188:1:1:-1 18C:1:1:-1 192:1:1:-1 195:1:1:61 199:1:1:-1 19A:1:1:A3 19B:1:1:A641 " ++
  "19E:1:1:82 1A1:3:2:-1 1A8:1:1:-1 1AD:1:1:-1 1B0:1:1:-1 1B4:2:2:-1 1B9:1:1:-1 1BD:1:1:-1 " ++
  "1BF:1:1:38 1C5:1:1:-1 1C6:1:1:-2 1C8:1:1:-1 1C9:1:1:-2 1CB:1:1:-1 1CC:1:1:-2 1CE:8:2:-1 " ++
  "1DD:1:1:-4F 1DF:9:2:-1 1F2:1:1:-1 1F3:1:1:-2 1F5:1:1:-1 1F9:14:2:-1 223:9:2:-1 " ++
  "23C:1:1:-1 23F:2:1:2A3F 242:1:1:-1 247:5:2:-1 250:1:1:2A1F 251:1:1:2A1C 252:1:1:2A1E " ++
  "253:1:1:-D2 254:1:1:-CE 256:2:1:-CD 259:1:1:-CA 25B:1:1:-CB 25C:1:1:A54F 260:1:1:-CD " ++
  "261:1:1:A54B 263:1:1:-CF 264:1:1:A567 265:1:1:A528 266:1:1:A544 268:1:1:-D1 269:1:1:-D3 " ++
  "26A:1:1:A544 26B:1:1:29F7 26C:1:1:A541 26F:1:1:-D3 271:1:1:29FD 272:1:1:-D5 275:1:1:-D6 " ++
  "27D:1:1:29E7 280:1:1:-DA 282:1:1:A543 283:1:1:-DA 287:1:1:A52A 288:1:1:-DA 289:1:1:-45 " ++
  "28A:2:1:-D9 28C:1:1:-47 292:1:1:-DB 29D:1:1:A515 29E:1:1:A512 345:1:1:54 371:2:2:-1 " ++
  "377:1:1:-1 37B:3:1:82 3AC:1:1:-26 3AD:3:1:-25 3B1:11:1:-20 3C2:1:1:-1F 3C3:9:1:-20 " ++
  "3CC:1:1:-40 3CD:2:1:-3F 3D0:1:1:-3E 3D1:1:1:-39 3D5:1:1:-2F 3D6:1:1:-36 3D7:1:1:-8 " ++
  "3D9:C:2:-1 3F0:1:1:-56 3F1:1:1:-50 3F2:1:1:7 3F3:1:1:-74 3F5:1:1:-60 3F8:1:1:-1 " ++
  "3FB:1:1:-1 430:20:1:-20 450:10:1:-50 461:11:2:-1 48B:1B:2:-1 4C2:7:2:-1 4CF:1:1:-F " ++
  "4D1:30:2:-1 561:26:1:-30 10D0:2B:1:BC0 10FD:3:1:BC0 13F8:6:1:-8 1C80:1:1:-186E " ++
  "1C81:1:1:-186D 1C82:1:1:-1864 1C83:2:1:-1862 1C85:1:1:-1863 1C86:1:1:-185C " ++
  "1C87:1:1:-1825 1C88:1:1:89C2 1C8A:1:1:-1 1D79:1:1:8A04 1D7D:1:1:EE6 1D8E:1:1:8A38 " ++
  "1E01:4B:2:-1 1E9B:1:1:-3B 1EA1:30:2:-1 1F00:8:1:8 1F10:6:1:8 1F20:8:1:8 1F30:8:1:8 " ++
  "1F40:6:1:8 1F51:4:2:8 1F60:8:1:8 1F70:2:1:4A 1F72:4:1:56 1F76:2:1:64 1F78:2:1:80 " ++
  "1F7A:2:1:70 1F7C:2:1:7E 1FB0:2:1:8 1FBE:1:1:-1C25 1FD0:2:1:8 1FE0:2:1:8 1FE5:1:1:7 " ++
  "214E:1:1:-1C 2170:10:1:-10 2184:1:1:-1 24D0:1A:1:-1A 2C30:30:1:-30 2C61:1:1:-1 " ++
  "2C65:1:1:-2A2B 2C66:1:1:-2A28 2C68:3:2:-1 2C73:1:1:-1 2C76:1:1:-1 2C81:32:2:-1 " ++
  "2CEC:2:2:-1 2CF3:1:1:-1 2D00:26:1:-1C60 2D27:1:1:-1C60 2D2D:1:1:-1C60 A641:17:2:-1 " ++
  "A681:E:2:-1 A723:7:2:-1 A733:1F:2:-1 A77A:2:2:-1 A77F:5:2:-1 A78C:1:1:-1 A791:2:2:-1 " ++
  "A794:1:1:30 A797:A:2:-1 A7B5:8:2:-1 A7C8:2:2:-1 A7CD:8:2:-1 A7F6:1:1:-1 AB53:1:1:-3A0 " ++
  "AB70:50:1:-97D0 FF41:1A:1:-20 10428:28:1:-28 104D8:24:1:-28 10597:B:1:-27 105A3:F:1:-27 " ++
  "105B3:7:1:-27 105BB:2:1:-27 10CC0:33:1:-40 10D70:16:1:-20 118C0:20:1:-20 16E60:20:1:-20 " ++
  "16EBB:19:1:-1B 1E922:22:1:-22 "

def upperExpansions : String :=
  "DF:53,53 149:2BC,4E 1F0:4A,30C 390:399,308,301 3B0:3A5,308,301 587:535,552 1E96:48,331 " ++
  "1E97:54,308 1E98:57,30A 1E99:59,30A 1E9A:41,2BE 1F50:3A5,313 1F52:3A5,313,300 " ++
  "1F54:3A5,313,301 1F56:3A5,313,342 1F80:1F08,399 1F81:1F09,399 1F82:1F0A,399 " ++
  "1F83:1F0B,399 1F84:1F0C,399 1F85:1F0D,399 1F86:1F0E,399 1F87:1F0F,399 1F88:1F08,399 " ++
  "1F89:1F09,399 1F8A:1F0A,399 1F8B:1F0B,399 1F8C:1F0C,399 1F8D:1F0D,399 1F8E:1F0E,399 " ++
  "1F8F:1F0F,399 1F90:1F28,399 1F91:1F29,399 1F92:1F2A,399 1F93:1F2B,399 1F94:1F2C,399 " ++
  "1F95:1F2D,399 1F96:1F2E,399 1F97:1F2F,399 1F98:1F28,399 1F99:1F29,399 1F9A:1F2A,399 " ++
  "1F9B:1F2B,399 1F9C:1F2C,399 1F9D:1F2D,399 1F9E:1F2E,399 1F9F:1F2F,399 1FA0:1F68,399 " ++
  "1FA1:1F69,399 1FA2:1F6A,399 1FA3:1F6B,399 1FA4:1F6C,399 1FA5:1F6D,399 1FA6:1F6E,399 " ++
  "1FA7:1F6F,399 1FA8:1F68,399 1FA9:1F69,399 1FAA:1F6A,399 1FAB:1F6B,399 1FAC:1F6C,399 " ++
  "1FAD:1F6D,399 1FAE:1F6E,399 1FAF:1F6F,399 1FB2:1FBA,399 1FB3:391,399 1FB4:386,399 " ++
  "1FB6:391,342 1FB7:391,342,399 1FBC:391,399 1FC2:1FCA,399 1FC3:397,399 1FC4:389,399 " ++
  "1FC6:397,342 1FC7:397,342,399 1FCC:397,399 1FD2:399,308,300 1FD3:399,308,301 " ++
  "1FD6:399,342 1FD7:399,308,342 1FE2:3A5,308,300 1FE3:3A5,308,301 1FE4:3A1,313 " ++
  "1FE6:3A5,342 1FE7:3A5,308,342 1FF2:1FFA,399 1FF3:3A9,399 1FF4:38F,399 1FF6:3A9,342 " ++
  "1FF7:3A9,342,399 1FFC:3A9,399 FB00:46,46 FB01:46,49 FB02:46,4C FB03:46,46,49 " ++
  "FB04:46,46,4C FB05:53,54 FB06:53,54 FB13:544,546 FB14:544,535 FB15:544,53B FB16:54E,546 " ++
  "FB17:544,53D "

def lowerRuns : String :=
  "41:1A:1:20 C0:17:1:20 D8:7:1:20 100:18:2:1 132:3:2:1 139:8:2:1 14A:17:2:1 178:1:1:-79 " ++
  "179:3:2:1 181:1:1:D2 182:2:2:1 186:1:1:CE 187:1:1:1 189:2:1:CD 18B:1:1:1 18E:1:1:4F " ++
  "18F:1:1:CA 190:1:1:CB 191:1:1:1 193:1:1:CD 194:1:1:CF 196:1:1:D3 197:1:1:D1 198:1:1:1 " ++
  "19C:1:1:D3 19D:1:1:D5 19F:1:1:D6 1A0:3:2:1 1A6:1:1:DA 1A7:1:1:1 1A9:1:1:DA 1AC:1:1:1 " ++
  "1AE:1:1:DA 1AF:1:1:1 1B1:2:1:D9 1B3:2:2:1 1B7:1:1:DB 1B8:1:1:1 1BC:1:1:1 1C4:1:1:2 " ++
  "1C5:1:1:1 1C7:1:1:2 1C8:1:1:1 1CA:1:1:2 1CB:9:2:1 1DE:9:2:1 1F1:1:1:2 1F2:2:2:1 " ++
  "1F6:1:1:-61 1F7:1:1:-38 1F8:14:2:1 220:1:1:-82 222:9:2:1 23A:1:1:2A2B 23B:1:1:1 " ++
  "23D:1:1:-A3 23E:1:1:2A28 241:1:1:1 243:1:1:-C3 244:1:1:45 245:1:1:47 246:5:2:1 " ++
  "370:2:2:1 376:1:1:1 37F:1:1:74 386:1:1:26 388:3:1:25 38C:1:1:40 38E:2:1:3F 391:11:1:20 " ++
  "3A3:9:1:20 3CF:1:1:8 3D8:C:2:1 3F4:1:1:-3C 3F7:1:1:1 3F9:1:1:-7 3FA:1:1:1 3FD:3:1:-82 " ++
  "400:10:1:50 410:20:1:20 460:11:2:1 48A:1B:2:1 4C0:1:1:F 4C1:7:2:1 4D0:30:2:1 " ++
  "531:26:1:30 10A0:26:1:1C60 10C7:1:1:1C60 10CD:1:1:1C60 13A0:50:1:97D0 13F0:6:1:8 " ++
  "1C89:1:1:1 1C90:2B:1:-BC0 1CBD:3:1:-BC0 1E00:4B:2:1 1E9E:1:1:-1DBF 1EA0:30:2:1 " ++
  "1F08:8:1:-8 1F18:6:1:-8 1F28:8:1:-8 1F38:8:1:-8 1F48:6:1:-8 1F59:4:2:-8 1F68:8:1:-8 " ++
  "1F88:8:1:-8 1F98:8:1:-8 1FA8:8:1:-8 1FB8:2:1:-8 1FBA:2:1:-4A 1FBC:1:1:-9 1FC8:4:1:-56 " ++
  "1FCC:1:1:-9 1FD8:2:1:-8 1FDA:2:1:-64 1FE8:2:1:-8 1FEA:2:1:-70 1FEC:1:1:-7 1FF8:2:1:-80 " ++
  "1FFA:2:1:-7E 1FFC:1:1:-9 2126:1:1:-1D5D 212A:1:1:-20BF 212B:1:1:-2046 2132:1:1:1C " ++
  "2160:10:1:10 2183:1:1:1 24B6:1A:1:1A 2C00:30:1:30 2C60:1:1:1 2C62:1:1:-29F7 " ++
  "2C63:1:1:-EE6 2C64:1:1:-29E7 2C67:3:2:1 2C6D:1:1:-2A1C 2C6E:1:1:-29FD 2C6F:1:1:-2A1F " ++
  "2C70:1:1:-2A1E 2C72:1:1:1 2C75:1:1:1 2C7E:2:1:-2A3F 2C80:32:2:1 2CEB:2:2:1 2CF2:1:1:1 " ++
  "A640:17:2:1 A680:E:2:1 A722:7:2:1 A732:1F:2:1 A779:2:2:1 A77D:1:1:-8A04 A77E:5:2:1 " ++
  "A78B:1:1:1 A78D:1:1:-A528 A790:2:2:1 A796:A:2:1 A7AA:1:1:-A544 A7AB:1:1:-A54F " ++
  "A7AC:1:1:-A54B A7AD:1:1:-A541 A7AE:1:1:-A544 A7B0:1:1:-A512 A7B1:1:1:-A52A " ++
  "A7B2:1:1:-A515 A7B3:1:1:3A0 A7B4:8:2:1 A7C4:1:1:-30 A7C5:1:1:-A543 A7C6:1:1:-8A38 " ++
  "A7C7:2:2:1 A7CB:1:1:-A567 A7CC:8:2:1 A7DC:1:1:-A641 A7F5:1:1:1 FF21:1A:1:20 " ++
  "10400:28:1:28 104B0:24:1:28 10570:B:1:27 1057C:F:1:27 1058C:7:1:27 10594:2:1:27 " ++
  "10C80:33:1:40 10D50:16:1:20 118A0:20:1:20 16E40:20:1:20 16EA0:19:1:1B 1E900:22:1:22 "

def lowerExpansions : String :=
  "130:69,307 "

def upperMap : CaseMap :=
  CaseMap.read upperRuns upperExpansions

/-- The lowercase map, in which capital sigma goes to `σ` wherever it stands. -/
def lowerMap : CaseMap :=
  CaseMap.read lowerRuns lowerExpansions

/-! ## Upper and lower case of a text

A text is put in upper case one character at a time by the full uppercase map. Lower
case is the same with the lowercase map, except for capital sigma, which becomes the
final form `ς` where it ends a word: a cased letter stands before it (past any
case-ignorable characters) and none stands after it (past the same).
-/

def toUpper (s : String) : String :=
  String.ofList (s.toList.flatMap upperMap.apply)

/-- Whether, past the case-ignorable characters at the front of `cs`, a cased letter
comes next. -/
def casedAfterIgnorable (cs : List Char) : Bool :=
  match cs.dropWhile isCaseIgnorable with
  | [] => false
  | c :: _ => isCased c

/-- Whether a capital sigma between `before` (read backwards from the sigma) and `after`
ends a word. -/
def endsWord (before after : List Char) : Bool :=
  casedAfterIgnorable before && !casedAfterIgnorable after

/-- Lower case of `cs`, where `before` holds the characters in front of it, nearest
first. -/
def lowerChars (before : List Char) : List Char → List Char
  | [] => []
  | c :: after =>
      (if c = 'Σ' then [if endsWord before after then 'ς' else 'σ'] else lowerMap.apply c) ++
        lowerChars (c :: before) after

def toLower (s : String) : String :=
  String.ofList (lowerChars [] s.toList)

end ScriptHost.Text
