import ContractToolkit.DomainName.Table

/-!
# Directions of writing

Where a name has letters that are written from right to left, each of its labels
has to be such that it can be shown in only one way: it starts with a letter, its
other characters suit the direction of that letter, and so does its end. The
directions of characters are those of Unicode 17.
-/

namespace ContractToolkit.DomainName

/-- What a character means for the direction of a text. -/
inductive Direction where
  /-- A letter that is written from left to right. -/
  | left
  /-- A letter that is written from right to left. -/
  | right
  /-- An Arabic letter. -/
  | arabic
  /-- A digit of Europe. -/
  | digit
  /-- An Arabic digit. -/
  | arabicDigit
  /-- A sign. -/
  | sign
  /-- A mark of an amount. -/
  | amount
  /-- What separates digits. -/
  | separator
  /-- A mark on the character before it. -/
  | mark
  /-- What has no direction of its own. -/
  | neutral
  /-- What is not shown. -/
  | hidden
  /-- What ends or divides text. -/
  | division
  deriving DecidableEq, Repr

/-- The marks on a character. -/
def markRows : List Row := rowsOf
  ["300-36F 483-489 591-5BD 5BF 5C1-5C2 5C4-5C5 5C7 610-61A 64B-65F 670 6D6-6DC 6DF-6E4 6E7-6E8",
   "6EA-6ED 711 730-74A 7A6-7B0 7EB-7F3 7FD 816-819 81B-823 825-827 829-82D 859-85B 897-89F",
   "8CA-902 93A 93C 941-948 94D 951-957 962-963 981 9BC 9C1-9C4 9CD 9E2-9E3 9FE-A02 A3C A41-A51",
   "A70-A71 A75 A81-A82 ABC AC1-AC8 ACD AE2-AE3 AFA-B01 B3C B3F B41-B44 B4D-B56 B62-B63 B82 BC0",
   "BCD C00 C04 C3C C3E-C40 C46-C56 C62-C63 C81 CBC CCC-CCD CE2-CE3 D00-D01 D3B-D3C D41-D44 D4D",
   "D62-D63 D81 DCA DD2-DD6 E31 E34-E3A E47-E4E EB1 EB4-EBC EC8-ECE F18-F19 F35 F37 F39 F71-F7E",
   "F80-F84 F86-F87 F8D-FBC FC6 102D-1030 1032-1037 1039-103A 103D-103E 1058-1059 105E-1060",
   "1071-1074 1082 1085-1086 108D 109D 135D-135F 1712-1714 1732-1733 1752-1753 1772-1773",
   "17B7-17BD 17C6 17C9-17D3 17DD 1885-1886 18A9 1920-1922 1927-1928 1932 1939-193B 1A17-1A18",
   "1A1B 1A56 1A58-1A60 1A62 1A65-1A6C 1A73-1A7F 1AB0-1B03 1B34 1B36-1B3A 1B3C 1B42 1B6B-1B73",
   "1B80-1B81 1BA2-1BA5 1BA8-1BA9 1BAB-1BAD 1BE6 1BE8-1BE9 1BED 1BEF-1BF1 1C2C-1C33 1C36-1C37",
   "1CD0-1CD2 1CD4-1CE0 1CE2-1CE8 1CED 1CF4 1CF8-1CF9 1DC0-1DFF 20D0-20F0 2CEF-2CF1 2D7F",
   "2DE0-2DFF 302A-302D 3099-309A A66F-A672 A674-A67D A69E-A69F A6F0-A6F1 A802 A806 A80B",
   "A825-A826 A82C A8C4-A8C5 A8E0-A8F1 A8FF A926-A92D A947-A951 A980-A982 A9B3 A9B6-A9B9",
   "A9BC-A9BD A9E5 AA29-AA2E AA31-AA32 AA35-AA36 AA43 AA4C AA7C AAB0 AAB2-AAB4 AAB7-AAB8",
   "AABE-AABF AAC1 AAEC-AAED AAF6 ABE5 ABE8 ABED FB1E FE20-FE2F 101FD 102E0 10376-1037A",
   "10A01-10A0F 10A38-10A3F 10AE5-10AE6 10D24-10D27 10D69-10D6D 10EAB-10EAC 10EFA-10EFF",
   "10F46-10F50 10F82-10F85 11001 11038-11046 11070 11073-11074 1107F-11081 110B3-110B6",
   "110B9-110BA 110C2 11100-11102 11127-1112B 1112D-11134 11173 11180-11181 111B6-111BE",
   "111C9-111CC 111CF 1122F-11231 11234 11236-11237 1123E 11241 112DF 112E3-112EA 11300-11301",
   "1133B-1133C 11340 11366-11374 113BB-113C0 113CE 113D0 113D2 113E1-113E2 11438-1143F",
   "11442-11444 11446 1145E 114B3-114B8 114BA 114BF-114C0 114C2-114C3 115B2-115B5 115BC-115BD",
   "115BF-115C0 115DC-115DD 11633-1163A 1163D 1163F-11640 116AB 116AD 116B0-116B5 116B7 1171D",
   "1171F 11722-11725 11727-1172B 1182F-11837 11839-1183A 1193B-1193C 1193E 11943 119D4-119DB",
   "119E0 11A01-11A06 11A09-11A0A 11A33-11A38 11A3B-11A3E 11A47 11A51-11A56 11A59-11A5B",
   "11A8A-11A96 11A98-11A99 11B60 11B62-11B64 11B66 11C30-11C3D 11C92-11CA7 11CAA-11CB0",
   "11CB2-11CB3 11CB5-11CB6 11D31-11D45 11D47 11D90-11D91 11D95 11D97 11EF3-11EF4 11F00-11F01",
   "11F36-11F3A 11F40 11F42 11F5A 13440 13447-13455 1611E-16129 1612D-1612F 16AF0-16AF4",
   "16B30-16B36 16F4F 16F8F-16F92 16FE4 1BC9D-1BC9E 1CF00-1CF46 1D167-1D169 1D17B-1D182",
   "1D185-1D18B 1D1AA-1D1AD 1D242-1D244 1DA00-1DA36 1DA3B-1DA6C 1DA75 1DA84 1DA9B-1DAAF",
   "1E000-1E08F 1E130-1E136 1E2AE 1E2EC-1E2EF 1E4EC-1E4EF 1E5EE-1E5EF 1E6E3 1E6E6 1E6EE-1E6EF",
   "1E6F5 1E8D0-1E8D6 1E944-1E94A"]

/-- The marks that take space of their own. -/
def spacingMarkRows : List Row := rowsOf
  ["903 93B 93E-940 949-94C 94E-94F 982-983 9BE-9C0 9C7-9CC 9D7 A03 A3E-A40 A83 ABE-AC0 AC9-ACC",
   "B02-B03 B3E B40 B47-B4C B57 BBE-BBF BC1-BCC BD7 C01-C03 C41-C44 C82-C83 CBE-CCB CD5-CD6 CF3",
   "D02-D03 D3E-D40 D46-D4C D57 D82-D83 DCF-DD1 DD8-DDF DF2-DF3 F3E-F3F F7F 102B-102C 1031 1038",
   "103B-103C 1056-1057 1062-1064 1067-106D 1083-1084 1087-108C 108F 109A-109C 1715 1734 17B6",
   "17BE-17C5 17C7-17C8 1923-1926 1929-1931 1933-1938 1A19-1A1A 1A55 1A57 1A61 1A63-1A64",
   "1A6D-1A72 1B04 1B35 1B3B 1B3D-1B41 1B43-1B44 1B82 1BA1 1BA6-1BA7 1BAA 1BE7 1BEA-1BEC 1BEE",
   "1BF2-1BF3 1C24-1C2B 1C34-1C35 1CE1 1CF7 302E-302F A823-A824 A827 A880-A881 A8B4-A8C3",
   "A952-A953 A983 A9B4-A9B5 A9BA-A9BB A9BE-A9C0 AA2F-AA30 AA33-AA34 AA4D AA7B AA7D AAEB",
   "AAEE-AAEF AAF5 ABE3-ABE4 ABE6-ABE7 ABE9-ABEA ABEC 11000 11002 11082 110B0-110B2 110B7-110B8",
   "1112C 11145-11146 11182 111B3-111B5 111BF-111C0 111CE 1122C-1122E 11232-11233 11235",
   "112E0-112E2 11302-11303 1133E-1133F 11341-1134D 11357 11362-11363 113B8-113BA 113C2-113CD",
   "113CF 11435-11437 11440-11441 11445 114B0-114B2 114B9 114BB-114BE 114C1 115AF-115B1",
   "115B8-115BB 115BE 11630-11632 1163B-1163C 1163E 116AC 116AE-116AF 116B6 1171E 11720-11721",
   "11726 1182C-1182E 11838 11930-11938 1193D 11940 11942 119D1-119D3 119DC-119DF 119E4",
   "11A07-11A08 11A39 11A57-11A58 11A97 11B61 11B65 11B67 11C2F 11C3E-11C3F 11CA9 11CB1 11CB4",
   "11D8A-11D8E 11D93-11D94 11D96 11EF5-11EF6 11F03 11F34-11F35 11F3E-11F3F 11F41 1612A-1612C",
   "16F51-16F87 16FF0-16FF1 1D165-1D166 1D16D-1D172"]

/-- The characters that are neither marks on others nor written from left to right. -/
def directionRows : List Row := rowsOf
  ["0-8:BN 9-D:B E-1B:BN 1C-20:B 21-22:ON 23-25:ET 26-2A:ON 2B:ES 2C:CS 2D:ES 2E-2F:CS 30-39:EN",
   "3A:CS 3B-60:ON 7B-7E:ON 7F:BN A1:ON A2-A5:ET A6-AE:ON B0-B1:ET B6-D7:ON F7:ON 2B9-2BA:ON",
   "2C2-2CF:ON 2D2-2ED:ON 2EF-2FF:ON 375:ON 3F6:ON 58A-58E:ON 58F:ET 5BE-5F4:R 606-607:ON 608:AL",
   "609-60A:ET 60B:AL 60C:CS 60D:AL 60E-60F:ON 61B-64A:AL 660-669:AN 66A:ET 66B-66C:AN 66D-6D5:AL",
   "6DE:ON 6E5-6E6:AL 6E9:ON 6EE-6EF:AL 6F0-6F9:EN 6FA-7B1:AL 7C0-7F5:R 7F6-7F9:ON 7FA-85E:R",
   "860-8C9:AL 9F2-9F3:ET 9FB:ET AF1:ET BF3-BF8:ON BF9:ET BFA:ON C78-C7E:ON E3F:ET F3A-F3D:ON",
   "1390-1399:ON 1400:ON 169B-169C:ON 17DB:ET 17F0-180A:ON 1940-1945:ON 19DE-19FF:ON 200C-200D:BN",
   "2010-2027:ON 2030-2032:ET 2035-2043:ON 2044:CS 2045-205E:ON 20A0-20C1:ET 2104-2129:ON 212E:ET",
   "213A-214D:ON 218A-2211:ON 2212:ES 2213:ET 2214-2335:ON 237B-2394:ON 2396-26AB:ON 26AD-27FF:ON",
   "2900-2BFF:ON 2CE5-2CEA:ON 2CF9-2CFF:ON 2E00-3004:ON 3008-3020:ON 3030:ON 3037:ON 303D-303F:ON",
   "30A0:ON 30FB:ON 31C0-31E5:ON 4DC0-4DFF:ON A490-A4C6:ON A60D-A60F:ON A673-A67F:ON A700-A721:ON",
   "A788:ON A828-A82B:ON A838-A839:ET A874-A877:ON AB6A-AB6B:ON FBB2-FBC2:AL FBC3-FE46:ON FE73:AL",
   "FFFD:ON 10101:ON 10140-1018C:ON 10190-101A0:ON 102E1-102FB:EN 10800-1091B:R 1091F:ON",
   "10920-10B35:R 10B39-10B3F:ON 10B40-10CFF:R 10D00-10D23:AL 10D30-10D49:AN 10D4A-10D4F:R",
   "10D6E:ON 10D6F-10D8F:R 10E60-10E7E:AN 10E80-10EB1:R 10EC2-10EC7:AL 10ED0-10ED8:ON",
   "10F00-10F27:R 10F30-10F59:AL 10F70-10FF6:R 11052-11065:ON 11660-1166C:ON 11FD5-11FDC:ON",
   "11FDD-11FE0:ET 11FE1-11FF1:ON 16FE2:ON 1CC00-1CEF0:ON 1D1E9-1D245:ON 1D300-1D356:ON 1E2FF:ET",
   "1E800-1E95F:R 1EC71-1ED3D:AL 1EEF0-1F12F:ON 1F16D-1F16F:ON 1F1AD:ON 1F260-1FBFA:ON"]

/-- The meaning that a table tells. -/
def Direction.ofValue (value : String) : Direction :=
  match value with
  | "R" => right
  | "AL" => arabic
  | "EN" => digit
  | "AN" => arabicDigit
  | "ES" => sign
  | "ET" => amount
  | "CS" => separator
  | "ON" => neutral
  | "BN" => hidden
  | _ => division

/-- What a character means for the direction of a text. -/
def directionOf (c : Char) : Direction :=
  if isListed markRows c then .mark
  else match rowFor? directionRows c with
    | some row => .ofValue (String.ofList row.value)
    | none => .left

/-- Whether a character is a mark of some kind. -/
def isMark (c : Char) : Bool := isListed markRows c || isListed spacingMarkRows c

/-- Whether a character is written from right to left. -/
def isRightToLeft (c : Char) : Bool := [.right, .arabic, .arabicDigit].contains (directionOf c)

/-- What may stand in a label of either direction. -/
def commonDirections : List Direction :=
  [.digit, .sign, .separator, .amount, .neutral, .hidden, .mark]

/-- Directions without the marks at their end. -/
def withoutMarks (directions : List Direction) : List Direction :=
  (directions.reverse.dropWhile (· == .mark)).reverse

/-- Whether what follows the first letter of a label suits it. -/
def suitsLeft (rest : List Direction) : Bool :=
  rest.all (fun d => (.left :: commonDirections).contains d) &&
    (rest.getLast?.all fun d => [.left, .digit].contains d)

/-- Whether what follows the first letter of a label suits it, when that is one from right to left.
Digits of only one kind may stand there. -/
def suitsRight (rest : List Direction) : Bool :=
  rest.all (fun d => (.right :: .arabic :: .arabicDigit :: commonDirections).contains d) &&
    (rest.getLast?.all fun d => [.right, .arabic, .digit, .arabicDigit].contains d) &&
    !(rest.contains .digit && rest.contains .arabicDigit)

/-- Whether a label can be shown in only one way. -/
def isDirected (label : List Char) : Bool :=
  match label.map directionOf with
  | [] => true
  | .left :: rest => suitsLeft (withoutMarks rest)
  | .right :: rest => suitsRight (withoutMarks rest)
  | .arabic :: rest => suitsRight (withoutMarks rest)
  | _ => false

end ContractToolkit.DomainName
