import Workbench.Hostname.Direction
import Workbench.Text.Composed

/-!
# Labels

The name of a host is made of labels. A label holds small letters, digits, marks and hyphens of any
script, in composed form. Some characters may stand only beside certain others. A label neither
begins nor ends with a hyphen, nor has two of them in its third and fourth place, which is kept for
encoded labels; and it does not begin with a mark.
-/
namespace Workbench.Hostname

/-- Ranges of characters that may stand in a label. -/
def labelRanges : Array (Nat × Nat) := Text.rangeTable
  "2d 30-39 61-7a b7 df-f6 f8-ff 135 137-138 183 185 188 18c-18d 192 195 199-19b 19e 1a8 1aa-1ab
1ad 1b0 1b4 1b6 1b9-1bb 1bd-1c3 1dc-1dd 1ef-1f0 1f5 233-239 23c 23f-240 242 24f-2af 2b9-2c1
2c6-2d1 2ec 2ee 300-33f 342 346-34e 350-36f 37b-37d 390 3ac-3ce 3f3 3f8 3fb-3fc 430-45f 483-487
4ce-4cf 559 560-586 588 591-5bd 5bf 5c1-5c2 5c4-5c5 5c7 5d0-5ea 5ef-5f4 610-61a 620-63f 641-669
66e-674 679-6d3 6d5-6dc 6df-6e8 6ea-6ff 710-74a 74d-7b1 7c0-7f5 7fd 800-82d 840-85b 860-86a
870-887 889-88f 897-8e1 8e3-957 960-963 966-96f 971-983 985-98c 98f-990 993-9a8 9aa-9b0 9b2
9b6-9b9 9bc-9c4 9c7-9c8 9cb-9ce 9d7 9e0-9e3 9e6-9f1 9fc 9fe a01-a03 a05-a0a a0f-a10 a13-a28
a2a-a30 a32 a35 a38-a39 a3c a3e-a42 a47-a48 a4b-a4d a51 a5c a66-a75 a81-a83 a85-a8d a8f-a91
a93-aa8 aaa-ab0 ab2-ab3 ab5-ab9 abc-ac5 ac7-ac9 acb-acd ad0 ae0-ae3 ae6-aef af9-aff b01-b03
b05-b0c b0f-b10 b13-b28 b2a-b30 b32-b33 b35-b39 b3c-b44 b47-b48 b4b-b4d b55-b57 b5f-b63 b66-b6f
b71 b82-b83 b85-b8a b8e-b90 b92-b95 b99-b9a b9c b9e-b9f ba3-ba4 ba8-baa bae-bb9 bbe-bc2 bc6-bc8
bca-bcd bd0 bd7 be6-bef c00-c0c c0e-c10 c12-c28 c2a-c39 c3c-c44 c46-c48 c4a-c4d c55-c56 c58-c5a
c5c-c5d c60-c63 c66-c6f c80-c83 c85-c8c c8e-c90 c92-ca8 caa-cb3 cb5-cb9 cbc-cc4 cc6-cc8 cca-ccd
cd5-cd6 cdc-cde ce0-ce3 ce6-cef cf1-cf3 d00-d0c d0e-d10 d12-d44 d46-d48 d4a-d4e d54-d57 d5f-d63
d66-d6f d7a-d7f d81-d83 d85-d96 d9a-db1 db3-dbb dbd dc0-dc6 dca dcf-dd4 dd6 dd8-ddf de6-def
df2-df3 e01-e32 e34-e3a e40-e4e e50-e59 e81-e82 e84 e86-e8a e8c-ea3 ea5 ea7-eb2 eb4-ebd ec0-ec4
ec6 ec8-ece ed0-ed9 ede-edf f00 f0b f18-f19 f20-f29 f3e-f42 f44-f47 f49-f4c f4e-f51 f53-f56
f58-f5b f5d-f68 f6a-f6c f71-f72 f74 f7a-f80 f82-f84 f86-f92 f94-f97 f99-f9c f9e-fa1 fa3-fa6
fa8-fab fad-fb8 fba-fbc fc6 1000-1049 1050-109d 10d0-10fa 10fd-10ff 1200-1248 124a-124d
1250-1256 1258 125a-125d 1260-1288 128a-128d 1290-12b0 12b2-12b5 12b8-12be 12c0 12c2-12c5
12c8-12d6 12d8-1310 1312-1315 1318-135a 135d-135f 1380-138f 13a0-13f5 1401-166c 166f-167f
1681-169a 16a0-16ea 16f1-16f8 1700-1715 171f-1734 1740-1753 1760-176c 176e-1770 1772-1773
1780-17b3 17b6-17d3 17d7 17dc-17dd 17e0-17e9 1810-1819 1820-1878 1880-18aa 18b0-18f5 1900-191e
1920-192b 1930-193b 1946-196d 1970-1974 1980-19ab 19b0-19c9 19d0-19d9 1a00-1a1b 1a20-1a5e
1a60-1a7c 1a7f-1a89 1a90-1a99 1aa7 1ab0-1abd 1abf-1add 1ae0-1aeb 1b00-1b4c 1b50-1b59 1b6b-1b73
1b80-1bf3 1c00-1c37 1c40-1c49 1c4d-1c7d 1c8a 1cd0-1cd2 1cd4-1cfa 1d00-1d2b 1d2f 1d3b 1d4e
1d6b-1d77 1d79-1d9a 1dc0-1dff 1e95-1e99 1e9c-1e9d 1eff-1f07 1f10-1f15 1f20-1f27 1f30-1f37
1f40-1f45 1f50-1f57 1f60-1f67 1fb0-1fb1 1fb6 1fc6 1fd0-1fd2 1fd6-1fd7 1fe0-1fe2 1fe4-1fe7 1ff6
200c-200d 214e 2184 2c30-2c5f 2c61 2c65-2c66 2c71 2c73-2c74 2c76-2c7b 2ce3-2ce4 2cec 2cee-2cf1
2cf3 2d00-2d25 2d27 2d2d 2d30-2d67 2d7f-2d96 2da0-2da6 2da8-2dae 2db0-2db6 2db8-2dbe 2dc0-2dc6
2dc8-2dce 2dd0-2dd6 2dd8-2dde 2de0-2dff 2e2f 3005-3007 302a-302d 303c 3041-3096 3099-309a
309d-309e 30a1-30fe 3105-312f 31a0-31bf 31f0-31ff 3400-4dbf 4e00-a48c a4d0-a4fd a500-a60c
a610-a62b a66d-a66f a674-a67d a69e-a6e5 a6f0-a6f1 a717-a71f a72f-a731 a771-a778 a77a a77c
a787-a788 a78c a78e-a78f a791 a793-a795 a7af a7c8 a7ca a7f6-a7f7 a7fa-a827 a82c a840-a873
a880-a8c5 a8d0-a8d9 a8e0-a8f7 a8fb a8fd-a92d a930-a953 a980-a9c0 a9cf-a9d9 a9e0-a9fe aa00-aa36
aa40-aa4d aa50-aa59 aa60-aa76 aa7a-aac2 aadb-aadd aae0-aaef aaf2-aaf6 ab01-ab06 ab09-ab0e
ab11-ab16 ab20-ab26 ab28-ab2e ab30-ab5a ab60-ab68 abc0-abea abec-abed abf0-abf9 ac00-d7a3
fa0e-fa0f fa11 fa13-fa14 fa1f fa21 fa23-fa24 fa27-fa29 fb1e fe20-fe2f fe73 10000-1000b
1000d-10026 10028-1003a 1003c-1003d 1003f-1004d 10050-1005d 10080-100fa 101fd 10280-1029c
102a0-102d0 102e0 10300-1031f 1032d-10340 10342-10349 10350-1037a 10380-1039d 103a0-103c3
103c8-103cf 10428-1049d 104a0-104a9 104d8-104fb 10500-10527 10530-10563 10597-105a1 105a3-105b1
105b3-105b9 105bb-105bc 105c0-105f3 10600-10736 10740-10755 10760-10767 10780 10800-10805 10808
1080a-10835 10837-10838 1083c 1083f-10855 10860-10876 10880-1089e 108e0-108f2 108f4-108f5
10900-10915 10920-10939 10940-10959 10980-109b7 109be-109bf 10a00-10a03 10a05-10a06 10a0c-10a13
10a15-10a17 10a19-10a35 10a38-10a3a 10a3f 10a60-10a7c 10a80-10a9c 10ac0-10ac7 10ac9-10ae6
10b00-10b35 10b40-10b55 10b60-10b72 10b80-10b91 10c00-10c48 10cc0-10cf2 10d00-10d27 10d30-10d39
10d40-10d4f 10d69-10d6d 10d6f-10d85 10e80-10ea9 10eab-10eac 10eb0-10eb1 10ec2-10ec7 10efa-10f1c
10f27 10f30-10f50 10f70-10f85 10fb0-10fc4 10fe0-10ff6 11000-11046 11066-11075 1107f-110ba 110c2
110d0-110e8 110f0-110f9 11100-11134 11136-1113f 11144-11147 11150-11173 11176 11180-111c4
111c9-111cc 111ce-111da 111dc 11200-11211 11213-11237 1123e-11241 11280-11286 11288 1128a-1128d
1128f-1129d 1129f-112a8 112b0-112ea 112f0-112f9 11300-11303 11305-1130c 1130f-11310 11313-11328
1132a-11330 11332-11333 11335-11339 1133b-11344 11347-11348 1134b-1134d 11350 11357 1135d-11363
11366-1136c 11370-11374 11380-11389 1138b 1138e 11390-113b5 113b7-113c0 113c2 113c5 113c7-113ca
113cc-113d3 113e1-113e2 11400-1144a 11450-11459 1145e-11461 11480-114c5 114c7 114d0-114d9
11580-115b5 115b8-115c0 115d8-115dd 11600-11640 11644 11650-11659 11680-116b8 116c0-116c9
116d0-116e3 11700-1171a 1171d-1172b 11730-11739 11740-11746 11800-1183a 118c0-118e9 118ff-11906
11909 1190c-11913 11915-11916 11918-11935 11937-11938 1193b-11943 11950-11959 119a0-119a7
119aa-119d7 119da-119e1 119e3-119e4 11a00-11a3e 11a47 11a50-11a99 11a9d 11ab0-11af8 11b60-11b67
11bc0-11be0 11bf0-11bf9 11c00-11c08 11c0a-11c36 11c38-11c40 11c50-11c59 11c72-11c8f 11c92-11ca7
11ca9-11cb6 11d00-11d06 11d08-11d09 11d0b-11d36 11d3a 11d3c-11d3d 11d3f-11d47 11d50-11d59
11d60-11d65 11d67-11d68 11d6a-11d8e 11d90-11d91 11d93-11d98 11da0-11da9 11db0-11ddb 11de0-11de9
11ee0-11ef6 11f00-11f10 11f12-11f3a 11f3e-11f42 11f50-11f5a 11fb0 12000-12399 12480-12543
12f90-12ff0 13000-1342f 13440-13455 13460-143fa 14400-14646 16100-16139 16800-16a38 16a40-16a5e
16a60-16a69 16a70-16abe 16ac0-16ac9 16ad0-16aed 16af0-16af4 16b00-16b36 16b40-16b43 16b50-16b59
16b63-16b77 16b7d-16b8f 16d40-16d6c 16d70-16d79 16e60-16e7f 16ebb-16ed3 16f00-16f4a 16f4f-16f87
16f8f-16f9f 16fe0-16fe1 16fe3-16fe4 16ff0-16ff3 17000-18cd5 18cff-18d1e 18d80-18df2 1aff0-1aff3
1aff5-1affb 1affd-1affe 1b000-1b122 1b132 1b150-1b152 1b155 1b164-1b167 1b170-1b2fb 1bc00-1bc6a
1bc70-1bc7c 1bc80-1bc88 1bc90-1bc99 1bc9d-1bc9e 1cf00-1cf2d 1cf30-1cf46 1da00-1da36 1da3b-1da6c
1da75 1da84 1da9b-1da9f 1daa1-1daaf 1df00-1df1e 1df25-1df2a 1e000-1e006 1e008-1e018 1e01b-1e021
1e023-1e024 1e026-1e02a 1e08f 1e100-1e12c 1e130-1e13d 1e140-1e149 1e14e 1e290-1e2ae 1e2c0-1e2f9
1e4d0-1e4f9 1e5d0-1e5fa 1e6c0-1e6de 1e6e0-1e6f5 1e6fe-1e6ff 1e7e0-1e7e6 1e7e8-1e7eb 1e7ed-1e7ee
1e7f0-1e7fe 1e800-1e8c4 1e8d0-1e8d6 1e922-1e94b 1e950-1e959 20000-2a6df 2a700-2b81d 2b820-2cead
2ceb0-2ebe0 2ebf0-2ee5d 30000-3134a 31350-33479"

/-- Ranges of which every other character may stand in a label, from the first one on. -/
def alternateRanges : Array (Nat × Nat) := Text.rangeTable
  "101-131 13a-13e 142-148 14b-177 17a-180 1a1-1a5 1ce-1da 1df-1ed 1f9-231 247-24d 371-377 3d7-3ef
461-481 48b-4bf 4c2-4cc 4d1-52f f35-f39 1e01-1e93 1e9f-1efd 1f70-1f7c 2c68-2c6c 2c81-2ce1
a641-a66b a67f-a69b a723-a72d a733-a76f a77f-a785 a797-a7a9 a7b5-a7c3 a7cd-a7db"

def greekRanges : Array (Nat × Nat) := Text.rangeTable
  "371-3e1 3f3-3fc 1d26-1d2a 1f00-1ff6 ab65"

def hebrewRanges : Array (Nat × Nat) := Text.rangeTable
  "591-5f4 fb1e"

/-- Ranges of the characters of Japanese, the ideographs included. -/
def japaneseRanges : Array (Nat × Nat) := Text.rangeTable
  "3005 3007 3041-3096 309d-309e 30a1-30fa 30fd-30fe 31f0-31ff 3400-9fff fa0e-fa29 16fe3
16ff0-16ff3 1aff0-1b000 1b001-1b11f 1b120-1b122 1b132-1b152 1b155-1b167 20000-33479"

/-- Ranges of letters that join those on either side. -/
def joiningRanges : Array (Nat × Nat) := Text.rangeTable
  "620 626 628 62a-62e 633-647 649-64a 66e-66f 679-687 69a-6bf 6c1-6c2 6cc 6ce 6d0-6d1 6fa-6fc 6ff
712-714 71a-71d 71f-727 729 72b 72d-72e 74e-758 75c-76a 76d-770 772 775-777 77a-77f 7ca-7ea
841-845 848 84a-853 855 860 862-865 868 886 889-88d 88f 8a0-8a9 8af-8b0 8b3-8b8 8ba-8c8
1820-1878 1887-18a8 18aa a840-a871 10ac0-10ac4 10ad3-10ad6 10ad8-10adc 10ade-10ae0 10b80 10b82
10b86-10b88 10b8a-10b8b 10b8d 10b90 10d01-10d21 10d23 10ec3-10ec4 10ec6-10ec7 10f30-10f32
10f34-10f44 10f70-10f73 10f76-10f81 10fb0 10fb2-10fb3 10fb8 10fbb-10fbc 10fbe-10fbf 10fc1 10fc4
1e922-1e943"

/-- Ranges of letters that join the one before them only. -/
def joiningBeforeRanges : Array (Nat × Nat) := Text.rangeTable
  "622-625 627 629 62f-632 648 671-673 688-699 6c0 6c3-6cb 6cd 6cf 6d2-6d5 6ee-6ef 710 715-719 71e
728 72a 72c 72f 74d 759-75b 76b-76c 771 773-774 778-779 840 846-847 849 854 856-858 867 869-882
88e 8aa-8ac 8ae 8b1-8b2 8b9 10ac5 10ac7-10aca 10ace-10ad2 10add 10ae1 10ae4 10b81 10b83-10b85
10b89 10b8c 10b8e-10b8f 10b91 10d22 10ec2 10f33 10f74-10f75 10fb4-10fb6 10fb9-10fba 10fbd
10fc2-10fc3"

/-- Ranges of letters that join the one after them only. -/
def joiningAfterRanges : Array (Nat × Nat) := Text.rangeTable
  "a872 10acd 10ad7 10d00"

/-- Marks and other characters between letters that do not keep them from joining. -/
def transparentRanges : Array (Nat × Nat) := Text.rangeTable
  "897 cbf cc6 ece 1acf-1add 1ae0-1aeb 10d69-10d6d 10efa-10eff 11241 113bb-113c0 113ce 113d0 113d2
113e1-113e2 11a07-11a08 11b60 11b62-11b64 11b66 11c3f 11f00-11f01 11f36-11f3a 11f40 11f42 11f5a
13440 13447-13455 1611e-16129 1612d-1612f 1e08f 1e4ec-1e4ef 1e5ee-1e5ef 1e6e3 1e6e6 1e6ee-1e6ef
1e6f5 1e94b"

/-- May the character stand in a label, as far as it goes by itself? -/
def isLabelChar (c : Char) : Bool :=
  let n := c.toNat
  Text.inSome labelRanges n ||
    (Text.search id alternateRanges n).any fun e => (n - e.1) % 2 = 0

/-! ## Characters that depend on others -/

/-- The combining class of the marks that take the vowel off a consonant. -/
def vowelKiller : Nat := 9

def isTransparent (c : Char) : Bool :=
  (Text.isNonspacing c && c.toNat != 0x1171e) || Text.inSome transparentRanges c.toNat

/-- Is the first letter one of the given ranges, behind characters that do not count? -/
def meets (ranges : List (Array (Nat × Nat))) (cs : List Char) : Bool :=
  (cs.dropWhile isTransparent).head?.any fun c => ranges.any fun r => Text.inSome r c.toNat

/-- The joiners, which may stand between letters only. -/
def isJoiner (c : Char) : Bool := c.toNat = 0x200C || c.toNat = 0x200D

/-- Has the character been given a meaning? -/
def isKnown (c : Char) : Bool := Text.isPrintable c || isJoiner c

/-- May the joiner stand between what is before it, the nearest first, and what is after it? -/
def joins (c : Char) (before after : List Char) : Bool :=
  before.head?.all isKnown &&
    ((before.head?.any fun b => Text.combiningClass b = vowelKiller) ||
      (c.toNat = 0x200C && meets [joiningAfterRanges, joiningRanges] before &&
        meets [joiningBeforeRanges, joiningRanges] after))

/-- May the character stand between what is before it, the nearest first, and what is after it? -/
def suits (c : Char) (before after : List Char) : Bool :=
  let n := c.toNat
  let beside (ranges : Array (Nat × Nat)) (d : Option Char) : Bool :=
    d.any fun d => Text.inSome ranges d.toNat
  let hasDigit (first : Nat) : Bool :=
    (before ++ after).any fun d => first ≤ d.toNat && d.toNat < first + 10
  if n = 0xB7 then before.head? = some 'l' && after.head? = some 'l'
  else if n = 0x375 then beside greekRanges after.head?
  else if n = 0x5F3 || n = 0x5F4 then beside hebrewRanges before.head?
  else if n = 0x30FB then
    (before ++ after).any fun d => d != c && Text.inSome japaneseRanges d.toNat
  else if 0x660 ≤ n && n ≤ 0x669 then !hasDigit 0x6F0
  else if 0x6F0 ≤ n && n ≤ 0x6F9 then !hasDigit 0x660
  else true

/-- What is wrong with the first character that may not stand where it is. -/
def characterFault? (label before : List Char) : List Char → Option Fault
  | [] => none
  | c :: after =>
    let place : Place := ⟨c, before.length + 1, label⟩
    if !isLabelChar c then some (.character place)
    else if isJoiner c && !joins c before after then some (.joiner place)
    else if !suits c before after then some (.company place)
    else characterFault? label (c :: before) after

/-! ## Labels -/

/-- What is wrong with the first of the label's characters that is not known. -/
def unknownFault? (label : List Char) : Option Fault :=
  let known := label.takeWhile isKnown
  label[known.length]?.map fun c => .unknownDirection ⟨c, known.length + 1, label⟩

/-- What is wrong with the hyphens. -/
def hyphenFault? (label : List Char) : Option Fault :=
  if (label.drop 2).take 2 = ['-', '-'] then some .innerHyphens
  else if label.head? = some '-' || label.getLast? = some '-' then some .outerHyphen
  else none

/-- Why a text is no label, if it is none. -/
def labelFault? (label : List Char) : Option Fault :=
  if label.isEmpty then some .emptyLabel
  else if !Text.isComposed label then some .notComposed
  else
    (hyphenFault? label).or <|
    (if label.head?.any Text.isMark then some .leadingMark else none).or <|
    (characterFault? label [] label).or <|
    (unknownFault? label).or (runFault? label)

/-- Is this a label? -/
def isLabel (label : List Char) : Bool := (labelFault? label).isNone

end Workbench.Hostname
