import Workbench.Text.Mark

/-!
# Lower case

A text in lower case, by version 14 of the character database. Most capitals have one small letter;
the dotted capital I becomes an i and a dot above. The capital sigma has another small letter at
the end of a word than elsewhere. Whether a word goes on is decided without marks, full stops and
other characters that do not matter to the case of a word.
-/
namespace Workbench.Text

/-- Ranges of capitals and the small letter of the first one; the others follow in order. -/
def smallLetters : Array (Nat × Nat × Nat) := tripleTable
  "41-5a=61 c0-d6=e0 d8-de=f8 178-178=ff 181-181=253 186-186=254 187-187=188 189-18a=256
18b-18b=18c 18e-18e=1dd 18f-18f=259 190-190=25b 191-191=192 193-193=260 194-194=263 196-196=269
197-197=268 198-198=199 19c-19c=26f 19d-19d=272 19f-19f=275 1a6-1a6=280 1a7-1a7=1a8 1a9-1a9=283
1ac-1ac=1ad 1ae-1ae=288 1af-1af=1b0 1b1-1b2=28a 1b7-1b7=292 1b8-1b8=1b9 1bc-1bc=1bd 1c4-1c4=1c6
1c5-1c5=1c6 1c7-1c7=1c9 1c8-1c8=1c9 1ca-1ca=1cc 1f1-1f1=1f3 1f6-1f6=195 1f7-1f7=1bf 220-220=19e
23a-23a=2c65 23b-23b=23c 23d-23d=19a 23e-23e=2c66 241-241=242 243-243=180 244-244=289
245-245=28c 376-376=377 37f-37f=3f3 386-386=3ac 388-38a=3ad 38c-38c=3cc 38e-38f=3cd 391-3a1=3b1
3a3-3ab=3c3 3cf-3cf=3d7 3f4-3f4=3b8 3f7-3f7=3f8 3f9-3f9=3f2 3fa-3fa=3fb 3fd-3ff=37b 400-40f=450
410-42f=430 4c0-4c0=4cf 531-556=561 10a0-10c5=2d00 10c7-10c7=2d27 10cd-10cd=2d2d 13a0-13ef=ab70
13f0-13f5=13f8 1c90-1cba=10d0 1cbd-1cbf=10fd 1e9e-1e9e=df 1f08-1f0f=1f00 1f18-1f1d=1f10
1f28-1f2f=1f20 1f38-1f3f=1f30 1f48-1f4d=1f40 1f59-1f59=1f51 1f5b-1f5b=1f53 1f5d-1f5d=1f55
1f5f-1f5f=1f57 1f68-1f6f=1f60 1f88-1f8f=1f80 1f98-1f9f=1f90 1fa8-1faf=1fa0 1fb8-1fb9=1fb0
1fba-1fbb=1f70 1fbc-1fbc=1fb3 1fc8-1fcb=1f72 1fcc-1fcc=1fc3 1fd8-1fd9=1fd0 1fda-1fdb=1f76
1fe8-1fe9=1fe0 1fea-1feb=1f7a 1fec-1fec=1fe5 1ff8-1ff9=1f78 1ffa-1ffb=1f7c 1ffc-1ffc=1ff3
2126-2126=3c9 212a-212a=6b 212b-212b=e5 2132-2132=214e 2160-216f=2170 2183-2183=2184
24b6-24cf=24d0 2c00-2c2f=2c30 2c60-2c60=2c61 2c62-2c62=26b 2c63-2c63=1d7d 2c64-2c64=27d
2c6d-2c6d=251 2c6e-2c6e=271 2c6f-2c6f=250 2c70-2c70=252 2c72-2c72=2c73 2c75-2c75=2c76
2c7e-2c7f=23f 2cf2-2cf2=2cf3 a77d-a77d=1d79 a78b-a78b=a78c a78d-a78d=265 a7aa-a7aa=266
a7ab-a7ab=25c a7ac-a7ac=261 a7ad-a7ad=26c a7ae-a7ae=26a a7b0-a7b0=29e a7b1-a7b1=287
a7b2-a7b2=29d a7b3-a7b3=ab53 a7c4-a7c4=a794 a7c5-a7c5=282 a7c6-a7c6=1d8e a7d0-a7d0=a7d1
a7f5-a7f5=a7f6 ff21-ff3a=ff41 10400-10427=10428 104b0-104d3=104d8 10570-1057a=10597
1057c-1058a=105a3 1058c-10592=105b3 10594-10595=105bb 10c80-10cb2=10cc0 118a0-118bf=118c0
16e40-16e5f=16e60 1e900-1e921=1e922"

/-- Ranges in which each capital is followed by its small letter. -/
def letterPairs : Array (Nat × Nat) := rangeTable
  "100-12f 132-137 139-148 14a-177 179-17e 182-185 1a0-1a5 1b3-1b6 1cb-1dc 1de-1ef 1f2-1f5 1f8-21f
222-233 246-24f 370-373 3d8-3ef 460-481 48a-4bf 4c1-4ce 4d0-52f 1e00-1e95 1ea0-1eff 2c67-2c6c
2c80-2ce3 2ceb-2cee a640-a66d a680-a69b a722-a72f a732-a76f a779-a77c a77e-a787 a790-a793
a796-a7a9 a7b4-a7c3 a7c7-a7ca a7d6-a7d9"

/-- Ranges of letters that have a case. Between them are only characters that have none and stand
in no name. -/
def casedRanges : Array (Nat × Nat) := rangeTable
  "41-7a c0-1ba 1bc-1bf 1cd-293 295-2af 370-373 376-481 48a-556 560-588 10a0-10ff 13a0-13f5
1c90-1cbf 1d00-1d2b 1d6b-1d9a 1e00-1ffa 2126-2cee 2cf2-2d2d a640-a66d a680-a69b a722-a787
a78b-a78e a790-a7f6 a7fa ab30-ab68 10400-1044f 104b0-104fb 10570-105bc 10c80-10cf2 118a0-118df
16e40-16e7f 1df00-1df09 1df0b-1df1e 1e900-1e943"

/-- Ranges of characters, marks apart, that do not matter to the case of a word. -/
def caseNeutralRanges : Array (Nat × Nat) := rangeTable
  "2e b7 2b9-2ee 375 559 5f4 6e5-6e6 7f4-7f5 81a-828 8c9 971 cbf cc6 e46 ec6 17d7 1843 1aa7
1c78-1c7d 1d2f-1d4e 200c-200d 2e2f 3005 309d-309e 30fc-30fe a015 a4f8-a4fd a60c a67f a717-a71f
a788 a9cf a9e6 aa70 aadd aaf3-aaf4 ff0e 10780 11a07-11a08 11c3f 16b40-16b43 16f93-16fe3
1aff0-1affe 1e137-1e13d 1e94b"

/-- A character in lower case. -/
def lowercaseChar (c : Char) : List Char :=
  let n := c.toNat
  if n = 0x130 then ['i', '\u0307']
  else
    match valueIn smallLetters n with
    | some (first, small) => [Char.ofNat (small + (n - first))]
    | none =>
      match search id letterPairs n with
      | some (first, _) => [if (n - first) % 2 = 0 then Char.ofNat (n + 1) else c]
      | none => [c]

/-- Does the character not matter to the case of a word? -/
def isCaseNeutral (c : Char) : Bool := isNonspacing c || inSome caseNeutralRanges c.toNat

/-- Is the first character that matters to the case of a word a letter with a case? -/
def goesOn (cs : List Char) : Bool :=
  (cs.dropWhile isCaseNeutral).head?.any fun c => inSome casedRanges c.toNat

/-- The small sigma between the characters before it, the nearest first, and those after it. -/
def smallSigma (before after : List Char) : Char :=
  if goesOn before && !goesOn after then 'ς' else 'σ'

/-- The rest of a text in lower case, after characters that are given the nearest first. -/
def lowercaseFrom (before : List Char) : List Char → List Char
  | [] => []
  | c :: cs =>
    (if c = 'Σ' then [smallSigma before cs] else lowercaseChar c) ++ lowercaseFrom (c :: before) cs

/-- A text in lower case. -/
def lowercase (cs : List Char) : List Char := lowercaseFrom [] cs

end Workbench.Text
