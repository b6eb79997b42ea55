import Stencil.Text.CharClass

/-!
# Regex — Character set

Sets of characters in expressions: the sets that have a name of their own, sets described by
properties of characters, and the closure of a set under case. The tables of properties are those of
one edition of the standard, which is an edition behind the table of categories: its later
assignments are taken back first.
-/

namespace Stencil.Regex

open Text

/-- The sets of characters that expressions test for. -/
abbrev CharSet := CodeRanges

/-! ### Case -/

/-- The characters that stand for the same letter as another one when case is ignored. -/
def foldShifts : List CodeShift := (words
  "41-5a>61 b5>3bc c0-d6>e0 d8-de>f8 100+12e>101 132+136>133 139+147>13a 14a+176>14b 178>ff
179+17d>17a 17f>73 181>253 182+184>183 186>254 187>188 189-18a>256 18b>18c 18e>1dd 18f>259
190>25b 191>192 193>260 194>263 196>269 197>268 198>199 19c>26f 19d>272 19f>275 1a0+1a4>1a1
1a6>280 1a7>1a8 1a9>283 1ac>1ad 1ae>288 1af>1b0 1b1-1b2>28a 1b3+1b5>1b4 1b7>292 1b8>1b9 1bc>1bd
1c4>1c6 1c5>1c6 1c7>1c9 1c8>1c9 1ca>1cc 1cb+1db>1cc 1de+1ee>1df 1f1>1f3 1f2+1f4>1f3 1f6>195
1f7>1bf 1f8+21e>1f9 220>19e 222+232>223 23a>2c65 23b>23c 23d>19a 23e>2c66 241>242 243>180
244>289 245>28c 246+24e>247 345>3b9 370+372>371 376>377 37f>3f3 386>3ac 388-38a>3ad 38c>3cc
38e-38f>3cd 391-3a1>3b1 3a3-3ab>3c3 3c2>3c3 3cf>3d7 3d0>3b2 3d1>3b8 3d5>3c6 3d6>3c0 3d8+3ee>3d9
3f0>3ba 3f1>3c1 3f4>3b8 3f5>3b5 3f7>3f8 3f9>3f2 3fa>3fb 3fd-3ff>37b 400-40f>450 410-42f>430
460+480>461 48a+4be>48b 4c0>4cf 4c1+4cd>4c2 4d0+52e>4d1 531-556>561 10a0-10c5>2d00 10c7>2d27
10cd>2d2d 13f8-13fd>13f0 1c80>432 1c81>434 1c82>43e 1c83-1c84>441 1c85>442 1c86>44a 1c87>463
1c88>a64b 1c89>1c8a 1c90-1cba>10d0 1cbd-1cbf>10fd 1e00+1e94>1e01 1e9b>1e61 1e9e>df
1ea0+1efe>1ea1 1f08-1f0f>1f00 1f18-1f1d>1f10 1f28-1f2f>1f20 1f38-1f3f>1f30 1f48-1f4d>1f40
1f59+1f5f>1f51 1f68-1f6f>1f60 1f88-1f8f>1f80 1f98-1f9f>1f90 1fa8-1faf>1fa0 1fb8-1fb9>1fb0
1fba-1fbb>1f70 1fbc>1fb3 1fbe>3b9 1fc8-1fcb>1f72 1fcc>1fc3 1fd3>390 1fd8-1fd9>1fd0
1fda-1fdb>1f76 1fe3>3b0 1fe8-1fe9>1fe0 1fea-1feb>1f7a 1fec>1fe5 1ff8-1ff9>1f78 1ffa-1ffb>1f7c
1ffc>1ff3 2126>3c9 212a>6b 212b>e5 2132>214e 2160-216f>2170 2183>2184 24b6-24cf>24d0
2c00-2c2f>2c30 2c60>2c61 2c62>26b 2c63>1d7d 2c64>27d 2c67+2c6b>2c68 2c6d>251 2c6e>271 2c6f>250
2c70>252 2c72>2c73 2c75>2c76 2c7e-2c7f>23f 2c80+2ce2>2c81 2ceb+2ced>2cec 2cf2>2cf3
a640+a66c>a641 a680+a69a>a681 a722+a72e>a723 a732+a76e>a733 a779+a77b>a77a a77d>1d79
a77e+a786>a77f a78b>a78c a78d>265 a790+a792>a791 a796+a7a8>a797 a7aa>266 a7ab>25c a7ac>261
a7ad>26c a7ae>26a a7b0>29e a7b1>287 a7b2>29d a7b3>ab53 a7b4+a7c2>a7b5 a7c4>a794 a7c5>282
a7c6>1d8e a7c7+a7c9>a7c8 a7cb>264 a7cc>a7cd a7d0>a7d1 a7d6+a7da>a7d7 a7dc>19b a7f5>a7f6
ab70-abbf>13a0 fb06>fb05 ff21-ff3a>ff41 10400-10427>10428 104b0-104d3>104d8 10570-1057a>10597
1057c-1058a>105a3 1058c-10592>105b3 10594-10595>105bb 10c80-10cb2>10cc0 10d50-10d65>10d70
118a0-118bf>118c0 16e40-16e5f>16e60 1e900-1e921>1e922").map CodeShift.ofWord

/-- The characters that stand for the same letter as another one, each with that one. -/
def foldPairs : List (Nat × Nat) := foldShifts.flatMap CodeShift.pairs

/-- The capitals of ASCII, each with its small letter. -/
def asciiFoldPairs : List (Nat × Nat) := foldPairs.filter (·.1 < 0x80)

/-- The characters that differ at most in case from one of a set, by a list of characters each with
the one that stands for it. -/
def foldCase (pairs : List (Nat × Nat)) (s : CharSet) : CharSet :=
  let lowered := s.union <| .ofList <|
    pairs.filterMap fun (n, low) => if s.containsCode n then some (low, low) else none
  lowered.union <| .ofList <|
    pairs.filterMap fun (n, low) => if lowered.containsCode low then some (n, n) else none

namespace CharSet

/-- The characters from one to another. -/
def range (lo hi : Char) : CharSet := ⟨#[(lo.toNat, hi.toNat)]⟩

/-- One character. -/
def single (c : Char) : CharSet := range c c

/-- All characters. -/
def any : CharSet := CodeRanges.empty.compl

/-! ### Sets by property -/

/-- Code points that have a category in the table and none in the edition that expressions go by. -/
def unassignedYet : CodeRanges := .ofText
  "88f c5c cdc 1acf-1add 1ae0-1aeb 20c1 2b96 a7ce-a7cf a7d2 a7d4 a7f1 fbc3-fbd2 fd90-fd91 fdc8-fdce
10940-10959 10ec5-10ec7 10ed0-10ed8 10efa-10efb 11b60-11b67 11db0-11ddb 11de0-11de9 16ea0-16eb8
16ebb-16ed3 16ff2-16ff6 187f8-187ff 18d09-18d1e 18d80-18df2 1ccfa-1ccfc 1ceba-1ced0 1cee0-1cef0
1e6c0-1e6de 1e6e0-1e6f5 1e6fe-1e6ff 1f6d8 1f777-1f77a 1f8d0-1f8d8 1fa54-1fa57 1fa8a 1fa8e 1fac8
1facd 1faea 1faef 1fbfa 2b73a-2b73f 2cea2-2cead 323b0-33479"

/-- The characters of some categories. The later assignments are taken back, and a letter that has
become one without case is a small letter. -/
def ofCategories (cs : List Category) : CharSet :=
  let now := Category.codes cs
  let kept := if .unassigned ∈ cs then now.union unassignedYet else now.diff unassignedYet
  if .lower ∈ cs then kept.union (single '\u0295')
  else if .otherLetter ∈ cs then kept.diff (single '\u0295')
  else kept

end CharSet

/-- A description of a set of characters. -/
inductive Description where
  | codes (ranges : String)
  | row (table : List (List String × String)) (name : String)
  | categories (cs : List Category)
  | every (first step count : Nat)
  | either (a b : Description)
  | both (a b : Description)
  | except (a b : Description)

namespace Description

instance : Union Description := ⟨either⟩
instance : Inter Description := ⟨both⟩
instance : SDiff Description := ⟨except⟩

/-- The code points of the row of a table with a name. -/
def row? (table : List (List String × String)) (name : String) : Option CharSet :=
  (table.find? (·.1.contains name)).map (.ofText ·.2)

/-- The set that a description describes. -/
def set : Description → CharSet
  | codes ranges => .ofText ranges
  | row table name => (row? table name).getD .empty
  | categories cs => .ofCategories cs
  | every first step count => .ofList ((List.range' first count step).map fun n => (n, n))
  | either a b => a.set.union b.set
  | both a b => a.set.inter b.set
  | except a b => a.set.diff b.set

end Description

namespace CharSet

/-! ### Sets with a name of their own -/

/-- The word characters of ASCII. -/
def asciiWord : CharSet := .ofText "30-39 41-5a 5f 61-7a"

/-- The digits of ASCII. -/
def asciiDigit : CharSet := range '0' '9'

/-- The white space of ASCII. -/
def asciiWhite : CharSet := .ofText "9-d 20"

/-- The sets of ASCII characters that have a name in brackets. -/
def asciiNamed? (name : String) : Option CharSet :=
  (([("alnum", "30-39 41-5a 61-7a"), ("alpha", "41-5a 61-7a"), ("ascii", "0-7f"),
     ("blank", "9 20"), ("cntrl", "0-1f 7f"), ("digit", "30-39"), ("graph", "21-7e"),
     ("lower", "61-7a"), ("print", "20-7e"), ("punct", "21-2f 3a-40 5b-60 7b-7e"),
     ("space", "9-d 20"), ("upper", "41-5a"), ("word", "30-39 41-5a 5f 61-7a"),
     ("xdigit", "30-39 41-46 61-66")] : List (String × String)).lookup name).map .ofText

end CharSet

end Stencil.Regex
