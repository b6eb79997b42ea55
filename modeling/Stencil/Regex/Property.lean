import Stencil.Regex.AgeTable
import Stencil.Regex.CharSet
import Stencil.Regex.PropertyTable
import Stencil.Regex.ScriptTable
import Stencil.Text.Cut

/-!
# Regex — Property

Sets of characters by the names of their properties: yes-or-no properties, general categories,
scripts, editions, and the kinds that texts are cut into clusters, words and sentences by. Names are
compared without regard to case, spaces, underscores and hyphens. A property that follows from
others is described by them, and only the rest is looked up in tables.
-/

namespace Stencil.Regex

open Text

/-- A name as it is looked up: ASCII only, in lower case, without separators, and without an `is`
in front of it. -/
def plainName (name : List Char) : String :=
  let plain (cs : List Char) : List Char :=
    (cs.filter fun c => c.toNat < 0x80 && c != ' ' && c != '_' && c != '-').map Char.toLower
  match name with
  | i :: s :: rest =>
    if i.toLower == 'i' && s.toLower == 's' then
      if plain rest == ['c'] then "isc" else String.ofList (plain rest)
    else String.ofList (plain name)
  | _ => String.ofList (plain name)

/-- Descriptions with the names of what they describe. -/
abbrev Descriptions := List (List String × Description)

/-- The set whose description has a name. -/
def Descriptions.set? (ds : Descriptions) (name : String) : Option CharSet :=
  (ds.find? (·.1.contains name)).map (·.2.set)

namespace Description

/-- A row of the table of properties. -/
def property (name : String) : Description := row propertyRows name

/-- The characters that are counted to a script. -/
def script (name : String) : Description := row scriptRows name

/-! ### Letters and words -/

/-- Alphabetic characters: letters, letter numbers, and some marks and symbols. -/
def alphabetic : Description :=
  categories (.letterNumber :: Category.letters) ∪ property "oalpha"

/-- Small letters. -/
def lowercase : Description := categories [.lower] ∪ property "olower"

/-- Capital letters. -/
def uppercase : Description := categories [.upper] ∪ property "oupper"

/-- Characters with a case. -/
def cased : Description := lowercase ∪ uppercase ∪ categories [.title]

/-- Punctuation between the letters of a word. -/
def midLetter : Description := codes "3a b7 387 55f 5f4 2027 fe13 fe55 ff1a"

/-- Punctuation between the letters of a word or the digits of a number. -/
def midNumberLetter : Description := codes "2e 2018-2019 2024 fe52 ff07 ff0e"

/-- Characters that are passed over when the case of their neighbours is asked for. -/
def caseIgnorable : Description :=
  categories [.nonspacingMark, .enclosingMark, .format, .modifierLetter, .modifierSymbol] ∪
    midLetter ∪ midNumberLetter ∪ codes "27"

/-- Characters that another one takes the place of when case is folded. -/
def changedByFolding : Description :=
  (property "cwl" \ codes "13a0-13f5") ∪
    codes "b5 df 149 17f 345 3c2 3d0-3d1 3d5-3d6 3f0-3f1 3f5 587 13f8-13fd 1c80-1c88 1e9a-1e9b
1f80-1f87 1f90-1f97 1fa0-1fa7 1fb2-1fb4 1fb7 1fc2-1fc4 1fc7 1ff2-1ff4 1ff7 ab70-abbf fb00-fb06
fb13-fb17"

/-- Characters that another one takes the place of at the start of a title. -/
def changedByTitle : Description :=
  (property "cwu" ∪ codes "1c4 1c7 1ca 1f1") \
    codes "1c5 1c8 1cb 1f2 10d0-10fa 10fd-10ff 1f88-1f8f 1f98-1f9f 1fa8-1faf 1fbc 1fcc 1ffc"

/-- Characters that have another form of another case. -/
def changedByCase : Description := property "cwl" ∪ property "cwu" ∪ changedByTitle

/-- The word characters of expressions: alphabetic characters, marks, decimal digits, connectors,
and the two joiners. -/
def word : Description :=
  alphabetic ∪ categories (.decimal :: .connector :: Category.marks) ∪ property "joinc"

/-- Mathematical characters. -/
def math : Description := categories [.math] ∪ property "omath"

/-! ### Identifiers -/

/-- Characters of the punctuation and white space that patterns are written with. -/
def patternCharacter : Description := property "patsyn" ∪ property "patws"

/-- The characters that start identifiers. -/
def idStart : Description :=
  (categories (.letterNumber :: Category.letters) ∪ property "oids") \ patternCharacter

/-- The characters that go on in identifiers. -/
def idContinue : Description :=
  idStart ∪
    ((categories [.nonspacingMark, .spacingMark, .decimal, .connector] ∪ property "oidc") \
      patternCharacter)

/-- Characters whose compatibility forms do not do in identifiers what they do themselves. -/
def idChanging : Description :=
  codes "37a 309b-309c fc5e-fc63 fdfa-fdfb fe70 fe72 fe74 fe76 fe78 fe7a fe7c fe7e"

/-- The characters that start identifiers in all their forms. -/
def xidStart : Description := (idStart \ idChanging) \ codes "e33 eb3 ff9e-ff9f"

/-- The characters that go on in identifiers in all their forms. -/
def xidContinue : Description := idContinue \ idChanging

/-! ### Clusters -/

/-- Characters that show nothing where they are not known. -/
def ignorable : Description :=
  (property "odi" ∪ categories [.format] ∪ property "vs") \
    (property "wspace" ∪ codes "fff9-fffb 13430-13440" ∪ property "pcm")

/-- Characters that extend the character before them. -/
def extending : Description :=
  categories [.nonspacingMark, .enclosingMark] ∪ property "ogrext"

/-- Characters that other ones are put upon. -/
def base : Description :=
  codes "0-d7ff e000-10ffff" \
    (categories [.control, .format, .privateUse, .unassigned, .line, .paragraph] ∪ extending)

/-- Characters that extend a cluster. -/
def clusterExtend : Description := extending ∪ property "emod"

/-- Signs that go before a number. -/
def numberSign : Description := property "pcm" \ codes "70f"

/-- The syllables of two letters: the first in each row of twenty-eight. -/
def twoLetterSyllables : Description := every 0xac00 28 399

/-- The kinds of characters that texts are cut into clusters by. -/
def clusterKinds : Descriptions :=
  [(["cn", "control"],
    (categories [.line, .paragraph, .control, .format] ∪ (categories [.unassigned] ∩ ignorable)) \
      (codes "a d 200c-200d" ∪ property "pcm" ∪ clusterExtend)),
   (["cr"], codes "d"), (["ex", "extend"], clusterExtend), (["l"], codes "1100-115f a960-a97c"),
   (["lf"], codes "a"), (["lv"], twoLetterSyllables),
   (["lvt"], codes "ac00-d7a3" \ twoLetterSyllables),
   (["pp", "prepend"],
    codes "600-605 6dd 70f 890-891 8e2 d4e 110bd 110cd 111c2-111c3 113d1 1193f 11941 11a3a
11a84-11a89 11d46 11f02"),
   (["ri", "regionalindicator"], property "ri"),
   (["sm", "spacingmark"],
    (categories [.spacingMark] ∪ codes "e33 eb3") \
      (extending ∪
        codes "102b-102c 1038 1062-1064 1067-106d 1083 1087-108c 108f 109a-109c 1a61 1a63-1a64 aa7b
aa7d 11720-11721")),
   (["t"], codes "11a8-11ff d7cb-d7fb"), (["v"], codes "1160-11a7 d7b0-d7c6 16d63 16d67-16d6a"),
   (["zwj"], codes "200d")]

/-! ### Words -/

/-- Letters and marks of scripts whose words are not told apart by their characters. -/
def unspaced : Description :=
  script "thai" ∪ script "lao" ∪ script "mymr" ∪ script "khmr" ∪ script "tale" ∪ script "talu" ∪
    script "lana" ∪ script "tavt" ∪ script "hira" ∪ codes "11700-1171a 11740-11746"

/-- Characters of words in syllabic letters. -/
def wordKatakana : Description := script "kana" ∪ codes "3031-3035 309b-309c 30a0 30fc ff70"

/-- Characters that extend a word. -/
def wordExtend : Description := extending ∪ categories [.spacingMark] ∪ property "emod"

/-- Letters that a quotation mark may stand between. -/
def wordHebrew : Description := script "hebr" ∩ categories [.otherLetter]

/-- Letters of words. -/
def wordLetter : Description :=
  (alphabetic \ (property "ideo" ∪ wordKatakana ∪ unspaced ∪ wordExtend ∪ wordHebrew)) ∪
    codes "2c2-2c5 2d2-2d7 2de-2df 2e5-2eb 2ed 2ef-2ff 55a-55c 55e 58a 5f3 70f a708-a716 a720-a721
a789-a78a ab5b"

/-- The kinds of characters that texts are cut into words by. -/
def wordKinds : Descriptions :=
  [(["cr"], codes "d"), (["dq", "doublequote"], codes "22"),
   (["ex", "extendnumlet"], categories [.connector] ∪ codes "202f"), (["extend"], wordExtend),
   (["fo", "format"],
    categories [.format] \ (codes "200b-200d e0020-e007f" ∪ property "pcm")),
   (["hl", "hebrewletter"], wordHebrew), (["ka", "katakana"], wordKatakana),
   (["le", "aletter"], wordLetter), (["lf"], codes "a"), (["mb", "midnumlet"], midNumberLetter),
   (["ml", "midletter"], midLetter),
   (["mn", "midnum"], codes "2c 3b 37e 589 60c-60d 66c 7f8 2044 fe50 fe54 ff0c ff1b"),
   (["nl", "newline"], codes "b-c 85 2028-2029"),
   (["nu", "numeric"], categories [.decimal] ∪ numberSign ∪ codes "66b 19da"),
   (["ri", "regionalindicator"], property "ri"), (["sq", "singlequote"], codes "27"),
   (["wsegspace"], categories [.space] \ codes "a0 2007 202f"), (["zwj"], codes "200d")]

/-! ### Sentences -/

/-- Points that may end a sentence. -/
def pointTerminal : Description := codes "2e 2024 fe52 ff0e"

/-- Small letters of sentences. -/
def sentenceLower : Description := lowercase \ (extending ∪ codes "10d0-10fa 10fd-10ff")

/-- Capital letters of sentences. -/
def sentenceUpper : Description :=
  (uppercase ∪ categories [.title]) \ codes "1c90-1cba 1cbd-1cbf"

/-- Characters that extend a sentence. -/
def sentenceExtend : Description := extending ∪ categories [.spacingMark] ∪ codes "200d"

/-- The kinds of characters that texts are cut into sentences by. -/
def sentenceKinds : Descriptions :=
  [(["at", "aterm"], pointTerminal),
   (["cl", "close"],
    categories [.opening, .closing, .initialQuote, .finalQuote] ∪
      codes "22 27 275b-2760 2e00-2e01 2e06-2e08 2e0b 1f676-1f678"),
   (["cr"], codes "d"), (["ex", "extend"], sentenceExtend),
   (["fo", "format"], categories [.format] \ (codes "200c-200d e0020-e007f" ∪ numberSign)),
   (["le", "oletter"],
    (alphabetic ∪ codes "5f3") \ (sentenceLower ∪ sentenceUpper ∪ sentenceExtend)),
   (["lf"], codes "a"), (["lo", "lower"], sentenceLower),
   (["nu", "numeric"], categories [.decimal] ∪ numberSign ∪ codes "66b-66c 19da"),
   (["sc", "scontinue"],
    codes "2c-2d 3a-3b 37e 55d 60c-60d 7f8 1802 1808 2013-2014 3001 fe10-fe11 fe13-fe14 fe31-fe32
fe50-fe51 fe54-fe55 fe58 fe63 ff0c-ff0d ff1a-ff1b ff64"),
   (["se", "sep"], codes "85 2028-2029"),
   (["sp"], property "wspace" \ codes "a d 85 2028-2029"),
   (["st", "sterm"], property "sterm" \ pointTerminal), (["up", "upper"], sentenceUpper)]

/-! ### Yes-or-no properties and categories -/

/-- The yes-or-no properties that follow from others. -/
def derived : Descriptions :=
  [(["alpha", "alphabetic"], alphabetic), (["lower", "lowercase"], lowercase),
   (["upper", "uppercase"], uppercase), (["cased"], cased),
   (["ci", "caseignorable"], caseIgnorable),
   (["cwcf", "changeswhencasefolded"], changedByFolding),
   (["cwcm", "changeswhencasemapped"], changedByCase),
   (["cwt", "changeswhentitlecased"], changedByTitle),
   (["di", "defaultignorablecodepoint"], ignorable), (["grext", "graphemeextend"], extending),
   (["grbase", "graphemebase"], base), (["ids", "idstart"], idStart),
   (["idc", "idcontinue"], idContinue), (["xids", "xidstart"], xidStart),
   (["xidc", "xidcontinue"], xidContinue), (["math"], math)]

/-- The general categories and groups of them. -/
def generalCategories : Descriptions :=
  ([(["c", "other"], [.control, .format, .privateUse, .unassigned]),
    (["cc", "control", "cntrl"], [.control]), (["cf", "format"], [.format]),
    (["cn", "unassigned"], [.unassigned]), (["co", "privateuse"], [.privateUse]),
    (["l", "letter"], Category.letters), (["lc", "casedletter"], [.upper, .lower, .title]),
    (["ll", "lowercaseletter"], [.lower]), (["lm", "modifierletter"], [.modifierLetter]),
    (["lo", "otherletter"], [.otherLetter]), (["lt", "titlecaseletter"], [.title]),
    (["lu", "uppercaseletter"], [.upper]), (["m", "mark", "combiningmark"], Category.marks),
    (["mc", "spacingmark"], [.spacingMark]), (["me", "enclosingmark"], [.enclosingMark]),
    (["mn", "nonspacingmark"], [.nonspacingMark]), (["n", "number"], Category.numbers),
    (["nd", "decimalnumber", "digit"], [.decimal]), (["nl", "letternumber"], [.letterNumber]),
    (["no", "othernumber"], [.otherNumber]),
    (["p", "punctuation", "punct"],
      [.connector, .dash, .opening, .closing, .initialQuote, .finalQuote, .otherPunctuation]),
    (["pc", "connectorpunctuation"], [.connector]), (["pd", "dashpunctuation"], [.dash]),
    (["pe", "closepunctuation"], [.closing]), (["pf", "finalpunctuation"], [.finalQuote]),
    (["pi", "initialpunctuation"], [.initialQuote]),
    (["po", "otherpunctuation"], [.otherPunctuation]), (["ps", "openpunctuation"], [.opening]),
    (["s", "symbol"], [.math, .currency, .modifierSymbol, .otherSymbol]),
    (["sc", "currencysymbol"], [.currency]), (["sk", "modifiersymbol"], [.modifierSymbol]),
    (["sm", "mathsymbol"], [.math]), (["so", "othersymbol"], [.otherSymbol]),
    (["z", "separator"], [.space, .line, .paragraph]), (["zl", "lineseparator"], [.line]),
    (["zp", "paragraphseparator"], [.paragraph]), (["zs", "spaceseparator"], [.space])] :
      List (List String × List Category)).map fun (names, cs) => (names, categories cs)

end Description

open Description

/-! ### Sets by name -/

/-- A yes-or-no property. -/
def property? (name : String) : Option CharSet :=
  derived.set? name <|> row? propertyRows name

/-- The characters of a general category or of a group of them. -/
def category? (name : String) : Option CharSet :=
  match name with
  | "any" => some .any
  | "ascii" => some (.range '\x00' '\x7f')
  | "assigned" => some (CharSet.ofCategories [.unassigned]).compl
  | _ => generalCategories.set? name

/-- The characters that are counted to a script. -/
def script? (name : String) : Option CharSet := row? scriptRows name

/-- The characters that are used with a script. Those of no script in particular are the ones that
are not known to be used with some scripts only. -/
def extensions? (name : String) : Option CharSet := do
  let (names, ranges) ← scriptRows.find? (·.1.contains name)
  let own : CharSet := .ofText ranges
  if names.contains "zyyy" || names.contains "zinh" then
    return own.diff (.ofText (" ".intercalate (sharedRows.map (·.2))))
  else
    return own.union ((names.findSome? (row? sharedRows ·)).getD .empty)

/-- The characters that were assigned in an edition of the tables or before it. -/
def age? (name : String) : Option CharSet := do
  let later := ageRows.dropWhile (!·.1.contains name)
  let _ ← later.head?
  return .ofText (" ".intercalate ((ageRows.take (ageRows.length + 1 - later.length)).map (·.2)))

/-- The characters that a property name alone stands for: a yes-or-no property, else a general
category, else a script. Three short names are those of categories before all. -/
def named? (name : List Char) : Option CharSet :=
  let plain := plainName name
  let first := if plain ∈ ["cf", "sc", "lc"] then none else property? plain
  first <|> category? plain <|> script? plain

/-- The characters for which a property has a value. -/
def valued? (name value : List Char) : Option CharSet :=
  let plain := plainName value
  match plainName name with
  | "gc" | "generalcategory" => category? plain
  | "sc" | "script" => script? plain
  | "scx" | "scriptextensions" => extensions? plain
  | "age" => age? plain
  | "gcb" | "graphemeclusterbreak" => clusterKinds.set? plain
  | "wb" | "wordbreak" => wordKinds.set? plain
  | "sb" | "sentencebreak" => sentenceKinds.set? plain
  | _ => none

/-- The set that the text in the braces of a property escape stands for, and whether its complement
is meant. -/
def inBraces? (text : List Char) : Option (CharSet × Bool) :=
  match cutAt? ['!', '='] text with
  | some (name, value) => (valued? name value).map (·, true)
  | none =>
    match cutAt? [':'] text <|> cutAt? ['='] text with
    | some (name, value) => (valued? name value).map (·, false)
    | none => (named? text).map (·, false)

namespace CharSet

/-- The word characters of expressions. -/
def word : CharSet := Description.word.set

/-- Decimal digits. -/
def digit : CharSet := ofCategories [.decimal]

/-- White space. -/
def white : CharSet := (Description.property "wspace").set

end CharSet

end Stencil.Regex
