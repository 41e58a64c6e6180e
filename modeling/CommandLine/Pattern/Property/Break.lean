import CommandLine.Pattern.Property.Binary

/-!
How characters join to those beside them. Three properties part texts into grapheme clusters, words
and sentences, and each has a value for every character; the values have loose names (Unicode 16).
-/

namespace CommandLine.Pattern.Property

open Category

def lineFeed : Rule := .listed ["A"]

def carriageReturn : Rule := .listed ["D"]

def joiner : Rule := .listed ["200D"]

/-- Signs that tell the skin of the person before them. -/
def skinTone : Rule := emojiModifier

/-! ## Grapheme clusters -/

/-- What begins a cluster and waits for a letter. -/
def prependers : Rule :=
  prependedConcatenationMark
    ∪ .listed ["D4E 111C2-111C3 113D1 1193F 11941 11A3A 11A84-11A89 11D46 11F02"]

def clusterControl : Rule :=
  (.categories [lineSeparator, paragraphSeparator, control, format]
    ∪ (defaultIgnorable \ (.any \ .categories [unassigned])))
    \ (.listed ["A D 200C-200D E0020-E007F"] ∪ prependedConcatenationMark)

def clusterSpacing : Rule :=
  (.categories [spacingMark] ∪ .listed ["E33 EB3"])
    \ (graphemeExtend
      ∪ .listed
        ["102B-102C 1038 1062-1064 1067-106D 1083 1087-108C 108F 109A-109C 1A61 1A63-1A64 AA7B",
         "AA7D 11720-11721"])

/-- The first consonants of syllables. -/
def leadingJamo : Rule := .listed ["1100-115F A960-A97C"]

/-- The vowels of syllables. -/
def vowelJamo : Rule := .listed ["1160-11A7 D7B0-D7C6 16D63 16D67-16D6A"]

/-- The last consonants of syllables. -/
def trailingJamo : Rule := .listed ["11A8-11FF D7CB-D7FB"]

/-- Syllables without a last consonant. -/
def openSyllable : Rule := .listed ["AC00-D788/1C"]

def closedSyllable : Rule := .listed ["AC00-D7A3"] \ openSyllable

/-- The values for grapheme clusters. -/
def clusterBreaks : List (List String × Rule) :=
  [(["cn", "control"], clusterControl), (["cr"], carriageReturn), (["lf"], lineFeed),
   (["ex", "extend"], graphemeExtend ∪ skinTone), (["zwj"], joiner),
   (["pp", "prepend"], prependers), (["sm", "spacingmark"], clusterSpacing),
   (["ri", "regionalindicator"], regionalIndicator), (["l"], leadingJamo), (["v"], vowelJamo),
   (["t"], trailingJamo), (["lv"], openSyllable), (["lvt"], closedSyllable)]

/-! ## Words -/

def wordExtend : Rule := graphemeExtend ∪ .categories [spacingMark] ∪ skinTone

def hebrewLetter : Rule :=
  .categories [otherLetter] \ (.any \ .script "hebr")

def katakana : Rule := .script "kana" ∪ .listed ["3031-3035 309B-309C 30A0 30FC FF70"]

/-- Scripts whose words are not apart. -/
def unspaced : Rule :=
  .script "thai" ∪ .script "laoo" ∪ .script "khmr" ∪ .script "mymr" ∪ .script "tale"
    ∪ .script "talu" ∪ .script "lana" ∪ .script "tavt" ∪ .script "ahom"

/-- The letters of words. -/
def wordLetter : Rule :=
  (alphabetic
    \ (ideographic ∪ katakana ∪ unspaced ∪ .script "hira" ∪ wordExtend ∪ hebrewLetter))
    ∪ .listed
      ["2C2-2C5 2D2-2D7 2DE-2DF 2E5-2EB 2ED 2EF-2FF 55A-55C 55E 58A 5F3 A708-A716 A720-A721",
       "A789-A78A AB5B"]

/-- The values for words. -/
def wordBreaks : List (List String × Rule) :=
  [(["cr"], carriageReturn), (["lf"], lineFeed), (["nl", "newline"], .listed ["B-C 85 2028-2029"]),
   (["extend"], wordExtend), (["zwj"], joiner),
   (["fo", "format"], .categories [format] \ .listed ["200B-200D E0020-E007F"]),
   (["ka", "katakana"], katakana), (["hl", "hebrewletter"], hebrewLetter),
   (["le", "aletter"], wordLetter), (["sq", "singlequote"], .listed ["27"]),
   (["dq", "doublequote"], .listed ["22"]),
   (["mb", "midnumlet"], .listed ["2E 2018-2019 2024 FE52 FF07 FF0E"]),
   (["ml", "midletter"], .listed ["3A B7 387 55F 5F4 2027 FE13 FE55 FF1A"]),
   (["mn", "midnum"],
    .listed ["2C 3B 37E 589 60C-60D 66C 7F8 2044 FE10 FE14 FE50 FE54 FF0C FF1B"]),
   (["nu", "numeric"], .categories [decimalNumber] ∪ .listed ["66B"]),
   (["ex", "extendnumlet"], .categories [connectorPunctuation] ∪ .listed ["202F"]),
   (["ri", "regionalindicator"], regionalIndicator),
   (["wsegspace"], .listed ["20 1680 2000-2006 2008-200A 205F 3000"])]

/-! ## Sentences -/

/-- The Georgian letters that sentences count as neither uppercase nor lowercase. -/
def caselessGeorgian : Rule := .listed ["10D0-10FA 10FD-10FF 1C90-1CBA 1CBD-1CBF"]

def sentenceLower : Rule := lowercase \ (graphemeExtend ∪ caselessGeorgian)

def sentenceUpper : Rule := (uppercase ∪ .categories [titlecaseLetter]) \ caselessGeorgian

def sentenceExtend : Rule := graphemeExtend ∪ .categories [spacingMark] ∪ joiner

/-- Full stops, which need not end a sentence. -/
def fullStop : Rule := .listed ["2E 2024 FE52 FF0E"]

/-- The values for sentences. -/
def sentenceBreaks : List (List String × Rule) :=
  [(["cr"], carriageReturn), (["lf"], lineFeed), (["se", "sep"], .listed ["85 2028-2029"]),
   (["ex", "extend"], sentenceExtend),
   (["fo", "format"], .categories [format] \ .listed ["200C-200D E0020-E007F"]),
   (["sp"], whiteSpace \ .listed ["A D 85 2028-2029"]), (["lo", "lower"], sentenceLower),
   (["up", "upper"], sentenceUpper),
   (["le", "oletter"],
    (alphabetic \ (sentenceLower ∪ sentenceUpper ∪ sentenceExtend)) ∪ .listed ["5F3"]),
   (["nu", "numeric"], .categories [decimalNumber] ∪ .listed ["66B-66C"]),
   (["at", "aterm"], fullStop), (["st", "sterm"], sentenceTerminal \ fullStop),
   (["sc", "scontinue"],
    .listed
      ["2C-2D 3A-3B 37E 55D 60C-60D 7F8 1802 1808 2013-2014 3001 FE10-FE11 FE13-FE14 FE31-FE32",
       "FE50-FE51 FE54-FE55 FE58 FE63 FF0C-FF0D FF1A-FF1B FF64"]),
   (["cl", "close"],
    .categories [openPunctuation, closePunctuation, initialPunctuation, finalPunctuation]
      ∪ .listed ["22 27 275B-2760 2E00-2E01 2E06-2E08 2E0B 1F676-1F678"])]

end CommandLine.Pattern.Property
