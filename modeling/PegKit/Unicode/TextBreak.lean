import PegKit.Unicode.Property.Derived
import PegKit.Unicode.Script

/-!
# Text breaks

The classes of characters between which a text is cut into glyphs, words and sentences, by Unicode
16.0.
-/

namespace PegKit.Unicode

namespace GlyphBreak

/-- Marks and modifiers that join the character before them. -/
def extend : RangeTable :=
  Property.anyOf [Property.graphemeExtend, Property.emojiModifier]

def prepend : RangeTable :=
  .ofText "600-605 6DD 70F 890-891 8E2 D4E 110BD 110CD 111C2-111C3 113D1 1193F 11941 11A3A
    11A84-11A89 11D46 11F02"

def control : RangeTable :=
  let ignorable := (Category.ranges .unassigned).intersection Property.defaultIgnorableCodePoint
  let controls := Category.rangesOf [.lineSeparator, .paragraphSeparator, .control, .format]
  RangeTable.difference (controls.union ignorable)
    (Property.anyOf [.ofText "A D 200C-200D", Property.prependedConcatenationMark, extend])

/-- Marks that take up space. The exceptions are marks of the Burmese and Tai scripts. -/
def spacingMark : RangeTable :=
  RangeTable.difference ((Category.ranges .spacingMark).union (.ofText "E33 EB3"))
    (Property.anyOf
      [extend,
        .ofText "102B-102C 1038 1062-1064 1067-106D 1083 1087-108C 108F 109A-109C 1A61 1A63-1A64
          AA7B AA7D 11720-11721"])

/-- Hangul syllables without a final consonant. -/
def openSyllables : RangeTable :=
  (List.range 399).map fun i ↦ (0xAC00 + 28 * i, 0xAC00 + 28 * i)

/-- Hangul syllables with a final consonant. -/
def closedSyllables : RangeTable :=
  (List.range 399).map fun i ↦ (0xAC01 + 28 * i, 0xAC1B + 28 * i)

/-- The classes by name. -/
def named : List (List String × RangeTable) :=
  [(["cn", "control"], control), (["cr"], .ofText "D"), (["lf"], .ofText "A"),
    (["ex", "extend"], extend), (["pp", "prepend"], prepend),
    (["sm", "spacingmark"], spacingMark), (["zwj"], .ofText "200D"),
    (["ri", "regionalindicator"], Property.regionalIndicator),
    (["l"], .ofText "1100-115F A960-A97C"),
    (["v"], .ofText "1160-11A7 D7B0-D7C6 16D63 16D67-16D6A"),
    (["t"], .ofText "11A8-11FF D7CB-D7FB"), (["lv"], openSyllables), (["lvt"], closedSyllables)]

end GlyphBreak

/-- The characters of the script called `name`. -/
def scriptRanges (name : String) : RangeTable :=
  Property.anyOf ((scriptsNamed.filter fun script ↦ script.1.contains name).map Prod.snd)

/-- Signs that stand before the digits they enclose and count as digits. -/
def numericSigns : RangeTable :=
  .ofText "600-605 6DD 890-891 8E2 110BD 110CD"

namespace WordBreak

def extend : RangeTable :=
  Property.anyOf
    [Property.graphemeExtend, Category.ranges .spacingMark, Property.emojiModifier]

def katakana : RangeTable :=
  (scriptRanges "kana").union (.ofText "3031-3035 309B-309C 30A0 30FC FF70")

def hebrewLetter : RangeTable :=
  (scriptRanges "hebr").intersection (Category.ranges .otherLetter)

/-- Letters of scripts that put no blanks between words. -/
def unspacedLetters : RangeTable :=
  .ofText "E01-E3A E40-E4E E81-E82 E84 E86-E8A E8C-EA3 EA5 EA7-EBD EC0-EC4 EC6 EC8-ECE EDC-EDF
    1000-103F 1050-108F 109A-109F 1780-17D3 17D7 17DC-17DD 1950-196D 1970-1974 1980-19AB 19B0-19C9
    19DA 19DE-19DF 1A20-1A5E 1A60-1A7C 1AA0-1AAD A9E0-A9EF A9FA-A9FE AA60-AAC2 AADB-AADF 11700-1171A
    1171D-1172B 1173A-1173B 1173F-11746"

/-- Letters of scripts that put blanks between words. -/
def letter : RangeTable :=
  RangeTable.difference
    (Property.anyOf
      [Property.alphabetic,
        .ofText "2C2-2C5 2D2-2D7 2DE-2DF 2E5-2EB 2ED 2EF-2FF 55A-55C 55E 58A 5F3 70F A708-A716
          A720-A721 A789-A78A AB5B"])
    (Property.anyOf
      [Property.ideographic, katakana, unspacedLetters, scriptRanges "hira", extend, hebrewLetter])

def numeric : RangeTable :=
  Property.anyOf [Category.ranges .decimalNumber, .ofText "66B", numericSigns]

def format : RangeTable :=
  RangeTable.difference (Category.ranges .format)
    (Property.anyOf
      [.ofText "200B-200D", Property.graphemeExtend, Property.prependedConcatenationMark])

/-- The classes by name. -/
def named : List (List String × RangeTable) :=
  [(["cr"], .ofText "D"), (["lf"], .ofText "A"), (["nl", "newline"], .ofText "B-C 85 2028-2029"),
    (["extend"], extend), (["zwj"], .ofText "200D"),
    (["ri", "regionalindicator"], Property.regionalIndicator), (["fo", "format"], format),
    (["ka", "katakana"], katakana), (["hl", "hebrewletter"], hebrewLetter),
    (["le", "aletter"], letter), (["sq", "singlequote"], .ofText "27"),
    (["dq", "doublequote"], .ofText "22"),
    (["mb", "midnumlet"], .ofText "2E 2018-2019 2024 FE52 FF07 FF0E"),
    (["ml", "midletter"], .ofText "3A B7 387 55F 5F4 2027 FE13 FE55 FF1A"),
    (["mn", "midnum"], .ofText "2C 3B 37E 589 60C-60D 66C 7F8 2044 FE10 FE14 FE50 FE54 FF0C FF1B"),
    (["nu", "numeric"], numeric),
    (["ex", "extendnumlet"], (Category.ranges .connectorPunctuation).union (.ofText "202F")),
    (["wsegspace"], .ofText "20 1680 2000-2006 2008-200A 205F 3000")]

end WordBreak

namespace SentenceBreak

def extend : RangeTable :=
  Property.anyOf
    [Property.graphemeExtend, Category.ranges .spacingMark, .ofText "200D"]

/-- Lower case letters. The Georgian ones have no case in running text. -/
def lower : RangeTable :=
  Property.lowercase.difference
    (Property.anyOf [Property.graphemeExtend, .ofText "10D0-10FA 10FD-10FF"])

/-- Upper case letters. The Georgian ones have no case in running text. -/
def upper : RangeTable :=
  ((Category.ranges .titlecaseLetter).union Property.uppercase).difference
    (.ofText "1C90-1CBA 1CBD-1CBF")

def otherLetter : RangeTable :=
  RangeTable.difference (Property.alphabetic.union (.ofText "5F3"))
    (Property.anyOf [lower, upper, extend])

def numeric : RangeTable :=
  Property.anyOf [Category.ranges .decimalNumber, .ofText "66B-66C", numericSigns]

/-- Marks that end a sentence or abbreviate a word. -/
def fullStop : RangeTable :=
  .ofText "2E 2024 FE52 FF0E"

def terminal : RangeTable :=
  Property.sentenceTerminal.difference fullStop

def close : RangeTable :=
  RangeTable.difference
    (Property.anyOf
      [Category.rangesOf
        [.openPunctuation, .closePunctuation, .initialPunctuation, .finalPunctuation],
        .ofText "22 27 275B-2760 2E00-2E01 2E06-2E08 2E0B 1F676-1F678"])
    terminal

def separator : RangeTable :=
  .ofText "85 2028-2029"

def format : RangeTable :=
  RangeTable.difference (Category.ranges .format)
    (Property.anyOf [.ofText "200C-200D", Property.graphemeExtend, numericSigns])

/-- The classes by name. -/
def named : List (List String × RangeTable) :=
  [(["cr"], .ofText "D"), (["lf"], .ofText "A"), (["se", "sep"], separator),
    (["ex", "extend"], extend), (["fo", "format"], format), (["lo", "lower"], lower),
    (["up", "upper"], upper), (["le", "oletter"], otherLetter), (["nu", "numeric"], numeric),
    (["at", "aterm"], fullStop), (["st", "sterm"], terminal), (["cl", "close"], close),
    (["sp"], blankRanges.difference (separator.union (.ofText "A D"))),
    (["sc", "scontinue"],
      .ofText "2C-2D 3A-3B 37E 55D 60C-60D 7F8 1802 1808 2013-2014 3001 FE10-FE11 FE13-FE14
        FE31-FE32 FE50-FE51 FE54-FE55 FE58 FE63 FF0C-FF0D FF1A-FF1B FF64")]

end SentenceBreak

end PegKit.Unicode
