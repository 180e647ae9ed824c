import PegKit.Unicode.Blank
import PegKit.Unicode.CaseFolding
import PegKit.Unicode.Category
import PegKit.Unicode.Property

/-!
# Derived properties

Properties that the standard defines by categories and by other properties, with the exceptions it
makes. Those on changes of case start from the single-letter foldings and list what other mappings
of case add and take away.
-/

namespace PegKit.Unicode.Property

/-- The code points in any of `tables`. -/
def anyOf (tables : List RangeTable) : RangeTable :=
  .normalize tables.flatten

def alphabetic : RangeTable :=
  anyOf [Category.rangesOf (.letterNumber :: Category.letters), otherAlphabetic]

def lowercase : RangeTable :=
  anyOf [Category.ranges .lowercaseLetter, otherLowercase]

def uppercase : RangeTable :=
  anyOf [Category.ranges .uppercaseLetter, otherUppercase]

def cased : RangeTable :=
  anyOf [lowercase, uppercase, Category.ranges .titlecaseLetter]

/-- Characters that do not separate the letters of a word when their case is told. -/
def caseIgnorable : RangeTable :=
  anyOf
    [Category.rangesOf [.nonspacingMark, .enclosingMark, .format, .modifierLetter, .modifierSymbol],
      .ofText "27 2E 3A B7 387 55F 5F4 2018-2019 2024 2027 FE13 FE52 FE55 FF07 FF0E FF1A"]

/-- The letters that fold to another one. -/
def folding : RangeTable :=
  .normalize (foldings.map fun pair ↦ (pair.1, pair.1))

/-- The letters that others fold to. -/
def folded : RangeTable :=
  .normalize (foldings.map fun pair ↦ (pair.2, pair.2))

def changesWhenCasefolded : RangeTable :=
  RangeTable.difference
    (folding.union
      (.ofText "DF 130 149 587 1E9A 1F80-1F87 1F90-1F97 1FA0-1FA7 1FB2-1FB4 1FB7 1FC2-1FC4 1FC7
        1FF2-1FF4 1FF7 FB00-FB04 FB06 FB13-FB17"))
    (.ofText "1FBE 1FD3 1FE3")

def changesWhenLowercased : RangeTable :=
  RangeTable.difference (folding.union (.ofText "130 13A0-13F5"))
    (.ofText "B5 17F 345 3C2 3D0-3D1 3D5-3D6 3F0-3F1 3F5 13F8-13FD 1C80-1C88 1E9B 1FBE 1FD3 1FE3
      AB70-ABBF FB05")

def changesWhenUppercased : RangeTable :=
  RangeTable.difference
    (anyOf [folded, lowercase.intersection folding,
      .ofText "131 149 1C5 1C8 1CB 1F0 1F2 587 1E96-1E9A 1F50 1F52 1F54 1F56 1F88-1F8F 1F98-1F9F
        1FA8-1FAF 1FB2 1FB4 1FB6-1FB7 1FBC 1FC2 1FC4 1FC6-1FC7 1FCC 1FD2 1FD6-1FD7 1FE2 1FE4
        1FE6-1FE7 1FF2 1FF4 1FF6-1FF7 1FFC FB00-FB04 FB13-FB17"])
    (.ofText "13A0-13F5")

def changesWhenTitlecased : RangeTable :=
  RangeTable.difference (changesWhenUppercased.union (.ofText "1C4 1C7 1CA 1F1"))
    (.ofText "1C5 1C8 1CB 1F2 10D0-10FA 10FD-10FF 1F88-1F8F 1F98-1F9F 1FA8-1FAF 1FBC 1FCC 1FFC")

def changesWhenCasemapped : RangeTable :=
  anyOf [changesWhenLowercased, changesWhenUppercased, changesWhenTitlecased]

def math : RangeTable :=
  anyOf [Category.ranges .mathSymbol, otherMath]

/-- Characters that join the one before them into one glyph. -/
def graphemeExtend : RangeTable :=
  anyOf [Category.rangesOf [.nonspacingMark, .enclosingMark], otherGraphemeExtend]

/-- Characters that start a glyph of their own. -/
def graphemeBase : RangeTable :=
  RangeTable.complement
    (anyOf [Category.rangesOf (.lineSeparator :: .paragraphSeparator :: Category.others),
      graphemeExtend])

/-- Characters kept for patterns. -/
def patternReserved : RangeTable :=
  anyOf [patternSyntax, patternWhiteSpace]

/-- Characters that identifiers may start with. -/
def idStart : RangeTable :=
  RangeTable.difference
    (anyOf [Category.rangesOf (.letterNumber :: Category.letters), otherIdStart]) patternReserved

/-- Characters that identifiers may go on with. -/
def idContinue : RangeTable :=
  RangeTable.difference
    (anyOf
      [idStart, otherIdContinue,
        Category.rangesOf [.nonspacingMark, .spacingMark, .decimalNumber, .connectorPunctuation]])
    patternReserved

/-- Starts of identifiers that stay so when normalized. -/
def xidStart : RangeTable :=
  idStart.difference
    (.ofText "37A E33 EB3 309B-309C FC5E-FC63 FDFA-FDFB FE70 FE72 FE74 FE76 FE78 FE7A FE7C FE7E
      FF9E-FF9F")

/-- Characters that identifiers may go on with, which stay so when normalized. -/
def xidContinue : RangeTable :=
  idContinue.difference
    (.ofText "37A 309B-309C FC5E-FC63 FDFA-FDFB FE70 FE72 FE74 FE76 FE78 FE7A FE7C FE7E")

/-- Characters that show nothing where they are not supported. -/
def defaultIgnorableCodePoint : RangeTable :=
  RangeTable.difference
    (anyOf [otherDefaultIgnorableCodePoint, Category.ranges .format, variationSelector])
    (anyOf [blankRanges, .ofText "FFF9-FFFB 13430-13440", prependedConcatenationMark])

end PegKit.Unicode.Property
