import PegKit.Unicode.Age
import PegKit.Unicode.TextBreak

/-!
# Names of properties

The names by which properties and their values can be asked for, in small letters without blanks,
dashes and underscores.
-/

namespace PegKit.Unicode.Property

/-- The first table that has `name` among its names. -/
def lookup? {α : Type} (name : String) (tables : List (List String × α)) : Option α :=
  (tables.find? fun entry ↦ entry.1.contains name).map Prod.snd

/-- Properties that a character has or has not. -/
def binaries : List (List String × RangeTable) :=
  [(["ahex", "asciihexdigit"], .ofText "30-39 41-46 61-66"), (["alpha", "alphabetic"], alphabetic),
    (["bidic", "bidicontrol"], bidiControl), (["bidim", "bidimirrored"], bidiMirrored),
    (["ci", "caseignorable"], caseIgnorable), (["cased"], cased),
    (["cwcf", "changeswhencasefolded"], changesWhenCasefolded),
    (["cwcm", "changeswhencasemapped"], changesWhenCasemapped),
    (["cwl", "changeswhenlowercased"], changesWhenLowercased),
    (["cwt", "changeswhentitlecased"], changesWhenTitlecased),
    (["cwu", "changeswhenuppercased"], changesWhenUppercased), (["dash"], dash),
    (["di", "defaultignorablecodepoint"], defaultIgnorableCodePoint),
    (["dep", "deprecated"], deprecated), (["dia", "diacritic"], diacritic), (["emoji"], emoji),
    (["ecomp", "emojicomponent"], emojiComponent), (["emod", "emojimodifier"], emojiModifier),
    (["ebase", "emojimodifierbase"], emojiModifierBase),
    (["epres", "emojipresentation"], emojiPresentation),
    (["extpict", "extendedpictographic"], extendedPictographic), (["ext", "extender"], extender),
    (["grbase", "graphemebase"], graphemeBase), (["grext", "graphemeextend"], graphemeExtend),
    (["grlink", "graphemelink"], graphemeLink),
    (["hex", "hexdigit"], .ofText "30-39 41-46 61-66 FF10-FF19 FF21-FF26 FF41-FF46"),
    (["hyphen"], hyphen), (["idsb", "idsbinaryoperator"], idsBinaryOperator),
    (["idst", "idstrinaryoperator"], idsTrinaryOperator),
    (["idsu", "idsunaryoperator"], idsUnaryOperator),
    (["idcompatmathcontinue"], idCompatMathContinue), (["idcompatmathstart"], idCompatMathStart),
    (["idc", "idcontinue"], idContinue), (["ids", "idstart"], idStart),
    (["ideo", "ideographic"], ideographic), (["joinc", "joincontrol"], joinControl),
    (["loe", "logicalorderexception"], logicalOrderException), (["lower", "lowercase"], lowercase),
    (["math"], math), (["mcm", "modifiercombiningmark"], modifierCombiningMark),
    (["nchar", "noncharactercodepoint"], noncharacterCodePoint),
    (["oalpha", "otheralphabetic"], otherAlphabetic),
    (["odi", "otherdefaultignorablecodepoint"], otherDefaultIgnorableCodePoint),
    (["ogrext", "othergraphemeextend"], otherGraphemeExtend),
    (["oidc", "otheridcontinue"], otherIdContinue), (["oids", "otheridstart"], otherIdStart),
    (["olower", "otherlowercase"], otherLowercase), (["omath", "othermath"], otherMath),
    (["oupper", "otheruppercase"], otherUppercase), (["patsyn", "patternsyntax"], patternSyntax),
    (["patws", "patternwhitespace"], patternWhiteSpace),
    (["pcm", "prependedconcatenationmark"], prependedConcatenationMark),
    (["qmark", "quotationmark"], quotationMark), (["radical"], radical),
    (["ri", "regionalindicator"], regionalIndicator),
    (["sterm", "sentenceterminal"], sentenceTerminal), (["sd", "softdotted"], softDotted),
    (["term", "terminalpunctuation"], terminalPunctuation),
    (["uideo", "unifiedideograph"], unifiedIdeograph), (["upper", "uppercase"], uppercase),
    (["vs", "variationselector"], variationSelector),
    (["wspace", "whitespace", "space"], blankRanges), (["xidc", "xidcontinue"], xidContinue),
    (["xids", "xidstart"], xidStart)]

/-- Properties whose values have names of their own. -/
inductive Valued
  | category | script | scriptExtensions | age | glyphBreak | wordBreak | sentenceBreak
  deriving DecidableEq, Repr

def valued : List (List String × Valued) :=
  [(["gc", "generalcategory"], .category), (["sc", "script"], .script),
    (["scx", "scriptextensions"], .scriptExtensions), (["age"], .age),
    (["gcb", "graphemeclusterbreak"], .glyphBreak), (["wb", "wordbreak"], .wordBreak),
    (["sb", "sentencebreak"], .sentenceBreak)]

/-- Further properties of the standard. They are known by name, but no set can be asked of them. -/
def unsupported : List String :=
  ["bc", "bidiclass", "bmg", "bidimirroringglyph", "bpb", "bidipairedbracket", "bpt",
    "bidipairedbrackettype", "blk", "block", "cf", "casefolding", "ccc", "canonicalcombiningclass",
    "ce", "compositionexclusion", "compex", "fullcompositionexclusion", "cwkcf",
    "changeswhennfkccasefolded", "dm", "decompositionmapping", "dt", "decompositiontype", "ea",
    "eastasianwidth", "equideo", "equivalentunifiedideograph", "fcnfkc", "fcnfkcclosure", "hst",
    "hangulsyllabletype", "incb", "indicconjunctbreak", "inpc", "indicpositionalcategory", "insc",
    "indicsyllabiccategory", "isc", "ocomment", "jg", "joininggroup", "jsn", "jamoshortname", "jt",
    "joiningtype", "lb", "linebreak", "lc", "lowercasemapping", "na", "name", "na1", "unicode1name",
    "namealias", "nfcqc", "nfcquickcheck", "nfdqc", "nfdquickcheck", "nfkcqc", "nfkcquickcheck",
    "nfkdqc", "nfkdquickcheck", "nfkccf", "nfkccasefold", "nfkcscf", "nfkcsimplecasefold", "nt",
    "numerictype", "nv", "numericvalue", "scf", "simplecasefolding", "sfc", "slc",
    "simplelowercasemapping", "stc", "simpletitlecasemapping", "suc", "simpleuppercasemapping",
    "tc", "titlecasemapping", "uc", "uppercasemapping", "vo", "verticalorientation", "xonfc",
    "expandsonnfc", "xonfd", "expandsonnfd", "xonfkc", "expandsonnfkc", "xonfkd", "expandsonnfkd",
    "cjkaccountingnumeric", "kaccountingnumeric", "cjkcompatibilityvariant",
    "kcompatibilityvariant", "cjkiicore", "kiicore", "cjkirggsource", "kirggsource",
    "cjkirghsource", "kirghsource", "cjkirgjsource", "kirgjsource", "cjkirgkpsource",
    "kirgkpsource", "cjkirgksource", "kirgksource", "cjkirgmsource", "kirgmsource", "cjkirgssource",
    "kirgssource", "cjkirgtsource", "kirgtsource", "cjkirguksource", "kirguksource",
    "cjkirgusource", "kirgusource", "cjkirgvsource", "kirgvsource", "cjkothernumeric",
    "kothernumeric", "cjkprimarynumeric", "kprimarynumeric", "cjkrsunicode", "krsunicode",
    "unicoderadicalstroke", "urs", "kehcat", "kehdesc", "kehhg", "kehifao", "kehjsesh",
    "kehnomirror", "kehnorotate"]

/-- The characters of a general category or a group of them, or one of the three sets beside them:
all characters, the ASCII ones, and those that have a category. -/
def category? (name : String) : Option RangeTable :=
  if name = "any" then some [(0, 0x10FFFF)]
  else if name = "ascii" then some [(0, 0x7F)]
  else if name = "assigned" then some (Category.ranges .unassigned).complement
  else (lookup? name Category.named).map Category.rangesOf

/-- The characters that have the value called `name`. -/
def Valued.value? (name : String) : Valued → Option RangeTable
  | .category => category? name
  | .script => lookup? name scriptsNamed
  | .scriptExtensions => lookup? name scriptExtensionsNamed
  | .age => ofAge? name
  | .glyphBreak => lookup? name GlyphBreak.named
  | .wordBreak => lookup? name WordBreak.named
  | .sentenceBreak => lookup? name SentenceBreak.named

end PegKit.Unicode.Property
