/-
  FrontLint.Pattern.Property.Trait — the general categories of Unicode 16.0, and the properties that
  a character has or has not. Names are in lower case, without separators.
-/

import FrontLint.Text.Alphabetic
import FrontLint.Text.Recent
import FrontLint.Text.Blank
import FrontLint.Pattern.Property.Binary
import FrontLint.Pattern.Property.Case
import FrontLint.Pattern.Property.Emoji

namespace FrontLint.Pattern.Property

/-! ## Categories -/

/-- What 16.0 has of a set of 17.0. -/
def settled (s : CharSet) : CharSet := s.diff Text.recent

/-- A letter that became one without case in 17.0. -/
def formerLowercase : CharSet := .ofRanges [(0x295, 0x295)]

def lowercaseLetter : CharSet := (settled Category.lowercaseLetter).union formerLowercase

def otherLetter : CharSet := (settled Category.otherLetter).diff formerLowercase

def casedLetter : CharSet := (settled Category.casedLetter).union formerLowercase

def letter : CharSet := settled Category.letter

def letterNumber : CharSet := settled Category.letterNumber

def decimal : CharSet := settled Category.decimalNumber

def nonspacingMark : CharSet := settled Category.nonspacingMark

def spacingMark : CharSet := settled Category.spacingMark

def mark : CharSet := settled Category.mark

def assigned : CharSet := settled Category.assigned

def unassigned : CharSet := (assigned.union (.ofRanges [(0xD800, 0xDFFF)])).compl

/-- General categories by name. -/
def category? (name : String) : Option CharSet :=
  match name with
  | "any" => some .full
  | "ascii" => some (.ofRanges [(0, 0x7F)])
  | "assigned" => some assigned
  | "lu" | "uppercaseletter" => some (settled Category.uppercaseLetter)
  | "ll" | "lowercaseletter" => some lowercaseLetter
  | "lt" | "titlecaseletter" => some Category.titlecaseLetter
  | "lc" | "casedletter" => some casedLetter
  | "lm" | "modifierletter" => some (settled Category.modifierLetter)
  | "lo" | "otherletter" => some otherLetter
  | "l" | "letter" => some letter
  | "mn" | "nonspacingmark" => some nonspacingMark
  | "mc" | "spacingmark" => some spacingMark
  | "me" | "enclosingmark" => some Category.enclosingMark
  | "m" | "mark" | "combiningmark" => some mark
  | "nd" | "decimalnumber" | "digit" => some decimal
  | "nl" | "letternumber" => some letterNumber
  | "no" | "othernumber" => some (settled Category.otherNumber)
  | "n" | "number" => some (settled Category.number)
  | "pc" | "connectorpunctuation" => some Category.connector
  | "pd" | "dashpunctuation" => some Category.dash
  | "ps" | "openpunctuation" => some Category.openMark
  | "pe" | "closepunctuation" => some Category.closeMark
  | "pi" | "initialpunctuation" => some Category.initialQuote
  | "pf" | "finalpunctuation" => some Category.finalQuote
  | "po" | "otherpunctuation" => some (settled Category.otherPunctuation)
  | "p" | "punctuation" | "punct" => some (settled Category.punctuation)
  | "sm" | "mathsymbol" => some (settled Category.mathSymbol)
  | "sc" | "currencysymbol" => some (settled Category.currencySymbol)
  | "sk" | "modifiersymbol" => some Category.modifierSymbol
  | "so" | "othersymbol" => some (settled Category.otherSymbol)
  | "s" | "symbol" => some (settled Category.symbol)
  | "zs" | "spaceseparator" => some Category.spaceSeparator
  | "zl" | "lineseparator" => some Category.lineSeparator
  | "zp" | "paragraphseparator" => some Category.paragraphSeparator
  | "z" | "separator" => some Category.separator
  | "cc" | "control" | "cntrl" => some Category.control
  | "cf" | "format" => some Category.format
  | "co" | "privateuse" => some Category.privateUse
  | "cn" | "unassigned" => some unassigned
  | "c" | "other" =>
    some (.unionAll [Category.control, Category.format, Category.privateUse, unassigned])
  | _ => none

/-! ## Properties that a character has or has not -/

def whiteSpace : CharSet :=
  .ofRanges [(0x9, 0xD), (0x20, 0x20), (0x85, 0x85), (0xA0, 0xA0), (0x1680, 0x1680),
    (0x2000, 0x200A), (0x2028, 0x2029), (0x202F, 0x202F), (0x205F, 0x205F), (0x3000, 0x3000)]

/-- The two invisible joiners. -/
def joinControl : CharSet := .ofRanges [(0x200C, 0x200D)]

def alphabetic : CharSet := settled Text.alphabetic

def lowercase : CharSet := lowercaseLetter.union otherLowercase

def uppercase : CharSet := (settled Category.uppercaseLetter).union otherUppercase

def cased : CharSet := .unionAll [lowercase, uppercase, Category.titlecaseLetter]

def idStart : CharSet :=
  (CharSet.unionAll [letter, letterNumber, otherIDStart]).diff
    (patternSyntax.union patternWhiteSpace)

def idContinue : CharSet :=
  (CharSet.unionAll
    [idStart, nonspacingMark, spacingMark, decimal, Category.connector, otherIDContinue]).diff
    (patternSyntax.union patternWhiteSpace)

/-- Characters whose compatibility form does not start a name, or does not go on with one. -/
def notInClosure : CharSet :=
  .ofRanges ([(0x37A, 0x37A), (0x309B, 0x309C), (0xFC5E, 0xFC63), (0xFDFA, 0xFDFB)] ++
    CharSet.alternating [(0xFE70, 0xFE7E)])

def notStartInClosure : CharSet :=
  notInClosure.union (.ofRanges [(0xE33, 0xE33), (0xEB3, 0xEB3), (0xFF9E, 0xFF9F)])

def graphemeExtend : CharSet :=
  .unionAll [nonspacingMark, Category.enclosingMark, otherGraphemeExtend]

def graphemeBase : CharSet :=
  (CharSet.unionAll [letter, mark, settled Category.number, settled Category.punctuation,
    settled Category.symbol, Category.spaceSeparator]).diff graphemeExtend

def caseIgnorable : CharSet :=
  .unionAll [nonspacingMark, Category.enclosingMark, Category.format,
    settled Category.modifierLetter, Category.modifierSymbol,
    .ofRanges [(0x27, 0x27), (0x2E, 0x2E), (0x3A, 0x3A), (0xB7, 0xB7), (0x387, 0x387),
      (0x55F, 0x55F), (0x5F4, 0x5F4), (0x2018, 0x2019), (0x2024, 0x2024), (0x2027, 0x2027),
      (0xFE13, 0xFE13), (0xFE52, 0xFE52), (0xFE55, 0xFE55), (0xFF07, 0xFF07), (0xFF0E, 0xFF0E),
      (0xFF1A, 0xFF1A)]]

def math : CharSet := (settled Category.mathSymbol).union otherMath

def defaultIgnorable : CharSet :=
  (CharSet.unionAll [otherDefaultIgnorableCodePoint, Category.format, variationSelector]).diff
    (.unionAll [whiteSpace, prependedConcatenationMark,
      .ofRanges [(0xFFF9, 0xFFFB), (0x13430, 0x13455)]])

/-- Binary properties by name. -/
def binary? (name : String) : Option CharSet :=
  match name with
  | "alphabetic" | "alpha" => some alphabetic
  | "asciihexdigit" | "ahex" => some (.ofRanges [(0x30, 0x39), (0x41, 0x46), (0x61, 0x66)])
  | "bidicontrol" | "bidic" => some bidiControl
  | "bidimirrored" | "bidim" => some bidiMirrored
  | "caseignorable" | "ci" => some caseIgnorable
  | "cased" => some cased
  | "changeswhencasefolded" | "cwcf" => some changesWhenCasefolded
  | "changeswhencasemapped" | "cwcm" =>
    some (.unionAll [changesWhenLowercased, changesWhenTitlecased, changesWhenUppercased])
  | "changeswhenlowercased" | "cwl" => some changesWhenLowercased
  | "changeswhentitlecased" | "cwt" => some changesWhenTitlecased
  | "changeswhenuppercased" | "cwu" => some changesWhenUppercased
  | "dash" => some dash
  | "defaultignorablecodepoint" | "di" => some defaultIgnorable
  | "deprecated" | "dep" => some deprecated
  | "diacritic" | "dia" => some diacritic
  | "emoji" => some emoji
  | "emojicomponent" | "ecomp" => some emojiComponent
  | "emojimodifier" | "emod" => some emojiModifier
  | "emojimodifierbase" | "ebase" => some emojiModifierBase
  | "emojipresentation" | "epres" => some emojiPresentation
  | "extendedpictographic" | "extpict" => some extendedPictographic
  | "extender" | "ext" => some extender
  | "graphemebase" | "grbase" => some graphemeBase
  | "graphemeextend" | "grext" => some graphemeExtend
  | "graphemelink" | "grlink" => some graphemeLink
  | "hexdigit" | "hex" => some hexDigit
  | "hyphen" => some hyphen
  | "idsbinaryoperator" | "idsb" => some idsBinaryOperator
  | "idstrinaryoperator" | "idst" => some idsTrinaryOperator
  | "idsunaryoperator" | "idsu" => some idsUnaryOperator
  | "idcompatmathcontinue" => some idCompatMathContinue
  | "idcompatmathstart" => some idCompatMathStart
  | "idcontinue" | "idc" => some idContinue
  | "idstart" | "ids" => some idStart
  | "ideographic" | "ideo" => some ideographic
  | "joincontrol" | "joinc" => some joinControl
  | "logicalorderexception" | "loe" => some logicalOrderException
  | "lowercase" | "lower" => some lowercase
  | "math" => some math
  | "modifiercombiningmark" | "mcm" => some modifierCombiningMark
  | "noncharactercodepoint" | "nchar" => some noncharacterCodePoint
  | "otheralphabetic" | "oalpha" => some otherAlphabetic
  | "otherdefaultignorablecodepoint" | "odi" => some otherDefaultIgnorableCodePoint
  | "othergraphemeextend" | "ogrext" => some otherGraphemeExtend
  | "otheridcontinue" | "oidc" => some otherIDContinue
  | "otheridstart" | "oids" => some otherIDStart
  | "otherlowercase" | "olower" => some otherLowercase
  | "othermath" | "omath" => some otherMath
  | "otheruppercase" | "oupper" => some otherUppercase
  | "patternsyntax" | "patsyn" => some patternSyntax
  | "patternwhitespace" | "patws" => some patternWhiteSpace
  | "prependedconcatenationmark" | "pcm" => some prependedConcatenationMark
  | "quotationmark" | "qmark" => some quotationMark
  | "radical" => some radical
  | "regionalindicator" | "ri" => some regionalIndicator
  | "sentenceterminal" | "sterm" => some sentenceTerminal
  | "softdotted" | "sd" => some softDotted
  | "terminalpunctuation" | "term" => some terminalPunctuation
  | "unifiedideograph" | "uideo" => some unifiedIdeograph
  | "uppercase" | "upper" => some uppercase
  | "variationselector" | "vs" => some variationSelector
  | "whitespace" | "wspace" | "space" => some whiteSpace
  | "xidcontinue" | "xidc" => some (idContinue.diff notInClosure)
  | "xidstart" | "xids" => some (idStart.diff notStartInClosure)
  | _ => none

end FrontLint.Pattern.Property
