/-
  FrontLint.Pattern.Property.Segment — the parts that characters play where Unicode 16.0 divides
  text into graphemes, words and sentences. Names are in lower case, without separators.
-/

import FrontLint.Pattern.Property.Script
import FrontLint.Pattern.Property.Trait

namespace FrontLint.Pattern.Property

def carriageReturn : CharSet := .ofRanges [(0xD, 0xD)]

def lineFeed : CharSet := .ofRanges [(0xA, 0xA)]

def joiner : CharSet := .ofRanges [(0x200D, 0x200D)]

/-- The characters of a script. -/
def scriptChars (name : String) : CharSet := (scriptNamed? name).elim .empty (·.2)

/-! ## Graphemes -/

/-- The syllables of Hangul that have no final consonant are every 28th. -/
def openSyllables : CharSet :=
  .ofRanges ((List.range 399).map fun i => (0xAC00 + 28 * i, 0xAC00 + 28 * i))

def syllables : CharSet := .ofRanges [(0xAC00, 0xD7A3)]

/-- Formats and marks that stand in front of what they belong to. -/
def graphemeLeaders : CharSet :=
  prependedConcatenationMark.union (.ofRanges
    [(0xD4E, 0xD4E), (0x111C2, 0x111C3), (0x113D1, 0x113D1), (0x1193F, 0x1193F),
      (0x11941, 0x11941), (0x11A3A, 0x11A3A), (0x11A84, 0x11A89), (0x11D46, 0x11D46),
      (0x11F02, 0x11F02)])

def graphemeControl : CharSet :=
  (CharSet.unionAll [Category.control, Category.lineSeparator, Category.paragraphSeparator,
    Category.format, unassigned.inter defaultIgnorable]).diff
    (.unionAll [graphemeExtend, graphemeLeaders, joiner, carriageReturn, lineFeed])

/-- Spacing marks that do not join what is before them. -/
def apartMarks : CharSet :=
  .ofRanges [
    (0x102B, 0x102C), (0x1038, 0x1038), (0x1062, 0x1064), (0x1067, 0x106D), (0x1083, 0x1083),
    (0x1087, 0x108C), (0x108F, 0x108F), (0x109A, 0x109C), (0x1A61, 0x1A61), (0x1A63, 0x1A64),
    (0xAA7B, 0xAA7B), (0xAA7D, 0xAA7D), (0x11720, 0x11721)]

/-- Parts in graphemes by name. -/
def graphemePart? (name : String) : Option CharSet :=
  match name with
  | "control" | "cn" => some graphemeControl
  | "cr" => some carriageReturn
  | "extend" | "ex" => some (graphemeExtend.union emojiModifier)
  | "l" => some (.ofRanges [(0x1100, 0x115F), (0xA960, 0xA97C)])
  | "lf" => some lineFeed
  | "lv" => some openSyllables
  | "lvt" => some (syllables.diff openSyllables)
  | "prepend" | "pp" => some graphemeLeaders
  | "regionalindicator" | "ri" => some regionalIndicator
  | "spacingmark" | "sm" =>
    some ((spacingMark.union (.ofRanges [(0xE33, 0xE33), (0xEB3, 0xEB3)])).diff
      (graphemeExtend.union apartMarks))
  | "t" => some (.ofRanges [(0x11A8, 0x11FF), (0xD7CB, 0xD7FB)])
  | "v" =>
    some (.ofRanges [(0x1160, 0x11A7), (0xD7B0, 0xD7C6), (0x16D63, 0x16D63), (0x16D67, 0x16D6A)])
  | "zwj" => some joiner
  | _ => none

/-! ## Words -/

/-- Marks in front of a number. -/
def numberLeaders : CharSet := prependedConcatenationMark.diff (.ofRanges [(0x70F, 0x70F)])

def wordExtend : CharSet := .unionAll [graphemeExtend, spacingMark, emojiModifier]

def hebrewLetter : CharSet := (scriptChars "hebrew").inter otherLetter

def wordKatakana : CharSet :=
  (scriptChars "katakana").union (.ofRanges
    [(0x3031, 0x3035), (0x309B, 0x309C), (0x30A0, 0x30A0), (0x30FC, 0x30FC), (0xFF70, 0xFF70)])

/-- Signs that are used as letters. -/
def letterSigns : CharSet :=
  .ofRanges [
    (0x2C2, 0x2C5), (0x2D2, 0x2D7), (0x2DE, 0x2DF), (0x2E5, 0x2EB), (0x2ED, 0x2ED), (0x2EF, 0x2FF),
    (0x55A, 0x55C), (0x55E, 0x55E), (0x58A, 0x58A), (0x5F3, 0x5F3), (0x70F, 0x70F),
    (0xA708, 0xA716), (0xA720, 0xA721), (0xA789, 0xA78A), (0xAB5B, 0xAB5B)]

/-- Letters of writing systems that put no blanks between words. -/
def unspacedLetters : CharSet :=
  .ofRanges [
    (0xE01, 0xE30), (0xE32, 0xE33), (0xE40, 0xE46), (0xE81, 0xE82), (0xE84, 0xE84), (0xE86, 0xE8A),
    (0xE8C, 0xEA3), (0xEA5, 0xEA5), (0xEA7, 0xEB0), (0xEB2, 0xEB3), (0xEBD, 0xEBD), (0xEC0, 0xEC4),
    (0xEC6, 0xEC6), (0xEDC, 0xEDF), (0x1000, 0x102A), (0x103F, 0x103F), (0x1050, 0x1055),
    (0x105A, 0x105D), (0x1061, 0x1061), (0x1065, 0x1066), (0x106E, 0x1070), (0x1075, 0x1081),
    (0x108E, 0x108E), (0x1780, 0x17B3), (0x17D7, 0x17D7), (0x17DC, 0x17DC), (0x1950, 0x196D),
    (0x1970, 0x1974), (0x1980, 0x19AB), (0x19B0, 0x19C9), (0x1A20, 0x1A54), (0x1AA7, 0x1AA7),
    (0xA9E0, 0xA9E4), (0xA9E6, 0xA9EF), (0xA9FA, 0xA9FE), (0xAA60, 0xAA76), (0xAA7A, 0xAA7A),
    (0xAA7E, 0xAAAF), (0xAAB1, 0xAAB1), (0xAAB5, 0xAAB6), (0xAAB9, 0xAABD), (0xAAC0, 0xAAC0),
    (0xAAC2, 0xAAC2), (0xAADB, 0xAADD), (0x11700, 0x1171A), (0x11740, 0x11746)]

def wordLetter : CharSet :=
  (alphabetic.union letterSigns).diff
    (.unionAll [ideographic, wordKatakana, scriptChars "hiragana", hebrewLetter, wordExtend,
      unspacedLetters])

def wordNumeric : CharSet :=
  .unionAll [decimal, numberLeaders, .ofRanges [(0x66B, 0x66B), (0x19DA, 0x19DA)]]

/-- Parts in words by name. -/
def wordPart? (name : String) : Option CharSet :=
  match name with
  | "aletter" | "le" => some wordLetter
  | "cr" => some carriageReturn
  | "doublequote" | "dq" => some (.ofRanges [(0x22, 0x22)])
  | "extend" => some wordExtend
  | "extendnumlet" | "ex" => some (Category.connector.union (.ofRanges [(0x202F, 0x202F)]))
  | "format" | "fo" =>
    some (Category.format.diff (.unionAll [prependedConcatenationMark,
      .ofRanges [(0x200B, 0x200D), (0xE0020, 0xE007F)]]))
  | "hebrewletter" | "hl" => some hebrewLetter
  | "katakana" | "ka" => some wordKatakana
  | "lf" => some lineFeed
  | "midletter" | "ml" =>
    some (.ofRanges [
      (0x3A, 0x3A), (0xB7, 0xB7), (0x387, 0x387), (0x55F, 0x55F), (0x5F4, 0x5F4), (0x2027, 0x2027),
      (0xFE13, 0xFE13), (0xFE55, 0xFE55), (0xFF1A, 0xFF1A)])
  | "midnum" | "mn" =>
    some (.ofRanges [
      (0x2C, 0x2C), (0x3B, 0x3B), (0x37E, 0x37E), (0x589, 0x589), (0x60C, 0x60D), (0x66C, 0x66C),
      (0x7F8, 0x7F8), (0x2044, 0x2044), (0xFE50, 0xFE50), (0xFE54, 0xFE54), (0xFF0C, 0xFF0C),
      (0xFF1B, 0xFF1B)])
  | "midnumlet" | "mb" =>
    some (.ofRanges [
      (0x2E, 0x2E), (0x2018, 0x2019), (0x2024, 0x2024), (0xFE52, 0xFE52), (0xFF07, 0xFF07),
      (0xFF0E, 0xFF0E)])
  | "newline" | "nl" => some (.ofRanges [(0xB, 0xC), (0x85, 0x85), (0x2028, 0x2029)])
  | "numeric" | "nu" => some wordNumeric
  | "regionalindicator" | "ri" => some regionalIndicator
  | "singlequote" | "sq" => some (.ofRanges [(0x27, 0x27)])
  | "wsegspace" =>
    some (Category.spaceSeparator.diff
      (.ofRanges [(0xA0, 0xA0), (0x2007, 0x2007), (0x202F, 0x202F)]))
  | "zwj" => some joiner
  | _ => none

/-! ## Sentences -/

def sentenceExtend : CharSet := .unionAll [graphemeExtend, spacingMark, joiner]

/-- Small letters, without those of Georgian, which start sentences as well. -/
def sentenceLower : CharSet :=
  lowercase.diff (graphemeExtend.union (.ofRanges [(0x10D0, 0x10FA), (0x10FD, 0x10FF)]))

def sentenceUpper : CharSet :=
  (uppercase.union Category.titlecaseLetter).diff
    (.ofRanges [(0x1C90, 0x1CBA), (0x1CBD, 0x1CBF)])

/-- Full stops. -/
def fullStops : CharSet :=
  .ofRanges [(0x2E, 0x2E), (0x2024, 0x2024), (0xFE52, 0xFE52), (0xFF0E, 0xFF0E)]

def sentenceSeparator : CharSet := .ofRanges [(0x85, 0x85), (0x2028, 0x2029)]

/-- Parts in sentences by name. -/
def sentencePart? (name : String) : Option CharSet :=
  match name with
  | "aterm" | "at" => some fullStops
  | "cr" => some carriageReturn
  | "close" | "cl" =>
    some (.unionAll [Category.openMark, Category.closeMark, Category.initialQuote,
      Category.finalQuote, .ofRanges
        [(0x22, 0x22), (0x27, 0x27), (0x275B, 0x2760), (0x2E00, 0x2E01), (0x2E06, 0x2E08),
          (0x2E0B, 0x2E0B), (0x1F676, 0x1F678)]])
  | "extend" | "ex" => some sentenceExtend
  | "format" | "fo" =>
    some (Category.format.diff (.unionAll [numberLeaders,
      .ofRanges [(0x200C, 0x200D), (0xE0020, 0xE007F)]]))
  | "lf" => some lineFeed
  | "lower" | "lo" => some sentenceLower
  | "numeric" | "nu" => some (wordNumeric.union (.ofRanges [(0x66C, 0x66C)]))
  | "oletter" | "le" =>
    some ((alphabetic.union (.ofRanges [(0x5F3, 0x5F3)])).diff
      (.unionAll [sentenceLower, sentenceUpper, sentenceExtend]))
  | "scontinue" | "sc" =>
    some (.ofRanges [
      (0x2C, 0x2D), (0x3A, 0x3B), (0x37E, 0x37E), (0x55D, 0x55D), (0x60C, 0x60D), (0x7F8, 0x7F8),
      (0x1802, 0x1802), (0x1808, 0x1808), (0x2013, 0x2014), (0x3001, 0x3001), (0xFE10, 0xFE11),
      (0xFE13, 0xFE14), (0xFE31, 0xFE32), (0xFE50, 0xFE51), (0xFE54, 0xFE55), (0xFE58, 0xFE58),
      (0xFE63, 0xFE63), (0xFF0C, 0xFF0D), (0xFF1A, 0xFF1B), (0xFF64, 0xFF64)])
  | "sterm" | "st" => some (sentenceTerminal.diff fullStops)
  | "sep" | "se" => some sentenceSeparator
  | "sp" =>
    some (whiteSpace.diff (.unionAll [sentenceSeparator, carriageReturn, lineFeed]))
  | "upper" | "up" => some sentenceUpper
  | _ => none

end FrontLint.Pattern.Property
