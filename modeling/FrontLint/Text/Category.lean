/-
  FrontLint.Text.Category — the groups of general categories that go by one letter.
-/

import FrontLint.Text.Category.Letter
import FrontLint.Text.Category.Mark
import FrontLint.Text.Category.Number
import FrontLint.Text.Category.Punctuation
import FrontLint.Text.Category.Symbol
import FrontLint.Text.Category.Invisible

namespace FrontLint.Category

/-- Letters with case. -/
def casedLetter : CharSet := .unionAll [uppercaseLetter, lowercaseLetter, titlecaseLetter]

def letter : CharSet := .unionAll [casedLetter, modifierLetter, otherLetter]

def mark : CharSet := .unionAll [nonspacingMark, spacingMark, enclosingMark]

def number : CharSet := .unionAll [decimalNumber, letterNumber, otherNumber]

def punctuation : CharSet :=
  .unionAll [connector, dash, openMark, closeMark, initialQuote, finalQuote, otherPunctuation]

def symbol : CharSet := .unionAll [mathSymbol, currencySymbol, modifierSymbol, otherSymbol]

def separator : CharSet := .unionAll [spaceSeparator, lineSeparator, paragraphSeparator]

/-- The code points that stand for a character. -/
def assigned : CharSet :=
  .unionAll [letter, mark, number, punctuation, symbol, separator, control, format, privateUse]

end FrontLint.Category
