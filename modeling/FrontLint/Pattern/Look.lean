/-
  FrontLint.Pattern.Look — conditions on a place between two characters: ends of the text and of its
  lines, and edges of words.
-/

import FrontLint.Pattern.Property

namespace FrontLint.Pattern

/-! ## Shorthand classes -/

/-- Decimal digits of any script. -/
def digits : CharSet := Property.decimal

def blanks : CharSet := Property.whiteSpace

/-- Word characters: letters, marks, decimal digits, connectors and joiners. -/
def wordChars : CharSet :=
  .unionAll [Property.alphabetic, Property.mark, Property.decimal, Category.connector,
    Property.joinControl]

def asciiDigits : CharSet := .range '0' '9'

def asciiBlanks : CharSet := .ofChars ['\t', '\n', '\x0B', '\x0C', '\r', ' ']

def asciiWordChars : CharSet :=
  .unionAll [asciiDigits, .range 'A' 'Z', .single '_', .range 'a' 'z']

def isAsciiWord (c : Char) : Bool := c.isAlphanum || c == '_'

def isWord (c : Char) : Bool :=
  if c.toNat < 128 then isAsciiWord c else wordChars.contains c

/-! ## Conditions -/

/-- How a place lies to the words around it. The half edges look at one side only. -/
inductive Edge where
  | boundary
  | noBoundary
  | wordStart
  | wordEnd
  | halfStart
  | halfEnd
  deriving DecidableEq, Repr

inductive Look where
  | textStart
  | textEnd
  /-- Lines end with `\n`; with `returns`, also with `\r` and `\r\n`. -/
  | lineStart (returns : Bool)
  | lineEnd (returns : Bool)
  /-- Words are made of word characters of any script, or of those of ASCII. -/
  | edge (e : Edge) (ascii : Bool)
  deriving DecidableEq, Repr

def Edge.holds (e : Edge) (wordBefore wordAfter : Bool) : Bool :=
  match e with
  | .boundary => wordBefore != wordAfter
  | .noBoundary => wordBefore == wordAfter
  | .wordStart => !wordBefore && wordAfter
  | .wordEnd => wordBefore && !wordAfter
  | .halfStart => !wordBefore
  | .halfEnd => !wordAfter

/-- Whether the condition holds between `before` and `after`, which are absent at the ends of the
text. -/
def Look.holds (l : Look) (before after : Option Char) : Bool :=
  match l with
  | .textStart => before.isNone
  | .textEnd => after.isNone
  | .lineStart false => before.all (· == '\n')
  | .lineEnd false => after.all (· == '\n')
  | .lineStart true => before.all fun c => c == '\n' || (c == '\r' && after != some '\n')
  | .lineEnd true => after.all fun c => c == '\r' || (c == '\n' && before != some '\r')
  | .edge e ascii =>
    let inWord := if ascii then isAsciiWord else isWord
    e.holds (before.any inWord) (after.any inWord)

end FrontLint.Pattern
