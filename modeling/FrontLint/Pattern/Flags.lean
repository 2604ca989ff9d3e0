/-
  FrontLint.Pattern.Flags — settings that a pattern may switch on and off as it goes.
-/

namespace FrontLint.Pattern

structure Flags where
  /-- Letters stand for both of their cases. -/
  anyCase : Bool
  /-- `^` and `$` stand for the ends of lines too. -/
  multiLine : Bool
  /-- `.` stands for newlines too. -/
  dotAll : Bool
  /-- Repetitions are lazy, and greedy with a `?`. -/
  swapGreed : Bool
  /-- Classes and word edges know the characters of all scripts. -/
  unicode : Bool
  /-- `\r` ends a line as well as `\n`. -/
  returns : Bool
  /-- Blanks and comments between the parts of a pattern are passed over. -/
  verbose : Bool
  deriving DecidableEq, Repr

def Flags.initial : Flags where
  anyCase := false
  multiLine := false
  dotAll := false
  swapGreed := false
  unicode := true
  returns := false
  verbose := false

/-- One flag switched on or off. -/
structure FlagChange where
  flag : Char
  on : Bool
  deriving DecidableEq, Repr

def Flags.apply (f : Flags) (c : FlagChange) : Flags :=
  match c.flag with
  | 'i' => { f with anyCase := c.on }
  | 'm' => { f with multiLine := c.on }
  | 's' => { f with dotAll := c.on }
  | 'U' => { f with swapGreed := c.on }
  | 'u' => { f with unicode := c.on }
  | 'R' => { f with returns := c.on }
  | 'x' => { f with verbose := c.on }
  | _ => f

def isFlag (c : Char) : Bool :=
  c == 'i' || c == 'm' || c == 's' || c == 'U' || c == 'u' || c == 'R' || c == 'x'

end FrontLint.Pattern
