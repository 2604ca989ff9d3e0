/-
  FrontLint.Validator — vetoes on single matches. A rule may name a validator, which sees the
  matched text and where it stands and answers whether the match counts.

  Two validators are built in. `non-literal-argument` drops calls whose whole argument is one plain
  string literal; `not-localhost-url` drops addresses of the local machine.
-/

import FrontLint.Text.Blank

namespace FrontLint

/-- What a validator sees around a match: the file, the line (from 1), and the cleaned line, or the
matched text itself when the rule reads over lines. -/
structure MatchContext where
  file : String
  line : Nat
  content : Text
  deriving DecidableEq, Repr

structure Validator where
  accepts : Text → MatchContext → Bool

namespace Validator

/-- A quote at both ends; inside, no bare quote of the same kind unless something is escaped, and
no `$` before a brace if the quotes are backticks. -/
def isPlainLiteral : Text → Bool
  | [] => false
  | q :: rest =>
    match rest.getLast? with
    | none => false
    | some last =>
      let inner := rest.dropLast
      (q == '"' || q == '\'' || q == '`') && last == q &&
        !(inner.contains q && !inner.contains '\\') &&
        !(q == '`' && Text.contains ['$', '{'] inner)

/-- The text after the first `(`, without outer white space and closing parentheses. -/
def argument? (matched : Text) : Option Text :=
  match matched.dropWhile (· ≠ '(') with
  | [] => none
  | _ :: rest =>
    some (Text.trim ((Text.trim rest).reverse.dropWhile (· = ')')).reverse)

def nonLiteralArgument (matched : Text) : Bool :=
  match argument? matched with
  | none => true
  | some arg => !isPlainLiteral arg

/-- The names under which a machine reaches itself. -/
def localHosts : List Text := ["localhost", "127.0.0.1", "0.0.0.0", "[::1]"].map Text.ofString

def notLocalhostUrl (matched : Text) : Bool :=
  !localHosts.any fun host => Text.contains ('/' :: '/' :: host) (Text.asciiLower matched)

/-- The validators that a catalog may name. -/
abbrev Registry := String → Option Validator

def builtin : Registry
  | "non-literal-argument" => some ⟨fun matched _ => nonLiteralArgument matched⟩
  | "not-localhost-url" => some ⟨fun matched _ => notLocalhostUrl matched⟩
  | _ => none

end Validator

end FrontLint
