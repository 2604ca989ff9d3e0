/-
  FrontLint.Block.Tag — opening and closing tags of a given name. Names are compared up to case.
  An opening tag is `<name>`, or `<name` with white space after it and anything up to the next `>`;
  a closing tag is `</name>` with optional white space before the `>`.
-/

import FrontLint.Text.Blank
import FrontLint.Text.CaseFold

namespace FrontLint.Block

/-- What is left of a text after a tag name, compared up to case. -/
def afterName? : Text → Text → Option Text
  | [], t => some t
  | _ :: _, [] => none
  | a :: name, c :: t => if Text.sameFold a c then afterName? name t else none

/-- How many characters there are up to and including the first `>`. -/
def throughGt? : Text → Option Nat
  | [] => none
  | c :: t => if c = '>' then some 1 else (throughGt? t).map (· + 1)

/-- The length of the opening tag at the start of a text. -/
def openLength? (name : Text) : Text → Option Nat
  | '<' :: t =>
    match afterName? name t with
    | some (c :: rest) =>
      if c = '>' then some (name.length + 2)
      else if Text.isBlank c then (throughGt? rest).map (· + (name.length + 2))
      else none
    | _ => none
  | _ => none

/-- The length of the closing tag at the start of a text. -/
def closeLength? (name : Text) : Text → Option Nat
  | '<' :: '/' :: t =>
    match afterName? name t with
    | some rest =>
      match rest.dropWhile Text.isBlank with
      | '>' :: _ => some (name.length + 3 + (rest.takeWhile Text.isBlank).length)
      | _ => none
    | none => none
  | _ => none

/-- A tag that ends in `/>` has no body. -/
def isSelfClosing (tag : Text) : Bool := Text.endsWith ['/', '>'] tag

end FrontLint.Block
