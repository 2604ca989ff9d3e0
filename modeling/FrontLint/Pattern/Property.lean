/-
  FrontLint.Pattern.Property — the character properties that a pattern may name, as Unicode 16.0 has
  them. A name alone stands for a category, a script, or a property that a character has or has not;
  a name with a value for the characters that have the property with this value.

  Names are compared without regard to case, blanks, `-`, `_` and an `is` in front.
-/

import FrontLint.Pattern.Property.Age
import FrontLint.Pattern.Property.Extension
import FrontLint.Pattern.Property.Segment
import FrontLint.Pattern.Property.Trait

namespace FrontLint.Pattern.Property

/-- A name in the form in which names are compared. -/
def normal (name : Text) : String :=
  let plain := (name.filter fun c => c.toNat < 128 && c != ' ' && c != '_' && c != '-').map
    Char.toLower
  match name with
  | i :: s :: _ =>
    if i.toLower = 'i' ∧ s.toLower = 's' then
      let rest := plain.drop 2
      -- `isc` is the name of another property, which no pattern can ask for.
      if rest = ['c'] then "isc" else String.ofList rest
    else String.ofList plain
  | _ => String.ofList plain

/-- The set that a single name stands for. -/
def named? (name : Text) : Option CharSet :=
  let name := normal name
  binary? name <|> category? name <|> (scriptNamed? name).map (·.2)

/-- The set of the characters whose property `name` has a given value. -/
def valued? (name value : Text) : Option CharSet :=
  let value := normal value
  match normal name with
  | "gc" | "generalcategory" => category? value
  | "sc" | "script" => (scriptNamed? value).map (·.2)
  | "scx" | "scriptextensions" => (scriptNamed? value).map fun (full, own) => usedBy full own
  | "age" => age? value
  | "gcb" | "graphemeclusterbreak" => graphemePart? value
  | "wb" | "wordbreak" => wordPart? value
  | "sb" | "sentencebreak" => sentencePart? value
  | _ => none

end FrontLint.Pattern.Property
