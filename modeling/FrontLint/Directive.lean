/-
  FrontLint.Directive — suppressions written in the source.

  A directive is `glint-ignore` or `glint-ignore-next-line`, then a colon with optional blanks
  around it or at least one blank, then rule ids separated by commas with optional blanks around
  them. It silences the named rules on its own line, or on the next. Directives are read from left
  to right and do not overlap; one without ids silences nothing.
-/

import FrontLint.Text.Basic

namespace FrontLint

namespace Directive

def isIdChar (c : Char) : Bool := c.isAlphanum || c == '_' || c == '-'

def isGap (c : Char) : Bool := c == ' ' || c == '\t'

def marker : Text := Text.ofString "glint-ignore"

def nextLineMark : Text := Text.ofString "-next-line"

/-- The id at the start of a text, with the rest. -/
def id? (t : Text) : Option (String × Text) :=
  match t.takeWhile isIdChar with
  | [] => none
  | id => some (String.ofList id, t.dropWhile isIdChar)

/-- The ids that follow, each after a comma, and the number of characters they take. At most
`rounds` of them. -/
def moreIds : Nat → Text → List String × Text
  | 0, t => ([], t)
  | rounds + 1, t =>
    match t.dropWhile isGap with
    | ',' :: rest =>
      match id? (rest.dropWhile isGap) with
      | some (id, rest) =>
        let (ids, rest) := moreIds rounds rest
        (id :: ids, rest)
      | none => ([], t)
    | _ => ([], t)

/-- The rest after the separator between the marker and the ids. -/
def afterSeparator? (t : Text) : Option Text :=
  match t.dropWhile isGap with
  | ':' :: rest => some (rest.dropWhile isGap)
  | rest => if rest.length < t.length then some rest else none

/-- The ids after the marker, with the rest. -/
def ids? (t : Text) : Option (List String × Text) := do
  let (id, rest) ← id? (← afterSeparator? t)
  let (ids, rest) := moreIds rest.length rest
  return (id :: ids, rest)

end Directive

/-- One directive: the ids it names, and whether it speaks of the next line. -/
structure Directive where
  nextLine : Bool
  ids : List String
  deriving DecidableEq, Repr

namespace Directive

/-- The directive at the start of a text, with the rest. -/
def read? (t : Text) : Option (Directive × Text) := do
  let rest ← Text.after? marker t
  match Text.after? nextLineMark rest with
  | some rest =>
    let (ids, rest) ← ids? rest
    return (⟨true, ids⟩, rest)
  | none =>
    let (ids, rest) ← ids? rest
    return (⟨false, ids⟩, rest)

/-- The directives of a text, passing over its first `skip` characters. -/
def readAll : Nat → Text → List Directive
  | _, [] => []
  | skip + 1, _ :: t => readAll skip t
  | 0, c :: t =>
    match read? (c :: t) with
    | some (d, rest) => d :: readAll (t.length - rest.length) t
    | none => readAll 0 t

end Directive

/-- The ids that the directives of one line silence there, and on the line below. Without
repetitions. -/
structure LineDirectives where
  sameLine : List String
  nextLine : List String
  deriving DecidableEq, Repr

namespace LineDirectives

def ofLine (line : Text) : LineDirectives :=
  let ds := Directive.readAll 0 line
  let idsOf (next : Bool) : List String := (ds.filter (·.nextLine == next)).flatMap (·.ids)
  ⟨(idsOf false).eraseDups, (idsOf true).eraseDups⟩

def isEmpty (d : LineDirectives) : Bool := d.sameLine.isEmpty && d.nextLine.isEmpty

end LineDirectives

/-- The directives of consecutive lines, by line number from 0. -/
structure Suppressions where
  byLine : Array LineDirectives

namespace Suppressions

def ofLines (lines : List Text) : Suppressions := ⟨(lines.map LineDirectives.ofLine).toArray⟩

def isEmpty (s : Suppressions) : Bool := s.byLine.all (·.isEmpty)

/-- Named by a directive for the same line on line `line`. -/
def onLine (s : Suppressions) (line : Nat) (id : String) : Bool :=
  s.byLine[line]?.any (·.sameLine.contains id)

/-- Named by a directive for the next line on the line above `line`. -/
def fromAbove (s : Suppressions) (line : Nat) (id : String) : Bool :=
  0 < line && s.byLine[line - 1]?.any (·.nextLine.contains id)

/-- Whether rule `id` is silenced on line `line`. -/
def silences (s : Suppressions) (line : Nat) (id : String) : Bool :=
  s.onLine line id || s.fromAbove line id

/-- Whether rule `id` is silenced for a match on the lines `first` to `last`: by a directive on any
of them for its own line, or by any directive on the line above the first. -/
def silencesSpan (s : Suppressions) (first last : Nat) (id : String) : Bool :=
  (List.range s.byLine.size).any (fun line => first ≤ line && line ≤ last && s.onLine line id) ||
    (0 < first && s.onLine (first - 1) id) || s.fromAbove first id

end Suppressions

end FrontLint
