/-
  FrontLint.Path — file paths as they are written, and their components.

  A path is cut at its slashes. Empty pieces and `.` mean nothing, except for a slash or a `.` at
  the very start, which is a component of its own. Operations that cut a path keep the rest as it
  was written, without meaningless pieces at the cut ends.
-/

import FrontLint.Text.Basic

namespace FrontLint

structure Path where
  text : Text
  deriving DecidableEq, Repr

/-- A component of a path. -/
inductive Path.Part where
  | root
  | here
  | up
  | name (n : Text)
  deriving DecidableEq, Repr

namespace Path

def ofString (s : String) : Path := ⟨s.toList⟩

def toString (p : Path) : String := String.ofList p.text

def isAbsolute (p : Path) : Bool := p.text.head? = some '/'

/-- The component that a path may start with, as it is written. -/
def lead (p : Path) : Text :=
  match p.text with
  | '/' :: _ => ['/']
  | ['.'] => ['.']
  | '.' :: '/' :: _ => ['.']
  | _ => []

/-- The pieces between slashes, after the lead. -/
def pieces (p : Path) : List Text :=
  match p.text.drop p.lead.length with
  | [] => []
  | body => Text.splitOn (· = '/') body

/-- A piece that names nothing. -/
def isVoid (piece : Text) : Bool := piece.isEmpty || piece = ['.']

/-- Puts pieces back together. -/
def joinPieces : List Text → Text
  | [] => []
  | [q] => q
  | q :: qs => q ++ '/' :: joinPieces qs

def trimPieces (qs : List Text) : List Text := (qs.reverse.dropWhile isVoid).reverse

def Part.ofPiece (piece : Text) : Part :=
  if piece = ['.', '.'] then .up else .name piece

def components (p : Path) : List Part :=
  (match p.lead with
    | ['/'] => [.root]
    | ['.'] => [.here]
    | _ => []) ++
  (p.pieces.filter (!isVoid ·)).map Part.ofPiece

/-- The path `q` as seen from `p`. -/
def join (p q : Path) : Path :=
  if q.isAbsolute || p.text.isEmpty then q
  else if p.text.getLast? = some '/' then ⟨p.text ++ q.text⟩
  else ⟨p.text ++ '/' :: q.text⟩

/-- The path without its last component. The root and the empty path have none to drop. -/
def parent? (p : Path) : Option Path :=
  match p.pieces.reverse.dropWhile isVoid with
  | _ :: rest => some ⟨p.lead ++ joinPieces (trimPieces rest.reverse)⟩
  | [] => if p.lead = ['.'] then some ⟨[]⟩ else none

/-- The last component, if it is a name. -/
def fileName? (p : Path) : Option Text :=
  match p.components.getLast? with
  | some (.name n) => some n
  | _ => none

/-- What follows the last dot of a file name, unless that dot is its first character. -/
def extension? (p : Path) : Option Text := do
  let name ← p.fileName?
  let back := name.reverse
  match back.dropWhile (· ≠ '.') with
  | _ :: _ :: _ => some (back.takeWhile (· ≠ '.')).reverse
  | _ => none

/-- What is left of `pieces` after as many components as given, if they agree. -/
def dropComponents : List Part → List Text → Option (List Text)
  | [], qs => some qs
  | _ :: _, [] => none
  | c :: cs, q :: qs =>
    if isVoid q then dropComponents (c :: cs) qs
    else if Part.ofPiece q = c then dropComponents cs qs
    else none

/-- The path as seen from `base`, if it lies at or below it. -/
def relativeTo? (p base : Path) : Option Path :=
  match base.components with
  | [] => some ⟨p.lead ++ joinPieces (trimPieces p.pieces)⟩
  | c :: cs =>
    let wanted := if p.lead.isEmpty then some (c :: cs)
      else if p.components.head? = some c then some cs
      else none
    wanted.bind fun wanted =>
      (dropComponents wanted p.pieces).map fun rest =>
        ⟨joinPieces (trimPieces (rest.dropWhile isVoid))⟩

def Part.rank : Part → Nat
  | .root => 0
  | .here => 1
  | .up => 2
  | .name _ => 3

/-- Before or equal: the root, then `.`, then `..`, then names by their characters. -/
def Part.le (a b : Part) : Bool :=
  match a, b with
  | .name m, .name n => Text.le m n
  | a, b => a.rank ≤ b.rank

/-- Paths in order of their components. -/
def compareComponents : List Part → List Part → Bool
  | [], _ => true
  | _ :: _, [] => false
  | a :: as, b :: bs => if a = b then compareComponents as bs else Part.le a b

def le (p q : Path) : Bool := compareComponents p.components q.components

end Path

end FrontLint
