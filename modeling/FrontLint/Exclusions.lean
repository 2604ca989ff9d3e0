/-
  FrontLint.Exclusions — the classes of files in which each rule is left out. Tags of a rule are
  kept in the order in which they were first given.
-/

import FrontLint.FileKind

namespace FrontLint

structure Exclusions where
  entries : List (String × List ClassTag)
  deriving DecidableEq, Repr

namespace Exclusions

def none : Exclusions := ⟨[]⟩

def isEmpty (x : Exclusions) : Bool := x.entries.isEmpty

def tags (x : Exclusions) (id : String) : List ClassTag := (x.entries.lookup id).getD []

/-- Adds `tag` to the tags of the rule `id`, once. -/
def insertEntry (id : String) (tag : ClassTag) :
    List (String × List ClassTag) → List (String × List ClassTag)
  | [] => [(id, [tag])]
  | (other, tags) :: rest =>
    if other = id then (other, if tag ∈ tags then tags else tags ++ [tag]) :: rest
    else (other, tags) :: insertEntry id tag rest

def insert (x : Exclusions) (id : String) (tag : ClassTag) : Exclusions :=
  ⟨insertEntry id tag x.entries⟩

def insertAll (x : Exclusions) (id : String) (tags : List ClassTag) : Exclusions :=
  tags.foldl (·.insert id ·) x

/-- Whether a rule is left out for files of class `c`. -/
def excludes (x : Exclusions) (id : String) (c : FileClass) : Bool := (x.tags id).any c.has

end Exclusions

end FrontLint
