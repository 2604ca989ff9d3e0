/-
  FrontLint.FileSystem.Tree — directories and files as a tree of named entries.
-/

import FrontLint.Text.Basic

namespace FrontLint

inductive FileTree where
  | file (content : ByteArray)
  | directory (entries : List (Text × FileTree))

namespace FileTree

def isDirectory : FileTree → Bool
  | .file _ => false
  | .directory _ => true

/-- What stands at the end of a list of names. -/
def get? : FileTree → List Text → Option FileTree
  | t, [] => some t
  | .file _, _ :: _ => none
  | .directory entries, name :: names =>
    match entries.lookup name with
    | some t => t.get? names
    | none => none

/-- Replaces the entry of a present name in place, or adds it at the end. -/
def setEntry (name : Text) (t : FileTree) : List (Text × FileTree) → List (Text × FileTree)
  | [] => [(name, t)]
  | (n, old) :: rest => if n = name then (n, t) :: rest else (n, old) :: setEntry name t rest

/-- Puts a tree at the end of a list of names, making the directories on the way. Below a file
nothing is put. -/
def put (new : FileTree) : FileTree → List Text → FileTree
  | _, [] => new
  | .file content, _ :: _ => .file content
  | .directory entries, name :: names =>
    let below := (entries.lookup name).getD (.directory [])
    .directory (setEntry name (put new below names) entries)

end FileTree

end FrontLint
