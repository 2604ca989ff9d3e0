/-
  FrontLint.Toml.Document — the tables of a document as it is read. A table is defined by its own
  header, or comes into being by a header below it, or by a dotted key; each may be written to only
  in its own way, and no key is given twice.

  A header that defines a table which an earlier header had implied moves it to the end of its
  parent.
-/

import FrontLint.Toml.Value

namespace FrontLint.Toml

/-- How a table came into being. -/
inductive Origin where
  | header
  | implied
  | dotted
  deriving DecidableEq, Repr

inductive Node where
  | leaf (v : Value)
  | table (origin : Origin) (entries : List (String × Node))
  | tables (elements : List (List (String × Node)))

abbrev Entries := List (String × Node)

mutual

def Node.toValue : Node → Value
  | .leaf v => v
  | .table _ entries => .table (entriesToValues entries)
  | .tables elements => .tables (elementsToValues elements)

def entriesToValues : List (String × Node) → List (String × Value)
  | [] => []
  | (key, node) :: rest => (key, node.toValue) :: entriesToValues rest

def elementsToValues : List (List (String × Node)) → List (List (String × Value))
  | [] => []
  | entries :: rest => entriesToValues entries :: elementsToValues rest

end

namespace Entries

def get? (es : Entries) (key : String) : Option Node := es.lookup key

/-- Replaces the node of a present key in place, or adds it at the end. -/
def set : Entries → String → Node → Entries
  | [], key, node => [(key, node)]
  | (k, old) :: rest, key, node =>
    if k = key then (k, node) :: rest else (k, old) :: set rest key node

def erase (es : Entries) (key : String) : Entries := es.filter (·.1 ≠ key)

/-- Changes the table at `path`, of which `origin` is the origin of the last step, making the
missing tables on the way. With `dotted`, tables with a header of their own are not entered. -/
def update (dotted : Bool) (f : Origin → Entries → Option Entries) :
    List String → Origin → Entries → Option Entries
  | [], origin, es => f origin es
  | key :: path, _, es =>
    match es.get? key with
    | none => do
      let origin := if dotted then .dotted else .implied
      return es.set key (.table origin (← update dotted f path origin []))
    | some (.leaf _) => none
    | some (.table origin inner) =>
      if dotted ∧ origin = .header then none
      else do return es.set key (.table origin (← update dotted f path origin inner))
    | some (.tables elements) =>
      match elements.getLast? with
      | none => none
      | some last => do
        let last ← update dotted f path .header last
        return es.set key (.tables (elements.dropLast ++ [last]))

/-- Gives `key` a value in the table that the dotted `path` leads to. -/
def put (path : List String) (key : String) (v : Value) (es : Entries) : Option Entries :=
  update true (fun origin inner =>
    if path ≠ [] ∧ origin ≠ .dotted then none
    else if (inner.get? key).isSome then none
    else some (inner.set key (.leaf v))) path .header es

/-- Opens the table `key` of the table at `path` by its header. -/
def openTable (path : List String) (key : String) (es : Entries) : Option Entries :=
  update false (fun _ inner =>
    match inner.get? key with
    | none => some (inner.set key (.table .header []))
    | some (.table .implied own) => some ((inner.erase key).set key (.table .header own))
    | some _ => none) path .header es

/-- Adds an element to the array of tables `key` of the table at `path`. -/
def addTable (path : List String) (key : String) (es : Entries) : Option Entries :=
  update false (fun _ inner =>
    match inner.get? key with
    | none => some (inner.set key (.tables [[]]))
    | some (.tables elements) => some (inner.set key (.tables (elements ++ [[]])))
    | some _ => none) path .header es

/-- Runs `f` on the table that a header has opened. -/
def inTable (path : List String) (f : Entries → Option Entries) (es : Entries) : Option Entries :=
  update false (fun _ inner => f inner) path .header es

end Entries

/-- A line of a document: a key with its value, or a header. -/
inductive Statement where
  | pair (path : List String) (key : String) (v : Value)
  | header (path : List String) (key : String)
  | arrayHeader (path : List String) (key : String)

/-- The tables read so far, and the path of the open one. -/
structure Document where
  root : Entries
  current : List String

namespace Document

def empty : Document := ⟨[], []⟩

def add (d : Document) : Statement → Option Document
  | .pair path key v => do
    return { d with root := ← d.root.inTable d.current (·.put path key v) }
  | .header path key => do
    return ⟨← d.root.openTable path key, path ++ [key]⟩
  | .arrayHeader path key => do
    return ⟨← d.root.addTable path key, path ++ [key]⟩

/-- The root table of a list of statements. -/
def ofStatements (ss : List Statement) : Option Table := do
  let d ← ss.foldlM Document.add .empty
  return entriesToValues d.root

end Document

/-- The value of an inline table. -/
def inlineTable (pairs : List (List String × String × Value)) : Option Value := do
  let es ← pairs.foldlM (fun es (path, key, v) => Entries.put path key v es) []
  return .table (entriesToValues es)

end FrontLint.Toml
