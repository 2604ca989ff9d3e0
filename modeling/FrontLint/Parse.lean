/-
  FrontLint.Parse — reading structured text. A `Parse α` takes a value off the front of a text and
  leaves the rest, or fails; alternatives go back to where they began.

  `many` repeats a parser for as long as it succeeds and takes something, so every parser built
  here ends.
-/

import FrontLint.Text.Basic

namespace FrontLint

abbrev Parse (α : Type) := StateT Text Option α

namespace Parse

variable {α β : Type}

/-- The next character, left in place. -/
def peek : Parse (Option Char) := fun t => some (t.head?, t)

def anyChar : Parse Char
  | [] => none
  | c :: t => some (c, t)

def satisfy (p : Char → Bool) : Parse Char
  | [] => none
  | c :: t => if p c then some (c, t) else none

/-- The given character. -/
def sym (c : Char) : Parse Unit := fun t => (satisfy (· == c) t).map fun (_, t) => ((), t)

def literal (s : String) : Parse Unit := fun t => (Text.after? s.toList t).map ((), ·)

/-- The longest run of characters that satisfy `p`, possibly empty. -/
def takeWhile (p : Char → Bool) : Parse Text := fun t => some (t.span p)

/-- The longest run of characters that satisfy `p`, at least one. -/
def takeWhile1 (p : Char → Bool) : Parse Text := fun t =>
  match t.span p with
  | ([], _) => none
  | taken => some taken

/-- Exactly `n` characters. -/
def takeN : Nat → Parse Text
  | 0 => pure []
  | n + 1 => do
    let c ← anyChar
    return c :: (← takeN n)

/-- Whether `p` succeeds here; if so, what it read is taken. -/
def accepts (p : Parse α) : Parse Bool := fun t =>
  match p t with
  | some (_, rest) => some (true, rest)
  | none => some (false, t)

/-- Succeeds, taking nothing, where `p` would succeed. -/
def ahead (p : Parse α) : Parse Unit := fun t => (p t).map fun _ => ((), t)

/-- Succeeds, taking nothing, where `p` would fail. -/
def notAhead (p : Parse α) : Parse Unit := fun t => if (p t).isSome then none else some ((), t)

def option (p : Parse α) : Parse (Option α) := fun t =>
  match p t with
  | some (a, rest) => some (some a, rest)
  | none => some (none, t)

/-- Repeats `p` while it succeeds and makes the text shorter. -/
def manyFrom (p : Parse α) (t : Text) : List α × Text :=
  match p t with
  | none => ([], t)
  | some (a, rest) =>
    if rest.length < t.length then
      let (as, rest) := manyFrom p rest
      (a :: as, rest)
    else ([], t)
termination_by t.length

def many (p : Parse α) : Parse (List α) := fun t => some (manyFrom p t)

def many1 (p : Parse α) : Parse (List α) := do
  let a ← p
  return a :: (← many p)

/-- Items with a separator before each but the first; at least one item. -/
def sepBy1 (p : Parse α) (sep : Parse β) : Parse (List α) := do
  let a ← p
  return a :: (← many (do let _ ← sep; p))

/-- Reads the whole text. -/
def all (p : Parse α) (t : Text) : Option α :=
  match p t with
  | some (a, []) => some a
  | _ => none

end Parse

end FrontLint
