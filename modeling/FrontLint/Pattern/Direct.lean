/-
  FrontLint.Pattern.Direct — expressions that amount to a short list of texts. These are searched
  for directly, so that it does not matter how large their automata would be.

  An expression is read for the bytes with which its matches start. A start is whole if it is all of
  the match, and cut otherwise. Sets, repetitions, lengths and the number of starts are followed up
  to fixed limits; beyond them starts are cut or the list is given up.
-/

import FrontLint.Pattern.Footprint

namespace FrontLint.Pattern

/-- The bytes with which a match starts. -/
structure Start where
  bytes : List Nat
  whole : Bool
  deriving DecidableEq, Repr

/-- The starts of an expression in order of preference; none if there are too many. -/
abbrev Starts := Option (List Start)

namespace Starts

/-! ## Limits -/

def setLimit : Nat := 10

def roundLimit : Nat := 10

def lengthLimit : Nat := 100

def totalLimit : Nat := 250

/-! ## Lists of starts -/

/-- Neighbours with the same bytes are one, which is whole if both are. -/
def dedup : List Start → List Start
  | [] => []
  | s :: rest =>
    match dedup rest with
    | t :: more =>
      if s.bytes = t.bytes then ⟨s.bytes, s.whole && t.whole⟩ :: more else s :: t :: more
    | [] => [s]

def keepFirst (n : Nat) (s : Start) : Start :=
  if n < s.bytes.length then ⟨s.bytes.take n, false⟩ else s

def cut (s : Start) : Start := { s with whole := false }

def noneWhole (ss : Starts) : Bool := ss.all (·.all (!·.whole))

def shortest? (ss : List Start) : Option Nat := (ss.map (·.bytes.length)).min?

/-- Tries the starts of both, those of the first before those of the second. -/
def either (a b : Starts) : Starts := do
  let as ← a
  let bs ← b
  if as.length + bs.length ≤ totalLimit then return dedup (as ++ bs)
  else
    let as := dedup (as.map (keepFirst 4))
    let bs := dedup (bs.map (keepFirst 4))
    if as.length + bs.length ≤ totalLimit then return dedup (as ++ bs) else failure

/-- What starts with one of the first, whole ones followed by the second. -/
def followed (a b : Starts) : Starts := do
  let as ← a
  let joined := b.filter fun bs => as.length * bs.length ≤ totalLimit
  match joined with
  | none => if shortest? as = some 0 then failure else return as.map cut
  | some bs =>
    let all := as.flatMap fun s =>
      if s.whole then bs.map fun t => ⟨s.bytes ++ t.bytes, t.whole⟩ else [s]
    return (dedup all).map (keepFirst lengthLimit)

/-- Up to `n` times one after another, as long as something is whole. -/
def repeated (one : Starts) : Nat → Starts → Starts
  | 0, ss => ss
  | n + 1, ss => if noneWhole ss then ss else repeated one n (followed ss one)

/-- The start of an expression that takes nothing. -/
def nothing : Starts := some [⟨[], true⟩]

def ofSet (s : CharSet) : Starts :=
  let size := s.ranges.foldl (fun n (lo, hi) => n + (hi + 1 - lo)) 0
  if size ≤ setLimit then
    some (s.ranges.toList.flatMap fun (lo, hi) =>
      (List.range (hi + 1 - lo)).map fun i => ⟨Utf8.encode (lo + i), true⟩)
  else none

/-- How the starts of a part join those of the parts before it. -/
inductive Joint where
  /-- The part follows the others. -/
  | sequence
  /-- The part is one more alternative. -/
  | choice
  deriving DecidableEq, Repr

/-- Joins the starts of one more part. Once nothing is whole, what follows does not matter. -/
def Joint.add : Joint → Starts → Starts → Starts
  | sequence, ss, part => if noneWhole ss then ss else followed ss part
  | choice, ss, part => either ss part

/-- The starts of rounds of what has the starts `one`. -/
def rounds (one : Starts) (least : Nat) (most : Option Nat) (greedy : Bool) : Starts :=
  if least = 0 then
    let one := if most = some 1 then one else one.map (·.map cut)
    if greedy then either one nothing else either nothing one
  else
    let ss := repeated one (min least roundLimit) nothing
    if most = some least ∧ least ≤ roundLimit then ss else ss.map (·.map cut)

end Starts

/-- Reads the starts of an expression on from those of the parts before it. -/
def Regex.startsFrom : Regex → Starts.Joint → Starts → Starts
  | empty, joint, ss | look _, joint, ss => joint.add ss Starts.nothing
  | text t, joint, ss =>
    joint.add ss (some [Starts.keepFirst Starts.lengthLimit ⟨bytesOf t, true⟩])
  | one s, joint, ss => joint.add ss (Starts.ofSet s)
  | group _ r, joint, ss => joint.add ss (r.startsFrom .sequence Starts.nothing)
  | cat a b, .sequence, ss => b.startsFrom .sequence (a.startsFrom .sequence ss)
  | cat a b, .choice, ss =>
    Starts.either ss (b.startsFrom .sequence (a.startsFrom .sequence Starts.nothing))
  | alt a b, .choice, ss => b.startsFrom .choice (a.startsFrom .choice ss)
  | alt a b, .sequence, ss =>
    Starts.Joint.sequence.add ss (b.startsFrom .choice (a.startsFrom .choice (some [])))
  | rep r least most greedy, joint, ss =>
    joint.add ss (Starts.rounds (r.startsFrom .sequence Starts.nothing) least most greedy)

/-- The starts of an expression. -/
def Regex.starts (r : Regex) : Starts := r.startsFrom .sequence Starts.nothing

/-! ## Which lists are searched for -/

namespace Starts

/-- The ASCII characters that are common in source text. -/
def commonChars : Text := "\n\r (),-./0129:_abcdefghilmnoprstuvxy|".toList

/-- A byte that is seldom the first of a character. -/
def isRare (byte : Nat) : Bool := byte < 0x80 && !commonChars.any (·.toNat = byte)

/-- Drops each start that goes on from an earlier one: the earlier one is preferred wherever it
occurs. -/
def minimal (ss : List Start) : List Start :=
  ss.foldl (fun kept s => if kept.any (·.bytes.isPrefixOf s.bytes) then kept else kept ++ [s]) []

/-- The bytes that two lists have in common at their start. -/
def shared : List Nat → List Nat → List Nat
  | a :: as, b :: bs => if a = b then a :: shared as bs else []
  | _, _ => []

def sharedByAll : List Start → List Nat
  | [] => []
  | s :: rest => rest.foldl (fun common t => shared common t.bytes) s.bytes

/-- Shortens starts to at most `keep` bytes while there are more than `limit` of them, with ever
fewer bytes. -/
def shorten : List (Nat × Nat) → List Start → List Start
  | [], ss => ss
  | (keep, limit) :: more, ss =>
    if ss.length ≤ limit then ss else shorten more (minimal (ss.map (keepFirst keep)))

/-- The bytes to keep of each start, and the number of starts for which that is needed. -/
def shortenings : List (Nat × Nat) := [(5, 10), (4, 10), (3, 64), (2, 64), (1, 10)]

/-- Shortened starts are of no use if one is too short to tell much or if there are too many. -/
def isUseless (ss : List Start) : Bool := (shortest? ss).all (· ≤ 2) || 64 < ss.length

/-- Whether whole starts `ss`, which are what `count` starts amount to, are searched for as they
are, and not by something shorter that finds candidates sooner: a rare first byte, a long shared
start, or shortened starts. -/
def isDirect (count : Nat) (ss : List Start) : Bool :=
  let common := sharedByAll ss
  if 1 < count ∧ 1 ≤ common.length ∧ common.length ≤ 3 ∧ common.head?.any isRare then
    ss.all (·.bytes.length ≤ 1)
  else if 4 < common.length ∨ (1 < common.length ∧ 16 < ss.length) then ss.length = 1
  else
    let short := shorten shortenings ss
    isUseless short || short.all (·.whole)

end Starts

/-- No part of the expression is a condition or a group. -/
def Regex.isPlain : Regex → Bool
  | empty | text _ | one _ => true
  | look _ | group _ _ => false
  | cat a b | alt a b => a.isPlain && b.isPlain
  | rep r _ _ _ => r.isPlain

/-- The texts that the expression amounts to, most preferred first, if it is searched for by them.
-/
def Regex.texts? (r : Regex) : Option (List Text) := do
  let all ← r.starts
  let ss := Starts.minimal all
  if r.isPlain && all.all (·.bytes ≠ []) && ss ≠ [] && ss.all (·.whole) &&
      Starts.isDirect all.length ss then
    ss.mapM fun s => Utf8.decode? s.bytes
  else failure

end FrontLint.Pattern
