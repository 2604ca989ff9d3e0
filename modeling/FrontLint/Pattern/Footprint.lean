/-
  FrontLint.Pattern.Footprint — how much memory the two automata of an expression take, one that
  reads the bytes of a text forwards and one that reads them backwards. Neither may exceed a fixed
  size.

  A state takes 32 bytes. A state with several arcs takes 8 more for each arc, and a state that
  offers several ways without reading takes 4 more for each way. Repetitions are copied out. A
  character outside ASCII takes a state for each byte, and the automaton of a set shares states: the
  forward one has one state for equal endings, the backward one shares equal beginnings. To find
  a state to share they keep a table of recent ones, in which a newer state displaces an older one
  in the same slot, so where a set stands in the automaton has an influence on its size.
-/

import FrontLint.Pattern.Regex
import FrontLint.Pattern.Utf8
import Std.Data.HashMap

namespace FrontLint.Pattern

/-! ## Hashing -/

namespace Slot

def seed : UInt64 := 14695981039346656037

def mix (h : UInt64) (n : Nat) : UInt64 := (h ^^^ n.toUInt64) * 1099511628211

/-- The slot of a list of numbers in a table of `size` slots. -/
def index (size : Nat) (key : List Nat) : Nat := (key.foldl mix seed).toNat % size

end Slot

/-- A table of states that can be shared, by slots. Each slot has the key and the number of the
state that was last put there. -/
abbrev Shared := Std.HashMap Nat (List Nat × Nat)

namespace Shared

def find? (table : Shared) (size : Nat) (key : List Nat) : Option Nat :=
  match table[Slot.index size key]? with
  | some (k, state) => if k = key then some state else none
  | none => none

def put (table : Shared) (size : Nat) (key : List Nat) (state : Nat) : Shared :=
  table.insert (Slot.index size key) (key, state)

end Shared

/-! ## Sets of characters -/

/-- What an automaton has so far: its number of states, which is also the number of the next one,
and the arcs and ways they have. -/
structure Extent where
  states : Nat
  arcs : Nat
  ways : Nat
  deriving DecidableEq, Repr

namespace Extent

def zero : Extent := ⟨0, 0, 0⟩

def bytes (e : Extent) : Nat := 32 * e.states + 8 * e.arcs + 4 * e.ways

def plus (e : Extent) (states arcs ways : Nat) : Extent :=
  ⟨e.states + states, e.arcs + arcs, e.ways + ways⟩

end Extent

namespace ForwardSet

/-- A state that is not finished: its arcs, each by its byte range and the state it leads to, and
the byte range of the arc whose target is still open. -/
structure Open where
  arcs : List Nat
  last : Option Utf8.ByteRange

def Open.start : Open := ⟨[], none⟩

/-- Gives the open arc its target. -/
def Open.settle (o : Open) (target : Nat) : List Nat :=
  match o.last with
  | some (lo, hi) => o.arcs ++ [lo, hi, target]
  | none => o.arcs

/-- The slots for states with their arcs. -/
def slots : Nat := 10000

structure Builder where
  extent : Extent
  shared : Shared

/-- A state with given arcs, a new one or one to share. -/
def Builder.state (b : Builder) (arcs : List Nat) : Nat × Builder :=
  match b.shared.find? slots arcs with
  | some state => (state, b)
  | none =>
    let state := b.extent.states
    (state, ⟨b.extent.plus 1 (arcs.length / 3) 0, b.shared.put slots arcs state⟩)

/-- Finishes a chain of open states, each at the open arc of the one before; the last leads to
`target`. -/
def Builder.close (b : Builder) (target : Nat) : List Open → Nat × Builder
  | [] => (target, b)
  | o :: rest =>
    let (next, b) := b.close target rest
    b.state (o.settle next)

/-- Adds a sequence to a chain of open states. As far as it goes the same way nothing changes; from
there on the old end is closed and a new one opened. -/
def Builder.add (b : Builder) (target : Nat) : List Open → List Utf8.ByteRange → List Open × Builder
  | o :: rest, r :: rs =>
    if o.last = some r then
      let (rest, b) := b.add target rest rs
      (o :: rest, b)
    else
      let (next, b) := b.close target rest
      (⟨o.settle next, some r⟩ :: rs.map fun r => ⟨[], some r⟩, b)
  | _, _ => ([], b)

/-- The automaton of a set, after what there is already. -/
def extend (e : Extent) (sequences : List (List Utf8.ByteRange)) : Extent :=
  let target := e.states
  let (chain, b) := sequences.foldl (fun (chain, b) s => Builder.add b target chain s)
    ([Open.start], (⟨e.plus 1 0 0, ∅⟩ : Builder))
  (b.close target chain).2.extent

end ForwardSet

namespace BackwardSet

/-- The slots for states that read one byte. -/
def slots : Nat := 1000

structure Builder where
  extent : Extent
  shared : Shared

/-- Goes on from `state` by one byte range, by a new state or one to share. -/
def Builder.step (b : Builder) (state : Nat) (r : Utf8.ByteRange) : Nat × Builder :=
  let key := [state, r.1, r.2]
  match b.shared.find? slots key with
  | some next => (next, b)
  | none =>
    let next := b.extent.states
    (next, ⟨b.extent.plus 1 0 0, b.shared.put slots key next⟩)

/-- Adds a sequence as one more way. -/
def Builder.add (b : Builder) (target : Nat) (s : List Utf8.ByteRange) : Builder :=
  let (_, b) := s.foldl (fun (state, b) r => Builder.step b state r) (target, b)
  { b with extent := b.extent.plus 0 0 1 }

/-- The automaton of a set, after what there is already: a state that offers all sequences, the
state they lead to, and the sequences. -/
def extend (e : Extent) (sequences : List (List Utf8.ByteRange)) : Extent :=
  let target := e.states + 1
  (sequences.foldl (fun b s => Builder.add b target s)
    (⟨e.plus 2 0 0, ∅⟩ : Builder)).extent

end BackwardSet

/-! ## Alternatives that are texts -/

namespace TextTree

/-- The endings of texts at one state of a tree, in chunks: a text that ends here closes a chunk,
unless nothing but such an end came before. -/
def chunks : List (List Nat) → List (List (List Nat))
  | endings =>
    let (closed, current) := endings.foldl
      (fun (closed, current) ending =>
        if ending ≠ [] then (closed, current ++ [ending])
        else if current.isEmpty ∧ closed ≠ [] ∧ closed.all List.isEmpty then (closed, current)
        else (closed ++ [current], []))
      (([] : List (List (List Nat))), ([] : List (List Nat)))
    closed ++ [current]

/-- The endings of a chunk by their first bytes, without them. -/
def groups (chunk : List (List Nat)) : List (List (List Nat)) :=
  let firsts := (chunk.filterMap List.head?).eraseDups
  firsts.map fun b => (chunk.filter (·.head? = some b)).map (·.drop 1)

/-- The states of a tree of texts: for each chunk one that reads its first bytes, and one that
offers the chunks and the ends between them. A text that ends after its byte needs no state. -/
def extend : Nat → Extent → List (List Nat) → Extent
  | 0, e, _ => e
  | depth + 1, e, endings =>
    let cs := chunks endings
    let e := cs.foldl (fun e c =>
      let gs := groups c
      let e := gs.foldl (fun e g => if g.all List.isEmpty then e else extend depth e g) e
      match gs.length with
      | 0 => e
      | 1 => e.plus 1 0 1
      | n => e.plus 1 n 1) e
    e.plus 1 0 (cs.length - 1)

end TextTree

/-! ## Expressions -/

/-- The way in which an automaton reads. -/
inductive Direction where
  | forward
  | backward
  deriving DecidableEq, Repr

/-- Where an expression stands among alternatives. -/
inductive Place where
  | alone
  | second
  | later
  deriving DecidableEq, Repr

/-- The most that an automaton may take. -/
def sizeLimit : Nat := 10485760

/-- Sizes are followed up to the limit. -/
def Extent.grow (e : Extent) (states arcs ways : Nat) : Option Extent :=
  let e := e.plus states arcs ways
  if e.bytes ≤ sizeLimit then some e else none

/-- `n` copies of a part. -/
def copies (part : Extent → Option Extent) : Nat → Extent → Option Extent
  | 0, e => some e
  | n + 1, e =>
    match part e with
    | some e => copies part n e
    | none => none

/-- After the second of some alternatives come the state that offers them and the state they lead
to; each further one is one more way. -/
def Place.finish (p : Place) (e : Extent) : Option Extent :=
  match p with
  | .alone => some e
  | .second => e.grow 2 0 2
  | .later => e.grow 0 0 1

namespace Regex

def setExtent (d : Direction) (s : CharSet) (e : Extent) : Option Extent :=
  if s.isAscii then e.grow 2 s.ranges.size 0
  else
    let sequences := Utf8.sequences s
    match d with
    | .forward => (ForwardSet.extend e sequences).grow 0 0 0
    | .backward => (BackwardSet.extend e sequences).grow 0 0 0

def bytesOf (t : Text) : List Nat := t.flatMap fun c => Utf8.encode c.toNat

/-- The alternatives, if all of them are texts. -/
def allTexts? : Regex → Option (List Text)
  | text t => some [t]
  | alt a b => do return (← a.allTexts?) ++ (← b.allTexts?)
  | _ => none

def textsExtent (d : Direction) (ts : List Text) (e : Extent) : Option Extent :=
  let spelled := ts.map fun t =>
    match d with
    | .forward => bytesOf t
    | .backward => (bytesOf t).reverse
  let depth := (spelled.map List.length).foldl max 0 + 1
  (TextTree.extend depth (e.plus 1 0 0) spelled).grow 0 0 0

/-- The automaton with an expression after what there is already, as long as it keeps to the
limit. -/
def extent (d : Direction) : Regex → Place → Extent → Option Extent
  | empty, p, e => do p.finish (← e.grow 1 0 0)
  | text t, p, e => do p.finish (← e.grow (Text.width t) 0 0)
  | one s, p, e => do p.finish (← setExtent d s e)
  | look _, p, e => do p.finish (← e.grow 1 0 0)
  | group _ r, p, e => do
    match d with
    | .forward =>
      let e ← r.extent d .alone (← e.grow 1 0 0)
      p.finish (← e.grow 1 0 0)
    | .backward => p.finish (← r.extent d .alone e)
  | cat a b, p, e => do
    match d with
    | .forward => p.finish (← b.extent d .alone (← a.extent d .alone e))
    | .backward => p.finish (← a.extent d .alone (← b.extent d .alone e))
  | alt a b, .alone, e =>
    match (alt a b).allTexts? with
    | some ts => textsExtent d ts e
    | none => do b.extent d .second (← a.extent d .alone e)
  | alt a b, .second, e => do
    b.extent d .later (← Place.second.finish (← a.extent d .alone e))
  | alt a b, .later, e => do
    b.extent d .later (← Place.later.finish (← a.extent d .alone e))
  | rep r least most _, p, e => do
    let part := r.extent d .alone
    match least, most with
    | 0, some 1 =>
      let e ← part (← e.grow 1 0 2)
      p.finish (← e.grow 1 0 0)
    | 0, none =>
      if r.takesSome then p.finish (← part (← e.grow 1 0 2))
      else
        let e ← part e
        p.finish (← e.grow 3 0 4)
    | n + 1, none =>
      let e ← copies part (n + 1) e
      p.finish (← e.grow 1 0 2)
    | least, some most =>
      if least = most then p.finish (← copies part least e)
      else
        let e ← if least = 0 then e.grow 1 0 0 else copies part least e
        let e ← e.grow 1 0 0
        p.finish (← copies (fun e => do part (← e.grow 1 0 2)) (most - least) e)

/-! ## Whole patterns -/

/-- Every match starts at the start of the text. -/
def startsText : Regex → Bool
  | look l => l = .textStart
  | group _ r => r.startsText
  | cat a b => a.startsText || (a.isWidthless && b.startsText)
  | alt a b => a.startsText && b.startsText
  | rep r least _ _ => 0 < least && r.startsText
  | _ => false

/-- Every match ends at the end of the text. -/
def endsText : Regex → Bool
  | look l => l = .textEnd
  | group _ r => r.endsText
  | cat a b => b.endsText || (b.isWidthless && a.endsText)
  | alt a b => a.endsText && b.endsText
  | rep r least _ _ => 0 < least && r.endsText
  | _ => false

/-- The automaton of a pattern: a loop over the bytes before a match unless it is known where a
match starts, marks for the whole match in the forward one, the expression and an accepting state.
-/
def wholeExtent (d : Direction) (r : Regex) : Option Extent := do
  let anchored := match d with
    | .forward => r.startsText
    | .backward => r.endsText
  let e ← if anchored then Extent.zero.grow 1 0 0 else Extent.zero.grow 3 1 2
  let e ← (match d with
    | .forward => do (← r.extent d .alone (← e.grow 1 0 0)).grow 1 0 0
    | .backward => r.extent d .alone e)
  e.grow 1 0 0

/-- Both automata keep to the limit. -/
def fits (r : Regex) : Bool :=
  (r.wholeExtent .forward).isSome && (r.wholeExtent .backward).isSome

end Regex

end FrontLint.Pattern
