/-
  FrontLint.Pattern.Program — a regular expression as a graph of nodes, and where a match that
  starts here ends.

  A node reads one character, tests a condition, offers two ways in order of preference, or
  accepts. The run keeps the reading nodes that are still possible, most preferred first, and
  steps all of them over each character, so its work is bounded by the product of the two sizes.
  Once a node accepts, what is less preferred is dropped; the last acceptance is the match.
-/

import FrontLint.Pattern.Accepted

namespace FrontLint.Pattern

inductive Node where
  | one (s : CharSet) (next : Nat)
  | look (l : Look) (next : Nat)
  | split (first second : Nat)
  | accept
  deriving Repr

structure Program where
  nodes : Array Node
  start : Nat

/-- A node to go on at, and the nodes made so far. -/
structure Fragment where
  entry : Nat
  nodes : Array Node

namespace Fragment

/-- Goes on at one more node. -/
def add (f : Fragment) (n : Node) : Fragment := ⟨f.nodes.size, f.nodes.push n⟩

/-- The way through `inner`, or past it to `exit`, in this order if `greedy`. -/
def branch (greedy : Bool) (inner exit : Nat) : Node :=
  if greedy then .split inner exit else .split exit inner

/-- A branch node whose ways are filled in by `body`, which is built to lead back to it. -/
def loop (f : Fragment) (greedy : Bool) (exit : Nat) (body : Fragment → Fragment) :
    Fragment × Nat :=
  let hub := f.nodes.size
  let inner := body ⟨hub, f.nodes.push .accept⟩
  (⟨inner.entry, inner.nodes.setIfInBounds hub (branch greedy inner.entry exit)⟩, hub)

end Fragment

/-- The nodes for an expression in front of a fragment. -/
def Regex.compile : Regex → Fragment → Fragment
  | .empty, f => f
  | .text t, f =>
    t.foldr (fun c ⟨next, nodes⟩ => Fragment.add ⟨next, nodes⟩ (.one (.single c) next)) f
  | .one s, ⟨next, nodes⟩ => Fragment.add ⟨next, nodes⟩ (.one s next)
  | .look l, ⟨next, nodes⟩ => Fragment.add ⟨next, nodes⟩ (.look l next)
  | .group _ r, f => r.compile f
  | .cat a b, f => a.compile (b.compile f)
  | .alt a b, ⟨next, nodes⟩ =>
    let ⟨second, nodes⟩ := b.compile ⟨next, nodes⟩
    let ⟨first, nodes⟩ := a.compile ⟨next, nodes⟩
    Fragment.add ⟨next, nodes⟩ (.split first second)
  | .rep r least (some most) greedy, ⟨next, nodes⟩ =>
    let optional (g : Fragment) : Fragment :=
      let ⟨inner, nodes⟩ := r.compile g
      Fragment.add ⟨next, nodes⟩ (Fragment.branch greedy inner next)
    Nat.repeat r.compile least (Nat.repeat optional (most - least) ⟨next, nodes⟩)
  | .rep r least none greedy, ⟨next, nodes⟩ =>
    let (⟨inner, nodes⟩, hub) := Fragment.loop ⟨next, nodes⟩ greedy next r.compile
    match least with
    | 0 =>
      if r.takesSome then ⟨hub, nodes⟩
      -- A body that may take nothing is run once more before the exit is offered.
      else Fragment.add ⟨next, nodes⟩ (Fragment.branch greedy inner next)
    | n + 1 => Nat.repeat r.compile n ⟨inner, nodes⟩

namespace Program

def ofRegex (r : Regex) : Program :=
  let f := r.compile ⟨0, #[.accept]⟩
  ⟨f.nodes, f.entry⟩

def isAccept (p : Program) (i : Nat) : Bool :=
  match p.nodes[i]? with
  | some .accept => true
  | _ => false

/-- Where a node goes on after reading `c`. -/
def step? (p : Program) (c : Char) (i : Nat) : Option Nat :=
  match p.nodes[i]? with
  | some (.one s next) => if s.contains c then some next else none
  | _ => none

/-- The reading and accepting nodes reached from the nodes `todo` without taking a character, most
preferred first, each once. Each round takes a node off the list; a node adds at most two to it,
and only the first time. -/
def reach (p : Program) (before after : Option Char) : Nat → List Nat → Array Bool → List Nat
  | 0, _, _ => []
  | _, [], _ => []
  | rounds + 1, i :: todo, seen =>
    if seen.getD i true then p.reach before after rounds todo seen
    else
      let seen := seen.setIfInBounds i true
      match p.nodes[i]? with
      | some (.split a b) => p.reach before after rounds (a :: b :: todo) seen
      | some (.look l next) =>
        let todo := if l.holds before after then next :: todo else todo
        p.reach before after rounds todo seen
      | some _ => i :: p.reach before after rounds todo seen
      | none => p.reach before after rounds todo seen

/-- `reach` with rounds enough for every node. -/
def reachAll (p : Program) (before after : Option Char) (todo : List Nat) : List Nat :=
  p.reach before after (2 * p.nodes.size + todo.length + 1) todo
    (Array.replicate p.nodes.size false)

/-- Where to go on after reading `c`. What is less preferred than an acceptance is dropped. -/
def next (p : Program) (c : Char) (live : List Nat) : List Nat :=
  (live.takeWhile (!p.isAccept ·)).filterMap (p.step? c)

def accepts (p : Program) (live : List Nat) : Bool := live.any p.isAccept

/-- The last acceptance after `n` characters, given the last one before. -/
def accepted (p : Program) (live : List Nat) (best : Option Nat) (n : Nat) : Option Nat :=
  if p.accepts live then some n else best

/-- Runs on with the nodes `live` after `n` characters; `best` is the last acceptance so far. -/
def run (p : Program) : List Nat → Option Nat → Nat → Text → Option Nat
  | live, best, n, [] => p.accepted live best n
  | live, best, n, c :: rest =>
    match p.next c live with
    | [] => p.accepted live best n
    | todo =>
      p.run (p.reachAll (some c) rest.head? todo) (p.accepted live best n) (n + 1) rest

/-- The nodes at which a match starts. -/
def first (p : Program) (before : Option Char) (t : Text) : List Nat :=
  p.reachAll before t.head? [p.start]

/-- How many characters the match takes that starts at the front of `t`, where `before` is the
character in front of it. -/
def matchLength? (p : Program) (before : Option Char) (t : Text) : Option Nat :=
  p.run (p.first before t) none 0 t

end Program

end FrontLint.Pattern
