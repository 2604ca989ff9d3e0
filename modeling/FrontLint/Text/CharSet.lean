/-
  FrontLint.Text.CharSet — sets of characters, as closed ranges of code points. The ranges ascend
  and neither overlap nor touch, so that each set has one form and membership is found by binary
  search.
-/

namespace FrontLint

structure CharSet where
  ranges : Array (Nat × Nat)
  deriving DecidableEq, Repr

namespace CharSet

/-- The last code point. -/
def lastCode : Nat := 0x10FFFF

/-- Code points that are halves of pairs and no characters. -/
def isSurrogate (n : Nat) : Bool := 0xD800 ≤ n && n ≤ 0xDFFF

/-! ## Building -/

/-- Joins ranges that overlap or touch, given in the order of their first code points. -/
def join : List (Nat × Nat) → List (Nat × Nat)
  | [] => []
  | [r] => [r]
  | (a, b) :: (c, d) :: rest =>
    if c ≤ b + 1 then join ((a, max b d) :: rest) else (a, b) :: join ((c, d) :: rest)
termination_by rs => rs.length

/-- The union of ranges in any order. -/
def ofRanges (rs : List (Nat × Nat)) : CharSet :=
  ⟨(join (rs.mergeSort fun r s => r.1 ≤ s.1)).toArray⟩

/-- Every second code point of each range, from its first on. -/
def alternating (rs : List (Nat × Nat)) : List (Nat × Nat) :=
  rs.flatMap fun (a, b) => (List.range ((b - a) / 2 + 1)).map fun i => (a + 2 * i, a + 2 * i)

def empty : CharSet := ⟨#[]⟩

/-- Every character. -/
def full : CharSet := ⟨#[(0, lastCode)]⟩

def range (lo hi : Char) : CharSet := ⟨#[(lo.toNat, hi.toNat)]⟩

def single (c : Char) : CharSet := range c c

def ofChars (cs : List Char) : CharSet := ofRanges (cs.map fun c => (c.toNat, c.toNat))

/-! ## Membership -/

/-- Whether `n` lies in one of the ranges with index in `[lo, hi)`. -/
def search (s : CharSet) (n lo hi : Nat) : Bool :=
  if lo < hi then
    let mid := (lo + hi) / 2
    match s.ranges[mid]? with
    | none => false
    | some (a, b) =>
      if n < a then s.search n lo mid
      else if b < n then s.search n (mid + 1) hi
      else true
  else false
termination_by hi - lo
decreasing_by all_goals omega

def hasCode (s : CharSet) (n : Nat) : Bool := s.search n 0 s.ranges.size

def contains (s : CharSet) (c : Char) : Bool := s.hasCode c.toNat

def isEmpty (s : CharSet) : Bool := s.ranges.isEmpty

/-- All members have one byte. -/
def isAscii (s : CharSet) : Bool := s.ranges.all (·.2 < 128)

/-- The only member of a set that has just one. -/
def only? (s : CharSet) : Option Char :=
  match s.ranges.toList with
  | [(a, b)] => if a = b then some (Char.ofNat a) else none
  | _ => none

/-! ## Set operations -/

def union (s t : CharSet) : CharSet := ofRanges (s.ranges.toList ++ t.ranges.toList)

def unionAll (ss : List CharSet) : CharSet := ofRanges (ss.flatMap (·.ranges.toList))

/-- The characters from `lo` to `hi`, as a range that neither starts nor ends in a surrogate. -/
def between (lo hi : Nat) : List (Nat × Nat) :=
  let lo := if isSurrogate lo then 0xE000 else lo
  let hi := if isSurrogate hi then 0xD7FF else hi
  if lo ≤ hi then [(lo, hi)] else []

/-- What ascending ranges leave out from `start` on. -/
def gaps (start : Nat) : List (Nat × Nat) → List (Nat × Nat)
  | [] => between start lastCode
  | (a, b) :: rest => (if start < a then between start (a - 1) else []) ++ gaps (b + 1) rest

def compl (s : CharSet) : CharSet := ⟨(gaps 0 s.ranges.toList).toArray⟩

def inter (s t : CharSet) : CharSet := (s.compl.union t.compl).compl

def diff (s t : CharSet) : CharSet := s.inter t.compl

def symmDiff (s t : CharSet) : CharSet := (s.diff t).union (t.diff s)

end CharSet

end FrontLint
