/-
  FrontLint.Proofs.Pattern.Literal — patterns that are a fixed text.

  The nodes made for a text read its characters one after the other (`Spells`), so at each place the run
  has one node to go on at. Proved:
  - `run_spells`: a run from there reads the text or fails.
  - `matchLength?_text`: the pattern has a match where its text stands, and nowhere else.
  - `mem_findMatches_char`: a pattern that is one character has a match at each place of it.
  - `allFrom_line`: a text without newlines is found line by line.
-/

import FrontLint.Proofs.Pattern.Occurrence

namespace FrontLint

open FrontLint.Text

theorem CharSet.contains_single {c d : Char} : (CharSet.single c).contains d = true ↔ d = c := by
  have hsearch : (CharSet.single c).contains d = true ↔ ¬ d.toNat < c.toNat ∧ ¬ c.toNat < d.toNat := by
    rw [contains, hasCode, search]
    simp [single, range, search]
  rw [hsearch, ← Char.toNat_inj]
  omega

namespace Pattern

/-- From node `i` on, the nodes read the characters of a text in turn and then accept. -/
def Spells (nodes : Array Node) : Nat → Text → Prop
  | i, [] => nodes[i]? = some .accept
  | i, c :: w => ∃ next, nodes[i]? = some (.one (.single c) next) ∧ Spells nodes next w

theorem getElem?_push_of_some {nodes : Array Node} {i : Nat} {n : Node} (h : nodes[i]? = some n) (m : Node) :
    (nodes.push m)[i]? = some n := by
  obtain ⟨hi, -⟩ := Array.getElem?_eq_some_iff.mp h
  rw [Array.getElem?_push, if_neg (by omega), h]

theorem Spells.push {nodes : Array Node} {i : Nat} {w : Text} (h : Spells nodes i w) (m : Node) :
    Spells (nodes.push m) i w := by
  induction w generalizing i with
  | nil => exact getElem?_push_of_some h m
  | cons c w ih =>
    obtain ⟨next, hnode, hrest⟩ := h
    exact ⟨next, getElem?_push_of_some hnode m, ih hrest⟩

/-- The nodes for a text, in front of nodes that spell another. -/
theorem spells_compile {f : Fragment} {v : Text} (h : Spells f.nodes f.entry v) (w : Text) :
    Spells ((Regex.text w).compile f).nodes ((Regex.text w).compile f).entry (w ++ v) := by
  induction w with
  | nil => exact h
  | cons c w ih => exact ⟨_, by simp [Regex.compile, Fragment.add], ih.push _⟩

theorem spells_ofRegex (w : Text) :
    Spells (Program.ofRegex (.text w)).nodes (Program.ofRegex (.text w)).start w := by
  have h := spells_compile (f := ⟨0, #[.accept]⟩) (v := []) rfl w
  rwa [List.append_nil] at h

namespace Program

variable {p : Program} {i : Nat} {w : Text}

/-- Nothing else is reached from a node that reads or accepts. -/
theorem reachAll_of_spells (h : Spells p.nodes i w) (before after : Option Char) :
    p.reachAll before after [i] = [i] := by
  have hseen : ∀ n, p.nodes[i]? = some n → (Array.replicate p.nodes.size false).getD i true = false := by
    intro n hn
    obtain ⟨hi, -⟩ := Array.getElem?_eq_some_iff.mp hn
    simp [hi]
  cases w with
  | nil =>
    have hnode : p.nodes[i]? = some .accept := h
    simp [reachAll, reach, hseen _ hnode, hnode]
  | cons c w =>
    obtain ⟨next, hnode, -⟩ := h
    simp [reachAll, reach, hseen _ hnode, hnode]

/-- A run from nodes that spell a text takes that text. -/
theorem run_spells (h : Spells p.nodes i w) (n : Nat) (t : Text) :
    p.run [i] none n t = if w <+: t then some (n + w.length) else none := by
  induction w generalizing i n t with
  | nil =>
    have haccept : p.isAccept i = true := by
      have hnode : p.nodes[i]? = some .accept := h
      simp [isAccept, hnode]
    cases t <;> simp [run, next, accepted, accepts, haccept]
  | cons c w ih =>
    obtain ⟨next, hnode, hrest⟩ := h
    have haccept : p.isAccept i = false := by simp [isAccept, hnode]
    have hfail : p.accepted [i] none n = none := by simp [accepted, accepts, haccept]
    cases t with
    | nil => simp [run, hfail]
    | cons d t =>
      by_cases hd : d = c
      · have hnext : p.next d [i] = [next] := by
          simp [Program.next, haccept, step?, hnode, CharSet.contains_single.mpr hd]
        rw [run, hnext]
        simp only [reachAll_of_spells hrest, hfail, ih hrest, hd, List.cons_prefix_cons, true_and,
          List.length_cons]
        split
        · rw [Nat.add_assoc, Nat.add_comm 1]
        · rfl
      · have hnext : p.next d [i] = [] := by
          have hno : (CharSet.single c).contains d = false := by
            rw [← Bool.not_eq_true, CharSet.contains_single]
            exact hd
          simp [Program.next, haccept, step?, hnode, hno]
        rw [run, hnext, if_neg (fun hp => hd (List.cons_prefix_cons.mp hp).1.symm)]
        exact hfail

/-- A pattern that is a text has a match where the text stands. -/
theorem matchLength?_text (w : Text) (before : Option Char) (t : Text) :
    (ofRegex (.text w)).matchLength? before t = if w <+: t then some w.length else none := by
  have h := spells_ofRegex w
  rw [matchLength?, first, reachAll_of_spells h, run_spells h, Nat.zero_add]

end Program

theorem mem_allFrom_char {length? : Option Char → Text → Option Nat} {x : Char}
    (hlength : ∀ before t, length? before t = if [x] <+: t then some 1 else none) (before : Option Char)
    (offset : Nat) (a b : Text) :
    ⟨offset + width a, offset + width a + x.utf8Size, [x]⟩ ∈
      Match.allFrom length? before 0 offset (a ++ x :: b) := by
  induction a generalizing before offset with
  | nil => simp [Match.allFrom, hlength]
  | cons c a ih =>
    have hlater := ih (some c) (offset + c.utf8Size)
    rw [Nat.add_assoc offset] at hlater
    rw [List.cons_append, Match.allFrom, hlength, width_cons]
    by_cases hc : [x] <+: c :: (a ++ x :: b)
    · rw [if_pos hc]
      exact List.mem_cons_of_mem _ hlater
    · rw [if_neg hc]
      exact hlater

/-- A pattern that is one character has a match at each place of it. -/
theorem mem_findMatches_char (source : String) (x : Char) (a b : Text) :
    ⟨width a, width a + x.utf8Size, [x]⟩ ∈
      Pattern.findMatches ⟨source, .ofRegex (.text [x])⟩ (a ++ x :: b) false := by
  have h := mem_allFrom_char (Program.matchLength?_text [x]) none 0 a b
  rw [Nat.zero_add] at h
  rw [findMatches_eq]
  exact h

end Pattern

/-! ## The places of a text, line by line -/

namespace Match

/-- A match `n` bytes further on. -/
def after (n : Nat) (m : Match) : Match := ⟨n + m.start, n + m.stop, m.text⟩

variable {length? : Option Char → Text → Option Nat} {w : Text}

theorem allFrom_after (length? : Option Char → Text → Option Nat) (before : Option Char) (skip n offset : Nat)
    (t : Text) :
    allFrom length? before skip (n + offset) t = (allFrom length? before skip offset t).map (after n) := by
  induction t generalizing before skip offset with
  | nil =>
    cases skip with
    | succ skip => rfl
    | zero =>
      rw [allFrom, allFrom]
      split <;> rfl
  | cons c t ih =>
    cases skip with
    | succ skip =>
      rw [allFrom, allFrom, Nat.add_assoc]
      exact ih _ _ _
    | zero =>
      rw [allFrom, allFrom, Nat.add_assoc]
      split
      · rw [ih, List.map_cons]
        simp only [after, Nat.add_assoc]
      · exact ih _ _ _

variable (hlength : ∀ before t, length? before t = if w <+: t then some w.length else none)

include hlength

theorem allFrom_before (before before' : Option Char) (offset : Nat) (t : Text) :
    allFrom length? before 0 offset t = allFrom length? before' 0 offset t := by
  cases t <;> simp [allFrom, hlength]

/-- Each match is the text that is searched for. -/
theorem text_eq_of_mem_allFrom {before : Option Char} {skip offset : Nat} {t : Text} {m : Match}
    (h : m ∈ allFrom length? before skip offset t) : m.text = w := by
  induction t generalizing before skip offset with
  | nil =>
    cases skip with
    | succ skip => simp [allFrom] at h
    | zero =>
      simp only [allFrom, hlength] at h
      by_cases hw : w <+: []
      · rw [if_pos hw] at h
        rw [List.mem_singleton.mp h, List.prefix_nil.mp hw]
      · simp [hw] at h
  | cons c t ih =>
    cases skip with
    | succ skip => exact ih h
    | zero =>
      simp only [allFrom, hlength] at h
      by_cases hw : w <+: c :: t
      · rw [if_pos hw] at h
        rcases List.mem_cons.mp h with rfl | h
        · exact (List.prefix_iff_eq_take.mp hw).symm
        · exact ih h
      · rw [if_neg hw] at h
        exact ih h

/-- What has a character that the text has not is not found. -/
theorem allFrom_eq_nil {t : Text} {c : Char} (hc : c ∈ w) (ht : c ∉ t) (before : Option Char) (skip offset : Nat) :
    allFrom length? before skip offset t = [] := by
  refine List.eq_nil_iff_forall_not_mem.mpr fun m hm => ?_
  obtain ⟨a, b, hsplit, -, -⟩ := allFrom_occurs hm
  rw [text_eq_of_mem_allFrom hlength hm] at hsplit
  apply ht
  rw [hsplit]
  exact List.mem_append_left _ (List.mem_append_right _ hc)

/-- What has no newline is found in a line, or behind it. -/
theorem allFrom_line (hw : w ≠ []) (hnewline : '\n' ∉ w) (before : Option Char) {skip : Nat} (offset : Nat)
    {line : Text} (hskip : skip ≤ line.length) (rest : Text) :
    allFrom length? before skip offset (line ++ '\n' :: rest) =
      allFrom length? before skip offset line ++
        allFrom length? (some '\n') 0 (offset + width line + 1) rest := by
  induction line generalizing before skip offset with
  | nil =>
    obtain rfl : skip = 0 := Nat.le_zero.mp hskip
    have hno : ¬ w <+: '\n' :: rest := by
      intro hp
      exact hw (List.prefix_nil.mp (prefix_of_append_newline hnewline hp))
    simp [allFrom, hlength, hno, hw, show '\n'.utf8Size = 1 from rfl]
  | cons c line ih =>
    have hoffset : offset + width (c :: line) + 1 = offset + c.utf8Size + width line + 1 := by
      rw [width_cons]
      omega
    rw [hoffset, List.cons_append]
    cases skip with
    | succ skip => exact ih _ _ (Nat.le_of_succ_le_succ hskip)
    | zero =>
      simp only [allFrom, hlength]
      by_cases hp : w <+: c :: line
      · have hlen := hp.length_le
        have hp' : w <+: c :: (line ++ '\n' :: rest) := hp.trans (List.prefix_append (c :: line) _)
        rw [List.length_cons] at hlen
        rw [if_pos hp, if_pos hp']
        simp only
        rw [ih _ _ (by omega), ← List.prefix_iff_eq_take.mp hp, ← List.prefix_iff_eq_take.mp hp',
          List.cons_append]
      · have hp' : ¬ w <+: c :: (line ++ '\n' :: rest) := by
          intro h
          exact hp (prefix_of_append_newline hnewline h)
        rw [if_neg hp, if_neg hp']
        exact ih _ _ (Nat.zero_le _)

end Match

end FrontLint
