/-
  FrontLint.Proofs.Pattern.Sweep — the matches of a pattern, found one after the other.

  At each place of a text, counted in characters, a pattern has a match or none (`lengthAt?`). A sweep goes
  from place to place: on by one where there is no match or an empty one, and behind a match that takes
  something. A `Cursor` finds the same matches by asking a search for the first match from a byte offset on,
  and goes on behind it, one character further if it is empty. Proved:
  - `sweep_findMatches`: the matches of a pattern are those of the sweep through the text.
  - `Sweep.length_le`, `Sweep.ordered`, `Sweep.sound`, `Sweep.complete`: there is at most one for each place,
    they do not overlap, each is a match of the pattern, and no place with a match is missed.
  - `Cursor.gives_of_sweep`: a cursor gives the matches of the sweep, or the first of them, and stops.
  - `Cursor.place_of_reached`: it stands on a character boundary as long as it asks.
  - `findMatches_iterated`: all of this for the matches of a pattern.
-/

import FrontLint.Proofs.Pattern.Occurrence
import FrontLint.Proofs.Text.Boundary

namespace FrontLint

open FrontLint.Text

/-! ## Places -/

theorem Text.byteOffset_add (t : Text) (i n : Nat) : t.byteOffset (i + n) = t.byteOffset i + width ((t.drop i).take n) := by
  rw [byteOffset, List.take_add, width_append]
  rfl

/-- Going on by one character. -/
theorem Text.step_at {t : Text} {i : Nat} (hi : i < t.length) :
    ∃ c, t.drop i = c :: t.drop (i + 1) ∧ (t.take (i + 1)).getLast? = some c ∧
      t.byteOffset (i + 1) = t.byteOffset i + c.utf8Size := by
  have hdrop := List.drop_eq_getElem_cons hi
  refine ⟨t[i], hdrop, ?_, ?_⟩
  · rw [List.take_add_one, List.getElem?_eq_getElem hi, Option.toList_some, List.getLast?_concat]
  · rw [byteOffset_add, hdrop, List.take_succ_cons, List.take_zero, width_cons, width_nil, Nat.add_zero]

/-! ## The match at a place -/

namespace Pattern

/-- A run accepts within the text, if it has not accepted before. -/
theorem Program.run_bounds {p : Program} {live : List Nat} {best : Option Nat} {n k : Nat} {t : Text}
    (h : p.run live best n t = some k) : best = some k ∨ n ≤ k ∧ k ≤ n + t.length := by
  have haccepted : ∀ {live best n}, p.accepted live best n = some k → best = some k ∨ n = k := by
    intro live best n h
    unfold accepted at h
    split at h
    · exact .inr (Option.some.inj h)
    · exact .inl h
  induction t generalizing live best n with
  | nil =>
    rcases haccepted h with h | h
    · exact .inl h
    · exact .inr (by simp; omega)
  | cons c t ih =>
    rw [List.length_cons]
    rw [run] at h
    split at h
    · rcases haccepted h with h | h
      · exact .inl h
      · exact .inr (by omega)
    · rcases ih h with h | h
      · rcases haccepted h with h | h
        · exact .inl h
        · exact .inr (by omega)
      · exact .inr (by omega)

/-- How many characters the match takes that starts at place `i`. -/
def lengthAt? (p : Pattern) (t : Text) (i : Nat) : Option Nat :=
  p.program.matchLength? (t.take i).getLast? (t.drop i)

theorem lengthAt?_le {p : Pattern} {t : Text} {i n : Nat} (hi : i ≤ t.length) (h : p.lengthAt? t i = some n) :
    i + n ≤ t.length := by
  rcases Program.run_bounds h with h | h
  · cases h
  · rw [List.length_drop] at h
    omega

end Pattern

/-- The `n` characters from place `i` on. -/
def Match.part (t : Text) (i n : Nat) : Match := ⟨t.byteOffset i, t.byteOffset (i + n), (t.drop i).take n⟩

namespace Pattern

variable {p : Pattern} {t : Text}

/-- `Sweep p t i ms`: from place `i` on, the matches are `ms`. -/
inductive Sweep (p : Pattern) (t : Text) : Nat → List Match → Prop
  | ended : p.lengthAt? t t.length = none → Sweep p t t.length []
  | last : p.lengthAt? t t.length = some 0 → Sweep p t t.length [.part t t.length 0]
  | pass {i : Nat} {ms : List Match} : i < t.length → p.lengthAt? t i = none → Sweep p t (i + 1) ms → Sweep p t i ms
  | found {i n : Nat} {ms : List Match} : i < t.length → p.lengthAt? t i = some n → i + n ≤ t.length →
      Sweep p t (i + max n 1) ms → Sweep p t i (.part t i n :: ms)

/-- The matches from place `i` on, passing over the first `skip` characters. -/
def matchesAt (p : Pattern) (t : Text) (i skip : Nat) : List Match :=
  Match.allFrom p.program.matchLength? (t.take i).getLast? skip (t.byteOffset i) (t.drop i)

theorem matchesAt_skip {i skip : Nat} (h : i + skip ≤ t.length) :
    p.matchesAt t i skip = p.matchesAt t (i + skip) 0 := by
  induction skip generalizing i with
  | zero => rfl
  | succ skip ih =>
    obtain ⟨c, hdrop, hlast, hoffset⟩ := step_at (t := t) (i := i) (by omega)
    have hnext := ih (i := i + 1) (by omega)
    rw [matchesAt, hlast, hoffset] at hnext
    rw [matchesAt, hdrop, Match.allFrom, hnext, Nat.add_assoc, Nat.add_comm 1]

theorem sweep_matchesAt (p : Pattern) (t : Text) {i : Nat} (hi : i ≤ t.length) : Sweep p t i (p.matchesAt t i 0) := by
  -- On how many characters are left: a match may take several of them.
  induction hm : t.length - i using Nat.strongRecOn generalizing i with
  | _ m ih =>
  rcases Nat.lt_or_eq_of_le hi with hlt | rfl
  · obtain ⟨c, hdrop, hlast, hoffset⟩ := step_at hlt
    have hhere : p.lengthAt? t i = p.program.matchLength? (t.take i).getLast? (c :: t.drop (i + 1)) := by
      rw [lengthAt?, hdrop]
    cases hn : p.lengthAt? t i with
    | none =>
      have hnext : p.matchesAt t i 0 = p.matchesAt t (i + 1) 0 := by
        rw [matchesAt, matchesAt, hdrop, Match.allFrom, ← hhere, hn, hlast, hoffset]
      rw [hnext]
      exact .pass hlt hn (ih _ (by omega) hlt rfl)
    | some n =>
      have hle := lengthAt?_le hi hn
      have hskip : i + 1 + (n - 1) = i + max n 1 := by omega
      have hnext : p.matchesAt t i 0 = .part t i n :: p.matchesAt t (i + max n 1) 0 := by
        rw [← hskip, ← matchesAt_skip (by omega), matchesAt, matchesAt, hdrop, Match.allFrom, ← hhere, hn, hlast,
          hoffset, Match.part, byteOffset_add, hdrop]
      rw [hnext]
      exact .found hlt hn hle (ih _ (by omega) (by omega) rfl)
  · cases hn : p.lengthAt? t t.length with
    | none =>
      have hnil : p.matchesAt t t.length 0 = [] := by
        rw [lengthAt?, List.drop_length] at hn
        rw [matchesAt, List.drop_length, Match.allFrom, hn]
      rw [hnil]
      exact .ended hn
    | some n =>
      obtain rfl : n = 0 := by
        have := lengthAt?_le (Nat.le_refl _) hn
        omega
      have hone : p.matchesAt t t.length 0 = [.part t t.length 0] := by
        rw [lengthAt?, List.drop_length] at hn
        rw [matchesAt, List.drop_length, Match.allFrom, hn, Match.part, Nat.add_zero, List.drop_length]
        rfl
      rw [hone]
      exact .last hn

/-- The matches of a pattern are those of the sweep through the text. -/
theorem sweep_findMatches (p : Pattern) (t : Text) : Sweep p t 0 (p.findMatches t false) := by
  rw [findMatches_eq]
  exact sweep_matchesAt p t (Nat.zero_le _)

/-! ## What a sweep finds -/

namespace Sweep

variable {i : Nat} {ms : List Match}

theorem length_le (h : Sweep p t i ms) : i + ms.length ≤ t.length + 1 := by
  induction h with
  | ended _ => simp
  | last _ => simp
  | pass hi _ _ ih => omega
  | found hi _ _ _ ih =>
    rw [List.length_cons]
    omega

/-- Each match is one that the pattern has, at a place from which the sweep has still to go on. -/
theorem sound (h : Sweep p t i ms) :
    ∀ m ∈ ms, ∃ j n, i ≤ j ∧ j + n ≤ t.length ∧ p.lengthAt? t j = some n ∧ m = .part t j n := by
  induction h with
  | ended _ => simp
  | last hn =>
    intro m hm
    exact ⟨t.length, 0, Nat.le_refl _, Nat.le_refl _, hn, List.mem_singleton.mp hm⟩
  | pass hi _ _ ih =>
    intro m hm
    obtain ⟨j, n, hj, hrest⟩ := ih m hm
    exact ⟨j, n, by omega, hrest⟩
  | @found i n ms hi hn hle _ ih =>
    intro m hm
    rcases List.mem_cons.mp hm with rfl | hm
    · exact ⟨i, n, Nat.le_refl _, hle, hn, rfl⟩
    · obtain ⟨j, k, hj, hrest⟩ := ih m hm
      exact ⟨j, k, by omega, hrest⟩

/-- Each match starts behind the one before it, and not before its end. -/
theorem ordered (h : Sweep p t i ms) : ms.Pairwise fun a b => a.start < b.start ∧ a.stop ≤ b.start := by
  induction h with
  | ended _ => exact .nil
  | last _ => exact List.pairwise_singleton _ _
  | pass _ _ _ ih => exact ih
  | @found i n ms hi _ _ hrest ih =>
    refine .cons (fun b hb => ?_) ih
    obtain ⟨j, k, hj, hk, -, rfl⟩ := hrest.sound b hb
    exact ⟨byteOffset_lt (by omega) (by omega), byteOffset_le t (by omega)⟩

/-- Where the pattern has a match, one of the matches starts, or is not at its end yet. -/
theorem complete (h : Sweep p t i ms) {j : Nat} (hij : i ≤ j) (hj : j ≤ t.length) (hn : p.lengthAt? t j ≠ none) :
    ∃ m ∈ ms, m.start = t.byteOffset j ∨ m.start < t.byteOffset j ∧ t.byteOffset j < m.stop := by
  induction h with
  | ended hnone =>
    obtain rfl : j = t.length := by omega
    exact absurd hnone hn
  | last _ =>
    obtain rfl : j = t.length := by omega
    exact ⟨_, List.mem_singleton_self _, .inl rfl⟩
  | @pass i ms _ hnone _ ih =>
    have hne : i ≠ j := by
      rintro rfl
      exact hn hnone
    exact ih (by omega)
  | @found i n ms _ _ hle _ ih =>
    rcases Nat.lt_or_ge j (i + max n 1) with hin | hbehind
    · refine ⟨_, List.mem_cons_self, ?_⟩
      rcases Nat.eq_or_lt_of_le hij with rfl | hlt
      · exact .inl rfl
      · exact .inr ⟨byteOffset_lt hlt hj, byteOffset_lt (by omega) hle⟩
    · obtain ⟨m, hm, hplace⟩ := ih hbehind
      exact ⟨m, List.mem_cons_of_mem _ hm, hplace⟩

end Sweep

/-! ## Searches -/

/-- `find` searches a text: from a boundary on, it gives the match of the pattern that starts first. -/
def Searches (p : Pattern) (t : Text) (find : Nat → Option Match) : Prop :=
  ∀ i, i ≤ t.length → ∀ m, find (t.byteOffset i) = some m ↔
    ∃ j n, i ≤ j ∧ j ≤ t.length ∧ p.lengthAt? t j = some n ∧ m = .part t j n ∧
      ∀ k, i ≤ k → k < j → p.lengthAt? t k = none

namespace Searches

variable {find : Nat → Option Match} {i n : Nat}

theorem here (h : p.Searches t find) (hi : i ≤ t.length) (hn : p.lengthAt? t i = some n) :
    find (t.byteOffset i) = some (.part t i n) :=
  (h i hi _).mpr ⟨i, n, Nat.le_refl _, hi, hn, rfl, fun k _ _ => by omega⟩

/-- A place without a match makes no difference. -/
theorem pass (h : p.Searches t find) (hi : i < t.length) (hn : p.lengthAt? t i = none) :
    find (t.byteOffset i) = find (t.byteOffset (i + 1)) := by
  refine Option.ext fun m => ?_
  rw [h i (Nat.le_of_lt hi), h (i + 1) hi]
  constructor
  · rintro ⟨j, n, hj, hle, hlen, hm, hfirst⟩
    have hne : i ≠ j := by
      rintro rfl
      rw [hn] at hlen
      cases hlen
    exact ⟨j, n, by omega, hle, hlen, hm, fun k hk => hfirst k (by omega)⟩
  · rintro ⟨j, n, hj, hle, hlen, hm, hfirst⟩
    refine ⟨j, n, by omega, hle, hlen, hm, fun k hk hlt => ?_⟩
    rcases Nat.eq_or_lt_of_le hk with rfl | hk
    · exact hn
    · exact hfirst k hk hlt

theorem ended (h : p.Searches t find) (hn : p.lengthAt? t t.length = none) :
    find (t.byteOffset t.length) = none := by
  refine Option.eq_none_iff_forall_ne_some.mpr fun m hm => ?_
  obtain ⟨j, n, hj, hle, hlen, -⟩ := (h t.length (Nat.le_refl _) m).mp hm
  obtain rfl : j = t.length := by omega
  rw [hn] at hlen
  cases hlen

end Searches

/-- The search that tries one place after the other. -/
def firstFrom (p : Pattern) (t : Text) (offset : Nat) : Option Match :=
  ((List.range (t.length + 1)).find? fun i => offset ≤ t.byteOffset i && (p.lengthAt? t i).isSome).bind fun i =>
    (p.lengthAt? t i).map (Match.part t i)

theorem searches_firstFrom (p : Pattern) (t : Text) : p.Searches t (p.firstFrom t) := by
  intro i hi m
  have hplace : ∀ {k}, k ≤ t.length → (t.byteOffset i ≤ t.byteOffset k ↔ i ≤ k) := by
    intro k hk
    refine ⟨fun h => Nat.le_of_not_lt fun hlt => ?_, byteOffset_le t⟩
    have := byteOffset_lt hlt hi
    omega
  simp only [firstFrom, Option.bind_eq_some_iff, Option.map_eq_some_iff, List.find?_range_eq_some, Bool.and_eq_true,
    decide_eq_true_eq, Bool.not_eq_true', List.mem_range, Nat.lt_succ_iff]
  constructor
  · rintro ⟨j, ⟨⟨hle, -⟩, hj, hfirst⟩, n, hn, rfl⟩
    refine ⟨j, n, (hplace hj).mp hle, hj, hn, rfl, fun k hk hlt => ?_⟩
    have hno := hfirst k hlt
    rw [Bool.and_eq_false_iff, decide_eq_false_iff_not, hplace (by omega)] at hno
    rcases hno with hno | hno
    · exact absurd hk hno
    · simpa using hno
  · rintro ⟨j, n, hle, hj, hn, rfl, hfirst⟩
    refine ⟨j, ⟨⟨(hplace hj).mpr hle, by rw [hn]; rfl⟩, hj, fun k hlt => ?_⟩, n, hn, rfl⟩
    rw [Bool.and_eq_false_iff, decide_eq_false_iff_not, hplace (by omega)]
    by_cases hk : i ≤ k
    · exact .inr (by rw [hfirst k hk hlt]; rfl)
    · exact .inl hk

end Pattern

/-! ## Cursors -/

/-- An iteration over matches that is under way: the byte offset from which it goes on, unless it is done. -/
structure Cursor where
  place : Nat
  done : Bool
  deriving DecidableEq, Repr

namespace Cursor

def start : Cursor := ⟨0, false⟩

/-- The offset behind a match, one character further on if it is empty. -/
def behind (t : Text) (m : Match) : Nat :=
  if m.start = m.stop then m.stop + ((t.drop (t.charsBefore m.stop)).head?.map Char.utf8Size).getD 1 else m.stop

/-- The cursor asks for a match, unless it is done or has passed the end. -/
def Asks (t : Text) (s : Cursor) : Prop := s.done = false ∧ s.place ≤ width t

instance (t : Text) (s : Cursor) : Decidable (s.Asks t) := inferInstanceAs (Decidable (_ ∧ _))

/-- The next match, and where to go on. -/
def next (find : Nat → Option Match) (t : Text) (onlyFirst : Bool) (s : Cursor) : Option Match × Cursor :=
  if s.Asks t then
    (find s.place).elim (none, { s with done := true }) fun m => (some m, ⟨behind t m, onlyFirst⟩)
  else (none, s)

/-- A cursor gives a list of matches and then no more, however often it is asked. -/
inductive Gives (next : Cursor → Option Match × Cursor) : Cursor → List Match → Prop
  | done {s s' : Cursor} : next s = (none, s') → next s' = (none, s') → Gives next s []
  | more {s s' : Cursor} {m : Match} {ms : List Match} : next s = (some m, s') → Gives next s' ms →
      Gives next s (m :: ms)

/-- The cursors of an iteration. -/
inductive Reached (next : Cursor → Option Match × Cursor) : Cursor → Prop
  | start : Reached next .start
  | step {s : Cursor} : Reached next s → Reached next (next s).2

variable {p : Pattern} {t : Text} {find : Nat → Option Match} {onlyFirst : Bool}

theorem asks_byteOffset (t : Text) (i : Nat) : Asks t ⟨t.byteOffset i, false⟩ := ⟨rfl, byteOffset_le_width t i⟩

/-- A cursor that does not ask has no more to give. -/
theorem gives_nil {s : Cursor} (h : ¬ s.Asks t) : Gives (next find t onlyFirst) s [] := by
  have hnext : next find t onlyFirst s = (none, s) := if_neg h
  exact .done hnext hnext

/-- Nor has one for which nothing is found. -/
theorem gives_nil_of_find {s : Cursor} (h : s.Asks t) (hfind : find s.place = none) :
    Gives (next find t onlyFirst) s [] := by
  have hnext : next find t onlyFirst s = (none, { s with done := true }) := by rw [next, if_pos h, hfind, Option.elim]
  refine .done hnext (if_neg ?_)
  simp [Asks]

theorem gives_cons {s : Cursor} {m : Match} {ms : List Match} (h : s.Asks t) (hfind : find s.place = some m)
    (hrest : Gives (next find t onlyFirst) ⟨behind t m, onlyFirst⟩ ms) : Gives (next find t onlyFirst) s (m :: ms) := by
  refine .more ?_ hrest
  rw [next, if_pos h, hfind, Option.elim]

theorem behind_part {j n : Nat} (hj : j < t.length) (hle : j + n ≤ t.length) :
    behind t (.part t j n) = t.byteOffset (j + max n 1) := by
  unfold behind Match.part
  cases n with
  | zero =>
    obtain ⟨c, hdrop, -, hoffset⟩ := step_at hj
    simp only [Nat.add_zero, charsBefore_byteOffset (Nat.le_of_lt hj), hdrop]
    exact hoffset.symm
  | succ n =>
    have hlt : t.byteOffset j < t.byteOffset (j + (n + 1)) := byteOffset_lt (by omega) hle
    rw [if_neg (Nat.ne_of_lt hlt), Nat.max_eq_left (by omega)]

theorem behind_end (t : Text) : behind t (.part t t.length 0) = width t + 1 := by
  have hend : t.drop (t.charsBefore (t.byteOffset t.length)) = [] := by
    rw [charsBefore_byteOffset (Nat.le_refl _), List.drop_length]
  simp only [behind, Match.part, Nat.add_zero, hend, if_true]
  rw [byteOffset_length]
  rfl

/-- What a search finds is the first match of the sweep, and a cursor behind it gives the others. -/
theorem find_of_sweep (hfind : p.Searches t find) {i : Nat} {ms : List Match} (h : Pattern.Sweep p t i ms) :
    (find (t.byteOffset i) = none ∧ ms = []) ∨
      ∃ m rest, find (t.byteOffset i) = some m ∧ ms = m :: rest ∧
        Gives (next find t false) ⟨behind t m, false⟩ rest := by
  induction h with
  | ended hn => exact .inl ⟨hfind.ended hn, rfl⟩
  | last hn =>
    -- Behind the empty match at the end, the cursor is past the end and asks no more.
    refine .inr ⟨_, [], hfind.here (Nat.le_refl _) hn, rfl, gives_nil ?_⟩
    rw [behind_end]
    simp [Asks]
  | pass hi hn _ ih =>
    rw [hfind.pass hi hn]
    exact ih
  | @found i n ms hi hn hle _ ih =>
    refine .inr ⟨_, ms, hfind.here (Nat.le_of_lt hi) hn, rfl, ?_⟩
    rw [behind_part hi hle]
    rcases ih with ⟨hnone, rfl⟩ | ⟨m, rest, hsome, rfl, hrest⟩
    · exact gives_nil_of_find (asks_byteOffset t _) hnone
    · exact gives_cons (asks_byteOffset t _) hsome hrest

/-- A cursor gives the matches of the sweep, or the first of them. -/
theorem gives_of_sweep (hfind : p.Searches t find) {i : Nat} {ms : List Match} (h : Pattern.Sweep p t i ms)
    (onlyFirst : Bool) :
    Gives (next find t onlyFirst) ⟨t.byteOffset i, false⟩ (if onlyFirst then ms.take 1 else ms) := by
  rcases find_of_sweep hfind h with ⟨hnone, rfl⟩ | ⟨m, rest, hsome, rfl, hrest⟩
  · cases onlyFirst <;> exact gives_nil_of_find (asks_byteOffset t i) hnone
  · cases onlyFirst with
    | false => exact gives_cons (asks_byteOffset t i) hsome hrest
    | true => exact gives_cons (asks_byteOffset t i) hsome (gives_nil (by simp [Asks]))

/-- A cursor stands on a boundary, or past the end. -/
theorem place_of_reached (hfind : p.Searches t find) {s : Cursor} (h : Reached (next find t onlyFirst) s) :
    t.IsBoundary s.place ∨ s.place = width t + 1 := by
  induction h with
  | start => exact .inl (isBoundary_byteOffset t 0)
  | @step s hs ih =>
    unfold next
    by_cases hasks : s.Asks t
    · obtain ⟨i, hi, hplace⟩ := isBoundary_iff.mp (ih.resolve_right (by have := hasks.2; omega))
      rw [if_pos hasks]
      cases hm : find s.place with
      | none => exact ih
      | some m =>
        rw [← hplace] at hm
        obtain ⟨j, n, -, hj, hn, rfl, -⟩ := (hfind i hi m).mp hm
        have hle := Pattern.lengthAt?_le hj hn
        rcases Nat.lt_or_eq_of_le hj with hlt | rfl
        · left
          show t.IsBoundary (behind t (.part t j n))
          rw [behind_part hlt hle]
          exact isBoundary_byteOffset t _
        · right
          obtain rfl : n = 0 := by omega
          exact behind_end t
    · rw [if_neg hasks]
      exact ih

end Cursor

/-- The matches of a pattern, found one after the other: there are at most as many as places, they do not overlap,
each is a match of the pattern, and where the pattern has a match, one of them starts or goes on. Only the first
may be asked for. A cursor gives them by any search for the first match from a boundary on, and then no more; it
asks at boundaries only. -/
theorem Pattern.findMatches_iterated (p : Pattern) (t : Text) :
    (p.findMatches t false).length ≤ t.length + 1 ∧
      ((p.findMatches t false).Pairwise fun a b => a.start < b.start ∧ a.stop ≤ b.start) ∧
      (∀ m ∈ p.findMatches t false, ∃ i n, i + n ≤ t.length ∧ p.lengthAt? t i = some n ∧ m = .part t i n) ∧
      (∀ i, i ≤ t.length → p.lengthAt? t i ≠ none → ∃ m ∈ p.findMatches t false,
        m.start = t.byteOffset i ∨ m.start < t.byteOffset i ∧ t.byteOffset i < m.stop) ∧
      p.findMatches t true = (p.findMatches t false).take 1 ∧
      ∀ find, p.Searches t find → ∀ onlyFirst,
        Cursor.Gives (Cursor.next find t onlyFirst) .start (p.findMatches t onlyFirst) ∧
          ∀ s, Cursor.Reached (Cursor.next find t onlyFirst) s → s.Asks t → t.IsBoundary s.place := by
  have hsweep := sweep_findMatches p t
  have hfirst : p.findMatches t true = (p.findMatches t false).take 1 := by
    rw [findMatches_eq, findMatches_eq]
    rfl
  refine ⟨?_, hsweep.ordered, ?_, fun i => hsweep.complete (Nat.zero_le i), hfirst, fun find hfind onlyFirst => ⟨?_, ?_⟩⟩
  · have := hsweep.length_le
    omega
  · intro m hm
    obtain ⟨i, n, -, hrest⟩ := hsweep.sound m hm
    exact ⟨i, n, hrest⟩
  · have hgives := Cursor.gives_of_sweep hfind hsweep onlyFirst
    cases onlyFirst with
    | false => exact hgives
    | true =>
      rw [hfirst]
      exact hgives
  · intro s hs hasks
    refine (Cursor.place_of_reached hfind hs).resolve_right fun hpast => ?_
    have := hasks.2
    omega

/-- Any number of one character. -/
def Pattern.manyOf (c : Char) : Pattern := ⟨"", .ofRegex (.rep (.one (.single c)) 0 none true)⟩

/-- Empty matches before a wide character, behind a match that takes something, and at the end. -/
theorem Pattern.findMatches_iterated_empty_matches :
    (manyOf 'a').Searches ['é', 'a', 'a', 'b'] ((manyOf 'a').firstFrom ['é', 'a', 'a', 'b']) ∧
      Cursor.Gives (Cursor.next ((manyOf 'a').firstFrom ['é', 'a', 'a', 'b']) ['é', 'a', 'a', 'b'] false) .start
        [⟨0, 0, []⟩, ⟨2, 4, ['a', 'a']⟩, ⟨4, 4, []⟩, ⟨5, 5, []⟩] := by
  have hsearches := searches_firstFrom (manyOf 'a') ['é', 'a', 'a', 'b']
  have hfound : (manyOf 'a').findMatches ['é', 'a', 'a', 'b'] false =
      [⟨0, 0, []⟩, ⟨2, 4, ['a', 'a']⟩, ⟨4, 4, []⟩, ⟨5, 5, []⟩] := by decide +kernel
  obtain ⟨-, -, -, -, -, hgives⟩ := findMatches_iterated (manyOf 'a') ['é', 'a', 'a', 'b']
  rw [← hfound]
  exact ⟨hsearches, (hgives _ hsearches false).1⟩

end FrontLint
