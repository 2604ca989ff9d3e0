/-
  FrontLint.Proofs.Path.Components — the components of a path that is joined to another, and what is
  seen of it from there.

  A path that starts with a name has no lead: it is its pieces and nothing else. Joined to another path
  it adds them behind the pieces of that one, with a piece that names nothing between them at most.
  Proved:
  - `joinPieces_splitOn` / `splitOn_joinPieces`: cutting at slashes and putting together undo each other.
  - `pieces_join`: the pieces of a joined path.
  - `components_join`: it has the components of both paths.
  - `relativeTo?_join`: seen from the path it was joined to, it is what it was, however that path is
    written.
  - `ofPath?_join`: it has the kind that it had.
-/

import FrontLint.FileKind
import Mathlib.Data.List.Basic

namespace FrontLint

/-! ## Cutting at separators -/

namespace Text

variable (sep : Char → Bool)

-- The equations of `splitOn` are worked out here once, for the proofs that follow.
attribute [local simp] splitOn in
theorem splitOn_ne_nil (t : Text) : splitOn sep t ≠ [] := by
  induction t with
  | nil => simp [splitOn]
  | cons c t ih =>
    unfold splitOn
    split
    · simp
    · split <;> simp

theorem exists_splitOn_eq_cons (t : Text) : ∃ l ls, splitOn sep t = l :: ls :=
  List.exists_cons_of_ne_nil (splitOn_ne_nil sep t)

variable {sep}

/-- A separator between two texts cuts them apart. -/
theorem splitOn_append_cons {c : Char} (hc : sep c = true) (s t : Text) :
    splitOn sep (s ++ c :: t) = splitOn sep s ++ splitOn sep t := by
  induction s with
  | nil => simp [splitOn, hc]
  | cons d s ih =>
    by_cases hd : sep d = true
    · simp [splitOn, hd, ih]
    · obtain ⟨l, ls, hs⟩ := exists_splitOn_eq_cons sep s
      simp [splitOn, hd, ih, hs]

theorem splitOn_of_not_mem {t : Text} (h : ∀ c ∈ t, sep c = false) : splitOn sep t = [t] := by
  induction t with
  | nil => rfl
  | cons c t ih =>
    have hc : sep c = false := h c List.mem_cons_self
    have ht : splitOn sep t = [t] := ih fun d hd => h d (List.mem_cons_of_mem c hd)
    simp [splitOn, hc, ht]

theorem sep_eq_false_of_mem_splitOn {t l : Text} (hl : l ∈ splitOn sep t) : ∀ c ∈ l, sep c = false := by
  induction t generalizing l with
  | nil =>
    obtain rfl := List.mem_singleton.mp hl
    simp
  | cons d t ih =>
    unfold splitOn at hl
    split at hl
    · rcases List.mem_cons.mp hl with rfl | hl
      · simp
      · exact ih hl
    · rename_i hd
      obtain ⟨m, ms, hsplit⟩ := exists_splitOn_eq_cons sep t
      rw [hsplit] at hl ih
      rcases List.mem_cons.mp hl with rfl | hl
      · intro c hc
        rcases List.mem_cons.mp hc with rfl | hc
        · simpa using hd
        · exact ih List.mem_cons_self c hc
      · exact ih (List.mem_cons_of_mem m hl)

end Text

namespace Path

theorem splitOn_slash (s t : Text) :
    Text.splitOn (· = '/') (s ++ '/' :: t) = Text.splitOn (· = '/') s ++ Text.splitOn (· = '/') t :=
  Text.splitOn_append_cons (by simp) s t

theorem joinPieces_cons {q : Text} {qs : List Text} (h : qs ≠ []) :
    joinPieces (q :: qs) = q ++ '/' :: joinPieces qs := by
  cases qs with
  | nil => exact absurd rfl h
  | cons => rfl

theorem joinPieces_splitOn (t : Text) : joinPieces (Text.splitOn (· = '/') t) = t := by
  induction t with
  | nil => rfl
  | cons c t ih =>
    obtain ⟨l, ls, hsplit⟩ := Text.exists_splitOn_eq_cons (· = '/') t
    rw [hsplit] at ih
    by_cases hc : c = '/'
    · simp only [Text.splitOn, hc, decide_true, if_true, hsplit]
      rw [joinPieces_cons (by simp), ih, List.nil_append]
    · simp only [Text.splitOn, hc, decide_false, Bool.false_eq_true, if_false, hsplit]
      cases ls with
      | nil => simpa [joinPieces] using ih
      | cons => simpa [joinPieces] using ih

/-- Pieces without a slash that were put together are read back. -/
theorem splitOn_joinPieces {qs : List Text} (hne : qs ≠ []) (hqs : ∀ q ∈ qs, '/' ∉ q) :
    Text.splitOn (· = '/') (joinPieces qs) = qs := by
  have hsingle : ∀ q ∈ qs, Text.splitOn (· = '/') q = [q] := by
    intro q hq
    refine Text.splitOn_of_not_mem fun c hc => ?_
    rw [decide_eq_false_iff_not]
    rintro rfl
    exact hqs q hq hc
  clear hqs
  induction qs with
  | nil => exact absurd rfl hne
  | cons q qs ih =>
    have hfirst := hsingle q List.mem_cons_self
    cases qs with
    | nil => exact hfirst
    | cons r qs =>
      rw [joinPieces_cons (by simp), splitOn_slash, hfirst,
        ih (by simp) fun k hk => hsingle k (List.mem_cons_of_mem q hk)]
      rfl

theorem no_slash_of_mem_splitOn {t q : Text} (hq : q ∈ Text.splitOn (· = '/') t) : '/' ∉ q := by
  intro hslash
  simpa using Text.sep_eq_false_of_mem_splitOn hq '/' hslash

theorem isVoid_iff {q : Text} : isVoid q = true ↔ q = [] ∨ q = ['.'] := by
  simp [isVoid]

/-! ## The lead -/

/-- The three leads. -/
theorem lead_cases (p : Path) :
    (p.lead = ['/'] ∧ ∃ t, p.text = '/' :: t) ∨
      (p.lead = ['.'] ∧ (p.text = ['.'] ∨ ∃ t, p.text = '.' :: '/' :: t)) ∨ p.lead = [] := by
  unfold lead
  split
  · exact Or.inl ⟨rfl, _, by assumption⟩
  · exact Or.inr (Or.inl ⟨rfl, Or.inl (by assumption)⟩)
  · exact Or.inr (Or.inl ⟨rfl, Or.inr ⟨_, by assumption⟩⟩)
  · exact Or.inr (Or.inr rfl)

theorem lead_append_body (p : Path) : p.lead ++ p.text.drop p.lead.length = p.text := by
  rcases lead_cases p with ⟨h, t, ht⟩ | ⟨h, ht | ⟨t, ht⟩⟩ | h
  · simp [h, ht]
  · simp [h, ht]
  · simp [h, ht]
  · simp [h]

/-- A text has no lead if its first piece names something. -/
theorem lead_eq_nil {t q : Text} {qs : List Text} (hsplit : Text.splitOn (· = '/') t = q :: qs)
    (hq : isVoid q = false) : lead ⟨t⟩ = [] := by
  have hvoid : q ≠ [] ∧ q ≠ ['.'] := by
    rw [Bool.eq_false_iff, Ne, isVoid_iff, not_or] at hq
    exact hq
  rcases lead_cases ⟨t⟩ with ⟨-, s, ht⟩ | ⟨-, ht | ⟨s, ht⟩⟩ | h
  · obtain rfl : t = [] ++ '/' :: s := ht
    rw [splitOn_slash] at hsplit
    exact absurd (List.cons.inj hsplit).1.symm hvoid.1
  · obtain rfl : t = ['.'] := ht
    exact absurd (List.cons.inj hsplit).1.symm hvoid.2
  · obtain rfl : t = ['.'] ++ '/' :: s := ht
    rw [splitOn_slash] at hsplit
    exact absurd (List.cons.inj hsplit).1.symm hvoid.2
  · exact h

/-- What follows a path does not change its lead, if it leaves a lone `.` a piece of its own. -/
theorem lead_append {s t : Text} (hs : s ≠ []) (hdot : s = ['.'] → t.head? = some '/') :
    lead ⟨s ++ t⟩ = lead ⟨s⟩ := by
  rcases s with _ | ⟨a, _ | ⟨b, s⟩⟩
  · exact absurd rfl hs
  · by_cases hroot : a = '/'
    · simp [lead, hroot]
    · by_cases hhere : a = '.'
      · subst hhere
        obtain ⟨t', rfl⟩ := List.head?_eq_some_iff.mp (hdot rfl)
        rfl
      · simp [lead, hroot, hhere]
  · by_cases hroot : a = '/'
    · simp [lead, hroot]
    · by_cases hhere : a = '.' ∧ b = '/'
      · obtain ⟨rfl, rfl⟩ := hhere
        rfl
      · simp only [List.cons_append]
        unfold lead
        split <;> simp_all

/-! ## Paths joined -/

variable {r p : Path}

/-- What a path that is joined to another follows. -/
def stem (r : Path) : Text :=
  if r.text.isEmpty then [] else if r.text.getLast? = some '/' then r.text else r.text ++ ['/']

theorem isAbsolute_of_lead (hp : p.lead = []) : p.isAbsolute = false := by
  unfold isAbsolute
  cases htext : p.text with
  | nil => simp
  | cons c t =>
    have hc : c ≠ '/' := by
      rintro rfl
      simp [lead, htext] at hp
    simp [hc]

theorem join_eq (hp : p.isAbsolute = false) : r.join p = ⟨r.stem ++ p.text⟩ := by
  unfold join stem
  rw [hp, Bool.false_or]
  split
  · rfl
  · split <;> simp

theorem join_text (hr : r.text ≠ []) (hp : p.lead = []) :
    (r.join p).text = if r.text.getLast? = some '/' then r.text ++ p.text else r.text ++ '/' :: p.text := by
  have hempty : r.text.isEmpty = false := by simpa using hr
  rw [join_eq (isAbsolute_of_lead hp), stem, hempty]
  simp only [Bool.false_eq_true, if_false]
  split <;> simp

theorem lead_join (hr : r.text ≠ []) (hp : p.lead = []) : (r.join p).lead = r.lead := by
  have htext := join_text hr hp
  have hpath : r.join p = ⟨(r.join p).text⟩ := rfl
  rw [hpath, htext]
  split
  · rename_i hlast
    refine lead_append hr fun hdot => ?_
    simp [hdot] at hlast
  · exact lead_append hr fun _ => rfl

theorem pieces_of_body {q : Path} {body : Text} (h : q.text.drop q.lead.length = body) (hbody : body ≠ []) :
    q.pieces = Text.splitOn (· = '/') body := by
  unfold pieces
  rw [h]
  split
  · exact absurd rfl hbody
  · rfl

/-- A joined path has the pieces of the second path behind those of the first, which are kept up to
pieces that name nothing. -/
theorem pieces_join (hr : r.text ≠ []) (hp : p.lead = []) (hne : p.text ≠ []) :
    ∃ front, (r.join p).pieces = front ++ p.pieces ∧
      front.filter (!isVoid ·) = r.pieces.filter (!isVoid ·) := by
  have hpieces : p.pieces = Text.splitOn (· = '/') p.text := pieces_of_body (by simp [hp]) hne
  have hlead := lead_join hr hp
  have hr' := lead_append_body r
  generalize hb : r.text.drop r.lead.length = body at hr'
  have hjoin : (r.join p).text.drop (r.join p).lead.length =
      if r.text.getLast? = some '/' then body ++ p.text else body ++ '/' :: p.text := by
    rw [join_text hr hp, hlead]
    split
    · rw [← hr', List.append_assoc, List.drop_left]
    · rw [← hr', List.append_assoc, List.drop_left]
  by_cases hbody : body = []
  · have hrpieces : r.pieces = [] := by
      unfold pieces
      rw [hb, hbody]
    rw [hrpieces]
    subst hbody
    split at hjoin
    · exact ⟨[], by rw [pieces_of_body hjoin (by simpa using hne), hpieces]; rfl, rfl⟩
    · refine ⟨[[]], ?_, rfl⟩
      rw [pieces_of_body hjoin (by simp), splitOn_slash, hpieces]
      rfl
  · have hrpieces : r.pieces = Text.splitOn (· = '/') body := pieces_of_body hb hbody
    split at hjoin
    · rename_i hlast
      -- The slash at the end of the first path is the one between the two.
      obtain ⟨front, c, hfront⟩ := (List.eq_nil_or_concat body).resolve_left hbody
      rw [List.concat_eq_append] at hfront
      subst hfront
      obtain rfl : c = '/' := by
        rw [← hr', ← List.append_assoc, List.getLast?_concat] at hlast
        exact Option.some.inj hlast
      refine ⟨Text.splitOn (· = '/') front, ?_, ?_⟩
      · rw [pieces_of_body hjoin (by simp), List.append_assoc, List.singleton_append, splitOn_slash, hpieces]
      · rw [hrpieces, splitOn_slash]
        simp [Text.splitOn, isVoid]
    · refine ⟨r.pieces, ?_, rfl⟩
      rw [pieces_of_body hjoin (by simp), splitOn_slash, hpieces, hrpieces]

/-- The component that a lead stands for. -/
def leadParts (p : Path) : List Part :=
  match p.lead with
  | ['/'] => [.root]
  | ['.'] => [.here]
  | _ => []

theorem components_eq (p : Path) :
    p.components = p.leadParts ++ (p.pieces.filter (!isVoid ·)).map Part.ofPiece := rfl

theorem leadParts_eq_nil (hp : p.lead = []) : p.leadParts = [] := by
  unfold leadParts
  rw [hp]

theorem exists_leadParts_eq (hp : p.lead ≠ []) : ∃ c, p.leadParts = [c] ∧ ∀ n, c ≠ .name n := by
  unfold leadParts
  rcases lead_cases p with ⟨h, -⟩ | ⟨h, -⟩ | h
  · exact ⟨.root, by simp [h], by simp⟩
  · exact ⟨.here, by simp [h], by simp⟩
  · exact absurd h hp

theorem components_of_empty (hr : r.text = []) : r.components = [] := by
  simp [components_eq, leadParts, lead, pieces, hr]

theorem join_of_empty (hr : r.text = []) : r.join p = p := by
  simp [join, hr]

theorem components_join (hp : p.lead = []) (hne : p.text ≠ []) :
    (r.join p).components = r.components ++ p.components := by
  by_cases hr : r.text = []
  · rw [join_of_empty hr, components_of_empty hr, List.nil_append]
  · obtain ⟨front, hpieces, hfront⟩ := pieces_join hr hp hne
    have hlead : (r.join p).leadParts = r.leadParts := by
      unfold leadParts
      rw [lead_join hr hp]
    rw [components_eq, components_eq, components_eq, hlead, hpieces, leadParts_eq_nil hp, List.filter_append,
      hfront, List.map_append, List.nil_append, List.append_assoc]

/-! ## Seen from another path -/

/-- Pieces are dropped up to the last one that is asked for; what follows of them names nothing. -/
theorem dropComponents_append (front rest : List Text) :
    ∃ void, (∀ q ∈ void, isVoid q = true) ∧
      dropComponents ((front.filter (!isVoid ·)).map Part.ofPiece) (front ++ rest) = some (void ++ rest) := by
  induction front with
  | nil => exact ⟨[], by simp, by simp [dropComponents]⟩
  | cons q front ih =>
    by_cases hq : isVoid q = true
    · cases hwanted : (front.filter (!isVoid ·)).map Part.ofPiece with
      | nil =>
        have hvoid : ∀ q ∈ front, isVoid q = true := by simpa using hwanted
        refine ⟨q :: front, ?_, ?_⟩
        · intro q' hq'
          rcases List.mem_cons.mp hq' with rfl | h
          · exact hq
          · exact hvoid q' h
        · simp [hq, hwanted, dropComponents]
      | cons c cs =>
        rw [hwanted] at ih
        obtain ⟨void, hvoid, hdrop⟩ := ih
        refine ⟨void, hvoid, ?_⟩
        rw [List.filter_cons_of_neg (by simpa using hq), hwanted, List.cons_append, dropComponents, if_pos hq, hdrop]
    · obtain ⟨void, hvoid, hdrop⟩ := ih
      refine ⟨void, hvoid, ?_⟩
      rw [List.filter_cons_of_pos (by simpa using hq), List.map_cons, List.cons_append, dropComponents, if_neg hq,
        if_pos rfl, hdrop]

/-- The first piece of a path without a lead names something. -/
theorem exists_pieces_eq_cons (hp : p.lead = []) (hne : p.text ≠ []) :
    ∃ q qs, p.pieces = q :: qs ∧ isVoid q = false := by
  obtain ⟨q, qs, hq⟩ := Text.exists_splitOn_eq_cons (· = '/') p.text
  refine ⟨q, qs, by rw [pieces_of_body (by simp [hp]) hne, hq], ?_⟩
  have htext : joinPieces (q :: qs) = p.text := by rw [← hq, joinPieces_splitOn]
  rw [Bool.eq_false_iff]
  intro hvoid
  unfold lead at hp
  rw [← htext] at hp hne
  rcases isVoid_iff.mp hvoid with rfl | rfl <;> cases qs <;> simp [joinPieces] at hp hne

theorem components_ne_nil (hne : p.text ≠ []) : p.components ≠ [] := by
  by_cases hp : p.lead = []
  · obtain ⟨q, qs, hpieces, hq⟩ := exists_pieces_eq_cons hp hne
    simp [components_eq, hpieces, hq]
  · obtain ⟨c, hc, -⟩ := exists_leadParts_eq hp
    simp [components_eq, hc]

/-- A path, seen from the path that it was joined to. -/
theorem relativeTo?_join (hp : p.lead = []) (hne : p.text ≠ []) :
    (r.join p).relativeTo? r = some ⟨joinPieces (trimPieces p.pieces)⟩ := by
  by_cases hr : r.text = []
  · simp [relativeTo?, join_of_empty hr, components_of_empty hr, hp]
  obtain ⟨front, hpieces, hfront⟩ := pieces_join hr hp hne
  obtain ⟨void, hvoid, hdrop⟩ := dropComponents_append front p.pieces
  have hrest : (void ++ p.pieces).dropWhile isVoid = p.pieces := by
    obtain ⟨q, qs, hq, hq'⟩ := exists_pieces_eq_cons hp hne
    rw [List.dropWhile_append_of_pos hvoid, hq, List.dropWhile_cons_of_neg (by simp [hq'])]
  have hcomponents : r.components = r.leadParts ++ (front.filter (!isVoid ·)).map Part.ofPiece := by
    rw [components_eq, hfront]
  -- A lead is compared by itself, the pieces behind it one by one.
  have hwanted : ∃ c cs, r.components = c :: cs ∧
      (if (r.join p).lead.isEmpty then some (c :: cs)
        else if (r.join p).components.head? = some c then some cs else none) =
      some ((front.filter (!isVoid ·)).map Part.ofPiece) := by
    by_cases hlead : r.lead = []
    · obtain ⟨c, cs, hcs⟩ := List.exists_cons_of_ne_nil (components_ne_nil hr)
      refine ⟨c, cs, hcs, ?_⟩
      rw [leadParts_eq_nil hlead, List.nil_append] at hcomponents
      simp [lead_join hr hp, hlead, ← hcs, hcomponents]
    · obtain ⟨c, hc, -⟩ := exists_leadParts_eq hlead
      rw [hc, List.singleton_append] at hcomponents
      refine ⟨c, _, hcomponents, ?_⟩
      simp [lead_join hr hp, hlead, components_join hp hne, hcomponents]
  obtain ⟨c, cs, hcs, hwanted⟩ := hwanted
  unfold relativeTo?
  simp only [hcs, hwanted, Option.bind_some, hpieces, hdrop, Option.map_some, hrest]

/-! ## Plain paths -/

/-- A path of names, one or more. -/
def IsPlain (p : Path) : Prop := p.components ≠ [] ∧ ∀ c ∈ p.components, ∃ n, c = .name n

theorem IsPlain.lead_eq (h : p.IsPlain) : p.lead = [] := by
  by_contra hp
  obtain ⟨c, hc, hname⟩ := exists_leadParts_eq hp
  obtain ⟨n, hn⟩ := h.2 c (by simp [components_eq, hc])
  exact hname n hn

theorem IsPlain.text_ne_nil (h : p.IsPlain) : p.text ≠ [] := fun hp => h.1 (components_of_empty hp)

theorem fileName?_join (h : p.IsPlain) : (r.join p).fileName? = p.fileName? := by
  unfold fileName?
  rw [components_join h.lead_eq h.text_ne_nil, List.getLast?_append_of_ne_nil _ h.1]

theorem extension?_join (h : p.IsPlain) : (r.join p).extension? = p.extension? := by
  unfold extension?
  rw [fileName?_join h]

end Path

theorem FileKind.ofPath?_join {r p : Path} (h : p.IsPlain) : ofPath? (r.join p) = ofPath? p := by
  unfold ofPath?
  rw [Path.extension?_join h]

end FrontLint
