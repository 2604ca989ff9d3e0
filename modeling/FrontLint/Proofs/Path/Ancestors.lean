/-
  FrontLint.Proofs.Path.Ancestors — the steps of a path, and the path without its last one.

  A path's steps are its pieces that name something, `..` among them. Proved:
  - `steps_eq`: the lead of a path is no step.
  - `splitOn_join`: a name that is joined to a path is one more step.
  - `parent?_eq_some` / `parent?_eq_none`: a path's parent has its steps but the last, and where a path
    has no parent no step is left.
-/

import FrontLint.Proofs.Path.Names

namespace FrontLint

namespace Path

variable {p q : Path}

/-! ## Steps -/

/-- The pieces of a path that name something. -/
def steps (p : Path) : List Text := (Text.splitOn (· = '/') p.text).filter (!isVoid ·)

theorem no_slash_of_mem_steps {s : Text} (hs : s ∈ p.steps) : '/' ∉ s :=
  no_slash_of_mem_splitOn (List.mem_of_mem_filter hs)

/-- A step other than `..` is a name. -/
theorem isName_of_mem_steps {s : Text} (hs : s ∈ p.steps) (hup : s ≠ ['.', '.']) : IsName s := by
  have hvoid : ¬ isVoid s = true := by simpa using (List.mem_filter.mp hs).2
  rw [isVoid_iff, not_or] at hvoid
  exact ⟨hvoid.1, hvoid.2, hup, no_slash_of_mem_steps hs⟩

/-- What may follow a lead: anything a slash or no lead, only a slash a lone `.`. -/
def Follows (lead body : Text) : Prop :=
  lead = ['/'] ∨ lead = ['.'] ∧ (body = [] ∨ body.head? = some '/') ∨ lead = []

theorem follows_lead (p : Path) : Follows p.lead (p.text.drop p.lead.length) := by
  rcases lead_cases p with ⟨h, -⟩ | ⟨h, ht | ⟨t, ht⟩⟩ | h
  · exact .inl h
  · exact .inr (.inl ⟨h, .inl (by simp [h, ht])⟩)
  · exact .inr (.inl ⟨h, .inr (by simp [h, ht])⟩)
  · exact .inr (.inr h)

/-- A lead is no step. -/
theorem steps_append {lead body : Text} (h : Follows lead body) : steps ⟨lead ++ body⟩ = steps ⟨body⟩ := by
  have hslash : ∀ t : Text, Text.splitOn (· = '/') ('/' :: t) = [] :: Text.splitOn (· = '/') t :=
    splitOn_slash []
  rcases h with rfl | ⟨rfl, rfl | hbody⟩ | rfl
  · simp only [steps, List.singleton_append, hslash]
    rfl
  · rfl
  · obtain ⟨t, rfl⟩ := List.head?_eq_some_iff.mp hbody
    simp only [steps, splitOn_slash, hslash]
    rfl
  · rfl

theorem steps_eq (p : Path) : p.steps = p.pieces.filter (!isVoid ·) := by
  have hp : p.steps = steps ⟨p.text.drop p.lead.length⟩ := by
    rw [← steps_append (follows_lead p), lead_append_body]
  rw [hp]
  by_cases hbody : p.text.drop p.lead.length = []
  · rw [hbody, pieces, hbody]
    rfl
  · rw [pieces_of_body rfl hbody, steps]

theorem length_components (p : Path) : p.components.length = p.leadParts.length + p.steps.length := by
  rw [components_eq, List.length_append, List.length_map, steps_eq]

/-- A name that is joined to a path is one more step, after the steps of that path. -/
theorem splitOn_join {n : Text} (hn : IsName n) (q : Path) :
    ∃ front, Text.splitOn (· = '/') (q.join ⟨n⟩).text = front ++ [n] ∧ front.filter (!isVoid ·) = q.steps := by
  by_cases hq : q.text = []
  · exact ⟨[], by rw [join_of_empty hq, splitOn_name hn, List.nil_append], by rw [steps, hq]; rfl⟩
  · rw [join_text hq (lead_name hn)]
    split
    · rename_i hlast
      obtain ⟨t, ht⟩ := List.getLast?_eq_some_iff.mp hlast
      refine ⟨Text.splitOn (· = '/') t, ?_, ?_⟩
      · rw [ht, List.append_assoc, List.singleton_append, splitOn_slash, splitOn_name hn]
      · rw [steps, ht, splitOn_slash, List.filter_append]
        simp [Text.splitOn, isVoid]
    · exact ⟨Text.splitOn (· = '/') q.text, by rw [splitOn_slash, splitOn_name hn], rfl⟩

theorem isAbsolute_iff : p.isAbsolute = true ↔ p.lead = ['/'] := by
  constructor
  · intro h
    rw [isAbsolute, decide_eq_true_eq] at h
    obtain ⟨t, ht⟩ := List.head?_eq_some_iff.mp h
    simp only [lead, ht]
  · intro h
    rw [isAbsolute, ← lead_append_body p, h]
    rfl

theorem isAbsolute_eq (h : q.lead = p.lead) : q.isAbsolute = p.isAbsolute := by
  rw [Bool.eq_iff_iff, isAbsolute_iff, isAbsolute_iff, h]

theorem isAbsolute_join {n : Text} (hn : IsName n) (q : Path) : (q.join ⟨n⟩).isAbsolute = q.isAbsolute := by
  by_cases hq : q.text = []
  · rw [join_of_empty hq, isAbsolute_of_lead (lead_name hn), isAbsolute, hq]
    rfl
  · exact isAbsolute_eq (lead_join hq (lead_name hn))

/-! ## Parents -/

/-- What is trimmed from pieces names nothing. -/
theorem trimPieces_eq (qs : List Text) :
    trimPieces qs <+: qs ∧ (∀ s, (trimPieces qs).getLast? = some s → isVoid s = false) ∧
      (trimPieces qs).filter (!isVoid ·) = qs.filter (!isVoid ·) := by
  have hfilter : ∀ rs : List Text, (rs.dropWhile isVoid).filter (!isVoid ·) = rs.filter (!isVoid ·) := by
    intro rs
    induction rs with
    | nil => rfl
    | cons r rs ih =>
      by_cases hr : isVoid r = true
      · rw [List.dropWhile_cons_of_pos hr, ih, List.filter_cons_of_neg (by simpa using hr)]
      · rw [List.dropWhile_cons_of_neg hr]
  refine ⟨?_, fun s hs => ?_, ?_⟩
  · have hsuffix := List.reverse_prefix.mpr (List.dropWhile_suffix (l := qs.reverse) isVoid)
    rwa [List.reverse_reverse] at hsuffix
  · have hhead := List.head?_dropWhile_not isVoid qs.reverse
    rw [trimPieces, List.getLast?_reverse] at hs
    rw [hs] at hhead
    exact hhead
  · rw [trimPieces, List.filter_reverse, hfilter, List.filter_reverse, List.reverse_reverse]

/-- The first pieces of a path, up to one that names something, make a path with the same lead. -/
theorem front_eq {qs : List Text} (hqs : qs <+: p.pieces) (hlast : ∀ s, qs.getLast? = some s → isVoid s = false) :
    lead ⟨p.lead ++ joinPieces qs⟩ = p.lead ∧ steps ⟨p.lead ++ joinPieces qs⟩ = qs.filter (!isVoid ·) := by
  by_cases hne : qs = []
  · subst hne
    rcases lead_cases p with ⟨h, -⟩ | ⟨h, -⟩ | h
    · rw [h]
      exact ⟨rfl, rfl⟩
    · rw [h]
      exact ⟨rfl, rfl⟩
    · rw [h]
      exact ⟨rfl, rfl⟩
  obtain ⟨q, rest, rfl⟩ := List.exists_cons_of_ne_nil hne
  obtain ⟨more, hpieces⟩ := hqs
  rw [List.cons_append] at hpieces
  have hbody : p.text.drop p.lead.length ≠ [] := by
    intro h
    rw [pieces, h] at hpieces
    cases hpieces
  have hsplit : p.pieces = Text.splitOn (· = '/') (p.text.drop p.lead.length) := pieces_of_body rfl hbody
  have hread : Text.splitOn (· = '/') (joinPieces (q :: rest)) = q :: rest := by
    refine splitOn_joinPieces hne fun s hs => ?_
    refine no_slash_of_mem_splitOn (t := p.text.drop p.lead.length) ?_
    rw [← hsplit, ← hpieces, ← List.cons_append]
    exact List.mem_append_left more hs
  have hfollows : Follows p.lead (joinPieces (q :: rest)) := by
    rcases follows_lead p with h | ⟨h, h' | h'⟩ | h
    · exact .inl h
    · exact absurd h' hbody
    · -- Behind a `.` the first piece is empty, so it is not the last one that is kept.
      obtain ⟨t, ht⟩ := List.head?_eq_some_iff.mp h'
      have hq : q = [] := by
        rw [hsplit, ht] at hpieces
        have hslash := splitOn_slash [] t
        rw [List.nil_append] at hslash
        rw [hslash] at hpieces
        exact (List.cons.inj hpieces).1
      subst hq
      have hrest : rest ≠ [] := by
        rintro rfl
        cases hlast [] rfl
      rw [joinPieces_cons hrest]
      exact .inr (.inl ⟨h, .inr rfl⟩)
    · exact .inr (.inr h)
  refine ⟨?_, by rw [steps_append hfollows, steps, hread]⟩
  rcases hfollows with h | ⟨h, hjoin | hjoin⟩ | h
  · rw [h]
    rfl
  · rw [h, hjoin]
    rfl
  · obtain ⟨t, ht⟩ := List.head?_eq_some_iff.mp hjoin
    rw [h, ht]
    rfl
  · have htext : p.text ≠ [] := by
      intro htext
      rw [htext, List.drop_nil] at hbody
      exact hbody rfl
    obtain ⟨q', qs', hfirst, hq'⟩ := exists_pieces_eq_cons h htext
    rw [hfirst] at hpieces
    rw [h, List.nil_append]
    exact lead_eq_nil hread ((List.cons.inj hpieces).1 ▸ hq')

/-- A path's parent has its steps but the last, and is shorter. -/
theorem parent?_eq_some (h : p.parent? = some q) :
    q.isAbsolute = p.isAbsolute ∧ q.steps = p.steps.dropLast ∧ q.components.length < p.components.length := by
  obtain ⟨hfront, hlast, hsteps⟩ := trimPieces_eq p.pieces
  rw [← steps_eq] at hsteps
  unfold parent? at h
  split at h
  · rename_i last rest hdrop
    obtain rfl := Option.some.inj h
    have htrim : trimPieces p.pieces = rest.reverse ++ [last] := by
      rw [trimPieces, hdrop, List.reverse_cons]
    rw [htrim] at hfront hlast hsteps
    have hvoid : isVoid last = false := hlast last List.getLast?_concat
    have hsteps' : p.steps = rest.reverse.filter (!isVoid ·) ++ [last] := by
      rw [← hsteps, List.filter_append, List.filter_singleton, hvoid]
      rfl
    obtain ⟨hfront', hlast', hrest⟩ := trimPieces_eq rest.reverse
    obtain ⟨hlead, hparent⟩ := front_eq (hfront'.trans ((List.prefix_append _ _).trans hfront)) hlast'
    rw [hrest] at hparent
    refine ⟨isAbsolute_eq hlead, by rw [hparent, hsteps', List.dropLast_concat], ?_⟩
    rw [length_components, length_components, hparent, hsteps', leadParts, leadParts, hlead, List.length_append,
      List.length_singleton]
    omega
  · rename_i hdrop
    split at h
    · rename_i hhere
      obtain rfl := Option.some.inj h
      have hnone : p.steps = [] := by
        rw [← hsteps, trimPieces, hdrop]
        rfl
      refine ⟨?_, by rw [hnone]; rfl, ?_⟩
      · rw [Bool.eq_iff_iff, isAbsolute_iff, isAbsolute_iff, hhere]
        simp [lead]
      · rw [components_of_empty rfl, length_components, hnone, leadParts, hhere]
        exact Nat.one_pos
    · cases h

theorem steps_of_parent?_eq_none (h : p.parent? = none) : p.steps = [] := by
  obtain ⟨-, -, hsteps⟩ := trimPieces_eq p.pieces
  unfold parent? at h
  split at h
  · cases h
  · rename_i hdrop
    rw [steps_eq, ← hsteps, trimPieces, hdrop]
    rfl

end Path

end FrontLint
