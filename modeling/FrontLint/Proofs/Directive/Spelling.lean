/-
  FrontLint.Proofs.Directive.Spelling — directives are read back as they were written.

  A `Spelling` is a directive with all that may be chosen in writing it: for which line it speaks, a colon
  with gaps around it or only a gap before the ids, and the gaps around the commas. Its types leave no other
  choice. What stands behind it must not go on with it (`EndsIds`). Ids may be anything that ids can be, the
  marker included. Proved:
  - `id?_append`, `moreIds_append`, `afterSeparator?_append`: each piece is read back in front of the next.
  - `read?_append`: so a directive is, whatever stands behind it.
  - `not_marker_across`: a marker does not start in front of another one and reach into it.
  - `readAll_spelled` / `ofLine_spelled`: a line with one directive has the ids of that directive.
-/

import FrontLint.Proofs.Directive.Reading

namespace FrontLint

open FrontLint.Text

namespace Directive

/-! ## Spellings -/

/-- Blanks and tabs, or nothing. -/
abbrev Gap := { t : Text // t.all isGap = true }

/-- The characters of an id. -/
abbrev Name := { t : Text // t ≠ [] ∧ t.all isIdChar = true }

/-- What stands between the marker and the ids. -/
inductive Separator where
  | colon (before after : Gap)
  | gap (g : Gap) (ne_nil : g.val ≠ [])

def Separator.text : Separator → Text
  | .colon before after => before.val ++ ':' :: after.val
  | .gap g _ => g.val

/-- A comma with gaps around it, and the id behind it. -/
structure NextId where
  before : Gap
  after : Gap
  name : Name

def NextId.text (i : NextId) : Text := i.before.val ++ ',' :: (i.after.val ++ i.name.val)

structure Spelling where
  nextLine : Bool
  separator : Separator
  first : Name
  more : List NextId

namespace Spelling

def names (s : Spelling) : List Name := s.first :: s.more.map (·.name)

def ids (s : Spelling) : List String := s.names.map fun n => String.ofList n.val

def mark (s : Spelling) : Text := bif s.nextLine then nextLineMark else []

def idsText (s : Spelling) : Text := s.first.val ++ s.more.flatMap NextId.text

def text (s : Spelling) : Text := marker ++ s.mark ++ s.separator.text ++ s.idsText

def directive (s : Spelling) : Directive := ⟨s.nextLine, s.ids⟩

end Spelling

/-- What follows does not go on with the ids: neither with one more character of the last id, nor with a comma
and one more id. -/
structure EndsIds (after : Text) : Prop where
  no_char : ∀ c ∈ after.head?, isIdChar c = false
  no_more : ∀ (u v : Gap) (c : Char) (rest : Text), after = u.val ++ ',' :: (v.val ++ c :: rest) → isIdChar c = false

/-! ## The pieces of a directive -/

theorem isIdChar_of_isGap {c : Char} (h : isGap c = true) : isIdChar c = false := by
  simp only [isGap, Bool.or_eq_true, beq_iff_eq] at h
  rcases h with rfl | rfl <;> decide

theorem isGap_of_isIdChar {c : Char} (h : isIdChar c = true) : isGap c = false := by
  cases hgap : isGap c with
  | false => rfl
  | true => rw [isIdChar_of_isGap hgap] at h; cases h

theorem takeWhile_append {p : Char → Bool} {w rest : Text} (hw : w.all p = true)
    (hrest : ∀ c ∈ rest.head?, p c = false) : (w ++ rest).takeWhile p = w := by
  rw [List.takeWhile_append_of_pos (List.all_eq_true.mp hw)]
  cases rest with
  | nil => simp
  | cons c rest => simp [hrest c rfl]

theorem dropWhile_append {p : Char → Bool} {w rest : Text} (hw : w.all p = true)
    (hrest : ∀ c ∈ rest.head?, p c = false) : (w ++ rest).dropWhile p = rest := by
  rw [List.dropWhile_append_of_pos (List.all_eq_true.mp hw)]
  cases rest with
  | nil => rfl
  | cons c rest => simp [hrest c rfl]

theorem id?_append (n : Name) {rest : Text} (hrest : ∀ c ∈ rest.head?, isIdChar c = false) :
    id? (n.val ++ rest) = some (String.ofList n.val, rest) := by
  obtain ⟨w, hne, hw⟩ := n
  unfold id?
  rw [takeWhile_append hw hrest, dropWhile_append hw hrest]
  cases w with
  | nil => exact absurd rfl hne
  | cons c w => rfl

theorem name_head (n : Name) (rest : Text) : ∃ c w, n.val ++ rest = c :: w ∧ isIdChar c = true := by
  obtain ⟨_ | ⟨c, w⟩, hne, hw⟩ := n
  · exact absurd rfl hne
  · exact ⟨c, w ++ rest, rfl, (List.all_eq_true.mp hw) c List.mem_cons_self⟩

/-- A gap in front of an id is passed over. -/
theorem dropWhile_gap_name (g : Gap) (n : Name) (rest : Text) :
    (g.val ++ (n.val ++ rest)).dropWhile isGap = n.val ++ rest := by
  obtain ⟨c, w, hw, hc⟩ := name_head n rest
  refine dropWhile_append g.property fun d hd => ?_
  rw [hw] at hd
  obtain rfl : c = d := by simpa using hd
  exact isGap_of_isIdChar hc

/-- No id goes on into the next piece. -/
theorem head_more {after : Text} (hend : EndsIds after) (more : List NextId) :
    ∀ c ∈ (more.flatMap NextId.text ++ after).head?, isIdChar c = false := by
  cases more with
  | nil => exact hend.no_char
  | cons i more =>
    intro c hc
    obtain ⟨⟨_ | ⟨g, w⟩, hgap⟩, v, n⟩ := i
    · obtain rfl : ',' = c := by simpa [NextId.text] using hc
      decide
    · obtain rfl : g = c := by simpa [NextId.text] using hc
      exact isIdChar_of_isGap (List.all_eq_true.mp hgap g List.mem_cons_self)

theorem exists_head_of_id? {t rest : Text} {id : String} (h : id? t = some (id, rest)) :
    ∃ c w, t = c :: w ∧ isIdChar c = true := by
  unfold id? at h
  split at h
  · cases h
  · rename_i hne
    rcases t with _ | ⟨c, w⟩
    · exact absurd rfl hne
    · refine ⟨c, w, rfl, ?_⟩
      cases hc : isIdChar c with
      | true => rfl
      | false => exact absurd (List.takeWhile_cons_of_neg (by simp [hc])) hne

/-- Nothing is read of what does not go on with the ids. -/
theorem moreIds_of_ends {after : Text} (hend : EndsIds after) (rounds : Nat) : moreIds rounds after = ([], after) := by
  cases rounds with
  | zero => rfl
  | succ rounds =>
    rw [moreIds]
    split
    · rename_i rest hcomma
      split
      · -- Read back, the gaps, the comma and the id are what the text does not start with.
        rename_i id rest' hid
        obtain ⟨c, w, hw, hc⟩ := exists_head_of_id? hid
        have hafter : after = after.takeWhile isGap ++ ',' :: (rest.takeWhile isGap ++ c :: w) := by
          rw [← hw, List.takeWhile_append_dropWhile, ← hcomma, List.takeWhile_append_dropWhile]
        have hno := hend.no_more ⟨_, List.all_takeWhile⟩ ⟨_, List.all_takeWhile⟩ c w hafter
        rw [hc] at hno
        cases hno
      · rfl
    · rfl

theorem moreIds_append {after : Text} (hend : EndsIds after) {more : List NextId} {rounds : Nat}
    (hrounds : (more.flatMap NextId.text).length ≤ rounds) :
    moreIds rounds (more.flatMap NextId.text ++ after) = (more.map fun i => String.ofList i.name.val, after) := by
  induction more generalizing rounds with
  | nil => exact moreIds_of_ends hend rounds
  | cons i more ih =>
    have hlen : (more.flatMap NextId.text).length + 1 ≤ rounds := by
      simp only [List.flatMap_cons, NextId.text, List.length_append, List.length_cons] at hrounds
      omega
    obtain ⟨rounds, rfl⟩ := Nat.exists_eq_succ_of_ne_zero (show rounds ≠ 0 by omega)
    have htext : (i :: more).flatMap NextId.text ++ after =
        i.before.val ++ ',' :: (i.after.val ++ (i.name.val ++ (more.flatMap NextId.text ++ after))) := by
      simp [NextId.text]
    have hcomma : ((i :: more).flatMap NextId.text ++ after).dropWhile isGap =
        ',' :: (i.after.val ++ (i.name.val ++ (more.flatMap NextId.text ++ after))) := by
      rw [htext]
      refine dropWhile_append i.before.property fun c hc => ?_
      obtain rfl : ',' = c := by simpa using hc
      rfl
    simp only [moreIds, hcomma, dropWhile_gap_name, id?_append i.name (head_more hend more),
      ih (show _ ≤ rounds by omega), List.map_cons]

/-- The separator is passed over in front of an id. -/
theorem afterSeparator?_append (s : Separator) (n : Name) (rest : Text) :
    afterSeparator? (s.text ++ (n.val ++ rest)) = some (n.val ++ rest) := by
  cases s with
  | colon before after =>
    have hcolon : (before.val ++ ':' :: (after.val ++ (n.val ++ rest))).dropWhile isGap =
        ':' :: (after.val ++ (n.val ++ rest)) := by
      refine dropWhile_append before.property fun c hc => ?_
      obtain rfl : ':' = c := by simpa using hc
      rfl
    simp only [Separator.text, List.append_assoc, List.cons_append, afterSeparator?, hcolon, dropWhile_gap_name]
  | gap g hne =>
    have hno : ∀ u, (g.val ++ (n.val ++ rest)).dropWhile isGap ≠ ':' :: u := by
      intro u hu
      obtain ⟨c, w, hw, hc⟩ := name_head n rest
      rw [dropWhile_gap_name, hw] at hu
      rw [(List.cons.inj hu).1] at hc
      cases hc
    have hpos : 0 < g.val.length := List.length_pos_iff.mpr hne
    rw [Separator.text, afterSeparator?_of_ne hno, dropWhile_gap_name, if_pos]
    simp only [List.length_append]
    omega

theorem ids?_append (s : Spelling) {after : Text} (hend : EndsIds after) :
    ids? (s.separator.text ++ (s.idsText ++ after)) = some (s.ids, after) := by
  have hrounds : (s.more.flatMap NextId.text).length ≤ (s.more.flatMap NextId.text ++ after).length := by simp
  simp only [ids?, Spelling.idsText, List.append_assoc, afterSeparator?_append, Option.bind_eq_bind,
    Option.bind_some, id?_append s.first (head_more hend s.more), moreIds_append hend hrounds]
  simp [Spelling.ids, Spelling.names]

/-! ## A directive -/

/-- Without `-next-line`, a separator comes next, and none starts so. -/
theorem after?_separator (s : Separator) (rest : Text) : after? nextLineMark (s.text ++ rest) = none := by
  have hgap : ∀ (g : Gap) (t : Text), t.head? ≠ some '-' → (g.val ++ t).head? ≠ some '-' := by
    intro g t ht
    obtain ⟨_ | ⟨c, w⟩, hg⟩ := g
    · exact ht
    · rintro h
      obtain rfl : c = '-' := by simpa using h
      simp [isGap] at hg
  have hhead : (s.text ++ rest).head? ≠ some '-' := by
    cases s with
    | colon before after =>
      rw [Separator.text, List.append_assoc]
      exact hgap before _ (by simp)
    | gap g hne =>
      obtain ⟨w, hw⟩ := g
      cases w with
      | nil => exact absurd rfl hne
      | cons c w =>
        intro h
        obtain rfl : c = '-' := by simpa [Separator.text] using h
        simp [isGap] at hw
  cases h : after? nextLineMark (s.text ++ rest) with
  | none => rfl
  | some u =>
    rw [after?_eq_some.mp h] at hhead
    exact absurd rfl hhead

/-- A directive is read back, whatever stands behind it. -/
theorem read?_append (s : Spelling) {after : Text} (hend : EndsIds after) :
    read? (s.text ++ after) = some (s.directive, after) := by
  obtain ⟨nextLine, separator, first, more⟩ := s
  have hmarker : ∀ rest, after? marker (marker ++ rest) = some rest := fun rest => after?_eq_some.mpr rfl
  have hmark : ∀ rest, after? nextLineMark (nextLineMark ++ rest) = some rest := fun rest => after?_eq_some.mpr rfl
  have hids := ids?_append ⟨nextLine, separator, first, more⟩ hend
  simp only [read?, Spelling.text, List.append_assoc, hmarker, Option.bind_eq_bind, Option.bind_some]
  cases nextLine with
  | true =>
    simp only [Spelling.mark, cond_true, hmark, hids, Option.bind_some]
    rfl
  | false =>
    simp only [Spelling.mark, cond_false, List.nil_append, after?_separator, hids, Option.bind_some]
    rfl

/-! ## One directive in a line -/

/-- The end of the marker is not its start. -/
theorem marker_borderless : ∀ k < marker.length, 0 < k → ¬ marker.drop k <+: marker := by decide

/-- A marker does not start in front of another one and reach into it. -/
theorem not_marker_across {v : Text} (hv : v ≠ []) (hno : ¬ marker <:+: v) (rest : Text) :
    ¬ marker <+: v ++ (marker ++ rest) := by
  intro h
  rcases Nat.lt_or_ge v.length marker.length with hlt | hge
  · -- What is left of the first marker behind `v` would be a start of the second.
    obtain ⟨u, hu⟩ := List.prefix_of_prefix_length_le (List.prefix_append v (marker ++ rest)) h (Nat.le_of_lt hlt)
    have hdrop : marker.drop v.length = u := by rw [← hu, List.drop_left]
    have hinto : v ++ u <+: v ++ (marker ++ rest) := by rw [hu]; exact h
    have hlen : u.length ≤ marker.length := by rw [← hdrop, List.length_drop]; omega
    have hborder : u <+: marker :=
      List.prefix_of_prefix_length_le ((List.prefix_append_right_inj v).mp hinto) (List.prefix_append marker rest) hlen
    rw [← hdrop] at hborder
    exact marker_borderless v.length hlt (List.length_pos_iff.mpr hv) hborder
  · exact hno (List.prefix_of_prefix_length_le h (List.prefix_append v _) hge).isInfix

theorem readAll_behind {before : Text} (hno : ¬ marker <:+: before) (rest : Text) :
    readAll 0 (before ++ (marker ++ rest)) = readAll 0 (marker ++ rest) := by
  induction before with
  | nil => rfl
  | cons c before ih =>
    have hread : read? (c :: (before ++ (marker ++ rest))) = none := by
      cases h : read? (c :: (before ++ (marker ++ rest))) with
      | none => rfl
      | some p => exact absurd (marker_prefix_of_read? h) (not_marker_across (List.cons_ne_nil c before) hno rest)
    rw [List.cons_append, readAll, hread]
    exact ih fun h => hno (h.trans (List.suffix_cons c before).isInfix)

theorem readAll_spelled (s : Spelling) {before after : Text} (hbefore : ¬ marker <:+: before)
    (hafter : ¬ marker <:+: after) (hend : EndsIds after) :
    readAll 0 (before ++ s.text ++ after) = [s.directive] := by
  have hrest : readAll 0 after = [] :=
    List.eq_nil_iff_forall_not_mem.mpr fun d hd => hafter (marker_infix_of_mem_readAll hd)
  obtain ⟨rest, hmarker⟩ : ∃ rest, s.text = marker ++ rest :=
    ⟨s.mark ++ (s.separator.text ++ s.idsText), by simp only [Spelling.text, List.append_assoc]⟩
  obtain ⟨c, w, hw⟩ : ∃ c w, s.text = c :: w := ⟨_, _, hmarker⟩
  have hread := read?_append s hend
  have hskip : (w ++ after).length - after.length = w.length := by rw [List.length_append]; omega
  calc readAll 0 (before ++ s.text ++ after)
      = readAll 0 (s.text ++ after) := by
        rw [List.append_assoc, hmarker, List.append_assoc, readAll_behind hbefore]
    _ = s.directive :: readAll 0 after := by
        rw [hw, List.cons_append] at hread ⊢
        simp only [readAll, hread]
        rw [hskip, readAll_skip, List.drop_left]
    _ = [s.directive] := by rw [hrest]

end Directive

/-- A line with one directive silences the rules that the directive names, and no others: on the line itself or
on the next, as it says. -/
theorem LineDirectives.ofLine_spelled (s : Directive.Spelling) {before after : Text}
    (hbefore : ¬ Directive.marker <:+: before) (hafter : ¬ Directive.marker <:+: after)
    (hend : Directive.EndsIds after) :
    ofLine (before ++ s.text ++ after) =
      bif s.nextLine then ⟨[], s.ids.eraseDups⟩ else ⟨s.ids.eraseDups, []⟩ := by
  obtain ⟨nextLine, separator, first, more⟩ := s
  rw [ofLine, Directive.readAll_spelled _ hbefore hafter hend]
  cases nextLine with
  | true => simp [Directive.Spelling.directive]
  | false => simp [Directive.Spelling.directive]

/-- An id that is the marker itself, after the start of a marker and in front of the end of a comment. -/
theorem LineDirectives.ofLine_spelled_marker_as_id :
    ∃ s : Directive.Spelling,
      s.text = ofString "glint-ignore-next-line \t:glint-ignore\t, no-eval" ∧
        ¬ Directive.marker <:+: ofString "x(); /* glint-" ∧ ¬ Directive.marker <:+: ofString " */" ∧
        Directive.EndsIds (ofString " */") ∧
        ofLine (ofString "x(); /* glint-" ++ s.text ++ ofString " */") = ⟨[], ["glint-ignore", "no-eval"]⟩ := by
  have hends : Directive.EndsIds (ofString " */") := by
    refine ⟨by simp [ofString, Directive.isIdChar], fun u v c rest h => ?_⟩
    have hcomma : ',' ∈ ofString " */" := by rw [h]; simp
    exact absurd hcomma (by decide)
  have hbefore : ¬ Directive.marker <:+: ofString "x(); /* glint-" := by
    rw [← contains_iff]
    decide
  have hafter : ¬ Directive.marker <:+: ofString " */" := by
    rw [← contains_iff]
    decide
  refine ⟨⟨true, .colon ⟨ofString " \t", by decide⟩ ⟨[], by decide⟩, ⟨ofString "glint-ignore", by decide, by decide⟩,
    [⟨⟨ofString "\t", by decide⟩, ⟨ofString " ", by decide⟩, ⟨ofString "no-eval", by decide, by decide⟩⟩]⟩,
    by decide, hbefore, hafter, hends, ?_⟩
  rw [ofLine_spelled _ hbefore hafter hends]
  decide

end FrontLint
