/-
  FrontLint.Proofs.Catalog.Build — which catalogs make a table, and what is said of the others.

  Entries become rules one after the other, and ids are compared once all of them have. Proved:
  - `toRule_eq_ok` / `toRule_eq_error`: an entry becomes the rule that it describes, or has a fault, of which
    the pattern comes first, the companion second and the validator last.
  - `firstRepeated_eq_some`: the id that is refused is the first that is among those before it.
  - `tags_exclusions`: the tags of an id are those that its entries give, each once, as they first come up.
  - `ofSource_settled`: so a table is made iff every entry is valid and ids are distinct. Else the first entry
    with a fault is named, and only if there is none the first whose id repeats.
-/

import FrontLint.Catalog.Source
import FrontLint.Proofs.Rule.Distinct
import FrontLint.Proofs.Traversal

namespace FrontLint

open Traversal

/-- An id at the front of those that are new may as well count as seen. -/
theorem new_cons_iff {x : String} {front seen : List String} :
    ((x :: front).Nodup ∧ ∀ y ∈ x :: front, y ∉ seen) ↔
      x ∉ seen ∧ front.Nodup ∧ ∀ y ∈ front, y ∉ x :: seen := by
  rw [List.nodup_cons, List.forall_mem_cons]
  simp only [List.mem_cons, not_or]
  constructor
  · intro h
    refine ⟨h.2.1, h.1.2, fun y hy => ⟨?_, h.2.2 y hy⟩⟩
    intro heq
    exact h.1.1 (heq ▸ hy)
  · intro h
    exact ⟨⟨fun hx => (h.2.2 x hx).1 rfl, h.2.1⟩, h.1, fun y hy => (h.2.2 y hy).2⟩

/-- The refused id is among those before it, which are all distinct. -/
theorem firstRepeated_eq_some {seen ids : List String} {id : String} :
    firstRepeated seen ids = some id ↔
      ∃ front rest, ids = front ++ id :: rest ∧ front.Nodup ∧ (∀ x ∈ front, x ∉ seen) ∧ (id ∈ front ∨ id ∈ seen) := by
  induction ids generalizing seen with
  | nil => simp [firstRepeated]
  | cons x ids ih =>
    unfold firstRepeated
    by_cases hx : x ∈ seen
    · rw [if_pos hx]
      constructor
      · intro h
        obtain rfl := Option.some.inj h
        exact ⟨[], ids, rfl, .nil, by simp, .inr hx⟩
      · intro h
        obtain ⟨front, rest, heq, _, hfront, _⟩ := h
        cases front with
        | nil => rw [(List.cons.inj heq).1]
        | cons y front =>
          obtain ⟨rfl, -⟩ := List.cons.inj heq
          exact absurd hx (hfront x List.mem_cons_self)
    · -- `x` moves from the ids to those seen, and back
      rw [if_neg hx, ih]
      constructor
      · intro h
        obtain ⟨front, rest, rfl, hnodup, hfront, hid⟩ := h
        have hnew := new_cons_iff.mpr ⟨hx, hnodup, hfront⟩
        refine ⟨x :: front, rest, rfl, hnew.1, hnew.2, ?_⟩
        simp only [List.mem_cons] at hid ⊢
        tauto
      · intro h
        obtain ⟨front, rest, heq, hnodup, hfront, hid⟩ := h
        cases front with
        | nil =>
          obtain ⟨rfl, -⟩ := List.cons.inj heq
          simp [hx] at hid
        | cons y front =>
          obtain ⟨rfl, rfl⟩ := List.cons.inj heq
          have hnew := new_cons_iff.mp ⟨hnodup, hfront⟩
          refine ⟨front, rest, rfl, hnew.2.1, hnew.2.2, ?_⟩
          simp only [List.mem_cons] at hid ⊢
          tauto

theorem RuleTable.ofRules_eq_ok {rules : List Rule} {exclusions : Exclusions} {table : RuleTable} :
    RuleTable.ofRules rules exclusions = .ok table ↔ (rules.map (·.id)).Nodup ∧ table = ⟨rules, exclusions⟩ := by
  have hnone : firstRepeated [] (rules.map (·.id)) = none ↔ (rules.map (·.id)).Nodup := by
    simp [firstRepeated_eq_none]
  unfold RuleTable.ofRules
  rw [← hnone]
  cases firstRepeated [] (rules.map (·.id)) with
  | none => simp [eq_comm]
  | some id => simp

theorem RuleTable.ofRules_eq_error {rules : List Rule} {exclusions : Exclusions} {id : String} :
    RuleTable.ofRules rules exclusions = .error id ↔ firstRepeated [] (rules.map (·.id)) = some id := by
  unfold RuleTable.ofRules
  cases firstRepeated [] (rules.map (·.id)) with
  | none => simp
  | some other => simp

/-! ## Exclusions -/

namespace Exclusions

theorem tags_insert_self (x : Exclusions) (id : String) (tag : ClassTag) :
    (tag ∈ x.tags id → (x.insert id tag).tags id = x.tags id) ∧
      (tag ∉ x.tags id → (x.insert id tag).tags id = x.tags id ++ [tag]) := by
  obtain ⟨entries⟩ := x
  simp only [tags, insert]
  induction entries with
  | nil => simp [insertEntry]
  | cons entry entries ih =>
    obtain ⟨other, own⟩ := entry
    by_cases hother : other = id
    · constructor
      · intro htag
        have hown : tag ∈ own := by simpa [hother] using htag
        simp [insertEntry, hother, hown]
      · intro htag
        have hown : tag ∉ own := by simpa [hother] using htag
        simp [insertEntry, hother, hown]
    · have hne : (id == other) = false := beq_eq_false_iff_ne.mpr (Ne.symm hother)
      simpa [insertEntry, hother, List.lookup_cons, hne] using ih

theorem tags_insert_of_ne {x : Exclusions} {id other : String} (h : other ≠ id) (tag : ClassTag) :
    (x.insert id tag).tags other = x.tags other := by
  have hid : (other == id) = false := beq_eq_false_iff_ne.mpr h
  obtain ⟨entries⟩ := x
  simp only [tags, insert]
  induction entries with
  | nil => simp [insertEntry, List.lookup_cons, hid]
  | cons entry entries ih =>
    obtain ⟨third, own⟩ := entry
    by_cases hthird : third = id
    · simp [insertEntry, hthird, List.lookup_cons, hid]
    · cases hsame : other == third with
      | true => simp [insertEntry, hthird, List.lookup_cons, hsame]
      | false => simpa [insertEntry, hthird, List.lookup_cons, hsame] using ih

/-- A tag is added behind the ones that were given, unless it is among them. -/
theorem tags_insert_given {x : Exclusions} {id : String} {given : List ClassTag} (h : x.tags id = given.eraseDups)
    (tag : ClassTag) : (x.insert id tag).tags id = (given ++ [tag]).eraseDups := by
  rw [List.eraseDups_append, List.cons_removeAll]
  by_cases htag : tag ∈ given
  · rw [(tags_insert_self x id tag).1 (by simpa [h] using htag), h]
    simp [htag]
  · rw [(tags_insert_self x id tag).2 (by simpa [h] using htag), h]
    simp [htag, List.eraseDups_cons]

theorem tags_insertAll_self {x : Exclusions} {id : String} {given : List ClassTag}
    (h : x.tags id = given.eraseDups) (tags : List ClassTag) :
    (x.insertAll id tags).tags id = (given ++ tags).eraseDups := by
  unfold insertAll
  induction tags generalizing x given with
  | nil => simpa using h
  | cons tag tags ih =>
    have hrest := ih (tags_insert_given h tag)
    rwa [List.append_assoc] at hrest

theorem tags_insertAll_of_ne {x : Exclusions} {id other : String} (h : other ≠ id) (tags : List ClassTag) :
    (x.insertAll id tags).tags other = x.tags other := by
  unfold insertAll
  induction tags generalizing x with
  | nil => rfl
  | cons tag tags ih => exact (ih (x := x.insert id tag)).trans (tags_insert_of_ne h tag)

end Exclusions

namespace Catalog

theorem tags_foldl_insertAll {id : String} (entries : List Entry) {x : Exclusions} {given : List ClassTag}
    (h : x.tags id = given.eraseDups) :
    (entries.foldl (fun x e => x.insertAll e.id e.skipIn) x).tags id =
      (given ++ (entries.filter (·.id = id)).flatMap (·.skipIn)).eraseDups := by
  induction entries generalizing x given with
  | nil => simpa using h
  | cons e entries ih =>
    rw [List.foldl_cons]
    by_cases he : e.id = id
    · subst he
      rw [ih (Exclusions.tags_insertAll_self h e.skipIn)]
      simp
    · rw [ih ((Exclusions.tags_insertAll_of_ne (Ne.symm he) e.skipIn).trans h)]
      simp [he]

/-- The tags of an id are those that its entries give, each once, as they first come up. -/
theorem tags_exclusions (entries : List Entry) (id : String) :
    (exclusions entries).tags id = ((entries.filter (·.id = id)).flatMap (·.skipIn)).eraseDups := by
  have hnone : Exclusions.none.tags id = ([] : List ClassTag).eraseDups := rfl
  exact tags_foldl_insertAll entries hnone

/-! ## Entries -/

namespace Entry

/-- A companion stands only beside a pattern over lines, and can be read. -/
def Accompanied (e : Entry) : Prop :=
  ∀ source, e.companion = some source → e.multiline = true ∧ ∃ p, Pattern.ofString source = .ok p

/-- An entry with nothing wrong about it. -/
structure Valid (validators : Validator.Registry) (e : Entry) : Prop where
  pattern : ∃ p, Pattern.ofString e.pattern = .ok p
  companion : e.Accompanied
  validator : ∀ name, e.validator = some name → ∃ v, validators name = some v

/-- What is wrong with an entry. The pattern comes first, then the companion, then the validator. -/
inductive Fault (validators : Validator.Registry) (e : Entry) : EntryError → Prop
  | pattern {fault : Pattern.Fault} : Pattern.ofString e.pattern = .error fault →
      Fault validators e (.invalidPattern e.id fault)
  | misplaced {p : Pattern} {source : String} : Pattern.ofString e.pattern = .ok p → e.companion = some source →
      e.multiline = false → Fault validators e (.companionOnLineRule e.id)
  | companion {p : Pattern} {source : String} {fault : Pattern.Fault} : Pattern.ofString e.pattern = .ok p →
      e.companion = some source → e.multiline = true → Pattern.ofString source = .error fault →
      Fault validators e (.invalidPattern e.id fault)
  | validator {p : Pattern} {name : String} : Pattern.ofString e.pattern = .ok p → e.Accompanied →
      e.validator = some name → validators name = none → Fault validators e (.unknownValidator e.id name)

/-- How the rule of an entry reads a file. -/
inductive HasKind (e : Entry) : RuleKind → Prop
  | line : e.multiline = false → e.companion = none → HasKind e (.line e.repeated)
  | multiline {companion : Option Pattern} : e.multiline = true →
      Option.Rel (fun source p => Pattern.ofString source = .ok p) e.companion companion →
      HasKind e (.multiline companion)

/-- The rule that an entry gives. -/
structure Gives (validators : Validator.Registry) (e : Entry) (r : Rule) : Prop where
  id : r.id = e.id
  pattern : Pattern.ofString e.pattern = .ok r.pattern
  scope : r.scope = e.scope
  severity : r.severity = e.severity
  category : r.category = e.category
  suggestion : r.suggestion = e.suggestion
  kind : e.HasKind r.kind
  validator : Option.Rel (fun name v => validators name = some v) e.validator r.validator

end Entry

theorem compile_eq_ok {id source : String} {p : Pattern} :
    compile id source = .ok p ↔ Pattern.ofString source = .ok p := by
  unfold compile
  cases Pattern.ofString source with
  | ok q => simp
  | error fault => simp

theorem compile_eq_error {id source : String} {err : EntryError} :
    compile id source = .error err ↔
      ∃ fault, Pattern.ofString source = .error fault ∧ err = .invalidPattern id fault := by
  unfold compile
  cases Pattern.ofString source with
  | ok q => simp
  | error fault => simp [eq_comm]

namespace Entry

variable {validators : Validator.Registry} {e : Entry}

theorem kind_eq_ok {kind : RuleKind} : e.kind = .ok kind ↔ e.HasKind kind := by
  unfold Entry.kind
  split
  case h_1 hmulti hnone =>
    constructor
    · intro h
      cases h
      exact .multiline hmulti (hnone ▸ .none)
    · intro h
      cases h with
      | line hline => simp [hmulti] at hline
      | multiline _ hrel =>
        rw [hnone] at hrel
        cases hrel
        rfl
  case h_2 source hmulti hsome =>
    rw [bind_eq_ok]
    simp only [compile_eq_ok]
    constructor
    · intro ⟨p, hp, heq⟩
      cases heq
      exact .multiline hmulti (hsome ▸ .some hp)
    · intro h
      cases h with
      | line hline => simp [hmulti] at hline
      | multiline _ hrel =>
        rw [hsome] at hrel
        cases hrel with
        | some hp => exact ⟨_, hp, rfl⟩
  case h_3 hline hnone =>
    constructor
    · intro h
      cases h
      exact .line hline hnone
    · intro h
      cases h with
      | line => rfl
      | multiline hmulti => simp [hline] at hmulti
  case h_4 source hline hsome =>
    constructor
    · intro h
      cases h
    · intro h
      cases h with
      | line _ hnone => simp [hsome] at hnone
      | multiline hmulti => simp [hline] at hmulti

theorem kind_eq_error {err : EntryError} :
    e.kind = .error err ↔ ∃ source, e.companion = some source ∧
      (e.multiline = false ∧ err = .companionOnLineRule e.id ∨
        e.multiline = true ∧ ∃ fault, Pattern.ofString source = .error fault ∧ err = .invalidPattern e.id fault) := by
  unfold Entry.kind
  split
  case h_1 _ hnone => simp [hnone]
  case h_2 source hmulti hsome =>
    rw [bind_eq_error, compile_eq_error]
    simp [hmulti, hsome, pure, Except.pure]
  case h_3 _ hnone => simp [hnone]
  case h_4 source hline hsome => simp [hline, hsome, eq_comm]

theorem namedValidator_eq_ok {v : Option Validator} :
    e.namedValidator validators = .ok v ↔
      Option.Rel (fun name v => validators name = some v) e.validator v := by
  unfold namedValidator
  split
  · rename_i hnone
    constructor
    · intro h
      cases h
      exact hnone ▸ .none
    · intro h
      rw [hnone] at h
      cases h
      rfl
  · rename_i name hsome
    rw [hsome]
    constructor
    · intro h
      split at h
      · rename_i w hw
        cases h
        exact .some hw
      · cases h
    · intro h
      cases h with
      | some hw => rw [hw]

theorem namedValidator_eq_error {err : EntryError} :
    e.namedValidator validators = .error err ↔
      ∃ name, e.validator = some name ∧ validators name = none ∧ err = .unknownValidator e.id name := by
  unfold namedValidator
  split
  · rename_i hnone
    simp [hnone]
  · rename_i name hsome
    cases hname : validators name with
    | some w => simp [hsome, hname]
    | none => simp [hsome, hname, eq_comm]

/-- An entry becomes the rule that it gives. -/
theorem toRule_eq_ok {r : Rule} : e.toRule validators = .ok r ↔ e.Gives validators r := by
  unfold toRule
  simp only [bind_eq_ok, compile_eq_ok, kind_eq_ok, namedValidator_eq_ok]
  constructor
  · intro ⟨p, hp, kind, hkind, v, hv, heq⟩
    cases heq
    exact ⟨rfl, hp, rfl, rfl, rfl, rfl, hkind, hv⟩
  · intro h
    refine ⟨r.pattern, h.pattern, r.kind, h.kind, r.validator, h.validator, ?_⟩
    rw [← h.id, ← h.scope, ← h.severity, ← h.category, ← h.suggestion]
    rfl

theorem exists_hasKind : (∃ kind, e.HasKind kind) ↔ e.Accompanied := by
  constructor
  · intro ⟨kind, hkind⟩ source hsource
    cases hkind with
    | line _ hnone => simp [hnone] at hsource
    | multiline hmulti hrel =>
      rw [hsource] at hrel
      cases hrel with
      | some hp => exact ⟨hmulti, _, hp⟩
  · intro h
    cases hcompanion : e.companion with
    | none =>
      cases hmulti : e.multiline with
      | false => exact ⟨_, .line hmulti hcompanion⟩
      | true => exact ⟨.multiline none, .multiline hmulti (by rw [hcompanion]; exact .none)⟩
    | some source =>
      obtain ⟨hmulti, p, hp⟩ := h source hcompanion
      exact ⟨.multiline (some p), .multiline hmulti (by rw [hcompanion]; exact .some hp)⟩

/-- An entry that does not become a rule has a fault, and that is the error. -/
theorem toRule_eq_error {err : EntryError} : e.toRule validators = .error err ↔ e.Fault validators err := by
  unfold toRule
  simp only [bind_eq_error, compile_eq_error, compile_eq_ok, kind_eq_error, kind_eq_ok, namedValidator_eq_error]
  constructor
  · intro h
    rcases h with ⟨fault, hfault, rfl⟩ | ⟨p, hp, h⟩
    · exact .pattern hfault
    rcases h with ⟨source, hsource, h⟩ | ⟨kind, hkind, h⟩
    · rcases h with ⟨hline, rfl⟩ | ⟨hmulti, fault, hfault, rfl⟩
      · exact .misplaced hp hsource hline
      · exact .companion hp hsource hmulti hfault
    · rcases h with ⟨name, hname, hnone, rfl⟩ | ⟨v, -, hpure⟩
      · exact .validator hp (exists_hasKind.mp ⟨kind, hkind⟩) hname hnone
      · cases hpure
  · intro h
    cases h with
    | pattern hfault => exact .inl ⟨_, hfault, rfl⟩
    | misplaced hp hsource hline => exact .inr ⟨_, hp, .inl ⟨_, hsource, .inl ⟨hline, rfl⟩⟩⟩
    | companion hp hsource hmulti hfault =>
      exact .inr ⟨_, hp, .inl ⟨_, hsource, .inr ⟨hmulti, _, hfault, rfl⟩⟩⟩
    | validator hp hcompanion hname hnone =>
      obtain ⟨kind, hkind⟩ := exists_hasKind.mpr hcompanion
      exact .inr ⟨_, hp, .inr ⟨kind, hkind, .inl ⟨_, hname, hnone, rfl⟩⟩⟩

theorem valid_iff : e.Valid validators ↔ ∃ r, e.toRule validators = .ok r := by
  simp only [toRule_eq_ok]
  constructor
  · intro h
    obtain ⟨p, hp⟩ := h.pattern
    obtain ⟨kind, hkind⟩ := exists_hasKind.mpr h.companion
    obtain ⟨v, hv⟩ : ∃ v, Option.Rel (fun name v => validators name = some v) e.validator v := by
      cases hname : e.validator with
      | none => exact ⟨none, .none⟩
      | some name =>
        obtain ⟨v, hv⟩ := h.validator name hname
        exact ⟨some v, .some hv⟩
    exact ⟨⟨e.id, p, e.scope, e.severity, e.category, e.suggestion, kind, v⟩,
      ⟨rfl, hp, rfl, rfl, rfl, rfl, hkind, hv⟩⟩
  · intro ⟨r, hr⟩
    refine ⟨⟨r.pattern, hr.pattern⟩, exists_hasKind.mp ⟨r.kind, hr.kind⟩, ?_⟩
    intro name hname
    have hrel := hr.validator
    rw [hname] at hrel
    generalize r.validator = w at hrel
    cases hrel with
    | some hv => exact ⟨_, hv⟩

end Entry

/-! ## Tables -/

variable {validators : Validator.Registry} {entries : List Entry}

/-- The first entry with a fault, and its fault. -/
def FirstFault (validators : Validator.Registry) (entries : List Entry) (err : EntryError) : Prop :=
  ∃ front e rest, entries = front ++ e :: rest ∧ (∀ d ∈ front, d.Valid validators) ∧ e.Fault validators err

/-- The first entry whose id is among those before it. -/
def FirstRepeat (entries : List Entry) (err : EntryError) : Prop :=
  ∃ front e rest, entries = front ++ e :: rest ∧ (front.map (·.id)).Nodup ∧ e.id ∈ front.map (·.id) ∧
    err = .duplicateId e.id

theorem map_id_of_gives {rules : List Rule} (h : List.Forall₂ (Entry.Gives validators) entries rules) :
    rules.map (·.id) = entries.map (·.id) := by
  induction h with
  | nil => rfl
  | cons hgives _ ih => rw [List.map_cons, List.map_cons, hgives.id, ih]

theorem rules_eq_ok {rules : List Rule} :
    entries.mapM (·.toRule validators) = .ok rules ↔ List.Forall₂ (Entry.Gives validators) entries rules := by
  rw [mapM_eq_ok]
  simp only [Entry.toRule_eq_ok]

theorem rules_eq_error {err : EntryError} :
    entries.mapM (·.toRule validators) = .error err ↔ FirstFault validators entries err := by
  rw [mapM_eq_error]
  simp only [FirstFault, Entry.toRule_eq_error, Entry.valid_iff]

theorem exists_rules :
    (∃ rules, List.Forall₂ (Entry.Gives validators) entries rules) ↔ ∀ e ∈ entries, e.Valid validators := by
  induction entries with
  | nil => simp
  | cons e entries ih =>
    rw [List.forall_mem_cons, ← ih, Entry.valid_iff]
    simp only [List.forall₂_cons_left_iff, Entry.toRule_eq_ok]
    constructor
    · intro ⟨_, r, rules, hr, hrules, _⟩
      exact ⟨⟨r, hr⟩, rules, hrules⟩
    · intro ⟨⟨r, hr⟩, rules, hrules⟩
      exact ⟨r :: rules, r, rules, hr, hrules, rfl⟩

/-- The table of a catalog has its rules in order. -/
theorem build_eq_ok {table : RuleTable} :
    build validators entries = .ok table ↔
      List.Forall₂ (Entry.Gives validators) entries table.rules ∧ (entries.map (·.id)).Nodup ∧
        table.exclusions = exclusions entries := by
  unfold build
  rw [bind_eq_ok]
  constructor
  · intro ⟨rules, hrules, h⟩
    have hgives := rules_eq_ok.mp hrules
    cases hmade : RuleTable.ofRules rules (exclusions entries) with
    | error id =>
      rw [hmade] at h
      cases h
    | ok made =>
      rw [hmade] at h
      cases h
      obtain ⟨hnodup, rfl⟩ := RuleTable.ofRules_eq_ok.mp hmade
      exact ⟨hgives, map_id_of_gives hgives ▸ hnodup, rfl⟩
  · intro ⟨hgives, hnodup, hexclusions⟩
    refine ⟨table.rules, rules_eq_ok.mpr hgives, ?_⟩
    have hmade : RuleTable.ofRules table.rules (exclusions entries) = .ok table := by
      refine RuleTable.ofRules_eq_ok.mpr ⟨map_id_of_gives hgives ▸ hnodup, ?_⟩
      rw [← hexclusions]
    rw [hmade]
    rfl

theorem firstRepeat_iff {id : String} :
    firstRepeated [] (entries.map (·.id)) = some id ↔ FirstRepeat entries (.duplicateId id) := by
  rw [firstRepeated_eq_some]
  constructor
  · intro ⟨front, rest, heq, hnodup, _, hid⟩
    obtain ⟨before, behind, rfl, rfl, hbehind⟩ := List.map_eq_append_iff.mp heq
    obtain ⟨e, after, rfl, rfl, rfl⟩ := List.map_eq_cons_iff.mp hbehind
    exact ⟨before, e, after, rfl, hnodup, by simpa using hid, rfl⟩
  · intro ⟨front, e, rest, heq, hnodup, hid, herr⟩
    cases herr
    exact ⟨front.map (·.id), rest.map (·.id), by simp [heq], hnodup, by simp, .inl hid⟩

/-- The fault of the first entry that has one is the error, and only if there is none a repeated id. -/
theorem build_eq_error {err : EntryError} :
    build validators entries = .error err ↔
      FirstFault validators entries err ∨ (∀ e ∈ entries, e.Valid validators) ∧ FirstRepeat entries err := by
  unfold build
  rw [bind_eq_error, rules_eq_error, ← exists_rules]
  simp only [rules_eq_ok]
  refine or_congr Iff.rfl ?_
  constructor
  · intro ⟨rules, hgives, h⟩
    refine ⟨⟨rules, hgives⟩, ?_⟩
    cases hmade : RuleTable.ofRules rules (exclusions entries) with
    | error id =>
      rw [hmade] at h
      cases h
      rw [← firstRepeat_iff, ← map_id_of_gives hgives]
      exact RuleTable.ofRules_eq_error.mp hmade
    | ok made =>
      rw [hmade] at h
      cases h
  · intro ⟨⟨rules, hgives⟩, hrepeat⟩
    refine ⟨rules, hgives, ?_⟩
    obtain ⟨-, e, -, -, -, -, rfl⟩ := id hrepeat
    have hmade : RuleTable.ofRules rules (exclusions entries) = .error e.id := by
      rw [RuleTable.ofRules_eq_error, map_id_of_gives hgives]
      exact firstRepeat_iff.mpr hrepeat
    rw [hmade]
    rfl

/-- With distinct ids, the tags of an entry are its own. -/
theorem tags_of_mem (hnodup : (entries.map (·.id)).Nodup) {e : Entry} (he : e ∈ entries) :
    (exclusions entries).tags e.id = e.skipIn.eraseDups := by
  have honly : entries.filter (·.id = e.id) = [e] := by
    induction entries with
    | nil => cases he
    | cons d entries ih =>
      obtain ⟨hnew, hnodup⟩ := List.nodup_cons.mp hnodup
      rcases List.mem_cons.mp he with rfl | he
      · have hnone : entries.filter (·.id = e.id) = [] := by
          rw [List.filter_eq_nil_iff]
          intro d hd heq
          exact hnew (List.mem_map.mpr ⟨d, hd, of_decide_eq_true heq⟩)
        simp [hnone]
      · have hne : d.id ≠ e.id := by
          intro heq
          exact hnew (List.mem_map.mpr ⟨e, he, heq.symm⟩)
        simpa [hne] using ih hnodup he
  rw [tags_exclusions, honly]
  simp

theorem tags_of_not_mem {id : String} (h : id ∉ entries.map (·.id)) : (exclusions entries).tags id = [] := by
  have hnone : entries.filter (·.id = id) = [] := by
    rw [List.filter_eq_nil_iff]
    intro e he heq
    exact h (List.mem_map.mpr ⟨e, he, of_decide_eq_true heq⟩)
  rw [tags_exclusions, hnone]
  rfl

theorem ofSource_eq_ok {origin : String} {source : Text} (h : entriesOf origin source = .ok entries)
    {table : RuleTable} : ofSource validators origin source = .ok table ↔ build validators entries = .ok table := by
  unfold ofSource
  cases hbuild : build validators entries with
  | ok made => simp [h, hbuild, bind, Except.bind, pure, Except.pure]
  | error fault => simp [h, hbuild, bind, Except.bind, throw, throwThe, MonadExceptOf.throw]

theorem ofSource_eq_error {origin : String} {source : Text} (h : entriesOf origin source = .ok entries)
    {err : SourceError} : ofSource validators origin source = .error err ↔
      ∃ fault, err = .entry fault ∧ build validators entries = .error fault := by
  unfold ofSource
  cases hbuild : build validators entries with
  | ok made => simp [h, hbuild, bind, Except.bind, pure, Except.pure]
  | error fault => simp [h, hbuild, bind, Except.bind, throw, throwThe, MonadExceptOf.throw, eq_comm]

/-- A written catalog is a table iff each of its entries is valid and their ids are distinct. The table has the
rules that the entries give, in order, and for each id the tags of its entry. Else the error is the fault of the
first entry that has one, or, if all are valid, the first id that is among those before it. -/
theorem ofSource_settled {origin : String} {source : Text} (h : entriesOf origin source = .ok entries) :
    ((∃ table, ofSource validators origin source = .ok table) ↔
      (∀ e ∈ entries, e.Valid validators) ∧ (entries.map (·.id)).Nodup) ∧
    (∀ table, ofSource validators origin source = .ok table →
      List.Forall₂ (Entry.Gives validators) entries table.rules ∧
        (∀ e ∈ entries, table.exclusions.tags e.id = e.skipIn.eraseDups) ∧
        ∀ id, id ∉ entries.map (·.id) → table.exclusions.tags id = []) ∧
    ∀ err, ofSource validators origin source = .error err ↔
      ∃ fault, err = .entry fault ∧
        (FirstFault validators entries fault ∨
          (∀ e ∈ entries, e.Valid validators) ∧ FirstRepeat entries fault) := by
  refine ⟨?_, ?_, ?_⟩
  · simp only [ofSource_eq_ok h, build_eq_ok, ← exists_rules]
    constructor
    · intro ⟨table, hgives, hnodup, _⟩
      exact ⟨⟨table.rules, hgives⟩, hnodup⟩
    · intro ⟨⟨rules, hgives⟩, hnodup⟩
      exact ⟨⟨rules, exclusions entries⟩, hgives, hnodup, rfl⟩
  · intro table htable
    obtain ⟨hgives, hnodup, hexclusions⟩ := build_eq_ok.mp ((ofSource_eq_ok h).mp htable)
    rw [hexclusions]
    exact ⟨hgives, fun e he => tags_of_mem hnodup he, fun id hid => tags_of_not_mem hid⟩
  · intro err
    simp only [ofSource_eq_error h, build_eq_error]

/-- Two entries of one id, and behind them one whose validator is not known: that one is named. -/
theorem ofSource_settled_fault_behind_repeat :
    let source := Text.ofString (
      "[[rule]]\nid = \"a\"\npattern = \"x\"\nscope = \"all\"\nseverity = \"info\"\n" ++
      "[[rule]]\nid = \"a\"\npattern = \"x\"\nscope = \"all\"\nseverity = \"info\"\n" ++
      "[[rule]]\nid = \"b\"\npattern = \"x\"\nscope = \"all\"\nseverity = \"info\"\nvalidator = \"none\"\n")
    let a : Entry := ⟨"a", "x", .all, .info, "", .lint, true, false, none, none, []⟩
    let b : Entry := { a with id := "b", validator := some "none" }
    (entriesOf "catalog.toml" source).toOption = some [a, a, b] ∧
      ofSource Validator.builtin "catalog.toml" source = .error (.entry (.unknownValidator "b" "none")) := by
  intro source a b
  have hread : (entriesOf "catalog.toml" source).toOption = some [a, a, b] := by decide +kernel
  have hpattern : (Pattern.ofString "x").toOption.isSome = true := by decide +kernel
  obtain ⟨p, hp⟩ := Option.isSome_iff_exists.mp hpattern
  have hx : Pattern.ofString "x" = .ok p := eq_ok_of_toOption hp
  have hvalid : a.Valid Validator.builtin := ⟨⟨p, hx⟩, by simp [Entry.Accompanied, a], by simp [a]⟩
  refine ⟨hread, ((ofSource_settled (eq_ok_of_toOption hread)).2.2 _).mpr ⟨_, rfl, .inl ?_⟩⟩
  refine ⟨[a, a], b, [], rfl, by simpa using hvalid, ?_⟩
  exact .validator hx (by simp [Entry.Accompanied, a, b]) rfl rfl

end Catalog

end FrontLint
