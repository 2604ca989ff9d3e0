/-
  FrontLint.Proofs.Rule.Distinct — the rules of a table are told apart by their ids.

  A table is made of rules whose ids are distinct, and settings only drop rules and grade them anew. Proved:
  - `firstRepeated_eq_none`: no id is refused if none is among those before it.
  - `Made.ids_nodup`: in every table that can be made, ids are distinct.
  - `Made.number_unique`: so an id has one place in the table.
-/

import FrontLint.Rule.Table
import Mathlib.Data.List.Nodup

namespace FrontLint

theorem firstRepeated_eq_none {seen ids : List String} :
    firstRepeated seen ids = none ↔ ids.Nodup ∧ ∀ id ∈ ids, id ∉ seen := by
  induction ids generalizing seen with
  | nil => simp [firstRepeated]
  | cons id ids ih =>
    unfold firstRepeated
    by_cases hid : id ∈ seen
    · simp [hid]
    · simp only [hid, if_false, ih, List.nodup_cons, List.mem_cons, forall_eq_or_imp, not_or]
      constructor
      · intro h
        exact ⟨⟨fun hmem => (h.2 id hmem).1 rfl, h.1⟩, not_false, fun other hmem => (h.2 other hmem).2⟩
      · intro h
        refine ⟨h.1.2, fun other hmem => ⟨?_, h.2.2 other hmem⟩⟩
        intro he
        exact h.1.1 (he ▸ hmem)

namespace RuleTable

/-- The tables that there are: of rules that a table was asked for, and configured from another. -/
inductive Made : RuleTable → Prop
  | ofRules {rules : List Rule} {exclusions : Exclusions} {t : RuleTable} :
      RuleTable.ofRules rules exclusions = .ok t → Made t
  | configured {t : RuleTable} (s : RuleSettings) : Made t → Made (t.configured s)

theorem ids_nodup_of_ofRules {rules : List Rule} {exclusions : Exclusions} {t : RuleTable}
    (h : RuleTable.ofRules rules exclusions = .ok t) : (t.rules.map (·.id)).Nodup := by
  unfold RuleTable.ofRules at h
  split at h
  · cases h
  · rename_i hnone
    cases h
    exact (firstRepeated_eq_none.mp hnone).1

/-- Settings keep the ids of rules, and their order. -/
theorem ids_configured_sublist (t : RuleTable) (s : RuleSettings) :
    ((t.configured s).rules.map (·.id)).Sublist (t.rules.map (·.id)) := by
  have hid : ∀ r, (s.regrade r).id = r.id := by
    intro r
    unfold RuleSettings.regrade
    split <;> rfl
  simp only [configured, List.map_map, Function.comp_def, hid]
  exact List.filter_sublist.map _

theorem Made.ids_nodup {t : RuleTable} (h : t.Made) : (t.rules.map (·.id)).Nodup := by
  induction h with
  | ofRules h => exact ids_nodup_of_ofRules h
  | configured s _ ih => exact ih.sublist (ids_configured_sublist _ s)

/-- A rule is found at one place of a table. -/
theorem Made.number_unique {t : RuleTable} (h : t.Made) {j k : Nat} {a b : Rule} (ha : t.rules[j]? = some a)
    (hb : t.rules[k]? = some b) (hid : a.id = b.id) : j = k := by
  obtain ⟨hj, -⟩ := List.getElem?_eq_some_iff.mp ha
  refine (List.getElem?_inj (by simpa using hj) h.ids_nodup).mp ?_
  rw [List.getElem?_map, List.getElem?_map, ha, hb, Option.map_some, Option.map_some, hid]

end RuleTable

end FrontLint
