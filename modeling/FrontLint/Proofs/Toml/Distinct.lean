/-
  FrontLint.Proofs.Toml.Distinct — no table of a document has a key twice.

  Tables grow line by line, and in three ways: by a header, by a header below them, by a dotted key. Each
  goes down a path and changes the table at its end, which must not have the key yet. Inline tables are
  made in the same way, key by key. Proved:
  - `distinct_update`: a change that keeps keys distinct where it is made keeps them distinct in the whole.
  - `distinct_add`: so does every line of a document.
  - `yields_value`: in every value that is read keys are distinct, at every depth.
  - `distinct_of_parse?`: and so they are in every document.
-/

import FrontLint.Proofs.Traversal
import FrontLint.Toml.Reader
import Mathlib.Data.List.Nodup

namespace FrontLint

namespace Toml

/-- Distinct keys in every table of a value. -/
inductive Value.Distinct : Value → Prop
  | string (s : String) : Distinct (.string s)
  | integer (n : Int) : Distinct (.integer n)
  | float (x : Float) : Distinct (.float x)
  | boolean (b : Bool) : Distinct (.boolean b)
  | datetime (text : String) : Distinct (.datetime text)
  | array {elements : List Value} : (∀ v ∈ elements, Distinct v) → Distinct (.array elements)
  | table {entries : Table} : (entries.map (·.1)).Nodup → (∀ e ∈ entries, Distinct e.2) →
      Distinct (.table entries)
  | tables {elements : List Table} : (∀ es ∈ elements, (es.map (·.1)).Nodup) →
      (∀ es ∈ elements, ∀ e ∈ es, Distinct e.2) → Distinct (.tables elements)

/-- Distinct keys in every table of a part of a document. -/
inductive Node.Distinct : Node → Prop
  | leaf {v : Value} : v.Distinct → Distinct (.leaf v)
  | table {origin : Origin} {entries : Entries} : (entries.map (·.1)).Nodup → (∀ e ∈ entries, Distinct e.2) →
      Distinct (.table origin entries)
  | tables {elements : List Entries} : (∀ es ∈ elements, (es.map (·.1)).Nodup) →
      (∀ es ∈ elements, ∀ e ∈ es, Distinct e.2) → Distinct (.tables elements)

/-- Distinct keys at every depth. -/
structure Entries.Distinct (es : Entries) : Prop where
  keys : (es.map (·.1)).Nodup
  nodes : ∀ e ∈ es, e.2.Distinct

theorem Node.distinct_table_iff {origin : Origin} {es : Entries} :
    (Node.table origin es).Distinct ↔ es.Distinct := by
  constructor
  · intro h
    cases h with
    | table hkeys hnodes => exact ⟨hkeys, hnodes⟩
  · intro h
    exact .table h.keys h.nodes

theorem Node.distinct_tables_iff {elements : List Entries} :
    (Node.tables elements).Distinct ↔ ∀ es ∈ elements, es.Distinct := by
  constructor
  · intro h es hes
    cases h with
    | tables hkeys hnodes => exact ⟨hkeys es hes, hnodes es hes⟩
  · intro h
    exact .tables (fun es hes => (h es hes).keys) fun es hes => (h es hes).nodes

/-! ## Values of nodes -/

theorem entriesToValues_eq (es : Entries) : entriesToValues es = es.map fun e => (e.1, e.2.toValue) := by
  induction es with
  | nil => rfl
  | cons e es ih => simp [entriesToValues, ih]

theorem elementsToValues_eq (elements : List Entries) : elementsToValues elements = elements.map entriesToValues := by
  induction elements with
  | nil => rfl
  | cons es elements ih => simp [elementsToValues, ih]

theorem keys_entriesToValues (es : Entries) : (entriesToValues es).map (·.1) = es.map (·.1) := by
  rw [entriesToValues_eq, List.map_map]
  rfl

theorem forall_entriesToValues {P : Value → Prop} {es : Entries} (h : ∀ e ∈ es, P e.2.toValue) :
    ∀ e ∈ entriesToValues es, P e.2 := by
  rw [entriesToValues_eq]
  intro e he
  obtain ⟨n, hn, rfl⟩ := List.mem_map.mp he
  exact h n hn

theorem Node.Distinct.toValue {n : Node} (h : n.Distinct) : n.toValue.Distinct := by
  induction h with
  | leaf hv =>
    rw [Node.toValue]
    exact hv
  | table hkeys _ ih =>
    rw [Node.toValue]
    exact .table (by rwa [keys_entriesToValues]) (forall_entriesToValues ih)
  | tables hkeys _ ih =>
    rw [Node.toValue, elementsToValues_eq]
    refine .tables ?_ ?_
    · intro t ht
      obtain ⟨es, hes, rfl⟩ := List.mem_map.mp ht
      rw [keys_entriesToValues]
      exact hkeys es hes
    · intro t ht
      obtain ⟨es, hes, rfl⟩ := List.mem_map.mp ht
      exact forall_entriesToValues (ih es hes)

theorem Entries.Distinct.toValue {es : Entries} (h : es.Distinct) : (Value.table (entriesToValues es)).Distinct :=
  .table (by rw [keys_entriesToValues]; exact h.keys) (forall_entriesToValues fun e he => (h.nodes e he).toValue)

/-! ## Changing tables -/

namespace Entries

theorem distinct_nil : Distinct [] := ⟨.nil, by simp⟩

theorem mem_of_get? {es : Entries} {key : String} {n : Node} (h : es.get? key = some n) : (key, n) ∈ es := by
  obtain ⟨front, back, heq, -⟩ := List.lookup_eq_some_iff.mp h
  simp [heq]

theorem keys_set (es : Entries) (key : String) (n : Node) :
    (es.set key n).map (·.1) = if key ∈ es.map (·.1) then es.map (·.1) else es.map (·.1) ++ [key] := by
  induction es with
  | nil => simp [set]
  | cons e es ih =>
    obtain ⟨k, m⟩ := e
    by_cases hk : k = key
    · simp [set, hk]
    · have hne : ¬ key = k := fun heq => hk heq.symm
      simp only [set, if_neg hk, List.map_cons, ih, List.mem_cons, hne, false_or]
      split <;> simp

theorem mem_set {es : Entries} {key : String} {n : Node} {e : String × Node} (he : e ∈ es.set key n) :
    e ∈ es ∨ e.2 = n := by
  induction es with
  | nil => exact .inr (by rw [List.mem_singleton.mp he])
  | cons x es ih =>
    obtain ⟨k, m⟩ := x
    unfold set at he
    split at he
    · rcases List.mem_cons.mp he with rfl | he
      · exact .inr rfl
      · exact .inl (List.mem_cons_of_mem _ he)
    · rcases List.mem_cons.mp he with rfl | he
      · exact .inl List.mem_cons_self
      · exact (ih he).imp (List.mem_cons_of_mem _) id

theorem Distinct.set {es : Entries} (h : es.Distinct) {n : Node} (hn : n.Distinct) (key : String) :
    (es.set key n).Distinct := by
  constructor
  · rw [keys_set]
    split
    · exact h.keys
    · rename_i hkey
      rw [← List.concat_eq_append]
      exact h.keys.concat hkey
  · intro e he
    rcases mem_set he with he | he
    · exact h.nodes e he
    · rw [he]
      exact hn

theorem Distinct.erase {es : Entries} (h : es.Distinct) (key : String) : (es.erase key).Distinct := by
  constructor
  · exact h.keys.sublist (List.filter_sublist.map _)
  · intro e he
    exact h.nodes e (List.mem_filter.mp he).1

theorem Distinct.get? {es : Entries} (h : es.Distinct) {key : String} {n : Node} (hget : es.get? key = some n) :
    n.Distinct :=
  h.nodes _ (mem_of_get? hget)

/-- A change that keeps keys distinct in the table at the end of a path keeps them distinct in the whole. -/
theorem distinct_update {dotted : Bool} {f : Origin → Entries → Option Entries}
    (hf : ∀ origin es es', es.Distinct → f origin es = some es' → es'.Distinct) {path : List String} :
    ∀ {origin : Origin} {es es' : Entries}, es.Distinct → update dotted f path origin es = some es' →
      es'.Distinct := by
  induction path with
  | nil =>
    intro origin es es' hes h
    rw [update] at h
    exact hf origin es es' hes h
  | cons key path ih =>
    intro origin es es' hes h
    rw [update] at h
    split at h
    · -- The table is new, and so are the ones below it.
      obtain ⟨inner, hinner, heq⟩ := Option.bind_eq_some_iff.mp h
      cases heq
      exact hes.set (Node.distinct_table_iff.mpr (ih distinct_nil hinner)) key
    · cases h
    · rename_i own inner hget
      split at h
      · cases h
      · obtain ⟨changed, hchanged, heq⟩ := Option.bind_eq_some_iff.mp h
        cases heq
        have hinner : Entries.Distinct inner := Node.distinct_table_iff.mp (hes.get? hget)
        exact hes.set (Node.distinct_table_iff.mpr (ih hinner hchanged)) key
    · rename_i elements hget
      split at h
      · cases h
      · rename_i last hlast
        obtain ⟨changed, hchanged, heq⟩ := Option.bind_eq_some_iff.mp h
        cases heq
        have helements : ∀ inner ∈ elements, Entries.Distinct inner := Node.distinct_tables_iff.mp (hes.get? hget)
        have hchanged := ih (helements last (List.mem_of_getLast? hlast)) hchanged
        refine hes.set (Node.distinct_tables_iff.mpr ?_) key
        intro inner hinner
        rcases List.mem_append.mp hinner with hinner | hinner
        · exact helements inner (List.dropLast_subset elements hinner)
        · rw [List.mem_singleton.mp hinner]
          exact hchanged

theorem distinct_put {path : List String} {key : String} {v : Value} (hv : v.Distinct) {es es' : Entries}
    (hes : es.Distinct) (h : put path key v es = some es') : es'.Distinct := by
  refine distinct_update ?_ hes h
  intro origin inner inner' hinner hput
  split at hput
  · cases hput
  · split at hput
    · cases hput
    · cases hput
      exact hinner.set (.leaf hv) key

theorem distinct_openTable {path : List String} {key : String} {es es' : Entries} (hes : es.Distinct)
    (h : openTable path key es = some es') : es'.Distinct := by
  refine distinct_update ?_ hes h
  intro origin inner inner' hinner hopen
  split at hopen
  · cases hopen
    exact hinner.set (Node.distinct_table_iff.mpr distinct_nil) key
  · rename_i own hget
    cases hopen
    have hown : Entries.Distinct own := Node.distinct_table_iff.mp (hinner.get? hget)
    exact (hinner.erase key).set (Node.distinct_table_iff.mpr hown) key
  · cases hopen

theorem distinct_addTable {path : List String} {key : String} {es es' : Entries} (hes : es.Distinct)
    (h : addTable path key es = some es') : es'.Distinct := by
  refine distinct_update ?_ hes h
  intro origin inner inner' hinner hadd
  split at hadd
  · cases hadd
    refine hinner.set (Node.distinct_tables_iff.mpr ?_) key
    intro own hown
    rw [List.mem_singleton.mp hown]
    exact distinct_nil
  · rename_i elements hget
    cases hadd
    have helements : ∀ own ∈ elements, Entries.Distinct own := Node.distinct_tables_iff.mp (hinner.get? hget)
    refine hinner.set (Node.distinct_tables_iff.mpr ?_) key
    intro own hown
    rcases List.mem_append.mp hown with hown | hown
    · exact helements own hown
    · rw [List.mem_singleton.mp hown]
      exact distinct_nil
  · cases hadd

end Entries

/-! ## Documents -/

/-- Distinct keys in the value that a line gives. -/
def Statement.Distinct : Statement → Prop
  | .pair _ _ v => v.Distinct
  | .header _ _ => True
  | .arrayHeader _ _ => True

theorem Document.distinct_add {d d' : Document} (hd : d.root.Distinct) {s : Statement} (hs : s.Distinct)
    (h : d.add s = some d') : d'.root.Distinct := by
  cases s with
  | pair path key v =>
    obtain ⟨root, hroot, heq⟩ := Option.bind_eq_some_iff.mp h
    cases heq
    exact Entries.distinct_update (fun _ _ _ hinner hput => Entries.distinct_put hs hinner hput) hd hroot
  | header path key =>
    obtain ⟨root, hroot, heq⟩ := Option.bind_eq_some_iff.mp h
    cases heq
    exact Entries.distinct_openTable hd hroot
  | arrayHeader path key =>
    obtain ⟨root, hroot, heq⟩ := Option.bind_eq_some_iff.mp h
    cases heq
    exact Entries.distinct_addTable hd hroot

theorem Document.distinct_ofStatements {ss : List Statement} (hss : ∀ s ∈ ss, s.Distinct) {root : Table}
    (h : Document.ofStatements ss = some root) : (Value.table root).Distinct := by
  obtain ⟨d, hd, heq⟩ := Option.bind_eq_some_iff.mp h
  cases heq
  have hkept : d.root.Distinct :=
    Traversal.foldlM_invariant (P := fun d => d.root.Distinct)
      (fun d s d' hs hroot hadd => distinct_add hroot (hss s hs) hadd) Entries.distinct_nil hd
  exact hkept.toValue

theorem distinct_inlineTable {pairs : List (List String × String × Value)} (hpairs : ∀ p ∈ pairs, p.2.2.Distinct)
    {v : Value} (h : inlineTable pairs = some v) : v.Distinct := by
  obtain ⟨es, hes, heq⟩ := Option.bind_eq_some_iff.mp h
  cases heq
  have hkept : Entries.Distinct es :=
    Traversal.foldlM_invariant (P := Entries.Distinct)
      (fun es p es' hp hdistinct hput => Entries.distinct_put (hpairs p hp) hdistinct hput) Entries.distinct_nil hes
  exact hkept.toValue

end Toml

/-! ## What is read -/

namespace Parse

variable {α β : Type}

/-- Whatever is read has a property. -/
def Yields (p : Parse α) (P : α → Prop) : Prop := ∀ t a rest, p t = some (a, rest) → P a

theorem yields_pure {a : α} {P : α → Prop} (h : P a) : Yields (pure a) P := by
  intro t b rest hread
  cases hread
  exact h

theorem yields_failure {P : α → Prop} : Yields (failure : Parse α) P := by
  intro t a rest hread
  cases hread

theorem yields_lift {o : Option α} {P : α → Prop} (h : ∀ a, o = some a → P a) : Yields (liftM o : Parse α) P := by
  intro t a rest hread
  obtain ⟨b, hb, heq⟩ := Option.bind_eq_some_iff.mp hread
  cases heq
  exact h a hb

theorem yields_bind {p : Parse α} {f : α → Parse β} {P : α → Prop} {Q : β → Prop} (hp : Yields p P)
    (hf : ∀ a, P a → Yields (f a) Q) : Yields (p >>= f) Q := by
  intro t b rest h
  obtain ⟨⟨a, behind⟩, hread, hnext⟩ := Option.bind_eq_some_iff.mp h
  exact hf a (hp t a behind hread) behind b rest hnext

/-- What matters is the last step. -/
theorem yields_last {p : Parse α} {f : α → Parse β} {Q : β → Prop} (hf : ∀ a, Yields (f a) Q) :
    Yields (p >>= f) Q :=
  yields_bind (P := fun _ => True) (fun _ _ _ _ => trivial) fun a _ => hf a

theorem yields_unless {c : Prop} [Decidable c] {f : Unit → Parse α} {P : α → Prop} (h : ∀ u, Yields (f u) P) :
    Yields (if c then failure >>= f else f ()) P := by
  split
  · exact yields_last h
  · exact h ()

theorem yields_orElse {p q : Parse α} {P : α → Prop} (hp : Yields p P) (hq : Yields q P) : Yields (p <|> q) P := by
  intro t a rest h
  cases hread : p t with
  | some result =>
    have hfirst : p t = some (a, rest) := by
      rw [hread]
      rw [← h]
      show some result = (p t <|> q t)
      rw [hread]
      rfl
    exact hp t a rest hfirst
  | none =>
    refine hq t a rest ?_
    rw [← h]
    show q t = (p t <|> q t)
    rw [hread]
    rfl

theorem yields_option {p : Parse α} {P : α → Prop} (hp : Yields p P) : Yields (option p) (fun o => ∀ a ∈ o, P a) := by
  intro t o rest h a ha
  unfold option at h
  split at h
  · rename_i hread
    cases h
    cases ha
    exact hp t a rest hread
  · cases h
    cases ha

theorem forall_manyFrom {p : Parse α} {P : α → Prop} (hp : Yields p P) (t : Text) :
    ∀ a ∈ (manyFrom p t).1, P a := by
  fun_induction manyFrom p t with
  | case1 t hread => simp
  | case2 t a rest hread hlt as rest' hmore ih =>
    rw [hmore] at ih
    intro b hb
    rcases List.mem_cons.mp hb with rfl | hb
    · exact hp t b rest hread
    · exact ih b hb
  | case3 t a rest hread hlt => simp

theorem yields_many {p : Parse α} {P : α → Prop} (hp : Yields p P) : Yields (many p) fun as => ∀ a ∈ as, P a := by
  intro t as rest h
  have has : (manyFrom p t).1 = as := by rw [Option.some.inj h]
  rw [← has]
  exact forall_manyFrom hp t

theorem yields_sepBy1 {p : Parse α} {sep : Parse β} {P : α → Prop} (hp : Yields p P) :
    Yields (sepBy1 p sep) fun as => ∀ a ∈ as, P a := by
  refine yields_bind hp fun a ha => ?_
  refine yields_bind (yields_many (yields_last fun _ => hp)) fun as has => yields_pure ?_
  intro b hb
  rcases List.mem_cons.mp hb with rfl | hb
  · exact ha
  · exact has b hb

end Parse

namespace Toml

open Parse

theorem yields_checked (n : Int) : Yields (checked n) Value.Distinct := by
  unfold checked
  split
  · exact yields_pure (.integer n)
  · exact yields_failure

theorem yields_integer : Yields integer Value.Distinct := by
  have hbased : ∀ mark base, Yields (basedInteger mark base) Value.Distinct := by
    intro mark base
    unfold basedInteger
    exact yields_last fun _ => yields_last fun _ => yields_last fun n => yields_checked n
  have hdecimal : Yields decimalInteger Value.Distinct := by
    unfold decimalInteger
    exact yields_last fun _ => yields_last fun _ => yields_last fun _ => yields_checked _
  exact yields_orElse (hbased _ _) (yields_orElse (hbased _ _) (yields_orElse (hbased _ _) hdecimal))

theorem yields_decimalFloat : Yields decimalFloat Value.Distinct := by
  unfold decimalFloat
  refine yields_last fun minus => yields_last fun whole => yields_last fun fraction => yields_last fun power => ?_
  refine yields_unless fun _ => yields_last fun m => yields_unless fun _ => ?_
  exact yields_pure (.float _)

theorem yields_specialFloat : Yields specialFloat Value.Distinct := by
  unfold specialFloat
  exact yields_last fun _ => yields_last fun _ => yields_pure (.float _)

theorem yields_boolean : Yields boolean Value.Distinct := by
  unfold boolean
  exact yields_orElse (yields_last fun _ => yields_pure (.boolean _)) (yields_last fun _ => yields_pure (.boolean _))

theorem yields_scalar : Yields scalar Value.Distinct := by
  have hstring : Yields (do return .string (← string)) Value.Distinct :=
    yields_last fun s => yields_pure (.string s)
  have hmoment : Yields moment Value.Distinct := by
    unfold moment
    exact yields_last fun text => yields_pure (.datetime text)
  unfold scalar
  refine yields_orElse hstring (yields_orElse yields_boolean (yields_orElse hmoment ?_))
  exact yields_orElse yields_decimalFloat (yields_orElse yields_specialFloat yields_integer)

/-- In every value that is read keys are distinct. -/
theorem yields_value (depth : Nat) : Yields (value depth) Value.Distinct := by
  induction depth with
  | zero =>
    unfold value
    exact yields_scalar
  | succ depth ih =>
    unfold value
    refine yields_last fun next => ?_
    split
    · refine yields_last fun _ => yields_last fun _ => ?_
      refine yields_bind (yields_option (yields_sepBy1 ih)) fun elements helements => ?_
      have harray : (Value.array (elements.getD [])).Distinct := by
        refine .array ?_
        intro v hv
        cases elements with
        | none => cases hv
        | some vs => exact helements vs rfl v hv
      refine yields_last fun _ => ?_
      split
      · exact yields_last fun _ => yields_last fun _ => yields_last fun _ => yields_pure harray
      · exact yields_last fun _ => yields_pure harray
    · refine yields_last fun _ => yields_last fun _ => ?_
      refine yields_bind (P := fun pairs => ∀ ps ∈ pairs, ∀ p ∈ ps, p.2.2.Distinct) ?_ fun pairs hpairs => ?_
      · refine yields_option (yields_sepBy1 (yields_last fun k => yields_last fun _ => yields_last fun _ => ?_))
        exact yields_bind ih fun v hv => yields_last fun _ => yields_pure hv
      · refine yields_last fun _ => yields_last fun _ => yields_lift fun v hv => ?_
        refine distinct_inlineTable ?_ hv
        intro p hp
        cases pairs with
        | none => cases hp
        | some ps => exact hpairs ps rfl p hp
    · exact yields_scalar

theorem yields_line : Yields line fun s => ∀ x ∈ s, Statement.Distinct x := by
  have harray : Yields arrayHeader Statement.Distinct := by
    unfold arrayHeader
    exact yields_last fun _ => yields_last fun _ => yields_last fun _ => yields_pure trivial
  have hheader : Yields header Statement.Distinct := by
    unfold header
    exact yields_last fun _ => yields_last fun _ => yields_last fun _ => yields_last fun _ => yields_pure trivial
  have hpair : Yields pair Statement.Distinct := by
    unfold pair
    refine yields_last fun _ => yields_last fun _ => yields_last fun _ => ?_
    exact yields_bind (yields_value _) fun v hv => yields_pure hv
  unfold line
  refine yields_last fun _ => ?_
  refine yields_bind (yields_option (yields_orElse harray (yields_orElse hheader hpair))) fun s hs => ?_
  exact yields_last fun _ => yields_last fun _ => yields_pure hs

theorem yields_statements : Yields statements fun ss => ∀ s ∈ ss, Statement.Distinct s := by
  unfold statements
  refine yields_bind (yields_sepBy1 yields_line) fun lines hlines => yields_pure ?_
  intro s hs
  obtain ⟨l, hl, hsome⟩ := List.mem_filterMap.mp hs
  exact hlines l hl s hsome

/-- No table of a document has a key twice. -/
theorem distinct_of_parse? {t : Text} {root : Table} (h : parse? t = some root) : (Value.table root).Distinct := by
  obtain ⟨ss, hss, hroot⟩ := Option.bind_eq_some_iff.mp h
  refine Document.distinct_ofStatements ?_ hroot
  unfold Parse.all at hss
  split at hss
  · rename_i hread
    cases hss
    exact yields_statements _ _ _ hread
  · cases hss

end Toml

end FrontLint
