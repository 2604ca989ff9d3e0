/-
  FrontLint.Proofs.Settings.Warnings — the keys of a settings file that are warned about are those that do
  nothing.

  A file is read twice. One reading takes from each table the keys it knows and passes over the others; the
  other lists the keys that are not known. There are three such tables: the whole document, `rules` and
  `classify`. Proved:
  - `read_filter` / `read_error_of_mem`: a table read without entries that do nothing, and one with an entry
    that cannot be read.
  - `ofTable_pruned` / `warnings_pruned`: without the unknown keys the settings are the same, and there is no
    warning.
  - `warnings_perm` / `warning_injective`: there is a warning for each unknown key, and no two are the same.
  - `ofTable_replace_error`: each known key is looked at.
  - `load_warnings_inert`: the whole, for every file that can be loaded.
-/

import FrontLint.Proofs.Toml.Distinct
import FrontLint.Settings.Search
import Mathlib.Data.List.Perm.Basic

namespace FrontLint

open Toml Traversal

/-! ## Reading records -/

namespace Toml.Shape.Fields

variable {σ : Type} {f : Fields σ}

/-- One step of reading a record. -/
def readEntry (f : Fields σ) (s : σ) (e : String × Value) : Except Misfit σ :=
  match f.field s e.1 with
  | some shape => shape e.2
  | none => if f.strict then .error (.unknownField e.1 f.names) else .ok s

theorem read_cons (s : σ) (e : String × Value) (es : Table) :
    f.read s (e :: es) = f.readEntry s e >>= fun s' => f.read s' es := rfl

/-- Entries that do nothing may be left out. -/
theorem read_filter {keep : String × Value → Bool} {es : Table}
    (h : ∀ e ∈ es, keep e = false → ∀ s, f.readEntry s e = .ok s) (s : σ) :
    f.read s (es.filter keep) = f.read s es := by
  induction es generalizing s with
  | nil => rfl
  | cons e es ih =>
    have hrest : ∀ e ∈ es, keep e = false → ∀ s, f.readEntry s e = .ok s :=
      fun e he => h e (List.mem_cons_of_mem _ he)
    cases hkeep : keep e with
    | true =>
      rw [List.filter_cons_of_pos hkeep, read_cons, read_cons]
      simp only [ih hrest]
    | false =>
      rw [List.filter_cons_of_neg (by simp [hkeep]), read_cons, h e List.mem_cons_self hkeep s, ih hrest]
      rfl

/-- Entries may be exchanged for others that are read alike. -/
theorem read_map {g : String × Value → String × Value} {es : Table}
    (h : ∀ e ∈ es, ∀ s, f.readEntry s (g e) = f.readEntry s e) (s : σ) :
    f.read s (es.map g) = f.read s es := by
  induction es generalizing s with
  | nil => rfl
  | cons e es ih =>
    rw [List.map_cons, read_cons, read_cons, h e List.mem_cons_self s]
    simp only [ih fun e he => h e (List.mem_cons_of_mem _ he)]

/-- A table with an entry that cannot be read, whatever was read before it, cannot be read. -/
theorem read_error_of_mem {e : String × Value} (h : ∀ s, ∃ m, f.readEntry s e = .error m) {es : Table}
    (he : e ∈ es) (s : σ) : ∃ m, f.read s es = .error m := by
  induction es generalizing s with
  | nil => cases he
  | cons d es ih =>
    simp only [read_cons, bind_eq_error]
    rcases List.mem_cons.mp he with rfl | he
    · obtain ⟨m, hm⟩ := h s
      exact ⟨m, .inl hm⟩
    · cases hd : f.readEntry s d with
      | error m => exact ⟨m, .inl rfl⟩
      | ok s' =>
        obtain ⟨m, hm⟩ := ih he s'
        exact ⟨m, .inr ⟨s', rfl, hm⟩⟩

end Toml.Shape.Fields

namespace Settings

open Toml.Shape (Fields)

/-! ## The tables of a settings file -/

/-- A table whose keys mean something. -/
inductive Place where
  | top
  | rules
  | classify
  deriving DecidableEq

/-- The entries of the table under a heading, none if there is no table. -/
def under (heading : String) (root : Table) : Table :=
  match root.lookup heading with
  | some (.table t) => t
  | _ => []

/-- Changes a value that is a table. -/
def mapTable (change : Table → Table) : Value → Value
  | .table t => .table (change t)
  | v => v

/-- Changes the table under a heading. -/
def editIn (heading : String) (change : Table → Table) (root : Table) : Table :=
  root.map fun e => if e.1 = heading then (e.1, mapTable change e.2) else e

namespace Place

def known : Place → List String
  | top => knownKeys
  | rules => knownRulesKeys
  | classify => knownClassifyKeys

def entries (root : Table) : Place → Table
  | top => root
  | rules => under "rules" root
  | classify => under "classify" root

def keys (root : Table) (p : Place) : List String := (p.entries root).map (·.1)

def warning (key : String) : Place → String
  | top => "Unknown config option: '" ++ key ++ "'"
  | rules => "Unknown config option in [rules]: '" ++ key ++ "'"
  | classify => "Unknown config option in [classify]: '" ++ key ++ "'"

def edit (change : Table → Table) (root : Table) : Place → Table
  | top => change root
  | rules => editIn "rules" change root
  | classify => editIn "classify" change root

/-- Deletes the unknown keys of a table. -/
def strip (root : Table) (p : Place) : Table := p.edit (·.filter fun e => e.1 ∈ p.known) root

/-- Gives a key of a table another value. -/
def replace (key : String) (v : Value) (root : Table) (p : Place) : Table :=
  p.edit (·.map fun e => if e.1 = key then (key, v) else e) root

end Place

/-- The unknown keys of a document, each with its table. -/
def unknown (root : Table) : List (Place × String) :=
  [Place.top, .rules, .classify].flatMap fun p => ((p.keys root).filter (· ∉ p.known)).map (p, ·)

/-- A document without its unknown keys. -/
def pruned (root : Table) : Table := Place.top.strip (Place.rules.strip (Place.classify.strip root))

/-- The file at a path holds a document with this root table. -/
def Holds (fs : FileSystem) (path : Path) (root : Table) : Prop :=
  ∃ source, fs.readText path = .ok source ∧ parse? source = some root

/-- What is loaded of a document. -/
def loadTable (path : Path) (root : Table) : Except LoadError Loaded :=
  match ofTable root with
  | .error m => .error (.misfit path m)
  | .ok s => .ok ⟨s.rebase path, warnings root⟩

/-- A value that a known key cannot have: an integer, or a string if it is a number that is asked for. -/
inductive Spoils : Place → String → Value → Prop
  | integer {p : Place} {key : String} (n : Int) : ¬ (p = .top ∧ key = "concurrency") → Spoils p key (.integer n)
  | string (s : String) : Spoils .top "concurrency" (.string s)

theorem load_eq_loadTable {fs : FileSystem} {path : Path} {root : Table} (h : Holds fs path root) :
    load fs path = loadTable path root := by
  obtain ⟨source, hread, hparse⟩ := h
  unfold load loadTable
  cases hsettings : ofTable root with
  | error m => simp only [hread, hparse, hsettings]
  | ok s => simp only [hread, hparse, hsettings]

theorem exists_holds {fs : FileSystem} {path : Path} {loaded : Loaded} (h : load fs path = .ok loaded) :
    ∃ root, Holds fs path root := by
  unfold load at h
  split at h
  · cases h
  · rename_i source hread
    split at h
    · cases h
    · rename_i root hparse
      exact ⟨root, source, hread, hparse⟩

/-! ## Unknown keys do nothing

The keys that are known to the warnings are listed apart from the readers. That no reader takes another key is
proved here, and further down that each takes all of them. -/

theorem field_eq_none {s : Settings} {key : String} (h : key ∉ knownKeys) : field s key = none := by
  unfold field
  split <;> simp_all [knownKeys]

theorem rulesField_eq_none {s : RuleSettings} {key : String} (h : key ∉ knownRulesKeys) :
    rulesField s key = none := by
  unfold rulesField
  split <;> simp_all [knownRulesKeys]

theorem classField_eq_none {g : ClassGlobs} {key : String} (h : key ∉ knownClassifyKeys) :
    classField g key = none := by
  unfold classField
  split <;> simp_all [knownClassifyKeys]

theorem ofValue_table {σ : Type} (f : Fields σ) (init : σ) (t : Table) :
    f.ofValue init (.table t) = f.read init t >>= fun s => .ok (s, false) := rfl

section Known

variable {σ : Type} {f : Fields σ} {known : List String}

theorem read_known (hstrict : f.strict = false) (hnone : ∀ s key, key ∉ known → f.field s key = none) (s : σ)
    (t : Table) : f.read s (t.filter fun e => e.1 ∈ known) = f.read s t := by
  refine Fields.read_filter (fun e _ he s => ?_) s
  have hkey : e.1 ∉ known := by simpa using he
  simp [Fields.readEntry, hnone s e.1 hkey, hstrict]

theorem ofValue_known (hstrict : f.strict = false) (hnone : ∀ s key, key ∉ known → f.field s key = none)
    (init : σ) (v : Value) :
    f.ofValue init (mapTable (·.filter fun e => e.1 ∈ known) v) = f.ofValue init v := by
  cases v with
  | table t => simp only [mapTable, ofValue_table, read_known hstrict hnone]
  | _ => rfl

/-- A section may lose its unknown keys, wherever what it gives is put. -/
theorem ofTable_editIn_known {init : σ} {put : Settings → σ × Bool → Settings} {heading : String}
    (hentry : ∀ s v, fields.readEntry s (heading, v) = f.ofValue init v >>= fun r => .ok (put s r))
    (hstrict : f.strict = false) (hnone : ∀ s key, key ∉ known → f.field s key = none) (root : Table) :
    ofTable (editIn heading (·.filter fun e => e.1 ∈ known) root) = ofTable root := by
  refine Fields.read_map (fun e _ s => ?_) Settings.unset
  obtain ⟨key, v⟩ := e
  by_cases hkey : key = heading
  · subst hkey
    rw [if_pos rfl, hentry, hentry, ofValue_known hstrict hnone]
  · rw [if_neg hkey]

end Known

theorem readEntry_rules (s : Settings) (v : Value) :
    fields.readEntry s ("rules", v) =
      rulesFields.ofValue RuleSettings.unset v >>= fun r => .ok { s with rules := r.1 } := rfl

theorem readEntry_classify (s : Settings) (v : Value) :
    fields.readEntry s ("classify", v) =
      classFields.ofValue ClassGlobs.unset v >>= fun g => .ok { s with classGlobs := g.1 } := rfl

theorem ofTable_strip (root : Table) (p : Place) : ofTable (p.strip root) = ofTable root := by
  cases p with
  | top =>
    show fields.read Settings.unset (root.filter fun e => e.1 ∈ knownKeys) = fields.read Settings.unset root
    exact read_known rfl (fun _ _ => field_eq_none) Settings.unset root
  | rules => exact ofTable_editIn_known readEntry_rules rfl (fun _ _ => rulesField_eq_none) root
  | classify => exact ofTable_editIn_known readEntry_classify rfl (fun _ _ => classField_eq_none) root

/-- Without its unknown keys a document has the same settings. -/
theorem ofTable_pruned (root : Table) : ofTable (pruned root) = ofTable root := by
  simp only [pruned, ofTable_strip]

/-! ## Tables after a change -/

theorem lookup_editIn (heading key : String) (change : Table → Table) (root : Table) :
    (editIn heading change root).lookup key =
      (root.lookup key).map fun v => if key = heading then mapTable change v else v := by
  induction root with
  | nil => rfl
  | cons e root ih =>
    obtain ⟨k, v⟩ := e
    have hcons : editIn heading change ((k, v) :: root) =
        (k, if k = heading then mapTable change v else v) :: editIn heading change root := by
      by_cases hk : k = heading <;> simp [editIn, hk]
    rw [hcons, List.lookup_cons, List.lookup_cons]
    by_cases hkey : key = k
    · subst hkey
      simp
    · have hkey' : (key == k) = false := by simpa using hkey
      rw [hkey', ih]

theorem lookup_filter {known : List String} {key : String} (h : key ∈ known) (root : Table) :
    (root.filter fun e => e.1 ∈ known).lookup key = root.lookup key := by
  induction root with
  | nil => rfl
  | cons e root ih =>
    obtain ⟨k, v⟩ := e
    by_cases hkey : key = k
    · subst hkey
      rw [List.filter_cons_of_pos (by simpa using h)]
      simp
    · have hkey' : (key == k) = false := by simpa using hkey
      by_cases hk : k ∈ known
      · rw [List.filter_cons_of_pos (by simpa using hk), List.lookup_cons, List.lookup_cons, hkey', ih]
      · rw [List.filter_cons_of_neg (by simpa using hk), List.lookup_cons, hkey', ih]

theorem under_editIn_same (heading : String) {change : Table → Table} (hnil : change [] = []) (root : Table) :
    under heading (editIn heading change root) = change (under heading root) := by
  unfold under
  rw [lookup_editIn]
  rcases root.lookup heading with _ | v
  · exact hnil.symm
  · cases v <;> simp [mapTable, hnil]

theorem under_editIn_other {heading key : String} (h : key ≠ heading) (change : Table → Table) (root : Table) :
    under key (editIn heading change root) = under key root := by
  unfold under
  rw [lookup_editIn]
  simp [h]

theorem under_filter {known : List String} {key : String} (h : key ∈ known) (root : Table) :
    under key (root.filter fun e => e.1 ∈ known) = under key root := by
  unfold under
  rw [lookup_filter h]

/-! ## The warnings -/

theorem strangers_perm (known : List String) (t : Table) :
    (strangers known t).Perm ((t.map (·.1)).filter (· ∉ known)) := by
  unfold strangers
  refine (List.mergeSort_perm _ _).trans (List.Perm.of_eq (List.filter_congr fun key _ => ?_))
  simp

theorem sectionWarnings_eq (heading : String) (known : List String) (root : Table) :
    sectionWarnings heading known root = (strangers known (under heading root)).map fun k =>
      "Unknown config option in [" ++ heading ++ "]: '" ++ k ++ "'" := by
  unfold sectionWarnings under
  rcases root.lookup heading with _ | v
  · simp [strangers]
  · cases v <;> simp [strangers]

theorem warnings_eq (root : Table) :
    warnings root =
      [Place.top, .rules, .classify].flatMap fun p =>
        (strangers p.known (p.entries root)).map fun k => p.warning k := by
  unfold warnings
  simp only [sectionWarnings_eq, List.flatMap_cons, List.flatMap_nil, List.append_nil, List.append_assoc]
  rfl

theorem warnings_perm (root : Table) :
    (warnings root).Perm ((unknown root).map fun u => u.1.warning u.2) := by
  rw [warnings_eq, unknown, List.map_flatMap]
  refine List.Perm.flatMap_left _ fun p _ => ?_
  rw [List.map_map]
  exact (strangers_perm p.known (p.entries root)).map _

/-- How the warnings about a table begin. -/
def Place.opening : Place → String
  | top => "Unknown config option: '"
  | rules => "Unknown config option in [rules]: '"
  | classify => "Unknown config option in [classify]: '"

theorem warning_toList (p : Place) (key : String) :
    (p.warning key).toList = p.opening.toList ++ (key.toList ++ "'".toList) := by
  have h : p.warning key = p.opening ++ key ++ "'" := by cases p <;> rfl
  rw [h, String.toList_append, String.toList_append, List.append_assoc]

/-- No two tables have warnings that begin alike. -/
theorem opening_append_inj {p q : Place} {l l' : List Char}
    (h : p.opening.toList ++ l = q.opening.toList ++ l') : p = q := by
  cases p <;> cases q <;> first | rfl | (simp [Place.opening] at h)

theorem warning_injective : Function.Injective fun u : Place × String => u.1.warning u.2 := by
  intro u w h
  have hlist := congrArg String.toList h
  simp only [warning_toList] at hlist
  have hplace : u.1 = w.1 := opening_append_inj hlist
  rw [hplace] at hlist
  have hkey : u.2.toList = w.2.toList := List.append_cancel_right (List.append_cancel_left hlist)
  exact Prod.ext hplace (String.toList_injective hkey)

theorem warning_mem_iff {root : Table} {p : Place} {key : String} :
    p.warning key ∈ warnings root ↔ key ∈ p.keys root ∧ key ∉ p.known := by
  rw [(warnings_perm root).mem_iff, List.mem_map]
  constructor
  · intro ⟨u, hu, heq⟩
    have hkey : u = (p, key) := warning_injective heq
    subst hkey
    cases p <;> simpa [unknown] using hu
  · intro h
    refine ⟨(p, key), ?_, rfl⟩
    cases p <;> simpa [unknown] using h

theorem known_of_mem_keys_pruned {root : Table} {p : Place} {key : String} (h : key ∈ p.keys (pruned root)) :
    key ∈ p.known := by
  obtain ⟨e, he, rfl⟩ := List.mem_map.mp h
  cases p with
  | top => simpa using (List.mem_filter.mp he).2
  | rules =>
    simp only [Place.entries, pruned, Place.strip, Place.edit] at he
    rw [under_filter (by decide), under_editIn_same _ rfl] at he
    simpa using (List.mem_filter.mp he).2
  | classify =>
    simp only [Place.entries, pruned, Place.strip, Place.edit] at he
    rw [under_filter (by decide), under_editIn_other (by decide), under_editIn_same _ rfl] at he
    simpa using (List.mem_filter.mp he).2

theorem warnings_pruned (root : Table) : warnings (pruned root) = [] := by
  have hnone : unknown (pruned root) = [] := by
    simp only [unknown, List.flatMap_eq_nil_iff, List.map_eq_nil_iff, List.filter_eq_nil_iff]
    intro p _ key hkey
    simpa using known_of_mem_keys_pruned hkey
  have hperm := warnings_perm (pruned root)
  rw [hnone] at hperm
  exact hperm.eq_nil

/-! ## Each key has its own warning -/

/-- A section that has an entry is a table of the document. -/
theorem mem_of_mem_under {heading : String} {root : Table} {e : String × Value} (h : e ∈ under heading root) :
    (heading, Value.table (under heading root)) ∈ root := by
  unfold under at h ⊢
  split at h
  · rename_i t ht
    obtain ⟨front, rest, hroot, -⟩ := List.lookup_eq_some_iff.mp ht
    rw [hroot]
    exact List.mem_append_right _ List.mem_cons_self
  · cases h

theorem under_keys_nodup {root : Table} (h : (Value.table root).Distinct) (heading : String) :
    ((under heading root).map (·.1)).Nodup := by
  cases hunder : under heading root with
  | nil => exact List.nodup_nil
  | cons e es =>
    have hmem : e ∈ under heading root := by simp [hunder]
    rw [← hunder]
    cases h with
    | table _ hvalues =>
      cases hvalues _ (mem_of_mem_under hmem) with
      | table hkeys _ => exact hkeys

theorem keys_nodup {root : Table} (h : (Value.table root).Distinct) (p : Place) : (p.keys root).Nodup := by
  cases p with
  | top =>
    cases h with
    | table hkeys _ => exact hkeys
  | rules => exact under_keys_nodup h "rules"
  | classify => exact under_keys_nodup h "classify"

theorem unknown_nodup {root : Table} (h : (Value.table root).Distinct) : (unknown root).Nodup := by
  rw [unknown, List.nodup_flatMap]
  constructor
  · intro p _
    exact ((keys_nodup h p).filter _).map fun _ _ heq => congrArg Prod.snd heq
  · have hplaces : [Place.top, .rules, .classify].Nodup := by decide
    refine hplaces.imp fun hne => ?_
    intro u hu hu'
    obtain ⟨_, _, rfl⟩ := List.mem_map.mp hu
    obtain ⟨_, _, heq⟩ := List.mem_map.mp hu'
    exact hne (congrArg Prod.fst heq).symm

/-! ## Known keys are looked at -/

theorem readEntry_spoiled {key : String} {v : Value} (h : Spoils .top key v) (hkey : key ∈ knownKeys)
    (s : Settings) : ∃ m, fields.readEntry s (key, v) = .error m := by
  cases h with
  | string text => exact ⟨_, rfl⟩
  | integer n hother =>
    simp only [knownKeys, List.mem_cons, List.not_mem_nil, or_false] at hkey
    rcases hkey with rfl | rfl | rfl | rfl | rfl | rfl
    -- an integer is what `concurrency` wants, so that key is left to the other case
    case inr.inr.inr.inl => exact absurd ⟨rfl, rfl⟩ hother
    all_goals exact ⟨_, rfl⟩

theorem readEntry_rules_integer {key : String} (hkey : key ∈ knownRulesKeys) (n : Int) (s : RuleSettings) :
    ∃ m, rulesFields.readEntry s (key, .integer n) = .error m := by
  simp only [knownRulesKeys, List.mem_cons, List.not_mem_nil, or_false] at hkey
  rcases hkey with rfl | rfl | rfl | rfl | rfl <;> exact ⟨_, rfl⟩

theorem readEntry_classify_integer {key : String} (hkey : key ∈ knownClassifyKeys) (n : Int) (g : ClassGlobs) :
    ∃ m, classFields.readEntry g (key, .integer n) = .error m := by
  simp only [knownClassifyKeys, List.mem_cons, List.not_mem_nil, or_false] at hkey
  rcases hkey with rfl | rfl | rfl <;> exact ⟨_, rfl⟩

theorem mem_replaced {key : String} {t : Table} (h : key ∈ t.map (·.1)) (v : Value) :
    (key, v) ∈ t.map fun e => if e.1 = key then (key, v) else e := by
  obtain ⟨e, he, rfl⟩ := List.mem_map.mp h
  exact List.mem_map.mpr ⟨e, he, if_pos rfl⟩

theorem mem_editIn {heading : String} {t root : Table} (h : (heading, Value.table t) ∈ root)
    (change : Table → Table) : (heading, Value.table (change t)) ∈ editIn heading change root :=
  List.mem_map.mpr ⟨_, h, if_pos rfl⟩

/-- A section is not read if one of its entries cannot be. -/
theorem ofTable_editIn_error {σ : Type} {f : Fields σ} {init : σ} {put : Settings → σ × Bool → Settings}
    {heading key : String} {v : Value} {root : Table}
    (hentry : ∀ s v, fields.readEntry s (heading, v) = f.ofValue init v >>= fun r => .ok (put s r))
    (hfails : ∀ s, ∃ m, f.readEntry s (key, v) = .error m) (hkey : key ∈ (under heading root).map (·.1)) :
    ∃ m, ofTable (editIn heading (·.map fun e => if e.1 = key then (key, v) else e) root) = .error m := by
  obtain ⟨e, he, _⟩ := List.mem_map.mp hkey
  refine Fields.read_error_of_mem (fun s => ?_) (mem_editIn (mem_of_mem_under he) _) _
  obtain ⟨m, hm⟩ := Fields.read_error_of_mem hfails (mem_replaced hkey v) init
  exact ⟨m, by rw [hentry, ofValue_table, hm]; rfl⟩

/-- A known key is looked at, in whichever table it is. -/
theorem ofTable_replace_error {p : Place} {key : String} {v : Value} {root : Table} (hspoils : Spoils p key v)
    (hkey : key ∈ p.keys root) (hknown : key ∈ p.known) : ∃ m, ofTable (p.replace key v root) = .error m := by
  cases p with
  | top => exact Fields.read_error_of_mem (readEntry_spoiled hspoils hknown) (mem_replaced hkey v) _
  | rules =>
    cases hspoils with
    | integer n _ => exact ofTable_editIn_error readEntry_rules (readEntry_rules_integer hknown n) hkey
  | classify =>
    cases hspoils with
    | integer n _ => exact ofTable_editIn_error readEntry_classify (readEntry_classify_integer hknown n) hkey

/-! ## Loading -/

theorem loadTable_eq_ok {path : Path} {root : Table} {loaded : Loaded} (h : loadTable path root = .ok loaded) :
    ∃ s, ofTable root = .ok s ∧ loaded = ⟨s.rebase path, warnings root⟩ := by
  unfold loadTable at h
  split at h
  · cases h
  · rename_i s hs
    exact ⟨s, hs, (Except.ok.inj h).symm⟩

/-- The keys of a settings file that are warned about are those that do nothing. Each has one warning, and
without them the file gives the same settings and no warning; any other key is looked at, so that a file with
a wrong value there is not loaded. -/
theorem load_warnings_inert {fs : FileSystem} {path : Path} {loaded : Loaded} (h : load fs path = .ok loaded) :
    ∃ root, Holds fs path root ∧
      (∀ fs' root', Holds fs' path root' → load fs' path = loadTable path root') ∧
      ((unknown root).Nodup ∧ loaded.warnings.Nodup ∧
        loaded.warnings.Perm ((unknown root).map fun u => u.1.warning u.2)) ∧
      loadTable path (pruned root) = .ok ⟨loaded.settings, []⟩ ∧
      ∀ p key, key ∈ p.keys root → p.warning key ∉ loaded.warnings →
        ∀ v, Spoils p key v → ∃ m, loadTable path (p.replace key v root) = .error (.misfit path m) := by
  obtain ⟨root, hroot⟩ := exists_holds h
  obtain ⟨s, hs, rfl⟩ := loadTable_eq_ok ((load_eq_loadTable hroot).symm.trans h)
  have hunknown : (unknown root).Nodup := by
    obtain ⟨source, _, hparse⟩ := hroot
    exact unknown_nodup (distinct_of_parse? hparse)
  refine ⟨root, hroot, fun _ _ => load_eq_loadTable, ⟨hunknown, ?_, warnings_perm root⟩, ?_, ?_⟩
  · exact (warnings_perm root).nodup_iff.mpr (hunknown.map warning_injective)
  · simp only [loadTable, ofTable_pruned, hs, warnings_pruned]
  · intro p key hkey hsilent v hspoils
    have hknown : key ∈ p.known := by
      by_contra hnot
      exact hsilent (warning_mem_iff.mpr ⟨hkey, hnot⟩)
    obtain ⟨m, hm⟩ := ofTable_replace_error hspoils hkey hknown
    exact ⟨m, by simp only [loadTable, hm]⟩

/-- The rule that a document disables, if it does nothing else. -/
def disabledOnly? : Table → Option String
  | [("rules", .table [("disabled", .array [.string id])])] => some id
  | _ => none

theorem eq_of_disabledOnly? {root : Table} {id : String} (h : disabledOnly? root = some id) :
    root = [("rules", .table [("disabled", .array [.string id])])] := by
  unfold disabledOnly? at h
  split at h
  · cases h
    rfl
  · cases h

/-- An unknown key at the top and one under `rules`, where there is also a known one. The file without them
holds the pruned document, and is loaded without a warning. -/
theorem load_warnings_inert_two :
    let fileOf (source : String) : FileSystem :=
      ⟨.directory [(Text.ofString "glint.toml", .file source.toUTF8)], []⟩
    let fs := fileOf "foo = 1\n[rules]\ndisabled = [\"a\"]\nbar = 2\n"
    let without := fileOf "[rules]\ndisabled = [\"a\"]\n"
    let found : Settings := { Settings.unset with rules := { RuleSettings.unset with disabled := ["a"] } }
    let told := ["Unknown config option: 'foo'", "Unknown config option in [rules]: 'bar'"]
    load fs fileName = .ok ⟨found, told⟩ ∧
      ∃ root, Holds fs fileName root ∧ told.Perm ((unknown root).map fun u => u.1.warning u.2) ∧
        loadTable fileName (pruned root) = .ok ⟨found, []⟩ ∧
        Holds without fileName (pruned root) ∧ load without fileName = .ok ⟨found, []⟩ := by
  intro fileOf fs without found told
  have hload : load fs fileName = .ok ⟨found, told⟩ := by
    have hpair : (load fs fileName).toOption.map (fun l => (l.settings, l.warnings)) = some (found, told) := by
      decide +kernel
    obtain ⟨l, hl, heq⟩ := Option.map_eq_some_iff.mp hpair
    obtain ⟨hsettings, hwarnings⟩ := Prod.mk.inj heq
    rw [eq_ok_of_toOption hl, ← hsettings, ← hwarnings]
  obtain ⟨root, hroot, hbridge, ⟨_, _, hperm⟩, hpruned, _⟩ := load_warnings_inert hload
  have hremains : pruned root = [("rules", .table [("disabled", .array [.string "a"])])] := by
    obtain ⟨source, hread, hparse⟩ := hroot
    have hsource : (fs.readText fileName).toOption.bind (fun t => (parse? t).bind (disabledOnly? ∘ pruned)) =
        some "a" := by decide +kernel
    rw [hread] at hsource
    simp only [Except.toOption, Option.bind_some, hparse, Function.comp_apply] at hsource
    exact eq_of_disabledOnly? hsource
  have hwithout : Holds without fileName (pruned root) := by
    have hread : without.readText fileName = .ok (Text.ofString "[rules]\ndisabled = [\"a\"]\n") := by
      decide +kernel
    have hparse : (parse? (Text.ofString "[rules]\ndisabled = [\"a\"]\n")).bind disabledOnly? = some "a" := by
      decide +kernel
    obtain ⟨document, hdocument, honly⟩ := Option.bind_eq_some_iff.mp hparse
    rw [hremains, ← eq_of_disabledOnly? honly]
    exact ⟨_, hread, hdocument⟩
  exact ⟨hload, root, hroot, hperm, hpruned, hwithout, (hbridge _ _ hwithout).trans hpruned⟩

end Settings

end FrontLint
