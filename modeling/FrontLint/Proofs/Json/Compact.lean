/-
  FrontLint.Proofs.Json.Compact — the form of a JSON value on one line can be read in one way only.

  A quoted text ends at its first bare quote, a number with its last digit, a list and an object at the
  bracket that closes them. So a value with more text behind it fixes both, as long as that text does not
  go on with digits (`Delimited`). Proved:
  - `unescape?_escapedChar`: an escaped character is read back.
  - `quote_append_inj` / `decimal_append_inj`: quoted texts and numbers with what follows them.
  - `members_inj`: members between brackets, if each is delimited.
  - `delimited`: every value is, by induction on it; so `compact_injective`.
  - `newline_not_mem_compact`: the form on one line is on one line.
-/

import FrontLint.JsonValue
import FrontLint.Text.Hex
import Mathlib.Data.List.Basic

namespace FrontLint

namespace JsonValue

/-! ## Quoted texts -/

/-- The character that an escape with one letter stands for. -/
def escapedBy : Char → Char
  | 'b' => '\x08'
  | 't' => '\t'
  | 'n' => '\n'
  | 'f' => '\x0C'
  | 'r' => '\r'
  | c => c

/-- The first character of a text in which characters are escaped, and what follows it. -/
def unescape? : Text → Option (Char × Text)
  | [] => none
  | '\\' :: 'u' :: _ :: _ :: a :: b :: rest => (Text.scalar? [a, b]).map (·, rest)
  | '\\' :: c :: rest => some (escapedBy c, rest)
  | c :: rest => some (c, rest)

theorem scalar?_control : ∀ n < 0x20,
    Text.scalar? [Nat.digitChar (n / 16), Nat.digitChar (n % 16)] = some (Char.ofNat n) := by
  decide

theorem unescape?_escapedChar (c : Char) (x : Text) : unescape? (escapedChar c ++ x) = some (c, x) := by
  unfold escapedChar
  split
  · rfl
  · rfl
  · rfl
  · rfl
  · rfl
  · rfl
  · rfl
  · split
    · rename_i hcontrol
      simp only [List.cons_append, List.nil_append, unescape?, scalar?_control c.toNat hcontrol, Option.map_some,
        Char.ofNat_toNat]
    · rename_i hback _ _ _ _ _ _
      simp only [List.cons_append, List.nil_append]
      unfold unescape?
      split <;> simp_all

theorem space_le_digitChar : ∀ n < 16, 0x20 ≤ (Nat.digitChar n).toNat := by decide

/-- A character is kept, or a backslash and printing characters stand for it. -/
theorem escapedChar_cases (c : Char) :
    (escapedChar c = [c] ∧ c ≠ '"' ∧ 0x20 ≤ c.toNat) ∨
      ∃ t, escapedChar c = '\\' :: t ∧ ∀ d ∈ t, 0x20 ≤ d.toNat := by
  unfold escapedChar
  split
  case h_8 =>
    split
    · have hhigh := space_le_digitChar (c.toNat / 16) (by omega)
      have hlow := space_le_digitChar (c.toNat % 16) (by omega)
      exact Or.inr ⟨_, rfl, by simp [hhigh, hlow]⟩
    · rename_i hquote _ _ _ _ _ _ hcontrol
      exact Or.inl ⟨rfl, hquote, by omega⟩
  all_goals exact Or.inr ⟨_, rfl, by simp⟩

theorem quoted_append_inj {s t x y : Text}
    (h : s.flatMap escapedChar ++ '"' :: x = t.flatMap escapedChar ++ '"' :: y) : s = t ∧ x = y := by
  have hquote : ∀ c u z, '"' :: z ≠ escapedChar c ++ u := by
    intro c u z hz
    rcases escapedChar_cases c with ⟨hc, hne, -⟩ | ⟨v, hc, -⟩
    · rw [hc] at hz
      exact hne (List.cons.inj hz).1.symm
    · rw [hc] at hz
      exact absurd (List.cons.inj hz).1 (by decide)
  induction s generalizing t with
  | nil =>
    cases t with
    | nil => exact ⟨rfl, (List.cons.inj h).2⟩
    | cons d t =>
      rw [List.flatMap_cons, List.append_assoc] at h
      exact absurd h (hquote d _ x)
  | cons c s ih =>
    rw [List.flatMap_cons, List.append_assoc] at h
    cases t with
    | nil => exact absurd h.symm (hquote c _ y)
    | cons d t =>
      rw [List.flatMap_cons, List.append_assoc] at h
      have hread := congrArg unescape? h
      rw [unescape?_escapedChar, unescape?_escapedChar] at hread
      obtain ⟨rfl, hrest⟩ := Prod.mk.inj (Option.some.inj hread)
      obtain ⟨rfl, rfl⟩ := ih hrest
      exact ⟨rfl, rfl⟩

theorem quote_append_inj {s t x y : Text} (h : quote s ++ x = quote t ++ y) : s = t ∧ x = y := by
  simp only [quote, List.cons_append, List.append_assoc] at h
  exact quoted_append_inj (List.cons.inj h).2

/-! ## Numbers -/

/-- A text that does not go on with a digit. -/
def Stops (x : Text) : Prop := ∀ c t, x = c :: t → c.isDigit = false

theorem stops_cons {c : Char} (hc : c.isDigit = false) (t : Text) : Stops (c :: t) := by
  intro d u hd
  rw [← (List.cons.inj hd).1]
  exact hc

theorem takeWhile_decimal {x : Text} (hx : Stops x) (n : Nat) :
    (Text.decimal n ++ x).takeWhile Char.isDigit = Text.decimal n := by
  have hdigits : ∀ c ∈ Text.decimal n, c.isDigit = true :=
    fun c hc => Nat.isDigit_of_mem_toDigits (by decide) (by decide) hc
  rw [List.takeWhile_append_of_pos hdigits]
  cases x with
  | nil => simp
  | cons c t => simp [hx c t rfl]

theorem decimal_append_inj {m n : Nat} {x y : Text} (hx : Stops x) (hy : Stops y)
    (h : Text.decimal m ++ x = Text.decimal n ++ y) : m = n ∧ x = y := by
  have hdigits := congrArg (List.takeWhile Char.isDigit) h
  rw [takeWhile_decimal hx, takeWhile_decimal hy] at hdigits
  refine ⟨?_, ?_⟩
  · rw [← Nat.ofDigitChars_ten_toDigits (n := m), ← Nat.ofDigitChars_ten_toDigits (n := n)]
    exact congrArg _ hdigits
  · rw [hdigits] at h
    exact List.append_cancel_left h

/-! ## Members between brackets -/

section Members

variable {α : Type} {write : α → Text}

/-- The written form of `a` with a text behind it that does not go on with a digit fixes both. -/
def Delimited (write : α → Text) (a : α) : Prop :=
  ∀ b x y, Stops x → Stops y → write a ++ x = write b ++ y → a = b ∧ x = y

theorem intercalate_cons (l : Text) (ls : List Text) :
    [','].intercalate (l :: ls) = l ++ ls.flatMap (',' :: ·) := by
  induction ls generalizing l with
  | nil => simp
  | cons k ls ih => rw [List.intercalate_cons_cons, ih, List.flatMap_cons, List.append_assoc]; rfl

theorem stops_members {closing : Char} (hclosing : closing.isDigit = false) (ls : List Text) (x : Text) :
    Stops (ls.flatMap (',' :: ·) ++ closing :: x) := by
  cases ls with
  | nil => exact stops_cons hclosing x
  | cons l ls => exact stops_cons (by decide) _

/-- The members behind the first. -/
theorem laterMembers_inj {closing : Char} (hclosing : closing.isDigit = false) (hcomma : closing ≠ ',')
    {as bs : List α} (has : ∀ a ∈ as, Delimited write a) {x y : Text}
    (h : (as.map write).flatMap (',' :: ·) ++ closing :: x = (bs.map write).flatMap (',' :: ·) ++ closing :: y) :
    as = bs ∧ x = y := by
  induction as generalizing bs with
  | nil =>
    cases bs with
    | nil => exact ⟨rfl, (List.cons.inj h).2⟩
    | cons b bs => exact absurd (List.cons.inj h).1 hcomma
  | cons a as ih =>
    cases bs with
    | nil => exact absurd (List.cons.inj h).1.symm hcomma
    | cons b bs =>
      simp only [List.map_cons, List.flatMap_cons, List.cons_append, List.append_assoc, List.cons.injEq,
        true_and] at h
      obtain ⟨rfl, hrest⟩ := has a List.mem_cons_self b _ _ (stops_members hclosing _ _)
        (stops_members hclosing _ _) h
      obtain ⟨rfl, rfl⟩ := ih (fun a' ha' => has a' (List.mem_cons_of_mem a ha')) hrest
      exact ⟨rfl, rfl⟩

/-- Members with commas between them, up to a bracket that none of them starts with. -/
theorem members_inj {closing : Char} (hclosing : closing.isDigit = false) (hcomma : closing ≠ ',')
    (hstart : ∀ a, ∃ c t, write a = c :: t ∧ c ≠ closing) {as bs : List α} (has : ∀ a ∈ as, Delimited write a)
    {x y : Text}
    (h : [','].intercalate (as.map write) ++ closing :: x = [','].intercalate (bs.map write) ++ closing :: y) :
    as = bs ∧ x = y := by
  have hopen : ∀ a u z, closing :: z ≠ write a ++ u := by
    intro a u z hz
    obtain ⟨c, t, hc, hne⟩ := hstart a
    rw [hc] at hz
    exact hne (List.cons.inj hz).1.symm
  cases as with
  | nil =>
    cases bs with
    | nil => exact ⟨rfl, (List.cons.inj h).2⟩
    | cons b bs =>
      rw [List.map_cons, intercalate_cons, List.append_assoc] at h
      exact absurd h (hopen b _ x)
  | cons a as =>
    rw [List.map_cons, intercalate_cons, List.append_assoc] at h
    cases bs with
    | nil => exact absurd h.symm (hopen a _ y)
    | cons b bs =>
      rw [List.map_cons, intercalate_cons, List.append_assoc] at h
      obtain ⟨rfl, hrest⟩ := has a List.mem_cons_self b _ _ (stops_members hclosing _ _)
        (stops_members hclosing _ _) h
      obtain ⟨rfl, rfl⟩ := laterMembers_inj hclosing hcomma (fun a' ha' => has a' (List.mem_cons_of_mem a ha')) hrest
      exact ⟨rfl, rfl⟩

theorem mem_intercalate {c : Char} {ls : List Text} (h : c ∈ [','].intercalate ls) : c = ',' ∨ ∃ l ∈ ls, c ∈ l := by
  cases ls with
  | nil => simp at h
  | cons l ls =>
    rw [intercalate_cons, List.mem_append, List.mem_flatMap] at h
    rcases h with h | ⟨k, hk, h⟩
    · exact Or.inr ⟨l, List.mem_cons_self, h⟩
    · rcases List.mem_cons.mp h with rfl | h
      · exact Or.inl rfl
      · exact Or.inr ⟨k, List.mem_cons_of_mem l hk, h⟩

end Members

/-! ## Values -/

/-- A field of an object as it is written. -/
def compactField (f : String × JsonValue) : Text := quote f.1.toList ++ ':' :: f.2.compact

theorem compactItems_eq (items : List JsonValue) : compactItems items = items.map compact := by
  induction items with
  | nil => rfl
  | cons v rest ih => rw [compactItems, ih, List.map_cons]

theorem compactFields_eq (fields : List (String × JsonValue)) : compactFields fields = fields.map compactField := by
  induction fields with
  | nil => rfl
  | cons f rest ih =>
    obtain ⟨key, v⟩ := f
    rw [compactFields, ih, List.map_cons]
    rfl

/-- Which of the four a value is. -/
def shape : JsonValue → Nat
  | .string _ => 0
  | .number _ => 1
  | .list _ => 2
  | .object _ => 3

/-- Which of the four starts with a character. -/
def shapeOf (c : Char) : Option Nat :=
  if c = '"' then some 0 else if c.isDigit then some 1 else if c = '[' then some 2 else if c = '{' then some 3
  else none

/-- The first character tells what a value is. -/
theorem exists_compact_eq (v : JsonValue) : ∃ c t, v.compact = c :: t ∧ shapeOf c = some v.shape := by
  cases v with
  | string t => exact ⟨_, _, rfl, rfl⟩
  | number n =>
    obtain ⟨c, t, hc⟩ := List.exists_cons_of_ne_nil (Nat.toDigits_ne_nil (n := n) (b := 10))
    have hdigit : c.isDigit = true :=
      Nat.isDigit_of_mem_toDigits (by decide) (by decide) (hc ▸ List.mem_cons_self : c ∈ Nat.toDigits 10 n)
    have hquote : c ≠ '"' := by
      rintro rfl
      simp at hdigit
    exact ⟨c, t, hc, by simp [shapeOf, shape, hquote, hdigit]⟩
  | list items => exact ⟨_, _, rfl, rfl⟩
  | object fields => exact ⟨_, _, rfl, rfl⟩

theorem shape_eq {v w : JsonValue} {x y : Text} (h : v.compact ++ x = w.compact ++ y) : v.shape = w.shape := by
  obtain ⟨c, t, hv, hc⟩ := exists_compact_eq v
  obtain ⟨d, u, hw, hd⟩ := exists_compact_eq w
  rw [hv, hw] at h
  rw [(List.cons.inj h).1, hd] at hc
  exact (Option.some.inj hc).symm

theorem string_delimited (t : Text) : Delimited compact (.string t) := by
  intro w x y _ _ h
  have hshape := shape_eq h
  cases w with
  | string u =>
    obtain ⟨rfl, rfl⟩ := quote_append_inj h
    exact ⟨rfl, rfl⟩
  | number _ => cases hshape
  | list _ => cases hshape
  | object _ => cases hshape

theorem number_delimited (n : Nat) : Delimited compact (.number n) := by
  intro w x y hx hy h
  have hshape := shape_eq h
  cases w with
  | string _ => cases hshape
  | number m =>
    obtain ⟨rfl, rfl⟩ := decimal_append_inj hx hy h
    exact ⟨rfl, rfl⟩
  | list _ => cases hshape
  | object _ => cases hshape

theorem list_delimited {items : List JsonValue} (hitems : ∀ v ∈ items, Delimited compact v) :
    Delimited compact (.list items) := by
  intro w x y _ _ h
  have hshape := shape_eq h
  cases w with
  | string _ => cases hshape
  | number _ => cases hshape
  | list items' =>
    have hstart : ∀ v : JsonValue, ∃ c t, v.compact = c :: t ∧ c ≠ ']' := by
      intro v
      obtain ⟨c, t, hc, hshape⟩ := exists_compact_eq v
      refine ⟨c, t, hc, ?_⟩
      rintro rfl
      cases hshape
    simp only [compact, compactItems_eq, List.cons_append, List.append_assoc, List.nil_append] at h
    obtain ⟨rfl, rfl⟩ := members_inj (by decide) (by decide) hstart hitems (List.cons.inj h).2
    exact ⟨rfl, rfl⟩
  | object _ => cases hshape

theorem object_delimited {fields : List (String × JsonValue)} (hfields : ∀ f ∈ fields, Delimited compactField f) :
    Delimited compact (.object fields) := by
  intro w x y _ _ h
  have hshape := shape_eq h
  cases w with
  | string _ => cases hshape
  | number _ => cases hshape
  | list _ => cases hshape
  | object fields' =>
    have hstart : ∀ f : String × JsonValue, ∃ c t, compactField f = c :: t ∧ c ≠ '}' :=
      fun f => ⟨'"', _, rfl, by decide⟩
    simp only [compact, compactFields_eq, List.cons_append, List.append_assoc, List.nil_append] at h
    obtain ⟨rfl, rfl⟩ := members_inj (by decide) (by decide) hstart hfields (List.cons.inj h).2
    exact ⟨rfl, rfl⟩

theorem field_delimited {v : JsonValue} (hv : Delimited compact v) (key : String) :
    Delimited compactField (key, v) := by
  intro f x y hx hy h
  obtain ⟨key', w⟩ := f
  simp only [compactField, List.append_assoc, List.cons_append] at h
  obtain ⟨hkey, hrest⟩ := quote_append_inj h
  obtain ⟨rfl, rfl⟩ := hv w x y hx hy (List.cons.inj hrest).2
  rw [String.toList_inj.mp hkey]
  exact ⟨rfl, rfl⟩

mutual

theorem delimited : (v : JsonValue) → Delimited compact v
  | .string t => string_delimited t
  | .number n => number_delimited n
  | .list items => list_delimited (items_delimited items)
  | .object fields => object_delimited (fields_delimited fields)

theorem items_delimited : (items : List JsonValue) → ∀ v ∈ items, Delimited compact v
  | [], _, h => absurd h List.not_mem_nil
  | v :: rest, w, h => by
    rcases List.mem_cons.mp h with hw | h
    · rw [hw]
      exact delimited v
    · exact items_delimited rest w h

theorem fields_delimited : (fields : List (String × JsonValue)) → ∀ f ∈ fields, Delimited compactField f
  | [], _, h => absurd h List.not_mem_nil
  | (key, v) :: rest, f, h => by
    rcases List.mem_cons.mp h with hf | h
    · rw [hf]
      exact field_delimited (delimited v) key
    · exact fields_delimited rest f h

end

theorem compact_injective {v w : JsonValue} (h : v.compact = w.compact) : v = w := by
  have hnil : Stops [] := by
    intro c t ht
    cases ht
  exact (delimited v w [] [] hnil hnil (by rw [h])).1

/-! ## One line -/

theorem space_le_of_mem_quote {t : Text} {c : Char} (h : c ∈ quote t) : 0x20 ≤ c.toNat := by
  simp only [quote, List.cons_append, List.mem_cons, List.mem_append, List.mem_flatMap, List.not_mem_nil, or_false] at h
  rcases h with rfl | ⟨d, -, h⟩ | rfl
  · decide
  · rcases escapedChar_cases d with ⟨hd, -, hspace⟩ | ⟨u, hd, hspace⟩
    · rw [hd, List.mem_singleton] at h
      rw [h]
      exact hspace
    · rw [hd] at h
      rcases List.mem_cons.mp h with rfl | h
      · decide
      · exact hspace c h
  · decide

theorem space_le_of_mem_enclosed {opening closing : Char} (hopening : 0x20 ≤ opening.toNat)
    (hclosing : 0x20 ≤ closing.toNat) {ls : List Text} (hls : ∀ l ∈ ls, ∀ c ∈ l, 0x20 ≤ c.toNat) :
    ∀ c ∈ opening :: [','].intercalate ls ++ [closing], 0x20 ≤ c.toNat := by
  intro c h
  simp only [List.cons_append, List.mem_cons, List.mem_append, List.not_mem_nil, or_false] at h
  rcases h with rfl | h | rfl
  · exact hopening
  · rcases mem_intercalate h with rfl | ⟨l, hl, hc⟩
    · decide
    · exact hls l hl c hc
  · exact hclosing

mutual

theorem space_le_of_mem_compact : (v : JsonValue) → ∀ c ∈ v.compact, 0x20 ≤ c.toNat
  | .string t => fun c h => space_le_of_mem_quote h
  | .number n => by
    intro c h
    have hdigit : c.isDigit = true := Nat.isDigit_of_mem_toDigits (by decide) (by decide) h
    simp only [Char.isDigit, Bool.and_eq_true, decide_eq_true_eq] at hdigit
    have hzero : 48 ≤ c.toNat := UInt32.le_iff_toNat_le.mp hdigit.1
    omega
  | .list items => space_le_of_mem_enclosed (by decide) (by decide) (space_le_of_mem_items items)
  | .object fields => space_le_of_mem_enclosed (by decide) (by decide) (space_le_of_mem_fields fields)

theorem space_le_of_mem_items : (items : List JsonValue) → ∀ l ∈ compactItems items, ∀ c ∈ l, 0x20 ≤ c.toNat
  | [], _, hl => absurd hl List.not_mem_nil
  | v :: rest, l, hl => by
    rcases List.mem_cons.mp hl with rfl | hl
    · exact space_le_of_mem_compact v
    · exact space_le_of_mem_items rest l hl

theorem space_le_of_mem_fields :
    (fields : List (String × JsonValue)) → ∀ l ∈ compactFields fields, ∀ c ∈ l, 0x20 ≤ c.toNat
  | [], _, hl => absurd hl List.not_mem_nil
  | (key, v) :: rest, l, hl => by
    rcases List.mem_cons.mp hl with rfl | hl
    · intro c hc
      rcases List.mem_append.mp hc with hc | hc
      · exact space_le_of_mem_quote hc
      · rcases List.mem_cons.mp hc with rfl | hc
        · decide
        · exact space_le_of_mem_compact v c hc
    · exact space_le_of_mem_fields rest l hl

end

theorem newline_not_mem_compact (v : JsonValue) : '\n' ∉ v.compact := by
  intro h
  exact absurd (space_le_of_mem_compact v '\n' h) (by decide)

end JsonValue

end FrontLint
