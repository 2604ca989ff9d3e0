/-
  FrontLint.Proofs.Validator.Address — which addresses the validator of local addresses vetoes.

  It is meant for addresses whose host is one of the names under which a machine reaches itself. The
  validator does not look for the host. It looks for two slashes with such a name behind them, anywhere in
  the text, and does not ask what comes next. Proved:
  - `infix_address_iff`: two slashes with a text behind them stand in an address where its host starts, or
    behind the host.
  - `prefix_host_iff`: what the text before a delimiter starts with does not reach over the delimiter.
  - `address_vetoed_iff`: so an address is vetoed iff its host is local, or starts with a local name and goes
    on, or such a name stands behind two slashes after the host.
  - `remote_addresses_vetoed`: two addresses that are vetoed and are not local.
-/

import FrontLint.Proofs.Validator.Argument

namespace FrontLint

open FrontLint.Text

/-! ## Lower case -/

/-- What is no letter is in lower case only what it was. -/
theorem Text.toLower_eq_iff {c d : Char} (hd : d.isAlpha = false) : c.toLower = d ↔ c = d := by
  have hbounds : (d.toNat < 65 ∨ 90 < d.toNat) ∧ (d.toNat < 97 ∨ 122 < d.toNat) := by
    have hletters : (decide (d.val ≥ 65 ∧ d.val ≤ 90) || (d.val ≥ 97 && d.val ≤ 122)) = false := hd
    simp [UInt32.le_iff_toNat_le] at hletters
    omega
  unfold Char.toLower
  split
  · rename_i hupper
    have hc : 65 ≤ c.toNat ∧ c.toNat ≤ 90 := by
      simpa [UInt32.le_iff_toNat_le] using hupper
    constructor
    · intro h
      have hval : (c.toNat + 32) % 2 ^ 32 = d.toNat := by
        rw [← h]
        exact (UInt32.toNat_add c.val 32).symm
      omega
    · intro h
      subst h
      omega
  · exact Iff.rfl

theorem Text.mem_asciiLower {d : Char} (hd : d.isAlpha = false) {t : Text} : d ∈ asciiLower t ↔ d ∈ t := by
  simp [asciiLower, toLower_eq_iff hd]

namespace Validator

/-! ## Addresses -/

/-- Whether a bracket is open behind a text. -/
def bracketed (t : Text) : Bool :=
  t.foldl (fun inside c => if c = '[' then true else if c = ']' then false else inside) false

/-- An address as it is matched: perhaps a quote, the scheme, the host, and what follows that. -/
structure Address where
  quote : Option Char
  scheme : Text
  host : Text
  rest : Text

namespace Address

def text (a : Address) : Text := a.quote.toList ++ (a.scheme ++ (a.host ++ a.rest))

/-- A character that a host may have; a colon stands in brackets only. -/
def isHostChar (c : Char) : Bool :=
  !(c == '"' || c == '\'' || c == '`') && !isBlank c && !(c == '/' || c == '?' || c == '#' || c == '@')

/-- The host is not empty, and ends with the text or before a character that ends it. -/
structure WellFormed (a : Address) : Prop where
  quote : ∀ q ∈ a.quote, IsQuote q
  scheme : asciiLower a.scheme = ofString "http://"
  host_ne_nil : a.host ≠ []
  host : a.host.all isHostChar = true
  colon : ∀ n, a.host[n]? = some ':' → bracketed (a.host.take n) = true
  rest : ∀ c ∈ a.rest.head?, c = '/' ∨ c = '?' ∨ c = '#' ∨ c = ':' ∧ bracketed a.host = false

/-- The host is a name under which a machine reaches itself. -/
def IsLocal (a : Address) : Prop := asciiLower a.host ∈ localHosts

/-- The host starts with a local name and goes on. -/
def StartsLocal (a : Address) : Prop :=
  ∃ name ∈ localHosts, ∃ more, more ≠ [] ∧ asciiLower a.host = name ++ more

/-- A local name stands behind two slashes after the host. -/
def HoldsLocal (a : Address) : Prop := ∃ name ∈ localHosts, '/' :: '/' :: name <:+: asciiLower a.rest

end Address

/-! ## Where two slashes stand -/

theorem infix_append_iff_of_not_mem {s t part : Text} (h : '/' ∉ s) :
    '/' :: part <:+: s ++ t ↔ '/' :: part <:+: t := by
  induction s with
  | nil => exact Iff.rfl
  | cons c s ih =>
    have hc : '/' ≠ c := by
      intro heq
      exact h (heq ▸ List.mem_cons_self)
    have hs : '/' ∉ s := fun hmem => h (List.mem_cons_of_mem c hmem)
    have hstart : ¬ '/' :: part <+: c :: (s ++ t) := fun hprefix => hc (List.cons_prefix_cons.mp hprefix).1
    rw [List.cons_append, List.infix_cons_iff, or_iff_right hstart, ih hs]

theorem infix_address_iff {lead host rest name : Text} (hlead : '/' ∉ lead) (hhost : '/' ∉ host) (hne : host ≠ []) :
    '/' :: '/' :: name <:+: lead ++ '/' :: '/' :: (host ++ rest) ↔
      name <+: host ++ rest ∨ '/' :: '/' :: name <:+: rest := by
  have hsecond : ¬ '/' :: '/' :: name <+: '/' :: (host ++ rest) := by
    intro h
    cases host with
    | nil => exact hne rfl
    | cons c host =>
      have hc : '/' = c := (List.cons_prefix_cons.mp (List.cons_prefix_cons.mp h).2).1
      exact hhost (hc ▸ List.mem_cons_self)
  rw [infix_append_iff_of_not_mem hlead, List.infix_cons_iff, List.infix_cons_iff, or_iff_right hsecond,
    infix_append_iff_of_not_mem hhost, List.cons_prefix_cons, List.cons_prefix_cons]
  simp

/-! ## Where the host ends -/

theorem bracketed_asciiLower (t : Text) : bracketed (asciiLower t) = bracketed t := by
  unfold bracketed asciiLower
  rw [List.foldl_map]
  simp only [toLower_eq_iff (show '['.isAlpha = false by decide), toLower_eq_iff (show ']'.isAlpha = false by decide)]

/-- A local name has no character that ends a host; its colons stand in brackets. -/
theorem local_name_delimiters {name front back : Text} {c : Char} (hname : name ∈ localHosts)
    (heq : name = front ++ c :: back) : c ≠ '/' ∧ c ≠ '?' ∧ c ≠ '#' ∧ (c = ':' → bracketed front = true) := by
  have hall : localHosts.all (fun name => (List.range name.length).all fun n =>
      (name.drop n).head?.all fun c => c != '/' && c != '?' && c != '#' && (c != ':' || bracketed (name.take n))) =
      true := by
    decide
  have hhere := List.all_eq_true.mp (List.all_eq_true.mp hall name hname) front.length (by simp [heq])
  rw [heq] at hhere
  simpa [imp_iff_not_or, and_assoc] using hhere

/-- A local name that stands at the start of the host and what follows it does not reach over the host's end. -/
theorem prefix_host_iff {a : Address} (h : a.WellFormed) {name : Text} (hname : name ∈ localHosts) :
    name <+: asciiLower a.host ++ asciiLower a.rest ↔ name <+: asciiLower a.host := by
  constructor
  · intro hprefix
    rcases List.prefix_or_prefix_of_prefix hprefix (List.prefix_append _ _) with hwithin | ⟨more, rfl⟩
    · exact hwithin
    cases more with
    | nil => simp
    | cons c more =>
      -- The name would hold the character that ends the host.
      obtain ⟨hslash, hquery, hfragment, hcolon⟩ := local_name_delimiters hname rfl
      have hhead : c ∈ (asciiLower a.rest).head? := by
        obtain ⟨back, hback⟩ := (List.prefix_append_right_inj _).mp hprefix
        rw [← hback]
        rfl
      obtain ⟨d, hd, rfl⟩ : ∃ d ∈ a.rest.head?, d.toLower = c := by simpa [asciiLower] using hhead
      rcases h.rest d hd with rfl | rfl | rfl | ⟨rfl, hclosed⟩
      · exact absurd (by decide) hslash
      · exact absurd (by decide) hquery
      · exact absurd (by decide) hfragment
      · rw [bracketed_asciiLower, hclosed] at hcolon
        exact absurd (hcolon (by decide)) (by decide)
  · intro hprefix
    exact hprefix.trans (List.prefix_append _ _)

/-! ## Vetoes -/

theorem notLocalhostUrl_eq_false {matched : Text} :
    notLocalhostUrl matched = false ↔ ∃ name ∈ localHosts, '/' :: '/' :: name <:+: asciiLower matched := by
  unfold notLocalhostUrl
  simp only [Bool.not_eq_false', List.any_eq_true, contains_iff]

/-- The text of an address, in lower case, cut before the two slashes of its scheme. -/
theorem exists_asciiLower_text {a : Address} (h : a.WellFormed) :
    ∃ lead, '/' ∉ lead ∧
      asciiLower a.text = lead ++ '/' :: '/' :: (asciiLower a.host ++ asciiLower a.rest) := by
  refine ⟨asciiLower a.quote.toList ++ ofString "http:", ?_, ?_⟩
  · intro hmem
    rcases List.mem_append.mp hmem with hmem | hmem
    · have hquote : IsQuote '/' := h.quote '/' (by simpa [mem_asciiLower (show '/'.isAlpha = false by decide)] using hmem)
      simp [IsQuote] at hquote
    · exact absurd hmem (by decide)
  · have hscheme : ofString "http://" = ofString "http:" ++ ['/', '/'] := by decide
    have hparts : asciiLower a.text =
        asciiLower a.quote.toList ++ (asciiLower a.scheme ++ (asciiLower a.host ++ asciiLower a.rest)) := by
      simp [Address.text, asciiLower]
    rw [hparts, h.scheme, hscheme]
    simp

/-- An address is vetoed iff its host is local, or starts with a local name and goes on, or such a name stands
behind two slashes after the host. -/
theorem address_vetoed_iff {a : Address} (h : a.WellFormed) :
    notLocalhostUrl a.text = false ↔ a.IsLocal ∨ a.StartsLocal ∨ a.HoldsLocal := by
  have hhost : '/' ∉ asciiLower a.host := by
    rw [mem_asciiLower (by decide)]
    intro hmem
    exact absurd (List.all_eq_true.mp h.host '/' hmem) (by decide)
  have hne : asciiLower a.host ≠ [] := by simpa [asciiLower] using h.host_ne_nil
  obtain ⟨lead, hlead, htext⟩ := exists_asciiLower_text h
  have hplaces : notLocalhostUrl a.text = false ↔
      ∃ name ∈ localHosts, name <+: asciiLower a.host ∨ '/' :: '/' :: name <:+: asciiLower a.rest := by
    rw [notLocalhostUrl_eq_false, htext]
    refine exists_congr fun name => and_congr_right fun hname => ?_
    rw [infix_address_iff hlead hhost hne, prefix_host_iff h hname]
  rw [hplaces]
  constructor
  · intro ⟨name, hname, hplace⟩
    rcases hplace with ⟨more, hmore⟩ | hrest
    · by_cases hnil : more = []
      · left
        show asciiLower a.host ∈ localHosts
        rw [← hmore, hnil, List.append_nil]
        exact hname
      · exact .inr (.inl ⟨name, hname, more, hnil, hmore.symm⟩)
    · exact .inr (.inr ⟨name, hname, hrest⟩)
  · intro hveto
    rcases hveto with hlocal | ⟨name, hname, more, -, hmore⟩ | ⟨name, hname, hrest⟩
    · exact ⟨_, hlocal, .inl (List.prefix_refl _)⟩
    · exact ⟨name, hname, .inl ⟨more, hmore.symm⟩⟩
    · exact ⟨name, hname, .inr hrest⟩

/-- A host in brackets, with a port behind it. -/
theorem address_vetoed_iff_bracketed :
    let a : Address := ⟨some '"', ofString "HTTP://", ofString "[::1]", ofString ":80/"⟩
    a.WellFormed ∧ notLocalhostUrl (ofString "\"HTTP://[::1]:80/") = false := by
  intro a
  have hcolon : ∀ n < 5, a.host[n]? = some ':' → bracketed (a.host.take n) = true := by decide
  have hwell : a.WellFormed := by
    refine ⟨by simp [a, IsQuote], by decide, by decide, by decide, ?_, by simp [a, ofString]; decide⟩
    intro n hn
    exact hcolon n (List.getElem?_eq_some_iff.mp hn).1 hn
  have hlocal : a.IsLocal := by
    show asciiLower a.host ∈ localHosts
    decide
  exact ⟨hwell, (address_vetoed_iff hwell).mpr (.inl hlocal)⟩

theorem Address.colon_of_not_mem {a : Address} (h : ':' ∉ a.host) (n : Nat) (hn : a.host[n]? = some ':') :
    bracketed (a.host.take n) = true :=
  absurd (List.mem_of_getElem? hn) h

/-- A remote host whose name starts as a local one, and a remote host with a local one named behind it. -/
theorem remote_addresses_vetoed :
    (∃ a : Address, a.WellFormed ∧ a.text = ofString "\"http://localhost.example.com/x" ∧ ¬ a.IsLocal ∧
      notLocalhostUrl a.text = false) ∧
    ∃ a : Address, a.WellFormed ∧ a.text = ofString "http://example.com/?to=//127.0.0.1" ∧ ¬ a.IsLocal ∧
      notLocalhostUrl a.text = false := by
  constructor
  · refine ⟨⟨some '"', ofString "http://", ofString "localhost.example.com", ofString "/x"⟩, ?_, by decide, ?_, by decide⟩
    · exact ⟨by simp [IsQuote], by decide, by decide, by decide, Address.colon_of_not_mem (by decide), by simp [ofString]⟩
    · show ¬ asciiLower _ ∈ localHosts
      decide
  · refine ⟨⟨none, ofString "http://", ofString "example.com", ofString "/?to=//127.0.0.1"⟩, ?_, by decide, ?_, by decide⟩
    · exact ⟨by simp, by decide, by decide, by decide, Address.colon_of_not_mem (by decide), by simp [ofString]⟩
    · show ¬ asciiLower _ ∈ localHosts
      decide

end Validator

end FrontLint
