import Mathlib.Data.List.Forall2
import NetworkIntent.Proofs.Pointwise
import NetworkIntent.Proofs.Schema.Matching

/-!
# The patterns of the shipped schemas

The shipped schemas have patterns for addresses, for the positions of ports and for the keys of
VPNs. Each of them asks for a whole text that consists of a few pieces in a row, so it is found in
the texts that are spelled like this and in no others.

## Main definitions

* `Schema.IsDigits`, `Schema.Consists`: runs of digits, and texts that consist of pieces.
* `Schema.Expr.Spells`: an expression matches the pieces with a property wherever they are.
* `Schema.Expr.exactly`: the whole text consists of pieces.
* `Schema.IsIpv4`, `Schema.IsIpv4Prefix`, `Schema.IsPosition`: the texts of addresses and positions.

## Main results

* `Schema.Expr.occurs_exactly_iff`: where a pattern for whole texts is found.
* `Schema.Pattern.find?_ipv4Prefix_iff` and others: the texts in which the shipped patterns are
  found.
-/

set_option autoImplicit false

namespace NetworkIntent.Schema

/-! ## Texts that consist of pieces -/

/-- A number of ASCII digits within bounds. -/
def IsDigits (low : Nat) (high : Option Nat) (cs : List Char) : Prop :=
  (∀ c ∈ cs, '0' ≤ c ∧ c ≤ '9') ∧ low ≤ cs.length ∧ ∀ most ∈ high, cs.length ≤ most

/-- A text consists of pieces with given properties, one after the other. -/
def Consists : List (List Char → Prop) → List Char → Prop
  | [], cs => cs = []
  | P :: forms, cs => ∃ front back, cs = front ++ back ∧ P front ∧ Consists forms back

/-- The only piece with the form of a character. -/
def IsChar (c : Char) (cs : List Char) : Prop :=
  cs = [c]

variable {forms : List (List Char → Prop)} {cs : List Char}

theorem consists_char_cons_iff {c : Char} :
    Consists (IsChar c :: forms) cs ↔ ∃ back, cs = c :: back ∧ Consists forms back := by
  constructor
  · rintro ⟨_, back, rfl, rfl, hback⟩
    exact ⟨back, rfl, hback⟩
  · rintro ⟨back, rfl, hback⟩
    exact ⟨[c], back, rfl, rfl, hback⟩

theorem consists_singleton_iff {P : List Char → Prop} : Consists [P] cs ↔ P cs := by
  simp [Consists]

theorem consists_append_iff {others : List (List Char → Prop)} : Consists (forms ++ others) cs ↔
    ∃ front back, cs = front ++ back ∧ Consists forms front ∧ Consists others back := by
  induction forms generalizing cs with
  | nil => simp [Consists]
  | cons P forms ih =>
    simp only [List.cons_append, Consists, ih]
    constructor
    · rintro ⟨first, _, rfl, hP, front, back, rfl, hfront, hback⟩
      exact ⟨first ++ front, back, by simp, ⟨first, front, rfl, hP, hfront⟩, hback⟩
    · rintro ⟨_, back, rfl, ⟨first, front, rfl, hP, hfront⟩, hback⟩
      exact ⟨first, front ++ back, by simp, hP, front, back, rfl, hfront, hback⟩

/-- The characters of a word come first, one after the other. -/
theorem consists_word_append_iff {word : List Char} :
    Consists (word.map IsChar ++ forms) cs ↔ ∃ back, cs = word ++ back ∧ Consists forms back := by
  induction word generalizing cs with
  | nil => simp
  | cons c word ih =>
    rw [List.map_cons, List.cons_append, consists_char_cons_iff]
    simp only [ih]
    constructor
    · rintro ⟨_, rfl, back, rfl, hback⟩
      exact ⟨back, rfl, hback⟩
    · rintro ⟨back, rfl, hback⟩
      exact ⟨_, rfl, back, rfl, hback⟩

/-! ## What is spelled by expressions -/

namespace Expr

open Matching

/-- An expression matches the pieces with a property, whatever is around them. -/
def Spells (e : Expr) (P : List Char → Prop) : Prop :=
  ∀ before piece after, e.Matches before piece after ↔ P piece

/-- A character. -/
def char (c : Char) : Expr :=
  one (.range c c)

/-- The characters of a word. -/
def word (text : String) : List Expr :=
  text.toList.map char

/-- A run of ASCII digits. -/
def digits (low : Nat) (high : Option Nat) : Expr :=
  repeated (one (.range '0' '9')) low high true

/-- The whole text consists of what the given expressions match. -/
def exactly (parts : List Expr) : Expr :=
  seq (place .textStart) (parts.foldr seq (place .textEnd))

theorem spells_char (c : Char) : (char c).Spells (IsChar c) := by
  intro before piece after
  simp only [char, Matches, CharSet.has, IsChar, Bool.and_eq_true, decide_eq_true_eq]
  constructor
  · rintro ⟨d, rfl, hle, hge⟩
    rw [Char.le_antisymm hle hge]
  · rintro rfl
    exact ⟨c, rfl, Char.le_refl c, Char.le_refl c⟩

theorem Spells.group {e : Expr} {P : List Char → Prop} (h : e.Spells P) (number : Nat) :
    (group number e).Spells P :=
  h

/-- A sequence spells what consists of two pieces. -/
theorem Spells.seq {e f : Expr} {P Q : List Char → Prop} (he : e.Spells P) (hf : f.Spells Q) :
    (seq e f).Spells (Consists [P, Q]) := by
  intro before piece after
  simp only [Matches, Then, he _ _ _, hf _ _ _, Consists]
  constructor
  · rintro ⟨front, back, rfl, hP, hQ⟩
    exact ⟨front, back, rfl, hP, back, [], by simp, hQ, rfl⟩
  · rintro ⟨front, _, rfl, hP, back, _, rfl, hQ, rfl⟩
    exact ⟨front, back, by simp, hP, hQ⟩

/-- A number of pieces are matched one after the other. -/
theorem Spells.times_iff {e : Expr} {P : List Char → Prop} (h : e.Spells P) (n : Nat)
    (before : Option Char) (piece : List Char) (after : Option Char) :
    e.Matches.Times n before piece after ↔ Consists (List.replicate n P) piece := by
  induction n generalizing before piece with
  | zero => rfl
  | succ n ih => simp only [Times, Then, ih, h _ _ _, List.replicate_succ, Consists]

/-- A repetition for a fixed number of times spells what consists of so many pieces. -/
theorem Spells.times {e : Expr} {P : List Char → Prop} (h : e.Spells P) (n : Nat) (greedy : Bool) :
    (repeated e n (some n) greedy).Spells (Consists (List.replicate n P)) := by
  intro before piece after
  simp only [Matches, h.times_iff, Option.mem_some_iff, forall_eq', ← Nat.le_antisymm_iff,
    exists_eq_left']

theorem spells_digits (low : Nat) (high : Option Nat) :
    (digits low high).Spells (IsDigits low high) := by
  have hdigit : (one (.range '0' '9')).Spells fun cs => ∃ c, cs = [c] ∧ '0' ≤ c ∧ c ≤ '9' := by
    intro before piece after
    simp only [Matches, CharSet.has, Bool.and_eq_true, decide_eq_true_eq]
  have hrun (n : Nat) (cs : List Char) :
      Consists (List.replicate n fun cs => ∃ c, cs = [c] ∧ '0' ≤ c ∧ c ≤ '9') cs ↔
        (∀ c ∈ cs, '0' ≤ c ∧ c ≤ '9') ∧ cs.length = n := by
    induction n generalizing cs with
    | zero =>
      rw [List.replicate_zero, Consists, List.length_eq_zero_iff]
      exact ⟨fun h => ⟨by simp [h], h⟩, And.right⟩
    | succ n ih =>
      simp only [List.replicate_succ, Consists, ih]
      constructor
      · rintro ⟨_, back, rfl, ⟨c, rfl, hc⟩, hback, rfl⟩
        exact ⟨List.forall_mem_cons.mpr ⟨hc, hback⟩, rfl⟩
      · rintro ⟨hall, hlength⟩
        obtain ⟨c, back, rfl⟩ := List.exists_cons_of_length_eq_add_one hlength
        obtain ⟨hc, hback⟩ := List.forall_mem_cons.mp hall
        exact ⟨[c], back, rfl, ⟨c, rfl, hc⟩, hback, Nat.succ.inj hlength⟩
  intro before piece after
  rw [digits, Matches]
  simp only [hdigit.times_iff, hrun, IsDigits]
  constructor
  · rintro ⟨_, hbounds, hall, rfl⟩
    exact ⟨hall, hbounds⟩
  · rintro ⟨hall, hbounds⟩
    exact ⟨_, hbounds, hall, rfl⟩

/-- What is matched up to the end of a text. -/
theorem matches_toEnd_iff {parts : List Expr} (h : List.Forall₂ Spells parts forms)
    {before after : Option Char} {piece : List Char} :
    (parts.foldr seq (place .textEnd)).Matches before piece after ↔
      Consists forms piece ∧ after = none := by
  induction h generalizing before piece with
  | nil => simp [Matches, Place.holds, Consists]
  | @cons e P parts forms he _ ih =>
    simp only [List.foldr_cons, Matches, Then, he _ _ _, ih, Consists]
    constructor
    · rintro ⟨front, back, rfl, hP, hback, hafter⟩
      exact ⟨⟨front, back, rfl, hP, hback⟩, hafter⟩
    · rintro ⟨⟨front, back, rfl, hP, hback⟩, hafter⟩
      exact ⟨front, back, rfl, hP, hback, hafter⟩

/-- **Where a pattern for whole texts is found**: in the texts that consist of what its parts
spell. -/
theorem occurs_exactly_iff {parts : List Expr} (h : List.Forall₂ Spells parts forms)
    {text : List Char} : (exactly parts).Occurs none text ↔ Consists forms text := by
  constructor
  · rintro ⟨passed, _, rfl, piece, rest, rfl, _, back, rfl, ⟨rfl, hstart⟩, hback⟩
    obtain ⟨hforms, hend⟩ := (matches_toEnd_iff h).mp hback
    have hpassed : passed = [] := by simpa [Place.holds] using hstart
    have hrest : rest = [] := by simpa using hend
    simpa [hpassed, hrest] using hforms
  · intro hforms
    refine ⟨[], text, rfl, text, [], (List.append_nil text).symm, [], text, rfl, ⟨rfl, rfl⟩, ?_⟩
    exact (matches_toEnd_iff h).mpr ⟨hforms, rfl⟩

end Expr

/-! ## The shipped patterns -/

/-- The four parts of an address: one to three digits each, joined by points. -/
def IsIpv4 (cs : List Char) : Prop :=
  ∃ a b c d, cs = a ++ '.' :: (b ++ '.' :: (c ++ '.' :: d)) ∧
    ∀ part ∈ [a, b, c, d], IsDigits 1 (some 3) part

/-- An address, a slash and one or two digits. -/
def IsIpv4Prefix (cs : List Char) : Prop :=
  ∃ address mask, cs = address ++ '/' :: mask ∧ IsIpv4 address ∧ IsDigits 1 (some 2) mask

/-- Three numbers joined by slashes. -/
def IsPosition (cs : List Char) : Prop :=
  ∃ a b c, cs = a ++ '/' :: (b ++ '/' :: c) ∧ ∀ part ∈ [a, b, c], IsDigits 1 none part

/-- A key of a VPN: its number between two words. -/
def IsVpnKey (field : String) (cs : List Char) : Prop :=
  ∃ number, cs = "vpn".toList ++ (number ++ field.toList) ∧ IsDigits 1 none number

namespace Pattern

open NetworkIntent.Schema.Expr

/-- The parts of the pattern of addresses. -/
def ipv4Parts : List Expr :=
  [digits 1 (some 3),
    repeated (group 1 (seq (char '.') (digits 1 (some 3)))) 3 (some 3) true]

/-- The pattern of addresses. -/
def ipv4Address : Pattern :=
  ⟨"^[0-9]\x7b1,3\x7d(\\.[0-9]\x7b1,3\x7d)\x7b3\x7d$", exactly ipv4Parts⟩

/-- The pattern of addresses with a mask. -/
def ipv4Prefix : Pattern :=
  ⟨"^[0-9]\x7b1,3\x7d(\\.[0-9]\x7b1,3\x7d)\x7b3\x7d/[0-9]\x7b1,2\x7d$",
    exactly (ipv4Parts ++ [char '/', digits 1 (some 2)])⟩

/-- The pattern of positions of ports. -/
def position : Pattern :=
  ⟨"^[0-9]+/[0-9]+/[0-9]+$",
    exactly [digits 1 none, char '/', digits 1 none, char '/', digits 1 none]⟩

/-- The pattern of the keys of VPNs. -/
def vpnKey (field : String) : Pattern :=
  ⟨"^vpn[0-9]+" ++ field ++ "$", exactly (word "vpn" ++ digits 1 none :: word field)⟩

/-- A pattern for whole texts is found in the texts that consist of what its parts spell. -/
theorem find?_exactly_iff {source : String} {parts : List Expr}
    (hplain : ∀ e ∈ parts, e.isRegular = true ∧ e.IsBounded)
    (h : List.Forall₂ Spells parts forms) (text : String) :
    find? ⟨source, exactly parts⟩ text = some true ↔ Consists forms text.toList := by
  have hbody : (exactly parts).isRegular = true ∧ (exactly parts).IsBounded := by
    suffices hend : (parts.foldr seq (place .textEnd)).isRegular = true ∧
        (parts.foldr seq (place .textEnd)).IsBounded by
      exact ⟨by simpa [exactly, isRegular] using hend.1, trivial, hend.2⟩
    clear h
    induction parts with
    | nil => exact ⟨rfl, trivial⟩
    | cons e rest ih =>
      obtain ⟨he, hrest⟩ := List.forall_mem_cons.mp hplain
      obtain ⟨hregular, hbounded⟩ := ih hrest
      exact ⟨by simp [isRegular, he.1, hregular], he.2, hbounded⟩
  rw [find?_iff hbody.1 hbody.2, occurs_exactly_iff h]

/-- What the parts of an address spell. -/
theorem consists_ipv4_iff {cs : List Char} :
    Consists [IsDigits 1 (some 3),
      Consists (List.replicate 3 (Consists [IsChar '.', IsDigits 1 (some 3)]))] cs ↔ IsIpv4 cs := by
  have hnext {cs : List Char} : Consists [IsChar '.', IsDigits 1 (some 3)] cs ↔
      ∃ part, cs = '.' :: part ∧ IsDigits 1 (some 3) part := by
    simp only [consists_char_cons_iff, consists_singleton_iff]
  constructor
  · rintro ⟨a, _, rfl, ha, _, _, rfl, ⟨_, _, rfl, hb, _, _, rfl, hc, _, _, rfl, hd, rfl⟩, rfl⟩
    obtain ⟨b, rfl, hb'⟩ := hnext.mp hb
    obtain ⟨c, rfl, hc'⟩ := hnext.mp hc
    obtain ⟨d, rfl, hd'⟩ := hnext.mp hd
    exact ⟨a, b, c, d, by simp, by simp [ha, hb', hc', hd']⟩
  · rintro ⟨a, b, c, d, rfl, hparts⟩
    simp only [List.forall_mem_cons] at hparts
    obtain ⟨ha, hb, hc, hd, -⟩ := hparts
    refine ⟨a, _, rfl, ha, _, [], (List.append_nil _).symm, ⟨'.' :: b, _, rfl, hnext.mpr ⟨b, rfl, hb⟩,
      '.' :: c, _, rfl, hnext.mpr ⟨c, rfl, hc⟩, '.' :: d, [], ?_, hnext.mpr ⟨d, rfl, hd⟩, rfl⟩, rfl⟩
    simp

theorem spells_ipv4Parts : List.Forall₂ Spells ipv4Parts [IsDigits 1 (some 3),
    Consists (List.replicate 3 (Consists [IsChar '.', IsDigits 1 (some 3)]))] :=
  .cons (spells_digits _ _) (.cons ((((spells_char '.').seq (spells_digits _ _)).group 1).times 3 true)
    .nil)

theorem plain_char (c : Char) : (char c).isRegular = true ∧ (char c).IsBounded :=
  ⟨rfl, trivial⟩

theorem plain_word (text : String) : ∀ e ∈ word text, e.isRegular = true ∧ e.IsBounded := by
  rw [word, List.forall_mem_map]
  exact fun c _ => plain_char c

theorem plain_digits {low : Nat} {high : Option Nat} (h : ∀ most ∈ high, low ≤ most) :
    (digits low high).isRegular = true ∧ (digits low high).IsBounded :=
  ⟨rfl, trivial, h⟩

theorem plain_ipv4Parts : ∀ e ∈ ipv4Parts, e.isRegular = true ∧ e.IsBounded := by
  have hdigits : (digits 1 (some 3)).isRegular = true ∧ (digits 1 (some 3)).IsBounded :=
    plain_digits (by simp)
  refine List.forall_mem_cons.mpr ⟨hdigits, List.forall_mem_singleton.mpr ⟨rfl, ?_, by simp⟩⟩
  exact ⟨trivial, hdigits.2⟩

theorem find?_ipv4Address_iff (text : String) :
    ipv4Address.find? text = some true ↔ IsIpv4 text.toList := by
  rw [ipv4Address, find?_exactly_iff plain_ipv4Parts spells_ipv4Parts, consists_ipv4_iff]

theorem find?_ipv4Prefix_iff (text : String) :
    ipv4Prefix.find? text = some true ↔ IsIpv4Prefix text.toList := by
  have hplain : ∀ e ∈ ipv4Parts ++ [char '/', digits 1 (some 2)],
      e.isRegular = true ∧ e.IsBounded :=
    List.forall_mem_append.mpr ⟨plain_ipv4Parts, List.forall_mem_cons.mpr
      ⟨plain_char '/', List.forall_mem_singleton.mpr (plain_digits (by simp))⟩⟩
  have hspells := List.rel_append spells_ipv4Parts
    (.cons (spells_char '/') (.cons (spells_digits 1 (some 2)) .nil))
  rw [ipv4Prefix, find?_exactly_iff hplain hspells, consists_append_iff]
  simp only [consists_ipv4_iff, consists_char_cons_iff, consists_singleton_iff, IsIpv4Prefix]
  constructor
  · rintro ⟨address, _, htext, haddress, mask, rfl, hmask⟩
    exact ⟨address, mask, htext, haddress, hmask⟩
  · rintro ⟨address, mask, htext, haddress, hmask⟩
    exact ⟨address, _, htext, haddress, mask, rfl, hmask⟩

theorem find?_position_iff (text : String) :
    position.find? text = some true ↔ IsPosition text.toList := by
  have hplain : ∀ e ∈ [digits 1 none, char '/', digits 1 none, char '/', digits 1 none],
      e.isRegular = true ∧ e.IsBounded := by
    have hdigits : (digits 1 none).isRegular = true ∧ (digits 1 none).IsBounded :=
      plain_digits (by simp)
    simp only [List.forall_mem_cons]
    exact ⟨hdigits, plain_char '/', hdigits, plain_char '/', hdigits, List.forall_mem_nil _⟩
  have hdigits := spells_digits 1 none
  have hslash := spells_char '/'
  rw [position, find?_exactly_iff hplain
    (.cons hdigits (.cons hslash (.cons hdigits (.cons hslash (.cons hdigits .nil)))))]
  constructor
  · rintro ⟨a, _, htext, ha, _, _, rfl, rfl, b, _, rfl, hb, _, _, rfl, rfl, c, _, rfl, hc, rfl⟩
    exact ⟨a, b, c, by simp [htext], by simp [ha, hb, hc]⟩
  · rintro ⟨a, b, c, htext, hparts⟩
    simp only [List.forall_mem_cons] at hparts
    obtain ⟨ha, hb, hc, -⟩ := hparts
    exact ⟨a, _, htext, ha, ['/'], _, rfl, rfl, b, _, rfl, hb, ['/'], _, rfl, rfl, c, [], by simp,
      hc, rfl⟩

theorem find?_vpnKey_iff (field text : String) :
    (vpnKey field).find? text = some true ↔ IsVpnKey field text.toList := by
  have hword (text : String) : List.Forall₂ Spells (word text) (text.toList.map IsChar) := by
    rw [word, List.forall₂_map_left_iff, List.forall₂_map_right_iff, List.forall₂_same]
    exact fun c _ => spells_char c
  have hplain : ∀ e ∈ word "vpn" ++ digits 1 none :: word field,
      e.isRegular = true ∧ e.IsBounded :=
    List.forall_mem_append.mpr ⟨plain_word "vpn",
      List.forall_mem_cons.mpr ⟨plain_digits (by simp), plain_word field⟩⟩
  rw [vpnKey, find?_exactly_iff hplain
    (List.rel_append (hword "vpn") (.cons (spells_digits 1 none) (hword field))),
    consists_word_append_iff]
  have hfield {cs : List Char} : Consists (field.toList.map IsChar) cs ↔ cs = field.toList := by
    rw [← List.append_nil (field.toList.map IsChar), consists_word_append_iff]
    simp [Consists]
  simp only [Consists, hfield, IsVpnKey]
  constructor
  · rintro ⟨_, htext, number, _, rfl, hnumber, rfl⟩
    exact ⟨number, htext, hnumber⟩
  · rintro ⟨number, htext, hnumber⟩
    exact ⟨_, htext, number, _, rfl, hnumber, rfl⟩

end Pattern

end NetworkIntent.Schema
