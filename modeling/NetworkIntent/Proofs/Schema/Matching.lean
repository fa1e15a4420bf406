import Mathlib.Logic.Basic
import NetworkIntent.Schema.Pattern.Basic

/-!
# What expressions match

A regular expression matches pieces of a text, and whether it does so depends on no more of the text
than the two characters around the piece. Matching is decided by derivatives, which read the text
from left to right and keep the expressions that are under way; it finds an expression in a text
exactly if a piece of the text is matched.

A repetition whose bounds are in the wrong order matches nothing, but matching by derivatives would
not notice it; no pattern has such bounds.

## Main definitions

* `Schema.Matching`: pieces of texts between two characters.
* `Schema.Expr.Matches`: the pieces that a regular expression matches.
* `Schema.Expr.IsBounded`: all bounds of an expression are in order.
* `Schema.Expr.Occurs`: a piece of a text is matched.

## Main results

* `Schema.Expr.exists_steps_iff`: what may follow after a character.
* `Schema.Expr.runs_iff`: what matching by derivatives finds.
* `Schema.Pattern.find?_iff`: a regular pattern is found in a text exactly if it occurs there.
-/

set_option autoImplicit false

namespace NetworkIntent.Schema

/-! ## Pieces of texts -/

/-- Some pieces of texts, each given with the characters before and after it, which are missing at
the ends of the text. -/
abbrev Matching := (before : Option Char) → (piece : List Char) → (after : Option Char) → Prop

namespace Matching

variable {P Q : Matching} {before after : Option Char} {c : Char} {piece rest : List Char}

/-- The pieces without characters. -/
def Nothing : Matching := fun _ piece _ => piece = []

/-- The pieces that consist of two others. -/
def Then (P Q : Matching) : Matching := fun before piece after =>
  ∃ front back, piece = front ++ back ∧ P before front (back.head?.or after) ∧
    Q (front.getLast?.or before) back after

/-- The pieces that consist of a number of others. -/
def Times (P : Matching) : Nat → Matching
  | 0 => Nothing
  | n + 1 => P.Then (P.Times n)

/-- What remains of pieces after their first character. -/
def Tail (P : Matching) (before : Option Char) (c : Char) : Matching := fun _ piece after =>
  P before (c :: piece) after

/-- Before what follows after a piece that starts with a character there is a character. -/
theorem getLast?_cons_or : (c :: piece).getLast?.or before = piece.getLast?.or (some c) := by
  cases h : piece.getLast? <;> simp [List.getLast?_cons, h]

theorem then_nil_iff : P.Then Q before [] after ↔ P before [] after ∧ Q before [] after := by
  constructor
  · rintro ⟨front, back, hnil, hP, hQ⟩
    obtain ⟨rfl, rfl⟩ := List.append_eq_nil_iff.mp hnil.symm
    exact ⟨hP, hQ⟩
  · rintro ⟨hP, hQ⟩
    exact ⟨[], [], rfl, hP, hQ⟩

/-- The first character of two pieces is that of the second one if the first is empty. -/
theorem then_cons_iff : P.Then Q before (c :: rest) after ↔
    (P before [] (some c) ∧ Q before (c :: rest) after) ∨
      (P.Tail before c).Then Q (some c) rest after := by
  constructor
  · rintro ⟨front, back, hcons, hP, hQ⟩
    cases front with
    | nil =>
      rw [List.nil_append] at hcons
      subst hcons
      exact .inl ⟨hP, hQ⟩
    | cons d front =>
      obtain ⟨rfl, rfl⟩ := List.cons_eq_cons.mp hcons
      exact .inr ⟨front, back, rfl, hP, getLast?_cons_or ▸ hQ⟩
  · rintro (⟨hP, hQ⟩ | ⟨front, back, rfl, hP, hQ⟩)
    · exact ⟨[], c :: rest, rfl, hP, hQ⟩
    · exact ⟨c :: front, back, rfl, hP, getLast?_cons_or ▸ hQ⟩

theorem nothing_then_iff : Nothing.Then Q before piece after ↔ Q before piece after := by
  constructor
  · rintro ⟨_, back, rfl, rfl, hQ⟩
    exact hQ
  · intro hQ
    exact ⟨[], piece, rfl, rfl, hQ⟩

theorem then_nothing_iff : P.Then Nothing before piece after ↔ P before piece after := by
  constructor
  · rintro ⟨front, _, rfl, hP, rfl⟩
    rwa [List.append_nil]
  · intro hP
    exact ⟨piece, [], (List.append_nil piece).symm, hP, rfl⟩

/-- If what comes second is one of several, then so is the whole. -/
theorem then_exists_iff {holds : Nat → Prop} {several : Nat → Matching} :
    P.Then (fun before piece after => ∃ n, holds n ∧ several n before piece after)
        before piece after ↔ ∃ n, holds n ∧ P.Then (several n) before piece after := by
  constructor
  · rintro ⟨front, back, hpiece, hP, n, hn, hQ⟩
    exact ⟨n, hn, front, back, hpiece, hP, hQ⟩
  · rintro ⟨n, hn, front, back, hpiece, hP, hQ⟩
    exact ⟨front, back, hpiece, hP, n, hn, hQ⟩

/-- Nothing consists of a number of pieces exactly if each of them is empty. -/
theorem times_nil_iff (n : Nat) : P.Times n before [] after ↔ n = 0 ∨ P before [] after := by
  induction n with
  | zero => simp [Times, Nothing]
  | succ n ih =>
    rw [Times, then_nil_iff, ih]
    simp only [Nat.add_one_ne_zero, false_or, and_iff_left_iff_imp]
    exact .inr

/-- Of a number of pieces with a character, some are empty before the one that has the first
character. -/
theorem times_cons_iff (n : Nat) : P.Times n before (c :: rest) after ↔
    ∃ skipped more, n = skipped + 1 + more ∧ (skipped = 0 ∨ P before [] (some c)) ∧
      (P.Tail before c).Then (P.Times more) (some c) rest after := by
  induction n with
  | zero => simp [Times, Nothing]; omega
  | succ n ih =>
    rw [Times, then_cons_iff, ih]
    constructor
    · rintro (⟨hempty, skipped, more, rfl, -, htail⟩ | htail)
      · exact ⟨skipped + 1, more, by omega, .inr hempty, htail⟩
      · exact ⟨0, n, by omega, .inl rfl, htail⟩
    · rintro ⟨skipped, more, hn, hempty, htail⟩
      rcases Nat.eq_zero_or_pos skipped with rfl | hpos
      · obtain rfl : more = n := by omega
        exact .inr htail
      · have hP : P before [] (some c) := hempty.resolve_left (by omega)
        exact .inl ⟨hP, skipped - 1, more, by omega, .inr hP, htail⟩

end Matching

/-! ## What a regular expression matches -/

namespace Expr

open Matching

/-- The pieces that a regular expression matches. -/
def Matches : Expr → Matching
  | empty => Nothing
  | one set => fun _ piece _ => ∃ c, piece = [c] ∧ set.has c = true
  | place p => fun before piece after => piece = [] ∧ p.holds before after = true
  | seq e f => e.Matches.Then f.Matches
  | alt e f => fun before piece after => e.Matches before piece after ∨ f.Matches before piece after
  | repeated e low high _ => fun before piece after =>
    ∃ n, (low ≤ n ∧ ∀ most ∈ high, n ≤ most) ∧ e.Matches.Times n before piece after
  | group _ e => e.Matches
  | again _ | look _ _ _ | commit _ => fun _ _ _ => False

/-- In all repetitions of an expression the least number is not above the greatest. -/
def IsBounded : Expr → Prop
  | seq e f | alt e f => e.IsBounded ∧ f.IsBounded
  | repeated e low high _ => e.IsBounded ∧ ∀ most ∈ high, low ≤ most
  | group _ e => e.IsBounded
  | _ => True

variable {e f : Expr} {before after : Option Char} {c : Char} {piece rest : List Char}

theorem matches_andThen_iff :
    (e.andThen f).Matches before piece after ↔ (seq e f).Matches before piece after := by
  rw [andThen]
  split
  next h => rw [h, Matches, Matches, nothing_then_iff]
  next =>
    split
    next h => rw [h, Matches, Matches, then_nothing_iff]
    next => rfl

theorem IsBounded.andThen (he : e.IsBounded) (hf : f.IsBounded) : (e.andThen f).IsBounded := by
  rw [Expr.andThen]
  split
  · exact hf
  · split
    · exact he
    · exact ⟨he, hf⟩

/-- What may follow within an expression has bounds in order. -/
theorem IsBounded.steps (h : e.IsBounded) : ∀ next ∈ e.steps before c, next.IsBounded := by
  induction e with
  | empty | place | again | look | commit => simp [Expr.steps]
  | one set =>
    intro next hnext
    rw [Expr.steps] at hnext
    split at hnext
    · rw [List.mem_singleton.mp hnext]
      trivial
    · cases hnext
  | seq e f ihe ihf =>
    simp only [Expr.steps, List.forall_mem_append, List.forall_mem_map]
    refine ⟨fun next hnext => (ihe h.1 next hnext).andThen h.2, fun next hnext => ?_⟩
    split at hnext
    · exact ihf h.2 next hnext
    · cases hnext
  | alt e f ihe ihf =>
    simp only [Expr.steps, List.forall_mem_append]
    exact ⟨ihe h.1, ihf h.2⟩
  | repeated e low high greedy ih =>
    rw [Expr.steps]
    split
    · simp
    · simp only [List.forall_mem_map]
      refine fun next hnext => (ih h.1 next hnext).andThen ⟨h.1, ?_⟩
      intro most hmost
      obtain ⟨bound, hbound, rfl⟩ := Option.map_eq_some_iff.mp hmost
      have := h.2 bound hbound
      split <;> omega
  | group _ e ih => exact ih h

/-- An expression matches nothing at a place exactly if it is nullable there. -/
theorem nullable_iff (h : e.IsBounded) :
    e.nullable before after = true ↔ e.Matches before [] after := by
  induction e with
  | empty => simp [nullable, Matches, Nothing]
  | one | again | look | commit => simp [nullable, Matches]
  | place p => simp [nullable, Matches]
  | seq e f ihe ihf => rw [nullable, Bool.and_eq_true, ihe h.1, ihf h.2, Matches, then_nil_iff]
  | alt e f ihe ihf => rw [nullable, Bool.or_eq_true, ihe h.1, ihf h.2, Matches]
  | repeated e low high greedy ih =>
    simp only [nullable, Bool.or_eq_true, decide_eq_true_eq, ih h.1, Matches, times_nil_iff]
    constructor
    · intro hnull
      exact ⟨low, ⟨Nat.le_refl low, h.2⟩, hnull⟩
    · rintro ⟨n, ⟨hlow, -⟩, rfl | hempty⟩
      · exact .inl (Nat.le_zero.mp hlow)
      · exact .inr hempty
  | group _ e ih => exact ih h

/-- What follows one of several expressions follows what any of them matches. -/
theorem exists_andThen_iff {nexts : List Expr} {P : Matching}
    (h : ∀ piece after, (∃ next ∈ nexts, next.Matches before piece after) ↔ P before piece after) :
    (∃ next ∈ nexts.map (·.andThen f), next.Matches before piece after) ↔
      P.Then f.Matches before piece after := by
  simp only [List.mem_map, exists_exists_and_eq_and, matches_andThen_iff, Matches, Then, ← h]
  constructor
  · rintro ⟨next, hnext, front, back, hpiece, hmatch, hback⟩
    exact ⟨front, back, hpiece, ⟨next, hnext, hmatch⟩, hback⟩
  · rintro ⟨front, back, hpiece, ⟨next, hnext, hmatch⟩, hback⟩
    exact ⟨next, hnext, front, back, hpiece, hmatch, hback⟩

/-- The bounds for the pieces after the first one with a character. If pieces may be empty, as many
come first as are needed for the least number. -/
theorem exists_skipped_iff {low : Nat} {high : Option Nat} {empty : Prop} [Decidable empty]
    (hbounded : ∀ most ∈ high, low ≤ most) (hsome : high ≠ some 0) (more : Nat) :
    (∃ skipped, (low ≤ skipped + 1 + more ∧ ∀ most ∈ high, skipped + 1 + more ≤ most) ∧
      (skipped = 0 ∨ empty)) ↔
      (if empty then 0 else low - 1) ≤ more ∧ ∀ most ∈ high.map (· - 1), more ≤ most := by
  constructor
  · rintro ⟨skipped, ⟨hlow, hmost⟩, hempty⟩
    refine ⟨?_, fun most hmem => ?_⟩
    · split
      next => exact Nat.zero_le more
      next hnull =>
        have := hempty.resolve_right hnull
        omega
    · obtain ⟨bound, hbound, rfl⟩ := Option.map_eq_some_iff.mp hmem
      have := hmost bound hbound
      omega
  · rintro ⟨hlow, hmost⟩
    refine ⟨low - (more + 1), ⟨by omega, fun most hmem => ?_⟩, ?_⟩
    · have hmore := hmost (most - 1) (Option.mem_map_of_mem _ hmem)
      have hpos : most ≠ 0 := by
        rintro rfl
        exact hsome hmem
      have := hbounded most hmem
      omega
    · by_cases hempty : empty
      · exact .inr hempty
      · rw [if_neg hempty] at hlow
        exact .inl (by omega)

/-- **What may follow after a character**: an expression matches a piece exactly if one of the
expressions that may follow after its first character matches the rest.

**Proof sketch.** By induction on the expression. In a sequence the character belongs to the second
part only if the first part can match nothing. In a repetition some pieces before the one with the
character may be empty; then all that are missing may be empty too, which is why the least number
does not matter any more. -/
theorem exists_steps_iff (h : e.IsBounded) (rest : List Char) (after : Option Char) :
    (∃ next ∈ e.steps before c, next.Matches (some c) rest after) ↔
      e.Matches before (c :: rest) after := by
  induction e generalizing rest after with
  | empty | place | again | look | commit => simp [steps, Matches, Nothing]
  | one set =>
    rw [steps]
    by_cases hset : set.has c = true
    · simp [hset, Matches, Nothing, and_assoc]
    · simp [hset, Matches, and_assoc]
  | seq e f ihe ihf =>
    have hfirst : (∃ next ∈ (e.steps before c).map (·.andThen f),
        next.Matches (some c) rest after) ↔
        ((e.Matches.Tail before c).Then f.Matches) (some c) rest after :=
      exists_andThen_iff (ihe h.1)
    rw [Matches, then_cons_iff, ← nullable_iff h.1, ← ihf h.2, steps]
    simp only [List.mem_append, or_and_right, exists_or]
    rw [or_comm, hfirst]
    by_cases hempty : e.nullable before (some c) = true <;> simp [hempty]
  | alt e f ihe ihf =>
    simp only [steps, List.mem_append, or_and_right, exists_or, ihe h.1, ihf h.2, Matches]
  | repeated e low high greedy ih =>
    simp only [Matches, times_cons_iff, ← nullable_iff h.1]
    rw [steps]
    split
    next hnone =>
      simp only [List.not_mem_nil, false_and, exists_false, false_iff]
      rintro ⟨n, ⟨-, hmost⟩, skipped, more, rfl, -⟩
      have := hmost 0 (hnone ▸ rfl)
      omega
    next hsome =>
      rw [exists_andThen_iff (P := e.Matches.Tail before c) (ih h.1), Matches, then_exists_iff]
      constructor
      · rintro ⟨more, hrest, htail⟩
        obtain ⟨skipped, hbounds, hempty⟩ := (exists_skipped_iff h.2 hsome more).mpr hrest
        exact ⟨_, hbounds, skipped, more, rfl, hempty, htail⟩
      · rintro ⟨_, hbounds, skipped, more, rfl, hempty, htail⟩
        exact ⟨more, (exists_skipped_iff h.2 hsome more).mp ⟨skipped, hbounds, hempty⟩, htail⟩
  | group _ e ih => exact ih h rest after

/-! ## Searching -/

/-- An expression matches the start of a text. -/
def Leads (e : Expr) (before : Option Char) (text : List Char) : Prop :=
  ∃ piece rest, text = piece ++ rest ∧ e.Matches before piece rest.head?

/-- An expression matches a piece of a text. -/
def Occurs (e : Expr) (before : Option Char) (text : List Char) : Prop :=
  ∃ passed rest, text = passed ++ rest ∧ e.Leads (passed.getLast?.or before) rest

theorem leads_nil_iff (h : e.IsBounded) :
    e.Leads before [] ↔ e.nullable before none = true := by
  rw [nullable_iff h]
  constructor
  · rintro ⟨piece, rest, hnil, hmatch⟩
    obtain ⟨rfl, rfl⟩ := List.append_eq_nil_iff.mp hnil.symm
    exact hmatch
  · intro hmatch
    exact ⟨[], [], rfl, hmatch⟩

theorem leads_cons_iff (h : e.IsBounded) : e.Leads before (c :: rest) ↔
    e.nullable before (some c) = true ∨ ∃ next ∈ e.steps before c, next.Leads (some c) rest := by
  rw [nullable_iff h]
  constructor
  · rintro ⟨piece, others, htext, hmatch⟩
    cases piece with
    | nil =>
      rw [List.nil_append] at htext
      subst htext
      exact .inl hmatch
    | cons d piece =>
      obtain ⟨rfl, rfl⟩ := List.cons_eq_cons.mp htext
      obtain ⟨next, hnext, hmatch⟩ := (exists_steps_iff h piece others.head?).mpr hmatch
      exact .inr ⟨next, hnext, piece, others, rfl, hmatch⟩
  · rintro (hmatch | ⟨next, hnext, piece, others, rfl, hmatch⟩)
    · exact ⟨[], c :: rest, rfl, hmatch⟩
    · exact ⟨c :: piece, others, rfl, (exists_steps_iff h piece others.head?).mp
        ⟨next, hnext, hmatch⟩⟩

/-- An expression occurs at the start of a text or after its first character. -/
theorem occurs_iff {text : List Char} : e.Occurs before text ↔
    e.Leads before text ∨ ∃ c rest, text = c :: rest ∧ e.Occurs (some c) rest := by
  constructor
  · rintro ⟨passed, rest, rfl, hleads⟩
    cases passed with
    | nil => exact .inl hleads
    | cons c passed => exact .inr ⟨c, _, rfl, passed, rest, rfl, getLast?_cons_or ▸ hleads⟩
  · rintro (hleads | ⟨c, _, rfl, passed, rest, rfl, hleads⟩)
    · exact ⟨[], text, rfl, hleads⟩
    · exact ⟨c :: passed, rest, rfl, getLast?_cons_or ▸ hleads⟩

/-- **What matching by derivatives finds**: an expression under way that matches the start of the
text, or another that occurs after the first character.

**Proof sketch.** By induction on the text: at each character the expressions under way are
replaced by what may follow in them, and the others get under way once more. -/
theorem runs_iff {fresh states : List Expr} (hfresh : ∀ e ∈ fresh, e.IsBounded)
    (hstates : ∀ e ∈ states, e.IsBounded) (before : Option Char) (text : List Char) :
    runs fresh before states text = true ↔ (∃ e ∈ states, e.Leads before text) ∨
      ∃ e ∈ fresh, ∃ c rest, text = c :: rest ∧ e.Occurs (some c) rest := by
  induction text generalizing before states with
  | nil =>
    simp only [runs, List.any_eq_true, List.nil_eq, reduceCtorEq, false_and, exists_false, and_false,
      or_false]
    exact exists_congr fun e => and_congr_right fun he => (leads_nil_iff (hstates e he)).symm
  | cons c rest ih =>
    have hnext : ∀ e ∈ (fresh ++ states.flatMap (steps before c)).eraseDups, e.IsBounded := by
      simp only [List.mem_eraseDups, List.forall_mem_append, List.forall_mem_flatMap]
      exact ⟨hfresh, fun e he => (hstates e he).steps⟩
    have hleads : (∃ e ∈ states, e.Leads before (c :: rest)) ↔
        (∃ e ∈ states, e.nullable before (some c) = true) ∨
          ∃ e ∈ states, ∃ next ∈ e.steps before c, next.Leads (some c) rest := by
      rw [← exists_or]
      refine exists_congr fun e => ?_
      rw [← and_or_left]
      exact and_congr_right fun he => leads_cons_iff (hstates e he)
    have hoccurs : (∃ e ∈ fresh, ∃ d others, c :: rest = d :: others ∧ e.Occurs (some d) others) ↔
        (∃ e ∈ fresh, e.Leads (some c) rest) ∨
          ∃ e ∈ fresh, ∃ d others, rest = d :: others ∧ e.Occurs (some d) others := by
      rw [← exists_or]
      refine exists_congr fun e => ?_
      rw [← and_or_left, ← occurs_iff]
      simp only [List.cons.injEq, and_assoc, exists_and_left, exists_eq_left']
    have hflat : (∃ next ∈ states.flatMap (steps before c), next.Leads (some c) rest) ↔
        ∃ e ∈ states, ∃ next ∈ e.steps before c, next.Leads (some c) rest := by
      simp only [List.mem_flatMap]
      exact ⟨fun ⟨next, ⟨e, he, hnext⟩, h⟩ => ⟨e, he, next, hnext, h⟩,
        fun ⟨e, he, next, hnext, h⟩ => ⟨next, ⟨e, he, hnext⟩, h⟩⟩
    rw [runs, Bool.or_eq_true, ih hnext, hleads, hoccurs, List.any_eq_true, ← hflat]
    simp only [List.mem_eraseDups, List.mem_append, or_and_right, exists_or]
    grind

end Expr

/-- **A regular pattern is found in a text exactly if it occurs there.** -/
theorem Pattern.find?_iff {pattern : Pattern} (hregular : pattern.body.isRegular = true)
    (hbounded : pattern.body.IsBounded) (text : String) :
    pattern.find? text = some true ↔ pattern.body.Occurs none text.toList := by
  have hall : ∀ e ∈ [pattern.body], e.IsBounded := List.forall_mem_singleton.mpr hbounded
  rw [find?, if_pos hregular, Option.some.injEq, Expr.runs_iff hall hall, Expr.occurs_iff]
  simp

end NetworkIntent.Schema
