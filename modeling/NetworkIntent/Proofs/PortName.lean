import Mathlib.Data.List.TakeWhile
import Mathlib.Data.String.Basic
import NetworkIntent.Port

/-!
# The names of ports

The port of an interface is read off the start of its name by scanning numbers. What is read is told
here without a scan: the name of a family, three numbers joined by slashes, and then anything but a
digit. As the last number is not cut short, a name has at most one port, and the port is the same
for whatever else follows.

Digits may be of any script, and numbers may start with zeros; a sign or a blank belongs to no
number.

## Main definitions

* `Port.IsNumber`, `Port.IsNumbers`: numbers, and numbers joined by slashes.
* `Port.IsTriple`: the positions of ports.
* `Port.Heads`: a name starts with a port, and no digit follows.

## Main results

* `Port.spanNumber?_eq_some_iff`, `Port.spanPosition?_eq_some_iff`: what the scans split off.
* `Port.heads_iff`: the port that is found is the one that the name starts with.
* `Port.ofInterface?_grammar`: the names that have ports, and the ports that they have.
-/

set_option autoImplicit false

namespace NetworkIntent.Port

/-! ## Numbers -/

/-- A number has at least one digit, of whatever script. -/
def IsNumber (cs : List Char) : Prop :=
  cs ≠ [] ∧ ∀ c ∈ cs, isDecimalDigit c = true

/-- A text does not start with a digit. -/
def NoDigitFirst (cs : List Char) : Prop :=
  ∀ c ∈ cs.head?, isDecimalDigit c = false

/-- After the digits at the start of a text there is no digit. -/
theorem noDigitFirst_dropWhile (cs : List Char) : NoDigitFirst (cs.dropWhile isDecimalDigit) := by
  intro c hc
  have hhead := List.head?_dropWhile_not isDecimalDigit cs
  rw [hc] at hhead
  exact hhead

/-- The digits at the start of a text end where no digit follows. -/
theorem takeWhile_digits_append {digits rest : List Char}
    (hdigits : ∀ c ∈ digits, isDecimalDigit c = true) (hrest : NoDigitFirst rest) :
    (digits ++ rest).takeWhile isDecimalDigit = digits ∧
      (digits ++ rest).dropWhile isDecimalDigit = rest := by
  rw [List.takeWhile_append_of_pos hdigits, List.dropWhile_append_of_pos hdigits]
  cases rest with
  | nil => simp
  | cons c rest =>
    have hc : isDecimalDigit c = false := hrest c rfl
    simp [hc]

/-- **A number is split off a text exactly if the text starts with it and no digit follows.** -/
theorem spanNumber?_eq_some_iff {cs digits rest : List Char} :
    spanNumber? cs = some (digits, rest) ↔
      cs = digits ++ rest ∧ IsNumber digits ∧ NoDigitFirst rest := by
  rw [spanNumber?]
  constructor
  · intro h
    split_ifs at h with hempty
    cases h
    refine ⟨List.takeWhile_append_dropWhile.symm, ⟨?_, ?_⟩, noDigitFirst_dropWhile cs⟩
    · intro hnil
      exact hempty (List.isEmpty_iff.mpr hnil)
    · intro c hc
      exact List.mem_takeWhile_imp hc
  · rintro ⟨rfl, ⟨hne, hdigits⟩, hrest⟩
    obtain ⟨htake, hdrop⟩ := takeWhile_digits_append hdigits hrest
    simp only [htake, hdrop]
    rw [if_neg (by simpa using hne)]

/-! ## Positions -/

/-- Numbers joined by slashes, `more` of them after the first one. -/
def IsNumbers : (more : Nat) → List Char → Prop
  | 0, cs => IsNumber cs
  | more + 1, cs => ∃ digits others, cs = digits ++ '/' :: others ∧ IsNumber digits ∧
    IsNumbers more others

/-- No number goes on with a slash. -/
theorem noDigitFirst_slash (cs : List Char) : NoDigitFirst ('/' :: cs) := by
  rintro c ⟨⟩
  decide

/-- **Numbers are split off a text exactly if the text starts with them and no digit follows.** -/
theorem spanPosition?_eq_some_iff {more : Nat} {cs position rest : List Char} :
    spanPosition? more cs = some (position, rest) ↔
      cs = position ++ rest ∧ IsNumbers more position ∧ NoDigitFirst rest := by
  induction more generalizing cs position with
  | zero => exact spanNumber?_eq_some_iff
  | succ more ih =>
    rw [spanPosition?]
    constructor
    · intro h
      split at h
      next digits after hnumber =>
        obtain ⟨⟨others, _⟩, hothers, heq⟩ := Option.map_eq_some_iff.mp h
        cases heq
        obtain ⟨rfl, hdigits, -⟩ := spanNumber?_eq_some_iff.mp hnumber
        obtain ⟨rfl, hothers, hrest⟩ := ih.mp hothers
        exact ⟨by simp, ⟨digits, others, rfl, hdigits, hothers⟩, hrest⟩
      next => cases h
    · rintro ⟨rfl, ⟨digits, others, rfl, hdigits, hothers⟩, hrest⟩
      have hnumber : spanNumber? (digits ++ '/' :: others ++ rest) =
          some (digits, '/' :: (others ++ rest)) :=
        spanNumber?_eq_some_iff.mpr ⟨by simp, hdigits, noDigitFirst_slash _⟩
      have hafter : spanPosition? more (others ++ rest) = some (others, rest) :=
        ih.mpr ⟨rfl, hothers, hrest⟩
      simp only [hnumber, hafter]
      rfl

/-- The positions of ports: three numbers joined by slashes. -/
def IsTriple (position : String) : Prop :=
  ∃ a b c, position.toList = a ++ '/' :: (b ++ '/' :: c) ∧ IsNumber a ∧ IsNumber b ∧ IsNumber c

/-- Three numbers joined by slashes are two of them after a first one. -/
theorem isTriple_iff {position : String} : IsTriple position ↔ IsNumbers 2 position.toList := by
  constructor
  · rintro ⟨a, b, c, hposition, ha, hb, hc⟩
    exact ⟨a, _, hposition, ha, b, c, rfl, hb, hc⟩
  · rintro ⟨a, _, hposition, ha, b, c, rfl, hb, hc⟩
    exact ⟨a, b, c, hposition, ha, hb, hc⟩

/-! ## Names -/

/-- A name starts with a port, by the name of its family and its position, and no digit follows. -/
def Heads (port : Port) (interface : String) : Prop :=
  IsTriple port.position ∧
    ∃ rest, interface = port.family.name ++ port.position ++ rest ∧ NoDigitFirst rest.toList

/-- No text starts with the names of both families. -/
theorem family_eq_of_append {f g : PortFamily} {as bs : List Char}
    (h : f.name.toList ++ as = g.name.toList ++ bs) : f = g := by
  cases f <;> cases g
  · rfl
  · simp [PortFamily.name] at h
  · simp [PortFamily.name] at h
  · rfl

/-- A position is found after the name of a family exactly if the text starts with both. -/
theorem positionAfter?_eq_some_iff {family : PortFamily} {port : Port} {cs : List Char} :
    positionAfter? family cs = some port ↔ port.family = family ∧ IsTriple port.position ∧
      ∃ rest, cs = family.name.toList ++ (port.position.toList ++ rest) ∧ NoDigitFirst rest := by
  rw [positionAfter?, isTriple_iff]
  constructor
  · intro h
    split_ifs at h with hprefix
    obtain ⟨⟨position, rest⟩, hposition, rfl⟩ := Option.map_eq_some_iff.mp h
    obtain ⟨after, rfl⟩ := List.isPrefixOf_iff_prefix.mp hprefix
    rw [List.drop_left] at hposition
    obtain ⟨rfl, hnumbers, hrest⟩ := spanPosition?_eq_some_iff.mp hposition
    refine ⟨rfl, ?_, rest, ?_, hrest⟩
    · rwa [String.toList_ofList]
    · rw [String.toList_ofList]
  · rintro ⟨rfl, hnumbers, rest, rfl, hrest⟩
    have hposition := spanPosition?_eq_some_iff.mpr ⟨rfl, hnumbers, hrest⟩
    rw [if_pos (List.isPrefixOf_iff_prefix.mpr (List.prefix_append _ _)), List.drop_left, hposition]
    show some (⟨port.family, String.ofList port.position.toList⟩ : Port) = some port
    rw [String.ofList_toList]

/-- Both families are tried, and not more than one of them is found. -/
theorem ofInterface?_eq_some_iff {interface : String} {port : Port} :
    ofInterface? interface = some port ↔
      ∃ family, positionAfter? family interface.toList = some port := by
  rw [ofInterface?]
  constructor
  · intro h
    rcases Option.or_eq_some_iff.mp h with h | ⟨-, h⟩
    · exact ⟨.gigabit, h⟩
    · exact ⟨.tenGigabit, h⟩
  · rintro ⟨family, h⟩
    cases family with
    | gigabit => rw [h, Option.some_or]
    | tenGigabit =>
      have hnone : positionAfter? .gigabit interface.toList = none := by
        by_contra hsome
        obtain ⟨other, hother⟩ := Option.ne_none_iff_exists'.mp hsome
        obtain ⟨-, -, _, hten, -⟩ := positionAfter?_eq_some_iff.mp h
        obtain ⟨-, -, _, hone, -⟩ := positionAfter?_eq_some_iff.mp hother
        cases family_eq_of_append (hone.symm.trans hten)
      rw [hnone, Option.none_or, h]

/-- **The port that is found is the one that the name starts with.** -/
theorem heads_iff {interface : String} {port : Port} :
    port.Heads interface ↔ ofInterface? interface = some port := by
  simp only [ofInterface?_eq_some_iff, positionAfter?_eq_some_iff, exists_eq_left', Heads]
  refine and_congr_right fun _ => ?_
  constructor
  · rintro ⟨rest, rfl, hrest⟩
    exact ⟨rest.toList, by simp, hrest⟩
  · rintro ⟨rest, hinterface, hrest⟩
    refine ⟨String.ofList rest, ?_, by rwa [String.toList_ofList]⟩
    rw [← String.toList_inj, hinterface]
    simp

/-- A position goes on with all digits that follow it. -/
theorem IsTriple.append {position : String} (h : IsTriple position) {digits : List Char}
    (hdigits : ∀ c ∈ digits, isDecimalDigit c = true) :
    IsTriple (position ++ String.ofList digits) := by
  obtain ⟨a, b, c, hposition, ha, hb, hne, hc⟩ := h
  refine ⟨a, b, c ++ digits, by simp [hposition], ha, hb, by simp [hne], ?_⟩
  intro d hd
  rcases List.mem_append.mp hd with hd | hd
  · exact hc d hd
  · exact hdigits d hd

/-- A name that starts with the name of a family and a position starts with a port, whose position
goes on with all digits that follow. -/
theorem exists_heads (family : PortFamily) {position : String} (h : IsTriple position)
    (rest : String) :
    ∃ digits, Heads ⟨family, position ++ digits⟩ (family.name ++ position ++ rest) := by
  refine ⟨String.ofList (rest.toList.takeWhile isDecimalDigit),
    h.append fun c hc => List.mem_takeWhile_imp hc,
    String.ofList (rest.toList.dropWhile isDecimalDigit), ?_, ?_⟩
  · rw [← String.toList_inj]
    simp [List.takeWhile_append_dropWhile]
  · rw [String.toList_ofList]
    exact noDigitFirst_dropWhile _

/-- **The names that have ports, and the ports that they have.** The port of a name is the one that
the name starts with, by the name of its family and a position of three numbers, with no digit after
it. A name starts with at most one port; if it starts with the name of a family and a position at
all, it has a port, and the position is the longest one. Hence what is recognised is recognised
again, whatever follows it, if no digit does.

**Proof sketch.** A number is split off exactly if no digit follows it, so by induction on how many
numbers are left the same holds of a position; a slash is no digit. As no text starts with the names
of both families, it makes no difference which one is tried first. -/
theorem ofInterface?_grammar (interface : String) :
    (∀ port, ofInterface? interface = some port ↔ port.Heads interface) ∧
    (∀ port other : Port, port.Heads interface → other.Heads interface → port = other) ∧
    (∀ family position rest, IsTriple position → interface = family.name ++ position ++ rest →
      ∃ digits, ofInterface? interface = some ⟨family, position ++ digits⟩) ∧
    ∀ port suffix, ofInterface? interface = some port → NoDigitFirst suffix.toList →
      ofInterface? (port.family.name ++ port.position ++ suffix) = some port := by
  refine ⟨fun port => heads_iff.symm, ?_, ?_, ?_⟩
  · intro port other hport hother
    exact Option.some.inj ((heads_iff.mp hport).symm.trans (heads_iff.mp hother))
  · rintro family position rest hposition rfl
    obtain ⟨digits, hheads⟩ := exists_heads family hposition rest
    exact ⟨digits, heads_iff.mp hheads⟩
  · intro port suffix hport hsuffix
    have hposition : IsTriple port.position := (heads_iff.mpr hport).1
    exact heads_iff.mp ⟨hposition, suffix, rfl, hsuffix⟩

/-- A subinterface stands for the port it runs over, and digits may be of any script. -/
example : ofInterface? "TenGigabitEthernet2/01/٤٨.100" =
    some ⟨.tenGigabit, "2/01/٤٨"⟩ := by
  decide +kernel

end NetworkIntent.Port
