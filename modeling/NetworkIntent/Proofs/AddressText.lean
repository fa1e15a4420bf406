import Mathlib.Data.List.TakeWhile
import NetworkIntent.Proofs.Address
import NetworkIntent.Proofs.Numeral

/-!
# Texts of addresses read back

An address is read back from the text that is written for it. One of version 4 has a single text.
One of version 6 has many, since any run of zero groups may be left out, and its last two groups may
be written as an address of version 4; of these just one is written.

That text is described here apart from how it is found. If the address stands for one of version 4,
it shows that one. If there are two zero groups next to each other, it leaves out the first of the
longest runs of zero groups. Otherwise it shows all groups.

## Main definitions

* `Ipv6.HasRun`, `Ipv6.IsLongestRun`: runs of zero groups, and the first of the longest ones.
* `Ipv6.Written`: the text that is written for the groups of an address.

## Main results

* `Ipv4.readFrom?_write`, `Ipv6.readGroups_writeGroups`: the parts of texts are read back.
* `Ipv6.isLongestRun_longestZeroRun`: the search for the longest run finds the first of them.
* `Ipv6.written_write`, `Ipv6.Written.unique`: an address is written in its form, which is the only
  one.
* `IpAddress.read?_write`: an address is read back from its text.
-/

set_option autoImplicit false

namespace NetworkIntent

/-! ## Runs of digits -/

/-- A text that does not start with a digit has no digits at its start. -/
theorem takeWhile_isSome_eq_nil {value : Char → Option Nat} {cs : List Char}
    (h : ∀ c ∈ cs.head?, value c = none) : cs.takeWhile (fun c => (value c).isSome) = [] := by
  cases cs with
  | nil => rfl
  | cons c cs => simp [h c (by simp)]

/-- **A numeral is read back** from the start of a text that does not go on with a digit. -/
theorem readRun?_toDigits {value : Char → Option Nat} {base most n : Nat} {rest : List Char}
    (hbase : 1 < base) (hvalue : ∀ d < base, value (Nat.digitChar d) = some d) (hmost : 0 < most)
    (h : n < base ^ most) (hrest : ∀ c ∈ rest.head?, value c = none) :
    readRun? value base most (Nat.toDigits base n ++ rest) = some (n, rest) := by
  obtain ⟨digits, hmap, hdigits⟩ := exists_values_toDigits hbase hvalue n
  have hlength : (Nat.toDigits base n).length = digits.length := by
    simpa using congrArg List.length hmap
  have hsome : ∀ c ∈ Nat.toDigits base n, (value c).isSome = true := by
    intro c hc
    obtain ⟨d, hd, rfl⟩ := exists_of_mem_toDigits hbase hc
    rw [hvalue d hd, Option.isSome_some]
  have hvalues : (Nat.toDigits base n).filterMap value = digits := by
    calc
      (Nat.toDigits base n).filterMap value = ((Nat.toDigits base n).map value).filterMap id :=
        (List.filterMap_map (f := value) (g := id)).symm
      _ = digits.filterMap some := by rw [hmap, List.filterMap_map, Function.id_comp]
      _ = digits := List.filterMap_some
  have hle := (Nat.length_toDigits_le_iff hbase hmost).mpr h
  have hne : digits ≠ [] := by
    rintro rfl
    exact Nat.toDigits_ne_nil (List.length_eq_zero_iff.mp hlength)
  rw [readRun?, List.takeWhile_append_of_pos hsome, takeWhile_isSome_eq_nil hrest,
    List.append_nil, hvalues]
  rw [if_neg (by simp [hne]; omega), hdigits, ← hlength, List.drop_left]

/-- A text that does not start with a digit has no run of digits at its start. -/
theorem readRun?_eq_none {value : Char → Option Nat} {base most : Nat} {cs : List Char}
    (h : ∀ c ∈ cs.head?, value c = none) : readRun? value base most cs = none := by
  rw [readRun?, takeWhile_isSome_eq_nil h]
  rfl

/-! ## Version 4 -/

namespace Ipv4

/-- A part of an address is read back, if no digit follows. -/
theorem readPart?_toDigits (n : UInt8) {rest : List Char}
    (hrest : ∀ c ∈ rest.head?, digitValue? c = none) :
    readPart? (Nat.toDigits 10 n.toNat ++ rest) = some (n, rest) := by
  have hn : n.toNat < 256 := n.toNat_lt
  rw [readPart?, readRun?_toDigits (by decide) digitValue?_digitChar (by decide) (by omega) hrest]
  dsimp only
  rw [if_neg (by omega), if_neg, UInt8.ofNat_toNat]
  rintro ⟨hhead, hlength⟩
  rw [List.head?_append_of_ne_nil _ Nat.toDigits_ne_nil] at hhead
  by_cases hzero : n.toNat = 0
  · rw [hzero, Nat.toDigits_zero] at hlength
    exact hlength (by simp)
  · exact head?_toDigits_ne hzero hhead

/-- **An address of version 4 is read back** from the start of a text that does not go on with a
digit. -/
theorem readFrom?_write (address : Ipv4) {rest : List Char}
    (hrest : ∀ c ∈ rest.head?, digitValue? c = none) :
    readFrom? (address.write ++ rest) = some (address, rest) := by
  have hpoint : ∀ cs : List Char, ∀ c ∈ ('.' :: cs).head?, digitValue? c = none := by
    intro cs c hc
    obtain rfl : '.' = c := by simpa using hc
    decide
  simp only [write, List.append_assoc, List.cons_append]
  simp only [readFrom?, readNextPart?, readPart?_toDigits _ (hpoint _), readPart?_toDigits _ hrest,
    Option.bind_eq_bind, Option.bind_some, Option.pure_def]

/-- An address is read back from its whole text. -/
theorem readFrom?_write_all (address : Ipv4) : readFrom? address.write = some (address, []) := by
  have hread : readFrom? (address.write ++ []) = some (address, []) :=
    readFrom?_write address (by simp)
  rwa [List.append_nil] at hread

/-- After a part of an address there is a part of the text. -/
theorem exists_drop_of_readPart? {cs rest : List Char} {n : UInt8}
    (h : readPart? cs = some (n, rest)) : ∃ count, rest = cs.drop count := by
  rw [readPart?] at h
  split at h
  · cases h
  · next hrun =>
    obtain ⟨count, rfl⟩ := exists_drop_of_readRun? hrun
    split at h
    · cases h
    · split at h
      · cases h
      · exact ⟨count, (congrArg Prod.snd (Option.some.inj h)).symm⟩

/-- A text without points has no address of version 4 at its start. -/
theorem readFrom?_eq_none {cs : List Char} (h : '.' ∉ cs) : readFrom? cs = none := by
  cases hpart : readPart? cs with
  | none => simp [readFrom?, hpart]
  | some found =>
    obtain ⟨a, rest⟩ := found
    obtain ⟨count, rfl⟩ := exists_drop_of_readPart? hpart
    have hrest : '.' ∉ cs.drop count := fun hmem => h (List.mem_of_mem_drop hmem)
    have hnext : readNextPart? (cs.drop count) = none := by
      unfold readNextPart?
      split
      · next heq => exact absurd (heq ▸ List.mem_cons_self) hrest
      · rfl
    simp [readFrom?, hpart, hnext]

/-- There is no slash in the text of an address. -/
theorem no_slash (address : Ipv4) : '/' ∉ address.write := by
  have hpart : ∀ n : UInt8, '/' ∉ Nat.toDigits 10 n.toNat := fun n hmem =>
    absurd (Nat.isDigit_of_mem_toDigits (by decide) (by decide) hmem) (by decide)
  simp [write, hpart]

/-- The text of an address is its four parts, joined by points. -/
theorem ofList_write (address : Ipv4) : String.ofList address.write =
    s!"{address.a}.{address.b}.{address.c}.{address.d}" := by
  have hpart : ∀ n : UInt8, (toString n).toList = Nat.toDigits 10 n.toNat := fun n =>
    String.toList_ofList
  have hpoint : (toString ".").toList = ['.'] := rfl
  rw [← String.toList_inj]
  simp [write, hpart, hpoint]

/-- Addresses of the same two groups are the same. -/
theorem groups_inj {address other : Ipv4} : address.groups = other.groups ↔ address = other := by
  have hgroup : ∀ high low : UInt8, (high.toUInt16 * 256 + low.toUInt16).toNat =
      high.toNat * 256 + low.toNat := by
    intro high low
    have hhigh := high.toNat_lt
    have hlow := low.toNat_lt
    simp
    omega
  have hbytes : ∀ high low high' low' : UInt8, high.toUInt16 * 256 + low.toUInt16 =
      high'.toUInt16 * 256 + low'.toUInt16 → high = high' ∧ low = low' := by
    intro high low high' low' heq
    have hnat := congrArg UInt16.toNat heq
    rw [hgroup, hgroup] at hnat
    have hlow := low.toNat_lt
    have hlow' := low'.toNat_lt
    rw [← UInt8.toNat_inj, ← UInt8.toNat_inj]
    omega
  constructor
  · intro heq
    obtain ⟨hfirst, hrest⟩ := List.cons.inj heq
    obtain ⟨ha, hb⟩ := hbytes _ _ _ _ hfirst
    obtain ⟨hc, hd⟩ := hbytes _ _ _ _ (List.cons.inj hrest).1
    cases address
    cases other
    rw [mk.injEq]
    exact ⟨ha, hb, hc, hd⟩
  · intro heq
    rw [heq]

/-- The address of two groups takes up these groups. -/
theorem groups_ofGroups (high low : UInt16) : (ofGroups high low).groups = [high, low] := by
  have hgroup : ∀ n : UInt16, (n / 256).toUInt8.toUInt16 * 256 + n.toUInt8.toUInt16 = n := by
    intro n
    have hn := n.toNat_lt
    apply UInt16.toNat_inj.mp
    simp
    omega
  rw [groups, ofGroups, hgroup, hgroup]

end Ipv4

/-! ## Version 6 -/

namespace Ipv6

/-- Groups after others, each behind a colon. -/
def writeMore (groups : List UInt16) : List Char :=
  groups.flatMap fun group => ':' :: hexNumeral group.toNat

/-- Groups are the first one and others after it. -/
theorem writeGroups_cons (group : UInt16) (groups : List UInt16) :
    writeGroups (group :: groups) = hexNumeral group.toNat ++ writeMore groups := by
  induction groups generalizing group with
  | nil => simp [writeGroups, writeMore, List.intercalate]
  | cons next groups ih =>
    have hjoin : writeGroups (group :: next :: groups) =
        hexNumeral group.toNat ++ ':' :: writeGroups (next :: groups) := by
      simp [writeGroups, List.intercalate]
    rw [hjoin, ih]
    rfl

/-- Groups are written with hexadecimal digits and colons. -/
theorem not_mem_writeGroups {c : Char} (hcolon : c ≠ ':') (hdigit : hexValue? c = none)
    (groups : List UInt16) : c ∉ writeGroups groups := by
  have hgroup : ∀ group : UInt16, c ∉ hexNumeral group.toNat := by
    intro group hmem
    obtain ⟨d, hd, rfl⟩ := exists_of_mem_toDigits (by decide) hmem
    rw [hexValue?_digitChar d hd] at hdigit
    cases hdigit
  cases groups with
  | nil => exact List.not_mem_nil
  | cons group groups =>
    rw [writeGroups_cons, writeMore]
    simp [hgroup, hcolon]

/-- What may come after the groups that are read: nothing, or two colons. -/
def EndsGroups (rest : List Char) : Prop :=
  rest = [] ∨ ∃ after, rest = ':' :: ':' :: after

/-- A group is read back, if no digit follows. -/
theorem readGroup?_hexNumeral (group : UInt16) {rest : List Char}
    (hrest : ∀ c ∈ rest.head?, hexValue? c = none) :
    readGroup? (hexNumeral group.toNat ++ rest) = some (group, rest) := by
  have hgroup := group.toNat_lt
  rw [readGroup?, hexNumeral, readRun?_toDigits (by decide) hexValue?_digitChar (by decide)
    (by omega) hrest]
  simp

/-- At a colon and at the end of a text there is no address of version 4, and no group. -/
theorem read_eq_none_of_head {cs : List Char} (h : ∀ c ∈ cs.head?, c = ':') :
    Ipv4.readFrom? cs = none ∧ readGroup? cs = none := by
  constructor
  · have hpart : Ipv4.readPart? cs = none := by
      rw [Ipv4.readPart?, readRun?_eq_none]
      intro c hc
      rw [h c hc]
      decide
    rw [Ipv4.readFrom?, hpart]
    rfl
  · rw [readGroup?, readRun?_eq_none, Option.map_eq_map, Option.map_none]
    intro c hc
    rw [h c hc]
    decide

/-- A group is read before the others. -/
theorem readGroups_group {limit : Nat} {first embedded : Bool} {cs body next rest : List Char}
    {group : UInt16} {groups : List UInt16} (hbody : afterColon? first cs = some body)
    (hv4 : Ipv4.readFrom? body = none) (hgroup : readGroup? body = some (group, next))
    (hmore : readGroups limit false next = (groups, embedded, rest)) :
    readGroups (limit + 1) first cs = (group :: groups, embedded, rest) := by
  simp [readGroups, hbody, hv4, hgroup, hmore]

/-- Where the groups end, no further one is read. -/
theorem readGroups_of_end {rest : List Char} (hrest : EndsGroups rest) (limit : Nat)
    (first : Bool) : readGroups limit first rest = ([], false, rest) := by
  cases limit with
  | zero => rfl
  | succ limit =>
    have hnone (body : List Char) (hbody : ∀ c ∈ body.head?, c = ':')
        (hafter : afterColon? first rest = some body) :
        readGroups (limit + 1) first rest = ([], false, rest) := by
      obtain ⟨hv4, hgroup⟩ := read_eq_none_of_head hbody
      simp [readGroups, hafter, hv4, hgroup]
    rcases hrest with rfl | ⟨after, rfl⟩
    · cases first with
      | true => exact hnone [] (by simp) rfl
      | false => rfl
    · cases first with
      | true => exact hnone (':' :: ':' :: after) (by simp) rfl
      | false => exact hnone (':' :: after) (by simp) rfl

section Groups

variable {rest : List Char} (hrest : EndsGroups rest) (hpoint : '.' ∉ rest)

include hrest hpoint

/-- One group is read back, and then those after it. It is not taken for the start of an address of
version 4, since there are no points further on. -/
theorem readGroups_step {group : UInt16} {groups : List UInt16} {limit : Nat} {first : Bool}
    {cs : List Char} (hbody : afterColon? first cs = some (writeGroups (group :: groups) ++ rest))
    (hmore : readGroups limit false (writeMore groups ++ rest) = (groups, false, rest)) :
    readGroups (limit + 1) first cs = (group :: groups, false, rest) := by
  have hv4 : Ipv4.readFrom? (writeGroups (group :: groups) ++ rest) = none := by
    apply Ipv4.readFrom?_eq_none
    rw [List.mem_append, not_or]
    exact ⟨not_mem_writeGroups (by decide) (by decide) _, hpoint⟩
  have hnext : ∀ c ∈ (writeMore groups ++ rest).head?, hexValue? c = none := by
    intro c hc
    obtain rfl : ':' = c := by
      cases groups with
      | cons => simpa [writeMore] using hc
      | nil =>
        rcases hrest with rfl | ⟨after, rfl⟩
        · cases hc
        · simpa [writeMore] using hc
    decide
  have hgroup : readGroup? (writeGroups (group :: groups) ++ rest) =
      some (group, writeMore groups ++ rest) := by
    rw [writeGroups_cons, List.append_assoc, readGroup?_hexNumeral group hnext]
  exact readGroups_group hbody hv4 hgroup hmore

/-- Groups after others are read back, to the end of the groups. -/
theorem readGroups_writeMore {groups : List UInt16} {limit : Nat}
    (hlimit : groups.length ≤ limit) :
    readGroups limit false (writeMore groups ++ rest) = (groups, false, rest) := by
  induction groups generalizing limit with
  | nil => exact readGroups_of_end hrest limit false
  | cons group groups ih =>
    obtain ⟨limit, rfl⟩ : ∃ fewer, limit = fewer + 1 := ⟨limit - 1, by simp at hlimit; omega⟩
    refine readGroups_step hrest hpoint ?_ (ih (by simpa using hlimit))
    rw [writeGroups_cons]
    rfl

/-- **Groups are read back**, to the end of the groups. -/
theorem readGroups_writeGroups {groups : List UInt16} {limit : Nat}
    (hlimit : groups.length ≤ limit) :
    readGroups limit true (writeGroups groups ++ rest) = (groups, false, rest) := by
  cases groups with
  | nil => exact readGroups_of_end hrest limit true
  | cons group groups =>
    obtain ⟨limit, rfl⟩ : ∃ fewer, limit = fewer + 1 := ⟨limit - 1, by simp at hlimit; omega⟩
    exact readGroups_step hrest hpoint rfl
      (readGroups_writeMore hrest hpoint (by simpa using hlimit))

end Groups

/-- Groups are read back from their whole text. -/
theorem readGroups_writeGroups_all {groups : List UInt16} {limit : Nat}
    (hlimit : groups.length ≤ limit) :
    readGroups limit true (writeGroups groups) = (groups, false, []) := by
  have hread : readGroups limit true (writeGroups groups ++ []) = (groups, false, []) :=
    readGroups_writeGroups (.inl rfl) List.not_mem_nil hlimit
  rwa [List.append_nil] at hread

/-- **The address of version 4 that one of version 6 stands for is read back** after its groups of
zeros. -/
theorem readGroups_mapped (address : Ipv4) (limit : Nat) :
    readGroups (limit + 3) true ("ffff:".toList ++ address.write) =
      (0xFFFF :: address.groups, true, []) := by
  have hv4 : Ipv4.readFrom? ("ffff:".toList ++ address.write) = none := by
    rw [Ipv4.readFrom?, Ipv4.readPart?, readRun?_eq_none (by simp; decide)]
    rfl
  have hgroup : readGroup? ("ffff:".toList ++ address.write) =
      some (0xFFFF, ':' :: address.write) :=
    readGroup?_hexNumeral 0xFFFF (by simp; decide)
  refine readGroups_group rfl hv4 hgroup ?_
  simp [readGroups, afterColon?, Ipv4.readFrom?_write_all address]

/-! ### The longest run -/

/-- A run of zero groups of an address, between other groups. -/
def HasRun (groups before : List UInt16) (count : Nat) (after : List UInt16) : Prop :=
  groups = before ++ List.replicate count 0 ++ after

/-- The first of the longest runs of zero groups. -/
structure IsLongestRun (groups before : List UInt16) (count : Nat) (after : List UInt16) :
    Prop where
  hasRun : HasRun groups before count after
  longest : ∀ before' count' after', HasRun groups before' count' after' → count' ≤ count
  first : ∀ before' after', HasRun groups before' count after' → before.length ≤ before'.length

/-- From each position on there is a run of as many zero groups as are counted there. -/
theorem hasRun_zeroRun (groups : List UInt16) (start : Nat) :
    HasRun groups (groups.take start) (zeroRun groups start)
      (groups.drop (start + zeroRun groups start)) := by
  have hzeros : (groups.drop start).takeWhile (· = 0) =
      List.replicate (zeroRun groups start) 0 := by
    rw [List.eq_replicate_iff]
    exact ⟨rfl, fun group hmem => by simpa using List.mem_takeWhile_imp hmem⟩
  have hafter : groups.drop (start + zeroRun groups start) =
      (groups.drop start).dropWhile (· = 0) := by
    rw [← List.drop_drop, zeroRun]
    generalize groups.drop start = later
    calc
      later.drop (later.takeWhile (· = 0)).length =
          (later.takeWhile (· = 0) ++ later.dropWhile (· = 0)).drop
            (later.takeWhile (· = 0)).length := by rw [List.takeWhile_append_dropWhile]
      _ = later.dropWhile (· = 0) := List.drop_left
  unfold HasRun
  rw [hafter, ← hzeros, List.append_assoc, List.takeWhile_append_dropWhile, List.take_append_drop]

/-- No run is longer than what is counted at its start. -/
theorem HasRun.le_zeroRun {groups before after : List UInt16} {count : Nat}
    (h : HasRun groups before count after) : count ≤ zeroRun groups before.length := by
  rw [h, zeroRun, List.append_assoc, List.drop_left,
    List.takeWhile_append_of_pos (by simp +contextual), List.length_append, List.length_replicate]
  exact Nat.le_add_right _ _

/-- The search over the first positions finds the longest run that starts at one of these, the first
of several. -/
theorem search_spec (groups : List UInt16) (count : Nat) :
    let found := (List.range count).foldl
      (fun (found : Nat × Nat) i =>
        if found.2 < zeroRun groups i then (i, zeroRun groups i) else found) (0, 0)
    (0 < found.2 → zeroRun groups found.1 = found.2) ∧
      (∀ i < count, zeroRun groups i ≤ found.2) ∧ ∀ i < found.1, zeroRun groups i < found.2 := by
  induction count with
  | zero => simp
  | succ count ih =>
    rw [List.range_succ, List.foldl_append]
    revert ih
    generalize (List.range count).foldl _ _ = found
    obtain ⟨start, length⟩ := found
    intro ⟨hrun, hle, hlt⟩
    dsimp only [List.foldl_cons, List.foldl_nil] at *
    -- Only a longer run takes the place of what was found, so the first of several stays.
    by_cases hlonger : length < zeroRun groups count
    · rw [if_pos hlonger]
      refine ⟨fun _ => rfl, fun i hi => ?_, fun i hi => ?_⟩
      · rcases Nat.lt_succ_iff_lt_or_eq.mp hi with hi | rfl
        · exact (hle i hi).trans hlonger.le
        · exact Nat.le_refl _
      · exact (hle i hi).trans_lt hlonger
    · rw [if_neg hlonger]
      refine ⟨hrun, fun i hi => ?_, hlt⟩
      rcases Nat.lt_succ_iff_lt_or_eq.mp hi with hi | rfl
      · exact hle i hi
      · exact Nat.le_of_not_lt hlonger

/-- No run is longer than what the search finds. -/
theorem HasRun.le_longestZeroRun {groups before after : List UInt16} {count : Nat}
    (h : HasRun groups before count after) : count ≤ (longestZeroRun groups).2 := by
  obtain ⟨-, hle, -⟩ := search_spec groups groups.length
  refine h.le_zeroRun.trans ?_
  by_cases hbefore : before.length < groups.length
  · exact hle _ hbefore
  · rw [zeroRun, List.drop_eq_nil_of_le (by omega)]
    exact Nat.zero_le _

/-- The search finds the longest run, the first of several, if there are zero groups at all. -/
theorem isLongestRun_longestZeroRun {groups : List UInt16} {start count : Nat}
    (h : longestZeroRun groups = (start, count)) (hcount : 0 < count) :
    IsLongestRun groups (groups.take start) count (groups.drop (start + count)) := by
  obtain ⟨hrun, -, hlt⟩ := search_spec groups groups.length
  unfold longestZeroRun at h
  rw [h] at hrun hlt
  dsimp only at hrun hlt
  refine ⟨?_, fun before' count' after' h' => ?_, fun before' after' h' => ?_⟩
  · have hgroups := hasRun_zeroRun groups start
    rwa [hrun hcount] at hgroups
  · have hle := h'.le_longestZeroRun
    unfold longestZeroRun at hle
    rwa [h] at hle
  · by_contra hbefore
    have hstart : before'.length < start := by
      rw [List.length_take] at hbefore
      omega
    exact absurd h'.le_zeroRun (Nat.not_le.mpr (hlt _ hstart))

/-- There is at most one first of the longest runs. -/
theorem IsLongestRun.unique {groups before before' after after' : List UInt16} {count count' : Nat}
    (h : IsLongestRun groups before count after) (h' : IsLongestRun groups before' count' after') :
    before = before' ∧ count = count' ∧ after = after' := by
  obtain rfl : count = count' :=
    Nat.le_antisymm (h'.longest _ _ _ h.hasRun) (h.longest _ _ _ h'.hasRun)
  have hlength : before.length = before'.length :=
    Nat.le_antisymm (h.first _ _ h'.hasRun) (h'.first _ _ h.hasRun)
  have hgroups := h.hasRun.symm.trans h'.hasRun
  rw [List.append_assoc, List.append_assoc] at hgroups
  obtain ⟨hbefore, hrest⟩ := List.append_inj hgroups hlength
  exact ⟨hbefore, rfl, List.append_cancel_left hrest⟩

/-! ### Written forms -/

/-- The groups of an address that stands for one of version 4. -/
def IsMapped (groups : List UInt16) : Prop :=
  ∃ address : Ipv4, groups = [0, 0, 0, 0, 0, 0xFFFF] ++ address.groups

/-- The text that is written for the groups of an address. -/
inductive Written (groups : List UInt16) : List Char → Prop where
  /-- The address of version 4 that is stood for is shown. -/
  | mapped (address : Ipv4) (hgroups : groups = [0, 0, 0, 0, 0, 0xFFFF] ++ address.groups) :
    Written groups ("::ffff:".toList ++ address.write)
  /-- The first of the longest runs of zero groups is left out, if it has at least two. -/
  | compressed (hmapped : ¬IsMapped groups) (before : List UInt16) (count : Nat)
    (after : List UInt16) (hrun : IsLongestRun groups before count after) (hcount : 1 < count) :
    Written groups (writeGroups before ++ "::".toList ++ writeGroups after)
  /-- All groups are shown, if there are no two zero groups next to each other. -/
  | full (hmapped : ¬IsMapped groups)
    (hruns : ∀ before count after, HasRun groups before count after → count ≤ 1) :
    Written groups (writeGroups groups)

/-- An address is written in its form. -/
theorem written_write (address : Ipv6) : Written address.groups address.write := by
  unfold write
  split
  · next high low hgroups =>
    refine .mapped (Ipv4.ofGroups high low) ?_
    rw [hgroups, Ipv4.groups_ofGroups]
    rfl
  · next hother =>
    have hmapped : ¬IsMapped address.groups := by
      rintro ⟨v4, hgroups⟩
      exact hother _ _ hgroups
    rw [writePlain]
    cases hfound : longestZeroRun address.groups with
    | mk start count =>
      by_cases hcount : 1 < count
      · have hrun := isLongestRun_longestZeroRun hfound (by omega)
        have hwritten := Written.compressed hmapped _ _ _ hrun hcount
        simpa [hcount] using hwritten
      · have hruns : ∀ before' count' after', HasRun address.groups before' count' after' →
            count' ≤ 1 := by
          intro before' count' after' h
          have hle := h.le_longestZeroRun
          rw [hfound] at hle
          omega
        simpa [hcount] using Written.full hmapped hruns

/-- An address has just one written form. -/
theorem Written.unique {groups : List UInt16} {cs ds : List Char} (hcs : Written groups cs)
    (hds : Written groups ds) : cs = ds := by
  cases hcs with
  | mapped v4 hv4 =>
    cases hds with
    | mapped v4' hv4' =>
      have hgroups : v4.groups = v4'.groups := List.append_cancel_left (hv4.symm.trans hv4')
      rw [Ipv4.groups_inj.mp hgroups]
    | compressed hmapped => exact absurd ⟨v4, hv4⟩ hmapped
    | full hmapped => exact absurd ⟨v4, hv4⟩ hmapped
  | compressed hmapped before count after hrun hcount =>
    cases hds with
    | mapped v4 hv4 => exact absurd ⟨v4, hv4⟩ hmapped
    | compressed _ before' count' after' hrun' _ =>
      obtain ⟨rfl, rfl, rfl⟩ := hrun.unique hrun'
      rfl
    | full _ hruns => exact absurd (hruns _ _ _ hrun.hasRun) (Nat.not_le.mpr hcount)
  | full hmapped hruns =>
    cases hds with
    | mapped v4 hv4 => exact absurd ⟨v4, hv4⟩ hmapped
    | compressed _ _ _ _ hrun hcount =>
      exact absurd (hruns _ _ _ hrun.hasRun) (Nat.not_le.mpr hcount)
    | full => rfl

/-- An address whose groups are those before and after two colons, with zeros between them, is read
back. -/
theorem read?_of_parts {address : Ipv6} {cs rest : List Char} {before after : List UInt16}
    {count : Nat} {embedded : Bool} (hrun : HasRun address.groups before count after)
    (hcount : 0 < count) (hhead : readGroups 8 true cs = (before, false, ':' :: ':' :: rest))
    (htail : readGroups (7 - before.length) true rest = (after, embedded, [])) :
    read? cs = some address := by
  obtain ⟨groups, hlength⟩ := address
  obtain rfl : groups = before ++ List.replicate count 0 ++ after := hrun
  have hsum : before.length + count + after.length = 8 := by
    simpa [Nat.add_assoc] using hlength
  have hzeros : 8 - before.length - after.length = count := by omega
  have hpart : before.length ≠ 8 := by omega
  simp only [read?, hhead, dif_neg hpart, Bool.false_eq_true, if_false, htail]
  simp only [ofParts?, hzeros, dif_pos hlength]

/-- **An address of version 6 is read back** from its written form. -/
theorem Written.read? {address : Ipv6} {cs : List Char} (h : Written address.groups cs) :
    read? cs = some address := by
  have hlength := address.length_groups
  cases h with
  | mapped v4 hv4 =>
    have hhead : readGroups 8 true ("::ffff:".toList ++ v4.write) =
        ([], false, ':' :: ':' :: ("ffff:".toList ++ v4.write)) :=
      readGroups_of_end (.inr ⟨_, rfl⟩) 8 true
    have hrun : HasRun address.groups [] 5 (0xFFFF :: v4.groups) := hv4
    exact read?_of_parts hrun (by decide) hhead (readGroups_mapped v4 4)
  | compressed _ before count after hrun hcount =>
    have hsum : before.length + count + after.length = 8 := by
      rw [← hlength, hrun.hasRun]
      simp [Nat.add_assoc]
    have hpoint : '.' ∉ writeGroups after := not_mem_writeGroups (by decide) (by decide) after
    have hhead : readGroups 8 true (writeGroups before ++ "::".toList ++ writeGroups after) =
        (before, false, ':' :: ':' :: writeGroups after) := by
      rw [List.append_assoc]
      exact readGroups_writeGroups (.inr ⟨_, rfl⟩) (by simp [hpoint]) (by omega)
    have htail : readGroups (7 - before.length) true (writeGroups after) = (after, false, []) :=
      readGroups_writeGroups_all (by omega)
    exact read?_of_parts hrun.hasRun (by omega) hhead htail
  | full =>
    have hgroups := readGroups_writeGroups_all hlength.le
    simp [Ipv6.read?, hgroups, hlength]

/-- There is no slash in the text of an address. -/
theorem Written.no_slash {groups : List UInt16} {cs : List Char} (h : Written groups cs) :
    '/' ∉ cs := by
  have hgroups (part : List UInt16) : '/' ∉ writeGroups part :=
    not_mem_writeGroups (by decide) (by decide) part
  cases h with
  | mapped v4 => simp [v4.no_slash]
  | compressed _ before count after => simp [hgroups]
  | full => exact hgroups groups

/-- An address that is not written as one of version 4 has no point in its text. -/
theorem Written.no_point_or_colon {groups : List UInt16} {cs : List Char}
    (h : Written groups cs) : '.' ∉ cs ∨ cs.head? = some ':' := by
  have hgroups (part : List UInt16) : '.' ∉ writeGroups part :=
    not_mem_writeGroups (by decide) (by decide) part
  cases h with
  | mapped v4 => exact .inr rfl
  | compressed _ before count after => exact .inl (by simp [hgroups])
  | full => exact .inl (hgroups groups)

end Ipv6

/-! ## Either version -/

namespace IpAddress

/-- **An address is read back** from its text. -/
theorem read?_write (address : IpAddress) : read? address.write = some address := by
  cases address with
  | v4 address =>
    rw [read?, write, Ipv4.readFrom?_write_all address]
  | v6 address =>
    have hwritten := address.written_write
    have hv4 : Ipv4.readFrom? address.write = none := by
      rcases hwritten.no_point_or_colon with hpoint | hcolon
      · exact Ipv4.readFrom?_eq_none hpoint
      · exact (Ipv6.read_eq_none_of_head (by simp [hcolon])).1
    rw [read?, write, hv4, hwritten.read?]
    rfl

/-- There is no slash in the text of an address. -/
theorem no_slash (address : IpAddress) : '/' ∉ address.write := by
  cases address with
  | v4 address => exact address.no_slash
  | v6 address => exact address.written_write.no_slash

end IpAddress

end NetworkIntent
