import Mathlib.Data.Nat.Digits.Defs
import NetworkIntent.Address.Cidr
import NetworkIntent.Proofs.Schema.Spelling

/-!
# Texts of addresses of version 4

A text that looks like an address of version 4 need not stand for one, since its parts may be too
great or have leading zeros. But if it stands for an address at all then for one of version 4, since
those of version 6 have colons; and the text that is written for it looks the same again.

## Main results

* `Ipv6.read?_eq_none`: a text without colons stands for no address of version 6.
* `Cidr.isIpv4_bare`, `Cidr.isIpv4Prefix_text`: the texts of what a text in the form of version 4
  stands for are in this form.
-/

set_option autoImplicit false

namespace NetworkIntent

open Schema

/-- After a run of digits there is a part of the text. -/
theorem exists_drop_of_readRun? {value : Char → Option Nat} {base most n : Nat}
    {cs rest : List Char} (h : readRun? value base most cs = some (n, rest)) :
    ∃ count, rest = cs.drop count := by
  rw [readRun?] at h
  split at h
  · cases h
  · exact ⟨_, (congrArg Prod.snd (Option.some.inj h)).symm⟩

/-! ## Version 6 -/

namespace Ipv6

/-- Without a colon no groups follow. -/
theorem readGroups_of_no_colon {cs : List Char} (h : ':' ∉ cs) (limit : Nat) :
    readGroups limit false cs = ([], false, cs) := by
  cases limit with
  | zero => rfl
  | succ limit =>
    have hcolon : afterColon? false cs = none := by
      rw [afterColon?, if_neg Bool.false_ne_true]
      rintro rest rfl
      exact h List.mem_cons_self
    rw [readGroups, hcolon]

/-- A text without colons stands for no address of version 6. -/
theorem read?_eq_none {cs : List Char} (h : ':' ∉ cs) : read? cs = none := by
  have hgroup (head : List UInt16) (hlength : head.length ≠ 8) (rest : List Char)
      (hgroups : readGroups 8 true cs = (head, false, rest)) (hrest : ':' ∉ rest) :
      read? cs = none := by
    rw [read?, hgroups]
    simp only [hlength, dif_neg, not_false_eq_true, Bool.false_eq_true, if_false]
    split
    next => exact absurd List.mem_cons_self hrest
    next => rfl
  cases hv4 : Ipv4.readFrom? cs with
  | some found =>
    obtain ⟨address, rest⟩ := found
    have hgroups : readGroups 8 true cs = (address.groups, true, rest) := by
      simp [readGroups, afterColon?, hv4]
    rw [read?, hgroups]
    simp [Ipv4.groups]
  | none =>
    cases hv6 : readGroup? cs with
    | none =>
      exact hgroup [] (by decide) cs (by simp [readGroups, afterColon?, hv4, hv6]) h
    | some found =>
      obtain ⟨group, rest⟩ := found
      have hrest : ':' ∉ rest := by
        obtain ⟨⟨n, rest⟩, hrun, ⟨⟩⟩ := Option.map_eq_some_iff.mp hv6
        obtain ⟨count, rfl⟩ := exists_drop_of_readRun? hrun
        exact fun hmem => h (List.mem_of_mem_drop hmem)
      have hgroups : readGroups 8 true cs = ([group], false, rest) := by
        rw [readGroups]
        simp [afterColon?, hv4, hv6, readGroups_of_no_colon hrest]
      exact hgroup [group] (by simp) rest hgroups hrest

end Ipv6

/-! ## Version 4 -/

/-- A number is written with ASCII digits. -/
theorem isDigits_toDigits (n : Nat) : IsDigits 1 none (Nat.toDigits 10 n) := by
  refine ⟨fun c hc => ?_, Nat.length_toDigits_pos, by simp⟩
  have hdigit := Nat.isDigit_of_mem_toDigits (by decide) (by decide) hc
  simpa [Char.isDigit, Char.le_def] using hdigit

/-- A number is written with no more digits than are needed for numbers of its size. -/
theorem isDigits_toDigits_of_lt {n count : Nat} (hcount : 0 < count) (h : n < 10 ^ count) :
    IsDigits 1 (some count) (Nat.toDigits 10 n) := by
  obtain ⟨hdigits, hpos, -⟩ := isDigits_toDigits n
  refine ⟨hdigits, hpos, fun most hmost => ?_⟩
  rw [← Option.some.inj hmost]
  exact (Nat.length_toDigits_le_iff (by decide) hcount).mpr h

/-- Addresses of version 4 are written in their form. -/
theorem Ipv4.isIpv4_write (address : Ipv4) : IsIpv4 address.write := by
  have hpart (n : UInt8) : IsDigits 1 (some 3) (Nat.toDigits 10 n.toNat) :=
    isDigits_toDigits_of_lt (by decide) (Nat.lt_trans n.toNat_lt (by decide))
  exact ⟨Nat.toDigits 10 address.a.toNat, Nat.toDigits 10 address.b.toNat,
    Nat.toDigits 10 address.c.toNat, Nat.toDigits 10 address.d.toNat, by simp [write],
    by simp [hpart]⟩

/-- A text in the form of version 4 has no colon. -/
theorem not_mem_of_isIpv4 {cs : List Char} (h : IsIpv4 cs) : ':' ∉ cs := by
  obtain ⟨a, b, c, d, rfl, hparts⟩ := h
  have hdigits {part : List Char} (hpart : part ∈ [a, b, c, d]) : ':' ∉ part :=
    fun hmem => absurd ((hparts part hpart).1 ':' hmem).2 (by decide)
  simp [hdigits]

namespace Cidr

/-- What comes before the first slash is a part of the text. -/
theorem splitSlash?_eq_some {cs before after : List Char}
    (h : splitSlash? cs = some (before, after)) : cs = before ++ '/' :: after := by
  induction cs generalizing before with
  | nil => cases h
  | cons c rest ih =>
    rw [splitSlash?] at h
    split at h
    next hslash =>
      obtain ⟨rfl, rfl⟩ := Prod.mk.inj (Option.some.inj h)
      rw [hslash, List.nil_append]
    next =>
      obtain ⟨⟨front, back⟩, hrest, heq⟩ := Option.map_eq_some_iff.mp h
      obtain ⟨rfl, rfl⟩ := Prod.mk.inj heq
      rw [ih hrest, List.cons_append]

/-- What a text in the form of version 4 stands for is an address of this version. -/
theorem exists_v4_of_read {text : String} (htext : IsIpv4Prefix text.toList) {cidr : Cidr}
    (h : read text = .ok cidr) : ∃ address, cidr.address = .v4 address := by
  have hcolon : ':' ∉ text.toList := by
    obtain ⟨address, mask, heq, haddress, hmask⟩ := htext
    have := not_mem_of_isIpv4 haddress
    have hdigits : ':' ∉ mask := fun hmem => absurd (hmask.1 ':' hmem).2 (by decide)
    simp [heq, this, hdigits]
  rw [read] at h
  split at h
  next => cases h
  next before after hsplit =>
    have hbefore : ':' ∉ before := fun hmem =>
      hcolon (splitSlash?_eq_some hsplit ▸ List.mem_append_left _ hmem)
    split at h
    next => cases h
    next address haddress =>
      have hv4 : ∃ found, address = .v4 found := by
        rw [IpAddress.read?] at haddress
        split at haddress
        next found _ => exact ⟨found, (Option.some.inj haddress).symm⟩
        next => simp [Ipv6.read?_eq_none hbefore] at haddress
      split at h
      next => cases h
      next =>
        split at h
        next => exact Except.ok.inj h ▸ hv4
        next => cases h

section Forms

variable {source : String} {cidr : Cidr} (htext : IsIpv4Prefix source.toList)
  (h : read source = .ok cidr)

include htext h

/-- The bare address is written in its form. -/
theorem isIpv4_bare : IsIpv4 cidr.bare.toList := by
  obtain ⟨address, haddress⟩ := exists_v4_of_read htext h
  rw [bare, IpAddress.text, haddress, String.toList_ofList]
  exact address.isIpv4_write

/-- The address with its mask is written in the form of version 4. -/
theorem isIpv4Prefix_text : IsIpv4Prefix cidr.text.toList := by
  obtain ⟨address, haddress⟩ := exists_v4_of_read htext h
  have hmask : cidr.mask < 10 ^ 2 := by
    have hle := cidr.mask_le
    rw [haddress, IpAddress.width] at hle
    omega
  rw [text, String.toList_ofList]
  refine ⟨address.write, Nat.toDigits 10 cidr.mask, ?_, address.isIpv4_write,
    isDigits_toDigits_of_lt (by decide) hmask⟩
  rw [write, haddress, IpAddress.write]

end Forms

end Cidr

end NetworkIntent
