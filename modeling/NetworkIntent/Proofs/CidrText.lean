import NetworkIntent.Proofs.AddressText
import NetworkIntent.Proofs.Json.Scanned

/-!
# Texts of addresses with a mask read back

The text of an address with a mask has one form for each address and mask. Other texts may stand for
the same address with the same mask, such as one with zeros before the mask or with all groups of an
address of version 6. Whatever was read, what is written for it is the one form, and reading that
gives the same address and mask again: from the text itself, from its document, and from every
spelling of the document.

## Main results

* `Cidr.read_text`: an address with a mask is read back from its text.
* `Cidr.ofJson_toJson`, `Cidr.parse_of_spellsWhole`: it is read back from its document.
* `Cidr.text_canonical`: the texts have one form, whatever they were read from.
-/

set_option autoImplicit false

namespace NetworkIntent

namespace Cidr

open Json

/-- A text is split at its first slash. -/
theorem splitSlash?_append {before : List Char} (h : '/' ∉ before) (after : List Char) :
    splitSlash? (before ++ '/' :: after) = some (before, after) := by
  induction before with
  | nil => rfl
  | cons c before ih =>
    rw [List.mem_cons, not_or] at h
    obtain ⟨hc, hbefore⟩ := h
    rw [List.cons_append, splitSlash?, if_neg (Ne.symm hc), ih hbefore]
    rfl

/-- **An address with a mask is read back** from its text. -/
theorem read_text (cidr : Cidr) : read cidr.text = .ok cidr := by
  have hmask : cidr.mask ≤ 255 := by
    have hwidth : cidr.address.width ≤ 128 := by
      cases cidr.address <;> simp [IpAddress.width]
    have hle := cidr.mask_le
    omega
  rw [read, text, String.toList_ofList, write, splitSlash?_append cidr.address.no_slash]
  simp only [IpAddress.read?_write, readUnsigned?_toDigits hmask, dif_pos cidr.mask_le]

/-- The text with the mask is the bare address, a slash and the mask. -/
theorem text_eq (cidr : Cidr) : cidr.text = s!"{cidr.bare}/{cidr.mask}" := by
  have haddress : (toString cidr.bare).toList = cidr.address.write := String.toList_ofList
  have hslash : (toString "/").toList = ['/'] := rfl
  rw [← String.toList_inj]
  simp [text, write, haddress, hslash]

/-- An address with a mask is read back from its document. -/
theorem ofJson_toJson (cidr : Cidr) : decoder.ofJson cidr.toJson = .ok cidr := by
  have htext : Decoder.text.ofJson cidr.toJson = .ok cidr.text := Decoder.text_eq_ok_iff.mpr rfl
  simp only [decoder, Decoder.refine, Decoder.ofSingle, htext, bind, Except.bind, read_text,
    Except.mapError]
  rfl

/-- An address with a mask is read back from every spelling of its document. -/
theorem parse_of_spellsWhole (cidr : Cidr) {text : Bytes} (h : SpellsWhole cidr.toJson text) :
    decoder.parse text = .ok cidr := by
  have hscans : decoder.Scans 0 fun document other => document = other.toJson := by
    refine Decoder.Scans.ofSingle ?_ ?_
    · rintro _ other rfl part text rest hpart htext -
      exact ⟨_, SpellsText.readWith none hpart htext, rfl⟩
    · rintro _ other rfl
      exact other.ofJson_toJson
  exact hscans.parse (Nat.zero_le _) rfl h

/-- **The text of an address with a mask is its one form.** It is read back for every address and
every mask that fits it. Whatever text an address with a mask was read from, the mask fits the
address, the text that is written is the bare address, a slash and the mask, and the same address
and mask are read from it again, from its document and from every spelling of the document. The
bare address is four decimal parts or the written form of eight groups.

**Proof sketch.** Digits are read back up to the first character that is none, so parts of an
address and groups are read back one after the other. Before two colons no further group is read;
the zeros that were left out are counted from the groups before and after them. There is no slash
in an address, so the text is split before the mask. -/
theorem text_canonical :
    (∀ (address : Ipv4) (mask : Nat) (h : mask ≤ 32),
      read (text ⟨.v4 address, mask, h⟩) = .ok ⟨.v4 address, mask, h⟩) ∧
    (∀ (address : Ipv6) (mask : Nat) (h : mask ≤ 128),
      read (text ⟨.v6 address, mask, h⟩) = .ok ⟨.v6 address, mask, h⟩) ∧
    (∀ (source : String) (cidr : Cidr), read source = .ok cidr →
      cidr.mask ≤ (if cidr.address.isV6 then 128 else 32) ∧
      cidr.text = s!"{cidr.bare}/{cidr.mask}" ∧
      read cidr.text = .ok cidr ∧
      decoder.ofJson cidr.toJson = .ok cidr ∧
      ∀ spelling, SpellsWhole cidr.toJson spelling → decoder.parse spelling = .ok cidr) ∧
    (∀ address : Ipv4, (IpAddress.v4 address).text =
      s!"{address.a}.{address.b}.{address.c}.{address.d}") ∧
    ∀ (address : Ipv6) (cs : List Char),
      (IpAddress.v6 address).text = String.ofList cs ↔ Ipv6.Written address.groups cs := by
  refine ⟨fun address mask h => read_text _, fun address mask h => read_text _, ?_,
    Ipv4.ofList_write, fun address cs => ?_⟩
  · intro source cidr _
    refine ⟨?_, cidr.text_eq, cidr.read_text, cidr.ofJson_toJson, fun spelling hspelling =>
      cidr.parse_of_spellsWhole hspelling⟩
    obtain ⟨address, mask, hmask⟩ := cidr
    cases address with
    | v4 => exact hmask
    | v6 => exact hmask
  · constructor
    · intro h
      obtain rfl : address.write = cs := String.ofList_injective h
      exact address.written_write
    · intro h
      exact congrArg String.ofList (address.written_write.unique h)

/-- Zeros and capitals are not kept, and the first of two longest runs is left out. -/
theorem text_canonical_shortened :
    let cidr : Cidr := ⟨.v6 ⟨[0x2001, 0xDB8, 0, 0, 1, 0, 0, 1], rfl⟩, 64, by decide⟩
    read "2001:0DB8:0:0:1::1/+064" = .ok cidr ∧ cidr.text = "2001:db8::1:0:0:1/64" ∧
      read cidr.text = .ok cidr := by
  intro cidr
  have hread : read "2001:0DB8:0:0:1::1/+064" = .ok cidr := by decide +kernel
  have htext : cidr.text = "2001:db8::1:0:0:1/64" := by decide +kernel
  exact ⟨hread, htext, (text_canonical.2.2.1 _ cidr hread).2.2.1⟩

end Cidr

end NetworkIntent
