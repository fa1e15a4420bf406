import NetworkIntent.Proofs.Base64
import NetworkIntent.Proofs.Utf8
import NetworkIntent.Publication.GitLab

/-!
# The text of a file of the service

A file comes as characters of Base64, with blanks wherever the service breaks its lines. The blanks
count for nothing, and all else has to be as it would be written: a lenient reading would find the
file of a publication unchanged although it is not.

## Main definitions

* `GitLab.StoredFile.Carries`: a content is a text in characters of Base64.
* `GitLab.StoredFile.characters`: these characters.

## Main results

* `GitLab.StoredFile.carries_iff`: what carries a text.
* `GitLab.StoredFile.decode_eq_ok_iff`: a file in Base64 has the text that its content carries.
* `GitLab.StoredFile.exists_of_decode_eq_error`: files in Base64 have only one kind of fault.
* `GitLab.StoredFile.decode_base64`: a file in Base64 is refused exactly if its content carries no
  text.
-/

set_option autoImplicit false

namespace NetworkIntent.GitLab.StoredFile

/-- A content is a text in characters of Base64: its bytes, blanks left out, are the encoding of the
bytes of the text. -/
def Carries (content text : String) : Prop :=
  Utf8.encode (dropBlanks content.toList) = Base64.encode (Utf8.ofString text)

/-- The characters of a text in Base64. -/
def characters (text : String) : List Char :=
  (Base64.encode (Utf8.ofString text)).map fun b => Char.ofNat b.toNat

variable {content : String}

/-! ## What carries a text -/

/-- What is written for bytes are characters of one byte each, and no blanks. -/
theorem encodeChar_of_mem_encode {b : UInt8} {bytes : Bytes} (h : b ∈ Base64.encode bytes) :
    Utf8.encodeChar (Char.ofNat b.toNat) = [b] ∧ isBlank (Char.ofNat b.toNat) = false := by
  have hdigits : ∀ n < 64,
      Utf8.encodeChar (Char.ofNat (Base64.digit n).toNat) = [Base64.digit n] ∧
        isBlank (Char.ofNat (Base64.digit n).toNat) = false := by decide +kernel
  rcases Base64.eq_of_mem_encode h with rfl | ⟨n, hn, rfl⟩
  · decide
  · exact hdigits n hn

/-- The bytes of the characters of a text in Base64 are the encoding of the text. -/
theorem encode_characters (text : String) :
    Utf8.encode (characters text) = Base64.encode (Utf8.ofString text) := by
  have hbytes : ∀ bytes : Bytes, (∀ b ∈ bytes, Utf8.encodeChar (Char.ofNat b.toNat) = [b]) →
      Utf8.encode (bytes.map fun b => Char.ofNat b.toNat) = bytes := by
    intro bytes hchars
    induction bytes with
    | nil => rfl
    | cons b bytes ih =>
      obtain ⟨hb, hrest⟩ := List.forall_mem_cons.mp hchars
      rw [List.map_cons, Utf8.encode_cons, hb, ih hrest, List.singleton_append]
  exact hbytes _ fun b hb => (encodeChar_of_mem_encode hb).1

/-- **A text is carried by its characters in Base64**, among which there may be any blanks, and by
nothing else. -/
theorem carries_iff {text : String} :
    Carries content text ↔ dropBlanks content.toList = characters text := by
  rw [Carries, ← encode_characters]
  refine ⟨fun h => ?_, fun h => by rw [h]⟩
  have hdecoded := congrArg Utf8.decode h
  rw [Utf8.decode_encode, Utf8.decode_encode] at hdecoded
  exact Except.ok.inj hdecoded

/-- There are no blanks among the characters themselves. -/
theorem dropBlanks_characters (text : String) : dropBlanks (characters text) = characters text := by
  refine List.filter_eq_self.mpr ?_
  intro c hc
  obtain ⟨b, hb, rfl⟩ := List.mem_map.mp hc
  rw [(encodeChar_of_mem_encode hb).2]
  rfl

/-! ## What is read -/

/-- The text of a file in Base64 is read in two steps, from characters to bytes and from bytes to
characters, and either of them reads only what would be written. -/
theorem decode_eq_ok_iff {text : String} :
    decode ⟨content, "base64"⟩ = .ok text ↔ Carries content text := by
  have hsteps : decode ⟨content, "base64"⟩ = .ok text ↔
      ∃ bytes, Base64.decode (Utf8.encode (dropBlanks content.toList)) = .ok bytes ∧
        Utf8.decode bytes = .ok text.toList := by
    rw [decode, if_neg (by simp)]
    rcases Base64.decode (Utf8.encode (dropBlanks content.toList)) with fault | bytes
    · simp
    · simp only [Except.ok.injEq, exists_eq_left']
      rcases Utf8.decode bytes with fault | cs
      · simp
      · simp only [Except.ok.injEq]
        exact ⟨fun h => h ▸ String.toList_ofList.symm, fun h => h ▸ String.ofList_toList⟩
  rw [hsteps]
  simp only [Base64.decode_eq_ok_iff, Utf8.decode_eq_ok_iff, exists_eq_right]
  rfl

/-- The content of a file in Base64 that has no text is malformed. -/
theorem exists_of_decode_eq_error {fault : VersionControl.Fault}
    (h : decode ⟨content, "base64"⟩ = .error fault) : ∃ message, fault = .malformed message := by
  rw [decode, if_neg (by simp)] at h
  split at h
  · cases h
    exact ⟨_, rfl⟩
  · split at h
    · cases h
      exact ⟨_, rfl⟩
    · cases h

/-- **A file in Base64 has the text that its content carries.** Without its blanks, the content is
the one encoding of the bytes of the text, filled up as it should be and with no bit set that
belongs to no byte; every other content is malformed.

**Proof sketch.** Characters are read as bytes, and bytes as a text, exactly if they are what is
written for them (`Base64.decode_eq_ok_iff`, `Utf8.decode_eq_ok_iff`). So a content that carries no
text has a fault, and all faults are of one kind. -/
theorem decode_base64 (content : String) :
    (∀ text, decode ⟨content, "base64"⟩ = .ok text ↔ Carries content text) ∧
    ((∃ message, decode ⟨content, "base64"⟩ = .error (.malformed message)) ↔
      ∀ text, ¬Carries content text) := by
  refine ⟨fun text => decode_eq_ok_iff, ?_⟩
  simp only [← decode_eq_ok_iff]
  rcases hresult : decode ⟨content, "base64"⟩ with fault | text
  · obtain ⟨message, rfl⟩ := exists_of_decode_eq_error hresult
    simp
  · simp

/-- Blanks may stand anywhere, also within the characters of one letter. -/
example : decode ⟨"Y2Fm\nw \t6 k=\u2028", "base64"⟩ = .ok "caf\u00e9" := by
  decide +kernel

end NetworkIntent.GitLab.StoredFile
