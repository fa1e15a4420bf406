import NetworkIntent.Proofs.Json.Escaped
import NetworkIntent.Proofs.Json.RoundTrip
import NetworkIntent.Proofs.PublishedIntent

/-!
# Files of a publication read back

The files of a repository are in ASCII alone, whatever the documents hold, and nothing of a document
is lost by that: a file differs from the plain text of its document only in that characters beyond
ASCII are escaped, and it is read as the document. So a file of a publication is read as the object
with the published collection and nothing else.

## Main results

* `Publication.storable_of_published?`: the file of a collection is of a storable document if the
  collection comes from one.
* `Publication.render_faithful`: files are faithful and in ASCII alone.
-/

set_option autoImplicit false

namespace NetworkIntent.Publication

/-- The object with a published collection is storable if the document is that the collection comes
from. -/
theorem storable_of_published? {c : Collection} {document value : Json}
    (h : published? c document = some value) (hstorable : document.Storable) :
    (Json.obj [(c.key .qualified, value)]).Storable := by
  unfold published? at h
  split at h
  · next qualified hrename =>
    have hqualified := storable_renameKeys hstorable hrename
    refine (Json.storable_obj_iff _).mpr ⟨List.pairwise_singleton _ _, ?_⟩
    rw [List.forall_mem_singleton]
    cases qualified with
    | obj fields => exact hqualified.storableWithin (Table.mem_of_get?_eq_some h)
    | _ => cases h
  · cases h

/-- **Files are faithful and in ASCII alone.** The text of a document in a repository consists of
ASCII characters: it is the text with four spaces for each level in which every character beyond
ASCII is replaced by the escapes of its UTF-16 units. The text of a storable document, that is one
with ascending keys, whole numbers of 64 bits and at most 127 levels, is read as this document. And
the file of a collection is read as the object with the collection under its qualified key, if this
object is storable, which it is if the document is.

**Proof sketch.** Only the characters of texts depend on whether the layout asks for ASCII alone;
all else that is written consists of ASCII characters (`Json.write_escaped`). What is written in any
layout is a spelling of the document, so it is read as the document (`Json.parse_render`). -/
theorem render_faithful (document : Json) :
    IsAscii (render document) ∧
    (render document).toList = (document.render ⟨some 4, false⟩).toList.flatMap Json.escaped ∧
    (document.Storable → Json.parse (Utf8.ofString (render document)) = .ok document) ∧
    ∀ collection text, renderCollection collection document = .ok text →
      ∃ value, published? collection document = some value ∧
        (document.Storable → (Json.obj [(collection.key .qualified, value)]).Storable) ∧
        ((Json.obj [(collection.key .qualified, value)]).Storable →
          Json.parse (Utf8.ofString text) = .ok (.obj [(collection.key .qualified, value)])) := by
  have hread {document : Json} (h : document.Storable) :
      Json.parse (Utf8.ofString (render document)) = .ok document := by
    have hparse := Json.parse_render .repository h (List.dropWhile_nil : Json.skipGap [] = [])
    rwa [List.append_nil] at hparse
  refine ⟨Json.isAscii_render (some 4) document, Json.toList_render_escaped (some 4) document,
    hread, ?_⟩
  intro collection text htext
  obtain ⟨value, hvalue, rfl⟩ := (renderCollection_eq_ok_iff collection document text).mp htext
  exact ⟨value, hvalue, storable_of_published? hvalue, hread⟩

/-- A character of the first plane has one unit, and a character beyond it has two. -/
example : render (.obj [("name", .str "Zürich 😀")]) =
    "\x7b\n    \"name\": \"Z\\u00fcrich \\ud83d\\ude00\"\n\x7d" := by
  decide +kernel

end NetworkIntent.Publication
