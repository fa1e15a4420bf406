import Mathlib.Data.List.Forall2

/-!
# Lists that correspond item by item

Reading a list, or acting for each of its items, gives a list whose items correspond to the given
ones. These are the facts about such a correspondence that do not depend on what it is.

## Main results

* `exists_forall₂_iff`: a list has a corresponding one exactly if each item has a partner.
* `map_eq_map_iff_forall₂`: what has equal values item by item.
* `forall_mem_of_forall₂`: what holds of all partners.
* `mapM_eq_ok_iff`: a list is gone through without failure exactly if each item is.
* `mapM_eq_error_iff`: a list is gone through with the failure of the first item that has one.
-/

set_option autoImplicit false

namespace NetworkIntent

variable {α β : Type}

/-- Everything in a list has a partner exactly if there is a list of partners. -/
theorem exists_forall₂_iff {R : α → β → Prop} {items : List α} :
    (∃ partners, List.Forall₂ R items partners) ↔ ∀ item ∈ items, ∃ partner, R item partner := by
  induction items with
  | nil => simp
  | cons item rest ih =>
    rw [List.forall_mem_cons, ← ih]
    constructor
    · rintro ⟨_, h⟩
      obtain ⟨partner, partners, hpartner, hrest, rfl⟩ := List.forall₂_cons_left_iff.mp h
      exact ⟨⟨partner, hpartner⟩, partners, hrest⟩
    · rintro ⟨⟨partner, hpartner⟩, partners, hrest⟩
      exact ⟨partner :: partners, .cons hpartner hrest⟩

/-- Two correspondences are the same for a list if they are the same for each of its items. -/
theorem forall₂_congr_of_mem {R S : α → β → Prop} {items : List α} {partners : List β}
    (h : ∀ item ∈ items, ∀ partner, R item partner ↔ S item partner) :
    List.Forall₂ R items partners ↔ List.Forall₂ S items partners := by
  constructor <;> intro hall
  · exact ((List.forall₂_and_left _ _).mpr ⟨h, hall⟩).imp fun _ partner hab =>
      (hab.1 partner).mp hab.2
  · exact ((List.forall₂_and_left _ _).mpr ⟨h, hall⟩).imp fun _ partner hab =>
      (hab.1 partner).mpr hab.2

/-- Two lists have the same values exactly if they correspond item by item. -/
theorem map_eq_map_iff_forall₂ {γ : Type} {f : α → γ} {g : β → γ} {items : List α}
    {others : List β} :
    items.map f = others.map g ↔ List.Forall₂ (fun a b => f a = g b) items others := by
  rw [← List.forall₂_eq_eq_eq, List.forall₂_map_left_iff, List.forall₂_map_right_iff]

/-- Each item of a list has one in the other list that it corresponds to. -/
theorem exists_mem_of_forall₂ {R : α → β → Prop} {items : List α} {partners : List β}
    (h : List.Forall₂ R items partners) {b : β} (hb : b ∈ partners) : ∃ a ∈ items, R a b := by
  induction h with
  | nil => simp at hb
  | @cons a partner items partners hfirst _ ih =>
    rcases List.mem_cons.mp hb with rfl | hmem
    · exact ⟨a, List.mem_cons_self, hfirst⟩
    · obtain ⟨a', ha', hR⟩ := ih hmem
      exact ⟨a', List.mem_cons_of_mem _ ha', hR⟩

/-- Where partners are determined, some partner has a property exactly if the partner of some item
has it. -/
theorem exists_mem_iff_of_forall₂ {R : α → β → Prop} {P : β → Prop} {items : List α}
    {partners : List β} (h : List.Forall₂ R items partners)
    (hunique : ∀ a b b', R a b → R a b' → b = b') :
    (∃ b ∈ partners, P b) ↔ ∃ a ∈ items, ∃ b, R a b ∧ P b := by
  induction h with
  | nil => simp
  | @cons a partner items partners hfirst _ ih =>
    simp only [List.exists_mem_cons_iff, ih]
    refine or_congr_left ⟨fun hP => ⟨partner, hfirst, hP⟩, ?_⟩
    rintro ⟨b, hb, hP⟩
    exact hunique a b partner hb hfirst ▸ hP

/-- What holds of all partners holds of everything in their list. -/
theorem forall_mem_of_forall₂ {P : β → Prop} {items : List α} {partners : List β}
    (h : List.Forall₂ (fun _ partner => P partner) items partners) :
    ∀ partner ∈ partners, P partner := by
  induction h with
  | nil => simp
  | cons hfirst _ ih => exact List.forall_mem_cons.mpr ⟨hfirst, ih⟩

/-- Partners are given by a function exactly if their list is. -/
theorem forall₂_eq_map_iff {f : α → β} {items : List α} {partners : List β} :
    List.Forall₂ (fun item partner => f item = partner) items partners ↔
      items.map f = partners := by
  rw [← List.forall₂_eq_eq_eq, List.forall₂_map_left_iff]

section Results

variable {ε : Type}

/-- What is made of a result comes from the result. -/
theorem map_eq_ok_iff {f : α → β} {result : Except ε α} {b : β} :
    f <$> result = .ok b ↔ ∃ a, result = .ok a ∧ f a = b := by
  cases result <;> simp

/-- A list is gone through without failure exactly if each of its items is. -/
theorem mapM_eq_ok_iff {read : α → Except ε β} {items : List α} {results : List β} :
    items.mapM read = .ok results ↔
      List.Forall₂ (fun item result => read item = .ok result) items results := by
  induction items generalizing results with
  | nil =>
    rw [List.mapM_nil, List.forall₂_nil_left_iff]
    exact ⟨fun h => (Except.ok.inj h).symm, fun h => h ▸ rfl⟩
  | cons item rest ih =>
    rw [List.mapM_cons, List.forall₂_cons_left_iff]
    rcases read item with e | a
    · exact ⟨nofun, fun ⟨_, _, h, _⟩ => nomatch h⟩
    · rcases hrest : rest.mapM read with e | others
      · refine ⟨nofun, fun ⟨_, others, _, hothers, _⟩ => ?_⟩
        rw [ih.mpr hothers] at hrest
        cases hrest
      · constructor
        · rintro ⟨⟩
          exact ⟨a, others, rfl, ih.mp hrest, rfl⟩
        · rintro ⟨_, others', ⟨⟩, hothers, rfl⟩
          rw [ih.mpr hothers] at hrest
          cases hrest
          rfl

/-- A list is gone through with a failure exactly if it is the one of its first item that has
any. -/
theorem mapM_eq_error_iff {read : α → Except ε β} {items : List α} {e : ε} :
    items.mapM read = .error e ↔ ∃ before item after, items = before ++ item :: after ∧
      (∀ earlier ∈ before, ∃ result, read earlier = .ok result) ∧ read item = .error e := by
  induction items with
  | nil =>
    rw [List.mapM_nil]
    exact ⟨nofun, fun ⟨_, _, _, h, _⟩ => absurd h.symm (by simp)⟩
  | cons item rest ih =>
    rw [List.mapM_cons]
    rcases hitem : read item with e' | a
    · constructor
      · rintro ⟨⟩
        exact ⟨[], item, rest, rfl, by simp, hitem⟩
      · rintro ⟨before, failing, after, hsplit, hbefore, hfailing⟩
        obtain _ | ⟨first, before⟩ := before
        · obtain ⟨rfl, -⟩ := List.cons.inj hsplit
          cases hitem.symm.trans hfailing
          rfl
        · obtain ⟨rfl, -⟩ := List.cons.inj hsplit
          obtain ⟨result, hresult⟩ := hbefore item List.mem_cons_self
          cases hitem.symm.trans hresult
    · have hrest : ((Except.ok a : Except ε β) >>= fun a => rest.mapM read >>= fun as =>
          pure (a :: as)) = .error e ↔ rest.mapM read = .error e := by
        rcases rest.mapM read with e' | others
        · exact Iff.rfl
        · exact ⟨nofun, nofun⟩
      rw [hrest, ih]
      constructor
      · rintro ⟨before, failing, after, rfl, hbefore, hfailing⟩
        exact ⟨item :: before, failing, after, rfl,
          List.forall_mem_cons.mpr ⟨⟨a, hitem⟩, hbefore⟩, hfailing⟩
      · rintro ⟨before, failing, after, hsplit, hbefore, hfailing⟩
        obtain _ | ⟨first, before⟩ := before
        · obtain ⟨rfl, -⟩ := List.cons.inj hsplit
          cases hitem.symm.trans hfailing
        · obtain ⟨rfl, rfl⟩ := List.cons.inj hsplit
          exact ⟨before, failing, after, rfl, (List.forall_mem_cons.mp hbefore).2, hfailing⟩

end Results

end NetworkIntent
