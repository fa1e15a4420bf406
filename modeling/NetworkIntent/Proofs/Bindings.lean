import Mathlib
import NetworkIntent.Proofs.Table
import NetworkIntent.Variables.Routing

/-!
# The bindings of a router

The VPNs of a router are bound one after the other, each under two keys. Different VPNs have
different keys, so a VPN is carried by the interface of its last binding, and nothing else is in the
table.

## Main definitions

* `Routing.Binding`: a VPN with the interface that carries it and the address of the interface.
* `Routing.Variables.bindAll`: several bindings one after the other.

## Main results

* `Routing.get?_interfaceKey`, `Routing.get?_addressKey`: the last binding of a VPN counts.
* `Routing.mem_keys_bindings_iff`: the keys of a table of bindings.
-/

set_option autoImplicit false

namespace NetworkIntent.Routing

/-! ## Keys -/

namespace Variables

/-- Different VPNs have different keys for their interfaces. -/
theorem interfaceKey_inj {vpn other : Int64} :
    interfaceKey vpn = interfaceKey other ↔ vpn = other := by
  refine ⟨fun h => ?_, congrArg _⟩
  have hnumber : vpn.toInt.repr = other.toInt.repr := by
    simpa [interfaceKey, toString] using h
  exact Int64.toInt_inj.mp (Int.repr_injective hnumber)

/-- Different VPNs have different keys for their addresses. -/
theorem addressKey_inj {vpn other : Int64} : addressKey vpn = addressKey other ↔ vpn = other := by
  refine ⟨fun h => ?_, congrArg _⟩
  have hnumber : vpn.toInt.repr = other.toInt.repr := by
    simpa [addressKey, toString] using h
  exact Int64.toInt_inj.mp (Int.repr_injective hnumber)

/-- No key is for an interface and for an address. -/
theorem interfaceKey_ne_addressKey (vpn other : Int64) : interfaceKey vpn ≠ addressKey other := by
  intro h
  have hlast := congrArg (fun key => key.toList.reverse.head?) h
  simp [interfaceKey, addressKey, toString] at hlast

end Variables

open Variables

/-! ## Several bindings -/

/-- A VPN, the interface that carries it, and the address of the interface. -/
structure Binding where
  vpn : Int64
  interface : String
  address : String
  deriving DecidableEq, Repr

/-- The entries of a binding. -/
def Binding.entries (binding : Binding) : Table String :=
  [(interfaceKey binding.vpn, binding.interface), (addressKey binding.vpn, binding.address)]

/-- Binds one VPN after the other. -/
def Variables.bindAll (bindings : List Binding) (settings : Variables) : Variables :=
  { settings with
    bindings := Table.insertAll (bindings.flatMap Binding.entries) settings.bindings }

@[simp] theorem Variables.bindAll_nil (settings : Variables) : bindAll [] settings = settings := rfl

/-- The first binding is made first. -/
theorem Variables.bindAll_cons (binding : Binding) (rest : List Binding) (settings : Variables) :
    bindAll (binding :: rest) settings =
      bindAll rest (settings.bind binding.vpn binding.interface binding.address) := rfl

/-- Bindings may be made in two parts. -/
theorem Variables.bindAll_append (first second : List Binding) (settings : Variables) :
    bindAll (first ++ second) settings = bindAll second (bindAll first settings) := by
  simp only [bindAll, Table.insertAll, List.flatMap_append, List.foldl_append]

/-- The last of some things for a VPN. -/
def lastFor {α : Type} (idOf : α → Int64) (vpn : Int64) (items : List α) : Option α :=
  (items.filter (idOf · = vpn)).getLast?

/-- A thing counts unless a later one is for the same VPN. -/
theorem lastFor_cons {α : Type} (idOf : α → Int64) (vpn : Int64) (item : α) (rest : List α) :
    lastFor idOf vpn (item :: rest) =
      (lastFor idOf vpn rest).or (if idOf item = vpn then some item else none) := by
  rw [lastFor, lastFor, List.filter_cons]
  by_cases h : idOf item = vpn
  · rw [if_pos (by simpa using h), if_pos h, List.getLast?_cons]
    cases (rest.filter (idOf · = vpn)).getLast? <;> rfl
  · rw [if_neg (by simpa using h), if_neg h, Option.or_none]

/-- Later things count before earlier ones. -/
theorem lastFor_append {α : Type} (idOf : α → Int64) (vpn : Int64) (first second : List α) :
    lastFor idOf vpn (first ++ second) =
      (lastFor idOf vpn second).or (lastFor idOf vpn first) := by
  rw [lastFor, List.filter_append, List.getLast?_append]
  rfl

/-- Things that correspond one by one have corresponding last ones. -/
theorem lastFor_rel {α β : Type} {R : α → β → Prop} {idOf : α → Int64} {idOf' : β → Int64}
    (hid : ∀ a b, R a b → idOf' b = idOf a) {items : List α} {others : List β}
    (h : List.Forall₂ R items others) (vpn : Int64) :
    Option.Rel R (lastFor idOf vpn items) (lastFor idOf' vpn others) := by
  induction h with
  | nil => exact .none
  | @cons a b items others hab _ ih =>
    rw [lastFor_cons, lastFor_cons, hid a b hab]
    generalize lastFor idOf vpn items = last, lastFor idOf' vpn others = last' at ih
    cases ih with
    | some hlast => exact .some hlast
    | none =>
      by_cases hvpn : idOf a = vpn
      · simpa [hvpn] using Option.Rel.some hab
      · simp [hvpn]

/-- What corresponds to the last thing is the last one. -/
theorem exists_lastFor {α β : Type} {R : α → β → Prop} {idOf : α → Int64} {idOf' : β → Int64}
    (hid : ∀ a b, R a b → idOf' b = idOf a) {items : List α} {others : List β}
    (h : List.Forall₂ R items others) {vpn : Int64} {a : α}
    (ha : lastFor idOf vpn items = some a) :
    ∃ b, lastFor idOf' vpn others = some b ∧ R a b := by
  have hrel := lastFor_rel hid h vpn
  rw [ha] at hrel
  generalize lastFor idOf' vpn others = last at hrel
  cases hrel with
  | some hab => exact ⟨_, rfl, hab⟩

/-- Without a thing for a VPN there is nothing that corresponds to one. -/
theorem lastFor_eq_none {α β : Type} {R : α → β → Prop} {idOf : α → Int64} {idOf' : β → Int64}
    (hid : ∀ a b, R a b → idOf' b = idOf a) {items : List α} {others : List β}
    (h : List.Forall₂ R items others) {vpn : Int64} (hnone : ∀ item ∈ items, idOf item ≠ vpn) :
    lastFor idOf' vpn others = none := by
  have hrel := lastFor_rel hid h vpn
  have hitems : lastFor idOf vpn items = none := by
    rw [lastFor, List.filter_eq_nil_iff.mpr (by simpa using hnone), List.getLast?_nil]
  rw [hitems] at hrel
  generalize lastFor idOf' vpn others = last at hrel
  cases hrel
  rfl

/-- A key that only the bindings of one VPN have is looked up in the last one of them. -/
private theorem get?_bindings {key : String} {vpn : Int64} (value : Binding → String)
    (h : ∀ binding : Binding, Table.get? key (Table.ofEntries binding.entries) =
      if binding.vpn = vpn then some (value binding) else none) (bindings : List Binding) :
    Table.get? key (Table.ofEntries (bindings.flatMap Binding.entries)) =
      (lastFor Binding.vpn vpn bindings).map value := by
  induction bindings with
  | nil => rfl
  | cons binding rest ih =>
    rw [List.flatMap_cons, Table.get?_ofEntries_append, ih, h, lastFor_cons]
    cases lastFor Binding.vpn vpn rest <;> by_cases hvpn : binding.vpn = vpn <;> simp [hvpn]

/-- A VPN is carried by the interface of its last binding. -/
theorem get?_interfaceKey (vpn : Int64) (bindings : List Binding) :
    Table.get? (interfaceKey vpn) (Table.ofEntries (bindings.flatMap Binding.entries)) =
      (lastFor Binding.vpn vpn bindings).map Binding.interface :=
  get?_bindings _ (fun binding => by
    simp [Binding.entries, Table.get?_ofEntries_cons, interfaceKey_inj,
      (interfaceKey_ne_addressKey _ _).symm]) bindings

/-- The address for a VPN is the one of its last binding. -/
theorem get?_addressKey (vpn : Int64) (bindings : List Binding) :
    Table.get? (addressKey vpn) (Table.ofEntries (bindings.flatMap Binding.entries)) =
      (lastFor Binding.vpn vpn bindings).map Binding.address :=
  get?_bindings _ (fun binding => by
    simp [Binding.entries, Table.get?_ofEntries_cons, addressKey_inj,
      interfaceKey_ne_addressKey]) bindings

/-- A table of bindings has the two keys of each VPN that is bound. -/
theorem mem_keys_bindings_iff {key : String} {bindings : List Binding} :
    key ∈ Table.keys (Table.ofEntries (bindings.flatMap Binding.entries)) ↔
      ∃ binding ∈ bindings, key = interfaceKey binding.vpn ∨ key = addressKey binding.vpn := by
  rw [Table.mem_keys_ofEntries_iff, Table.keys, List.map_flatMap, List.mem_flatMap]
  simp [Binding.entries]

end NetworkIntent.Routing
