import Mathlib.Logic.Function.Basic
import NetworkIntent.Proofs.Schema.Forms
import NetworkIntent.Schema.Catalog

/-!
# Schemas that refer to definitions

A schema that comes in several documents refers to definitions at places in them, and some of these
refer to others. Loading and compiling it searches over places; where all places hold definitions it
is the same search over the definitions, which is short. What the schema means is put together from
below: a definition has a height, the number of references that can be followed in a row from it,
and its rules mean its property if the ones it refers to mean theirs.

## Main definitions

* `Schema.Glossary`: definitions in documents, each with its place and its rules.
* `Schema.Glossary.closure`: the search for definitions.

## Main results

* `Schema.Glossary.loadModules_eq`: definitions need no documents but their own.
* `Schema.Glossary.compile_eq`: what is compiled from definitions.
* `Schema.Glossary.follow_eq_nil_iff`: references to definitions mean their properties.
-/

set_option autoImplicit false

namespace NetworkIntent.Schema

/-- Definitions in documents: where each of them is, how it reads there, the rules that are read
from it, and the definitions that it refers to. -/
structure Glossary (ι : Type) where
  modules : List Module
  /-- The document of a definition. -/
  home : ι → Module
  target : ι → Target
  schema : ι → Json
  rules : ι → Rules
  references : ι → List ι
  target_injective : target.Injective
  find_home : ∀ part, modules.find? (·.address = (target part).file) = some (home part)
  resolve_target : ∀ part, resolve (target part).fragment (home part).document = .ok (schema part)
  targetsIn_schema : ∀ part, ∃ mentioned : List ι,
    targetsIn (home part).address (schema part) = .ok (mentioned.map target)
  rulesOf_schema : ∀ part (visit : Target → Except Defect Unit),
    (∀ other ∈ references part, visit (target other) = .ok ()) →
      rulesOf ⟨(home part).dialect, (home part).address, visit⟩ (schema part) = .ok (rules part)
  targets_rules : ∀ part, (rules part).targets = (references part).map target

namespace Glossary

variable {ι : Type} (glossary : Glossary ι)

/-- With the documents of the definitions at hand nothing more has to be loaded for them. -/
theorem loadTargets_eq (tree : FileTree) (directory : String) (dialect : Dialect) (fuel : Nat)
    (seen : List Target) (pending : List ι) :
    loadTargets tree directory dialect fuel glossary.modules seen (pending.map glossary.target) =
      .ok glossary.modules := by
  induction fuel generalizing seen pending with
  | zero => cases pending <;> rfl
  | succ fuel ih =>
    cases pending with
    | nil => rfl
    | cons part rest =>
      rw [List.map_cons, loadTargets]
      split
      · exact ih seen rest
      · obtain ⟨mentioned, hmentioned⟩ := glossary.targetsIn_schema part
        simp only [glossary.find_home, glossary.resolve_target, hmentioned]
        have hmore := ih (glossary.target part :: seen) (mentioned ++ rest)
        rw [List.map_append] at hmore
        exact hmore

/-- A document that mentions definitions of another one first needs this document and no more. -/
theorem loadModules_eq {tree : FileTree} {directory : String} {dialect : Dialect} {document : Json}
    {other : Module} (hmodules : glossary.modules = [⟨.root, dialect, document⟩, other])
    {part : ι} {rest inside : List ι}
    (hmentioned : targetsIn .root document = .ok ((part :: rest).map glossary.target))
    (hfile : (glossary.target part).file = other.address) (hother : other.address ≠ .root)
    (hload : loadDocument tree directory other.address = .ok other.document)
    (hdialect : dialectOf dialect other.document = .ok other.dialect)
    (hinside : targetsIn other.address other.document = .ok (inside.map glossary.target)) :
    loadModules tree directory dialect document = .ok glossary.modules := by
  obtain ⟨fuel, hfuel⟩ : ∃ fuel, loadBound tree document = fuel + 1 :=
    Nat.exists_eq_add_one.mpr (Nat.mul_pos (Nat.succ_pos _) (Nat.succ_pos _))
  have hfind : [(⟨.root, dialect, document⟩ : Module)].find? (·.address = other.address) = none := by
    simp [Ne.symm hother]
  have hrest := glossary.loadTargets_eq tree directory dialect fuel [] (inside ++ part :: rest)
  rw [hmodules, List.map_append, List.map_cons] at hrest
  rw [loadModules, hmentioned, hfuel, hmodules]
  simp only [List.map_cons, bind, Except.bind]
  rw [loadTargets]
  simp only [List.contains_nil, Bool.false_eq_true, if_false, hfile, hfind, hload, hdialect, hinside,
    bind, Except.bind]
  exact hrest

/-- The rules at the place of a definition. -/
theorem rulesAt_target (part : ι) {visit : Target → Except Defect Unit}
    (h : ∀ other ∈ glossary.references part, visit (glossary.target other) = .ok ()) :
    rulesAt glossary.modules visit (glossary.target part) = .ok (glossary.rules part) := by
  rw [rulesAt, glossary.find_home]
  simp only [glossary.resolve_target]
  exact glossary.rulesOf_schema part visit h

/-- There is no defect at the definitions. -/
theorem visit_eq (fuel : Nat) (way : List Target) (part : ι) :
    visit glossary.modules fuel way (glossary.target part) = .ok () := by
  induction fuel generalizing way part with
  | zero => rfl
  | succ fuel ih =>
    rw [visit]
    split
    · rfl
    · rw [glossary.rulesAt_target part fun other _ => ih _ other]

section Closure

variable [DecidableEq ι]

/-- The definitions that are compiled from some that are known and some that are pending. -/
def closure (references : ι → List ι) : (fuel : Nat) → (known pending : List ι) → List ι
  | _, known, [] => known
  | 0, known, _ => known
  | fuel + 1, known, part :: rest =>
    if part ∈ known then closure references fuel known rest
    else closure references fuel (known ++ [part]) (references part ++ rest)

/-- The places of definitions with their rules. -/
def compiled (parts : List ι) : List (Target × Rules) :=
  parts.map fun part => (glossary.target part, glossary.rules part)

/-- Places of definitions are compiled as the definitions are. -/
theorem compileTargets_eq (fuel : Nat) (known pending : List ι) :
    compileTargets glossary.modules fuel (glossary.compiled known)
        (pending.map glossary.target) =
      .ok (glossary.compiled (closure glossary.references fuel known pending)) := by
  induction fuel generalizing known pending with
  | zero => cases pending <;> rfl
  | succ fuel ih =>
    cases pending with
    | nil => rfl
    | cons part rest =>
      have hcontains : ((glossary.compiled known).map Prod.fst).contains (glossary.target part) =
          true ↔ part ∈ known := by
        simp [compiled, glossary.target_injective.eq_iff]
      rw [List.map_cons, compileTargets, closure]
      by_cases hknown : part ∈ known
      · rw [if_pos (hcontains.mpr hknown), if_pos hknown]
        exact ih known rest
      · rw [if_neg (mt hcontains.mp hknown), if_neg hknown,
          glossary.rulesAt_target part fun _ _ => rfl]
        have hmore := ih (known ++ [part]) (glossary.references part ++ rest)
        rw [List.map_append, compiled, List.map_append, ← glossary.targets_rules] at hmore
        exact hmore

/-- A document that refers to definitions is compiled with all that are needed for them. -/
theorem compile_eq {rules : Rules} {referred parts : List ι}
    (hrules : ∀ visit : Target → Except Defect Unit,
      (∀ part ∈ referred, visit (glossary.target part) = .ok ()) →
        rulesAt glossary.modules visit ⟨.root, ""⟩ = .ok rules)
    (htargets : rules.targets = referred.map glossary.target) {total : Nat}
    (htotal : sizeItems (glossary.modules.map Module.document) + 1 = total)
    (hparts : closure glossary.references ((total + 1) * (total + 1)) [] referred = parts) :
    compile glossary.modules = .ok ⟨rules, glossary.compiled parts⟩ := by
  have hvisit : visit glossary.modules (total + 1) [] ⟨.root, ""⟩ = .ok () := by
    rw [visit, hrules _ fun part _ => glossary.visit_eq _ _ part]
    rfl
  have hcompiled := glossary.compileTargets_eq ((total + 1) * (total + 1)) [] referred
  rw [hparts, compiled, List.map_nil] at hcompiled
  have hroot := hrules (fun _ => .ok ()) fun _ _ => rfl
  rw [compile]
  simp only [htotal, hvisit, hroot, htargets, hcompiled, bind, Except.bind]
  rfl

/-- The rules of a compiled definition are found at its place. -/
theorem lookup_compiled {parts : List ι} {part : ι} (h : part ∈ parts) :
    (glossary.compiled parts).lookup (glossary.target part) = some (glossary.rules part) := by
  induction parts with
  | nil => cases h
  | cons other rest ih =>
    rw [compiled, List.map_cons, List.lookup_cons]
    by_cases hpart : part = other
    · subst hpart
      simp
    · have hne : (glossary.target part == glossary.target other) = false :=
        beq_false_of_ne (mt (fun heq => glossary.target_injective heq) hpart)
      simp only [hne]
      exact ih ((List.mem_cons.mp h).resolve_left hpart)

end Closure

/-- **References to definitions mean their properties**, if the rules of each definition mean its
property once those of lower definitions do, and no more references are followed in a row than the
definitions are high. -/
theorem follow_eq_nil_iff {schema : Schema} {Meets : ι → Json → Prop} {height : ι → Nat}
    (hlookup : ∀ part,
      schema.targets.lookup (glossary.target part) = some (glossary.rules part))
    (hheight : ∀ part, ∀ other ∈ glossary.references part, height other < height part)
    (hmeans : ∀ part (follow : Follow), (∀ other ∈ glossary.references part, ∀ path document,
      follow (glossary.target other) path document = [] ↔ Meets other document) →
        (glossary.rules part).Means follow (Meets part))
    {fuel : Nat} (part : ι) (h : height part < fuel) (path : List String) (document : Json) :
    schema.follow fuel (glossary.target part) path document = [] ↔ Meets part document := by
  induction fuel generalizing part path document with
  | zero => cases h
  | succ fuel ih =>
    rw [follow]
    simp only [hlookup]
    refine hmeans part _ (fun other hother path document => ?_) path document
    have := hheight part other hother
    exact ih other (by omega) path document

end Glossary

end NetworkIntent.Schema
