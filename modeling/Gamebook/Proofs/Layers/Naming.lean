import Gamebook.Layers.Import
import Mathlib.Data.List.Basic

/-!
What import statements name. A base with dots in front stands for what it is below the package that the dots
count back to, so a statement can be spelt in several ways, which all lead to the same layers.
-/

namespace Gamebook.Layers

variable {package whole outer inner base module : ModuleName} {layer : Layer} {dots : Nat} {name : Text}
  {names : List Text} {statement left right : Import}

/-- The module lies in the package, below the name of the layer or right there. -/
def LiesIn (module : ModuleName) (layer : Layer) : Prop :=
  ∃ rest, module = packageName :: layer.name :: rest

/-- What a base with these dots in front stands for, seen from a package. One dot is the package, and every
further dot one part less of it, as long as a part is left. -/
inductive IsBase (package : ModuleName) : Nat → ModuleName → ModuleName → Prop
  | absolute (base : ModuleName) : IsBase package 0 base base
  | relative {outer inner : ModuleName} (base : ModuleName) (around : package = outer ++ inner)
      (proper : outer ≠ []) : IsBase package (inner.length + 1) base (outer ++ base)

/-- The modules that a statement names: those it lists, or a base and every name of it. -/
inductive Import.Names (package : ModuleName) : Import → ModuleName → Prop
  | listed {modules : List ModuleName} {module : ModuleName} (member : module ∈ modules) :
      Names package (.modules modules) module
  | base {dots : Nat} {base whole : ModuleName} {names : List Text}
      (stands : IsBase package dots base whole) : Names package (.members dots base names) whole
  | member {dots : Nat} {base whole : ModuleName} {names : List Text} {name : Text}
      (stands : IsBase package dots base whole) (member : name ∈ names) :
      Names package (.members dots base names) (whole ++ [name])

def Import.LeadsTo (package : ModuleName) (statement : Import) (layer : Layer) : Prop :=
  ∃ module, statement.Names package module ∧ LiesIn module layer

/-- Two spellings of one statement: names of one base, however that is written, or a single module and the same
as a name of its base. -/
inductive Import.IsRespelt (package : ModuleName) : Import → Import → Prop
  | same (statement : Import) : IsRespelt package statement statement
  | members {dots others : Nat} {base other whole : ModuleName} {names : List Text}
      (stands : IsBase package dots base whole) (alike : IsBase package others other whole) :
      IsRespelt package (.members dots base names) (.members others other names)
  | split {dots : Nat} {base whole : ModuleName} {name : Text} (stands : IsBase package dots base whole) :
      IsRespelt package (.modules [whole ++ [name]]) (.members dots base [name])
  | joined {dots : Nat} {base whole : ModuleName} {name : Text} (stands : IsBase package dots base whole) :
      IsRespelt package (.members dots base [name]) (.modules [whole ++ [name]])

theorem Layer.ofName?_eq_some : Layer.ofName? name = some layer ↔ name = layer.name := by
  unfold Layer.ofName?
  constructor
  · intro found
    have same : layer.name = name := by simpa using List.find?_some found
    exact same.symm
  · rintro rfl
    cases layer <;> decide

theorem layerOf?_eq_some : layerOf? module = some layer ↔ LiesIn module layer := by
  match module with
  | [] => exact ⟨nofun, nofun⟩
  | [_] => exact ⟨nofun, nofun⟩
  | first :: second :: rest =>
      simp only [layerOf?, LiesIn, List.cons.injEq, exists_and_left, exists_eq', and_true]
      rw [Option.ite_none_right_eq_some, Layer.ofName?_eq_some]

theorem resolve_eq_some : Import.resolve package dots base = some whole ↔
    IsBase package dots base whole := by
  constructor
  · intro resolved
    unfold Import.resolve at resolved
    split at resolved
    · rename_i none
      cases resolved
      exact none ▸ .absolute whole
    · rename_i dotted
      obtain ⟨enough, found⟩ := Option.ite_none_left_eq_some.mp resolved
      cases found
      -- the dots count the parts that are left out, and one more
      have counted : dots = (package.drop (package.length + 1 - dots)).length + 1 := by
        rw [List.length_drop]
        omega
      have proper : package.take (package.length + 1 - dots) ≠ [] := by
        intro nothing
        have none := congrArg List.length nothing
        simp only [List.length_take, List.length_nil] at none
        omega
      have stands := IsBase.relative base (List.take_append_drop _ package).symm proper
      rwa [← counted] at stands
  · intro stands
    cases stands with
    | absolute => rfl
    | @relative outer inner base around proper =>
        have some_part := List.length_pos_iff.mpr proper
        have parts := congrArg List.length around
        rw [List.length_append] at parts
        unfold Import.resolve
        rw [if_neg (Nat.succ_ne_zero _), if_neg (by omega),
          show package.length + 1 - (inner.length + 1) = outer.length by omega, around, List.take_left]

theorem IsBase.unique {other : ModuleName} (stands : IsBase package dots base whole)
    (also : IsBase package dots base other) : other = whole :=
  Option.some_inj.mp ((resolve_eq_some.mpr also).symm.trans (resolve_eq_some.mpr stands))

theorem mem_named : module ∈ statement.named package ↔ statement.Names package module := by
  cases statement with
  | modules modules => exact ⟨.listed, fun | .listed member => member⟩
  | members dots base names =>
      cases resolved : Import.resolve package dots base with
      | none =>
          simp only [Import.named, resolved]
          have nowhere : ∀ whole, ¬IsBase package dots base whole := fun whole stands =>
            Option.some_ne_none whole ((resolve_eq_some.mpr stands).symm.trans resolved)
          refine ⟨fun member => absurd member List.not_mem_nil, fun named => ?_⟩
          cases named with
          | base stands => exact (nowhere _ stands).elim
          | member stands _ => exact (nowhere _ stands).elim
      | some whole =>
          simp only [Import.named, resolved]
          have stands := resolve_eq_some.mp resolved
          constructor
          · intro member
            rcases List.mem_cons.mp member with rfl | inside
            · exact .base stands
            · obtain ⟨name, listed, rfl⟩ := List.mem_map.mp inside
              exact .member stands listed
          · intro named
            cases named with
            | base also => exact stands.unique also ▸ List.mem_cons_self
            | member also listed =>
                rw [stands.unique also]
                exact .tail _ (List.mem_map.mpr ⟨_, listed, rfl⟩)

theorem leadsTo_modules {modules : List ModuleName} :
    (Import.modules modules).LeadsTo package layer ↔ ∃ module ∈ modules, LiesIn module layer :=
  ⟨fun ⟨module, .listed member, inside⟩ => ⟨module, member, inside⟩,
    fun ⟨module, member, inside⟩ => ⟨module, .listed member, inside⟩⟩

theorem leadsTo_members (stands : IsBase package dots base whole) :
    (Import.members dots base names).LeadsTo package layer ↔
      LiesIn whole layer ∨ ∃ name ∈ names, LiesIn (whole ++ [name]) layer := by
  constructor
  · rintro ⟨module, named, inside⟩
    cases named with
    | base also => exact .inl (stands.unique also ▸ inside)
    | member also member => exact .inr ⟨_, member, stands.unique also ▸ inside⟩
  · rintro (inside | ⟨name, member, inside⟩)
    · exact ⟨whole, .base stands, inside⟩
    · exact ⟨whole ++ [name], .member stands member, inside⟩

/-- A name of a module lies in the layer of the module. -/
theorem LiesIn.append (inside : LiesIn module layer) (more : ModuleName) :
    LiesIn (module ++ more) layer := by
  obtain ⟨rest, rfl⟩ := inside
  exact ⟨rest ++ more, rfl⟩

theorem leadsTo_of_isRespelt (respelt : left.IsRespelt package right) :
    left.LeadsTo package layer ↔ right.LeadsTo package layer := by
  have single : ∀ {whole : ModuleName} {name : Text},
      (∃ module ∈ [whole ++ [name]], LiesIn module layer) ↔
        (LiesIn whole layer ∨ ∃ other ∈ [name], LiesIn (whole ++ [other]) layer) := by
    intro whole name
    simp only [List.mem_singleton, exists_eq_left]
    exact ⟨.inr, fun either => either.elim (·.append [name]) id⟩
  cases respelt with
  | same => rfl
  | members stands alike => rw [leadsTo_members stands, leadsTo_members alike]
  | split stands => rw [leadsTo_modules, leadsTo_members stands, single]
  | joined stands => rw [leadsTo_modules, leadsTo_members stands, single]

end Gamebook.Layers
