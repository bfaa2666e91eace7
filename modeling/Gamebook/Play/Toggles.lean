import Gamebook.Text.Basic

/-!
Sets of toggles, listed by name. A name stands once, and names are ordered character by character,
so that two sets with the same members are equal.
-/

namespace Gamebook.Play

/-- The toggles that are set, in the order of their names. -/
structure Toggles where
  names : List Text := []
  sorted : names.Pairwise (· < ·) := by exact List.Pairwise.nil
deriving DecidableEq

namespace Toggles

/-- Puts a name in its place; a name that is there stays as it is. -/
def insertName (name : Text) : List Text → List Text
  | [] => [name]
  | first :: rest =>
    if name < first then name :: first :: rest
    else if name = first then first :: rest
    else first :: insertName name rest

theorem mem_insertName {name other : Text} {names : List Text} :
    other ∈ insertName name names ↔ other = name ∨ other ∈ names := by
  induction names with
  | nil => simp [insertName]
  | cons first rest ih =>
    simp only [insertName]
    split
    · simp
    · split
      · rename_i same
        simp [same]
      · simp only [List.mem_cons, ih]
        exact or_left_comm

theorem lt_of_not_lt_of_ne {left right : Text} (notBelow : ¬ left < right) (other : left ≠ right) :
    right < left := by
  rcases List.le_iff_lt_or_eq.mp (List.not_lt.mp notBelow) with below | equal
  · exact below
  · exact absurd equal.symm other

theorem pairwise_insertName {name : Text} {names : List Text}
    (sorted : names.Pairwise (· < ·)) : (insertName name names).Pairwise (· < ·) := by
  induction names with
  | nil => simp [insertName]
  | cons first rest ih =>
    obtain ⟨above, restSorted⟩ := List.pairwise_cons.mp sorted
    simp only [insertName]
    split
    · rename_i below
      refine List.pairwise_cons.mpr ⟨fun other member => ?_, sorted⟩
      rcases List.mem_cons.mp member with rfl | member
      · exact below
      · exact List.lt_trans below (above other member)
    · split
      · exact sorted
      · rename_i notBelow different
        refine List.pairwise_cons.mpr ⟨fun other member => ?_, ih restSorted⟩
        rcases mem_insertName.mp member with rfl | member
        · exact lt_of_not_lt_of_ne notBelow different
        · exact above other member

def empty : Toggles := {}

def insert (toggles : Toggles) (name : Text) : Toggles :=
  ⟨insertName name toggles.names, pairwise_insertName toggles.sorted⟩

def contains (toggles : Toggles) (name : Text) : Bool := toggles.names.contains name

def union (toggles : Toggles) (names : List Text) : Toggles := names.foldl insert toggles

def ofList (names : List Text) : Toggles := empty.union names

@[simp] theorem contains_empty (name : Text) : empty.contains name = false := rfl

@[simp] theorem contains_insert (toggles : Toggles) (name other : Text) :
    (toggles.insert name).contains other = (other == name || toggles.contains other) := by
  rw [Bool.eq_iff_iff]
  simp [contains, insert, mem_insertName]

@[simp] theorem contains_union (toggles : Toggles) (names : List Text) (name : Text) :
    (toggles.union names).contains name = (names.contains name || toggles.contains name) := by
  induction names generalizing toggles with
  | nil => simp [union]
  | cons first rest ih =>
    have step : toggles.union (first :: rest) = (toggles.insert first).union rest := rfl
    rw [step, ih, contains_insert, List.contains_cons, Bool.or_left_comm, Bool.or_assoc]

end Toggles

end Gamebook.Play
