import Gamebook.Text.Basic

/-!
Conditions on toggles: each named toggle has to be set, or has to be unset.

A name stands once, in the place where it was first written, with the requirement written last.
-/

namespace Gamebook.Story

/-- Required states of toggles, in the order of writing. -/
structure Conditions where
  entries : List (Text × Bool) := []
  nodup : (entries.map Prod.fst).Nodup := by exact List.nodup_nil
deriving DecidableEq

namespace Conditions

/-- Changes the requirement of a name that is there, or adds the name at the end. -/
def putEntry (name : Text) (wanted : Bool) : List (Text × Bool) → List (Text × Bool)
  | [] => [(name, wanted)]
  | entry :: entries =>
    if entry.1 = name then (name, wanted) :: entries else entry :: putEntry name wanted entries

theorem names_putEntry (name : Text) (wanted : Bool) (entries : List (Text × Bool)) :
    (putEntry name wanted entries).map Prod.fst =
      if name ∈ entries.map Prod.fst then entries.map Prod.fst
      else entries.map Prod.fst ++ [name] := by
  induction entries with
  | nil => simp [putEntry]
  | cons entry entries ih =>
    by_cases same : entry.1 = name
    · simp [putEntry, same]
    · have other : ¬ name = entry.1 := fun equal => same equal.symm
      simp only [putEntry, same, if_false, List.map_cons, ih, List.mem_cons, other, false_or]
      split <;> simp

theorem nodup_putEntry {name : Text} {wanted : Bool} {entries : List (Text × Bool)}
    (nodup : (entries.map Prod.fst).Nodup) :
    ((putEntry name wanted entries).map Prod.fst).Nodup := by
  rw [names_putEntry]
  split
  · exact nodup
  · rename_i absent
    rw [List.nodup_append]
    refine ⟨nodup, by simp, ?_⟩
    intro left leftIn right rightIn equal
    obtain rfl : right = name := by simpa using rightIn
    exact absent (equal ▸ leftIn)

def empty : Conditions := {}

def put (conditions : Conditions) (name : Text) (wanted : Bool) : Conditions :=
  ⟨putEntry name wanted conditions.entries, nodup_putEntry conditions.nodup⟩

def names (conditions : Conditions) : List Text := conditions.entries.map Prod.fst

def isEmpty (conditions : Conditions) : Bool := conditions.entries.isEmpty

def size (conditions : Conditions) : Nat := conditions.entries.length

/-- The same requirements, in whatever order they were written. -/
def agrees (left right : Conditions) : Bool :=
  left.size = right.size && left.entries.all fun entry => right.entries.contains entry

/-- All requirements hold, `isSet` telling which toggles are set. -/
def met (isSet : Text → Bool) (conditions : Conditions) : Bool :=
  conditions.entries.all fun (name, wanted) => isSet name == wanted

end Conditions

end Gamebook.Story
