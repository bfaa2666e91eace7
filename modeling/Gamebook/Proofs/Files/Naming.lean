import Gamebook.Proofs.Files.Changing

/-!
Names that entries can have. Where a path leads, no name is new but those that the path is written with.
-/

namespace Gamebook.Files

open Gamebook.Text FileTree

/-- A name that an entry can have: not empty, and without the characters that end a name. -/
def IsFileName (name : Text) : Prop := name ≠ [] ∧ '/' ∉ name ∧ '\x00' ∉ name

instance (name : Text) : Decidable (IsFileName name) := inferInstanceAs (Decidable (_ ∧ _ ∧ _))

/-- The parts of the path are those of a text. -/
def Path.IsRead (path : Path) : Prop := ∀ part ∈ path.parts, part ≠ [] ∧ '/' ∉ part

theorem Path.IsRead.parent {path : Path} (read : path.IsRead) : path.parent.IsRead :=
  fun part member => read part (List.dropLast_subset _ member)

theorem Path.IsRead.absolute {workingDirectory path : Path} (start : workingDirectory.IsRead)
    (read : path.IsRead) : (workingDirectory.absolute path).IsRead := by
  have walked : ∀ parts taken : List Text, (∀ part ∈ parts, part ≠ [] ∧ '/' ∉ part) →
      (∀ part ∈ taken, part ≠ [] ∧ '/' ∉ part) →
      ∀ part ∈ parts.foldl lexicalStep taken, part ≠ [] ∧ '/' ∉ part := by
    intro parts
    induction parts with
    | nil => exact fun taken _ known => known
    | cons first parts ih =>
        intro taken all known
        refine ih _ (fun part member => all part (.tail _ member)) ?_
        unfold lexicalStep
        split
        · exact fun part member => known part (List.dropLast_subset _ member)
        · simp only [List.mem_append, List.mem_singleton]
          rintro part (member | rfl)
          · exact known part member
          · exact all part List.mem_cons_self
  refine walked _ _ (fun part member => ?_) nofun
  rcases List.mem_append.mp member with before | own
  · split at before
    · exact start part before
    · contradiction
  · exact read part own

theorem not_mem_of_mem_splitOn {separator : Char} {text piece : Text}
    (member : piece ∈ splitOn separator text) : separator ∉ piece := by
  induction text generalizing piece with
  | nil =>
      rw [splitOn, List.mem_singleton] at member
      simp [member]
  | cons c text ih =>
      unfold splitOn at member
      split at member
      · rcases List.mem_cons.mp member with rfl | member
        · exact List.not_mem_nil
        · exact ih member
      · rename_i other
        split at member
        · rename_i none
          exact absurd none (splitOn_ne_nil separator text)
        · rename_i first pieces cut
          rcases List.mem_cons.mp member with rfl | member
          · intro inside
            rcases List.mem_cons.mp inside with same | inside
            · exact other same.symm
            · exact ih (cut ▸ List.mem_cons_self) inside
          · exact ih (cut ▸ .tail _ member)

theorem Path.isRead_ofText (text : Text) : (Path.ofText text).IsRead := by
  intro part member
  obtain ⟨piece, kept⟩ := List.mem_filter.mp member
  refine ⟨?_, not_mem_of_mem_splitOn piece⟩
  simp only [isKept, Bool.and_eq_true, decide_eq_true_eq] at kept
  exact kept.1

namespace FileTree

variable {tree before after : FileTree} {directory location : Location} {names : List Text}
  {name : Text} {path : Path} {spot : Spot} {written opened : Location → Prop} {place : Location}

def IsNamed (tree : FileTree) : Prop :=
  ∀ location entry, tree.entry? location = some entry → ∀ name ∈ location, IsFileName name

theorem mem_step {other : Text} (member : other ∈ step directory name) : other ∈ directory ∨ other = name := by
  unfold step at member
  split at member
  · exact .inl (List.dropLast_subset _ member)
  · simpa using member

theorem mem_location_followNames (found : tree.followNames directory names = .ok spot)
    (member : name ∈ spot.location) : name ∈ directory ∨ name ∈ names := by
  induction names generalizing directory with
  | nil =>
      cases found
      exact .inl member
  | cons first names ih =>
      obtain ⟨-, ⟨rfl, rfl⟩ | ⟨_, _, rest⟩⟩ := followNames_cons_eq_ok.mp found
      · rw [location_spotAt] at member
        exact (mem_step member).imp_right fun same => by simp [same]
      · rcases ih rest with inside | later
        · exact (mem_step inside).imp_right fun same => by simp [same]
        · exact .inr (.tail _ later)

/-- The names on the way to where a path leads can all be names of entries. -/
theorem isFileName_of_find (start : ∀ name ∈ tree.workingDirectory, IsFileName name) (read : path.IsRead)
    (found : tree.find path = .ok spot) : ∀ name ∈ spot.location, IsFileName name := by
  obtain ⟨clean, -, followed⟩ := find_eq_ok.mp found
  intro name member
  rcases mem_location_followNames followed member with inside | part
  · unfold startOf at inside
    split at inside
    · exact start name inside
    · contradiction
  · refine ⟨(read name part).1, (read name part).2, fun null => ?_⟩
    have bad : path.parts.any (·.contains '\x00') = true :=
      List.any_eq_true.mpr ⟨name, part, List.contains_iff_mem.mpr null⟩
    rw [clean] at bad
    cases bad

theorem IsNamed.workingDirectory (named : tree.IsNamed) (wellFormed : tree.WellFormed) :
    ∀ name ∈ tree.workingDirectory, IsFileName name := named _ _ wellFormed.workingDirectory

theorem isNamed_empty : ({} : FileTree).IsNamed := by
  intro location entry there
  unfold FileTree.entry? at there
  split at there
  · rename_i root
    subst root
    exact nofun
  · cases there

theorem IsNamed.put {entry : Entry} (named : tree.IsNamed) (proper : location ≠ [])
    (fits : ∀ name ∈ location, IsFileName name) : (tree.put location entry).IsNamed := by
  intro other found there
  by_cases same : other = location
  · exact same ▸ fits
  · rw [entry?_put_of_ne proper same] at there
    exact named other found there

theorem IsNamed.below {entry : Entry} (named : tree.IsNamed) (listed : (names, entry) ∈ tree.below path) :
    ∀ name ∈ names, IsFileName name := by
  obtain ⟨base, leads⟩ := exists_base_of_mem_below listed
  have there := ((mem_below leads).mp listed).2
  exact fun name member => named _ _ there name (List.mem_append_right base member)

theorem IsNamed.changed (named : before.IsNamed) (changed : ChangesOnly written opened before after)
    (atFiles : ∀ location, written location → ∀ name ∈ location, IsFileName name)
    (atDirectories : ∀ location, opened location → ∀ name ∈ location, IsFileName name) :
    after.IsNamed := by
  intro location entry there
  rcases changed.entry location with same | ⟨inside, _⟩ | ⟨inside, _⟩
  · exact named location entry (same.symm.trans there)
  · exact atFiles location inside
  · exact atDirectories location inside

theorem IsOnWay.isFileName (start : ∀ name ∈ tree.workingDirectory, IsFileName name) (read : path.IsRead)
    (way : tree.IsOnWay path location) : ∀ name ∈ location, IsFileName name := by
  obtain ⟨parts, front, found⟩ := way
  exact isFileName_of_find start (fun part member => read part (front.subset member)) found

end FileTree

end Gamebook.Files
