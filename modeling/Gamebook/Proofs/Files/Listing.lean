import Gamebook.Proofs.Files.Sites

/-!
What a directory holds: a new one holds nothing, and a file written to it under a new name is added to
what it holds.
-/

namespace Gamebook.Files.FileTree

open Gamebook.Text

variable {before tree next : FileTree} {output path : Path} {place location : Location} {name : Text}
  {names : List Text} {entry : Entry} {content : Content} {files : List (Text × Content)}

/-- Below this place there are these files, each in the directory itself, and nothing else. -/
def HoldsExactly (tree : FileTree) (place : Location) (files : List (Text × Content)) : Prop :=
  ∀ names entry, names ≠ [] →
    ( tree.entry? (place ++ names) = some entry ↔
      ∃ file ∈ files, names = [file.1] ∧ entry = .file file.2)

/-- The output leads to a directory that holds exactly these files. -/
structure IsListed (output : Path) (place : Location) (files : List (Text × Content))
    (tree : FileTree) : Prop where
  leads : tree.find output = .ok (.taken place .directory)
  holds : tree.HoldsExactly place files

theorem IsListed.mem_below (listed : IsListed output place files tree) :
    (names, entry) ∈ tree.below output ↔
      ∃ file ∈ files, names = [file.1] ∧ entry = .file file.2 := by
  rw [FileTree.mem_below listed.leads]
  constructor
  · rintro ⟨some_names, there⟩
    exact (listed.holds names entry some_names).mp there
  · rintro ⟨file, member, rfl, rfl⟩
    have some_names : [file.1] ≠ [] := List.cons_ne_nil _ _
    exact ⟨some_names, (listed.holds _ _ some_names).mpr ⟨file, member, rfl, rfl⟩⟩

theorem HoldsExactly.put_outside (holds : tree.HoldsExactly place files) (proper : location ≠ [])
    (outside : ¬ place <+: location) :
    HoldsExactly (tree.put location entry) place files := by
  intro names other some_names
  have different : place ++ names ≠ location := by
    rintro rfl
    exact outside (List.prefix_append place names)
  rw [entry?_put_of_ne proper different]
  exact holds names other some_names

theorem HoldsExactly.put_file (holds : tree.HoldsExactly place files)
    (new : name ∉ files.map Prod.fst) :
    HoldsExactly (tree.put (place ++ [name]) (.file content)) place (files ++ [(name, content)]) := by
  intro names entry some_names
  rw [entry?_put (by simp)]
  by_cases same : names = [name]
  · subst same
    rw [if_pos rfl]
    constructor
    · rintro ⟨⟩
      exact ⟨(name, content), by simp, rfl, rfl⟩
    · rintro ⟨file, member, own, rfl⟩
      rcases List.mem_append.mp member with old | last
      · have known : name ∈ files.map Prod.fst := by
          rw [(List.cons.inj own).1]
          exact List.mem_map_of_mem old
        exact absurd known new
      · rw [List.mem_singleton.mp last]
  · rw [if_neg (by simpa using same), holds names entry some_names]
    constructor
    · rintro ⟨file, member, own, rfl⟩
      exact ⟨file, List.mem_append_left _ member, own, rfl⟩
    · rintro ⟨file, member, rfl, rfl⟩
      rcases List.mem_append.mp member with old | last
      · exact ⟨file, old, rfl, rfl⟩
      · rw [List.mem_singleton.mp last] at same
        exact absurd rfl same

namespace IsListed

/-- A file put elsewhere leaves what the directory holds. -/
theorem put_outside (listed : IsListed output place files tree) (wellFormed : tree.WellFormed)
    (room : tree.IsOpen location) (outside : ¬ place <+: location) :
    IsListed output place files (tree.put location (.file content)) :=
  ⟨(PreservesOutside.put_file room).find_directory wellFormed listed.leads,
    listed.holds.put_outside room.ne_nil outside⟩

theorem writeFile (listed : IsListed output place files tree) (wellFormed : tree.WellFormed)
    (proper : name ≠ ['.', '.']) (new : name ∉ files.map Prod.fst)
    (done : tree.writeFile (output.child name) content = .ok next) :
    IsListed output place (files ++ [(name, content)]) next := by
  obtain ⟨spot, found, _, rfl, room, _⟩ := wellFormed.exists_put_of_writeFile done
  have own : spot.location = place ++ [name] :=
    location_find_below listed.leads (areBelow_singleton.mpr proper) found
  refine ⟨(PreservesOutside.put_file room).find_directory wellFormed listed.leads, ?_⟩
  rw [own]
  exact listed.holds.put_file new

end IsListed

end Gamebook.Files.FileTree
