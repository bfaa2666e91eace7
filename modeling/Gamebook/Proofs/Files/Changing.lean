import Gamebook.Proofs.Files.Directories

/-!
What is different between two trees of files: files at the places written to, and directories made
where nothing was. A directory is made only on the way that a path leads.
-/

namespace Gamebook.Files

open Gamebook.Text FileTree

namespace FileTree

variable {tree next before middle after : FileTree} {written wider opened further : Location → Prop}
  {directory location place : Location} {names more : List Text} {path : Path} {ways : List Path}
  {content : Content} {entry : Entry}

/-- Every entry is as before, but for files at the places written to and for directories at the places
opened, where nothing was. -/
structure ChangesOnly (written opened : Location → Prop) (before after : FileTree) : Prop where
  workingDirectory : after.workingDirectory = before.workingDirectory
  entry (location : Location) : after.entry? location = before.entry? location ∨
    (written location ∧ before.entry? location ≠ some .directory ∧
      ∃ content, after.entry? location = some (.file content)) ∨
    (opened location ∧ before.entry? location = none ∧ after.entry? location = some .directory)

namespace ChangesOnly

theorem refl (written opened : Location → Prop) (tree : FileTree) :
    ChangesOnly written opened tree tree := ⟨rfl, fun _ => .inl rfl⟩

theorem weaken (changed : ChangesOnly written opened before after)
    (atFiles : ∀ location, written location → wider location)
    (atDirectories : ∀ location, opened location → further location) :
    ChangesOnly wider further before after where
  workingDirectory := changed.workingDirectory
  entry := fun location => (changed.entry location).imp_right <| Or.imp
    (fun ⟨inside, rest⟩ => ⟨atFiles _ inside, rest⟩)
    (fun ⟨inside, rest⟩ => ⟨atDirectories _ inside, rest⟩)

theorem trans (first : ChangesOnly written opened before middle)
    (second : ChangesOnly written opened middle after) : ChangesOnly written opened before after where
  workingDirectory := second.workingDirectory.trans first.workingDirectory
  entry := by
    intro location
    rcases second.entry location with same | ⟨inside, free, content, now⟩ | ⟨inside, free, now⟩
    · rw [same]
      exact first.entry location
    · refine .inr (.inl ⟨inside, fun directory => ?_, content, now⟩)
      rcases first.entry location with same | ⟨_, other, _⟩ | ⟨_, none, _⟩
      · exact free (same.trans directory)
      · exact other directory
      · rw [none] at directory
        cases directory
    · rcases first.entry location with same | ⟨_, _, content, there⟩ | ⟨_, _, there⟩
      · exact .inr (.inr ⟨inside, same.symm.trans free, now⟩)
      · rw [free] at there
        cases there
      · rw [free] at there
        cases there

theorem preserves (changed : ChangesOnly written opened before after) :
    PreservesOutside written before after where
  workingDirectory := changed.workingDirectory
  directory := by
    intro location inside
    rcases changed.entry location with same | ⟨_, other, _⟩ | ⟨_, none, _⟩
    · exact same.trans inside
    · exact absurd inside other
    · rw [none] at inside
      cases inside
  file := by
    intro location content there
    rcases changed.entry location with same | ⟨inside, _, current, now⟩ | ⟨_, none, _⟩
    · exact ⟨content, same.trans there, fun _ => rfl⟩
    · exact ⟨current, now, fun outside => absurd inside outside⟩
    · rw [none] at there
      cases there

/-- Off the places written to, the files are those that were there. -/
theorem file_iff (changed : ChangesOnly written opened before after) (outside : ¬written location) :
    after.entry? location = some (.file content) ↔ before.entry? location = some (.file content) := by
  rcases changed.entry location with same | ⟨inside, _⟩ | ⟨_, none, now⟩
  · rw [same]
  · exact absurd inside outside
  · simp [none, now]

/-- A directory that was not there holds no files but those written. -/
theorem written_of_new (changed : ChangesOnly written opened before after)
    (wellFormed : before.WellFormed) (new : before.entry? directory = none)
    (there : after.entry? (directory ++ names) = some (.file content)) :
    written (directory ++ names) := by
  refine Classical.byContradiction fun outside => ?_
  exact wellFormed.outside_of_free new ((changed.file_iff outside).mp there)
    (List.prefix_append directory names)

theorem put_directory (free : tree.entry? location = none) (proper : location ≠ []) :
    ChangesOnly (fun _ => False) (· = location) tree (tree.put location .directory) where
  workingDirectory := rfl
  entry := by
    intro other
    by_cases same : other = location
    · subst same
      exact .inr (.inr ⟨rfl, free, entry?_put_self proper⟩)
    · exact .inl (entry?_put_of_ne proper same)

theorem put_file (room : tree.IsOpen location) :
    ChangesOnly (· = location) (fun _ => False) tree (tree.put location (.file content)) where
  workingDirectory := rfl
  entry := by
    intro other
    by_cases same : other = location
    · subst same
      exact .inr (.inl ⟨rfl, room.notDirectory, content, entry?_put_self room.ne_nil⟩)
    · exact .inl (entry?_put_of_ne room.ne_nil same)

end ChangesOnly

/-- A front part of the path leads to this directory. -/
def IsOnWay (tree : FileTree) (path : Path) (location : Location) : Prop :=
  ∃ parts, parts <+: path.parts ∧ tree.find { path with parts } = .ok (.taken location .directory)

theorem IsOnWay.preserved (way : before.IsOnWay path location) (wellFormed : before.WellFormed)
    (preserved : PreservesOutside written before after) : after.IsOnWay path location := by
  obtain ⟨parts, front, found⟩ := way
  exact ⟨parts, front, preserved.find_directory wellFormed found⟩

/-- Only files at these places have changed, and directories have been made only on the way that one of
these paths leads. -/
def OpensWays (written : Location → Prop) (ways : List Path) (before after : FileTree) : Prop :=
  ChangesOnly written (fun location => ∃ path ∈ ways, after.IsOnWay path location) before after

namespace OpensWays

theorem refl (written : Location → Prop) (ways : List Path) (tree : FileTree) :
    OpensWays written ways tree tree := ChangesOnly.refl _ _ tree

theorem weaken {moreWays : List Path} (opened : OpensWays written ways before after)
    (atFiles : ∀ location, written location → wider location)
    (included : ∀ path ∈ ways, path ∈ moreWays) : OpensWays wider moreWays before after :=
  ChangesOnly.weaken opened atFiles fun _ ⟨path, member, way⟩ => ⟨path, included path member, way⟩

theorem trans (first : OpensWays written ways before middle) (wellFormed : middle.WellFormed)
    (second : OpensWays written ways middle after) : OpensWays written ways before after := by
  refine ChangesOnly.trans (ChangesOnly.weaken first (fun _ => id) ?_) second
  rintro location ⟨path, member, way⟩
  exact ⟨path, member, way.preserved wellFormed (ChangesOnly.preserves second)⟩

theorem put_file (opened : OpensWays written ways before tree) (wellFormed : tree.WellFormed)
    (room : tree.IsOpen location) (inside : written location) :
    OpensWays written ways before (tree.put location (.file content)) :=
  opened.trans wellFormed <| ChangesOnly.weaken (ChangesOnly.put_file room)
    (fun _ same => same ▸ inside) fun _ => False.elim

end OpensWays

end FileTree

variable {tree next : FileTree} {path : Path} {existing : Bool}

theorem opensWays_makeDirectories (wellFormed : tree.WellFormed) :
    OpensWays (fun _ => False) [path] tree (makeDirectories existing path tree).2 := by
  refine (@makeDirectories_keeps _
    (fun next => next.WellFormed ∧ OpensWays (fun _ => False) [path] tree next)
    (fun way => ∃ parts, parts <+: path.parts ∧ way = { path with parts }) _ _ ?_ ?_
    ⟨path.parts, List.prefix_rfl, rfl⟩ ⟨wellFormed, .refl _ _ _⟩).2
  · rintro _ middle next ⟨parts, front, rfl⟩ ⟨held, opened⟩ made
    obtain ⟨location, found, rfl⟩ := makeDirectory_eq_ok.mp made
    obtain ⟨free, room⟩ := held.holds_find found
    have added : ChangesOnly (fun _ => False) (· = location) middle (middle.put location .directory) :=
      .put_directory free room.ne_nil
    have leads : FileTree.find (middle.put location .directory) { path with parts } =
        .ok (.taken location .directory) := by
      rw [added.preserves.find held found, spotAt, Spot.location, entry?_put_self room.ne_nil]
    refine ⟨held.put room, opened.trans held (ChangesOnly.weaken added (fun _ => id) ?_)⟩
    rintro _ rfl
    exact ⟨path, List.mem_singleton_self _, parts, front, leads⟩
  · rintro _ middle fault ⟨parts, front, rfl⟩ _ _ _
    exact ⟨parts.dropLast, (List.dropLast_prefix parts).trans front, rfl⟩

theorem opensWays_of_made {answer : Except Fault Unit} (wellFormed : tree.WellFormed)
    (made : makeDirectories existing path tree = (answer, next)) :
    OpensWays (fun _ => False) [path] tree next := by
  have opened : OpensWays (fun _ => False) [path] tree (makeDirectories existing path tree).2 :=
    opensWays_makeDirectories wellFormed
  rwa [made] at opened

end Gamebook.Files
