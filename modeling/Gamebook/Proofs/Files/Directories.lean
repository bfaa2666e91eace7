import Gamebook.Proofs.Files.Preserving

/-!
Making a directory with those missing above it adds directories and does nothing else.
-/

namespace Gamebook.Files

open Gamebook.Text FileTree

variable {tree next : FileTree} {kept : FileTree → Prop} {passed : Path → Prop} {path : Path}
  {place : Location} {existing : Bool}

theorem makeDirectory_keeps
    (made : ∀ tree next, kept tree → tree.makeDirectory path = .ok next → kept next)
    (held : kept tree) : kept (makeDirectory existing path tree).2 := by
  unfold makeDirectory
  split
  · rename_i next result
    exact made tree next held result
  · exact held

/-- What every single directory on the way keeps is kept; `passed` are the paths that may have to be
made. -/
theorem makeDirectories_keeps
    (made : ∀ path tree next, passed path → kept tree → tree.makeDirectory path = .ok next → kept next)
    (up : ∀ path tree fault, passed path → kept tree → tree.makeDirectory path = .error fault →
      lacksParent fault = true → passed path.parent)
    (start : passed path) (held : kept tree) : kept (makeDirectories existing path tree).2 := by
  fun_induction makeDirectories existing path tree with
  | case1 existing path next result => exact made path tree next start held result
  | case2 existing path fault result lacking next above ih =>
      simp only [Bool.and_eq_true] at lacking
      rw [above] at ih
      exact makeDirectory_keeps (fun tree next => made path tree next start)
        (ih (up path tree fault start held result lacking.1))
  | case3 existing path fault result lacking reason next above ih =>
      simp only [Bool.and_eq_true] at lacking
      rw [above] at ih
      exact ih (up path tree fault start held result lacking.1)
  | case4 existing path fault result lacking =>
      exact makeDirectory_keeps (fun tree next => made path tree next start) held

theorem workingDirectory_makeDirectories :
    FileTree.workingDirectory (makeDirectories existing path tree).2 = tree.workingDirectory := by
  refine @makeDirectories_keeps tree (·.workingDirectory = tree.workingDirectory) (fun _ => True) path
    existing (fun path between next _ same made => ?_) (fun _ _ _ _ _ _ _ => trivial) trivial rfl
  obtain ⟨location, -, rfl⟩ := makeDirectory_eq_ok.mp made
  rwa [workingDirectory_put]

structure FileTree.AddsDirectories (before after : FileTree) : Prop where
  wellFormed : after.WellFormed
  preserves : Preserves before after
  file {location : Location} {content : Content} : after.entry? location = some (.file content) →
    before.entry? location = some (.file content)

theorem FileTree.AddsDirectories.refl (wellFormed : tree.WellFormed) : tree.AddsDirectories tree :=
  ⟨wellFormed, .refl _ _, id⟩

theorem FileTree.AddsDirectories.makeDirectory {before : FileTree} (added : before.AddsDirectories tree)
    (made : tree.makeDirectory path = .ok next) : before.AddsDirectories next := by
  obtain ⟨location, found, rfl⟩ := makeDirectory_eq_ok.mp made
  obtain ⟨free, room⟩ := added.wellFormed.holds_find found
  refine ⟨added.wellFormed.put room,
    added.preserves.trans (PreservesOutside.put_directory free room), fun there => ?_⟩
  rw [entry?_put room.ne_nil] at there
  split at there
  · cases there
  · exact added.file there

theorem addsDirectories_makeDirectories (wellFormed : tree.WellFormed) :
    tree.AddsDirectories (makeDirectories existing path tree).2 :=
  @makeDirectories_keeps _ _ (fun _ => True) _ _
    (fun _ _ _ _ added made => added.makeDirectory made)
    (fun _ _ _ _ _ _ _ => trivial) trivial (.refl wellFormed)

theorem addsDirectories_of_made {answer : Except Fault Unit} (wellFormed : tree.WellFormed)
    (made : makeDirectories existing path tree = (answer, next)) : tree.AddsDirectories next := by
  have added : tree.AddsDirectories (makeDirectories existing path tree).2 :=
    addsDirectories_makeDirectories wellFormed
  rwa [made] at added

theorem FileTree.isDirectory_iff : tree.isDirectory path = true ↔
    ∃ location, tree.find path = .ok (.taken location .directory) := by
  unfold isDirectory lookup?
  cases tree.find path with
  | error fault => simp
  | ok spot =>
      cases spot with
      | free location => simp
      | taken location entry => cases entry <;> simp

theorem makeDirectories_of_isDirectory (inside : tree.isDirectory path = true) :
    makeDirectories true path tree = (.ok (), tree) := by
  obtain ⟨location, found⟩ := isDirectory_iff.mp inside
  have failed : tree.makeDirectory path = .error (.refused .alreadyExists path) := by
    rw [FileTree.makeDirectory, found]
  unfold makeDirectories
  simp [failed, lacksParent, Files.makeDirectory, isHarmless, inside]

theorem isSafe_makeAllDirectories : IsSafe (makeAllDirectories existing path) := by
  intro tree wellFormed
  have added : tree.AddsDirectories (makeDirectories existing path tree).2 :=
    addsDirectories_makeDirectories wellFormed
  exact ⟨added.wellFormed, added.preserves.weaken nofun⟩

/-- A directory that must not be there yet is made at a place that was free just before. -/
theorem exists_free_of_makeDirectories (wellFormed : tree.WellFormed)
    (made : makeDirectories false path tree = (.ok (), next)) :
    ∃ above place, tree.AddsDirectories above ∧ above.find path = .ok (.free place) ∧
      next = above.put place .directory := by
  have last : ∀ above : FileTree, tree.AddsDirectories above →
      Files.makeDirectory false path above = (.ok (), next) →
      ∃ place, above.find path = .ok (.free place) ∧ next = above.put place .directory := by
    intro above added done
    unfold Files.makeDirectory at done
    split at done
    · rename_i result
      cases done
      exact makeDirectory_eq_ok.mp result
    · cases congrArg Prod.fst done
  unfold makeDirectories at made
  split at made
  · rename_i result
    cases made
    obtain ⟨place, found, same⟩ := makeDirectory_eq_ok.mp result
    exact ⟨tree, place, .refl wellFormed, found, same⟩
  · split at made
    · split at made
      · rename_i above result
        have added : tree.AddsDirectories above := addsDirectories_of_made wellFormed result
        obtain ⟨place, found, same⟩ := last above added made
        exact ⟨above, place, added, found, same⟩
      · cases made
    · obtain ⟨place, found, same⟩ := last tree (.refl wellFormed) made
      exact ⟨tree, place, .refl wellFormed, found, same⟩

end Gamebook.Files
