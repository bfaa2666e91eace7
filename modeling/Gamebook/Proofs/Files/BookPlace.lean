import Gamebook.Proofs.Files.Directories

/-!
The place that a book takes. It is settled only after the directory above has been made, and may be
the place of a file that the path did not lead to before.
-/

namespace Gamebook.Files.FileTree

open Gamebook.Text

variable {tree before after made : FileTree} {written : Location → Prop} {path output : Path}
  {directory location : Location} {names : List Text} {content : Content} {spot : Spot}

theorem isFile_iff : tree.isFile path = true ↔
    ∃ location content, tree.find path = .ok (.taken location (.file content)) := by
  unfold isFile lookup?
  cases tree.find path with
  | error fault => simp
  | ok spot =>
      cases spot with
      | free location => simp
      | taken location entry => cases entry <;> simp

theorem isFile_of_testFile (tested : tree.testFile path = .ok true) : tree.isFile path = true := by
  unfold testFile FileTree.tested at tested
  split at tested
  · cases tested
  · exact Except.ok.inj tested

theorem PreservesOutside.isFile (preserved : PreservesOutside written before after)
    (wellFormed : before.WellFormed) (file : before.isFile path = true) : after.isFile path = true := by
  obtain ⟨location, content, found⟩ := isFile_iff.mp file
  obtain ⟨current, found⟩ := preserved.find_file wellFormed found
  exact isFile_iff.mpr ⟨location, current, found⟩

/-- The place that a book at a path takes. -/
def bookPlace? (tree : FileTree) (output : Path) : Option Location :=
  (makeDirectories true output.parent tree).2.target? output

/-- The files stay as they are, but for a book at the places where one was written. -/
structure HoldsBookAt (written : Location → Prop) (before after : FileTree) : Prop where
  preserves : PreservesOutside written before after
  book {location : Location} : written location →
    ∃ packed, after.entry? location = some (.file (.archive packed))

theorem HoldsBookAt.of_preserves (preserved : Preserves before after)
    (unwritten : ∀ location, ¬written location) : HoldsBookAt written before after :=
  ⟨preserved.weaken nofun, fun inside => (unwritten _ inside).elim⟩

theorem WellFormed.followNames_file (wellFormed : tree.WellFormed)
    (start : tree.entry? directory = some .directory)
    (proper : ∀ name ∈ names, name ≠ ['.', '.'])
    (found : made.followNames directory names = .ok spot)
    (there : tree.entry? (directory ++ names) = some (.file content)) :
    tree.followNames directory names = .ok (.taken (directory ++ names) (.file content)) := by
  induction names generalizing directory with
  | nil =>
      rw [List.append_nil, start] at there
      cases there
  | cons name names ih =>
      have own : step directory name = directory ++ [name] := if_neg (proper name List.mem_cons_self)
      rw [List.append_cons] at there ⊢
      obtain ⟨short, ⟨rfl, -⟩ | ⟨more, -, rest⟩⟩ := followNames_cons_eq_ok.mp found
      · rw [List.append_nil] at there ⊢
        exact followNames_cons_eq_ok.mpr ⟨short, .inl ⟨rfl, by rw [own, spotAt, there]⟩⟩
      · have inside := wellFormed.directory_of_below more there
        rw [own] at rest
        have further := ih inside (fun other member => proper other (.tail _ member)) rest there
        exact followNames_cons_eq_ok.mpr ⟨short, .inr ⟨more, by rw [own, inside], by rw [own, further]⟩⟩

/-- A book takes the place of a file that its path did not lead to only if the path leads up again,
and the directory above was missing. -/
theorem dots_of_bookPlace? (wellFormed : tree.WellFormed)
    (there : tree.entry? location = some (.file content))
    (place : tree.bookPlace? output = some location) (elsewhere : tree.isFile output = false) :
    ['.', '.'] ∈ output.parts ∧ tree.isDirectory output.parent = false := by
  have added : tree.AddsDirectories (makeDirectories true output.parent tree).2 :=
    addsDirectories_makeDirectories wellFormed
  unfold bookPlace? at place
  constructor
  · -- Names that lead only downwards find the file wherever it stood before.
    apply Decidable.byContradiction
    intro absent
    have proper : ∀ name ∈ output.parts, name ≠ ['.', '.'] := by
      rintro name member rfl
      exact absent member
    obtain ⟨spot, found, same⟩ := exists_find_of_target? place
    obtain ⟨clean, short, followed⟩ := find_eq_ok.mp found
    have own := location_followNames proper followed
    have start : (makeDirectories true output.parent tree).2.startOf output.anchor =
        tree.startOf output.anchor := by
      cases output.anchor <;> simp only [FileTree.startOf, added.preserves.workingDirectory]
    rw [start] at followed own
    rw [← same, own] at there
    have known := wellFormed.followNames_file (wellFormed.startOf _) proper followed there
    have file := isFile_iff.mpr ⟨_, content, find_eq_ok.mpr ⟨clean, short, known⟩⟩
    rw [file] at elsewhere
    cases elsewhere
  · cases inside : tree.isDirectory output.parent with
    | false => rfl
    | true =>
        -- No directory is made then, so that the path already led where it leads now.
        rw [makeDirectories_of_isDirectory inside] at place
        rcases target?_eq_some.mp place with free | ⟨old, taken⟩
        · rw [(wellFormed.holds_find free).1] at there
          cases there
        · rw [isFile_iff.mpr ⟨_, old, taken⟩] at elsewhere
          cases elsewhere

end Gamebook.Files.FileTree
