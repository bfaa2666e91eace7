import Gamebook.Files.Writing
import Gamebook.Proofs.Effects
import Gamebook.Proofs.Files.Places

/-!
What stays in a tree of files under a change: everything that is there, and every file outside the
places written to with its content.
-/

namespace Gamebook.Files

open Gamebook.Text

namespace FileTree

variable {tree before middle after next : FileTree} {written wider : Location → Prop}
  {directory location place : Location} {names : List Text} {path : Path} {spot : Spot}
  {content : Content} {existing : Bool}

structure PreservesOutside (written : Location → Prop) (before after : FileTree) : Prop where
  workingDirectory : after.workingDirectory = before.workingDirectory
  directory {location : Location} : before.entry? location = some .directory →
    after.entry? location = some .directory
  file {location : Location} {content : Content} :
    before.entry? location = some (.file content) →
      ∃ current, after.entry? location = some (.file current) ∧
        (¬written location → current = content)

abbrev Preserves (before after : FileTree) : Prop := PreservesOutside (fun _ => False) before after

namespace PreservesOutside

theorem refl (written : Location → Prop) (tree : FileTree) : PreservesOutside written tree tree :=
  ⟨rfl, id, fun there => ⟨_, there, fun _ => rfl⟩⟩

theorem trans (first : PreservesOutside written before middle)
    (second : PreservesOutside written middle after) : PreservesOutside written before after where
  workingDirectory := second.workingDirectory.trans first.workingDirectory
  directory := fun inside => second.directory (first.directory inside)
  file := by
    intro location content there
    obtain ⟨between, there, same⟩ := first.file there
    obtain ⟨current, there, unchanged⟩ := second.file there
    exact ⟨current, there, fun outside => (unchanged outside).trans (same outside)⟩

theorem weaken (preserved : PreservesOutside written before after)
    (included : ∀ location, written location → wider location) :
    PreservesOutside wider before after where
  workingDirectory := preserved.workingDirectory
  directory := preserved.directory
  file := by
    intro location content there
    obtain ⟨current, there, same⟩ := preserved.file there
    exact ⟨current, there, fun outside => same fun inside => outside (included _ inside)⟩

theorem file_of_outside (preserved : PreservesOutside written before after)
    (there : before.entry? location = some (.file content)) (outside : ¬written location) :
    after.entry? location = some (.file content) := by
  obtain ⟨current, now, same⟩ := preserved.file there
  rw [now, same outside]

theorem free_before (preserved : PreservesOutside written before after)
    (free : after.entry? location = none) : before.entry? location = none := by
  cases there : before.entry? location with
  | none => rfl
  | some entry =>
      cases entry with
      | directory =>
          rw [preserved.directory there] at free
          cases free
      | file content =>
          obtain ⟨current, stays, _⟩ := preserved.file there
          rw [stays] at free
          cases free

theorem put_directory (free : tree.entry? location = none) (room : tree.IsOpen location) :
    Preserves tree (tree.put location .directory) := by
  have stays : ∀ other entry, tree.entry? other = some entry →
      FileTree.entry? (tree.put location .directory) other = some entry := by
    intro other entry there
    rw [entry?_put_of_ne room.ne_nil, there]
    rintro rfl
    rw [free] at there
    cases there
  exact ⟨rfl, stays _ _, fun there => ⟨_, stays _ _ there, fun _ => rfl⟩⟩

theorem put_file (room : tree.IsOpen location) :
    PreservesOutside (· = location) tree (tree.put location (.file content)) where
  workingDirectory := rfl
  directory := by
    intro other inside
    rw [entry?_put_of_ne room.ne_nil, inside]
    rintro rfl
    exact room.notDirectory inside
  file := by
    intro other old there
    by_cases same : other = location
    · subst same
      exact ⟨content, entry?_put_self room.ne_nil, fun outside => (outside rfl).elim⟩
    · rw [entry?_put_of_ne room.ne_nil same]
      exact ⟨old, there, fun _ => rfl⟩

theorem followNames (preserved : PreservesOutside written before after)
    (start : before.entry? directory = some .directory)
    (found : before.followNames directory names = .ok spot) :
    after.followNames directory names = .ok (after.spotAt spot.location) := by
  induction names generalizing directory with
  | nil =>
      cases found
      simp only [FileTree.followNames, spotAt, Spot.location, preserved.directory start]
  | cons name names ih =>
      obtain ⟨short, ⟨rfl, rfl⟩ | ⟨more, inside, rest⟩⟩ := followNames_cons_eq_ok.mp found
      · exact followNames_cons_eq_ok.mpr ⟨short, .inl ⟨rfl, by rw [location_spotAt]⟩⟩
      · exact followNames_cons_eq_ok.mpr
          ⟨short, .inr ⟨more, preserved.directory inside, ih inside rest⟩⟩

theorem find (preserved : PreservesOutside written before after) (wellFormed : before.WellFormed)
    (found : before.find path = .ok spot) : after.find path = .ok (after.spotAt spot.location) := by
  obtain ⟨clean, short, followed⟩ := find_eq_ok.mp found
  have same : after.startOf path.anchor = before.startOf path.anchor := by
    cases path.anchor <;> simp only [FileTree.startOf, preserved.workingDirectory]
  refine find_eq_ok.mpr ⟨clean, short, ?_⟩
  rw [same]
  exact preserved.followNames (wellFormed.startOf path.anchor) followed

theorem find_directory (preserved : PreservesOutside written before after)
    (wellFormed : before.WellFormed) (found : before.find path = .ok (.taken place .directory)) :
    after.find path = .ok (.taken place .directory) := by
  have inside : after.entry? place = some .directory :=
    preserved.directory (wellFormed.holds_find found)
  rw [preserved.find wellFormed found, spotAt, Spot.location, inside]

theorem find_file (preserved : PreservesOutside written before after)
    (wellFormed : before.WellFormed) (found : before.find path = .ok (.taken place (.file content))) :
    ∃ current, after.find path = .ok (.taken place (.file current)) := by
  obtain ⟨current, there, -⟩ := preserved.file (wellFormed.holds_find found)
  exact ⟨current, by rw [preserved.find wellFormed found, spotAt, Spot.location, there]⟩

end PreservesOutside

theorem makeDirectory_eq_ok : tree.makeDirectory path = .ok next ↔
    ∃ location, tree.find path = .ok (.free location) ∧ next = tree.put location .directory := by
  unfold makeDirectory
  cases tree.find path with
  | error fault => simp
  | ok spot => cases spot <;> simp [eq_comm]

/-- The place that a file written to a path takes; none if it cannot be written. -/
def target? (tree : FileTree) (path : Path) : Option Location :=
  match tree.find path with
  | .ok (.free location) => some location
  | .ok (.taken location (.file _)) => some location
  | _ => none

theorem target?_eq_some : tree.target? path = some location ↔
    tree.find path = .ok (.free location) ∨
      ∃ old, tree.find path = .ok (.taken location (.file old)) := by
  unfold target?
  cases tree.find path with
  | error fault => simp
  | ok spot =>
      cases spot with
      | free location => simp
      | taken location entry => cases entry <;> simp

theorem writeFile_eq_ok : tree.writeFile path content = .ok next ↔
    ∃ location, tree.target? path = some location ∧ next = tree.put location (.file content) := by
  unfold writeFile target?
  cases tree.find path with
  | error fault => simp
  | ok spot =>
      cases spot with
      | free location => simp [eq_comm]
      | taken location entry => cases entry <;> simp [eq_comm]

theorem WellFormed.isOpen_of_target? (wellFormed : tree.WellFormed)
    (target : tree.target? path = some location) : tree.IsOpen location := by
  rcases target?_eq_some.mp target with free | ⟨old, taken⟩
  · exact (wellFormed.holds_find free).2
  · exact wellFormed.isOpen_of_file (wellFormed.holds_find taken)

theorem exists_find_of_target? (target : tree.target? path = some location) :
    ∃ spot, tree.find path = .ok spot ∧ spot.location = location := by
  rcases target?_eq_some.mp target with free | ⟨old, taken⟩
  · exact ⟨_, free, rfl⟩
  · exact ⟨_, taken, rfl⟩

/-- A file is written to one place, where the path leads from then on. -/
theorem WellFormed.exists_put_of_writeFile (wellFormed : tree.WellFormed)
    (done : tree.writeFile path content = .ok next) :
    ∃ spot, tree.find path = .ok spot ∧ tree.target? path = some spot.location ∧
      next = tree.put spot.location (.file content) ∧ tree.IsOpen spot.location ∧
      next.find path = .ok (.taken spot.location (.file content)) := by
  obtain ⟨location, target, rfl⟩ := writeFile_eq_ok.mp done
  obtain ⟨spot, found, rfl⟩ := exists_find_of_target? target
  have room := wellFormed.isOpen_of_target? target
  refine ⟨spot, found, target, rfl, room, ?_⟩
  rw [(PreservesOutside.put_file room).find wellFormed found, spotAt, entry?_put_self room.ne_nil]

/-- A file that has been written is there. -/
theorem WellFormed.writeFile (wellFormed : tree.WellFormed)
    (done : tree.writeFile path content = .ok next) :
    next.WellFormed ∧ PreservesOutside (fun _ => True) tree next ∧
      ∃ location, next.find path = .ok (.taken location (.file content)) := by
  obtain ⟨spot, _, _, rfl, room, leads⟩ := wellFormed.exists_put_of_writeFile done
  exact ⟨wellFormed.put room, (PreservesOutside.put_file room).weaken fun _ _ => trivial, _, leads⟩

end FileTree

section Actions

variable {held after failed : FileTree → Prop}

theorem keeps_inspect (look : FileTree → Except Fault α) : Keeps held (inspect look) :=
  fun _ holds => holds

theorem attempts_inspect (look : FileTree → Except Fault α)
    (left : ∀ tree fault, held tree → look tree = .error fault → failed tree) :
    Attempts held (inspect look) (fun result tree => look tree = .ok result ∧ held tree) failed := by
  intro tree holds
  change ifGiven _ _ (look tree) tree
  cases seen : look tree with
  | error fault => exact left tree fault holds seen
  | ok result => exact ⟨seen, holds⟩

theorem attempts_change {attempt : FileTree → Except Fault FileTree}
    (made : ∀ tree next, held tree → attempt tree = .ok next → after next)
    (left : ∀ tree fault, held tree → attempt tree = .error fault → failed tree) :
    Attempts held (change attempt) (fun _ => after) failed := by
  intro tree holds
  change ifGiven _ _ (Files.change attempt tree).1 (Files.change attempt tree).2
  unfold Files.change
  cases result : attempt tree with
  | error fault => exact left tree fault holds result
  | ok next => exact made tree next holds result

theorem inspect_eq_ok {look : FileTree → Except Fault α} {tree next : FileTree} {value : α} :
    inspect look tree = (.ok value, next) ↔ look tree = .ok value ∧ tree = next := Prod.ext_iff

theorem change_eq_ok {attempt : FileTree → Except Fault FileTree} {tree next : FileTree} :
    change attempt tree = (.ok (), next) ↔ attempt tree = .ok next := by
  unfold Files.change
  cases attempt tree with
  | error fault => exact ⟨nofun, nofun⟩
  | ok made => constructor <;> rintro ⟨⟩ <;> rfl

theorem writeFile_done {tree next : FileTree} {path : Path} {content : Content} :
    writeFile path content tree = (.ok (), next) ↔ tree.writeFile path content = .ok next :=
  change_eq_ok

theorem exists_write_of_appendBytes {tree next : FileTree} {path : Path} {bytes : ByteArray}
    (done : appendBytes path bytes tree = (.ok (), next)) :
    ∃ content, tree.writeFile path content = .ok next := ⟨_, change_eq_ok.mp done⟩

theorem appendBytes_of_file {tree : FileTree} {path : Path} {location : Location} {content : Content}
    {bytes : ByteArray} (found : tree.find path = .ok (.taken location (.file content))) :
    appendBytes path bytes tree =
      (.ok (), tree.put location (.file (.bytes (content.toBytes ++ bytes)))) := by
  unfold appendBytes Files.change FileTree.writeFile FileTree.read
  simp only [found]

/-- Whatever comes of the action, the tree stays well-formed, and all that is there stays there. -/
def IsSafe (action : FileAction α) : Prop :=
  ∀ tree, tree.WellFormed →
    (action tree).2.WellFormed ∧ FileTree.PreservesOutside (fun _ => True) tree (action tree).2

theorem isSafe_writing {path : Path} (content : FileTree → Content) :
    IsSafe (change fun tree => tree.writeFile path (content tree)) := by
  intro tree wellFormed
  unfold Files.change
  dsimp only
  cases done : tree.writeFile path (content tree) with
  | error fault => exact ⟨wellFormed, .refl _ _⟩
  | ok next =>
      obtain ⟨still, preserved, _⟩ := wellFormed.writeFile done
      exact ⟨still, preserved⟩

theorem isSafe_writeFile {path : Path} {content : Content} : IsSafe (writeFile path content) :=
  isSafe_writing fun _ => content

theorem isSafe_appendBytes {path : Path} {bytes : ByteArray} : IsSafe (appendBytes path bytes) :=
  isSafe_writing _

end Actions

end Gamebook.Files
