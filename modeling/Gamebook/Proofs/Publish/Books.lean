import Gamebook.Proofs.Files.BookPlace
import Gamebook.Proofs.Run.Telling
import Gamebook.Proofs.Text.Items
import Gamebook.Publish.Book

/-!
A book takes one place among the files, which is settled only after the directory above has been
made.
-/

namespace Gamebook.Publish.Book

open Gamebook.Text Gamebook.Files Gamebook.Files.FileTree Gamebook.Run

variable {tree made : FileTree} {job : Job} {edition : Edition} {found : List Image}
  {output : Path}

theorem isFile_of_imagesOf {directory : Option Path} (listed : imagesOf tree directory = .ok found) :
    ∀ image ∈ found, tree.isFile image.source = true := by
  intro image member
  cases directory with
  | none =>
      cases listed
      contradiction
  | some directory =>
      obtain ⟨entries, _, listed⟩ := bind_eq_ok.mp listed
      obtain ⟨files, filtered, listed⟩ := bind_eq_ok.mp listed
      cases listed
      obtain ⟨entry, inside, rfl⟩ := List.mem_map.mp member
      exact isFile_of_testFile ((mem_filterM_ok filtered).mp inside).2

theorem exists_imageMembers (files : ∀ image ∈ found, tree.isFile image.source = true) :
    ∃ members, found.mapM (imageMember tree) = .ok members := by
  have packed : ∀ image ∈ found, ∃ packed, imageMember tree image = .ok packed ∧ True := by
    intro image member
    obtain ⟨location, content, leads⟩ := isFile_iff.mp (files image member)
    have loaded : tree.read image.source = .ok content := by
      unfold FileTree.read
      rw [leads]
    exact ⟨⟨inContent image.name, .deflated, content.toBytes⟩, by rw [imageMember, loaded]; rfl,
      trivial⟩
  obtain ⟨members, all, _⟩ := exists_mapM_ok packed
  exact ⟨members, all⟩

theorem target?_put {place : Location} {path : Path} {content : Content}
    (wellFormed : tree.WellFormed) (target : tree.target? path = some place) :
    (tree.put place (.file content)).target? path = some place := by
  have room := wellFormed.isOpen_of_target? target
  obtain ⟨spot, found, rfl⟩ := exists_find_of_target? target
  refine target?_eq_some.mpr (.inr ⟨content, ?_⟩)
  rw [(PreservesOutside.put_file room).find wellFormed found, spotAt, entry?_put_self room.ne_nil]

theorem holdsBookAt_put {written : Location → Prop} {place : Location} {first second : Archive}
    (added : tree.AddsDirectories made) (room : made.IsOpen place)
    (only : ∀ location, written location ↔ location = place) :
    tree.HoldsBookAt written
      ((made.put place (.file (.archive first))).put place (.file (.archive second))) := by
  have roomAgain : (made.put place (.file (.archive first))).IsOpen place :=
    (added.wellFormed.put room).isOpen_of_file (entry?_put_self room.ne_nil)
  have opened : PreservesOutside (· = place) made (made.put place (.file (.archive first))) :=
    PreservesOutside.put_file room
  have closed : PreservesOutside (· = place) (made.put place (.file (.archive first)))
      ((made.put place (.file (.archive first))).put place (.file (.archive second))) :=
    PreservesOutside.put_file roomAgain
  have preserves := (added.preserves.weaken nofun).trans (opened.trans closed)
  refine ⟨preserves.weaken fun location => (only location).mpr, fun inside => ⟨second, ?_⟩⟩
  rw [(only _).mp inside]
  exact entry?_put_self room.ne_nil

theorem attempts_fill {place : Location} (files : ∀ image ∈ found, tree.isFile image.source = true)
    (target : tree.target? output = some place) (packed : List Member → Archive) :
    Attempts (Quietly (· = tree))
      (do
        let members ← onFiles Failure.files (inspect fun tree => found.mapM (imageMember tree))
        onFiles Failure.files (Files.writeFile output (.archive (packed members))) :
          Action Failure Unit)
      (fun _ => Quietly fun after => ∃ filled, after = tree.put place (.file (.archive filled)))
      fun _ => False := by
  obtain ⟨members, readable⟩ := exists_imageMembers files
  have look : Attempts (· = tree) (inspect fun tree => found.mapM (imageMember tree))
      (fun _ => (· = tree)) fun _ => False := by
    refine (attempts_inspect _ ?_).weaken (fun _ _ => And.right) fun _ => id
    rintro _ fault rfl failed
    rw [readable] at failed
    cases failed
  have fill : ∀ members, Attempts (· = tree) (Files.writeFile output (.archive (packed members)))
      (fun _ after => ∃ filled, after = tree.put place (.file (.archive filled))) fun _ => False := by
    refine fun members => attempts_change ?_ ?_
    · rintro _ next rfl written
      rw [writeFile_eq_ok.mpr ⟨place, target, rfl⟩] at written
      exact ⟨packed members, (Except.ok.inj written).symm⟩
    · rintro _ fault rfl failed
      rw [writeFile_eq_ok.mpr ⟨place, target, rfl⟩] at failed
      cases failed
  exact Attempts.andThen ((attempts_onFiles look).weaken (fun _ _ => id) fun _ => And.right)
    fun members => (attempts_onFiles (fill members)).weaken (fun _ _ => id) fun _ => And.right

/-- Once the images are known, only a place that cannot be written keeps a book from being made. -/
theorem attempts_pack (wellFormed : tree.WellFormed)
    (files : ∀ image ∈ found, tree.isFile image.source = true) (packed : List Member → Archive)
    (output : Path) :
    Attempts (Quietly (· = tree))
      (do
        onFiles Failure.files (makeAllDirectories true output.parent)
        onFiles Failure.files (Files.writeFile output (.archive ⟨[]⟩))
        let members ← onFiles Failure.files (inspect fun tree => found.mapM (imageMember tree))
        onFiles Failure.files (Files.writeFile output (.archive (packed members))) :
          Action Failure Unit)
      (fun _ => Quietly (tree.HoldsBookAt fun location => tree.bookPlace? output = some location))
      (Quietly tree.Preserves) := by
  obtain ⟨made, done⟩ : ∃ made, made = (makeDirectories true output.parent tree).2 := ⟨_, rfl⟩
  have added : tree.AddsDirectories made := done ▸ addsDirectories_makeDirectories wellFormed
  have directories : Attempts (· = tree) (makeAllDirectories true output.parent)
      (fun _ => (· = made)) tree.Preserves := by
    rintro _ rfl
    change ifGiven _ _ (makeDirectories true output.parent _).1 (makeDirectories true output.parent _).2
    rw [← done]
    cases (makeDirectories true output.parent _).1 with
    | error fault => exact added.preserves
    | ok _ => rfl
  have opened : Attempts (· = made) (Files.writeFile output (.archive ⟨[]⟩))
      (fun _ files => ∃ place, made.target? output = some place ∧
        files = made.put place (.file (.archive ⟨[]⟩))) tree.Preserves := by
    refine attempts_change ?_ ?_
    · rintro _ next rfl written
      exact writeFile_eq_ok.mp written
    · rintro _ fault rfl -
      exact added.preserves
  refine Attempts.andThen (attempts_onFiles directories) fun _ => ?_
  refine Attempts.andThen (attempts_onFiles opened) fun _ => ?_
  rintro world ⟨quiet, place, target, same⟩
  have room := added.wellFormed.isOpen_of_target? target
  -- The images were listed before any directory was made, and are read after.
  have readable : ∀ image ∈ found, (made.put place (.file (.archive ⟨[]⟩))).isFile image.source = true :=
    fun image member => (PreservesOutside.put_file room).isFile added.wellFormed
      (added.preserves.isFile wellFormed (files image member))
  have filled := attempts_fill readable (target?_put added.wellFormed target) packed
  refine filled.weaken ?_ (fun _ => False.elim) world ⟨quiet, same⟩
  rintro _ after ⟨quiet, second, same⟩
  refine ⟨quiet, same ▸ holdsBookAt_put added room fun location => ?_⟩
  rw [bookPlace?, ← done, target, Option.some_inj, eq_comm]

theorem attempts_publish (wellFormed : tree.WellFormed) :
    Attempts (Quietly (· = tree)) (publish job edition)
      (fun _ => Quietly (tree.HoldsBookAt fun location => tree.bookPlace? job.output = some location))
      (Quietly tree.Preserves) := by
  have failed : ∀ world : World, Quietly (· = tree) world → Quietly tree.Preserves world :=
    fun world ⟨quiet, same⟩ => ⟨quiet, same ▸ .refl _ _⟩
  unfold publish
  refine Attempts.andThen ((Keeps.ofExcept _).attempts failed) fun templates => ?_
  refine Attempts.andThen ((Keeps.ofExcept _).attempts failed) fun pages => ?_
  refine Attempts.andThen ((Keeps.lift (keeps_emit _)).attempts failed) fun _ => ?_
  refine Attempts.andThen ((Keeps.ofExcept _).attempts failed) fun title => ?_
  refine Attempts.andThen ((Keeps.ofExcept _).attempts failed) fun documents => ?_
  have look : Attempts (· = tree) (inspect fun files => imagesOf files job.imageDirectory)
      (fun found files => imagesOf files job.imageDirectory = .ok found ∧ files = tree)
      tree.Preserves :=
    attempts_inspect _ fun _ _ same _ => same ▸ .refl _ _
  refine Attempts.andThen (attempts_onFiles look) fun found => ?_
  rintro world ⟨quiet, listed, same⟩
  rw [same] at listed
  exact attempts_pack wellFormed (isFile_of_imagesOf listed) (fun members => ⟨_ ++ members⟩)
    job.output world ⟨quiet, same⟩

end Gamebook.Publish.Book
