import Gamebook.Proofs.Publish.Members
import Gamebook.Proofs.Publish.Writing

/-!
What becomes of the images of a site or a book. A site lists them when its pages have been written, a book
before anything is.
-/

namespace Gamebook.Publish

open Gamebook.Text Gamebook.Files Gamebook.Files.FileTree Gamebook.Run Gamebook.Template

variable {job : Job} {edition : Edition} {styles : Text} {documents : List Document} {base place : Location}
  {images : Path} {names rest : List Text} {content : Content} {templates : PageTemplates}
  {pages : List Play.Page}

theorem Job.isFileName_pageName (state : Play.State) : IsFileName (Job.pageName Site.pageEnding state) := by
  have absent {c : Char} (front : c ∉ "scene-".toList)
      (special : c ∈ ['&', '<', '>', '"', '\'', '/', '\x00']) (ending : c ∉ Site.pageEnding) :
      c ∉ Job.pageName Site.pageEnding state := by
    intro member
    rcases List.mem_append.mp member with inId | inEnding
    · rcases List.mem_append.mp inId with inFront | inDigest
      · exact front inFront
      · exact Hash.Sha256.mem_hexDigest (List.mem_of_mem_take inDigest) special
    · exact ending inEnding
  exact ⟨List.cons_ne_nil _ _, absent (by decide) (by decide) (by decide),
    absent (by decide) (by decide) (by decide)⟩

namespace Site

variable {before files after : FileTree} {paths : List Path}

/-- What a site holds once its images have been copied: below the directory of images there are those that
were there before, and if the site lies below the images also its own documents. -/
structure HoldsImages (base place : Location) (before after : FileTree) : Prop where
  wellFormed : after.WellFormed
  changes : PreservesOutside (place <+: ·) before after
  old {names : List Text} {content : Content} : ¬ place <+: base ++ names →
    (after.entry? (place ++ imageDirectory :: names) = some (.file content) ↔
      before.entry? (base ++ names) = some (.file content))
  own {names rest : List Text} {content : Content} : base ++ names = place ++ rest →
    (after.entry? (place ++ imageDirectory :: names) = some (.file content) ↔
      ∃ name, rest = [name] ∧ after.entry? (place ++ [name]) = some (.file content))

theorem AreDocumentsOf.mem_names {name : Text} (documents_of : AreDocumentsOf job templates pages documents)
    (member : name ∈ documents.map Document.name) :
    name ∈ [titleName, stylesheet] ∨ ∃ state, name = Job.pageName pageEnding state := by
  rw [documents_of.names] at member
  rcases List.mem_cons.mp member with rfl | member
  · exact .inl (by decide)
  · rcases List.mem_cons.mp member with rfl | member
    · exact .inl (by decide)
    · obtain ⟨page, _, rfl⟩ := List.mem_map.mp member
      exact .inr ⟨page.state, rfl⟩

/-- The documents of a site can be files, and none of them takes the place of its images. -/
theorem AreDocumentsOf.isFileName {name : Text}
    (documents_of : AreDocumentsOf job templates pages documents)
    (member : name ∈ documents.map Document.name) :
    IsFileName name ∧ name ≠ imageDirectory ∧ name ≠ ['.', '.'] := by
  have fixed : ∀ name ∈ [titleName, stylesheet],
      IsFileName name ∧ name ≠ imageDirectory ∧ name ≠ ['.', '.'] := by decide
  rcases documents_of.mem_names member with inFixed | ⟨state, rfl⟩
  · exact fixed name inFixed
  · have front := Job.take_pageName pageEnding state
    refine ⟨Job.isFileName_pageName state, fun same => ?_, fun same => ?_⟩
    · rw [same] at front
      exact absurd front (by decide)
    · rw [same] at front
      exact absurd front (by decide)

/-- When its documents have been written a site holds these, and has a place for its images. -/
theorem Writes.isReady (writes : Writes job.output documents before files)
    (documents_of : AreDocumentsOf job templates pages documents) (wellFormed : before.WellFormed)
    (named : before.IsNamed) (listed : IsListed job.output place [] before) :
    files.WellFormed ∧ files.IsNamed ∧
      IsListed job.output place (documents.map Document.file) files ∧
      files.entry? (place ++ [imageDirectory]) = none ∧
      ChangesOnly (place <+: ·) (fun _ => False) before files := by
  have fits : ∀ document ∈ documents,
      IsFileName document.name ∧ document.name ≠ imageDirectory ∧ document.name ≠ ['.', '.'] :=
    fun document member => documents_of.isFileName (List.mem_map_of_mem member)
  obtain ⟨stillWellFormed, holds, written⟩ := writes.isListed wellFormed listed
    (fun document member => (fits document member).2.2) documents_of.nodup
  rw [List.nil_append] at holds
  refine ⟨stillWellFormed, named.changed written ?_ fun _ => False.elim, holds, ?_,
    written.weaken ?_ fun _ => id⟩
  · rintro _ ⟨document, member, rfl⟩ name inside
    rcases List.mem_append.mp inside with above | own
    · exact named place _ (wellFormed.holds_find listed.leads) name above
    · rw [List.mem_singleton.mp own]
      exact (fits document member).1
  · cases there : files.entry? (place ++ [imageDirectory]) with
    | none => rfl
    | some entry =>
        obtain ⟨file, member, same, _⟩ := (holds.holds _ _ (List.cons_ne_nil _ _)).mp there
        obtain ⟨document, inside, rfl⟩ := List.mem_map.mp member
        exact absurd (List.cons.inj same).1.symm (fits document inside).2.1
  · rintro _ ⟨document, _, rfl⟩
    exact List.prefix_append _ _

/-- The images are copied when the documents are there. -/
theorem Writes.isCopying (writes : Writes job.output documents before files)
    (documents_of : AreDocumentsOf job templates pages documents) (wellFormed : before.WellFormed)
    (named : before.IsNamed) (listed : IsListed job.output place [] before)
    (leads : before.find images = .ok (.taken base .directory))
    (copied : copyBelow images (job.output.child imageDirectory) files = (.ok paths, after)) :
    files.find images = .ok (.taken base .directory) ∧
      IsCopying files base (place ++ [imageDirectory]) ((files.below images).map Prod.fst) after := by
  obtain ⟨stillWellFormed, stillNamed, holds, fresh, written⟩ :=
    writes.isReady documents_of wellFormed named listed
  have leadsNow := written.preserves.find_directory wellFormed leads
  exact ⟨leadsNow, isCopying_of_copyBelow stillWellFormed fresh holds.leads (by decide) leadsNow
    (fun names content there name member => stillNamed _ _ there name (List.mem_append_right base member))
    copied⟩

/-- The images are listed when the documents are there. What lies below them in the place of the site is then
a document of the site. -/
theorem Writes.holdsImages (writes : Writes job.output documents before files)
    (documents_of : AreDocumentsOf job templates pages documents) (wellFormed : before.WellFormed)
    (named : before.IsNamed) (listed : IsListed job.output place [] before)
    (leads : before.find images = .ok (.taken base .directory))
    (copied : copyBelow images (job.output.child imageDirectory) files = (.ok paths, after)) :
    HoldsImages base place before after := by
  obtain ⟨stillWellFormed, -, holds, fresh, written⟩ :=
    writes.isReady documents_of wellFormed named listed
  obtain ⟨leadsNow, copying⟩ := writes.isCopying documents_of wellFormed named listed leads copied
  have copies : ∀ {names : List Text} {content : Content},
      after.entry? (place ++ imageDirectory :: names) = some (.file content) ↔
        files.entry? (base ++ names) = some (.file content) := by
    intro names content
    rw [List.append_cons]
    exact copying.file_iff stillWellFormed leadsNow
  refine ⟨copying.wellFormed, ?_, fun {names content} outside => ?_, fun {names rest content} inside => ?_⟩
  · exact written.preserves.trans ((copying.preserves stillWellFormed fresh).weaken nofun)
  · exact copies.trans (written.file_iff outside)
  · rw [copies, inside]
    constructor
    · intro there
      have nonempty : rest ≠ [] := by
        rintro rfl
        rw [List.append_nil, stillWellFormed.holds_find holds.leads] at there
        cases there
      obtain ⟨file, member, rfl, same⟩ := (holds.holds _ _ nonempty).mp there
      obtain ⟨document, isDocument, rfl⟩ := List.mem_map.mp member
      have differs := (documents_of.isFileName (List.mem_map_of_mem isDocument)).2.1
      exact ⟨_, rfl, (copying.entry?_beside differs).trans there⟩
    · rintro ⟨name, rfl, there⟩
      by_cases same : name = imageDirectory
      · rw [same, copies, List.append_nil, stillWellFormed.holds_find leadsNow] at there
        cases there
      · exact (copying.entry?_beside same).symm.trans there

end Site

namespace Book

variable {found : List Image} {packed : List Member} {before opened after : FileTree} {image : Image}
  {member : Member} {data : ByteArray} {ways : List Path}

/-- The members that hold images stand below this name. -/
def imagesName : Text := inContent "images/"

theorem imageMember_eq_ok : imageMember opened image = .ok member ↔ ∃ content,
    opened.read image.source = .ok content ∧ member = ⟨inContent image.name, .deflated, content.toBytes⟩ := by
  unfold imageMember
  constructor
  · intro given
    obtain ⟨content, loaded, given⟩ := bind_eq_ok.mp given
    cases given
    exact ⟨content, loaded, rfl⟩
  · rintro ⟨content, loaded, rfl⟩
    exact bind_eq_ok.mpr ⟨content, loaded, rfl⟩

theorem mem_imageMembers (read : found.mapM (imageMember opened) = .ok packed) :
    member ∈ packed ↔ ∃ image ∈ found, imageMember opened image = .ok member := by
  have paired := forall₂_of_mapM_ok read
  refine ⟨exists_mem_of_forall₂ paired, fun ⟨image, inside, given⟩ => ?_⟩
  obtain ⟨other, isPacked, same⟩ := exists_mem_of_forall₂ paired.flip inside
  cases same.symm.trans given
  exact isPacked

theorem AreDocumentsOf.take_name (documents_of : AreDocumentsOf job templates pages documents)
    {document : Document} (inside : document ∈ documents) :
    document.name = titleName ∨ document.name.take 2 = ['s', 'c'] := by
  have listed : document.name ∈ documents.map Document.name := List.mem_map_of_mem inside
  rw [documents_of.names] at listed
  rcases List.mem_cons.mp listed with same | listed
  · exact .inl same
  · obtain ⟨state, _, same⟩ := List.mem_map.mp listed
    exact .inr (same ▸ Job.take_pageName pageEnding state)

/-- Nothing but the images is packed below their name. -/
theorem AreDocumentsOf.outside_images (documents_of : AreDocumentsOf job templates pages documents)
    (inside : member ∈ members job edition styles documents found) : ¬ imagesName <+: member.name := by
  unfold members at inside
  simp only [List.mem_cons, List.mem_map] at inside
  rcases inside with rfl | rfl | rfl | rfl | rfl | ⟨document, isDocument, rfl⟩
  · exact (by decide : ¬ imagesName <+: mimetypeName)
  · exact (by decide : ¬ imagesName <+: containerName)
  · exact (by decide : ¬ imagesName <+: inContent packageName)
  · exact (by decide : ¬ imagesName <+: inContent navigationName)
  · exact (by decide : ¬ imagesName <+: inContent stylesheet)
  · intro below
    obtain ⟨rest, same⟩ := (List.prefix_append_right_inj "OEBPS/".toList).mp below
    have front : ("images/".toList ++ rest).take 2 = ['i', 'm'] := rfl
    rw [same] at front
    rcases documents_of.take_name isDocument with title | page
    · rw [title] at front
      exact absurd front (by decide)
    · exact absurd (front.symm.trans page) (by decide)

/-- An image that the book does not stand in place of is read as it was when it was listed. -/
theorem read_of_images (wellFormed : before.WellFormed)
    (leads : before.find images = .ok (.taken base .directory)) (listed : Book.images before images = .ok found)
    (openedWellFormed : opened.WellFormed) (onWays : FileTree.OpensWays (· = place) ways before opened)
    (isFound : (⟨imageName names, images.below names⟩ : Image) ∈ found)
    (there : before.entry? (base ++ names) = some (.file content)) (outside : base ++ names ≠ place) :
    opened.read (images.below names) = .ok content := by
  have inside : imagesOf before (some images) = .ok found := listed
  obtain ⟨location, old, found⟩ := isFile_iff.mp (isFile_of_imagesOf inside _ isFound)
  have below : AreBelow names := fun name member => wellFormed.ne_dots there
    (List.mem_append_right base member)
  obtain rfl : location = base ++ names := location_find_below leads below found
  obtain ⟨current, stays⟩ := (ChangesOnly.preserves onWays).find_file wellFormed found
  have now := (ChangesOnly.file_iff onWays outside).mp (openedWellFormed.holds_find stays)
  cases there.symm.trans now
  unfold FileTree.read
  rw [stays]

/-- What is packed below the name of the images was below their directory. -/
theorem AreDocumentsOf.exists_image (documents_of : AreDocumentsOf job templates pages documents)
    (wellFormed : before.WellFormed) (named : before.IsNamed)
    (leads : before.find images = .ok (.taken base .directory)) (listed : Book.images before images = .ok found)
    (read : found.mapM (imageMember opened) = .ok packed)
    (inside : member ∈ members job edition styles documents found ++ packed)
    (below : imagesName <+: member.name) :
    ∃ names content, (∀ name ∈ names, IsFileName name) ∧
      before.entry? (base ++ names) = some (.file content) ∧
      (⟨imageName names, images.below names⟩ : Image) ∈ found ∧
      imageMember opened ⟨imageName names, images.below names⟩ = .ok member := by
  have isPacked := (List.mem_append.mp inside).resolve_left fun other =>
    documents_of.outside_images other below
  obtain ⟨image, isFound, packedAs⟩ := (mem_imageMembers read).mp isPacked
  obtain ⟨names, content, _, there, rfl⟩ := (Book.mem_images wellFormed named leads listed).mp isFound
  exact ⟨names, content, fun name inNames => named _ _ there name (List.mem_append_right base inNames),
    there, isFound, packedAs⟩

/-- Below the name of the images there is just what was below their directory, the place of the book aside. -/
theorem AreDocumentsOf.mem_images (documents_of : AreDocumentsOf job templates pages documents)
    (wellFormed : before.WellFormed) (named : before.IsNamed)
    (leads : before.find images = .ok (.taken base .directory)) (listed : Book.images before images = .ok found)
    (openedWellFormed : opened.WellFormed) (onWays : FileTree.OpensWays (· = place) ways before opened)
    (read : found.mapM (imageMember opened) = .ok packed) (proper : ∀ name ∈ names, IsFileName name)
    (outside : base ++ names ≠ place) :
    (∃ member ∈ members job edition styles documents found ++ packed,
        member.name = inContent (imageName names) ∧ member.data = data) ↔
      ∃ content, before.entry? (base ++ names) = some (.file content) ∧ content.toBytes = data := by
  constructor
  · rintro ⟨member, inside, ofName, rfl⟩
    obtain ⟨others, old, otherNames, there, isFound, packedAs⟩ := documents_of.exists_image wellFormed named
      leads listed read inside (ofName ▸ List.prefix_append _ _)
    obtain ⟨content, loaded, rfl⟩ := imageMember_eq_ok.mp packedAs
    obtain rfl := imageName_injective otherNames proper (inContent_injective ofName)
    cases loaded.symm.trans
      (read_of_images wellFormed leads listed openedWellFormed onWays isFound there outside)
    exact ⟨_, there, rfl⟩
  · rintro ⟨content, there, rfl⟩
    have nonempty : names ≠ [] := by
      rintro rfl
      rw [List.append_nil, wellFormed.holds_find leads] at there
      cases there
    have isFound := (Book.mem_images wellFormed named leads listed).mpr ⟨names, content, nonempty, there, rfl⟩
    have loaded := read_of_images wellFormed leads listed openedWellFormed onWays isFound there outside
    have isPacked := (mem_imageMembers read).mpr ⟨_, isFound, imageMember_eq_ok.mpr ⟨_, loaded, rfl⟩⟩
    exact ⟨_, List.mem_append_right _ isPacked, rfl, rfl⟩

end Book

end Gamebook.Publish
