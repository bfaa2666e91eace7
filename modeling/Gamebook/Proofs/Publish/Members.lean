import Gamebook.Proofs.Files.Copying
import Gamebook.Proofs.Publish.Linking
import Gamebook.Proofs.Publish.Manifest
import Gamebook.Proofs.Publish.Packing

/-!
The members of a book: they have names of their own, and the package document lists them.
-/

namespace Gamebook.Publish.Book

open Gamebook.Text Gamebook.Files Gamebook.Files.FileTree Gamebook.Markup Gamebook.Template

variable {tree : FileTree} {directory : Path} {base : Location} {found : List Image} {image : Image}
  {packed : List Member} {job : Job} {edition : Edition} {styles : Text} {documents : List Document}
  {templates : PageTemplates} {pages : List Play.Page} {before opened after : FileTree}

/-- The name of an image that has these names below its directory. -/
def imageName (names : List Text) : Text := "images/".toList ++ join ['/'] names

theorem imageName_injective {left right : List Text} (first : ∀ name ∈ left, IsFileName name)
    (second : ∀ name ∈ right, IsFileName name) (same : imageName left = imageName right) : left = right := by
  have apart : ∀ {names : List Text}, (∀ name ∈ names, IsFileName name) → AreApart '/' names :=
    fun named name member => ⟨(named name member).1, (named name member).2.1⟩
  exact (apart first).intercalate_injective (apart second) (List.append_cancel_left same)

/-- The files that a directory holds are all listed, each by its own name. -/
theorem of_images (listed : images tree directory = .ok found) :
    ∃ passes : List Text × Entry → Bool,
      (∀ item ∈ tree.below directory, tree.testFile (directory.below item.1) = .ok (passes item)) ∧
        found = ((tree.below directory).filter passes).map fun item =>
          ⟨imageName item.1, directory.below item.1⟩ := by
  obtain ⟨entries, all, listed⟩ := bind_eq_ok.mp listed
  obtain ⟨files, filtered, listed⟩ := bind_eq_ok.mp listed
  obtain rfl : tree.below directory = entries := by
    unfold listBelow at all
    split at all
    · cases all
    · exact Except.ok.inj all
  obtain ⟨passes, tests, rfl⟩ := exists_filter_of_filterM_ok filtered
  cases listed
  exact ⟨passes, tests, rfl⟩

/-- The images are the files below the directory. -/
theorem mem_images (wellFormed : tree.WellFormed) (named : tree.IsNamed)
    (leads : tree.find directory = .ok (.taken base .directory)) (listed : images tree directory = .ok found) :
    image ∈ found ↔ ∃ names content, names ≠ [] ∧ tree.entry? (base ++ names) = some (.file content) ∧
      image = ⟨imageName names, directory.below names⟩ := by
  obtain ⟨passes, tests, rfl⟩ := of_images listed
  constructor
  · intro member
    obtain ⟨⟨names, entry⟩, kept, rfl⟩ := List.mem_map.mp member
    obtain ⟨inside, passed⟩ := List.mem_filter.mp kept
    obtain ⟨nonempty, there⟩ := (mem_below leads).mp inside
    have isFile := isFile_of_testFile (passed ▸ tests _ inside)
    obtain ⟨location, content, opened⟩ := isFile_iff.mp isFile
    rcases wellFormed.find_down leads (named.below inside) there with direct | failed
    · rw [direct] at opened
      cases opened
      exact ⟨names, content, nonempty, there, rfl⟩
    · rw [failed] at opened
      cases opened
  · rintro ⟨names, content, nonempty, there, rfl⟩
    have inside := (mem_below leads).mpr ⟨nonempty, there⟩
    have passed := (wellFormed.find_of_testFile leads (named.below inside) there (tests _ inside)).2
    exact List.mem_map.mpr ⟨(names, .file content), List.mem_filter.mpr ⟨inside, passed⟩, rfl⟩

theorem nodup_images (named : tree.IsNamed) (listed : images tree directory = .ok found) :
    (found.map Image.name).Nodup := by
  obtain ⟨passes, _, rfl⟩ := of_images listed
  have own : (((tree.below directory).filter passes).map Prod.fst).Nodup :=
    (tree.nodup_below directory).sublist (List.filter_sublist.map _)
  have fileNames : ∀ names ∈ ((tree.below directory).filter passes).map Prod.fst,
      ∀ name ∈ names, IsFileName name := by
    intro names member
    obtain ⟨item, kept, rfl⟩ := List.mem_map.mp member
    exact named.below (List.mem_filter.mp kept).1
  have whole := own.map_on fun left first right second =>
    imageName_injective (fileNames left first) (fileNames right second)
  rwa [List.map_map] at whole ⊢

/-- The images of a book have names of their own, all behind the one of their directory. -/
theorem names_of_imagesOf {directory : Option Path} (named : tree.IsNamed)
    (listed : imagesOf tree directory = .ok found) :
    (found.map Image.name).Nodup ∧ ∀ image ∈ found, ∃ names, image.name = imageName names := by
  cases directory with
  | none =>
      cases listed
      exact ⟨.nil, nofun⟩
  | some directory =>
      refine ⟨nodup_images named listed, fun image member => ?_⟩
      obtain ⟨passes, _, rfl⟩ := of_images listed
      obtain ⟨item, _, rfl⟩ := List.mem_map.mp member
      exact ⟨item.1, rfl⟩

theorem names_of_imageMembers (read : found.mapM (imageMember tree) = .ok packed) :
    packed.map Member.name = found.map fun image => inContent image.name := by
  refine (map_eq_of_forall₂ (forall₂_of_mapM_ok read) fun image packed given => ?_).symm
  obtain ⟨content, _, given⟩ := bind_eq_ok.mp given
  cases given
  rfl

/-- What the manifest does not list: the type, the container and the package document itself. -/
def unlisted : List Text := [mimetypeName, containerName, inContent packageName]

/-- The members of an archive are a book: they have names of their own, the first is the type, which is
stored as it is, and the package document lists each of the others once, under an id of its own, and puts
these pages in order. -/
structure IsBook (pages : List Text) (members : List Member) : Prop where
  distinct : (members.map Member.name).Nodup
  first : members.head? = some ⟨mimetypeName, .stored, Utf8.encode mimetype⟩
  listed : ∃ text manifest order, textMember (inContent packageName) text ∈ members ∧
    readManifest text = some manifest ∧ readSpine text = some order ∧
    (manifest.map Prod.fst).Nodup ∧
    manifest.map Prod.snd = (members.map Member.name).filter (· ∉ unlisted) ∧
    order.map (manifest.lookup ·) = pages.map fun page => some (inContent page)

theorem inContent_injective : Function.Injective inContent := fun _ _ => List.append_cancel_left

/-- The names of what belongs to a book besides its type and the container. -/
def contentNames (documents : List Document) (images : List Image) : List Text :=
  packageName :: navigationName :: stylesheet :: documents.map Document.name ++ images.map Image.name

theorem names_of_members (read : packed.map Member.name = found.map fun image => inContent image.name) :
    (members job edition styles documents found ++ packed).map Member.name =
      mimetypeName :: containerName :: (contentNames documents found).map inContent := by
  simp [members, contentNames, textMember, read, Function.comp_def]

theorem mem_members_styles :
    textMember (inContent stylesheet) styles ∈ members job edition styles documents found :=
  .tail _ (.tail _ (.tail _ (.tail _ List.mem_cons_self)))

theorem mem_members_document {document : Document} (member : document ∈ documents) :
    textMember (inContent document.name) document.content ∈ members job edition styles documents found :=
  .tail _ (.tail _ (.tail _ (.tail _ (.tail _ (List.mem_map.mpr ⟨document, member, rfl⟩)))))

/-- Texts of two lists that differ in their first characters. -/
theorem nodup_append_of_take {α : Type} {left right : List (List α)} {count : Nat} (first : left.Nodup)
    (second : right.Nodup) (apart : ∀ one ∈ left, ∀ other ∈ right, one.take count ≠ other.take count) :
    (left ++ right).Nodup :=
  List.nodup_append.mpr ⟨first, second, fun one inside other behind same =>
    apart one inside other behind (congrArg (List.take count) same)⟩

/-- Texts of three lists, of which two begin each in a way of its own. -/
theorem nodup_append_of_fronts {α : Type} {left middle right : List (List α)} {front back : List α}
    {count : Nat} (fixed : left.Nodup) (first : middle.Nodup) (second : right.Nodup) (differ : front ≠ back)
    (ofLeft : ∀ one ∈ left, one.take count ≠ front ∧ one.take count ≠ back)
    (ofMiddle : ∀ one ∈ middle, one.take count = front) (ofRight : ∀ one ∈ right, one.take count = back) :
    (left ++ (middle ++ right)).Nodup := by
  refine @nodup_append_of_take _ _ _ count fixed (@nodup_append_of_take _ _ _ count first second ?_) ?_
  · intro one inMiddle other inRight
    rwa [ofMiddle one inMiddle, ofRight other inRight]
  · intro one inLeft other behind
    rcases List.mem_append.mp behind with inMiddle | inRight
    · exact ofMiddle other inMiddle ▸ (ofLeft one inLeft).1
    · exact ofRight other inRight ▸ (ofLeft one inLeft).2

theorem nodup_contentNames {pages : List Text}
    (named : documents.map Document.name = titleName :: pages) (own : pages.Nodup)
    (ofPages : ∀ page ∈ pages, page.take 2 = ['s', 'c']) (imagesOwn : (found.map Image.name).Nodup)
    (imagesBelow : ∀ image ∈ found, ∃ names, image.name = imageName names) :
    (contentNames documents found).Nodup := by
  -- Two characters tell the pages, the images and the fixed names apart.
  have ofImages : ∀ name ∈ found.map Image.name, name.take 2 = ['i', 'm'] := by
    intro name member
    obtain ⟨image, inside, rfl⟩ := List.mem_map.mp member
    obtain ⟨names, same⟩ := imagesBelow image inside
    rw [same]
    rfl
  have fixed : ∀ name ∈ [packageName, navigationName, stylesheet, titleName],
      name.take 2 ≠ ['s', 'c'] ∧ name.take 2 ≠ ['i', 'm'] := by decide
  have whole : contentNames documents found =
      [packageName, navigationName, stylesheet, titleName] ++ (pages ++ found.map Image.name) := by
    unfold contentNames
    rw [named]
    rfl
  rw [whole]
  exact nodup_append_of_fronts (by decide) own imagesOwn (by decide) fixed ofPages ofImages

theorem nodup_names_of_content {names : List Text} (own : names.Nodup) :
    (mimetypeName :: containerName :: names.map inContent).Nodup := by
  have fixed : ∀ name ∈ [mimetypeName, containerName], name.take 2 ≠ ['O', 'E'] := by decide
  refine @nodup_append_of_take _ [mimetypeName, containerName] _ 2 (by decide)
    (own.map inContent_injective) fun name first other second => ?_
  obtain ⟨inside, _, rfl⟩ := List.mem_map.mp second
  exact fixed name first

theorem nodup_mapIdx {α β : Type} {items : List α} {f : Nat → α → β}
    (apart : ∀ i j a b, f i a = f j b → i = j) : (items.mapIdx f).Nodup := by
  refine List.pairwise_iff_getElem.mpr fun i j first second before same => ?_
  rw [List.getElem_mapIdx, List.getElem_mapIdx] at same
  exact absurd (apart _ _ _ _ same) before.ne

/-- The ids are those of the two fixed items, and the numbered ones of the documents and of the images. -/
theorem nodup_ids (job : Job) (edition : Edition) (documents : List Document) (found : List Image) :
    ((package job edition documents found).manifest.map Item.id).Nodup := by
  have ids : (package job edition documents found).manifest.map Item.id =
      ["nav".toList, "css".toList] ++ (documents.mapIdx (fun index _ => documentId index) ++
        found.mapIdx fun index _ => "img".toList ++ ofNat index) := by
    simp only [package, List.mapIdx_eq_zipIdx_map, List.map_cons, List.cons_append, List.map_append,
      List.map_map]
    rfl
  have ofDocuments : ∀ id ∈ documents.mapIdx (fun index _ => documentId index), id.take 1 = ['d'] := by
    intro id member
    obtain ⟨index, _, rfl⟩ := List.mem_mapIdx.mp member
    rfl
  have ofImages : ∀ id ∈ found.mapIdx (fun index _ => "img".toList ++ ofNat index), id.take 1 = ['i'] := by
    intro id member
    obtain ⟨index, _, rfl⟩ := List.mem_mapIdx.mp member
    rfl
  have fixed : ∀ id ∈ ["nav".toList, "css".toList], id.take 1 ≠ ['d'] ∧ id.take 1 ≠ ['i'] := by decide
  rw [ids]
  exact nodup_append_of_fronts (by decide)
    (nodup_mapIdx fun i j _ _ same => ofNat_injective (List.append_cancel_left same))
    (nodup_mapIdx fun i j _ _ same => ofNat_injective (List.append_cancel_left same)) (by decide) fixed
    ofDocuments ofImages

theorem isValue_ofNat (n : Nat) : Tag.IsValue (ofNat n) := fun c member => by
  have digit := isDigit_of_mem_ofNat member
  have first : c ≠ '<' := by
    rintro rfl
    exact absurd digit (by decide)
  have second : c ≠ '"' := by
    rintro rfl
    exact absurd digit (by decide)
  simp [Tag.inValue, first, second]

theorem isValue_documentId (index : Nat) : Tag.IsValue (documentId index) :=
  Tag.isValue_append.mpr ⟨by decide, isValue_ofNat index⟩

theorem isFit_package (plain : '<' ∉ edition.modified) : (package job edition documents found).IsFit where
  manifest := by
    intro item member
    simp only [package, List.mem_cons, List.cons_append, List.mem_append, List.mem_mapIdx] at member
    rcases member with rfl | rfl | ⟨index, _, rfl⟩ | ⟨index, _, rfl⟩
    · exact ⟨by decide, by decide⟩
    · exact ⟨by decide, by decide⟩
    · exact ⟨isValue_documentId index, (by decide : Tag.IsValue pageType)⟩
    · exact ⟨Tag.isValue_append.mpr ⟨by decide, isValue_ofNat index⟩, MediaType.isValue_ofName _⟩
  spine := by
    intro id member
    obtain ⟨index, _, rfl⟩ := List.mem_mapIdx.mp member
    exact isValue_documentId index
  modified := plain

theorem filter_not_mem_of_nodup {left right : List Text} (own : (left ++ right).Nodup) :
    (left ++ right).filter (· ∉ left) = right := by
  have apart := (List.nodup_append.mp own).2.2
  have none : left.filter (· ∉ left) = [] := List.filter_eq_nil_iff.mpr fun name member => by simpa using member
  have all : right.filter (· ∉ left) = right := List.filter_eq_self.mpr fun name member => by
    simpa using fun inside => apart name inside name member rfl
  rw [List.filter_append, none, all, List.nil_append]

/-- The addresses of the manifest are those of all members that it has to list. -/
theorem names_of_manifest (job : Job) (edition : Edition) (documents : List Document) (found : List Image) :
    contentNames documents found =
      packageName :: (package job edition documents found).manifest.map Item.href := by
  simp only [contentNames, package, List.mapIdx_eq_zipIdx_map, List.map_cons, List.cons_append,
    List.map_append, List.map_map]
  rw [show (Item.href ∘ fun indexed => documentItem indexed.2 indexed.1) = Document.name ∘ Prod.fst from rfl,
    show (Item.href ∘ fun indexed => imageItem indexed.2 indexed.1) = Image.name ∘ Prod.fst from rfl,
    ← List.map_map, ← List.map_map, List.zipIdx_map_fst, List.zipIdx_map_fst]
  rfl

/-- Read through the manifest, the spine leads to the documents in their order. -/
theorem lookup_spine (job : Job) (edition : Edition) (documents : List Document) (found : List Image) :
    (package job edition documents found).spine.map
        (((package job edition documents found).manifest.map fun item =>
          (item.id, inContent item.href)).lookup ·) =
      documents.map fun document => some (inContent document.name) := by
  have own := nodup_ids job edition documents found
  -- The manifest is kept closed: its items are looked into only to find those of the documents.
  obtain ⟨manifest, same⟩ : ∃ manifest, manifest = (package job edition documents found).manifest := ⟨_, rfl⟩
  have member : ∀ index (inside : index < documents.length),
      documentItem index documents[index] ∈ manifest := by
    intro index inside
    rw [same]
    simp only [package, List.mem_cons, List.cons_append, List.mem_append, List.mem_mapIdx]
    exact .inr (.inr (.inl ⟨index, inside, rfl⟩))
  rw [← same] at own ⊢
  refine List.ext_getElem (by simp [package]) fun index first second => ?_
  have inside : index < documents.length := by simpa using second
  have looked : (manifest.map fun item => (item.id, inContent item.href)).lookup (documentId index) =
      some (inContent documents[index].name) := by
    refine lookup_of_mem (by rwa [List.map_map]) ?_
    exact List.mem_map.mpr ⟨_, member index inside, rfl⟩
  simpa [package] using looked

theorem isBook_members (plain : '<' ∉ edition.modified) (own : (contentNames documents found).Nodup)
    (read : packed.map Member.name = found.map fun image => inContent image.name) :
    IsBook (documents.map Document.name) (members job edition styles documents found ++ packed) := by
  have fit : (package job edition documents found).IsFit := isFit_package plain
  have names := @names_of_members _ _ job edition styles documents read
  have distinct := nodup_names_of_content own
  refine ⟨names ▸ distinct, rfl, (package job edition documents found).print, _, _, ?_, fit.readManifest,
    fit.readSpine, ?_, ?_, ?_⟩
  · simp [members]
  · rw [List.map_map]
    exact nodup_ids job edition documents found
  · rw [names_of_manifest job edition, List.map_cons] at names distinct
    rw [names, List.map_map]
    rw [List.map_map] at distinct ⊢
    exact (@filter_not_mem_of_nodup unlisted _ distinct).symm
  · rw [lookup_spine, List.map_map]
    rfl

theorem AreDocumentsOf.names (documents_of : AreDocumentsOf job templates pages documents) :
    documents.map Document.name =
      titleName :: (pages.map Play.Page.state).map (Job.pageName pageEnding) := by
  obtain ⟨title, rest, rfl, _, paired⟩ := documents_of.rendered
  rw [List.map_cons, List.map_map, ← map_eq_of_forall₂ paired fun page document rendered =>
    (Job.name_of_document rendered).symm]
  rfl

theorem AreDocumentsOf.nodup_contentNames (documents_of : AreDocumentsOf job templates pages documents)
    (named : before.IsNamed) (listed : imagesOf before job.imageDirectory = .ok found) :
    (contentNames documents found).Nodup := by
  obtain ⟨_, ids⟩ := Job.states_of_pages documents_of.expanded
  obtain ⟨imagesOwn, imagesBelow⟩ := names_of_imagesOf named listed
  have ofPages : ∀ page ∈ (pages.map Play.Page.state).map (Job.pageName pageEnding),
      page.take 2 = ['s', 'c'] := by
    intro page member
    obtain ⟨state, _, rfl⟩ := List.mem_map.mp member
    exact Job.take_pageName pageEnding state
  exact Book.nodup_contentNames documents_of.names (Job.nodup_pageNames ids pageEnding) ofPages imagesOwn
    imagesBelow

/-- Nothing is packed under the name of anything else. -/
theorem AreDocumentsOf.nodup_names (documents_of : AreDocumentsOf job templates pages documents)
    (named : before.IsNamed) (listed : imagesOf before job.imageDirectory = .ok found)
    (read : found.mapM (imageMember opened) = .ok packed) :
    ((members job edition styles documents found ++ packed).map Member.name).Nodup := by
  rw [names_of_members (names_of_imageMembers read)]
  exact nodup_names_of_content (documents_of.nodup_contentNames named listed)

/-- What is packed is a book of the title page and the pages of the walk. -/
theorem AreDocumentsOf.isBook (documents_of : AreDocumentsOf job templates pages documents)
    (named : before.IsNamed) (listed : imagesOf before job.imageDirectory = .ok found)
    (read : found.mapM (imageMember opened) = .ok packed) (plain : '<' ∉ edition.modified) :
    IsBook (titleName :: (pages.map Play.Page.state).map (Job.pageName pageEnding))
      (members job edition styles documents found ++ packed) :=
  documents_of.names ▸
    isBook_members plain (documents_of.nodup_contentNames named listed) (names_of_imageMembers read)

end Gamebook.Publish.Book
