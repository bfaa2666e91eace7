import Gamebook.Proofs.Files.Directories

/-!
A directory that was made where nothing was: whatever is put below it afterwards is new.
-/

namespace Gamebook.Files

open Gamebook.Text FileTree

variable {before tree next : FileTree} {output path source : Path} {place location : Location}
  {name : Text} {names : List Text} {entry : Entry} {content : Content}

def AreBelow (names : List Text) : Prop := ∀ name ∈ names, name ≠ ['.', '.']

theorem areBelow_append {left right : List Text} :
    AreBelow (left ++ right) ↔ AreBelow left ∧ AreBelow right := by
  simp only [AreBelow, List.mem_append, or_imp, forall_and]

theorem areBelow_singleton : AreBelow [name] ↔ name ≠ ['.', '.'] := by simp [AreBelow]

theorem Path.below_append (path : Path) (names more : List Text) :
    path.below (names ++ more) = (path.below names).below more := by
  simp [below]

theorem Path.parent_below_concat (path : Path) (names : List Text) (name : Text) :
    (path.below (names ++ [name])).parent = path.below names := by
  simp [below, parent, ← List.append_assoc]

/-- A directory stands at a place, the output leads there, and outside of it all is as before. -/
structure FileTree.IsSite (before : FileTree) (output : Path) (place : Location) (tree : FileTree) :
    Prop where
  wellFormed : tree.WellFormed
  preserves : PreservesOutside (place <+: ·) before tree
  leads : tree.find output = .ok (.taken place .directory)

namespace FileTree.IsSite

/-- The directory is made at a place where there was nothing, and nothing is below it. -/
theorem of_makeDirectories (wellFormed : before.WellFormed)
    (made : makeDirectories false output before = (.ok (), tree)) :
    ∃ place, before.entry? place = none ∧ before.IsSite output place tree ∧
      ∀ names, names ≠ [] → tree.entry? (place ++ names) = none := by
  obtain ⟨above, place, added, found, rfl⟩ := exists_free_of_makeDirectories wellFormed made
  obtain ⟨free, room⟩ := added.wellFormed.holds_find found
  have preserves := PreservesOutside.put_directory free room
  refine ⟨place, added.preserves.free_before free, ⟨added.wellFormed.put room,
    (added.preserves.trans preserves).weaken nofun, ?_⟩, fun names some_names => ?_⟩
  · rw [preserves.find added.wellFormed found, spotAt, Spot.location, entry?_put_self room.ne_nil]
  · rw [entry?_put_of_ne room.ne_nil (by simpa using some_names)]
    cases there : above.entry? (place ++ names) with
    | none => rfl
    | some entry =>
        exact absurd (List.prefix_append place names) (added.wellFormed.outside_of_free free there)

theorem put (site : before.IsSite output place tree) (room : tree.IsOpen location)
    (inside : place <+: location)
    (preserves : PreservesOutside (· = location) tree (tree.put location entry)) :
    before.IsSite output place (tree.put location entry) where
  wellFormed := site.wellFormed.put room
  preserves := site.preserves.trans (preserves.weaken fun _ same => same ▸ inside)
  leads := preserves.find_directory site.wellFormed site.leads

theorem location_below {spot : Spot} (site : before.IsSite output place tree)
    (below : AreBelow names) (found : tree.find (output.below names) = .ok spot) :
    place <+: spot.location := by
  rw [location_find_below site.leads below found]
  exact List.prefix_append place names

theorem makeDirectory (site : before.IsSite output place tree) (below : AreBelow names)
    (made : tree.makeDirectory (output.below names) = .ok next) :
    before.IsSite output place next := by
  obtain ⟨location, found, rfl⟩ := makeDirectory_eq_ok.mp made
  obtain ⟨free, room⟩ := site.wellFormed.holds_find found
  exact site.put room (site.location_below below found)
    ((PreservesOutside.put_directory free room).weaken nofun)

theorem writeFile (site : before.IsSite output place tree) (below : AreBelow names)
    (done : tree.writeFile (output.below names) content = .ok next) :
    before.IsSite output place next := by
  obtain ⟨spot, found, _, rfl, room, _⟩ := site.wellFormed.exists_put_of_writeFile done
  exact site.put room (site.location_below below found) (PreservesOutside.put_file room)

/-- Directories are made below the output only, because the output itself is there. -/
theorem makeDirectories {existing : Bool} (site : before.IsSite output place tree)
    (below : AreBelow names) :
    before.IsSite output place (makeDirectories existing (output.below names) tree).2 := by
  refine @makeDirectories_keeps _ _ (fun path => ∃ names, AreBelow names ∧ path = output.below names)
    _ _ ?_ ?_ ⟨names, below, rfl⟩ site
  · rintro _ tree next ⟨names, below, rfl⟩ site made
    exact site.makeDirectory below made
  · rintro _ tree fault ⟨names, below, rfl⟩ site failed lacking
    rcases List.eq_nil_or_concat names with rfl | ⟨above, name, rfl⟩
    · have found : tree.find (output.below []) = .ok (.taken place .directory) := by
        simpa only [Path.below, List.append_nil] using site.leads
      simp only [FileTree.makeDirectory, found, Except.error.injEq] at failed
      subst failed
      cases lacking
    · rw [List.concat_eq_append] at below ⊢
      exact ⟨above, (areBelow_append.mp below).1, Path.parent_below_concat output above name⟩

theorem file (site : before.IsSite output place tree) (wellFormed : before.WellFormed)
    (fresh : before.entry? place = none)
    (there : before.entry? location = some (.file content)) :
    tree.entry? location = some (.file content) :=
  site.preserves.file_of_outside there (wellFormed.outside_of_free fresh there)

end FileTree.IsSite

section Actions

theorem keeps_writeFile_below (below : AreBelow names) :
    Keeps (before.IsSite output place) (writeFile (output.below names) content) := by
  refine Attempts.keeps (attempts_change (fun _ _ site done => ?_) fun _ _ site _ => site)
  exact site.writeFile below done

theorem keeps_makeAllDirectories_below {existing : Bool} (below : AreBelow names) :
    Keeps (before.IsSite output place) (makeAllDirectories existing (output.below names)) :=
  fun _ site => site.makeDirectories below

/-- A copy goes below the output, also where it goes into a directory that is there. -/
theorem keeps_copyFile_below (below : AreBelow names) (proper : source.name ≠ ['.', '.']) :
    Keeps (before.IsSite output place) (copyFile source (output.below names)) := by
  have target : ∀ inside : Bool, ∃ more, AreBelow more ∧
      (if inside then (output.below names).child source.name else output.below names) =
        output.below more := by
    intro inside
    cases inside with
    | false => exact ⟨names, below, rfl⟩
    | true =>
        exact ⟨names ++ [source.name], areBelow_append.mpr ⟨below, areBelow_singleton.mpr proper⟩,
          (Path.below_append output names [source.name]).symm⟩
  unfold copyFile
  refine Keeps.andThen Keeps.get fun tree => ?_
  obtain ⟨more, below, same⟩ := target (tree.isDirectory (output.below names))
  dsimp only
  rw [same]
  have write : Keeps (before.IsSite output place) (do
      let content ← inspect fun tree => tree.read source
      writeFile (output.below more) content : FileAction Unit) :=
    Keeps.andThen (keeps_inspect _) fun content => keeps_writeFile_below below
  split
  · exact Keeps.andThen (Keeps.throw _) fun _ => write
  · exact write

theorem areBelow_of_mem_below (wellFormed : tree.WellFormed)
    (listed : (names, entry) ∈ tree.below path) : AreBelow names ∧ names ≠ [] := by
  obtain ⟨base, leads⟩ := exists_base_of_mem_below listed
  obtain ⟨some_names, there⟩ := (mem_below leads).mp listed
  exact ⟨fun name member => wellFormed.ne_dots there (List.mem_append_right base member), some_names⟩

theorem areBelow_of_listBelow {found : List (List Text × Entry)} (wellFormed : tree.WellFormed)
    (listed : tree.listBelow path = .ok found) :
    ∀ item ∈ found, AreBelow item.1 ∧ item.1 ≠ [] := by
  unfold listBelow at listed
  split at listed
  · cases listed
  · cases listed
    exact fun item member => areBelow_of_mem_below wellFormed member

theorem keeps_copyBelow (below : AreBelow names) :
    Keeps (before.IsSite output place) (copyBelow source (output.below names)) := by
  refine Attempts.keeps (Attempts.andThen
    (attempts_inspect (fun tree => tree.listBelow source) fun _ _ site _ => site)
    fun found tree ⟨listed, site⟩ => ?_)
  have facts := areBelow_of_listBelow site.wellFormed listed
  refine (Keeps.foldlM (fun copied item member => ?_) []).attempts (fun _ => id) tree site
  obtain ⟨further, nonempty⟩ := facts item member
  obtain ⟨more, entry⟩ := item
  rcases List.eq_nil_or_concat more with rfl | ⟨above, name, rfl⟩
  · contradiction
  rw [List.concat_eq_append] at further
  obtain ⟨aboveBelow, proper⟩ := areBelow_append.mp further
  have whole : AreBelow (names ++ (above ++ [name])) := areBelow_append.mpr ⟨below, further⟩
  have parent : ((output.below names).below (above ++ [name])).parent = output.below (names ++ above) := by
    rw [Path.parent_below_concat, ← Path.below_append]
  have last : (source.below (above ++ [name])).name = name := by
    simp [Path.name, Path.below]
  dsimp only
  rw [List.concat_eq_append, parent, ← Path.below_append]
  refine Keeps.andThen (keeps_inspect _) fun isFile => ?_
  split
  · refine Keeps.andThen
      (keeps_makeAllDirectories_below (areBelow_append.mpr ⟨below, aboveBelow⟩)) fun _ => ?_
    refine Keeps.andThen (keeps_copyFile_below whole ?_) fun _ => Keeps.pure _
    rw [last]
    exact areBelow_singleton.mp proper
  · exact Keeps.pure _

end Actions

end Gamebook.Files
