import Gamebook.Proofs.Files.BookPlace
import Gamebook.Proofs.Files.Naming
import Gamebook.Proofs.Files.Sites

/-!
Copying what lies below a directory to a place where nothing was: afterwards there are the same files, and
nothing else has changed.
-/

namespace Gamebook.Files

open Gamebook.Text FileTree

namespace FileTree

variable {before tree next : FileTree} {base target location place : Location}
  {names front more : List Text} {done : List (List Text)} {content : Content} {entry : Entry}
  {source output : Path} {name : Text}

/-- Of the entries below one directory some have been copied below another: the files among them are
there, in directories that lead to files, and all else is as before. -/
structure IsCopying (before : FileTree) (base target : Location) (done : List (List Text))
    (tree : FileTree) : Prop where
  wellFormed : tree.WellFormed
  workingDirectory : tree.workingDirectory = before.workingDirectory
  outside {location : Location} : ¬ target <+: location → tree.entry? location = before.entry? location
  file {names : List Text} {content : Content} : tree.entry? (target ++ names) = some (.file content) ↔
    names ∈ done ∧ before.entry? (base ++ names) = some (.file content)
  directory {names : List Text} : tree.entry? (target ++ names) = some .directory →
    ∃ more content, more ≠ [] ∧ before.entry? (base ++ (names ++ more)) = some (.file content)

namespace IsCopying

theorem start (wellFormed : before.WellFormed) (fresh : before.entry? target = none) :
    IsCopying before base target [] before := by
  have nothing : ∀ names, before.entry? (target ++ names) = none := by
    intro names
    cases there : before.entry? (target ++ names) with
    | none => rfl
    | some entry =>
        exact absurd (List.prefix_append target names) (wellFormed.outside_of_free fresh there)
  refine ⟨wellFormed, rfl, fun _ => rfl, fun {names content} => ?_, fun {names} inside => ?_⟩
  · simp [nothing]
  · rw [nothing] at inside
    cases inside

theorem preserves (copying : IsCopying before base target done tree) (wellFormed : before.WellFormed)
    (fresh : before.entry? target = none) : before.Preserves tree where
  workingDirectory := copying.workingDirectory
  directory := fun inside => (copying.outside (wellFormed.outside_of_free fresh inside)).trans inside
  file := fun there =>
    ⟨_, (copying.outside (wellFormed.outside_of_free fresh there)).trans there, fun _ => rfl⟩

/-- A directory is not copied. -/
theorem skip (copying : IsCopying before base target done tree)
    (inside : before.entry? (base ++ names) = some .directory) :
    IsCopying before base target (done ++ [names]) tree := by
  refine ⟨copying.wellFormed, copying.workingDirectory, copying.outside, fun {other content} => ?_,
    copying.directory⟩
  rw [copying.file, List.mem_append, List.mem_singleton]
  constructor
  · exact fun ⟨known, there⟩ => ⟨.inl known, there⟩
  · rintro ⟨known | rfl, there⟩
    · exact ⟨known, there⟩
    · rw [inside] at there
      cases there

theorem put_directory (copying : IsCopying before base target done tree) (proper : target ++ front ≠ [])
    (room : tree.IsOpen (target ++ front)) (free : tree.entry? (target ++ front) = none)
    (leads : ∃ more content, more ≠ [] ∧
      before.entry? (base ++ (front ++ more)) = some (.file content)) :
    IsCopying before base target done (tree.put (target ++ front) .directory) where
  wellFormed := copying.wellFormed.put room
  workingDirectory := copying.workingDirectory
  outside := fun {location} outside => by
    have different : location ≠ target ++ front := by
      rintro rfl
      exact outside (List.prefix_append target front)
    rw [entry?_put_of_ne proper different]
    exact copying.outside outside
  file := fun {names content} => by
    rw [← copying.file, entry?_put proper]
    split
    · rename_i same
      rw [same, free]
      simp
    · rfl
  directory := fun {names} inside => by
    rw [entry?_put proper] at inside
    split at inside
    · rename_i same
      rw [List.append_cancel_left same]
      exact leads
    · exact copying.directory inside

theorem put_file (copying : IsCopying before base target done tree)
    (room : tree.IsOpen (target ++ names)) (there : before.entry? (base ++ names) = some (.file content)) :
    IsCopying before base target (done ++ [names])
      (tree.put (target ++ names) (.file content)) where
  wellFormed := copying.wellFormed.put room
  workingDirectory := copying.workingDirectory
  outside := fun {location} outside => by
    have different : location ≠ target ++ names := by
      rintro rfl
      exact outside (List.prefix_append target names)
    rw [entry?_put_of_ne room.ne_nil different]
    exact copying.outside outside
  file := fun {other content} => by
    rw [entry?_put room.ne_nil, List.mem_append, List.mem_singleton]
    by_cases same : other = names
    · subst same
      simp [there]
    · rw [if_neg (by simpa using same), copying.file]
      simp [same]
  directory := fun {other} inside => by
    rw [entry?_put room.ne_nil] at inside
    split at inside
    · cases inside
    · exact copying.directory inside

end IsCopying

/-- Names that lead down to an entry are followed to it, unless one of them is too long. -/
theorem WellFormed.followNames_down (wellFormed : tree.WellFormed)
    (start : tree.entry? place = some .directory) (below : AreBelow names)
    (there : tree.entry? (place ++ names) = some entry) :
    tree.followNames place names = .ok (.taken (place ++ names) entry) ∨
      tree.followNames place names = .error .nameTooLong := by
  induction names generalizing place with
  | nil =>
      rw [List.append_nil] at there ⊢
      rw [start] at there
      cases there
      exact .inl rfl
  | cons name names ih =>
      have own : step place name = place ++ [name] := if_neg (below name List.mem_cons_self)
      rw [List.append_cons] at there ⊢
      cases long : isLongerThan maxNameBytes name with
      | true =>
          unfold FileTree.followNames
          exact .inr (if_pos long)
      | false =>
          by_cases last : names = []
          · subst last
            rw [List.append_nil] at there ⊢
            exact .inl (followNames_cons_eq_ok.mpr ⟨long, .inl ⟨rfl, by rw [own, spotAt, there]⟩⟩)
          · have inside := wellFormed.directory_of_below last there
            rw [followNames_cons_of_directory long (by rw [own, inside]), own]
            exact ih inside (fun other member => below other (.tail _ member)) there

theorem WellFormed.find_down (wellFormed : tree.WellFormed)
    (leads : tree.find source = .ok (.taken place .directory))
    (named : ∀ name ∈ names, IsFileName name) (there : tree.entry? (place ++ names) = some entry) :
    tree.find (source.below names) = .ok (.taken (place ++ names) entry) ∨
      tree.find (source.below names) = .error (.refused .nameTooLong (source.below names)) := by
  have below : AreBelow names := fun name member => wellFormed.ne_dots there
    (List.mem_append_right place member)
  obtain ⟨clean, -, followed⟩ := find_eq_ok.mp leads
  have further : tree.followNames (tree.startOf source.anchor) (source.parts ++ names) =
      tree.followNames place names := followNames_append followed names
  have clean : (source.parts ++ names).any (·.contains '\x00') = false := by
    have none : names.any (·.contains '\x00') = false := by
      rw [List.any_eq_false]
      exact fun name member => by simpa using (named name member).2.2
    rw [List.any_append, clean, none]
    rfl
  unfold FileTree.find Path.below
  simp only [clean, further, Bool.false_eq_true, if_false]
  split
  · exact .inr rfl
  · rcases wellFormed.followNames_down (wellFormed.holds_find leads) below there with done | tooLong
    · rw [done]
      exact .inl rfl
    · rw [tooLong]
      exact .inr rfl

/-- A file below a directory is found to be one, if it can be told what its path leads to. -/
theorem WellFormed.find_of_testFile (wellFormed : tree.WellFormed)
    (leads : tree.find source = .ok (.taken place .directory))
    (named : ∀ name ∈ names, IsFileName name)
    (there : tree.entry? (place ++ names) = some (.file content)) {answer : Bool}
    (tested : tree.testFile (source.below names) = .ok answer) :
    tree.find (source.below names) = .ok (.taken (place ++ names) (.file content)) ∧ answer = true := by
  unfold testFile FileTree.tested testFault? at tested
  rcases wellFormed.find_down leads named there with found | tooLong
  · rw [found] at tested
    cases tested
    exact ⟨found, isFile_iff.mpr ⟨_, _, found⟩⟩
  · rw [tooLong] at tested
    cases tested

theorem isFile_of_directory (wellFormed : tree.WellFormed)
    (leads : tree.find source = .ok (.taken place .directory)) (below : AreBelow names)
    (inside : tree.entry? (place ++ names) = some .directory) :
    tree.isFile (source.below names) = false := by
  cases file : tree.isFile (source.below names) with
  | false => rfl
  | true =>
      obtain ⟨location, content, found⟩ := isFile_iff.mp file
      have own : location = place ++ names := location_find_below leads below found
      have there : tree.entry? location = some (.file content) := wellFormed.holds_find found
      rw [own, inside] at there
      cases there

/-- The directories on the way to a copy are made below the output, which is there. -/
theorem IsCopying.makeDirectories (copying : IsCopying before base (place ++ [name]) done tree)
    (wellFormed : before.WellFormed) (fresh : before.entry? (place ++ [name]) = none)
    (leads : before.find output = .ok (.taken place .directory)) (below : AreBelow (name :: front))
    (holds : ∃ more content, more ≠ [] ∧
      before.entry? (base ++ (front ++ more)) = some (.file content)) :
    IsCopying before base (place ++ [name]) done
      (makeDirectories true (output.below (name :: front)) tree).2 := by
  have outputStays : ∀ {tree}, IsCopying before base (place ++ [name]) done tree →
      tree.find output = .ok (.taken place .directory) := fun copying =>
    (copying.preserves wellFormed fresh).find_directory wellFormed leads
  refine @makeDirectories_keeps _ (IsCopying before base (place ++ [name]) done)
    (fun path => ∃ way, way <+: name :: front ∧ path = output.below way) _ _ ?_ ?_
    ⟨_, List.prefix_rfl, rfl⟩ copying
  · rintro _ tree next ⟨way, shorter, rfl⟩ copying made
    obtain ⟨location, found, rfl⟩ := makeDirectory_eq_ok.mp made
    obtain ⟨free, room⟩ := copying.wellFormed.holds_find found
    have own : location = place ++ way := location_find_below (outputStays copying)
      (fun other member => below other (shorter.subset member)) found
    cases way with
    | nil =>
        have there : tree.entry? place = some .directory :=
          copying.wellFormed.holds_find (outputStays copying)
        rw [own, List.append_nil, there] at free
        cases free
    | cons first way =>
        obtain ⟨rfl, rest, rfl⟩ := List.cons_prefix_cons.mp shorter
        obtain ⟨more, content, some_more, there⟩ := holds
        rw [List.append_cons] at own
        subst own
        refine copying.put_directory room.ne_nil room free ⟨rest ++ more, content, by simp [some_more], ?_⟩
        rwa [← List.append_assoc way]
  · rintro _ tree fault ⟨way, shorter, rfl⟩ copying failed lacking
    rcases List.eq_nil_or_concat way with rfl | ⟨above, last, rfl⟩
    · have found : tree.find (output.below []) = .ok (.taken place .directory) := by
        simpa only [Path.below, List.append_nil] using outputStays copying
      simp only [FileTree.makeDirectory, found, Except.error.injEq] at failed
      subst failed
      cases lacking
    · rw [List.concat_eq_append] at shorter ⊢
      exact ⟨above, (List.prefix_append above [last]).trans shorter,
        Path.parent_below_concat output above last⟩

end FileTree

variable {source target path output : Path} {before tree next : FileTree} {base place : Location}
  {names : List Text} {name : Text} {done : List (List Text)} {content : Content} {paths : List Path}

theorem of_copyFile (elsewhere : tree.isDirectory target = false)
    (copied : copyFile source target tree = (.ok (), next)) :
    ∃ content, tree.read source = .ok content ∧ tree.writeFile target content = .ok next := by
  change (copyFile source target).run tree = _ at copied
  unfold copyFile at copied
  rw [run_get] at copied
  simp only [elsewhere, Bool.false_eq_true, if_false] at copied
  split at copied
  · cases copied
  · obtain ⟨content, _, seen, written⟩ := ok_of_andThen copied
    obtain ⟨read, rfl⟩ := inspect_eq_ok.mp seen
    exact ⟨content, read, writeFile_done.mp written⟩

section Copy

variable (wellFormed : before.WellFormed) (fresh : before.entry? (place ++ [name]) = none)
  (leads : before.find output = .ok (.taken place .directory))

include wellFormed fresh leads

/-- A file is copied to the same place below the target. -/
theorem isCopying_copyFile (copying : IsCopying before base (place ++ [name]) done tree)
    (below : AreBelow (name :: names)) (there : before.entry? (base ++ names) = some (.file content))
    (found : tree.find path = .ok (.taken (base ++ names) (.file content)))
    (copied : copyFile path (output.below (name :: names)) tree = (.ok (), next)) :
    IsCopying before base (place ++ [name]) (done ++ [names]) next := by
  have outputStays := (copying.preserves wellFormed fresh).find_directory wellFormed leads
  have elsewhere : tree.isDirectory (output.below (name :: names)) = false := by
    cases inside : tree.isDirectory (output.below (name :: names)) with
    | false => rfl
    | true =>
        -- A directory is there only if a file is to go below it, and then this is no file.
        obtain ⟨location, taken⟩ := isDirectory_iff.mp inside
        have own : location = place ++ name :: names := location_find_below outputStays below taken
        have directory : tree.entry? location = some .directory := copying.wellFormed.holds_find taken
        rw [own, List.append_cons] at directory
        obtain ⟨more, other, some_more, further⟩ := copying.directory directory
        rw [← List.append_assoc] at further
        rw [wellFormed.directory_of_below some_more further] at there
        cases there
  obtain ⟨read, same, written⟩ := of_copyFile elsewhere copied
  unfold FileTree.read at same
  rw [found] at same
  cases same
  obtain ⟨spot, leadsTo, _, rfl, room, _⟩ := copying.wellFormed.exists_put_of_writeFile written
  have own : spot.location = place ++ [name] ++ names := by
    rw [location_find_below outputStays below leadsTo, List.append_cons]
  rw [own] at room ⊢
  exact copying.put_file room there

/-- The directories on the way to a file are made, and the file is copied there. -/
theorem isCopying_copyDown {made : FileTree} {above : List Text} {last : Text}
    (copying : IsCopying before base (place ++ [name]) done tree)
    (below : AreBelow (name :: (above ++ [last])))
    (there : before.entry? (base ++ (above ++ [last])) = some (.file content))
    (found : tree.find path = .ok (.taken (base ++ (above ++ [last])) (.file content)))
    (directories : makeDirectories true (output.below (name :: above)) tree = (.ok (), made))
    (copied : copyFile path (output.below (name :: (above ++ [last]))) made = (.ok (), next)) :
    IsCopying before base (place ++ [name]) (done ++ [above ++ [last]]) next := by
  obtain ⟨proper, belowAbove⟩ := List.forall_mem_cons.mp below
  have grown : IsCopying before base (place ++ [name]) done
      (makeDirectories true (output.below (name :: above)) tree).2 :=
    copying.makeDirectories wellFormed fresh leads
      (List.forall_mem_cons.mpr ⟨proper, (areBelow_append.mp belowAbove).1⟩)
      ⟨[last], content, List.cons_ne_nil _ _, there⟩
  rw [directories] at grown
  have added := addsDirectories_of_made copying.wellFormed directories
  have still : made.find path = .ok (.taken (base ++ (above ++ [last])) (.file content)) := by
    rw [added.preserves.find copying.wellFormed found, spotAt, Spot.location,
      added.preserves.file_of_outside (copying.wellFormed.holds_find found) id]
  exact isCopying_copyFile wellFormed fresh leads grown below there still copied

variable (proper : name ≠ ['.', '.']) (sourceLeads : before.find source = .ok (.taken base .directory))

include proper sourceLeads

/-- One entry is copied, or passed over. -/
theorem isCopying_step {entry : Entry} {earlier : List Path}
    (copying : IsCopying before base (place ++ [name]) done tree)
    (named : ∀ content, before.entry? (base ++ names) = some (.file content) →
      ∀ name ∈ names, IsFileName name)
    (some_names : names ≠ []) (there : before.entry? (base ++ names) = some entry)
    (stepped : (do
      if ← inspect fun tree => tree.testFile (source.below names) then
        let target := (output.child name).below names
        makeAllDirectories true target.parent
        copyFile (source.below names) target
        return earlier ++ [target]
      else return earlier : FileAction (List Path)).run tree = (.ok paths, next)) :
    IsCopying before base (place ++ [name]) (done ++ [names]) next := by
  have below : AreBelow names := fun name member =>
    wellFormed.ne_dots there (List.mem_append_right base member)
  have preserved := copying.preserves wellFormed fresh
  have stays := preserved.find_directory wellFormed sourceLeads
  obtain ⟨answer, _, seen, rest⟩ := ok_of_andThen stepped
  obtain ⟨tested, rfl⟩ := inspect_eq_ok.mp seen
  cases entry with
  | directory =>
      have none := isFile_of_directory copying.wellFormed stays below (preserved.directory there)
      have answered : answer = false := by
        cases answer with
        | false => rfl
        | true => rw [isFile_of_testFile tested] at none; exact none
      subst answered
      cases rest
      exact copying.skip there
  | file content =>
      have now := preserved.file_of_outside there id
      obtain ⟨found, rfl⟩ := copying.wellFormed.find_of_testFile stays (named content there) now tested
      rcases List.eq_nil_or_concat names with rfl | ⟨above, last, rfl⟩
      · contradiction
      rw [List.concat_eq_append] at *
      have target : (output.child name).below (above ++ [last]) =
          output.below (name :: (above ++ [last])) := (Path.below_append output [name] _).symm
      have parent : (output.below (name :: (above ++ [last]))).parent = output.below (name :: above) :=
        Path.parent_below_concat output (name :: above) last
      simp only [if_true, target, parent] at rest
      obtain ⟨_, made, directories, rest⟩ := ok_of_andThen rest
      obtain ⟨_, _, copied, rest⟩ := ok_of_andThen rest
      cases rest
      exact isCopying_copyDown wellFormed fresh leads copying (List.forall_mem_cons.mpr ⟨proper, below⟩)
        there found directories copied

/-- Everything below a directory is copied below a target where nothing was. -/
theorem isCopying_of_copyBelow
    (named : ∀ names content, before.entry? (base ++ names) = some (.file content) →
      ∀ name ∈ names, IsFileName name)
    (copied : copyBelow source (output.child name) before = (.ok paths, next)) :
    IsCopying before base (place ++ [name]) ((before.below source).map Prod.fst) next := by
  change (copyBelow source (output.child name)).run before = _ at copied
  unfold copyBelow at copied
  obtain ⟨found, _, seen, copied⟩ := ok_of_andThen copied
  obtain ⟨listed, rfl⟩ := inspect_eq_ok.mp seen
  obtain rfl : before.below source = found := by
    unfold listBelow at listed
    split at listed
    · cases listed
    · cases listed
      rfl
  have entries : ∀ item ∈ before.below source, item.1 ≠ [] ∧
      before.entry? (base ++ item.1) = some item.2 := fun item member =>
    (mem_below sourceLeads).mp member
  -- Each entry is copied in a tree in which those in front of it have been.
  have all : ∀ (items : List (List Text × Entry)) (done : List (List Text)) (earlier : List Path)
      (tree : FileTree), (∀ item ∈ items, item.1 ≠ [] ∧ before.entry? (base ++ item.1) = some item.2) →
      IsCopying before base (place ++ [name]) done tree →
      (items.foldlM (fun copied item => do
        if ← inspect fun tree => tree.testFile (source.below item.1) then
          let target := (output.child name).below item.1
          makeAllDirectories true target.parent
          copyFile (source.below item.1) target
          return copied ++ [target]
        else return copied) earlier : FileAction (List Path)).run tree = (.ok paths, next) →
      IsCopying before base (place ++ [name]) (done ++ items.map Prod.fst) next := by
    intro items
    induction items with
    | nil =>
        intro done earlier tree _ copying ended
        cases ended
        rwa [List.map_nil, List.append_nil]
    | cons item items ih =>
        intro done earlier tree facts copying ended
        rw [List.foldlM_cons] at ended
        obtain ⟨now, between, stepped, rest⟩ := ok_of_andThen ended
        obtain ⟨some_names, there⟩ := facts item List.mem_cons_self
        have further := isCopying_step wellFormed fresh leads proper sourceLeads copying
          (named item.1) some_names there stepped
        rw [List.map_cons, List.append_cons done]
        exact ih _ now between (fun other member => facts other (.tail _ member)) further rest
  exact all _ [] [] before entries (.start wellFormed fresh) copied

end Copy

namespace FileTree.IsCopying

variable {after : FileTree}

/-- When everything has been copied, the files below the target are those below the source. -/
theorem file_iff {target : Location}
    (copying : IsCopying before base target ((before.below source).map Prod.fst) after)
    (wellFormed : before.WellFormed) (leads : before.find source = .ok (.taken base .directory)) :
    after.entry? (target ++ names) = some (.file content) ↔
      before.entry? (base ++ names) = some (.file content) := by
  rw [copying.file]
  refine ⟨And.right, fun there => ⟨?_, there⟩⟩
  have nonempty : names ≠ [] := by
    rintro rfl
    rw [List.append_nil, wellFormed.holds_find leads] at there
    cases there
  exact List.mem_map.mpr ⟨_, (mem_below leads).mpr ⟨nonempty, there⟩, rfl⟩

theorem entry?_beside {other : Text} (copying : IsCopying before base (place ++ [name]) done after)
    (differs : other ≠ name) : after.entry? (place ++ [other]) = before.entry? (place ++ [other]) := by
  refine copying.outside fun inside => differs ?_
  obtain ⟨more, same⟩ := (List.prefix_append_right_inj place).mp inside
  exact (List.cons.inj same).1.symm

end FileTree.IsCopying

end Gamebook.Files
