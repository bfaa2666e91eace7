import Gamebook.Files.Tree
import Gamebook.Proofs.Effects

/-!
Where paths lead in a tree of files in which every entry lies in a directory.
-/

namespace Gamebook.Files

open Gamebook.Text

def Spot.location : Spot → Location
  | .taken location _ => location
  | .free location => location

namespace FileTree

variable {tree : FileTree} {directory location other place : Location} {entry : Entry}
  {name : Text} {names : List Text} {path : Path} {spot : Spot}

/-- Every entry lies in a directory under a name of its own, which is never two dots, and the working
directory is there. -/
structure WellFormed (tree : FileTree) : Prop where
  workingDirectory : tree.entry? tree.workingDirectory = some .directory
  inDirectory {directory : Location} {name : Text} {entry : Entry} :
    tree.entry? (directory ++ [name]) = some entry →
      tree.entry? directory = some .directory ∧ name ≠ ['.', '.']

theorem wellFormed_empty : ({} : FileTree).WellFormed :=
  ⟨rfl, fun there => by simp [ entry?] at there⟩

/-- A file can be put here: there is no directory, but one to hold it. -/
structure IsOpen (tree : FileTree) (location : Location) : Prop where
  notDirectory : tree.entry? location ≠ some .directory
  inDirectory : ∃ directory name, location = directory ++ [name] ∧
    tree.entry? directory = some .directory ∧ name ≠ ['.', '.']

def spotAt (tree : FileTree) (location : Location) : Spot :=
  match tree.entry? location with
  | some entry => .taken location entry
  | none => .free location

/-- What a path leads to is what the tree has there. -/
def Holds (tree : FileTree) : Spot → Prop
  | .taken location entry => tree.entry? location = some entry
  | .free location => tree.entry? location = none ∧ tree.IsOpen location

theorem IsOpen.ne_nil (room : tree.IsOpen location) : location ≠ [] := by
  rintro rfl
  exact room.notDirectory rfl

theorem entry?_put (proper : location ≠ []) : FileTree.entry? (tree.put location entry) other =
    if other = location then some entry else tree.entry? other := by
  unfold entry? put
  by_cases root : other = []
  · rw [if_pos root, if_pos root, if_neg (root ▸ proper.symm)]
  · rw [if_neg root, if_neg root]
    simp only [Std.TreeMap.getElem?_insert, Std.compare_eq_iff_eq, @eq_comm _ other]

theorem entry?_put_self (proper : location ≠ []) :
    FileTree.entry? (tree.put location entry) location = some entry := by
  rw [entry?_put proper, if_pos rfl]

theorem entry?_put_of_ne (proper : location ≠ []) (different : other ≠ location) :
    FileTree.entry? (tree.put location entry) other = tree.entry? other := by
  rw [entry?_put proper, if_neg different]

@[simp]
theorem workingDirectory_put : (tree.put location entry).workingDirectory = tree.workingDirectory :=
  rfl

@[simp]
theorem location_spotAt : (tree.spotAt location).location = location := by
  unfold spotAt
  split <;> rfl

namespace WellFormed

theorem dropLast (wellFormed : tree.WellFormed) (inside : tree.entry? directory = some .directory) :
    tree.entry? directory.dropLast = some .directory := by
  rcases List.eq_nil_or_concat directory with rfl | ⟨above, name, rfl⟩
  · rfl
  · rw [List.concat_eq_append] at inside ⊢
    rw [List.dropLast_concat]
    exact (wellFormed.inDirectory inside).1

theorem directory_of_below (wellFormed : tree.WellFormed) (some_names : names ≠ [])
    (there : tree.entry? (directory ++ names) = some entry) :
    tree.entry? directory = some .directory := by
  induction names generalizing directory with
  | nil => contradiction
  | cons name names ih =>
      rw [List.append_cons] at there
      by_cases last : names = []
      · subst last
        rw [List.append_nil] at there
        exact (wellFormed.inDirectory there).1
      · exact (wellFormed.inDirectory (ih last there)).1

theorem outside_of_free (wellFormed : tree.WellFormed) (free : tree.entry? place = none)
    (there : tree.entry? location = some entry) : ¬ place <+: location := by
  rintro ⟨names, rfl⟩
  by_cases same : names = []
  · rw [same, List.append_nil, free] at there
    cases there
  · rw [wellFormed.directory_of_below same there] at free
    cases free

theorem ne_dots (wellFormed : tree.WellFormed)
    (there : tree.entry? location = some entry) (member : name ∈ location) : name ≠ ['.', '.'] := by
  obtain ⟨before, after, rfl⟩ := List.append_of_mem member
  rw [List.append_cons] at there
  by_cases last : after = []
  · subst last
    rw [List.append_nil] at there
    exact (wellFormed.inDirectory there).2
  · exact (wellFormed.inDirectory (wellFormed.directory_of_below last there)).2

theorem isOpen_of_file {content : Content} (wellFormed : tree.WellFormed)
    (there : tree.entry? location = some (.file content)) : tree.IsOpen location := by
  refine ⟨by simp [there], ?_⟩
  rcases List.eq_nil_or_concat location with rfl | ⟨directory, name, rfl⟩
  · cases there
  · rw [List.concat_eq_append] at there ⊢
    exact ⟨directory, name, rfl, wellFormed.inDirectory there⟩

theorem put (wellFormed : tree.WellFormed) (room : tree.IsOpen location) :
    (tree.put location entry).WellFormed where
  workingDirectory := by
    have different : tree.workingDirectory ≠ location := by
      rintro rfl
      exact room.notDirectory wellFormed.workingDirectory
    rw [workingDirectory_put, entry?_put_of_ne room.ne_nil different]
    exact wellFormed.workingDirectory
  inDirectory := by
    intro directory name entry there
    have stays : ∀ above, tree.entry? above = some .directory →
        FileTree.entry? (tree.put location entry) above = some .directory := by
      intro above inside
      rw [entry?_put_of_ne room.ne_nil (fun same => room.notDirectory (same ▸ inside))]
      exact inside
    rw [entry?_put room.ne_nil] at there
    split at there
    · rename_i same
      obtain ⟨above, last, rfl, inside, proper⟩ := room.inDirectory
      obtain ⟨rfl, rfl⟩ := List.append_inj' same rfl |>.imp_right (List.cons.inj · |>.1)
      exact ⟨by
        rw [entry?_put_of_ne room.ne_nil (by simp)]
        exact inside, proper⟩
    · obtain ⟨inside, proper⟩ := wellFormed.inDirectory there
      exact ⟨by
        rw [entry?_put_of_ne room.ne_nil (fun same => room.notDirectory (same ▸ inside))]
        exact inside, proper⟩

end WellFormed

theorem followNames_cons_eq_ok : tree.followNames directory (name :: names) = .ok spot ↔
    isLongerThan maxNameBytes name = false ∧
      (names = [] ∧ tree.spotAt (step directory name) = spot ∨
        names ≠ [] ∧ tree.entry? (step directory name) = some .directory ∧
          tree.followNames (step directory name) names = .ok spot) := by
  conv => lhs; unfold followNames
  unfold spotAt
  cases isLongerThan maxNameBytes name with
  | true => simp
  | false =>
      cases names with
      | nil => cases tree.entry? (step directory name) <;> simp
      | cons next names =>
          cases tree.entry? (step directory name) with
          | none => simp
          | some entry => cases entry <;> simp

theorem followNames_cons_of_directory (short : isLongerThan maxNameBytes name = false)
    (inside : tree.entry? (step directory name) = some .directory) :
    tree.followNames directory (name :: names) = tree.followNames (step directory name) names := by
  cases names with
  | nil => simp [followNames, short, inside]
  | cons next names => simp [followNames, short, inside]

theorem followNames_append (leads : tree.followNames directory names = .ok (.taken place .directory))
    (more : List Text) :
    tree.followNames directory (names ++ more) = tree.followNames place more := by
  induction names generalizing directory with
  | nil =>
      cases leads
      rfl
  | cons name names ih =>
      obtain ⟨short, ⟨rfl, last⟩ | ⟨_, inside, rest⟩⟩ := followNames_cons_eq_ok.mp leads
      · unfold spotAt at last
        split at last <;> cases last
        rename_i inside
        exact followNames_cons_of_directory short inside
      · rw [List.cons_append, followNames_cons_of_directory short inside]
        exact ih rest

/-- Without two dots among them, names lead to the place that they write. -/
theorem location_followNames (proper : ∀ name ∈ names, name ≠ ['.', '.'])
    (found : tree.followNames directory names = .ok spot) :
    spot.location = directory ++ names := by
  induction names generalizing directory with
  | nil =>
      cases found
      exact (List.append_nil _).symm
  | cons name names ih =>
      have own : step directory name = directory ++ [name] := if_neg (proper name List.mem_cons_self)
      obtain ⟨-, ⟨rfl, rfl⟩ | ⟨_, _, rest⟩⟩ := followNames_cons_eq_ok.mp found
      · rw [location_spotAt, own]
      · rw [ih (fun other member => proper other (.tail _ member)) rest, own, ← List.append_cons]

/-- What is found by following names is there, and a free place is one where a file can be put. -/
theorem WellFormed.holds_followNames (wellFormed : tree.WellFormed)
    (start : tree.entry? directory = some .directory)
    (found : tree.followNames directory names = .ok spot) : tree.Holds spot := by
  induction names generalizing directory with
  | nil =>
      cases found
      exact start
  | cons name names ih =>
      obtain ⟨-, ⟨rfl, rfl⟩ | ⟨_, inside, rest⟩⟩ := followNames_cons_eq_ok.mp found
      · unfold spotAt
        cases known : tree.entry? (step directory name) with
        | some entry => exact known
        | none =>
            refine ⟨known, by simp [known], directory, name, ?_, start, ?_⟩
            all_goals by_cases upward : name = ['.', '.']
            · rw [step, if_pos upward, wellFormed.dropLast start] at known
              cases known
            · exact if_neg upward
            · rw [step, if_pos upward, wellFormed.dropLast start] at known
              cases known
            · exact upward
      · exact ih inside rest

theorem find_eq_ok : tree.find path = .ok spot ↔
    path.parts.any (·.contains '\x00') = false ∧ isLongerThan maxPathBytes path.print = false ∧
      tree.followNames (tree.startOf path.anchor) path.parts = .ok spot := by
  unfold find
  cases path.parts.any (·.contains '\x00') with
  | true => simp
  | false =>
      cases isLongerThan maxPathBytes path.print with
      | true => simp
      | false =>
          exact mapError_eq_ok.trans (by simp)

theorem WellFormed.startOf (wellFormed : tree.WellFormed) (anchor : Anchor) :
    tree.entry? (tree.startOf anchor) = some .directory := by
  cases anchor with
  | workingDirectory => exact wellFormed.workingDirectory
  | root => rfl
  | doubleRoot => rfl

theorem WellFormed.holds_find (wellFormed : tree.WellFormed) (found : tree.find path = .ok spot) :
    tree.Holds spot :=
  wellFormed.holds_followNames (wellFormed.startOf path.anchor) (find_eq_ok.mp found).2.2

theorem location_find_below (leads : tree.find path = .ok (.taken place .directory))
    (proper : ∀ name ∈ names, name ≠ ['.', '.']) (found : tree.find (path.below names) = .ok spot) :
    spot.location = place ++ names := by
  obtain ⟨-, -, followed⟩ := find_eq_ok.mp leads
  obtain ⟨-, -, further⟩ := find_eq_ok.mp found
  unfold Path.below at further
  rw [followNames_append followed] at further
  exact location_followNames proper further

theorem mem_below (leads : tree.find path = .ok (.taken place .directory)) :
    (names, entry) ∈ tree.below path ↔ names ≠ [] ∧ tree.entry? (place ++ names) = some entry := by
  unfold below
  rw [leads]
  constructor
  · intro listed
    obtain ⟨⟨location, found⟩, member, inside⟩ := List.mem_filterMap.mp listed
    simp only [Option.ite_none_right_eq_some, Bool.and_eq_true, List.isPrefixOf_iff_prefix,
      decide_eq_true_eq, Option.some.injEq, Prod.mk.injEq] at inside
    obtain ⟨⟨⟨rest, rfl⟩, longer⟩, rfl, rfl⟩ := inside
    rw [List.drop_left]
    have some_rest : rest ≠ [] := by
      rintro rfl
      simp at longer
    refine ⟨some_rest, ?_⟩
    rw [ entry?, if_neg (by simp [some_rest])]
    exact Std.TreeMap.mem_toList_iff_getElem?_eq_some.mp member
  · rintro ⟨some_names, there⟩
    rw [ entry?, if_neg (by simp [some_names])] at there
    refine List.mem_filterMap.mpr ⟨(place ++ names, entry), ?_, ?_⟩
    · exact Std.TreeMap.mem_toList_iff_getElem?_eq_some.mpr there
    · simp [List.isPrefixOf_iff_prefix, List.length_pos_iff, some_names]

theorem exists_base_of_mem_below (listed : (names, entry) ∈ tree.below path) :
    ∃ base, tree.find path = .ok (.taken base .directory) := by
  unfold below at listed
  split at listed
  · exact ⟨_, by assumption⟩
  · cases listed

theorem nodup_below (tree : FileTree) (path : Path) : ((tree.below path).map Prod.fst).Nodup := by
  unfold below
  split
  · rename_i base found
    refine List.pairwise_map.mpr (Std.TreeMap.distinct_keys_toList.filterMap _ ?_)
    rintro ⟨left, entry⟩ ⟨right, other⟩ differ _ first _ second same
    simp only [Option.ite_none_right_eq_some, Bool.and_eq_true, List.isPrefixOf_iff_prefix,
      Option.some.injEq] at first second
    obtain ⟨⟨⟨names, rfl⟩, _⟩, rfl⟩ := first
    obtain ⟨⟨⟨names, rfl⟩, _⟩, rfl⟩ := second
    simp only [List.drop_left] at same
    exact differ (by simp [same])
  · exact .nil

end FileTree

end Gamebook.Files
