import Gamebook.Proofs.Source.Spelling

/-!
The grammar of what a link's target says. A target is read if its parts are written with their marks
and separators and their names are names, and it then says what was written, in small letters. What a
target can say can be written, and is read again as it was.
-/

namespace Gamebook.Source.Destination

open Gamebook.Text Gamebook.Story

variable {name : Text}

/-- What can be written in a target: the scene that it leads to, the conditions, and the toggles. -/
structure Written where
  scene : Option Text
  conditions : List (Text × Bool)
  toggles : List Text

namespace Written

variable {written : Written} {destination other : Destination} {target : Text}

def write (written : Written) : Text :=
  marked '/' written.scene ++ (marked '?' (joined '&' (written.conditions.map writeItem)) ++
    marked '#' (joined '+' written.toggles))

structure IsWellFormed (written : Written) : Prop where
  scene : IsPart isNameChar written.scene
  conditions : ∀ item ∈ written.conditions, isPlainName item.1 = true
  toggles : ∀ name ∈ written.toggles, isPlainName name = true

/-- The conditions of a target have each name where it was first written, and ask what was written
last. -/
structure IsReadAs (written : Written) (destination : Destination) : Prop where
  scene : destination.scene = written.scene.map lowerName
  names : destination.conditions.names =
    (written.conditions.map fun item => lowerName item.1).eraseDups
  wanted : ∀ name wanted, (name, wanted) ∈ destination.conditions.entries ↔
    Conditions.lastWanted (written.conditions.map lowerItem) name = some wanted
  toggles : destination.toggles = written.toggles.map lowerName

/-- What is said by what is written. -/
def meaning (written : Written) : Destination where
  scene := written.scene.map lowerName
  conditions := .ofItems (written.conditions.map lowerItem)
  toggles := written.toggles.map lowerName

theorem isReadAs_iff : written.IsReadAs destination ↔ destination = written.meaning := by
  constructor
  · intro said
    have conditions : destination.conditions = .ofItems (written.conditions.map lowerItem) := by
      apply Conditions.eq_of_lookup_eq
      · rw [said.names, Conditions.names_ofItems, List.map_map]
        rfl
      · intro name
        ext wanted
        rw [← Conditions.mem_entries_iff, said.wanted, ← Conditions.mem_entries_ofItems,
          Conditions.mem_entries_iff]
    obtain ⟨scene, _, toggles⟩ := destination
    rw [meaning, ← said.scene, ← said.toggles, ← conditions]
  · intro same
    subst same
    refine ⟨rfl, ?_, fun _ _ => Conditions.mem_entries_ofItems, rfl⟩
    rw [meaning, Conditions.names_ofItems, List.map_map]
    rfl

/-- What is read was written by the grammar, if no line feed ends it. -/
theorem exists_of_read? (answers : read? target = some destination) (unbroken : '\n' ∉ target) :
    ∃ written : Written, written.IsWellFormed ∧ target = written.write ∧
      destination = written.meaning := by
  obtain ⟨scene, conditions, toggles, ending, parts⟩ := exists_parts answers
  have nothing : ending = [] := by
    rcases parts.ending with none | broken
    · exact none
    · exact absurd (by simp [parts.whole, broken]) unbroken
  obtain ⟨items, itemsFit, rfl, conditionsSaid⟩ := readsItems_conditions.exists_joined parts.conditions
  obtain ⟨names, namesFit, rfl, togglesSaid⟩ := readsItems_toggles.exists_joined parts.toggles
  have spelt : target =
      marked '/' scene ++ (marked '?' (joined '&' items) ++ marked '#' (joined '+' names)) := by
    rw [parts.whole, nothing, List.append_nil]
  -- a name may end with a line feed, but not here: the items stand in the target
  have itemsUnbroken : ∀ item ∈ items, '\n' ∉ item := by
    intro item member broken
    have inside := ((itemsFit item member).2 '?').subset broken
    exact unbroken (by simp [spelt, inside])
  have namesUnbroken : ∀ name ∈ names, '\n' ∉ name := by
    intro name member broken
    have inside := ((namesFit name member).2 '#').subset broken
    exact unbroken (by simp [spelt, inside])
  refine ⟨⟨scene, items.map askedBy, names⟩, ⟨parts.sceneFits, ?_, ?_⟩, ?_, ?_⟩
  · intro item member
    obtain ⟨source, listed, rfl⟩ := List.mem_map.mp member
    apply isPlainName_of_isName (itemsFit source listed).1
    intro broken
    exact itemsUnbroken source listed ((askedBy_sublist source).subset broken)
  · intro name member
    exact isPlainName_of_isName (namesFit name member).1 (namesUnbroken name member)
  · have same : (items.map askedBy).map writeItem = items := by
      rw [List.map_map]
      exact List.map_id'' writeItem_askedBy items
    rw [spelt, write, same]
  · have scene := parts.scene
    obtain ⟨_, _, _⟩ := destination
    subst scene conditionsSaid togglesSaid
    rw [meaning, List.map_map]
    rfl

namespace IsWellFormed

theorem itemsFit (wellFormed : written.IsWellFormed) :
    ∀ item ∈ written.conditions.map writeItem, isName (askedBy item).1 = true := by
  intro item member
  obtain ⟨source, listed, rfl⟩ := List.mem_map.mp member
  rw [askedBy_writeItem (wellFormed.conditions source listed)]
  exact isName_of_isPlainName (wellFormed.conditions source listed)

theorem namesFit (wellFormed : written.IsWellFormed) : ∀ name ∈ written.toggles, isName name = true :=
  fun name member => isName_of_isPlainName (wellFormed.toggles name member)

theorem isPart_conditions (wellFormed : written.IsWellFormed) :
    IsPart (· ≠ '#') (joined '&' (written.conditions.map writeItem)) := by
  apply isPart_joined _ (by decide)
  · intro item member c inside
    have shape := (isInItem_of_isName (wellFormed.itemsFit item member)).2 c inside
    exact decide_eq_true fun same => absurd (same ▸ shape) (by decide)
  · exact fun item member => readsItems_conditions.apart item (wellFormed.itemsFit item member)

theorem isPart_toggles (wellFormed : written.IsWellFormed) :
    IsPart (· ≠ '\n') (joined '+' written.toggles) := by
  apply isPart_joined _ (by decide)
  · intro name member c inside
    have shape := (isNameChar_of_isPlainName (wellFormed.toggles name member)).2 c inside
    exact decide_eq_true fun same => absurd (same ▸ shape) (by decide)
  · exact fun name member => readsItems_toggles.apart name (wellFormed.namesFit name member)

theorem read?_write (wellFormed : written.IsWellFormed) :
    read? written.write = some written.meaning := by
  have conditionsRead := readsItems_conditions.readPart?_joined wellFormed.itemsFit
  have togglesRead := readsItems_toggles.readPart?_joined wellFormed.namesFit
  have same : (written.conditions.map writeItem).map (fun item => lowerItem (askedBy item)) =
      written.conditions.map lowerItem := by
    rw [List.map_map]
    refine List.map_congr_left fun item member => ?_
    exact congrArg lowerItem (askedBy_writeItem (wellFormed.conditions item member))
  rw [same] at conditionsRead
  exact read?_marked wellFormed.scene wellFormed.isPart_conditions wellFormed.isPart_toggles
    conditionsRead togglesRead

theorem read?_write_iff (wellFormed : written.IsWellFormed) :
    read? written.write = some destination ↔ written.IsReadAs destination := by
  rw [wellFormed.read?_write, isReadAs_iff, Option.some.injEq, eq_comm]

end IsWellFormed

theorem exists_read?_iff (unbroken : '\n' ∉ target) :
    (∃ destination, read? target = some destination) ↔
      ∃ written : Written, written.IsWellFormed ∧ target = written.write := by
  constructor
  · intro accepted
    obtain ⟨destination, answers⟩ := accepted
    obtain ⟨written, wellFormed, spelt, _⟩ := exists_of_read? answers unbroken
    exact ⟨written, wellFormed, spelt⟩
  · intro grammatical
    obtain ⟨written, wellFormed, spelt⟩ := grammatical
    exact ⟨written.meaning, spelt ▸ wellFormed.read?_write⟩

end Written

/-- What says the same as a target that was read. -/
def written (destination : Destination) : Written :=
  ⟨destination.scene, destination.conditions.entries, destination.toggles⟩

theorem lowerName_eq (inside : ∀ c ∈ name, Key.isInKey c = true) : lowerName name = name :=
  (List.map_congr_left fun c member => (Key.shape_of_isInKey (inside c member)).2).trans (List.map_id' name)

theorem IsLowName.isPlainName (low : IsLowName name) : isPlainName name = true := by
  obtain ⟨first, others, rfl, kept, inside⟩ := low
  simp only [Destination.isPlainName, Bool.and_eq_true, List.all_eq_true]
  exact ⟨Key.isAlphanum_of_isKept kept, fun c member => (Key.shape_of_isInKey (inside c member)).1⟩

theorem IsLowName.lowerName_eq (low : IsLowName name) : lowerName name = name := by
  obtain ⟨first, others, rfl, kept, inside⟩ := low
  apply Destination.lowerName_eq
  exact List.forall_mem_cons.mpr ⟨by simp [Key.isInKey, kept], inside⟩

namespace IsSpelt

variable {destination : Destination}

theorem isWellFormed_written (spelt : destination.IsSpelt) : destination.written.IsWellFormed where
  scene := fun name named => by
    obtain ⟨nonempty, inside⟩ := spelt.scene name named
    exact ⟨nonempty, fun c member => (Key.shape_of_isInKey (inside c member)).1⟩
  conditions := fun _ member => (spelt.conditions _ (List.mem_map_of_mem member)).isPlainName
  toggles := fun name member => (spelt.toggles name member).isPlainName

theorem meaning_written (spelt : destination.IsSpelt) : destination.written.meaning = destination := by
  have scene : destination.scene.map lowerName = destination.scene := by
    cases named : destination.scene with
    | none => rfl
    | some name => rw [Option.map_some, lowerName_eq (spelt.scene name named).2]
  have entries : destination.conditions.entries.map lowerItem = destination.conditions.entries := by
    refine (List.map_congr_left fun item member => ?_).trans (List.map_id _)
    rw [lowerItem, (spelt.conditions item.1 (List.mem_map_of_mem member)).lowerName_eq]
    rfl
  have toggles : destination.toggles.map lowerName = destination.toggles :=
    (List.map_congr_left fun name member => (spelt.toggles name member).lowerName_eq).trans (List.map_id _)
  simp only [Written.meaning, written, scene, entries, toggles, Conditions.ofItems_entries]

theorem read?_written (spelt : destination.IsSpelt) :
    read? destination.written.write = some destination := by
  rw [spelt.isWellFormed_written.read?_write, spelt.meaning_written]

end IsSpelt

/-- A target without a line feed is read if and only if it is written by the grammar, and it is read
as what was written; what a target can say is read back from how it is written. -/
theorem read?_isGrammatical :
    (∀ target : Text, '\n' ∉ target →
      ((∃ destination, read? target = some destination) ↔
        ∃ written : Written, written.IsWellFormed ∧ target = written.write)) ∧
      (∀ (written : Written) (destination : Destination), written.IsWellFormed →
        (read? written.write = some destination ↔ written.IsReadAs destination)) ∧
      ∀ destination : Destination, destination.IsSpelt →
        read? destination.written.write = some destination := by
  refine ⟨fun _ unbroken => Written.exists_read?_iff unbroken,
    fun _ _ wellFormed => wellFormed.read?_write_iff, fun destination spelt => ?_⟩
  rw [spelt.isWellFormed_written.read?_write, spelt.meaning_written]

/-- A way that asks for the key first and for its absence last. -/
def vault : Written where
  scene := some "Vault".toList
  conditions := [("Key", true), ("alarm", false), ("key", false)]
  toggles := ["opened", "Noisy", "opened"]

def vaultDestination : Destination where
  scene := some "vault".toList
  conditions := ⟨[("key", false), ("alarm", false)], by decide⟩
  toggles := ["opened", "noisy", "opened"]

theorem read?_isGrammatical_vault :
    vault.write = "/Vault?Key&!alarm&!key#opened+Noisy+opened" ∧
      (∃ destination, read? vault.write = some destination) ∧ vault.IsReadAs vaultDestination ∧
      read? vaultDestination.written.write = some vaultDestination := by
  have wellFormed : vault.IsWellFormed := by
    refine ⟨fun name named => ?_, by decide, by decide⟩
    cases named
    have kept : "Vault".toList.all isNameChar = true := by decide
    exact ⟨by decide, List.all_eq_true.mp kept⟩
  have answers : read? vault.write = some vaultDestination := by decide +kernel
  have spelt : vaultDestination.IsSpelt := isSpelt_of_read? answers (by decide)
  obtain ⟨accepted, readAs, back⟩ := read?_isGrammatical
  exact ⟨by decide, (accepted vault.write (by decide)).mpr ⟨vault, wellFormed, rfl⟩,
    (readAs vault vaultDestination wellFormed).mp answers, back vaultDestination spelt⟩

end Gamebook.Source.Destination
