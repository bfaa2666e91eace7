import Gamebook.Proofs.Source.Names
import Gamebook.Proofs.Story.Requirements
import Gamebook.Proofs.Text.Joining

/-!
The items of a part of what a link's target says. Conditions and toggles are read alike: a part is cut
at its separators, and is read if every item in it is.
-/

namespace Gamebook.Source.Destination

open Gamebook.Text Gamebook.Story

variable {α : Type} {read : Text → Option α} {absent value : α} {separator : Char}
  {keep : Char → Bool} {fits : Text → Bool} {means : List Text → α} {text : Text}
  {taken : Option Text} {items : List Text}

/-- Joined items, and no part at all where there are none. -/
def joined (separator : Char) : List Text → Option Text
  | [] => none
  | items => some (join [separator] items)

theorem joined_eq_some (nonempty : items ≠ []) :
    joined separator items = some (join [separator] items) := by
  cases items with
  | nil => contradiction
  | cons first others => rfl

/-- A reader that cuts a text at its separators and reads all items or nothing. -/
structure ReadsItems (read : Text → Option α) (absent : α) (separator : Char) (fits : Text → Bool)
    (means : List Text → α) : Prop where
  read : ∀ text value, read text = some value ↔
    (∀ item ∈ splitOn separator text, fits item = true) ∧ value = means (splitOn separator text)
  absent : means [] = absent
  apart : ∀ item, fits item = true → item ≠ [] ∧ separator ∉ item

namespace ReadsItems

theorem exists_joined (reads : ReadsItems read absent separator fits means)
    (answers : readPart? read absent taken = some value) :
    ∃ items, (∀ item ∈ items, fits item = true ∧ ∀ mark, item.Sublist (marked mark taken)) ∧
      taken = joined separator items ∧ value = means items := by
  cases taken with
  | none =>
      cases answers
      exact ⟨[], nofun, rfl, reads.absent.symm⟩
  | some text =>
      obtain ⟨fitting, said⟩ := (reads.read text value).mp answers
      refine ⟨splitOn separator text, fun item member => ⟨fitting item member, fun mark => ?_⟩, ?_, said⟩
      · exact (sublist_of_mem_splitOn member).cons mark
      · rw [joined_eq_some (splitOn_ne_nil separator text), join_splitOn]

theorem readPart?_joined (reads : ReadsItems read absent separator fits means)
    (fitting : ∀ item ∈ items, fits item = true) :
    readPart? read absent (joined separator items) = some (means items) := by
  by_cases none : items = []
  · subst none
    exact congrArg some reads.absent.symm
  · rw [joined_eq_some none]
    have cut : splitOn separator (join [separator] items) = items :=
      splitOn_join none fun item member => (reads.apart item (fitting item member)).2
    exact (reads.read _ _).mpr ⟨cut.symm ▸ fitting, by rw [cut]⟩

end ReadsItems

theorem isPart_joined (apart : AreApart separator items) (between : keep separator = true)
    (kept : ∀ item ∈ items, ∀ c ∈ item, keep c = true) : IsPart keep (joined separator items) := by
  intro text found
  by_cases none : items = []
  · subst none
    contradiction
  · rw [joined_eq_some none] at found
    cases found
    refine ⟨apart.intercalate_ne_nil none, fun c member => ?_⟩
    rcases mem_intercalate member with same | inItem
    · rw [same]
      exact between
    · obtain ⟨item, listed, inside⟩ := inItem
      exact kept item listed c inside

/-- The name in an item, and whether its toggle has to be set. -/
def askedBy : Text → Text × Bool
  | '!' :: name => (name, false)
  | name => (name, true)

def writeItem : Text × Bool → Text
  | (name, true) => name
  | (name, false) => '!' :: name

def lowerItem (item : Text × Bool) : Text × Bool := (lowerName item.1, item.2)

theorem writeItem_askedBy (item : Text) : writeItem (askedBy item) = item := by
  unfold askedBy
  split
  · rfl
  · rfl

theorem askedBy_of_unmarked (unmarked : ∀ name, text = '!' :: name → False) :
    askedBy text = (text, true) := by
  unfold askedBy
  split
  · exact (unmarked _ rfl).elim
  · rfl

theorem askedBy_writeItem {item : Text × Bool} (plain : isPlainName item.1 = true) :
    askedBy (writeItem item) = item := by
  obtain ⟨name, wanted⟩ := item
  cases wanted with
  | false => rfl
  | true =>
      apply askedBy_of_unmarked
      intro rest same
      rw [show name = '!' :: rest from same, isPlainName] at plain
      contradiction

theorem readCondition?_eq (item : Text) : readCondition? item =
    if isName (askedBy item).1 then some (lowerItem (askedBy item)) else none := by
  unfold readCondition?
  split
  · rfl
  · rename_i unmarked
    rw [askedBy_of_unmarked unmarked]
    rfl

theorem askedBy_sublist (item : Text) : (askedBy item).1.Sublist item := by
  unfold askedBy
  split
  · exact List.sublist_cons_self _ _
  · exact .refl _

/-- The characters of an item are those of its name, but for the mark in front. -/
theorem isInItem_of_isName {item : Text} (named : isName (askedBy item).1 = true) :
    item ≠ [] ∧ ∀ c ∈ item, isInName c = true ∨ c = '!' := by
  obtain ⟨nonempty, inside⟩ := isInName_of_isName named
  rw [← writeItem_askedBy item]
  generalize askedBy item = asked at nonempty inside
  obtain ⟨name, wanted⟩ := asked
  cases wanted with
  | true => exact ⟨nonempty, fun c member => .inl (inside c member)⟩
  | false =>
      refine ⟨List.cons_ne_nil _ _, fun c member => ?_⟩
      rcases List.mem_cons.mp member with same | later
      · exact .inr same
      · exact .inl (inside c later)

theorem readsItems_conditions : ReadsItems readConditions? .empty '&' (fun item => isName (askedBy item).1)
    (fun items => .ofItems (items.map fun item => lowerItem (askedBy item))) where
  read := by
    intro text value
    simp only [readConditions?, funext readCondition?_eq, Option.bind_eq_bind, Option.bind_eq_some_iff,
      Option.pure_def, Option.some.injEq, mapM_guard_eq_some]
    constructor
    · intro answers
      obtain ⟨items, ⟨named, rfl⟩, rfl⟩ := answers
      exact ⟨named, rfl⟩
    · intro fitting
      obtain ⟨named, rfl⟩ := fitting
      exact ⟨_, ⟨named, rfl⟩, rfl⟩
  absent := rfl
  apart := by
    intro item named
    obtain ⟨nonempty, inside⟩ := isInItem_of_isName named
    exact ⟨nonempty, fun member => absurd (inside _ member) (by decide)⟩

theorem readsItems_toggles : ReadsItems readToggles? [] '+' isName (List.map lowerName) where
  read := fun text value => mapM_guard_eq_some
  absent := rfl
  apart := by
    intro item named
    obtain ⟨nonempty, inside⟩ := isInName_of_isName named
    exact ⟨nonempty, fun member => absurd (inside _ member) (by decide)⟩

end Gamebook.Source.Destination
