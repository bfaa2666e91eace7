import Gamebook.Proofs.Source.Parts
import Gamebook.Proofs.Text.Items

/-!
The names in what a link's target says. None is empty, and none holds a comma or a bar, so that
names can be written one behind the other and told apart again.
-/

namespace Gamebook.Source

open Gamebook.Text

/-- A name that can be told apart from its neighbours in a written state. -/
structure Separable (name : Text) : Prop where
  nonempty : name ≠ []
  noComma : ',' ∉ name
  noBar : '|' ∉ name

namespace Destination

variable {name target : Text} {names : List Text} {destination : Destination}

/-- A character that a name may hold, the line feed at its end included. -/
def isInName (c : Char) : Bool := isNameChar c || c = '\n'

theorem isLower_toLower {c : Char} (upper : c.isUpper = true) : c.toLower.isLower = true := by
  have between : 'A'.val ≤ c.val ∧ c.val ≤ 'Z'.val := of_decide_eq_true upper
  have lowered : c.toLower.val = c.val + 32 := congrArg Char.val (dif_pos between)
  have small : 'a'.val ≤ c.toLower.val ∧ c.toLower.val ≤ 'z'.val := by
    simp only [lowered, UInt32.le_iff_toNat_le, UInt32.toNat_add] at between ⊢
    simp at between ⊢
    omega
  exact Bool.and_eq_true_iff.mpr ⟨decide_eq_true small.1, decide_eq_true small.2⟩

theorem toLower_eq {c : Char} (other : c.isUpper = false) : c.toLower = c :=
  dif_neg (of_decide_eq_false other)

theorem isInName_toLower {c : Char} (inside : isInName c = true) : isInName c.toLower = true := by
  cases upper : c.isUpper with
  | true =>
      have letter : c.toLower.isAlpha = true :=
        Bool.or_eq_true_iff.mpr (.inr (isLower_toLower upper))
      simp [isInName, isNameChar, Char.isAlphanum, letter]
  | false =>
      rw [toLower_eq upper]
      exact inside

theorem separable_lowerName (nonempty : name ≠ []) (inside : ∀ c ∈ name, isInName c = true) :
    Separable (lowerName name) := by
  have lowered : ∀ c ∈ lowerName name, isInName c = true := by
    intro c member
    obtain ⟨original, known, rfl⟩ := List.mem_map.mp member
    exact isInName_toLower (inside original known)
  refine ⟨by simpa [lowerName] using nonempty, fun member => ?_, fun member => ?_⟩
  · exact absurd (lowered _ member) (by decide)
  · exact absurd (lowered _ member) (by decide)

theorem isNameChar_of_isPlainName (plain : isPlainName name = true) :
    name ≠ [] ∧ ∀ c ∈ name, isNameChar c = true := by
  cases name with
  | nil => simp [isPlainName] at plain
  | cons first rest =>
      simp only [isPlainName, Bool.and_eq_true, List.all_eq_true] at plain
      exact ⟨by simp, List.forall_mem_cons.mpr ⟨by simp [isNameChar, plain.1], plain.2⟩⟩

theorem isInName_of_isPlainName (plain : isPlainName name = true) :
    name ≠ [] ∧ ∀ c ∈ name, isInName c = true := by
  obtain ⟨nonempty, inside⟩ := isNameChar_of_isPlainName plain
  exact ⟨nonempty, fun c member => by simp [isInName, inside c member]⟩

theorem isName_of_isPlainName (plain : isPlainName name = true) : isName name = true := by
  simp [isName, plain]

theorem isInName_of_isName (named : isName name = true) :
    name ≠ [] ∧ ∀ c ∈ name, isInName c = true := by
  simp only [isName, Bool.or_eq_true, Bool.and_eq_true, decide_eq_true_eq] at named
  rcases named with plain | ⟨ending, plain⟩
  · exact isInName_of_isPlainName plain
  · have nonempty : name ≠ [] := by
      rintro rfl
      simp at ending
    have whole : name.dropLast ++ ['\n'] = name :=
      List.dropLast_append_getLast? '\n' ending
    refine ⟨nonempty, fun c member => ?_⟩
    rw [← whole] at member
    rcases List.mem_append.mp member with early | last
    · exact (isInName_of_isPlainName plain).2 c early
    · rw [List.mem_singleton.mp last]
      decide

theorem separable_of_readToggle? {item : Text} (read : readToggle? item = some name) :
    Separable name := by
  unfold readToggle? at read
  split at read
  · rename_i named
    cases read
    have shape := isInName_of_isName named
    exact separable_lowerName shape.1 shape.2
  · contradiction

theorem separable_of_readToggles? {text : Text} (read : readToggles? text = some names) :
    ∀ name ∈ names, Separable name := by
  intro name member
  obtain ⟨item, _, readItem⟩ := exists_mem_of_mapM_some read member
  exact separable_of_readToggle? readItem

theorem read?_eq_some (read : read? target = some destination) :
    (∀ name, destination.scene = some name → Separable name) ∧
      ∀ name ∈ destination.toggles, Separable name := by
  obtain ⟨scene, _, toggles, _, parts⟩ := exists_parts read
  constructor
  · intro name named
    rw [parts.scene] at named
    obtain ⟨written, taken, rfl⟩ := Option.map_eq_some_iff.mp named
    have shape := parts.sceneFits written taken
    exact separable_lowerName shape.1 fun c member => by simp [isInName, shape.2 c member]
  · intro name member
    have togglesRead := parts.toggles
    cases toggles with
    | none =>
        have none : [] = destination.toggles := Option.some.inj togglesRead
        rw [← none] at member
        contradiction
    | some text => exact separable_of_readToggles? togglesRead name member

end Destination

end Gamebook.Source
