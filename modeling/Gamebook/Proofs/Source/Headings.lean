import Gamebook.Proofs.Text.Joining
import Gamebook.Proofs.Text.Lines
import Gamebook.Source.Block

/-!
How headings are written. A line is read as a heading if number signs, spacing and a text stand in it,
and the heading is then the one that is written there.
-/

namespace Gamebook.Source.Heading

open Gamebook.Text

variable {heading : Heading} {line title tail : Text}

/-- The line holds a number sign for each level, spacing, and the text with nothing but spacing behind
it. -/
structure IsWrittenIn (heading : Heading) (line : Text) : Prop where
  signs : 1 ≤ heading.level ∧ heading.level ≤ 3
  spelt : ∃ gap ending,
    line = List.replicate heading.level '#' ++ (gap ++ (heading.text ++ ending)) ∧ gap ≠ [] ∧
      (∀ c ∈ gap, isSpacing c = true) ∧ ∀ c ∈ ending, isSpacing c = true
  trimmed : IsTrimmed isSpacing heading.text

def IsHeaded (line : Text) : Prop := ∃ heading : Heading, heading.IsWrittenIn line

theorem textOf?_eq_some_iff : textOf? tail = some title ↔
    ∃ gap ending, tail = gap ++ (title ++ ending) ∧ gap ≠ [] ∧ (∀ c ∈ gap, isSpacing c = true) ∧
      (∀ c ∈ ending, isSpacing c = true) ∧ IsTrimmed isSpacing title := by
  constructor
  · intro read
    unfold textOf? at read
    split at read
    · contradiction
    · rename_i c rest
      split at read
      · rename_i spacing
        obtain ⟨left, ending, whole, inLeft, inEnding, trimmed⟩ := trim_eq_iff.mp (Option.some.inj read)
        -- one character of the gap is asked for, the others are trimmed with the title
        exact ⟨c :: left, ending, congrArg (c :: ·) whole, List.cons_ne_nil _ _,
          List.forall_mem_cons.mpr ⟨spacing, inLeft⟩, inEnding, trimmed⟩
      · contradiction
  · intro spelt
    obtain ⟨gap, ending, rfl, nonempty, inGap, inEnding, trimmed⟩ := spelt
    cases gap with
    | nil => contradiction
    | cons c left =>
        obtain ⟨spacing, inLeft⟩ := List.forall_mem_cons.mp inGap
        have kept := trim_eq_iff.mpr ⟨left, ending, rfl, inLeft, inEnding, trimmed⟩
        rw [List.cons_append, textOf?, if_pos spacing, kept]

theorem takeWhile_signs (text : Text) :
    text.takeWhile (· = '#') = List.replicate (text.takeWhile (· = '#')).length '#' :=
  List.eq_replicate_of_mem fun c member => by
    simpa using List.all_eq_true.mp List.all_takeWhile c member

theorem ofLine?_eq_some_iff : ofLine? line = some heading ↔ heading.IsWrittenIn line := by
  constructor
  · intro read
    simp only [ofLine?] at read
    split at read
    · rename_i few
      obtain ⟨title, found, rfl⟩ := Option.map_eq_some_iff.mp read
      obtain ⟨gap, ending, behind, nonempty, inGap, inEnding, trimmed⟩ := textOf?_eq_some_iff.mp found
      have whole := List.takeWhile_append_dropWhile (p := (· = '#')) (l := line)
      refine ⟨by simpa using few, ⟨gap, ending, ?_, nonempty, inGap, inEnding⟩, trimmed⟩
      rw [← takeWhile_signs, ← behind, whole]
    · contradiction
  · intro written
    obtain ⟨signs, ⟨gap, ending, rfl, nonempty, inGap, inEnding⟩, trimmed⟩ := written
    have stops : ∀ c, (gap ++ (heading.text ++ ending)).head? = some c →
        decide (c = '#') = false := by
      intro c first
      obtain ⟨d, left, rfl⟩ := List.exists_cons_of_ne_nil nonempty
      obtain rfl := Option.some.inj first
      refine decide_eq_false fun same => ?_
      exact absurd (inGap _ List.mem_cons_self) (by rw [same]; decide)
    have kept : ∀ c ∈ List.replicate heading.level '#', decide (c = '#') = true := fun c member =>
      decide_eq_true (List.eq_of_mem_replicate member)
    obtain ⟨took, left⟩ := takeWhile_append_of_head? kept stops
    have found := textOf?_eq_some_iff.mpr ⟨gap, ending, rfl, nonempty, inGap, inEnding, trimmed⟩
    simp [ofLine?, took, left, found, signs]

theorem ofLine?_eq_none_iff : ofLine? line = none ↔ ¬ IsHeaded line := by
  simp only [Option.eq_none_iff_forall_ne_some, ne_eq, ofLine?_eq_some_iff, IsHeaded, not_exists]

end Gamebook.Source.Heading
