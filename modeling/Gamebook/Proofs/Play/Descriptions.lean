import Gamebook.Proofs.Markup.Lines
import Gamebook.Proofs.Source.Blocks
import Gamebook.Proofs.Source.Trimming
import Gamebook.Proofs.Text.Joining

/-!
A description and the lines of its block: the texts that are rendered hold the links of the lines,
in their order, and no more characters.
-/

namespace Gamebook.Markup

open Gamebook.Text Gamebook.Source

variable {line description : Text}

/-- A line has no text that is rendered and no link either, or it has one text, which stands behind
a lead and in front of blanks. -/
theorem texts_cases (line : Text) :
    (Line.ofText line).texts = [] ∧ WrittenLink.pattern.tokens line = [] ∨
      ∃ left text right, (Line.ofText line).texts = [text] ∧ line = left ++ (text ++ right) ∧
        WrittenLink.IsLead left ∧ ∀ c ∈ right, isBlank c = true := by
  obtain ⟨left, right, whole, leftBlank, rightBlank⟩ := exists_trim isBlank line
  have stripped : strip line = trim isBlank line := rfl
  rw [← stripped] at whole
  have lead := WrittenLink.isLead_of_blank leftBlank
  have noLinks : '[' ∉ strip line → WrittenLink.pattern.tokens line = [] := by
    intro absent
    rw [whole, WrittenLink.tokens_between lead rightBlank, Pattern.tokens, Pattern.pieces,
      WrittenLink.split_plain absent]
    simp [Piece.token?]
  have behindMark : ∀ mark rest : Text, WrittenLink.IsLead mark → strip line = mark ++ rest →
      ∃ left text right, [rest] = [text] ∧ line = left ++ (text ++ right) ∧
        WrittenLink.IsLead left ∧ ∀ c ∈ right, isBlank c = true := by
    intro mark rest markLead text
    refine ⟨left ++ mark, rest, right, rfl, ?_, fun c member => ?_, rightBlank⟩
    · rw [text] at whole
      simpa using whole
    · exact (List.mem_append.mp member).elim (lead c) (markLead c)
  have marks := Line.marks_ofText line
  cases kind : Line.ofText line with
  | blank =>
      rw [kind] at marks
      exact .inl ⟨rfl, noLinks (by simp [show strip line = [] from marks])⟩
  | heading text =>
      rw [kind] at marks
      exact .inr (behindMark ['#', '#', '#', '#', ' '] text (by simp [WrittenLink.IsLead]) marks)
  | rule =>
      rw [kind] at marks
      refine .inl ⟨rfl, noLinks ?_⟩
      have isRule : strip line ∈ Line.rules := marks
      generalize strip line = text at isRule
      revert text
      decide
  | item text =>
      rw [kind] at marks
      rcases marks.2 with dash | star
      · exact .inr (behindMark ['-', ' '] text (by simp [WrittenLink.IsLead]) dash)
      · exact .inr (behindMark ['*', ' '] text (by simp [WrittenLink.IsLead]) star)
  | plain text =>
      rw [kind] at marks
      exact .inr (behindMark [] text (by simp [WrittenLink.IsLead]) marks.1)

theorem tokens_texts (line : Text) :
    (Line.ofText line).texts.flatMap WrittenLink.pattern.tokens =
      WrittenLink.pattern.tokens line := by
  rcases texts_cases line with ⟨none, noLinks⟩ | ⟨left, text, right, one, rfl, lead, blank⟩
  · rw [none, noLinks]
    rfl
  · rw [one, List.flatMap_singleton, WrittenLink.tokens_between lead blank]

/-- A description whose links are not put aside shows no address. -/
theorem render_description (unmarked : IsUnmarked description)
    (short : description.length ≤ Placeholder.indexLimit) :
    ∃ html, Blocks.render description = .ok html ∧ Shows html [] := by
  have each : ∀ line ∈ lineTexts description, Renders 0
      (liftM (Inline.render line) : StateT Stash (Except Placeholder.Error) Text)
      fun fragments html => Behind Shows fragments html [] := by
    intro line listed
    obtain ⟨html, rendered, shows, _⟩ := render_unmarked
      (fun c member => unmarked c (mem_of_mem_lineTexts listed member))
      (Nat.le_trans (length_le_of_mem_lineTexts listed) short)
    exact Renders.lift rendered fun fragments => shows.extend List.nil_prefix
  obtain ⟨html, stash, done, _, _, shows⟩ := renders_lines isReading_shows each {}
  rw [Blocks.renderWith_lift] at done
  change (Blocks.render description >>= fun html => .ok (html, {})) = .ok (html, stash) at done
  cases rendered : Blocks.render description with
  | error fault =>
      rw [rendered] at done
      cases done
  | ok result =>
      rw [rendered] at done
      cases done
      have none : (lineTexts description).flatMap (fun _ => ([] : List Text)) = [] := by simp
      rw [none] at shows
      exact ⟨_, rfl, shows.of_nil⟩

/-- The rendered texts of a block hold the links of its lines. -/
theorem tokens_lineTexts_body {text : Text} {block : Source.Block}
    (member : block ∈ Source.Block.ofText text) :
    (lineTexts block.body).flatMap WrittenLink.pattern.tokens =
      block.lines.flatMap fun line => WrittenLink.pattern.tokens line.text := by
  have empty : WrittenLink.pattern.tokens [] = [] := by
    rw [Pattern.tokens, Pattern.pieces, Pattern.split]
    rfl
  rw [lineTexts_eq, List.flatMap_assoc]
  simp only [tokens_texts]
  exact Block.flatMap_lines_body _ empty member

end Gamebook.Markup
