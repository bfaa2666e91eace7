import Mathlib.Algebra.Order.BigOperators.Group.List
import Mathlib.Algebra.GroupWithZero.Nat
import Mathlib.Algebra.Order.Group.Nat
import Mathlib.Data.List.Nodup
import Gamebook.Proofs.Source.Headings

/-!
The blocks of a source: they stand in the order of their lines, and their lines are lines of the
source.
-/

namespace Gamebook.Source.Block

open Gamebook.Text

variable {lines : List NumberedLine} {line : NumberedLine} {block : Block} {texts : List Text}
  {first : Nat}

/-- The numbers are those of the places. -/
theorem exists_of_mem_numberFrom (member : line ∈ numberFrom first texts) :
    ∃ index, texts[index]? = some line.text ∧ line.number = first + index := by
  induction texts generalizing first with
  | nil => contradiction
  | cons text texts ih =>
      rcases List.mem_cons.mp member with rfl | later
      · exact ⟨0, rfl, rfl⟩
      · obtain ⟨index, found, number⟩ := ih later
        exact ⟨index + 1, found, by omega⟩

theorem mem_numberFrom (member : line ∈ numberFrom first texts) :
    line.text ∈ texts ∧ first ≤ line.number := by
  obtain ⟨index, found, number⟩ := exists_of_mem_numberFrom member
  exact ⟨List.mem_of_getElem? found, by omega⟩

/-- The line with this number when the first line is the first. -/
def lineAt? (texts : List Text) : Nat → Option Text
  | 0 => none
  | number + 1 => texts[number]?

theorem lineAt?_of_mem (member : line ∈ numberFrom 1 texts) :
    lineAt? texts line.number = some line.text := by
  obtain ⟨index, found, number⟩ := exists_of_mem_numberFrom member
  rw [number, Nat.add_comm]
  exact found

theorem pairwise_numberFrom (first : Nat) (texts : List Text) :
    (numberFrom first texts).Pairwise fun left right => left.number < right.number := by
  induction texts generalizing first with
  | nil => exact .nil
  | cons text texts ih =>
      refine List.pairwise_cons.mpr ⟨fun line member => ?_, ih (first + 1)⟩
      exact (mem_numberFrom member).2

theorem gather_cons (line : NumberedLine) (rest : List NumberedLine) :
    gather (line :: rest) =
      match Heading.ofLine? line.text with
      | some heading => ([], ⟨heading, line.number, (gather rest).1⟩ :: (gather rest).2)
      | none => (line :: (gather rest).1, (gather rest).2) := rfl

/-- The lines under the headings and those in front of the first are the lines that hold no heading. -/
theorem gather_lines (lines : List NumberedLine) :
    (gather lines).1 ++ (gather lines).2.flatMap Block.lines =
      lines.filter fun line => (Heading.ofLine? line.text).isNone := by
  induction lines with
  | nil => rfl
  | cons line rest ih =>
      rw [gather_cons, List.filter_cons]
      cases read : Heading.ofLine? line.text with
      | some heading => simpa using ih
      | none => exact congrArg (line :: ·) ih

/-- No line belongs to two blocks. -/
theorem gather_sublist (lines : List NumberedLine) :
    ((gather lines).1 ++ (gather lines).2.flatMap Block.lines).Sublist lines :=
  gather_lines lines ▸ List.filter_sublist

theorem mem_gather (member : block ∈ (gather lines).2) :
    (∃ line ∈ lines, line.number = block.line) ∧ ∀ line ∈ block.lines, line ∈ lines := by
  induction lines with
  | nil => contradiction
  | cons line rest ih =>
      rw [gather_cons] at member
      split at member
      · rcases List.mem_cons.mp member with rfl | later
        · refine ⟨⟨line, by simp, rfl⟩, fun other inside => ?_⟩
          exact .tail _ ((gather_sublist rest).subset (List.mem_append_left _ inside))
        · obtain ⟨⟨other, inside, same⟩, below⟩ := ih later
          exact ⟨⟨other, by simp [inside], same⟩, fun last inside => by simp [below last inside]⟩
      · obtain ⟨⟨other, inside, same⟩, below⟩ := ih member
        exact ⟨⟨other, by simp [inside], same⟩, fun last inside => by simp [below last inside]⟩

/-- The headings among some lines, each with the number of its line. -/
def headings (lines : List NumberedLine) : List (Nat × Heading) :=
  lines.filterMap fun line => (Heading.ofLine? line.text).map fun heading => (line.number, heading)

theorem mem_headings {number : Nat} {heading : Heading} : (number, heading) ∈ headings lines ↔
    ∃ line ∈ lines, line.number = number ∧ Heading.ofLine? line.text = some heading := by
  simp [headings, and_comm]

/-- Each heading begins a block, and each block begins with a heading. -/
theorem map_heading_gather (lines : List NumberedLine) :
    (gather lines).2.map (fun block => (block.line, block.heading)) = headings lines := by
  induction lines with
  | nil => rfl
  | cons line rest ih =>
      unfold headings at ih ⊢
      cases read : Heading.ofLine? line.text with
      | none => simpa [gather_cons, read] using ih
      | some heading => simpa [gather_cons, read] using ih

theorem heading_of_mem_gather (member : block ∈ (gather lines).2) :
    ∃ line ∈ lines, line.number = block.line ∧ Heading.ofLine? line.text = some block.heading := by
  apply mem_headings.mp
  rw [← map_heading_gather]
  exact List.mem_map.mpr ⟨block, member, rfl⟩

theorem exists_mem_gather {heading : Heading} (member : line ∈ lines)
    (read : Heading.ofLine? line.text = some heading) :
    ∃ block ∈ (gather lines).2, block.line = line.number ∧ block.heading = heading := by
  have listed : (line.number, heading) ∈ headings lines := mem_headings.mpr ⟨line, member, rfl, read⟩
  rw [← map_heading_gather] at listed
  obtain ⟨block, inside, same⟩ := List.mem_map.mp listed
  exact ⟨block, inside, congrArg Prod.fst same, congrArg Prod.snd same⟩

theorem sublist_of_mem_gather (member : block ∈ (gather lines).2) : block.lines.Sublist lines := by
  have whole := (List.sublist_append_right _ _).trans (gather_sublist lines)
  rw [List.flatMap_def] at whole
  exact (List.sublist_flatten_of_mem (List.mem_map_of_mem member)).trans whole

theorem pairwise_gather (increasing : lines.Pairwise fun left right => left.number < right.number) :
    (gather lines).2.Pairwise fun left right => left.line < right.line := by
  induction lines with
  | nil => exact .nil
  | cons line rest ih =>
      obtain ⟨above, restIncreasing⟩ := List.pairwise_cons.mp increasing
      rw [gather_cons]
      split
      · refine List.pairwise_cons.mpr ⟨fun block member => ?_, ih restIncreasing⟩
        obtain ⟨⟨other, inside, same⟩, _⟩ := mem_gather member
        rw [← same]
        exact above other inside
      · exact ih restIncreasing

theorem lt_of_mem_gather (increasing : lines.Pairwise fun left right => left.number < right.number)
    (member : block ∈ (gather lines).2) (inside : line ∈ block.lines) : block.line < line.number := by
  induction lines with
  | nil => contradiction
  | cons first rest ih =>
      obtain ⟨above, restIncreasing⟩ := List.pairwise_cons.mp increasing
      rw [gather_cons] at member
      split at member
      · rcases List.mem_cons.mp member with rfl | later
        · have under := List.mem_append_left ((gather rest).2.flatMap Block.lines) inside
          exact above line ((gather_sublist rest).subset under)
        · exact ih restIncreasing later
      · exact ih restIncreasing member

theorem pairwise_ofText (text : Text) :
    (ofText text).Pairwise fun left right => left.line < right.line :=
  pairwise_gather (pairwise_numberFrom 1 _)

/-- The lines of the blocks stand in the order of the source. -/
theorem pairwise_lines_ofText (text : Text) :
    ((ofText text).flatMap Block.lines).Pairwise fun left right => left.number < right.number :=
  (pairwise_numberFrom 1 _).sublist ((List.sublist_append_right _ _).trans (gather_sublist _))

theorem nodup_line {blocks : List Block}
    (increasing : blocks.Pairwise fun left right => left.line < right.line) :
    (blocks.map Block.line).Nodup :=
  List.pairwise_map.mpr (increasing.imp fun below => Nat.ne_of_lt below)

theorem eq_of_line_eq {text : Text} {left right : Block} (leftIn : left ∈ ofText text)
    (rightIn : right ∈ ofText text) (same : left.line = right.line) : left = right :=
  List.inj_on_of_nodup_map (nodup_line (pairwise_ofText text)) leftIn rightIn same

theorem line_of_mem_ofText {text : Text} (member : block ∈ ofText text) :
    1 ≤ block.line ∧ block.line ≤ (Text.lines text).length := by
  obtain ⟨line, inside, same, _⟩ := heading_of_mem_gather member
  obtain ⟨index, found, number⟩ := exists_of_mem_numberFrom inside
  obtain ⟨within, _⟩ := List.getElem?_eq_some_iff.mp found
  omega

theorem mem_lines_of_mem_ofText {text : Text} (member : block ∈ ofText text)
    (inside : line ∈ block.lines) : line.text ∈ Text.lines text :=
  (mem_numberFrom ((mem_gather member).2 line inside)).1

theorem map_text_numberFrom (first : Nat) (texts : List Text) :
    (numberFrom first texts).map NumberedLine.text = texts := by
  induction texts generalizing first with
  | nil => rfl
  | cons text texts ih => rw [numberFrom, List.map_cons, ih]

theorem map_number_numberFrom (first : Nat) (texts : List Text) :
    (numberFrom first texts).map NumberedLine.number = List.range' first texts.length := by
  induction texts generalizing first with
  | nil => rfl
  | cons text texts ih => rw [numberFrom, List.map_cons, ih, List.length_cons, List.range'_succ]

theorem isBreak_of_mem_line {text : Text} {c : Char} (member : block ∈ ofText text)
    (inside : line ∈ block.lines) (inLine : c ∈ line.text) : c ∈ text ∧ isBreak c = false :=
  mem_of_mem_lines (mem_lines_of_mem_ofText member inside) inLine

theorem heading_sublist {text : Text} {heading : Heading} (read : Heading.ofLine? text = some heading) :
    heading.text.Sublist text := by
  obtain ⟨_, ⟨gap, ending, whole, _⟩, _⟩ := Heading.ofLine?_eq_some_iff.mp read
  have behind := (List.sublist_append_left heading.text ending).trans (List.sublist_append_right gap _)
  exact whole ▸ behind.trans (List.sublist_append_right _ _)

theorem isBreak_of_mem_heading {text : Text} {c : Char} (member : block ∈ ofText text)
    (inHeading : c ∈ block.heading.text) : isBreak c = false := by
  obtain ⟨line, inside, _, read⟩ := heading_of_mem_gather member
  exact (mem_of_mem_lines (mem_numberFrom inside).1 ((heading_sublist read).subset inHeading)).2

/-- What is made of the lines of a block's text is what is made of the block's lines. -/
theorem flatMap_lines_body {β : Type} {text : Text} (f : Text → List β) (empty : f [] = [])
    (member : block ∈ ofText text) :
    (Text.lines block.body).flatMap f = block.lines.flatMap fun line => f line.text := by
  rw [body, flatMap_lines_trim f empty, flatMap_lines_join f empty, List.flatMap_map]
  intro piece listed c inPiece
  obtain ⟨line, inside, rfl⟩ := List.mem_map.mp listed
  exact (isBreak_of_mem_line member inside inPiece).2

theorem mem_of_mem_body {text : Text} {c : Char} (member : block ∈ ofText text)
    (inBody : c ∈ block.body) : c = '\n' ∨ c ∈ text := by
  obtain ⟨left, right, whole, _⟩ := exists_trim (· = '\n')
    (join ['\n'] (block.lines.map NumberedLine.text))
  have joined : c ∈ join ['\n'] (block.lines.map NumberedLine.text) := by
    rw [whole]
    exact List.mem_append_right _ (List.mem_append_left _ inBody)
  rcases mem_intercalate joined with same | ⟨piece, listed, inPiece⟩
  · exact .inl same
  · obtain ⟨line, inside, rfl⟩ := List.mem_map.mp listed
    exact .inr (isBreak_of_mem_line member inside inPiece).1

theorem length_join_le (pieces : List Text) :
    (join ['\n'] pieces).length ≤ (pieces.map fun piece => piece.length + 1).sum - 1 := by
  unfold join
  induction pieces with
  | nil => simp
  | cons first rest ih =>
      cases rest with
      | nil => simp
      | cons second rest =>
          simp only [List.intercalate_cons_cons, List.length_append, List.length_singleton,
            List.map_cons, List.sum_cons] at ih ⊢
          omega

theorem length_body_le {text : Text} (member : block ∈ ofText text) :
    block.body.length ≤ text.length := by
  obtain ⟨left, right, whole, _⟩ := exists_trim (· = '\n')
    (join ['\n'] (block.lines.map NumberedLine.text))
  have trimmed : block.body.length ≤ (join ['\n'] (block.lines.map NumberedLine.text)).length := by
    rw [whole, body, List.length_append, List.length_append]
    omega
  have joined := length_join_le (block.lines.map NumberedLine.text)
  have among : (block.lines.map NumberedLine.text).Sublist (Text.lines text) := by
    have listed := (sublist_of_mem_gather member).map NumberedLine.text
    rwa [map_text_numberFrom] at listed
  have fewer := (among.map fun piece => piece.length + 1).sum_le_sum fun _ _ => Nat.zero_le _
  have bound := sum_linesFrom_le [] text
  simp only [List.length_nil] at bound
  unfold Text.lines at fewer
  omega

end Gamebook.Source.Block
