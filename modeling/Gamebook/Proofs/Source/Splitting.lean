import Gamebook.Proofs.Source.Sections

/-!
How a text is split into blocks. The blocks hold every line from the first heading on, once and in
order, each under its number; nothing else is a split of the text in this sense.
-/

namespace Gamebook.Source.Block

open Gamebook.Text Heading

variable {texts early late : List Text} {blocks : List Block} {lines : List NumberedLine}
  {block : Block} {line : NumberedLine}

/-- The numbers of a block's lines, that of its heading first. -/
def numbers (block : Block) : List Nat := block.line :: block.lines.map NumberedLine.number

/-- What it is to split these lines into blocks. The lines in front of the first heading are left out,
and the numbers of the blocks' lines are those of all other lines in their order. The heading of a block
is written in its first line; the lines below are kept as they are, and no heading is written in them. -/
structure IsSplitOf (texts : List Text) (blocks : List Block) : Prop where
  numbered : ∃ early late, texts = early ++ late ∧ (∀ line ∈ early, ¬ IsHeaded line) ∧
    (∀ line, late.head? = some line → IsHeaded line) ∧
    blocks.flatMap numbers = List.range' (early.length + 1) late.length
  headed : ∀ block ∈ blocks, ∃ line, lineAt? texts block.line = some line ∧
    block.heading.IsWrittenIn line
  plain : ∀ block ∈ blocks, ∀ line ∈ block.lines,
    lineAt? texts line.number = some line.text ∧ ¬ IsHeaded line.text

theorem numbers_gather (lines : List NumberedLine) :
    (gather lines).1.map NumberedLine.number ++ (gather lines).2.flatMap numbers =
      lines.map NumberedLine.number := by
  induction lines with
  | nil => rfl
  | cons line rest ih =>
      rw [gather_cons, List.map_cons, ← ih]
      split <;> rfl

theorem plain_of_mem_gather (member : block ∈ (gather lines).2) (inside : line ∈ block.lines) :
    ¬ IsHeaded line.text := by
  have listed : line ∈ (gather lines).1 ++ (gather lines).2.flatMap Block.lines :=
    List.mem_append_right _ (List.mem_flatMap.mpr ⟨block, member, inside⟩)
  rw [gather_lines] at listed
  exact ofLine?_eq_none_iff.mp (Option.isNone_iff_eq_none.mp (List.mem_filter.mp listed).2)

theorem gather_numberFrom_append (unheaded : ∀ line ∈ early, ¬ IsHeaded line) :
    (gather (numberFrom 1 (early ++ late))).2 = (gather (numberFrom (early.length + 1) late)).2 := by
  have passed : ∀ line ∈ numberFrom 1 early, ofLine? line.text = none := fun line member =>
    ofLine?_eq_none_iff.mpr (unheaded _ (mem_numberFrom member).1)
  rw [Section.numberFrom_append, Section.gather_append_of_plain passed, Nat.add_comm 1]

/-- Where a heading comes first, no line is left over. -/
theorem numbers_gather_of_headed {first : Nat} (headed : ∀ line, late.head? = some line → IsHeaded line) :
    (gather (numberFrom first late)).2.flatMap numbers = List.range' first late.length := by
  rw [← map_number_numberFrom, ← numbers_gather]
  cases late with
  | nil => rfl
  | cons line late =>
      obtain ⟨heading, written⟩ := headed line rfl
      rw [numberFrom, gather_cons, ofLine?_eq_some_iff.mpr written]
      rfl

/-- The lines in front of the first heading, and the lines from there on. -/
theorem exists_cut (texts : List Text) : ∃ early late, texts = early ++ late ∧
    (∀ line ∈ early, ¬ IsHeaded line) ∧ ∀ line, late.head? = some line → IsHeaded line := by
  induction texts with
  | nil => exact ⟨[], [], rfl, List.forall_mem_nil _, fun _ first => nomatch first⟩
  | cons line texts ih =>
      by_cases headed : IsHeaded line
      · refine ⟨[], line :: texts, rfl, List.forall_mem_nil _, fun other first => ?_⟩
        obtain rfl := Option.some.inj first
        exact headed
      · obtain ⟨early, late, rfl, unheaded, first⟩ := ih
        exact ⟨line :: early, late, rfl, List.forall_mem_cons.mpr ⟨headed, unheaded⟩, first⟩

theorem isSplitOf_gather (texts : List Text) : IsSplitOf texts (gather (numberFrom 1 texts)).2 := by
  refine ⟨?_, fun block member => ?_, fun block member line inside => ?_⟩
  · obtain ⟨early, late, rfl, unheaded, headed⟩ := exists_cut texts
    refine ⟨early, late, rfl, unheaded, headed, ?_⟩
    rw [gather_numberFrom_append unheaded, numbers_gather_of_headed headed]
  · obtain ⟨line, inside, number, read⟩ := heading_of_mem_gather member
    exact ⟨line.text, number ▸ lineAt?_of_mem inside, ofLine?_eq_some_iff.mp read⟩
  · exact ⟨lineAt?_of_mem ((mem_gather member).2 line inside), plain_of_mem_gather member inside⟩

/-- The line that has this number in the text. -/
def place (texts : List Text) (number : Nat) : NumberedLine :=
  ⟨number, (lineAt? texts number).getD []⟩

theorem text_place {text : Text} {number : Nat} (found : lineAt? texts number = some text) :
    (place texts number).text = text := by
  rw [place, found]
  rfl

/-- Lines of a text are known by their numbers. -/
theorem map_place (found : ∀ line ∈ lines, lineAt? texts line.number = some line.text) :
    (lines.map NumberedLine.number).map (place texts) = lines := by
  rw [List.map_map]
  refine (List.map_congr_left fun line member => ?_).trans (List.map_id _)
  exact congrArg (NumberedLine.mk line.number) (text_place (found line member))

theorem map_place_range' (early late : List Text) :
    (List.range' (early.length + 1) late.length).map (place (early ++ late)) =
      numberFrom (early.length + 1) late := by
  rw [← map_number_numberFrom, map_place]
  intro line member
  apply lineAt?_of_mem
  rw [Section.numberFrom_append, Nat.add_comm 1]
  exact List.mem_append_right _ member

/-- The lines of a block and that of its heading, as the text gives it. -/
def writtenLines (texts : List Text) (block : Block) : List NumberedLine :=
  place texts block.line :: block.lines

theorem gather_writtenLines
    (headed : ∀ block ∈ blocks, ofLine? (place texts block.line).text = some block.heading)
    (plain : ∀ block ∈ blocks, ∀ line ∈ block.lines, ofLine? line.text = none) :
    gather (blocks.flatMap (writtenLines texts)) = ([], blocks) := by
  induction blocks with
  | nil => rfl
  | cons block blocks ih =>
      have others := ih (fun other member => headed other (.tail _ member))
        fun other member => plain other (.tail _ member)
      rw [List.flatMap_cons, writtenLines, List.cons_append, gather_cons,
        headed block List.mem_cons_self,
        Section.gather_append_of_plain (plain block List.mem_cons_self), others, List.append_nil]
      rfl

namespace IsSplitOf

theorem ofLine?_place (split : IsSplitOf texts blocks) (member : block ∈ blocks) :
    ofLine? (place texts block.line).text = some block.heading := by
  obtain ⟨line, found, isWritten⟩ := split.headed block member
  rw [text_place found]
  exact ofLine?_eq_some_iff.mpr isWritten

theorem map_numbers (split : IsSplitOf texts blocks) :
    (blocks.flatMap numbers).map (place texts) = blocks.flatMap (writtenLines texts) := by
  rw [List.map_flatMap]
  refine List.flatMap_congr fun block member => ?_
  rw [numbers, List.map_cons, map_place fun line inside => (split.plain block member line inside).1]
  rfl

theorem gather_eq (split : IsSplitOf texts blocks) : (gather (numberFrom 1 texts)).2 = blocks := by
  have gathered := gather_writtenLines (fun block member => split.ofLine?_place member)
    fun block member line inside => ofLine?_eq_none_iff.mpr (split.plain block member line inside).2
  -- the blocks have the numbers of the late lines, and the numbers give back the lines
  rw [← split.map_numbers] at gathered
  obtain ⟨early, late, rfl, unheaded, _, numbered⟩ := split.numbered
  rw [numbered, map_place_range'] at gathered
  rw [gather_numberFrom_append unheaded, gathered]

end IsSplitOf

/-- The blocks of a text are a split of its lines, and the only one. -/
theorem isSplitOf_iff {text : Text} : IsSplitOf (Text.lines text) blocks ↔ blocks = ofText text := by
  constructor
  · intro split
    exact split.gather_eq.symm
  · intro same
    subst same
    exact isSplitOf_gather (Text.lines text)

example : ofText "front\r\n#\t Cave \t\n####\x0b##  ".toList =
    [⟨⟨1, "Cave".toList⟩, 2, [⟨3, "####".toList⟩]⟩, ⟨⟨2, []⟩, 4, []⟩] := by
  decide +kernel

end Gamebook.Source.Block
