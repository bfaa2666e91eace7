import Gamebook.Proofs.Source.Blocks

/-!
The lines of scenes and actions as pieces of a source that can be moved. What a piece is read as does
not depend on what stands in front of it, but for the numbers of its lines.
-/

namespace Gamebook.Source

open Gamebook.Text

/-- The line of a heading of level two or three with the lines up to the next heading. -/
structure Section where
  head : Text
  body : List Text
  heading : Heading
  headed : Heading.ofLine? head = some heading
  part : heading.level = 2 ∨ heading.level = 3
  plain : ∀ line ∈ body, Heading.ofLine? line = none

namespace Section

variable {number : Nat} {front : List NumberedLine}

def lines (piece : Section) : List Text := piece.head :: piece.body

/-- The block that the section is read as if its heading stands on this line. -/
def block (number : Nat) (piece : Section) : Block :=
  ⟨piece.heading, number, Block.numberFrom (number + 1) piece.body⟩

def blocks (number : Nat) : List Section → List Block
  | [] => []
  | piece :: pieces => piece.block number :: blocks (number + piece.lines.length) pieces

theorem numberFrom_append (number : Nat) (left right : List Text) :
    Block.numberFrom number (left ++ right) =
      Block.numberFrom number left ++ Block.numberFrom (number + left.length) right := by
  induction left generalizing number with
  | nil => rfl
  | cons line left ih =>
      simp only [List.cons_append, Block.numberFrom, ih, List.length_cons]
      congr 3
      omega

theorem gather_append_of_plain (plain : ∀ line ∈ front, Heading.ofLine? line.text = none)
    (rest : List NumberedLine) :
    Block.gather (front ++ rest) = (front ++ (Block.gather rest).1, (Block.gather rest).2) := by
  induction front with
  | nil => rfl
  | cons line front ih =>
      rw [List.cons_append, Block.gather_cons, plain line List.mem_cons_self,
        ih fun other member => plain other (.tail _ member)]
      rfl

/-- Where a heading follows, the blocks in front of it are read by themselves. -/
theorem gather_append_of_headed {rest : List NumberedLine} (headed : (Block.gather rest).1 = [])
    (front : List NumberedLine) :
    Block.gather (front ++ rest) =
      ((Block.gather front).1, (Block.gather front).2 ++ (Block.gather rest).2) := by
  induction front with
  | nil => exact Prod.ext headed rfl
  | cons line front ih =>
      rw [List.cons_append, Block.gather_cons, Block.gather_cons, ih]
      split <;> rfl

theorem gather_sections (number : Nat) (pieces : List Section) :
    Block.gather (Block.numberFrom number (pieces.flatMap lines)) = ([], blocks number pieces) := by
  induction pieces generalizing number with
  | nil => rfl
  | cons piece pieces ih =>
      have plain : ∀ line ∈ Block.numberFrom (number + 1) piece.body, Heading.ofLine? line.text = none :=
        fun line member => piece.plain _ (Block.mem_numberFrom member).1
      rw [List.flatMap_cons, numberFrom_append, lines, Block.numberFrom, List.cons_append,
        Block.gather_cons, piece.headed, gather_append_of_plain plain, ih, List.append_nil]
      rfl

theorem mem_blocks {block : Block} {pieces : List Section} (member : block ∈ blocks number pieces) :
    number ≤ block.line ∧ (block.level = 2 ∨ block.level = 3) := by
  induction pieces generalizing number with
  | nil => contradiction
  | cons piece pieces ih =>
      rcases List.mem_cons.mp member with rfl | later
      · exact ⟨Nat.le_refl _, piece.part⟩
      · obtain ⟨behind, level⟩ := ih later
        exact ⟨Nat.le_of_add_right_le behind, level⟩

/-- A source that ends in sections is read in front of them as if they were not there. -/
theorem ofText_of_sections {text : Text} {front : List Text} {pieces : List Section}
    (cut : Text.lines text = front ++ pieces.flatMap lines) :
    Block.ofText text = (Block.gather (Block.numberFrom 1 front)).2 ++ blocks (1 + front.length) pieces := by
  have headed := gather_sections (1 + front.length) pieces
  unfold Block.ofText
  rw [cut, numberFrom_append, gather_append_of_headed (congrArg Prod.fst headed), headed]

end Section

namespace Block

/-- What a block says, wherever it stands. -/
def unplaced (block : Block) : Block :=
  ⟨block.heading, 0, block.lines.map fun line => ⟨0, line.text⟩⟩

theorem map_unplaced_numberFrom (number : Nat) (texts : List Text) :
    ((numberFrom number texts).map fun line => (⟨0, line.text⟩ : NumberedLine)) =
      texts.map fun text => ⟨0, text⟩ := by
  induction texts generalizing number with
  | nil => rfl
  | cons text texts ih => rw [numberFrom, List.map_cons, List.map_cons, ih]

@[simp] theorem body_unplaced (block : Block) : block.unplaced.body = block.body := by
  simp [body, unplaced, Function.comp_def]

end Block

theorem Section.map_unplaced_blocks (number : Nat) (pieces : List Section) :
    (blocks number pieces).map Block.unplaced = pieces.map fun piece => (piece.block 0).unplaced := by
  induction pieces generalizing number with
  | nil => rfl
  | cons piece pieces ih =>
      rw [blocks, List.map_cons, List.map_cons, ih]
      simp [block, Block.unplaced, Block.map_unplaced_numberFrom]

end Gamebook.Source
