import Gamebook.Proofs.Source.Sections
import Gamebook.Proofs.Story.Closed
import Gamebook.Proofs.Story.Renumbering

/-!
Text in front of a story. Whatever it holds, the story behind it is read as if it stood alone, but for
the numbers of its lines.
-/

namespace Gamebook.Story

open Gamebook.Text Gamebook.Source

variable {preamble text : Text} {front blocks : List Block}

theorem storyBlock_append_of_front (others : ∀ block ∈ front, block.level ≠ 1) :
    storyBlock (front ++ blocks) = storyBlock blocks := by
  have none : (front.filter fun block => block.level = 1) = [] := by
    simpa [List.filter_eq_nil_iff] using others
  unfold storyBlock
  rw [List.filter_append, none, List.nil_append]

theorem blocksBehind_append_of_front {heading : Block}
    (early : ∀ block ∈ front, block.line < heading.line) :
    blocksBehind heading (front ++ blocks) = blocksBehind heading blocks := by
  have none : (front.filter fun block => heading.line ≤ block.line) = [] := by
    simpa [List.filter_eq_nil_iff] using early
  unfold blocksBehind
  rw [List.filter_append, none, List.nil_append]

/-- The blocks in front of the heading of a story leave nothing in it. -/
theorem ofBlocks_append_of_front (others : ∀ block ∈ front, block.level ≠ 1)
    (early : ∀ block ∈ front, ∀ other ∈ blocks, block.line < other.line) :
    ofBlocks (front ++ blocks) = ofBlocks blocks := by
  unfold ofBlocks
  rw [storyBlock_append_of_front others]
  cases found : storyBlock blocks with
  | error fault => rfl
  | ok heading =>
      have behind : blocksBehind heading (front ++ blocks) = blocksBehind heading blocks :=
        blocksBehind_append_of_front fun block member =>
          early block member heading (mem_of_storyBlock found)
      unfold blocksBehind at behind
      simp only [bind, Except.bind, behind]

theorem dropWhile_append_of_kept {drop : Char → Bool} {left right : Text}
    (kept : right.dropWhile drop = right) :
    (left ++ right).dropWhile drop = left.dropWhile drop ++ right := by
  rw [List.dropWhile_append]
  split
  · rename_i all
    rw [kept, List.isEmpty_iff.mp all, List.nil_append]
  · rfl

theorem dropWhile_isByteOrderMark_of_break {c : Char} (ends : isBreak c = true) :
    [c].dropWhile isByteOrderMark = [c] := by
  have unmarked : isByteOrderMark c = false := by
    simp only [isByteOrderMark, decide_eq_false_iff_not]
    rintro rfl
    exact absurd ends (by decide)
  simp [unmarked]

/-- A first line that is a heading stands at the beginning of its text, which has no mark there. -/
theorem head?_of_headed (headed : ((lines text).head?.bind Heading.ofLine?).map Heading.level = some 1) :
    text.head? = some '#' := by
  obtain ⟨heading, read, _⟩ := Option.map_eq_some_iff.mp headed
  obtain ⟨line, first, read⟩ := Option.bind_eq_some_iff.mp read
  cases line with
  | nil => simp [Heading.ofLine?] at read
  | cons c line =>
      have sign : c = '#' := by
        by_contra other
        simp [Heading.ofLine?, other] at read
      exact sign ▸ (head?_of_head?_lines first).1

theorem sourceLines_append {c : Char} (last : preamble.getLast? = some c) (ends : isBreak c = true)
    (headed : text.head? = some '#') :
    sourceLines (preamble ++ text) = sourceLines preamble ++ sourceLines text := by
  obtain ⟨front, rfl⟩ := List.getLast?_eq_some_iff.mp last
  obtain ⟨rest, rfl⟩ := List.head?_eq_some_iff.mp headed
  have kept : ('#' :: rest).dropWhile isByteOrderMark = '#' :: rest := rfl
  have broken := dropWhile_isByteOrderMark_of_break ends
  unfold sourceLines
  rw [dropWhile_append_of_kept kept, kept, dropWhile_append_of_kept broken]
  refine linesFrom_append_of_break (fun _ => rfl) (fun d found => ?_) (by simp)
  rw [List.getLast?_append, List.getLast?_singleton, Option.some_or] at found
  exact Option.some.inj found ▸ ends

theorem gather_of_headed {texts : List Text} (number : Nat)
    (headed : (texts.head?.bind Heading.ofLine?).map Heading.level = some 1) :
    (Block.gather (Block.numberFrom number texts)).1 = [] := by
  cases texts with
  | nil => rfl
  | cons first rest =>
      obtain ⟨heading, read, _⟩ := Option.map_eq_some_iff.mp headed
      have found : Heading.ofLine? first = some heading := read
      rw [Block.numberFrom, Block.gather_cons, found]

/-- The blocks of a text are those of its front, then those of its rest with their lines numbered on. -/
theorem blocks_append_of_headed {c : Char} (last : preamble.getLast? = some c) (ends : isBreak c = true)
    (headed : ((lines text).head?.bind Heading.ofLine?).map Heading.level = some 1) :
    Block.ofText ((preamble ++ text).dropWhile isByteOrderMark) =
      Block.ofText (preamble.dropWhile isByteOrderMark) ++
        (Block.ofText (text.dropWhile isByteOrderMark)).map
          (Block.renumber (· + (sourceLines preamble).length)) := by
  have begins := head?_of_headed headed
  have cut := sourceLines_append last ends begins
  have unmarked : text.dropWhile isByteOrderMark = text := by
    obtain ⟨rest, rfl⟩ := List.head?_eq_some_iff.mp begins
    rfl
  have shifted := Block.gather_renumber (· + (sourceLines preamble).length)
    (Block.numberFrom 1 (lines text))
  rw [← Block.numberFrom_renumber, gather_of_headed _ headed] at shifted
  unfold sourceLines at cut shifted ⊢
  unfold Block.ofText
  rw [cut, unmarked, Section.numberFrom_append,
    Section.gather_append_of_headed (congrArg Prod.fst shifted), shifted]

/-- The text in front of a story is passed over: a story behind a text of whole lines, none of them a
heading of level one, is read as by itself, with each line numbered on from that text. -/
theorem ofText_append_of_preamble (ends : ∃ c, preamble.getLast? = some c ∧ isBreak c = true)
    (plain : storyHeadings (sourceLines preamble) = [])
    (headed : ((lines text).head?.bind Heading.ofLine?).map Heading.level = some 1) :
    ofText (preamble ++ text) =
      renumberResult (· + (sourceLines preamble).length) (ofText text) := by
  obtain ⟨c, last, broken⟩ := ends
  have increasing : StrictMono (· + (sourceLines preamble).length) := fun _ _ below => by
    simpa using below
  rw [ofText, blocks_append_of_headed last broken headed, ofBlocks_append_of_front,
    ofBlocks_renumber increasing, ← ofText]
  · rw [storyHeadings_sourceLines, List.map_eq_nil_iff] at plain
    simpa [List.filter_eq_nil_iff] using plain
  · intro early inFront other behind
    obtain ⟨own, inText, rfl⟩ := List.mem_map.mp behind
    have above : early.line ≤ (sourceLines preamble).length := (Block.line_of_mem_ofText inFront).2
    have below := (Block.line_of_mem_ofText inText).1
    change early.line < own.line + (sourceLines preamble).length
    omega

/-- A marked text of three lines with a scene and an action of the same names. -/
def oldHall : Text := "\ufeff## Hall\n[Go](/cellar)\r\n### Key\n".toList

theorem ofText_oldHall_keySource :
    (∃ c, oldHall.getLast? = some c ∧ isBreak c = true) ∧ storyHeadings (sourceLines oldHall) = [] ∧
      ((lines keySource).head?.bind Heading.ofLine?).map Heading.level = some 1 ∧
      ofText (oldHall ++ keySource) = .ok (Checked.renumber (· + 3) ⟨keyStory, [], []⟩) := by
  have ends : ∃ c, oldHall.getLast? = some c ∧ isBreak c = true := ⟨'\n', by decide, by decide⟩
  have plain : storyHeadings (sourceLines oldHall) = [] := by decide +kernel
  have headed : ((lines keySource).head?.bind Heading.ofLine?).map Heading.level = some 1 := by
    decide +kernel
  have count : (sourceLines oldHall).length = 3 := by decide +kernel
  refine ⟨ends, plain, headed, ?_⟩
  rw [ofText_append_of_preamble ends plain headed, ofText_keySource, count]
  rfl

end Gamebook.Story
