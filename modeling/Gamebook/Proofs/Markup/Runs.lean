import Mathlib.Data.List.SplitBy
import Gamebook.Proofs.Markup.Layout
import Gamebook.Proofs.Markup.Lines
import Gamebook.Proofs.Markup.Segments
import Gamebook.Proofs.Text.Items

/-!
A text and the page of markup that it gives: the page has one line for each run of the text's lines, in
their order, with lists around the items.
-/

namespace Gamebook.Markup

open Gamebook.Text Placeholder

variable {line text html : Text} {front rest run : List Text} {rows : List Row}

/-- The line is neither blank nor marked. -/
def Line.isPlain : Line → Bool
  | .plain _ => true
  | _ => false

/-- The lines that are not blank, as many plain ones together as stand side by side, and each of the
others by itself. -/
def runs (lines : List Text) : List (List Text) :=
  (lines.splitBy fun left right => (Line.ofText left).isPlain && (Line.ofText right).isPlain).filter
    fun run => run.all fun line => strip line ≠ []

/-- A run of lines, and the line of the page that it becomes. -/
inductive IsShownAs : List Text → Text → Prop
  | heading {line text html : Text} (marked : strip line = "#### " ++ text)
      (rendered : Inline.render text = .ok html) : IsShownAs [line] ("<h4>" ++ html ++ "</h4>")
  | rule {line : Text} (marked : strip line ∈ Line.rules) : IsShownAs [line] "<hr />"
  | item {line text html : Text} (other : strip line ∉ Line.rules)
      (marked : strip line = "- " ++ text ∨ strip line = "* " ++ text)
      (rendered : Inline.render text = .ok html) : IsShownAs [line] ("<li>" ++ html ++ "</li>")
  | paragraph {run parts : List Text} (plain : ∀ line ∈ run, (Line.ofText line).isPlain = true)
      (rendered : List.Forall₂ (fun line html => Inline.render (strip line) = .ok html) run parts) :
      IsShownAs run ("<p>" ++ join " " parts ++ "</p>")

/-- The lines of a page; an empty page has none. -/
def pageLines (html : Text) : List Text := if html = [] then [] else splitOn '\n' html

/-- The page shows the lines of the text, none of them lost, repeated or out of its place. -/
structure IsPageOf (text html : Text) : Prop where
  laidOut : IsLaidOut (pageLines html)
  shown : List.Forall₂ IsShownAs (runs (lines text))
    ((pageLines html).filter fun line => !isListMark line)
  kept : (runs (lines text)).flatten = (lines text).filter fun line => strip line ≠ []

namespace Line

theorem ofText_of_isPlain (plain : (ofText line).isPlain = true) :
    ofText line = .plain (strip line) ∧ strip line ≠ [] := by
  have marks := marks_ofText line
  cases kind : ofText line with
  | plain whole =>
      rw [kind] at marks
      exact ⟨by rw [marks.1], marks.2⟩
  | blank | heading | rule | item => simp [kind, isPlain] at plain

end Line

section Runs

theorem plain_of_isChain (first : (Line.ofText line).isPlain = true)
    (chain : (line :: rest).IsChain fun left right =>
      ((Line.ofText left).isPlain && (Line.ofText right).isPlain) = true) :
    ∀ other ∈ line :: rest, (Line.ofText other).isPlain = true := by
  induction rest generalizing line with
  | nil => simpa using first
  | cons second rest ih =>
      obtain ⟨linked, others⟩ := List.isChain_cons_cons.mp chain
      simp only [Bool.and_eq_true] at linked
      exact List.forall_mem_cons.mpr ⟨first, ih linked.2 others⟩

/-- What is together is plain. -/
theorem run_cases (lines : List Text) (member : run ∈ lines.splitBy fun left right =>
      (Line.ofText left).isPlain && (Line.ofText right).isPlain) :
    (∃ line, run = [line] ∧ (Line.ofText line).isPlain = false) ∨
      run ≠ [] ∧ ∀ line ∈ run, (Line.ofText line).isPlain = true := by
  have nonempty := List.ne_nil_of_mem_splitBy member
  have chain := List.isChain_of_mem_splitBy member
  cases run with
  | nil => contradiction
  | cons line rest =>
      by_cases first : (Line.ofText line).isPlain = true
      · exact .inr ⟨nonempty, plain_of_isChain first chain⟩
      · cases rest with
        | nil => exact .inl ⟨line, rfl, by simpa using first⟩
        | cons second rest =>
            have linked := (List.isChain_cons_cons.mp chain).1
            simp only [Bool.and_eq_true] at linked
            exact absurd linked.1 first

theorem all_of_plain (plain : ∀ line ∈ run, (Line.ofText line).isPlain = true) :
    (run.all fun line => strip line ≠ []) = true := by
  simpa using fun line inside => (Line.ofText_of_isPlain (plain line inside)).2

theorem flatten_filter_all {α : Type} {keep : α → Bool} {groups : List (List α)}
    (pure : ∀ group ∈ groups, group.all keep = true ∨ group.filter keep = []) :
    (groups.filter fun group => group.all keep).flatten = groups.flatten.filter keep := by
  induction groups with
  | nil => rfl
  | cons group groups ih =>
      obtain ⟨first, others⟩ := List.forall_mem_cons.mp pure
      rw [List.flatten_cons, List.filter_append, ← ih others, List.filter_cons]
      split
      · rename_i all
        rw [List.flatten_cons, List.filter_eq_self.mpr (List.all_eq_true.mp all)]
      · rename_i mixed
        rw [first.resolve_left mixed, List.nil_append]

theorem flatten_runs (lines : List Text) :
    (runs lines).flatten = lines.filter fun line => strip line ≠ [] := by
  unfold runs
  rw [flatten_filter_all, List.flatten_splitBy]
  intro run member
  rcases run_cases lines member with ⟨line, rfl, _⟩ | ⟨_, plain⟩
  · by_cases blank : strip line = []
    · exact .inr (by simp [blank])
    · exact .inl (by simp [blank])
  · exact .inl (all_of_plain plain)

theorem runs_single (line : Text) : runs [line] = if strip line = [] then [] else [[line]] := by
  by_cases blank : strip line = [] <;> simp [runs, List.splitBy, List.splitBy.loop, blank]

theorem runs_of_plain (nonempty : run ≠ []) (plain : ∀ line ∈ run, (Line.ofText line).isPlain = true) :
    runs run = [run] := by
  have chain : run.IsChain fun left right =>
      ((Line.ofText left).isPlain && (Line.ofText right).isPlain) = true := by
    apply List.Pairwise.isChain
    exact List.pairwise_iff_forall_sublist.mpr fun {left right} both => by
      simp [plain left (both.subset (by simp)), plain right (both.subset (by simp))]
  rw [runs, List.splitBy_of_isChain nonempty chain, List.filter_singleton, all_of_plain plain]
  rfl

theorem runs_append_cons (other : (Line.ofText line).isPlain = false) (front rest : List Text) :
    runs (front ++ line :: rest) = runs front ++ (runs [line] ++ runs rest) := by
  unfold runs
  rw [List.splitBy_append_cons _ (by simp [other]), ← List.singleton_append,
    List.splitBy_append (by simp [other]), List.filter_append, List.filter_append]

end Runs

/-- The block that a run of lines is read as. -/
def Block.ofRun (run : List Text) : Block :=
  match run.map Line.ofText with
  | [.heading text] => .heading text
  | [.rule] => .rule
  | [.item text] => .item text
  | _ => .paragraph (run.map strip)

namespace Block

theorem ofRun_of_plain (nonempty : run ≠ []) (plain : ∀ line ∈ run, (Line.ofText line).isPlain = true) :
    ofRun run = .paragraph (run.map strip) := by
  cases run with
  | nil => contradiction
  | cons line rest =>
      have first := (Line.ofText_of_isPlain (plain line List.mem_cons_self)).1
      simp [ofRun, first]

theorem paragraph?_eq (plain : ∀ line ∈ front, (Line.ofText line).isPlain = true) :
    paragraph? (front.map strip) = (runs front).map ofRun := by
  by_cases empty : front = []
  · rw [empty]
    rfl
  · rw [runs_of_plain empty plain, List.map_singleton, ofRun_of_plain empty plain]
    cases front with
    | nil => contradiction
    | cons line rest => rfl

/-- The plain lines that are gathered are the beginning of a run. -/
theorem ofLines_eq (plain : ∀ line ∈ front, (Line.ofText line).isPlain = true) (rest : List Text) :
    ofLines (front.map strip) (rest.map Line.ofText) = (runs (front ++ rest)).map ofRun := by
  induction rest generalizing front with
  | nil => rw [List.append_nil, List.map_nil, ofLines, paragraph?_eq plain]
  | cons line rest ih =>
      by_cases here : (Line.ofText line).isPlain = true
      · have longer : ∀ other ∈ front ++ [line], (Line.ofText other).isPlain = true := by
          simpa [or_imp, forall_and] using ⟨plain, here⟩
        have others := ih longer
        rw [List.map_append, List.append_assoc] at others
        rw [List.map_cons, (Line.ofText_of_isPlain here).1, ofLines]
        exact others
      · rw [Bool.not_eq_true] at here
        have others : ofLines [] (rest.map Line.ofText) = (runs rest).map ofRun :=
          @ih [] (List.forall_mem_nil _)
        have marks := Line.marks_ofText line
        rw [runs_append_cons here, List.map_append, List.map_append, ← paragraph?_eq plain, ← others,
          runs_single, List.map_cons]
        cases kind : Line.ofText line with
        | plain whole => simp [kind, Line.isPlain] at here
        | blank =>
            rw [kind] at marks
            simp [ofLines, show strip line = [] from marks]
        | heading title =>
            rw [kind] at marks
            have nonempty : strip line ≠ [] := by simp [show strip line = "#### " ++ title from marks]
            simp [ofLines, nonempty, ofRun, kind]
        | rule =>
            rw [kind] at marks
            have nonempty : strip line ≠ [] := by
              rintro empty
              rw [Line.Marks, empty] at marks
              exact absurd marks (by decide)
            simp [ofLines, nonempty, ofRun, kind]
        | item entry =>
            rw [kind] at marks
            have nonempty : strip line ≠ [] := by
              rcases marks.2 with mark | mark <;> simp [mark]
            simp [ofLines, nonempty, ofRun, kind]

theorem ofText_eq (text : Text) : Block.ofText text = (runs (lines text)).map ofRun :=
  @ofLines_eq [] (List.forall_mem_nil _) (lines text)

end Block

section Rendering

variable {parts : List Text}

theorem unbroken_join (unbroken : ∀ part ∈ parts, '\n' ∉ part) : '\n' ∉ join " " parts := by
  intro broken
  rcases mem_intercalate broken with blank | ⟨part, inside, found⟩
  · exact absurd blank (by decide)
  · exact unbroken part inside found

theorem join_ne_nil (separator : Text) (nonempty : parts ≠ []) (each : ∀ part ∈ parts, part ≠ []) :
    join separator parts ≠ [] := by
  unfold join
  cases parts with
  | nil => contradiction
  | cons first rest =>
      have filled := each first List.mem_cons_self
      cases rest with
      | nil => simpa using filled
      | cons second rest => simp [List.intercalate_cons_cons, filled]

theorem clean_of_mem_texts (clean : imageMark ∉ line ∧ '\n' ∉ line)
    (member : text ∈ (Line.ofText line).texts) : imageMark ∉ text ∧ '\n' ∉ text := by
  have inside := (sublist_of_mem_texts member).subset
  exact ⟨fun marked => clean.1 (inside marked), fun broken => clean.2 (inside broken)⟩

/-- The row of a run is one line, written as what it is. -/
def Row.Shows (row : Row) (run : List Text) : Prop :=
  row.IsDrawn ∧ '\n' ∉ row.html ∧ IsShownAs run row.html

/-- A line that is neither blank nor plain is rendered as one row. -/
theorem shows_of_marked (other : (Line.ofText line).isPlain = false) (nonblank : strip line ≠ [])
    (clean : imageMark ∉ line ∧ '\n' ∉ line)
    (rendered : Block.render Inline.render (Block.ofRun [line]) = .ok rows) :
    ∃ row : Row, rows = [row] ∧ row.Shows [line] := by
  have marks := Line.marks_ofText line
  have inline : ∀ text ∈ (Line.ofText line).texts, ∀ html, Inline.render text = .ok html →
      '\n' ∉ html := by
    intro text member html done
    obtain ⟨unmarked, unbroken⟩ := clean_of_mem_texts clean member
    exact Inline.unbroken_of_render unmarked unbroken done
  cases kind : Line.ofText line with
  | plain whole => simp [kind, Line.isPlain] at other
  | blank =>
      rw [kind] at marks
      exact absurd marks nonblank
  | heading title =>
      rw [kind] at marks inline
      simp only [Block.ofRun, List.map_singleton, kind] at rendered
      obtain ⟨html, done, same⟩ := bind_eq_ok.mp rendered
      cases same
      have unbroken := inline title (List.mem_singleton_self title) html done
      exact ⟨_, rfl, .other (show LineKind.heading.isBlock = true from rfl) ⟨html, rfl⟩,
        by simp [Row.html, unbroken], .heading marks done⟩
  | rule =>
      rw [kind] at marks
      simp only [Block.ofRun, List.map_singleton, kind] at rendered
      cases rendered
      exact ⟨_, rfl, .other (show LineKind.rule.isBlock = true from rfl) rfl, by decide, .rule marks⟩
  | item entry =>
      rw [kind] at marks inline
      simp only [Block.ofRun, List.map_singleton, kind] at rendered
      obtain ⟨html, done, same⟩ := bind_eq_ok.mp rendered
      cases same
      have unbroken := inline entry (List.mem_singleton_self entry) html done
      exact ⟨_, rfl, .item ⟨html, rfl⟩, by simp [Row.html, unbroken], .item marks.1 marks.2 done⟩

/-- Each plain line leaves something in its paragraph. -/
theorem shows_of_plain (nonempty : run ≠ []) (plain : ∀ line ∈ run, (Line.ofText line).isPlain = true)
    (clean : ∀ line ∈ run, imageMark ∉ line ∧ '\n' ∉ line)
    (rendered : Block.render Inline.render (Block.ofRun run) = .ok rows) :
    ∃ row : Row, rows = [row] ∧ row.Shows run := by
  rw [Block.ofRun_of_plain nonempty plain] at rendered
  obtain ⟨parts, all, same⟩ := bind_eq_ok.mp rendered
  have paired := List.forall₂_map_left_iff.mp (forall₂_of_mapM_ok all)
  have each : ∀ part ∈ parts, part ≠ [] ∧ '\n' ∉ part := by
    intro part member
    obtain ⟨line, inside, done⟩ := exists_mem_of_forall₂ paired member
    obtain ⟨kind, nonblank⟩ := Line.ofText_of_isPlain (plain line inside)
    have rendered : strip line ∈ (Line.ofText line).texts := by
      rw [kind]
      exact List.mem_singleton_self _
    obtain ⟨unmarked, unbroken⟩ := clean_of_mem_texts (clean line inside) rendered
    exact ⟨Inline.render_ne_nil unmarked nonblank done,
      Inline.unbroken_of_render unmarked unbroken done⟩
  have whole : parts.filter (· ≠ []) = parts := by
    simpa [List.filter_eq_self] using fun part member => (each part member).1
  have some : parts ≠ [] := by
    rintro rfl
    exact nonempty (List.forall₂_nil_right_iff.mp paired)
  have filled := join_ne_nil " " some fun part member => (each part member).1
  have unbroken : '\n' ∉ join [' '] parts := unbroken_join fun part member => (each part member).2
  simp only [whole, if_neg filled] at same
  cases same
  exact ⟨_, rfl, .other (show LineKind.paragraph.isBlock = true from rfl) ⟨_, rfl⟩,
    by simp [Row.html, unbroken], .paragraph plain paired⟩

theorem clean_of_mem_runs (unmarked : imageMark ∉ text) (member : run ∈ runs (lines text)) :
    ∀ line ∈ run, imageMark ∉ line ∧ '\n' ∉ line := by
  intro line inside
  have listed : line ∈ lines text := by
    rw [← List.flatten_splitBy _ (lines text)]
    exact List.mem_flatten.mpr ⟨run, List.mem_of_mem_filter member, inside⟩
  refine ⟨fun marked => unmarked (mem_of_mem_lines listed marked).1, fun broken => ?_⟩
  exact absurd (mem_of_mem_lines listed broken).2 (by decide)

/-- Each run is rendered as one row. -/
theorem shows_of_mem_runs (unmarked : imageMark ∉ text) (member : run ∈ runs (lines text))
    (rendered : Block.render Inline.render (Block.ofRun run) = .ok rows) :
    ∃ row : Row, rows = [row] ∧ row.Shows run := by
  have clean := clean_of_mem_runs unmarked member
  obtain ⟨together, nonblank⟩ := List.mem_filter.mp member
  rcases run_cases _ together with ⟨line, rfl, other⟩ | ⟨nonempty, plain⟩
  · exact shows_of_marked other (by simpa using nonblank) (clean line List.mem_cons_self) rendered
  · exact shows_of_plain nonempty plain clean rendered

/-- The rows of a page are those of the runs, one for each. -/
theorem shows_of_mapM {lists : List (List Row)} (unmarked : imageMark ∉ text)
    (rendered : (Block.ofText text).mapM (Block.render Inline.render) = .ok lists) :
    List.Forall₂ (fun run row => Row.Shows row run) (runs (lines text)) lists.flatten := by
  rw [Block.ofText_eq] at rendered
  have paired := List.forall₂_map_left_iff.mp (forall₂_of_mapM_ok rendered)
  have each : ∀ run ∈ runs (lines text), ∀ rows,
      Block.render Inline.render (Block.ofRun run) = .ok rows →
        ∃ row : Row, rows = [row] ∧ row.Shows run :=
    fun run member rows => shows_of_mem_runs unmarked member
  clear rendered
  generalize runs (lines text) = groups at paired each
  induction paired with
  | nil => exact .nil
  | @cons run rows groups lists first _ ih =>
      obtain ⟨row, rfl, shows⟩ := each run List.mem_cons_self rows first
      exact .cons shows (ih fun other member => each other (.tail _ member))

end Rendering

namespace Blocks

theorem pageLines_join {lines : List Text} (filled : ∀ line ∈ lines, line ≠ [])
    (unbroken : ∀ line ∈ lines, '\n' ∉ line) : pageLines (join ['\n'] lines) = lines := by
  unfold pageLines
  by_cases empty : lines = []
  · rw [empty]
    rfl
  · rw [if_neg (join_ne_nil _ empty filled), splitOn_join empty unbroken]

theorem exists_ok_of_texts {block : Block}
    (each : ∀ line ∈ block.texts, ∃ html, Inline.render line = .ok html) :
    ∃ rows, Block.render Inline.render block = .ok rows := by
  cases block with
  | heading title =>
      obtain ⟨html, done⟩ := each title (List.mem_singleton_self title)
      exact ⟨_, bind_eq_ok.mpr ⟨html, done, rfl⟩⟩
  | rule => exact ⟨_, rfl⟩
  | item entry =>
      obtain ⟨html, done⟩ := each entry (List.mem_singleton_self entry)
      exact ⟨_, bind_eq_ok.mpr ⟨html, done, rfl⟩⟩
  | paragraph lines =>
      obtain ⟨parts, done, _⟩ := exists_mapM_ok fun line inside =>
        (each line inside).imp fun html done => ⟨done, trivial⟩
      exact ⟨_, bind_eq_ok.mpr ⟨parts, done, rfl⟩⟩

theorem exists_ok_of_short (unmarked : imageMark ∉ text) (short : text.length ≤ indexLimit) :
    ∃ html, render text = .ok html := by
  have each : ∀ block ∈ Block.ofText text, ∃ rows,
      Block.render Inline.render block = .ok rows ∧ True := by
    intro block member
    obtain ⟨rows, done⟩ := exists_ok_of_texts fun line (inside : line ∈ block.texts) => by
      have listed : line ∈ lineTexts text := List.mem_flatMap.mpr ⟨block, member, inside⟩
      exact Inline.exists_render (fun marked => unmarked (mem_of_mem_lineTexts listed marked))
        (Nat.le_trans (length_le_of_mem_lineTexts listed) short)
    exact ⟨rows, done, trivial⟩
  obtain ⟨lists, done, _⟩ := exists_mapM_ok each
  exact ⟨_, bind_eq_ok.mpr ⟨lists, done, rfl⟩⟩

/-- A text is rendered as a page of whole lines, which shows its lines in their order. No text has
more characters than there are indices. -/
theorem render_isPageOf (unmarked : imageMark ∉ text) :
    (text.length ≤ indexLimit → ∃ html, render text = .ok html) ∧
      ∀ html, render text = .ok html → IsPageOf text html := by
  refine ⟨exists_ok_of_short unmarked, fun html rendered => ?_⟩
  obtain ⟨lists, all, same⟩ := bind_eq_ok.mp rendered
  cases same
  have shows := shows_of_mapM unmarked all
  have each : ∀ row ∈ lists.flatten, row.IsDrawn ∧ '\n' ∉ row.html := by
    intro row member
    obtain ⟨run, _, drawn, unbroken, _⟩ := exists_mem_of_forall₂ shows member
    exact ⟨drawn, unbroken⟩
  have drawn : ∀ row ∈ lists.flatten, row.IsDrawn := fun row member => (each row member).1
  have cut : pageLines (join ['\n'] (Row.layOut false lists.flatten)) =
      Row.layOut false lists.flatten := by
    refine pageLines_join (fun line member => ?_) fun line member => ?_
    · obtain ⟨kind, fits⟩ := Row.exists_fits_of_mem_layOut drawn member
      exact fits.ne_nil
    · rcases Row.mem_layOut drawn member with mark | listed
      · simp only [isListMark, Bool.or_eq_true, decide_eq_true_eq] at mark
        rcases mark with rfl | rfl <;> decide
      · obtain ⟨row, inside, rfl⟩ := List.mem_map.mp listed
        exact (each row inside).2
  refine ⟨?_, ?_, flatten_runs (lines text)⟩
  · rw [cut]
    exact Row.isLaidOut_layOut drawn
  · rw [cut, Row.filter_layOut false drawn, List.forall₂_map_right_iff]
    exact shows.imp fun run row shows => shows.2.2

/-- Plain lines, one of them like an item of a page, and items with a blank line between them. -/
def notice : Text :=
  "One *way*\n<li>in.\n- Key\n\n* Lamp\n#### Rules\n- - -\nEnd.".toList

def noticeHtml : Text :=
  "<p>One <em>way</em> &lt;li&gt;in.</p>\n<ul>\n<li>Key</li>\n<li>Lamp</li>\n</ul>\n".toList
    ++ "<h4>Rules</h4>\n<hr />\n<p>End.</p>".toList

theorem render_isPageOf_notice :
    imageMark ∉ notice ∧ render notice = .ok noticeHtml ∧ (∃ html, render notice = .ok html) ∧
      IsPageOf notice noticeHtml := by
  have unmarked : imageMark ∉ notice := by decide
  have rendered : render notice = .ok noticeHtml := by decide +kernel
  obtain ⟨exist, shown⟩ := render_isPageOf unmarked
  exact ⟨unmarked, rendered, exist (by decide), shown noticeHtml rendered⟩

end Blocks

end Gamebook.Markup
