import Mathlib.Data.List.Chain
import Gamebook.Markup.Blocks
import Gamebook.Proofs.Text.Joining

/-!
The lines of a page of markup: what each line is, and that lists are opened and closed around the
items and nowhere else.
-/

namespace Gamebook.Markup

open Gamebook.Text

variable {line : Text} {row : Row} {rows : List Row} {inList : Bool}

inductive LineKind where
  | paragraph
  | heading
  | rule
  | item
  | opening
  | closing
deriving DecidableEq

namespace LineKind

/-- The line is one whole element of this kind, or one of the two tags of a list. -/
def Fits : LineKind → Text → Prop
  | .paragraph, line => ∃ inner : Text, line = "<p>" ++ inner ++ "</p>"
  | .heading, line => ∃ inner : Text, line = "<h4>" ++ inner ++ "</h4>"
  | .rule, line => line = "<hr />"
  | .item, line => ∃ inner : Text, line = "<li>" ++ inner ++ "</li>"
  | .opening, line => line = "<ul>"
  | .closing, line => line = "</ul>"

/-- The first three characters tell the kinds apart. -/
def start : LineKind → Text
  | .paragraph => "<p>"
  | .heading => "<h4"
  | .rule => "<hr"
  | .item => "<li"
  | .opening => "<ul"
  | .closing => "</u"

theorem take_of_fits {kind : LineKind} (fits : kind.Fits line) : line.take 3 = kind.start := by
  cases kind with
  | paragraph => obtain ⟨inner, rfl⟩ := fits; rfl
  | heading => obtain ⟨inner, rfl⟩ := fits; rfl
  | rule => cases fits; rfl
  | item => obtain ⟨inner, rfl⟩ := fits; rfl
  | opening => cases fits; rfl
  | closing => cases fits; rfl

theorem start_inj : ∀ left right : LineKind, left.start = right.start → left = right := by
  intro left right
  cases left <;> cases right <;> decide

theorem Fits.unique {left right : LineKind} (fits : left.Fits line) (other : right.Fits line) :
    left = right :=
  start_inj left right ((take_of_fits fits).symm.trans (take_of_fits other))

theorem Fits.existsUnique {kind : LineKind} (fits : kind.Fits line) :
    ∃! kind : LineKind, kind.Fits line :=
  ⟨kind, fits, fun _ other => Fits.unique other fits⟩

theorem Fits.ne_nil {kind : LineKind} (fits : kind.Fits line) : line ≠ [] := by
  rintro rfl
  have short := take_of_fits fits
  cases kind <;> cases short

/-- What stands in a list or between lists, but for the items. -/
def isBlock : LineKind → Bool
  | .paragraph => true
  | .heading => true
  | .rule => true
  | _ => false

end LineKind

/-- The line opens or closes a list. -/
def isListMark (line : Text) : Bool := line = "<ul>" || line = "</ul>"

/-- Lines with lists around the items: each line is of one kind, the lists are opened and closed in
turn and have items in them and something between them, and a line is an item if and only if more
lists are opened than closed in front of it. -/
structure IsLaidOut (lines : List Text) : Prop where
  kinds : ∀ line ∈ lines, ∃! kind : LineKind, kind.Fits line
  alternate : ∃ count, lines.filter isListMark =
    (List.replicate count [("<ul>" : Text), "</ul>"]).flatten
  apart : lines.IsChain fun left right => ¬(isListMark left = true ∧ isListMark right = true)
  items : ∀ before line behind, lines = before ++ line :: behind → isListMark line = false →
    (LineKind.item.Fits line ↔ before.count ("<ul>" : Text) = before.count ("</ul>" : Text) + 1)

/-- The row is written as what it is. -/
inductive Row.IsDrawn : Row → Prop
  | item {html : Text} (fits : LineKind.item.Fits html) : IsDrawn (.item html)
  | other {html : Text} {kind : LineKind} (block : kind.isBlock = true) (fits : kind.Fits html) :
      IsDrawn (.other html)

namespace Row

theorem isListMark_of_fits {kind : LineKind} (fits : kind.Fits line) :
    isListMark line = true ↔ kind = .opening ∨ kind = .closing := by
  simp only [isListMark, Bool.or_eq_true, decide_eq_true_eq]
  constructor
  · rintro (rfl | rfl)
    · exact .inl (fits.unique (show LineKind.opening.Fits _ from rfl))
    · exact .inr (fits.unique (show LineKind.closing.Fits _ from rfl))
  · rintro (rfl | rfl)
    · exact .inl fits
    · exact .inr fits

theorem IsDrawn.exists_fits (drawn : row.IsDrawn) : ∃ kind : LineKind, kind.Fits row.html := by
  cases drawn with
  | item fits => exact ⟨_, fits⟩
  | other block fits => exact ⟨_, fits⟩

theorem IsDrawn.not_mark (drawn : row.IsDrawn) : isListMark row.html = false := by
  rw [Bool.eq_false_iff]
  intro mark
  cases drawn with
  | item fits => exact absurd ((isListMark_of_fits fits).mp mark) (by decide)
  | other block fits =>
      rcases (isListMark_of_fits fits).mp mark with rfl | rfl <;> cases block

theorem IsDrawn.not_item {html : Text} (drawn : (Row.other html).IsDrawn) :
    ¬LineKind.item.Fits html := by
  intro item
  cases drawn with
  | other block fits =>
      cases fits.unique item
      cases block

def isItem : Row → Bool
  | .item _ => true
  | .other _ => false

/-- The tag in front of the row: a list is opened at its first item and closed at the row behind. -/
def marks : Bool → Row → List Text
  | false, .item _ => ["<ul>"]
  | true, .other _ => ["</ul>"]
  | _, _ => []

theorem layOut_cons (inList : Bool) (row : Row) (rows : List Row) :
    layOut inList (row :: rows) = marks inList row ++ row.html :: layOut row.isItem rows := by
  cases row <;> cases inList <;> rfl

theorem filter_marks (inList : Bool) (row : Row) :
    (marks inList row).filter isListMark = marks inList row := by
  cases row <;> cases inList <;> rfl

theorem filter_not_marks (inList : Bool) (row : Row) :
    ((marks inList row).filter fun line => !isListMark line) = [] := by
  cases row <;> cases inList <;> rfl

/-- Without the tags of lists the rows are left as they are. -/
theorem filter_layOut (inList : Bool) (drawn : ∀ row ∈ rows, row.IsDrawn) :
    ((layOut inList rows).filter fun line => !isListMark line) = rows.map html := by
  induction rows generalizing inList with
  | nil => cases inList <;> rfl
  | cons row rows ih =>
      obtain ⟨first, others⟩ := List.forall_mem_cons.mp drawn
      rw [layOut_cons, List.filter_append, filter_not_marks, List.nil_append,
        List.filter_cons_of_pos (by simp [first.not_mark]), ih row.isItem others, List.map_cons]

/-- The tags are those of whole lists, behind the end of the list that stands open before. -/
theorem filter_isListMark_layOut (inList : Bool) (drawn : ∀ row ∈ rows, row.IsDrawn) :
    ∃ count, (layOut inList rows).filter isListMark =
      (if inList then [("</ul>" : Text)] else []) ++
        (List.replicate count [("<ul>" : Text), "</ul>"]).flatten := by
  induction rows generalizing inList with
  | nil => exact ⟨0, by cases inList <;> rfl⟩
  | cons row rows ih =>
      obtain ⟨first, others⟩ := List.forall_mem_cons.mp drawn
      obtain ⟨count, rest⟩ := ih row.isItem others
      rw [layOut_cons, List.filter_append, filter_marks,
        List.filter_cons_of_neg (by simp [first.not_mark]), rest]
      cases row with
      | item html =>
          cases inList with
          | true => exact ⟨count, rfl⟩
          | false => exact ⟨count + 1, by rw [List.replicate_succ]; rfl⟩
      | other html => exact ⟨count, by cases inList <;> rfl⟩

theorem isChain_layOut (inList : Bool) (drawn : ∀ row ∈ rows, row.IsDrawn) :
    (layOut inList rows).IsChain
      fun left right => ¬(isListMark left = true ∧ isListMark right = true) := by
  induction rows generalizing inList with
  | nil => cases inList <;> simp [layOut]
  | cons row rows ih =>
      obtain ⟨first, others⟩ := List.forall_mem_cons.mp drawn
      rw [layOut_cons, List.isChain_append]
      refine ⟨?single, List.isChain_cons.mpr ⟨?behind, ih row.isItem others⟩, ?front⟩
      case single => cases row <;> cases inList <;> simp [marks]
      case behind => exact fun _ _ both => by simp [first.not_mark] at both
      case front =>
        intro tag _ next follows both
        cases follows
        simp [first.not_mark] at both

theorem mem_layOut (drawn : ∀ row ∈ rows, row.IsDrawn) (member : line ∈ layOut inList rows) :
    isListMark line = true ∨ line ∈ rows.map html := by
  by_cases mark : isListMark line = true
  · exact .inl mark
  · rw [← filter_layOut inList drawn]
    exact .inr (List.mem_filter.mpr ⟨member, by simpa using mark⟩)

theorem exists_fits_of_mem_layOut (drawn : ∀ row ∈ rows, row.IsDrawn)
    (member : line ∈ layOut inList rows) : ∃ kind : LineKind, kind.Fits line := by
  rcases mem_layOut drawn member with mark | listed
  · simp only [isListMark, Bool.or_eq_true, decide_eq_true_eq] at mark
    rcases mark with rfl | rfl
    · exact ⟨.opening, rfl⟩
    · exact ⟨.closing, rfl⟩
  · obtain ⟨row, inside, rfl⟩ := List.mem_map.mp listed
    exact (drawn row inside).exists_fits

/-- A line is an item if and only if one list more is opened than closed in front of it, `opened` of
them before the first line. -/
def Encloses (opened : Nat) (lines : List Text) : Prop :=
  ∀ before line behind, lines = before ++ line :: behind → isListMark line = false →
    (LineKind.item.Fits line ↔
      opened + before.count ("<ul>" : Text) = before.count ("</ul>" : Text) + 1)

section Encloses

variable {lines : List Text} {first : Text} {opened next : Nat}

theorem encloses_cons (here : isListMark first = false → (LineKind.item.Fits first ↔ opened = 1))
    (counted : opened + [first].count ("<ul>" : Text) = next + [first].count ("</ul>" : Text))
    (rest : Encloses next lines) : Encloses opened (first :: lines) := by
  intro before line behind cut plain
  rcases List.cons_eq_append_iff.mp cut with ⟨rfl, same⟩ | ⟨between, rfl, later⟩
  · obtain ⟨rfl, rfl⟩ := List.cons.inj same
    simpa using here plain
  · rw [rest between line behind later plain, ← List.singleton_append, List.count_append,
      List.count_append]
    omega

theorem encloses_opening (rest : Encloses 1 lines) : Encloses 0 ("<ul>" :: lines) :=
  encloses_cons (fun plain => absurd plain (by decide)) (by decide) rest

theorem encloses_closing (rest : Encloses 0 lines) : Encloses 1 ("</ul>" :: lines) :=
  encloses_cons (fun plain => absurd plain (by decide)) (by decide) rest

theorem encloses_line (plain : isListMark first = false)
    (here : LineKind.item.Fits first ↔ opened = 1) (rest : Encloses opened lines) :
    Encloses opened (first :: lines) := by
  refine encloses_cons (fun _ => here) ?_ rest
  simp only [isListMark, Bool.or_eq_false_iff, decide_eq_false_iff_not] at plain
  rw [List.count_eq_zero.mpr (by simpa using Ne.symm plain.1),
    List.count_eq_zero.mpr (by simpa using Ne.symm plain.2)]

end Encloses

theorem encloses_layOut (inList : Bool) (drawn : ∀ row ∈ rows, row.IsDrawn) :
    Encloses inList.toNat (layOut inList rows) := by
  induction rows generalizing inList with
  | nil =>
      have none : Encloses 0 [] := fun before line behind cut => by simp at cut
      cases inList with
      | true => exact encloses_closing none
      | false => exact none
  | cons row rows ih =>
      obtain ⟨first, others⟩ := List.forall_mem_cons.mp drawn
      cases row with
      | item html =>
          have fits : LineKind.item.Fits html := by cases first; assumption
          have inside := encloses_line first.not_mark (iff_of_true fits rfl) (ih true others)
          cases inList with
          | true => exact inside
          | false => exact encloses_opening inside
      | other html =>
          have outside := encloses_line first.not_mark (iff_of_false first.not_item (by decide))
            (ih false others)
          cases inList with
          | true => exact encloses_closing outside
          | false => exact outside

theorem isLaidOut_layOut (drawn : ∀ row ∈ rows, row.IsDrawn) : IsLaidOut (layOut false rows) where
  kinds line member := by
    obtain ⟨kind, fits⟩ := exists_fits_of_mem_layOut drawn member
    exact fits.existsUnique
  alternate := filter_isListMark_layOut false drawn
  apart := isChain_layOut false drawn
  items before line behind cut plain := by
    simpa using encloses_layOut false drawn before line behind cut plain

end Row

end Gamebook.Markup
