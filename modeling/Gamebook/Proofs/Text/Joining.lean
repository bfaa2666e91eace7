import Mathlib.Data.List.TakeWhile
import Gamebook.Text.Basic

/-!
Pieces that are joined or cut. Joined pieces are known by their joined form if none is empty or holds
the separator.
-/

namespace Gamebook.Text

variable {α : Type} {separator c : α} {pieces left right : List (List α)}

theorem mem_intercalate (member : c ∈ List.intercalate [separator] pieces) :
    c = separator ∨ ∃ piece ∈ pieces, c ∈ piece := by
  induction pieces with
  | nil => contradiction
  | cons first rest ih =>
      cases rest with
      | nil => exact .inr ⟨first, by simp, by simpa using member⟩
      | cons second rest =>
          simp only [List.intercalate_cons_cons, List.mem_append, List.mem_singleton] at member
          rcases member with (inFirst | same) | later
          · exact .inr ⟨first, by simp, inFirst⟩
          · exact .inl same
          · rcases ih later with same | ⟨piece, inside, found⟩
            · exact .inl same
            · exact .inr ⟨piece, by simp [inside], found⟩

theorem sublist_of_mem_splitOn [DecidableEq α] {text piece : List α}
    (member : piece ∈ splitOn separator text) : piece.Sublist text := by
  induction text generalizing piece with
  | nil =>
      rw [splitOn, List.mem_singleton] at member
      simp [member]
  | cons c text ih =>
      unfold splitOn at member
      split at member
      · rcases List.mem_cons.mp member with rfl | later
        · exact List.nil_sublist _
        · exact (ih later).cons c
      · split at member
        · rename_i none
          exact absurd none (splitOn_ne_nil separator text)
        · rename_i first pieces cut
          rcases List.mem_cons.mp member with rfl | later
          · exact (ih (cut ▸ List.mem_cons_self)).cons_cons c
          · exact (ih (cut ▸ .tail _ later)).cons c

theorem takeWhile_append_of_head? {keep : α → Bool} {text rest : List α}
    (kept : ∀ c ∈ text, keep c = true)
    (stops : ∀ c, rest.head? = some c → keep c = false) :
    (text ++ rest).takeWhile keep = text ∧ (text ++ rest).dropWhile keep = rest := by
  rw [List.takeWhile_append_of_pos kept, List.dropWhile_append_of_pos kept]
  cases rest with
  | nil => simp
  | cons c rest => simp [stops c rfl]

theorem cutAt_append_cons {mark : Char} {before behind : Text} (absent : mark ∉ before) :
    cutAt mark (before ++ mark :: behind) = some (before, behind) := by
  have kept : ∀ c ∈ before, decide (c ≠ mark) = true := fun c member =>
    decide_eq_true (ne_of_mem_of_not_mem member absent)
  have stops : ∀ c, (mark :: behind).head? = some c → decide (c ≠ mark) = false := fun c first => by
    simpa using first.symm
  obtain ⟨took, left⟩ := takeWhile_append_of_head? kept stops
  rw [cutAt, took, left]

theorem cutAt_eq_none {mark : Char} {text : Text} (absent : mark ∉ text) : cutAt mark text = none := by
  have gone : text.dropWhile (· ≠ mark) = [] := by
    rw [List.dropWhile_eq_nil_iff]
    exact fun c member => decide_eq_true (ne_of_mem_of_not_mem member absent)
  rw [cutAt, gone]

/-- What a list of pieces joined by a separator may hold for the pieces to be found again. -/
def AreApart (separator : α) (pieces : List (List α)) : Prop :=
  ∀ piece ∈ pieces, piece ≠ [] ∧ separator ∉ piece

variable [DecidableEq α]

theorem splitOn_eq (separator : α) (text : List α) :
    splitOn separator text = List.splitOn separator text := by
  induction text with
  | nil => exact (List.splitOn_nil separator).symm
  | cons c text ih =>
      rw [splitOn, List.splitOn_cons_eq_if_modifyHead, ih]
      by_cases same : c = separator
      · simp [same]
      · cases cut : List.splitOn separator text with
        | nil => exact absurd cut (List.splitOn_ne_nil separator text)
        | cons piece pieces => simp [same]

theorem splitOn_intercalate {separator : α} {pieces : List (List α)} (nonempty : pieces ≠ [])
    (apart : ∀ piece ∈ pieces, separator ∉ piece) :
    splitOn separator (List.intercalate [separator] pieces) = pieces :=
  (splitOn_eq separator _).trans (List.splitOn_intercalate separator apart nonempty)

theorem splitOn_join {separator : Char} {pieces : List Text} (nonempty : pieces ≠ [])
    (apart : ∀ piece ∈ pieces, separator ∉ piece) :
    splitOn separator (join [separator] pieces) = pieces :=
  splitOn_intercalate nonempty apart

theorem splitOn_of_not_mem {separator : α} {text : List α} (absent : separator ∉ text) :
    splitOn separator text = [text] := by
  have whole := splitOn_intercalate (List.cons_ne_nil text []) (List.forall_mem_singleton.mpr absent)
  rwa [List.intercalate_singleton] at whole

theorem splitOn_append_cons (separator : α) (before behind : List α) :
    splitOn separator (before ++ separator :: behind) =
      splitOn separator before ++ splitOn separator behind := by
  rw [splitOn_eq, splitOn_eq, splitOn_eq]
  exact List.splitOnP_append_cons before behind (beq_self_eq_true separator)

/-- Leaving out what is no separator does not change where a text is cut. -/
theorem splitOn_filter {keep : α → Bool} (kept : keep separator = true) (text : List α) :
    splitOn separator (text.filter keep) = (splitOn separator text).map (List.filter keep) := by
  induction text with
  | nil => rfl
  | cons c text ih =>
      by_cases same : c = separator
      · subst same
        rw [List.filter_cons_of_pos kept, splitOn, if_pos rfl, splitOn, if_pos rfl, ih]
        rfl
      · obtain ⟨piece, pieces, cut⟩ := List.exists_cons_of_ne_nil (splitOn_ne_nil separator text)
        rw [cut] at ih
        have whole : splitOn separator (c :: text) = (c :: piece) :: pieces := by
          rw [splitOn, if_neg same, cut]
        rw [whole]
        by_cases stays : keep c = true
        · rw [List.filter_cons_of_pos stays, splitOn, if_neg same, ih, List.map_cons, List.map_cons,
            List.filter_cons_of_pos stays]
        · rw [List.filter_cons_of_neg stays, ih, List.map_cons, List.map_cons, List.filter_cons_of_neg stays]

/-- Joined pieces are cut where they are joined, and where they hold the separator themselves. -/
theorem splitOn_join_flatMap {separator : Char} {pieces : List Text} (nonempty : pieces ≠ []) :
    splitOn separator (join [separator] pieces) = pieces.flatMap (splitOn separator) := by
  induction pieces with
  | nil => contradiction
  | cons piece pieces ih =>
      cases pieces with
      | nil => simp [join]
      | cons next rest =>
          rw [join, List.intercalate_cons_cons, List.append_assoc, List.singleton_append,
            splitOn_append_cons, List.flatMap_cons, ← ih (List.cons_ne_nil _ _), join]

theorem join_splitOn (separator : Char) (text : Text) : join [separator] (splitOn separator text) = text := by
  rw [splitOn_eq]
  exact List.intercalate_splitOn separator

theorem AreApart.intercalate_ne_nil (apart : AreApart separator pieces) (nonempty : pieces ≠ []) :
    List.intercalate [separator] pieces ≠ [] := by
  intro joined
  have cut := List.splitOn_intercalate separator (fun piece member => (apart piece member).2) nonempty
  rw [joined] at cut
  exact (apart [] (by simp [← cut])).1 rfl

theorem AreApart.intercalate_injective (leftApart : AreApart separator left)
    (rightApart : AreApart separator right)
    (same : List.intercalate [separator] left = List.intercalate [separator] right) :
    left = right := by
  by_cases leftEmpty : left = []
  · by_cases rightEmpty : right = []
    · rw [leftEmpty, rightEmpty]
    · rw [leftEmpty] at same
      exact absurd same.symm (rightApart.intercalate_ne_nil rightEmpty)
  · by_cases rightEmpty : right = []
    · rw [rightEmpty] at same
      exact absurd same (leftApart.intercalate_ne_nil leftEmpty)
    · calc
        left = (List.intercalate [separator] left).splitOn separator :=
          (List.splitOn_intercalate separator (fun piece member => (leftApart piece member).2)
            leftEmpty).symm
        _ = (List.intercalate [separator] right).splitOn separator := by rw [same]
        _ = right :=
          List.splitOn_intercalate separator (fun piece member => (rightApart piece member).2)
            rightEmpty

end Gamebook.Text
