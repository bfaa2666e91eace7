import Gamebook.Text.Pattern

/-!
Scanning piece by piece. Where a token is read does not depend on the character before it, the
pieces of a text are those of its front and then those of its rest.
-/

namespace Gamebook.Text

variable {α β : Type} {text rest front : Text} {token : α} {c : Char}

namespace Pattern

/-- The pattern does not look at the character before a token. -/
def IsFree (pattern : Pattern α) : Prop :=
  ∀ before text, pattern.read before text = pattern.read none text

variable {pattern : Pattern α}

theorem split_of_read {before : Option Char} (taken : pattern.read before text = some (token, rest)) :
    pattern.split before text =
      .token token :: pattern.split (pattern.write token).getLast? rest := by
  cases text with
  | nil =>
      have whole := pattern.read_eq taken
      have empty := (List.append_eq_nil_iff.mp whole.symm).1
      exact absurd empty (pattern.write_ne_nil token)
  | cons c cs =>
      rw [split]
      split
      · rename_i other tail found
        rw [taken] at found
        cases found
        rfl
      · rename_i found
        rw [taken] at found
        cases found

theorem split_of_not_read {before : Option Char} (passed : pattern.read before (c :: text) = none) :
    pattern.split before (c :: text) = .plain c :: pattern.split (some c) text := by
  rw [split]
  split
  · rename_i found
    rw [passed] at found
    cases found
  · rfl

theorem IsFree.split_eq (free : pattern.IsFree) (before : Option Char) (text : Text) :
    pattern.split before text = pattern.pieces text := by
  cases text with
  | nil => rw [pieces, split, split]
  | cons c cs =>
      unfold pieces
      cases taken : pattern.read none (c :: cs) with
      | none =>
          have passed : pattern.read before (c :: cs) = none := by rw [free, taken]
          rw [split_of_not_read taken, split_of_not_read passed]
      | some found =>
          have again : pattern.read before (c :: cs) = some (found.1, found.2) := by
            rw [free, taken]
          rw [split_of_read taken, split_of_read again]

theorem IsFree.pieces_of_read (free : pattern.IsFree)
    (taken : pattern.read none text = some (token, rest)) :
    pattern.pieces text = .token token :: pattern.pieces rest := by
  rw [pieces, split_of_read taken, free.split_eq]

theorem IsFree.pieces_of_not_read (free : pattern.IsFree)
    (passed : pattern.read none (c :: text) = none) :
    pattern.pieces (c :: text) = .plain c :: pattern.pieces text := by
  rw [pieces, split_of_not_read passed, free.split_eq]

theorem mem_tokens : token ∈ pattern.tokens text ↔ .token token ∈ pattern.pieces text := by
  unfold tokens
  rw [List.mem_filterMap]
  constructor
  · intro ⟨piece, member, same⟩
    cases piece with
    | plain c => contradiction
    | token other =>
        cases same
        exact member
  · exact fun member => ⟨_, member, rfl⟩

theorem sublist_of_mem_pieces {piece : Piece α} (member : piece ∈ pattern.pieces text) :
    (pattern.text piece).Sublist text := by
  have whole := pattern.flatMap_text_pieces text
  rw [List.flatMap_def] at whole
  conv => rhs; rw [← whole]
  exact List.sublist_flatten_of_mem (List.mem_map_of_mem member)

theorem exists_read_of_mem_split {before : Option Char}
    (member : .token token ∈ pattern.split before text) :
    ∃ before text rest, pattern.read before text = some (token, rest) := by
  fun_induction pattern.split before text with
  | case1 => contradiction
  | case2 before c cs other rest taken ih =>
      rcases List.mem_cons.mp member with same | later
      · cases same
        exact ⟨_, _, _, taken⟩
      · exact ih later
  | case3 before c cs passed ih =>
      rcases List.mem_cons.mp member with same | later
      · contradiction
      · exact ih later

end Pattern

theorem takeWhile_ne {stop : Char} (absent : stop ∉ front) (rest : Text) :
    (front ++ stop :: rest).takeWhile (· ≠ stop) = front := by
  have inside : ∀ c ∈ front, decide (c ≠ stop) = true := by
    intro c member
    simpa using fun same : c = stop => absent (same ▸ member)
  rw [List.takeWhile_append_of_pos inside]
  simp

theorem dropWhile_ne {stop : Char} (absent : stop ∉ front) (rest : Text) :
    (front ++ stop :: rest).dropWhile (· ≠ stop) = stop :: rest := by
  have inside : ∀ c ∈ front, decide (c ≠ stop) = true := by
    intro c member
    simpa using fun same : c = stop => absent (same ▸ member)
  rw [List.dropWhile_append_of_pos inside]
  simp

section Chunks

variable {γ : Type} {p : γ → Bool} {passes : β → Bool} {chunk : β → List γ}

/-- Of items written out one behind the other `passes` says whether all that an item writes passes
`p`; what any other item writes starts with something that does not. -/
def AreJudged (p : γ → Bool) (passes : β → Bool) (chunk : β → List γ) : Prop :=
  ∀ item, if passes item then ∀ c ∈ chunk item, p c = true
    else ∃ c cs, chunk item = c :: cs ∧ p c = false

theorem takeWhile_flatMap (judged : AreJudged p passes chunk) (items : List β) :
    (items.flatMap chunk).takeWhile p = (items.takeWhile passes).flatMap chunk := by
  induction items with
  | nil => rfl
  | cons item items ih =>
      have first := judged item
      rw [List.flatMap_cons, List.takeWhile_cons]
      split at first
      · rename_i passed
        rw [if_pos passed, List.takeWhile_append_of_pos first, ih, List.flatMap_cons]
      · rename_i stopped
        obtain ⟨c, cs, written, failed⟩ := first
        rw [if_neg stopped, written, List.cons_append, List.takeWhile_cons, failed]
        rfl

theorem dropWhile_flatMap (judged : AreJudged p passes chunk) (items : List β) :
    (items.flatMap chunk).dropWhile p = (items.dropWhile passes).flatMap chunk := by
  induction items with
  | nil => rfl
  | cons item items ih =>
      have first := judged item
      rw [List.flatMap_cons, List.dropWhile_cons]
      split at first
      · rename_i passed
        rw [if_pos passed, List.dropWhile_append_of_pos first, ih]
      · rename_i stopped
        obtain ⟨c, cs, written, failed⟩ := first
        rw [if_neg stopped, List.flatMap_cons, written, List.cons_append, List.dropWhile_cons, failed]
        rfl

end Chunks

end Gamebook.Text
