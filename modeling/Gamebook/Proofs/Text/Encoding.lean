import Gamebook.Proofs.Text.Lines
import Gamebook.Text.Utf8

/-!
What is read back from a text that was written to a file: the text, but for one byte order mark in
front and the way in which its lines are broken. The lines themselves are the same.
-/

namespace Gamebook.Text

variable {text : Text} {bytes : ByteArray}

theorem linesFrom_unifyBreaks (current text : Text) :
    linesFrom current (unifyBreaks text) = linesFrom current text := by
  fun_induction unifyBreaks text generalizing current with
  | case1 => rfl
  | case2 rest ih =>
      rw [linesFrom_cons (by decide), if_pos (by decide : isBreak '\n' = true), ih, linesFrom.eq_3]
  | case3 c rest apart ih =>
      by_cases alone : c = '\r'
      · subst alone
        rw [if_pos rfl, linesFrom_cons (by decide), if_pos (by decide : isBreak '\n' = true), ih,
          linesFrom.eq_4 _ _ _ fun _ => apart _, if_pos (by decide : isBreak '\r' = true)]
      · rw [if_neg alone, linesFrom_cons alone, linesFrom_cons alone, ih, ih]

theorem lines_unifyBreaks (text : Text) : lines (unifyBreaks text) = lines text :=
  linesFrom_unifyBreaks [] text

/-- A character that is no line break can be taken off the front before or after. -/
theorem dropWhile_unifyBreaks {drop : Char → Bool} (kept : ∀ c, isBreak c = true → drop c = false)
    (text : Text) : (unifyBreaks text).dropWhile drop = unifyBreaks (text.dropWhile drop) := by
  fun_induction unifyBreaks text with
  | case1 => rfl
  | case2 rest ih =>
      rw [List.dropWhile_cons_of_neg (by simp [kept '\n' rfl]),
        List.dropWhile_cons_of_neg (by simp [kept '\r' rfl]), unifyBreaks]
  | case3 c rest apart ih =>
      by_cases dropped : drop c = true
      · have single : c ≠ '\r' := by
          rintro rfl
          rw [kept '\r' rfl] at dropped
          cases dropped
        rw [if_neg single, List.dropWhile_cons_of_pos dropped, List.dropWhile_cons_of_pos dropped, ih]
      · rw [List.dropWhile_cons_of_neg dropped, unifyBreaks.eq_3 _ _ apart]
        split
        · rw [List.dropWhile_cons_of_neg (by simp [kept '\n' rfl])]
        · rw [List.dropWhile_cons_of_neg dropped]

namespace Utf8

theorem toList_loop (bytes : ByteArray) (next : Nat) (read : List UInt8) :
    ByteArray.toList.loop bytes next read = read.reverse ++ bytes.data.toList.drop next := by
  induction next, read using ByteArray.toList.loop.induct bytes with
  | case1 next read inside ih =>
      have within : next < bytes.data.toList.length := by simpa using inside
      have same : bytes.get! next = bytes.data.toList[next] := by
        simp only [ByteArray.get!, Array.getElem_toList]
        exact getElem!_pos bytes.data next (by simpa using within)
      rw [ByteArray.toList.loop, if_pos inside, ih, List.drop_eq_getElem_cons within, same]
      simp
  | case2 next read outside =>
      have beyond : bytes.data.toList.length ≤ next := by simpa using outside
      rw [ByteArray.toList.loop, if_neg outside, List.drop_eq_nil_of_le beyond, List.append_nil]

theorem toList_eq (bytes : ByteArray) : bytes.toList = bytes.data.toList := by
  rw [ByteArray.toList, toList_loop]
  rfl

def byteOrderMark : Char := '\ufeff'

theorem eq_of_toList_eq {left right : ByteArray} (same : left.data.toList = right.data.toList) :
    left = right :=
  ByteArray.ext (Array.toList_inj.mp same)

theorem encode_eq (text : Text) : encode text = text.utf8Encode := String.toByteArray_ofList

theorem toList_encode_mark : (encode [byteOrderMark]).data.toList = mark := by decide +kernel

theorem encode_injective : Function.Injective encode := by
  intro left right same
  have read := congrArg decode same
  rw [decode_encode, decode_encode] at read
  exact Except.ok.inj read

theorem encode_cons (c : Char) (text : Text) : encode (c :: text) = encode [c] ++ encode text := by
  rw [encode_eq, encode_eq, encode_eq, ← List.utf8Encode_append, List.singleton_append]

theorem isPrefixOf_encode : mark.isPrefixOf (encode text).toList = true ↔
    ∃ rest, text = byteOrderMark :: rest := by
  rw [List.isPrefixOf_iff_prefix, toList_eq]
  constructor
  · rintro ⟨more, same⟩
    have joined : [byteOrderMark].utf8Encode ++ more.toByteArray = text.utf8Encode := by
      rw [← encode_eq, ← encode_eq]
      apply eq_of_toList_eq
      rw [ByteArray.toList_data_append, toList_encode_mark, List.toList_data_toByteArray, same]
    obtain ⟨rest, rfl⟩ := List.isPrefix_of_utf8Encode_append_eq_utf8Encode _ joined
    exact ⟨rest, rfl⟩
  · rintro ⟨rest, rfl⟩
    rw [encode_cons, ByteArray.toList_data_append, toList_encode_mark]
    exact List.prefix_append _ _

/-- No text but the empty one is written as a part of the mark. -/
theorem eq_nil_of_short (short : (encode text).size < 3)
    (start : (encode text).toList.isPrefixOf mark = true) : text = [] := by
  cases text with
  | nil => rfl
  | cons c rest =>
      have read : (encode (c :: rest)).utf8DecodeChar? 0 = some c := by
        rw [encode_eq, List.utf8DecodeChar?_utf8Encode_cons]
      rw [List.isPrefixOf_iff_prefix, toList_eq] at start
      generalize encode (c :: rest) = bytes at read short start
      obtain ⟨⟨list⟩⟩ := bytes
      obtain ⟨more, same⟩ := start
      match list with
      | [] => cases read
      | [first] =>
          cases same
          cases read
      | [first, second] =>
          cases same
          cases read
      | first :: second :: third :: others =>
          simp only [ByteArray.size, List.size_toArray, List.length_cons] at short
          omega

/-- A text without the byte order mark that may stand in front. -/
def unmarked : Text → Text
  | [] => []
  | c :: rest => if c = byteOrderMark then rest else c :: rest

theorem decodeMarked_encode (text : Text) : decodeMarked (encode text) = .ok (unmarked text) := by
  unfold decodeMarked
  split
  · rename_i short
    rw [Bool.and_eq_true, decide_eq_true_eq] at short
    rw [eq_nil_of_short short.1 short.2]
    rfl
  · split
    · rename_i marked
      obtain ⟨rest, rfl⟩ := isPrefixOf_encode.mp marked
      have behind : (encode (byteOrderMark :: rest)).extract 3 (encode (byteOrderMark :: rest)).size =
          encode rest := by
        have size : (encode [byteOrderMark]).size = 3 := by decide +kernel
        rw [encode_cons]
        exact ByteArray.extract_append_eq_right size.symm ByteArray.size_append
      rw [behind, decode_encode]
      rfl
    · rename_i plain
      rw [decode_encode]
      cases text with
      | nil => rfl
      | cons c rest =>
          have other : c ≠ byteOrderMark := by
            rintro rfl
            exact plain (isPrefixOf_encode.mpr ⟨rest, rfl⟩)
          rw [unmarked, if_neg other]

end Utf8

end Gamebook.Text
