import Mathlib.Algebra.GroupWithZero.Nat
import Gamebook.Text.Blank
import Gamebook.Text.Lines

/-!
Texts cut into lines: which characters the lines hold, what joined lines are cut into again, and how
long they are. Empty lines do not count where nothing is made of them.
-/

namespace Gamebook.Text

variable {β : Type} {text line current rest : Text} {pieces : List Text} {drop : Char → Bool}

theorem exists_trim (drop : Char → Bool) (text : Text) :
    ∃ left right, text = left ++ (trim drop text ++ right) ∧ (∀ c ∈ left, drop c = true) ∧
      ∀ c ∈ right, drop c = true := by
  have whole := List.takeWhile_append_dropWhile (p := drop) (l := text)
  have back := List.takeWhile_append_dropWhile (p := drop) (l := (text.dropWhile drop).reverse)
  refine ⟨text.takeWhile drop, ((text.dropWhile drop).reverse.takeWhile drop).reverse, ?_,
    List.all_eq_true.mp List.all_takeWhile, fun c member => ?_⟩
  · rw [trim, trimEnd, ← List.reverse_append, back, List.reverse_reverse, whole]
  · exact List.all_eq_true.mp List.all_takeWhile c (List.mem_reverse.mp member)

theorem trim_sublist (drop : Char → Bool) (text : Text) : (trim drop text).Sublist text := by
  obtain ⟨left, right, whole, _⟩ := exists_trim drop text
  conv => rhs; rw [whole]
  exact ((List.sublist_append_left _ right).trans (List.sublist_append_right left _))

theorem head?_dropWhile_ne {c : Char} (dropped : drop c = true) (text : Text) :
    (text.dropWhile drop).head? ≠ some c := by
  intro first
  have kept := List.head?_dropWhile_not drop text
  simp [first, dropped] at kept

theorem getLast?_trim_ne {c : Char} (dropped : drop c = true) (text : Text) :
    (trim drop text).getLast? ≠ some c := by
  rw [trim, trimEnd, List.getLast?_reverse]
  exact head?_dropWhile_ne dropped _

theorem head?_trim_ne {c : Char} (dropped : drop c = true) (text : Text) :
    (trim drop text).head? ≠ some c := by
  have behind : trim drop text <+: text.dropWhile drop := by
    rw [← List.reverse_suffix, trim, trimEnd, List.reverse_reverse]
    exact List.dropWhile_suffix drop
  intro first
  apply head?_dropWhile_ne dropped text
  cases trimmed : trim drop text with
  | nil => simp [trimmed] at first
  | cons d rest =>
      obtain ⟨more, whole⟩ := behind
      simpa [← whole, trimmed] using first

theorem trim_eq_nil_iff : trim drop text = [] ↔ ∀ c ∈ text, drop c = true := by
  constructor
  · intro none c member
    obtain ⟨left, right, whole, inLeft, inRight⟩ := exists_trim drop text
    rw [none, List.nil_append] at whole
    rw [whole] at member
    exact (List.mem_append.mp member).elim (inLeft c) (inRight c)
  · intro dropped
    cases trimmed : trim drop text with
    | nil => rfl
    | cons c rest =>
        have inside : c ∈ text := (trim_sublist drop text).subset (trimmed ▸ List.mem_cons_self)
        exact absurd (by rw [trimmed, List.head?_cons]) (head?_trim_ne (dropped c inside) text)

theorem dropWhile_eq_self (stops : ∀ c, text.head? = some c → drop c = false) :
    text.dropWhile drop = text := by
  cases text with
  | nil => rfl
  | cons c rest => exact List.dropWhile_cons_of_neg (by simp [stops c rfl])

theorem trim_eq_self (starts : ∀ c, text.head? = some c → drop c = false)
    (ends : ∀ c, text.getLast? = some c → drop c = false) : trim drop text = text := by
  have back : ∀ c, text.reverse.head? = some c → drop c = false := by
    rw [List.head?_reverse]
    exact ends
  rw [trim, dropWhile_eq_self starts, trimEnd, dropWhile_eq_self back, List.reverse_reverse]

/-- Nothing that is dropped stands at either end. -/
def IsTrimmed (drop : Char → Bool) (text : Text) : Prop :=
  (∀ c, text.head? = some c → drop c = false) ∧ ∀ c, text.getLast? = some c → drop c = false

/-- A text is trimmed to what stands between characters that are dropped and has none at its ends. -/
theorem trim_eq_iff {middle : Text} : trim drop text = middle ↔
    ∃ left right, text = left ++ (middle ++ right) ∧ (∀ c ∈ left, drop c = true) ∧
      (∀ c ∈ right, drop c = true) ∧ IsTrimmed drop middle := by
  constructor
  · intro trimmed
    subst middle
    obtain ⟨left, right, whole, inLeft, inRight⟩ := exists_trim drop text
    refine ⟨left, right, whole, inLeft, inRight, fun c first => ?_, fun c last => ?_⟩
    · exact Bool.eq_false_iff.mpr fun dropped => head?_trim_ne dropped text first
    · exact Bool.eq_false_iff.mpr fun dropped => getLast?_trim_ne dropped text last
  · intro surrounded
    obtain ⟨left, right, rfl, inLeft, inRight, starts, ends⟩ := surrounded
    cases middle with
    | nil =>
        rw [List.nil_append]
        exact trim_eq_nil_iff.mpr (List.forall_mem_append.mpr ⟨inLeft, inRight⟩)
    | cons c middle =>
        have front : (left ++ (c :: middle ++ right)).dropWhile drop = c :: middle ++ right := by
          rw [List.dropWhile_append_of_pos inLeft]
          exact dropWhile_eq_self starts
        have back : ((c :: middle).reverse).dropWhile drop = (c :: middle).reverse :=
          dropWhile_eq_self (by rwa [List.head?_reverse])
        rw [trim, front, trimEnd, List.reverse_append,
          List.dropWhile_append_of_pos fun d member => inRight d (List.mem_reverse.mp member), back,
          List.reverse_reverse]

theorem mem_linesFrom {current text line : Text} {c : Char} (listed : line ∈ linesFrom current text)
    (member : c ∈ line) : c ∈ current ∨ c ∈ text ∧ isBreak c = false := by
  fun_induction linesFrom current text with
  | case1 => contradiction
  | case2 current =>
      obtain rfl := List.mem_singleton.mp listed
      exact .inl (List.mem_reverse.mp member)
  | case3 current rest ih =>
      rcases List.mem_cons.mp listed with rfl | later
      · exact .inl (List.mem_reverse.mp member)
      · rcases ih later with old | ⟨inside, plain⟩
        · contradiction
        · exact .inr ⟨by simp [inside], plain⟩
  | case4 current first rest _ _ ih =>
      rcases List.mem_cons.mp listed with rfl | later
      · exact .inl (List.mem_reverse.mp member)
      · rcases ih later with old | ⟨inside, plain⟩
        · contradiction
        · exact .inr ⟨by simp [inside], plain⟩
  | case5 current first rest _ plain ih =>
      rcases ih listed with old | ⟨inside, notBreak⟩
      · rcases List.mem_cons.mp old with rfl | old
        · exact .inr ⟨by simp, by simpa using plain⟩
        · exact .inl old
      · exact .inr ⟨by simp [inside], notBreak⟩

theorem mem_of_mem_lines {text line : Text} {c : Char} (listed : line ∈ lines text)
    (member : c ∈ line) : c ∈ text ∧ isBreak c = false :=
  (mem_linesFrom listed member).resolve_left (by simp)

theorem linesFrom_cons {c : Char} (single : c ≠ '\r') (current rest : Text) :
    linesFrom current (c :: rest) =
      if isBreak c then current.reverse :: linesFrom [] rest else linesFrom (c :: current) rest :=
  linesFrom.eq_4 _ _ _ fun _ same => absurd same single

theorem linesFrom_append (plain : ∀ c ∈ line, isBreak c = false) (current rest : Text) :
    linesFrom current (line ++ rest) = linesFrom (line.reverse ++ current) rest := by
  induction line generalizing current with
  | nil => rfl
  | cons c line ih =>
      have first := plain c List.mem_cons_self
      have single : c ≠ '\r' := by
        rintro rfl
        exact absurd first (by decide)
      rw [List.cons_append, linesFrom_cons single, if_neg (by simp [first]),
        ih fun d member => plain d (.tail _ member)]
      simp

/-- What ends in a line break is cut by itself, unless the break goes on in what follows. -/
theorem linesFrom_append_of_break (fresh : text = [] → current = [])
    (ends : ∀ c, text.getLast? = some c → isBreak c = true) (apart : rest.head? ≠ some '\n') :
    linesFrom current (text ++ rest) = linesFrom current text ++ lines rest := by
  fun_induction linesFrom current text with
  | case1 => rfl
  | case2 current nonempty => exact absurd (fresh rfl) nonempty
  | case3 current tail ih =>
      have others := ih (fun _ => rfl) fun c last => ends c (by simp [List.getLast?_cons, last])
      simp [linesFrom, others]
  | case4 current first tail notPair broken ih =>
      have others := ih (fun _ => rfl) fun c last => ends c (by simp [List.getLast?_cons, last])
      have notPairBehind : ∀ behind, first = '\r' → tail ++ rest = '\n' :: behind → False := by
        intro behind same whole
        cases tail with
        | nil => exact apart (by rw [show rest = '\n' :: behind from whole]; rfl)
        | cons second tail => exact notPair tail same (by rw [(List.cons.inj whole).1])
      rw [List.cons_append, linesFrom.eq_4 _ _ _ notPairBehind, if_pos broken, others, List.cons_append]
  | case5 current first tail _ plain ih =>
      have single : first ≠ '\r' := by
        rintro rfl
        exact plain (by decide)
      have more : tail ≠ [] := by
        rintro rfl
        exact plain (ends first rfl)
      rw [List.cons_append, linesFrom_cons single, if_neg plain]
      exact ih (fun empty => absurd empty more) fun c last => ends c (by simp [List.getLast?_cons, last])

/-- The line under way is the beginning of the next line. -/
theorem exists_linesFrom_of_ne_nil (under : current ≠ []) (text : Text) :
    ∃ line others, linesFrom current text = (current.reverse ++ line) :: others := by
  fun_induction linesFrom current text with
  | case1 => contradiction
  | case2 current => exact ⟨[], [], by simp⟩
  | case3 current tail ih => exact ⟨[], _, by simp; rfl⟩
  | case4 current first tail _ _ ih => exact ⟨[], _, by simp; rfl⟩
  | case5 current first tail _ _ ih =>
      obtain ⟨line, others, cut⟩ := ih (by simp)
      exact ⟨first :: line, others, by simpa using cut⟩

/-- A first line that is not empty begins where the text begins. -/
theorem head?_of_head?_lines {c : Char} (first : (lines text).head? = some (c :: line)) :
    text.head? = some c ∧ isBreak c = false := by
  unfold lines at first
  generalize started : ([] : Text) = current at first
  fun_cases linesFrom current text with
  | case1 => contradiction
  | case2 current nonempty => exact absurd started.symm nonempty
  | case3 current tail =>
      rw [linesFrom.eq_3, ← started] at first
      cases first
  | case4 current d tail notPair broken =>
      rw [linesFrom.eq_4 _ _ _ notPair, if_pos broken, ← started] at first
      cases first
  | case5 current d tail notPair plain =>
      obtain ⟨_, others, cut⟩ := exists_linesFrom_of_ne_nil (List.cons_ne_nil d []) tail
      rw [linesFrom.eq_4 _ _ _ notPair, if_neg plain, ← started, cut] at first
      simp only [List.reverse_singleton, List.cons_append, List.head?_cons, Option.some.injEq,
        List.cons.injEq] at first
      rw [← first.1]
      exact ⟨rfl, by simpa using plain⟩

section Trimming

variable (f : Text → List β) (empty : f [] = [])

include empty

/-- A line break at the end adds no line, or an empty one. -/
theorem flatMap_linesFrom_append (current text : Text) :
    (linesFrom current (text ++ ['\n'])).flatMap f = (linesFrom current text).flatMap f := by
  fun_induction linesFrom current text with
  | case1 => simp [linesFrom, isBreak, empty]
  | case2 current => simp [linesFrom, isBreak]
  | case3 current rest ih => simp [linesFrom, ih]
  | case4 current first rest notPair broken ih =>
      by_cases pair : first = '\r' ∧ rest = []
      · obtain ⟨rfl, rfl⟩ := pair
        simp [linesFrom]
      · have notPairBehind : ∀ behind, first = '\r' → rest ++ ['\n'] = '\n' :: behind → False := by
          intro behind same whole
          cases rest with
          | nil => exact pair ⟨same, rfl⟩
          | cons second rest =>
              simp only [List.cons_append, List.cons.injEq] at whole
              exact notPair rest same (by rw [whole.1])
        rw [List.cons_append, linesFrom.eq_4 _ _ _ notPairBehind, if_pos broken, List.flatMap_cons,
          List.flatMap_cons, ih]
  | case5 current first rest _ plain ih =>
      have single : first ≠ '\r' := by
        rintro rfl
        exact plain (by decide)
      rw [List.cons_append, linesFrom_cons single, if_neg plain, ih]

theorem flatMap_lines_append {breaks : Text} (onlyBreaks : ∀ c ∈ breaks, c = '\n') (text : Text) :
    (lines (text ++ breaks)).flatMap f = (lines text).flatMap f := by
  induction breaks generalizing text with
  | nil => rw [List.append_nil]
  | cons c breaks ih =>
      obtain rfl := onlyBreaks c List.mem_cons_self
      have others := ih (fun d member => onlyBreaks d (.tail _ member)) (text ++ ['\n'])
      rw [List.append_assoc] at others
      exact others.trans (flatMap_linesFrom_append f empty [] text)

theorem flatMap_lines_prepend {breaks : Text} (onlyBreaks : ∀ c ∈ breaks, c = '\n') (text : Text) :
    (lines (breaks ++ text)).flatMap f = (lines text).flatMap f := by
  induction breaks with
  | nil => rfl
  | cons c breaks ih =>
      obtain rfl := onlyBreaks c List.mem_cons_self
      have others := ih fun d member => onlyBreaks d (.tail _ member)
      have cut : lines ('\n' :: (breaks ++ text)) = [] :: lines (breaks ++ text) :=
        linesFrom_cons (by decide) [] _
      rw [List.cons_append, cut, List.flatMap_cons, empty, List.nil_append, others]

theorem flatMap_linesFrom_nil (current : Text) :
    (linesFrom current []).flatMap f = f current.reverse := by
  cases current with
  | nil => simp [linesFrom, empty]
  | cons c current => simp [linesFrom]

theorem flatMap_lines_join (plain : ∀ piece ∈ pieces, ∀ c ∈ piece, isBreak c = false) :
    (lines (join ['\n'] pieces)).flatMap f = pieces.flatMap f := by
  unfold lines join
  induction pieces with
  | nil => rfl
  | cons first rest ih =>
      have firstPlain := plain first List.mem_cons_self
      cases rest with
      | nil =>
          have whole := linesFrom_append firstPlain [] []
          rw [List.append_nil, List.append_nil] at whole
          rw [List.intercalate_singleton, whole, flatMap_linesFrom_nil f empty,
            List.reverse_reverse, List.flatMap_singleton]
      | cons second rest =>
          rw [List.intercalate_cons_cons, List.append_assoc, linesFrom_append firstPlain,
            List.singleton_append, linesFrom_cons (by decide), if_pos (by decide),
            List.flatMap_cons, List.flatMap_cons, ih fun piece member => plain piece (.tail _ member),
            List.append_nil, List.reverse_reverse]

theorem flatMap_lines_trim (text : Text) :
    (lines (trim (· = '\n') text)).flatMap f = (lines text).flatMap f := by
  obtain ⟨left, right, whole, leftBreaks, rightBreaks⟩ := exists_trim (· = '\n') text
  conv => rhs; rw [whole]
  rw [flatMap_lines_prepend f empty (by simpa using leftBreaks),
    flatMap_lines_append f empty (by simpa using rightBreaks)]

end Trimming

theorem sum_linesFrom_le (current text : Text) :
    ((linesFrom current text).map fun line => line.length + 1).sum ≤
      current.length + text.length + 1 := by
  fun_induction linesFrom current text with
  | case1 => simp
  | case2 current => simp
  | case3 current rest ih =>
      simp only [List.map_cons, List.sum_cons, List.length_cons, List.length_nil, List.length_reverse] at ih ⊢
      omega
  | case4 current first rest _ _ ih =>
      simp only [List.map_cons, List.sum_cons, List.length_cons, List.length_nil, List.length_reverse] at ih ⊢
      omega
  | case5 current first rest _ _ ih =>
      simp only [List.length_cons] at ih ⊢
      omega

theorem sum_lines_le (text : Text) : ((lines text).map List.length).sum ≤ text.length := by
  have bound := sum_linesFrom_le [] text
  have counted : ∀ lines : List Text, (lines.map fun line => line.length + 1).sum =
      (lines.map List.length).sum + lines.length := by
    intro lines
    induction lines with
    | nil => rfl
    | cons line lines ih =>
        simp only [List.map_cons, List.sum_cons, List.length_cons]
        omega
  unfold lines
  rw [counted] at bound
  cases cut : linesFrom [] text with
  | nil => simp
  | cons line lines =>
      simp only [cut, List.map_cons, List.sum_cons, List.length_cons, List.length_nil] at bound ⊢
      omega

end Gamebook.Text
