import Gamebook.Layers.Token
import Gamebook.Proofs.Text.Joining

/-!
What the lines of a source are made of: words, signs and quoted texts, with blanks and remarks among them. The
tokens of a line are read for themselves, whatever follows it.
-/

namespace Gamebook.Layers

open Gamebook.Text

variable {depth : Nat} {c : Char} {quote text line ending rest : Text} {tokens : List Token}

def IsSign (c : Char) : Prop :=
  isBlank c = false ∧ isNameChar c = false ∧ c ∉ ['\\', '#', '"', '\'']

def IsMark (c : Char) : Prop := c = '"' ∨ c = '\''

/-- Quoted text up to the quote at its end, and with that. Behind a backslash no quote is looked for. -/
inductive IsQuoted (quote : Text) : Text → Prop
  | close : IsQuoted quote quote
  | escaped {text : Text} (c : Char) (rest : IsQuoted quote text) : IsQuoted quote ('\\' :: c :: text)
  | inside {c : Char} {text : Text} (plain : c ≠ '\\') (goes : ¬quote <+: c :: text)
      (rest : IsQuoted quote text) : IsQuoted quote (c :: text)

/-- The line is made of these words and signs, with blanks and remarks among them. Brackets that are open at its
start are closed in it, and so are its own. -/
inductive Spells : Nat → Text → List Token → Prop
  | nil : Spells 0 [] []
  | blank {depth : Nat} {c : Char} {line : Text} {tokens : List Token} (blank : isBlank c = true)
      (goes : depth = 0 → endsStatement c = false) (rest : Spells depth line tokens) :
      Spells depth (c :: line) tokens
  | joined {depth : Nat} {line : Text} {tokens : List Token} (c : Char) (rest : Spells depth line tokens) :
      Spells depth ('\\' :: c :: line) tokens
  /-- A remark ends with its line, so it can only stand in brackets here. -/
  | remark {depth : Nat} {text line : Text} {tokens : List Token} (oneLine : '\n' ∉ text)
      (rest : Spells depth ('\n' :: line) tokens) : Spells depth ('#' :: text ++ '\n' :: line) tokens
  | quoted {depth : Nat} {c : Char} {text line : Text} {tokens : List Token} (mark : IsMark c)
      (quoted : IsQuoted [c] text) (apart : text = [c] → line.head? ≠ some c)
      (rest : Spells depth line tokens) : Spells depth (c :: text ++ line) (.sign c :: tokens)
  | longQuoted {depth : Nat} {c : Char} {text line : Text} {tokens : List Token} (mark : IsMark c)
      (quoted : IsQuoted [c, c, c] text) (rest : Spells depth line tokens) :
      Spells depth (c :: c :: c :: text ++ line) (.sign c :: tokens)
  | word {depth : Nat} {word line : Text} {tokens : List Token} (proper : word ≠ [])
      (named : ∀ c ∈ word, isNameChar c = true ∧ isBlank c = false)
      (apart : ∀ c, line.head? = some c → isNameChar c = false) (rest : Spells depth line tokens) :
      Spells depth (word ++ line) (.word word :: tokens)
  | sign {depth : Nat} {c : Char} {line : Text} {tokens : List Token} (sign : IsSign c)
      (goes : depth = 0 → endsStatement c = false) (rest : Spells (depthBehind depth c) line tokens) :
      Spells depth (c :: line) (.sign c :: tokens)

/-- What a statement ends with, perhaps behind a remark. -/
inductive IsEnding : Text → Prop
  | sign {c : Char} (ends : endsStatement c = true) : IsEnding [c]
  | remark {text : Text} (oneLine : '\n' ∉ text) : IsEnding ('#' :: text ++ ['\n'])

/-- The text is empty or begins with the end of a statement. -/
def Stops (rest : Text) : Prop := ∀ c, rest.head? = some c → c ∈ ['\n', ';', ':', '#']

/-- The signs with a meaning of their own are in no name. -/
theorem isNameChar_of_special (special : c ∈ ['\n', ';', ':', '#', '\\', '"', '\'']) :
    isNameChar c = false := by
  have plain : ['\n', ';', ':', '#', '\\', '"', '\''].all (fun c => !isNameChar c) = true := by
    decide +kernel
  simpa using List.all_eq_true.mp plain c special

theorem readTokens_blank (blank : isBlank c = true) (goes : depth = 0 → endsStatement c = false) :
    readTokens depth (c :: rest) = readTokens depth rest := by
  rw [readTokens.eq_def]
  have going : (depth = 0 && endsStatement c) = false := by
    by_cases start : depth = 0 <;> simp_all
  simp only [going, blank, Bool.false_eq_true, if_false, if_true]

theorem readTokens_sign (sign : IsSign c) (goes : depth = 0 → endsStatement c = false) :
    readTokens depth (c :: rest) = .sign c :: readTokens (depthBehind depth c) rest := by
  obtain ⟨notBlank, noName, special⟩ := sign
  simp only [List.mem_cons, List.not_mem_nil, or_false, not_or] at special
  rw [readTokens.eq_def]
  have going : (depth = 0 && endsStatement c) = false := by
    by_cases start : depth = 0 <;> simp_all
  simp [going, notBlank, noName, special]

theorem readTokens_joined (depth : Nat) (c : Char) (rest : Text) :
    readTokens depth ('\\' :: c :: rest) = readTokens depth rest := by
  have going : endsStatement '\\' = false := by decide
  have notBlank : isBlank '\\' = false := by decide
  rw [readTokens.eq_def]
  simp [going, notBlank]

theorem readTokens_remark (oneLine : '\n' ∉ text) :
    readTokens depth ('#' :: text ++ '\n' :: rest) = readTokens depth ('\n' :: rest) := by
  have going : endsStatement '#' = false := by decide
  have notBlank : isBlank '#' = false := by decide
  have kept : ∀ c ∈ text, decide (c ≠ '\n') = true := fun c member =>
    decide_eq_true (ne_of_mem_of_not_mem member oneLine)
  have stops : ∀ c, ('\n' :: rest).head? = some c → decide (c ≠ '\n') = false := fun c first =>
    decide_eq_false (not_not.mpr (Option.some.inj first).symm)
  have left := (takeWhile_append_of_head? kept stops).2
  simp only [ne_eq, decide_not] at left
  rw [List.cons_append, readTokens.eq_def]
  simp [going, notBlank, left]

theorem readTokens_word {word : Text} (proper : word ≠ [])
    (named : ∀ c ∈ word, isNameChar c = true ∧ isBlank c = false)
    (apart : ∀ c, rest.head? = some c → isNameChar c = false) :
    readTokens depth (word ++ rest) = .word word :: readTokens depth rest := by
  match word, proper with
  | first :: more, _ =>
      obtain ⟨isName, notBlank⟩ := named first List.mem_cons_self
      have special : ∀ other ∈ ['\n', ';', ':', '#', '\\', '"', '\''], first ≠ other := by
        rintro other member rfl
        rw [isNameChar_of_special member] at isName
        cases isName
      simp only [List.forall_mem_cons] at special
      obtain ⟨taken, left⟩ := takeWhile_append_of_head? (fun c member => (named c (.tail _ member)).1) apart
      have going : endsStatement first = false := by simp [endsStatement, special]
      rw [List.cons_append, readTokens.eq_def]
      simp [going, notBlank, isName, special, taken, left]

theorem IsQuoted.length_le (quoted : IsQuoted quote text) : quote.length ≤ text.length := by
  induction quoted with
  | close => exact Nat.le_refl _
  | escaped c _ ih => exact ih.trans (Nat.le_add_right _ 2)
  | inside _ _ _ ih => exact ih.trans (Nat.le_succ _)

/-- Quoted text is known by itself, since it holds the quote that ends it. -/
theorem IsQuoted.behindQuoted_append (quoted : IsQuoted quote text) (plain : quote.head? = some c)
    (proper : c ≠ '\\') (rest : Text) : behindQuoted quote (text ++ rest) = rest := by
  obtain ⟨more, rfl⟩ := List.head?_eq_some_iff.mp plain
  induction quoted with
  | close =>
      rw [List.cons_append, behindQuoted.eq_3 _ _ _ fun _ _ same => absurd same proper]
      simp
  | escaped d _ ih => exact ih
  | @inside d text notEscape goes quoted ih =>
      have still : ¬c :: more <+: d :: (text ++ rest) := fun closes =>
        goes (List.prefix_of_prefix_length_le closes (List.prefix_append (d :: text) rest)
          (quoted.length_le.trans (Nat.le_succ _)))
      rw [List.cons_append, behindQuoted.eq_3 _ _ _ fun _ _ same => absurd same notEscape,
        if_neg (by simpa using still), ih]

theorem isPrefixOf_doubled (quoted : IsQuoted [c] text) (proper : c ≠ '\\')
    (apart : text = [c] → rest.head? ≠ some c) : [c, c].isPrefixOf (text ++ rest) = false := by
  rw [← Bool.not_eq_true, List.isPrefixOf_iff_prefix]
  intro doubled
  cases quoted with
  | close =>
      obtain ⟨more, rfl⟩ := (List.cons_prefix_cons.mp doubled).2
      exact apart rfl rfl
  | escaped d _ => exact proper (List.cons_prefix_cons.mp doubled).1
  | inside _ goes _ =>
      exact goes (List.cons_prefix_cons.mpr ⟨(List.cons_prefix_cons.mp doubled).1, List.nil_prefix⟩)

theorem readTokens_quote (mark : IsMark c) (rest : Text) : readTokens depth (c :: rest) =
    .sign c :: readTokens depth
      (behindQuoted (quoteFrom c rest) (rest.drop ((quoteFrom c rest).length - 1))) := by
  have going : endsStatement c = false := by rcases mark with rfl | rfl <;> decide
  have notBlank : isBlank c = false := by rcases mark with rfl | rfl <;> decide
  have special : c ≠ '\\' ∧ c ≠ '#' := by rcases mark with rfl | rfl <;> decide
  have isMark : (c = '"' || c = '\'') = true := by rcases mark with rfl | rfl <;> decide
  rw [readTokens.eq_def]
  simp only [going, notBlank, special, isMark, Bool.and_false, Bool.false_eq_true, if_false, if_true]

theorem IsMark.ne_escape (mark : IsMark c) : c ≠ '\\' := by rcases mark with rfl | rfl <;> decide

theorem readTokens_quoted (mark : IsMark c) (quoted : IsQuoted [c] text)
    (apart : text = [c] → rest.head? ≠ some c) :
    readTokens depth (c :: text ++ rest) = .sign c :: readTokens depth rest := by
  have single : quoteFrom c (text ++ rest) = [c] :=
    if_neg (Bool.not_eq_true _ ▸ isPrefixOf_doubled quoted mark.ne_escape apart)
  have behind := quoted.behindQuoted_append rfl mark.ne_escape rest
  rw [List.cons_append, readTokens_quote mark, single]
  exact congrArg (fun more => .sign c :: readTokens depth more) behind

theorem readTokens_longQuoted (mark : IsMark c) (quoted : IsQuoted [c, c, c] text) (rest : Text) :
    readTokens depth (c :: c :: c :: text ++ rest) = .sign c :: readTokens depth rest := by
  have triple : quoteFrom c (c :: c :: text ++ rest) = [c, c, c] := if_pos (by simp)
  have behind := quoted.behindQuoted_append rfl mark.ne_escape rest
  rw [List.cons_append, readTokens_quote mark, triple]
  exact congrArg (fun more => .sign c :: readTokens depth more) behind

/-- What holds of what follows a part of a line holds at its end, too. -/
theorem Stops.head?_append {p : Char → Prop} (stops : Stops rest)
    (within : ∀ c, line.head? = some c → p c) (behind : ∀ c ∈ ['\n', ';', ':', '#'], p c) :
    ∀ c, (line ++ rest).head? = some c → p c := by
  cases line with
  | nil => exact fun c first => behind c (stops c first)
  | cons next line => exact within

/-- A line is read for itself, whatever statement follows it. -/
theorem Spells.readTokens_append (spells : Spells depth line tokens) (stops : Stops rest) :
    readTokens depth (line ++ rest) = tokens ++ readTokens 0 rest := by
  induction spells with
  | nil => rfl
  | blank blank goes _ ih => exact (readTokens_blank blank goes).trans ih
  | joined c _ ih => exact (readTokens_joined _ c _).trans ih
  | remark oneLine _ ih =>
      rw [List.append_assoc]
      exact (readTokens_remark oneLine).trans ih
  | @quoted depth c text line tokens mark quoted apart _ ih =>
      rw [List.append_assoc, readTokens_quoted mark quoted ?_, ih, List.cons_append]
      intro empty first
      have other : ∀ d ∈ ['\n', ';', ':', '#'], d ≠ c := by rcases mark with rfl | rfl <;> simp
      have differs : ∀ d, line.head? = some d → d ≠ c := by
        rintro d next rfl
        exact apart empty next
      exact stops.head?_append differs other c first rfl
  | longQuoted mark quoted _ ih =>
      rw [List.append_assoc, readTokens_longQuoted mark quoted, ih, List.cons_append]
  | word proper named apart _ ih =>
      rw [List.append_assoc, readTokens_word proper named ?_, ih, List.cons_append]
      exact stops.head?_append apart fun c member =>
        isNameChar_of_special (List.mem_append_left ['\\', '"', '\''] member)
  | sign sign goes _ ih => exact (readTokens_sign sign goes).trans (congrArg _ ih)

theorem stops_ending (ends : IsEnding ending) (rest : Text) : Stops (ending ++ rest) := by
  intro c first
  cases ends with
  | sign ends =>
      cases first
      simpa [endsStatement, or_assoc] using Or.inl ends
  | remark oneLine =>
      cases first
      decide

theorem readTokens_ending (ends : IsEnding ending) (rest : Text) :
    readTokens 0 (ending ++ rest) = .ending :: readTokens 0 rest := by
  have alone {c : Char} (ends : endsStatement c = true) :
      readTokens 0 (c :: rest) = .ending :: readTokens 0 rest := by
    rw [readTokens.eq_def]
    simp [ends]
  cases ends with
  | sign ends => exact alone ends
  | remark oneLine =>
      rw [List.append_assoc]
      exact (readTokens_remark oneLine).trans (alone (by decide))

theorem Spells.ending_not_mem (spells : Spells depth line tokens) : .ending ∉ tokens := by
  induction spells with
  | nil => exact List.not_mem_nil
  | blank _ _ _ ih => exact ih
  | joined _ _ ih => exact ih
  | remark _ _ ih => exact ih
  | quoted _ _ _ _ ih => simpa using ih
  | longQuoted _ _ _ ih => simpa using ih
  | word _ _ _ _ ih => simpa using ih
  | sign _ _ _ ih => simpa using ih

theorem Spells.word_of_all {depth : Nat} {word line : Text} {tokens : List Token} (proper : word ≠ [])
    (named : word.all (fun c => isNameChar c && !isBlank c) = true)
    (apart : line.head?.all (fun c => !isNameChar c) = true) (rest : Spells depth line tokens) :
    Spells depth (word ++ line) (.word word :: tokens) :=
  .word proper (by simpa using named) (fun c first => by simpa [first] using apart) rest

theorem isSign_of_not {c : Char}
    (plain : (isBlank c || isNameChar c || ['\\', '#', '"', '\''].contains c) = false) : IsSign c := by
  simpa [IsSign, and_assoc] using plain

end Gamebook.Layers
