import Gamebook.Markup.Inline
import Gamebook.Proofs.Text.Scanning

/-!
Images in a line whose links are single signs.

A line is read here as a list of signs; `char?` says which of them are characters, and the others
are links. An image is found among the signs just where it is found when each link is written out as
a text that no image can tell from a word, so links may stand in its alternate text and in its
source. The source is shown first.
-/

namespace Gamebook.Markup

open Gamebook.Text

variable {γ δ : Type}

section Reading

variable (char? : δ → Option Char)

def behind : Text → List δ → Option (List δ)
  | [], signs => some signs
  | _ :: _, [] => none
  | c :: front, sign :: signs => if char? sign = some c then behind front signs else none

/-- Links pass every test of characters. -/
def passes (test : Char → Bool) (sign : δ) : Bool := (char? sign).all test

/-- An image at the front: its alternate text, its source and what follows. -/
def readImage (signs : List δ) : Option (List δ × List δ × List δ) := do
  let inner ← behind char? ['!', '['] signs
  let inSource ← behind char? [']', '('] (inner.dropWhile (passes char? (· ≠ ']')))
  let rest ← behind char? [')'] (inSource.dropWhile (passes char? Image.inSource))
  match inSource.takeWhile (passes char? Image.inSource) with
  | [] => none
  | first :: more => some (inner.takeWhile (passes char? (· ≠ ']')), first :: more, rest)

variable {char?} {signs alt source rest : List δ} {front : Text}

theorem behind_eq_some (found : behind char? front signs = some rest) :
    ∃ taken, signs = taken ++ rest ∧ taken.length = front.length ∧
      ∀ sign ∈ taken, (char? sign).isSome = true := by
  induction front generalizing signs with
  | nil =>
      cases found
      exact ⟨[], rfl, rfl, by simp⟩
  | cons c front ih =>
      cases signs with
      | nil => cases found
      | cons sign signs =>
          rw [behind] at found
          split at found
          · rename_i same
            obtain ⟨taken, rfl, length, known⟩ := ih found
            refine ⟨sign :: taken, rfl, by simp [length], ?_⟩
            simp only [List.mem_cons, forall_eq_or_imp]
            exact ⟨by rw [same]; rfl, known⟩
          · cases found

theorem readImage_eq_some (taken : readImage char? signs = some (alt, source, rest)) :
    ∃ opening middle closing, signs = opening ++ (alt ++ (middle ++ (source ++ (closing ++ rest)))) ∧
      opening ≠ [] ∧ ∀ sign ∈ opening ++ middle ++ closing, (char? sign).isSome = true := by
  simp only [readImage, Option.bind_eq_bind, Option.bind_eq_some_iff] at taken
  obtain ⟨inner, opened, inSource, between, tail, closed, result⟩ := taken
  split at result
  · cases result
  · rename_i first more sourceEq
    cases result
    obtain ⟨opening, rfl, length, openingChars⟩ := behind_eq_some opened
    obtain ⟨middle, middleEq, _, middleChars⟩ := behind_eq_some between
    obtain ⟨closing, closingEq, _, closingChars⟩ := behind_eq_some closed
    refine ⟨opening, middle, closing, ?_, ?_, ?_⟩
    · rw [← closingEq, ← sourceEq, List.takeWhile_append_dropWhile, ← middleEq,
        List.takeWhile_append_dropWhile]
    · rintro rfl
      cases length
    · simp only [List.mem_append]
      rintro sign ((member | member) | member)
      · exact openingChars sign member
      · exact middleChars sign member
      · exact closingChars sign member

theorem length_lt_of_readImage (taken : readImage char? signs = some (alt, source, rest)) :
    rest.length < signs.length := by
  obtain ⟨opening, middle, closing, rfl, nonempty, _⟩ := readImage_eq_some taken
  have := List.length_pos_iff.mpr nonempty
  simp only [List.length_append]
  omega

end Reading

inductive Part (δ : Type) where
  | sign (single : δ)
  | image (alt source : List δ)

namespace Part

/-- The signs of a part in the order in which they are shown. -/
def shown : Part δ → List δ
  | .sign single => [single]
  | .image alt source => source ++ alt

def spell (spell : γ → List δ) : Part γ → List (Part δ)
  | .sign single => (spell single).map .sign
  | .image alt source => [.image (alt.flatMap spell) (source.flatMap spell)]

def piece : Part Char → Piece Image
  | .sign c => .plain c
  | .image alt source => .token ⟨alt, source⟩

end Part

def parts (char? : δ → Option Char) : List δ → List (Part δ)
  | [] => []
  | sign :: signs =>
    match _taken : readImage char? (sign :: signs) with
    | some (alt, source, rest) => .image alt source :: parts char? rest
    | none => .sign sign :: parts char? signs
termination_by signs => signs.length
decreasing_by
  · exact length_lt_of_readImage _taken
  · simp

section Parts

variable {char? : δ → Option Char} {signs alt source rest : List δ} {sign : δ}

theorem parts_of_read (taken : readImage char? signs = some (alt, source, rest)) :
    parts char? signs = .image alt source :: parts char? rest := by
  cases signs with
  | nil => exact absurd (length_lt_of_readImage taken) (by simp)
  | cons sign signs =>
      rw [parts]
      split
      · rename_i found
        rw [taken] at found
        cases found
        rfl
      · rename_i found
        rw [taken] at found
        cases found

theorem parts_of_not_read (passed : readImage char? (sign :: signs) = none) :
    parts char? (sign :: signs) = .sign sign :: parts char? signs := by
  rw [parts]
  split
  · rename_i found
    rw [passed] at found
    cases found
  · rfl

theorem length_parts_le (signs : List δ) : (parts char? signs).length ≤ signs.length := by
  fun_induction parts char? signs with
  | case1 => simp
  | case2 sign signs alt source rest taken ih =>
      have shorter := length_lt_of_readImage taken
      simp only [List.length_cons] at shorter ⊢
      omega
  | case3 sign signs passed ih =>
      simp only [List.length_cons]
      omega

theorem mem_of_mem_parts {part : Part δ} (listed : part ∈ parts char? signs)
    (member : sign ∈ part.shown) : sign ∈ signs := by
  fun_induction parts char? signs with
  | case1 => contradiction
  | case2 first signs alt source rest taken ih =>
      obtain ⟨opening, middle, closing, whole, _⟩ := readImage_eq_some taken
      rw [whole]
      rcases List.mem_cons.mp listed with rfl | later
      · simp only [Part.shown, List.mem_append] at member ⊢
        rcases member with inSource | inAlt
        · exact .inr (.inr (.inr (.inl inSource)))
        · exact .inr (.inl inAlt)
      · simp [ih later]
  | case3 first signs passed ih =>
      rcases List.mem_cons.mp listed with rfl | later
      · obtain rfl := List.mem_singleton.mp member
        exact List.mem_cons_self
      · exact .tail _ (ih later)

/-- A character that may stand anywhere in an image. -/
def isNeutral (c : Char) : Bool := c ∉ ['!', '[', ']', '(', ')'] && !isBlank c

theorem parts_append {front : List δ} (neutral : ∀ sign ∈ front, (char? sign).all isNeutral = true) :
    parts char? (front ++ rest) = front.map .sign ++ parts char? rest := by
  induction front with
  | nil => rfl
  | cons sign front ih =>
      have other : char? sign ≠ some '!' := by
        intro same
        have all := neutral sign (by simp)
        rw [same] at all
        exact absurd all (by decide)
      have passed : readImage char? (sign :: (front ++ rest)) = none := by
        rw [readImage, behind, if_neg other]
        rfl
      rw [List.cons_append, parts_of_not_read passed, ih fun one member => neutral one (by simp [member])]
      rfl

end Parts

section Spelling

/-- Characters are spelled as themselves, and links by signs that tell nothing of images. -/
structure IsSpelling (char? : γ → Option Char) (spelt? : δ → Option Char) (spell : γ → List δ) :
    Prop where
  char : ∀ {sign c}, char? sign = some c → ∃ spelt, spell sign = [spelt] ∧ spelt? spelt = some c
  link : ∀ {sign}, char? sign = none → spell sign ≠ [] ∧
    ∀ spelt ∈ spell sign, (spelt? spelt).all isNeutral = true

variable {char? : γ → Option Char} {spelt? : δ → Option Char} {spell : γ → List δ}
  (spelling : IsSpelling char? spelt? spell)

include spelling

theorem IsSpelling.areJudged {test : Char → Bool} (neutral : ∀ c, isNeutral c = true → test c = true) :
    AreJudged (passes spelt? test) (passes char? test) spell := by
  intro sign
  cases known : char? sign with
  | none =>
      have passed : passes char? test sign = true := by rw [passes, known]; rfl
      rw [if_pos passed]
      intro spelt member
      have all := (spelling.link known).2 spelt member
      unfold passes
      cases char : spelt? spelt with
      | none => rfl
      | some c =>
          rw [char] at all
          exact neutral c all
  | some c =>
      obtain ⟨spelt, same, char⟩ := spelling.char known
      have first : passes char? test sign = test c := by rw [passes, known]; rfl
      have second : passes spelt? test spelt = test c := by rw [passes, char]; rfl
      split
      · rename_i passed
        simpa [same, second, first] using passed
      · rename_i stopped
        exact ⟨spelt, [], same, by simpa [second, first] using stopped⟩

theorem IsSpelling.behind_flatMap {front : Text} (special : front.any isNeutral = false)
    (signs : List γ) :
    behind spelt? front (signs.flatMap spell) =
      (behind char? front signs).map (·.flatMap spell) := by
  induction front generalizing signs with
  | nil => rfl
  | cons c front ih =>
      cases signs with
      | nil => rfl
      | cons sign signs =>
          rw [List.flatMap_cons, behind]
          cases known : char? sign with
          | none =>
              -- No sign of a link's spelling can be the special character looked for.
              obtain ⟨nonempty, neutral⟩ := spelling.link known
              obtain ⟨spelt, more, written⟩ := List.exists_cons_of_ne_nil nonempty
              have other : spelt? spelt ≠ some c := by
                intro same
                have all := neutral spelt (by simp [written])
                rw [same] at all
                rw [List.any_cons, Bool.or_eq_false_iff] at special
                simp [special.1] at all
              rw [written, List.cons_append, behind, if_neg other]
              simp
          | some d =>
              obtain ⟨spelt, written, char⟩ := spelling.char known
              rw [written, List.singleton_append, behind, char]
              by_cases same : some d = some c
              · rw [if_pos same, if_pos same]
                rw [List.any_cons, Bool.or_eq_false_iff] at special
                exact ih special.2 signs
              · rw [if_neg same, if_neg same]
                rfl

theorem IsSpelling.ne_nil (sign : γ) : spell sign ≠ [] := by
  cases known : char? sign with
  | none => exact (spelling.link known).1
  | some c =>
      obtain ⟨spelt, written, _⟩ := spelling.char known
      simp [written]

theorem IsSpelling.readImage_flatMap (signs : List γ) :
    readImage spelt? (signs.flatMap spell) = (readImage char? signs).map
      fun (alt, source, rest) => (alt.flatMap spell, source.flatMap spell, rest.flatMap spell) := by
  have untilBracket : AreJudged (passes spelt? (· ≠ ']')) (passes char? (· ≠ ']')) spell :=
    spelling.areJudged (by simp +contextual [isNeutral])
  have inSource : AreJudged (passes spelt? Image.inSource) (passes char? Image.inSource) spell :=
    spelling.areJudged (by simp +contextual [isNeutral, Image.inSource])
  unfold readImage
  rw [spelling.behind_flatMap (by decide)]
  cases behind char? ['!', '['] signs with
  | none => rfl
  | some inner =>
      simp only [Option.map_some, Option.bind_eq_bind, Option.bind_some,
        dropWhile_flatMap untilBracket, takeWhile_flatMap untilBracket]
      rw [spelling.behind_flatMap (by decide)]
      cases behind char? [']', '('] (inner.dropWhile _) with
      | none => rfl
      | some source =>
          simp only [Option.map_some, Option.bind_some, dropWhile_flatMap inSource,
            takeWhile_flatMap inSource]
          rw [spelling.behind_flatMap (by decide)]
          cases behind char? [')'] (source.dropWhile _) with
          | none => rfl
          | some rest =>
              simp only [Option.map_some, Option.bind_some]
              cases taken : source.takeWhile (passes char? Image.inSource) with
              | nil => rfl
              | cons first more =>
                  obtain ⟨spelt, others, written⟩ :=
                    List.exists_cons_of_ne_nil (spelling.ne_nil first)
                  simp [written]

theorem IsSpelling.parts_flatMap (signs : List γ) :
    parts spelt? (signs.flatMap spell) = (parts char? signs).flatMap (Part.spell spell) := by
  fun_induction parts char? signs with
  | case1 => simp [parts]
  | case2 sign signs alt source rest taken ih =>
      have found : readImage spelt? ((sign :: signs).flatMap spell) =
          some (alt.flatMap spell, source.flatMap spell, rest.flatMap spell) := by
        rw [spelling.readImage_flatMap, taken]
        rfl
      rw [parts_of_read found, ih]
      rfl
  | case3 sign signs passed ih =>
      cases known : char? sign with
      | none =>
          rw [List.flatMap_cons, parts_append (spelling.link known).2, ih]
          rfl
      | some c =>
          obtain ⟨spelt, written, _⟩ := spelling.char known
          have absent : readImage spelt? (spelt :: signs.flatMap spell) = none := by
            have same := spelling.readImage_flatMap (sign :: signs)
            rwa [List.flatMap_cons, written, passed] at same
          rw [List.flatMap_cons, List.flatMap_cons, written, List.singleton_append,
            parts_of_not_read absent, ih, Part.spell, written]
          rfl

end Spelling

/-! Images of a text without links. -/

theorem behind_some {front text rest : Text} (found : behind some front text = some rest) :
    text = front ++ rest := by
  induction front generalizing text with
  | nil =>
      cases found
      rfl
  | cons c front ih =>
      cases text with
      | nil => cases found
      | cons d text =>
          rw [behind] at found
          split at found
          · rename_i same
            cases same
            rw [ih found, List.cons_append]
          · cases found

theorem passes_some (test : Char → Bool) : passes some test = test := rfl

theorem behind_eq_none {front text : Text} (other : ∀ rest, text ≠ front ++ rest) :
    behind some front text = none :=
  Option.eq_none_iff_forall_ne_some.mpr fun rest found => other rest (behind_some found)

theorem read_eq_readImage (text : Text) :
    Image.read text = (readImage some text).map
      fun (alt, source, rest) => (⟨alt, source⟩, rest) := by
  unfold Image.read readImage
  simp only [passes_some]
  split
  · rename_i inner
    have opened : behind some ['!', '['] ('!' :: '[' :: inner) = some inner := rfl
    simp only [opened, Option.bind_eq_bind, Option.bind_some]
    split
    · rename_i inSource found
      rw [found]
      have between : behind some [']', '('] (']' :: '(' :: inSource) = some inSource := rfl
      simp only [between, Option.bind_some]
      split
      · rename_i c source rest taken left
        rw [left, taken]
        rfl
      · rename_i other
        cases closed : behind some [')'] (inSource.dropWhile Image.inSource) with
        | none => rfl
        | some rest =>
            cases taken : inSource.takeWhile Image.inSource with
            | nil => rfl
            | cons c source => exact absurd (behind_some closed) (other c source rest taken)
    · rename_i other
      rw [behind_eq_none fun rest same => other rest same]
      rfl
  · rename_i other
    rw [behind_eq_none fun rest same => other rest same]
    rfl

theorem pieces_eq_parts (text : Text) :
    Image.pattern.pieces text = (parts some text).map Part.piece := by
  have free : Image.pattern.IsFree := fun _ _ => rfl
  fun_induction parts some text with
  | case1 =>
      rw [Pattern.pieces, Pattern.split]
      rfl
  | case2 c text alt source rest taken ih =>
      have found : Image.pattern.read none (c :: text) = some (⟨alt, source⟩, rest) := by
        change Image.read (c :: text) = _
        rw [read_eq_readImage, taken]
        rfl
      rw [free.pieces_of_read found, ih]
      rfl
  | case3 c text passed ih =>
      have absent : Image.pattern.read none (c :: text) = none := by
        change Image.read (c :: text) = _
        rw [read_eq_readImage, passed]
        rfl
      rw [free.pieces_of_not_read absent, ih]
      rfl

end Gamebook.Markup
