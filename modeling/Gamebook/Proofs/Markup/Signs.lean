import Gamebook.Proofs.Markup.Images

/-!
The links of a line in the order in which markup shows them: that of the line, but for images that
hold links on both sides.
-/

namespace Gamebook.Markup

open Gamebook.Text

variable {α β : Type}

/-- A character of a line, or one of its links. -/
inductive Sign (α : Type) where
  | plain (c : Char)
  | link (label : α)

namespace Sign

def char? : Sign α → Option Char
  | .plain c => some c
  | .link _ => none

def label? : Sign α → Option α
  | .plain _ => none
  | .link label => some label

def map (f : α → β) : Sign α → Sign β
  | .plain c => .plain c
  | .link label => .link (f label)

def write (write : α → Text) : Sign α → Text
  | .plain c => [c]
  | .link label => write label

end Sign

def labels (signs : List (Sign α)) : List α := signs.filterMap Sign.label?

/-- The signs in the order in which they are shown. -/
def shownOrder (signs : List (Sign α)) : List (Sign α) :=
  (parts Sign.char? signs).flatMap Part.shown

/-- No image holds links both in its alternate text and in its source. -/
def IsInOrder (signs : List (Sign α)) : Prop :=
  ∀ alt source, .image alt source ∈ parts Sign.char? signs → labels alt = [] ∨ labels source = []

variable {signs left right : List (Sign α)}

@[simp] theorem labels_append : labels (left ++ right) = labels left ++ labels right := by
  simp [labels]

theorem labels_flatMap {γ : Type} (signs : γ → List (Sign α)) (items : List γ) :
    labels (items.flatMap signs) = items.flatMap fun item => labels (signs item) := by
  simp [labels, List.filterMap_flatMap]

theorem labels_cons (sign : Sign α) :
    labels (sign :: signs) = sign.label?.toList ++ labels signs := by
  cases sign <;> rfl

theorem labels_of_chars (chars : ∀ sign ∈ signs, sign.char?.isSome = true) : labels signs = [] := by
  apply List.filterMap_eq_nil_iff.mpr
  intro sign member
  have char := chars sign member
  cases sign with
  | plain c => rfl
  | link label => cases char

theorem labels_map_plain (text : Text) : labels (text.map (Sign.plain (α := α))) = [] :=
  labels_of_chars fun sign member => by
    obtain ⟨c, _, rfl⟩ := List.mem_map.mp member
    rfl

theorem isSpelling_map (f : α → β) :
    IsSpelling Sign.char? Sign.char? fun sign : Sign α => [sign.map f] where
  char {sign c} known := by
    cases sign with
    | plain d => exact ⟨.plain d, rfl, known⟩
    | link => cases known
  link {sign} known := by
    cases sign with
    | plain => cases known
    | link => simp [Sign.map, Sign.char?]

theorem isSpelling_write {write : α → Text} (nonempty : ∀ label, write label ≠ [])
    (neutral : ∀ label, ∀ c ∈ write label, isNeutral c = true) :
    IsSpelling Sign.char? some (Sign.write write) where
  char {sign c} known := by
    cases sign with
    | plain d => exact ⟨d, rfl, known⟩
    | link => cases known
  link {sign} known := by
    cases sign with
    | plain => cases known
    | link label => exact ⟨nonempty label, neutral label⟩

/-- The part with its links replaced. -/
def Part.relabel (f : α → β) : Part (Sign α) → Part (Sign β)
  | .sign single => .sign (single.map f)
  | .image alt source => .image (alt.map (Sign.map f)) (source.map (Sign.map f))

theorem parts_relabel (f : α → β) (signs : List (Sign α)) :
    parts Sign.char? (signs.map (Sign.map f)) = (parts Sign.char? signs).map (Part.relabel f) := by
  have spelt := (isSpelling_map f).parts_flatMap signs
  rw [List.map_eq_flatMap, spelt, List.map_eq_flatMap]
  congr 1
  funext part
  cases part with
  | sign single => rfl
  | image alt source => simp only [Part.spell, Part.relabel, List.map_eq_flatMap]

theorem labels_of_readImage {alt source rest : List (Sign α)}
    (taken : readImage Sign.char? signs = some (alt, source, rest)) :
    labels signs = labels alt ++ labels source ++ labels rest := by
  obtain ⟨opening, middle, closing, rfl, _, chars⟩ := readImage_eq_some taken
  have first : labels opening = [] := labels_of_chars fun sign member => chars sign (by simp [member])
  have second : labels middle = [] := labels_of_chars fun sign member => chars sign (by simp [member])
  have third : labels closing = [] := labels_of_chars fun sign member => chars sign (by simp [member])
  simp [first, second, third]

theorem labels_shownOrder_perm (signs : List (Sign α)) :
    (labels (shownOrder signs)).Perm (labels signs) := by
  unfold shownOrder
  fun_induction parts Sign.char? signs with
  | case1 => exact .nil
  | case2 sign signs alt source rest taken ih =>
      rw [labels_of_readImage taken, List.flatMap_cons, Part.shown, labels_append, labels_append]
      exact List.perm_append_comm.append ih
  | case3 sign signs passed ih =>
      rw [List.flatMap_cons, Part.shown, List.singleton_append, labels_cons, labels_cons]
      exact ih.append_left _

theorem labels_shownOrder_eq (ordered : IsInOrder signs) :
    labels (shownOrder signs) = labels signs := by
  unfold shownOrder
  unfold IsInOrder at ordered
  fun_induction parts Sign.char? signs with
  | case1 => rfl
  | case2 sign signs alt source rest taken ih =>
      have others := ih fun alt source member => ordered alt source (.tail _ member)
      have same : labels source ++ labels alt = labels alt ++ labels source := by
        rcases ordered alt source (by simp) with none | none <;> simp [none]
      rw [labels_of_readImage taken, List.flatMap_cons, Part.shown, labels_append, labels_append,
        others, same]
  | case3 sign signs passed ih =>
      have others := ih fun alt source member => ordered alt source (.tail _ member)
      rw [List.flatMap_cons, Part.shown, List.singleton_append, labels_cons, labels_cons, others]

end Gamebook.Markup
