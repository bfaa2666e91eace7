import Gamebook.Markup.Inline
import Gamebook.Proofs.Markup.Addresses
import Gamebook.Proofs.Markup.Restoring
import Gamebook.Proofs.Markup.Tags

/-!
Markup that is read part by part. Tags without attributes and plain characters show nothing, so what a
text shows in the end is what stands behind its placeholders, in their order. The passes for strong text
and emphasis write tags in the place of asterisks and leave this order as it is.
-/

namespace Gamebook.Markup

open Gamebook.Text Placeholder

variable {html drawn text rest front : Text} {shown : List Text} {c : Char}
  {fragments more images : List Text} {reads : Text → List Text → Prop}

/-- A tag without attributes. -/
def isTag (text : Text) : Bool := Tag.names.any fun name => text = (Tag.bare name).write

/-- A character that has no meaning in markup. -/
def IsPlain (c : Char) : Prop := (c ≠ '<' ∧ c ≠ '>') ∧ ¬ IsMark c

instance : DecidablePred IsPlain := fun _ => inferInstanceAs (Decidable (_ ∧ _))

theorem isPlain_of_all {text : Text} (all : text.all (IsPlain ·) = true) :
    ∀ c ∈ text, IsPlain c := by
  simpa using all

/-- What is shown is read part by part. -/
structure IsReading (reads : Text → List Text → Prop) : Prop where
  nil : reads [] []
  eq_nil : ∀ {shown}, reads [] shown → shown = []
  append : ∀ {left right leftShown rightShown}, reads left leftShown → reads right rightShown →
    reads (left ++ right) (leftShown ++ rightShown)
  plain : ∀ {c}, IsPlain c → reads [c] []
  tag : ∀ {tag}, isTag tag = true → reads tag []

theorem isTag_cases {tag : Text} (isTag : isTag tag = true) :
    ∃ name ∈ Tag.names, tag = (Tag.bare name).write := by
  obtain ⟨name, known, same⟩ := List.any_eq_true.mp isTag
  exact ⟨name, known, of_decide_eq_true same⟩

theorem not_mem_tag {tag : Text} (isTag : isTag tag = true) :
    '*' ∉ tag ∧ ∀ mark, IsMark mark → mark ∉ tag := by
  obtain ⟨name, known, rfl⟩ := isTag_cases isTag
  have names : ∀ name ∈ Tag.names, (Tag.bare name).write.all (fun c => c ≠ '*' ∧ ¬IsMark c) = true := by
    decide
  have other : ∀ c ∈ (Tag.bare name).write, c ≠ '*' ∧ ¬IsMark c := by
    simpa using names name known
  exact ⟨fun member => (other _ member).1 rfl, fun mark marks member => (other _ member).2 marks⟩

theorem isReading_shows : IsReading Shows where
  nil := Shows.nil
  eq_nil := Shows.eq_nil
  append := Shows.append
  plain := fun plain => Shows.quiet fun member => plain.1.1 (List.mem_singleton.mp member).symm
  tag := fun isTag => by
    obtain ⟨name, known, rfl⟩ := isTag_cases isTag
    exact .bare known

theorem isReading_holdsValues : IsReading HoldsValues where
  nil := .nil
  eq_nil := fun holds => holds.eq_nil rfl
  append := .append
  plain := fun plain => .char plain.1.1 plain.1.2
  tag := fun isTag => by
    obtain ⟨name, known, rfl⟩ := isTag_cases isTag
    exact .bare known

theorem IsReading.quiet (reading : IsReading reads) (quiet : ∀ c ∈ text, IsPlain c) :
    reads text [] := by
  induction text with
  | nil => exact reading.nil
  | cons c text ih =>
      exact reading.append (reading.plain (quiet c (by simp))) (ih fun d member => quiet d (by simp [member]))

/-- What is read of a text once the fragments of its links are restored. -/
def Behind (reads : Text → List Text → Prop) (fragments : List Text) (html : Text)
    (shown : List Text) : Prop :=
  ∃ whole, Restored linkMark fragments html whole ∧ reads whole shown

namespace Behind

theorem of_free (free : linkMark ∉ html) (told : reads html shown) : Behind reads fragments html shown :=
  ⟨html, .same free, told⟩

theorem extend (longer : fragments <+: more) (told : Behind reads fragments html shown) :
    Behind reads more html shown := by
  obtain ⟨whole, restored, told⟩ := told
  exact ⟨whole, restored.extend longer, told⟩

theorem of_nil (told : Behind reads [] html shown) : reads html shown := by
  obtain ⟨whole, restored, told⟩ := told
  exact restored.eq_of_nil ▸ told

theorem restore (few : fragments.length ≤ indexLimit) (told : Behind reads fragments html shown) :
    ∃ whole, Placeholder.restore linkMark fragments html = .ok whole ∧ reads whole shown := by
  obtain ⟨whole, restored, told⟩ := told
  exact ⟨whole, restored.restore_eq (.inr rfl) few, told⟩

end Behind

theorem isReading_behind (reading : IsReading reads) (fragments : List Text) :
    IsReading (Behind reads fragments) where
  nil := ⟨[], .nil, reading.nil⟩
  eq_nil := by
    rintro shown ⟨whole, restored, told⟩
    obtain rfl := restored.eq_nil
    exact reading.eq_nil told
  append := by
    rintro left right leftShown rightShown ⟨first, firstRestored, firstTold⟩ ⟨second, restored, told⟩
    exact ⟨_, firstRestored.append restored, reading.append firstTold told⟩
  plain := fun plain =>
    .of_free (fun member => plain.2 (.inr (List.mem_singleton.mp member).symm)) (reading.plain plain)
  tag := fun isTag => .of_free ((not_mem_tag isTag).2 linkMark (.inr rfl)) (reading.tag isTag)

/-- A line whose images are put aside: plain characters, texts that later passes leave alone, and the
placeholders of images. -/
inductive Composed (reads : Text → List Text → Prop) (images : List Text) : Text → List Text → Prop
  | nil : Composed reads images [] []
  | plain {c : Char} {text : Text} {shown : List Text} (plain : IsPlain c)
      (others : Composed reads images text shown) : Composed reads images (c :: text) shown
  | fixed {fixed text : Text} {first shown : List Text} (told : reads fixed first)
      (noStar : '*' ∉ fixed) (noImage : imageMark ∉ fixed) (others : Composed reads images text shown) :
      Composed reads images (fixed ++ text) (first ++ shown)
  | image {number : Nat} {html text : Text} {first shown : List Text}
      (known : images[number]? = some html) (told : reads html first)
      (others : Composed reads images text shown) :
      Composed reads images (ofNumber imageMark number ++ text) (first ++ shown)

namespace Composed

theorem append {left right : Text} {leftShown rightShown : List Text}
    (first : Composed reads images left leftShown) (second : Composed reads images right rightShown) :
    Composed reads images (left ++ right) (leftShown ++ rightShown) := by
  induction first with
  | nil => exact second
  | plain plain _ ih => exact .plain plain ih
  | fixed told noStar noImage _ ih =>
      rw [List.append_assoc, List.append_assoc]
      exact .fixed told noStar noImage ih
  | image known told _ ih =>
      rw [List.append_assoc, List.append_assoc]
      exact .image known told ih

theorem quiet (quiet : ∀ c ∈ text, IsPlain c) : Composed reads images text [] := by
  induction text with
  | nil => exact .nil
  | cons c text ih =>
      exact .plain (quiet c List.mem_cons_self) (ih fun d member => quiet d (.tail _ member))

/-- What a line shows is read off it when its images are restored. -/
theorem restore (reading : IsReading reads) (few : images.length ≤ indexLimit)
    (composed : Composed reads images text shown) :
    ∃ html, Placeholder.restore imageMark images text = .ok html ∧ reads html shown := by
  have restored : ∃ html, Restored imageMark images text html ∧ reads html shown := by
    induction composed with
    | nil => exact ⟨[], .nil, reading.nil⟩
    | plain plain _ ih =>
        obtain ⟨html, restored, told⟩ := ih
        exact ⟨_, .char (fun same => plain.2 (.inl same)) restored,
          reading.append (reading.plain plain) told⟩
    | fixed first _ noImage _ ih =>
        obtain ⟨html, restored, told⟩ := ih
        exact ⟨_, (Restored.same noImage).append restored, reading.append first told⟩
    | image known first _ ih =>
        obtain ⟨html, restored, told⟩ := ih
        exact ⟨_, .fragment known restored, reading.append first told⟩
  obtain ⟨html, restored, told⟩ := restored
  exact ⟨html, restored.restore_eq (.inl rfl) few, told⟩

end Composed

/-- A text with some of its asterisks dropped or replaced by tags. -/
inductive Redrawn : Text → Text → Prop
  | nil : Redrawn [] []
  | keep {text drawn : Text} (c : Char) (others : Redrawn text drawn) :
      Redrawn (c :: text) (c :: drawn)
  | drop {text drawn : Text} (others : Redrawn text drawn) : Redrawn ('*' :: text) drawn
  | tag {tag text drawn : Text} (isTag : isTag tag = true) (others : Redrawn text drawn) :
      Redrawn ('*' :: text) (tag ++ drawn)

namespace Redrawn

theorem same (text : Text) : Redrawn text text := by
  induction text with
  | nil => exact .nil
  | cons c text ih => exact .keep c ih

theorem append {left right leftDrawn rightDrawn : Text} (first : Redrawn left leftDrawn)
    (second : Redrawn right rightDrawn) : Redrawn (left ++ right) (leftDrawn ++ rightDrawn) := by
  induction first with
  | nil => exact second
  | keep c _ ih => exact .keep c ih
  | drop _ ih => exact .drop ih
  | tag isTag _ ih =>
      rw [List.append_assoc]
      exact .tag isTag ih

theorem behind (noStar : '*' ∉ front) (redrawn : Redrawn (front ++ rest) drawn) :
    ∃ drawnRest, drawn = front ++ drawnRest ∧ Redrawn rest drawnRest := by
  induction front generalizing drawn with
  | nil => exact ⟨drawn, rfl, redrawn⟩
  | cons c front ih =>
      rw [List.cons_append] at redrawn
      cases redrawn with
      | keep _ others =>
          obtain ⟨drawnRest, rfl, below⟩ := ih (fun member => noStar (.tail _ member)) others
          exact ⟨drawnRest, rfl, below⟩
      | drop => exact absurd List.mem_cons_self noStar
      | tag => exact absurd List.mem_cons_self noStar

theorem replace {α : Type} {pattern : Pattern α} {f : α → Text}
    (redraws : ∀ token, Redrawn (pattern.write token) (f token)) (text : Text) :
    Redrawn text (pattern.replace f text) := by
  have whole := pattern.flatMap_text_pieces text
  unfold Pattern.replace
  generalize pattern.pieces text = pieces at whole ⊢
  subst whole
  induction pieces with
  | nil => exact .nil
  | cons piece pieces ih =>
      cases piece with
      | plain c => exact .keep c ih
      | token value => exact (redraws value).append ih

theorem asterisk {tag : Text} (isTag : isTag tag = true) : Redrawn ['*'] tag := by
  simpa using Redrawn.tag isTag .nil

theorem strong (text : Text) : Redrawn text (Strong.pattern.replace Strong.html text) := by
  refine replace (fun content => ?_) text
  have opened : Redrawn ['*', '*'] "<strong>".toList := .drop (asterisk (by decide))
  have closed : Redrawn ['*', '*'] "</strong>".toList := .drop (asterisk (by decide))
  exact (opened.append (same content)).append closed

theorem emphasis (text : Text) : Redrawn text (Emphasis.pattern.replace Emphasis.html text) := by
  refine replace (fun content => ?_) text
  have opened : Redrawn ['*'] "<em>".toList := asterisk (by decide)
  have closed : Redrawn ['*'] "</em>".toList := asterisk (by decide)
  exact (opened.append (same content)).append closed

end Redrawn

theorem Composed.redrawn (reading : IsReading reads) (composed : Composed reads images html shown)
    (redrawn : Redrawn html drawn) : Composed reads images drawn shown := by
  induction composed generalizing drawn with
  | nil =>
      cases redrawn
      exact .nil
  | plain plain _ ih =>
      cases redrawn with
      | keep _ others => exact .plain plain (ih others)
      | drop others => exact ih others
      | tag isTag others =>
          obtain ⟨noStar, noMark⟩ := not_mem_tag isTag
          exact .fixed (reading.tag isTag) noStar (noMark imageMark (.inl rfl)) (ih others)
  | fixed told noStar noImage _ ih =>
      obtain ⟨drawnRest, rfl, others⟩ := redrawn.behind noStar
      exact .fixed told noStar noImage (ih others)
  | image known told _ ih =>
      obtain ⟨drawnRest, rfl, others⟩ := redrawn.behind (not_mem_ofNumber (by decide) (by decide))
      exact .image known told (ih others)

end Gamebook.Markup
