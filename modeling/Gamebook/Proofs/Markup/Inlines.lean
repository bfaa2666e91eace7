import Gamebook.Proofs.Markup.Carrying
import Gamebook.Proofs.Markup.Signs

/-!
A line whose links are placeholders is rendered, and part by part it is read what its markup will show
when the links are restored.
-/

namespace Gamebook.Markup

open Gamebook.Text Placeholder

variable {fragments images : List Text} {text : Text}

section Signs

variable {α : Type} (number : α → Nat)

/-- A sign as it stands in a line whose links are put aside. -/
def covered : Sign α → Text := Sign.write fun label => ofNumber linkMark (number label)

/-- A character that stands around no placeholder, or a link whose markup is put aside. -/
def IsPut (html : α → Text) (fragments : List Text) : Sign α → Prop
  | .plain c => ¬ IsMark c
  | .link label => fragments[number label]? = some (html label)

/-- A sign as it stands in markup in the end. -/
def Sign.html (style : EscapeStyle) (html : α → Text) : Sign α → Text
  | .plain c => style.char c
  | .link label => html label

def writeImage (html : α → Text) (alt source : List (Sign α)) : Text :=
  (Tag.image (source.flatMap (Sign.html .inAttribute html))
    (alt.flatMap (Sign.html .inAttribute html))).write

theorem isNeutral_of_isDigit {c : Char} (digit : c.isDigit = true) : isNeutral c = true := by
  have bounds := Char.isDigit_iff_toNat.mp digit
  have notBlank : isBlank c = false := by
    simp only [Char.reduceToNat] at bounds
    simp [isBlank]
    omega
  have noSign : c ∉ ['!', '[', ']', '(', ')'] := by
    intro special
    simp only [List.mem_cons, List.not_mem_nil, or_false] at special
    rcases special with rfl | rfl | rfl | rfl | rfl <;> exact absurd digit (by decide)
  simp [isNeutral, notBlank, noSign]

theorem isSpelling_covered : IsSpelling Sign.char? some (covered number) := by
  refine isSpelling_write (fun label => by simp [ofNumber, Placeholder.write]) fun label c member => ?_
  rcases mem_ofNumber member with rfl | digit
  · decide
  · exact isNeutral_of_isDigit digit

variable {number} {signs : List (Sign α)}

theorem escape_ofNumber {style : EscapeStyle} {mark : Char} (marks : IsMark mark) (n : Nat) :
    escape style (ofNumber mark n) = ofNumber mark n := by
  apply escape_of_plain
  intro c member special
  simp only [List.mem_cons, List.not_mem_nil, or_false] at special
  rcases mem_ofNumber member with same | digit
  · rcases marks with marks | marks <;> rw [same, marks] at special <;> revert special <;> decide
  · rcases special with rfl | rfl | rfl | rfl | rfl <;> exact absurd digit (by decide)

variable {html : α → Text} {reads : Text → List Text → Prop} {shown : Part (Sign α) → List Text}

theorem restored_escape {style : EscapeStyle} (entities : linkMark ∉ entityCharacters style)
    (put : ∀ sign ∈ signs, IsPut number html fragments sign) :
    Restored linkMark fragments (escape style (signs.flatMap (covered number)))
      (signs.flatMap (Sign.html style html)) := by
  induction signs with
  | nil => exact .nil
  | cons sign signs ih =>
      have first := put sign List.mem_cons_self
      rw [List.flatMap_cons, escape_append, List.flatMap_cons]
      refine Restored.append ?_ (ih fun other member => put other (.tail _ member))
      cases sign with
      | plain c =>
          change Restored linkMark fragments (style.char c ++ []) (style.char c)
          rw [List.append_nil]
          refine .same fun member => ?_
          rcases char_cases style c with ⟨same, _⟩ | entity
          · rw [same, List.mem_singleton] at member
            exact first (.inr member.symm)
          · exact entities (entity _ member)
      | link label =>
          change Restored linkMark fragments (escape style (ofNumber linkMark (number label))) (html label)
          rw [escape_ofNumber (.inr rfl)]
          exact .single first

theorem restored_image {alt source : List (Sign α)}
    (put : ∀ sign ∈ source ++ alt, IsPut number html fragments sign) :
    Restored linkMark fragments
      (Image.html ⟨alt.flatMap (covered number), source.flatMap (covered number)⟩)
      (writeImage html alt source) := by
  have inSource := @restored_escape _ _ _ source html .inAttribute (by decide) fun sign member =>
    put sign (List.mem_append_left _ member)
  have inAlt := @restored_escape _ _ _ alt html .inAttribute (by decide) fun sign member =>
    put sign (List.mem_append_right _ member)
  have opening : Restored linkMark fragments "<img src=\"" "<img src=\"" := .same (by decide)
  have middle : Restored linkMark fragments "\" alt=\"" "\" alt=\"" := .same (by decide)
  have closing : Restored linkMark fragments "\" />" "\" />" := .same (by decide)
  exact (((opening.append inSource).append middle).append inAlt).append closing

/-- What is said to be shown of a part is what is read of it. -/
def IsRead (reads : Text → List Text → Prop) (html : α → Text) (shown : Part (Sign α) → List Text) :
    Part (Sign α) → Prop
  | .sign (.plain c) => shown (.sign (.plain c)) = []
  | .sign (.link label) => reads (html label) (shown (.sign (.link label)))
  | .image alt source => reads (writeImage html alt source) (shown (.image alt source))

def imageHtml? (number : α → Nat) : Part (Sign α) → Option Text
  | .sign _ => none
  | .image alt source =>
    some (Image.html ⟨alt.flatMap (covered number), source.flatMap (covered number)⟩)

def coveredPieces (number : α → Nat) (parts : List (Part (Sign α))) : List (Piece Image) :=
  (parts.flatMap (Part.spell (covered number))).map Part.piece

theorem coveredPieces_cons (part : Part (Sign α)) (parts : List (Part (Sign α))) :
    coveredPieces number (part :: parts) =
      coveredPieces number [part] ++ coveredPieces number parts := by
  simp [coveredPieces]

theorem coveredPieces_sign (sign : Sign α) :
    coveredPieces number [.sign sign] = (covered number sign).map .plain := by
  simp [coveredPieces, Part.spell, Part.piece]

theorem map_html_coveredPieces (parts : List (Part (Sign α))) :
    ((coveredPieces number parts).filterMap Piece.token?).map Image.html =
      parts.filterMap (imageHtml? number) := by
  induction parts with
  | nil => rfl
  | cons part parts ih =>
      rw [coveredPieces_cons, List.filterMap_append, List.map_append, ih]
      cases part with
      | sign sign =>
          have noToken : ((covered number sign).map (Piece.plain (α := Image))).filterMap Piece.token? =
              [] := by
            simp [Piece.token?]
          rw [coveredPieces_sign, noToken]
          rfl
      | image alt source => rfl

theorem markImages_plain (n : Nat) (text : Text) (pieces : List (Piece Image)) :
    Inline.markImages n (text.map .plain ++ pieces) = text ++ Inline.markImages n pieces := by
  induction text with
  | nil => rfl
  | cons c text ih => rw [List.map_cons, List.cons_append, Inline.markImages, ih]; rfl

theorem composed_sign {sign : Sign α} (put : IsPut number html fragments sign)
    (read : IsRead reads html shown (.sign sign)) :
    Composed (Behind reads fragments) images (escape .inText (covered number sign))
      (shown (.sign sign)) := by
  cases sign with
  | plain c =>
      change Composed _ images (EscapeStyle.inText.char c ++ []) _
      rw [List.append_nil, read]
      refine .quiet fun d member => ?_
      rcases char_cases .inText c with ⟨same, plain⟩ | entity
      · rw [same, List.mem_singleton] at member
        subst member
        exact ⟨⟨fun lt => plain (by simp [lt]), fun gt => plain (by simp [gt])⟩, put⟩
      · exact isPlain_of_all (by decide) d (entity d member)
  | link label =>
      change Composed _ images (escape .inText (ofNumber linkMark (number label))) _
      rw [escape_ofNumber (.inr rfl)]
      have noStar : '*' ∉ ofNumber linkMark (number label) := not_mem_ofNumber (by decide) (by decide)
      have noImage : imageMark ∉ ofNumber linkMark (number label) :=
        not_mem_ofNumber (by decide) (by decide)
      have alone := @Composed.fixed (Behind reads fragments) images _ [] _ []
        ⟨html label, .single put, read⟩ noStar noImage .nil
      rwa [List.append_nil, List.append_nil] at alone

/-- A line whose images are put aside too shows what its parts show; `earlier` are the images in front
of these parts. -/
theorem composed_markImages (parts : List (Part (Sign α))) (earlier : List Text)
    (all : images = earlier ++ parts.filterMap (imageHtml? number))
    (put : ∀ part ∈ parts, ∀ sign ∈ part.shown, IsPut number html fragments sign)
    (read : ∀ part ∈ parts, IsRead reads html shown part) :
    Composed (Behind reads fragments) images
      (escape .inText (Inline.markImages earlier.length (coveredPieces number parts)))
      (parts.flatMap shown) := by
  induction parts generalizing earlier with
  | nil => exact .nil
  | cons part parts ih =>
      have first := put part List.mem_cons_self
      have told := read part List.mem_cons_self
      have laterPut : ∀ other ∈ parts, ∀ sign ∈ other.shown, IsPut number html fragments sign :=
        fun other member => put other (.tail _ member)
      have laterRead : ∀ other ∈ parts, IsRead reads html shown other :=
        fun other member => read other (.tail _ member)
      rw [coveredPieces_cons, List.flatMap_cons]
      cases part with
      | sign sign =>
          rw [coveredPieces_sign, markImages_plain, escape_append]
          exact (composed_sign (first sign (List.mem_singleton_self sign)) told).append
            (ih earlier all laterPut laterRead)
      | image alt source =>
          -- The next image has the number behind this one's.
          have others := ih (earlier ++ [Image.html ⟨alt.flatMap (covered number),
            source.flatMap (covered number)⟩]) (by simpa [imageHtml?] using all) laterPut laterRead
          rw [List.length_append, List.length_singleton] at others
          change Composed _ images (escape .inText
            (ofNumber imageMark earlier.length ++ Inline.markImages (earlier.length + 1) _)) _
          rw [escape_append, escape_ofNumber (.inl rfl)]
          refine .image ?_ ⟨writeImage html alt source, restored_image first, told⟩ others
          simp [all, imageHtml?]

/-- A line whose links are put aside is rendered, and its markup shows what its parts show. -/
theorem render_put (reading : IsReading reads) (put : ∀ sign ∈ signs, IsPut number html fragments sign)
    (read : ∀ part ∈ parts Sign.char? signs, IsRead reads html shown part)
    (short : signs.length ≤ indexLimit) :
    ∃ text, Inline.render (signs.flatMap (covered number)) = .ok text ∧
      Behind reads fragments text ((parts Sign.char? signs).flatMap shown) := by
  have cut : Image.pattern.pieces (signs.flatMap (covered number)) =
      coveredPieces number (parts Sign.char? signs) := by
    rw [pieces_eq_parts, (isSpelling_covered number).parts_flatMap]
    rfl
  have images : (Image.pattern.tokens (signs.flatMap (covered number))).map Image.html =
      (parts Sign.char? signs).filterMap (imageHtml? number) := by
    rw [Pattern.tokens, cut, map_html_coveredPieces]
  have few : ((parts Sign.char? signs).filterMap (imageHtml? number)).length ≤ indexLimit := by
    have fewer := List.length_filterMap_le (imageHtml? number) (parts Sign.char? signs)
    have shorter : (parts Sign.char? signs).length ≤ signs.length := length_parts_le signs
    omega
  have behind := isReading_behind reading fragments
  have marked := composed_markImages (parts Sign.char? signs) [] rfl (fun part listed sign member =>
    put sign (mem_of_mem_parts listed member)) read
  have drawn := (marked.redrawn behind (.strong _)).redrawn behind (.emphasis _)
  unfold Inline.render
  rw [cut, images]
  exact drawn.restore behind few

theorem isRead_relabel {β : Type} {html : β → Text} {shown : Part (Sign β) → List Text} {f : α → β}
    {part : Part (Sign α)} (read : IsRead reads html shown (part.relabel f)) :
    IsRead reads (fun label => html (f label)) (fun part => shown (part.relabel f)) part := by
  have same : ∀ sign : Sign α, Sign.html .inAttribute html (sign.map f) =
      Sign.html .inAttribute (fun label => html (f label)) sign := by
    intro sign
    cases sign <;> rfl
  cases part with
  | sign sign => cases sign <;> exact read
  | image alt source =>
      change reads (writeImage html _ _) _ at read
      simp only [writeImage, List.flatMap_map, same] at read
      exact read

/-- A page shows the addresses of the links in a part, those in the source of an image first. -/
theorem isRead_shows {leads : α → List Text} {part : Part (Sign α)}
    (known : ∀ label, .link label ∈ part.shown → Shows (html label) (leads label)) :
    IsRead Shows html (fun part => (labels part.shown).flatMap leads) part := by
  have inAttribute : ∀ signs : List (Sign α),
      (∀ label, .link label ∈ signs → Shows (html label) (leads label)) →
        Shows (signs.flatMap (Sign.html .inAttribute html)) ((labels signs).flatMap leads) := by
    intro signs known
    induction signs with
    | nil => exact .nil
    | cons sign signs ih =>
        rw [List.flatMap_cons, labels_cons, List.flatMap_append]
        refine Shows.append ?_ (ih fun label member => known label (.tail _ member))
        cases sign with
        | plain c => exact .quiet (not_mem_char .inAttribute '<' (by decide) (by decide) c)
        | link label =>
            rw [Sign.label?, Option.toList_some, List.flatMap_singleton]
            exact known label List.mem_cons_self
  cases part with
  | sign sign =>
      cases sign with
      | plain c => rfl
      | link label =>
          have shows := known label (List.mem_singleton_self _)
          change Shows (html label) (leads label ++ [])
          rwa [List.append_nil]
  | image alt source =>
      have inSource := inAttribute source fun label member => known label (List.mem_append_left _ member)
      have inAlt := inAttribute alt fun label member => known label (List.mem_append_right _ member)
      have whole := Shows.image inSource inAlt
      rwa [← List.flatMap_append, ← labels_append] at whole

/-- The links in an image. -/
def Part.inImage : Part (Sign α) → List α
  | .sign _ => []
  | .image alt source => labels (source ++ alt)

theorem Part.mem_shown_of_inImage {part : Part (Sign α)} {label : α} (member : label ∈ part.inImage) :
    .link label ∈ part.shown := by
  cases part with
  | sign sign => exact absurd member List.not_mem_nil
  | image alt source =>
      obtain ⟨sign, inside, same⟩ := List.mem_filterMap.mp member
      cases sign with
      | plain c => cases same
      | link other =>
          cases same
          exact inside

theorem isValue_attribute (signs : List (Sign α)) :
    Tag.IsValue (signs.flatMap (Sign.html .inAttribute html)) ↔
      ∀ value ∈ (labels signs).map html, Tag.IsValue value := by
  induction signs with
  | nil => simp [Tag.IsValue, labels]
  | cons sign signs ih =>
      rw [List.flatMap_cons, Tag.isValue_append, ih, labels_cons, List.map_append, List.forall_mem_append]
      refine and_congr_left fun _ => ?_
      cases sign with
      | plain c =>
          have opensNone := not_mem_char .inAttribute '<' (by decide) (by decide) c
          have unquoted := not_mem_char .inAttribute '"' (by decide) (by decide) c
          refine iff_of_true (Tag.isValue_of_not_mem opensNone unquoted) fun value member => ?_
          exact absurd member List.not_mem_nil
      | link label => simp [Sign.html, Sign.label?]

theorem guarded_attribute {signs : List (Sign α)}
    (known : ∀ label, .link label ∈ signs → Guarded (html label)) :
    Guarded (signs.flatMap (Sign.html .inAttribute html)) := by
  induction signs with
  | nil => exact .of_free List.not_mem_nil
  | cons sign signs ih =>
      rw [List.flatMap_cons]
      refine Guarded.append ?_ (ih fun label member => known label (.tail _ member))
      cases sign with
      | plain c => exact .of_free (not_mem_char .inAttribute '>' (by decide) (by decide) c)
      | link label => exact known label List.mem_cons_self

/-- The links in an image have to be values. -/
theorem isRead_holdsValues {part : Part (Sign α)}
    (known : ∀ label, .link label ∈ part.shown → HoldsValues (html label) []) :
    IsRead HoldsValues html (fun part => part.inImage.map html) part := by
  cases part with
  | sign sign =>
      cases sign with
      | plain c => rfl
      | link label => exact known label (List.mem_singleton_self _)
  | image alt source =>
      have inSource := guarded_attribute fun label member =>
        (known label (List.mem_append_left _ member)).guarded
      have inAlt := guarded_attribute fun label member =>
        (known label (List.mem_append_right _ member)).guarded
      refine .image inSource inAlt ?_
      change (∀ value ∈ (labels (source ++ alt)).map html, Tag.IsValue value) ↔ _
      rw [isValue_attribute, isValue_attribute, labels_append, List.map_append, List.forall_mem_append]

end Signs

/-- Text without the characters around placeholders. -/
def IsUnmarked (text : Text) : Prop := ∀ c ∈ text, ¬ IsMark c

instance (text : Text) : Decidable (IsUnmarked text) :=
  decidable_of_iff (text.all fun c => ¬ IsMark c) (by simp [IsUnmarked])

theorem IsUnmarked.part {part : Text} (unmarked : IsUnmarked text) (sublist : part.Sublist text) :
    IsUnmarked part := fun c member => unmarked c (sublist.subset member)

/-- A text in which nothing is put aside shows no address and is markup. -/
theorem render_unmarked (unmarked : IsUnmarked text) (short : text.length ≤ indexLimit) :
    ∃ html, Inline.render text = .ok html ∧ Behind Shows [] html [] ∧ Behind HoldsValues [] html [] := by
  have put : ∀ sign ∈ text.map (Sign.plain (α := Empty)), IsPut Empty.elim Empty.elim [] sign := by
    intro sign member
    obtain ⟨c, inside, rfl⟩ := List.mem_map.mp member
    exact unmarked c inside
  have few : (text.map (Sign.plain (α := Empty))).length ≤ indexLimit := by
    rwa [List.length_map]
  have whole : (text.map (Sign.plain (α := Empty))).flatMap (covered Empty.elim) = text := by
    rw [List.flatMap_map]
    exact List.flatMap_singleton' text
  have none : ∀ labels : List Empty, labels = [] := fun labels =>
    List.eq_nil_iff_forall_not_mem.mpr fun label => label.elim
  have quiet : ∀ part ∈ parts Sign.char? (text.map Sign.plain), IsRead Shows Empty.elim
      (fun part => (labels part.shown).flatMap Empty.elim) part :=
    fun part _ => isRead_shows fun label => label.elim
  obtain ⟨html, rendered, shows⟩ := render_put isReading_shows put quiet few
  obtain ⟨same, again, holds⟩ := render_put isReading_holdsValues put
    (fun part _ => isRead_holdsValues fun label => label.elim) few
  rw [whole] at rendered again
  rw [rendered] at again
  cases again
  have nothing : ∀ parts : List (Part (Sign Empty)), parts.flatMap (fun _ => ([] : List Text)) = [] := by
    simp
  simp only [none, List.flatMap_nil, List.map_nil, nothing] at shows holds
  exact ⟨html, rendered, shows, holds⟩

end Gamebook.Markup
