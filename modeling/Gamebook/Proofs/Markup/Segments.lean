import Gamebook.Proofs.Markup.Brackets
import Gamebook.Proofs.Markup.Inlines

/-!
A line while it is rendered, cut into characters, tags of strong text and emphasis, and images. Each
pass only cuts the line in another way: the segments behind it were written as those in front of it.
-/

namespace Gamebook.Markup

open Gamebook.Text Placeholder

inductive Segment where
  | char (c : Char)
  | tag (bracket : Bracket)
  | picture (number : Nat) (image : Image)

def Stress.asterisks : Stress → Text
  | .strong => ['*', '*']
  | .emphasis => ['*']

theorem Bracket.not_mem_write {c : Char} (bracket : Bracket) (opensNone : c ≠ '<')
    (outside : inTag c = false) : c ∉ bracket.write := by
  obtain ⟨tail, written, inside⟩ := bracket.exists_write
  rw [written, List.mem_cons, not_or]
  refine ⟨opensNone, fun member => ?_⟩
  rw [inside c member] at outside
  cases outside

theorem not_mem_char_of_ne {c d : Char} (other : c ≠ d) (unwritten : d ∉ entityCharacters .inText) :
    d ∉ EscapeStyle.inText.char c := by
  intro member
  rcases char_cases .inText c with ⟨same, _⟩ | entity
  · rw [same, List.mem_singleton] at member
    exact other member.symm
  · exact unwritten (entity d member)

theorem char_ne_nil (c : Char) : EscapeStyle.inText.char c ≠ [] := by
  unfold EscapeStyle.char
  split_ifs <;> simp [EscapeStyle.inText]

namespace Segment

/-- What was written for a segment. -/
def source : Segment → Text
  | .char c => [c]
  | .tag bracket => bracket.stress.asterisks
  | .picture _ image => image.write

/-- A segment while the images are put aside. -/
def covered : Segment → Text
  | .char c => EscapeStyle.inText.char c
  | .tag bracket => bracket.write
  | .picture number _ => ofNumber imageMark number

/-- A segment in the rendered line. -/
def html : Segment → Text
  | .char c => EscapeStyle.inText.char c
  | .tag bracket => bracket.write
  | .picture _ image => image.html

/-- No character is taken for a placeholder, and each image is put aside under its number. -/
def IsKnown (images : List Image) : Segment → Prop
  | .char c => c ≠ imageMark
  | .tag _ => True
  | .picture number image => images[number]? = some image

/-- The segments in front of all passes, the first image having this number. -/
def ofPieces : Nat → List (Piece Image) → List Segment
  | _, [] => []
  | number, .plain c :: pieces => .char c :: ofPieces number pieces
  | number, .token image :: pieces => .picture number image :: ofPieces (number + 1) pieces

variable {segment : Segment} {segments rest : List Segment} {images earlier : List Image}
  {pieces : List (Piece Image)} {text drawn : Text} {c : Char}

theorem source_ofPieces (number : Nat) (pieces : List (Piece Image)) :
    (ofPieces number pieces).flatMap source = pieces.flatMap Image.pattern.text := by
  induction pieces generalizing number with
  | nil => rfl
  | cons piece pieces ih =>
      cases piece with
      | plain c => rw [ofPieces, List.flatMap_cons, List.flatMap_cons, ih]; rfl
      | token image => rw [ofPieces, List.flatMap_cons, List.flatMap_cons, ih]; rfl

theorem covered_ofPieces (number : Nat) (pieces : List (Piece Image)) :
    (ofPieces number pieces).flatMap covered = escape .inText (Inline.markImages number pieces) := by
  induction pieces generalizing number with
  | nil => rfl
  | cons piece pieces ih =>
      cases piece with
      | plain c => rw [ofPieces, List.flatMap_cons, ih, Inline.markImages, escape_cons]; rfl
      | token image =>
          rw [ofPieces, List.flatMap_cons, ih, Inline.markImages, escape_append,
            escape_ofNumber (.inl rfl)]
          rfl

theorem isKnown_ofPieces (unmarked : ∀ c, .plain c ∈ pieces → c ≠ imageMark) (earlier : List Image) :
    ∀ segment ∈ ofPieces earlier.length pieces,
      segment.IsKnown (earlier ++ pieces.filterMap Piece.token?) := by
  induction pieces generalizing earlier with
  | nil => exact List.forall_mem_nil _
  | cons piece pieces ih =>
      have others := fun c member => unmarked c (.tail _ member)
      cases piece with
      | plain c => exact List.forall_mem_cons.mpr ⟨unmarked c List.mem_cons_self, ih others earlier⟩
      | token image =>
          have behind := ih others (earlier ++ [image])
          rw [List.length_append, List.length_singleton, List.append_assoc] at behind
          refine List.forall_mem_cons.mpr ⟨?_, behind⟩
          simp [IsKnown, Piece.token?]

theorem restored_html (known : ∀ segment ∈ segments, segment.IsKnown images) :
    Restored imageMark (images.map Image.html) (segments.flatMap covered) (segments.flatMap html) := by
  induction segments with
  | nil => exact .nil
  | cons segment segments ih =>
      obtain ⟨first, others⟩ := List.forall_mem_cons.mp known
      rw [List.flatMap_cons, List.flatMap_cons]
      refine Restored.append ?_ (ih others)
      cases segment with
      | char c => exact .same (not_mem_char_of_ne first (by decide))
      | tag bracket => exact .same (bracket.not_mem_write (by decide) (by decide))
      | picture number image =>
          have found : (images.map Image.html)[number]? = some image.html := by
            rw [List.getElem?_map, show images[number]? = some image from first]
            rfl
          exact .single found

theorem covered_cases (segment : Segment) : segment = .char '*' ∨ '*' ∉ segment.covered := by
  cases segment with
  | char c =>
      by_cases star : c = '*'
      · exact .inl (congrArg _ star)
      · exact .inr (not_mem_char_of_ne star (by decide))
  | tag bracket => exact .inr (bracket.not_mem_write (by decide) (by decide))
  | picture number image => exact .inr (not_mem_ofNumber (by decide) (by decide))

theorem covered_ne_nil (segment : Segment) : segment.covered ≠ [] := by
  cases segment with
  | char c => exact char_ne_nil c
  | tag bracket =>
      obtain ⟨tail, written, _⟩ := bracket.exists_write
      exact fun empty => List.cons_ne_nil _ _ (written.symm.trans empty)
  | picture number image => exact List.cons_ne_nil _ _

theorem html_ne_nil (segment : Segment) : segment.html ≠ [] := by
  cases segment with
  | char c => exact char_ne_nil c
  | tag bracket =>
      obtain ⟨tail, written, _⟩ := bracket.exists_write
      exact fun empty => List.cons_ne_nil _ _ (written.symm.trans empty)
  | picture number image => exact List.cons_ne_nil _ _

/-- No line is broken where it was not. -/
theorem break_mem_source (broken : '\n' ∈ segment.html) : '\n' ∈ segment.source := by
  cases segment with
  | char c =>
      by_contra other
      have apart : c ≠ '\n' := fun same => other (List.mem_singleton.mpr same.symm)
      exact not_mem_char_of_ne apart (by decide) broken
  | tag bracket => exact absurd broken (bracket.not_mem_write (by decide) (by decide))
  | picture number image =>
      unfold html Image.html at broken
      simp only [List.mem_append] at broken
      rcases broken with (((tag | inSource) | between) | inAlt) | close
      · exact absurd tag (by decide)
      · have inside := mem_of_mem_escape .inAttribute (by decide) inSource
        simp [source, Image.write, inside]
      · exact absurd between (by decide)
      · have inside := mem_of_mem_escape .inAttribute (by decide) inAlt
        simp [source, Image.write, inside]
      · exact absurd close (by decide)

/-- An asterisk at the front of a line is a character of it. -/
theorem exists_of_asterisk (starts : segments.flatMap covered = '*' :: text) :
    ∃ rest, segments = .char '*' :: rest ∧ rest.flatMap covered = text := by
  cases segments with
  | nil => cases starts
  | cons segment rest =>
      rw [List.flatMap_cons] at starts
      rcases covered_cases segment with rfl | noStar
      · exact ⟨rest, rfl, (List.cons.inj starts).2⟩
      · obtain ⟨c, more, written⟩ := List.exists_cons_of_ne_nil segment.covered_ne_nil
        rw [written, List.cons_append] at starts
        rw [written, (List.cons.inj starts).1] at noStar
        exact absurd List.mem_cons_self noStar

end Segment

/-- A text, and the same with tags in the place of some of its asterisks. -/
inductive Tagged : Text → Text → Prop
  | nil : Tagged [] []
  | keep {text tagged : Text} (c : Char) (others : Tagged text tagged) :
      Tagged (c :: text) (c :: tagged)
  | strong {bracket : Bracket} {text tagged : Text} (isStrong : bracket.stress = .strong)
      (others : Tagged text tagged) : Tagged ('*' :: '*' :: text) (bracket.write ++ tagged)
  | emphasis {bracket : Bracket} {text tagged : Text} (isEmphasis : bracket.stress = .emphasis)
      (others : Tagged text tagged) : Tagged ('*' :: text) (bracket.write ++ tagged)

namespace Tagged

variable {left right leftTagged rightTagged front rest tagged : Text}

theorem same (text : Text) : Tagged text text := by
  induction text with
  | nil => exact .nil
  | cons c text ih => exact .keep c ih

theorem alone (bracket : Bracket) : Tagged bracket.stress.asterisks bracket.write := by
  rw [← List.append_nil bracket.write]
  cases kind : bracket.stress with
  | strong => exact .strong kind .nil
  | emphasis => exact .emphasis kind .nil

theorem append (first : Tagged left leftTagged) (second : Tagged right rightTagged) :
    Tagged (left ++ right) (leftTagged ++ rightTagged) := by
  induction first with
  | nil => exact second
  | keep c _ ih => exact .keep c ih
  | strong isStrong _ ih =>
      rw [List.append_assoc]
      exact .strong isStrong ih
  | emphasis isEmphasis _ ih =>
      rw [List.append_assoc]
      exact .emphasis isEmphasis ih

theorem behind (noStar : '*' ∉ front) (drawn : Tagged (front ++ rest) tagged) :
    ∃ taggedRest, tagged = front ++ taggedRest ∧ Tagged rest taggedRest := by
  induction front generalizing tagged with
  | nil => exact ⟨tagged, rfl, drawn⟩
  | cons c front ih =>
      obtain ⟨other, later⟩ := List.ne_and_not_mem_of_not_mem_cons noStar
      generalize whole : c :: front ++ rest = text at drawn
      cases drawn with
      | nil => cases whole
      | keep d others =>
          obtain ⟨rfl, rfl⟩ := List.cons.inj whole
          obtain ⟨taggedRest, rfl, below⟩ := ih later others
          exact ⟨taggedRest, rfl, below⟩
      | strong => exact absurd (List.cons.inj whole).1.symm other
      | emphasis => exact absurd (List.cons.inj whole).1.symm other

theorem replace {pattern : Pattern Text} {chunk : Text → Text}
    (redraws : ∀ content, Tagged (pattern.write content) (chunk content)) (text : Text) :
    Tagged text (pattern.replace chunk text) := by
  rw [replace_eq_spell]
  conv => lhs; rw [← spell_write pattern text]
  induction pattern.pieces text with
  | nil => exact .nil
  | cons piece pieces ih =>
      cases piece with
      | plain c => exact .keep c ih
      | token content => exact (redraws content).append ih

theorem replace_strong (text : Text) : Tagged text (Strong.pattern.replace Strong.html text) := by
  apply replace
  exact fun content => ((alone (.opening .strong)).append (same content)).append (alone (.closing .strong))

theorem replace_emphasis (text : Text) :
    Tagged text (Emphasis.pattern.replace Emphasis.html text) := by
  apply replace
  exact fun content => ((alone (.opening .emphasis)).append (same content)).append (alone (.closing .emphasis))

end Tagged

namespace Segment

variable {images : List Image}

/-- A line in which asterisks became tags has segments that were written alike. -/
theorem exists_of_tagged (segments : List Segment) {drawn : Text}
    (known : ∀ segment ∈ segments, segment.IsKnown images)
    (tagged : Tagged (segments.flatMap covered) drawn) :
    ∃ more : List Segment, (∀ segment ∈ more, segment.IsKnown images) ∧
      more.flatMap covered = drawn ∧ more.flatMap source = segments.flatMap source := by
  match segments with
  | [] =>
      cases tagged
      exact ⟨[], known, rfl, rfl⟩
  | segment :: rest =>
      obtain ⟨first, others⟩ := List.forall_mem_cons.mp known
      rcases covered_cases segment with rfl | noStar
      · change Tagged ('*' :: rest.flatMap covered) drawn at tagged
        generalize covering : rest.flatMap covered = text at tagged
        cases tagged with
        | keep _ below =>
            subst covering
            obtain ⟨more, knownMore, rfl, same⟩ := exists_of_tagged rest others below
            exact ⟨.char '*' :: more, List.forall_mem_cons.mpr ⟨first, knownMore⟩, rfl,
              congrArg ('*' :: ·) same⟩
        | @strong bracket _ _ isStrong below =>
            -- The second asterisk belongs to the next segment, which is a character as well.
            obtain ⟨behind, rfl, rfl⟩ := exists_of_asterisk covering
            obtain ⟨more, knownMore, rfl, same⟩ :=
              exists_of_tagged behind (List.forall_mem_cons.mp others).2 below
            refine ⟨.tag bracket :: more, List.forall_mem_cons.mpr ⟨trivial, knownMore⟩, rfl, ?_⟩
            rw [List.flatMap_cons, same, source, isStrong]
            rfl
        | @emphasis bracket _ _ isEmphasis below =>
            subst covering
            obtain ⟨more, knownMore, rfl, same⟩ := exists_of_tagged rest others below
            refine ⟨.tag bracket :: more, List.forall_mem_cons.mpr ⟨trivial, knownMore⟩, rfl, ?_⟩
            rw [List.flatMap_cons, same, source, isEmphasis]
            rfl
      · rw [List.flatMap_cons] at tagged
        obtain ⟨drawnRest, rfl, below⟩ := tagged.behind noStar
        obtain ⟨more, knownMore, rfl, same⟩ := exists_of_tagged rest others below
        exact ⟨segment :: more, List.forall_mem_cons.mpr ⟨first, knownMore⟩, rfl,
          congrArg (segment.source ++ ·) same⟩
termination_by segments.length

end Segment

namespace Inline

variable {text html : Text}

/-- A line is rendered segment by segment, if at all, and it is if its images can be numbered. -/
theorem exists_segments (unmarked : imageMark ∉ text) :
    ∃ segments : List Segment, segments.flatMap Segment.source = text ∧
      (∀ html, render text = .ok html → html = segments.flatMap Segment.html) ∧
      ((Image.pattern.tokens text).length ≤ indexLimit →
        render text = .ok (segments.flatMap Segment.html)) := by
  have plain : ∀ c, .plain c ∈ Image.pattern.pieces text → c ≠ imageMark := fun c member same =>
    unmarked (same ▸ (Pattern.sublist_of_mem_pieces member).subset List.mem_cons_self)
  have known := Segment.isKnown_ofPieces plain []
  rw [List.length_nil, List.nil_append] at known
  have strong := Tagged.replace_strong ((Segment.ofPieces 0 (Image.pattern.pieces text)).flatMap
    Segment.covered)
  obtain ⟨between, knownBetween, drawn, written⟩ := Segment.exists_of_tagged _ known strong
  have emphasis := Tagged.replace_emphasis (between.flatMap Segment.covered)
  obtain ⟨segments, knownLast, drawnLast, writtenLast⟩ :=
    Segment.exists_of_tagged _ knownBetween emphasis
  have restored := Segment.restored_html knownLast
  have whole : render text = Placeholder.restore imageMark
      ((Image.pattern.tokens text).map Image.html) (segments.flatMap Segment.covered) := by
    rw [drawnLast, drawn, Segment.covered_ofPieces]
    rfl
  refine ⟨segments, ?_, fun html rendered => ?_, fun few => ?_⟩
  · rw [writtenLast, written, Segment.source_ofPieces, Pattern.flatMap_text_pieces]
  · rw [whole] at rendered
    exact restored.eq_of_restore (.inl rfl) rendered
  · rw [whole]
    exact restored.restore_eq (.inl rfl) (by rwa [List.length_map])

theorem unbroken_of_render (unmarked : imageMark ∉ text) (unbroken : '\n' ∉ text)
    (rendered : render text = .ok html) : '\n' ∉ html := by
  obtain ⟨segments, rfl, same, _⟩ := exists_segments unmarked
  rw [same html rendered]
  intro broken
  obtain ⟨segment, inside, found⟩ := List.mem_flatMap.mp broken
  exact unbroken (List.mem_flatMap.mpr ⟨segment, inside, segment.break_mem_source found⟩)

theorem render_ne_nil (unmarked : imageMark ∉ text) (nonempty : text ≠ [])
    (rendered : render text = .ok html) : html ≠ [] := by
  obtain ⟨segments, rfl, same, _⟩ := exists_segments unmarked
  rw [same html rendered]
  intro empty
  apply nonempty
  rw [List.flatMap_eq_nil_iff] at empty ⊢
  exact fun segment inside => absurd (empty segment inside) segment.html_ne_nil

/-- No text has more images than there are indices. -/
theorem exists_render (unmarked : imageMark ∉ text) (short : text.length ≤ indexLimit) :
    ∃ html, render text = .ok html := by
  obtain ⟨segments, _, _, done⟩ := exists_segments unmarked
  have few : (Image.pattern.pieces text).length ≤ text.length := by
    rw [pieces_eq_parts, List.length_map]
    exact length_parts_le text
  have fewer := List.length_filterMap_le Piece.token? (Image.pattern.pieces text)
  exact ⟨_, done (Nat.le_trans fewer (Nat.le_trans few short))⟩

end Inline

end Gamebook.Markup
