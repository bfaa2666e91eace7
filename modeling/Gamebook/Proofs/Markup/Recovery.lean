import Gamebook.Proofs.Markup.Elements
import Gamebook.Proofs.Markup.Segments

/-!
What was written is told from its markup. A rendered line holds no tags but those of strong text,
emphasis and images, and no character that could be part of another one; with the tags written as
asterisks and images again, and the entities as characters, it is the line as it was written.
-/

namespace Gamebook.Text

variable {left right leftText rightText : Text}

/-- Wherever it stands, this text is escaped for that one. -/
def Unescapes (escaped text : Text) : Prop :=
  ∀ rest, unescape (escaped ++ rest) = (unescape rest).map (text ++ ·)

theorem Unescapes.eq {escaped text : Text} (unescapes : Unescapes escaped text) :
    unescape escaped = some text := by
  have alone := unescapes []
  rwa [List.append_nil, unescape, Option.map_some, List.append_nil] at alone

theorem Unescapes.nil : Unescapes [] [] := fun rest => by simp

theorem Unescapes.append (first : Unescapes left leftText) (second : Unescapes right rightText) :
    Unescapes (left ++ right) (leftText ++ rightText) := fun rest => by
  rw [List.append_assoc, first, second, Option.map_map]
  congr 1
  funext text
  exact (List.append_assoc _ _ _).symm

theorem unescapes_cons {c : Char} (plain : c ≠ '&') : Unescapes [c] [c] := unescape_cons plain

theorem unescapes_plain {text : Text} (plain : '&' ∉ text) : Unescapes text text := by
  induction text with
  | nil => exact .nil
  | cons c text ih =>
      obtain ⟨other, others⟩ := List.ne_and_not_mem_of_not_mem_cons plain
      exact (unescapes_cons (Ne.symm other)).append (ih others)

theorem unescapes_inAttribute (text : Text) : Unescapes (escape .inAttribute text) text := by
  induction text with
  | nil => exact .nil
  | cons c text ih =>
      have first : Unescapes (EscapeStyle.inAttribute.char c) [c] := unescape_char c
      exact first.append ih

/-- Within a text quotes stay as they are, and all else is escaped as in an attribute. -/
theorem char_inText (c : Char) :
    EscapeStyle.inText.char c = EscapeStyle.inAttribute.char c ∨
      EscapeStyle.inText.char c = [c] ∧ c ≠ '&' := by
  unfold EscapeStyle.char
  split_ifs with isAmp isLt isGt isQuote isApostrophe
  · exact .inl rfl
  · exact .inl rfl
  · exact .inl rfl
  · exact .inr ⟨congrArg ([·]) isQuote.symm, isAmp⟩
  · exact .inr ⟨congrArg ([·]) isApostrophe.symm, isAmp⟩
  · exact .inl rfl

theorem unescapes_inText (c : Char) : Unescapes (EscapeStyle.inText.char c) [c] := by
  rcases char_inText c with same | ⟨same, plain⟩
  · rw [same]
    exact unescape_char c
  · rw [same]
    exact unescapes_cons plain

end Gamebook.Text

namespace Gamebook.Markup

open Gamebook.Text

namespace Tag

/-- The names of tags around strong text and emphasis. -/
def stressNames : List Text := ["strong", "/strong", "em", "/em"]

/-- The tags that a rendered line may hold. -/
def IsInline : Tag → Prop
  | .bare name => name ∈ stressNames
  | .anchor _ => False
  | .image source alt => ∀ c ∈ source ++ alt, c ∉ ['<', '>', '"', '\'']

instance : DecidablePred IsInline
  | .bare _ => inferInstanceAs (Decidable (_ ∈ _))
  | .anchor _ => inferInstanceAs (Decidable False)
  | .image source alt => List.decidableBAll _ (source ++ alt)

/-- A tag as a writer has it: asterisks, or an image with the texts of its attributes. -/
def written : Tag → Text
  | .bare name =>
    if name = "strong" ∨ name = "/strong" then ['*', '*']
    else if name = "em" ∨ name = "/em" then ['*']
    else (Tag.bare name).write
  | .anchor address => (Tag.anchor address).write
  | .image source alt => Image.write ⟨alt, source⟩

end Tag

/-- All that is in a rendered line: plain characters other than `<` and `>`, and its tags. -/
def IsInlinePiece : Piece Tag → Prop
  | .plain c => c ≠ '<' ∧ c ≠ '>'
  | .token tag => tag.IsInline

instance : DecidablePred IsInlinePiece
  | .plain _ => inferInstanceAs (Decidable (_ ∧ _))
  | .token tag => inferInstanceAs (Decidable tag.IsInline)

def IsInline (html : Text) : Prop := ∀ piece ∈ Tag.pattern.pieces html, IsInlinePiece piece

instance (html : Text) : Decidable (IsInline html) := List.decidableBAll _ (Tag.pattern.pieces html)

example : IsInline ("<em>a</em> &lt;".toList) ∧ ¬IsInline ("<b>a</b>".toList) := by decide +kernel

/-- The text that a rendered line was made of. -/
def recover (html : Text) : Option Text := unescape (Tag.pattern.replace Tag.written html)

namespace Bracket

def name : Bracket → Text
  | .opening .strong => "strong"
  | .closing .strong => "/strong"
  | .opening .emphasis => "em"
  | .closing .emphasis => "/em"

theorem write_eq (bracket : Bracket) : bracket.write = (Tag.bare bracket.name).write := by
  cases bracket with
  | opening stress => cases stress <;> rfl
  | closing stress => cases stress <;> rfl

theorem name_mem (bracket : Bracket) : bracket.name ∈ Tag.stressNames := by
  cases bracket with
  | opening stress => cases stress <;> decide
  | closing stress => cases stress <;> decide

theorem written_name (bracket : Bracket) :
    (Tag.bare bracket.name).written = bracket.stress.asterisks := by
  cases bracket with
  | opening stress => cases stress <;> rfl
  | closing stress => cases stress <;> rfl

end Bracket

namespace Segment

variable {segment : Segment} {segments : List Segment}

/-- The tag of an image in the rendered line. -/
def pictureTag (image : Image) : Tag :=
  .image (escape .inAttribute image.source) (escape .inAttribute image.alt)

/-- What a reader of tags finds in a rendered segment. -/
def pieces : Segment → List (Piece Tag)
  | .char c => (EscapeStyle.inText.char c).map .plain
  | .tag bracket => [.token (.bare bracket.name)]
  | .picture _ image => [.token (pictureTag image)]

theorem pieces_plain {text : Text} (opensNone : '<' ∉ text) (rest : Text) :
    Tag.pattern.pieces (text ++ rest) = text.map .plain ++ Tag.pattern.pieces rest := by
  induction text with
  | nil => rfl
  | cons c text ih =>
      obtain ⟨other, others⟩ := List.ne_and_not_mem_of_not_mem_cons opensNone
      have passed : Tag.pattern.read none (c :: (text ++ rest)) = none :=
        Tag.read_cons (Ne.symm other) _
      rw [List.cons_append, Tag.isFree_pattern.pieces_of_not_read passed, ih others]
      rfl

theorem pieces_html (segment : Segment) (rest : Text) :
    Tag.pattern.pieces (segment.html ++ rest) = segment.pieces ++ Tag.pattern.pieces rest := by
  cases segment with
  | char c => exact pieces_plain (not_mem_char .inText '<' (by decide) (by decide) c) rest
  | tag bracket =>
      have known : ∀ name ∈ Tag.stressNames, name ∈ Tag.names := by decide
      have taken : Tag.pattern.read none (bracket.write ++ rest) = some (.bare bracket.name, rest) := by
        rw [bracket.write_eq]
        exact Tag.read_bare (known _ bracket.name_mem) rest
      exact Tag.isFree_pattern.pieces_of_read taken
  | picture number image =>
      have isValue : ∀ text, Tag.IsValue (escape .inAttribute text) := fun text =>
        Tag.isValue_of_not_mem (not_mem_escape .inAttribute '<' (by decide) (by decide) text)
          (not_mem_escape .inAttribute '"' (by decide) (by decide) text)
      exact Tag.isFree_pattern.pieces_of_read (Tag.read_image (isValue _) (isValue _) rest)

theorem pieces_flatMap_html (segments : List Segment) :
    Tag.pattern.pieces (segments.flatMap html) = segments.flatMap pieces := by
  induction segments with
  | nil =>
      rw [List.flatMap_nil, Pattern.pieces, Pattern.split]
      rfl
  | cons segment segments ih => rw [List.flatMap_cons, pieces_html, ih, List.flatMap_cons]

theorem isInline_html (segments : List Segment) : IsInline (segments.flatMap html) := by
  unfold IsInline
  rw [pieces_flatMap_html]
  intro piece member
  obtain ⟨segment, _, inside⟩ := List.mem_flatMap.mp member
  cases segment with
  | char c =>
      obtain ⟨d, written, rfl⟩ := List.mem_map.mp inside
      have noTag := fun special absent => not_mem_char .inText d special absent c
      constructor
      · intro same
        subst same
        exact noTag (by decide) (by decide) written
      · intro same
        subst same
        exact noTag (by decide) (by decide) written
  | tag bracket =>
      rw [List.mem_singleton.mp inside]
      exact bracket.name_mem
  | picture number image =>
      rw [List.mem_singleton.mp inside]
      have unwritten : ∀ c ∈ ['<', '>', '"', '\''], c ∈ ['&', '<', '>', '"', '\''] ∧
          c ∉ entityCharacters .inAttribute := by
        simp only [List.forall_mem_cons, List.not_mem_nil, false_implies, implies_true]
        decide
      intro c inValue special
      obtain ⟨isSpecial, noEntity⟩ := unwritten c special
      rw [← escape_append] at inValue
      exact not_mem_escape .inAttribute c isSpecial noEntity _ inValue

/-- An image with escaped texts is the image, escaped: what is written between them is plain. -/
theorem unescapes_write (image : Image) :
    Unescapes (Image.write ⟨escape .inAttribute image.alt, escape .inAttribute image.source⟩)
      image.write := by
  have opening : Unescapes ['!', '['] ['!', '['] := unescapes_plain (by decide)
  have middle : Unescapes [']', '('] [']', '('] := unescapes_plain (by decide)
  have closing : Unescapes [')'] [')'] := unescapes_plain (by decide)
  have alt := unescapes_inAttribute image.alt
  have source := unescapes_inAttribute image.source
  have whole := (opening.append alt).append ((middle.append source).append closing)
  simpa [Image.write] using whole

/-- The segments of a rendered line are found in it again. -/
theorem recover_html (segments : List Segment) :
    recover (segments.flatMap html) = some (segments.flatMap source) := by
  have unescapes : Unescapes ((segments.flatMap pieces).flatMap (spell Tag.written))
      (segments.flatMap source) := by
    induction segments with
    | nil => exact .nil
    | cons segment segments ih =>
        rw [List.flatMap_cons, List.flatMap_append, List.flatMap_cons]
        refine Unescapes.append ?_ ih
        cases segment with
        | char c =>
            have same : ((EscapeStyle.inText.char c).map .plain).flatMap (spell Tag.written) =
                EscapeStyle.inText.char c := by
              rw [List.flatMap_map]
              exact List.flatMap_singleton' _
            rw [pieces, same]
            exact unescapes_inText c
        | tag bracket =>
            rw [pieces, List.flatMap_singleton, spell, bracket.written_name]
            exact unescapes_plain (by cases bracket.stress <;> decide)
        | picture number image =>
            rw [pieces, List.flatMap_singleton]
            exact unescapes_write image
  rw [recover, replace_eq_spell, pieces_flatMap_html]
  exact unescapes.eq

end Segment

namespace Inline

variable {text : Text}

/-- Rendering a line loses nothing and lets nothing that was written be read as a tag: the line can be
recovered, so no two lines are rendered alike. No text has more characters than there are indices. -/
theorem render_isRecovered (unmarked : Placeholder.imageMark ∉ text) :
    (text.length ≤ Placeholder.indexLimit → ∃ html, render text = .ok html) ∧
      (∀ html, render text = .ok html → IsInline html ∧ recover html = some text) ∧
      ∀ other html, Placeholder.imageMark ∉ other → render text = .ok html →
        render other = .ok html → other = text := by
  have recovered : ∀ {line html}, Placeholder.imageMark ∉ line → render line = .ok html →
      IsInline html ∧ recover html = some line := by
    intro line html free rendered
    obtain ⟨segments, rfl, same, _⟩ := exists_segments free
    rw [same html rendered]
    exact ⟨Segment.isInline_html segments, Segment.recover_html segments⟩
  refine ⟨exists_render unmarked, fun html => recovered unmarked, fun other html free rendered again => ?_⟩
  have first := (recovered unmarked rendered).2
  rw [(recovered free again).2, Option.some.injEq] at first
  exact first

/-- Text that looks like a tag and an entity, a map with quotes, strong text and emphasis. -/
def motley : Text := "<b> &lt; ![a \"map\"](m.png) **d** *e*"

def motleyHtml : Text :=
  "&lt;b&gt; &amp;lt; <img src=\"m.png\" alt=\"a &quot;map&quot;\" /> ".toList
    ++ "<strong>d</strong> <em>e</em>".toList

theorem render_isRecovered_motley :
    Placeholder.imageMark ∉ motley ∧ render motley = .ok motleyHtml ∧
      (∃ html, render motley = .ok html) ∧ IsInline motleyHtml ∧ recover motleyHtml = some motley := by
  have unmarked : Placeholder.imageMark ∉ motley := by decide
  have rendered : render motley = .ok motleyHtml := by decide +kernel
  obtain ⟨exist, recovered, _⟩ := render_isRecovered unmarked
  exact ⟨unmarked, rendered, exist (by decide), recovered motleyHtml rendered⟩

end Inline

end Gamebook.Markup
