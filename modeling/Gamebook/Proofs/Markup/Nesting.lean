import Gamebook.Proofs.Effects
import Gamebook.Proofs.Markup.Addresses
import Gamebook.Proofs.Markup.Brackets
import Gamebook.Proofs.Text.Items

/-!
Whether strong text and emphasis are nested in a rendered line. Strong text is written first, and
emphasis is then looked for in a text that has its tags; so a line is nested if and only if no emphasis
begins inside of strong text and ends outside of it, or the other way round.
-/

namespace Gamebook.Markup

open Gamebook.Text

variable {stack base more last : List Stress} {found left right rest : List Bracket}
  {text html content : Text}

/-- What is open behind some tags, the innermost first; a tag may only close that one. -/
def openBehind : List Stress → List Bracket → Option (List Stress)
  | stack, [] => some stack
  | stack, .opening stress :: rest => openBehind (stress :: stack) rest
  | top :: stack, .closing stress :: rest => if top = stress then openBehind stack rest else none
  | [], .closing _ :: _ => none

def IsNested (html : Text) : Prop := openBehind [] (brackets html) = some []

instance (html : Text) : Decidable (IsNested html) := inferInstanceAs (Decidable (_ = _))

theorem openBehind_append (stack : List Stress) (left right : List Bracket) :
    openBehind stack (left ++ right) =
      (openBehind stack left).bind fun middle => openBehind middle right := by
  induction left generalizing stack with
  | nil => rfl
  | cons bracket left ih =>
      cases bracket with
      | opening stress => exact ih (stress :: stack)
      | closing stress =>
          cases stack with
          | nil => rfl
          | cons top stack =>
              simp only [List.cons_append, openBehind]
              split
              · exact ih stack
              · rfl

/-- What is open already is left alone by tags that are nested by themselves. -/
theorem openBehind_under (stack base : List Stress) (opened : openBehind stack found = some more) :
    openBehind (stack ++ base) found = some (more ++ base) := by
  induction found generalizing stack with
  | nil =>
      cases opened
      rfl
  | cons bracket found ih =>
      cases bracket with
      | opening stress => exact ih (stress :: stack) opened
      | closing stress =>
          cases stack with
          | nil => contradiction
          | cons top stack =>
              simp only [openBehind] at opened
              split at opened
              · rename_i same
                simp only [List.cons_append, openBehind, same, if_true]
                exact ih stack opened
              · contradiction

theorem IsNested.openBehind_eq (nested : IsNested html) (base : List Stress) :
    openBehind base (brackets html) = some base := by
  simpa using openBehind_under [] base nested

/-- Tags of strong text between those of emphasis: nothing of it closes the emphasis, and what is left
open in it cannot be closed behind. -/
theorem nested_of_wrapped (strong : ∀ bracket ∈ found, bracket.stress = .strong)
    (inner : ∀ stress ∈ stack, stress = .strong)
    (held : openBehind (stack ++ .emphasis :: base) (found ++ .closing .emphasis :: rest) = some last) :
    openBehind stack found = some [] ∧ openBehind base rest = some last := by
  induction found generalizing stack with
  | nil =>
      cases stack with
      | nil => exact ⟨rfl, by simpa [openBehind] using held⟩
      | cons top stack =>
          have other : top = .strong := inner top List.mem_cons_self
          simp [openBehind, other] at held
  | cons bracket found ih =>
      have others := fun bracket member => strong bracket (.tail _ member)
      have own := strong bracket List.mem_cons_self
      cases bracket with
      | opening stress =>
          have opened : ∀ one ∈ stress :: stack, one = .strong := by simpa using ⟨own, inner⟩
          exact ih others opened held
      | closing stress =>
          obtain rfl : stress = .strong := own
          cases stack with
          | nil => simp [openBehind] at held
          | cons top stack =>
              obtain rfl : top = .strong := inner top List.mem_cons_self
              simp only [List.cons_append, openBehind, if_true] at held ⊢
              exact ih others (fun one member => inner one (.tail _ member)) held

/-- The tags around emphasis and those in it. -/
def wrapped (content : Text) : List Bracket :=
  .opening .emphasis :: brackets content ++ [.closing .emphasis]

variable {pieces : List (Piece Text)}

theorem openBehind_wrapped (nested : ∀ content, .token content ∈ pieces → IsNested content)
    (base : List Stress) :
    openBehind base (bracketsOf wrapped pieces) = openBehind base (bracketsOf brackets pieces) := by
  induction pieces generalizing base with
  | nil => rfl
  | cons piece pieces ih =>
      have others := ih fun content member => nested content (.tail _ member)
      cases piece with
      | plain c =>
          rw [bracketsOf, bracketsOf, openBehind_append, openBehind_append]
          exact congrArg _ (funext others)
      | token content =>
          have own := nested content List.mem_cons_self
          have wrapping : openBehind base (wrapped content) = some base := by
            rw [wrapped, List.cons_append, openBehind, openBehind_append, own.openBehind_eq]
            simp [openBehind]
          rw [bracketsOf, bracketsOf, openBehind_append, openBehind_append, wrapping,
            own.openBehind_eq]
          exact others base

theorem nested_of_openBehind_wrapped
    (strong : ∀ bracket ∈ bracketsOf brackets pieces, bracket.stress = .strong)
    (held : openBehind base (bracketsOf wrapped pieces) = some last) :
    ∀ content, .token content ∈ pieces → IsNested content := by
  induction pieces generalizing base with
  | nil => exact nofun
  | cons piece pieces ih =>
      cases piece with
      | plain c =>
          rw [bracketsOf, openBehind_append, Option.bind_eq_some_iff] at held
          obtain ⟨middle, _, held⟩ := held
          intro content member
          rcases List.mem_cons.mp member with same | later
          · contradiction
          · exact ih (fun bracket inside => strong bracket (List.mem_append_right _ inside)) held
              content later
      | token first =>
          have whole : bracketsOf wrapped (.token first :: pieces) = .opening .emphasis ::
              (brackets first ++ .closing .emphasis :: bracketsOf wrapped pieces) := by
            simp [bracketsOf, wrapped]
          rw [whole] at held
          have inFirst := fun bracket inside => strong bracket (List.mem_append_left _ inside)
          obtain ⟨nested, held⟩ : IsNested first ∧ openBehind base _ = some last :=
            nested_of_wrapped inFirst (List.forall_mem_nil _) held
          intro content member
          rcases List.mem_cons.mp member with same | later
          · cases same
            exact nested
          · exact ih (fun bracket inside => strong bracket (List.mem_append_right _ inside)) held
              content later

section Strong

variable {escaped : Text}

theorem spells_strong (quiet : '<' ∉ content) :
    Spells (Strong.html content) [.opening .strong, .closing .strong] := by
  have spells := spells_between (.opening .strong) (.closing .strong) content
  rw [brackets_quiet quiet] at spells
  exact spells

theorem quiet_of_mem_pieces (quiet : '<' ∉ escaped)
    (member : .token content ∈ Strong.pattern.pieces escaped) : '<' ∉ content := by
  intro inside
  have part : (Strong.write content).Sublist escaped := Pattern.sublist_of_mem_pieces member
  exact quiet (part.subset (by simp [Strong.write, inside]))

/-- What is written for strong text. -/
def strongBrackets (pieces : List (Piece Text)) : List Bracket :=
  bracketsOf (fun _ => [.opening .strong, .closing .strong]) pieces

theorem brackets_strong (quiet : '<' ∉ escaped) :
    brackets (Strong.pattern.replace Strong.html escaped) = strongBrackets (Strong.pattern.pieces escaped) := by
  rw [replace_eq_spell]
  exact brackets_spell fun content member => spells_strong (quiet_of_mem_pieces quiet member)

theorem strongBrackets_nested (quiet : ∀ c, .plain c ∈ pieces → c ≠ '<') :
    (∀ bracket ∈ strongBrackets pieces, bracket.stress = .strong) ∧
      openBehind [] (strongBrackets pieces) = some [] := by
  unfold strongBrackets
  induction pieces with
  | nil => exact ⟨nofun, rfl⟩
  | cons piece pieces ih =>
      obtain ⟨strong, nested⟩ := ih fun c member => quiet c (.tail _ member)
      cases piece with
      | plain c =>
          rw [bracketsOf, bracketAt_none (quiet c List.mem_cons_self)]
          exact ⟨strong, nested⟩
      | token content =>
          refine ⟨fun bracket member => ?_, nested⟩
          rcases List.mem_append.mp member with own | later
          · simp only [List.mem_cons, List.not_mem_nil, or_false] at own
            rcases own with rfl | rfl <;> rfl
          · exact strong bracket later

end Strong

section Emphasis

theorem spells_write (content : Text) : Spells (Emphasis.write content) (brackets content) := by
  have star : Spells ['*'] [] := ⟨hasBrackets_quiet (by decide), '*', [], rfl, by decide⟩
  refine ⟨fun rest => ?_, '*', content ++ ['*'], rfl, by decide⟩
  have whole : Emphasis.write content ++ rest = ['*'] ++ (content ++ (['*'] ++ rest)) := by
    simp [Emphasis.write]
  rw [whole, star.1, brackets_append_of_spells star]
  rfl

/-- The tags around emphasis are nested if and only if those in each emphasis are, where all tags are
those of strong text and nested before. -/
theorem isNested_replace_iff (strong : ∀ bracket ∈ brackets text, bracket.stress = .strong)
    (nested : IsNested text) :
    openBehind [] (brackets (Emphasis.pattern.replace Emphasis.html text)) = some [] ↔
      ∀ content ∈ Emphasis.pattern.tokens text, IsNested content := by
  have before : brackets text = bracketsOf brackets (Emphasis.pattern.pieces text) := by
    conv => lhs; rw [← spell_write Emphasis.pattern text]
    exact brackets_spell fun content _ => spells_write content
  have behind : brackets (Emphasis.pattern.replace Emphasis.html text) =
      bracketsOf wrapped (Emphasis.pattern.pieces text) := by
    rw [replace_eq_spell]
    exact brackets_spell fun content _ => spells_between (.opening .emphasis) (.closing .emphasis) content
  simp only [behind, Pattern.mem_tokens]
  constructor
  · exact fun held => nested_of_openBehind_wrapped (before ▸ strong) held
  · intro all
    rw [openBehind_wrapped all, ← before]
    exact nested

end Emphasis

section Images

theorem spells_image (image : Image) : Spells image.html [] := by
  have noTag : ∀ text, bracketAt ('<' :: 'i' :: text) = none := fun _ => rfl
  have inValue := not_mem_escape .inAttribute '<' (by decide) (by decide)
  have quiet : '<' ∉ 'i' :: ("mg src=\"".toList ++ escape .inAttribute image.source ++
      "\" alt=\"".toList ++ escape .inAttribute image.alt ++ "\" />".toList) := by
    have opening : '<' ∉ "mg src=\"".toList := by decide
    have middle : '<' ∉ "\" alt=\"".toList := by decide
    have closing : '<' ∉ "\" />".toList := by decide
    simp only [List.mem_cons, List.mem_append, inValue, opening, middle, closing, or_false]
    decide
  have opening : "<img src=\"".toList = '<' :: 'i' :: "mg src=\"".toList := by decide
  have whole : image.html = '<' :: 'i' :: ("mg src=\"".toList ++ escape .inAttribute image.source ++
      "\" alt=\"".toList ++ escape .inAttribute image.alt ++ "\" />".toList) := by
    unfold Image.html
    rw [opening]
    simp only [List.cons_append]
  generalize "mg src=\"".toList ++ escape .inAttribute image.source ++
      "\" alt=\"".toList ++ escape .inAttribute image.alt ++ "\" />".toList = tail at quiet whole
  rw [whole]
  refine ⟨fun rest => ?_, '<', _, rfl, by decide⟩
  rw [List.cons_append, brackets, hasBrackets_quiet quiet, List.cons_append, noTag]
  rfl

theorem isDigit_of_mem_pieces {mark c : Char} {digits : Text}
    (member : .token digits ∈ (Placeholder.pattern mark).pieces text) (inside : c ∈ digits) :
    isDigit c = true := by
  obtain ⟨_, source, rest, taken⟩ := Pattern.exists_read_of_mem_split member
  cases source with
  | nil => contradiction
  | cons first source =>
      change Placeholder.read mark (first :: source) = some (digits, rest) at taken
      simp only [Placeholder.read] at taken
      split at taken
      · split at taken
        · rename_i d more m tail written _
          split at taken
          · cases taken
            exact List.mem_takeWhile_imp (written ▸ inside)
          · contradiction
        · contradiction
      · contradiction

/-- What is put back for a placeholder. -/
def putBack (fragments : List Text) (digits : Text) : Text :=
  (Placeholder.fragment fragments digits).toOption.getD []

theorem spell_putBack {fragments : List Text} {piece : Piece Text} {part : Text}
    (given : Placeholder.restorePiece fragments piece = .ok part) :
    spell (putBack fragments) piece = part := by
  cases piece with
  | plain c =>
      cases given
      rfl
  | token digits =>
      change Placeholder.fragment fragments digits = .ok part at given
      simp [spell, putBack, given, Except.toOption]

theorem mem_of_fragment {fragments : List Text} {digits fragment : Text}
    (given : Placeholder.fragment fragments digits = .ok fragment) : fragment ∈ fragments := by
  unfold Placeholder.fragment at given
  split at given
  · contradiction
  · split at given
    · rename_i found
      cases given
      exact List.mem_of_getElem? found
    · contradiction

/-- Images that are put back bring no tags of strong text or emphasis. -/
theorem brackets_restore {mark : Char} {fragments : List Text} (stop : inTag mark = false)
    (other : mark ≠ '<') (quiet : ∀ fragment ∈ fragments, Spells fragment [])
    (restored : Placeholder.restore mark fragments text = .ok html) :
    brackets html = brackets text := by
  unfold Placeholder.restore at restored
  obtain ⟨parts, each, done⟩ := bind_eq_ok.mp restored
  have paired := forall₂_of_mapM_ok each
  have whole : html = ((Placeholder.pattern mark).pieces text).flatMap (spell (putBack fragments)) := by
    cases done
    rw [List.flatMap_def, map_eq_of_forall₂ paired fun piece part given => spell_putBack given,
      List.map_id']
  have putQuiet : ∀ digits, .token digits ∈ (Placeholder.pattern mark).pieces text →
      Spells (putBack fragments digits) [] := by
    intro digits member
    obtain ⟨part, _, given⟩ := exists_mem_of_forall₂ paired.flip member
    have put := spell_putBack given
    rw [spell] at put
    rw [put]
    exact quiet part (mem_of_fragment given)
  have placeholder : ∀ digits, .token digits ∈ (Placeholder.pattern mark).pieces text →
      Spells (Placeholder.write mark digits) [] := by
    intro digits member
    refine ⟨hasBrackets_quiet fun inside => ?_, mark, digits ++ [mark], rfl, stop⟩
    simp only [Placeholder.write, List.cons_append, List.mem_cons, List.mem_append, List.not_mem_nil,
      or_false] at inside
    rcases inside with same | digit | same
    · exact other same.symm
    · exact absurd (isDigit_of_mem_pieces member digit) (by decide)
    · exact other same.symm
  rw [whole, brackets_spell putQuiet]
  conv => rhs; rw [← spell_write (Placeholder.pattern mark) text]
  exact (brackets_spell placeholder).symm

end Images

namespace Inline

/-- The text in which emphasis is looked for: images are put aside, and strong text has its tags. -/
def stressed (text : Text) : Text :=
  Strong.pattern.replace Strong.html (escape .inText (markImages 0 (Image.pattern.pieces text)))

/-- What emphasis is put around. -/
def emphasised (text : Text) : List Text := Emphasis.pattern.tokens (stressed text)

/-- A rendered text is nested if and only if what each emphasis is put around is. -/
theorem isNested_render_iff (rendered : render text = .ok html) :
    IsNested html ↔ ∀ content ∈ emphasised text, IsNested content := by
  have images : ∀ fragment ∈ (Image.pattern.tokens text).map Image.html, Spells fragment [] := by
    intro fragment member
    obtain ⟨image, _, rfl⟩ := List.mem_map.mp member
    exact spells_image image
  have same : brackets html = brackets (Emphasis.pattern.replace Emphasis.html (stressed text)) :=
    brackets_restore (by decide) (by decide) images rendered
  have quiet := not_mem_escape .inText '<' (by decide) (by decide)
    (markImages 0 (Image.pattern.pieces text))
  have before : brackets (stressed text) = strongBrackets _ := brackets_strong quiet
  have plain : ∀ c, .plain c ∈ Strong.pattern.pieces (escape .inText (markImages 0
      (Image.pattern.pieces text))) → c ≠ '<' := fun c member same =>
    quiet (same ▸ (Pattern.sublist_of_mem_pieces member).subset List.mem_cons_self)
  obtain ⟨strong, nested⟩ := strongBrackets_nested plain
  rw [← before] at strong nested
  rw [IsNested, same]
  exact isNested_replace_iff strong nested

theorem isNested_render_strong :
    render "*a **b** c*" = .ok "<em>a <strong>b</strong> c</em>".toList ∧
      IsNested "<em>a <strong>b</strong> c</em>" := by
  have rendered : render "*a **b** c*" = .ok "<em>a <strong>b</strong> c</em>".toList := by
    decide +kernel
  exact ⟨rendered, (isNested_render_iff rendered).mpr (by decide +kernel)⟩

/-- Three asterisks on both sides: the emphasis begins inside of the strong text and ends behind it. -/
theorem not_isNested_three_asterisks :
    render "***a***" = .ok "<strong><em>a</strong></em>".toList ∧
      ¬IsNested "<strong><em>a</strong></em>" := by
  decide +kernel

end Inline

end Gamebook.Markup
