import Gamebook.Proofs.Effects
import Gamebook.Proofs.Markup.Carrying
import Gamebook.Proofs.Text.Items
import Gamebook.Template.Pages

/-!
What a template shows: the addresses of the markup that it is given. Its own text opens no anchor, but for
the way to the first page, and all other values are escaped.
-/

namespace Gamebook.Template

open Gamebook.Text Gamebook.Markup

variable {scope : Scope} {markup : List Text} {key : Text} {value : Value} {expression : Expression}
  {node : Node} {nodes front back : List Node} {html inner : Text} {shown shownBehind : List Text}

/-- No anchor opens in this text, whatever stands behind it. -/
def opensNone : Text → Bool
  | '<' :: c :: d :: rest => (c ≠ 'a' || d ≠ ' ') && opensNone (c :: d :: rest)
  | '<' :: _ => false
  | _ :: rest => opensNone rest
  | [] => true

theorem shows_of_opensNone (none : opensNone html = true) : Shows html [] := by
  fun_induction opensNone html with
  | case1 c d rest ih =>
      simp only [Bool.and_eq_true, Bool.or_eq_true, decide_eq_true_eq] at none
      intro more
      have other : addressAt ('<' :: c :: d :: (rest ++ more)) = Option.none := by
        unfold addressAt
        split
        · rename_i same
          simp only [List.cons.injEq] at same
          obtain ⟨_, rfl, rfl, _⟩ := same
          exact absurd none.1 (by simp)
        · rfl
      change (addressAt ('<' :: c :: d :: (rest ++ more))).toList ++ addresses (c :: d :: rest ++ more) = _
      rw [other]
      exact ih none.2 more
  | case2 => cases none
  | case3 c rest _ apart ih =>
      have plain : Shows [c] [] :=
        Shows.quiet fun member => apart (List.mem_singleton.mp member).symm
      exact plain.append (ih none)
  | case4 => exact .nil

def Value.IsEscaped (value : Value) : Prop := ∀ html, value ≠ .markup html

/-- Only these names stand for markup. -/
def Scope.Escapes (scope : Scope) (markup : List Text) : Prop :=
  ∀ key, key ∉ markup → (scope.value key).IsEscaped

/-- The value is escaped where only these names stand for markup. -/
def Expression.isEscaped (markup : List Text) : Expression → Bool
  | .name key => !markup.contains key
  | .constant (.markup _) => false
  | .choice _ yes no => yes.isEscaped markup && no.isEscaped markup
  | _ => true

mutual

/-- The node shows no address where only these names stand for markup. -/
def Node.isQuiet (markup : List Text) : Node → Bool
  | .text shown => opensNone shown
  | .output expression => expression.isEscaped markup
  | .branch _ yes no => areQuiet markup yes && areQuiet markup no

def areQuiet (markup : List Text) : List Node → Bool
  | [] => true
  | node :: nodes => node.isQuiet markup && areQuiet markup nodes

end

theorem Value.print_shows (escaped : value.IsEscaped) : Shows value.print [] := by
  have quiet := not_mem_escape .inTemplate '<' (by decide) (by decide)
  cases value with
  | text text => exact Shows.quiet (quiet text)
  | markup html => exact absurd rfl (escaped html)
  | texts items => exact Shows.quiet (quiet (quotedList items))
  | truth holds => cases holds <;> exact Shows.quiet (by decide)
  | nothing => exact Shows.quiet (by decide)
  | tool kind text => exact Shows.quiet (quiet text)

theorem Expression.value_isEscaped (escapes : scope.Escapes markup)
    (escaped : expression.isEscaped markup = true) (given : expression.value scope = .ok value) :
    value.IsEscaped := by
  induction expression generalizing value with
  | name key =>
      cases given
      exact escapes key (by simpa [isEscaped] using escaped)
  | constant constant =>
      cases given
      cases constant with
      | markup html => cases escaped
      | _ => exact fun _ => nofun
  | joined items separator =>
      obtain ⟨_, _, given⟩ := bind_eq_ok.mp given
      obtain ⟨_, _, given⟩ := bind_eq_ok.mp given
      cases given
      exact fun _ => nofun
  | isNothing tested =>
      obtain ⟨_, _, given⟩ := bind_eq_ok.mp given
      cases given
      exact fun _ => nofun
  | isGiven tested =>
      obtain ⟨_, _, given⟩ := bind_eq_ok.mp given
      cases given
      exact fun _ => nofun
  | choice condition yes no _ ihYes ihNo =>
      simp only [isEscaped, Bool.and_eq_true] at escaped
      obtain ⟨holds, _, given⟩ := bind_eq_ok.mp given
      split at given
      · exact ihYes escaped.1 given
      · exact ihNo escaped.2 given

theorem renderNodes_cons_eq_ok : renderNodes scope (node :: nodes) = .ok html ↔
    ∃ first rest, node.render scope = .ok first ∧ renderNodes scope nodes = .ok rest ∧
      html = first ++ rest := by
  rw [renderNodes]
  constructor
  · intro given
    obtain ⟨first, rendered, given⟩ := bind_eq_ok.mp given
    obtain ⟨rest, others, given⟩ := bind_eq_ok.mp given
    cases given
    exact ⟨first, rest, rendered, others, rfl⟩
  · rintro ⟨first, rest, rendered, others, rfl⟩
    rw [rendered, others]
    rfl

theorem renderNodes_append_eq_ok : renderNodes scope (front ++ back) = .ok html ↔
    ∃ first rest, renderNodes scope front = .ok first ∧ renderNodes scope back = .ok rest ∧
      html = first ++ rest := by
  induction front generalizing html with
  | nil => simp [renderNodes]
  | cons node front ih =>
      simp only [List.cons_append, renderNodes_cons_eq_ok, ih]
      constructor
      · rintro ⟨first, _, rendered, ⟨middle, rest, more, others, rfl⟩, rfl⟩
        exact ⟨first ++ middle, rest, ⟨first, middle, rendered, more, rfl⟩, others, by simp⟩
      · rintro ⟨_, rest, ⟨first, middle, rendered, more, rfl⟩, others, rfl⟩
        exact ⟨first, middle ++ rest, rendered, ⟨middle, rest, more, others, rfl⟩, by simp⟩

mutual

theorem Node.shows_of_isQuiet (escapes : scope.Escapes markup) (node : Node)
    (quiet : node.isQuiet markup = true) {html : Text} (given : node.render scope = .ok html) :
    Shows html [] := by
  cases node with
  | text shown =>
      cases given
      exact shows_of_opensNone quiet
  | output expression =>
      rw [Node.render] at given
      obtain ⟨value, found, given⟩ := bind_eq_ok.mp given
      cases given
      exact Value.print_shows (Expression.value_isEscaped escapes quiet found)
  | branch condition yes no =>
      rw [Node.isQuiet, Bool.and_eq_true] at quiet
      rw [Node.render] at given
      obtain ⟨value, found, given⟩ := bind_eq_ok.mp given
      split at given
      · exact shows_of_areQuiet escapes yes quiet.1 given
      · exact shows_of_areQuiet escapes no quiet.2 given

theorem shows_of_areQuiet (escapes : scope.Escapes markup) (nodes : List Node)
    (quiet : areQuiet markup nodes = true) {html : Text}
    (given : renderNodes scope nodes = .ok html) : Shows html [] := by
  cases nodes with
  | nil =>
      rw [renderNodes] at given
      cases given
      exact .nil
  | cons node nodes =>
      rw [areQuiet, Bool.and_eq_true] at quiet
      obtain ⟨first, rest, rendered, others, rfl⟩ := renderNodes_cons_eq_ok.mp given
      exact (Node.shows_of_isQuiet escapes node quiet.1 rendered).append
        (shows_of_areQuiet escapes nodes quiet.2 others)

end

/-- Markup behind quiet nodes shows its addresses, and in front of those of the nodes behind it. -/
theorem shows_markup (escapes : scope.Escapes markup) (quiet : areQuiet markup front = true)
    (found : scope.value key = .markup inner) (shows : Shows inner shown)
    (others : ∀ rest, renderNodes scope back = .ok rest → Shows rest shownBehind)
    (given : renderNodes scope (front ++ Packaged.shown key :: back) = .ok html) :
    Shows html (shown ++ shownBehind) := by
  obtain ⟨first, _, before, afterwards, rfl⟩ := renderNodes_append_eq_ok.mp given
  obtain ⟨middle, last, rendered, behind, rfl⟩ := renderNodes_cons_eq_ok.mp afterwards
  have same : middle = inner := by
    change Except.ok (scope.value key).print = .ok middle at rendered
    rw [found] at rendered
    cases rendered
    rfl
  rw [same]
  exact (shows_of_areQuiet escapes front quiet before).append (shows.append (others last behind))

/-- A text that stands for an address is escaped in the opening tag of an anchor. -/
theorem shows_anchor {opening closing : Text} (escapes : scope.Escapes markup)
    (opens : opensNone opening = true) (closes : opensNone closing = true)
    (quiet : areQuiet markup back = true) (found : scope.value key = .text inner)
    (given : renderNodes scope (.text (opening ++ "<a href=\"".toList) :: Packaged.shown key ::
      .text ("\">".toList ++ closing) :: back) = .ok html) :
    Shows html [escape .inTemplate inner] := by
  obtain ⟨_, _, first, afterwards, rfl⟩ := renderNodes_cons_eq_ok.mp given
  obtain ⟨address, _, second, further, rfl⟩ := renderNodes_cons_eq_ok.mp afterwards
  obtain ⟨_, rest, third, behind, rfl⟩ := renderNodes_cons_eq_ok.mp further
  cases first
  cases third
  have same : address = escape .inTemplate inner := by
    change Except.ok (scope.value key).print = .ok address at second
    rw [found] at second
    cases second
    rfl
  have anchor := Shows.anchor (not_mem_escape .inTemplate '"' (by decide) (by decide) inner)
    (not_mem_escape .inTemplate '<' (by decide) (by decide) inner)
  have whole := (shows_of_opensNone opens).append (anchor.append
    ((shows_of_opensNone closes).append (shows_of_areQuiet escapes back quiet behind)))
  rw [same]
  simpa using whole

theorem Scope.escapes_of_table {table : Scope}
    (escaped : ∀ entry ∈ table, entry.1 ∈ markup ∨ entry.2.IsEscaped) : table.Escapes markup := by
  have ofTools : ∀ entry ∈ tools, entry.2.IsEscaped := by
    simp [tools, Value.IsEscaped]
  intro key absent
  unfold value
  cases found : table.lookup key with
  | some value => exact (escaped _ (mem_of_lookup found)).resolve_left absent
  | none =>
      cases atHand : tools.lookup key with
      | some value => exact ofTools _ (mem_of_lookup atHand)
      | none => exact fun _ => nofun

namespace PageTemplates

variable {values : IndexValues} {scene : SceneValues}

theorem renderIndex_shows (described : Shows values.description shown)
    (given : packaged.renderIndex values = .ok html) :
    Shows html (shown ++ [escape .inTemplate values.firstPage]) := by
  have escapes : values.scope.Escapes ["description".toList] :=
    Scope.escapes_of_table (by simp [IndexValues.scope, Value.IsEscaped])
  have parts : packaged.index = (Packaged.opening ++ [Packaged.shown "title"] ++ Packaged.middle ++
      [.text "      <h1>", Packaged.shown "title", .text "</h1>\n"]) ++
      Packaged.shown "description" ::
      .text ("\n      <p class=\"begin\">".toList ++ "<a href=\"".toList) ::
      Packaged.shown "first_page" ::
      .text ("\">".toList ++ "Begin</a></p>\n    </article>\n".toList) :: [Packaged.closing] := rfl
  rw [renderIndex, parts] at given
  refine shows_markup escapes (by decide +kernel) rfl described (fun rest behind => ?_) given
  exact shows_anchor escapes (by decide +kernel) (by decide +kernel) (by decide +kernel) rfl behind

theorem renderScene_shows (content : Shows scene.content shown)
    (given : packaged.renderScene scene = .ok html) : Shows html shown := by
  have escapes : scene.scope.Escapes ["content".toList] := by
    apply Scope.escapes_of_table
    simp only [SceneValues.scope, Value.IsEscaped]
    cases scene.toggles <;> simp
  have parts : packaged.scene = (Packaged.opening ++
      [Packaged.shown "title", .text " | ", Packaged.shown "scene_name"] ++ Packaged.middle ++
      [.text "      <h2>", Packaged.shown "scene_name", .text "</h2>\n"]) ++
      Packaged.shown "content" ::
      [.text "\n    </article>", Packaged.toggles, .text "\n", Packaged.closing] := rfl
  rw [renderScene, parts] at given
  rw [← List.append_nil shown]
  refine shows_markup escapes (by decide +kernel) rfl content (fun rest behind => ?_) given
  exact shows_of_areQuiet escapes _ (by decide +kernel) behind

end PageTemplates

end Gamebook.Template
