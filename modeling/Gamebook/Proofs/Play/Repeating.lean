import Gamebook.Proofs.Play.Discovery
import Gamebook.Proofs.Play.Pages
import Gamebook.Proofs.Story.Distinct

/-!
How often a page shows an action. Of the toggles that a link names those are fresh that were not set
before, each as often as the link names it, and the page behind the link shows their actions one for one.
-/

namespace Gamebook.Story

open Gamebook.Text Gamebook.Play

variable {story : Story} {checked : Checked} {hrefFor : State → Text} {state before : State}
  {scene : Scene} {link : Link} {page : Page} {pages : List Page} {states : List State} {bound : Int}
  {text key : Text}

/-- The actions that a page shows are those of the fresh toggles, in their order. -/
theorem map_key_freshActions (distinct : story.IsDistinct) (state : State) :
    (story.freshActions state).map Action.key =
      state.fresh.filter fun key => (story.action? key).isSome := by
  unfold freshActions
  induction state.fresh with
  | nil => rfl
  | cons key keys ih =>
      cases found : story.action? key with
      | none => simp [found, ih]
      | some action => simp [found, ih, distinct.key_of_action? found]

theorem count_fresh_follow (state : State) (link : Link) (key : Text) :
    (state.follow link).fresh.count key =
      if state.toggles.contains key then 0 else link.toggles.count key := by
  have fresh : (state.follow link).fresh = link.toggles.filter fun name => !state.toggles.contains name := rfl
  rw [fresh, count_filter_eq]
  cases state.toggles.contains key <;> rfl

/-- Behind a link an action is shown as often as the link names its toggle, if that was not set. -/
theorem count_key_freshActions (distinct : story.IsDistinct) (state : State) (link : Link) (key : Text) :
    ((story.freshActions (state.follow link)).map Action.key).count key =
      if state.toggles.contains key || (story.action? key).isNone then 0 else link.toggles.count key := by
  rw [map_key_freshActions distinct, count_filter_eq, count_fresh_follow]
  cases state.toggles.contains key <;> cases story.action? key <;> rfl

theorem nodup_key_freshActions (distinct : story.IsDistinct) (state : State) (link : Link) :
    ((story.freshActions (state.follow link)).map Action.key).Nodup ↔
      ∀ key, state.toggles.contains key = false → (story.action? key).isSome = true →
        link.toggles.count key ≤ 1 := by
  simp only [List.nodup_iff_count_le_one, count_key_freshActions distinct]
  apply forall_congr'
  intro key
  cases set : state.toggles.contains key with
  | true => simp
  | false => cases known : story.action? key <;> simp

/-- A state of a walk is the start, or an open link of another state leads to it. -/
theorem IsDiscovered.exists_link (discovered : story.IsDiscovered states) (member : state ∈ states) :
    state = story.start ∨ ∃ before ∈ states, ∃ scene, story.resolve before = .ok scene ∧
      ∃ link ∈ openLinks before (story.linksOf before scene), state = before.follow link := by
  induction discovered with
  | start => exact .inl (List.mem_singleton.mp member)
  | @add states next earlier last _ listed leads inside ih =>
      rcases List.mem_append.mp member with early | late
      · rcases ih early with first | later
        · exact .inl first
        · obtain ⟨before, known, led⟩ := later
          exact .inr ⟨before, List.mem_append_left _ known, led⟩
      · rw [List.mem_singleton.mp late]
        obtain ⟨scene, resolved, rfl⟩ := successors_eq_ok.mp leads
        obtain ⟨link, opened, rfl⟩ := List.mem_map.mp inside
        exact .inr ⟨earlier, List.mem_append_left _ listed, scene, resolved, link, opened, rfl⟩

/-- A page is that of the start, or an open link that another page shows leads to it. -/
theorem exists_link_of_page (made : story.pages hrefFor bound = .ok pages) (member : page ∈ pages) :
    page.state = story.start ∨ ∃ before ∈ pages,
      ∃ link ∈ openLinks before.state (story.linksOf before.state before.scene),
        page.state = before.state.follow link := by
  obtain ⟨states, walked, paired⟩ := pages_eq_ok made
  obtain ⟨state, listed, own⟩ := exists_mem_of_forall₂ paired member
  rw [(page_eq_ok own).1]
  rcases (walk_isDiscovered walked).exists_link listed with first | later
  · exact .inl first
  · obtain ⟨earlier, known, scene, resolved, link, opened, led⟩ := later
    obtain ⟨before, inside, other⟩ := exists_mem_of_forall₂ paired.flip known
    obtain ⟨same, found, _⟩ := page_eq_ok other
    rw [resolved, Except.ok.injEq] at found
    refine .inr ⟨before, inside, link, ?_, ?_⟩
    · rw [same, ← found]
      exact opened
    · rw [same]
      exact led

theorem freshActions_start (story : Story) : story.freshActions story.start = [] := rfl

theorem parts_of_page (made : story.pages hrefFor bound = .ok pages) (member : page ∈ pages) :
    story.resolve page.state = .ok page.scene ∧ page.actions = story.freshActions page.state := by
  obtain ⟨states, _, paired⟩ := pages_eq_ok made
  obtain ⟨state, _, own⟩ := exists_mem_of_forall₂ paired member
  obtain ⟨same, parts⟩ := page_eq_ok own
  rw [same]
  exact parts

/-- The page of the start shows no action. Any other page is led to by an open link of a page, and shows
each action as often as that link names its toggle, or not at all if the toggle was set before. So it
shows an action more than once if and only if the link names an unset toggle of an action more than once,
and no page does in a story whose links name every such toggle once. -/
theorem pages_repeat_iff (accepted : ofText text = .ok checked)
    (made : checked.story.pages hrefFor bound = .ok pages) :
    (∀ page ∈ pages, page.state = checked.story.start ∧ page.actions = [] ∨ ∃ before ∈ pages,
      ∃ link ∈ openLinks before.state (checked.story.linksOf before.state before.scene),
        page.state = before.state.follow link ∧
        (∀ key, (page.actions.map Action.key).count key =
          if before.state.toggles.contains key || (checked.story.action? key).isNone then 0
          else link.toggles.count key) ∧
        ((page.actions.map Action.key).Nodup ↔
          ∀ key, before.state.toggles.contains key = false → (checked.story.action? key).isSome = true →
            link.toggles.count key ≤ 1)) ∧
      ((∀ link ∈ checked.story.allLinks, ∀ key, (checked.story.action? key).isSome = true →
          link.toggles.count key ≤ 1) →
        ∀ page ∈ pages, (page.actions.map Action.key).Nodup) := by
  have distinct := isDistinct_of_ofText accepted
  constructor
  · intro page member
    rw [(parts_of_page made member).2]
    rcases exists_link_of_page made member with first | later
    · refine .inl ⟨first, ?_⟩
      rw [first]
      exact freshActions_start _
    · obtain ⟨before, inside, link, opened, led⟩ := later
      refine .inr ⟨before, inside, link, opened, led, ?_, ?_⟩
      · rw [led]
        exact count_key_freshActions distinct before.state link
      · rw [led]
        exact nodup_key_freshActions distinct before.state link
  · intro single page member
    rw [(parts_of_page made member).2]
    rcases exists_link_of_page made member with first | later
    · rw [first, freshActions_start]
      exact List.nodup_nil
    · obtain ⟨before, inside, link, opened, led⟩ := later
      rw [led, nodup_key_freshActions distinct]
      have listed : link ∈ checked.story.allLinks :=
        mem_allLinks_of_mem_linksOf (parts_of_page made inside).1 (List.mem_filter.mp opened).1
      exact fun key _ known => single link listed key known

/-- A link that names its toggle twice. -/
def echoSource : Text := "# [Echo](/hall)\n## Hall\n[Call](#call+call)\n### Call\nHello.\n"

def echoStory : Story where
  name := "Echo"
  description := []
  firstScene := "hall"
  scenes := [("hall", [⟨"hall", "Hall", "[Call](#call+call)", 2, .empty,
    [⟨⟨"Call", "#call+call"⟩, 3, 1, none, .empty, ["call", "call"]⟩]⟩])]
  actions := [("call", ⟨"call", "Call", "Hello.", 4, []⟩)]

theorem ofText_echoSource : ofText echoSource = .ok ⟨echoStory, [], []⟩ := by
  have cut : Source.Block.ofText (echoSource.dropWhile isByteOrderMark) = [
      ⟨⟨1, "[Echo](/hall)"⟩, 1, []⟩,
      ⟨⟨2, "Hall"⟩, 2, [⟨3, "[Call](#call+call)"⟩]⟩,
      ⟨⟨3, "Call"⟩, 4, [⟨5, "Hello."⟩]⟩] := by decide +kernel
  have reached : echoStory.orphans = [] := by
    simp [orphans, unreachedFrom, echoStory, stops, allScenes, allActions, stopsAt, stopsElsewhere,
      Link.leadsTo]
  have silent : echoStory.referenceWarnings = [] := referenceWarnings_eq_nil.mpr (by decide +kernel)
  rw [ofText, cut, ofBlocks_of_silent rfl (by decide +kernel) (by decide +kernel) rfl silent, reached]

/-- The page behind the link, with the keys of the actions that it shows, and its markup. -/
def echoed : State × List Text × Text :=
  (⟨"hall", .ofList ["call"], ["call", "call"]⟩, ["call", "call"],
    "<p>Hello.</p>\n<p>Hello.</p>\n<p><a href=\"hall\">Call</a></p>")

def echoPages : List (State × List Text × Text) := [
  (echoStory.start, [], "<p><a href=\"hall\">Call</a></p>"), echoed,
  (⟨"hall", .ofList ["call"], []⟩, [], "<p><a href=\"hall\">Call</a></p>")]

theorem pages_echoStory : ∃ pages, echoStory.pages State.scene 3 = .ok pages ∧
    pages.map (fun page => (page.state, page.actions.map Action.key, page.html)) = echoPages :=
  map_eq_ok.mp (by decide +kernel)

theorem pages_repeat_iff_echo :
    ofText echoSource = .ok ⟨echoStory, [], []⟩ ∧
      ∃ pages, echoStory.pages State.scene 3 = .ok pages ∧
        ∀ page ∈ pages, page.state = echoStory.start ∧ page.actions = [] ∨ ∃ before ∈ pages,
          ∃ link ∈ openLinks before.state (echoStory.linksOf before.state before.scene),
            page.state = before.state.follow link ∧
            ∀ key, (page.actions.map Action.key).count key =
              if before.state.toggles.contains key || (echoStory.action? key).isNone then 0
              else link.toggles.count key := by
  obtain ⟨pages, made, _⟩ := pages_echoStory
  refine ⟨ofText_echoSource, pages, made, fun page member => ?_⟩
  rcases (pages_repeat_iff ofText_echoSource made).1 page member with first | later
  · exact .inl first
  · obtain ⟨before, inside, link, opened, led, counts, _⟩ := later
    exact .inr ⟨before, inside, link, opened, led, counts⟩

/-- The story is read without warnings, and behind its link the greeting is shown twice. -/
theorem echo_isShownTwice :
    ofText echoSource = .ok ⟨echoStory, [], []⟩ ∧
      ∃ pages, echoStory.pages State.scene 3 = .ok pages ∧
        ∃ page ∈ pages, page.actions.map Action.key = ["call".toList, "call".toList] ∧
          page.html = "<p>Hello.</p>\n<p>Hello.</p>\n<p><a href=\"hall\">Call</a></p>".toList ∧
          ¬(page.actions.map Action.key).Nodup := by
  obtain ⟨pages, made, shown⟩ := pages_echoStory
  have listed : echoed ∈ echoPages := by simp [echoPages]
  rw [← shown] at listed
  obtain ⟨page, member, same⟩ := List.mem_map.mp listed
  simp only [echoed, Prod.mk.injEq] at same
  obtain ⟨_, keys, html⟩ := same
  refine ⟨ofText_echoSource, pages, made, page, member, keys, html, ?_⟩
  rw [keys]
  decide

end Gamebook.Story
