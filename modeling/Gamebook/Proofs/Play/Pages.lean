import Gamebook.Proofs.Play.Covering
import Gamebook.Proofs.Play.Exploration

/-!
The pages of a story show the links that their states lead on by. A link's markup is put aside while
the markup around it is made, and restored as it was; of all passes only that of images moves links.
-/

namespace Gamebook.Story

open Gamebook.Text Gamebook.Source Gamebook.Play Gamebook.Markup Gamebook.Markup.Placeholder

theorem flatMap_addresses (hrefFor : State → Text) (state : State) (links : List Link) :
    links.flatMap (Link.addresses hrefFor state) =
      ((openLinks state links).map state.follow).map fun next =>
        escape .inAttribute (hrefFor next) := by
  induction links with
  | nil => rfl
  | cons link links ih =>
      rw [List.flatMap_cons, ih]
      unfold openLinks Link.addresses
      rw [List.filter_cons]
      split
      · rfl
      · rfl

end Gamebook.Story

namespace Gamebook.Play.Page

open Gamebook.Story

/-- The links that a page shows, in the order in which it shows them. -/
def shownLinks (page : Page) : List Link :=
  page.actions.flatMap (fun action => Story.shownLinks action.description action.links) ++
    Story.shownLinks page.scene.description page.scene.links

/-- The states that the links of a page lead to. -/
def next (page : Page) : List State :=
  (openLinks page.state page.shownLinks).map page.state.follow

/-- No image of the page holds links both in its alternate text and in its source. -/
def ShowsInOrder (page : Page) : Prop :=
  (∀ action ∈ page.actions, Story.ShowsInOrder action.description action.links) ∧
    Story.ShowsInOrder page.scene.description page.scene.links

end Gamebook.Play.Page

namespace Gamebook.Story

open Gamebook.Text Gamebook.Source Gamebook.Play Gamebook.Markup Gamebook.Markup.Placeholder

variable {story : Story} {hrefFor : State → Text} {state : State} {scene : Scene}

theorem flatMap_labels_bodyParts (actions : List Action) (scene : Scene) :
    (bodyParts actions scene).flatMap (fun part => labels part.shown) =
      actions.flatMap (fun action => shownLinks action.description action.links) ++
        shownLinks scene.description scene.links := by
  have ofBlock : ∀ description links, (blockParts description links).flatMap (fun part => labels part.shown) =
      shownLinks description links := by
    intro description links
    simp only [blockParts, shownLinks, shownOrder, List.flatMap_assoc, labels_flatMap]
  simp only [bodyParts, List.flatMap_append, List.flatMap_assoc, ofBlock]

theorem page_shows (hrefFor : State → Text) (found : story.resolve state = .ok scene)
    (ofActions : ∀ action ∈ story.freshActions state, IsRendered action.description)
    (ofScene : IsRendered scene.description) :
    ∃ page, story.page hrefFor state = .ok page ∧ page.state = state ∧
      page.actions = story.freshActions state ∧ page.scene = scene ∧
      Shows page.html (page.next.map fun next => escape .inAttribute (hrefFor next)) := by
  obtain ⟨page, made, rfl, actions, rfl, shows⟩ := page_reads isReading_shows found ofActions ofScene
    fun part listed => isRead_shows fun label member =>
      (markup_of_mem_bodyParts ofActions ofScene listed member hrefFor state).2.1
  refine ⟨page, made, rfl, actions, rfl, ?_⟩
  rw [← List.flatMap_assoc, flatMap_labels_bodyParts, flatMap_addresses] at shows
  exact shows

theorem isRendered_body {text : Text} {block : Source.Block} (unmarked : IsUnmarked text)
    (short : text.length ≤ indexLimit) (member : block ∈ Source.Block.ofText text) :
    IsRendered block.body := by
  refine ⟨fun c inBody => ?_, Nat.le_trans (Block.length_body_le member) short⟩
  rcases Block.mem_of_mem_body member inBody with rfl | inText
  · decide
  · exact unmarked c inText

variable {blocks : List Source.Block} {text : Text} {page : Page}

theorem isRendered_blocks (unmarked : IsUnmarked text) (short : text.length ≤ indexLimit) :
    ∀ block ∈ Source.Block.ofText (text.dropWhile isByteOrderMark), IsRendered block.body := by
  have part : (text.dropWhile isByteOrderMark).Sublist text := List.dropWhile_sublist _
  exact fun block member =>
    isRendered_body (unmarked.part part) (Nat.le_trans part.length_le short) member

theorem next_perm (built : story.IsBuiltFrom (Source.Block.ofText text))
    (ofActions : ∀ action ∈ page.actions, action ∈ story.allActions)
    (ofScene : page.scene ∈ story.allScenes) :
    page.next.Perm ((openLinks page.state
      (page.actions.flatMap Action.links ++ page.scene.links)).map page.state.follow) := by
  apply follow_openLinks_perm
  unfold Page.shownLinks
  rw [List.map_append, List.map_append, List.map_flatMap, List.map_flatMap]
  refine List.Perm.append (List.Perm.flatMap_left _ fun action member => ?_) ?_
  · obtain ⟨block, inText, rfl⟩ := built.actions action (ofActions action member)
    exact shownLinks_perm inText
  · obtain ⟨block, inText, same⟩ := built.scenes page.scene ofScene
    rw [same]
    exact shownLinks_perm inText

theorem next_eq (built : story.IsBuiltFrom (Source.Block.ofText text))
    (ofActions : ∀ action ∈ page.actions, action ∈ story.allActions)
    (ofScene : page.scene ∈ story.allScenes) (ordered : page.ShowsInOrder) :
    page.next = (openLinks page.state
      (page.actions.flatMap Action.links ++ page.scene.links)).map page.state.follow := by
  apply follow_openLinks_eq
  unfold Page.shownLinks
  rw [List.map_append, List.map_append, List.map_flatMap, List.map_flatMap]
  obtain ⟨orderedActions, orderedScene⟩ := ordered
  refine congrArg₂ _ (List.flatMap_congr fun action member => ?_) ?_
  · have orderedAction := orderedActions action member
    obtain ⟨block, inText, rfl⟩ := built.actions action (ofActions action member)
    exact shownLinks_eq inText orderedAction
  · obtain ⟨block, inText, same⟩ := built.scenes page.scene ofScene
    rw [same] at orderedScene ⊢
    exact shownLinks_eq inText orderedScene

theorem page_shows_successors (hrefFor : State → Text) {next : List State}
    (built : story.IsBuiltFrom (Source.Block.ofText text))
    (rendered : ∀ block ∈ Source.Block.ofText text, IsRendered block.body)
    (leads : story.successors state = .ok next) :
    ∃ page, story.page hrefFor state = .ok page ∧ page.state = state ∧
      Shows page.html (page.next.map fun other => escape .inAttribute (hrefFor other)) ∧
      page.next.Perm next ∧ (page.ShowsInOrder → page.next = next) := by
  obtain ⟨scene, resolved, rfl⟩ := successors_eq_ok.mp leads
  have sceneInStory : scene ∈ story.allScenes :=
    mem_allScenes_of_variants (mem_candidates.mp (resolve_mem resolved)).1
  have actionsInStory : ∀ action ∈ story.freshActions state, action ∈ story.allActions := by
    intro action fresh
    obtain ⟨name, _, known⟩ := List.mem_filterMap.mp fresh
    exact mem_allActions_of_action? known
  have ofScene : IsRendered scene.description := by
    obtain ⟨block, inText, rfl⟩ := built.scenes scene sceneInStory
    exact rendered block inText
  have ofActions : ∀ action ∈ story.freshActions state, IsRendered action.description := by
    intro action fresh
    obtain ⟨block, inText, rfl⟩ := built.actions action (actionsInStory action fresh)
    exact rendered block inText
  obtain ⟨page, made, rfl, actions, rfl, shown⟩ := page_shows hrefFor resolved ofActions ofScene
  rw [← actions] at actionsInStory
  refine ⟨page, made, rfl, shown, ?_, fun ordered => ?_⟩
  · rw [linksOf, ← actions]
    exact next_perm built actionsInStory sceneInStory
  · rw [linksOf, ← actions]
    exact next_eq built actionsInStory sceneInStory ordered

theorem page_eq_ok {hrefFor : State → Text} (made : story.page hrefFor state = .ok page) :
    page.state = state ∧ story.resolve state = .ok page.scene ∧
      page.actions = story.freshActions state := by
  obtain ⟨scene, resolved, made⟩ := bind_eq_ok.mp made
  obtain ⟨html, _, made⟩ := bind_eq_ok.mp made
  cases made
  exact ⟨rfl, mapError_eq_ok.mp resolved, rfl⟩

theorem state_of_page {hrefFor : State → Text} (made : story.page hrefFor state = .ok page) :
    page.state = state :=
  (page_eq_ok made).1

/-- The pages of a story are those of the states of its walk. -/
theorem pages_eq_ok {hrefFor : State → Text} {bound : Int} {pages : List Page}
    (made : story.pages hrefFor bound = .ok pages) : ∃ states, story.walk bound = .ok states ∧
      List.Forall₂ (fun state page => story.page hrefFor state = .ok page) states pages := by
  obtain ⟨states, walked, made⟩ := bind_eq_ok.mp made
  exact ⟨states, mapError_eq_ok.mp walked, forall₂_of_mapM_ok made⟩

theorem page_leads_on {hrefFor : State → Text}
    (built : story.IsBuiltFrom (Source.Block.ofText text))
    (rendered : ∀ block ∈ Source.Block.ofText text, IsRendered block.body)
    (made : story.page hrefFor state = .ok page) :
    ∃ next, story.successors state = .ok next ∧
      Shows page.html (page.next.map fun other => escape .inAttribute (hrefFor other)) ∧
      page.next.Perm next := by
  obtain ⟨_, resolved, _⟩ := page_eq_ok made
  have leads := successors_eq_ok.mpr ⟨page.scene, resolved, rfl⟩
  obtain ⟨same, again, _, shows, listed, _⟩ := page_shows_successors hrefFor built rendered leads
  rw [made] at again
  cases again
  exact ⟨_, leads, shows, listed⟩

/-- Every page shows the addresses of the states that its state leads to, each once for each link,
and in the order of the links where no image holds links on both sides. No text has more characters
than there are indices. -/
theorem pages_show_successors {checked : Checked} {bound : Int} {states : List State}
    (unmarked : IsUnmarked text) (short : text.length ≤ indexLimit)
    (accepted : ofText text = .ok checked) (walked : checked.story.walk bound = .ok states)
    (hrefFor : State → Text) :
    ∃ pages, checked.story.pages hrefFor bound = .ok pages ∧ pages.map Page.state = states ∧
      ∀ page ∈ pages, ∃ next, checked.story.successors page.state = .ok next ∧
        addresses page.html = page.next.map (fun other => escape .inAttribute (hrefFor other)) ∧
        page.next.Perm next ∧ (page.ShowsInOrder → page.next = next) := by
  have built := isBuiltFrom_of_ofText accepted
  have rendered := isRendered_blocks unmarked short
  obtain ⟨found, _, expanded, rfl, _⟩ := walk_ok walked
  have each : ∀ state ∈ found.order.toList, ∃ page,
      checked.story.page hrefFor state = .ok page ∧ page.state = state ∧
        ∃ next, checked.story.successors page.state = .ok next ∧
          addresses page.html = page.next.map (fun other => escape .inAttribute (hrefFor other)) ∧
          page.next.Perm next ∧ (page.ShowsInOrder → page.next = next) := by
    intro state member
    obtain ⟨next, leads, _⟩ := expanded state (by rwa [List.take_of_length_le (by simp)])
    obtain ⟨page, made, rfl, shows, shown⟩ := page_shows_successors hrefFor built rendered leads
    exact ⟨page, made, rfl, next, leads, shows.addresses_eq, shown⟩
  obtain ⟨pages, made, paired⟩ := exists_mapM_ok each
  refine ⟨pages, ?_, ?_, fun page member => ?_⟩
  · rw [Story.pages, walked]
    exact made
  · have same : List.Forall₂ (· = ·) found.order.toList (pages.map Page.state) :=
      List.forall₂_map_right_iff.mpr (paired.imp fun _ _ shown => shown.1.symm)
    rw [List.forall₂_eq_eq_eq] at same
    exact same.symm
  · obtain ⟨state, _, _, shown⟩ := exists_mem_of_forall₂ paired member
    exact shown

/-- An image with a link in its alternate text and another in its source. -/
def pictureSource : Text :=
  "# [Map](/hall)\n## Hall\n![[in](/door)]([out](/gate))\n## Door\n..\n## Gate\n..\n"

def pictureStory : Story where
  name := "Map"
  description := []
  firstScene := "hall"
  scenes := [
    ("hall", [⟨"hall", "Hall", "![[in](/door)]([out](/gate))", 2, .empty,
      [plainLink "in" "/door" 3 3 "door" [], plainLink "out" "/gate" 3 16 "gate" []]⟩]),
    ("door", [⟨"door", "Door", "..", 4, .empty, []⟩]),
    ("gate", [⟨"gate", "Gate", "..", 6, .empty, []⟩])]

def pictureStates : List State := [pictureStory.start, { scene := "door" }, { scene := "gate" }]

theorem ofText_pictureSource : ofText pictureSource = .ok ⟨pictureStory, [], []⟩ := by
  have cut : Source.Block.ofText (pictureSource.dropWhile isByteOrderMark) = [
      ⟨⟨1, "[Map](/hall)"⟩, 1, []⟩,
      ⟨⟨2, "Hall"⟩, 2, [⟨3, "![[in](/door)]([out](/gate))"⟩]⟩,
      ⟨⟨2, "Door"⟩, 4, [⟨5, ".."⟩]⟩,
      ⟨⟨2, "Gate"⟩, 6, [⟨7, ".."⟩]⟩] := by decide +kernel
  have reached : pictureStory.orphans = [] := by
    simp [orphans, unreachedFrom, pictureStory, stops, allScenes, allActions, stopsAt,
      stopsElsewhere, plainLink, Link.leadsTo]
  have silent : pictureStory.referenceWarnings = [] :=
    referenceWarnings_eq_nil.mpr (by decide +kernel)
  rw [ofText, cut, ofBlocks_of_silent rfl (by decide +kernel) (by decide +kernel) rfl silent, reached]

theorem walk_pictureStory : pictureStory.walk 3 = .ok pictureStates := by decide +kernel

theorem pages_show_successors_picture :
    IsUnmarked pictureSource ∧ pictureSource.length ≤ indexLimit ∧
      ofText pictureSource = .ok ⟨pictureStory, [], []⟩ ∧
      pictureStory.walk 3 = .ok pictureStates ∧
      ∃ pages, pictureStory.pages State.scene 3 = .ok pages ∧
        pages.map Page.state = pictureStates ∧
        ∀ page ∈ pages, ∃ next, pictureStory.successors page.state = .ok next ∧
          addresses page.html = page.next.map (fun other => escape .inAttribute other.scene) ∧
          page.next.Perm next ∧ (page.ShowsInOrder → page.next = next) :=
  ⟨by decide +kernel, by decide +kernel, ofText_pictureSource, walk_pictureStory,
    pages_show_successors (by decide +kernel) (by decide +kernel) ofText_pictureSource
      walk_pictureStory State.scene⟩

/-- The link in the source of an image is shown before the one in its alternate text, which the
state leads on by first. -/
theorem picture_swaps_links :
    IsUnmarked pictureSource ∧ ofText pictureSource = .ok ⟨pictureStory, [], []⟩ ∧
      pictureStory.walk 3 = .ok pictureStates ∧
      ∃ page next, pictureStory.page State.scene pictureStory.start = .ok page ∧
        pictureStory.successors pictureStory.start = .ok next ∧
        addresses page.html = next.reverse.map (fun other => escape .inAttribute other.scene) ∧
        addresses page.html ≠ next.map (fun other => escape .inAttribute other.scene) := by
  have shown : (pictureStory.page State.scene pictureStory.start).map Page.html = .ok
      "<p><img src=\"<a href=\"gate\">out</a>\" alt=\"<a href=\"door\">in</a>\" /></p>".toList := by
    decide +kernel
  have leads : pictureStory.successors pictureStory.start =
      .ok [{ scene := "door" }, { scene := "gate" }] := by decide +kernel
  refine ⟨by decide +kernel, ofText_pictureSource, walk_pictureStory, ?_⟩
  cases made : pictureStory.page State.scene pictureStory.start with
  | error reason =>
      rw [made] at shown
      cases shown
  | ok page =>
      rw [made] at shown
      have html := Except.ok.inj shown
      refine ⟨page, _, rfl, leads, ?_, ?_⟩
      · rw [html]
        decide +kernel
      · rw [html]
        decide +kernel

end Gamebook.Story
