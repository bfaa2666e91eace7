import Gamebook.Proofs.Play.Returning

/-!
Where the anchors of a page stand. Links are put aside before images are looked for, so an image can hold
links in its attributes. All other markup of a page is made of tags: a page is markup just if the
links in its images are rendered to values of attributes, which no open link is.
-/

namespace Gamebook.Play.Page

open Gamebook.Story Gamebook.Markup

/-- The links in the images of a page. -/
def imageLinks (page : Page) : List Link := (bodyParts page.actions page.scene).flatMap Markup.Part.inImage

/-- Every link in an image of the page is rendered to what can stand in an attribute. -/
def FitsAttributes (hrefFor : State → Text) (page : Page) : Prop :=
  ∀ link ∈ page.imageLinks, ∃ html, link.html hrefFor page.state = .ok html ∧ Tag.IsValue html

end Gamebook.Play.Page

namespace Gamebook.Story

open Gamebook.Text Gamebook.Play Gamebook.Markup Gamebook.Markup.Placeholder

variable {story : Story} {hrefFor : State → Text} {state : State} {scene : Scene} {text : Text}
  {page : Page}

/-- The markup of an open link is an anchor, which no attribute can hold. -/
theorem not_isValue_of_open {link : Link} {html : Text}
    (isOpen : (link.navigates && state.allows link.conditions) = true)
    (rendered : link.html hrefFor state = .ok html) : ¬Tag.IsValue html := by
  obtain ⟨navigates, allowed⟩ := Bool.and_eq_true_iff.mp isOpen
  unfold Link.html at rendered
  rw [if_pos allowed, navigates] at rendered
  obtain ⟨inner, _, made⟩ := bind_eq_ok.mp rendered
  cases made
  exact fun isValue => isValue.not_mem.1 List.mem_cons_self

/-- No image of a page that fits holds an open link. -/
theorem openLinks_imageLinks (fits : page.FitsAttributes hrefFor) :
    openLinks page.state page.imageLinks = [] := by
  refine List.filter_eq_nil_iff.mpr fun link inside isOpen => ?_
  obtain ⟨html, rendered, isValue⟩ := fits link inside
  exact not_isValue_of_open isOpen rendered isValue

theorem page_isMarkup_iff (hrefFor : State → Text) (found : story.resolve state = .ok scene)
    (ofActions : ∀ action ∈ story.freshActions state, IsRendered action.description)
    (ofScene : IsRendered scene.description) (made : story.page hrefFor state = .ok page) :
    IsMarkup page.html ↔ page.FitsAttributes hrefFor := by
  obtain ⟨same, again, rfl, actions, rfl, holds⟩ := page_reads isReading_holdsValues found ofActions ofScene
    fun part listed => isRead_holdsValues fun label member =>
      (markup_of_mem_bodyParts ofActions ofScene listed member hrefFor state).2.2
  rw [made] at again
  cases again
  have known : ∀ link ∈ page.imageLinks,
      link.html hrefFor page.state = .ok (link.markup hrefFor page.state) := by
    intro link inImage
    obtain ⟨part, listed, inside⟩ := List.mem_flatMap.mp inImage
    rw [actions] at listed
    have member := Markup.Part.mem_shown_of_inImage inside
    exact (markup_of_mem_bodyParts ofActions ofScene listed member hrefFor _).1
  rw [holds.isMarkup_iff, ← List.map_flatMap, List.forall_mem_map]
  refine forall₂_congr fun link inside => ?_
  simp [known link inside]

/-- A page is markup just if the links in its images fit their attributes. Then no open link is among
them, and the anchors that stand where tags can are those of all links that the page shows. No text has
more characters than there are indices. -/
theorem pages_isMarkup_iff {checked : Checked} {bound : Int} {states : List State}
    (unmarked : IsUnmarked text) (short : text.length ≤ indexLimit)
    (accepted : ofText text = .ok checked) (walked : checked.story.walk bound = .ok states)
    (hrefFor : State → Text) :
    ∃ pages, checked.story.pages hrefFor bound = .ok pages ∧ pages.map Page.state = states ∧
      ∀ page ∈ pages, (IsMarkup page.html ↔ page.FitsAttributes hrefFor) ∧
        (IsMarkup page.html → openLinks page.state page.imageLinks = [] ∧
          anchors page.html = page.next.map fun other => escape .inAttribute (hrefFor other)) := by
  obtain ⟨-, shown⟩ := showsUnmarked_of_ofText short unmarked accepted
  refine pages_of_walk walked fun state _ next leads => ?_
  obtain ⟨scene, resolved, ofScene, ofActions⟩ := (shown state).isRendered short accepted leads
  obtain ⟨page, made, same, _, _, shows⟩ := page_shows hrefFor resolved ofActions ofScene
  have fits := page_isMarkup_iff hrefFor resolved ofActions ofScene made
  refine ⟨page, made, same, fits, fun markup => ⟨openLinks_imageLinks (fits.mp markup), ?_⟩⟩
  rw [markup.anchors_eq, shows.addresses_eq]

theorem pages_isMarkup_iff_picture :
    IsUnmarked pictureSource ∧ pictureSource.length ≤ indexLimit ∧
      ofText pictureSource = .ok ⟨pictureStory, [], []⟩ ∧ pictureStory.walk 3 = .ok pictureStates ∧
      ∃ pages, pictureStory.pages State.scene 3 = .ok pages ∧ pages.map Page.state = pictureStates ∧
        ∀ page ∈ pages, (IsMarkup page.html ↔ page.FitsAttributes State.scene) ∧
          (IsMarkup page.html → openLinks page.state page.imageLinks = [] ∧
            anchors page.html = page.next.map fun other => escape .inAttribute other.scene) :=
  ⟨isRendered_pictureSource.1, isRendered_pictureSource.2, ofText_pictureSource, walk_pictureStory,
    pages_isMarkup_iff isRendered_pictureSource.1 isRendered_pictureSource.2 ofText_pictureSource
      walk_pictureStory State.scene⟩

/-- The anchors of an image's links end up in its attributes, so the `<img` before them opens no tag. -/
theorem picture_is_no_markup :
    IsUnmarked pictureSource ∧ ofText pictureSource = .ok ⟨pictureStory, [], []⟩ ∧
      pictureStory.walk 3 = .ok pictureStates ∧
      ∃ pages, pictureStory.pages State.scene 3 = .ok pages ∧ ∃ page ∈ pages,
        page.html = "<p><img src=\"<a href=\"gate\">out</a>\" alt=\"<a href=\"door\">in</a>\" /></p>".toList ∧
        ¬IsMarkup page.html := by
  have shown : (pictureStory.pages State.scene 3).map (List.map Page.html) = .ok
      ["<p><img src=\"<a href=\"gate\">out</a>\" alt=\"<a href=\"door\">in</a>\" /></p>".toList,
        "<p>..</p>".toList, "<p>..</p>".toList] := by
    rw [Story.pages, walk_pictureStory]
    change (pictureStates.mapM (pictureStory.page State.scene)).map (List.map Page.html) = _
    with_unfolding_all rfl
  refine ⟨isRendered_pictureSource.1, ofText_pictureSource, walk_pictureStory, ?_⟩
  cases made : pictureStory.pages State.scene 3 with
  | error reason =>
      rw [made] at shown
      cases shown
  | ok pages =>
      rw [made] at shown
      obtain ⟨page, others, rfl, html, -⟩ := List.map_eq_cons_iff.mp (Except.ok.inj shown)
      refine ⟨_, rfl, page, List.mem_cons_self, html, ?_⟩
      rw [html]
      intro markup
      -- Behind the paragraph's tag the image does not end where its first value does.
      have behind : IsMarkup
          "<img src=\"<a href=\"gate\">out</a>\" alt=\"<a href=\"door\">in</a>\" /></p>".toList :=
        (isMarkup_of_read (Tag.read_bare List.mem_cons_self _)).mp markup
      exact ((isMarkup_of_not_read rfl).mp behind).1 rfl

end Gamebook.Story
