import Gamebook.Proofs.Play.Discovery
import Gamebook.Proofs.Play.Pages
import Gamebook.Proofs.Publish.Sites
import Gamebook.Proofs.Template.Showing

/-!
The pages of a site lead to one another: what the title page and the pages lead to are pages of the
site, and every page but the first is led to by one in front of it.
-/

namespace Gamebook.Hash.Sha256

theorem exists_digit_of_mem_hexDigest {message : ByteArray} {c : Char} (member : c ∈ hexDigest message) :
    ∃ digit < 16, Nat.digitChar digit = c := by
  obtain ⟨word, _, inWord⟩ := List.mem_flatMap.mp member
  obtain ⟨place, _, rfl⟩ := List.mem_map.mp inWord
  refine ⟨_, ?_, rfl⟩
  rw [UInt32.toNat_and]
  exact Nat.lt_succ_of_le Nat.and_le_right

theorem mem_hexDigest {message : ByteArray} {c : Char} (member : c ∈ hexDigest message) :
    c ∉ ['&', '<', '>', '"', '\'', '/', '\x00'] := by
  have plain : ∀ digit < 16, Nat.digitChar digit ∉ ['&', '<', '>', '"', '\'', '/', '\x00'] := by decide
  obtain ⟨digit, small, rfl⟩ := exists_digit_of_mem_hexDigest member
  exact plain digit small

end Gamebook.Hash.Sha256

namespace Gamebook.Publish

open Gamebook.Text Gamebook.Markup Gamebook.Play Gamebook.Template

variable {story : Story} {state other : State} {states : List State} {title : Document}
  {pages : List Document} {bound : Int}

namespace Job

/-- A page's name is an address as it stands. -/
theorem escape_pageName (style : EscapeStyle) (state : State) :
    escape style (pageName Site.pageEnding state) = pageName Site.pageEnding state := by
  have front : escape style "scene-".toList = "scene-".toList := rfl
  have ending : escape style Site.pageEnding = Site.pageEnding := rfl
  unfold pageName State.pageId
  rw [escape_append, escape_append, front, ending,
    escape_of_plain fun _ member special => Hash.Sha256.mem_hexDigest (List.mem_of_mem_take member)
      (List.mem_append_left ['/', '\x00'] special)]

theorem take_pageName (ending : Text) (state : State) : (pageName ending state).take 2 = ['s', 'c'] := rfl

theorem pageName_ne (state : State) :
    pageName Site.pageEnding state ≠ Site.titleName ∧
      pageName Site.pageEnding state ≠ stylesheet := by
  have front := take_pageName Site.pageEnding state
  constructor <;> intro same <;> rw [same] at front <;> revert front <;> decide

theorem nodup_pageNames (ids : (states.map State.pageId).Nodup) (ending : Text) :
    (states.map (pageName ending)).Nodup := by
  have injective : Function.Injective (· ++ ending) := fun _ _ => List.append_cancel_right
  have whole := ids.map injective
  rwa [List.map_map] at whole

end Job

/-- The pages of a job are those of the states of a walk. -/
theorem Job.states_of_pages {job : Job} {ending : Text} {list : List Page}
    (expanded : job.pages ending = .ok list) :
    job.story.walk job.maxStates = .ok (list.map Page.state) ∧
      ((list.map Page.state).map State.pageId).Nodup := by
  obtain ⟨states, walked, made⟩ := Story.pages_eq_ok (mapError_eq_ok.mp expanded)
  obtain ⟨found, holds, _, rfl, _⟩ := Story.walk_ok walked
  have same : found.order.toList = list.map Page.state := by
    have paired := map_eq_of_forall₂ made fun state page made =>
      (Story.state_of_page made).symm
    rwa [List.map_id'] at paired
  exact ⟨same ▸ walked, same ▸ holds.nodup⟩

namespace Site

/-- The page of a state shows the addresses of the pages of the states that its state leads to. -/
def IsPageOf (story : Story) (state : State) (page : Document) : Prop :=
  page.name = Job.pageName pageEnding state ∧ ∃ next, story.successors state = .ok next ∧
    (addresses page.content).Perm (next.map (Job.pageName pageEnding))

/-- A title page and the pages of the states of a walk, which have names of their own and lead to one
another. -/
structure IsLinked (story : Story) (states : List State) (title : Document) (pages : List Document) :
    Prop where
  first : states.head? = some story.start
  named : pages.map Document.name = states.map (Job.pageName pageEnding)
  distinct : (title.name :: stylesheet :: pages.map Document.name).Nodup
  closed : ∀ document ∈ title :: pages, ∀ address ∈ addresses document.content,
    address ∈ pages.map Document.name
  ledTo : ∀ front page rest, pages = front ++ page :: rest → front ≠ [] →
    ∃ earlier ∈ front, page.name ∈ addresses earlier.content

theorem names_of_pages (paired : List.Forall₂ (IsPageOf story) states pages) :
    pages.map Document.name = states.map (Job.pageName pageEnding) :=
  (map_eq_of_forall₂ paired fun _ _ page => page.1.symm).symm

theorem nodup_names (ids : (states.map State.pageId).Nodup) :
    (titleName :: stylesheet :: states.map (Job.pageName pageEnding)).Nodup := by
  have apart : ∀ name ∈ states.map (Job.pageName pageEnding), name ≠ titleName ∧ name ≠ stylesheet := by
    intro name member
    obtain ⟨state, _, rfl⟩ := List.mem_map.mp member
    exact Job.pageName_ne state
  refine List.nodup_cons.mpr ⟨fun member => ?_, List.nodup_cons.mpr ⟨fun member => ?_,
    Job.nodup_pageNames ids pageEnding⟩⟩
  · rcases List.mem_cons.mp member with same | member
    · exact absurd same (by decide)
    · exact (apart _ member).1 rfl
  · exact (apart _ member).2 rfl

theorem isLinked_of_walk (walked : story.walk bound = .ok states)
    (paired : List.Forall₂ (IsPageOf story) states pages) (titled : title.name = titleName)
    (begins : addresses title.content = [Job.pageName pageEnding story.start]) :
    IsLinked story states title pages := by
  have discovered := Story.walk_isDiscovered walked
  obtain ⟨found, holds, expanded, rfl, _⟩ := Story.walk_ok walked
  have named := names_of_pages paired
  have known : ∀ state, found.seen.contains state.pageId = true →
      Job.pageName pageEnding state ∈ pages.map Document.name := by
    intro state seen
    obtain ⟨other, member, same⟩ := (holds.seen _).mp seen
    rw [named, Job.pageName, ← same]
    exact List.mem_map.mpr ⟨other, by simpa using member, rfl⟩
  refine ⟨holds.first, named, ?_, ?_, ?_⟩
  · rw [titled, named]
    exact nodup_names holds.nodup
  · intro document member address shown
    rcases List.mem_cons.mp member with rfl | member
    · rw [begins, List.mem_singleton] at shown
      subst shown
      have first : story.start ∈ found.order.toList := List.mem_of_mem_head? (holds.first ▸ rfl)
      exact known _ ((holds.seen _).mpr ⟨_, by simpa using first, rfl⟩)
    · obtain ⟨state, listed, _, next, leads, shows⟩ := exists_mem_of_forall₂ paired member
      obtain ⟨other, behind, rfl⟩ := List.mem_map.mp (shows.mem_iff.mp shown)
      obtain ⟨same, alsoLeads, seen⟩ := expanded state (by rwa [List.take_of_length_le (by simp)])
      rw [leads] at alsoLeads
      cases alsoLeads
      exact known other (seen other behind)
  · rintro front page rest rfl notFirst
    have inFront := List.forall₂_take_append _ _ _ paired
    have behind := List.forall₂_drop_append _ _ _ paired
    have whole := List.take_append_drop front.length found.order.toList
    generalize found.order.toList.take front.length = before at inFront whole
    generalize found.order.toList.drop front.length = after at behind whole
    cases behind with
    | @cons state _ others _ own _ =>
        rw [← whole] at discovered
        have some_before : before ≠ [] := by
          rintro rfl
          cases inFront
          exact notFirst rfl
        obtain ⟨earlier, listed, next, leads, member⟩ := discovered.earlier_exists some_before
        obtain ⟨document, inside, _, same, alsoLeads, shows⟩ :=
          exists_mem_of_forall₂ inFront.flip listed
        rw [leads] at alsoLeads
        cases alsoLeads
        refine ⟨document, inside, shows.mem_iff.mpr ?_⟩
        rw [own.1]
        exact List.mem_map_of_mem member

end Site

variable {job : Job} {text titleText : Text} {checked : Story.Checked} {document : Document} {page : Page}

theorem isPageOf_of_document (built : job.story.IsBuiltFrom (Source.Block.ofText text))
    (rendered : ∀ block ∈ Source.Block.ofText text, Story.IsRendered block.body)
    (made : job.story.page (Job.pageName Site.pageEnding) state = .ok page)
    (written : job.document PageTemplates.packaged Site.pageEnding page = .ok document) :
    Site.IsPageOf job.story state document := by
  obtain ⟨next, leads, shows, same⟩ := Story.page_leads_on built rendered made
  obtain ⟨content, given, done⟩ := bind_eq_ok.mp written
  cases done
  obtain rfl := Story.state_of_page made
  have shown := (PageTemplates.renderScene_shows shows (mapError_eq_ok.mp given)).addresses_eq
  refine ⟨rfl, next, leads, ?_⟩
  rw [shown]
  simpa only [Job.escape_pageName] using same.map (Job.pageName Site.pageEnding)

/-- The title page leads to the page of the start and nowhere else. -/
theorem addresses_titlePage (described : Story.IsRendered job.story.description)
    (given : job.titlePage PageTemplates.packaged Site.pageEnding = .ok titleText) :
    addresses titleText = [Job.pageName Site.pageEnding job.story.start] := by
  obtain ⟨description, rendered, given⟩ := bind_eq_ok.mp given
  obtain ⟨html, same, shows⟩ := render_description described.1 described.2
  rw [mapError_eq_ok.mp rendered] at same
  cases same
  rw [(PageTemplates.renderIndex_shows shows (mapError_eq_ok.mp given)).addresses_eq,
    Job.escape_pageName]
  rfl

/-- What is published of a story whose text has no characters that stand around placeholders is linked. -/
theorem isLinked_of_ofText {list : List Page} (unmarked : IsUnmarked text)
    (short : text.length ≤ Placeholder.indexLimit)
    (accepted : Story.ofText text = .ok checked) (same : job.story = checked.story)
    (titled : job.titlePage PageTemplates.packaged Site.pageEnding = .ok titleText)
    (expanded : job.pages Site.pageEnding = .ok list)
    (written : List.Forall₂ (fun page document =>
      job.document PageTemplates.packaged Site.pageEnding page = .ok document) list pages) :
    ∃ states, job.story.walk job.maxStates = .ok states ∧
      Site.IsLinked job.story states ⟨Site.titleName, titleText⟩ pages := by
  have built := Story.isBuiltFrom_of_ofText accepted
  have rendered := Story.isRendered_blocks unmarked short
  obtain ⟨block, member, body⟩ := Story.description_of_ofText accepted
  rw [← same] at built body
  obtain ⟨states, walked, made⟩ := Story.pages_eq_ok (mapError_eq_ok.mp expanded)
  have paired : List.Forall₂ (Site.IsPageOf job.story) states pages := by
    refine forall₂_trans ?_ made written
    intro state page document made written
    exact isPageOf_of_document built rendered made written
  have described : Story.IsRendered job.story.description := body ▸ rendered block member
  exact ⟨states, walked, Site.isLinked_of_walk walked paired rfl (addresses_titlePage described titled)⟩

end Gamebook.Publish
