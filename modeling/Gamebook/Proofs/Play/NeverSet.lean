import Gamebook.Proofs.Play.Resolution
import Gamebook.Proofs.Story.Accounting
import Gamebook.Proofs.Story.Requirements

/-!
Toggles that no link sets. A condition on one of them gives a warning, and the warning is right: no reader
ever has the toggle set. So what requires it is never there, and requiring that it is not set is requiring
nothing.
-/

namespace Gamebook.Story

open Gamebook.Text Gamebook.Source Gamebook.Play

variable {story : Story} {checked : Checked} {blocks earlier : List Block} {block : Block}
  {lines : List NumberedLine} {warning : Warning} {text name : Text} {state : State} {conditions : Conditions}

section Messages

/-- The first letter of a message. -/
def Cause.initial : Cause → Char
  | .toggleNeverSet _ => 'C'
  | .invalidHeadingLink _ | .invalidLinkTarget _ => 'I'
  | .emptyLink | .undefinedScene _ => 'L'
  | .actionHeadingIsLink | .actionWithoutName | .actionAlreadyDefined _ _ | .alternateWithoutCondition => 'A'
  | .sceneHeadingBeyondConditions | .sceneWithoutName | .sceneAlreadyDefined _ _
  | .sceneAlwaysConditional _ => 'S'

theorem head?_append {first rest : String} {c : Char} (starts : first.toList.head? = some c) :
    (first ++ rest).toList.head? = some c := by
  rw [String.toList_append, List.head?_append, starts, Option.some_or]

theorem Cause.head?_message (cause : Cause) : cause.message.toList.head? = some cause.initial := by
  cases cause <;> unfold message <;> (repeat apply head?_append) <;> rfl

/-- No other cause gives the message on a toggle that is never set. -/
theorem Cause.eq_toggleNeverSet {cause : Cause}
    (same : cause.message = (Cause.toggleNeverSet name).message) : cause = .toggleNeverSet name := by
  have initials := congrArg (fun message => message.toList.head?) same
  simp only [head?_message, Option.some.injEq] at initials
  cases cause with
  | toggleNeverSet other =>
      have chars := congrArg String.toList same
      unfold message between at chars
      simp only [String.toList_append, List.append_assoc] at chars
      have quoted := List.append_cancel_left (List.append_cancel_left chars)
      have names := List.append_cancel_right quoted
      simp only [str, String.toList_ofList] at names
      rw [names]
  | _ => cases initials

end Messages

section Origin

/-- The cause is found where the parts of a story are held against each other, not where they are added. -/
def Cause.isReference : Cause → Bool
  | .sceneAlwaysConditional _ | .toggleNeverSet _ | .undefinedScene _ => true
  | _ => false

theorem isReference_of_headingWarnings (member : warning ∈ headingWarnings block) :
    warning.cause.isReference = false := by
  unfold headingWarnings readSceneHeading readActionHeading at member
  grind [Cause.isReference]

theorem isReference_of_placeLinks (member : warning ∈ (placeLinks lines).2) :
    warning.cause.isReference = false := by
  rw [placeLinks_eq] at member
  obtain ⟨site, _, member⟩ := List.mem_flatMap.mp member
  unfold Site.warnings placeLink at member
  grind [Cause.isReference]

theorem Warning.refuses.isReference (refuses : warning.refuses block) :
    warning.cause.isReference = false := by
  obtain ⟨_, _, cause⟩ := refuses
  cases same : warning.cause <;> simp_all [Cause.refuses, Cause.isReference]

theorem IsJudged.isReference {result : Story × List Warning} (judged : IsJudged story earlier block result)
    (member : warning ∈ result.2) : warning.cause.isReference = false := by
  cases judged with
  | taken =>
      rcases List.mem_append.mp member with ofHeading | ofLinks
      · exact isReference_of_headingWarnings ofHeading
      · exact isReference_of_placeLinks ofLinks
  | refused _ _ refuses =>
      rcases List.mem_append.mp member with ofHeading | only
      · exact isReference_of_headingWarnings ofHeading
      · rw [List.mem_singleton.mp only]
        exact refuses.isReference
  | passed => cases member

theorem IsMadeOf.isReference (made : story.IsMadeOf earlier)
    (member : warning ∈ (Story.addBlocks story blocks).2) : warning.cause.isReference = false := by
  induction blocks generalizing story earlier with
  | nil => cases member
  | cons block blocks ih =>
      have judged := made.addBlock block
      simp only [Story.addBlocks, List.mem_append] at member
      generalize Story.addBlock story block = result at judged member
      rcases member with here | behind
      · exact judged.isReference here
      · cases judged with
        | taken part _ => exact ih (made.addEntry part) behind
        | refused => exact ih made behind
        | passed => exact ih made behind

theorem mem_referenceWarnings (accepted : ofText text = .ok checked) (member : warning ∈ checked.warnings)
    (reference : warning.cause.isReference = true) : warning ∈ checked.story.referenceWarnings := by
  obtain ⟨_, _, _, _, _, _, _, _, warnings⟩ := ofBlocks_eq_ok accepted
  rw [warnings] at member
  rcases List.mem_append.mp member with added | told
  · rw [(isMadeOf_nil _ _ _).isReference added] at reference
    cases reference
  · exact told

theorem isSetBySomeLink_eq_false : story.isSetBySomeLink name = false ↔
    ∀ link ∈ story.allLinks, name ∉ link.toggles := by
  simp [isSetBySomeLink]

theorem mem_neverSet {line column : Nat} : warning ∈ neverSet story line column conditions ↔
    ∃ name ∈ conditions.names, story.isSetBySomeLink name = false ∧
      warning = ⟨line, column, .toggleNeverSet name⟩ := by
  simp only [neverSet, List.mem_map, List.mem_filter, Bool.not_eq_eq_eq_not, Bool.not_true, and_assoc,
    eq_comm (b := warning)]

theorem isSetBySomeLink_of_warning (told : warning ∈ story.referenceWarnings)
    (cause : warning.cause = .toggleNeverSet name) : story.isSetBySomeLink name = false := by
  have ofNeverSet : ∀ {line column : Nat} {conditions : Conditions},
      warning ∈ neverSet story line column conditions → story.isSetBySomeLink name = false := by
    intro line column conditions member
    obtain ⟨other, _, unset, rfl⟩ := mem_neverSet.mp member
    obtain rfl : other = name := by simpa using cause
    exact unset
  simp only [referenceWarnings, List.mem_append, List.mem_flatMap] at told
  rcases told with (⟨_, _, member⟩ | ⟨_, _, member⟩) | ⟨_, _, member | member⟩
  · unfold alwaysConditional at member
    grind
  · exact ofNeverSet member
  · unfold undefinedTarget at member
    grind
  · exact ofNeverSet member

end Origin

/-- The requirements but that on one toggle. -/
def Conditions.without (conditions : Conditions) (name : Text) : Conditions where
  entries := conditions.entries.filter fun entry => entry.1 ≠ name
  nodup := conditions.nodup.sublist (List.filter_sublist.map Prod.fst)

theorem Conditions.eq_of_mem {wanted other : Bool} (first : (name, wanted) ∈ conditions.entries)
    (second : (name, other) ∈ conditions.entries) : wanted = other :=
  congrArg Prod.snd (List.inj_on_of_nodup_map conditions.nodup first second rfl)

theorem Conditions.not_met {isSet : Text → Bool} (unset : isSet name = false)
    (required : (name, true) ∈ conditions.entries) : conditions.met isSet = false := by
  apply Bool.eq_false_iff.mpr
  intro met
  have set := met_iff.mp met name true required
  rw [unset] at set
  cases set

/-- Requiring that a toggle is not set, where it is not set, is requiring nothing. -/
theorem Conditions.met_without {isSet : Text → Bool} (unset : isSet name = false)
    (forbidden : (name, false) ∈ conditions.entries) :
    (conditions.without name).met isSet = conditions.met isSet := by
  rw [Bool.eq_iff_iff, met_iff, met_iff]
  constructor
  · intro others other wanted member
    by_cases same : other = name
    · subst same
      rw [eq_of_mem member forbidden]
      exact unset
    · exact others other wanted (List.mem_filter.mpr ⟨member, by simpa using same⟩)
  · intro all other wanted member
    exact all other wanted (List.mem_filter.mp member).1

/-- In this state the toggle is not set, whatever requires it is closed to the reader, and requiring that
it is not set closes nothing. -/
structure StaysUnset (story : Story) (state : State) (name : Text) : Prop where
  unset : state.toggles.contains name = false
  required : ∀ conditions, (name, true) ∈ conditions.entries → state.allows conditions = false
  links : ∀ links, ∀ link ∈ openLinks state links, (name, true) ∉ link.conditions.entries
  variants : ∀ scene, story.resolve state = .ok scene → (name, true) ∉ scene.conditions.entries
  forbidden : ∀ conditions, (name, false) ∈ conditions.entries →
    state.allows (conditions.without name) = state.allows conditions

theorem staysUnset_of_not_contains (unset : state.toggles.contains name = false) :
    story.StaysUnset state name where
  unset := unset
  required conditions wanted := Conditions.not_met unset wanted
  links links link isOpen wanted := by
    have allowed := (Bool.and_eq_true_iff.mp (List.mem_filter.mp isOpen).2).2
    rw [State.allows, Conditions.not_met unset wanted] at allowed
    cases allowed
  variants scene shown wanted := by
    have allowed := (mem_candidates.mp (resolve_mem shown)).2
    rw [State.allows, Conditions.not_met unset wanted] at allowed
    cases allowed
  forbidden conditions unwanted := Conditions.met_without unset unwanted

/-- What a reader has set are toggles of links. So the warning that a toggle is never set is right: it is
set in no state that a reader can come to. -/
theorem warned_toggles_stay_unset (accepted : ofText text = .ok checked) :
    (∀ state, checked.story.Reachable state → ∀ name, state.toggles.contains name = true →
      ∃ link ∈ checked.story.allLinks, name ∈ link.toggles) ∧
    ∀ warning ∈ checked.warnings, ∀ name,
      warning.cause.message = "Condition " ++ Cause.between name ++ " refers to a toggle that is never set." →
        ∀ state, checked.story.Reachable state → checked.story.StaysUnset state name := by
  refine ⟨fun state reached name set => reached.exists_link_of_contains set, ?_⟩
  intro warning member name message state reached
  have cause : warning.cause = .toggleNeverSet name := Cause.eq_toggleNeverSet message
  have told := mem_referenceWarnings accepted member (by rw [cause]; rfl)
  have unset := isSetBySomeLink_eq_false.mp (isSetBySomeLink_of_warning told cause)
  apply staysUnset_of_not_contains
  apply Bool.eq_false_iff.mpr
  intro set
  obtain ⟨link, known, member⟩ := reached.exists_link_of_contains set
  exact unset link known member

/-- A gate that stands open for readers with gold, and a yard behind it; there is no gold. -/
def gateSource : Text :=
  "# [Gate](/gate)\n## Gate\n[Pay](/yard?gold)\n## [Gate](?gold)\nOpen.\n".toList
    ++ "## Yard\n[Back](/gate?!gold)\n".toList

def gateStory : Story where
  name := "Gate"
  description := []
  firstScene := "gate"
  scenes := [
    ("gate", [
      ⟨"gate", "Gate", "[Pay](/yard?gold)", 2, .empty,
        [⟨⟨"Pay", "/yard?gold"⟩, 3, 1, some "yard", Conditions.empty.put "gold" true, []⟩]⟩,
      ⟨"gate", "Gate", "Open.", 4, Conditions.empty.put "gold" true, []⟩]),
    ("yard", [⟨"yard", "Yard", "[Back](/gate?!gold)", 6, .empty,
      [⟨⟨"Back", "/gate?!gold"⟩, 7, 1, some "gate", Conditions.empty.put "gold" false, []⟩]⟩])]

def gateWarnings : List Warning :=
  [⟨4, 1, .toggleNeverSet "gold"⟩, ⟨3, 1, .toggleNeverSet "gold"⟩, ⟨7, 1, .toggleNeverSet "gold"⟩]

theorem ofText_gateSource : ofText gateSource = .ok ⟨gateStory, [], gateWarnings⟩ := by
  have cut : Block.ofText (gateSource.dropWhile isByteOrderMark) = [
      ⟨⟨1, "[Gate](/gate)"⟩, 1, []⟩,
      ⟨⟨2, "Gate"⟩, 2, [⟨3, "[Pay](/yard?gold)"⟩]⟩,
      ⟨⟨2, "[Gate](?gold)"⟩, 4, [⟨5, "Open."⟩]⟩,
      ⟨⟨2, "Yard"⟩, 6, [⟨7, "[Back](/gate?!gold)"⟩]⟩] := by decide +kernel
  have reached : gateStory.orphans = [] := by
    simp [orphans, unreachedFrom, gateStory, stops, allScenes, allActions, stopsAt, stopsElsewhere,
      Link.leadsTo]
  have warned : gateStory.referenceWarnings = gateWarnings := by
    rw [referenceWarnings, List.mergeSort_of_pairwise (by decide), List.mergeSort_of_pairwise (by decide)]
    decide
  rw [ofText, cut, ← reached, ← warned]
  exact ofBlocks_of_added rfl (by decide +kernel) (by decide +kernel) rfl

theorem warned_toggles_stay_unset_gate :
    ofText gateSource = .ok ⟨gateStory, [], gateWarnings⟩ ∧
      (∀ state, gateStory.Reachable state → ∀ name, state.toggles.contains name = true →
        ∃ link ∈ gateStory.allLinks, name ∈ link.toggles) ∧
      ⟨4, 1, .toggleNeverSet "gold"⟩ ∈ gateWarnings ∧
      ∀ state, gateStory.Reachable state → gateStory.StaysUnset state "gold" := by
  obtain ⟨links, unset⟩ := warned_toggles_stay_unset ofText_gateSource
  have warned : ⟨4, 1, .toggleNeverSet "gold"⟩ ∈ gateWarnings := List.mem_cons_self
  exact ⟨ofText_gateSource, links, warned, unset _ warned _ rfl⟩

end Gamebook.Story
