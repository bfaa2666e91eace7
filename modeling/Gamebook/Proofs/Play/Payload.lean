import Gamebook.Proofs.Play.Reachable
import Gamebook.Proofs.Text.Encoding
import Gamebook.Proofs.Text.Joining

/-!
The written form of a state. Its parts are joined by bars and its names by commas, and since no name
that a reader meets is empty or holds either, the written form tells states apart. Two states have a page
of one name only where the hash of their written forms is the same.
-/

namespace Gamebook

open Gamebook.Text Gamebook.Source Gamebook.Story

namespace Play.State

variable {state left right : State} {link : Link}

structure IsSeparable (state : State) : Prop where
  scene : Separable state.scene
  toggles : ∀ name ∈ state.toggles.names, Separable name
  fresh : ∀ name ∈ state.fresh, Separable name

theorem mem_names_union {toggles : Toggles} {names : List Text} {name : Text}
    (member : name ∈ (toggles.union names).names) : name ∈ names ∨ name ∈ toggles.names := by
  have held : (toggles.union names).contains name = true := List.contains_iff_mem.mpr member
  rw [Toggles.contains_union, Bool.or_eq_true] at held
  exact held.imp List.contains_iff_mem.mp List.contains_iff_mem.mp

theorem IsSeparable.follow (separable : state.IsSeparable) (names : link.IsSeparable) :
    (state.follow link).IsSeparable := by
  have fresh : ∀ name ∈ (state.follow link).fresh, Separable name :=
    fun name member => names.2 name (List.mem_filter.mp member).1
  refine ⟨?_, fun name member => ?_, fresh⟩
  · rcases follow_scene state link with same | leads
    · rw [same]
      exact separable.scene
    · exact names.1 _ leads
  · rcases mem_names_union member with new | old
    · exact fresh name new
    · exact separable.toggles name old

theorem areApart_of_separable {names : List Text} (separable : ∀ name ∈ names, Separable name) :
    AreApart ',' names :=
  fun name member => ⟨(separable name member).nonempty, (separable name member).noComma⟩

theorem bar_not_mem_join {names : List Text} (separable : ∀ name ∈ names, Separable name) :
    '|' ∉ join [','] names := by
  intro member
  rcases mem_intercalate member with same | ⟨name, inside, found⟩
  · contradiction
  · exact (separable name inside).noBar found

/-- The parts of a written state, each cut off at a bar. -/
theorem splitOn_payload (separable : state.IsSeparable) :
    List.splitOn '|' state.payload =
      [state.scene, join [','] state.toggles.names, join [','] state.fresh] := by
  refine List.splitOn_intercalate '|' (fun part member => ?_) (by simp)
  simp only [List.mem_cons, List.not_mem_nil, or_false] at member
  rcases member with rfl | rfl | rfl
  · exact separable.scene.noBar
  · exact bar_not_mem_join separable.toggles
  · exact bar_not_mem_join separable.fresh

theorem eq_of_payload_eq (leftNames : left.IsSeparable) (rightNames : right.IsSeparable)
    (same : left.payload = right.payload) : left = right := by
  have parts := congrArg (List.splitOn '|') same
  rw [splitOn_payload leftNames, splitOn_payload rightNames] at parts
  simp only [List.cons.injEq, and_true] at parts
  obtain ⟨scene, toggles, fresh⟩ := parts
  have names : left.toggles.names = right.toggles.names :=
    (areApart_of_separable leftNames.toggles).intercalate_injective
      (areApart_of_separable rightNames.toggles) toggles
  have freshNames : left.fresh = right.fresh :=
    (areApart_of_separable leftNames.fresh).intercalate_injective
      (areApart_of_separable rightNames.fresh) fresh
  obtain ⟨leftScene, ⟨leftToggles, _⟩, leftFresh⟩ := left
  obtain ⟨rightScene, ⟨rightToggles, _⟩, rightFresh⟩ := right
  simp only at scene names freshNames
  subst scene names freshNames
  rfl

theorem digest_eq_of_pageId_eq (same : left.pageId = right.pageId) :
    (Hash.Sha256.hexDigest (Utf8.encode left.payload)).take idLength =
      (Hash.Sha256.hexDigest (Utf8.encode right.payload)).take idLength :=
  List.append_cancel_left same

end Play.State

namespace Story

open Play

variable {story : Story} {state left right : State} {blocks : List Block} {text : Text}
  {checked : Checked}

theorem Reachable.isSeparable (built : story.IsBuiltFrom blocks) (first : Separable story.firstScene)
    (reached : story.Reachable state) : state.IsSeparable := by
  refine reached.induction (motive := State.IsSeparable) ⟨first, ?_, ?_⟩ ?_
  · exact fun name member => absurd member List.not_mem_nil
  · exact fun name member => absurd member List.not_mem_nil
  · exact fun state separable link known => separable.follow (built.isSeparable known)

/-- No two states that a reader can come to have one written form. So where their pages have one name,
different bytes have one hash, as far as it is kept. -/
theorem payload_tells_apart (accepted : ofText text = .ok checked)
    (leftReached : checked.story.Reachable left) (rightReached : checked.story.Reachable right) :
    (left.payload = right.payload → left = right) ∧
      (left.pageId = right.pageId → left ≠ right →
        Utf8.encode left.payload ≠ Utf8.encode right.payload ∧
          (Hash.Sha256.hexDigest (Utf8.encode left.payload)).take State.idLength =
            (Hash.Sha256.hexDigest (Utf8.encode right.payload)).take State.idLength) := by
  have separable : ∀ state, checked.story.Reachable state → state.IsSeparable := fun _ =>
    Reachable.isSeparable (isBuiltFrom_of_ofText accepted) (firstScene_of_ofText accepted).1
  have apart : left.payload = right.payload → left = right :=
    State.eq_of_payload_eq (separable left leftReached) (separable right rightReached)
  refine ⟨apart, fun onePage different => ⟨fun oneForm => ?_, State.digest_eq_of_pageId_eq onePage⟩⟩
  exact different (apart (Utf8.encode_injective oneForm))

/-- A reader of the story with the key who has just been given it. -/
def keyTaken : State := ⟨"den", .ofList ["key"], ["key"]⟩

theorem payload_tells_apart_key :
    ofText keySource = .ok ⟨keyStory, [], []⟩ ∧ keyStory.Reachable keyStory.start ∧
      keyStory.Reachable keyTaken ∧
      (keyStory.start.payload = keyTaken.payload → keyStory.start = keyTaken) ∧
      (keyStory.start.pageId = keyTaken.pageId → keyStory.start ≠ keyTaken →
        Utf8.encode keyStory.start.payload ≠ Utf8.encode keyTaken.payload ∧
          (Hash.Sha256.hexDigest (Utf8.encode keyStory.start.payload)).take State.idLength =
            (Hash.Sha256.hexDigest (Utf8.encode keyTaken.payload)).take State.idLength) := by
  have leads : keyStory.successors keyStory.start = .ok [keyTaken] := by decide +kernel
  have taken : keyStory.Reachable keyTaken := .step .start leads List.mem_cons_self
  exact ⟨ofText_keySource, .start, taken, payload_tells_apart ofText_keySource .start taken⟩

end Story

end Gamebook
