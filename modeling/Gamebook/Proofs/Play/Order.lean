import Gamebook.Play.Page
import Gamebook.Proofs.Play.Descriptions
import Gamebook.Proofs.Play.Reachable

/-!
The links that a page shows, in the order in which it shows them, and the links that its state leads
on by: the same links, and in the same order but for those of images.
-/

namespace Gamebook.Story

open Gamebook.Text Gamebook.Source Gamebook.Play Gamebook.Markup

variable {story : Story} {state : State} {links shown : List Link} {link : Link} {line : Text}
  {written : WrittenLink}

def linkWritten? (links : List Link) (written : WrittenLink) : Option Link :=
  links.find? fun link => link.written = written

def pieceSigns (links : List Link) : Piece WrittenLink → List (Sign Link)
  | .plain c => [.plain c]
  | .token written =>
    match linkWritten? links written with
    | none => written.write.map .plain
    | some link => [.link link]

def lineSigns (links : List Link) (line : Text) : List (Sign Link) :=
  (WrittenLink.pattern.pieces line).flatMap (pieceSigns links)

/-- The links of a block in the order in which its markup shows them. -/
def shownLinks (description : Text) (links : List Link) : List Link :=
  (lineTexts description).flatMap fun line => labels (shownOrder (lineSigns links line))

/-- No image of a block holds links both in its alternate text and in its source. -/
def ShowsInOrder (description : Text) (links : List Link) : Prop :=
  ∀ line ∈ lineTexts description, IsInOrder (lineSigns links line)

theorem map_unplaced_linkWritten? {tokens : List WrittenLink}
    (known : links.map Link.unplaced = tokens.filterMap readLink) (member : written ∈ tokens) :
    (linkWritten? links written).map Link.unplaced = readLink written := by
  cases found : linkWritten? links written with
  | some link =>
      -- The link found may stand elsewhere: what is written settles all but its place.
      have same : link.written = written := by simpa using List.find?_some found
      have inLinks := List.mem_map_of_mem (f := Link.unplaced) (List.mem_of_find?_eq_some found)
      rw [known] at inLinks
      obtain ⟨other, _, read⟩ := List.mem_filterMap.mp inLinks
      have otherSame : link.unplaced.written = other := written_of_readLink read
      change link.written = other at otherSame
      rw [← same, otherSame, read]
      rfl
  | none =>
      symm
      apply Option.eq_none_iff_forall_ne_some.mpr
      intro link read
      have inLinks : link ∈ links.map Link.unplaced := by
        rw [known]
        exact List.mem_filterMap.mpr ⟨written, member, read⟩
      obtain ⟨placed, listed, rfl⟩ := List.mem_map.mp inLinks
      have same : placed.unplaced.written = written := written_of_readLink read
      have absent := List.find?_eq_none.mp found placed listed
      exact absent (decide_eq_true same)

theorem labels_lineSigns (links : List Link) (line : Text) :
    labels (lineSigns links line) =
      (WrittenLink.pattern.tokens line).filterMap (linkWritten? links) := by
  unfold lineSigns Pattern.tokens
  induction WrittenLink.pattern.pieces line with
  | nil => rfl
  | cons piece pieces ih =>
      rw [List.flatMap_cons, labels_append, ih]
      cases piece with
      | plain c => rfl
      | token written =>
          cases found : linkWritten? links written with
          | none =>
              rw [pieceSigns, found, List.filterMap_cons, Piece.token?, List.filterMap_cons, found]
              exact congrArg (· ++ _) (labels_map_plain written.write)
          | some link =>
              rw [pieceSigns, found, List.filterMap_cons, Piece.token?, List.filterMap_cons, found]
              rfl

theorem map_unplaced_labels {text : Text} {block : Source.Block}
    (member : block ∈ Source.Block.ofText text) :
    ((lineTexts block.body).flatMap fun line =>
        labels (lineSigns (placeLinks block.lines).1 line)).map Link.unplaced =
      (placeLinks block.lines).1.map Link.unplaced := by
  have known := map_unplaced_placeLinks block.lines
  rw [← tokens_lineTexts_body member] at known
  have perLine : ∀ line ∈ lineTexts block.body,
      (labels (lineSigns (placeLinks block.lines).1 line)).map Link.unplaced =
        (WrittenLink.pattern.tokens line).filterMap readLink := by
    intro line listed
    rw [labels_lineSigns, List.map_filterMap]
    apply List.filterMap_congr
    intro written inLine
    exact map_unplaced_linkWritten? known (List.mem_flatMap.mpr ⟨line, listed, inLine⟩)
  rw [known, List.map_flatMap, List.filterMap_flatMap]
  exact List.flatMap_congr perLine

/-- A block shows its own links, each as often as it holds it. -/
theorem shownLinks_perm {text : Text} {block : Source.Block}
    (member : block ∈ Source.Block.ofText text) :
    ((shownLinks block.body (placeLinks block.lines).1).map Link.unplaced).Perm
      ((placeLinks block.lines).1.map Link.unplaced) := by
  rw [← map_unplaced_labels member]
  refine List.Perm.map _ (List.Perm.flatMap_left _ fun line _ => ?_)
  exact labels_shownOrder_perm _

theorem shownLinks_eq {text : Text} {block : Source.Block}
    (member : block ∈ Source.Block.ofText text)
    (ordered : ShowsInOrder block.body (placeLinks block.lines).1) :
    (shownLinks block.body (placeLinks block.lines).1).map Link.unplaced =
      (placeLinks block.lines).1.map Link.unplaced := by
  rw [← map_unplaced_labels member]
  refine congrArg _ (List.flatMap_congr fun line listed => ?_)
  exact labels_shownOrder_eq (ordered line listed)

theorem follow_openLinks_unplaced (state : State) (links : List Link) :
    (openLinks state (links.map Link.unplaced)).map state.follow =
      (openLinks state links).map state.follow := by
  unfold openLinks
  rw [List.filter_map, List.map_map]
  rfl

theorem follow_openLinks_perm
    (same : (shown.map Link.unplaced).Perm (links.map Link.unplaced)) :
    ((openLinks state shown).map state.follow).Perm ((openLinks state links).map state.follow) := by
  rw [← follow_openLinks_unplaced state shown, ← follow_openLinks_unplaced state links]
  exact (same.filter _).map _

theorem follow_openLinks_eq (same : shown.map Link.unplaced = links.map Link.unplaced) :
    (openLinks state shown).map state.follow = (openLinks state links).map state.follow := by
  rw [← follow_openLinks_unplaced state shown, same, follow_openLinks_unplaced]

end Gamebook.Story
