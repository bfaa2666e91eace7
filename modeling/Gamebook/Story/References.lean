import Gamebook.Story.Basic
import Gamebook.Story.Finding

/-!
What the parts of a story say of each other: scenes without a version for every reader, conditions
on toggles that no link sets, and links to scenes that do not exist.
-/

namespace Gamebook.Story

def isSetBySomeLink (story : Story) (toggle : Text) : Bool :=
  story.allLinks.any fun link => link.toggles.contains toggle

/-- A scene all of whose variants have conditions; the warning stands at the first of them. -/
def alwaysConditional (variants : List Scene) : List Warning :=
  match variants with
  | [] => []
  | first :: rest =>
    if (first :: rest).all fun variant => !variant.conditions.isEmpty then
      [⟨first.line, 1, .sceneAlwaysConditional first.name⟩]
    else []

def neverSet (story : Story) (line column : Nat) (conditions : Conditions) : List Warning :=
  (conditions.names.filter fun name => !story.isSetBySomeLink name).map
    fun name => ⟨line, column, .toggleNeverSet name⟩

def undefinedTarget (story : Story) (link : Link) : List Warning :=
  match link.scene with
  | none => []
  | some key =>
    if story.hasScene key then [] else [⟨link.line, link.column, .undefinedScene key⟩]

def linkBefore (left right : Link) : Bool :=
  left.line < right.line || (left.line = right.line && left.column ≤ right.column)

/-- Scene warnings in the order of first definition, then those on conditions of scenes and on
links, each in source order. -/
def referenceWarnings (story : Story) : List Warning :=
  let scenes := story.allScenes.mergeSort fun left right => left.line ≤ right.line
  let links := story.allLinks.mergeSort linkBefore
  story.scenes.flatMap (fun (_, variants) => alwaysConditional variants)
    ++ scenes.flatMap (fun scene => neverSet story scene.line 1 scene.conditions)
    ++ links.flatMap fun link =>
      undefinedTarget story link ++ neverSet story link.line link.column link.conditions

end Gamebook.Story
