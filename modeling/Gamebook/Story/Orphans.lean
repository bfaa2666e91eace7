import Gamebook.Story.Basic
import Gamebook.Story.Finding

/-!
Blocks that nothing leads to.

A link leads to every variant of its scene and to the actions of its toggles. Conditions play no
part, so a block counts as reached if any path of links could lead to it.
-/

namespace Gamebook.Story

/-- What links lead to: all variants of a scene, or an action. -/
inductive Place where
  | scene (key : Text)
  | action (key : Text)
deriving DecidableEq

structure Stop where
  place : Place
  name : Text
  line : Nat
  leadsTo : List Place

def Link.leadsTo (link : Link) : List Place :=
  (link.scene.toList.map Place.scene) ++ link.toggles.map Place.action

def stops (story : Story) : List Stop :=
  story.allScenes.map (fun scene =>
      ⟨.scene scene.key, scene.name, scene.line, scene.links.flatMap Link.leadsTo⟩)
    ++ story.allActions.map (fun action =>
      ⟨.action action.key, action.name, action.line, action.links.flatMap Link.leadsTo⟩)

def stopsAt (place : Place) (stops : List Stop) : List Stop :=
  stops.filter fun stop => stop.place = place

def stopsElsewhere (place : Place) (stops : List Stop) : List Stop :=
  stops.filter fun stop => stop.place ≠ place

theorem length_stopsElsewhere_lt {place : Place} {stops : List Stop}
    (found : stopsAt place stops ≠ []) : (stopsElsewhere place stops).length < stops.length := by
  obtain ⟨stop, member⟩ := List.exists_mem_of_ne_nil _ found
  obtain ⟨member, same⟩ := List.mem_filter.mp member
  exact List.length_filter_lt_length_iff_exists.mpr
    ⟨stop, member, by simpa using same⟩

/-- The stops that stay unreached when the stops of the given places are reached, and with each
reached stop the places it leads to. -/
def unreachedFrom (places : List Place) (unreached : List Stop) : List Stop :=
  match places with
  | [] => unreached
  | place :: rest =>
    if stopsAt place unreached = [] then unreachedFrom rest unreached
    else
      unreachedFrom (rest ++ (stopsAt place unreached).flatMap Stop.leadsTo)
        (stopsElsewhere place unreached)
termination_by (unreached.length, places.length)
decreasing_by
  · exact Prod.Lex.right _ (by simp)
  · rename_i found
    exact Prod.Lex.left _ _ (length_stopsElsewhere_lt found)

def Stop.orphan (stop : Stop) : Orphan :=
  ⟨stop.name, match stop.place with | .scene _ => .scene | .action _ => .action, stop.line⟩

def orphans (story : Story) : List Orphan :=
  ((unreachedFrom [.scene story.firstScene] story.stops).map Stop.orphan).mergeSort
    fun left right => left.line ≤ right.line

end Gamebook.Story
