import Gamebook.Hash.Sha256
import Gamebook.Play.Toggles
import Gamebook.Story.Basic
import Gamebook.Text.Utf8

/-!
Where a reader stands: the scene, the toggles set so far, and those that the last link set.

A state has a page of its own. Its name is drawn from a hash of the state's written form, so it is
the same wherever the state is reached.
-/

namespace Gamebook.Play

structure State where
  scene : Text
  toggles : Toggles := .empty
  /-- The toggles that the last link set, in the order of the link. -/
  fresh : List Text := []
deriving DecidableEq

namespace State

def payload (state : State) : Text :=
  Text.join ['|'] [state.scene, Text.join [','] state.toggles.names, Text.join [','] state.fresh]

def idLength : Nat := 12

def pageId (state : State) : Text :=
  "scene-".toList ++ (Hash.Sha256.hexDigest (Text.Utf8.encode state.payload)).take idLength

/-- Sets toggles, and moves to a scene if one is named. Toggles that are set already are not
fresh. -/
def move (state : State) (scene : Option Text) (toggles : List Text) : State :=
  let fresh := toggles.filter fun name => !state.toggles.contains name
  ⟨match scene with
    | none => state.scene
    | some key => if key = [] then state.scene else key,
    state.toggles.union fresh, fresh⟩

def follow (state : State) (link : Story.Link) : State := state.move link.scene link.toggles

def allows (state : State) (conditions : Story.Conditions) : Bool :=
  conditions.met state.toggles.contains

end State

end Gamebook.Play
