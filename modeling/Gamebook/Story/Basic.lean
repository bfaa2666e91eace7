import Gamebook.Source.Destination
import Gamebook.Source.Link

/-!
A story: scenes under their keys, each in one or more variants with different conditions, and
actions under their keys. Scenes and actions keep the order in which they were added.
-/

namespace Gamebook

namespace Story

/-- A link of a block with its place in the source and what it does. -/
structure Link where
  written : Source.WrittenLink
  line : Nat
  column : Nat
  scene : Option Text
  conditions : Conditions
  toggles : List Text
deriving DecidableEq

namespace Link

def source (link : Link) : Text := link.written.write

def text (link : Link) : Text := link.written.text

def alternate? (link : Link) : Option Text := link.written.alternate?

/-- A link that leads to a scene or sets a toggle takes the reader on. -/
def navigates (link : Link) : Bool := link.scene.isSome || !link.toggles.isEmpty

end Link

structure Scene where
  key : Text
  name : Text
  description : Text
  line : Nat
  conditions : Conditions
  links : List Link
deriving DecidableEq

structure Action where
  key : Text
  name : Text
  description : Text
  line : Nat
  links : List Link
deriving DecidableEq

end Story

open Story

structure Story where
  name : Text
  description : Text
  firstScene : Text
  scenes : List (Text × List Scene) := []
  actions : List (Text × Action) := []
deriving DecidableEq

namespace Story

/-- The variants of a scene in source order; none if there is no such scene. -/
def variants (story : Story) (key : Text) : List Scene := (story.scenes.lookup key).getD []

def hasScene (story : Story) (key : Text) : Bool := (story.scenes.lookup key).isSome

def action? (story : Story) (key : Text) : Option Action := story.actions.lookup key

def addVariant (scene : Scene) : List (Text × List Scene) → List (Text × List Scene)
  | [] => [(scene.key, [scene])]
  | (key, variants) :: rest =>
    if key = scene.key then (key, variants ++ [scene]) :: rest
    else (key, variants) :: addVariant scene rest

def addScene (story : Story) (scene : Scene) : Story :=
  { story with scenes := addVariant scene story.scenes }

def addAction (story : Story) (action : Action) : Story :=
  { story with actions := story.actions ++ [(action.key, action)] }

def allScenes (story : Story) : List Scene := story.scenes.flatMap Prod.snd

def allActions (story : Story) : List Action := story.actions.map Prod.snd

def allLinks (story : Story) : List Link :=
  story.allScenes.flatMap Scene.links ++ story.allActions.flatMap Action.links

end Story

end Gamebook
