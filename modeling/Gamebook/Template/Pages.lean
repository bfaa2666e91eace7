import Gamebook.Template.Packaged
import Gamebook.Template.Reading

/-!
The templates of a story's pages. Templates that are given replace the packaged ones one by one; an
empty one counts as not given.
-/

namespace Gamebook.Template

structure Overrides where
  index : Option Text := none
  scene : Option Text := none
  styles : Option Text := none
deriving DecidableEq

structure PageTemplates where
  index : List Node
  scene : List Node
  styles : Text

namespace PageTemplates

def packaged : PageTemplates := ⟨Packaged.index, Packaged.scene, Packaged.styles⟩

/-- The nodes of a template that is given, or else the packaged ones. -/
def nodesOr (packaged : List Node) : Option Text → Except Fault (List Node)
  | none => .ok packaged
  | some text => if text = [] then .ok packaged else ofText text

def textOr (packaged : Text) : Option Text → Text
  | none => packaged
  | some text => if text = [] then packaged else text

def ofOverrides (overrides : Overrides) : Except Fault PageTemplates := do
  let index ← nodesOr Packaged.index overrides.index
  let scene ← nodesOr Packaged.scene overrides.scene
  return ⟨index, scene, textOr Packaged.styles overrides.styles⟩

structure IndexValues where
  title : Text
  description : Text
  firstPage : Text
  language : Text
  stylesheet : Text

def IndexValues.scope (values : IndexValues) : Scope := [
  ("title", .text values.title),
  ("description", .markup values.description),
  ("first_page", .text values.firstPage),
  ("language", .text values.language),
  ("stylesheet", .text values.stylesheet)]

/-- What the page of a scene shows; toggles only if they are to be shown. -/
structure SceneValues where
  title : Text
  sceneName : Text
  content : Text
  language : Text
  stylesheet : Text
  toggles : Option (List Text)

def SceneValues.scope (values : SceneValues) : Scope := [
  ("title", .text values.title),
  ("scene_name", .text values.sceneName),
  ("content", .markup values.content),
  ("language", .text values.language),
  ("stylesheet", .text values.stylesheet),
  ("debug_toggles", match values.toggles with
    | none => .nothing
    | some names => .texts names)]

def renderIndex (templates : PageTemplates) (values : IndexValues) : Except Fault Text :=
  renderNodes values.scope templates.index

def renderScene (templates : PageTemplates) (values : SceneValues) : Except Fault Text :=
  renderNodes values.scope templates.scene

end PageTemplates

end Gamebook.Template
