import Gamebook.Play.Page
import Gamebook.Run.World
import Gamebook.Template.Pages

/-!
What is published: a story with its settings, and the pages that sites and books have in common.
-/

namespace Gamebook.Publish

open Gamebook.Text Gamebook.Files Gamebook.Markup Gamebook.Play Gamebook.Run Gamebook.Template

structure Job where
  story : Story
  output : Path
  templates : Overrides := {}
  imageDirectory : Option Path := none
  language : Text
  maxStates : Int
  /-- Shows the toggles that are set on every page. -/
  debug : Bool := false

inductive Failure where
  | files (fault : Files.Fault)
  | template (fault : Template.Fault)
  | page (error : PageError)
  | description (error : Placeholder.Error)
deriving DecidableEq

def Failure.message : Failure → String
  | .files fault => fault.message
  | .template fault => fault.message
  | .page error => error.message
  | .description error => error.message

def stylesheet : Text := "styles.css"

structure Document where
  name : Text
  content : Text
deriving DecidableEq

namespace Job

def pageName (ending : Text) (state : State) : Text := state.pageId ++ ending

def titlePage (job : Job) (templates : PageTemplates) (ending : Text) : Except Failure Text := do
  let description ← (Blocks.render job.story.description).mapError .description
  (templates.renderIndex {
    title := job.story.name
    description
    firstPage := pageName ending job.story.start
    language := job.language
    stylesheet }).mapError .template

/-- The page of a state, with the name of its file. -/
def document (job : Job) (templates : PageTemplates) (ending : Text) (page : Page) :
    Except Failure Document := do
  let content ← (templates.renderScene {
    title := job.story.name
    sceneName := page.scene.name
    content := page.html
    language := job.language
    stylesheet
    toggles := if job.debug then some page.state.toggles.names else none }).mapError .template
  return ⟨pageName ending page.state, content⟩

def pages (job : Job) (ending : Text) : Except Failure (List Page) :=
  (job.story.pages (pageName ending) job.maxStates).mapError .page

def pageTemplates (job : Job) : Except Failure PageTemplates :=
  (PageTemplates.ofOverrides job.templates).mapError .template

def expansionRecord (job : Job) (logger verb : String) (pages : List Page) : Log.Record :=
  ⟨.debug, logger,
    verb ++ " " ++ toString pages.length ++ " player states for " ++ job.story.name.str⟩

end Job

end Gamebook.Publish
