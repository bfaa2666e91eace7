import Gamebook.Publish.Job

/-!
Sites: a directory with a title page, one page for each state of the story, the style sheet and the
images.
-/

namespace Gamebook.Publish.Site

open Gamebook.Text Gamebook.Files Gamebook.Run

def pageEnding : Text := ".html"

def titleName : Text := "index.html"

def imageDirectory : Text := "images"

def logger : String := "ficdown.adapters.html_renderer"

def write (job : Job) (name content : Text) : Action Failure Unit :=
  onFiles .files (writeText (job.output.child name) content)

/-- Writes a page behind the pages before it, each rendered just before it is written. -/
def writePages (job : Job) (templates : Template.PageTemplates) :
    List Play.Page → Action Failure Unit
  | [] => return
  | page :: pages => do
    let document ← ofExcept (job.document templates pageEnding page)
    write job document.name document.content
    writePages job templates pages

def publish (job : Job) : Action Failure Unit := do
  onFiles .files (makeAllDirectories true job.output)
  let templates ← ofExcept job.pageTemplates
  let pages ← ofExcept (job.pages pageEnding)
  emit (job.expansionRecord logger "Expanded" pages)
  let title ← ofExcept (job.titlePage templates pageEnding)
  write job titleName title
  write job stylesheet templates.styles
  writePages job templates pages
  match job.imageDirectory with
  | none => return
  | some images =>
    let _ ← onFiles .files (copyBelow images (job.output.child imageDirectory))

end Gamebook.Publish.Site
