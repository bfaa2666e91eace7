import Gamebook.Publish.Book
import Gamebook.Publish.Site
import Gamebook.Run.Gate
import Gamebook.Run.Outcome
import Gamebook.Run.Preflight
import Gamebook.Story.Reading

/-!
A run from the command line to its outcome.

The command line is resolved first, then logging is set up. Before a story is rendered the files are
checked; the story is read and checked, the findings are printed, and only a story without warnings
goes on. Everything that fails after logging is set up ends in an outcome.
-/

namespace Gamebook.Run

open Gamebook.Text Gamebook.Files Gamebook.Publish

structure Surroundings where
  settings : Settings
  /-- The text on the standard input. -/
  input : Text := []
  /-- When the run takes place, as a book tells it. -/
  now : Text
  /-- The identifier of a book that has none of its own. -/
  newIdentifier : Text

inductive Escape where
  | inconsistent (reason : Config.Inconsistency)
  | logging (fault : Files.Fault)
  /-- It cannot be told what a path leads to. -/
  | test (fault : Files.Fault)
deriving DecidableEq

def Escape.message : Escape → String
  | .inconsistent reason => reason.message
  | .logging fault => fault.message
  | .test fault => fault.message

def usage : String := "\n".intercalate [
  "Usage: ficdown",
  "    --format (html|epub)",
  "    --in \"/path/to/source.md\"",
  "    [--out \"/path/to/output\"]",
  "    [--template \"/path/to/template/dir\"]",
  "    [--images \"/path/to/images/dir\"]",
  "    [--author \"Author Name\"]",
  "    [--bookid \"ePub Book ID\"]",
  "    [--language \"language\"]",
  "    [--debug]",
  "or: ficdown --format lint",
  "    (reads input from stdin)"]

/-- Prints what an outcome has to say and, if it asks for that, the list of options. -/
def present (outcome : Outcome) : StateM World Outcome := do
  if outcome.message ≠ "" then report .raw outcome.message
  if outcome.showsHelp then report .raw usage
  return outcome

def preflight (config : Config) : Action Files.Fault (Option Precondition) := do
  let (remarks, result) := Preflight.check (← get).files config
  remarks.forM fun remark => report .error remark
  ofExcept result

inductive ReadingFault where
  | files (fault : Files.Fault)
  | story (fault : Story.Fault)
deriving DecidableEq

def ReadingFault.message : ReadingFault → String
  | .files fault => fault.message
  | .story fault => fault.message

/-- The source of the story: a file, or the standard input where none is to be rendered. -/
def readSource (surroundings : Surroundings) (config : Config) : Action Files.Fault Text :=
  match config.mode, config.inputPath with
  | .render, some path => do
    let text ← onFiles id (inspect fun tree => tree.readMarkedText path)
    report .log "Parsing story..."
    return text
  | _, _ => return surroundings.input

def readStory (surroundings : Surroundings) (config : Config) :
    StateM World (Except ReadingFault Story.Checked) := do
  match ← (readSource surroundings config).run with
  | .error fault => return .error (.files fault)
  | .ok text => return (Story.ofText text).mapError .story

inductive Plan where
  | site (job : Job)
  | book (job : Job) (edition : Edition)

inductive PlanFault where
  | usage (fault : UsageFault)
  | files (fault : Files.Fault)
deriving DecidableEq

inductive Form where
  | site
  | book (author : Text)
deriving DecidableEq

def formOf (config : Config) : Except UsageFault (Form × Path) :=
  match config.output with
  | none => .error .unclear
  | some output =>
    if config.format = Config.htmlFormat then .ok (.site, output)
    else if config.format = Config.epubFormat then
      match config.author with
      | none => .error .missingAuthor
      | some author => .ok (.book author, output)
    else .error .unclear

/-- The text of a template file, if the file is there. -/
def readTemplate (directory : Path) (name : Text) : FileAction (Option Text) :=
  inspect fun tree => do
    if ← tree.testFile (directory.child name) then
      return some (← tree.readText (directory.child name))
    else return none

def readTemplates (directory : Path) : FileAction Template.Overrides := do
  let index ← readTemplate directory "index.html"
  let scene ← readTemplate directory "scene.html"
  let styles ← readTemplate directory "styles.css"
  return ⟨index, scene, styles⟩

def loadTemplates (config : Config) : Action PlanFault Template.Overrides :=
  match config.templateDirectory with
  | none => return {}
  | some directory => do
    report .debug ("Loading templates from " ++ directory.print.str)
    onFiles .files (readTemplates directory)

def Surroundings.edition (surroundings : Surroundings) (config : Config) (author : Text) :
    Edition where
  author
  identifier := (config.bookId.filter (· ≠ [])).getD surroundings.newIdentifier
  modified := surroundings.now

/-- Makes the plan of what is published. A site's directory is made with it. -/
def makePlan (surroundings : Surroundings) (config : Config) (story : Story) :
    Action PlanFault Plan := do
  let (form, output) ← ofExcept ((formOf config).mapError .usage)
  if form = .site then onFiles .files (makeAllDirectories false output)
  let templates ← loadTemplates config
  let job : Job := {
    story, output, templates
    imageDirectory := config.imageDirectory
    language := config.language
    maxStates := surroundings.settings.maxStates
    debug := config.debug }
  return match form with
    | .site => .site job
    | .book author => .book job (surroundings.edition config author)

def Plan.publish : Plan → Action Failure Unit
  | .site job => Site.publish job
  | .book job edition => Book.publish job edition

/-- Carries a plan out, telling when it begins and when it is done. -/
def carryOut (plan : Plan) : Action Failure Unit := do
  report .log "Rendering story..."
  plan.publish
  report .log "Done."

def fatal (doing message : String) : StateM World Outcome := do
  report .exception ("Fatal error while " ++ doing ++ ": " ++ message)
  return ⟨.fatal, message, false⟩

def render (surroundings : Surroundings) (config : Config) (story : Story) :
    StateM World Outcome := do
  match ← (makePlan surroundings config story).run with
  | .error (.usage fault) =>
    if fault.message ≠ "" then report .error fault.message
    present ⟨.usageError, "", fault.showsHelp⟩
  | .error (.files fault) => fatal "preparing renderer" fault.message
  | .ok plan =>
    match ← (carryOut plan).run with
    | .error failure => fatal "rendering story" failure.message
    | .ok () => return ⟨.rendered, "", false⟩

def blockedMessage (warnings : List String) : String :=
  toString warnings.length ++ " warning(s) reported; nothing rendered."

/-- Prints what the check of a story found, and renders the story if that is asked for and nothing
stands in the way. -/
def judge (surroundings : Surroundings) (config : Config) (checked : Story.Checked) :
    StateM World Outcome := do
  let gate := Gate.ofFindings config.isLint (checked.warnings.map Story.Warning.print)
    (checked.orphans.map Story.Orphan.print)
  gate.lines.forM (report .raw)
  if config.isLint then return ⟨.linted, "", false⟩
  else if gate.mayRender then render surroundings config checked.story
  else return ⟨.blocked, blockedMessage gate.warnings, false⟩

def readAndJudge (surroundings : Surroundings) (config : Config) : StateM World Outcome := do
  match ← readStory surroundings config with
  | .error fault => fatal "parsing story" fault.message
  | .ok checked => judge surroundings config checked

def runConfig (surroundings : Surroundings) (config : Config) : Action Escape Outcome := do
  if config.isLint then readAndJudge surroundings config
  else
    match ← (preflight config).adapt .test with
    | some fault =>
      report .error fault.message
      return ⟨.preconditionFailed, fault.message, false⟩
    | none => readAndJudge surroundings config

def run (surroundings : Surroundings) (words : List Text) : Action Escape Outcome := do
  let settings := surroundings.settings
  match Config.resolve settings words with
  | .error (.usage fault) => present ⟨.usageError, fault.message, fault.showsHelp⟩
  | .error (.inconsistent reason) => throw (.inconsistent reason)
  | .ok .help => present ⟨.help, "", true⟩
  | .ok (.run config) =>
    (configureLogging settings.logLevel settings.logPath config.debug).adapt .logging
    report .debug ("Resolved configuration: " ++ config.print)
    runConfig surroundings config

end Gamebook.Run
