import Gamebook.Run.Options
import Gamebook.Run.Settings

/-!
What a run is asked to do, as resolved from the command line.

A run either checks a story or renders one. `Config.checked` says which configurations make sense,
and `Config.resolve` gives only such.
-/

namespace Gamebook.Run

open Gamebook.Text Gamebook.Files

inductive Mode where
  | lint
  | render
deriving DecidableEq, Repr

def Mode.name : Mode → String
  | .lint => "lint"
  | .render => "render"

def Config.usualLanguage : Text := "en"

structure Config where
  mode : Mode
  format : Text
  inputPath : Option Path := none
  output : Option Path := none
  templateDirectory : Option Path := none
  imageDirectory : Option Path := none
  author : Option Text := none
  bookId : Option Text := none
  language : Text := Config.usualLanguage
  debug : Bool := false
deriving DecidableEq

namespace Config

def lintFormat : Text := "lint"

def htmlFormat : Text := "html"

def epubFormat : Text := "epub"

def isLint (config : Config) : Bool := config.mode = .lint

inductive Inconsistency where
  | modeAndFormat
  | noInput
  | noOutput
deriving DecidableEq, Repr

def Inconsistency.message : Inconsistency → String
  | .modeAndFormat => "mode must be `lint` exactly when format is `lint`."
  | .noInput => "render mode requires an input path."
  | .noOutput => "render mode requires an output target."

def checked (config : Config) : Except Inconsistency Config :=
  if config.isLint ≠ (config.format = lintFormat) then .error .modeAndFormat
  else if config.isLint then .ok config
  else if config.inputPath = none then .error .noInput
  else if (config.format = htmlFormat || config.format = epubFormat) && config.output = none then
    .error .noOutput
  else .ok config

def printOr (print : α → Text) : Option α → String
  | none => "None"
  | some value => (print value).str

/-- The printed form of a configuration, with every field. -/
def print (config : Config) : String :=
  "RunConfig(mode='" ++ config.mode.name
    ++ "', format=" ++ (quoted config.format).str
    ++ ", input_path=" ++ printOr Path.marked config.inputPath
    ++ ", output=" ++ printOr Path.marked config.output
    ++ ", template_dir=" ++ printOr Path.marked config.templateDirectory
    ++ ", image_dir=" ++ printOr Path.marked config.imageDirectory
    ++ ", author=" ++ printOr quoted config.author
    ++ ", book_id=" ++ printOr quoted config.bookId
    ++ ", language=" ++ (quoted config.language).str
    ++ ", debug=" ++ (if config.debug then "True" else "False") ++ ")"

inductive ResolveFault where
  | usage (fault : UsageFault)
  | inconsistent (reason : Inconsistency)
deriving DecidableEq

inductive Request where
  | help
  | run (config : Config)
deriving DecidableEq

def helpFlags : List Text := ["/?", "/help", "-help", "--help"]

def epubOutput : Path := "output.epub"

def present (value : Option Text) : Option Text := value.filter fun text => strip text ≠ []

/-- The options of a command line; a single word is none. -/
def options : List Text → Except UsageFault Options
  | [] => .ok {}
  | [_] => .ok {}
  | words => Options.scan words

/-- Where the output goes if no place is named. -/
def usualOutput (settings : Settings) (format : Text) : Option Path :=
  if format = htmlFormat then some settings.htmlOutput
  else if format = epubFormat then some epubOutput
  else none

def ofOptions (settings : Settings) (options : Options) : Except ResolveFault Config :=
  let given := fun option => present (options.value? option)
  let common : Config := {
    mode := .lint
    format := lintFormat
    templateDirectory := (given .template).map Path.ofText
    imageDirectory := (given .images).map Path.ofText
    author := given .author
    bookId := given .bookId
    language := (given .language).getD usualLanguage
    debug := options.debug }
  if given .format = some lintFormat then common.checked.mapError .inconsistent
  else
    match given .format, given .input with
    | some format, some input =>
      let output := match given .output with
        | some output => some (Path.ofText output)
        | none => usualOutput settings format
      let config : Config := { common with
        mode := .render, format, inputPath := some (Path.ofText input), output }
      config.checked.mapError .inconsistent
    | _, _ => .error (.usage .unclear)

def resolve (settings : Settings) (words : List Text) : Except ResolveFault Request :=
  match words with
  | [] => .ok .help
  | _ =>
    if words.length = 1 && words.all helpFlags.contains then .ok .help
    else
      match options words with
      | .error fault => .error (.usage fault)
      | .ok options => (ofOptions settings options).map .run

end Config

end Gamebook.Run
