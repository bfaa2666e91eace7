import Gamebook.Run.Config

/-!
Configurations from named values of any kind.

Every field is checked on its own, and all faults are told: those of the fields in their order, then
names that are no field. Only where each field is right is the whole checked.
-/

namespace Gamebook.Run

open Gamebook.Text Gamebook.Files

inductive FieldValue where
  | text (text : Text)
  | flag (flag : Bool)
  | number (number : Int)
  | nothing
deriving DecidableEq

inductive FieldProblem where
  | missing
  | noMode
  | noText
  | noFlag
  | unreadableFlag
  | noPath
  | extra
  | inconsistent (reason : Config.Inconsistency)
  | frozen
deriving DecidableEq, Repr

namespace FieldProblem

def kind : FieldProblem → String
  | .missing => "missing"
  | .noMode => "literal_error"
  | .noText => "string_type"
  | .noFlag => "bool_type"
  | .unreadableFlag => "bool_parsing"
  | .noPath => "path_type"
  | .extra => "extra_forbidden"
  | .inconsistent _ => "value_error"
  | .frozen => "frozen_instance"

def message : FieldProblem → String
  | .missing => "Field required"
  | .noMode => "Input should be 'lint' or 'render'"
  | .noText => "Input should be a valid string"
  | .noFlag => "Input should be a valid boolean"
  | .unreadableFlag => "Input should be a valid boolean, unable to interpret input"
  | .noPath => "Input is not a valid path for <class 'pathlib.Path'>"
  | .extra => "Extra inputs are not permitted"
  | .inconsistent reason => "Value error, " ++ reason.message
  | .frozen => "Instance is frozen"

end FieldProblem

/-- A problem with a field, or with the whole. -/
structure FieldFault where
  field : Option Text
  problem : FieldProblem
deriving DecidableEq

abbrev Fields := List (Text × FieldValue)

namespace FieldValue

def toMode : FieldValue → Except FieldProblem Mode
  | .text name =>
    if name = "lint".toList then .ok .lint
    else if name = "render".toList then .ok .render
    else .error .noMode
  | _ => .error .noMode

def toText : FieldValue → Except FieldProblem Text
  | .text value => .ok value
  | _ => .error .noText

def toPath : FieldValue → Except FieldProblem Path
  | .text value => .ok (Path.ofText value)
  | _ => .error .noPath

def optional (read : FieldValue → Except FieldProblem α) :
    FieldValue → Except FieldProblem (Option α)
  | .nothing => .ok none
  | value => (read value).map some

def trueWords : List Text := ["1", "true", "t", "yes", "y", "on"]

def falseWords : List Text := ["0", "false", "f", "no", "n", "off"]

def toFlag : FieldValue → Except FieldProblem Bool
  | .flag value => .ok value
  | .nothing => .error .noFlag
  | .text word =>
    let word := word.map Char.toLower
    if trueWords.contains word then .ok true
    else if falseWords.contains word then .ok false
    else .error .unreadableFlag
  | .number n => if n = 1 then .ok true else if n = 0 then .ok false else .error .unreadableFlag

end FieldValue

namespace Fields

def required (fields : Fields) (name : Text) (read : FieldValue → Except FieldProblem α) :
    Except FieldProblem α :=
  match fields.lookup name with
  | none => .error .missing
  | some value => read value

/-- A field with a value of its own if it is not given. -/
def withDefault (fields : Fields) (name : Text) (usual : α)
    (read : FieldValue → Except FieldProblem α) : Except FieldProblem α :=
  match fields.lookup name with
  | none => .ok usual
  | some value => read value

def fault (name : Text) : Except FieldProblem α → List FieldFault
  | .ok _ => []
  | .error problem => [⟨some name, problem⟩]

def names : List Text := ["mode", "format", "input_path", "output", "template_dir", "image_dir",
  "author", "book_id", "language", "debug"]

def extraFaults (fields : Fields) : List FieldFault :=
  (fields.filter fun field => !names.contains field.1).map fun field => ⟨some field.1, .extra⟩

def toConfig (fields : Fields) : Except (List FieldFault) Config :=
  let path := fun name => fields.withDefault name none (FieldValue.optional FieldValue.toPath)
  let text := fun name => fields.withDefault name none (FieldValue.optional FieldValue.toText)
  let mode := fields.required "mode" FieldValue.toMode
  let format := fields.required "format" FieldValue.toText
  let inputPath := path "input_path"
  let output := path "output"
  let templateDirectory := path "template_dir"
  let imageDirectory := path "image_dir"
  let author := text "author"
  let bookId := text "book_id"
  let language := fields.withDefault "language" Config.usualLanguage FieldValue.toText
  let debug := fields.withDefault "debug" false FieldValue.toFlag
  let faults := fault "mode" mode ++ fault "format" format ++ fault "input_path" inputPath
    ++ fault "output" output ++ fault "template_dir" templateDirectory
    ++ fault "image_dir" imageDirectory ++ fault "author" author ++ fault "book_id" bookId
    ++ fault "language" language ++ fault "debug" debug ++ fields.extraFaults
  if faults = [] then do
    let config : Except FieldProblem Config := do
      return ⟨← mode, ← format, ← inputPath, ← output, ← templateDirectory, ← imageDirectory,
        ← author, ← bookId, ← language, ← debug⟩
    match config with
    | .error problem => .error [⟨none, problem⟩]
    | .ok config => config.checked.mapError fun reason => [⟨none, .inconsistent reason⟩]
  else .error faults

end Fields

def isFieldName (name : Text) : Bool := name.head? ≠ some '_'

/-- A configuration stays as it is: setting a field is refused, and a value under a name that
belongs to no field changes none. -/
def Config.assign (config : Config) (name : Text) (_value : FieldValue) :
    Except (List FieldFault) Config :=
  if isFieldName name then .error [⟨some name, .frozen⟩] else .ok config

end Gamebook.Run
