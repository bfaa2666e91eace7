import Gamebook.Template.Literal
import Gamebook.Text.Escape
import Gamebook.Text.Quoted

/-!
Templates: text with places for named values, and parts that are shown under a condition.

What a value prints is escaped, except for markup that is given as such. A name that nothing was
given for prints nothing.
-/

namespace Gamebook.Template

open Gamebook.Text

inductive Value where
  | text (text : Text)
  /-- Markup, which is not escaped. -/
  | markup (html : Text)
  | texts (items : List Text)
  | truth (holds : Bool)
  | nothing
  /-- Something that every template has at hand. -/
  | tool (kind shown : Text)
deriving DecidableEq

inductive Fault where
  | malformed
  | escape (fault : EscapeFault)
  /-- A value of this kind has no items to join. -/
  | notAList (kind : Text)
deriving DecidableEq, Repr

def Fault.message : Fault → String
  | .malformed => "template is malformed"
  | .escape fault => fault.message
  | .notAList kind => "'" ++ kind.str ++ "' object is not iterable"

namespace Value

/-- A value counts as false when there is nothing in it. -/
def isTrue : Value → Bool
  | .text shown => shown ≠ []
  | .markup html => html ≠ []
  | .texts items => items ≠ []
  | .truth holds => holds
  | .nothing => false
  | .tool _ _ => true

def isGiven : Value → Bool
  | .nothing => false
  | _ => true

/-- The items of a list, or the characters of a text. -/
def items : Value → Except Fault (List Text)
  | .text shown => .ok (shown.map ([·]))
  | .markup html => .ok (html.map ([·]))
  | .texts items => .ok items
  | .truth _ => .error (.notAList "bool")
  | .nothing => .error (.notAList "NoneType")
  | .tool kind _ => .error (.notAList kind)

def print : Value → Text
  | .text shown => escape .inTemplate shown
  | .markup html => html
  | .texts items => escape .inTemplate (quotedList items)
  | .truth holds => if holds then "True" else "False"
  | .nothing => "None"
  | .tool _ shown => escape .inTemplate shown

end Value

abbrev Scope := List (Text × Value)

namespace Scope

/-- What every template has at hand unless something else is given by that name. -/
def tools : Scope := [
  ("cycler", .tool "type" "<class 'jinja2.utils.Cycler'>"),
  ("dict", .tool "type" "<class 'dict'>"),
  ("joiner", .tool "type" "<class 'jinja2.utils.Joiner'>"),
  ("lipsum", .tool "function" "<function generate_lorem_ipsum>"),
  ("namespace", .tool "type" "<class 'jinja2.utils.Namespace'>"),
  ("range", .tool "type" "<class 'range'>"),
  ("self", .tool "TemplateReference" "<TemplateReference None>")]

def value (scope : Scope) (name : Text) : Value :=
  ((scope.lookup name).or (tools.lookup name)).getD (.text [])

end Scope

inductive Expression where
  | name (name : Text)
  | constant (value : Value)
  | joined (items : Expression) (separator : Text)
  | isNothing (tested : Expression)
  | isGiven (tested : Expression)
  | choice (condition yes no : Expression)
deriving DecidableEq

namespace Expression

def missing : Expression := .constant (.text [])

def value (scope : Scope) : Expression → Except Fault Value
  | .name key => .ok (scope.value key)
  | .constant value => .ok value
  | .joined items separator => do
    let items ← (← items.value scope).items
    return .text (join separator items)
  | .isNothing tested => do return .truth !(← tested.value scope).isGiven
  | .isGiven tested => do return .truth (← tested.value scope).isGiven
  | .choice condition yes no => do
    if (← condition.value scope).isTrue then yes.value scope else no.value scope

end Expression

inductive Node where
  | text (text : Text)
  | output (expression : Expression)
  | branch (condition : Expression) (yes no : List Node)

mutual

def Node.render (scope : Scope) : Node → Except Fault Text
  | .text shown => .ok shown
  | .output expression => do return (← expression.value scope).print
  | .branch condition yes no => do
    if (← condition.value scope).isTrue then renderNodes scope yes else renderNodes scope no

def renderNodes (scope : Scope) : List Node → Except Fault Text
  | [] => .ok []
  | node :: nodes => do
    let first ← node.render scope
    let rest ← renderNodes scope nodes
    return first ++ rest

end

end Gamebook.Template
