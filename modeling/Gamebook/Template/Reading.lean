import Gamebook.Template.Basic
import Gamebook.Template.Part
import Gamebook.Text.Lines

/-!
Reading templates: expressions from their tokens, and nodes from the parts of the source.

An expression is a choice among operands. An operand is a name, a constant or quoted text, with what
is done to it behind it. A condition may have an alternative, and ends with a tag of its own.
-/

namespace Gamebook.Template

open Gamebook.Text

def Token.resolved : Token → Except Fault Token
  | .quoted written => do return .quoted (← (unescape written).mapError .escape)
  | token => .ok token

def mergeQuoted : List Token → List Token
  | [] => []
  | .quoted text :: tokens =>
    match mergeQuoted tokens with
    | .quoted more :: rest => .quoted (text ++ more) :: rest
    | rest => .quoted text :: rest
  | token :: tokens => token :: mergeQuoted tokens

def constants : List (Text × Value) := [
  ("true", .truth true),
  ("True", .truth true),
  ("false", .truth false),
  ("False", .truth false),
  ("none", .nothing),
  ("None", .nothing)]

def operandOf? : Token → Option Expression
  | .word name => some (((constants.lookup name).map .constant).getD (.name name))
  | .quoted text => some (.constant (.text text))
  | .sign _ => none

inductive Joint where
  | condition
  | alternative
deriving DecidableEq, Repr

def Joint.ofWord? (word : Text) : Option Joint :=
  if word = "if".toList then some .condition
  else if word = "else".toList then some .alternative
  else none

def Token.ofWord (word : String) : Token := .word word.toList

/-- Reads what stands behind an operand: what is done to it, and the operands that follow. -/
def readOperands (operand : Expression) :
    List Token → Option (Expression × List (Joint × Expression))
  | [] => some (operand, [])
  | .sign '|' :: .word filter :: .sign '(' :: .quoted separator :: .sign ')' :: tokens =>
    if filter = "join".toList then readOperands (.joined operand separator) tokens else none
  | .sign '|' :: .word filter :: tokens =>
    if filter = "join".toList then readOperands (.joined operand []) tokens else none
  | .word word :: token :: tokens =>
    if word = "is".toList then
      if token = .ofWord "none" then readOperands (.isNothing operand) tokens
      else if token = .ofWord "not" && tokens.head? = some (.ofWord "none") then
        readOperands (.isGiven operand) (tokens.drop 1)
      else none
    else do
      let joint ← Joint.ofWord? word
      let next ← operandOf? token
      let (next, more) ← readOperands next tokens
      return (operand, (joint, next) :: more)
  | _ => none
termination_by tokens => tokens.length
decreasing_by all_goals simp only [List.length_cons, List.length_drop]; omega

/-- A choice among operands. An alternative takes in all that follows it, and may be missing. -/
def choiceOf? (first : Expression) : List (Joint × Expression) → Option Expression
  | [] => some first
  | (.condition, condition) :: (.alternative, other) :: more => do
    return .choice condition first (← choiceOf? other more)
  | (.condition, condition) :: more => choiceOf? (.choice condition first .missing) more
  | (.alternative, _) :: _ => none

def operandsOf? (tokens : List Token) : Option (Expression × List (Joint × Expression)) :=
  match mergeQuoted tokens with
  | [] => none
  | token :: tokens => do readOperands (← operandOf? token) tokens

def readExpression (tokens : List Token) : Except Fault Expression := do
  let tokens ← tokens.mapM Token.resolved
  match (operandsOf? tokens).bind fun (first, more) => choiceOf? first more with
  | some expression => return expression
  | none => throw .malformed

/-- Reads the condition of a part, which is a single operand. -/
def readCondition (tokens : List Token) : Except Fault Expression := do
  let tokens ← tokens.mapM Token.resolved
  match operandsOf? tokens with
  | some (condition, []) => return condition
  | _ => throw .malformed

/-- A condition whose end has not been read: the nodes in front of it and, once the alternative has
begun, those shown if it holds. -/
structure OpenBranch where
  before : List Node
  condition : Expression
  yes : Option (List Node) := none

namespace OpenBranch

def close (branch : OpenBranch) (nodes : List Node) : List Node :=
  match branch.yes with
  | none => branch.before ++ [.branch branch.condition nodes []]
  | some yes => branch.before ++ [.branch branch.condition yes nodes]

end OpenBranch

/-- Puts parts together to nodes; `nodes` are those of the innermost open branch so far. -/
def nodesOf (nodes : List Node) (branches : List OpenBranch) : List Part → Except Fault (List Node)
  | [] => if branches.isEmpty then .ok nodes else .error .malformed
  | .text text :: parts => nodesOf (nodes ++ [.text text]) branches parts
  | .output tokens :: parts => do
    let expression ← readExpression tokens
    nodesOf (nodes ++ [.output expression]) branches parts
  | .tag (.word word :: tokens) :: parts =>
    if word = "if".toList then do
      let condition ← readCondition tokens
      nodesOf [] (⟨nodes, condition, none⟩ :: branches) parts
    else
      match branches with
      | [] => .error .malformed
      | branch :: outer =>
        if tokens ≠ [] then .error .malformed
        else if word = "endif".toList then nodesOf (branch.close nodes) outer parts
        else if word = "else".toList && branch.yes.isNone then
          nodesOf [] ({ branch with yes := some nodes } :: outer) parts
        else .error .malformed
  | .tag _ :: _ => .error .malformed

def ofText (text : Text) : Except Fault (List Node) :=
  match readParts [] (unifyBreaks text) with
  | some parts => nodesOf [] [] parts
  | none => .error .malformed

end Gamebook.Template
