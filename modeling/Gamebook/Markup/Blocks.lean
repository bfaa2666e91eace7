import Gamebook.Markup.Inline
import Gamebook.Text.Lines

/-!
Markup of a whole text, line by line.

Each line is blank, a heading (`#### `), a rule, a list item (`- ` or `* `) or plain. Neighbouring
plain lines make one paragraph, and neighbouring items one list.
-/

namespace Gamebook.Markup

open Gamebook.Text

/-- What a line is, with the text that it marks. -/
inductive Line where
  | blank
  | heading (text : Text)
  | rule
  | item (text : Text)
  | plain (text : Text)
deriving DecidableEq, Repr

namespace Line

def rules : List Text := ["---", "***", "- - -"]

/-- The kind of a line, blanks around it left out. -/
def ofText (line : Text) : Line :=
  let text := strip line
  match text with
  | [] => .blank
  | '#' :: '#' :: '#' :: '#' :: ' ' :: rest => .heading rest
  | _ =>
    if text ∈ rules then .rule
    else
      match text with
      | '-' :: ' ' :: rest => .item rest
      | '*' :: ' ' :: rest => .item rest
      | _ => .plain text

end Line

inductive Block where
  | heading (text : Text)
  | rule
  | item (text : Text)
  /-- A run of plain lines. -/
  | paragraph (lines : List Text)
deriving DecidableEq, Repr

namespace Block

def paragraph? : List Text → List Block
  | [] => []
  | line :: lines => [.paragraph (line :: lines)]

/-- The blocks of the given lines when `gathered` are the plain lines just before them. -/
def ofLines (gathered : List Text) : List Line → List Block
  | [] => paragraph? gathered
  | .plain text :: lines => ofLines (gathered ++ [text]) lines
  | .blank :: lines => paragraph? gathered ++ ofLines [] lines
  | .heading text :: lines => paragraph? gathered ++ .heading text :: ofLines [] lines
  | .rule :: lines => paragraph? gathered ++ .rule :: ofLines [] lines
  | .item text :: lines => paragraph? gathered ++ .item text :: ofLines [] lines

def ofText (text : Text) : List Block := ofLines [] ((lines text).map Line.ofText)

end Block

/-- A finished line of output, list items told apart. -/
inductive Row where
  | item (html : Text)
  | other (html : Text)
deriving DecidableEq, Repr

namespace Row

def html : Row → Text
  | .item html => html
  | .other html => html

/-- Lays rows out as lines, opening a list in front of the first of neighbouring items and closing
it behind the last. -/
def layOut (inList : Bool) : List Row → List Text
  | [] => if inList then ["</ul>"] else []
  | .item html :: rows =>
    if inList then html :: layOut true rows else "<ul>" :: html :: layOut true rows
  | .other html :: rows =>
    if inList then "</ul>" :: html :: layOut false rows else html :: layOut false rows

end Row

namespace Block

/-- Renders a block with `inline` for the text of each of its lines. A paragraph of which nothing
is left gives no row. -/
def render [Monad m] (inline : Text → m Text) : Block → m (List Row)
  | .heading text => do
    let html ← inline text
    return [.other ("<h4>" ++ html ++ "</h4>")]
  | .rule => return [.other "<hr />"]
  | .item text => do
    let html ← inline text
    return [.item ("<li>" ++ html ++ "</li>")]
  | .paragraph lines => do
    let parts ← lines.mapM inline
    let html := join " " (parts.filter (· ≠ []))
    return if html = [] then [] else [.other ("<p>" ++ html ++ "</p>")]

end Block

namespace Blocks

/-- The markup of a text, `inline` rendering the text of each line. -/
def renderWith [Monad m] (inline : Text → m Text) (text : Text) : m Text := do
  let rows ← (Block.ofText text).mapM (Block.render inline)
  return join ['\n'] (Row.layOut false rows.flatten)

def render (text : Text) : Except Placeholder.Error Text := renderWith Inline.render text

end Blocks

end Gamebook.Markup
