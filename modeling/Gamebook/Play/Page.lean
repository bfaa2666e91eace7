import Gamebook.Markup.Blocks
import Gamebook.Play.Walk

/-!
Pages of a story, one for each state that can be reached.

A page shows the text of the fresh actions and of the scene. The links of these texts are rendered
first and kept out of the way of the markup around them: an open link becomes an anchor to the page
it leads to, or plain text if it leads nowhere, and a closed one its alternate text or nothing.
-/

namespace Gamebook

namespace Play

structure Page where
  state : State
  scene : Story.Scene
  actions : List Story.Action
  html : Text

inductive PageError where
  | walk (error : Play.Error)
  | markup (error : Markup.Placeholder.Error)
deriving DecidableEq

def PageError.message : PageError → String
  | .walk error => error.message
  | .markup error => error.message

end Play

namespace Story

open Play Markup

def Link.html (hrefFor : State → Text) (state : State) (link : Link) :
    Except Placeholder.Error Text :=
  if state.allows link.conditions then do
    let html ← Inline.render link.text
    if link.navigates then
      return "<a href=\"".toList
        ++ Text.escape Text.EscapeStyle.inAttribute (hrefFor (state.follow link))
        ++ "\">".toList ++ html ++ "</a>".toList
    else return html
  else
    match link.alternate? with
    | none => .ok []
    | some text => Inline.render text

abbrev Rendering := StateT Stash (Except Placeholder.Error)

def putAside (fragment : Text) : Rendering Text := modifyGet fun stash => stash.put fragment

/-- A piece of a line, the links among `links` put aside. -/
def coverPiece (hrefFor : State → Text) (state : State) (links : List Link) :
    Text.Piece Source.WrittenLink → Rendering Text
  | .plain c => return [c]
  | .token written =>
    match links.find? fun link => link.written = written with
    | none => return written.write
    | some link => do putAside (← link.html hrefFor state)

def coverLine (hrefFor : State → Text) (state : State) (links : List Link) (line : Text) :
    Rendering Text := do
  let parts ← (Source.WrittenLink.pattern.pieces line).mapM (coverPiece hrefFor state links)
  return parts.flatten

def renderLine (hrefFor : State → Text) (state : State) (links : List Link) (line : Text) :
    Rendering Text := do
  Inline.render (← coverLine hrefFor state links line)

def renderBlock (hrefFor : State → Text) (state : State) (description : Text) (links : List Link) :
    Except Placeholder.Error Text := do
  let (html, stash) ← (Blocks.renderWith (renderLine hrefFor state links) description).run {}
  stash.restore html

/-- The markup of the given actions and the scene, one below the other. -/
def renderBody (hrefFor : State → Text) (state : State) (actions : List Action) (scene : Scene) :
    Except Placeholder.Error Text := do
  let shown ← actions.mapM fun action =>
    renderBlock hrefFor state action.description action.links
  let last ← renderBlock hrefFor state scene.description scene.links
  return Text.join ['\n'] ((shown ++ [last]).filter (· ≠ []))

def page (story : Story) (hrefFor : State → Text) (state : State) : Except PageError Page := do
  let scene ← (story.resolve state).mapError PageError.walk
  let actions := story.freshActions state
  let html ← (renderBody hrefFor state actions scene).mapError PageError.markup
  return ⟨state, scene, actions, html⟩

/-- The pages of all states that can be reached, in the order of the walk. -/
def pages (story : Story) (hrefFor : State → Text) (bound : Int) :
    Except PageError (List Page) := do
  let states ← (story.walk bound).mapError PageError.walk
  states.mapM (story.page hrefFor)

end Story

end Gamebook
