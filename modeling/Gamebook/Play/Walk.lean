import Gamebook.Play.State
import Gamebook.Text.Quoted
import Std.Data.TreeSet

/-!
The states that a reader can reach, nearest first.

In each state one variant of the scene is shown, with the actions of the toggles that the last link
set; the links of both lead on. Two states whose pages have one name count as one. The walk stops
with an error when it finds more states than allowed.
-/

namespace Gamebook

namespace Play

inductive Error where
  | noVariant (scene : Text) (toggles : Toggles)
  | tooManyStates (bound : Int)
deriving DecidableEq

def Error.message : Error → String
  | .noVariant scene toggles =>
    "No variant of scene \"" ++ scene.str ++ "\" matches toggles "
      ++ (Text.quotedList toggles.names).str ++ "."
  | .tooManyStates bound =>
    "Story expands to more than " ++ toString bound
      ++ " states; raise FICDOWN_MAX_STATES to render it."

end Play

namespace Story

open Play

/-- The second variant has more conditions, or as many and an earlier line. -/
def isBetter (best other : Scene) : Bool :=
  best.conditions.size < other.conditions.size
    || (best.conditions.size = other.conditions.size && other.line < best.line)

/-- The best of some variants, the first of equals. -/
def best? : List Scene → Option Scene
  | [] => none
  | first :: rest =>
    some (rest.foldl (fun best other => if isBetter best other then other else best) first)

def candidates (story : Story) (state : State) : List Scene :=
  (story.variants state.scene).filter fun variant => state.allows variant.conditions

/-- The variant shown in a state: of those whose conditions hold the one with most conditions, and
of several the first. -/
def resolve (story : Story) (state : State) : Except Play.Error Scene :=
  match best? (story.candidates state) with
  | some scene => .ok scene
  | none => .error (.noVariant state.scene state.toggles)

def freshActions (story : Story) (state : State) : List Action :=
  state.fresh.filterMap story.action?

def openLinks (state : State) (links : List Link) : List Link :=
  links.filter fun link => link.navigates && state.allows link.conditions

/-- Where the links shown in a state lead, those of actions first. -/
def successors (story : Story) (state : State) : Except Play.Error (List State) := do
  let scene ← story.resolve state
  let links := (story.freshActions state).flatMap Action.links ++ scene.links
  return (openLinks state links).map state.follow

def start (story : Story) : State := { scene := story.firstScene }

/-- The states found so far, in the order of finding, and the names of their pages. -/
structure Found where
  order : Array State
  seen : Std.TreeSet Text

namespace Found

/-- Adds a state unless its page is there already; an error if there is no room for it. -/
def add (bound : Int) (found : Found) (state : State) : Except Play.Error Found :=
  let id := state.pageId
  if found.seen.contains id then .ok found
  else if bound ≤ found.order.size then .error (.tooManyStates bound)
  else .ok ⟨found.order.push state, found.seen.insert id⟩

def addAll (bound : Int) (found : Found) : List State → Except Play.Error Found
  | [] => .ok found
  | state :: states => do (← found.add bound state).addAll bound states

def room (bound : Int) (found : Found) : Nat := max found.order.size bound.toNat

theorem room_add {bound : Int} {found next : Found} {state : State}
    (added : found.add bound state = .ok next) : next.room bound = found.room bound := by
  simp only [add] at added
  split at added
  · cases added; rfl
  · split at added
    · cases added
    · rename_i fits
      cases added
      simp only [room, Array.size_push]
      omega

theorem room_addAll {bound : Int} {states : List State} {found next : Found}
    (added : found.addAll bound states = .ok next) : next.room bound = found.room bound := by
  induction states generalizing found with
  | nil => cases added; rfl
  | cons state states ih =>
    cases first : found.add bound state with
    | error reason => simp [addAll, first, bind, Except.bind] at added
    | ok middle =>
      simp only [addAll, first, bind, Except.bind] at added
      exact (ih added).trans (room_add first)

end Found

/-- Goes through the states found, from the given place on, adding the successors of each. -/
def walkFrom (story : Story) (bound : Int) (found : Found) (next : Nat) :
    Except Play.Error Found :=
  if inside : next < found.order.size then
    match story.successors found.order[next] with
    | .error reason => .error reason
    | .ok states =>
      match _added : found.addAll bound states with
      | .error reason => .error reason
      | .ok more => walkFrom story bound more (next + 1)
  else .ok found
termination_by found.room bound - next
decreasing_by
  rw [Found.room_addAll _added]
  simp only [Found.room]
  omega

/-- The states that can be reached from the start, at most `bound` of them, nearest first. -/
def walk (story : Story) (bound : Int) : Except Play.Error (List State) := do
  let found ← story.walkFrom bound ⟨#[story.start], Std.TreeSet.empty.insert story.start.pageId⟩ 0
  return found.order.toList

end Story

end Gamebook
