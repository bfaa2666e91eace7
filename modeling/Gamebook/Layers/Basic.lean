import Gamebook.Text.Basic

/-!
Layers of a program, and which of them must not know of which others.

A module lies in the layer that the second part of its name names, if it lies in the package at all.
-/

namespace Gamebook.Layers

open Gamebook.Text

inductive Layer where
  | domain
  | core
  | adapters
  | application
  | cli
deriving DecidableEq, Repr

namespace Layer

def name : Layer → Text
  | .domain => "domain"
  | .core => "core"
  | .adapters => "adapters"
  | .application => "application"
  | .cli => "cli"

def byName : List Layer := [.adapters, .application, .cli, .core, .domain]

def ofName? (name : Text) : Option Layer := byName.find? fun layer => layer.name = name

def banned : Layer → List Layer
  | .domain => [.core, .adapters, .application, .cli]
  | .core => [.adapters, .application, .cli]
  | .adapters => [.application, .cli]
  | .application => []
  | .cli => []

end Layer

def packageName : Text := "ficdown"

abbrev ModuleName := List Text

def ModuleName.ofText (text : Text) : ModuleName := splitOn '.' text

def layerOf? : ModuleName → Option Layer
  | package :: layer :: _ => if package = packageName then Layer.ofName? layer else none
  | _ => none

end Gamebook.Layers
