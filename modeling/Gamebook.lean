import Gamebook.Develop.Push
import Gamebook.Develop.Tool
import Gamebook.Files.Archive
import Gamebook.Files.Changes
import Gamebook.Files.Fault
import Gamebook.Files.Path
import Gamebook.Files.Tree
import Gamebook.Files.Writing
import Gamebook.Hash.Sha256
import Gamebook.Layers.Basic
import Gamebook.Layers.Check
import Gamebook.Layers.Import
import Gamebook.Layers.Token
import Gamebook.Log.Basic
import Gamebook.Main
import Gamebook.Markup.Blocks
import Gamebook.Markup.Inline
import Gamebook.Markup.Placeholder
import Gamebook.Play.Page
import Gamebook.Play.State
import Gamebook.Play.Toggles
import Gamebook.Play.Walk
import Gamebook.Proofs.Effects
import Gamebook.Proofs.Files.BookPlace
import Gamebook.Proofs.Files.Changing
import Gamebook.Proofs.Files.Copying
import Gamebook.Proofs.Files.Directories
import Gamebook.Proofs.Files.Listing
import Gamebook.Proofs.Files.Naming
import Gamebook.Proofs.Files.Places
import Gamebook.Proofs.Files.Preserving
import Gamebook.Proofs.Files.Sites
import Gamebook.Proofs.Layers.Naming
import Gamebook.Proofs.Layers.Reading
import Gamebook.Proofs.Layers.Reporting
import Gamebook.Proofs.Layers.Spelling
import Gamebook.Proofs.Markup.Addresses
import Gamebook.Proofs.Markup.Brackets
import Gamebook.Proofs.Markup.Carrying
import Gamebook.Proofs.Markup.Elements
import Gamebook.Proofs.Markup.Images
import Gamebook.Proofs.Markup.Inlines
import Gamebook.Proofs.Markup.Layout
import Gamebook.Proofs.Markup.Lines
import Gamebook.Proofs.Markup.Listing
import Gamebook.Proofs.Markup.Nesting
import Gamebook.Proofs.Markup.Recovery
import Gamebook.Proofs.Markup.Rendering
import Gamebook.Proofs.Markup.Restoring
import Gamebook.Proofs.Markup.Runs
import Gamebook.Proofs.Markup.Segments
import Gamebook.Proofs.Markup.Signs
import Gamebook.Proofs.Markup.Stashing
import Gamebook.Proofs.Markup.Tags
import Gamebook.Proofs.Play.Arrangement
import Gamebook.Proofs.Play.Conjunction
import Gamebook.Proofs.Play.Covering
import Gamebook.Proofs.Play.Descriptions
import Gamebook.Proofs.Play.Discovery
import Gamebook.Proofs.Play.Distances
import Gamebook.Proofs.Play.Exploration
import Gamebook.Proofs.Play.Finiteness
import Gamebook.Proofs.Play.Histories
import Gamebook.Proofs.Play.NeverSet
import Gamebook.Proofs.Play.Order
import Gamebook.Proofs.Play.Pages
import Gamebook.Proofs.Play.Payload
import Gamebook.Proofs.Play.Reachable
import Gamebook.Proofs.Play.Repeating
import Gamebook.Proofs.Play.Resolution
import Gamebook.Proofs.Play.Returning
import Gamebook.Proofs.Play.Showing
import Gamebook.Proofs.Play.Standing
import Gamebook.Proofs.Publish.Books
import Gamebook.Proofs.Publish.Contents
import Gamebook.Proofs.Publish.Images
import Gamebook.Proofs.Publish.Linking
import Gamebook.Proofs.Publish.Manifest
import Gamebook.Proofs.Publish.Members
import Gamebook.Proofs.Publish.Packing
import Gamebook.Proofs.Publish.Sites
import Gamebook.Proofs.Publish.Writing
import Gamebook.Proofs.Run.Agreement
import Gamebook.Proofs.Run.Binding
import Gamebook.Proofs.Run.Building
import Gamebook.Proofs.Run.CommandLine
import Gamebook.Proofs.Run.Configuring
import Gamebook.Proofs.Run.Escaping
import Gamebook.Proofs.Run.Keeping
import Gamebook.Proofs.Run.Leaving
import Gamebook.Proofs.Run.Logging
import Gamebook.Proofs.Run.Opening
import Gamebook.Proofs.Run.Passing
import Gamebook.Proofs.Run.Pictures
import Gamebook.Proofs.Run.Printing
import Gamebook.Proofs.Run.Publishing
import Gamebook.Proofs.Run.Rendered
import Gamebook.Proofs.Run.Rendering
import Gamebook.Proofs.Run.Replacing
import Gamebook.Proofs.Run.Resolving
import Gamebook.Proofs.Run.Stages
import Gamebook.Proofs.Run.Telling
import Gamebook.Proofs.Run.Templates
import Gamebook.Proofs.Run.Testing
import Gamebook.Proofs.Run.Unexpanded
import Gamebook.Proofs.Source.Blocks
import Gamebook.Proofs.Source.Columns
import Gamebook.Proofs.Source.Grammar
import Gamebook.Proofs.Source.Headings
import Gamebook.Proofs.Source.Items
import Gamebook.Proofs.Source.Keys
import Gamebook.Proofs.Source.Names
import Gamebook.Proofs.Source.Parts
import Gamebook.Proofs.Source.Sections
import Gamebook.Proofs.Source.Spelling
import Gamebook.Proofs.Source.Splitting
import Gamebook.Proofs.Source.Trimming
import Gamebook.Proofs.Story.Accounting
import Gamebook.Proofs.Story.Addressing
import Gamebook.Proofs.Story.Arrangement
import Gamebook.Proofs.Story.Closed
import Gamebook.Proofs.Story.Distinct
import Gamebook.Proofs.Story.Links
import Gamebook.Proofs.Story.Origin
import Gamebook.Proofs.Story.Orphans
import Gamebook.Proofs.Story.Positions
import Gamebook.Proofs.Story.Preamble
import Gamebook.Proofs.Story.Reaching
import Gamebook.Proofs.Story.Refusals
import Gamebook.Proofs.Story.Renumbering
import Gamebook.Proofs.Story.Requirements
import Gamebook.Proofs.Story.Taking
import Gamebook.Proofs.Story.WellFormed
import Gamebook.Proofs.Template.Showing
import Gamebook.Proofs.Text.Digits
import Gamebook.Proofs.Text.Encoding
import Gamebook.Proofs.Text.Items
import Gamebook.Proofs.Text.Joining
import Gamebook.Proofs.Text.Lines
import Gamebook.Proofs.Text.Scanning
import Gamebook.Publish.Book
import Gamebook.Publish.Identifier
import Gamebook.Publish.Job
import Gamebook.Publish.MediaType
import Gamebook.Publish.Site
import Gamebook.Run.Build
import Gamebook.Run.Config
import Gamebook.Run.Fields
import Gamebook.Run.Gate
import Gamebook.Run.Options
import Gamebook.Run.Outcome
import Gamebook.Run.Preflight
import Gamebook.Run.Settings
import Gamebook.Run.World
import Gamebook.Source.Block
import Gamebook.Source.Destination
import Gamebook.Source.Key
import Gamebook.Source.Link
import Gamebook.Story.Adding
import Gamebook.Story.Basic
import Gamebook.Story.Conditions
import Gamebook.Story.Finding
import Gamebook.Story.Orphans
import Gamebook.Story.Reading
import Gamebook.Story.References
import Gamebook.Template.Basic
import Gamebook.Template.Literal
import Gamebook.Template.Packaged
import Gamebook.Template.Pages
import Gamebook.Template.Part
import Gamebook.Template.Reading
import Gamebook.Text.Basic
import Gamebook.Text.Blank
import Gamebook.Text.Case
import Gamebook.Text.Escape
import Gamebook.Text.Lines
import Gamebook.Text.Numeral
import Gamebook.Text.Pattern
import Gamebook.Text.Plain
import Gamebook.Text.Quoted
import Gamebook.Text.Utf8
import Gamebook.Text.Word
