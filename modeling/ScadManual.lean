import ScadManual.Body
import ScadManual.CommandLine.Arguments
import ScadManual.CommandLine.Documentation
import ScadManual.CommandLine.Session
import ScadManual.CommandLine.Tutorials
import ScadManual.Decimal
import ScadManual.Dialect
import ScadManual.Dict
import ScadManual.Disk.Basic
import ScadManual.Disk.Content
import ScadManual.Disk.Error
import ScadManual.Disk.Temporary
import ScadManual.Document.Basic
import ScadManual.Document.Dump
import ScadManual.Document.Node
import ScadManual.Document.Outline
import ScadManual.Environment
import ScadManual.Error
import ScadManual.Glob.Expand
import ScadManual.Glob.Pattern
import ScadManual.HashStore
import ScadManual.Header
import ScadManual.Json
import ScadManual.Link
import ScadManual.Log
import ScadManual.Log.Record
import ScadManual.Main
import ScadManual.Manual.Basic
import ScadManual.Manual.Build
import ScadManual.Manual.Directive
import ScadManual.Manual.Image
import ScadManual.Manual.Item
import ScadManual.Manual.Place
import ScadManual.Manual.Read
import ScadManual.Markup
import ScadManual.Noted
import ScadManual.Origin
import ScadManual.Page.CheatSheet
import ScadManual.Page.Contents
import ScadManual.Page.File
import ScadManual.Page.Groups
import ScadManual.Page.Index
import ScadManual.Page.Link
import ScadManual.Page.Sidebar
import ScadManual.Path
import ScadManual.Picture
import ScadManual.Proofs.Additions
import ScadManual.Proofs.Anchors
import ScadManual.Proofs.Attachment
import ScadManual.Proofs.Beneath
import ScadManual.Proofs.Blame
import ScadManual.Proofs.Body
import ScadManual.Proofs.Comments
import ScadManual.Proofs.Commit
import ScadManual.Proofs.Components
import ScadManual.Proofs.Disk
import ScadManual.Proofs.Edits
import ScadManual.Proofs.Footnotes
import ScadManual.Proofs.Forest
import ScadManual.Proofs.Globs
import ScadManual.Proofs.HashStore
import ScadManual.Proofs.ImageNames
import ScadManual.Proofs.Images
import ScadManual.Proofs.IndexLinks
import ScadManual.Proofs.Inputs
import ScadManual.Proofs.LateErrors
import ScadManual.Proofs.Log
import ScadManual.Proofs.Lookup
import ScadManual.Proofs.Names
import ScadManual.Proofs.Path
import ScadManual.Proofs.Queue
import ScadManual.Proofs.Reading
import ScadManual.Proofs.Refusal
import ScadManual.Proofs.Renumbering
import ScadManual.Proofs.Spares
import ScadManual.Proofs.Recording
import ScadManual.Proofs.Rerun
import ScadManual.Proofs.Results
import ScadManual.Proofs.Runs
import ScadManual.Proofs.Source
import ScadManual.Proofs.Stance
import ScadManual.Proofs.StoreFiles
import ScadManual.Proofs.StoreRoundTrip
import ScadManual.Proofs.Temporary
import ScadManual.Proofs.Visits
import ScadManual.References
import ScadManual.Registry
import ScadManual.Render.Animation
import ScadManual.Render.Artifact
import ScadManual.Render.Command
import ScadManual.Render.Failure
import ScadManual.Render.OpenScad
import ScadManual.Render.Options
import ScadManual.Render.Output
import ScadManual.Render.Pipeline
import ScadManual.Render.Renderer
import ScadManual.Render.Request
import ScadManual.Render.Snippet
import ScadManual.Rule
import ScadManual.Run.Basic
import ScadManual.Run.Documentation
import ScadManual.Run.Tutorials
import ScadManual.Settings
import ScadManual.Settings.Load
import ScadManual.Sha256
import ScadManual.Source
import ScadManual.Table
import ScadManual.Text.Blank
import ScadManual.Text.Casing
import ScadManual.Text.Casing.Table
import ScadManual.Text.Letter
import ScadManual.Text.Lines
import ScadManual.Text.Numeral
import ScadManual.Text.Ranges
import ScadManual.Text.Search
import ScadManual.Text.Sort
import ScadManual.Toml.Document
import ScadManual.Toml.Quoted
import ScadManual.Toml.Scalar
import ScadManual.Toml.Value
import ScadManual.Tutorial
import ScadManual.Tutorial.Load
import ScadManual.Yaml.Cursor
import ScadManual.Yaml.Meaning
import ScadManual.Yaml.Node
import ScadManual.Yaml.Scalar
import ScadManual.Yaml.Token
import ScadManual.Proofs.Abreast
import ScadManual.Proofs.Order
import ScadManual.Proofs.TutorialVisits
import ScadManual.Proofs.Histories
import ScadManual.Proofs.Shown
import ScadManual.Proofs.Embeds
import ScadManual.Proofs.Links
import ScadManual.Proofs.BlockText
import ScadManual.Proofs.FileLinks
import ScadManual.Proofs.HeaderLines
import ScadManual.Proofs.TableRows
import ScadManual.Proofs.Sorting
import ScadManual.Proofs.NameIndex
import ScadManual.Proofs.ContentsLists
import ScadManual.Proofs.Text
import ScadManual.Proofs.Indentation
import ScadManual.Proofs.Expansion
import ScadManual.Proofs.Escapes
import ScadManual.Proofs.Numbering
import ScadManual.Proofs.FanOut
import ScadManual.Proofs.TreeOrder
import ScadManual.Proofs.RequestOrder
import ScadManual.Proofs.Scripts
import ScadManual.Proofs.RowOrder
import ScadManual.Proofs.TableDefinitions
import ScadManual.Proofs.IgnoredFiles
import ScadManual.Proofs.Animations
import ScadManual.Proofs.DisplayOrder
import ScadManual.Proofs.Viewports
import ScadManual.Proofs.TutorialPages
import ScadManual.Proofs.UsageLines
import ScadManual.Proofs.LogEntries
import ScadManual.Proofs.FootnoteLists
import ScadManual.Proofs.PriorityOrder
import ScadManual.Proofs.Building
import ScadManual.Proofs.BlockErrors
