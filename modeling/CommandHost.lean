import CommandHost.Command.Arguments
import CommandHost.Command.Basic
import CommandHost.Command.Fault
import CommandHost.Command.Rich
import CommandHost.Command.Settings
import CommandHost.Command.Simple
import CommandHost.Command.Spans
import CommandHost.Command.Template
import CommandHost.Config.Environment
import CommandHost.Config.Layers
import CommandHost.Config.Model
import CommandHost.Config.Problem
import CommandHost.Config.Support
import CommandHost.Decimal.Nearest
import CommandHost.Decimal.Shortest
import CommandHost.Error.Build
import CommandHost.Error.Object
import CommandHost.Error.Fault
import CommandHost.Error.IllegalUse
import CommandHost.Error.Report
import CommandHost.Event.Bus
import CommandHost.Event.Listener
import CommandHost.Host.Vocabulary
import CommandHost.Json.Reader
import CommandHost.Log.Level
import CommandHost.Log.Record
import CommandHost.Log.Sink
import CommandHost.Markup.Descriptor
import CommandHost.Markup.Mapping
import CommandHost.Markup.Node
import CommandHost.Module.Basic
import CommandHost.Module.Declaration
import CommandHost.Module.OpName
import CommandHost.Module.Registry
import CommandHost.Nano.Verbs
import CommandHost.Object.Basic
import CommandHost.Scenario.Host
import CommandHost.Scenario.Perform
import CommandHost.Scenario.Samples
import CommandHost.Scenario.Step
import CommandHost.Store
import CommandHost.Table
import CommandHost.Text.Blank
import CommandHost.Text.Breaks
import CommandHost.Text.Case
import CommandHost.Text.Digit
import CommandHost.Text.Identifier
import CommandHost.Text.Pieces
import CommandHost.Text.Printable
import CommandHost.Text.Quoted
import CommandHost.Text.Ranges
import CommandHost.Value.Basic
import CommandHost.Value.Equal
import CommandHost.Value.Print
import CommandHost.World.Basic
import CommandHost.World.Commands
import CommandHost.World.Creation
import CommandHost.World.Dispatch
import CommandHost.World.Events
import CommandHost.World.Frames
import CommandHost.World.Tree
import CommandHost.Xml.Chars
import CommandHost.Xml.Declaration
import CommandHost.Xml.Doctype.Place
import CommandHost.Xml.Doctype.Token
import CommandHost.Xml.Document
import CommandHost.Xml.Encoding
import CommandHost.Xml.Entity
import CommandHost.Xml.Fault
import CommandHost.Xml.Lexeme
import CommandHost.Xml.Node
import CommandHost.Xml.Scope
import CommandHost.Yaml.Content
import CommandHost.Yaml.Cursor
import CommandHost.Yaml.Kind
import CommandHost.Yaml.Label
import CommandHost.Yaml.Node
import CommandHost.Yaml.Scalar
import CommandHost.Yaml.Token
import CommandHost.Yaml.Tokens
import CommandHost.Proofs.Command.Escaping
import CommandHost.Proofs.Command.RichRoundTrip
import CommandHost.Proofs.Event.Ledger
import CommandHost.Proofs.Event.Code
import CommandHost.Proofs.Event.Effects
import CommandHost.Proofs.Event.Stage
import CommandHost.Proofs.Event.Run
import CommandHost.Proofs.Event.Delivery
import CommandHost.Proofs.Event.Refinement
import CommandHost.Proofs.Event.Once
import CommandHost.Proofs.Command.Outcomes
import CommandHost.Proofs.Dispatch.Separation
import CommandHost.Proofs.Object.Scene
import CommandHost.Proofs.Object.Forest
import CommandHost.Proofs.Object.Registration
import CommandHost.Proofs.Object.Growth
import CommandHost.Proofs.Object.Creation
import CommandHost.Proofs.Object.Orderly
import CommandHost.Proofs.Object.Rollback
import CommandHost.Proofs.Command.Overlap
import CommandHost.Proofs.Value.Entries
import CommandHost.Proofs.Config.Overlay
import CommandHost.Proofs.Yaml.Mapping
import CommandHost.Proofs.Config.Fields
import CommandHost.Proofs.Config.Layering
import CommandHost.Proofs.Config.Standard
import CommandHost.Proofs.Result
import CommandHost.Proofs.Markup.Own
import CommandHost.Proofs.Markup.Outcomes
import CommandHost.Proofs.Xml.Extension
import CommandHost.Proofs.Xml.Front
import CommandHost.Proofs.Xml.Presence
import CommandHost.Proofs.Xml.Content
import CommandHost.Proofs.Xml.Lockstep
import CommandHost.Proofs.Xml.Splice
import CommandHost.Proofs.Xml.Insertion
import CommandHost.Proofs.Markup.Comments
import CommandHost.Proofs.Event.Failure
import CommandHost.Proofs.Command.Unclosed
import CommandHost.Proofs.Dispatch.TextToBus
import CommandHost.Proofs.Command.Accessors
import CommandHost.Proofs.Command.Wire
import CommandHost.Proofs.Config.Defaults
import CommandHost.Proofs.Config.Saving
import CommandHost.Proofs.Object.Moves
import CommandHost.Proofs.Object.Succession
import CommandHost.Proofs.Object.Ownership
import CommandHost.Proofs.Object.Replacement
import CommandHost.Proofs.Command.Tokens
import CommandHost.Proofs.Command.Sentinel
import CommandHost.Proofs.Command.Grammar
import CommandHost.Proofs.Command.Filling
import CommandHost.Proofs.Command.Remnants
import CommandHost.Proofs.Event.Keeping
import CommandHost.Proofs.Object.Upkeep
import CommandHost.Proofs.Object.Faithful
import CommandHost.Proofs.Object.Clearance
import CommandHost.Proofs.Object.Tidy
import CommandHost.Proofs.Object.Residue
import CommandHost.Proofs.Object.Blueprint
import CommandHost.Proofs.Object.Enrolment
import CommandHost.Proofs.Object.Planting
import CommandHost.Proofs.Command.SimpleRoundTrip
import CommandHost.Proofs.Dispatch.OwnText
import CommandHost.Proofs.Command.Fallback
import CommandHost.Proofs.Command.Agreement
import CommandHost.Proofs.Command.LeadingInteger
import CommandHost.Proofs.Markup.Pedigree
import CommandHost.Proofs.Dispatch.Spelling
import CommandHost.Proofs.Object.Disposal
import CommandHost.Proofs.Object.Rehanging
import CommandHost.Proofs.Nano.Registration
import CommandHost.Proofs.Frame.Catalogue
import CommandHost.Proofs.Frame.Ticks
import CommandHost.Proofs.Command.Settings
import CommandHost.Proofs.Config.Malformed
import CommandHost.Proofs.Error.Attributes
