import BranchingStory.Asset
import BranchingStory.Console.Agent
import BranchingStory.Console.Command
import BranchingStory.Console.Failure
import BranchingStory.Console.FileStore
import BranchingStory.Console.LinePlay
import BranchingStory.Console.PathText
import BranchingStory.Console.SavedGame
import BranchingStory.Console.Scenario
import BranchingStory.Console.Timestamp
import BranchingStory.Console.World
import BranchingStory.Decimal.Binary
import BranchingStory.Decimal.Layout
import BranchingStory.Decimal.Power
import BranchingStory.Decimal.Reading
import BranchingStory.Decimal.Shortest
import BranchingStory.Engine.Basic
import BranchingStory.Engine.Run
import BranchingStory.Engine.Step
import BranchingStory.Fault
import BranchingStory.GameState.Action
import BranchingStory.GameState.Basic
import BranchingStory.GameState.Save
import BranchingStory.Json.Basic
import BranchingStory.Json.Printer
import BranchingStory.Json.Reader
import BranchingStory.Json.Record
import BranchingStory.Keyed
import BranchingStory.Main
import BranchingStory.Script.Codec
import BranchingStory.Script.Instruction
import BranchingStory.Script.Reading
import BranchingStory.Script.Scene
import BranchingStory.Script.Source
import BranchingStory.Session
import BranchingStory.Template.Expression
import BranchingStory.Template.Helper
import BranchingStory.Template.Render
import BranchingStory.Template.Standard
import BranchingStory.Text.Blank
import BranchingStory.Text.Case
import BranchingStory.Text.CaseTable
import BranchingStory.TextSet
import BranchingStory.Value
import BranchingStory.Value.Path
import BranchingStory.Yaml.Cursor
import BranchingStory.Yaml.Meaning
import BranchingStory.Yaml.Node
import BranchingStory.Yaml.Scalar
import BranchingStory.Yaml.Token
import BranchingStory.Yaml.TokenReader
import BranchingStory.Proofs.GameState
import BranchingStory.Proofs.Engine.Turn
import BranchingStory.Proofs.Engine.Place
import BranchingStory.Proofs.Engine.Coherence
import BranchingStory.Proofs.Engine.Flat
import BranchingStory.Proofs.Engine.Resume
import BranchingStory.Proofs.Engine.Clock
import BranchingStory.Proofs.Json
import BranchingStory.Proofs.Json.Taking
import BranchingStory.Proofs.Json.RoundTrip
import BranchingStory.Proofs.Save
import BranchingStory.Proofs.Console.Boundary
import BranchingStory.Proofs.Console.Command
import BranchingStory.Proofs.Console.FileStore
import BranchingStory.Proofs.Console.Playthrough
import BranchingStory.Proofs.Console.Report
import BranchingStory.Proofs.Engine.Choosing
import BranchingStory.Proofs.Session
import BranchingStory.Proofs.Session.Log
import BranchingStory.Proofs.Save.Recovery
import BranchingStory.Proofs.Save.Agreement
import BranchingStory.Proofs.Session.Waiting
import BranchingStory.Proofs.Script.Grammar
import BranchingStory.Proofs.Script.Location
import BranchingStory.Proofs.Script.Table
import BranchingStory.Proofs.Session.Refusal
import BranchingStory.Proofs.Save.Restored
import BranchingStory.Proofs.Console.Moment
import BranchingStory.Proofs.Console.Prompt
import BranchingStory.Proofs.Console.Transcript
import BranchingStory.Proofs.Template.Spelling
import BranchingStory.Proofs.Template.Grouping
import BranchingStory.Proofs.Template.Trees
import BranchingStory.Proofs.Template.Evaluation
import BranchingStory.Proofs.Template.Slots
import BranchingStory.Proofs.Template.Conditions
import BranchingStory.Proofs.Template.Calling
import BranchingStory.Proofs.Value.Path
import BranchingStory.Proofs.GameState.Cells
import BranchingStory.Proofs.Engine.Normalized
import BranchingStory.Proofs.Engine.Failing
import BranchingStory.Proofs.Engine.Straight
import BranchingStory.Proofs.Text.ByteOrder
import BranchingStory.Proofs.Script.Merging
import BranchingStory.Proofs.Session.Loading
import BranchingStory.Proofs.GameState.Independence
import BranchingStory.Proofs.Script.NullFields
import BranchingStory.Proofs.GameState.Descriptor
import BranchingStory.Proofs.Asset
