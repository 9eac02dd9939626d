import Parley.Access
import Parley.Chat.Content
import Parley.Chat.DataUri
import Parley.Chat.Event
import Parley.Chat.Generation
import Parley.Chat.Loop
import Parley.Chat.Maker
import Parley.Chat.Message
import Parley.Chat.Model
import Parley.Chat.Options
import Parley.Chat.Rehearsed
import Parley.Chat.Response
import Parley.Chat.Role
import Parley.Chat.ToolMode
import Parley.Chat.Usage
import Parley.Check
import Parley.Configuration.Assembly
import Parley.Configuration.Provider
import Parley.Embedding.Model
import Parley.Embedding.Options
import Parley.Embedding.Vector
import Parley.Environment
import Parley.Environment.File
import Parley.Fault
import Parley.Given
import Parley.Intake.Content
import Parley.Intake.Message
import Parley.Intake.Options
import Parley.Intake.Tool
import Parley.Intake.Update
import Parley.Issue
import Parley.Json.Printer
import Parley.Json.Reader
import Parley.Key
import Parley.Log
import Parley.Log.Setup
import Parley.Number.Power
import Parley.Number.Reading
import Parley.Number.Rounded
import Parley.Number.Shortest
import Parley.Proofs.Agreement
import Parley.Proofs.Annotations
import Parley.Proofs.Arguments
import Parley.Proofs.Assembly
import Parley.Proofs.Attached
import Parley.Proofs.Attribution
import Parley.Proofs.Base64
import Parley.Proofs.Closing
import Parley.Proofs.Coalescing
import Parley.Proofs.Conversation
import Parley.Proofs.Counts
import Parley.Proofs.DataUri
import Parley.Proofs.Decoding
import Parley.Proofs.Dependence
import Parley.Proofs.Dialogue
import Parley.Proofs.Double
import Parley.Proofs.Echo
import Parley.Proofs.Embeddings
import Parley.Proofs.Events
import Parley.Proofs.Execution
import Parley.Proofs.Flattening
import Parley.Proofs.Fragments
import Parley.Proofs.Input
import Parley.Proofs.Interleaving
import Parley.Proofs.Invocation
import Parley.Proofs.Isolation
import Parley.Proofs.Joining
import Parley.Proofs.Layers
import Parley.Proofs.Loop
import Parley.Proofs.Malformed
import Parley.Proofs.Merging
import Parley.Proofs.Naming
import Parley.Proofs.Offered
import Parley.Proofs.Options
import Parley.Proofs.Outcome
import Parley.Proofs.Power
import Parley.Proofs.Reply
import Parley.Proofs.Reporting
import Parley.Proofs.Request
import Parley.Proofs.Results
import Parley.Proofs.Retrying
import Parley.Proofs.Rounding
import Parley.Proofs.Run
import Parley.Proofs.Secrecy
import Parley.Proofs.Service
import Parley.Proofs.Stream
import Parley.Proofs.Tracking
import Parley.Proofs.Translation
import Parley.Proofs.Unsupported
import Parley.Proofs.Value
import Parley.Proofs.Variables
import Parley.Proofs.Vectors
import Parley.Proofs.Waiting
import Parley.Record
import Parley.Service.Connection
import Parley.Service.Endpoint
import Parley.Service.Retry
import Parley.Session
import Parley.Settings.Catalogue
import Parley.Settings.Resolution
import Parley.Settings.Schema
import Parley.Template.Fill
import Parley.Template.Spec
import Parley.Text.Base64
import Parley.Text.Case
import Parley.Text.Category
import Parley.Text.CharSet
import Parley.Text.Class
import Parley.Text.CodePage
import Parley.Text.Encoding
import Parley.Text.Escaped
import Parley.Text.Half
import Parley.Text.Literal
import Parley.Text.Pattern
import Parley.Text.Pattern.Reader
import Parley.Text.Split
import Parley.Text.Undecodable
import Parley.Text.Utf7
import Parley.Tool.Annotation
import Parley.Tool.Call
import Parley.Tool.Documentation
import Parley.Tool.Execution
import Parley.Tool.Function
import Parley.Tool.Input
import Parley.Tool.Limit
import Parley.Tool.Plain
import Parley.Value
import Parley.Wire.Accumulator
import Parley.Wire.Block
import Parley.Wire.Conversation
import Parley.Wire.Offer
import Parley.Wire.Reading
import Parley.Wire.Request
import Parley.Wire.Text
