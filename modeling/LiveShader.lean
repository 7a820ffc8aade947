import LiveShader.CommandLine.Arguments
import LiveShader.CommandLine.Reader
import LiveShader.CommandLine.Similarity
import LiveShader.Data.Binary64
import LiveShader.Data.Bytes
import LiveShader.Data.Hex
import LiveShader.Data.Single
import LiveShader.Data.Table
import LiveShader.Duration
import LiveShader.Duration.Float
import LiveShader.Duration.Reader
import LiveShader.Glsl.Declaration
import LiveShader.Glsl.Dialect
import LiveShader.Glsl.Layout
import LiveShader.Glsl.Lowering
import LiveShader.Host.Host
import LiveShader.Host.Request
import LiveShader.Json.Fields
import LiveShader.Json.Quoted
import LiveShader.Main
import LiveShader.Program.Failure
import LiveShader.Program.Run
import LiveShader.Program.Session
import LiveShader.Program.Storage
import LiveShader.Program.Task
import LiveShader.Proofs.Data.Lookup
import LiveShader.Proofs.Data.Stretch
import LiveShader.Proofs.Glsl.CommentedLines
import LiveShader.Proofs.Glsl.CommentedStages
import LiveShader.Proofs.Glsl.Comments
import LiveShader.Proofs.Glsl.CommentsAside
import LiveShader.Proofs.Glsl.CutDeclarations
import LiveShader.Proofs.Glsl.DefinitionOrder
import LiveShader.Proofs.Glsl.Definitions
import LiveShader.Proofs.Glsl.Document
import LiveShader.Proofs.Glsl.Gaps
import LiveShader.Proofs.Glsl.HeaderNames
import LiveShader.Proofs.Glsl.Interface
import LiveShader.Proofs.Glsl.Layout
import LiveShader.Proofs.Glsl.LineByLine
import LiveShader.Proofs.Glsl.Lines
import LiveShader.Proofs.Glsl.Locations
import LiveShader.Proofs.Glsl.LoweredAgain
import LiveShader.Proofs.Glsl.OpaqueTypes
import LiveShader.Proofs.Glsl.Places
import LiveShader.Proofs.Glsl.PlainStatements
import LiveShader.Proofs.Glsl.Recognition
import LiveShader.Proofs.Glsl.Renaming
import LiveShader.Proofs.Glsl.Respacing
import LiveShader.Proofs.Glsl.Statements
import LiveShader.Proofs.Glsl.WholeWords
import LiveShader.Proofs.Glsl.Wording
import LiveShader.Proofs.History
import LiveShader.Proofs.Program.Farewell
import LiveShader.Proofs.Program.PresetLines
import LiveShader.Proofs.Program.Steps
import LiveShader.Proofs.Render.BuildSteps
import LiveShader.Proofs.Render.Consistency
import LiveShader.Proofs.Render.DrawHistory
import LiveShader.Proofs.Render.FailedBuild
import LiveShader.Proofs.Render.FrameCalls
import LiveShader.Proofs.Render.FrameEffect
import LiveShader.Proofs.Render.FrameTimes
import LiveShader.Proofs.Render.Operation
import LiveShader.Proofs.Render.RecorderObjects
import LiveShader.Proofs.Render.StableRelations
import LiveShader.Proofs.Render.Transition
import LiveShader.Proofs.Render.Truthfulness
import LiveShader.Proofs.Render.Views
import LiveShader.Proofs.Render.Withdrawal
import LiveShader.Proofs.Service.Attempts
import LiveShader.Proofs.Service.Progress
import LiveShader.Proofs.Service.Redelivery
import LiveShader.Proofs.Service.Requests
import LiveShader.Proofs.Service.Unfenced
import LiveShader.Proofs.Settings.Acceptance
import LiveShader.Proofs.Shader.Fenced
import LiveShader.Proofs.Shader.Location
import LiveShader.Proofs.Shader.Marker
import LiveShader.Proofs.Shader.Outcomes
import LiveShader.Proofs.Shader.Splitting
import LiveShader.Proofs.Studio.Exchange
import LiveShader.Proofs.Studio.FixCalls
import LiveShader.Proofs.Studio.Input
import LiveShader.Proofs.Studio.KnownFailure
import LiveShader.Proofs.Studio.Moves
import LiveShader.Proofs.Studio.Offers
import LiveShader.Proofs.Studio.PresetNames
import LiveShader.Proofs.Studio.Provenance
import LiveShader.Proofs.Studio.Refusal
import LiveShader.Proofs.Studio.RefusedRequests
import LiveShader.Proofs.Studio.Repairs
import LiveShader.Proofs.Studio.Response
import LiveShader.Proofs.Studio.ShownState
import LiveShader.Proofs.Studio.Staleness
import LiveShader.Proofs.Surface.Configuration
import LiveShader.Proofs.Surface.Creations
import LiveShader.Proofs.Surface.Driver
import LiveShader.Proofs.Surface.Holdings
import LiveShader.Proofs.Surface.Linking
import LiveShader.Proofs.Surface.LiveObjects
import LiveShader.Proofs.Surface.Operation
import LiveShader.Proofs.Surface.Overwriting
import LiveShader.Proofs.Surface.Passes
import LiveShader.Proofs.Surface.Reflection
import LiveShader.Proofs.Surface.Requests
import LiveShader.Proofs.Surface.Transition
import LiveShader.Proofs.Surface.UniformMemory
import LiveShader.Proofs.Surface.UniformWrites
import LiveShader.Proofs.Text.ByteOrder
import LiveShader.Proofs.Text.Cutting
import LiveShader.Proofs.Text.LineEnds
import LiveShader.Proofs.Text.Searching
import LiveShader.Proofs.Text.Slices
import LiveShader.Proofs.Text.Trimming
import LiveShader.Proofs.Text.Words
import LiveShader.Proofs.Window.LiveObjects
import LiveShader.Proofs.Window.Operation
import LiveShader.Proofs.Window.Outcomes
import LiveShader.Proofs.Window.Reports
import LiveShader.Proofs.Window.Title
import LiveShader.Render.Clock
import LiveShader.Render.Controller
import LiveShader.Render.Device
import LiveShader.Render.FrameLoop
import LiveShader.Render.Program
import LiveShader.Render.Recorder
import LiveShader.Render.Size
import LiveShader.Render.SizeReader
import LiveShader.Render.Time
import LiveShader.Service.Client
import LiveShader.Service.Endpoint
import LiveShader.Service.Fence
import LiveShader.Service.FixCycle
import LiveShader.Service.Service
import LiveShader.Settings.Location
import LiveShader.Settings.Reader
import LiveShader.Settings.Settings
import LiveShader.Shader.BuildError
import LiveShader.Shader.Split
import LiveShader.Shader.Stage
import LiveShader.Studio.Bench
import LiveShader.Studio.Console
import LiveShader.Studio.Presets
import LiveShader.Studio.Studio
import LiveShader.Surface.Device
import LiveShader.Surface.Interface
import LiveShader.Surface.Module
import LiveShader.Text.Alphanumeric
import LiveShader.Text.Blank
import LiveShader.Text.CodeRows
import LiveShader.Text.Composition
import LiveShader.Text.Decimal
import LiveShader.Text.Lines
import LiveShader.Text.Search
import LiveShader.Text.Visible
import LiveShader.Toml.Document
import LiveShader.Toml.Moment
import LiveShader.Toml.Number
import LiveShader.Toml.Quoted
import LiveShader.Toml.Value
import LiveShader.Url.Basic
import LiveShader.Url.Domain.Direction
import LiveShader.Url.Domain.Folding
import LiveShader.Url.Domain.Joining
import LiveShader.Url.Domain.Name
import LiveShader.Url.Host
import LiveShader.Url.Parser
import LiveShader.Url.Percent
import LiveShader.Url.Punycode
import LiveShader.Window.Preview
import LiveShader.Window.RedrawClock
