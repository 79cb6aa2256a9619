import Moh.Backend.Accounts
import Moh.Backend.Activity
import Moh.Backend.IdleShutdown
import Moh.Backend.Server
import Moh.Client.App
import Moh.Client.Attachment
import Moh.Client.BrowserSelection
import Moh.Client.Commands
import Moh.Client.Controller
import Moh.Client.Editor
import Moh.Client.EditorCursor
import Moh.Client.EditorReport
import Moh.Client.EditorText
import Moh.Client.EditorWindow
import Moh.Client.Handled
import Moh.Client.Loop
import Moh.Client.Markdown
import Moh.Client.ModelChoice
import Moh.Client.ModelMatch
import Moh.Client.SessionBrowser
import Moh.Client.Transcript
import Moh.Client.Ui
import Moh.Client.Workspace
import Moh.Codex.Auth
import Moh.Codex.Document
import Moh.Codex.EngineStream
import Moh.Codex.Errors
import Moh.Codex.PendingRefreshes
import Moh.Codex.Rotation
import Moh.Codex.Sse
import Moh.Harness.Discipline
import Moh.Harness.State
import Moh.Harness.Types
import Moh.Library.ByteOffset
import Moh.Library.Counter
import Moh.Library.Cursor
import Moh.Library.Extents
import Moh.Library.Fallible
import Moh.Library.Fanout
import Moh.Library.FileSystem
import Moh.Library.Framing
import Moh.Library.Mailbox
import Moh.Library.Members
import Moh.Library.Probe
import Moh.Library.Ranking
import Moh.Library.Replica
import Moh.Library.RoundTrip
import Moh.Library.Run
import Moh.Library.Segmentation
import Moh.Library.Serial
import Moh.Library.Spans
import Moh.Library.Table
import Moh.Library.Transaction
import Moh.Library.Unicode
import Moh.Library.Utf8
import Moh.Library.Utf8Stream
import Moh.Library.Watch
import Moh.Local.Ownership
import Moh.Local.Socket
import Moh.Local.Undisturbed
import Moh.Rpc.Causes
import Moh.Rpc.Client
import Moh.Rpc.Convert
import Moh.Rpc.Pump
import Moh.Rpc.Recovery
import Moh.Rpc.Replica
import Moh.Rpc.RoundTrip
import Moh.Rpc.Wire
import Moh.Session.Actor
import Moh.Session.ActorLoop
import Moh.Session.Agreement
import Moh.Session.Books
import Moh.Session.ControlSequences
import Moh.Session.Delete
import Moh.Session.Deletion
import Moh.Session.Durability
import Moh.Session.Effect
import Moh.Session.Error
import Moh.Session.Evolution
import Moh.Session.FirstTurn
import Moh.Session.Frame
import Moh.Session.Frozen
import Moh.Session.Gapless
import Moh.Session.Interrupted
import Moh.Session.Manager
import Moh.Session.Materialize
import Moh.Session.Migrated
import Moh.Session.Migration
import Moh.Session.Observers
import Moh.Session.Plan
import Moh.Session.Projection
import Moh.Session.Reachable
import Moh.Session.Registry
import Moh.Session.RoundTrip
import Moh.Session.Sane
import Moh.Session.SanitizedTitle
import Moh.Session.Schema
import Moh.Session.Store
import Moh.Session.Stream
import Moh.Session.Tables
import Moh.Session.Title
import Moh.Session.TitleFrame
import Moh.Session.Titles
import Moh.Session.Tracked
import Moh.Session.Types
import Moh.Session.World
import Moh.Tools.Allocation
import Moh.Tools.Anchors
import Moh.Tools.Authorisation
import Moh.Tools.Edit
import Moh.Tools.EditAnchors
import Moh.Tools.EditFailure
import Moh.Tools.Job
import Moh.Tools.JobLease
import Moh.Tools.JobLife
import Moh.Tools.JobRetention
import Moh.Tools.JobWait
import Moh.Tools.Lines
import Moh.Tools.Matching
import Moh.Tools.Observations
import Moh.Tools.Output
import Moh.Tools.OutputReader
import Moh.Tools.Overwrite
import Moh.Tools.Read
import Moh.Tools.Stability
import Moh.Tools.State
import Moh.Tools.Supervisor
import Moh.Tools.Text
import Moh.Tools.Workbench
import Moh.Tools.Write
