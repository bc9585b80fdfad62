import DebugSession.Breakpoint.Basic
import DebugSession.Breakpoint.HitCondition
import DebugSession.Debuggee.Basic
import DebugSession.Debuggee.Calls
import DebugSession.Debuggee.Description
import DebugSession.Debuggee.Faults
import DebugSession.Error
import DebugSession.Framing
import DebugSession.Json.Basic
import DebugSession.Json.Entry
import DebugSession.Json.Parser
import DebugSession.Json.Reader
import DebugSession.Json.Record
import DebugSession.Line
import DebugSession.Logical.Basic
import DebugSession.Number.Binary
import DebugSession.Number.Decimal
import DebugSession.Number.Numeral
import DebugSession.Number.Power
import DebugSession.Pool
import DebugSession.Proofs.Abiding
import DebugSession.Proofs.Accounts
import DebugSession.Proofs.Alignment
import DebugSession.Proofs.Assignment
import DebugSession.Proofs.Attendance
import DebugSession.Proofs.Bookkeeping
import DebugSession.Proofs.Complaints
import DebugSession.Proofs.Completion
import DebugSession.Proofs.Consistency
import DebugSession.Proofs.Deaths
import DebugSession.Proofs.Detachment
import DebugSession.Proofs.Elements
import DebugSession.Proofs.Endings
import DebugSession.Proofs.FieldNames
import DebugSession.Proofs.Finality
import DebugSession.Proofs.Following
import DebugSession.Proofs.Forms
import DebugSession.Proofs.FrameIds
import DebugSession.Proofs.Grammar
import DebugSession.Proofs.HitConditions
import DebugSession.Proofs.HitHistories
import DebugSession.Proofs.Hits
import DebugSession.Proofs.Identity
import DebugSession.Proofs.Isolation
import DebugSession.Proofs.Lineage
import DebugSession.Proofs.Meanwhile
import DebugSession.Proofs.Naming
import DebugSession.Proofs.Pages
import DebugSession.Proofs.Paging
import DebugSession.Proofs.Patience
import DebugSession.Proofs.PoolHistories
import DebugSession.Proofs.Portrayal
import DebugSession.Proofs.Readback
import DebugSession.Proofs.Rebuild
import DebugSession.Proofs.Refetching
import DebugSession.Proofs.Refusals
import DebugSession.Proofs.Removals
import DebugSession.Proofs.Resumption
import DebugSession.Proofs.Retries
import DebugSession.Proofs.Rewatching
import DebugSession.Proofs.RoundTrip
import DebugSession.Proofs.Services
import DebugSession.Proofs.SourceRoots
import DebugSession.Proofs.Spellings
import DebugSession.Proofs.Stability
import DebugSession.Proofs.StepMachines
import DebugSession.Proofs.StepRequests
import DebugSession.Proofs.Streams
import DebugSession.Proofs.Strides
import DebugSession.Proofs.Supertypes
import DebugSession.Proofs.Timely
import DebugSession.Proofs.Transparency
import DebugSession.Proofs.Truncation
import DebugSession.Proofs.Turnover
import DebugSession.Proofs.Turns
import DebugSession.Proofs.Upkeep
import DebugSession.Protocol.Arguments
import DebugSession.Protocol.Basic
import DebugSession.Protocol.Event
import DebugSession.Protocol.Forms
import DebugSession.Protocol.Message
import DebugSession.Protocol.Results
import DebugSession.Remote.Call
import DebugSession.Remote.Error
import DebugSession.Remote.Form
import DebugSession.Remote.Request
import DebugSession.Remote.Trace
import DebugSession.Server.Basic
import DebugSession.Server.Handler
import DebugSession.Server.Pump
import DebugSession.Server.Request
import DebugSession.Session.Breakpoints
import DebugSession.Session.Call
import DebugSession.Session.Control
import DebugSession.Session.DataBreakpoints
import DebugSession.Session.Evaluation
import DebugSession.Session.Format
import DebugSession.Session.Frames
import DebugSession.Session.Inspection
import DebugSession.Session.Listing
import DebugSession.Session.Logical
import DebugSession.Session.State
import DebugSession.Session.Stepping
import DebugSession.Session.Suspensions
import DebugSession.Session.Turn
import DebugSession.Settings.Basic
import DebugSession.Settings.Document
import DebugSession.Settings.Form
import DebugSession.Settings.Locations
import DebugSession.Signature
import DebugSession.Source.Lookup
import DebugSession.Source.Path
import DebugSession.Stepping
import DebugSession.Suspension
import DebugSession.Table
import DebugSession.Task
import DebugSession.Text.Blank
import DebugSession.Text.Escape
import DebugSession.Text.Letter
import DebugSession.Text.Printable
import DebugSession.Text.Utf8
import DebugSession.ThreadCache
import DebugSession.Toml.Basic
import DebugSession.Toml.Parser
import DebugSession.Value
import DebugSession.Value.Form
import DebugSession.Variable.Basic
import DebugSession.Variable.Container
import DebugSession.Variable.Format
