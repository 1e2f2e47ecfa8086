import QuickFix.Connection.Authenticated
import QuickFix.Connection.Clean
import QuickFix.Connection.Paired
import QuickFix.Connection.RefusedLogon
import QuickFix.Connection.Unauthenticated
import QuickFix.Counters.Range
import QuickFix.Counters.Written
import QuickFix.Delivery.Order
import QuickFix.Delivery.Refused
import QuickFix.Delivery.Replay
import QuickFix.Delivery.Skipped
import QuickFix.Engine.Attachment
import QuickFix.Engine.Connections
import QuickFix.Engine.Invariant
import QuickFix.Engine.Streams
import QuickFix.Lib.Bytes
import QuickFix.Lib.Framer
import QuickFix.Lib.Fuel
import QuickFix.Lib.Largest
import QuickFix.Lib.Ranged
import QuickFix.Lib.Runs
import QuickFix.Lib.SeqMap
import QuickFix.Lib.Service
import QuickFix.Lib.Simulation
import QuickFix.Lib.StableSort
import QuickFix.Lib.Text
import QuickFix.Lib.Tiling
import QuickFix.Network.Arrivals
import QuickFix.Network.Complete
import QuickFix.Network.Frames
import QuickFix.Network.Order
import QuickFix.Network.Peers
import QuickFix.Network.Sockets
import QuickFix.Recovery.Chunks
import QuickFix.Recovery.Coverage
import QuickFix.Recovery.Drain
import QuickFix.Recovery.Epochs
import QuickFix.Recovery.Turns
import QuickFix.Refinement.Crashes
import QuickFix.Refinement.Lockstep
import QuickFix.Refinement.Restarts
import QuickFix.Resend.Fidelity
import QuickFix.Resend.Inside
import QuickFix.Resend.Tiling
import QuickFix.Schedule.Occurrence
import QuickFix.Schedule.Parsing
import QuickFix.Sending.Gate
import QuickFix.Sending.Numbering
import QuickFix.Sending.Rejects
import QuickFix.Sending.ResetFlag
import QuickFix.Session.Config
import QuickFix.Session.Inbound
import QuickFix.Session.Outbound
import QuickFix.Session.Run
import QuickFix.Session.Schedule
import QuickFix.Session.Script
import QuickFix.Session.State
import QuickFix.Steps.Acts
import QuickFix.Steps.Handlers
import QuickFix.Steps.History
import QuickFix.Steps.Idle
import QuickFix.Steps.Inbound
import QuickFix.Steps.Kept
import QuickFix.Steps.Outbound
import QuickFix.Steps.Refusals
import QuickFix.Steps.Run
import QuickFix.Steps.Sites
import QuickFix.Steps.Triples
import QuickFix.Store.Basic
import QuickFix.Store.Capacity
import QuickFix.Store.Crash
import QuickFix.Store.Failure
import QuickFix.Store.Files
import QuickFix.Store.Isolation
import QuickFix.Store.Loading
import QuickFix.Store.Memory
import QuickFix.Store.Mirror
import QuickFix.Store.Quiet
import QuickFix.Store.Unharmed
import QuickFix.Timers.Heartbeat
import QuickFix.Timers.Progress
import QuickFix.Timers.Silence
import QuickFix.Wire.Accept
import QuickFix.Wire.AnswerSpec
import QuickFix.Wire.Bounds
import QuickFix.Wire.Canonical
import QuickFix.Wire.Closure
import QuickFix.Wire.Corruption
import QuickFix.Wire.DataDictionary
import QuickFix.Wire.DataFields
import QuickFix.Wire.FieldMap
import QuickFix.Wire.Fields
import QuickFix.Wire.FrameBounds
import QuickFix.Wire.Framing
import QuickFix.Wire.Front
import QuickFix.Wire.GroupCheck
import QuickFix.Wire.Groups
import QuickFix.Wire.HashOrder
import QuickFix.Wire.HeaderTags
import QuickFix.Wire.Integrity
import QuickFix.Wire.LoadEnds
import QuickFix.Wire.Loader
import QuickFix.Wire.Message
import QuickFix.Wire.Reject
import QuickFix.Wire.RoundTrip
import QuickFix.Wire.Stash
import QuickFix.Wire.Tags
import QuickFix.Wire.Tokens
import QuickFix.Wire.Value
import QuickFix.Wire.Walk
import QuickFix.Wire.WriteGroups
import QuickFix.Settings.Sections
import QuickFix.Settings.Typed
import QuickFix.Settings.RoundTrip
import QuickFix.Engine.Start
