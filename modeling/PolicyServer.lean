import PolicyServer.Lib.Loop
import PolicyServer.Lib.Memory
import PolicyServer.Lib.System
import PolicyServer.Lib.Disk
import PolicyServer.Pack
import PolicyServer.Objects
import PolicyServer.Pcmm
import PolicyServer.Cops
import PolicyServer.Report
import PolicyServer.ReportWalk
import PolicyServer.ReportSkipping
import PolicyServer.ReportDelivery
import PolicyServer.Socket
import PolicyServer.Receive
import PolicyServer.Framing
import PolicyServer.Dispatch
import PolicyServer.Fragmentation
import PolicyServer.Connect
import PolicyServer.Admission
import PolicyServer.HandleFreshness
import PolicyServer.SessionThread
import PolicyServer.AdmittedDecisions
import PolicyServer.GateRequests
import PolicyServer.ResponseMatching
import PolicyServer.Conf
import PolicyServer.Lcm
import PolicyServer.Routes
import PolicyServer.TableCapacity
import PolicyServer.Handlers
import PolicyServer.ConnectRaces
import PolicyServer.ClearRaces
import PolicyServer.FreedSessions
import PolicyServer.MessageSequences
import PolicyServer.Progress
import PolicyServer.KeepAlives
import PolicyServer.Lib.Buffer
import PolicyServer.Walk
import PolicyServer.Address
import PolicyServer.GateMessages
import PolicyServer.GatePolicy
import PolicyServer.PolicyPayload
import PolicyServer.WireDeterminism
import PolicyServer.Lib.Words
import PolicyServer.OutgoingStream
import PolicyServer.Lib.Descriptors
import PolicyServer.DescriptorOwnership
import PolicyServer.ParserTermination
import PolicyServer.Lib.Reading
import PolicyServer.ParserReads
import PolicyServer.ReceiveCounts
import PolicyServer.Resynchronisation
import PolicyServer.ReportFold
import PolicyServer.RoundTrips
import PolicyServer.ServiceClassName
import PolicyServer.Ipv6Literals
import PolicyServer.Ipv6Packing
import PolicyServer.Lib.Writing
import PolicyServer.ConfinedWrites
import PolicyServer.Lib.JsonText
import PolicyServer.Lib.Numerals
import PolicyServer.Answers
import PolicyServer.HandlerAnswers
import PolicyServer.MissingStrings
import PolicyServer.DryRuns
import PolicyServer.ErrorBodies
import PolicyServer.ReportBuffers
import PolicyServer.ReportBodies
import PolicyServer.SessionLoop
import PolicyServer.ConnectionFlag
import PolicyServer.KilledSessions
import PolicyServer.LostConnections
import PolicyServer.Lib.BoundedMap
import PolicyServer.ConnectionMap
import PolicyServer.ConnectOutcomes
import PolicyServer.SharedTokens
import PolicyServer.ConcatenatedWrites
import PolicyServer.PeerMessages
import PolicyServer.Conversation
import PolicyServer.CarriedMessages
import PolicyServer.AnsweredDecisions
import PolicyServer.ReturnedBodies
import PolicyServer.RequestedGates
import PolicyServer.Lib.Assignments
import PolicyServer.Configuration
import PolicyServer.Housekeeping
import PolicyServer.Startup
import PolicyServer.Lib.Allowances
import PolicyServer.ErrorLog
