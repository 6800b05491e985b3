import MatterKit.Messaging.Reject
import MatterKit.Messaging.Replay
import MatterKit.Messaging.Routing
import MatterKit.Messaging.Progress
import MatterKit.Dm.EventLog
import MatterKit.Dm.Changes
import MatterKit.Im.Atomic
import MatterKit.Im.EventFeed
import MatterKit.Im.Reported
import MatterKit.Im.Malformed
import MatterKit.Im.Versions
import MatterKit.Sc.Guessing
import MatterKit.Sc.SessionIds
import MatterKit.Clusters.Completion
import MatterKit.Clusters.Lifecycle
import MatterKit.Group.Wire
import MatterKit.Transport.Reassembly
import MatterKit.Transport.Quiet
import MatterKit.Clusters.SceneRuns
import MatterKit.Transport.Tcp
import MatterKit.Icd.Arrivals
import MatterKit.Clusters.AdministratorCommissioning
import MatterKit.Commissioning.Commissioner
import MatterKit.Exchange.Ladder
import MatterKit.Messaging.Owed
import MatterKit.Im.Client
import MatterKit.Sc.Stranger
import MatterKit.Clusters.IcdRegistrations
import MatterKit.Msg.Window
import MatterKit.Tlv.TlvList
import MatterKit.Im.Wildcard
import MatterKit.Im.Subscriber
import MatterKit.Im.Timing
import MatterKit.Im.Room
import MatterKit.Clusters.NetworkRollback
import MatterKit.Im.Timed
import MatterKit.Im.Damaged
import MatterKit.Dm.Expand
import MatterKit.Bdx.Skips
import MatterKit.Clusters.Atomic
import MatterKit.Clusters.FailedCommands
import MatterKit.Commissioning.Verhoeff
import MatterKit.Dm.Conformance
import MatterKit.Discovery.Storm
import MatterKit.Discovery.Dns
import MatterKit.Messaging.Nonces
