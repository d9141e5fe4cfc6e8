import LeastPrivilege.Aggregation
import LeastPrivilege.Broker
import LeastPrivilege.Cluster.Access
import LeastPrivilege.Cluster.Api
import LeastPrivilege.Command.Options
import LeastPrivilege.Command.Run
import LeastPrivilege.Command.Session
import LeastPrivilege.Command.Task
import LeastPrivilege.Command.Usage
import LeastPrivilege.Console
import LeastPrivilege.Console.CellWidth
import LeastPrivilege.Console.Emoji
import LeastPrivilege.Console.EmojiNames
import LeastPrivilege.Console.Grapheme
import LeastPrivilege.Console.Literal
import LeastPrivilege.Console.Literal.Name
import LeastPrivilege.Console.Literal.Token
import LeastPrivilege.Console.Marked
import LeastPrivilege.Console.Markup
import LeastPrivilege.Console.Style
import LeastPrivilege.Console.Table
import LeastPrivilege.Fault
import LeastPrivilege.FilePath
import LeastPrivilege.FileTree
import LeastPrivilege.Flow
import LeastPrivilege.Identity
import LeastPrivilege.Identity.Reading
import LeastPrivilege.Inquiry
import LeastPrivilege.Json.Reader
import LeastPrivilege.Json.Writer
import LeastPrivilege.Lookup
import LeastPrivilege.Main
import LeastPrivilege.Manifest.CiliumNetworkPolicy
import LeastPrivilege.Manifest.NetworkPolicy
import LeastPrivilege.Manifest.Node
import LeastPrivilege.Notice
import LeastPrivilege.Number.Double
import LeastPrivilege.Number.Reading
import LeastPrivilege.Number.Shortest
import LeastPrivilege.Outlet
import LeastPrivilege.Peer.Resolution
import LeastPrivilege.Policy
import LeastPrivilege.Policy.Batch
import LeastPrivilege.Policy.Generation
import LeastPrivilege.Policy.Rendering
import LeastPrivilege.Rule
import LeastPrivilege.Seccomp.Profile
import LeastPrivilege.Seccomp.Recorded
import LeastPrivilege.Selector
import LeastPrivilege.Settings
import LeastPrivilege.Text
import LeastPrivilege.Text.Blank
import LeastPrivilege.Text.Case
import LeastPrivilege.Text.CaseRanges
import LeastPrivilege.Text.CharacterName
import LeastPrivilege.Text.CharacterNames.AToB
import LeastPrivilege.Text.CharacterNames.C
import LeastPrivilege.Text.CharacterNames.DToK
import LeastPrivilege.Text.CharacterNames.LToM
import LeastPrivilege.Text.CharacterNames.NToS
import LeastPrivilege.Text.CharacterNames.TToZ
import LeastPrivilege.Text.Digits
import LeastPrivilege.Text.HalfPair
import LeastPrivilege.Text.Quoted
import LeastPrivilege.Text.Similar
import LeastPrivilege.Text.Split
import LeastPrivilege.Text.Utf8
import LeastPrivilege.Text.WordChar
import LeastPrivilege.Tunnel
import LeastPrivilege.Value
import LeastPrivilege.Value.Shown
import LeastPrivilege.Yaml.Page
import LeastPrivilege.Yaml.Reserved
import LeastPrivilege.Yaml.Style
import LeastPrivilege.Yaml.Writer
import LeastPrivilege.Proofs.Run
import LeastPrivilege.Proofs.World
import LeastPrivilege.Proofs.Aggregation
import LeastPrivilege.Proofs.Peers
import LeastPrivilege.Proofs.Decimal
import LeastPrivilege.Proofs.Manifest
import LeastPrivilege.Proofs.Generation
import LeastPrivilege.Proofs.Grouping
import LeastPrivilege.Proofs.Admission
import LeastPrivilege.Proofs.PeerKnowledge
import LeastPrivilege.Proofs.FileTree
import LeastPrivilege.Proofs.Site
import LeastPrivilege.Proofs.TypedWorld
import LeastPrivilege.Proofs.Batch
import LeastPrivilege.Proofs.Parity
import LeastPrivilege.Proofs.Subject
import LeastPrivilege.Proofs.Tallies
import LeastPrivilege.Proofs.Address
import LeastPrivilege.Proofs.Blocks
import LeastPrivilege.Proofs.Order
import LeastPrivilege.Proofs.FileNames
import LeastPrivilege.Proofs.Ending
import LeastPrivilege.Proofs.ClusterAccess
import LeastPrivilege.Proofs.TunnelLife
import LeastPrivilege.Proofs.Rounding
import LeastPrivilege.Proofs.TunnelWait
import LeastPrivilege.Proofs.Document
import LeastPrivilege.Proofs.BrokerReply
import LeastPrivilege.Proofs.PeerLookups
import LeastPrivilege.Proofs.PeerBook
import LeastPrivilege.Proofs.StillOutside
import LeastPrivilege.Proofs.SessionLookups
import LeastPrivilege.Proofs.IdlePods
import LeastPrivilege.Proofs.Encoding
import LeastPrivilege.Proofs.ReadablePath
import LeastPrivilege.Proofs.ShownLines
import LeastPrivilege.Proofs.Startup
import LeastPrivilege.Proofs.EveryNamespace
import LeastPrivilege.Proofs.ProfileFiles
import LeastPrivilege.Proofs.StandingAnswers
import LeastPrivilege.Proofs.Replay
import LeastPrivilege.Proofs.OwnerChain
import LeastPrivilege.Proofs.ResolutionOrder
import LeastPrivilege.Proofs.ClusterReplies
import LeastPrivilege.Proofs.PodReadings
import LeastPrivilege.Proofs.Trimming
import LeastPrivilege.Proofs.RecordedProfile
import LeastPrivilege.Proofs.RunResults
import LeastPrivilege.Proofs.ShownTables
import LeastPrivilege.Proofs.ExitStatus
import LeastPrivilege.Proofs.FilePlaces
import LeastPrivilege.Proofs.PolicyFiles
import LeastPrivilege.Proofs.OutputPlaces
import LeastPrivilege.Proofs.PolicyNames
import LeastPrivilege.Proofs.PortNumerals
import LeastPrivilege.Proofs.RequestAddresses
import LeastPrivilege.Proofs.WrittenDocuments
import LeastPrivilege.Proofs.ProfileText
