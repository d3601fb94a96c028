import Tftp.Decimal.Shortest
import Tftp.Number
import Tftp.Text.Basic
import Tftp.Text.Printable
import Tftp.Value
import Tftp.Value.Literal
import Tftp.Text.Latin1
import Tftp.Protocol
import Tftp.Fault
import Tftp.Value.Arithmetic
import Tftp.Packet.Basic
import Tftp.Packet.Encode
import Tftp.Packet.Decode
import Tftp.Packet.Draft
import Tftp.RetryPolicy
import Tftp.Address
import Tftp.Text.CodeTable
import Tftp.Text.Stringprep
import Tftp.Text.Normalization
import Tftp.Text.Nameprep
import Tftp.Text.Punycode
import Tftp.Text.Idna
import Tftp.Ip
import Tftp.Host
import Tftp.Pipe.Basic
import Tftp.Pipe.Script
import Tftp.Pipe.Pair
import Tftp.Session.Program
import Tftp.Session.Basic
import Tftp.Session.Sender
import Tftp.Session.Receiver
import Tftp.Session.Run
import Tftp.Simulation.Network
import Tftp.Simulation.World
import Tftp.Simulation.Transfer
import Tftp.Simulation.Threads
import Tftp.Client
import Tftp.Server
import Tftp.Simulation.Server
import Tftp.Proofs.Codec
import Tftp.Proofs.Grammar
import Tftp.Proofs.Reencode
import Tftp.Proofs.Runs
import Tftp.Proofs.Steps
import Tftp.Proofs.Exchanges
import Tftp.Proofs.Receiver.Steps
import Tftp.Proofs.Receiver.Rule
import Tftp.Proofs.Receiver.Invariant
import Tftp.Proofs.Receiver.Session
import Tftp.Proofs.Receiver.Closing
import Tftp.Proofs.Sender.Rule
import Tftp.Proofs.Sender.Steps
import Tftp.Proofs.Sender.Invariant
import Tftp.Proofs.Sender.Session
import Tftp.Proofs.Sender.Contract
import Tftp.Proofs.Frame
import Tftp.Proofs.Outcome
import Tftp.Proofs.Clock
import Tftp.Proofs.Receiver.Contract
import Tftp.Proofs.Pipe.Steps
import Tftp.Proofs.Pipe.Confluence
import Tftp.Proofs.Pipe.Determinacy
import Tftp.Proofs.Pipe.Advance
import Tftp.Proofs.Pipe.Conservation
import Tftp.Proofs.Pipe.Rendezvous
import Tftp.Proofs.Pipe.Closing
import Tftp.Proofs.Transfer.Blocks
import Tftp.Proofs.Transfer.Safety
import Tftp.Proofs.Timer.Timeline
import Tftp.Proofs.Timer.Steps
import Tftp.Proofs.Timer.Session
import Tftp.Proofs.Timer.Run
import Tftp.Proofs.Timer.Silence
import Tftp.Proofs.Progress.Exact
import Tftp.Proofs.Progress.Steps
import Tftp.Proofs.Progress.Fuel
import Tftp.Proofs.Progress.Termination
import Tftp.Proofs.Threads.Calls
import Tftp.Proofs.Reach
import Tftp.Proofs.Dropped
import Tftp.Proofs.Dally
import Tftp.Proofs.Timer.Unheeded
import Tftp.Proofs.Pinning
import Tftp.Proofs.ErrorReport
import Tftp.Proofs.Dispatch
import Tftp.Proofs.Pipe.Feed
import Tftp.Proofs.Sender.Gathering
import Tftp.Proofs.Stats.Run
import Tftp.Proofs.Threads.Embedding
import Tftp.Proofs.Threads.Closing
import Tftp.Proofs.Threads.Interleaving
import Tftp.Proofs.Threads.Schedule
import Tftp.Proofs.Scaling.Session
import Tftp.Proofs.Scaling.World
