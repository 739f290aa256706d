import RemoteCrowd.Client
import RemoteCrowd.CommandLine.Client
import RemoteCrowd.CommandLine.Server
import RemoteCrowd.Command.Codec
import RemoteCrowd.Command.Variable
import RemoteCrowd.Config
import RemoteCrowd.Json.Record
import RemoteCrowd.Main
import RemoteCrowd.Reply.Codec
import RemoteCrowd.Service.Conversation
import RemoteCrowd.Session.Eager
import RemoteCrowd.Simulation.Rehearsal
import RemoteCrowd.Value.Buffer
import RemoteCrowd.Wire.Stream
import RemoteCrowd.CommandLine.Item
import RemoteCrowd.Proofs.Wire.Acceptance
import RemoteCrowd.Proofs.Wire.Counted
import RemoteCrowd.Proofs.OpcodeTable
import RemoteCrowd.Proofs.ValueCodec
import RemoteCrowd.Proofs.CommandCodec
import RemoteCrowd.Proofs.Wire.Framing
import RemoteCrowd.Proofs.Outcome
import RemoteCrowd.Proofs.Wire.Composition
import RemoteCrowd.Proofs.Wire.Malformed
import RemoteCrowd.Proofs.Wire.Truncation
import RemoteCrowd.Proofs.ValueWriting
import RemoteCrowd.Proofs.OutsideProtocol
import RemoteCrowd.Proofs.ReplyCodec
import RemoteCrowd.Proofs.Wire.Streams
import RemoteCrowd.Proofs.Service.Answers
import RemoteCrowd.Proofs.Request
import RemoteCrowd.Proofs.Service.Composition
import RemoteCrowd.Proofs.Service.Exchange
import RemoteCrowd.Proofs.Session.Actions
import RemoteCrowd.Proofs.Session.Coherence
import RemoteCrowd.Proofs.Session.Serial
import RemoteCrowd.Proofs.Session.Replacement
import RemoteCrowd.Proofs.Session.Refinement
import RemoteCrowd.Proofs.Session.Alone
import RemoteCrowd.Session.Ledger
import RemoteCrowd.Session.Listener
import RemoteCrowd.Proofs.Packet
import RemoteCrowd.Proofs.PacketOfReplies
import RemoteCrowd.Proofs.Service.Conversation
import RemoteCrowd.Proofs.Service.Refusal
import RemoteCrowd.Proofs.Wire.Splitting
import RemoteCrowd.Proofs.Wire.Decomposition
import RemoteCrowd.Proofs.Wire.Reads
import RemoteCrowd.Proofs.Service.Batching
import RemoteCrowd.Proofs.Simulation.Course
import RemoteCrowd.Proofs.Simulation.Walking
import RemoteCrowd.Proofs.Simulation.Target
import RemoteCrowd.Proofs.Service.Lifetime
import RemoteCrowd.Proofs.Session.Listening
import RemoteCrowd.Proofs.Session.Errands
import RemoteCrowd.Proofs.OpcodeAssignment
import RemoteCrowd.Proofs.Simulation.Start
import RemoteCrowd.Proofs.Service.Persons
import RemoteCrowd.Proofs.Service.Calls
