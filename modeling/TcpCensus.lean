import TcpCensus.Address
import TcpCensus.Alignment
import TcpCensus.Attribute
import TcpCensus.Attribute.Header
import TcpCensus.Bytes
import TcpCensus.CommandLine.Census
import TcpCensus.CommandLine.Options
import TcpCensus.CommandLine.Report
import TcpCensus.Diag.DiagRecord
import TcpCensus.Diag.DumpRequest
import TcpCensus.Diag.SocketId
import TcpCensus.Dump
import TcpCensus.Dump.Reply
import TcpCensus.Duration
import TcpCensus.Envelope
import TcpCensus.Envelope.Acknowledgement
import TcpCensus.Envelope.Header
import TcpCensus.Errno
import TcpCensus.Error
import TcpCensus.Family
import TcpCensus.Link
import TcpCensus.Main
import TcpCensus.Message
import TcpCensus.Note
import TcpCensus.Proofs.Arguments
import TcpCensus.Proofs.Batching
import TcpCensus.Proofs.Capacity
import TcpCensus.Proofs.Contract
import TcpCensus.Proofs.Decoding
import TcpCensus.Proofs.Doubling
import TcpCensus.Proofs.Drafts
import TcpCensus.Proofs.Exhaustion
import TcpCensus.Proofs.Fields
import TcpCensus.Proofs.FirstFailure
import TcpCensus.Proofs.Freshness
import TcpCensus.Proofs.Framing
import TcpCensus.Proofs.Growth
import TcpCensus.Proofs.Guarded
import TcpCensus.Proofs.History
import TcpCensus.Proofs.InTurn
import TcpCensus.Proofs.Isolation
import TcpCensus.Proofs.Layout
import TcpCensus.Proofs.Meaning
import TcpCensus.Proofs.Messages
import TcpCensus.Proofs.Overlong
import TcpCensus.Proofs.Readers
import TcpCensus.Proofs.Receiving
import TcpCensus.Proofs.Recovery
import TcpCensus.Proofs.Reports
import TcpCensus.Proofs.Request
import TcpCensus.Proofs.RoundTrip
import TcpCensus.Proofs.Rounds
import TcpCensus.Proofs.Rows
import TcpCensus.Proofs.Shelf
import TcpCensus.Proofs.Statistics
import TcpCensus.Proofs.Timeouts
import TcpCensus.Proofs.Truncation
import TcpCensus.Sample
import TcpCensus.Session
import TcpCensus.Socket
import TcpCensus.Socket.Kernel
import TcpCensus.Socket.ReceiveBuffer
import TcpCensus.Socket.Timeout
import TcpCensus.Store
import TcpCensus.Store.Allocator
import TcpCensus.TcpInfo
import TcpCensus.TcpInfo.Block
import TcpCensus.TcpState
import TcpCensus.Text.Decimal
import TcpCensus.Text.Hex
import TcpCensus.Text.Json
import TcpCensus.Text.Visible
