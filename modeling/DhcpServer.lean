import DhcpServer.Address.Endpoint
import DhcpServer.Address.Ipv4
import DhcpServer.Address.Ipv6
import DhcpServer.Answers
import DhcpServer.BigEndian
import DhcpServer.BindAddress
import DhcpServer.Block
import DhcpServer.Bytes
import DhcpServer.CommandLine
import DhcpServer.CommandLine.Choice
import DhcpServer.CommandLine.ThreadCount
import DhcpServer.Connection
import DhcpServer.Daemon
import DhcpServer.Errno
import DhcpServer.Event
import DhcpServer.Failure
import DhcpServer.HardwareAddress
import DhcpServer.Header
import DhcpServer.HexText
import DhcpServer.Link
import DhcpServer.Link.Transfer
import DhcpServer.Listen
import DhcpServer.Log
import DhcpServer.Main
import DhcpServer.Message
import DhcpServer.MessageType
import DhcpServer.OptionArea
import DhcpServer.OptionCode
import DhcpServer.OptionMap
import DhcpServer.Packet
import DhcpServer.Packet.Edit
import DhcpServer.Proofs.Area.Cells
import DhcpServer.Proofs.Area.Gathering
import DhcpServer.Proofs.Area.Layout
import DhcpServer.Proofs.Area.Scan
import DhcpServer.Proofs.Area.Written
import DhcpServer.Proofs.CommandLine.Numerals
import DhcpServer.Proofs.Daemon.HandingOn
import DhcpServer.Proofs.Daemon.LogDestination
import DhcpServer.Proofs.Daemon.Requests
import DhcpServer.Proofs.Daemon.Serving
import DhcpServer.Proofs.Daemon.SetUp
import DhcpServer.Proofs.Daemon.Termination
import DhcpServer.Proofs.Datagram.Changed
import DhcpServer.Proofs.Datagram.Decoding
import DhcpServer.Proofs.Datagram.Fields
import DhcpServer.Proofs.Datagram.Meaning
import DhcpServer.Proofs.Datagram.Places
import DhcpServer.Proofs.Datagram.RoundTrip
import DhcpServer.Proofs.Datagram.WireForms
import DhcpServer.Proofs.Link.Binding
import DhcpServer.Proofs.Link.Calls
import DhcpServer.Proofs.Link.Delivering
import DhcpServer.Proofs.Link.GoingThrough
import DhcpServer.Proofs.Link.Operations
import DhcpServer.Proofs.Link.Preparing
import DhcpServer.Proofs.Link.Reading
import DhcpServer.Proofs.Link.Sending
import DhcpServer.Proofs.Link.SettingUp
import DhcpServer.Proofs.Link.Stages
import DhcpServer.Proofs.Reply.Echo
import DhcpServer.Proofs.Reply.Faults
import DhcpServer.Proofs.Reply.Kept
import DhcpServer.Proofs.Reply.OnTheWire
import DhcpServer.Proofs.Reply.Rules
import DhcpServer.Proofs.Reply.Size
import DhcpServer.Proofs.Reply.Writing
import DhcpServer.Proofs.RequestLog.HardwareAddresses
import DhcpServer.Proofs.RequestLog.Lines
import DhcpServer.Proofs.RequestLog.Text
import DhcpServer.Proofs.Run
import DhcpServer.Proofs.Server.Addressing
import DhcpServer.Proofs.Server.ClientMessages
import DhcpServer.Proofs.Server.Handling
import DhcpServer.Proofs.Server.Listening
import DhcpServer.Proofs.Server.Replies
import DhcpServer.Proofs.Server.Serving
import DhcpServer.Proofs.Server.Turns
import DhcpServer.Proofs.Server.Undisturbed
import DhcpServer.Proofs.Server.Watching
import DhcpServer.Proofs.Server.WholeRun
import DhcpServer.Reply
import DhcpServer.Reply.Delivery
import DhcpServer.Reply.Script
import DhcpServer.RequestLog
import DhcpServer.Run
import DhcpServer.Server
import DhcpServer.Verdict
