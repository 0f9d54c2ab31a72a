import UcxPlayground.Async.Signals
import UcxPlayground.Async.Waiters
import UcxPlayground.Endpoint.Completion
import UcxPlayground.Endpoint.Framing
import UcxPlayground.Endpoint.Lifecycle
import UcxPlayground.Endpoint.Value
import UcxPlayground.Listener
import UcxPlayground.ClientServer.Channels
import UcxPlayground.ClientServer.Client
import UcxPlayground.ClientServer.Fin
import UcxPlayground.ClientServer.Delivery
import UcxPlayground.ClientServer.Completion
import UcxPlayground.ClientServer.Output
import UcxPlayground.ClientServer.Admission
import UcxPlayground.ClientServer.ExitStatus
import UcxPlayground.ClientServer.Service
import UcxPlayground.Async.Resumes
import UcxPlayground.Server.Failures
import UcxPlayground.Client.Progress
import UcxPlayground.Wrappers.Balance
import UcxPlayground.HelloWorld.Decoding
import UcxPlayground.HelloWorld.ReceiveLoop
import UcxPlayground.HelloWorld.ExitStatus
import UcxPlayground.HelloWorld.Network
import UcxPlayground.HelloWorld.Completion
import UcxPlayground.HelloWorld.Requests
import UcxPlayground.HelloWorld.Teardown
import UcxPlayground.Async.Pairing
import UcxPlayground.Async.FirstValue
import UcxPlayground.Async.Presence
import UcxPlayground.HelloWorld.Connect
import UcxPlayground.HelloWorld.OobAddress
import UcxPlayground.Arguments.Support
import UcxPlayground.Arguments.CommandLine
import UcxPlayground.Arguments.SocketAddress
import UcxPlayground.ClientServer.Transfer
import UcxPlayground.ClientServer.Eager
import UcxPlayground.ClientServer.TestData
import UcxPlayground.Sockaddr.Printing
import UcxPlayground.Sockaddr.RoundTrip
