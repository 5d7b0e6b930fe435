import PhotonTCP.Foundation.Dict
import PhotonTCP.Foundation.Transition
import PhotonTCP.Foundation.Mealy
import PhotonTCP.Foundation.Raising
import PhotonTCP.Foundation.Batches
import PhotonTCP.Foundation.SerialSpace
import PhotonTCP.Foundation.LossWindow
import PhotonTCP.Foundation.Smoothing
import PhotonTCP.Foundation.Generator
import PhotonTCP.Foundation.Threads
import PhotonTCP.Foundation.Base64
import PhotonTCP.Foundation.Grid
import PhotonTCP.Packet.Header
import PhotonTCP.Packet.WireFormat
import PhotonTCP.Packet.Corruption
import PhotonTCP.Channel.Loopback
import PhotonTCP.Channel.Reorder
import PhotonTCP.Channel.Pair
import PhotonTCP.Reliability.Arq
import PhotonTCP.Reliability.Sender
import PhotonTCP.Reliability.Receiver
import PhotonTCP.Reliability.Packable
import PhotonTCP.Reliability.PayloadLimit
import PhotonTCP.Reliability.Network
import PhotonTCP.Reliability.History
import PhotonTCP.Reliability.Holes
import PhotonTCP.Reliability.Retransmissions
import PhotonTCP.Reliability.Window
import PhotonTCP.Reliability.Completeness
import PhotonTCP.Reliability.Drain
import PhotonTCP.Reliability.Envelope
import PhotonTCP.Reliability.SerialOrder
import PhotonTCP.Reliability.Queue
import PhotonTCP.Stream.Mux
import PhotonTCP.Stream.Packable
import PhotonTCP.Stream.StreamIds
import PhotonTCP.Stream.Isolation
import PhotonTCP.Stream.Pair
import PhotonTCP.Session.Restart
import PhotonTCP.Session.ControlLink
import PhotonTCP.Session.ControlTimers
import PhotonTCP.Session.Close
import PhotonTCP.Session.Handshake
import PhotonTCP.Session.Lifecycle
import PhotonTCP.Session.SequenceLimit
import PhotonTCP.Session.Duplicates
import PhotonTCP.Session.Pump
import PhotonTCP.Session.Routing
import PhotonTCP.Session.Calls
import PhotonTCP.Session.Sound
import PhotonTCP.Session.Hearing
import PhotonTCP.Session.Refusing
import PhotonTCP.Session.Reconnection
import PhotonTCP.Session.Duplex
import PhotonTCP.Session.Loopback
import PhotonTCP.Session.FrameSize
import PhotonTCP.App.Codec
import PhotonTCP.App.FileCodec
import PhotonTCP.App.Malformed
import PhotonTCP.App.Chat
import PhotonTCP.App.Received
import PhotonTCP.App.Refusing
import PhotonTCP.App.Conversation
import PhotonTCP.App.Transfer
import PhotonTCP.App.Sending
import PhotonTCP.App.Receiving
import PhotonTCP.App.Writing
import PhotonTCP.App.Delivery
import PhotonTCP.Optical.Dedup
import PhotonTCP.Optical.Threads
import PhotonTCP.Optical.Pair
import PhotonTCP.Optical.Peer
import PhotonTCP.Optical.Establishment
import PhotonTCP.Qr.Decode
import PhotonTCP.Qr.Backends
import PhotonTCP.Qr.AltKind
import PhotonTCP.Qr.Encode
import PhotonTCP.Qr.Codec
import PhotonTCP.Channel.ImageLoopback
import PhotonTCP.Session.ImageLink
import PhotonTCP.Mobile.Frames
import PhotonTCP.Mobile.Display
import PhotonTCP.Mobile.Camera
import PhotonTCP.Mobile.App
import PhotonTCP.Mobile.OneSession
import PhotonTCP.Mobile.Stop
