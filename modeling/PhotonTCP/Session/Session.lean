import PhotonTCP.Session.StateMachine
import PhotonTCP.Stream.Mux

/-!
# The session driver

A session owns a state machine (the control path, on stream `0`) and a stream multiplexer (the data
path), and does their input and output: it hands them the frames that arrive, writes the packets
they answer with to the channel, and keeps what was delivered until the application asks for it.

Operations are computations on a `Session` that can raise.  An exception does not undo what was
done before it.

* `SessionM`, `SessionError` — such computations, and what they raise.
* `transmit`, `emit`, `emitMux` — output.
* `routePacket`, `drain`, `pump` — input.  The frames that `recv_frame` returns in the cycle, up to
  its first `None`, are an argument, each with the time that is read when it is routed.

Nothing about the channel is modelled here but what goes in and what comes out.  The frames of a
cycle are an argument of `pump`, so a run of two sessions may be given any frames in any order, and
what connects the two is said by whoever builds the run.  The frames that were written are kept in
the state for the same reason.

The order of things within a cycle decides what an exception leaves behind.  A frame that makes
`unpack` raise something other than a packet error ends the cycle before the timers are run, and
before the frames behind it are read, while everything done for the frames before it stays done.
-/

namespace PhotonTCP

/-- Packet types that are routed to the state machine; an ACK is, depending on the state. -/
def CONTROL_TYPES : List PacketType := [.Syn, .SynAck, .Fin, .FinAck, .Heartbeat]

/-- The names of the states. -/
def SessionState.value : SessionState → String
  | .Closed => "CLOSED"
  | .SynSent => "SYN_SENT"
  | .SynRcvd => "SYN_RCVD"
  | .Established => "ESTABLISHED"
  | .FinWait => "FIN_WAIT"
  | .CloseWait => "CLOSE_WAIT"

/-- What an operation can raise. -/
inductive SessionError where
  | PacketError (error : PacketError)
  | ValueError (text : String)
  | StructError
  | RuntimeError (text : String)
deriving DecidableEq

namespace SessionError

/-- What sending raises unless the connection is up. -/
def notEstablished (state : SessionState) : SessionError :=
  .RuntimeError s!"cannot send data: session is {state.value}, not ESTABLISHED"

/-- An error of the packet layer that is not caught. -/
def ofUnpack : UnpackError → SessionError
  | .PacketError error => .PacketError error
  | .ValueError text => .ValueError text
  | .StructError => .StructError

end SessionError

/-- A session, with the frames it has written to the channel so far. -/
structure Session where
  machine : SessionStateMachine
  mux : StreamMux
  recvBuffers : Dict ℤ (List Bytes) := Dict.empty
  transmitted : List Bytes := []

/-- Computations on a session. -/
abbrev SessionM := EStateM SessionError Session

namespace Session

/-- Packets of a stream that may be outstanding. -/
def DEFAULT_ARQ_WINDOW_SIZE : ℤ := 32
/-- Bytes in a chunk. -/
def DEFAULT_ARQ_MAX_PAYLOAD : ℤ := 200

/-- The constructor.  Every stream gets an estimator of its own, a clone of `rto`. -/
def create (isInitiator : Bool) (sessionId isn : ℤ)
    (heartbeatInterval : ℚ := DEFAULT_HEARTBEAT_INTERVAL)
    (idleTimeout : ℚ := DEFAULT_IDLE_TIMEOUT) (arqWindowSize : ℤ := DEFAULT_ARQ_WINDOW_SIZE)
    (arqMaxPayload : ℤ := DEFAULT_ARQ_MAX_PAYLOAD) (rto : RtoEstimator := {})
    (controlRto : ℚ := DEFAULT_CONTROL_RTO)
    (maxControlRetries : ℤ := DEFAULT_MAX_CONTROL_RETRIES) : Session where
  machine := { isInitiator, sessionId, isn, heartbeatInterval, idleTimeout, controlRto,
               maxControlRetries }
  mux := { sessionId, isInitiator, windowSize := arqWindowSize, maxPayload := arqMaxPayload,
           freshRto := rto.clone }

/-! ## The two engines

Lifting an operation of either engine to the session.  The state machine does not raise, and the
multiplexer may.
-/

/-- Let the state machine work. -/
def onMachine (f : SessionStateMachine → Output × SessionStateMachine) : SessionM Output :=
  modifyGet fun s => ((f s.machine).1, { s with machine := (f s.machine).2 })

/-- Let the multiplexer work.  What it raises is raised here. -/
def onMux {α : Type} (f : StreamMux → Except ValueError α × StreamMux) : SessionM α := do
  match ← modifyGet fun s => ((f s.mux).1, { s with mux := (f s.mux).2 }) with
  | .ok result => return result
  | .error text => throw (.ValueError text)

/-- Align the data path's session id with the negotiated one. -/
def syncSessionId : SessionM Unit :=
  modify fun s => { s with mux := s.mux.setSessionId s.machine.sessionId }

/-- The buffers after a delivery. -/
def extend (buffers delivered : Dict ℤ (List Bytes)) : Dict ℤ (List Bytes) :=
  delivered.entries.foldl
    (fun buffers e =>
      if e.2 = [] then buffers else buffers.set e.1 ((buffers.get? e.1).getD [] ++ e.2)) buffers

section Wire

variable (zlib : Bytes → ℕ)

/-! ## Output

A packet that cannot be packed raises here, after the engine that produced it has changed its state.
-/

/-- Write packets to the channel, in order. -/
def transmit : List Packet → SessionM Unit
  | [] => pure ()
  | pkt :: pkts => do
      match pkt.pack zlib with
      | none => throw .StructError
      | some frame => modify fun s => { s with transmitted := s.transmitted ++ [frame] }
      transmit pkts

/-- Transmit the state machine's packets and return its events. -/
def emit (out : Output) : SessionM (List SessionEvent) := do
  transmit zlib out.packets
  return out.events

/-- Transmit the multiplexer's packets and buffer what it delivers. -/
def emitMux (out : MuxOutput) : SessionM Unit := do
  transmit zlib out.packets
  modify fun s => { s with recvBuffers := extend s.recvBuffers out.delivered }

/-! ## The application's operations

Connecting and closing ask the state machine, and the others the multiplexer.  Sending is refused
unless the connection is up; opening a stream is not.
-/

/-- Begin the handshake. -/
def connect (now : ℚ) : SessionM (List SessionEvent) := do
  emit zlib (← onMachine fun m => m.connect now)

/-- Begin a graceful close. -/
def close (now : ℚ) : SessionM (List SessionEvent) := do
  emit zlib (← onMachine fun m => m.close now)

/-- Allocate a stream. -/
def openStream : SessionM ℤ := onMux StreamMux.openStream

/-- Queue `data` on a stream. -/
def sendOn (streamId : ℤ) (data : Bytes) (now : ℚ) : SessionM Unit := do
  let s ← get
  if s.machine.isEstablished then
    syncSessionId
    emitMux zlib (← onMux fun mux => mux.send streamId data now)
  else
    throw (.notEstablished s.machine.state)

/-- Take what was delivered on a stream. -/
def recvOn (streamId : ℤ) : SessionM (List Bytes) :=
  modifyGet fun s => ((s.recvBuffers.get? streamId).getD [],
    { s with recvBuffers := s.recvBuffers.erase streamId })

/-- Take what was delivered on all streams. -/
def recvAll : SessionM (Dict ℤ (List Bytes)) :=
  modifyGet fun s => (s.recvBuffers, { s with recvBuffers := Dict.empty })

/-- Acknowledged bytes of a stream. -/
def ackedBytes (s : Session) (streamId : ℤ) : ℕ := s.mux.ackedBytes streamId

/-! ## The pump

A packet goes to one of the two engines by its stream id.  For the control stream the type decides
whether the state machine sees it at all.
-/

/-- Route one parsed packet. -/
def routePacket (pkt : Packet) (now : ℚ) : SessionM (List SessionEvent) := do
  let s ← get
  if pkt.streamId = CONTROL_STREAM_ID then
    if pkt.type ∈ CONTROL_TYPES then
      emit zlib (← onMachine fun m => m.onPacket pkt now)
    else if pkt.type = .Ack then
      -- the ACK that completes the handshake
      if s.machine.state = .SynRcvd then
        emit zlib (← onMachine fun m => m.onPacket pkt now)
      else return []
    else return []
  else
    modify fun s => { s with machine := s.machine.noteDataActivity now }
    emitMux zlib (← onMux fun mux => mux.onPacket pkt now)
    return []

/-- Take frames until there are none or `maxFrames` have been taken.  A frame that does not parse is
dropped; only a `PacketError` is caught. -/
def drain (maxFrames : Option ℤ) : ℤ → List (Bytes × ℚ) → SessionM (List SessionEvent)
  | _, [] => pure []
  | processed, (frame, now) :: frames =>
      if maxFrames.all fun n => processed < n then
        match Packet.unpack zlib frame with
        | .error (.PacketError _) => drain maxFrames (processed + 1) frames
        | .error e => throw (.ofUnpack e)
        | .ok pkt => do
            let events ← routePacket zlib pkt now
            let more ← drain maxFrames (processed + 1) frames
            return events ++ more
      else pure []

/-- One cycle: the frames that have arrived, then both engines' timers. -/
def pump (maxFrames : Option ℤ) (frames : List (Bytes × ℚ)) (now now' : ℚ) :
    SessionM (List SessionEvent) := do
  syncSessionId
  let events ← drain zlib maxFrames 0 frames
  let timed ← emit zlib (← onMachine fun m => m.onTick now)
  emitMux zlib (← onMux fun mux => (.ok (mux.onTick now').1, (mux.onTick now').2))
  return events ++ timed

end Wire

end Session

end PhotonTCP
