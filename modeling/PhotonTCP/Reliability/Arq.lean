import PhotonTCP.Foundation.Dict
import PhotonTCP.Packet.Header
import PhotonTCP.Reliability.Rto
import PhotonTCP.Reliability.Serial

/-!
# The selective-repeat engine

One endpoint is a sender and a receiver at once: a window of outstanding DATA packets with a queue
of chunks behind it, and a reorder buffer behind the next expected sequence number.  Every operation
takes the time it happens at.

* `ArqEndpoint` — the state; the parameter checks of the constructor are carried as fields.
* `send`, `onPacket`, `onTick` — the operations.  `onPacket` can raise, when the estimator refuses a
  measurement; the state it leaves behind is then part of the result.
* `inFlight` — the outstanding packets without their timers: retransmission leaves it alone.
* `onPacket_cases`, `onAck_cases` — the few things a packet can do.
* `flushLoop_frame` and its like — which fields an operation can change.
* `walk_eq_of_size_lt` — the search for the lowest missing sequence number ends before its bound.

An operation is a function from the state to what it returns and the next state, and each loop of
the source is a function of its own.  The loops that run over a list recurse on it; the two that run
until a condition fails, draining the reorder buffer and looking for the lowest gap, recurse on a
bound, and it is shown that the bound is never what stops them.

Much of what the source does rests on the order of its dictionary of outstanding packets.  An
acknowledgement removes what it covers in the order in which it was sent, a timer goes through what
has timed out in that order, and repeating a packet gives its entry a new value in its old place.
`Dict` keeps this order.

Two things are easily missed.  `send` gives a chunk to the window whenever there is room, without
asking whether older chunks are queued; normally none are, because every ACK flushes the queue, but
a NACK carries a window as well, and it does not.  And a packet that comes with the wrong session id
is ignored as a whole, while one with the wrong stream id is not: endpoints trust whoever hands them
packets to sort these by stream.
-/

namespace PhotonTCP

open SerialSpace

/-- Diagnostic events. -/
inductive ArqEvent where
  | SendFailed
deriving DecidableEq

/-- The result of an operation: packets to transmit, payloads delivered, events. -/
structure ArqOutput where
  packets : List Packet := []
  delivered : List Bytes := []
  events : List ArqEvent := []
deriving DecidableEq

/-- Book-keeping for one unacknowledged DATA packet. -/
structure Outstanding where
  packet : Packet
  sendTime : ℚ
  retxCount : ℕ := 0
deriving DecidableEq

/-- A measurement: of which number, when it was taken, and the round trip that was measured. -/
structure Sample where
  seq : ℤ
  time : ℚ
  rtt : ℚ
deriving DecidableEq

/-- A sender and a receiver for one stream. -/
structure ArqEndpoint where
  sessionId : ℤ
  streamId : ℤ
  windowSize : ℤ
  maxPayload : ℤ
  maxRetx : ℤ
  rto : RtoEstimator
  -- sender
  nextSeq : ℤ
  outstanding : Dict ℤ Outstanding := Dict.empty
  peerWindow : ℤ := windowSize
  pending : List Bytes := []
  ackedBytes : ℕ := 0
  failed : Bool := false
  -- receiver
  rcvBase : ℤ
  reorder : Dict ℤ Bytes := Dict.empty
  nacked : Finset ℤ := ∅
  -- what the constructor checks
  windowSize_pos : 1 ≤ windowSize
  maxPayload_pos : 1 ≤ maxPayload
  maxRetx_nonneg : 0 ≤ maxRetx
deriving DecidableEq

namespace ArqEndpoint

/-- The constructor. -/
def create (sessionId sendIsn windowSize : ℤ) (rto : RtoEstimator) (maxPayload : ℤ := 200)
    (recvIsn : ℤ := 0) (streamId : ℤ := 0) (maxRetx : ℤ := 8) : Except ValueError ArqEndpoint :=
  if hw : windowSize < 1 then .error s!"window_size must be >= 1, got {windowSize}"
  else if hp : maxPayload < 1 then .error s!"max_payload must be >= 1, got {maxPayload}"
  else if hr : maxRetx < 0 then .error s!"max_retx must be >= 0, got {maxRetx}"
  else .ok { sessionId, streamId, windowSize, maxPayload, maxRetx, rto, nextSeq := sendIsn,
             rcvBase := recvIsn, windowSize_pos := not_lt.mp hw, maxPayload_pos := not_lt.mp hp,
             maxRetx_nonneg := not_lt.mp hr }

/-- What the constructor accepts, and what it makes of it. -/
lemma create_eq_ok_iff {sessionId sendIsn windowSize maxPayload recvIsn streamId maxRetx : ℤ}
    {rto : RtoEstimator} {ep : ArqEndpoint} :
    create sessionId sendIsn windowSize rto maxPayload recvIsn streamId maxRetx = .ok ep ↔
      ∃ (windowSize_pos : 1 ≤ windowSize) (maxPayload_pos : 1 ≤ maxPayload)
        (maxRetx_nonneg : 0 ≤ maxRetx),
        ep = { sessionId, streamId, windowSize, maxPayload, maxRetx, rto, nextSeq := sendIsn,
               rcvBase := recvIsn, windowSize_pos, maxPayload_pos, maxRetx_nonneg } := by
  rw [create]
  constructor
  · intro h
    split_ifs at h with hw hp hr
    exact ⟨not_lt.mp hw, not_lt.mp hp, not_lt.mp hr, (Except.ok.inj h).symm⟩
  · rintro ⟨hw, hp, hr, rfl⟩
    rw [dif_neg (not_lt.mpr hw), dif_neg (not_lt.mpr hp), dif_neg (not_lt.mpr hr)]

variable (ep : ArqEndpoint)

/-! ## Introspection

Only what other modelled code reads.
-/

/-- Payload bytes outstanding. -/
def bytesInFlight : ℕ := (ep.outstanding.values.map fun o => o.packet.payload.length).sum

/-! ## Sending

A chunk that is emitted gets the next number, is remembered with the time, and leaves at once.
Nothing else assigns numbers, so the numbers on the wire are consecutive whatever is queued in
between.
-/

/-- The window advertised to the peer: the free slots of the reorder buffer. -/
def recvAdvertisedWindow : ℤ :=
  let free := ep.windowSize - ep.reorder.size
  if 0 < free then free else 0

/-- The effective send window. -/
def sendLimit : ℤ := min ep.windowSize ep.peerWindow

/-- The window has room for another packet. -/
def canSend : Prop := (ep.outstanding.size : ℤ) < ep.sendLimit

instance : Decidable ep.canSend := inferInstanceAs (Decidable (_ < _))

/-- The DATA packet that would carry `chunk` now. -/
def dataPacket (chunk : Bytes) : Packet where
  type := .Data
  sessionId := ep.sessionId
  streamId := ep.streamId
  seq := ep.nextSeq
  ack := ep.rcvBase
  window := ep.recvAdvertisedWindow
  payload := chunk

/-- Build, record and return a DATA packet. -/
def emitData (chunk : Bytes) (now : ℚ) : Packet × ArqEndpoint :=
  (ep.dataPacket chunk,
    { ep with
      outstanding := ep.outstanding.set ep.nextSeq ⟨ep.dataPacket chunk, now, 0⟩
      nextSeq := seqAdd ep.nextSeq 1 })

/-- The loop of `flushPending`, over the chunks still queued. -/
def flushLoop (now : ℚ) : List Bytes → ArqEndpoint → List Packet × ArqEndpoint
  | [], ep => ([], { ep with pending := [] })
  | chunk :: rest, ep =>
      if ep.canSend then
        let (pkt, ep) := ep.emitData chunk now
        let (out, ep) := flushLoop now rest ep
        (pkt :: out, ep)
      else ([], { ep with pending := chunk :: rest })

/-- Emit as many queued chunks as the window now allows. -/
def flushPending (now : ℚ) : List Packet × ArqEndpoint := flushLoop now ep.pending ep

/-- `data` in pieces of at most `maxPayload` bytes. -/
def chunks (maxPayload : ℕ) (data : Bytes) : List Bytes :=
  (List.range ((data.length + maxPayload - 1) / maxPayload)).map fun k =>
    (data.drop (k * maxPayload)).take maxPayload

/-- The loop of `send`: a chunk is emitted when the window has room, and queued when it has not. -/
def sendLoop (now : ℚ) : List Bytes → ArqEndpoint → List Packet × ArqEndpoint
  | [], ep => ([], ep)
  | chunk :: rest, ep =>
      if ep.canSend then
        let (pkt, ep) := ep.emitData chunk now
        let (out, ep) := sendLoop now rest ep
        (pkt :: out, ep)
      else sendLoop now rest { ep with pending := ep.pending ++ [chunk] }

/-- Queue `data` for delivery. -/
def send (data : Bytes) (now : ℚ) : ArqOutput × ArqEndpoint :=
  if data = [] then ({}, ep)
  else
    let (packets, ep) := sendLoop now (chunks ep.maxPayload.toNat data) ep
    ({ packets }, ep)

/-! ## Control packets of the receiver

Both say how much room there is.  An ACK names the number that is expected next, a NACK the one that
is missing; the search for the latter starts at the former and goes to the highest buffered number.
-/

/-- A cumulative ACK. -/
def ackPacket : Packet where
  type := .Ack
  sessionId := ep.sessionId
  streamId := ep.streamId
  seq := ep.nextSeq
  ack := ep.rcvBase
  window := ep.recvAdvertisedWindow

/-- A NACK for `missing`. -/
def nackPacket (missing : ℤ) : Packet where
  type := .Nack
  sessionId := ep.sessionId
  streamId := ep.streamId
  seq := ep.nextSeq
  ack := missing
  window := ep.recvAdvertisedWindow
  flags := Flags.nack

/-- The first key whose distance from `base` is largest. -/
def highestKey (base : ℤ) : List ℤ → Option ℤ
  | [] => none
  | k :: ks =>
      some (ks.foldl (fun best s => if seqDiff best base < seqDiff s base then s else best) k)

/-- Walk forward from `seq` to `highest`, to the first sequence number that is not buffered. -/
def walk (reorder : Dict ℤ Bytes) (highest : ℤ) : ℕ → ℤ → Option ℤ
  | 0, _ => none
  | fuel + 1, seq =>
      if seqLt seq highest ∨ seq = highest then
        if seq ∈ reorder.keys then walk reorder highest fuel (seqAdd seq 1) else some seq
      else none

/-- The lowest gap between the next expected sequence number and the buffered ones. -/
def lowestMissingSeq : Option ℤ :=
  match highestKey ep.rcvBase ep.reorder.keys with
  | none => none
  | some highest => walk ep.reorder highest (ep.reorder.size + 1) ep.rcvBase

/-! ## Receiving

What `on_packet` does with each type of packet, in parts that can be reasoned about one at a time.
-/

/-- The loop that delivers contiguous buffered chunks; it runs at most once a buffered chunk. -/
def drainLoop : ℕ → ArqEndpoint → List Bytes × ArqEndpoint
  | 0, ep => ([], ep)
  | fuel + 1, ep =>
      match ep.reorder.get? ep.rcvBase with
      | none => ([], ep)
      | some payload =>
          let (out, ep) := drainLoop fuel
            { ep with reorder := ep.reorder.erase ep.rcvBase, rcvBase := seqAdd ep.rcvBase 1 }
          (payload :: out, ep)

/-- Drop the NACK records of sequence numbers the receiver has passed. -/
def pruneNacked : ArqEndpoint := { ep with nacked := ep.nacked.filter fun s => seqLt ep.rcvBase s }

/-- What `onData` does with the payload: deliver, buffer or discard. -/
def acceptData (pkt : Packet) : List Bytes × ArqEndpoint :=
  if pkt.seq = ep.rcvBase then
    let (drained, ep) := drainLoop ep.reorder.size { ep with rcvBase := seqAdd ep.rcvBase 1 }
    (pkt.payload :: drained, ep.pruneNacked)
  else if seqLt ep.rcvBase pkt.seq then
    if seqDiff pkt.seq ep.rcvBase < ep.windowSize ∧ pkt.seq ∉ ep.reorder.keys then
      ([], { ep with reorder := ep.reorder.set pkt.seq pkt.payload })
    else ([], ep)
  else ([], ep)

/-- What `onData` answers: always an ACK, and a NACK the first time a hole is seen. -/
def answerData : List Packet × ArqEndpoint :=
  match ep.lowestMissingSeq with
  | some missing =>
      if missing ∉ ep.nacked then
        ([ep.ackPacket, ep.nackPacket missing], { ep with nacked := insert missing ep.nacked })
      else ([ep.ackPacket], ep)
  | none => ([ep.ackPacket], ep)

/-- A DATA packet is accepted or not, and answered in either case. -/
def onData (pkt : Packet) : ArqOutput × ArqEndpoint :=
  let (delivered, ep) := ep.acceptData pkt
  let (packets, ep) := ep.answerData
  ({ packets, delivered }, ep)

/-- The loop of `onAck` over the packets to remove; it stops where the estimator raises.  The
measurements it hands to the estimator are returned beside the result: the source keeps no such
list, and nothing below the history of an endpoint reads it. -/
def ackLoop (now : ℚ) : List (ℤ × Outstanding) → ArqEndpoint →
    (List Sample × Except ValueError Unit) × ArqEndpoint
  | [], ep => (([], .ok ()), ep)
  | (s, o) :: rest, ep =>
      let ep := { ep with outstanding := ep.outstanding.erase s
                          ackedBytes := ep.ackedBytes + o.packet.payload.length }
      if o.retxCount = 0 then
        match ep.rto.onSample (now - o.sendTime) with
        | .error e => (([⟨s, now, now - o.sendTime⟩], .error e), ep)
        | .ok rto =>
            let ((samples, result), ep) := ackLoop now rest { ep with rto }
            ((⟨s, now, now - o.sendTime⟩ :: samples, result), ep)
      else ackLoop now rest ep

/-- The outstanding packets a cumulative `ack` covers. -/
def covered (ack : ℤ) : List (ℤ × Outstanding) :=
  ep.outstanding.entries.filter fun e => seqLt e.1 ack

/-- What is covered leaves the window, and the queue moves up; if a measurement is refused, neither
the rest nor the queue is touched. -/
def onAck (pkt : Packet) (now : ℚ) : Except ValueError ArqOutput × ArqEndpoint :=
  match ackLoop now (ep.covered pkt.ack) { ep with peerWindow := pkt.window } with
  | ((_, .error e), ep) => (.error e, ep)
  | ((_, .ok ()), ep) =>
      let (packets, ep) := ep.flushPending now
      (.ok { packets }, ep)

/-- The packet that is missing is sent again, if it is still outstanding. -/
def onNack (pkt : Packet) (now : ℚ) : ArqOutput × ArqEndpoint :=
  let ep := { ep with peerWindow := pkt.window }
  match ep.outstanding.get? pkt.ack with
  | none => ({}, ep)
  | some o =>
      ({ packets := [o.packet] },
        { ep with outstanding := ep.outstanding.set pkt.ack ⟨o.packet, now, o.retxCount + 1⟩ })

/-- Process one received packet. -/
def onPacket (pkt : Packet) (now : ℚ) : Except ValueError ArqOutput × ArqEndpoint :=
  if pkt.sessionId ≠ ep.sessionId then (.ok {}, ep)
  else
    match pkt.type with
    | .Data =>
        let (out, ep) := ep.onData pkt
        (.ok out, ep)
    | .Ack => ep.onAck pkt now
    | .Nack =>
        let (out, ep) := ep.onNack pkt now
        (.ok out, ep)
    | _ => (.ok {}, ep)

/-- What the caller of `onPacket` sees: nothing, when it raises. -/
def observed : Except ValueError ArqOutput → ArqOutput
  | .ok out => out
  | .error _ => {}

/-! ## Timeouts

All packets that have timed out are listed first, and then gone through; one backoff follows,
however many there were.  At the first packet that has used up its retransmissions the endpoint
gives up, without a backoff.
-/

/-- The loop of `onTick` over the packets that have timed out: one backoff at the end, unless one
of them has used up its retransmissions. -/
def tickLoop (now : ℚ) : List (ℤ × Outstanding) → ArqEndpoint → ArqOutput × ArqEndpoint
  | [], ep => ({}, { ep with rto := ep.rto.onTimeout })
  | (s, o) :: rest, ep =>
      if ep.maxRetx ≤ o.retxCount then ({ events := [.SendFailed] }, { ep with failed := true })
      else
        let (out, ep) := tickLoop now rest
          { ep with outstanding := ep.outstanding.set s ⟨o.packet, now, o.retxCount + 1⟩ }
        ({ out with packets := o.packet :: out.packets }, ep)

/-- The outstanding packets whose timeout has elapsed. -/
def timedOut (now : ℚ) : List (ℤ × Outstanding) :=
  ep.outstanding.entries.filter fun e => ep.rto.rto ≤ now - e.2.sendTime

/-- Retransmit what has timed out. -/
def onTick (now : ℚ) : ArqOutput × ArqEndpoint :=
  if ep.failed then ({}, ep)
  else if ep.timedOut now = [] then ({}, ep)
  else tickLoop now (ep.timedOut now) ep

/-! ## The packets in flight

For most questions only the packets matter, and not when they were sent or how often.  `inFlight`
forgets the rest, and whatever repeats a packet leaves it as it is.
-/

/-- The outstanding packets, without their timers. -/
def inFlight (ep : ArqEndpoint) : Dict ℤ Packet := ep.outstanding.mapValues Outstanding.packet

lemma keys_inFlight (ep : ArqEndpoint) : ep.inFlight.keys = ep.outstanding.keys :=
  Dict.keys_mapValues _ _

lemma bytesInFlight_eq (ep : ArqEndpoint) :
    ep.bytesInFlight = (ep.inFlight.entries.map fun e => e.2.payload.length).sum := by
  rw [bytesInFlight, inFlight, Dict.entries_mapValues, Dict.values, List.map_map, List.map_map]
  rfl

lemma get?_inFlight {ep : ArqEndpoint} {s : ℤ} {o : Outstanding}
    (h : (s, o) ∈ ep.outstanding.entries) : ep.inFlight.get? s = some o.packet := by
  rw [inFlight, Dict.get?_mapValues, Dict.mem_entries_iff.mp h, Option.map_some]

lemma inFlight_emitData (ep : ArqEndpoint) (chunk : Bytes) (now : ℚ) :
    (ep.emitData chunk now).2.inFlight = ep.inFlight.set ep.nextSeq (ep.dataPacket chunk) :=
  Dict.mapValues_set _ _ _ _

lemma mapValues_erase_packet (ep : ArqEndpoint) (s : ℤ) :
    (ep.outstanding.erase s).mapValues Outstanding.packet = ep.inFlight.erase s :=
  Dict.mapValues_erase _ _ _

/-- A new timer for a packet in flight changes nothing in flight. -/
lemma mapValues_set_packet {ep : ArqEndpoint} {s : ℤ} {o : Outstanding}
    (h : ep.inFlight.get? s = some o.packet) :
    (ep.outstanding.set s o).mapValues Outstanding.packet = ep.inFlight := by
  rw [Dict.mapValues_set]
  exact Dict.set_eq_self h

/-! ## What one packet can do

The inversion lemmas of the operations.  Proofs about a packet start with `onPacket_cases` and
unfold nothing.
-/

/-- A packet is ignored, or handled by the operation for its type. -/
theorem onPacket_cases (pkt : Packet) (now : ℚ) :
    ep.onPacket pkt now = (.ok {}, ep) ∨
    (pkt.type = .Data ∧ ep.onPacket pkt now = (.ok (ep.onData pkt).1, (ep.onData pkt).2)) ∨
    (pkt.type = .Ack ∧ ep.onPacket pkt now = ep.onAck pkt now) ∨
    (pkt.type = .Nack ∧
      ep.onPacket pkt now = (.ok (ep.onNack pkt now).1, (ep.onNack pkt now).2)) := by
  rw [onPacket]
  split_ifs with hs
  · exact Or.inl rfl
  · cases pkt.type with
    | Data => exact Or.inr (Or.inl ⟨rfl, rfl⟩)
    | Ack => exact Or.inr (Or.inr (Or.inl ⟨rfl, rfl⟩))
    | Nack => exact Or.inr (Or.inr (Or.inr ⟨rfl, rfl⟩))
    | _ => exact Or.inl rfl

/-- An ACK stops where the estimator raises, or flushes the queue at the end. -/
theorem onAck_cases (pkt : Packet) (now : ℚ) :
    let removed := ackLoop now (ep.covered pkt.ack) { ep with peerWindow := pkt.window }
    (∃ e, ep.onAck pkt now = (.error e, removed.2)) ∨
    ep.onAck pkt now =
      (.ok { packets := (removed.2.flushPending now).1 }, (removed.2.flushPending now).2) := by
  intro removed
  have hremoved : ackLoop now (ep.covered pkt.ack) { ep with peerWindow := pkt.window }
      = ((removed.1.1, removed.1.2), removed.2) := rfl
  rw [onAck, hremoved]
  cases removed.1.2 with
  | error e => exact Or.inl ⟨e, rfl⟩
  | ok u => exact Or.inr rfl

/-- An ACK of which no measurement is refused flushes the queue. -/
lemma onAck_of_ok {pkt : Packet} {now : ℚ}
    (hok : (ackLoop now (ep.covered pkt.ack) { ep with peerWindow := pkt.window }).1.2 = .ok ()) :
    let removed := (ackLoop now (ep.covered pkt.ack) { ep with peerWindow := pkt.window }).2
    ep.onAck pkt now =
      (.ok { packets := (removed.flushPending now).1 }, (removed.flushPending now).2) := by
  intro removed
  have hremoved : ackLoop now (ep.covered pkt.ack) { ep with peerWindow := pkt.window }
      = ((_, .ok ()), removed) := Prod.ext (Prod.ext rfl hok) rfl
  rw [onAck, hremoved]

/-- What `onData` answers with. -/
lemma mem_answerData {pkt : Packet} (h : pkt ∈ ep.answerData.1) :
    pkt = ep.ackPacket ∨ ∃ missing, pkt = ep.nackPacket missing := by
  rw [answerData] at h
  cases hmissing : ep.lowestMissingSeq with
  | none =>
      rw [hmissing] at h
      exact Or.inl (List.mem_singleton.mp h)
  | some missing =>
      rw [hmissing] at h
      dsimp only at h
      split_ifs at h
      · exact Or.inl (List.mem_singleton.mp h)
      · rcases List.mem_cons.mp h with hack | hnack
        · exact Or.inl hack
        · exact Or.inr ⟨missing, List.mem_singleton.mp hnack⟩

/-! ## What the loops leave alone

One lemma for each loop names the fields it can change, and the rest of the record is literally the
old one.
-/

lemma flushLoop_frame (now : ℚ) : ∀ (cs : List Bytes) (ep : ArqEndpoint),
    ∃ nextSeq outstanding pending,
      (flushLoop now cs ep).2 = { ep with nextSeq, outstanding, pending } := by
  intro cs
  induction cs with
  | nil => intro ep; exact ⟨_, _, _, rfl⟩
  | cons c cs ih =>
      intro ep
      rw [flushLoop]
      split_ifs
      · exact ih _
      · exact ⟨_, _, _, rfl⟩

lemma sendLoop_frame (now : ℚ) : ∀ (cs : List Bytes) (ep : ArqEndpoint),
    ∃ nextSeq outstanding pending,
      (sendLoop now cs ep).2 = { ep with nextSeq, outstanding, pending } := by
  intro cs
  induction cs with
  | nil => intro ep; exact ⟨_, _, _, rfl⟩
  | cons c cs ih =>
      intro ep
      rw [sendLoop]
      split_ifs
      · exact ih _
      · exact ih _

lemma drainLoop_frame : ∀ (fuel : ℕ) (ep : ArqEndpoint),
    ∃ rcvBase reorder, (drainLoop fuel ep).2 = { ep with rcvBase, reorder } := by
  intro fuel
  induction fuel with
  | zero => intro ep; exact ⟨_, _, rfl⟩
  | succ fuel ih =>
      intro ep
      rw [drainLoop]
      cases ep.reorder.get? ep.rcvBase with
      | none => exact ⟨_, _, rfl⟩
      | some payload => exact ih _

lemma ackLoop_frame (now : ℚ) : ∀ (es : List (ℤ × Outstanding)) (ep : ArqEndpoint),
    ∃ outstanding ackedBytes rto,
      (ackLoop now es ep).2 = { ep with outstanding, ackedBytes, rto } := by
  intro es
  induction es with
  | nil => intro ep; exact ⟨_, _, _, rfl⟩
  | cons e es ih =>
      intro ep
      rw [ackLoop]
      split_ifs
      · cases RtoEstimator.onSample ep.rto (now - e.2.sendTime) with
        | error text => exact ⟨_, _, _, rfl⟩
        | ok rto => exact ih _
      · exact ih _

lemma tickLoop_frame (now : ℚ) : ∀ (es : List (ℤ × Outstanding)) (ep : ArqEndpoint),
    ∃ outstanding rto failed,
      (tickLoop now es ep).2 = { ep with outstanding, rto, failed } := by
  intro es
  induction es with
  | nil => intro ep; exact ⟨_, _, _, rfl⟩
  | cons e es ih =>
      intro ep
      rw [tickLoop]
      split_ifs
      · exact ⟨_, _, _, rfl⟩
      · exact ih _

lemma acceptData_frame (ep : ArqEndpoint) (pkt : Packet) :
    ∃ rcvBase reorder nacked, (ep.acceptData pkt).2 = { ep with rcvBase, reorder, nacked } := by
  rw [acceptData]
  split_ifs
  · obtain ⟨rcvBase, reorder, h⟩ := drainLoop_frame ep.reorder.size
      { ep with rcvBase := seqAdd ep.rcvBase 1 }
    refine ⟨rcvBase, reorder, ?_, ?_⟩
    · exact (drainLoop ep.reorder.size { ep with rcvBase := seqAdd ep.rcvBase 1 }).2.pruneNacked.nacked
    · show (drainLoop _ _).2.pruneNacked = _
      rw [h]
      rfl
  · exact ⟨_, _, _, rfl⟩
  · exact ⟨_, _, _, rfl⟩
  · exact ⟨_, _, _, rfl⟩

lemma answerData_frame (ep : ArqEndpoint) :
    ∃ nacked, ep.answerData.2 = { ep with nacked } := by
  rw [answerData]
  cases ep.lowestMissingSeq with
  | none => exact ⟨_, rfl⟩
  | some missing =>
      dsimp only
      split_ifs
      · exact ⟨_, rfl⟩
      · exact ⟨_, rfl⟩

lemma onData_frame (ep : ArqEndpoint) (pkt : Packet) :
    ∃ rcvBase reorder nacked, (ep.onData pkt).2 = { ep with rcvBase, reorder, nacked } := by
  obtain ⟨rcvBase, reorder, nacked, h⟩ := ep.acceptData_frame pkt
  obtain ⟨nacked', h'⟩ := (ep.acceptData pkt).2.answerData_frame
  refine ⟨rcvBase, reorder, nacked', ?_⟩
  show (ep.acceptData pkt).2.answerData.2 = _
  rw [h', h]

/-- Sending delivers nothing. -/
lemma delivered_send (ep : ArqEndpoint) (data : Bytes) (now : ℚ) :
    (ep.send data now).1.delivered = [] := by
  rw [send]
  split_ifs <;> rfl

/-- Sending fails nothing. -/
lemma events_send (ep : ArqEndpoint) (data : Bytes) (now : ℚ) : (ep.send data now).1.events = [] := by
  rw [send]
  split_ifs <;> rfl

/-- Timers deliver nothing. -/
lemma delivered_onTick (ep : ArqEndpoint) (now : ℚ) : (ep.onTick now).1.delivered = [] := by
  have hloop : ∀ (es : List (ℤ × Outstanding)) (ep : ArqEndpoint),
      (tickLoop now es ep).1.delivered = [] := by
    intro es
    induction es with
    | nil => intro ep; rfl
    | cons e es ih =>
        intro ep
        rw [tickLoop]
        split_ifs
        · rfl
        · exact ih _
  rw [onTick]
  split_ifs
  · rfl
  · rfl
  · exact hloop _ _

/-! ## The bounds of the two loops

Both loops of the receiver run within the bound they are given: draining removes an entry of the
reorder buffer in each round, and the walk passes one. -/

/-- Draining is complete: the next expected chunk is not buffered afterwards. -/
theorem get?_drainLoop : ∀ {fuel : ℕ} {ep : ArqEndpoint}, ep.reorder.size ≤ fuel →
    (drainLoop fuel ep).2.reorder.get? (drainLoop fuel ep).2.rcvBase = none
  | 0, ep, h => by
      show ep.reorder.get? ep.rcvBase = none
      rw [Dict.get?_eq_none_iff]
      intro hk
      have := Dict.size_erase_lt hk
      omega
  | fuel + 1, ep, h => by
      rw [drainLoop]
      cases hg : ep.reorder.get? ep.rcvBase with
      | none => exact hg
      | some payload =>
          refine get?_drainLoop ?_
          have hk : ep.rcvBase ∈ ep.reorder.keys := Dict.get?_isSome_iff.mp (by rw [hg]; rfl)
          have := Dict.size_erase_lt hk
          show (ep.reorder.erase ep.rcvBase).size ≤ fuel
          omega

/-- The buffered sequence numbers that the walk from `seq` to `highest` can meet. -/
def onTheWay (reorder : Dict ℤ Bytes) (highest seq : ℤ) : Finset ℤ :=
  reorder.keys.toFinset.filter fun k => ahead SEQ_HALF seq k ≤ ahead SEQ_HALF seq highest

lemma mem_onTheWay {reorder : Dict ℤ Bytes} {highest seq k : ℤ} :
    k ∈ onTheWay reorder highest seq ↔
      k ∈ reorder.keys ∧ ahead SEQ_HALF seq k ≤ ahead SEQ_HALF seq highest := by
  rw [onTheWay, Finset.mem_filter, List.mem_toFinset]

/-- A step of the walk leaves the sequence number it stands on behind. -/
lemma card_onTheWay_lt {reorder : Dict ℤ Bytes} {highest seq : ℤ} (hk : seq ∈ reorder.keys)
    (hlt : seqLt seq highest) :
    (onTheWay reorder highest (seqAdd seq 1)).card < (onTheWay reorder highest seq).card := by
  have hhalf : 0 < SEQ_HALF := by decide
  have hpos : 0 < ahead SEQ_HALF seq highest := hlt.1
  have hhigh : ahead SEQ_HALF (seqAdd seq 1) highest = ahead SEQ_HALF seq highest - 1 :=
    ahead_succ_of_pos hhalf hpos
  have hlast := ahead_lt hhalf seq highest
  refine Finset.card_lt_card (Finset.ssubset_iff_of_subset ?_ |>.mpr ⟨seq, ?_, ?_⟩)
  · intro k hmem
    rw [mem_onTheWay, hhigh] at hmem
    refine mem_onTheWay.mpr ⟨hmem.1, ?_⟩
    rcases (ahead_nonneg hhalf seq k).eq_or_lt with hzero | hkpos
    · rw [← hzero]
      exact hpos.le
    · have hkstep : ahead SEQ_HALF (seqAdd seq 1) k = _ := ahead_succ_of_pos hhalf hkpos
      omega
  · exact mem_onTheWay.mpr ⟨hk, by rw [ahead_self]; exact hpos.le⟩
  · intro hmem
    have hle := (mem_onTheWay.mp hmem).2
    have haround : ahead SEQ_HALF (seqAdd seq 1) seq = _ :=
      ahead_succ_of_eq_zero hhalf (ahead_self seq)
    omega

/-- Past the highest number the walk is over. -/
lemma walk_past {reorder : Dict ℤ Bytes} (fuel : ℕ) (highest : ℤ) :
    walk reorder highest fuel (seqAdd highest 1) = none := by
  have haround : ahead SEQ_HALF (seqAdd highest 1) highest = _ :=
    ahead_succ_of_eq_zero (by decide) (ahead_self highest)
  have htest : ¬ (seqLt (seqAdd highest 1) highest ∨ seqAdd highest 1 = highest) := by
    rintro (hlt | heq)
    · rw [seqLt_iff, haround] at hlt
      exact absurd hlt.2 (by decide)
    · rw [heq, ahead_self] at haround
      exact absurd haround (by decide)
  cases fuel with
  | zero => rfl
  | succ fuel => rw [walk, if_neg htest]

/-- **The walk ends before its bound**: a larger bound finds the same sequence number. -/
theorem walk_eq_of_card_lt {reorder : Dict ℤ Bytes} {highest : ℤ} (extra : ℕ) :
    ∀ {fuel : ℕ} {seq : ℤ}, (onTheWay reorder highest seq).card < fuel →
      walk reorder highest (fuel + extra) seq = walk reorder highest fuel seq
  | fuel + 1, seq, h => by
      rw [Nat.add_right_comm, walk, walk]
      split_ifs with htest hmem
      · rcases htest with hlt | rfl
        · have hcard := card_onTheWay_lt hmem hlt
          exact walk_eq_of_card_lt extra (by omega)
        · rw [walk_past, walk_past]
      · rfl
      · rfl

/-- In particular the bound that `lowestMissingSeq` gives it is large enough. -/
theorem walk_eq_of_size_lt (reorder : Dict ℤ Bytes) (highest seq : ℤ) (extra : ℕ) :
    walk reorder highest (reorder.size + 1 + extra) seq =
      walk reorder highest (reorder.size + 1) seq := by
  refine walk_eq_of_card_lt extra (Nat.lt_succ_of_le ?_)
  calc (onTheWay reorder highest seq).card ≤ reorder.keys.toFinset.card := Finset.card_filter_le ..
    _ ≤ reorder.keys.length := List.toFinset_card_le _
    _ = reorder.size := List.length_map ..

end ArqEndpoint

end PhotonTCP
