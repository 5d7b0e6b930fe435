import PhotonTCP.Channel.Pair
import PhotonTCP.Session.Duplex

/-!
# Two sessions over a pair of loopback channels

Each session writes to its end of the pair, and its cycles get what the other end has put in:
whatever survives the loss, the corruption, the duplication and the delay, in the order in which it
was put in. The random generator is left free, and either channel may be closed at any time.

* `Session.newFrames` — what a call writes; `Session.Encoded` — a session writes encodings only.
* `LinkEnd`, `LoopbackLink`, `LoopbackLink.system` — the ends, and the link.
* `Linked`, **`Linked.called`** — the invariant, and that a call at either end keeps it.
* **`loopback_delivers`** — what is received is a prefix of what was sent, in both directions.

Here the channel is a model of the code's own channel and not a network that may do anything.  What
has to be shown is that it does nothing worse: every frame that comes out was put in, or is refused
by `unpack`, so a cycle gets frames that the other session has transmitted and others that it drops.
Reordering, duplication and loss are covered by what is known of sessions, and corruption is,
because a frame with one byte changed does not parse.

The draws of the random generator are given with each call, as many as it needs.  A statement about
all draws is one about all seeds, and about all ways in which the two ends share one generator.
-/

namespace PhotonTCP

open Raising

/-! ## What a session writes

All of it are encodings of packets that fit the header, and this is what the channel's own result
asks for.
-/

namespace Session

variable {zlib : Bytes → ℕ} {s : Session}

/-- The frames that a call writes to the channel. -/
def newFrames (zlib : Bytes → ℕ) (s : Session) (call : SessionCall) : List Bytes :=
  (s.called zlib call).transmitted.drop s.transmitted.length

/-- Everything that the session has written is an encoding. -/
def Encoded (zlib : Bytes → ℕ) (s : Session) : Prop :=
  ∀ frame ∈ s.transmitted, ∃ p : Packet, p.pack zlib = some frame

/-- A call takes nothing back. -/
lemma transmitted_called (s : Session) (call : SessionCall) :
    (s.called zlib call).transmitted = s.transmitted ++ s.newFrames zlib call := by
  have hprefix : s.transmitted <+: (s.called zlib call).transmitted := by
    refine called_invariant (I := fun t => s.transmitted <+: t.transmitted) ?_ ?_ ?_
      List.prefix_rfl call
    · exact fun t i h => h.trans (List.prefix_append _ _)
    · exact fun t op h => h.trans (List.prefix_append _ _)
    · exact fun t recvBuffers h => h
  obtain ⟨rest, hrest⟩ := hprefix
  rw [newFrames, ← hrest, List.drop_left]

lemma Encoded.transmits (h : s.Encoded zlib) (pkts : List Packet) :
    (s.transmits zlib (fitting pkts)).Encoded zlib := by
  intro frame hframe
  rcases List.mem_append.mp hframe with hold | hnew
  · exact h frame hold
  · obtain ⟨p, hp, rfl⟩ := List.mem_map.mp hnew
    exact ⟨p, pack_eq_packed (mem_fitting hp).2⟩

/-- **A session writes encodings only.** -/
theorem Encoded.called (h : s.Encoded zlib) (call : SessionCall) :
    (s.called zlib call).Encoded zlib := by
  refine called_invariant (I := Encoded zlib) ?_ ?_ ?_ h call
  · exact fun t i ht => Encoded.transmits (s := { t with machine := (t.machine.apply i).2 }) ht _
  · exact fun t op ht => Encoded.transmits (s := { t with mux := (t.mux.apply op).2 }) ht _
  · exact fun t recvBuffers ht => ht

lemma Encoded.new {isInitiator : Bool} (h : s.New isInitiator) : s.Encoded zlib := by
  obtain ⟨-, _, _, _, _, _, _, _, _, _, rfl⟩ := h
  exact fun frame hframe => absurd hframe List.not_mem_nil

end Session

/-! ## The link

A call takes what has arrived off the partner's channel, and puts what it writes on its own.
-/

/-- How often a call polls the channel for a frame that it gets, and the frames it gets. -/
def SessionCall.arrived : SessionCall → List Bytes
  | .pump _ frames _ _ => frames.map Prod.fst
  | _ => []

/-- An end of a stream over its channel. -/
structure LinkEnd where
  stream : StreamEnd
  channel : LoopbackChannel

/-- The session is called.  It takes what it gets off the partner's channel, and writes to its own;
the random generator returns what it likes. -/
def LinkEnd.called (k : ℤ) (x y : LinkEnd) (call : SessionCall) (draws : ℕ → Draws) :
    LinkEnd × LinkEnd :=
  ({ stream := x.stream.called zlibCrc32 k call
     channel := x.channel.sendFrames
       ((x.stream.session.newFrames zlibCrc32 call).zipIdx.map fun f => (draws f.2, f.1)) },
    { y with channel := (x.channel.recvFrames call.arrived.length y.channel).2 })

/-- Two ends. -/
structure LoopbackLink where
  a : LinkEnd
  b : LinkEnd

/-- Either end is called, or closes its channel. -/
inductive LoopbackAction where
  | callA (call : SessionCall) (draws : ℕ → Draws)
  | callB (call : SessionCall) (draws : ℕ → Draws)
  | closeA
  | closeB

namespace LoopbackLink

variable (k : ℤ)

/-- Two sessions over a new pair. -/
def start (a b : Session) (loss dup corrupt reorder : ℚ) : LoopbackLink where
  a := ⟨{ session := a }, (LoopbackChannel.pair loss dup corrupt reorder).1⟩
  b := ⟨{ session := b }, (LoopbackChannel.pair loss dup corrupt reorder).2⟩

/-- A cycle gets what its channel returns. -/
def enabled (c : LoopbackLink) : LoopbackAction → Prop
  | .callA call _ =>
      call.arrived = (c.a.channel.recvFrames call.arrived.length c.b.channel).1
  | .callB call _ =>
      call.arrived = (c.b.channel.recvFrames call.arrived.length c.a.channel).1
  | .closeA | .closeB => True

/-- One step. -/
def next (c : LoopbackLink) : LoopbackAction → LoopbackLink
  | .callA call draws => ⟨(c.a.called k c.b call draws).1, (c.a.called k c.b call draws).2⟩
  | .callB call draws => ⟨(c.b.called k c.a call draws).2, (c.b.called k c.a call draws).1⟩
  | .closeA => { c with a := { c.a with channel := c.a.channel.close } }
  | .closeB => { c with b := { c.b with channel := c.b.channel.close } }

/-- The link as a transition system. -/
def system : Transition LoopbackLink LoopbackAction := ⟨enabled, next k⟩

/-- Nothing is sent past a queue, and fewer than `2 ^ 31` bytes are sent. -/
def Orderly (c : LoopbackLink) : LoopbackAction → Prop
  | .callA call _ => c.a.stream.session.InTurn k call ∧
      (c.a.stream.called zlibCrc32 k call).sent.flatten.length < 2 ^ 31
  | .callB call _ => c.b.stream.session.InTurn k call ∧
      (c.b.stream.called zlibCrc32 k call).sent.flatten.length < 2 ^ 31
  | .closeA | .closeB => True

instance (c : LoopbackLink) : (act : LoopbackAction) → Decidable ((system k).enabled c act)
  | .callA _ _ | .callB _ _ => inferInstanceAs (Decidable (_ = _))
  | .closeA | .closeB => isTrue trivial

instance (c : LoopbackLink) : (act : LoopbackAction) → Decidable (c.Orderly k act)
  | .callA _ _ | .callB _ _ => inferInstanceAs (Decidable (_ ∧ _))
  | .closeA | .closeB => isTrue trivial

end LoopbackLink

/-! ## The invariant

The stream, and what is on either channel.
-/

variable {k : ℤ} {x y : LinkEnd}

/-- What an end has put on its channel. -/
structure LinkEnd.Puts (x : LinkEnd) : Prop where
  encoded : x.stream.session.Encoded zlibCrc32
  passes : x.channel.Passes x.stream.session.transmitted

/-- The stream is carried both ways, and the channels hold what was written, or what is refused. -/
structure Linked (k : ℤ) (x y : LinkEnd) : Prop where
  duplex : Duplex zlibCrc32 k x.stream y.stream
  puts : x.Puts ∧ y.Puts

namespace Linked

lemma symm (h : Linked k x y) : Linked k y x := ⟨h.duplex.symm, h.puts.symm⟩

/-- What is written is put on the channel. -/
lemma puts_called (h : x.Puts) (y : LinkEnd) (call : SessionCall) (draws : ℕ → Draws) :
    (x.called k y call draws).1.Puts := by
  have hencoded := h.encoded.called call
  refine ⟨hencoded, ?_⟩
  have hsends : ((x.stream.session.newFrames zlibCrc32 call).zipIdx.map
      fun f => (draws f.2, f.1)).map Prod.snd = x.stream.session.newFrames zlibCrc32 call := by
    rw [List.map_map]
    exact List.zipIdx_map_fst _ _
  have htransmitted : (x.stream.session.called zlibCrc32 call).transmitted
      = x.stream.session.transmitted ++ x.stream.session.newFrames zlibCrc32 call :=
    x.stream.session.transmitted_called call
  show LoopbackChannel.Passes _ (x.stream.session.called zlibCrc32 call).transmitted
  rw [htransmitted, ← hsends]
  refine h.passes.sendFrames fun s hs => hencoded s.2 ?_
  rw [htransmitted, ← hsends]
  exact List.mem_append_right _ (List.mem_map_of_mem hs)

/-- **An end is called.** -/
theorem called (h : Linked k x y) (hk : k ≠ 0) {call : SessionCall} (draws : ℕ → Draws)
    (harrived : call.arrived = (x.channel.recvFrames call.arrived.length y.channel).1)
    (hturn : x.stream.session.InTurn k call)
    (hbound : (x.stream.called zlibCrc32 k call).sent.flatten.length < 2 ^ 31) :
    Linked k (x.called k y call draws).1 (x.called k y call draws).2 := by
  obtain ⟨hleft, hgot⟩ := h.puts.2.passes.recvFrames x.channel call.arrived.length
  refine ⟨?_, puts_called h.puts.1 y call draws, ⟨h.puts.2.encoded, hleft⟩⟩
  cases call with
  | pump maxFrames frames now now' =>
      refine h.duplex.pumped hk maxFrames (fun f hf pkt hunpack => ?_) now now'
      rw [← harrived] at hgot
      rcases hgot f.1 (List.mem_map_of_mem hf) with hsent | ⟨e, herror⟩
      · exact ⟨f.1, hsent, hunpack⟩
      · -- a frame that was corrupted does not parse
        rw [herror] at hunpack
        cases hunpack
  | _ => exact h.duplex.called hk trivial hturn hbound

lemma close (h : Linked k x y) : Linked k { x with channel := x.channel.close } y :=
  ⟨h.duplex, ⟨h.puts.1.encoded, h.puts.1.passes.close⟩, h.puts.2⟩

/-- **Every step keeps the invariant.** -/
theorem next {c : LoopbackLink} (h : Linked k c.a c.b) (hk : k ≠ 0) {act : LoopbackAction}
    (he : c.enabled act) (hok : c.Orderly k act) :
    Linked k (c.next k act).a (c.next k act).b := by
  cases act with
  | callA call draws => exact h.called hk draws he hok.1 hok.2
  | callB call draws => exact (h.symm.called hk draws he hok.1 hok.2).symm
  | closeA => exact h.close
  | closeB => exact h.symm.close.symm

/-- Two new sessions over a new pair. -/
theorem start {a b : Session} {isInitiator isInitiator' : Bool} (ha : a.New isInitiator)
    (hb : b.New isInitiator') (hwindow : a.mux.windowSize < 65536)
    (hwindow' : b.mux.windowSize < 65536) (loss dup corrupt reorder : ℚ) :
    Linked k (LoopbackLink.start a b loss dup corrupt reorder).a
      (LoopbackLink.start a b loss dup corrupt reorder).b := by
  obtain ⟨hpassA, hpassB⟩ := LoopbackChannel.Passes.pair loss dup corrupt reorder
  exact ⟨Duplex.start ha hb hwindow hwindow',
    ⟨.new ha, hpassA.mono (List.nil_subset _)⟩, ⟨.new hb, hpassB.mono (List.nil_subset _)⟩⟩

end Linked

/-! ## Delivery

Read off the invariant.
-/

/-- **Over a noisy loopback channel data arrives in order, exactly once and uncorrupted.**  Whatever
the probabilities of the noise and whatever the random generator returns, and whichever channel is
closed and when: along every run in which nothing is sent past a queue, what either session has
received on the stream is a prefix of what the other one has sent, and no more is acknowledged than
has been received. -/
theorem loopback_delivers (hk : k ≠ 0) {a b : Session} {isInitiator isInitiator' : Bool}
    (ha : a.New isInitiator) (hb : b.New isInitiator') (hwindow : a.mux.windowSize < 65536)
    (hwindow' : b.mux.windowSize < 65536) {loss dup corrupt reorder : ℚ} {c : LoopbackLink}
    (h : (LoopbackLink.system k).Reach (LoopbackLink.Orderly k)
      (.start a b loss dup corrupt reorder) c) :
    ((c.b.stream.received k).flatten <+: c.a.stream.sent.flatten ∧
      c.a.stream.session.ackedBytes k ≤ (c.b.stream.received k).flatten.length) ∧
    (c.a.stream.received k).flatten <+: c.b.stream.sent.flatten ∧
      c.b.stream.session.ackedBytes k ≤ (c.a.stream.received k).flatten.length := by
  have hlinked : Linked k c.a c.b := h.invariant (I := fun c => Linked k c.a c.b)
    (Linked.start ha hb hwindow hwindow' loss dup corrupt reorder)
    fun _ _ hlinked he hok => hlinked.next hk he hok
  exact ⟨⟨hlinked.duplex.received_prefix, hlinked.duplex.ackedBytes_le⟩,
    hlinked.duplex.symm.received_prefix, hlinked.duplex.symm.ackedBytes_le⟩

/-! ### A byte over a noisy link

A corrupted SYN, duplicates, and a byte that arrives nevertheless.
-/

open Reconnection (frame)

namespace LoopbackLink

lemma mask_ne_zero : (1 : UInt8) ≠ 0 := by decide

/-- No noise, and noise of one kind. -/
def quiet : Draws where
  loss := 1
  corrupt := 1
  dup := 1
  reorder := (1, 1)
  randrange := fun h => ⟨0, h⟩
  mask := ⟨1, mask_ne_zero⟩

/-- The frame is corrupted. -/
def corrupting : Draws := { quiet with corrupt := 0 }
/-- The frame is duplicated. -/
def duplicating : Draws := { quiet with dup := 0 }

/-- The packets of the handshake, and the one that carries the byte. -/
def syn : Bytes := frame .Syn 7 0 1000 0 0 Flags.syn []
/-- The responder's answer. -/
def synAck : Bytes := frame .SynAck 7 0 5000 1001 0 (Flags.syn ||| Flags.ack) []
/-- The ACK that completes the handshake. -/
def handshakeAck : Bytes := frame .Ack 7 0 1001 5001 0 Flags.ack []
/-- The byte, on stream 1. -/
def byteData : Bytes := frame .Data 7 1 0 0 32 Flags.none [42]
/-- Its acknowledgement. -/
def byteAck : Bytes := frame .Ack 7 1 0 1 32 Flags.none []

/-- A cycle in which these frames arrive. -/
def cycle (arrived : List Bytes) (now : ℚ) : SessionCall :=
  .pump none (arrived.map fun frame => (frame, now)) now now

/-- The first SYN is corrupted; its retransmission and the byte are duplicated. -/
def noisyRun : List LoopbackAction :=
  [.callA (.connect 0) fun _ => corrupting,
    .callB (cycle [LoopbackChannel.corruptFrame corrupting syn] 0) fun _ => quiet,
    .callA (cycle [] 1) fun _ => duplicating, .callB (cycle [syn, syn] 1) fun _ => quiet,
    .callA (cycle [synAck] 1) fun _ => quiet, .callB (cycle [handshakeAck] 1) fun _ => quiet,
    .callA (.sendOn 1 [42] 1) fun _ => duplicating,
    .callB (cycle [byteData, byteData] 1) fun _ => quiet,
    .callA (cycle [byteAck] 1) fun _ => quiet, .closeB]

end LoopbackLink

open LoopbackLink in
/-- The byte is sent and acknowledged, and nothing but it can have been received. -/
theorem loopback_delivers_noisyRun : ∃ c : LoopbackLink, c.a.stream.sent = [[42]] ∧
    c.a.stream.session.ackedBytes 1 = 1 ∧
    ((c.b.stream.received 1).flatten <+: c.a.stream.sent.flatten ∧
      c.a.stream.session.ackedBytes 1 ≤ (c.b.stream.received 1).flatten.length) ∧
    (c.a.stream.received 1).flatten <+: c.b.stream.sent.flatten ∧
      c.b.stream.session.ackedBytes 1 ≤ (c.a.stream.received 1).flatten.length := by
  obtain ⟨c, hrun, hsent, hacked⟩ := (system 1).exists_reach_of_exec (Orderly 1) noisyRun
    (.start (Session.create true 7 1000) (Session.create false 0 5000) (1 / 2) (1 / 2) (1 / 2) (1 / 2))
    (fun c => c.a.stream.sent = [[42]] ∧ c.a.stream.session.ackedBytes 1 = 1) (by decide +kernel)
  exact ⟨c, hsent, hacked, loopback_delivers (by decide)
    ⟨⟨by decide, by decide⟩, 7, 1000, _, _, _, _, _, _, _, rfl⟩
    ⟨⟨by decide, by decide⟩, 0, 5000, _, _, _, _, _, _, _, rfl⟩ (by decide) (by decide) hrun⟩

end PhotonTCP
