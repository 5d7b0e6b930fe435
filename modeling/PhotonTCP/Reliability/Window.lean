import PhotonTCP.Reliability.Holes
import PhotonTCP.Reliability.Network
import PhotonTCP.Reliability.Retransmissions

/-!
# The send window

A sender keeps within its own window and its peer's.  Whatever it queues is queued because something
is outstanding, whose timer can revive the transfer; a peer that always offers some room keeps it
so.

* `Flowing` — nothing is queued without something outstanding; `Flowing.apply`.
* `OpenWindow`, `flowing_of_reach` — the same for every history whose peer offers room.
* `ArqNetwork.Viewed` — what each endpoint of a two-party run has seen is a history of its own.
* **`window_invariant`** — in every reachable state of the two parties the outstanding numbers are
  the last ones before the next, nothing in flight lies beyond the receiver's window, and nothing is
  queued without something outstanding.

A stall would be silent: something is queued, nothing is outstanding, so no acknowledgement can
arrive that flushes the queue and no timer runs that would send anything again.  A window of zero
brings this about when the last outstanding packet is acknowledged with it.  So room has to be
offered with every packet, and the receiver of this protocol does: its buffer never fills up,
because a number that is buffered is never the next expected one, and the window it announces is
what is free.

The third part of the invariant, that the receiver accepts what is in flight, is where the two
windows are compared.  The sender keeps within its own, and the receiver buffers what lies within
its own, so the first must not be the larger one.
-/

namespace PhotonTCP

open ArqEndpoint SerialSpace

/-! ## One endpoint

First against any peer that offers room.  What the peer does otherwise, and what it is sent, does
not matter.
-/

/-- There is room at the peer, and nothing is queued without something outstanding. -/
structure Flowing (ep : ArqEndpoint) : Prop where
  opened : 1 ≤ ep.peerWindow
  busy : ep.pending ≠ [] → ep.outstanding.size ≠ 0

lemma size_set_ne_zero (d : Dict ℤ Outstanding) (s : ℤ) (o : Outstanding) :
    (d.set s o).size ≠ 0 := by
  intro hzero
  have hmem : (s, o) ∈ (d.set s o).entries := Dict.mem_entries_set.mpr (Or.inl rfl)
  rw [List.eq_nil_of_length_eq_zero hzero] at hmem
  exact List.not_mem_nil hmem

/-- A full window is not empty. -/
lemma size_ne_zero_of_not_canSend {ep : ArqEndpoint} (hopen : 1 ≤ ep.peerWindow)
    (hfull : ¬ ep.canSend) : ep.outstanding.size ≠ 0 := by
  intro hzero
  have hpos := ep.windowSize_pos
  simp only [canSend, sendLimit, hzero] at hfull
  omega

/-- The peer offers room. -/
def OpenWindow : ArqInput → Prop
  | .packet pkt _ => 1 ≤ pkt.window
  | _ => True

namespace Flowing

variable {ep : ArqEndpoint} {now : ℚ}

/-- What does not fit the window is queued, and then the window is full. -/
theorem sendLoop : ∀ (cs : List Bytes) (ep : ArqEndpoint), Flowing ep →
    Flowing (sendLoop now cs ep).2 := by
  intro cs
  induction cs with
  | nil => exact fun ep hf => hf
  | cons chunk cs ih =>
      intro ep hf
      rw [ArqEndpoint.sendLoop]
      split_ifs with hroom
      · exact ih _ ⟨hf.opened, fun _ => size_set_ne_zero _ _ _⟩
      · exact ih _ ⟨hf.opened, fun _ => size_ne_zero_of_not_canSend hf.opened hroom⟩

/-- Flushing stops at the end of the queue or at a full window. -/
theorem flushLoop : ∀ (cs : List Bytes) (ep : ArqEndpoint), 1 ≤ ep.peerWindow →
    Flowing (flushLoop now cs ep).2 := by
  intro cs
  induction cs with
  | nil => exact fun ep hopen => ⟨hopen, fun hsome => absurd rfl hsome⟩
  | cons chunk cs ih =>
      intro ep hopen
      rw [ArqEndpoint.flushLoop]
      split_ifs with hroom
      · exact ih _ hopen
      · exact ⟨hopen, fun _ => size_ne_zero_of_not_canSend hopen hroom⟩

/-- Timers queue nothing, and remove nothing from the window. -/
theorem tickLoop : ∀ (es : List (ℤ × Outstanding)) (ep : ArqEndpoint), Flowing ep →
    Flowing (tickLoop now es ep).2 := by
  intro es
  induction es with
  | nil => exact fun ep hf => ⟨hf.opened, hf.busy⟩
  | cons e es ih =>
      intro ep hf
      rw [ArqEndpoint.tickLoop]
      split_ifs
      · exact ⟨hf.opened, hf.busy⟩
      · exact ih _ ⟨hf.opened, fun _ => size_set_ne_zero _ _ _⟩

/-- An ACK that leaves room; the queue is flushed, since no measurement is refused. -/
lemma onAck {pkt : Packet} (hopen : 1 ≤ pkt.window)
    (hsent : ∀ e ∈ ep.outstanding.entries, e.2.sendTime ≤ now) : Flowing (ep.onAck pkt now).2 := by
  obtain ⟨outstanding, ackedBytes, rto, hframe⟩ :=
    ackLoop_frame now (ep.covered pkt.ack) { ep with peerWindow := pkt.window }
  have hwindow : (ackLoop now (ep.covered pkt.ack)
      { ep with peerWindow := pkt.window }).2.peerWindow = pkt.window := by rw [hframe]
  rw [ep.onAck_of_ok (ackLoop_ok _ _ fun e he => hsent e (List.mem_filter.mp he).1)]
  exact flushLoop _ _ (by rw [hwindow]; exact hopen)

lemma onNack (hf : Flowing ep) {pkt : Packet} (hopen : 1 ≤ pkt.window) :
    Flowing (ep.onNack pkt now).2 := by
  rw [ArqEndpoint.onNack]
  dsimp only
  cases ep.outstanding.get? pkt.ack with
  | none => exact ⟨hopen, hf.busy⟩
  | some o => exact ⟨hopen, fun _ => size_set_ne_zero _ _ _⟩

/-- **One input.** -/
theorem apply (hf : Flowing ep) {i : ArqInput} (hopen : OpenWindow i)
    (hsent : ∀ e ∈ ep.outstanding.entries, e.2.sendTime ≤ i.now) : Flowing (ep.apply i).2 := by
  cases i with
  | send data now =>
      rw [ArqEndpoint.apply, ArqEndpoint.send]
      split_ifs
      · exact hf
      · exact sendLoop _ _ hf
  | tick now =>
      rw [ArqEndpoint.apply, ArqEndpoint.onTick]
      split_ifs
      · exact hf
      · exact hf
      · exact tickLoop _ _ hf
  | packet pkt now =>
      show Flowing (ep.onPacket pkt now).2
      rcases ep.onPacket_cases pkt now with heq | ⟨-, heq⟩ | ⟨-, heq⟩ | ⟨-, heq⟩
      · rw [heq]
        exact hf
      · obtain ⟨rcvBase, reorder, nacked, hframe⟩ := ep.onData_frame pkt
        rw [heq, hframe]
        exact ⟨hf.opened, hf.busy⟩
      · rw [heq]
        exact onAck hopen hsent
      · rw [heq]
        exact hf.onNack hopen

end Flowing

/-- The peer offers room, and time does not go back. -/
def Fair (h : ArqHistory) (i : ArqInput) : Prop := h.InTime i ∧ OpenWindow i

namespace ArqHistory

variable {h : ArqHistory}

/-- The outstanding packets fit the endpoint's own window. -/
def Fitting (h : ArqHistory) : Prop := (h.ep.outstanding.size : ℤ) ≤ h.ep.windowSize

lemma Fitting.move (hfit : Fitting h) {m : Move} (hm : h.Movable m) : Fitting (h.move m) := by
  have hwindow := (h.config_move m).1
  have hemit : h.ep.canSend → ∀ o : Outstanding,
      ((h.ep.outstanding.set h.ep.nextSeq o).size : ℤ) ≤ h.ep.windowSize := by
    intro hroom o
    simp only [canSend, sendLimit] at hroom
    rw [Dict.size_set]
    split_ifs <;> push_cast <;> omega
  rw [Fitting, hwindow]
  cases m with
  | emit chunk => exact hemit hm _
  | flush chunk => exact hemit hm.1 _
  | again s o =>
      have hkey := Dict.mem_keys_of_mem (Dict.mem_entries_iff.mpr hm)
      show ((h.ep.outstanding.set s _).size : ℤ) ≤ h.ep.windowSize
      rw [Dict.size_set, if_pos hkey]
      exact hfit
  | remove s o =>
      have hle : ((h.ep.outstanding.erase s).size : ℤ) ≤ h.ep.outstanding.size := by
        exact_mod_cast Dict.size_erase_le _ _
      exact hle.trans hfit
  | data pkt =>
      obtain ⟨rcvBase, reorder, nacked, hframe⟩ := h.ep.onData_frame pkt
      show ((h.ep.onData pkt).2.outstanding.size : ℤ) ≤ h.ep.windowSize
      rw [hframe]
      exact hfit
  | _ => exact hfit

/-- What the small steps of one input keep. -/
lemma Fitting.next (hfit : Fitting h) (i : ArqInput) : Fitting (h.next i) :=
  (next_run h i).invariant hfit fun _ _ hfit hm _ => hfit.move hm

lemma Punctual.next (hp : Punctual h) {i : ArqInput} (htime : h.InTime i) : Punctual (h.next i) :=
  (next_run h i).invariant (hp.congr rfl htime rfl) fun _ _ hp hm _ => hp.move hm

end ArqHistory

variable {sessionId sendIsn windowSize maxPayload recvIsn streamId maxRetx : ℤ} {rto : RtoEstimator}
  {ep : ArqEndpoint}

/-- What a sender keeps whose peer always offers room. -/
structure Steady (h : ArqHistory) : Prop where
  flowing : Flowing h.ep
  punctual : h.Punctual
  fitting : h.Fitting

/-- **No silent stall**: if the peer always offers room, nothing is ever queued without something
outstanding. -/
theorem flowing_of_reach {clock : ℚ} {h : ArqHistory}
    (hcreate : create sessionId sendIsn windowSize rto maxPayload recvIsn streamId maxRetx = .ok ep)
    (hreach : ArqHistory.system.Reach Fair (ArqHistory.start ep clock) h) :
    Steady h := by
  refine hreach.invariant ?_ ?_
  · refine ⟨?_, ArqHistory.Punctual.start hcreate clock, ?_⟩
    all_goals obtain ⟨hwindow, -, -, rfl⟩ := create_eq_ok_iff.mp hcreate
    · exact ⟨hwindow, fun hsome => absurd rfl hsome⟩
    · show ((0 : ℕ) : ℤ) ≤ windowSize
      push_cast
      omega
  · rintro h i hs - ⟨htime, hopen⟩
    refine ⟨hs.flowing.apply hopen fun e he => ?_, hs.punctual.next htime, hs.fitting.next i⟩
    exact (hs.punctual.outstanding e he).trans htime

/-! ## The two parties

The other endpoint is such a peer.  That is a theorem about its own history, and to use it the run
of two parties is taken apart into the histories of each.
-/

/-- Two fresh endpoints that belong together, the sender's window not larger than the receiver's. -/
structure Facing (isn : ℤ) (a b : ArqEndpoint) : Prop extends Matching isn a b where
  windowSize : a.windowSize ≤ b.windowSize

/-- Two fresh endpoints carry the empty transfer. -/
lemma Facing.carrying {isn : ℤ} {a b : ArqEndpoint} (hf : Facing isn a b) (clock : ℚ) :
    Carrying isn (ArqNetwork.start a b clock) Transfer.empty :=
  Carrying.start hf.toMatching clock

namespace ArqNetwork

/-- What each endpoint has seen is a history of its own; what the one was given, the other has
emitted. -/
structure Viewed (a b : ArqEndpoint) (clock : ℚ) (net : ArqNetwork) : Prop where
  viewA : ∃ h, ArqHistory.system.Reach Fair (ArqHistory.start a clock) h ∧ h.ep = net.a ∧
    h.clock ≤ net.clock
  viewB : ∃ h, ArqHistory.system.Reach Transition.free (ArqHistory.start b clock) h ∧
    h.ep = net.b ∧ (∀ pkt ∈ h.received, pkt ∈ net.emittedA ∧ pkt.type = .Data) ∧
    h.emitted.map Emission.packet = net.emittedB

variable {isn : ℤ} {a b : ArqEndpoint} {clock : ℚ} {net : ArqNetwork} {t : Transfer}

/-- Nothing has been seen. -/
lemma Viewed.start (a b : ArqEndpoint) (clock : ℚ) : Viewed a b clock (start a b clock) :=
  ⟨⟨_, Transition.Reach.refl, rfl, le_rfl⟩,
    ⟨_, Transition.Reach.refl, rfl, fun _ hp => absurd hp List.not_mem_nil, rfl⟩⟩

/-- A step of `a`. -/
lemma Viewed.stepA (hv : Viewed a b clock net) {i : ArqInput} {net' : ArqNetwork}
    (htime : net.clock ≤ i.now) (hopen : OpenWindow i) (ha : net'.a = (net.a.apply i).2)
    (hb : net'.b = net.b) (hclock : net'.clock = i.now)
    (hemittedA : net'.emittedA = net.emittedA ++ (net.a.apply i).1.packets)
    (hemittedB : net'.emittedB = net.emittedB) : Viewed a b clock net' := by
  obtain ⟨⟨h, hreach, hep, hpast⟩, ⟨g, hreachB, hepB, hreceived, hemitted⟩⟩ := hv
  refine ⟨⟨h.next i, hreach.tail trivial ⟨hpast.trans htime, hopen⟩, ?_, hclock.ge⟩,
    ⟨g, hreachB, hepB.trans hb.symm, fun pkt hp => ?_, hemitted.trans hemittedB.symm⟩⟩
  · rw [ha, ← hep]
    rfl
  · rw [hemittedA]
    exact ⟨List.mem_append_left _ (hreceived pkt hp).1, (hreceived pkt hp).2⟩

/-- A step of `b`. -/
lemma Viewed.stepB (hv : Viewed a b clock net) {i : ArqInput} {net' : ArqNetwork}
    (hfrom : ∀ pkt now, i = .packet pkt now → pkt ∈ net.emittedA) (htime : net.clock ≤ net'.clock)
    (ha : net'.a = net.a) (hb : net'.b = (net.b.apply i).2)
    (hemittedA : net'.emittedA = net.emittedA)
    (hemittedB : net'.emittedB = net.emittedB ++ (net.b.apply i).1.packets) :
    Viewed a b clock net' := by
  obtain ⟨⟨h, hreach, hep, hpast⟩, ⟨g, hreachB, hepB, hreceived, hemitted⟩⟩ := hv
  refine ⟨⟨h, hreach, hep.trans ha.symm, hpast.trans htime⟩,
    ⟨g.next i, hreachB.tail trivial trivial, ?_, fun pkt hp => ?_, ?_⟩⟩
  · rw [hb, ← hepB]
    rfl
  · rw [hemittedA]
    rcases List.mem_append.mp hp with hold | hnew
    · exact hreceived pkt hold
    · cases i with
      | packet p now =>
          simp only [ArqEndpoint.dataOf] at hnew
          split_ifs at hnew with hdata
          · rw [List.mem_singleton.mp hnew]
            exact ⟨hfrom p now rfl, hdata.2⟩
          · exact absurd hnew List.not_mem_nil
      | _ => exact absurd hnew List.not_mem_nil
  · rw [hemittedB, ← hemitted, ← hepB]
    simp [ArqHistory.next]

/-- Every packet of the receiver offers room. -/
lemma Viewed.opened (hv : Viewed a b clock net) (hf : Facing isn a b) (hc : Carrying isn net t) :
    ∀ pkt ∈ net.emittedB, 1 ≤ pkt.window := by
  obtain ⟨h, hreach, -, hreceived, hemitted⟩ := hv.viewB
  obtain ⟨_, _, _, _, _, _, _, hb⟩ := hf.createdB
  obtain ⟨-, ha⟩ := standing_of_reach hb hreach fun pkt hp => by
    obtain ⟨hmem, htype⟩ := hreceived pkt hp
    obtain ⟨i, -, hseq⟩ := hc.fromA pkt hmem htype
    rw [hseq]
    exact seqAdd_bounds _ _
  intro pkt hp
  rw [← hemitted] at hp
  obtain ⟨e, he, rfl⟩ := List.mem_map.mp hp
  exact (ha.emitted e he).1

/-- **Every step of the two is a step of one of them.** -/
theorem Viewed.next (hv : Viewed a b clock net) (hopen : ∀ pkt ∈ net.emittedB, 1 ≤ pkt.window)
    {act : ArqAction} (he : net.enabled act) : Viewed a b clock (net.next act) := by
  cases act with
  | sendA data now => exact hv.stepA (i := .send data now) he.1 trivial rfl rfl rfl rfl rfl
  | tickA now => exact hv.stepA (i := .tick now) he trivial rfl rfl rfl rfl rfl
  | deliverA pkt now =>
      exact hv.stepA (i := .packet pkt now) he.1 (hopen pkt he.2) rfl rfl rfl rfl rfl
  | sendB data now =>
      exact hv.stepB (i := .send data now) (fun _ _ hi => by cases hi) he rfl rfl rfl rfl
  | tickB now => exact hv.stepB (i := .tick now) (fun _ _ hi => by cases hi) he rfl rfl rfl rfl
  | deliverB pkt now =>
      refine hv.stepB (i := .packet pkt now) (fun p s hi => ?_) he.1 rfl rfl rfl rfl
      cases hi
      exact he.2

/-- Both views of every run. -/
lemma Viewed.of_reach (hf : Facing isn a b)
    (hreach : system.Reach Transition.free (ArqNetwork.start a b clock) net) :
    ∃ t, Carrying isn net t ∧ Viewed a b clock net := by
  refine hreach.invariant (I := fun net => ∃ t, Carrying isn net t ∧ Viewed a b clock net)
    ⟨_, hf.carrying clock, Viewed.start a b clock⟩ ?_
  rintro net act ⟨t, hc, hv⟩ he -
  obtain ⟨t', -, hc', -⟩ := hc.step he
  exact ⟨t', hc', hv.next (hv.opened hf hc) he⟩

end ArqNetwork

/-- **The send window**, in every reachable state of the two parties.  The outstanding numbers are
the `k` last ones before the next, and `k` is at most the window; every DATA packet in flight has
been delivered or lies within the window behind the receiver's next number, which accepts it; and
nothing is queued without something outstanding. -/
theorem window_invariant {isn : ℤ} {a b : ArqEndpoint} (hf : Facing isn a b) {clock : ℚ}
    {net : ArqNetwork}
    (hreach : ArqNetwork.system.Reach Transition.free (ArqNetwork.start a b clock) net) :
    (∃ k : ℕ, (k : ℤ) ≤ net.a.windowSize ∧
      net.a.outstanding.keys =
        (List.range k).map fun j : ℕ => seqAdd net.a.nextSeq ((j : ℤ) - k)) ∧
    (∀ pkt ∈ net.emittedA, pkt.type = .Data →
      (seqLt pkt.seq net.b.rcvBase ∨
        0 ≤ seqDiff pkt.seq net.b.rcvBase ∧ seqDiff pkt.seq net.b.rcvBase < net.a.windowSize) ∧
      (seqLt net.b.rcvBase pkt.seq → seqDiff pkt.seq net.b.rcvBase < net.b.windowSize)) ∧
    (net.a.pending ≠ [] → net.a.outstanding.keys ≠ []) := by
  obtain ⟨t, hc, hv⟩ := ArqNetwork.Viewed.of_reach hf hreach
  obtain ⟨h, hreachA, hepA, -⟩ := hv.viewA
  obtain ⟨g, hreachB, hepB, -⟩ := hv.viewB
  obtain ⟨_, _, _, _, _, _, _, ha⟩ := hf.createdA
  have hsteady := flowing_of_reach ha hreachA
  have hkeys := hc.sender.keys_eq
  have hfit : ((t.log.length - t.acked : ℕ) : ℤ) ≤ net.a.windowSize := by
    have hsize := hsteady.fitting
    rw [ArqHistory.Fitting, hepA, Dict.size_eq_length_keys, hkeys, List.length_map,
      List.length_range'] at hsize
    exact hsize
  have hown : net.a.windowSize ≤ net.b.windowSize := by
    rw [← hepA, ← hepB, ArqHistory.windowSize_of_reach hreachA,
      ArqHistory.windowSize_of_reach hreachB]
    exact hf.windowSize
  have hlog := hc.sender.bounded
  have hacked := t.acked_le
  have hreceived := t.received_le
  refine ⟨⟨t.log.length - t.acked, hfit, ?_⟩, ?_, ?_⟩
  · rw [hkeys, hc.sender.nextSeq, List.range'_eq_map_range, List.map_map]
    refine List.map_congr_left fun j hj => ?_
    rw [List.mem_range] at hj
    show seqOf isn (t.acked + j) = seqAdd (seqOf isn t.log.length) _
    rw [seqAdd_eq, seqOf, seqOf, wrap_add_wrap]
    congr 1
    push_cast
    omega
  · intro pkt hp htype
    obtain ⟨i, hi, hseq⟩ := hc.fromA pkt hp htype
    have hlt : i < t.log.length := (List.getElem?_eq_some_iff.mp hi).1
    have hbefore : seqLt (seqOf isn i) (seqOf isn t.received) ↔ i < t.received :=
      seqLt_seqOf (by omega) (by omega)
    have hdistance : seqDiff (seqOf isn i) (seqOf isn t.received) = (i : ℤ) - t.received :=
      seqDiff_seqOf (by omega) (by omega)
    rw [hseq, hc.receiver.rcvBase, hbefore, hdistance]
    refine ⟨?_, fun _ => by omega⟩
    rcases Nat.lt_or_ge i t.received with hold | hnew
    · exact .inl hold
    · exact .inr ⟨by omega, by omega⟩
  · intro hsome hnone
    refine hsteady.flowing.busy (by rwa [hepA]) ?_
    rw [hepA, Dict.size_eq_length_keys, hnone, List.length_nil]

/-- Endpoints with one configuration face each other. -/
lemma Paired.facing {isn : ℤ} {a b : ArqEndpoint} (h : Paired isn a b) : Facing isn a b :=
  ⟨h.toMatching, h.windowSize.le⟩

/-- Four chunks in a window of three. -/
theorem window_invariant_fullWindow : ∃ net : ArqNetwork,
    net.a.pending = [[13]] ∧ net.a.outstanding.keys ≠ [] ∧
    ∃ k : ℕ, (k : ℤ) ≤ net.a.windowSize ∧ net.a.outstanding.keys =
      (List.range k).map fun j : ℕ => seqAdd net.a.nextSeq ((j : ℤ) - k) := by
  obtain ⟨net, hreach, hpending⟩ := ArqNetwork.system.exists_reach_of_exec Transition.free
    [.sendA [10, 11, 12, 13] 0, .deliverB (pairData 1 [11]) 0] (ArqNetwork.start pairA pairB 0)
    (fun net => net.a.pending = [[13]]) (by decide +kernel)
  obtain ⟨hrun, -, hbusy⟩ := window_invariant paired.facing hreach
  exact ⟨net, hpending, hbusy (by rw [hpending]; exact List.cons_ne_nil _ _), hrun⟩

end PhotonTCP
