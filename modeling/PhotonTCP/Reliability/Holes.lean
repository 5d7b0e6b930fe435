import PhotonTCP.Reliability.History

/-!
# The receiver against any peer

The receiving half of an endpoint, whatever DATA packets it is given: their numbers are 32-bit
numbers and nothing else is known of them.

* `Buffering` — every buffered number lies ahead of the next expected one, within the window; so
  there is always room to advertise (`Buffering.window`).
* `Standing` — where the receiver stands after what it delivered, and where every delivered and
  buffered payload comes from.
* **`receiver_invariant`** — the representation invariant in every history.
* `Nacking` — the hole it waits for, and what it has said about it.
* **`nack_discipline`** — a hole is reported at once, once, and only if it is one.

Without knowing who sends, little can be said about what is delivered: it is what came under the
next number, each time.  But the state of the receiver is in order whatever comes.  The reason is
that a number is buffered only if its distance from the next expected one is positive and less than
the window, that the two bounds are kept when the receiver moves on by one, and that a move past a
buffered number takes it out of the buffer.

About the window nothing is assumed but that it is positive.  It may be larger than half of the
space, and then the comparison of numbers is what limits the buffer; the proofs never need more than
that different buffered numbers have different distances.

What the receiver says about holes depends on its whole past, because it says everything once.
`Nacking` is the invariant for this.  The number it waits for has been reported if something
is buffered behind it, the record of reported numbers is cut down to those still ahead, and that no
number is reported twice then rests on the receiver not coming back to a number that it has passed,
which is why fewer than half a space of packets are considered.
-/

namespace PhotonTCP

open SerialSpace ArqEndpoint

/-! ## The reorder buffer

The number of entries is bounded by the number of distances that are possible.
-/

/-- The number lies ahead of the next expected one, within the window. -/
structure Ahead (ep : ArqEndpoint) (s : ℤ) : Prop where
  bits : 0 ≤ s ∧ s < 2 ^ 32
  pos : 0 < seqDiff s ep.rcvBase
  lt : seqDiff s ep.rcvBase < ep.windowSize

/-- All buffered numbers do. -/
def Buffering (ep : ArqEndpoint) : Prop := ∀ s ∈ ep.reorder.keys, Ahead ep s

namespace Buffering

variable {ep ep' : ArqEndpoint}

/-- The distances of the buffered numbers are different and smaller than the window. -/
theorem size_le (h : Buffering ep) : (ep.reorder.size : ℤ) ≤ ep.windowSize - 1 := by
  have hcard : ep.reorder.keys.toFinset.card ≤ (Finset.Icc 1 (ep.windowSize - 1)).card := by
    refine Finset.card_le_card_of_injOn (fun s => seqDiff s ep.rcvBase) ?_ ?_
    · intro s hs
      obtain ⟨-, hpos, hlt⟩ := h s (List.mem_toFinset.mp hs)
      simp only [Finset.coe_Icc, Set.mem_Icc]
      omega
    · intro s hs t ht heq
      exact seqDiff_inj (h s (List.mem_toFinset.mp hs)).bits (h t (List.mem_toFinset.mp ht)).bits heq
  have hsize : ep.reorder.keys.toFinset.card = ep.reorder.size := by
    rw [List.toFinset_card_of_nodup ep.reorder.keys_nodup, Dict.keys, List.length_map,
      Dict.length_entries]
  have hwindow := ep.windowSize_pos
  rw [hsize, Int.card_Icc] at hcard
  omega

/-- **There is always room to advertise.** -/
theorem window (h : Buffering ep) :
    1 ≤ ep.recvAdvertisedWindow ∧ ep.recvAdvertisedWindow ≤ ep.windowSize := by
  have hsize := h.size_le
  simp only [recvAdvertisedWindow]
  split_ifs <;> omega

/-- The next expected number is not buffered. -/
lemma rcvBase_notMem (h : Buffering ep) : ep.rcvBase ∉ ep.reorder.keys := by
  intro hmem
  have hpos := (h _ hmem).pos
  simp [seqDiff] at hpos
  revert hpos
  decide

lemma congr (h : Buffering ep) (hreorder : ep'.reorder = ep.reorder)
    (hbase : ep'.rcvBase = ep.rcvBase) (hwindow : ep'.windowSize = ep.windowSize) :
    Buffering ep' := by
  intro s hs
  rw [hreorder] at hs
  obtain ⟨hbits, hpos, hlt⟩ := h s hs
  exact ⟨hbits, by rwa [hbase], by rwa [hbase, hwindow]⟩

end Buffering

/-! ## One DATA packet

Three things can happen to it.  If it is the next one, the buffer is drained as far as it goes, and
during that loop the invariant holds but for the number that is about to be taken out.
-/

/-- While the buffer is drained, the next expected number may be buffered too. -/
structure Draining (ep : ArqEndpoint) (s : ℤ) : Prop where
  bits : 0 ≤ s ∧ s < 2 ^ 32
  nonneg : 0 ≤ seqDiff s ep.rcvBase
  lt : seqDiff s ep.rcvBase < ep.windowSize

namespace Draining

variable {ep : ArqEndpoint} {s : ℤ}

/-- Apart from the next expected number. -/
lemma ahead (h : Draining ep s) (hbase : 0 ≤ ep.rcvBase ∧ ep.rcvBase < 2 ^ 32)
    (hne : s ≠ ep.rcvBase) : Ahead ep s := by
  refine ⟨h.bits, lt_of_le_of_ne h.nonneg fun hzero => hne ?_, h.lt⟩
  refine seqDiff_inj h.bits hbase (hzero.symm.trans ?_)
  simp only [seqDiff, sub_self]
  decide

/-- One number on, what was ahead may be next. -/
lemma of_ahead (h : Ahead ep s) (reorder : Dict ℤ Bytes) :
    Draining { ep with rcvBase := seqAdd ep.rcvBase 1, reorder } s := by
  have hstep := seqDiff_seqAdd_one h.pos
  have hpos := h.pos
  have hlt := h.lt
  refine ⟨h.bits, ?_, ?_⟩
  · show 0 ≤ seqDiff s (seqAdd ep.rcvBase 1)
    omega
  · show seqDiff s (seqAdd ep.rcvBase 1) < ep.windowSize
    omega

end Draining

/-- A run of the drain loop: what was delivered stood in the buffer, under the next numbers. -/
structure Drained (isn : ℤ) (n : ℕ) (ep : ArqEndpoint) (out : List Bytes) (ep' : ArqEndpoint) :
    Prop where
  rcvBase : ep'.rcvBase = nthSeq isn (n + out.length)
  delivered : ∀ j c, out[j]? = some c → (nthSeq isn (n + j), c) ∈ ep.reorder.entries
  buffered : ∀ e ∈ ep'.reorder.entries, e ∈ ep.reorder.entries
  size : out.length + ep'.reorder.size ≤ ep.reorder.size

/-- **The loop of `acceptData`** takes numbers that follow one another off the buffer. -/
theorem drainLoop_drained {isn : ℤ} : ∀ (fuel n : ℕ) (ep : ArqEndpoint),
    ep.rcvBase = nthSeq isn n → Drained isn n ep (drainLoop fuel ep).1 (drainLoop fuel ep).2 := by
  intro fuel
  induction fuel with
  | zero =>
      intro n ep hbase
      exact ⟨hbase, by simp [drainLoop], fun e he => he, by simp [drainLoop]⟩
  | succ fuel ih =>
      intro n ep hbase
      rw [drainLoop]
      cases hget : ep.reorder.get? ep.rcvBase with
      | none => exact ⟨hbase, by simp, fun e he => he, by simp⟩
      | some payload =>
          have hmem := Dict.mem_entries_iff.mpr hget
          have hsize := Dict.size_erase_lt (Dict.mem_keys_of_mem hmem)
          have hrest := ih (n + 1)
            { ep with reorder := ep.reorder.erase ep.rcvBase, rcvBase := seqAdd ep.rcvBase 1 }
            (by rw [hbase, seqAdd_nthSeq])
          have hle : _ ≤ (ep.reorder.erase ep.rcvBase).size := hrest.size
          generalize drainLoop fuel
            { ep with reorder := ep.reorder.erase ep.rcvBase, rcvBase := seqAdd ep.rcvBase 1 } = r
            at hrest hle ⊢
          refine ⟨?_, ?_, ?_, ?_⟩
          · rw [List.length_cons, hrest.rcvBase, Nat.add_assoc, Nat.add_comm 1]
          · intro j c hj
            cases j with
            | zero =>
                rw [List.getElem?_cons_zero, Option.some.injEq] at hj
                rwa [Nat.add_zero, ← hbase, ← hj]
            | succ j =>
                rw [List.getElem?_cons_succ] at hj
                have hlater := hrest.delivered j c hj
                rw [Nat.add_assoc, Nat.add_comm 1] at hlater
                exact (Dict.mem_entries_erase.mp hlater).1
          · intro e he
            exact (Dict.mem_entries_erase.mp (hrest.buffered e he)).1
          · show (payload :: r.1).length + r.2.reorder.size ≤ ep.reorder.size
            rw [List.length_cons]
            omega

/-- Draining keeps the buffered numbers in the window. -/
theorem drainLoop_draining : ∀ (fuel : ℕ) (ep : ArqEndpoint),
    (0 ≤ ep.rcvBase ∧ ep.rcvBase < 2 ^ 32) → (∀ s ∈ ep.reorder.keys, Draining ep s) →
    (0 ≤ (drainLoop fuel ep).2.rcvBase ∧ (drainLoop fuel ep).2.rcvBase < 2 ^ 32) ∧
      ∀ s ∈ (drainLoop fuel ep).2.reorder.keys, Draining (drainLoop fuel ep).2 s := by
  intro fuel
  induction fuel with
  | zero => exact fun ep hbase h => ⟨hbase, h⟩
  | succ fuel ih =>
      intro ep hbase h
      rw [drainLoop]
      cases ep.reorder.get? ep.rcvBase with
      | none => exact ⟨hbase, h⟩
      | some payload =>
          refine ih _ (seqAdd_bounds _ _) fun s hs => ?_
          obtain ⟨hmem, hne⟩ := Dict.mem_keys_erase.mp hs
          exact Draining.of_ahead ((h s hmem).ahead hbase hne) _

/-- A payload and the number it came under. -/
def Source (ep : ArqEndpoint) (pkt : Packet) (s : ℤ) (chunk : Bytes) : Prop :=
  (s, chunk) ∈ ep.reorder.entries ∨ s = pkt.seq ∧ chunk = pkt.payload

/-- What a DATA packet does to the receiving half. -/
structure Accepted (isn : ℤ) (n : ℕ) (ep : ArqEndpoint) (pkt : Packet) (out : List Bytes)
    (ep' : ArqEndpoint) : Prop where
  buffering : Buffering ep'
  rcvBase : ep'.rcvBase = nthSeq isn (n + out.length)
  delivered : ∀ j c, out[j]? = some c → Source ep pkt (nthSeq isn (n + j)) c
  buffered : ∀ e ∈ ep'.reorder.entries, Source ep pkt e.1 e.2
  size : out.length + ep'.reorder.size ≤ ep.reorder.size + 1
  nacked : ep'.nacked = if out = [] then ep.nacked else ep.nacked.filter fun s => seqLt ep'.rcvBase s

/-- Nothing happens. -/
lemma Accepted.discard {isn : ℤ} {n : ℕ} {ep : ArqEndpoint} (h : Buffering ep)
    (hbase : ep.rcvBase = nthSeq isn n) (pkt : Packet) : Accepted isn n ep pkt [] ep :=
  ⟨h, hbase, by simp, fun e he => .inl he, by simp, by simp⟩

/-- **A DATA packet with any 32-bit number** is delivered with what it releases, buffered within
the window, or discarded. -/
theorem Buffering.acceptData {isn : ℤ} {n : ℕ} {ep : ArqEndpoint} {pkt : Packet} (h : Buffering ep)
    (hbase : ep.rcvBase = nthSeq isn n) (hbits : 0 ≤ pkt.seq ∧ pkt.seq < 2 ^ 32) :
    Accepted isn n ep pkt (ep.acceptData pkt).1 (ep.acceptData pkt).2 := by
  rw [ArqEndpoint.acceptData]
  split_ifs with hnext hahead hroom
  · -- the next expected number
    have hdrained : Drained isn (n + 1) _ _ _ := drainLoop_drained ep.reorder.size (n + 1)
      { ep with rcvBase := seqAdd ep.rcvBase 1 } (by rw [hbase, seqAdd_nthSeq])
    obtain ⟨hbits', hdraining⟩ := drainLoop_draining ep.reorder.size
      { ep with rcvBase := seqAdd ep.rcvBase 1 } (seqAdd_bounds _ _)
      fun s hs => Draining.of_ahead (h s hs) ep.reorder
    have hnone : (drainLoop ep.reorder.size { ep with rcvBase := seqAdd ep.rcvBase 1 }).2.reorder.get?
        (drainLoop ep.reorder.size { ep with rcvBase := seqAdd ep.rcvBase 1 }).2.rcvBase = none :=
      get?_drainLoop (le_refl ep.reorder.size)
    have hnacked : (drainLoop ep.reorder.size { ep with rcvBase := seqAdd ep.rcvBase 1 }).2.nacked
        = ep.nacked := by
      obtain ⟨rcvBase, reorder, hframe⟩ := drainLoop_frame ep.reorder.size
        { ep with rcvBase := seqAdd ep.rcvBase 1 }
      rw [hframe]
    generalize drainLoop ep.reorder.size { ep with rcvBase := seqAdd ep.rcvBase 1 } = r at *
    have hbuffering : Buffering r.2 := by
      intro s hs
      refine (hdraining s hs).ahead hbits' fun heq => ?_
      rw [heq] at hs
      exact Dict.get?_eq_none_iff.mp hnone hs
    refine ⟨hbuffering.congr rfl rfl rfl, ?_, ?_, ?_, ?_, ?_⟩
    · show r.2.rcvBase = nthSeq isn (n + (pkt.payload :: r.1).length)
      rw [hdrained.rcvBase, List.length_cons, Nat.add_assoc, Nat.add_comm 1]
    · intro j c hj
      cases j with
      | zero =>
          rw [List.getElem?_cons_zero, Option.some.injEq] at hj
          exact .inr ⟨by rw [Nat.add_zero, ← hbase, hnext], hj.symm⟩
      | succ j =>
          rw [List.getElem?_cons_succ] at hj
          have hlater := hdrained.delivered j c hj
          rw [Nat.add_assoc, Nat.add_comm 1] at hlater
          exact .inl hlater
    · exact fun e he => .inl (hdrained.buffered e he)
    · have hle : r.1.length + r.2.reorder.size ≤ ep.reorder.size := hdrained.size
      show (pkt.payload :: r.1).length + r.2.reorder.size ≤ ep.reorder.size + 1
      rw [List.length_cons]
      omega
    · rw [if_neg (List.cons_ne_nil _ _), ← hnacked]
      rfl
  · -- ahead, within the window, and new
    have hkeys : ∀ s, s ∈ (ep.reorder.set pkt.seq pkt.payload).keys → s = pkt.seq ∨ s ∈ ep.reorder.keys :=
      fun s => Dict.mem_keys_set.mp
    refine ⟨?_, hbase, by simp, ?_, ?_, by simp⟩
    · intro s hs
      rcases hkeys s hs with rfl | hold
      · exact ⟨hbits, (seqLt_iff_seqDiff_pos _ _).mp hahead, hroom.1⟩
      · obtain ⟨hb, hpos, hlt⟩ := h s hold
        exact ⟨hb, hpos, hlt⟩
    · rintro ⟨s, c⟩ he
      replace he : (s, c) ∈ (ep.reorder.set pkt.seq pkt.payload).entries := he
      rw [Dict.entries_set_of_notMem _ hroom.2, List.mem_append, List.mem_singleton] at he
      rcases he with hold | hnew
      · exact .inl hold
      · obtain ⟨rfl, rfl⟩ := Prod.mk.inj hnew
        exact .inr ⟨rfl, rfl⟩
    · show 0 + (ep.reorder.set pkt.seq pkt.payload).size ≤ ep.reorder.size + 1
      rw [Dict.size, Dict.entries_set_of_notMem _ hroom.2, List.length_append, Dict.length_entries]
      simp
  · exact Accepted.discard h hbase pkt
  · exact Accepted.discard h hbase pkt

/-! ## The answer

If anything is buffered there is a hole, and it starts at the next expected number, since that is
never buffered.  So the walk of the code ends where it starts.
-/

lemma mem_of_highestKey {base m : ℤ} : ∀ {keys : List ℤ}, highestKey base keys = some m → m ∈ keys
  | k :: ks, h => by
      rw [highestKey, Option.some.injEq] at h
      have hmem : ∀ (ks : List ℤ) (k : ℤ),
          ks.foldl (fun best s => if seqDiff best base < seqDiff s base then s else best) k
            ∈ k :: ks := by
        intro ks
        induction ks with
        | nil => simp
        | cons s ks ih =>
            intro k
            rw [List.foldl_cons]
            split_ifs
            · exact List.mem_cons_of_mem _ (ih s)
            · rcases List.mem_cons.mp (ih k) with hk | hks
              · rw [hk]
                exact List.mem_cons_self
              · exact List.mem_cons_of_mem _ (List.mem_cons_of_mem _ hks)
      rw [← h]
      exact hmem ks k

/-- Without anything buffered there is no hole. -/
lemma lowestMissingSeq_of_empty {ep : ArqEndpoint} (h : ep.reorder.keys = []) :
    ep.lowestMissingSeq = none := by
  rw [lowestMissingSeq, h]
  rfl

/-- **The lowest missing number is the next expected one.** -/
theorem Buffering.lowestMissingSeq {ep : ArqEndpoint} (h : Buffering ep)
    (hsome : ep.reorder.keys ≠ []) : ep.lowestMissingSeq = some ep.rcvBase := by
  rw [ArqEndpoint.lowestMissingSeq]
  cases hhighest : highestKey ep.rcvBase ep.reorder.keys with
  | none =>
      cases hkeys : ep.reorder.keys with
      | nil => exact absurd hkeys hsome
      | cons k ks => simp [hkeys, highestKey] at hhighest
  | some highest =>
      have hahead := (seqLt_iff_seqDiff_pos ep.rcvBase highest).mpr
        (h highest (mem_of_highestKey hhighest)).pos
      dsimp only
      rw [walk, if_pos (Or.inl hahead), if_neg h.rcvBase_notMem]

/-- The answer to a DATA packet: a NACK of the next expected number if there is a hole that has not
been reported. -/
theorem Buffering.answerData {ep : ArqEndpoint} (h : Buffering ep) :
    ep.answerData =
      if ep.reorder.keys = [] ∨ ep.rcvBase ∈ ep.nacked then ([ep.ackPacket], ep)
      else ([ep.ackPacket, ep.nackPacket ep.rcvBase],
        { ep with nacked := insert ep.rcvBase ep.nacked }) := by
  rw [ArqEndpoint.answerData]
  by_cases hempty : ep.reorder.keys = []
  · rw [lowestMissingSeq_of_empty hempty, if_pos (Or.inl hempty)]
  · rw [h.lowestMissingSeq hempty]
    dsimp only
    by_cases hreported : ep.rcvBase ∈ ep.nacked
    · rw [if_neg (not_not.mpr hreported), if_pos (Or.inr hreported)]
    · rw [if_pos hreported, if_neg (not_or.mpr ⟨hempty, hreported⟩)]

/-! ## Every history

The number that is expected next says how many chunks have been delivered, in a history of any
length: it is the initial one and that many more.
-/

/-- A packet with that number and that payload was received. -/
def HeardAs (received : List Packet) (s : ℤ) (chunk : Bytes) : Prop :=
  ∃ pkt ∈ received, pkt.seq = s ∧ pkt.payload = chunk

/-- Where the receiver stands, and where what it delivered and buffered comes from. -/
structure Standing (isn : ℤ) (h : ArqHistory) : Prop where
  buffering : Buffering h.ep
  rcvBase : h.ep.rcvBase = nthSeq isn h.delivered.length
  delivered : ∀ k c, h.delivered[k]? = some c → HeardAs h.received (nthSeq isn k) c
  buffered : ∀ e ∈ h.ep.reorder.entries, HeardAs h.received e.1 e.2
  size : h.delivered.length + h.ep.reorder.size ≤ h.received.length

lemma HeardAs.append {received : List Packet} {s : ℤ} {chunk : Bytes}
    (h : HeardAs received s chunk) (more : List Packet) : HeardAs (received ++ more) s chunk := by
  obtain ⟨pkt, hmem, hpkt⟩ := h
  exact ⟨pkt, List.mem_append_left _ hmem, hpkt⟩

namespace Standing

variable {isn : ℤ} {h h' : ArqHistory}

lemma congr (hs : Standing isn h) (hbase : h'.ep.rcvBase = h.ep.rcvBase)
    (hreorder : h'.ep.reorder = h.ep.reorder) (hwindow : h'.ep.windowSize = h.ep.windowSize)
    (hdelivered : h'.delivered = h.delivered) (hreceived : h'.received = h.received) :
    Standing isn h' :=
  ⟨hs.buffering.congr hreorder hbase hwindow, by rw [hbase, hdelivered, hs.rcvBase],
    by rw [hdelivered, hreceived]; exact hs.delivered,
    by rw [hreorder, hreceived]; exact hs.buffered,
    by rw [hdelivered, hreorder, hreceived]; exact hs.size⟩

/-- What a DATA packet brings was received. -/
lemma heardAs (hs : Standing isn h) {pkt : Packet} {s : ℤ} {chunk : Bytes}
    (hsource : Source h.ep pkt s chunk) : HeardAs (h.received ++ [pkt]) s chunk := by
  rcases hsource with hold | ⟨rfl, rfl⟩
  · exact (hs.buffered (s, chunk) hold).append [pkt]
  · exact ⟨pkt, by simp, rfl, rfl⟩

/-- One DATA packet. -/
theorem heard (hs : Standing isn h) {pkt : Packet} (hbits : 0 ≤ pkt.seq ∧ pkt.seq < 2 ^ 32) :
    Standing isn (h.heard pkt) := by
  have haccepted := hs.buffering.acceptData hs.rcvBase hbits
  obtain ⟨nacked, hframe⟩ := (h.ep.acceptData pkt).2.answerData_frame
  have hep : (h.heard pkt).ep = { (h.ep.acceptData pkt).2 with nacked } := hframe
  have hout : (h.heard pkt).delivered = h.delivered ++ (h.ep.acceptData pkt).1 := rfl
  generalize h.ep.acceptData pkt = r at *
  have hsize := haccepted.size
  have hbefore := hs.size
  refine ⟨?_, ?_, ?_, ?_, ?_⟩
  · rw [hep]
    exact haccepted.buffering.congr rfl rfl rfl
  · rw [hep, hout, List.length_append]
    exact haccepted.rcvBase
  · intro k c hk
    rw [hout, List.getElem?_append] at hk
    split_ifs at hk with hlt
    · exact (hs.delivered k c hk).append [pkt]
    · have hsource := haccepted.delivered _ c hk
      rw [Nat.add_sub_cancel' (not_lt.mp hlt)] at hsource
      exact hs.heardAs hsource
  · rw [hep]
    exact fun e he => hs.heardAs (haccepted.buffered e he)
  · rw [hep, hout, List.length_append]
    show _ ≤ (h.received ++ [pkt]).length
    rw [List.length_append, List.length_singleton]
    show _ + r.2.reorder.size ≤ _
    omega

/-- **One small step.** -/
theorem move (hs : Standing isn h) {m : ArqHistory.Move}
    (hbits : ∀ pkt ∈ (h.move m).received, 0 ≤ pkt.seq ∧ pkt.seq < 2 ^ 32) :
    Standing isn (h.move m) := by
  rcases h.move_receiver m with ⟨pkt, rfl⟩ | ⟨hbase, hreorder, -, hdelivered, hreceived⟩
  · exact hs.heard (hbits pkt (List.mem_append_right _ (List.mem_singleton_self pkt)))
  · exact hs.congr hbase hreorder (h.config_move m).1 hdelivered hreceived

end Standing

/-- The advertised window is not zero, and not larger than the endpoint's. -/
def Offers (windowSize : ℤ) (pkt : Packet) : Prop := 1 ≤ pkt.window ∧ pkt.window ≤ windowSize

/-- Every packet emitted and outstanding advertises such a window. -/
structure Advertising (windowSize : ℤ) (h : ArqHistory) : Prop where
  own : h.ep.windowSize = windowSize
  outstanding : ∀ e ∈ h.ep.outstanding.entries, Offers windowSize e.2.packet
  emitted : ∀ e ∈ h.emitted, Offers windowSize e.packet

namespace Advertising

variable {windowSize isn : ℤ} {h : ArqHistory}

lemma emitted_append (ha : Advertising windowSize h) {time : ℚ} {failed : Bool} {delivered : ℕ}
    {packets : List Packet} (hpackets : ∀ pkt ∈ packets, Offers windowSize pkt) :
    ∀ e ∈ h.emitted ++ emissions time failed delivered packets, Offers windowSize e.packet := by
  intro e he
  rcases List.mem_append.mp he with hold | hnew
  · exact ha.emitted e hold
  · obtain ⟨pkt, hmem, rfl⟩ := mem_emissions.mp hnew
    exact hpackets pkt hmem

lemma emitData (ha : Advertising windowSize h) (hb : Buffering h.ep) (chunk : Bytes) :
    (∀ e ∈ (h.ep.emitData chunk h.clock).2.outstanding.entries, Offers windowSize e.2.packet) ∧
      Offers windowSize (h.ep.dataPacket chunk) := by
  have hoffers : Offers windowSize (h.ep.dataPacket chunk) := by
    rw [← ha.own]
    exact hb.window
  refine ⟨fun e he => ?_, hoffers⟩
  rcases Dict.mem_entries_set.mp he with rfl | ⟨hold, -⟩
  · exact hoffers
  · exact ha.outstanding e hold

/-- **One small step.** -/
theorem move (ha : Advertising windowSize h) (hs : Standing isn h) {m : ArqHistory.Move}
    (hm : h.Movable m) (hbits : ∀ pkt ∈ (h.move m).received, 0 ≤ pkt.seq ∧ pkt.seq < 2 ^ 32) :
    Advertising windowSize (h.move m) := by
  have hwindow : (h.move m).ep.windowSize = windowSize := (h.config_move m).1.trans ha.own
  cases m with
  | emit chunk =>
      obtain ⟨hentries, hoffers⟩ := ha.emitData hs.buffering chunk
      exact ⟨hwindow, hentries, ha.emitted_append (List.forall_mem_singleton.mpr hoffers)⟩
  | flush chunk =>
      obtain ⟨hentries, hoffers⟩ := ha.emitData hs.buffering chunk
      exact ⟨hwindow, hentries, ha.emitted_append (List.forall_mem_singleton.mpr hoffers)⟩
  | queue chunk => exact ⟨hwindow, ha.outstanding, ha.emitted⟩
  | retune peerWindow rto failed => exact ⟨hwindow, ha.outstanding, ha.emitted⟩
  | again s o =>
      have hoffers := ha.outstanding (s, o) (Dict.mem_entries_iff.mpr hm)
      refine ⟨hwindow, fun e he => ?_, ha.emitted_append (List.forall_mem_singleton.mpr hoffers)⟩
      rcases Dict.mem_entries_set.mp he with rfl | ⟨hold, -⟩
      · exact hoffers
      · exact ha.outstanding e hold
  | remove s o =>
      exact ⟨hwindow, fun e he => ha.outstanding e (Dict.mem_entries_erase.mp he).1, ha.emitted⟩
  | data pkt =>
      have haccepted := hs.buffering.acceptData hs.rcvBase
        (hbits pkt (List.mem_append_right _ (List.mem_singleton_self pkt)))
      obtain ⟨rcvBase, reorder, nacked, hframe⟩ := h.ep.onData_frame pkt
      obtain ⟨rcvBase', reorder', nacked', hframe'⟩ := h.ep.acceptData_frame pkt
      have hroom := haccepted.buffering.window
      have hsame : (h.ep.acceptData pkt).2.windowSize = windowSize := by
        rw [hframe']
        exact ha.own
      refine ⟨hwindow, ?_, ha.emitted_append ?_⟩
      · show ∀ e ∈ (h.ep.onData pkt).2.outstanding.entries, Offers windowSize e.2.packet
        rw [hframe]
        exact ha.outstanding
      · intro p hp
        rw [← hsame]
        rcases mem_answerData _ hp with rfl | ⟨missing, rfl⟩
        · exact hroom
        · exact hroom

end Advertising

variable {sessionId sendIsn windowSize maxPayload recvIsn streamId maxRetx : ℤ} {rto : RtoEstimator}
  {ep : ArqEndpoint}

lemma Standing.start (hcreate : create sessionId sendIsn windowSize rto maxPayload recvIsn streamId
    maxRetx = .ok ep) (clock : ℚ) : Standing recvIsn (ArqHistory.start ep clock) := by
  obtain ⟨-, -, -, rfl⟩ := create_eq_ok_iff.mp hcreate
  exact ⟨by simp [Buffering, ArqHistory.start], rfl, by simp [ArqHistory.start],
    by simp [ArqHistory.start], by simp [ArqHistory.start]⟩

lemma Advertising.start (hcreate : create sessionId sendIsn windowSize rto maxPayload recvIsn
    streamId maxRetx = .ok ep) (clock : ℚ) :
    Advertising windowSize (ArqHistory.start ep clock) := by
  obtain ⟨-, -, -, rfl⟩ := create_eq_ok_iff.mp hcreate
  exact ⟨rfl, by simp [ArqHistory.start], by simp [ArqHistory.start]⟩

/-- The receiving half of every history of 32-bit numbers. -/
theorem standing_of_reach {clock : ℚ} {h : ArqHistory} {ok : ArqHistory → ArqInput → Prop}
    (hcreate : create sessionId sendIsn windowSize rto maxPayload recvIsn streamId maxRetx = .ok ep)
    (hreach : ArqHistory.system.Reach ok (ArqHistory.start ep clock) h)
    (hbits : ∀ pkt ∈ h.received, 0 ≤ pkt.seq ∧ pkt.seq < 2 ^ 32) :
    Standing recvIsn h ∧ Advertising windowSize h := by
  revert hbits
  refine ArqHistory.invariant_of_moves
    (I := fun h => (∀ pkt ∈ h.received, 0 ≤ pkt.seq ∧ pkt.seq < 2 ^ 32) →
      Standing recvIsn h ∧ Advertising windowSize h) hreach
    (fun _ => ⟨Standing.start hcreate clock, Advertising.start hcreate clock⟩) ?_ ?_
  · intro h i hh _ hbits
    obtain ⟨hs, ha⟩ := hh hbits
    exact ⟨hs.congr rfl rfl rfl rfl rfl, ⟨ha.own, ha.outstanding, ha.emitted⟩⟩
  · intro h m hh hm hbits
    obtain ⟨hs, ha⟩ := hh fun pkt hp => hbits pkt ((h.received_move m).subset hp)
    exact ⟨hs.move hbits, ha.move hs hm hbits⟩

/-- **The representation invariant of the receiver**, against any peer. -/
theorem receiver_invariant {clock : ℚ} {h : ArqHistory}
    (hcreate : create sessionId sendIsn windowSize rto maxPayload recvIsn streamId maxRetx = .ok ep)
    (hisn : 0 ≤ recvIsn ∧ recvIsn < 2 ^ 32)
    (hreach : ArqHistory.system.Reach Transition.free (ArqHistory.start ep clock) h)
    (hbits : ∀ pkt ∈ h.received, 0 ≤ pkt.seq ∧ pkt.seq < 2 ^ 32) :
    h.ep.rcvBase = (recvIsn + h.delivered.length) % 2 ^ 32 ∧
    (∀ (k : ℕ) (c : Bytes), h.delivered[k]? = some c →
      ∃ pkt ∈ h.received, pkt.seq = (recvIsn + k) % 2 ^ 32 ∧ pkt.payload = c) ∧
    (∀ s ∈ h.ep.reorder.keys,
      0 < seqDiff s h.ep.rcvBase ∧ seqDiff s h.ep.rcvBase < windowSize) ∧
    (h.ep.reorder.size : ℤ) ≤ windowSize - 1 ∧
    ∀ e ∈ h.emitted, 1 ≤ e.packet.window ∧ e.packet.window ≤ windowSize := by
  obtain ⟨hs, ha⟩ := standing_of_reach hcreate hreach hbits
  have hnumber : ∀ k : ℕ, nthSeq recvIsn k = (recvIsn + k) % 2 ^ 32 :=
    fun k => nthSeq_eq_seqOf hisn.1 hisn.2 k
  refine ⟨hs.rcvBase.trans (hnumber _), ?_, ?_, ?_, ha.emitted⟩
  · intro k c hk
    rw [← hnumber]
    exact hs.delivered k c hk
  · intro s hmem
    rw [← ha.own]
    exact ⟨(hs.buffering s hmem).pos, (hs.buffering s hmem).lt⟩
  · rw [← ha.own]
    exact hs.buffering.size_le

/-- An endpoint that expects the last number of the space. -/
def lastNumber : ArqEndpoint where
  sessionId := 7
  streamId := 1
  windowSize := 4
  maxPayload := 2
  maxRetx := 5
  rto := { initialRto := 1, minRto := 1 / 2, maxRto := 8 }
  nextSeq := 0
  rcvBase := 2 ^ 32 - 1
  windowSize_pos := by decide
  maxPayload_pos := by decide
  maxRetx_nonneg := by decide

lemma create_lastNumber : create 7 0 4 { initialRto := 1, minRto := 1 / 2, maxRto := 8 } 2 (2 ^ 32 - 1)
    1 5 = .ok lastNumber := rfl

/-- A DATA packet for it. -/
def dataFor (seq : ℤ) (payload : Bytes) : Packet where
  type := .Data
  sessionId := 7
  streamId := 1
  seq := seq
  ack := 0
  window := 4
  payload := payload

/-- The first chunk and the third arrive, the third before the first. -/
def gapRun : List ArqInput :=
  [.packet (dataFor 1 [12]) 0, .packet (dataFor (2 ^ 32 - 1) [10]) 1]

/-- The third chunk is buffered, and the second one is expected. -/
theorem receiver_invariant_gapRun : ∃ h : ArqHistory,
    h.delivered = [[10]] ∧ h.ep.reorder.keys = [1] ∧ h.ep.rcvBase = 0 ∧
    (∀ s ∈ h.ep.reorder.keys, 0 < seqDiff s h.ep.rcvBase ∧ seqDiff s h.ep.rcvBase < 4) ∧
    (h.ep.reorder.size : ℤ) ≤ 4 - 1 ∧
    ∀ e ∈ h.emitted, 1 ≤ e.packet.window ∧ e.packet.window ≤ 4 := by
  obtain ⟨h, hreach, hdelivered, hkeys, hbase, hbits⟩ := ArqHistory.system.exists_reach_of_exec
    Transition.free gapRun (ArqHistory.start lastNumber 0)
    (fun h => h.delivered = [[10]] ∧ h.ep.reorder.keys = [1] ∧ h.ep.rcvBase = 0 ∧
      ∀ pkt ∈ h.received, 0 ≤ pkt.seq ∧ pkt.seq < 2 ^ 32) (by decide +kernel)
  exact ⟨h, hdelivered, hkeys, hbase,
    (receiver_invariant create_lastNumber (by decide) hreach hbits).2.2⟩

/-! ## The hole that is waited for

A NACK is noted with the number of chunks that had been delivered when it was emitted.  This is what
connects a report with the position of the receiver at that time.
-/

/-- The numbers that were reported missing. -/
def ArqHistory.nacks (h : ArqHistory) : List ℤ :=
  (h.emitted.filter fun e => e.packet.type = .Nack).map fun e => e.packet.ack

/-- What the receiver has reported: the number it waits for if something is buffered behind it, and
before that numbers which it has passed. -/
structure Nacking (isn : ℤ) (h : ArqHistory) : Prop where
  nacked : ∀ s ∈ h.ep.nacked, s = h.ep.rcvBase
  hole : h.ep.reorder.keys ≠ [] → h.ep.rcvBase ∈ h.ep.nacked
  reported : h.ep.rcvBase ∈ h.ep.nacked → ∃ e ∈ h.emitted,
    e.packet.type = .Nack ∧ e.packet.ack = h.ep.rcvBase ∧ e.delivered = h.delivered.length
  past : ∀ e ∈ h.emitted, e.packet.type = .Nack → e.packet.ack = nthSeq isn e.delivered ∧
    e.delivered ≤ h.delivered.length ∧
    (e.delivered = h.delivered.length → h.ep.rcvBase ∈ h.ep.nacked)
  once : h.nacks.Nodup

namespace Nacking

variable {isn : ℤ} {h h' : ArqHistory}

/-- Chunks are delivered, and what is emitted is no NACK. -/
lemma of_silent (hn : Nacking isn h) {more : List Emission} {out : List Bytes}
    (hemitted : h'.emitted = h.emitted ++ more) (hquiet : ∀ e ∈ more, e.packet.type ≠ .Nack)
    (hdelivered : h'.delivered = h.delivered ++ out)
    (hbase : out = [] → h'.ep.rcvBase = h.ep.rcvBase)
    (honly : ∀ s ∈ h'.ep.nacked, s = h'.ep.rcvBase)
    (hthere : h'.ep.rcvBase ∈ h'.ep.nacked ↔ out = [] ∧ h.ep.rcvBase ∈ h.ep.nacked)
    (hhole : h'.ep.reorder.keys ≠ [] → h'.ep.rcvBase ∈ h'.ep.nacked) : Nacking isn h' := by
  have hlen : h'.delivered.length = h.delivered.length + out.length := by
    rw [hdelivered, List.length_append]
  refine ⟨honly, hhole, ?_, ?_, ?_⟩
  · intro hmem
    obtain ⟨hnone, hold⟩ := hthere.mp hmem
    obtain ⟨e, he, htype, hack, hcount⟩ := hn.reported hold
    refine ⟨e, by rw [hemitted]; exact List.mem_append_left _ he, htype, by rw [hack, hbase hnone],
      ?_⟩
    rw [hcount, hlen, hnone, List.length_nil, Nat.add_zero]
  · rw [hemitted, hlen]
    intro e he htype
    rcases List.mem_append.mp he with hold | hnew
    · obtain ⟨hack, hle, hlast⟩ := hn.past e hold htype
      refine ⟨hack, by omega, fun heq => hthere.mpr ⟨?_, hlast (by omega)⟩⟩
      exact List.eq_nil_of_length_eq_zero (by omega)
    · exact absurd htype (hquiet e hnew)
  · have hnone : (more.filter fun e => e.packet.type = .Nack) = [] :=
      List.filter_eq_nil_iff.mpr fun e he => by simpa using hquiet e he
    have hnacks : h'.nacks = h.nacks := by
      rw [ArqHistory.nacks, hemitted, List.filter_append, hnone, List.append_nil]
      rfl
    rw [hnacks]
    exact hn.once

/-- Nothing is delivered, and what is emitted is no NACK. -/
lemma of_quiet (hn : Nacking isn h) {more : List Emission}
    (hemitted : h'.emitted = h.emitted ++ more) (hquiet : ∀ e ∈ more, e.packet.type ≠ .Nack)
    (hbase : h'.ep.rcvBase = h.ep.rcvBase) (hreorder : h'.ep.reorder = h.ep.reorder)
    (hnacked : h'.ep.nacked = h.ep.nacked) (hdelivered : h'.delivered = h.delivered) :
    Nacking isn h' := by
  refine hn.of_silent hemitted hquiet (by rw [hdelivered, List.append_nil]) (fun _ => hbase) ?_ ?_ ?_
  · rw [hnacked, hbase]
    exact hn.nacked
  · rw [hnacked, hbase]
    simp
  · rw [hreorder, hnacked, hbase]
    exact hn.hole

/-- Chunks are delivered, and the number that is waited for now is reported: what is emitted last is
its NACK. -/
lemma of_hole (hn : Nacking isn h) {more : List Emission} {last : Emission} {out : List Bytes}
    (hemitted : h'.emitted = h.emitted ++ (more ++ [last]))
    (hquiet : ∀ e ∈ more, e.packet.type ≠ .Nack) (hlast : last.packet.type = .Nack)
    (hack : last.packet.ack = h'.ep.rcvBase) (hcount : last.delivered = h'.delivered.length)
    (hdelivered : h'.delivered = h.delivered ++ out)
    (hbase : h'.ep.rcvBase = nthSeq isn h'.delivered.length)
    (honly : ∀ s ∈ h'.ep.nacked, s = h'.ep.rcvBase) (hthere : h'.ep.rcvBase ∈ h'.ep.nacked)
    (hnew : ¬ (out = [] ∧ h.ep.rcvBase ∈ h.ep.nacked)) (hfew : h'.delivered.length < 2 ^ 31) :
    Nacking isn h' := by
  have hlen : h'.delivered.length = h.delivered.length + out.length := by
    rw [hdelivered, List.length_append]
  refine ⟨honly, fun _ => hthere, fun _ => ⟨last, by simp [hemitted], hlast, hack, hcount⟩, ?_, ?_⟩
  · rw [hemitted]
    intro e he htype
    rcases List.mem_append.mp he with hold | hfresh
    · obtain ⟨hnumber, hle, -⟩ := hn.past e hold htype
      exact ⟨hnumber, by omega, fun _ => hthere⟩
    · rcases List.mem_append.mp hfresh with hmore | hmem
      · exact absurd htype (hquiet e hmore)
      · rw [List.mem_singleton.mp hmem, hack, hcount]
        exact ⟨hbase, le_rfl, fun _ => hthere⟩
  · have hnone : (more.filter fun e => e.packet.type = .Nack) = [] :=
      List.filter_eq_nil_iff.mpr fun e he => by simpa using hquiet e he
    have hnacks : h'.nacks = h.nacks ++ [h'.ep.rcvBase] := by
      rw [ArqHistory.nacks, hemitted, List.filter_append, List.filter_append, hnone]
      simp [ArqHistory.nacks, hlast, hack]
    rw [hnacks, List.nodup_append]
    refine ⟨hn.once, List.nodup_singleton _, ?_⟩
    rintro s hmem t ht rfl
    obtain ⟨e, he, heq⟩ := List.mem_map.mp hmem
    obtain ⟨he, htype⟩ := List.mem_filter.mp he
    obtain ⟨hnumber, hle, hknown⟩ := hn.past e he (by simpa using htype)
    -- the number was reported before, so it is the one that was waited for
    have hindex := nthSeq_inj (by omega) (by omega)
      (show nthSeq isn e.delivered = nthSeq isn h'.delivered.length by
        rw [← hnumber, heq, List.mem_singleton.mp ht, hbase])
    exact hnew ⟨List.eq_nil_of_length_eq_zero (by omega), hknown (by omega)⟩

/-- After a DATA packet was accepted, only the number that is waited for is still recorded. -/
lemma accepted (hn : Nacking isn h) (hs : Standing isn h) {pkt : Packet} {out : List Bytes}
    {ep : ArqEndpoint} (ha : Accepted isn h.delivered.length h.ep pkt out ep)
    (hfew : h.delivered.length + out.length < 2 ^ 31) :
    (∀ s ∈ ep.nacked, s = ep.rcvBase) ∧
      (ep.rcvBase ∈ ep.nacked ↔ out = [] ∧ h.ep.rcvBase ∈ h.ep.nacked) := by
  by_cases hout : out = []
  · have hsame : ep.rcvBase = h.ep.rcvBase := by
      rw [ha.rcvBase, hout, hs.rcvBase]
      rfl
    have hnacked := ha.nacked
    rw [if_pos hout] at hnacked
    rw [hnacked, hsame]
    exact ⟨hn.nacked, by simp [hout]⟩
  · -- what was waited for has been passed
    have hnacked : ep.nacked = ∅ := by
      rw [ha.nacked, if_neg hout]
      refine Finset.filter_eq_empty_iff.mpr fun s hmem hlt => ?_
      rw [hn.nacked s hmem, ha.rcvBase, hs.rcvBase] at hlt
      exact not_seqLt_nthSeq (Nat.le_add_right _ _) (by omega) hlt
    simp [hnacked, hout]

/-- **One DATA packet**: a new hole is reported, and nothing else. -/
theorem heard (hn : Nacking isn h) (hs : Standing isn h) {pkt : Packet}
    (hbits : 0 ≤ pkt.seq ∧ pkt.seq < 2 ^ 32) (hfew : (h.heard pkt).received.length < 2 ^ 31) :
    Nacking isn (h.heard pkt) := by
  have haccepted := hs.buffering.acceptData hs.rcvBase hbits
  have hanswer := haccepted.buffering.answerData
  have hsize := (hs.heard hbits).size
  have hout : (h.heard pkt).delivered = h.delivered ++ (h.ep.acceptData pkt).1 := rfl
  have hep : (h.heard pkt).ep = (h.ep.acceptData pkt).2.answerData.2 := rfl
  have hemitted : (h.heard pkt).emitted = h.emitted ++ emissions h.clock h.ep.failed
      (h.delivered ++ (h.ep.acceptData pkt).1).length (h.ep.acceptData pkt).2.answerData.1 := rfl
  generalize h.heard pkt = h' at *
  generalize h.ep.acceptData pkt = r at *
  obtain ⟨honly, hthere⟩ := hn.accepted hs haccepted (by
    rw [hout, List.length_append] at hsize
    omega)
  split_ifs at hanswer with hquiet
  · -- no hole, or a known one
    rw [hanswer] at hep hemitted
    rw [← hep] at honly hthere
    refine hn.of_silent hemitted ?_ hout ?_ honly hthere ?_
    · simp [ackPacket]
    · intro hnone
      rw [hep, haccepted.rcvBase, hnone, hs.rcvBase]
      rfl
    · rw [hep]
      exact hquiet.resolve_left
  · -- a new hole
    rw [not_or] at hquiet
    obtain ⟨-, hnew⟩ := hquiet
    rw [hanswer] at hep hemitted
    have hlast : emissions h.clock h.ep.failed (h.delivered ++ r.1).length
        [r.2.ackPacket, r.2.nackPacket r.2.rcvBase] =
          emissions h.clock h.ep.failed (h.delivered ++ r.1).length [r.2.ackPacket] ++
            [⟨r.2.nackPacket r.2.rcvBase, h.clock, h.ep.failed, (h.delivered ++ r.1).length⟩] := rfl
    rw [hlast] at hemitted
    refine hn.of_hole hemitted ?_ rfl ?_ ?_ hout ?_ ?_ ?_ (fun hboth => hnew (hthere.mpr hboth))
      (by omega)
    · simp [ackPacket]
    · rw [hep]
      rfl
    · rw [hout]
    · rw [hep, hout, List.length_append]
      exact haccepted.rcvBase
    · rw [hep]
      intro s hmem
      rcases Finset.mem_insert.mp hmem with rfl | hold
      · rfl
      · exact honly s hold
    · rw [hep]
      exact Finset.mem_insert_self _ _

/-- **One small step.** -/
theorem move (hn : Nacking isn h) (hs : Standing isn h) (hfiled : ArqHistory.Filed h.ep)
    {m : ArqHistory.Move} (hm : h.Movable m)
    (hbits : ∀ pkt ∈ (h.move m).received, 0 ≤ pkt.seq ∧ pkt.seq < 2 ^ 32)
    (hfew : (h.move m).received.length < 2 ^ 31) : Nacking isn (h.move m) := by
  have hdata : ∀ {time : ℚ} {failed : Bool} {delivered : ℕ} {pkt : Packet}, pkt.type = .Data →
      ∀ e ∈ emissions time failed delivered [pkt], e.packet.type ≠ .Nack := by
    intro time failed delivered pkt htype e he
    simp only [emissions_cons, emissions_nil, List.mem_singleton] at he
    rw [he, htype]
    decide
  cases m with
  | emit chunk => exact hn.of_quiet rfl (hdata rfl) rfl rfl rfl rfl
  | flush chunk => exact hn.of_quiet rfl (hdata rfl) rfl rfl rfl rfl
  | again s o =>
      exact hn.of_quiet rfl (hdata (hfiled (s, o) (Dict.mem_entries_iff.mpr hm)).1) rfl rfl rfl rfl
  | data pkt =>
      exact hn.heard hs (hbits pkt (List.mem_append_right _ (List.mem_singleton_self pkt))) hfew
  | _ =>
      exact hn.of_quiet (List.append_nil _).symm (fun e he => absurd he List.not_mem_nil) rfl rfl rfl
        rfl

end Nacking

lemma Nacking.start (hcreate : create sessionId sendIsn windowSize rto maxPayload recvIsn streamId
    maxRetx = .ok ep) (clock : ℚ) : Nacking recvIsn (ArqHistory.start ep clock) := by
  obtain ⟨-, -, -, rfl⟩ := create_eq_ok_iff.mp hcreate
  exact ⟨by simp [ArqHistory.start], by simp [ArqHistory.start], by simp [ArqHistory.start],
    by simp [ArqHistory.start], by simp [ArqHistory.start, ArqHistory.nacks]⟩

/-- What every history of fewer than half a space of 32-bit numbers has reported. -/
theorem nacking_of_reach {clock : ℚ} {h : ArqHistory}
    (hcreate : create sessionId sendIsn windowSize rto maxPayload recvIsn streamId maxRetx = .ok ep)
    (hreach : ArqHistory.system.Reach Transition.free (ArqHistory.start ep clock) h)
    (hbits : ∀ pkt ∈ h.received, 0 ≤ pkt.seq ∧ pkt.seq < 2 ^ 32)
    (hfew : h.received.length < 2 ^ 31) : Nacking recvIsn h := by
  have hinv : ArqHistory.Filed h.ep ∧ ((∀ pkt ∈ h.received, 0 ≤ pkt.seq ∧ pkt.seq < 2 ^ 32) →
      h.received.length < 2 ^ 31 → Standing recvIsn h ∧ Nacking recvIsn h) := by
    refine ArqHistory.invariant_of_moves
      (I := fun h => ArqHistory.Filed h.ep ∧
        ((∀ pkt ∈ h.received, 0 ≤ pkt.seq ∧ pkt.seq < 2 ^ 32) →
          h.received.length < 2 ^ 31 → Standing recvIsn h ∧ Nacking recvIsn h)) hreach ?_ ?_ ?_
    · exact ⟨ArqHistory.Filed.start hcreate,
        fun _ _ => ⟨Standing.start hcreate clock, Nacking.start hcreate clock⟩⟩
    · rintro h i ⟨hfiled, hh⟩ -
      refine ⟨hfiled, fun hbits hfew => ?_⟩
      obtain ⟨hs, hn⟩ := hh hbits hfew
      exact ⟨hs.congr rfl rfl rfl rfl rfl, ⟨hn.nacked, hn.hole, hn.reported, hn.past, hn.once⟩⟩
    · rintro h m ⟨hfiled, hh⟩ hm
      refine ⟨hfiled.move hm, fun hbits hfew => ?_⟩
      have hreceived := h.received_move m
      obtain ⟨hs, hn⟩ := hh (fun pkt hp => hbits pkt (hreceived.subset hp))
        (lt_of_le_of_lt hreceived.length_le hfew)
      exact ⟨hs.move hbits, hn.move hs hfiled hm hbits hfew⟩
  exact (hinv.2 hbits hfew).2

/-- **NACK discipline.**  After every input: if anything is buffered, the number that is waited for
is the lowest missing one and has been reported since; a NACK that was just emitted names it, and it
is neither delivered nor buffered; and no number has been reported twice. -/
theorem nack_discipline {clock : ℚ} {h : ArqHistory}
    (hcreate : create sessionId sendIsn windowSize rto maxPayload recvIsn streamId maxRetx = .ok ep)
    (hreach : ArqHistory.system.Reach Transition.free (ArqHistory.start ep clock) h) (i : ArqInput)
    (hbits : ∀ pkt ∈ (h.next i).received, 0 ≤ pkt.seq ∧ pkt.seq < 2 ^ 32)
    (hfew : (h.next i).received.length < 2 ^ 31) :
    ((h.next i).ep.reorder ≠ Dict.empty →
      (h.next i).ep.lowestMissingSeq = some (h.next i).ep.rcvBase ∧
      ∃ e ∈ (h.next i).emitted, e.packet.type = .Nack ∧ e.packet.ack = (h.next i).ep.rcvBase ∧
        e.delivered = (h.next i).delivered.length) ∧
    (∀ pkt ∈ (h.ep.apply i).1.packets, pkt.type = .Nack →
      pkt.ack = (h.next i).ep.rcvBase ∧ pkt.ack ∉ (h.next i).ep.reorder.keys ∧
      ∀ k < (h.next i).delivered.length, pkt.ack ≠ (recvIsn + k) % 2 ^ 32) ∧
    ((((h.next i).emitted.filter fun e => e.packet.type = .Nack).map
      fun e => e.packet.ack)).Nodup := by
  have hlater : ArqHistory.system.Reach Transition.free (ArqHistory.start ep clock) (h.next i) :=
    hreach.tail trivial trivial
  have hemitted : ∀ pkt ∈ (h.ep.apply i).1.packets, ∃ e ∈ (h.next i).emitted,
      e.packet = pkt ∧ e.delivered = (h.next i).delivered.length := by
    intro pkt hp
    exact ⟨_, List.mem_append_right _ (mem_emissions.mpr ⟨pkt, hp, rfl⟩), rfl, rfl⟩
  generalize h.next i = h' at *
  obtain ⟨hs, -⟩ := standing_of_reach hcreate hlater hbits
  have hn := nacking_of_reach hcreate hlater hbits hfew
  refine ⟨?_, ?_, hn.once⟩
  · intro hsome
    have hkeys : h'.ep.reorder.keys ≠ [] := by
      intro hnone
      exact hsome (Dict.ext (List.map_eq_nil_iff.mp hnone))
    exact ⟨hs.buffering.lowestMissingSeq hkeys, hn.reported (hn.hole hkeys)⟩
  · intro pkt hp htype
    obtain ⟨e, he, rfl, hcount⟩ := hemitted pkt hp
    obtain ⟨hack, -, -⟩ := hn.past e he htype
    have hbase : e.packet.ack = h'.ep.rcvBase := by rw [hack, hcount, hs.rcvBase]
    refine ⟨hbase, by rw [hbase]; exact hs.buffering.rcvBase_notMem, ?_⟩
    intro k hk heq
    have hsize := hs.size
    have hnumber : seqOf recvIsn k = seqOf recvIsn h'.delivered.length := by
      rw [← hcount, ← wrap_nthSeq recvIsn e.delivered, ← hack, heq]
      exact (wrap_seqOf recvIsn k).symm
    have hindex := seqOf_inj (by omega) (by omega) hnumber
    omega

/-- The second chunk is missing; the packet that shows it is the last one of the run. -/
theorem nack_discipline_gapRun : ∃ h : ArqHistory, h.delivered = [[10]] ∧
    (∃ e ∈ h.emitted, e.packet.type = .Nack ∧ e.packet.ack = 0 ∧ e.delivered = 1) ∧
    ((h.emitted.filter fun e => e.packet.type = .Nack).map fun e => e.packet.ack).Nodup := by
  obtain ⟨h, hreach, hdelivered, hsome, hbase, hbits, hfew⟩ :=
    ArqHistory.system.exists_reach_of_exec Transition.free [.packet (dataFor 1 [12]) 0]
    (ArqHistory.start lastNumber 0)
    (fun h => (h.next (.packet (dataFor (2 ^ 32 - 1) [10]) 1)).delivered = [[10]] ∧
      (h.next (.packet (dataFor (2 ^ 32 - 1) [10]) 1)).ep.reorder ≠ Dict.empty ∧
      (h.next (.packet (dataFor (2 ^ 32 - 1) [10]) 1)).ep.rcvBase = 0 ∧
      (∀ pkt ∈ (h.next (.packet (dataFor (2 ^ 32 - 1) [10]) 1)).received,
        0 ≤ pkt.seq ∧ pkt.seq < 2 ^ 32) ∧
      (h.next (.packet (dataFor (2 ^ 32 - 1) [10]) 1)).received.length < 2 ^ 31)
    (by decide +kernel)
  obtain ⟨hhole, -, honce⟩ := nack_discipline create_lastNumber hreach _ hbits hfew
  have hreported := (hhole hsome).2
  rw [hbase, hdelivered] at hreported
  exact ⟨_, hdelivered, hreported, honce⟩

end PhotonTCP
