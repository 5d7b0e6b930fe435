import PhotonTCP.Foundation.Mealy
import PhotonTCP.Reliability.Envelope
import PhotonTCP.Reliability.History
import PhotonTCP.Reliability.Packable

/-!
# Retransmissions

The endpoint counts how often a packet was retransmitted and remembers when it was last sent.  The
wire knows both: the transmissions of a number are one more than the count, and the last of them is
at the recorded time.  As long as no number is used for two packets, two rules follow.

* `transmissions` — when the DATA packet of a number was put on the wire.
* `Booked` — the book-keeping agrees with the wire; `Booked.move`: in every history.
* **`karn`** — a measurement is taken of packets that were transmitted once, once, and from their
  only transmission; so it is never refused.
* `Budget` — no number is transmitted more than `1 + max_retx` times, and a failed endpoint
  retransmits nothing.
* **`budget_iff`** — which holds exactly if every NACK that hits finds retransmissions left, and
  `nack_over_budget`: a NACK does not ask.

A round trip of a packet that was sent twice cannot be measured, since the acknowledgement may
answer either transmission.  The code decides by its counter, and the rule is about the wire;
`Booked` is what makes the one say something about the other.  It holds as long as a number
identifies a packet, that is, for fewer packets than there are numbers.

What has been measured is compared with the estimator itself.  `Fed` says that the estimator is the
initial one after calls whose measurements are those on record, and timeouts in between.  So the
measurements on record are not a second account of what the loop does: an estimator that was fed
something else would not be the one in the endpoint.

The two results need different things of the environment.  Karn's rule holds for every input.  The
budget is kept by the timers and not by NACKs, which repeat a packet whenever they hit it, so its
exact condition is about the NACKs, each in the state in which it arrives.
-/

namespace PhotonTCP

open ArqEndpoint

namespace ArqHistory

/-! ## The wire and the books

The history knows when everything was emitted; a number's transmissions are the DATA packets with
it.
-/

/-- When the DATA packet with this number was put on the wire. -/
def transmissions (h : ArqHistory) (s : ℤ) : List ℚ :=
  (h.emitted.filter fun e => e.packet.type = .Data ∧ e.packet.seq = s).map Emission.time

/-- The book-keeping of the sending half agrees with the wire. -/
structure Booked (isn : ℤ) (h : ArqHistory) : Prop where
  fresh : ∃ n, n + h.ep.pending.length = h.chunksSent ∧ h.ep.nextSeq = nthSeq isn n ∧
    ∀ e ∈ h.emitted, e.packet.type = .Data → ∃ i < n, e.packet.seq = nthSeq isn i
  outstanding : ∀ e ∈ h.ep.outstanding.entries, ∃ earlier : List ℚ,
    earlier.length = e.2.retxCount ∧ h.transmissions e.1 = earlier ++ [e.2.sendTime]
  sampled : ∀ x ∈ h.samples,
    x.seq ∉ h.ep.outstanding.keys ∧ h.transmissions x.seq = [x.time - x.rtt]
  once : (h.samples.map Sample.seq).Nodup

variable {isn : ℤ} {h h' : ArqHistory}

/-- One more DATA packet on the wire. -/
lemma transmissions_append {e : Emission} (hemitted : h'.emitted = h.emitted ++ [e])
    (htype : e.packet.type = .Data) (s : ℤ) :
    h'.transmissions s =
      if s = e.packet.seq then h.transmissions s ++ [e.time] else h.transmissions s := by
  rw [transmissions, hemitted, List.filter_append, List.map_append]
  by_cases hs : s = e.packet.seq
  · simp [hs, htype, transmissions]
  · have hne : ¬ e.packet.seq = s := fun heq => hs heq.symm
    simp [hs, hne, transmissions]

/-- What is no DATA packet is not counted. -/
lemma transmissions_quiet {more : List Emission} (hemitted : h'.emitted = h.emitted ++ more)
    (hquiet : ∀ e ∈ more, e.packet.type ≠ .Data) : h'.transmissions = h.transmissions := by
  have hnone : ∀ s, more.filter (fun e => e.packet.type = .Data ∧ e.packet.seq = s) = [] := by
    intro s
    refine List.filter_eq_nil_iff.mpr fun e he => ?_
    simp [hquiet e he]
  funext s
  rw [transmissions, hemitted, List.filter_append, hnone, List.append_nil, transmissions]

/-- A receiver answers with ACKs and NACKs. -/
lemma quiet_onData {ep : ArqEndpoint} {pkt : Packet} {time : ℚ} {failed : Bool} {delivered : ℕ} :
    ∀ e ∈ emissions time failed delivered (ep.onData pkt).1.packets, e.packet.type ≠ .Data := by
  intro e he
  obtain ⟨p, hp, rfl⟩ := mem_emissions.mp he
  rcases mem_answerData _ hp with rfl | ⟨missing, rfl⟩
  · exact fun htype => by cases htype
  · exact fun htype => by cases htype

/-- A transmission is on the wire. -/
lemma exists_of_transmissions_ne_nil {s : ℤ} (hs : h.transmissions s ≠ []) :
    ∃ e ∈ h.emitted, e.packet.type = .Data ∧ e.packet.seq = s := by
  have hne : h.emitted.filter (fun e => e.packet.type = .Data ∧ e.packet.seq = s) ≠ [] :=
    fun hnil => hs (by rw [transmissions, hnil, List.map_nil])
  obtain ⟨e, he⟩ := List.exists_mem_of_ne_nil _ hne
  obtain ⟨hmem, hdata⟩ := List.mem_filter.mp he
  exact ⟨e, hmem, by simpa using hdata⟩

namespace Booked

/-- The next number has not been used. -/
lemma transmissions_nextSeq (hb : Booked isn h)
    (hfew : h.chunksSent < 2 ^ 32 + h.ep.pending.length) : h.transmissions h.ep.nextSeq = [] := by
  by_contra hne
  obtain ⟨n, hn, hseq, hwire⟩ := hb.fresh
  obtain ⟨e, he, htype, hnumber⟩ := exists_of_transmissions_ne_nil hne
  obtain ⟨i, hi, hnth⟩ := hwire e he htype
  rw [hnumber, hseq] at hnth
  have hindex := nthSeq_inj (by omega) (by omega) hnth
  omega

/-- Every outstanding number has been transmitted. -/
lemma ne_nil_of_mem (hb : Booked isn h) {s : ℤ} (hs : s ∈ h.ep.outstanding.keys) :
    h.transmissions s ≠ [] := by
  obtain ⟨o, ho⟩ := Dict.mem_keys_iff.mp hs
  obtain ⟨earlier, -, htimes⟩ := hb.outstanding (s, o) ho
  rw [htimes]
  simp

/-- The wire and the table are as they were. -/
lemma congr (hb : Booked isn h) {more : List Emission}
    (hfresh : h'.ep.pending.length + h.chunksSent = h.ep.pending.length + h'.chunksSent)
    (hseq : h'.ep.nextSeq = h.ep.nextSeq) (houtstanding : h'.ep.outstanding = h.ep.outstanding)
    (hemitted : h'.emitted = h.emitted ++ more) (hquiet : ∀ e ∈ more, e.packet.type ≠ .Data)
    (hsamples : h'.samples = h.samples) : Booked isn h' := by
  have htimes := transmissions_quiet hemitted hquiet
  obtain ⟨n, hn, hnext, hwire⟩ := hb.fresh
  refine ⟨⟨n, by omega, hseq.trans hnext, ?_⟩, ?_, ?_, ?_⟩
  · intro e he htype
    rw [hemitted] at he
    rcases List.mem_append.mp he with hold | hnew
    · exact hwire e hold htype
    · exact absurd htype (hquiet e hnew)
  · rw [houtstanding, htimes]
    exact hb.outstanding
  · rw [hsamples, houtstanding, htimes]
    exact hb.sampled
  · rw [hsamples]
    exact hb.once

/-- A first transmission. -/
lemma emit (hb : Booked isn h) (hfew : h.chunksSent < 2 ^ 32 + h.ep.pending.length) {e : Emission}
    (htype : e.packet.type = .Data) (hnumber : e.packet.seq = h.ep.nextSeq)
    (houtstanding : h'.ep.outstanding = h.ep.outstanding.set h.ep.nextSeq ⟨e.packet, e.time, 0⟩)
    (hseq : h'.ep.nextSeq = seqAdd h.ep.nextSeq 1) (hemitted : h'.emitted = h.emitted ++ [e])
    (hsamples : h'.samples = h.samples)
    (hcount : h'.ep.pending.length + h.chunksSent + 1 = h.ep.pending.length + h'.chunksSent) :
    Booked isn h' := by
  have hnew := hb.transmissions_nextSeq hfew
  have htimes := transmissions_append hemitted htype
  rw [hnumber] at htimes
  have hother : ∀ s, h.transmissions s ≠ [] → s ≠ h.ep.nextSeq := by
    rintro s hs rfl
    exact hs hnew
  obtain ⟨n, hn, hnext, hwire⟩ := hb.fresh
  refine ⟨⟨n + 1, by omega, by rw [hseq, hnext, seqAdd_nthSeq], ?_⟩, ?_, ?_, ?_⟩
  · rw [hemitted]
    intro x hx hdata
    rcases List.mem_append.mp hx with hold | hlast
    · obtain ⟨i, hi, hnth⟩ := hwire x hold hdata
      exact ⟨i, by omega, hnth⟩
    · rw [List.mem_singleton.mp hlast]
      exact ⟨n, Nat.lt_succ_self n, hnumber.trans hnext⟩
  · rw [houtstanding]
    intro x hx
    rw [htimes]
    rcases Dict.mem_entries_set.mp hx with rfl | ⟨hold, hne⟩
    · exact ⟨[], rfl, by rw [if_pos rfl, hnew]⟩
    · rw [if_neg hne]
      exact hb.outstanding x hold
  · rw [hsamples, houtstanding]
    intro x hx
    obtain ⟨hgone, honly⟩ := hb.sampled x hx
    have hne := hother x.seq (by rw [honly]; exact List.cons_ne_nil _ _)
    rw [htimes, if_neg hne]
    refine ⟨fun hmem => ?_, honly⟩
    rcases Dict.mem_keys_set.mp hmem with heq | hold
    · exact hne heq
    · exact hgone hold
  · rw [hsamples]
    exact hb.once

/-- A retransmission. -/
lemma again (hb : Booked isn h) (hfiled : Filed h.ep) {s : ℤ} {o : Outstanding}
    (hget : h.ep.outstanding.get? s = some o) : Booked isn (h.repeated s o) := by
  have hmem := Dict.mem_entries_iff.mpr hget
  obtain ⟨htype, hnumber⟩ := hfiled (s, o) hmem
  have htimes : ∀ t, (h.repeated s o).transmissions t = _ :=
    transmissions_append (e := ⟨o.packet, h.clock, h.ep.failed, h.delivered.length⟩) rfl htype
  dsimp only at htimes hnumber
  rw [hnumber] at htimes
  obtain ⟨n, hn, hnext, hwire⟩ := hb.fresh
  refine ⟨⟨n, hn, hnext, ?_⟩, ?_, ?_, hb.once⟩
  · intro x hx hdata
    rcases List.mem_append.mp hx with hold | hlast
    · exact hwire x hold hdata
    · -- it has been on the wire before
      obtain ⟨e, he, hdata', hnumber'⟩ :=
        exists_of_transmissions_ne_nil (hb.ne_nil_of_mem (Dict.mem_keys_of_mem hmem))
      simp only [emissions_cons, emissions_nil, List.mem_singleton] at hlast
      obtain ⟨i, hi, hnth⟩ := hwire e he hdata'
      exact ⟨i, hi, by rw [hlast, hnumber, ← hnumber', hnth]⟩
  · intro x hx
    rw [htimes]
    rcases Dict.mem_entries_set.mp hx with rfl | ⟨hold, hne⟩
    · obtain ⟨earlier, hlen, hbefore⟩ := hb.outstanding (s, o) hmem
      refine ⟨earlier ++ [o.sendTime], by simp [hlen], ?_⟩
      rw [if_pos rfl, hbefore]
    · rw [if_neg hne]
      exact hb.outstanding x hold
  · intro x hx
    obtain ⟨hgone, honly⟩ := hb.sampled x hx
    have hne : x.seq ≠ s := fun heq => hgone (heq ▸ Dict.mem_keys_of_mem hmem)
    rw [htimes, if_neg hne]
    refine ⟨fun hmem' => ?_, honly⟩
    rcases Dict.mem_keys_set.mp hmem' with heq | hold
    · exact hne heq
    · exact hgone hold

/-- A removal; a packet that was transmitted once is measured. -/
lemma remove (hb : Booked isn h) {s : ℤ} {o : Outstanding}
    (hget : h.ep.outstanding.get? s = some o) : Booked isn (h.removed s o) := by
  have hmem := Dict.mem_entries_iff.mpr hget
  have hkey := Dict.mem_keys_of_mem hmem
  have hold : ∀ x ∈ h.samples, x.seq ∉ (h.ep.outstanding.erase s).keys ∧
      h.transmissions x.seq = [x.time - x.rtt] := by
    intro x hx
    obtain ⟨hgone, honly⟩ := hb.sampled x hx
    exact ⟨fun hmem' => hgone (Dict.mem_keys_erase.mp hmem').1, honly⟩
  have hnew : s ∉ (h.ep.outstanding.erase s).keys := fun hmem' => (Dict.mem_keys_erase.mp hmem').2 rfl
  refine ⟨hb.fresh, fun x hx => hb.outstanding x (Dict.mem_entries_erase.mp hx).1, ?_, ?_⟩
  · intro x hx
    rcases List.mem_append.mp hx with hbefore | hlast
    · exact hold x hbefore
    · split_ifs at hlast with hfirst
      · rw [List.mem_singleton.mp hlast]
        obtain ⟨earlier, hlen, htimes⟩ := hb.outstanding (s, o) hmem
        rw [hfirst, List.length_eq_zero_iff] at hlen
        refine ⟨hnew, ?_⟩
        show h.transmissions s = _
        rw [htimes, hlen, List.nil_append, sub_sub_cancel]
      · exact absurd hlast List.not_mem_nil
  · show ((h.samples ++ _).map Sample.seq).Nodup
    split_ifs with hfirst
    · rw [List.map_append, List.nodup_append]
      refine ⟨hb.once, List.nodup_singleton _, ?_⟩
      intro a ha b hmem' heq
      obtain ⟨x, hx, rfl⟩ := List.mem_map.mp ha
      rw [List.map_cons, List.map_nil, List.mem_singleton] at hmem'
      exact (hb.sampled x hx).1 (by rw [heq, hmem']; exact hkey)
    · rw [List.append_nil]
      exact hb.once

/-- **One small step**, as long as no number is used twice. -/
theorem move (hb : Booked isn h) (hfiled : Filed h.ep) {m : Move} (hm : h.Movable m)
    (hfew : (h.move m).chunksSent ≤ 2 ^ 32) : Booked isn (h.move m) := by
  cases m with
  | emit chunk =>
      have hle : h.chunksSent + 1 ≤ 2 ^ 32 := hfew
      refine hb.emit (by omega) rfl rfl rfl rfl rfl rfl ?_
      show h.ep.pending.length + h.chunksSent + 1 = h.ep.pending.length + (h.chunksSent + 1)
      omega
  | queue chunk =>
      refine hb.congr ?_ rfl rfl (List.append_nil _).symm (fun e he => absurd he List.not_mem_nil) rfl
      show (h.ep.pending ++ [chunk]).length + h.chunksSent = h.ep.pending.length + (h.chunksSent + 1)
      rw [List.length_append, List.length_singleton]
      omega
  | flush chunk =>
      have hle : h.chunksSent ≤ 2 ^ 32 := hfew
      obtain ⟨rest, hpending⟩ := List.head?_eq_some_iff.mp hm.2
      have hlen := congrArg List.length hpending
      rw [List.length_cons] at hlen
      refine hb.emit (by omega) rfl rfl rfl rfl rfl rfl ?_
      show h.ep.pending.tail.length + h.chunksSent + 1 = h.ep.pending.length + h.chunksSent
      rw [List.length_tail]
      omega
  | again s o => exact hb.again hfiled hm
  | remove s o => exact hb.remove hm
  | retune peerWindow rto failed =>
      exact hb.congr rfl rfl rfl (List.append_nil _).symm (fun e he => absurd he List.not_mem_nil) rfl
  | data pkt =>
      obtain ⟨rcvBase, reorder, nacked, hframe⟩ := h.ep.onData_frame pkt
      have hep : (h.heard pkt).ep = _ := hframe
      show Booked isn (h.heard pkt)
      refine hb.congr ?_ (by rw [hep]) (by rw [hep]) rfl quiet_onData rfl
      rw [hep]
      rfl

end Booked

/-! ## Measurements

Nothing outstanding was sent later than now, so no measurement is negative, and none is refused.
-/

/-- Nothing was sent in the future, and no measurement is negative. -/
structure Punctual (h : ArqHistory) : Prop where
  outstanding : ∀ e ∈ h.ep.outstanding.entries, e.2.sendTime ≤ h.clock
  samples : ∀ x ∈ h.samples, 0 ≤ x.rtt

namespace Punctual

lemma congr (hp : Punctual h) (houtstanding : h'.ep.outstanding = h.ep.outstanding)
    (hclock : h.clock ≤ h'.clock) (hsamples : h'.samples = h.samples) : Punctual h' := by
  refine ⟨fun e he => ?_, by rw [hsamples]; exact hp.samples⟩
  rw [houtstanding] at he
  exact (hp.outstanding e he).trans hclock

/-- What is sent now is sent by now. -/
lemma set (hp : Punctual h) {s : ℤ} {o : Outstanding} (ho : o.sendTime = h.clock)
    (houtstanding : h'.ep.outstanding = h.ep.outstanding.set s o) (hclock : h'.clock = h.clock)
    (hsamples : h'.samples = h.samples) : Punctual h' := by
  refine ⟨fun e he => ?_, by rw [hsamples]; exact hp.samples⟩
  rw [houtstanding] at he
  rw [hclock]
  rcases Dict.mem_entries_set.mp he with rfl | ⟨hold, -⟩
  · exact ho.le
  · exact hp.outstanding e hold

/-- **One small step.** -/
theorem move (hp : Punctual h) {m : Move} (hm : h.Movable m) : Punctual (h.move m) := by
  cases m with
  | emit chunk => exact hp.set rfl rfl rfl rfl
  | flush chunk => exact hp.set rfl rfl rfl rfl
  | again s o => exact hp.set rfl rfl rfl rfl
  | queue chunk => exact hp.congr rfl le_rfl rfl
  | retune peerWindow rto failed => exact hp.congr rfl le_rfl rfl
  | data pkt =>
      obtain ⟨rcvBase, reorder, nacked, hframe⟩ := h.ep.onData_frame pkt
      have hep : (h.heard pkt).ep = _ := hframe
      show Punctual (h.heard pkt)
      exact hp.congr (by rw [hep]) le_rfl rfl
  | remove s o =>
      refine ⟨fun e he => hp.outstanding e (Dict.mem_entries_erase.mp he).1, fun x hx => ?_⟩
      rcases List.mem_append.mp hx with hold | hnew
      · exact hp.samples x hold
      · split_ifs at hnew
        · rw [List.mem_singleton.mp hnew]
          exact sub_nonneg.mpr (hp.outstanding (s, o) (Dict.mem_entries_iff.mpr hm))
        · exact absurd hnew List.not_mem_nil

end Punctual

variable {sessionId sendIsn windowSize maxPayload recvIsn streamId maxRetx : ℤ} {rto : RtoEstimator}
  {ep : ArqEndpoint}

lemma Booked.start (hcreate : create sessionId sendIsn windowSize rto maxPayload recvIsn streamId
    maxRetx = .ok ep) (clock : ℚ) : Booked sendIsn (ArqHistory.start ep clock) := by
  obtain ⟨-, -, -, rfl⟩ := create_eq_ok_iff.mp hcreate
  exact ⟨⟨0, rfl, rfl, by simp [ArqHistory.start]⟩, by simp [ArqHistory.start],
    by simp [ArqHistory.start], by simp [ArqHistory.start]⟩

lemma Punctual.start (hcreate : create sessionId sendIsn windowSize rto maxPayload recvIsn streamId
    maxRetx = .ok ep) (clock : ℚ) : Punctual (ArqHistory.start ep clock) := by
  obtain ⟨-, -, -, rfl⟩ := create_eq_ok_iff.mp hcreate
  exact ⟨by simp [ArqHistory.start], by simp [ArqHistory.start]⟩

/-- The books of every history in which no number is used twice. -/
def Kept (isn : ℤ) (h : ArqHistory) : Prop :=
  Filed h.ep ∧ (h.chunksSent ≤ 2 ^ 32 → Booked isn h)

lemma Kept.start (hcreate : create sessionId sendIsn windowSize rto maxPayload recvIsn streamId
    maxRetx = .ok ep) (clock : ℚ) : Kept sendIsn (ArqHistory.start ep clock) :=
  ⟨Filed.start hcreate, fun _ => Booked.start hcreate clock⟩

lemma Kept.clock (hk : Kept isn h) (clock : ℚ) : Kept isn { h with clock } := by
  refine ⟨hk.1, fun hfew => ?_⟩
  have hb := hk.2 hfew
  exact ⟨hb.fresh, hb.outstanding, hb.sampled, hb.once⟩

lemma Kept.move (hk : Kept isn h) {m : Move} (hm : h.Movable m) : Kept isn (h.move m) :=
  ⟨hk.1.move hm, fun hfew => (hk.2 ((h.chunksSent_move m).trans hfew)).move hk.1 hm hfew⟩

/-- The estimator of the endpoint is `rto` after some calls, of which the measurements are those on
record, in this order; the other calls are timeouts. -/
def Fed (rto : RtoEstimator) (h : ArqHistory) : Prop :=
  ∃ cs : List RtoCall, PhotonTCP.samples cs = h.samples.map Sample.rtt ∧ h.ep.rto = rto.calls cs

/-- Nothing has been measured. -/
lemma Fed.start (hcreate : create sessionId sendIsn windowSize rto maxPayload recvIsn streamId maxRetx
    = .ok ep) (clock : ℚ) : Fed rto (start ep clock) := by
  obtain ⟨-, -, -, rfl⟩ := create_eq_ok_iff.mp hcreate
  exact ⟨[], rfl, rfl⟩

/-- The calls so far, and one more. -/
lemma Fed.call (hf : Fed rto h) (c : RtoCall) (hrto : h'.ep.rto = h.ep.rto.called c)
    (hsamples : h'.samples.map Sample.rtt = h.samples.map Sample.rtt ++ PhotonTCP.samples [c]) :
    Fed rto h' := by
  obtain ⟨cs, hcs, hfed⟩ := hf
  refine ⟨cs ++ [c], ?_, ?_⟩
  · rw [RtoEstimator.samples_append, hcs, hsamples]
  · rw [hrto, hfed, RtoEstimator.calls, RtoEstimator.calls, List.foldl_concat]

/-- **Only a removal measures**, what it measures goes on record, and a timeout is the only other
way in which the estimator changes. -/
lemma Fed.move (hf : Fed rto h) {m : Move} (hm : h.Movable m) : Fed rto (h.move m) := by
  cases m with
  | emit chunk => exact hf
  | queue chunk => exact hf
  | flush chunk => exact hf
  | again s o => exact hf
  | retune peerWindow rto' failed =>
      rcases hm.1 with rfl | rfl
      · exact hf
      · exact hf.call .onTimeout rfl (List.append_nil _).symm
  | remove s o =>
      by_cases hfirst : o.retxCount = 0
      · refine hf.call (.onSample (h.clock - o.sendTime)) (if_pos hfirst) ?_
        show List.map Sample.rtt (h.samples ++ if o.retxCount = 0 then _ else _) = _
        rw [if_pos hfirst, List.map_append]
        rfl
      · obtain ⟨cs, hcs, hfed⟩ := hf
        refine ⟨cs, ?_, (if_neg hfirst).trans hfed⟩
        show _ = List.map Sample.rtt (h.samples ++ if o.retxCount = 0 then _ else _)
        rw [if_neg hfirst, List.append_nil, hcs]
  | data pkt =>
      obtain ⟨rcvBase, reorder, nacked, hframe⟩ := h.ep.onData_frame pkt
      obtain ⟨cs, hcs, hfed⟩ := hf
      refine ⟨cs, hcs, ?_⟩
      show (h.ep.onData pkt).2.rto = _
      rw [hframe]
      exact hfed

/-- **Karn's rule.**  Every measurement is taken of a packet that has been transmitted once, from
that transmission on; each number gives at most one; these measurements, and no others, are what the
estimator has been fed; and no packet makes the endpoint raise. -/
theorem karn {clock : ℚ} {h : ArqHistory}
    (hcreate : create sessionId sendIsn windowSize rto maxPayload recvIsn streamId maxRetx = .ok ep)
    (hreach : system.Reach InTime (start ep clock) h) (hfew : h.chunksSent < 2 ^ 32) :
    (∀ x ∈ h.samples, 0 ≤ x.rtt ∧ ∃ t, x.rtt = x.time - t ∧ h.transmissions x.seq = [t]) ∧
    (h.samples.map Sample.seq).Nodup ∧ Fed rto h ∧
    ∀ pkt now, h.clock ≤ now → ∃ out, (h.ep.onPacket pkt now).1 = .ok out := by
  obtain ⟨⟨-, hbooked⟩, hp, hf⟩ : Kept sendIsn h ∧ Punctual h ∧ Fed rto h := by
    refine invariant_of_moves (I := fun h => Kept sendIsn h ∧ Punctual h ∧ Fed rto h) hreach
      ⟨Kept.start hcreate clock, Punctual.start hcreate clock, Fed.start hcreate clock⟩ ?_ ?_
    · rintro h i ⟨hk, hp, hf⟩ htime
      exact ⟨hk.clock i.now, hp.congr rfl htime rfl, hf⟩
    · rintro h m ⟨hk, hp, hf⟩ hm
      exact ⟨hk.move hm, hp.move hm, hf.move hm⟩
  have hb := hbooked hfew.le
  refine ⟨fun x hx => ⟨hp.samples x hx, x.time - x.rtt, by ring, (hb.sampled x hx).2⟩, hb.once, hf,
    ?_⟩
  intro pkt now htime
  exact onPacket_ok (fun e he => (hp.outstanding e he).trans htime) pkt

/-- An endpoint that may not retransmit. -/
def impatient : ArqEndpoint where
  sessionId := 7
  streamId := 1
  windowSize := 6
  maxPayload := 9
  maxRetx := 0
  rto := { initialRto := 1, minRto := 1 / 2, maxRto := 8 }
  nextSeq := 0
  rcvBase := 0
  windowSize_pos := by decide
  maxPayload_pos := by decide
  maxRetx_nonneg := by decide

lemma create_impatient : create 7 0 6 { initialRto := 1, minRto := 1 / 2, maxRto := 8 } 9 0 1 0
    = .ok impatient := rfl

/-- An answer to it. -/
def answerFor (type : PacketType) (ack : ℤ) : Packet where
  type := type
  sessionId := 7
  streamId := 1
  seq := 0
  ack := ack
  window := 4

/-- Three chunks are acknowledged together.  The first two are measured, after `1` and after `1 /
2`; the third has been sent twice, because a NACK asked for it, and is not. -/
theorem karn_impatient : ∃ h : ArqHistory, h.samples = [⟨0, 1, 1⟩, ⟨1, 1, 1 / 2⟩] ∧
    h.transmissions 2 = [1 / 2, 3 / 4] ∧ h.ep.outstanding.keys = [] ∧
    (h.samples.map Sample.seq).Nodup ∧
    Fed { initialRto := 1, minRto := 1 / 2, maxRto := 8 } h ∧
    (h.ep.onPacket (answerFor .Ack 2) 2).1.toOption.isSome = true := by
  obtain ⟨h, hreach, hsamples, htwice, hkeys, hclock, hfew⟩ := system.exists_reach_of_exec InTime
    [.send [10] 0, .send [11] (1 / 2), .send [12] (1 / 2), .packet (answerFor .Nack 2) (3 / 4),
      .packet (answerFor .Ack 3) 1] (start impatient 0)
    (fun h => h.samples = [⟨0, 1, 1⟩, ⟨1, 1, 1 / 2⟩] ∧ h.transmissions 2 = [1 / 2, 3 / 4] ∧
      h.ep.outstanding.keys = [] ∧ h.clock = 1 ∧ h.chunksSent < 2 ^ 32)
    (by decide +kernel)
  obtain ⟨-, honce, hfed, hreturns⟩ := karn create_impatient hreach hfew
  obtain ⟨out, hout⟩ := hreturns (answerFor .Ack 2) 2 (by rw [hclock]; norm_num)
  exact ⟨h, hsamples, htwice, hkeys, honce, hfed, by rw [hout]; rfl⟩

/-! ## The budget

Each step of an input either emits no DATA, or emits a number for the first time, or repeats one
that has repetitions left.
-/

/-- The later emission is no retransmission of the earlier one by an endpoint that has failed. -/
def Allowed (earlier later : Emission) : Prop :=
  later.failed = true → earlier.packet.type = .Data → later.packet.type = .Data →
    earlier.packet.seq ≠ later.packet.seq

/-- No number is transmitted more than `1 + max_retx` times, and nothing is transmitted again once
the endpoint has failed. -/
structure Budget (h : ArqHistory) : Prop where
  each : ∀ s, ((h.transmissions s).length : ℤ) ≤ 1 + h.ep.maxRetx
  failed : h.emitted.Pairwise Allowed

namespace Budget

/-- The wire is as it was, but for packets that are not DATA. -/
lemma congr (hg : Budget h) {more : List Emission} (hmax : h'.ep.maxRetx = h.ep.maxRetx)
    (hemitted : h'.emitted = h.emitted ++ more) (hquiet : ∀ e ∈ more, e.packet.type ≠ .Data) :
    Budget h' := by
  refine ⟨?_, ?_⟩
  · rw [transmissions_quiet hemitted hquiet, hmax]
    exact hg.each
  · rw [hemitted, List.pairwise_append]
    refine ⟨hg.failed, ?_, ?_⟩
    · exact List.pairwise_of_forall_mem_list fun e _ e' he' _ _ htype => absurd htype (hquiet e' he')
    · exact fun e _ e' he' _ _ htype => absurd htype (hquiet e' he')

/-- One more DATA packet. -/
lemma append (hg : Budget h) {e : Emission} (hmax : h'.ep.maxRetx = h.ep.maxRetx)
    (hemitted : h'.emitted = h.emitted ++ [e]) (htype : e.packet.type = .Data)
    (hcount : ((h.transmissions e.packet.seq).length : ℤ) ≤ h.ep.maxRetx)
    (hfailed : e.failed = true → h.transmissions e.packet.seq = []) : Budget h' := by
  refine ⟨fun s => ?_, ?_⟩
  · rw [transmissions_append hemitted htype, hmax]
    split_ifs with hs
    · rw [hs, List.length_append, List.length_singleton]
      push_cast
      omega
    · exact hg.each s
  · rw [hemitted, List.pairwise_append]
    refine ⟨hg.failed, List.pairwise_singleton _ _, ?_⟩
    intro x hx y hy hfail hdata _ hsame
    rw [List.mem_singleton.mp hy] at hfail hsame
    have hnone := hfailed hfail
    rw [transmissions, List.map_eq_nil_iff, List.filter_eq_nil_iff] at hnone
    exact hnone x hx (by simp [hdata, hsame])

/-- **One small step** that retransmits only what may be retransmitted. -/
theorem move (hg : Budget h) (hb : Booked isn h) (hfiled : Filed h.ep) {m : Move}
    (hm : h.Movable m) (hspare : h.Spare m) (hfew : (h.move m).chunksSent ≤ 2 ^ 32) :
    Budget (h.move m) := by
  have hmax := (h.config_move m).2
  have hfirst : h.chunksSent < 2 ^ 32 + h.ep.pending.length →
      ((h.transmissions h.ep.nextSeq).length : ℤ) ≤ h.ep.maxRetx ∧
        h.transmissions h.ep.nextSeq = [] := by
    intro hroom
    have hnone := hb.transmissions_nextSeq hroom
    rw [hnone]
    exact ⟨h.ep.maxRetx_nonneg, rfl⟩
  cases m with
  | emit chunk =>
      have hle : h.chunksSent + 1 ≤ 2 ^ 32 := hfew
      obtain ⟨hcount, hnone⟩ := hfirst (by omega)
      exact hg.append hmax rfl rfl hcount fun _ => hnone
  | flush chunk =>
      have hle : h.chunksSent ≤ 2 ^ 32 := hfew
      obtain ⟨rest, hpending⟩ := List.head?_eq_some_iff.mp hm.2
      obtain ⟨hcount, hnone⟩ := hfirst (by rw [hpending, List.length_cons]; omega)
      exact hg.append hmax rfl rfl hcount fun _ => hnone
  | again s o =>
      obtain ⟨hactive, hleft⟩ := hspare
      have hmem := Dict.mem_entries_iff.mpr hm
      obtain ⟨htype, hnumber⟩ := hfiled (s, o) hmem
      obtain ⟨earlier, hlen, htimes⟩ := hb.outstanding (s, o) hmem
      dsimp only at htype hnumber hlen htimes
      refine hg.append hmax rfl htype ?_ fun hfailed => ?_
      · dsimp only
        rw [hnumber, htimes, List.length_append, List.length_singleton, hlen]
        push_cast
        omega
      · rw [hactive] at hfailed
        cases hfailed
  | data pkt => exact hg.congr hmax rfl quiet_onData
  | _ => exact hg.congr hmax (List.append_nil _).symm fun e he => absurd he List.not_mem_nil

end Budget

lemma Budget.start (ep : ArqEndpoint) (clock : ℚ) : Budget (ArqHistory.start ep clock) := by
  have hmax := ep.maxRetx_nonneg
  refine ⟨fun s => ?_, List.Pairwise.nil⟩
  show ((0 : ℕ) : ℤ) ≤ 1 + ep.maxRetx
  push_cast
  omega

/-- An input within the bound. -/
lemma Budget.next (hg : Budget h) (hk : Kept isn h) {i : ArqInput} (hwithin : h.NackWithin i)
    (hfew : (h.next i).chunksSent ≤ 2 ^ 32) : Budget (h.next i) := by
  have hinv : Kept isn (h.next i) ∧ ((h.next i).chunksSent ≤ 2 ^ 32 → Budget (h.next i)) := by
    refine (next_run h i).invariant
      (I := fun h => Kept isn h ∧ (h.chunksSent ≤ 2 ^ 32 → Budget h)) ?_ ?_
    · exact ⟨hk.clock i.now, fun _ => ⟨hg.each, hg.failed⟩⟩
    · rintro h m ⟨hk, hg⟩ hm hspare
      refine ⟨hk.move hm, fun hfew => ?_⟩
      have hbefore := (h.chunksSent_move m).trans hfew
      exact (hg hbefore).move (hk.2 hbefore) hk.1 hm (hspare hwithin) hfew
  exact hinv.2 hfew

/-- A NACK that hits retransmits. -/
lemma emitted_nack {pkt : Packet} {o : Outstanding} (now : ℚ)
    (hsession : pkt.sessionId = h.ep.sessionId) (htype : pkt.type = .Nack)
    (hget : h.ep.outstanding.get? pkt.ack = some o) :
    (h.next (.packet pkt now)).emitted =
        h.emitted ++ [⟨o.packet, now, h.ep.failed, h.delivered.length⟩] ∧
      (h.next (.packet pkt now)).ep.maxRetx = h.ep.maxRetx := by
  simp [ArqHistory.next, ArqEndpoint.apply, ArqEndpoint.onPacket, hsession, htype, onNack, hget,
    observed, ArqInput.now]

/-- A NACK beyond the bound breaks it. -/
lemma Budget.within (hb : Booked isn h) (hfiled : Filed h.ep) {i : ArqInput}
    (hg : Budget (h.next i)) : h.NackWithin i := by
  cases i with
  | send data now => trivial
  | tick now => trivial
  | packet pkt now =>
      intro hsession htype o hget
      have hmem := Dict.mem_entries_iff.mpr hget
      obtain ⟨hdata, hnumber⟩ := hfiled (pkt.ack, o) hmem
      obtain ⟨earlier, hlen, htimes⟩ := hb.outstanding (pkt.ack, o) hmem
      obtain ⟨hemitted, hmax⟩ := emitted_nack now hsession htype hget
      dsimp only at hdata hnumber hlen htimes
      refine ⟨?_, ?_⟩
      · -- the number has been transmitted before
        by_contra hfailed
        obtain ⟨e, he, hdata', hnumber'⟩ :=
          exists_of_transmissions_ne_nil (hb.ne_nil_of_mem (Dict.mem_keys_of_mem hmem))
        have hpair := hg.failed
        rw [hemitted, List.pairwise_append] at hpair
        exact hpair.2.2 e he _ (List.mem_singleton_self _) (by simpa using hfailed) hdata' hdata
          (by rw [hnumber', hnumber])
      · have hcount := hg.each pkt.ack
        rw [transmissions_append hemitted hdata, if_pos hnumber.symm, htimes, hmax] at hcount
        simp only [List.length_append, List.length_singleton, hlen] at hcount
        push_cast at hcount
        omega

/-- One input, with what it returns. -/
def step (h : ArqHistory) (i : ArqInput) : ArqOutput × ArqHistory := ((h.ep.apply i).1, h.next i)

lemma Kept.next (hk : Kept isn h) (i : ArqInput) : Kept isn (h.next i) :=
  (next_run h i).invariant (hk.clock i.now) fun _ _ hk hm _ => hk.move hm

lemma chunksSent_next (h : ArqHistory) (i : ArqInput) : h.chunksSent ≤ (h.next i).chunksSent :=
  Nat.le_add_right _ _

/-- **The budget holds exactly if every NACK that hits finds retransmissions left**, in every
history, as long as no number is used for two packets. -/
theorem budget_iff
    (hcreate : create sessionId sendIsn windowSize rto maxPayload recvIsn streamId maxRetx = .ok ep)
    (clock : ℚ) (inputs : List ArqInput) :
    (∀ h ∈ Mealy.states step (start ep clock) inputs, h.chunksSent ≤ 2 ^ 32 → Budget h) ↔
      Mealy.Along step (fun h i => (h.next i).chunksSent ≤ 2 ^ 32 → h.NackWithin i)
        (start ep clock) inputs := by
  refine Mealy.forall_states_iff_along (Q := fun _ => True) (J := Kept sendIsn)
    (fun h i hk => hk.next i) ?_ (fun _ _ => trivial) (Kept.start hcreate clock)
    (fun _ => Budget.start ep clock)
  intro h i hk _ hg
  constructor
  · intro hnext hfew
    have hbefore := (h.chunksSent_next i).trans hfew
    exact Budget.within (hk.2 hbefore) hk.1 (hnext hfew)
  · intro hwithin hfew
    have hbefore := (h.chunksSent_next i).trans hfew
    exact (hg hbefore).next hk (hwithin hfew) hfew

/-- A chunk whose timer runs out. -/
theorem budget_iff_impatient : ∃ h ∈ Mealy.states step (start impatient 0) [.send [10] 0, .tick 1],
    h.ep.failed = true ∧ h.transmissions 0 = [0] ∧ Budget h := by
  have hbudget := (budget_iff create_impatient 0 [.send [10] 0, .tick 1]).mpr
    ⟨fun _ => trivial, fun _ => trivial, trivial⟩
  have hlast : (((start impatient 0).next (.send [10] 0)).next (.tick 1)).ep.failed = true ∧
      (((start impatient 0).next (.send [10] 0)).next (.tick 1)).transmissions 0 = [0] ∧
      (((start impatient 0).next (.send [10] 0)).next (.tick 1)).chunksSent ≤ 2 ^ 32 := by
    decide +kernel
  have hmem : ((start impatient 0).next (.send [10] 0)).next (.tick 1) ∈
      Mealy.states step (start impatient 0) [.send [10] 0, .tick 1] := by
    simp [Mealy.states, step]
  exact ⟨_, hmem, hlast.1, hlast.2.1, hbudget _ hmem hlast.2.2⟩

/-- The NACK comes after the endpoint has failed. -/
def lateNack : List ArqInput := [.send [10] 0, .tick 1, .packet (answerFor .Nack 0) 2]

/-- **A NACK does not ask for the budget**: it makes a failed endpoint retransmit. -/
theorem nack_over_budget :
    (Mealy.run step (start impatient 0) lateNack).2.transmissions 0 = [0, 2] ∧
    (Mealy.run step (start impatient 0) lateNack).2.ep.failed = true ∧
    ¬ ∀ inputs, ∀ h ∈ Mealy.states step (start impatient 0) inputs,
      h.chunksSent ≤ 2 ^ 32 → Budget h := by
  have hrun : (Mealy.run step (start impatient 0) lateNack).2.transmissions 0 = [0, 2] ∧
      (Mealy.run step (start impatient 0) lateNack).2.ep.failed = true ∧
      (Mealy.run step (start impatient 0) lateNack).2.chunksSent ≤ 2 ^ 32 ∧
      (Mealy.run step (start impatient 0) lateNack).2.ep.maxRetx = 0 := by
    decide +kernel
  obtain ⟨htwice, hfailed, hfew, hmax⟩ := hrun
  refine ⟨htwice, hfailed, fun hall => ?_⟩
  have hbudget := hall lateNack (Mealy.run step (start impatient 0) lateNack).2
    (by simp [lateNack, Mealy.states, Mealy.run, step]) hfew
  have hcount := hbudget.each 0
  rw [htwice, hmax] at hcount
  exact absurd hcount (by decide)

end ArqHistory

end PhotonTCP
