import Mathlib
import PhotonTCP.Channel.Loopback
import PhotonTCP.Session.Session
import PhotonTCP.Stream.Isolation

/-!
# What reaches the session

`pump` drops a frame that `unpack` refuses with a packet error, and only such a frame.

* `Parses` — the frames that reach the session.
* `pump_eq_parsing` — as long as nothing but packet errors are raised, the pump does what it would
  do if only these frames had arrived.
* **`hostile_bytes`** — exactly the frames that are intact but name no packet type abort the pump;
  `unknown_type` is one.
* **`single_byte_corruption`** — no frame in which the channel flipped a byte reaches the session.

That a frame is dropped is more than that no exception is seen.  It means that the cycle goes on as
if the frame had not been there, with the same packets routed at the same times; so the theorems
compare two runs of `pump`, one on all frames and one on those that parse.

For the exact condition it must be shown that a frame which violates it does make a difference.  A
session could in principle raise in both runs, or never get to that frame.  There is a session for
which neither happens, whatever the other frames are: its id is one that no frame can bear, so it
neither answers nor changes in any way that could raise.  It is used for this one direction only,
and its properties are proved as Hoare triples of the operations that the pump calls.
-/

namespace PhotonTCP

namespace Session

open Std.Do

set_option mvcgen.warning false

variable {zlib : Bytes → ℕ}

/-! ## Dropping

First the direction that is about every session.  The two loops count frames differently if there is
a maximum, since dropped frames are counted too; hence the second run is over the frames that were
taken, without a maximum.
-/

/-- The frame parses. -/
def Parses (zlib : Bytes → ℕ) (frame : Bytes) : Bool := (Packet.unpack zlib frame).isOk

/-- The frames that are taken. -/
def taken (maxFrames : Option ℤ) (processed : ℤ) (frames : List (Bytes × ℚ)) :
    List (Bytes × ℚ) :=
  match maxFrames with
  | none => frames
  | some n => frames.take (n - processed).toNat

/-- The frames that are taken and parse. -/
def parsing (zlib : Bytes → ℕ) (maxFrames : Option ℤ) (processed : ℤ)
    (frames : List (Bytes × ℚ)) : List (Bytes × ℚ) :=
  (taken maxFrames processed frames).filter fun f => Parses zlib f.1

lemma taken_cons (maxFrames : Option ℤ) (processed : ℤ) (f : Bytes × ℚ)
    (frames : List (Bytes × ℚ)) :
    taken maxFrames processed (f :: frames) =
      if maxFrames.all fun n => processed < n then f :: taken maxFrames (processed + 1) frames
      else [] := by
  cases maxFrames with
  | none => rfl
  | some n =>
      simp only [taken, Option.all_some, decide_eq_true_eq]
      split_ifs with h
      · have hsucc : (n - processed).toNat = (n - (processed + 1)).toNat + 1 := by omega
        rw [hsucc, List.take_succ_cons]
      · have hzero : (n - processed).toNat = 0 := by omega
        rw [hzero, List.take_zero]

lemma taken_nil (maxFrames : Option ℤ) (processed : ℤ) : taken maxFrames processed [] = [] := by
  cases maxFrames with
  | none => rfl
  | some n => exact List.take_nil

/-- Among these frames no exception but a packet error is raised. -/
def OnlyPacketErrors (zlib : Bytes → ℕ) (frames : List (Bytes × ℚ)) : Prop :=
  ∀ f ∈ frames, ¬ NamesNoType zlib f.1

lemma drain_none_cons {frame : Bytes} {pkt : Packet} (h : Packet.unpack zlib frame = .ok pkt)
    (now : ℚ) (processed : ℤ) (frames : List (Bytes × ℚ)) :
    drain zlib none processed ((frame, now) :: frames) = (do
      let events ← routePacket zlib pkt now
      let more ← drain zlib none (processed + 1) frames
      return events ++ more) := by
  rw [drain, Option.all_none, if_pos rfl, h]

/-- Without a bound the count does not matter. -/
lemma drain_none (frames : List (Bytes × ℚ)) : ∀ processed processed' : ℤ,
    drain zlib none processed frames = drain zlib none processed' frames := by
  induction frames with
  | nil =>
      intro processed processed'
      rfl
  | cons f frames ih =>
      intro processed processed'
      rw [drain, drain, ih (processed + 1) (processed' + 1), Option.all_none, Option.all_none]

/-- **The loop drops what does not parse.** -/
theorem drain_eq_parsing {maxFrames : Option ℤ} : ∀ {frames : List (Bytes × ℚ)} {processed : ℤ},
    OnlyPacketErrors zlib (taken maxFrames processed frames) →
    drain zlib maxFrames processed frames
      = drain zlib none 0 (parsing zlib maxFrames processed frames) := by
  intro frames
  induction frames with
  | nil =>
      intro processed _
      rw [parsing, taken_nil]
      rfl
  | cons f frames ih =>
      obtain ⟨frame, now⟩ := f
      intro processed h
      rw [parsing, drain, taken_cons]
      rw [taken_cons] at h
      split_ifs with hroom
      · rw [if_pos hroom] at h
        obtain ⟨hframe, hrest⟩ := List.forall_mem_cons.mp h
        rcases unpack_of_not_namesNoType zlib hframe with ⟨pkt, hpkt⟩ | ⟨e, he⟩
        · have hparses : Parses zlib frame = true := by rw [Parses, hpkt]; rfl
          rw [List.filter_cons_of_pos (by exact hparses), drain_none_cons hpkt, hpkt,
            drain_none _ (0 + 1) 0, ih hrest]
          rfl
        · have hparses : ¬ Parses zlib frame = true := by rw [Parses, he]; exact Bool.false_ne_true
          rw [List.filter_cons_of_neg (by exact hparses), he]
          exact ih hrest
      · rfl

/-- **The pump drops what does not parse.** -/
theorem pump_eq_parsing {maxFrames : Option ℤ} {frames : List (Bytes × ℚ)}
    (h : OnlyPacketErrors zlib (taken maxFrames 0 frames)) (now now' : ℚ) :
    pump zlib maxFrames frames now now'
      = pump zlib none (parsing zlib maxFrames 0 frames) now now' := by
  rw [pump, pump, drain_eq_parsing h]

/-! ## A session that ignores everything

What it does with a packet of another session: nothing, but that the multiplexer makes an endpoint
before it looks at the id.
-/

/-- A session with an id that no frame can bear: nothing that parses has any effect on it, except
that endpoints are made. -/
structure Deaf (s : Session) : Prop where
  machine : s.machine = { isInitiator := true, sessionId := -1, isn := 0 }
  sessionId : s.mux.sessionId = -1
  windowSize_pos : 1 ≤ s.mux.windowSize
  maxPayload_pos : 1 ≤ s.mux.maxPayload
  fresh : ∀ k e, s.mux.endpoints.get? k = some e → s.mux.newEndpoint k = .ok e

/-- One such session. -/
def deaf : Session := create true (-1) 0

lemma deaf_deaf : Deaf deaf where
  machine := rfl
  sessionId := rfl
  windowSize_pos := by decide
  maxPayload_pos := by decide
  fresh := fun k e h => by cases h

namespace Deaf

variable {s : Session}

lemma machine_onPacket (h : Deaf s) {pkt : Packet} (hid : 0 ≤ pkt.sessionId) (now : ℚ) :
    s.machine.onPacket pkt now = ({}, s.machine) := by
  rw [h.machine, SessionStateMachine.onPacket, if_pos]
  refine ⟨fun hinit => ?_, fun heq => ?_⟩
  · exact absurd hinit.2.1 (by simp)
  · rw [heq] at hid
    exact absurd hid (by decide)

lemma newEndpoint_sessionId (h : Deaf s) {k : ℤ} {e : ArqEndpoint}
    (he : s.mux.newEndpoint k = .ok e) : e.sessionId = -1 := by
  obtain ⟨-, -, -, rfl⟩ := ArqEndpoint.create_eq_ok_iff.mp he
  exact h.sessionId

/-- Opening a stream makes at most a fresh endpoint. -/
lemma endpoint (h : Deaf s) (k : ℤ) : ∃ e mux, s.mux.endpoint k = .ok (e, mux) ∧
    e.sessionId = -1 ∧ Deaf { s with mux } ∧ mux.update k e = mux := by
  rw [StreamMux.endpoint]
  cases hget : s.mux.endpoints.get? k with
  | some e =>
      exact ⟨e, s.mux, rfl, h.newEndpoint_sessionId (h.fresh k e hget), h,
        StreamMux.update_eq_self hget⟩
  | none =>
      obtain ⟨e, he⟩ : ∃ e, s.mux.newEndpoint k = .ok e :=
        StreamMux.newEndpoint_eq_ok_iff.mpr ⟨h.windowSize_pos, h.maxPayload_pos⟩
      refine ⟨e, s.mux.update k e, by rw [he], h.newEndpoint_sessionId he,
        ⟨h.machine, h.sessionId, h.windowSize_pos, h.maxPayload_pos, ?_⟩,
        StreamMux.update_eq_self (Dict.get?_set_self ..)⟩
      intro k' e' he'
      replace he' : (s.mux.endpoints.set k e).get? k' = some e' := he'
      rw [Dict.get?_set] at he'
      split_ifs at he' with hk
      · cases he'
        rw [hk]
        exact he
      · exact h.fresh k' e' he'

lemma machine_onTick (h : Deaf s) (now : ℚ) : s.machine.onTick now = ({}, s.machine) := by
  rw [h.machine]
  rfl

/-- A packet of another session makes at most an endpoint. -/
lemma mux_onPacket (h : Deaf s) {pkt : Packet} (hid : 0 ≤ pkt.sessionId) (now : ℚ) :
    ∃ mux, s.mux.onPacket pkt now = (.ok {}, mux) ∧ Deaf { s with mux } := by
  rw [StreamMux.onPacket]
  split_ifs with hcontrol
  · exact ⟨s.mux, rfl, h⟩
  · obtain ⟨e, mux, hopen, hsession, hdeaf, hsame⟩ := h.endpoint pkt.streamId
    have hforeign : pkt.sessionId ≠ e.sessionId := by omega
    refine ⟨mux, ?_, hdeaf⟩
    rw [hopen]
    simp only [ArqEndpoint.onPacket, if_pos hforeign, hsame]
    rfl

lemma mux_onTick (h : Deaf s) (now : ℚ) :
    (s.mux.onTick now).1.packets = [] ∧ Deaf { s with mux := (s.mux.onTick now).2 } := by
  have hquiet : ∀ e ∈ s.mux.endpoints.entries, e.2.onTick now = ({}, e.2) := fun e he =>
    onTick_fresh (h.fresh e.1 e.2 (Dict.mem_entries_iff.mp he)) now
  refine ⟨List.flatMap_eq_nil_iff.mpr fun e he => by rw [hquiet e he], h.machine, h.sessionId,
    h.windowSize_pos, h.maxPayload_pos, ?_⟩
  intro k e he
  replace he : (s.mux.endpoints.mapValues fun ep => (ep.onTick now).2).get? k = some e := he
  rw [Dict.get?_mapValues] at he
  obtain ⟨e₀, hget, rfl⟩ := Option.map_eq_some_iff.mp he
  rw [onTick_fresh (h.fresh k e₀ hget)]
  exact h.fresh k e₀ hget

lemma sync (h : Deaf s) :
    Deaf { s with mux := s.mux.setSessionId s.machine.sessionId } := by
  refine ⟨h.machine, by rw [h.machine]; rfl, h.windowSize_pos, h.maxPayload_pos, ?_⟩
  intro k e he
  replace he : (s.mux.endpoints.mapValues
    fun ep => { ep with sessionId := s.machine.sessionId }).get? k = some e := he
  rw [Dict.get?_mapValues] at he
  obtain ⟨e₀, hget, rfl⟩ := Option.map_eq_some_iff.mp he
  exact newEndpoint_setSessionId (h.fresh k e₀ hget) _

lemma congr (h : Deaf s) {s' : Session} (hmachine : s'.machine = s.machine)
    (hmux : s'.mux = s.mux) : Deaf s' := by
  obtain ⟨machine, mux, recvBuffers, transmitted⟩ := s'
  obtain rfl : machine = s.machine := hmachine
  obtain rfl : mux = s.mux := hmux
  exact ⟨h.machine, h.sessionId, h.windowSize_pos, h.maxPayload_pos, h.fresh⟩

/-! The specifications of what the pump calls: the session stays deaf, says nothing and raises
nothing. -/

@[spec]
lemma emit_spec (out : Output) :
    ⦃fun s => ⌜Deaf s ∧ out.packets = []⌝⦄ emit zlib out ⦃⇓ _ s => ⌜Deaf s⌝⦄ := by
  mvcgen [emit]
  rename_i s h
  rw [h.2]
  exact h.1

@[spec]
lemma emitMux_spec (out : MuxOutput) :
    ⦃fun s => ⌜Deaf s ∧ out.packets = []⌝⦄ emitMux zlib out ⦃⇓ _ s => ⌜Deaf s⌝⦄ := by
  mvcgen [emitMux]
  rename_i s h
  rw [h.2]
  exact h.1.congr rfl rfl

@[spec]
lemma onMachine_onPacket_spec {pkt : Packet} (hid : 0 ≤ pkt.sessionId) (now : ℚ) :
    ⦃fun s => ⌜Deaf s⌝⦄ onMachine (fun m => m.onPacket pkt now)
      ⦃⇓ out s => ⌜Deaf s ∧ out.packets = []⌝⦄ := by
  mvcgen [onMachine]
  rename_i s h result
  simp only [result, h.machine_onPacket hid now]
  exact ⟨h, trivial⟩

@[spec]
lemma onMachine_onTick_spec (now : ℚ) :
    ⦃fun s => ⌜Deaf s⌝⦄ onMachine (fun m => m.onTick now)
      ⦃⇓ out s => ⌜Deaf s ∧ out.packets = []⌝⦄ := by
  mvcgen [onMachine]
  rename_i s h result
  simp only [result, h.machine_onTick now]
  exact ⟨h, trivial⟩

@[spec]
lemma onMux_onPacket_spec {pkt : Packet} (hid : 0 ≤ pkt.sessionId) (now : ℚ) :
    ⦃fun s => ⌜Deaf s⌝⦄ onMux (fun mux => mux.onPacket pkt now)
      ⦃⇓ out s => ⌜Deaf s ∧ out.packets = []⌝⦄ := by
  mvcgen [onMux] <;> rename_i s h result out hout <;>
    obtain ⟨mux, hmux, hdeaf⟩ := h.mux_onPacket hid now <;>
    simp only [result, hmux] at hout ⊢
  · cases hout
    exact ⟨hdeaf, rfl⟩
  · cases hout

@[spec]
lemma onMux_onTick_spec (now : ℚ) :
    ⦃fun s => ⌜Deaf s⌝⦄
      onMux (fun mux => ((.ok (mux.onTick now).1 : Except ValueError MuxOutput), (mux.onTick now).2))
      ⦃⇓ out s => ⌜Deaf s ∧ out.packets = []⌝⦄ := by
  mvcgen [onMux]
  rename_i s h result
  exact ⟨(h.mux_onTick now).2, (h.mux_onTick now).1⟩

@[spec]
lemma routePacket_spec {pkt : Packet} (hid : 0 ≤ pkt.sessionId) (now : ℚ) :
    ⦃fun s => ⌜Deaf s⌝⦄ routePacket zlib pkt now ⦃⇓ _ s => ⌜Deaf s⌝⦄ := by
  mvcgen [routePacket]
  rename_i s h _ result
  refine h.congr ?_ rfl
  show s.machine.noteDataActivity now = s.machine
  rw [h.machine]
  rfl

@[spec]
lemma syncSessionId_spec : ⦃fun s => ⌜Deaf s⌝⦄ syncSessionId ⦃⇓ _ s => ⌜Deaf s⌝⦄ := by
  mvcgen [syncSessionId]
  rename_i s h result
  exact h.sync

lemma sessionId_nonneg {frame : Bytes} {pkt : Packet} (h : Packet.unpack zlib frame = .ok pkt) :
    0 ≤ pkt.sessionId := by
  obtain ⟨-, type, -, rfl⟩ := (unpack_eq_ok_iff zlib).mp h
  exact Int.natCast_nonneg _

/-- The loop raises nothing on frames that parse or are refused with a packet error. -/
lemma drain_spec {maxFrames : Option ℤ} : ∀ {frames : List (Bytes × ℚ)} {processed : ℤ},
    OnlyPacketErrors zlib (taken maxFrames processed frames) →
    ⦃fun s => ⌜Deaf s⌝⦄ drain zlib maxFrames processed frames ⦃⇓ _ s => ⌜Deaf s⌝⦄ := by
  intro frames
  induction frames with
  | nil =>
      intro processed _
      mvcgen [drain]
  | cons f frames ih =>
      obtain ⟨frame, now⟩ := f
      intro processed h
      rw [taken_cons] at h
      rw [drain]
      split_ifs with hroom
      · rw [if_pos hroom] at h
        obtain ⟨hframe, hrest⟩ := List.forall_mem_cons.mp h
        have hih := ih hrest
        rcases unpack_of_not_namesNoType zlib hframe with ⟨pkt, hpkt⟩ | ⟨e, he⟩
        · have hid := sessionId_nonneg hpkt
          rw [hpkt]
          mvcgen [hih]
        · rw [he]
          exact hih
      · mvcgen

/-- The loop stops at a frame that names no packet type. -/
lemma drain_raises {maxFrames : Option ℤ} : ∀ {frames : List (Bytes × ℚ)} {processed : ℤ},
    ¬ OnlyPacketErrors zlib (taken maxFrames processed frames) →
    ⦃fun s => ⌜Deaf s⌝⦄ drain zlib maxFrames processed frames
      ⦃post⟨fun _ _ => ⌜False⌝, fun _ _ => ⌜True⌝⟩⦄ := by
  intro frames
  induction frames with
  | nil =>
      intro processed h
      rw [taken_nil] at h
      exact absurd (fun f hf => absurd hf List.not_mem_nil) h
  | cons f frames ih =>
      obtain ⟨frame, now⟩ := f
      intro processed h
      rw [taken_cons] at h
      rw [drain]
      split_ifs with hroom
      · rw [if_pos hroom] at h
        by_cases hframe : NamesNoType zlib frame
        · rw [unpack_of_namesNoType zlib hframe, UnpackError.notAPacketType]
          mvcgen
        · have hrest : ¬ OnlyPacketErrors zlib (taken maxFrames (processed + 1) frames) :=
            fun hrest => h (List.forall_mem_cons.mpr ⟨hframe, hrest⟩)
          have hih := ih hrest
          rcases unpack_of_not_namesNoType zlib hframe with ⟨pkt, hpkt⟩ | ⟨e, he⟩
          · have hid := sessionId_nonneg hpkt
            rw [hpkt]
            mvcgen [hih]
          · rw [he]
            exact hih
      · rw [if_neg hroom] at h
        exact absurd (fun f hf => absurd hf List.not_mem_nil) h

lemma pump_spec {maxFrames : Option ℤ} {frames : List (Bytes × ℚ)}
    (h : OnlyPacketErrors zlib (taken maxFrames 0 frames)) (now now' : ℚ) :
    ⦃fun s => ⌜Deaf s⌝⦄ pump zlib maxFrames frames now now' ⦃⇓ _ s => ⌜Deaf s⌝⦄ := by
  have hdrain := drain_spec h
  mvcgen [pump, hdrain]

lemma pump_raises {maxFrames : Option ℤ} {frames : List (Bytes × ℚ)}
    (h : ¬ OnlyPacketErrors zlib (taken maxFrames 0 frames)) (now now' : ℚ) :
    ⦃fun s => ⌜Deaf s⌝⦄ pump zlib maxFrames frames now now'
      ⦃post⟨fun _ _ => ⌜False⌝, fun _ _ => ⌜True⌝⟩⦄ := by
  have hdrain := drain_raises h
  mvcgen [pump, hdrain]

end Deaf

/-! ## Exactly which frames abort the pump

Both directions together, for every session at once.
-/

/-- The pump does what it would do if only the frames that parse had arrived. -/
def DropsUnparsable (zlib : Bytes → ℕ) (maxFrames : Option ℤ) (frames : List (Bytes × ℚ)) : Prop :=
  ∀ (now now' : ℚ) (s : Session), pump zlib maxFrames frames now now' s
    = pump zlib none (parsing zlib maxFrames 0 frames) now now' s

lemma onlyPacketErrors_parsing (zlib : Bytes → ℕ) (maxFrames : Option ℤ)
    (frames : List (Bytes × ℚ)) : OnlyPacketErrors zlib (parsing zlib maxFrames 0 frames) := by
  intro f hf hnames
  have hparses := (List.mem_filter.mp hf).2
  rw [Parses, unpack_of_namesNoType zlib hnames] at hparses
  exact Bool.false_ne_true hparses

/-- For every session it does so, exactly if no frame names a packet type that does not exist. -/
theorem dropsUnparsable_iff {maxFrames : Option ℤ} {frames : List (Bytes × ℚ)} :
    DropsUnparsable zlib maxFrames frames ↔ OnlyPacketErrors zlib (taken maxFrames 0 frames) := by
  constructor
  · intro h
    by_contra hbad
    have hraises := Deaf.pump_raises hbad 0 0 deaf deaf_deaf
    have hparsing : OnlyPacketErrors zlib (taken none 0 (parsing zlib maxFrames 0 frames)) :=
      onlyPacketErrors_parsing zlib maxFrames frames
    have hquiet := Deaf.pump_spec hparsing 0 0 deaf deaf_deaf
    simp only [wp, PredTrans.apply, EStateM.run, h 0 0 deaf] at hraises hquiet
    cases hres : pump zlib none (parsing zlib maxFrames 0 frames) 0 0 deaf with
    | ok events s =>
        rw [hres] at hraises
        exact hraises
    | error e s =>
        rw [hres] at hquiet
        exact hquiet
  · intro h now now' s
    rw [pump_eq_parsing h]

/-- **`unpack` accepts a byte string or refuses it with a packet error, and the pump drops what does
not parse, exactly as long as no intact frame names a packet type that does not exist.** -/
theorem hostile_bytes (zlib : Bytes → ℕ) :
    (∀ raw, ((∃ p, Packet.unpack zlib raw = .ok p) ∨
        ∃ e, Packet.unpack zlib raw = .error (.PacketError e)) ↔ ¬ NamesNoType zlib raw) ∧
    ∀ maxFrames frames, DropsUnparsable zlib maxFrames frames ↔
      ∀ f ∈ taken maxFrames 0 frames, ¬ NamesNoType zlib f.1 := by
  refine ⟨fun raw => ⟨?_, unpack_of_not_namesNoType zlib⟩, fun _ _ => dropsUnparsable_iff⟩
  rintro (⟨p, hp⟩ | ⟨e, he⟩) hnames
  · rw [unpack_of_namesNoType zlib hnames] at hp
    cases hp
  · rw [unpack_of_namesNoType zlib hnames] at he
    cases he

/-- The fields of a frame before its checksum: version 1, type 8, and zeroes. -/
def unknownTypeHead : Bytes := [1, 8] ++ List.replicate 16 0

/-- An intact frame of type 8. -/
def unknownTypeFrame : Bytes :=
  unknownTypeHead ++ ByteRecord.encode 4 (zlibCrc32 (unknownTypeHead ++ [0, 0, 0, 0]))

lemma namesNoType_unknownTypeFrame : NamesNoType zlibCrc32 unknownTypeFrame :=
  ⟨⟨by decide, by decide +kernel, by decide +kernel⟩, by decide +kernel⟩

/-- **This frame raises an exception that is no packet error, and it aborts the pump.** -/
theorem unknown_type :
    Packet.unpack zlibCrc32 unknownTypeFrame
      = .error (.ValueError "8 is not a valid PacketType") ∧
    (¬ ∀ raw, (∃ p, Packet.unpack zlibCrc32 raw = .ok p) ∨
      ∃ e, Packet.unpack zlibCrc32 raw = .error (.PacketError e)) ∧
    ¬ ∀ maxFrames frames, DropsUnparsable zlibCrc32 maxFrames frames := by
  have hunpack := unpack_of_namesNoType zlibCrc32 namesNoType_unknownTypeFrame
  refine ⟨by decide +kernel, fun htotal => ?_, fun hdrops => ?_⟩
  · rcases htotal unknownTypeFrame with ⟨p, hp⟩ | ⟨e, he⟩
    · rw [hunpack] at hp
      cases hp
    · rw [hunpack] at he
      cases he
  · exact dropsUnparsable_iff.mp (hdrops none [(unknownTypeFrame, 0)]) (unknownTypeFrame, 0)
      (List.mem_singleton_self _) namesNoType_unknownTypeFrame

/-! ## Corrupted frames

A channel that changes single bytes produces no frame of the kind that aborts the pump.
-/

/-- A frame that a noisy channel passes on parses exactly if it is one of the frames sent. -/
lemma parses_iff_sent {c : LoopbackChannel} (hc : c.frames = [])
    {sends : List (Draws × Bytes)}
    (hsends : ∀ s ∈ sends, ∃ p : Packet, p.pack zlibCrc32 = some s.2) {x : Bytes}
    (hx : x ∈ (c.sendFrames sends).frames) :
    Parses zlibCrc32 x = true ↔ x ∈ sends.map Prod.snd := by
  constructor
  · intro hparses
    rcases LoopbackChannel.refused_or_sent hc hsends hx with ⟨s, hs, rfl⟩ | ⟨e, he⟩
    · exact List.mem_map_of_mem hs
    · rw [Parses, he] at hparses
      exact absurd hparses Bool.false_ne_true
  · intro hsent
    obtain ⟨s, hs, rfl⟩ := List.mem_map.mp hsent
    obtain ⟨p, hp⟩ := hsends s hs
    rw [Parses, unpack_of_pack zlibCrc32 hp]
    rfl

/-- Nor does such a frame abort the pump. -/
lemma not_namesNoType_of_sendFrames {c : LoopbackChannel} (hc : c.frames = [])
    {sends : List (Draws × Bytes)}
    (hsends : ∀ s ∈ sends, ∃ p : Packet, p.pack zlibCrc32 = some s.2) {x : Bytes}
    (hx : x ∈ (c.sendFrames sends).frames) : ¬ NamesNoType zlibCrc32 x := by
  intro hnames
  have hunpack := unpack_of_namesNoType zlibCrc32 hnames
  rcases LoopbackChannel.refused_or_sent hc hsends hx with ⟨s, hs, rfl⟩ | ⟨e, he⟩
  · obtain ⟨p, hp⟩ := hsends s hs
    rw [unpack_of_pack zlibCrc32 hp] at hunpack
    cases hunpack
  · rw [he] at hunpack
    cases hunpack

lemma mem_of_mem_taken {maxFrames : Option ℤ} {processed : ℤ} {frames : List (Bytes × ℚ)}
    {f : Bytes × ℚ} (h : f ∈ taken maxFrames processed frames) : f ∈ frames := by
  cases maxFrames with
  | none => exact h
  | some n => exact List.mem_of_mem_take h

/-- **A frame in which one byte was changed is never accepted.**  The encoding of every packet is
refused, with a packet error, once any of its bytes is changed; and whatever a noisy channel does to
the encodings it is given, the session does what it would do if only the frames that are among them
had arrived. -/
theorem single_byte_corruption :
    (∀ p : Packet, p.FitsHeader → ∃ raw, p.pack zlibCrc32 = some raw ∧
      ∀ i < raw.length, ∀ m : {m : UInt8 // m ≠ 0},
        ∃ e, Packet.unpack zlibCrc32 (raw.modify i (· ^^^ m.val)) = .error (.PacketError e)) ∧
    ∀ (c : LoopbackChannel) (sends : List (Draws × Bytes)), c.frames = [] →
      (∀ s ∈ sends, ∃ p : Packet, p.pack zlibCrc32 = some s.2) →
      ∀ (maxFrames : Option ℤ) (frames : List (Bytes × ℚ)),
        (∀ f ∈ frames, f.1 ∈ (c.sendFrames sends).frames) → ∀ (now now' : ℚ) (s : Session),
          pump zlibCrc32 maxFrames frames now now' s = pump zlibCrc32 none
            ((taken maxFrames 0 frames).filter fun f => f.1 ∈ sends.map Prod.snd) now now' s := by
  constructor
  · intro p hp
    obtain ⟨raw, hraw⟩ := (exists_pack_iff zlibCrc32).mpr hp
    exact ⟨raw, hraw, fun i hi m =>
      unpack_of_substituted hraw (LoopbackChannel.substituted_modify hi m)⟩
  · intro c sends hc hsends maxFrames frames hframes now now' s
    have honly : OnlyPacketErrors zlibCrc32 (taken maxFrames 0 frames) := fun f hf =>
      not_namesNoType_of_sendFrames hc hsends (hframes f (mem_of_mem_taken hf))
    have hfilter : parsing zlibCrc32 maxFrames 0 frames
        = (taken maxFrames 0 frames).filter fun f => f.1 ∈ sends.map Prod.snd := by
      refine List.filter_congr fun f hf => ?_
      rw [Bool.eq_iff_iff, decide_eq_true_iff]
      exact parses_iff_sent hc hsends (hframes f (mem_of_mem_taken hf))
    rw [pump_eq_parsing honly, hfilter]

/-- A channel that corrupts everything. -/
def noisyChannel : LoopbackChannel := { corrupt := 1 }

/-- Draws that flip the lowest bit of a frame's first byte. -/
def flipFirst : Draws where
  loss := 1 / 2
  corrupt := 1 / 2
  dup := 1 / 2
  reorder := (1 / 2, 1 / 2)
  randrange := fun h => ⟨0, h⟩
  mask := ⟨1, by decide⟩

/-- A heartbeat. -/
def heartbeatPacket : Packet :=
  { type := .Heartbeat, sessionId := 7, streamId := 0, seq := 101, ack := 0, window := 0 }

/-- A heartbeat, of which the lowest bit of the first byte is flipped. -/
theorem single_byte_corruption_noisyChannel :
    ∃ raw, heartbeatPacket.pack zlibCrc32 = some raw ∧
      (∀ i < raw.length, ∀ m : {m : UInt8 // m ≠ 0},
        ∃ e, Packet.unpack zlibCrc32 (raw.modify i (· ^^^ m.val)) = .error (.PacketError e)) ∧
      (noisyChannel.sendFrames [(flipFirst, raw)]).frames
        = [LoopbackChannel.corruptFrame flipFirst raw] ∧
      pump zlibCrc32 none [(LoopbackChannel.corruptFrame flipFirst raw, 0)] 1 1
        = pump zlibCrc32 none [] 1 1 := by
  have hfits : heartbeatPacket.FitsHeader :=
    ⟨by decide, by decide, by decide, by decide, by decide, by decide, by decide, by decide⟩
  obtain ⟨raw, hraw, hflip⟩ := single_byte_corruption.1 heartbeatPacket hfits
  have hframes : (noisyChannel.sendFrames [(flipFirst, raw)]).frames
      = [LoopbackChannel.corruptFrame flipFirst raw] := by
    simp only [LoopbackChannel.sendFrames, List.foldl_cons, List.foldl_nil,
      LoopbackChannel.sendFrame, LoopbackChannel.survivors, noisyChannel, flipFirst]
    norm_num [LoopbackChannel.frames, LoopbackChannel.delay]
  refine ⟨raw, hraw, hflip, hframes, ?_⟩
  have hne : raw ≠ LoopbackChannel.corruptFrame flipFirst raw :=
    (LoopbackChannel.substituted_corruptFrame (LoopbackChannel.ne_nil_of_pack hraw) flipFirst).ne
  funext s
  rw [single_byte_corruption.2 noisyChannel [(flipFirst, raw)] rfl
    (fun t ht => ⟨heartbeatPacket, by rw [List.mem_singleton.mp ht]; exact hraw⟩) none
    [(LoopbackChannel.corruptFrame flipFirst raw, 0)]
    (fun f hf => by rw [hframes, List.mem_singleton.mp hf]; exact List.mem_singleton_self _)]
  simp [taken, hne.symm]

end Session

end PhotonTCP
