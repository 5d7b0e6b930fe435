import PhotonTCP.Foundation.Threads
import PhotonTCP.Optical.Channel

/-!
# The threads of an optical channel

Any number of threads call `start`, `send_frame`, `recv_frame` and `close` of a channel, and its
capture thread reads the camera.  The devices are those in memory: what a display shows waits in a
queue for the paired camera.  Every read and write of the shared state is a step of its own.

* `MemoryDisplay`, `MemoryCamera` — the devices.
* `OpticalChannel`, `CallStage`, `resume` — the channel and its callers.
* `Capture`, `Capture.resume` — the capture loop.
* `OpticalPair`, `OpticalPair.system` — two channels, wired crosswise.
* `StartsOnce` — the invariant of the lock.
* **`one_capture_thread`** — a channel never has two capture threads.

The state of the channel that the threads share is little: whether it is closed, whether there is a
capture thread, the lock of `start`, and the inbox.  The source reads the first two outside the
lock, and once more inside it.  Each of these reads is a step, and so is each write, and between any
two of them the other threads may do what they like.

A caller is where it is in its method, with its local variables; this is a `CallStage`.  So the
state of a channel and its callers says all there is to say about what happens next, and a run is
any sequence of steps.  The invariant of the lock counts: the capture threads there are, and the
callers that have seen none and hold the lock.
-/

namespace PhotonTCP

namespace Optical

/-! ## The devices

`MemoryDisplay` and `MemoryCamera` share a queue.  The check whether a device is closed and the rest
of its method are two steps.
-/

/-- `sink` is the queue that the paired camera reads. -/
structure MemoryDisplay where
  sink : List Image := []
  closed : Bool := false

/-- `last` is the image that was read last. -/
structure MemoryCamera where
  repeatLast : Bool
  last : Option Image := none
  closed : Bool := false

/-- `show`, after it has found the display open. -/
def MemoryDisplay.put (display : MemoryDisplay) (image : Image) : MemoryDisplay :=
  { display with sink := display.sink ++ [image] }

/-- `read`, after it has found the camera open: the wait ends with an image, or at the timeout. -/
def MemoryCamera.get (camera : MemoryCamera) (source : MemoryDisplay) :
    Option Image × MemoryCamera × MemoryDisplay :=
  match source.sink with
  | [] => (if camera.repeatLast then camera.last else none, camera, source)
  | image :: rest => (some image, { camera with last := some image }, { source with sink := rest })

@[simp] lemma MemoryCamera.closed_get (camera : MemoryCamera) (source : MemoryDisplay) :
    (camera.get source).2.2.closed = source.closed := by
  unfold get
  split <;> rfl

/-! ## The capture loop

One thread for each `Capture`; there will be one at most.
-/

/-- Where the capture thread is. -/
inductive CaptureStage where
  | looping
  | reading
  | getting
  | handling (img : Image)
  | ended
deriving DecidableEq

/-- A capture thread with its local variables. -/
structure Capture where
  stage : CaptureStage := .looping
  lastDecodedArray : Option ℕ := none
  window : RecentWindow := .empty

/-! ## The channel

A method is a chain of stages.  `begin` is its part before the first stage, and `resume` takes it
from one stage to the next.
-/

/-- A channel over memory devices.  `captures` are the capture threads that have been started;
`encoded` counts the images made, which are all different arrays.  `sent`, `shown` and `received`
are the frames that have been encoded, that the display has shown and that `recv_frame` has
returned; they are a record, and no step looks at them. -/
structure OpticalChannel where
  camera : MemoryCamera
  display : MemoryDisplay := {}
  sendNonce : ℕ := 0
  inbox : List Bytes := []
  closed : Bool := false
  captureThread : Bool := false
  startLock : Bool := false
  captures : List Capture := []
  encoded : ℕ := 0
  sent : List Bytes := []
  shown : List Bytes := []
  received : List Bytes := []

/-- The public methods; `recv_frame` blocks when it has no timeout. -/
inductive Call where
  | start
  | sendFrame (frame : Bytes)
  | recvFrame (blocking : Bool)
  | close
deriving DecidableEq

/-- Where a caller is.  `next` is what follows `start`: nothing, or the wait of `recv_frame`. -/
inductive CallStage where
  | idle
  | starting (next : Option Bool)
  | checked (next : Option Bool)
  | waiting (next : Option Bool)
  | locked (next : Option Bool)
  | alone (next : Option Bool)
  | confirmed (next : Option Bool)
  | spawning (next : Option Bool)
  | unlocking (next : Option Bool)
  | getting (blocking : Bool)
  | showing (image : Image) (frame : Bytes) (nonce : ℕ)
  | putting (image : Image) (frame : Bytes) (nonce : ℕ)
  | advancing (nonce : ℕ)
  | closingDisplay
  | closingCamera
deriving DecidableEq

namespace CallStage

/-- `start` returns. -/
def started : Option Bool → CallStage
  | none => .idle
  | some blocking => .getting blocking

/-- The caller holds the start lock. -/
def Holding : CallStage → Prop
  | .locked _ | .alone _ | .confirmed _ | .spawning _ | .unlocking _ => True
  | _ => False

/-- The caller holds the lock and has seen no capture thread. -/
def Undecided : CallStage → Prop
  | .alone _ | .confirmed _ => True
  | _ => False

/-- The caller has stored a capture thread that it is about to start. -/
def Spawning : CallStage → Prop
  | .spawning _ => True
  | _ => False

/-- The caller waits for a frame, or is about to release the lock. -/
def Served : CallStage → Prop
  | .getting _ | .unlocking _ => True
  | _ => False

/-- The caller is in `send_frame`, with an image. -/
def Sending : CallStage → Prop
  | .showing .. | .putting .. | .advancing _ => True
  | _ => False

/-- The caller is in `start`. -/
def Starting : CallStage → Prop
  | .starting _ | .checked _ | .waiting _ | .locked _ | .alone _ | .confirmed _ | .spawning _
  | .unlocking _ => True
  | _ => False

instance : DecidablePred Sending := fun stage => by
  cases stage <;> unfold Sending <;> infer_instance

end CallStage

namespace OpticalChannel

variable (encodeFrame : Bytes → Option Bytes) (decodeFrame : Image → Option Bytes)

/-- A call up to its first write, or until it returns.  `encode_frame` raises for a frame that no
symbol can hold. -/
def begin (ch : OpticalChannel) : Call → CallStage × OpticalChannel
  | .start => (.starting none, ch)
  | .sendFrame frame =>
      if ch.closed then (.idle, ch)
      else
        match encodeFrame (ByteRecord.encode NONCE_BYTES ch.sendNonce ++ frame) with
        | none => (.idle, ch)
        | some pixels => (.showing ⟨ch.encoded, pixels⟩ frame ch.sendNonce,
            { ch with encoded := ch.encoded + 1, sent := ch.sent ++ [frame] })
  | .recvFrame blocking => (if ch.closed then .idle else .starting (some blocking), ch)
  | .close => (.closingDisplay, { ch with closed := true })

/-- The next atomic step of a caller, unless it has to wait. -/
def resume (ch : OpticalChannel) : CallStage → Option (CallStage × OpticalChannel)
  | .idle => none
  | .starting next => some (if ch.closed then .started next else .checked next, ch)
  | .checked next => some (if ch.captureThread then .started next else .waiting next, ch)
  | .waiting next =>
      if ch.startLock then none else some (.locked next, { ch with startLock := true })
  | .locked next => some (if ch.captureThread then .unlocking next else .alone next, ch)
  | .alone next => some (if ch.closed then .unlocking next else .confirmed next, ch)
  | .confirmed next => some (.spawning next, { ch with captureThread := true })
  | .spawning next => some (.unlocking next, { ch with captures := ch.captures ++ [{}] })
  | .unlocking next => some (.started next, { ch with startLock := false })
  | .getting blocking =>
      match ch.inbox with
      | [] => if blocking then none else some (.idle, ch)
      | frame :: rest =>
          some (.idle, { ch with inbox := rest, received := ch.received ++ [frame] })
  | .showing image frame nonce =>
      some (if ch.display.closed then .advancing nonce else .putting image frame nonce, ch)
  | .putting image frame nonce =>
      some (.advancing nonce, { ch with
        display := ch.display.put image
        shown := ch.shown ++ [frame] })
  | .advancing nonce => some (.idle, { ch with sendNonce := (nonce + 1) % 256 ^ NONCE_BYTES })
  | .closingDisplay => some (.closingCamera, { ch with display := { ch.display with closed := true } })
  | .closingCamera => some (.idle, { ch with camera := { ch.camera with closed := true } })

variable {ch ch' : OpticalChannel} {stage stage' : CallStage}

/-- A new call shows and receives nothing yet. -/
lemma begin_keeps (ch : OpticalChannel) (encodeFrame : Bytes → Option Bytes) (call : Call) :
    (ch.begin encodeFrame call).2.shown = ch.shown ∧
      (ch.begin encodeFrame call).2.display = ch.display ∧
      (ch.begin encodeFrame call).2.received = ch.received ∧
      (ch.begin encodeFrame call).2.inbox = ch.inbox ∧
      (ch.begin encodeFrame call).2.camera = ch.camera ∧
      (ch.begin encodeFrame call).2.captures = ch.captures := by
  cases call with
  | sendFrame frame =>
      rw [begin]
      split_ifs
      · exact ⟨rfl, rfl, rfl, rfl, rfl, rfl⟩
      · split
        · exact ⟨rfl, rfl, rfl, rfl, rfl, rfl⟩
        · exact ⟨rfl, rfl, rfl, rfl, rfl, rfl⟩
  | _ => exact ⟨rfl, rfl, rfl, rfl, rfl, rfl⟩

/-- Outside `start`, the lock and the capture threads stay. -/
lemma resume_of_not_starting (h : ch.resume stage = some (stage', ch')) (hno : ¬ stage.Starting) :
    ch'.startLock = ch.startLock ∧ ch'.captureThread = ch.captureThread ∧ ch'.captures = ch.captures ∧
      ch'.closed = ch.closed ∧ ¬ stage'.Holding ∧ ¬ stage'.Served := by
  cases stage with
  | idle => cases h
  | getting blocking =>
      rw [resume] at h
      split at h
      · split_ifs at h
        obtain ⟨rfl, rfl⟩ := h
        exact ⟨rfl, rfl, rfl, rfl, id, id⟩
      · obtain ⟨rfl, rfl⟩ := h
        exact ⟨rfl, rfl, rfl, rfl, id, id⟩
  | showing image frame nonce =>
      obtain ⟨rfl, rfl⟩ := h
      split_ifs
      · exact ⟨rfl, rfl, rfl, rfl, id, id⟩
      · exact ⟨rfl, rfl, rfl, rfl, id, id⟩
  | putting image frame nonce =>
      obtain ⟨rfl, rfl⟩ := h
      exact ⟨rfl, rfl, rfl, rfl, id, id⟩
  | advancing nonce =>
      obtain ⟨rfl, rfl⟩ := h
      exact ⟨rfl, rfl, rfl, rfl, id, id⟩
  | closingDisplay =>
      obtain ⟨rfl, rfl⟩ := h
      exact ⟨rfl, rfl, rfl, rfl, id, id⟩
  | closingCamera =>
      obtain ⟨rfl, rfl⟩ := h
      exact ⟨rfl, rfl, rfl, rfl, id, id⟩
  | _ => exact absurd trivial hno

lemma not_sending_started (next : Option Bool) : ¬ (CallStage.started next).Sending := by
  cases next <;> exact id

/-- Outside `send_frame`, nothing is sent or shown. -/
lemma resume_of_not_sending (h : ch.resume stage = some (stage', ch')) (hno : ¬ stage.Sending) :
    ¬ stage'.Sending ∧ ch'.sendNonce = ch.sendNonce ∧ ch'.encoded = ch.encoded ∧ ch'.sent = ch.sent ∧
      ch'.shown = ch.shown ∧ ch'.display.sink = ch.display.sink ∧
      (ch.display.closed = true → ch'.display.closed = true) := by
  cases stage with
  | idle => cases h
  | starting next =>
      obtain ⟨rfl, rfl⟩ := h
      split_ifs
      · exact ⟨not_sending_started next, rfl, rfl, rfl, rfl, rfl, id⟩
      · exact ⟨id, rfl, rfl, rfl, rfl, rfl, id⟩
  | checked next =>
      obtain ⟨rfl, rfl⟩ := h
      split_ifs
      · exact ⟨not_sending_started next, rfl, rfl, rfl, rfl, rfl, id⟩
      · exact ⟨id, rfl, rfl, rfl, rfl, rfl, id⟩
  | waiting next =>
      rw [resume] at h
      split_ifs at h
      obtain ⟨rfl, rfl⟩ := h
      exact ⟨id, rfl, rfl, rfl, rfl, rfl, id⟩
  | locked next =>
      obtain ⟨rfl, rfl⟩ := h
      split_ifs
      · exact ⟨id, rfl, rfl, rfl, rfl, rfl, id⟩
      · exact ⟨id, rfl, rfl, rfl, rfl, rfl, id⟩
  | alone next =>
      obtain ⟨rfl, rfl⟩ := h
      split_ifs
      · exact ⟨id, rfl, rfl, rfl, rfl, rfl, id⟩
      · exact ⟨id, rfl, rfl, rfl, rfl, rfl, id⟩
  | confirmed next =>
      obtain ⟨rfl, rfl⟩ := h
      exact ⟨id, rfl, rfl, rfl, rfl, rfl, id⟩
  | spawning next =>
      obtain ⟨rfl, rfl⟩ := h
      exact ⟨id, rfl, rfl, rfl, rfl, rfl, id⟩
  | unlocking next =>
      obtain ⟨rfl, rfl⟩ := h
      exact ⟨not_sending_started next, rfl, rfl, rfl, rfl, rfl, id⟩
  | getting blocking =>
      rw [resume] at h
      split at h
      · split_ifs at h
        obtain ⟨rfl, rfl⟩ := h
        exact ⟨id, rfl, rfl, rfl, rfl, rfl, id⟩
      · obtain ⟨rfl, rfl⟩ := h
        exact ⟨id, rfl, rfl, rfl, rfl, rfl, id⟩
  | closingDisplay =>
      obtain ⟨rfl, rfl⟩ := h
      exact ⟨id, rfl, rfl, rfl, rfl, rfl, fun _ => rfl⟩
  | closingCamera =>
      obtain ⟨rfl, rfl⟩ := h
      exact ⟨id, rfl, rfl, rfl, rfl, rfl, id⟩
  | _ => exact absurd trivial hno

/-- Nobody touches what has come in, except for a new capture thread and the frame that is returned.
-/
lemma resume_keeps (h : ch.resume stage = some (stage', ch')) :
    ch'.received ++ ch'.inbox = ch.received ++ ch.inbox ∧ ch'.camera.last = ch.camera.last ∧
      (ch'.captures = ch.captures ∨ stage.Spawning ∧ ch'.captures = ch.captures ++ [({} : Capture)]) := by
  cases stage with
  | idle => cases h
  | getting blocking =>
      rw [resume] at h
      split at h
      · split_ifs at h
        obtain ⟨rfl, rfl⟩ := h
        exact ⟨rfl, rfl, Or.inl rfl⟩
      · rename_i frame rest hinbox
        obtain ⟨rfl, rfl⟩ := h
        exact ⟨by simp [hinbox], rfl, Or.inl rfl⟩
  | waiting next =>
      rw [resume] at h
      split_ifs at h
      obtain ⟨rfl, rfl⟩ := h
      exact ⟨rfl, rfl, Or.inl rfl⟩
  | spawning next =>
      obtain ⟨rfl, rfl⟩ := h
      exact ⟨rfl, rfl, Or.inr ⟨trivial, rfl⟩⟩
  | _ =>
      obtain ⟨rfl, rfl⟩ := h
      exact ⟨rfl, rfl, Or.inl rfl⟩

/-- What a caller does next: `some call` makes a call, `none` goes on with it. -/
def step (ch : OpticalChannel) (stage : CallStage) : Option Call → Option (CallStage × OpticalChannel)
  | none => ch.resume stage
  | some call => if stage = .idle then some (ch.begin encodeFrame call) else none

end OpticalChannel

/-- The next atomic step of a capture thread of `ch`, whose camera is paired with `source`. -/
def Capture.resume (decodeFrame : Image → Option Bytes) (t : Capture) (ch : OpticalChannel)
    (source : MemoryDisplay) : Option (Capture × OpticalChannel × MemoryDisplay) :=
  match t.stage with
  | .looping => some ({ t with stage := if ch.closed then .ended else .reading }, ch, source)
  | .reading =>
      some ({ t with stage := if ch.camera.closed then .looping else .getting }, ch, source)
  | .getting =>
      let (read, camera, source) := ch.camera.get source
      some ({ t with stage := read.elim .looping .handling }, { ch with camera }, source)
  | .handling img =>
      let r := Receiver.captureStep decodeFrame ⟨t.lastDecodedArray, t.window, ch.inbox⟩ (some img)
      some (⟨.looping, r.lastDecodedArray, r.window⟩, { ch with inbox := r.inbox }, source)
  | .ended => none

/-- A capture thread neither sends nor shows, and the other display stays as it is but for its
queue. -/
lemma Capture.resume_keeps {decodeFrame : Image → Option Bytes} {t t' : Capture}
    {ch ch' : OpticalChannel} {source source' : MemoryDisplay}
    (h : t.resume decodeFrame ch source = some (t', ch', source')) :
    (∃ camera inbox, ch' = { ch with camera, inbox }) ∧ source'.closed = source.closed := by
  rw [Capture.resume] at h
  split at h
  · obtain ⟨rfl, rfl, rfl⟩ := h
    exact ⟨⟨_, _, rfl⟩, rfl⟩
  · obtain ⟨rfl, rfl, rfl⟩ := h
    exact ⟨⟨_, _, rfl⟩, rfl⟩
  · obtain ⟨rfl, rfl, rfl⟩ := h
    exact ⟨⟨_, _, rfl⟩, MemoryCamera.closed_get _ _⟩
  · obtain ⟨rfl, rfl, rfl⟩ := h
    exact ⟨⟨_, _, rfl⟩, rfl⟩
  · cases h

/-! ## The pair

The capture thread of one end takes its images off the display of the other, so its step changes
both ends.
-/

variable {ι : Type*} [DecidableEq ι]

/-- One end: a channel and its callers. -/
abbrev OpticalEnd (ι : Type*) := Threads ι OpticalChannel CallStage

namespace OpticalEnd

/-- An end with another channel. -/
def withChannel (x : OpticalEnd ι) (ch : OpticalChannel) : OpticalEnd ι := { x with shared := ch }

/-- An end whose display has another queue. -/
def withDisplay (x : OpticalEnd ι) (display : MemoryDisplay) : OpticalEnd ι :=
  x.withChannel { x.shared with display }

/-- The caller `i` takes a step. -/
def call (encodeFrame : Bytes → Option Bytes) (x : OpticalEnd ι) (i : ι) (act : Option Call) :
    Option (OpticalEnd ι) :=
  (x.shared.step encodeFrame (x.stage i) act).map fun (stage, ch) => x.move i stage ch

/-- The `j`-th capture thread takes a step; `y` is the other end. -/
def capture (decodeFrame : Image → Option Bytes) (x y : OpticalEnd ι) (j : ℕ) :
    Option (OpticalEnd ι × OpticalEnd ι) :=
  match x.shared.captures[j]? with
  | none => none
  | some t => (t.resume decodeFrame x.shared y.shared.display).map fun (t', ch, source) =>
      (x.withChannel { ch with captures := ch.captures.set j t' }, y.withDisplay source)

end OpticalEnd

/-- Two ends. -/
structure OpticalPair (ι : Type*) where
  a : OpticalEnd ι
  b : OpticalEnd ι

/-- A caller or a capture thread of either end takes a step. -/
inductive PairAction (ι : Type*) where
  | callA (i : ι) (act : Option Call)
  | callB (i : ι) (act : Option Call)
  | captureA (j : ℕ)
  | captureB (j : ℕ)

namespace OpticalPair

variable (encodeFrame : Bytes → Option Bytes) (decodeFrame : Image → Option Bytes)

/-- One step of the pair; nothing if the thread has to wait. -/
def step (c : OpticalPair ι) : PairAction ι → Option (OpticalPair ι)
  | .callA i act => (c.a.call encodeFrame i act).map fun a => ⟨a, c.b⟩
  | .callB i act => (c.b.call encodeFrame i act).map fun b => ⟨c.a, b⟩
  | .captureA j => (c.a.capture decodeFrame c.b j).map fun (a, b) => ⟨a, b⟩
  | .captureB j => (c.b.capture decodeFrame c.a j).map fun (b, a) => ⟨a, b⟩

/-- The interleavings. -/
def system : Transition (OpticalPair ι) (PairAction ι) where
  enabled c act := (c.step encodeFrame decodeFrame act).isSome = true
  next c act := (c.step encodeFrame decodeFrame act).getD c

instance (c : OpticalPair ι) (act : PairAction ι) :
    Decidable ((system encodeFrame decodeFrame).enabled c act) := inferInstanceAs (Decidable (_ = true))

variable {encodeFrame decodeFrame} in
/-- An enabled action is a step. -/
lemma exists_step {c : OpticalPair ι} {act : PairAction ι}
    (h : (system encodeFrame decodeFrame).enabled c act) :
    ∃ c', c.step encodeFrame decodeFrame act = some c' ∧
      (system encodeFrame decodeFrame).next c act = c' := by
  obtain ⟨c', hstep⟩ := Option.isSome_iff_exists.mp h
  exact ⟨c', hstep, by simp [system, hstep]⟩

/-- A new pair, before anything is called. -/
def pair (repeatLast : Bool) : OpticalPair ι where
  a := ⟨{ camera := { repeatLast } }, fun _ => .idle⟩
  b := ⟨{ camera := { repeatLast } }, fun _ => .idle⟩

end OpticalPair

/-! ## The lock

A lemma for each stage of `start`, named for what the caller does there.  Only one caller can be
inside, so that a step inside is a step of the one that holds the lock.
-/

/-- What every interleaving keeps of a channel and its callers. -/
structure StartsOnce (x : OpticalEnd ι) : Prop where
  holding : x.AtMostOne CallStage.Holding
  locked : ∀ i, (x.stage i).Holding → x.shared.startLock = true
  undecided : ∀ i, (x.stage i).Undecided → x.shared.captureThread = false
  spawning : ∀ i, (x.stage i).Spawning → x.shared.captureThread = true ∧ x.shared.captures = []
  unstarted : x.shared.captureThread = false → x.shared.captures = []
  started : x.shared.captureThread = true →
    x.shared.captures.length = 1 ∨ ∃ i, (x.stage i).Spawning
  served : ∀ i, (x.stage i).Served → x.shared.captureThread = true ∨ x.shared.closed = true
  running : ∀ t ∈ x.shared.captures, t.stage = .ended → x.shared.closed = true

variable {x y : OpticalEnd ι} {i : ι} {l : CallStage} {ch : OpticalChannel}

lemma CallStage.Undecided.holding (h : l.Undecided) : l.Holding := by
  cases l <;> trivial

lemma CallStage.Spawning.holding (h : l.Spawning) : l.Holding := by
  cases l <;> trivial

namespace StartsOnce

/-- A step outside the lock, which neither takes nor starts anything. -/
lemma outside (h : StartsOnce x) (hfrom : ¬ (x.stage i).Holding) (hto : ¬ l.Holding)
    (hlock : ch.startLock = x.shared.startLock) (hthread : ch.captureThread = x.shared.captureThread)
    (hcaptures : ch.captures = x.shared.captures)
    (hclosed : x.shared.closed = true → ch.closed = true)
    (hserved : l.Served → ch.captureThread = true ∨ ch.closed = true) :
    StartsOnce (x.move i l ch) where
  holding := h.holding.move_out hto
  locked := by
    refine Threads.forall_stage_move (P := fun _ (l : CallStage) => l.Holding → _) |>.mpr
      ⟨fun hl => absurd hl hto, ?_⟩
    intro j _ hj
    exact hlock.trans (h.locked j hj)
  undecided := by
    refine Threads.forall_stage_move (P := fun _ (l : CallStage) => l.Undecided → _) |>.mpr
      ⟨fun hl => absurd hl.holding hto, ?_⟩
    intro j _ hj
    exact hthread.trans (h.undecided j hj)
  spawning := by
    refine Threads.forall_stage_move (P := fun _ (l : CallStage) => l.Spawning → _) |>.mpr
      ⟨fun hl => absurd hl.holding hto, ?_⟩
    intro j _ hj
    rw [Threads.shared_move, hthread, hcaptures]
    exact h.spawning j hj
  unstarted := by
    rw [Threads.shared_move, hthread, hcaptures]
    exact h.unstarted
  started := by
    rw [Threads.shared_move, hthread, hcaptures, Threads.exists_stage_move
      (fun hs => hfrom hs.holding) fun hs => hto hs.holding]
    exact h.started
  served := by
    refine Threads.forall_stage_move (P := fun _ (l : CallStage) => l.Served → _) |>.mpr ⟨hserved, ?_⟩
    intro j _ hj
    exact (h.served j hj).imp hthread.trans hclosed
  running := by
    rw [Threads.shared_move, hcaptures]
    exact fun t ht hended => hclosed (h.running t ht hended)

/-- A step of the only caller that holds the lock, or takes it. -/
lemma inside (h : StartsOnce x) (honly : ∀ j, j ≠ i → ¬ (x.stage j).Holding)
    (hlock : l.Holding → ch.startLock = true) (hundecided : l.Undecided → ch.captureThread = false)
    (hspawning : l.Spawning → ch.captureThread = true ∧ ch.captures = [])
    (hunstarted : ch.captureThread = false → ch.captures = [])
    (hstarted : ch.captureThread = true → ch.captures.length = 1 ∨ l.Spawning)
    (hthread : x.shared.captureThread = true → ch.captureThread = true)
    (hclosed : ch.closed = x.shared.closed)
    (hserved : l.Served → ch.captureThread = true ∨ ch.closed = true)
    (hrunning : ∀ t ∈ ch.captures, t.stage = .ended → ch.closed = true) :
    StartsOnce (x.move i l ch) where
  holding := Threads.AtMostOne.move_only honly
  locked := Threads.forall_stage_move (P := fun _ (l : CallStage) => l.Holding → _) |>.mpr
    ⟨hlock, fun j hne hj => absurd hj (honly j hne)⟩
  undecided := Threads.forall_stage_move (P := fun _ (l : CallStage) => l.Undecided → _) |>.mpr
    ⟨hundecided, fun j hne hj => absurd hj.holding (honly j hne)⟩
  spawning := Threads.forall_stage_move (P := fun _ (l : CallStage) => l.Spawning → _) |>.mpr
    ⟨hspawning, fun j hne hj => absurd hj.holding (honly j hne)⟩
  unstarted := hunstarted
  started := fun ht => (hstarted ht).imp_right fun hl => ⟨i, by rwa [Threads.stage_move_self]⟩
  served := by
    refine Threads.forall_stage_move (P := fun _ (l : CallStage) => l.Served → _) |>.mpr ⟨hserved, ?_⟩
    intro j _ hj
    exact (h.served j hj).imp hthread hclosed.trans
  running := hrunning

omit [DecidableEq ι] in
/-- The holder is alone. -/
lemma only (h : StartsOnce x) (hi : (x.stage i).Holding) : ∀ j, j ≠ i → ¬ (x.stage j).Holding :=
  fun j hne hj => hne (h.holding j i hj hi)

/-- A new call takes no lock. -/
lemma begin (h : StartsOnce x) (encodeFrame : Bytes → Option Bytes) (hidle : x.stage i = .idle)
    (call : Call) : StartsOnce (x.move i (x.shared.begin encodeFrame call).1
      (x.shared.begin encodeFrame call).2) := by
  have hfrom : ¬ (x.stage i).Holding := by
    rw [hidle]
    exact id
  cases call with
  | start => exact h.outside hfrom id rfl rfl rfl id False.elim
  | sendFrame frame =>
      rw [OpticalChannel.begin]
      split_ifs
      · exact h.outside hfrom id rfl rfl rfl id False.elim
      · split
        · exact h.outside hfrom id rfl rfl rfl id False.elim
        · exact h.outside hfrom id rfl rfl rfl id False.elim
  | recvFrame blocking =>
      rw [OpticalChannel.begin]
      dsimp only
      split_ifs
      · exact h.outside hfrom id rfl rfl rfl id False.elim
      · exact h.outside hfrom id rfl rfl rfl id False.elim
  | close => exact h.outside hfrom id rfl rfl rfl (fun _ => rfl) False.elim

/-- `start` returns to a caller for whom there is a thread, or no need of one. -/
lemma started_outside (h : StartsOnce x) (hfrom : ¬ (x.stage i).Holding) (next : Option Bool)
    (hserved : x.shared.captureThread = true ∨ x.shared.closed = true) :
    StartsOnce (x.move i (.started next) x.shared) := by
  cases next with
  | none => exact h.outside hfrom id rfl rfl rfl id fun _ => hserved
  | some blocking => exact h.outside hfrom id rfl rfl rfl id fun _ => hserved

omit [DecidableEq ι] in
/-- What the lock protects, for the one who holds it. -/
lemma length_captures_of_holding (h : StartsOnce x) (htrue : x.shared.captureThread = true)
    (hi : (x.stage i).Holding) (hno : ¬ (x.stage i).Spawning) : x.shared.captures.length = 1 := by
  refine (h.started htrue).resolve_right ?_
  rintro ⟨j, hj⟩
  exact hno (h.holding j i hj.holding hi ▸ hj)

/-- Nothing is started on a channel that is closed. -/
lemma seesClosed (h : StartsOnce x) {next : Option Bool} (hstage : x.stage i = .starting next)
    (hstep : x.shared.resume (x.stage i) = some (l, ch)) : StartsOnce (x.move i l ch) := by
  have hfrom : ¬ (x.stage i).Holding := hstage ▸ id
  rw [hstage, OpticalChannel.resume, Option.some.injEq, Prod.mk.injEq] at hstep
  obtain ⟨rfl, rfl⟩ := hstep
  split_ifs with hclosed
  · exact h.started_outside hfrom next (Or.inr hclosed)
  · exact h.outside hfrom id rfl rfl rfl id False.elim

/-- Nor where a thread is started already, as far as can be seen without the lock. -/
lemma seesStarted (h : StartsOnce x) {next : Option Bool} (hstage : x.stage i = .checked next)
    (hstep : x.shared.resume (x.stage i) = some (l, ch)) : StartsOnce (x.move i l ch) := by
  have hfrom : ¬ (x.stage i).Holding := hstage ▸ id
  rw [hstage, OpticalChannel.resume, Option.some.injEq, Prod.mk.injEq] at hstep
  obtain ⟨rfl, rfl⟩ := hstep
  split_ifs with hstarted
  · exact h.started_outside hfrom next (Or.inl hstarted)
  · exact h.outside hfrom id rfl rfl rfl id False.elim

/-- The lock is taken only when no other caller has it. -/
lemma takesLock (h : StartsOnce x) {next : Option Bool} (hstage : x.stage i = .waiting next)
    (hstep : x.shared.resume (x.stage i) = some (l, ch)) : StartsOnce (x.move i l ch) := by
  rw [hstage, OpticalChannel.resume] at hstep
  split_ifs at hstep with hlock
  obtain ⟨rfl, rfl⟩ := hstep
  have hfree : ∀ j, ¬ (x.stage j).Holding := fun j hj => hlock (h.locked j hj)
  refine h.inside (fun j _ => hfree j) (fun _ => rfl) False.elim False.elim h.unstarted ?_ id rfl
    False.elim h.running
  intro htrue
  obtain hone | ⟨j, hj⟩ := h.started htrue
  · exact Or.inl hone
  · exact absurd hj.holding (hfree j)

/-- **With the lock**: what is seen now is true until the lock is released. -/
lemma seesStartedLocked (h : StartsOnce x) {next : Option Bool} (hstage : x.stage i = .locked next)
    (hstep : x.shared.resume (x.stage i) = some (l, ch)) : StartsOnce (x.move i l ch) := by
  have hi : (x.stage i).Holding := hstage ▸ trivial
  have hlength := fun htrue => h.length_captures_of_holding htrue hi (hstage ▸ id)
  rw [hstage, OpticalChannel.resume, Option.some.injEq, Prod.mk.injEq] at hstep
  obtain ⟨rfl, rfl⟩ := hstep
  split_ifs with hstarted
  · exact h.inside (h.only hi) (fun _ => h.locked i hi) False.elim False.elim h.unstarted
      (fun htrue => Or.inl (hlength htrue)) id rfl (fun _ => Or.inl hstarted) h.running
  · exact h.inside (h.only hi) (fun _ => h.locked i hi) (fun _ => Bool.eq_false_iff.mpr hstarted)
      False.elim h.unstarted (fun htrue => Or.inl (hlength htrue)) id rfl False.elim h.running

/-- The channel may have been closed since. -/
lemma seesClosedLocked (h : StartsOnce x) {next : Option Bool} (hstage : x.stage i = .alone next)
    (hstep : x.shared.resume (x.stage i) = some (l, ch)) : StartsOnce (x.move i l ch) := by
  have hi : (x.stage i).Holding := hstage ▸ trivial
  have hnone : x.shared.captureThread = false := h.undecided i (hstage ▸ trivial)
  have hlength := fun htrue => h.length_captures_of_holding htrue hi (hstage ▸ id)
  rw [hstage, OpticalChannel.resume, Option.some.injEq, Prod.mk.injEq] at hstep
  obtain ⟨rfl, rfl⟩ := hstep
  split_ifs with hclosed
  · exact h.inside (h.only hi) (fun _ => h.locked i hi) False.elim False.elim h.unstarted
      (fun htrue => Or.inl (hlength htrue)) id rfl (fun _ => Or.inr hclosed) h.running
  · exact h.inside (h.only hi) (fun _ => h.locked i hi) (fun _ => hnone) False.elim h.unstarted
      (fun htrue => Or.inl (hlength htrue)) id rfl False.elim h.running

/-- That there is a thread is written before it runs. -/
lemma notesThread (h : StartsOnce x) {next : Option Bool} (hstage : x.stage i = .confirmed next)
    (hstep : x.shared.resume (x.stage i) = some (l, ch)) : StartsOnce (x.move i l ch) := by
  have hi : (x.stage i).Holding := hstage ▸ trivial
  have hempty := h.unstarted (h.undecided i (hstage ▸ trivial))
  rw [hstage, OpticalChannel.resume, Option.some.injEq, Prod.mk.injEq] at hstep
  obtain ⟨rfl, rfl⟩ := hstep
  exact h.inside (h.only hi) (fun _ => h.locked i hi) False.elim (fun _ => ⟨rfl, hempty⟩)
    (fun _ => hempty) (fun _ => Or.inr trivial) (fun _ => rfl) rfl False.elim h.running

/-- **The thread is started**, the first of the channel. -/
lemma spawns (h : StartsOnce x) {next : Option Bool} (hstage : x.stage i = .spawning next)
    (hstep : x.shared.resume (x.stage i) = some (l, ch)) : StartsOnce (x.move i l ch) := by
  have hi : (x.stage i).Holding := hstage ▸ trivial
  obtain ⟨htrue, hempty⟩ := h.spawning i (hstage ▸ trivial)
  rw [hstage, OpticalChannel.resume, Option.some.injEq, Prod.mk.injEq] at hstep
  obtain ⟨rfl, rfl⟩ := hstep
  have hfalse : ¬ x.shared.captureThread = false := by simp [htrue]
  refine h.inside (h.only hi) (fun _ => h.locked i hi) False.elim False.elim
    (fun hf => absurd hf hfalse) (fun _ => Or.inl (by simp [hempty])) id rfl
    (fun _ => Or.inl htrue) ?_
  intro t ht hended
  obtain rfl : t = {} := by simpa [hempty] using ht
  cases hended

/-- The lock is released. -/
lemma releasesLock (h : StartsOnce x) {next : Option Bool} (hstage : x.stage i = .unlocking next)
    (hstep : x.shared.resume (x.stage i) = some (l, ch)) : StartsOnce (x.move i l ch) := by
  have hi : (x.stage i).Holding := hstage ▸ trivial
  have hserved := h.served i (hstage ▸ trivial)
  have hlength := fun htrue => h.length_captures_of_holding htrue hi (hstage ▸ id)
  rw [hstage, OpticalChannel.resume, Option.some.injEq, Prod.mk.injEq] at hstep
  obtain ⟨rfl, rfl⟩ := hstep
  cases next with
  | none =>
      exact h.inside (h.only hi) False.elim False.elim False.elim h.unstarted
        (fun htrue => Or.inl (hlength htrue)) id rfl False.elim h.running
  | some blocking =>
      exact h.inside (h.only hi) False.elim False.elim False.elim h.unstarted
        (fun htrue => Or.inl (hlength htrue)) id rfl (fun _ => hserved) h.running

/-- **One step of a caller.** -/
theorem resume (h : StartsOnce x) (hstep : x.shared.resume (x.stage i) = some (l, ch)) :
    StartsOnce (x.move i l ch) := by
  cases hstage : x.stage i with
  | idle =>
      rw [hstage] at hstep
      cases hstep
  | starting next => exact h.seesClosed hstage hstep
  | checked next => exact h.seesStarted hstage hstep
  | waiting next => exact h.takesLock hstage hstep
  | locked next => exact h.seesStartedLocked hstage hstep
  | alone next => exact h.seesClosedLocked hstage hstep
  | confirmed next => exact h.notesThread hstage hstep
  | spawning next => exact h.spawns hstage hstep
  | unlocking next => exact h.releasesLock hstage hstep
  | _ =>
      have hno : ¬ (x.stage i).Starting := hstage ▸ id
      obtain ⟨hlock, hthread', hcaptures, hclosed, hto, hserved⟩ :=
        OpticalChannel.resume_of_not_starting hstep hno
      exact h.outside (hstage ▸ id) hto hlock hthread' hcaptures hclosed.trans (absurd · hserved)

/-- **One step of a caller, a new call or the next of an old one.** -/
theorem call (h : StartsOnce x) {encodeFrame : Bytes → Option Bytes} {act : Option Call}
    {x' : OpticalEnd ι} (hstep : x.call encodeFrame i act = some x') : StartsOnce x' := by
  rw [OpticalEnd.call, Option.map_eq_some_iff] at hstep
  obtain ⟨⟨l, ch⟩, htaken, rfl⟩ := hstep
  cases act with
  | none => exact h.resume htaken
  | some call =>
      rw [OpticalChannel.step] at htaken
      split_ifs at htaken with hidle
      rw [Option.some.injEq] at htaken
      have hbegun := h.begin encodeFrame hidle call
      rwa [htaken] at hbegun

omit [DecidableEq ι] in
/-- Only the capture thread that took the step is another. -/
lemma withChannel (h : StartsOnce x) {j : ℕ} {t' : Capture}
    (hlock : ch.startLock = x.shared.startLock) (hthread : ch.captureThread = x.shared.captureThread)
    (hcaptures : ch.captures = x.shared.captures.set j t') (hclosed : ch.closed = x.shared.closed)
    (hended : t'.stage = .ended → ch.closed = true) : StartsOnce (x.withChannel ch) where
  holding := h.holding
  locked i hi := hlock.trans (h.locked i hi)
  undecided i hi := hthread.trans (h.undecided i hi)
  spawning i hi := by
    obtain ⟨htrue, hempty⟩ := h.spawning i hi
    exact ⟨hthread.trans htrue, by rw [OpticalEnd.withChannel, hcaptures, hempty, List.set_nil]⟩
  unstarted hfalse := by
    rw [OpticalEnd.withChannel, hcaptures, h.unstarted (hthread.symm.trans hfalse), List.set_nil]
  started htrue := by
    rw [OpticalEnd.withChannel, hcaptures, List.length_set]
    exact h.started (hthread.symm.trans htrue)
  served i hi := (h.served i hi).imp hthread.trans hclosed.trans
  running t ht ht' := by
    rw [OpticalEnd.withChannel, hcaptures] at ht
    rcases List.mem_or_eq_of_mem_set ht with hold | rfl
    · exact hclosed.trans (h.running t hold ht')
    · exact hended ht'

omit [DecidableEq ι] in
/-- **One step of a capture thread**; of the other end it changes the queue. -/
theorem capture (h : StartsOnce x) (hother : StartsOnce y) {decodeFrame : Image → Option Bytes}
    {j : ℕ} {x' y' : OpticalEnd ι} (hstep : x.capture decodeFrame y j = some (x', y')) :
    StartsOnce x' ∧ StartsOnce y' := by
  rw [OpticalEnd.capture] at hstep
  cases ht : x.shared.captures[j]? with
  | none =>
      rw [ht] at hstep
      cases hstep
  | some t =>
      simp only [ht, Option.map_eq_some_iff, Prod.exists, Prod.mk.injEq] at hstep
      obtain ⟨t', ch, source, hresume, rfl, rfl⟩ := hstep
      refine ⟨?_, hother.holding, hother.locked, hother.undecided, hother.spawning,
        hother.unstarted, hother.started, hother.served, hother.running⟩
      rw [Capture.resume] at hresume
      cases hstage : t.stage with
      | looping =>
          simp only [hstage, Option.some.injEq, Prod.mk.injEq] at hresume
          obtain ⟨rfl, rfl, rfl⟩ := hresume
          refine h.withChannel rfl rfl rfl rfl fun hended => ?_
          dsimp only at hended ⊢
          split_ifs at hended with hclosed
          exact hclosed
      | reading =>
          simp only [hstage, Option.some.injEq, Prod.mk.injEq] at hresume
          obtain ⟨rfl, rfl, rfl⟩ := hresume
          refine h.withChannel rfl rfl rfl rfl fun hended => ?_
          dsimp only at hended
          split_ifs at hended
      | getting =>
          simp only [hstage, Option.some.injEq, Prod.mk.injEq] at hresume
          obtain ⟨rfl, rfl, rfl⟩ := hresume
          refine h.withChannel rfl rfl rfl rfl fun hended => ?_
          cases hread : (x.shared.camera.get y.shared.display).1 with
          | none => simp [hread] at hended
          | some img => simp [hread] at hended
      | handling img =>
          simp only [hstage, Option.some.injEq, Prod.mk.injEq] at hresume
          obtain ⟨rfl, rfl, rfl⟩ := hresume
          exact h.withChannel rfl rfl rfl rfl fun hended => by cases hended
      | ended =>
          simp only [hstage] at hresume
          cases hresume

omit [DecidableEq ι] in
lemma length_captures_le (h : StartsOnce x) : x.shared.captures.length ≤ 1 := by
  cases hthread : x.shared.captureThread with
  | false => simp [h.unstarted hthread]
  | true =>
      obtain hone | ⟨i, hi⟩ := h.started hthread
      · exact hone.le
      · simp [(h.spawning i hi).2]

omit [DecidableEq ι] in
/-- A new channel. -/
lemma new (camera : MemoryCamera) : StartsOnce (ι := ι) ⟨{ camera }, fun _ => .idle⟩ where
  holding _ _ hi := hi.elim
  locked _ hi := hi.elim
  undecided _ hi := hi.elim
  spawning _ hi := hi.elim
  unstarted _ := rfl
  started htrue := by cases htrue
  served _ hi := hi.elim
  running _ ht := by cases ht

end StartsOnce

variable {encodeFrame : Bytes → Option Bytes} {decodeFrame : Image → Option Bytes}

/-- Both ends of a reachable pair. -/
lemma startsOnce_of_reach {ok : OpticalPair ι → PairAction ι → Prop} {repeatLast : Bool}
    {c : OpticalPair ι}
    (h : (OpticalPair.system encodeFrame decodeFrame).Reach ok (.pair repeatLast) c) :
    StartsOnce c.a ∧ StartsOnce c.b := by
  refine h.invariant (I := fun c => StartsOnce c.a ∧ StartsOnce c.b) ⟨.new _, .new _⟩ ?_
  rintro c act ⟨ha, hb⟩ henabled -
  obtain ⟨c', hstep, hnext⟩ := OpticalPair.exists_step henabled
  rw [hnext]
  cases act with
  | callA i act =>
      obtain ⟨x, hx, rfl⟩ := Option.map_eq_some_iff.mp hstep
      exact ⟨ha.call hx, hb⟩
  | callB i act =>
      obtain ⟨x, hx, rfl⟩ := Option.map_eq_some_iff.mp hstep
      exact ⟨ha, hb.call hx⟩
  | captureA j =>
      obtain ⟨x, hx, rfl⟩ := Option.map_eq_some_iff.mp hstep
      exact ha.capture hb hx
  | captureB j =>
      obtain ⟨x, hx, rfl⟩ := Option.map_eq_some_iff.mp hstep
      exact (hb.capture ha hx).symm

/-- **A channel never has two capture threads.**  However the callers and the capture threads of
both ends interleave: an end has at most one capture thread, which ends only when the channel is
closed; and a caller that waits for a frame of an open channel waits for one that has its capture
thread, or has one that another caller is about to start. -/
theorem one_capture_thread {repeatLast : Bool} {c : OpticalPair ι}
    (h : (OpticalPair.system encodeFrame decodeFrame).Reach Transition.free (.pair repeatLast) c) :
    ∀ x, x = c.a ∨ x = c.b → x.shared.captures.length ≤ 1 ∧
      (∀ t ∈ x.shared.captures, t.stage = .ended → x.shared.closed = true) ∧
      ∀ i blocking, x.stage i = .getting blocking → x.shared.closed = false →
        x.shared.captures.length = 1 ∨ ∃ j next, x.stage j = .spawning next := by
  have hboth : ∀ x, x = c.a ∨ x = c.b → StartsOnce x := by
    obtain ⟨ha, hb⟩ := startsOnce_of_reach h
    rintro x (rfl | rfl)
    · exact ha
    · exact hb
  intro x hx
  have hx := hboth x hx
  refine ⟨hx.length_captures_le, hx.running, ?_⟩
  intro i blocking hi hopen
  have hthread := (hx.served i (hi ▸ trivial)).resolve_right (by simp [hopen])
  refine (hx.started hthread).imp_right fun ⟨j, hj⟩ => ⟨j, ?_⟩
  cases hstage : x.stage j with
  | spawning next => exact ⟨next, rfl⟩
  | _ =>
      rw [hstage] at hj
      exact hj.elim

/-- Two callers find no capture thread, and take the lock one after the other. -/
def racingStarts : List (PairAction (Fin 2)) :=
  [.callA 0 (some .start), .callA 1 (some (.recvFrame true)), .callA 0 none, .callA 1 none,
    .callA 0 none, .callA 1 none, .callA 0 none, .callA 0 none, .callA 0 none, .callA 0 none,
    .callA 0 none, .callA 0 none, .callA 1 none, .callA 1 none, .callA 1 none, .captureA 0]

/-- One call has returned, the other waits for a frame, and one thread was started for both. -/
theorem one_capture_thread_racingStarts : ∃ c : OpticalPair (Fin 2),
    c.a.stage 1 = .getting true ∧ c.a.shared.captures.length = 1 := by
  obtain ⟨c, hrun, hgetting, hopen, hidle⟩ := (OpticalPair.system some fun img => some img.pixels)
    |>.exists_reach_of_exec Transition.free racingStarts (.pair true)
    (fun c => c.a.stage 1 = .getting true ∧ c.a.shared.closed = false ∧
      c.a.stage 0 = .idle) (by decide +kernel)
  obtain ⟨-, -, hserved⟩ := one_capture_thread hrun c.a (Or.inl rfl)
  refine ⟨c, hgetting, (hserved 1 true hgetting hopen).resolve_right ?_⟩
  rintro ⟨j, next, hj⟩
  fin_cases j
  · cases hidle.symm.trans hj
  · cases hgetting.symm.trans hj

end Optical

end PhotonTCP
