import PhotonTCP.Optical.Dedup
import PhotonTCP.Optical.Threads

/-!
# What a pair of optical channels delivers

A frame is encoded into a new image and shown; the image waits in the queue of the display until the
capture thread of the other end reads it, which decodes it and puts the frame into the inbox.
Between reads the camera repeats its last image, which is the array that was decoded last.

* `IsImage`, `Images` — the images of frames that are shown from a place on.
* `Displays` — the sending side; `Passing` — the way of the frames from one end to the other.
* `Conveyed` — the invariant of a direction; one lemma for every kind of step.
* **`pair_delivers`** — every frame that is shown is received once, and in order.

Nothing is lost on this way, though three parties work on it at once.  The caller encodes, shows and
counts in steps of its own; the camera takes an image off the queue, or the last one again if the
queue is empty; and the capture thread decodes and delivers.  Another caller may receive in between,
or close an end.

A frame that has been encoded has a place, which is its nonce before it is reduced, and an image has
a number; so each image belongs to one place.  The proof follows an image through its stations.  At
each moment the frames shown are those handled, the one in hand, and those in the queue, in this
order, and every step of any thread moves one frame by one station or none.

One caller sends at a time, as the channel asks; two callers could take the same nonce, and show
their images in the other order.
-/

namespace PhotonTCP

namespace Optical

variable {ι : Type*} {encodeFrame : Bytes → Option Bytes} {decodeFrame : Image → Option Bytes}

/-! ## Images

That an image decodes to its frame is what is supposed of the encoding.  Images of different frames
may look alike, and are still different arrays.
-/

/-- The image of the `k`-th frame that is shown. -/
structure IsImage (encodeFrame : Bytes → Option Bytes) (k : ℕ) (frame : Bytes) (img : Image) : Prop where
  identity : img.identity = k
  pixels : encodeFrame (channelFrame k frame) = some img.pixels

/-- The images of frames that are shown from the `k`-th on. -/
inductive Images (encodeFrame : Bytes → Option Bytes) : ℕ → List Bytes → List Image → Prop where
  | nil (k : ℕ) : Images encodeFrame k [] []
  | cons {k : ℕ} {frame : Bytes} {img : Image} {frames : List Bytes} {imgs : List Image}
      (h : IsImage encodeFrame k frame img) (rest : Images encodeFrame (k + 1) frames imgs) :
      Images encodeFrame k (frame :: frames) (img :: imgs)

namespace Images

variable {k : ℕ} {frames : List Bytes} {imgs : List Image}

lemma length_eq (h : Images encodeFrame k frames imgs) : imgs.length = frames.length := by
  induction h with
  | nil => rfl
  | cons _ _ ih => rw [List.length_cons, List.length_cons, ih]

/-- One more. -/
lemma concat (h : Images encodeFrame k frames imgs) {frame : Bytes} {img : Image}
    (hnew : IsImage encodeFrame (k + frames.length) frame img) :
    Images encodeFrame k (frames ++ [frame]) (imgs ++ [img]) := by
  induction h with
  | nil k => exact .cons hnew (.nil _)
  | @cons k frame' img' frames imgs h _ ih =>
      refine .cons h (ih ?_)
      rwa [List.length_cons, Nat.add_comm frames.length, ← Nat.add_assoc] at hnew

end Images

/-! ## What the capture thread has handled

Frames that were handled without a gap.  Since every frame is handled, a nonce comes again after a
whole cycle, and the window has forgotten it.
-/

/-- The receiver, when these frames have been captured one after the other. -/
def handledBy (handled : List Bytes) : Receiver := (handled.mapIdx channelFrame).foldl Receiver.deliver {}

lemma handledBy_concat (handled : List Bytes) (frame : Bytes) : handledBy (handled ++ [frame])
    = (handledBy handled).deliver (channelFrame handled.length frame) := by
  rw [handledBy, handledBy, List.mapIdx_append, List.foldl_append]
  simp

/-- Captures without a gap. -/
lemma Captures.range {n : ℕ} : ∀ m ≤ n, Captures n (List.range m) (List.range m)
  | 0, _ => .nil
  | m + 1, hm => by
      rw [List.range_succ]
      exact (Captures.range m (by omega)).fresh hm fun j hj => List.mem_range.mp hj

/-- Without a gap, a nonce comes again long after it has been forgotten. -/
lemma spaced_range (n : ℕ) : Spaced (List.range n) := by
  intro i hi j hj hlt hmod
  have hperiod : DEDUP_DEPTH < 256 ^ NONCE_BYTES := by decide
  have hfar : 256 ^ NONCE_BYTES ≤ j - i := Nat.le_of_dvd (by omega) (Nat.dvd_of_mod_eq_zero hmod)
  have hbetween : List.range' (i + 1) DEDUP_DEPTH
      ⊆ (List.range n).filter fun k => i < k ∧ k < j := by
    intro k hk
    rw [List.mem_range'_1] at hk
    have := List.mem_range.mp hj
    simp only [List.mem_filter, List.mem_range, decide_eq_true_eq]
    omega
  have hnodup : (List.range' (i + 1) DEDUP_DEPTH).Nodup := List.nodup_range'
  have hle := (hnodup.subperm hbetween).length_le
  rwa [List.length_range'] at hle

/-- **Frames that are captured one after the other all get through.** -/
lemma inbox_handledBy (handled : List Bytes) : (handledBy handled).inbox = handled := by
  have h := ((Captures.range handled.length le_rfl).delivered (spaced_range handled.length)).inbox
  have hshown : (List.range handled.length).map (shownAt handled) = handled.mapIdx channelFrame := by
    apply List.ext_getElem
    · simp
    · intro k hk _
      have hlt : k < handled.length := by simpa using hk
      simp [shownAt_of_lt hlt, hlt]
  rw [hshown] at h
  rw [handledBy, h]
  apply List.ext_getElem
  · simp
  · intro k hk _
    simp [show k < handled.length by simpa using hk]

/-- What `deliver` puts into the inbox does not depend on what is there. -/
lemma Receiver.deliver_congr {r r' : Receiver} (h : r'.window = r.window) (channelFrame : Bytes) :
    ∃ more, (r.deliver channelFrame).inbox = r.inbox ++ more ∧
      (r'.deliver channelFrame).inbox = r'.inbox ++ more ∧
      (r'.deliver channelFrame).window = (r.deliver channelFrame).window ∧
      (r'.deliver channelFrame).lastDecodedArray = r'.lastDecodedArray := by
  obtain ⟨last, window, inbox⟩ := r
  obtain ⟨last', window', inbox'⟩ := r'
  cases h
  rw [Receiver.deliver, Receiver.deliver]
  dsimp only
  split_ifs
  · exact ⟨[], by simp⟩
  · exact ⟨[], by simp⟩
  · exact ⟨[channelFrame.drop NONCE_BYTES], by simp⟩

/-! ## The sending side

A caller that is sending holds the frame whose place is the next; the display has those before it.
There is one lemma for what happens outside `send_frame`, and one for what happens inside.
-/

/-- The frame that `ch` is sending, by the stage of the caller that sends it; otherwise there is
none. -/
def InStep (encodeFrame : Bytes → Option Bytes) (ch : OpticalChannel) : CallStage → Prop
  | .showing image frame nonce | .putting image frame nonce =>
      IsImage encodeFrame ch.shown.length frame image ∧ nonce = ch.shown.length % 256 ^ NONCE_BYTES ∧
        ch.encoded = ch.shown.length + 1 ∧ ch.sent = ch.shown ++ [frame]
  | .advancing nonce => (nonce + 1) % 256 ^ NONCE_BYTES = ch.shown.length % 256 ^ NONCE_BYTES ∧
      ch.encoded = ch.shown.length ∧ ch.sent = ch.shown
  | _ => ch.sendNonce = ch.shown.length % 256 ^ NONCE_BYTES ∧ ch.encoded = ch.shown.length ∧
      ch.sent = ch.shown

/-- The frames of `x`, as long as the display shows them. -/
structure Aligned (encodeFrame : Bytes → Option Bytes) (x : OpticalEnd ι) : Prop where
  sending : ∀ i, (x.stage i).Sending → InStep encodeFrame x.shared (x.stage i)
  resting : (∀ i, ¬ (x.stage i).Sending) → InStep encodeFrame x.shared .idle

/-- The caller has found the display open. -/
def CallStage.Putting : CallStage → Prop
  | .putting .. => True
  | _ => False

lemma CallStage.Putting.sending {l : CallStage} (h : l.Putting) : l.Sending := by
  cases l <;> trivial

/-- The sending side.  A closed display shows nothing any more. -/
structure Displays (encodeFrame : Bytes → Option Bytes) (x : OpticalEnd ι) : Prop where
  one : x.AtMostOne CallStage.Sending
  sent : x.shared.shown <+: x.shared.sent
  aligned : (x.shared.display.closed = true ∧ ∀ i, ¬ (x.stage i).Putting) ∨ Aligned encodeFrame x

/-- Nobody starts to send while somebody does. -/
def OneSender (x : OpticalEnd ι) : Option Call → Prop
  | some (.sendFrame _) => ∀ i, ¬ (x.stage i).Sending
  | _ => True

namespace Displays

variable [DecidableEq ι] {x : OpticalEnd ι} {i : ι} {l : CallStage} {ch : OpticalChannel}

/-- A step outside `send_frame`. -/
lemma outside (h : Displays encodeFrame x) (hfrom : ¬ (x.stage i).Sending) (hto : ¬ l.Sending)
    (hnonce : ch.sendNonce = x.shared.sendNonce) (hencoded : ch.encoded = x.shared.encoded)
    (hsent : ch.sent = x.shared.sent) (hshown : ch.shown = x.shared.shown)
    (hclosed : x.shared.display.closed = true → ch.display.closed = true) :
    Displays encodeFrame (x.move i l ch) where
  one := h.one.move_out hto
  sent := by
    rw [Threads.shared_move, hsent, hshown]
    exact h.sent
  aligned := by
    have hsame : ∀ l, InStep encodeFrame x.shared l → InStep encodeFrame ch l := by
      intro l hl
      cases l <;> simpa only [InStep, hnonce, hencoded, hsent, hshown] using hl
    rcases h.aligned with ⟨hshut, hnone⟩ | haligned
    · exact Or.inl ⟨hclosed hshut,
        Threads.forall_stage_move (P := fun _ (l : CallStage) => ¬ l.Putting) |>.mpr
          ⟨fun hl => hto hl.sending, fun j _ => hnone j⟩⟩
    · refine Or.inr ⟨Threads.forall_stage_move (P := fun _ (l : CallStage) => l.Sending → InStep _ _ l)
        |>.mpr ⟨fun hl => absurd hl hto, fun j _ hj => hsame _ (haligned.sending j hj)⟩, ?_⟩
      intro hnone
      refine hsame _ (haligned.resting fun j hj => ?_)
      have hne : j ≠ i := by
        rintro rfl
        exact hfrom hj
      exact hnone j (by rwa [Threads.stage_move_of_ne hne])

/-- A step of the only caller that sends, or starts to. -/
lemma inside (honly : ∀ j, j ≠ i → ¬ (x.stage j).Sending)
    (hsent : ch.shown <+: ch.sent)
    (haligned : (ch.display.closed = true ∧ ¬ l.Putting) ∨ InStep encodeFrame ch l)
    (hrest : ¬ l.Sending → l = .idle) : Displays encodeFrame (x.move i l ch) where
  one := Threads.AtMostOne.move_only honly
  sent := hsent
  aligned := by
    rcases haligned with ⟨hshut, hl⟩ | hl
    · exact Or.inl ⟨hshut, Threads.forall_stage_move (P := fun _ (l : CallStage) => ¬ l.Putting) |>.mpr
        ⟨hl, fun j hne hj => honly j hne hj.sending⟩⟩
    · refine Or.inr ⟨Threads.forall_stage_move (P := fun _ (l : CallStage) => l.Sending → InStep _ _ l)
        |>.mpr ⟨fun _ => hl, fun j hne hj => absurd hj (honly j hne)⟩, ?_⟩
      intro hnone
      have hidle := hrest (by simpa using hnone i)
      rwa [hidle] at hl

/-- A new call. -/
lemma begin (h : Displays encodeFrame x) (hidle : x.stage i = .idle) {call : Call}
    (hone : OneSender x (some call)) :
    Displays encodeFrame (x.move i (x.shared.begin encodeFrame call).1
      (x.shared.begin encodeFrame call).2) := by
  have hfrom : ¬ (x.stage i).Sending := hidle ▸ id
  cases call with
  | start => exact h.outside hfrom id rfl rfl rfl rfl id
  | sendFrame frame =>
      rw [OpticalChannel.begin]
      split_ifs
      · exact h.outside hfrom id rfl rfl rfl rfl id
      · split
        · exact h.outside hfrom id rfl rfl rfl rfl id
        · rename_i pixels hpixels
          refine inside (fun j _ => hone j) (h.sent.trans (List.prefix_append _ _)) ?_
            fun hno => absurd trivial hno
          refine h.aligned.imp (fun hleft => ⟨hleft.1, id⟩) fun haligned => ?_
          obtain ⟨hnonce, hencoded, hsent⟩ := haligned.resting hone
          rw [hnonce] at hpixels
          exact ⟨⟨hencoded, hpixels⟩, hnonce, congrArg (· + 1) hencoded, congrArg (· ++ [frame]) hsent⟩
  | recvFrame blocking =>
      rw [OpticalChannel.begin]
      dsimp only
      split_ifs
      · exact h.outside hfrom id rfl rfl rfl rfl id
      · exact h.outside hfrom id rfl rfl rfl rfl id
  | close => exact h.outside hfrom id rfl rfl rfl rfl id

omit [DecidableEq ι] in
/-- The sender is alone. -/
lemma only (h : Displays encodeFrame x) (hi : (x.stage i).Sending) :
    ∀ j, j ≠ i → ¬ (x.stage j).Sending :=
  fun j hne hj => hne (h.one j i hj hi)

/-- The next step of a call. -/
theorem resume (h : Displays encodeFrame x) (hstep : x.shared.resume (x.stage i) = some (l, ch)) :
    Displays encodeFrame (x.move i l ch) := by
  cases hstage : x.stage i with
  | idle =>
      rw [hstage] at hstep
      cases hstep
  | showing image frame nonce =>
      have hi : (x.stage i).Sending := hstage ▸ trivial
      rw [hstage, OpticalChannel.resume, Option.some.injEq, Prod.mk.injEq] at hstep
      obtain ⟨rfl, rfl⟩ := hstep
      split_ifs with hshut
      · exact inside (h.only hi) h.sent (Or.inl ⟨hshut, id⟩) fun hno => absurd trivial hno
      · have haligned := (h.aligned.resolve_left fun hleft => hshut hleft.1).sending i hi
        rw [hstage] at haligned
        exact inside (h.only hi) h.sent (Or.inr haligned) fun hno => absurd trivial hno
  | putting image frame nonce =>
      have hi : (x.stage i).Sending := hstage ▸ trivial
      have haligned := (h.aligned.resolve_left fun hleft => hleft.2 i (hstage ▸ trivial)).sending i hi
      rw [hstage] at haligned
      obtain ⟨-, hnonce, hencoded, hsent⟩ := haligned
      rw [hstage, OpticalChannel.resume, Option.some.injEq, Prod.mk.injEq] at hstep
      obtain ⟨rfl, rfl⟩ := hstep
      refine inside (h.only hi) ?_ (Or.inr ⟨?_, ?_, hsent⟩) fun hno => absurd trivial hno
      · rw [hsent]
      · rw [hnonce, List.length_append, List.length_singleton, Nat.mod_add_mod]
      · rw [hencoded, List.length_append, List.length_singleton]
  | advancing nonce =>
      have hi : (x.stage i).Sending := hstage ▸ trivial
      have haligned := fun hopen => (h.aligned.resolve_left hopen).sending i hi
      rw [hstage] at haligned
      rw [hstage, OpticalChannel.resume, Option.some.injEq, Prod.mk.injEq] at hstep
      obtain ⟨rfl, rfl⟩ := hstep
      refine inside (h.only hi) h.sent ?_ fun _ => rfl
      by_cases hopen : x.shared.display.closed = true ∧ ∀ i, ¬ (x.stage i).Putting
      · exact Or.inl ⟨hopen.1, id⟩
      · exact Or.inr (haligned hopen)
  | _ =>
      have hno : ¬ (x.stage i).Sending := hstage ▸ id
      obtain ⟨hto, hnonce, hencoded, hsent, hshown, -, hclosed⟩ :=
        OpticalChannel.resume_of_not_sending hstep hno
      exact h.outside hno hto hnonce hencoded hsent hshown hclosed

omit [DecidableEq ι] in
/-- Only what has to do with receiving is another. -/
lemma withChannel (h : Displays encodeFrame x) (hnonce : ch.sendNonce = x.shared.sendNonce)
    (hencoded : ch.encoded = x.shared.encoded) (hsent : ch.sent = x.shared.sent)
    (hshown : ch.shown = x.shared.shown) (hclosed : ch.display.closed = x.shared.display.closed) :
    Displays encodeFrame (x.withChannel ch) where
  one := h.one
  sent := by
    rw [OpticalEnd.withChannel, hsent, hshown]
    exact h.sent
  aligned := by
    have hsame : ∀ l, InStep encodeFrame x.shared l → InStep encodeFrame ch l := by
      intro l hl
      cases l <;> simpa only [InStep, hnonce, hencoded, hsent, hshown] using hl
    exact h.aligned.imp (fun hleft => ⟨hclosed.trans hleft.1, hleft.2⟩) fun haligned =>
      ⟨fun i hi => hsame _ (haligned.sending i hi), fun hno => hsame _ (haligned.resting hno)⟩

/-- **One step of a caller.** -/
theorem call (h : Displays encodeFrame x) {act : Option Call} {x' : OpticalEnd ι}
    (hone : OneSender x act) (hstep : x.call encodeFrame i act = some x') :
    Displays encodeFrame x' := by
  rw [OpticalEnd.call, Option.map_eq_some_iff] at hstep
  obtain ⟨⟨l, ch⟩, htaken, rfl⟩ := hstep
  cases act with
  | none => exact h.resume htaken
  | some call =>
      rw [OpticalChannel.step] at htaken
      split_ifs at htaken with hidle
      rw [Option.some.injEq] at htaken
      have hbegun := h.begin hidle hone
      rwa [htaken] at hbegun

end Displays

/-! ## The way of the frames

From the display of one end to the inbox of the other.  There is a lemma for each thing a capture
thread can do, and the step of the thread is put together from them.
-/

/-- A turn of the loop with a new image. -/
lemma captureStep_new (hdecode : ∀ frame img, encodeFrame frame = some img.pixels →
    decodeFrame img = some frame) {handled : List Bytes} {frame : Bytes} {img : Image} {r : Receiver}
    (himage : IsImage encodeFrame handled.length frame img)
    (hwindow : r.window = (handledBy handled).window)
    (hlast : r.lastDecodedArray = (List.range handled.length).getLast?) :
    (r.captureStep decodeFrame (some img)).inbox = r.inbox ++ [frame] ∧
      (r.captureStep decodeFrame (some img)).window = (handledBy (handled ++ [frame])).window ∧
      (r.captureStep decodeFrame (some img)).lastDecodedArray = some handled.length := by
  have hnew : ¬ some img.identity = r.lastDecodedArray := by
    rw [hlast, himage.identity]
    intro hsame
    have hmem := List.mem_of_getLast? hsame.symm
    exact absurd (List.mem_range.mp hmem) (lt_irrefl _)
  have hpixels := hdecode _ img himage.pixels
  rw [Receiver.captureStep]
  rw [if_neg hnew, hpixels]
  dsimp only
  have hwindow' : ({ r with lastDecodedArray := some img.identity } : Receiver).window
      = (handledBy handled).window := hwindow
  obtain ⟨more, hhandled, hinbox, hdelivered, hlast'⟩ :=
    Receiver.deliver_congr hwindow' (channelFrame handled.length frame)
  rw [← handledBy_concat, inbox_handledBy, inbox_handledBy, List.append_cancel_left_eq] at hhandled
  rw [hinbox, hdelivered, hlast', ← handledBy_concat, ← hhandled, himage.identity]
  exact ⟨rfl, rfl, rfl⟩

/-- A turn of the loop with the image that was decoded last. -/
lemma captureStep_same {r : Receiver} {img : Image} (hsame : r.lastDecodedArray = some img.identity) :
    r.captureStep decodeFrame (some img) = r := by
  rw [Receiver.captureStep]
  rw [if_pos hsame.symm]

/-- An image that was read last is that of the last frame that was read. -/
def LastRead (encodeFrame : Bytes → Option Bytes) (read : List Bytes) (last : Option Image) : Prop :=
  ∀ img ∈ last, ∃ before frame, read = before ++ [frame] ∧ IsImage encodeFrame before.length frame img

/-- A capture thread that has handled some frames, and has one in hand or none. -/
structure Captured (encodeFrame : Bytes → Option Bytes) (handled inHand : List Bytes) (t : Capture) :
    Prop where
  window : t.window = (handledBy handled).window
  last : t.lastDecodedArray = (List.range handled.length).getLast?
  new : ∀ img, t.stage = .handling img →
    (∃ frame, inHand = [frame] ∧ IsImage encodeFrame handled.length frame img) ∨
      inHand = [] ∧ LastRead encodeFrame handled (some img)
  resting : (∀ img, t.stage ≠ .handling img) → inHand = []

/-- The frames that `x` has shown: `y` has handled some, has one in hand or none, and the others are
in the queue. -/
structure Passing (encodeFrame : Bytes → Option Bytes) (x y : OpticalChannel)
    (handled inHand queued : List Bytes) : Prop where
  shown : x.shown = handled ++ inHand ++ queued
  queue : Images encodeFrame (handled ++ inHand).length queued x.display.sink
  received : y.received ++ y.inbox = handled
  last : LastRead encodeFrame (handled ++ inHand) y.camera.last
  unstarted : y.captures = [] → handled ++ inHand = []
  captured : ∀ t ∈ y.captures, Captured encodeFrame handled inHand t

namespace Passing

variable {x y x' y' : OpticalChannel} {handled inHand queued : List Bytes}

/-- A step that neither shows, reads nor handles an image. -/
lemma congr (h : Passing encodeFrame x y handled inHand queued) (hshown : x'.shown = x.shown)
    (hsink : x'.display.sink = x.display.sink)
    (hreceived : y'.received ++ y'.inbox = y.received ++ y.inbox)
    (hlast : y'.camera.last = y.camera.last) (hcaptures : y'.captures = y.captures) :
    Passing encodeFrame x' y' handled inHand queued where
  shown := hshown.trans h.shown
  queue := hsink ▸ h.queue
  received := hreceived.trans h.received
  last := hlast ▸ h.last
  unstarted := hcaptures ▸ h.unstarted
  captured := hcaptures ▸ h.captured

/-- A new image. -/
lemma put (h : Passing encodeFrame x y handled inHand queued) {frame : Bytes} {img : Image}
    (himage : IsImage encodeFrame x.shown.length frame img) :
    Passing encodeFrame { x with display := x.display.put img, shown := x.shown ++ [frame] } y
      handled inHand (queued ++ [frame]) where
  shown := by rw [h.shown, List.append_assoc]
  queue := by
    refine h.queue.concat ?_
    rwa [h.shown, List.length_append] at himage
  received := h.received
  last := h.last
  unstarted := h.unstarted
  captured := h.captured

/-- Without a thread at work on an image nothing is in hand. -/
lemma inHand_eq_nil (h : Passing encodeFrame x y handled inHand queued)
    (hno : ∀ t ∈ y.captures, ∀ img, t.stage ≠ .handling img) : inHand = [] := by
  cases hcaptures : y.captures with
  | nil => exact (List.append_eq_nil_iff.mp (h.unstarted hcaptures)).2
  | cons t rest =>
      have ht : t ∈ y.captures := by simp [hcaptures]
      exact (h.captured t ht).resting (hno t ht)

/-- And there is one frame in hand at most. -/
lemma inHand_le (h : Passing encodeFrame x y handled inHand queued) : inHand.length ≤ 1 := by
  by_cases hno : ∀ t ∈ y.captures, ∀ img, t.stage ≠ .handling img
  · simp [h.inHand_eq_nil hno]
  · push Not at hno
    obtain ⟨t, ht, img, hstage⟩ := hno
    rcases (h.captured t ht).new img hstage with ⟨frame, rfl, -⟩ | ⟨rfl, -⟩
    · simp
    · simp

/-- The capture thread starts. -/
lemma spawn (h : Passing encodeFrame x y handled inHand queued) (hnone : y.captures = [])
    (hreceived : y'.received ++ y'.inbox = y.received ++ y.inbox)
    (hlast : y'.camera.last = y.camera.last) (hcaptures : y'.captures = y.captures ++ [({} : Capture)]) :
    Passing encodeFrame x y' handled inHand queued where
  shown := h.shown
  queue := h.queue
  received := hreceived.trans h.received
  last := hlast ▸ h.last
  unstarted hempty := by simp [hcaptures] at hempty
  captured t ht := by
    obtain ⟨rfl, rfl⟩ := List.append_eq_nil_iff.mp (h.unstarted hnone)
    obtain rfl : t = {} := by simpa [hcaptures, hnone] using ht
    exact ⟨rfl, rfl, fun _ hstage => absurd hstage (by simp), fun _ => rfl⟩

/-- A capture thread that only moves on. -/
lemma moves (h : Passing encodeFrame x y handled inHand queued) {t t' : Capture}
    (ht : y.captures = [t]) (hstage : ∀ img, t.stage ≠ .handling img)
    (hstage' : ∀ img, t'.stage ≠ .handling img) (hwindow : t'.window = t.window)
    (hlast : t'.lastDecodedArray = t.lastDecodedArray) :
    Passing encodeFrame x { y with captures := [t'] } handled inHand queued := by
  have hcaptured := h.captured t (by simp [ht])
  refine ⟨h.shown, h.queue, h.received, h.last, by simp, ?_⟩
  rintro _ (_ | ⟨_, ⟨⟩⟩)
  exact ⟨hwindow.trans hcaptured.window, hlast.trans hcaptured.last,
    fun img hi => absurd hi (hstage' img), fun _ => hcaptured.resting hstage⟩

/-- **A read that takes nothing off the queue**: the image of the last read again, or none. -/
lemma getsAgain (h : Passing encodeFrame x y handled [] queued) {t : Capture} (ht : y.captures = [t])
    {read : Option Image} (hread : ∀ img ∈ read, y.camera.last = some img) :
    Passing encodeFrame x { y with captures := [{ t with stage := read.elim .looping .handling }] }
      handled [] queued := by
  have hcaptured := h.captured t (by simp [ht])
  refine ⟨h.shown, h.queue, h.received, h.last, by simp, ?_⟩
  rintro _ (_ | ⟨_, ⟨⟩⟩)
  refine ⟨hcaptured.window, hcaptured.last, fun img hi => Or.inr ⟨rfl, ?_⟩, fun _ => rfl⟩
  cases read with
  | none => simp at hi
  | some img' =>
      obtain rfl : img' = img := by simpa using hi
      rintro _ ⟨⟩
      simpa using h.last img' (hread img' rfl)

/-- **A read of the first image in the queue**: its frame is in hand. -/
lemma getsNext (h : Passing encodeFrame x y handled [] queued) {t : Capture} (ht : y.captures = [t])
    {img : Image} {rest : List Image} (hsink : x.display.sink = img :: rest) :
    ∃ inHand queued, Passing encodeFrame { x with display := { x.display with sink := rest } }
      { y with
        camera := { y.camera with last := some img }
        captures := [{ t with stage := .handling img }] } handled inHand queued := by
  have hcaptured := h.captured t (by simp [ht])
  have hqueue := h.queue
  rw [hsink] at hqueue
  cases hqueue with
  | @cons _ frame _ frames _ himage hrest =>
  rw [List.append_nil] at himage hrest
  refine ⟨[frame], frames, ?_, ?_, h.received, ?_, by simp, ?_⟩
  · simpa using h.shown
  · simpa using hrest
  · rintro _ ⟨⟩
    exact ⟨handled, frame, rfl, himage⟩
  · rintro _ (_ | ⟨_, ⟨⟩⟩)
    refine ⟨hcaptured.window, hcaptured.last, fun img' hi => Or.inl ⟨frame, rfl, ?_⟩, fun hno => ?_⟩
    · obtain rfl : img = img' := by simpa using hi
      exact himage
    · exact absurd rfl (hno img)

/-- **A turn of the loop with an image**: its frame is in hand, or it is the one that was decoded
last. -/
lemma handles (h : Passing encodeFrame x y handled inHand queued)
    (hdecode : ∀ frame img, encodeFrame frame = some img.pixels → decodeFrame img = some frame)
    {t : Capture} (ht : y.captures = [t]) {img : Image} (hstage : t.stage = .handling img) :
    let r := Receiver.captureStep decodeFrame ⟨t.lastDecodedArray, t.window, y.inbox⟩ (some img)
    ∃ handled, Passing encodeFrame x
      { y with inbox := r.inbox, captures := [⟨.looping, r.lastDecodedArray, r.window⟩] }
      handled [] queued := by
  obtain ⟨hwindow, hlast, hnew, -⟩ := h.captured t (by simp [ht])
  rcases hnew img hstage with ⟨frame, rfl, himage⟩ | ⟨rfl, hsame⟩
  · obtain ⟨hinbox, hwindow', hlast'⟩ := captureStep_new hdecode
      (r := ⟨t.lastDecodedArray, t.window, y.inbox⟩) himage hwindow hlast
    refine ⟨handled ++ [frame], ?_, ?_, ?_, ?_, by simp, ?_⟩
    · simpa using h.shown
    · simpa using h.queue
    · show y.received ++ _ = _
      rw [hinbox, ← List.append_assoc, h.received]
    · simpa using h.last
    · rintro _ (_ | ⟨_, ⟨⟩⟩)
      refine ⟨hwindow', ?_, fun _ hi => absurd hi (by simp), fun _ => rfl⟩
      simp [hlast', List.range_succ]
  · obtain ⟨before, frame, hbefore, himage⟩ := hsame img rfl
    have hrepeated : t.lastDecodedArray = some img.identity := by
      simp [hlast, hbefore, himage.identity, List.range_succ]
    rw [captureStep_same hrepeated]
    refine ⟨handled, h.shown, h.queue, h.received, h.last, by simp, ?_⟩
    rintro _ (_ | ⟨_, ⟨⟩⟩)
    exact ⟨hwindow, hlast, fun _ hi => absurd hi (by simp), fun _ => rfl⟩

/-- **One step of the capture thread.** -/
theorem capture (h : Passing encodeFrame x y handled inHand queued)
    (hdecode : ∀ frame img, encodeFrame frame = some img.pixels → decodeFrame img = some frame)
    {t t' : Capture} (ht : y.captures = [t]) {ch : OpticalChannel} {source : MemoryDisplay}
    (hresume : t.resume decodeFrame y x.display = some (t', ch, source)) :
    ∃ handled inHand queued, Passing encodeFrame { x with display := source }
      { ch with captures := [t'] } handled inHand queued := by
  rw [Capture.resume] at hresume
  cases hstage : t.stage with
  | looping =>
      simp only [hstage, Option.some.injEq, Prod.mk.injEq] at hresume
      obtain ⟨rfl, rfl, rfl⟩ := hresume
      refine ⟨_, _, _, h.moves ht (by simp [hstage]) (fun img => ?_) rfl rfl⟩
      dsimp only
      split_ifs <;> simp
  | reading =>
      simp only [hstage, Option.some.injEq, Prod.mk.injEq] at hresume
      obtain ⟨rfl, rfl, rfl⟩ := hresume
      refine ⟨_, _, _, h.moves ht (by simp [hstage]) (fun img => ?_) rfl rfl⟩
      dsimp only
      split_ifs <;> simp
  | getting =>
      obtain rfl : inHand = [] := (h.captured t (by simp [ht])).resting (by simp [hstage])
      simp only [hstage, Option.some.injEq, Prod.mk.injEq] at hresume
      obtain ⟨rfl, rfl, rfl⟩ := hresume
      cases hsink : x.display.sink with
      | nil =>
          simp only [MemoryCamera.get, hsink]
          refine ⟨handled, [], queued, h.getsAgain ht fun img hi => ?_⟩
          split_ifs at hi
          · exact hi
          · cases hi
      | cons img rest =>
          simp only [MemoryCamera.get, hsink]
          exact ⟨handled, h.getsNext ht hsink⟩
  | handling img =>
      simp only [hstage, Option.some.injEq, Prod.mk.injEq] at hresume
      obtain ⟨rfl, rfl, rfl⟩ := hresume
      obtain ⟨handled', hpassing⟩ := h.handles hdecode ht hstage
      exact ⟨handled', [], queued, hpassing⟩
  | ended =>
      simp only [hstage] at hresume
      cases hresume

end Passing

/-! ## A direction

A channel is the source of one direction and the sink of the other.  Each of the four kinds of step
leaves most of a direction alone.
-/

/-- What every interleaving keeps of the way from `x` to `y`. -/
structure Conveyed (encodeFrame : Bytes → Option Bytes) (x y : OpticalEnd ι) : Prop where
  sends : Displays encodeFrame x
  starts : StartsOnce y
  passing : ∃ handled inHand queued, Passing encodeFrame x.shared y.shared handled inHand queued

namespace Conveyed

variable [DecidableEq ι] {x y x' y' : OpticalEnd ι} {i : ι} {j : ℕ} {act : Option Call}

/-- A caller of the sending end. -/
theorem callSource (h : Conveyed encodeFrame x y) (hone : OneSender x act)
    (hstep : x.call encodeFrame i act = some x') : Conveyed encodeFrame x' y := by
  refine ⟨h.sends.call hone hstep, h.starts, ?_⟩
  obtain ⟨handled, inHand, queued, hpassing⟩ := h.passing
  -- whatever shows nothing
  have hkept : ∀ l ch, ch.shown = x.shared.shown → ch.display.sink = x.shared.display.sink →
      ∃ handled inHand queued,
        Passing encodeFrame (x.move i l ch).shared y.shared handled inHand queued :=
    fun l ch hshown hsink => ⟨_, _, _, hpassing.congr hshown hsink rfl rfl rfl⟩
  rw [OpticalEnd.call, Option.map_eq_some_iff] at hstep
  obtain ⟨⟨l, ch⟩, htaken, rfl⟩ := hstep
  cases act with
  | some call =>
      rw [OpticalChannel.step] at htaken
      split_ifs at htaken
      obtain ⟨hshown, hdisplay, -⟩ := x.shared.begin_keeps encodeFrame call
      rw [Option.some.injEq] at htaken
      rw [htaken] at hshown hdisplay
      exact hkept l ch hshown (congrArg _ hdisplay)
  | none =>
      rw [OpticalChannel.step] at htaken
      cases hstage : x.stage i with
      | putting image frame nonce =>
          have haligned := h.sends.aligned.resolve_left fun hleft => hleft.2 i (hstage ▸ trivial)
          have himage := haligned.sending i (hstage ▸ trivial)
          rw [hstage] at htaken himage
          obtain ⟨rfl, rfl⟩ := htaken
          exact ⟨_, _, _, hpassing.put himage.1⟩
      | showing image frame nonce =>
          rw [hstage] at htaken
          obtain ⟨rfl, rfl⟩ := htaken
          exact hkept _ _ rfl rfl
      | advancing nonce =>
          rw [hstage] at htaken
          obtain ⟨rfl, rfl⟩ := htaken
          exact hkept _ _ rfl rfl
      | _ =>
          obtain ⟨-, -, -, -, hshown, hsink, -⟩ :=
            OpticalChannel.resume_of_not_sending htaken (hstage ▸ id)
          exact hkept l ch hshown hsink

/-- A caller of the receiving end. -/
theorem callSink (h : Conveyed encodeFrame x y) (hstep : y.call encodeFrame i act = some y') :
    Conveyed encodeFrame x y' := by
  refine ⟨h.sends, h.starts.call hstep, ?_⟩
  obtain ⟨handled, inHand, queued, hpassing⟩ := h.passing
  rw [OpticalEnd.call, Option.map_eq_some_iff] at hstep
  obtain ⟨⟨l, ch⟩, htaken, rfl⟩ := hstep
  cases act with
  | some call =>
      rw [OpticalChannel.step] at htaken
      split_ifs at htaken
      obtain ⟨-, -, hreceived, hinbox, hcamera, hcaptures⟩ := y.shared.begin_keeps encodeFrame call
      rw [Option.some.injEq] at htaken
      rw [htaken] at hreceived hinbox hcamera hcaptures
      exact ⟨_, _, _, hpassing.congr rfl rfl (congrArg₂ _ hreceived hinbox) (congrArg _ hcamera)
        hcaptures⟩
  | none =>
      obtain ⟨hreceived, hlast, hsame | ⟨hspawning, hnew⟩⟩ := OpticalChannel.resume_keeps htaken
      · exact ⟨_, _, _, hpassing.congr rfl rfl hreceived hlast hsame⟩
      · exact ⟨_, _, _, hpassing.spawn (h.starts.spawning i hspawning).2 hreceived hlast hnew⟩

omit [DecidableEq ι] in
/-- The capture thread of the receiving end. -/
theorem captureSink (hdecode : ∀ frame img, encodeFrame frame = some img.pixels →
    decodeFrame img = some frame) (h : Conveyed encodeFrame x y) (hx : StartsOnce x)
    (hstep : y.capture decodeFrame x j = some (y', x')) : Conveyed encodeFrame x' y' := by
  obtain ⟨hstarts, -⟩ := h.starts.capture hx hstep
  obtain ⟨handled, inHand, queued, hpassing⟩ := h.passing
  rw [OpticalEnd.capture] at hstep
  cases ht : y.shared.captures[j]? with
  | none =>
      rw [ht] at hstep
      cases hstep
  | some t =>
      simp only [ht, Option.map_eq_some_iff, Prod.exists, Prod.mk.injEq] at hstep
      obtain ⟨t', ch, source, hresume, rfl, rfl⟩ := hstep
      have honly : j = 0 ∧ y.shared.captures = [t] := by
        have hlength := h.starts.length_captures_le
        cases hcaptures : y.shared.captures with
        | nil => simp [hcaptures] at ht
        | cons t₀ rest =>
            obtain rfl : rest = [] := by simpa [hcaptures] using hlength
            cases j with
            | zero => simpa [hcaptures] using ht
            | succ j => simp [hcaptures] at ht
      obtain ⟨⟨camera, inbox, rfl⟩, hclosed⟩ := Capture.resume_keeps hresume
      refine ⟨h.sends.withChannel rfl rfl rfl rfl hclosed, hstarts, ?_⟩
      obtain ⟨handled, inHand, queued, hpassing'⟩ := hpassing.capture hdecode honly.2 hresume
      refine ⟨handled, inHand, queued, ?_⟩
      rw [honly.1]
      show Passing encodeFrame _ { y.shared with
        camera := camera
        inbox := inbox
        captures := y.shared.captures.set 0 t' } _ _ _
      rw [honly.2]
      exact hpassing'

omit [DecidableEq ι] in
/-- The capture thread of the sending end. -/
theorem captureSource (h : Conveyed encodeFrame x y) (hx : StartsOnce x)
    (hstep : x.capture decodeFrame y j = some (x', y')) : Conveyed encodeFrame x' y' := by
  obtain ⟨-, hstarts⟩ := hx.capture h.starts hstep
  obtain ⟨handled, inHand, queued, hpassing⟩ := h.passing
  rw [OpticalEnd.capture] at hstep
  cases ht : x.shared.captures[j]? with
  | none =>
      rw [ht] at hstep
      cases hstep
  | some t =>
      simp only [ht, Option.map_eq_some_iff, Prod.exists, Prod.mk.injEq] at hstep
      obtain ⟨t', ch, source, hresume, rfl, rfl⟩ := hstep
      obtain ⟨⟨camera, inbox, rfl⟩, -⟩ := Capture.resume_keeps hresume
      exact ⟨h.sends.withChannel rfl rfl rfl rfl rfl, hstarts, handled, inHand, queued,
        hpassing.congr rfl rfl rfl rfl rfl⟩

omit [DecidableEq ι] in
/-- A new pair. -/
lemma new (camera camera' : MemoryCamera) (hlast : camera'.last = none) :
    Conveyed (ι := ι) encodeFrame ⟨{ camera }, fun _ => .idle⟩
      ⟨{ camera := camera' }, fun _ => .idle⟩ where
  sends := ⟨fun _ _ hi => hi.elim, List.prefix_rfl, Or.inr ⟨fun _ hi => hi.elim, fun _ => ⟨rfl, rfl, rfl⟩⟩⟩
  starts := .new camera'
  passing := ⟨[], [], [], rfl, .nil 0, rfl, by simp [LastRead, hlast], fun _ => rfl, by simp⟩

end Conveyed

/-! ## Delivery

Both directions, from a new pair on.
-/

namespace OpticalPair

variable [DecidableEq ι]

/-- At either end, at most one caller sends at a time. -/
def Orderly (c : OpticalPair ι) : PairAction ι → Prop
  | .callA _ act => OneSender c.a act
  | .callB _ act => OneSender c.b act
  | _ => True

instance [Fintype ι] (c : OpticalPair ι) (act : PairAction ι) : Decidable (Orderly c act) := by
  cases act with
  | callA i act =>
      cases act with
      | none => exact isTrue trivial
      | some call => cases call <;> unfold Orderly OneSender <;> infer_instance
  | callB i act =>
      cases act with
      | none => exact isTrue trivial
      | some call => cases call <;> unfold Orderly OneSender <;> infer_instance
  | _ => exact isTrue trivial

end OpticalPair

/-- Both directions of a reachable pair. -/
lemma conveyed_of_reach [DecidableEq ι] (hdecode : ∀ frame img, encodeFrame frame = some img.pixels →
    decodeFrame img = some frame) {repeatLast : Bool} {c : OpticalPair ι}
    (h : (OpticalPair.system encodeFrame decodeFrame).Reach OpticalPair.Orderly (.pair repeatLast) c) :
    Conveyed encodeFrame c.a c.b ∧ Conveyed encodeFrame c.b c.a := by
  refine h.invariant (I := fun c => Conveyed encodeFrame c.a c.b ∧ Conveyed encodeFrame c.b c.a)
    ⟨.new _ _ rfl, .new _ _ rfl⟩ ?_
  rintro c act ⟨hab, hba⟩ henabled hok
  obtain ⟨c', hstep, hnext⟩ := OpticalPair.exists_step henabled
  rw [hnext]
  cases act with
  | callA i act =>
      obtain ⟨x, hx, rfl⟩ := Option.map_eq_some_iff.mp hstep
      exact ⟨hab.callSource hok hx, hba.callSink hx⟩
  | callB i act =>
      obtain ⟨x, hx, rfl⟩ := Option.map_eq_some_iff.mp hstep
      exact ⟨hab.callSink hx, hba.callSource hok hx⟩
  | captureA j =>
      obtain ⟨x, hx, rfl⟩ := Option.map_eq_some_iff.mp hstep
      exact ⟨hab.captureSource hba.starts hx, hba.captureSink hdecode hab.starts hx⟩
  | captureB j =>
      obtain ⟨x, hx, rfl⟩ := Option.map_eq_some_iff.mp hstep
      exact ⟨hab.captureSink hdecode hba.starts hx, hba.captureSource hab.starts hx⟩

/-- **A pair over memory devices delivers every frame once, and in order.**  Suppose that an image
decodes to what has been encoded.  However the callers and the capture threads of both ends
interleave, as long as one caller sends at a time: what has been received, what is in the inbox, at
most one frame in the hands of the capture thread and the frames in the queue make up what the other
end has shown, and the queue holds the images of these last frames, in their order.  What has been
shown is the beginning of what has been sent, and on an open display all of it, unless a caller is
still at it. -/
theorem pair_delivers [DecidableEq ι] (hdecode : ∀ frame img, encodeFrame frame = some img.pixels →
    decodeFrame img = some frame) {repeatLast : Bool} {c : OpticalPair ι}
    (h : (OpticalPair.system encodeFrame decodeFrame).Reach OpticalPair.Orderly (.pair repeatLast) c) :
    ∀ x y, (x = c.a ∧ y = c.b) ∨ (x = c.b ∧ y = c.a) →
      (∃ inHand queued,
        y.shared.received ++ y.shared.inbox ++ inHand ++ queued = x.shared.shown ∧
        Images encodeFrame (y.shared.received ++ y.shared.inbox ++ inHand).length queued
          x.shared.display.sink ∧
        inHand.length ≤ 1 ∧
        ((∀ t ∈ y.shared.captures, ∀ img, t.stage ≠ .handling img) → inHand = [])) ∧
      x.shared.shown <+: x.shared.sent ∧
      (x.shared.display.closed = false → (∀ i, ¬ (x.stage i).Sending) →
        x.shared.shown = x.shared.sent) := by
  have hboth : ∀ x y, (x = c.a ∧ y = c.b) ∨ (x = c.b ∧ y = c.a) → Conveyed encodeFrame x y := by
    obtain ⟨hab, hba⟩ := conveyed_of_reach hdecode h
    rintro x y (⟨rfl, rfl⟩ | ⟨rfl, rfl⟩)
    · exact hab
    · exact hba
  intro x y hxy
  obtain ⟨hsends, hstarts, handled, inHand, queued, hpassing⟩ := hboth x y hxy
  refine ⟨⟨inHand, queued, ?_, ?_, hpassing.inHand_le, hpassing.inHand_eq_nil⟩, hsends.sent, ?_⟩
  · rw [hpassing.received, hpassing.shown]
  · rw [hpassing.received]
    exact hpassing.queue
  · intro hopen hno
    have haligned := hsends.aligned.resolve_left (by simp [hopen])
    exact (haligned.resting hno).2.2.symm

/-- The same frame twice; before the second one is shown, the camera sees the first one again. -/
def sameFrameTwice : List (PairAction Unit) :=
  .callB () (some .start) :: List.replicate 8 (.callB () none) ++
    .callA () (some (.sendFrame [7])) :: List.replicate 3 (.callA () none) ++
    List.replicate 7 (.captureB 0) ++
    .callA () (some (.sendFrame [7])) :: List.replicate 3 (.callA () none) ++
    List.replicate 5 (.captureB 0) ++
    .callB () (some (.recvFrame false)) :: List.replicate 3 (.callB () none)

/-- Both frames come through, though the camera has seen the first one twice. -/
theorem pair_delivers_sameFrameTwice : ∃ c : OpticalPair Unit,
    c.b.shared.received.length = 1 ∧ c.b.shared.received ++ c.b.shared.inbox = [[7], [7]] := by
  obtain ⟨c, hrun, hreceived, hsent, hsink, hopen, hidle, hlooping⟩ :=
    (OpticalPair.system some fun img => some img.pixels)
    |>.exists_reach_of_exec OpticalPair.Orderly sameFrameTwice (.pair true)
    (fun c => c.b.shared.received.length = 1 ∧ c.a.shared.sent = [[7], [7]] ∧
      c.a.shared.display.sink.length = 0 ∧ c.a.shared.display.closed = false ∧ c.a.stage () = .idle ∧
      c.b.shared.captures.map Capture.stage = [.looping]) (by decide +kernel)
  obtain ⟨⟨inHand, queued, hall, himages, -, hnone⟩, -, hshown⟩ := pair_delivers
    (fun _ _ h => h.symm) hrun c.a c.b (Or.inl ⟨rfl, rfl⟩)
  have hqueued : queued = [] := List.length_eq_zero_iff.mp (himages.length_eq.symm.trans hsink)
  have hinHand : inHand = [] := hnone fun t ht img hstage => by
    have hmem := List.mem_map_of_mem (f := Capture.stage) ht
    simp [hlooping, hstage] at hmem
  have hresting : ∀ i, ¬ (c.a.stage i).Sending := fun i hi => by
    rw [show i = () from rfl, hidle] at hi
    exact hi
  rw [hinHand, hqueued, List.append_nil, List.append_nil, hshown hopen hresting, hsent] at hall
  exact ⟨c, hreceived, hall⟩

end Optical

end PhotonTCP
