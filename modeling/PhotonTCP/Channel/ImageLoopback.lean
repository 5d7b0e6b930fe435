import Mathlib.Data.List.ReduceOption
import PhotonTCP.Qr.Codec

/-!
# The image loopback channel

A frame is encoded into a QR image when it is sent, and decoded when it is received; in between the
image may be lost, degraded or duplicated.  An image that cannot be decoded is gone, and to the
receiver it looks as if nothing had arrived.

* `ImageLoopbackChannel`, with `pair`, `sendFrame`, `recvFrame`, `close`.
* `recvFrames` — polls until there is nothing; **`recvFrames_eq`** — which images are taken.
* `Drawn` — every image on the channel was drawn of a frame that was sent; **`Drawn.sendFrames`**,
  **`Drawn.recvFrames`**.

The draws of one send are taken one after the other, with the encoder's work in between.  A frame
that is lost is never encoded, so an encoder that would raise on it does not get to; and the second
draw is made only when the image is in the inbox already.

The degraded image is computed once, and a duplicate is the same image again, not degraded anew.
-/

namespace PhotonTCP

open Qr

/-- What both ends of a pair are made with; what `degrade` does to an image may change from call to
call. -/
structure ImageOptions where
  loss : ℚ := 0
  dup : ℚ := 0
  scale : ℤ := 8
  border : ℤ := 4
  error : ErrorLevel := .m
  degrade : Option (ℕ → Raster → Raster) := none

/-- What the random generator returns during one send, and which of its calls `degrade` makes. -/
structure ImageDraws where
  loss : ℚ
  dup : ℚ
  degrade : ℕ := 0

/-- An end of the channel, with the images in its partner's inbox. -/
structure ImageLoopbackChannel where
  outbox : List Raster := []
  closed : Bool := false
  opts : ImageOptions

namespace ImageOptions

variable (make : SegnoMake) (opts : ImageOptions)

/-- The image of a frame. -/
def encode (frame : Bytes) : Except EncodeError Raster :=
  encodeFrame make frame opts.scale opts.border opts.error

/-- The image as it is transmitted. -/
def degraded (n : ℕ) (image : Raster) : Raster :=
  match opts.degrade with
  | none => image
  | some degrade => degrade n image

end ImageOptions

namespace ImageLoopbackChannel

variable (make : SegnoMake) (decode : Raster → Option Bytes)

/-- Two ends that are made alike. -/
def pair (opts : ImageOptions) : ImageLoopbackChannel × ImageLoopbackChannel := ({ opts }, { opts })

/-- Encode a frame and put the image into the partner's inbox, once or twice, unless it is lost. -/
def sendFrame (c : ImageLoopbackChannel) (d : ImageDraws) (frame : Bytes) :
    Except EncodeError ImageLoopbackChannel :=
  if c.closed then .ok c
  else if d.loss < c.opts.loss then .ok c
  else do
    let image := c.opts.degraded d.degrade (← c.opts.encode make frame)
    let outbox := c.outbox ++ [image]
    return { c with outbox := if d.dup < c.opts.dup then outbox ++ [image] else outbox }

/-- Send frames one after the other. -/
def sendFrames : ImageLoopbackChannel → List (ImageDraws × Bytes) →
    Except EncodeError ImageLoopbackChannel
  | c, [] => .ok c
  | c, (d, frame) :: sends => do sendFrames (← c.sendFrame make d frame) sends

/-- Take the next image out of the inbox, which is the partner's outbox, and decode it. -/
def recvFrame (c partner : ImageLoopbackChannel) : Option Bytes × ImageLoopbackChannel :=
  if c.closed then (none, partner)
  else
    match partner.outbox with
    | [] => (none, partner)
    | image :: rest => (decode image, { partner with outbox := rest })

/-- Close the channel. -/
def close (c : ImageLoopbackChannel) : ImageLoopbackChannel := { c with closed := true }

/-- Poll so many times, or until there is nothing. -/
def recvFrames (c : ImageLoopbackChannel) :
    ℕ → ImageLoopbackChannel → List Bytes × ImageLoopbackChannel
  | 0, partner => ([], partner)
  | polls + 1, partner =>
      match c.recvFrame decode partner with
      | (none, partner) => ([], partner)
      | (some frame, partner) =>
          let (frames, partner) := recvFrames c polls partner
          (frame :: frames, partner)

/-- The frames of the images up to the first that cannot be decoded. -/
def decoded (images : List Raster) : List Bytes :=
  (Generator.upToMissing (images.map decode)).reduceOption

variable {make decode} {c c' partner : ImageLoopbackChannel} {opts : ImageOptions}

/-- **What a send does**: nothing, if the channel is closed or the frame is lost; else it raises
what the encoder raises, or puts the image into the inbox, once or twice. -/
theorem sendFrame_cases (make : SegnoMake) (c : ImageLoopbackChannel) (d : ImageDraws) (frame : Bytes) :
    c.sendFrame make d frame = .ok c ∨
    (∃ e, c.opts.encode make frame = .error e ∧ c.sendFrame make d frame = .error e) ∨
    ∃ drawn copies, c.opts.encode make frame = .ok drawn ∧
      (copies = 1 ∨ copies = 2) ∧ c.sendFrame make d frame =
        .ok { c with outbox := c.outbox ++ List.replicate copies (c.opts.degraded d.degrade drawn) } := by
  rw [sendFrame]
  by_cases hclosed : c.closed = true
  · exact .inl (if_pos hclosed)
  rw [if_neg hclosed]
  by_cases hlost : d.loss < c.opts.loss
  · exact .inl (if_pos hlost)
  rw [if_neg hlost]
  cases c.opts.encode make frame with
  | error e => exact .inr (.inl ⟨e, rfl, rfl⟩)
  | ok drawn =>
      by_cases hdup : d.dup < c.opts.dup
      · refine .inr (.inr ⟨drawn, 2, rfl, .inr rfl, ?_⟩)
        simp [bind, Except.bind, pure, Except.pure, hdup, List.replicate]
      · refine .inr (.inr ⟨drawn, 1, rfl, .inl rfl, ?_⟩)
        simp [bind, Except.bind, pure, Except.pure, hdup]

/-- **The images are taken in the order in which they were put in**, up to the first that cannot be
decoded, which is gone. -/
theorem recvFrames_eq (hopen : c.closed = false) : ∀ (polls : ℕ) (partner : ImageLoopbackChannel),
    c.recvFrames decode polls partner =
      let frames := decoded decode (partner.outbox.take polls)
      (frames, { partner with outbox := partner.outbox.drop (min polls (frames.length + 1)) })
  | 0, partner => rfl
  | polls + 1, partner => by
      rw [recvFrames, recvFrame, if_neg (by simp [hopen])]
      obtain ⟨outbox, closed, opts⟩ := partner
      cases outbox with
      | nil => simp [decoded, Generator.upToMissing, List.reduceOption]
      | cons image rest =>
          cases himage : decode image with
          | none => simp [himage, decoded, Generator.upToMissing, List.reduceOption]
          | some frame =>
              simp only [himage, recvFrames_eq hopen polls]
              simp [himage, decoded, Generator.upToMissing, List.reduceOption, Nat.add_min_add_right]

lemma recvFrames_closed (hclosed : c.closed = true) (polls : ℕ) (partner : ImageLoopbackChannel) :
    c.recvFrames decode polls partner = ([], partner) := by
  cases polls with
  | zero => rfl
  | succ polls => rw [recvFrames, recvFrame, if_pos hclosed]

lemma exists_of_mem_decoded {images : List Raster} {frame : Bytes} (h : frame ∈ decoded decode images) :
    ∃ image ∈ images, decode image = some frame := by
  rw [decoded, List.reduceOption_mem_iff] at h
  exact List.mem_map.mp ((List.takeWhile_prefix _).subset h)

/-! ## What is on a channel

Every image on it is that of a frame which was sent, degraded by one of the calls of `degrade`.
-/

/-- The channel was made with these options, and its images were drawn of frames that were sent. -/
structure Drawn (make : SegnoMake) (opts : ImageOptions) (sent : List Bytes)
    (c : ImageLoopbackChannel) : Prop where
  made : c.opts = opts
  images : ∀ image ∈ c.outbox, ∃ frame ∈ sent, ∃ drawn n, opts.encode make frame = .ok drawn ∧
    opts.degraded n drawn = image

namespace Drawn

variable {sent sent' : List Bytes}

lemma mono (h : Drawn make opts sent c) (hsub : sent ⊆ sent') : Drawn make opts sent' c := by
  refine ⟨h.made, fun image himage => ?_⟩
  obtain ⟨frame, hframe, hdrawn⟩ := h.images image himage
  exact ⟨frame, hsub hframe, hdrawn⟩

/-- One more frame is sent. -/
lemma sendFrame (h : Drawn make opts sent c) {d : ImageDraws} {frame : Bytes}
    (hsend : c.sendFrame make d frame = .ok c') : Drawn make opts (sent ++ [frame]) c' := by
  have hkept := h.mono (List.subset_append_left sent [frame])
  rcases sendFrame_cases make c d frame with hsame | ⟨e, -, herror⟩ | ⟨drawn, copies, hdrawn, -, hput⟩
  · rw [hsame] at hsend
    rwa [← Except.ok.inj hsend]
  · rw [herror] at hsend
    cases hsend
  · rw [hput] at hsend
    obtain rfl := Except.ok.inj hsend
    refine ⟨h.made, fun image himage => ?_⟩
    rcases List.mem_append.mp himage with hold | hnew
    · exact hkept.images image hold
    · rw [h.made] at hdrawn hnew
      exact ⟨frame, by simp, drawn, d.degrade, hdrawn, (List.eq_of_mem_replicate hnew).symm⟩

/-- **Any number of frames is sent.** -/
theorem sendFrames : ∀ {sends : List (ImageDraws × Bytes)} {sent : List Bytes}
    {c c' : ImageLoopbackChannel}, Drawn make opts sent c → c.sendFrames make sends = .ok c' →
    Drawn make opts (sent ++ sends.map Prod.snd) c' := by
  intro sends
  induction sends with
  | nil =>
      intro sent c c' h hsend
      obtain rfl := Except.ok.inj hsend
      exact h.mono (List.subset_append_left _ _)
  | cons s sends ih =>
      intro sent c c' h hsend
      obtain ⟨d, frame⟩ := s
      rw [ImageLoopbackChannel.sendFrames] at hsend
      cases hfirst : c.sendFrame make d frame with
      | error e =>
          rw [hfirst] at hsend
          cases hsend
      | ok middle =>
          rw [hfirst] at hsend
          have hrest := ih (h.sendFrame hfirst) hsend
          rwa [List.append_assoc] at hrest

/-- **Frames that have an image are sent** without anything being raised. -/
theorem sendFrames_ok : ∀ {sends : List (ImageDraws × Bytes)} {sent : List Bytes}
    {c : ImageLoopbackChannel}, Drawn make opts sent c →
    (∀ s ∈ sends, ∃ drawn, opts.encode make s.2 = .ok drawn) →
    ∃ c', c.sendFrames make sends = .ok c' := by
  intro sends
  induction sends with
  | nil => exact fun {_ c} _ _ => ⟨c, rfl⟩
  | cons s sends ih =>
      intro sent c h hsends
      obtain ⟨d, frame⟩ := s
      obtain ⟨⟨drawn, hdrawn⟩, hrest⟩ := List.forall_mem_cons.mp hsends
      obtain ⟨middle, hmiddle⟩ : ∃ middle, c.sendFrame make d frame = .ok middle := by
        rcases sendFrame_cases make c d frame with hsame | ⟨e, hraised, -⟩ | ⟨_, _, -, -, hput⟩
        · exact ⟨_, hsame⟩
        · rw [h.made, hdrawn] at hraised
          cases hraised
        · exact ⟨_, hput⟩
      obtain ⟨c', hc'⟩ := ih (h.sendFrame hmiddle) hrest
      exact ⟨c', by rw [ImageLoopbackChannel.sendFrames, hmiddle]; exact hc'⟩

/-- Images are taken out. -/
theorem recvFrames (h : Drawn make opts sent partner) (c : ImageLoopbackChannel) (polls : ℕ) :
    Drawn make opts sent (c.recvFrames decode polls partner).2 ∧
      ∀ frame ∈ (c.recvFrames decode polls partner).1,
        ∃ image ∈ partner.outbox, decode image = some frame := by
  cases hclosed : c.closed with
  | true =>
      rw [recvFrames_closed hclosed]
      exact ⟨h, by simp⟩
  | false =>
      rw [recvFrames_eq hclosed]
      refine ⟨⟨h.made, fun image himage => h.images image (List.drop_subset _ _ himage)⟩, ?_⟩
      intro frame hframe
      obtain ⟨image, himage, hdecode⟩ := exists_of_mem_decoded hframe
      exact ⟨image, List.take_subset _ _ himage, hdecode⟩

lemma close (h : Drawn make opts sent c) : Drawn make opts sent c.close := ⟨h.made, h.images⟩

/-- Nothing is on a new channel. -/
lemma pair (make : SegnoMake) (opts : ImageOptions) :
    Drawn make opts [] (ImageLoopbackChannel.pair opts).1 ∧
      Drawn make opts [] (ImageLoopbackChannel.pair opts).2 :=
  ⟨⟨rfl, fun _ himage => absurd himage List.not_mem_nil⟩,
    ⟨rfl, fun _ himage => absurd himage List.not_mem_nil⟩⟩

end Drawn

end ImageLoopbackChannel

end PhotonTCP
