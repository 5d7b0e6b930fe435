import PhotonTCP.Channel.ImageLoopback
import PhotonTCP.Session.FrameSize
import PhotonTCP.Session.Loopback

/-!
# Two sessions over a pair of image channels

Each session writes to its end of the pair, where its frames become QR images, and its cycles get
the frames that are decoded of the partner's images.  Images are lost, duplicated and degraded, and
a degraded image may not be decoded; the random generator is left free.

* `ImageEnd`, `ImageLink`, `ImageLink.system` — the ends, and the link; a run ends where an encoder
  raises.
* `ImageLinked`, **`ImageLinked.called`** — the invariant, and that a call at either end keeps it
  and raises nothing.
* `ImageOptions.Codes` — every frame of the sessions has an image, and of an image that frame is
  decoded or nothing; **`codes_of_legible`** — what segno and the detectors have to do for that.
* **`image_link_delivers`** — when a header with the longest payload fits the largest symbol,
  nothing is raised, and what is received is a prefix of what was sent, in both directions.

The codec can fail in two ways, and they are not alike.  If an image cannot be decoded, or not any
more after it was degraded, its frame is lost, and the layers above make up for it.  If a frame is
too long for one symbol the encoder raises, out of `send_frame` and out of the session's operation
with it, and no retransmission helps, since the frame will be as long the next time.  So the payload
limit has to be small enough for the symbol; the condition compares the two, and under it nothing is
raised.

Segno and the detectors are parameters.  What is asked of segno is that it makes a symbol of base64
text that is not too long, and of the detectors that they report no text but that of the symbol.
They may well report nothing: a condition that every image can be read would exclude all that this
channel is meant to try out.
-/

namespace PhotonTCP

open Raising Qr

/-! ## The link

A cycle polls until there is nothing more, or until an image cannot be decoded, which looks the same
to it.
-/

/-- An end of a stream over its channel. -/
structure ImageEnd where
  stream : StreamEnd
  channel : ImageLoopbackChannel

variable (make : SegnoMake) (decode : Raster → Option Bytes) (k : ℤ)

/-- The session is called.  It polls the partner's channel so many times, and writes to its own. -/
def ImageEnd.called (x y : ImageEnd) (call : SessionCall) (polls : ℕ) (draws : ℕ → ImageDraws) :
    Except EncodeError (ImageEnd × ImageEnd) := do
  let frames := x.stream.session.newFrames zlibCrc32 call
  let channel ← x.channel.sendFrames make (frames.zipIdx.map fun f => (draws f.2, f.1))
  return ({ stream := x.stream.called zlibCrc32 k call, channel },
    { y with channel := (x.channel.recvFrames decode polls y.channel).2 })

/-- Two ends, and what was raised. -/
structure ImageLink where
  a : ImageEnd
  b : ImageEnd
  raised : Option EncodeError := none

/-- Either end is called, or closes its channel. -/
inductive ImageAction where
  | callA (call : SessionCall) (polls : ℕ) (draws : ℕ → ImageDraws)
  | callB (call : SessionCall) (polls : ℕ) (draws : ℕ → ImageDraws)
  | closeA
  | closeB

namespace ImageLink

/-- Two sessions over a new pair. -/
def start (a b : Session) (opts : ImageOptions) : ImageLink where
  a := ⟨{ session := a }, (ImageLoopbackChannel.pair opts).1⟩
  b := ⟨{ session := b }, (ImageLoopbackChannel.pair opts).2⟩

/-- A cycle gets what its channel returns. -/
def enabled (c : ImageLink) : ImageAction → Prop
  | .callA call polls _ => c.raised = none ∧
      call.arrived = (c.a.channel.recvFrames decode polls c.b.channel).1
  | .callB call polls _ => c.raised = none ∧
      call.arrived = (c.b.channel.recvFrames decode polls c.a.channel).1
  | .closeA | .closeB => c.raised = none

/-- One step; what an encoder raises ends the run. -/
def next (c : ImageLink) : ImageAction → ImageLink
  | .callA call polls draws =>
      match c.a.called make decode k c.b call polls draws with
      | .ok (a, b) => { c with a, b }
      | .error e => { c with raised := some e }
  | .callB call polls draws =>
      match c.b.called make decode k c.a call polls draws with
      | .ok (b, a) => { c with a, b }
      | .error e => { c with raised := some e }
  | .closeA => { c with a := { c.a with channel := c.a.channel.close } }
  | .closeB => { c with b := { c.b with channel := c.b.channel.close } }

/-- The link as a transition system. -/
def system : Transition ImageLink ImageAction := ⟨enabled decode, next make decode k⟩

/-- Nothing is sent past a queue, and fewer than `2 ^ 31` bytes are sent. -/
def Orderly (c : ImageLink) : ImageAction → Prop
  | .callA call _ _ => c.a.stream.session.InTurn k call ∧
      (c.a.stream.called zlibCrc32 k call).sent.flatten.length < 2 ^ 31
  | .callB call _ _ => c.b.stream.session.InTurn k call ∧
      (c.b.stream.called zlibCrc32 k call).sent.flatten.length < 2 ^ 31
  | .closeA | .closeB => True

instance (c : ImageLink) : (act : ImageAction) → Decidable ((system make decode k).enabled c act)
  | .callA _ _ _ | .callB _ _ _ => inferInstanceAs (Decidable (_ ∧ _))
  | .closeA | .closeB => inferInstanceAs (Decidable (_ = _))

instance (c : ImageLink) : (act : ImageAction) → Decidable (c.Orderly k act)
  | .callA _ _ _ | .callB _ _ _ => inferInstanceAs (Decidable (_ ∧ _))
  | .closeA | .closeB => isTrue trivial

end ImageLink

/-! ## The invariant

With what is needed of the codec gathered in `Codes`, for frames up to a limit.
-/

/-- Headers with no more than so much behind them have an image, and of an image the frame is
decoded or nothing. -/
structure ImageOptions.Codes (opts : ImageOptions) (make : SegnoMake) (decode : Raster → Option Bytes)
    (limit : ℕ) : Prop where
  drawable : ∀ frame : Bytes, HEADER_SIZE ≤ frame.length → frame.length ≤ HEADER_SIZE + limit →
    ∃ drawn, opts.encode make frame = .ok drawn
  readable : ∀ frame drawn n frame', opts.encode make frame = .ok drawn →
    decode (opts.degraded n drawn) = some frame' → frame' = frame

/-- What an end has put on its channel. -/
structure ImageEnd.Puts (make : SegnoMake) (opts : ImageOptions) (limit : ℕ) (x : ImageEnd) : Prop where
  brief : x.stream.session.Brief limit
  drawn : ImageLoopbackChannel.Drawn make opts x.stream.session.transmitted x.channel

/-- The stream is carried both ways, and the channels hold images of what was written. -/
structure ImageLinked (make : SegnoMake) (opts : ImageOptions) (limit : ℕ) (k : ℤ) (x y : ImageEnd) :
    Prop where
  duplex : Duplex zlibCrc32 k x.stream y.stream
  puts : x.Puts make opts limit ∧ y.Puts make opts limit

namespace ImageLinked

variable {make decode k} {opts : ImageOptions} {limit : ℕ} {x y : ImageEnd}

lemma symm (h : ImageLinked make opts limit k x y) : ImageLinked make opts limit k y x :=
  ⟨h.duplex.symm, h.puts.symm⟩

/-- **An end is called**: nothing is raised, and the invariant is kept. -/
theorem called (h : ImageLinked make opts limit k x y) (hcodes : opts.Codes make decode limit)
    (hk : k ≠ 0) {call : SessionCall} {polls : ℕ} (draws : ℕ → ImageDraws)
    (harrived : call.arrived = (x.channel.recvFrames decode polls y.channel).1)
    (hturn : x.stream.session.InTurn k call)
    (hbound : (x.stream.called zlibCrc32 k call).sent.flatten.length < 2 ^ 31) :
    ∃ x' y', x.called make decode k y call polls draws = .ok (x', y') ∧
      ImageLinked make opts limit k x' y' := by
  obtain ⟨hbrief, hdrawn⟩ := h.puts.1
  obtain ⟨hleft, hgot⟩ : ImageLoopbackChannel.Drawn make opts y.stream.session.transmitted
      (x.channel.recvFrames decode polls y.channel).2 ∧ _ := h.puts.2.drawn.recvFrames x.channel polls
  have hbrief' : (x.stream.session.called zlibCrc32 call).Brief limit := hbrief.called call
  have htransmitted : (x.stream.session.called zlibCrc32 call).transmitted
      = x.stream.session.transmitted ++ x.stream.session.newFrames zlibCrc32 call :=
    x.stream.session.transmitted_called call
  obtain ⟨sends, hsends⟩ : ∃ sends : List (ImageDraws × Bytes),
      sends = (x.stream.session.newFrames zlibCrc32 call).zipIdx.map fun f => (draws f.2, f.1) :=
    ⟨_, rfl⟩
  have hframes : sends.map Prod.snd = x.stream.session.newFrames zlibCrc32 call := by
    rw [hsends, List.map_map]
    exact List.zipIdx_map_fst _ _
  -- every frame that is written is short enough
  obtain ⟨channel, hchannel⟩ : ∃ channel, x.channel.sendFrames make sends = .ok channel := by
    refine hdrawn.sendFrames_ok fun s hs => ?_
    have hmem : s.2 ∈ (x.stream.session.called zlibCrc32 call).transmitted := by
      rw [htransmitted, ← hframes]
      exact List.mem_append_right _ (List.mem_map_of_mem hs)
    obtain ⟨hlong, hshort⟩ := hbrief'.transmitted s.2 hmem
    exact hcodes.drawable s.2 hlong hshort
  have hdrawn' := hdrawn.sendFrames hchannel
  rw [hframes, ← htransmitted] at hdrawn'
  rw [hsends] at hchannel
  refine ⟨{ stream := x.stream.called zlibCrc32 k call, channel },
    { y with channel := (x.channel.recvFrames decode polls y.channel).2 },
    by rw [ImageEnd.called, hchannel]; rfl, ?_, ⟨hbrief', hdrawn'⟩, ⟨h.puts.2.brief, hleft⟩⟩
  cases call with
  | pump maxFrames frames now now' =>
      refine h.duplex.pumped hk maxFrames (fun f hf pkt hunpack => ?_) now now'
      rw [← harrived] at hgot
      obtain ⟨image, himage, hdecode⟩ := hgot f.1 (List.mem_map_of_mem hf)
      -- what is decoded is the frame that the image was drawn of
      obtain ⟨frame, hframe, drawn, n, hencode, rfl⟩ := h.puts.2.drawn.images image himage
      rw [hcodes.readable frame drawn n f.1 hencode hdecode] at hunpack
      exact ⟨frame, hframe, hunpack⟩
  | _ => exact h.duplex.called hk trivial hturn hbound

lemma close (h : ImageLinked make opts limit k x y) :
    ImageLinked make opts limit k { x with channel := x.channel.close } y :=
  ⟨h.duplex, ⟨h.puts.1.brief, h.puts.1.drawn.close⟩, h.puts.2⟩

/-- **Every step keeps the invariant**, and nothing is raised. -/
theorem next {c : ImageLink} (hlinked : ImageLinked make opts limit k c.a c.b)
    (hcodes : opts.Codes make decode limit) (hk : k ≠ 0) {act : ImageAction}
    (he : c.enabled decode act) (hok : c.Orderly k act) :
    (c.next make decode k act).raised = none ∧
      ImageLinked make opts limit k (c.next make decode k act).a (c.next make decode k act).b := by
  cases act with
  | callA call polls draws =>
      obtain ⟨a', b', hcalled, hlinked'⟩ := hlinked.called hcodes hk draws he.2 hok.1 hok.2
      rw [ImageLink.next, hcalled]
      exact ⟨he.1, hlinked'⟩
  | callB call polls draws =>
      obtain ⟨b', a', hcalled, hlinked'⟩ := hlinked.symm.called hcodes hk draws he.2 hok.1 hok.2
      rw [ImageLink.next, hcalled]
      exact ⟨he.1, hlinked'.symm⟩
  | closeA => exact ⟨he, hlinked.close⟩
  | closeB => exact ⟨he, hlinked.symm.close.symm⟩

/-- Two new sessions over a new pair. -/
theorem start {a b : Session} {isInitiator isInitiator' : Bool} (ha : a.New isInitiator)
    (hb : b.New isInitiator') (hwindow : a.mux.windowSize < 65536)
    (hwindow' : b.mux.windowSize < 65536) (opts : ImageOptions)
    (hlimit : a.mux.maxPayload.toNat ≤ limit) (hlimit' : b.mux.maxPayload.toNat ≤ limit) :
    ImageLinked make opts limit k (ImageLink.start a b opts).a (ImageLink.start a b opts).b := by
  obtain ⟨hdrawnA, hdrawnB⟩ := ImageLoopbackChannel.Drawn.pair make opts
  exact ⟨Duplex.start ha hb hwindow hwindow',
    ⟨(Session.Brief.new ha).mono hlimit, hdrawnA.mono (List.nil_subset _)⟩,
    ⟨(Session.Brief.new hb).mono hlimit', hdrawnB.mono (List.nil_subset _)⟩⟩

end ImageLinked

/-! ## Delivery

First what the parameters have to do, and then the result for whole runs.
-/

/-- The options that segno and the detectors can do with.  Segno is only ever given base64. -/
theorem codes_of_legible {make : SegnoMake} {opts : ImageOptions} {cv2 : Cv2 Raster}
    {detector : Detector Raster} {alt : Option (AltDetector Raster)} {limit : ℕ}
    (hscale : 1 ≤ opts.scale) (hborder : 0 ≤ opts.border)
    (hmake : ∀ data : Bytes, data ≠ [] → (b64encode data).length ≤ opts.error.capacity →
      ∃ qr, make (b64encode data) opts.error = .ok qr)
    (hlimit : 4 * ((HEADER_SIZE + limit + 2) / 3) ≤ opts.error.capacity)
    (hlegible : ∀ frame drawn n, opts.encode make frame = .ok drawn →
      Legible cv2 detector alt (b64encode frame) (opts.degraded n drawn)) :
    opts.Codes make (decodeFrame cv2 b64decode detector alt) limit where
  drawable frame hlong hshort := by
    have hframe : frame ≠ [] := by
      rintro rfl
      exact absurd hlong (by decide)
    have hcapacity : (b64encode frame).length ≤ opts.error.capacity := by
      rw [length_b64encode]
      refine le_trans (Nat.mul_le_mul_left 4 (Nat.div_le_div_right ?_)) hlimit
      omega
    obtain ⟨qr, hqr⟩ := hmake frame hframe hcapacity
    exact ⟨_, encodeFrame_eq_ok_iff.mpr ⟨hscale, hborder, qr, hqr, rfl⟩⟩
  readable _ _ _ _ hencode hdecode := decodeFrame_of_legible (hlegible _ _ _ hencode) hdecode

/-- **Over a pair of image channels data arrives in order, exactly once and uncorrupted.**  Let
segno make a symbol of the base64 of any bytes, as long as it fits the largest one, and a header
with the longest payload fits it too; let the detectors report nothing but the text of the symbol,
however the images are degraded.  Then along every run in which nothing is sent past a queue, and
fewer than `2 ^ 31` bytes at either end, no encoder raises, whatever the random generator returns,
and what either session has received on the stream is a prefix of what the other one has sent. -/
theorem image_link_delivers {make : SegnoMake} {opts : ImageOptions} {cv2 : Cv2 Raster}
    {detector : Detector Raster} {alt : Option (AltDetector Raster)} {k : ℤ} (hk : k ≠ 0)
    {a b : Session} {isInitiator isInitiator' : Bool} (ha : a.New isInitiator) (hb : b.New isInitiator')
    (hwindow : a.mux.windowSize < 65536) (hwindow' : b.mux.windowSize < 65536)
    (hscale : 1 ≤ opts.scale) (hborder : 0 ≤ opts.border)
    (hmake : ∀ data : Bytes, data ≠ [] → (b64encode data).length ≤ opts.error.capacity →
      ∃ qr, make (b64encode data) opts.error = .ok qr)
    (hlimit : 4 * ((HEADER_SIZE + max a.mux.maxPayload.toNat b.mux.maxPayload.toNat + 2) / 3) ≤
      opts.error.capacity)
    (hlegible : ∀ frame drawn n, opts.encode make frame = .ok drawn →
      Legible cv2 detector alt (b64encode frame) (opts.degraded n drawn)) {c : ImageLink}
    (h : (ImageLink.system make (decodeFrame cv2 b64decode detector alt) k).Reach (ImageLink.Orderly k)
      (.start a b opts) c) :
    c.raised = none ∧
    ((c.b.stream.received k).flatten <+: c.a.stream.sent.flatten ∧
      c.a.stream.session.ackedBytes k ≤ (c.b.stream.received k).flatten.length) ∧
    (c.a.stream.received k).flatten <+: c.b.stream.sent.flatten ∧
      c.b.stream.session.ackedBytes k ≤ (c.a.stream.received k).flatten.length := by
  have hcodes := codes_of_legible hscale hborder hmake hlimit hlegible
  obtain ⟨hraised, hlinked⟩ := h.invariant
    (I := fun c => c.raised = none ∧ ImageLinked make opts _ k c.a c.b)
    ⟨rfl, ImageLinked.start ha hb hwindow hwindow' opts (le_max_left _ _) (le_max_right _ _)⟩
    fun _ _ hlinked he hok => hlinked.2.next hcodes hk he hok
  exact ⟨hraised, ⟨hlinked.duplex.received_prefix, hlinked.duplex.ackedBytes_le⟩,
    hlinked.duplex.symm.received_prefix, hlinked.duplex.symm.ackedBytes_le⟩

/-! ### A byte over images

A concrete codec.  Symbols are given for the frames that the run transmits, the detector looks an
image up among them, and the image operations leave black and white as they are.
-/

open LoopbackLink (syn synAck handshakeAck byteData byteAck cycle)

namespace ImageLink

/-- The symbol of a text, where only some are known. -/
def symbolOf (known : List (String × Symbol)) (text : String) : Symbol :=
  match known.find? fun s => s.1 = text with
  | some s => s.2
  | none => Symbol.ofRows []

/-- It makes the symbols that are known. -/
def drawing (known : List (String × Symbol)) : SegnoMake := fun text _ => .ok (symbolOf known text)

/-- Images that are black and white already stay as they are, when they are binarized or sharpened.
-/
def blackAndWhite : Cv2 Raster where
  ndim _ := 2
  cvtColor image := .ok image
  threshold image := .ok image
  filter2D image := .ok image
  resize image factor := .ok (image.kron (Grid.full factor.num.toNat factor.num.toNat 1))

/-- The text of a symbol that is found with its quiet zone. -/
def textOf (known : List (String × Symbol)) (image : Raster) : String :=
  match known.find? fun s => sample (image.length / 37) 4 image = s.2.matrix with
  | some s => s.1
  | none => ""

/-- It reports the text of the symbol, and nothing if it does not know it. -/
def finds (known : List (String × Symbol)) : Detector Raster := fun image =>
  .ok ⟨textOf known image, some []⟩

/-- Losses and duplicates, and the smallest images. -/
def noisyOptions : ImageOptions where
  loss := 1 / 2
  dup := 1 / 2
  scale := 1

/-- Symbols of version 3, no two of which are the same. -/
def Distinct (known : List (String × Symbol)) : Prop :=
  ∀ s ∈ known, s.2.matrix.length = 29 ∧ ∀ s' ∈ known, s.2.matrix = s'.2.matrix → s.1 = s'.1

instance (known : List (String × Symbol)) : Decidable (Distinct known) :=
  inferInstanceAs (Decidable (∀ s ∈ known, _ ∧ ∀ s' ∈ known, _))

section Legible

variable {known : List (String × Symbol)}

lemma length_picture (scale : ℕ) (qr : Symbol) :
    (picture scale 4 qr).length = (qr.matrix.length + 2 * 4) * scale :=
  (congrArg List.length (picture_eq scale 4 qr)).trans (Grid.length_table _ _ _)

/-- What the detector reports is a text whose symbol is found. -/
lemma exists_of_reported {image : Raster} {t : String} (h : t ∈ reported (finds known) image) :
    ∃ s ∈ known, sample (image.length / 37) 4 image = s.2.matrix ∧ t = s.1 := by
  rw [reported, finds] at h
  by_cases hempty : textOf known image = ""
  · simp [Detection.texts, hempty] at h
  · obtain rfl : t = textOf known image := by simpa [Detection.texts, hempty] using h
    rw [textOf] at hempty ⊢
    cases hread : known.find? fun s => sample (image.length / 37) 4 image = s.2.matrix with
    | none =>
        rw [hread] at hempty
        exact absurd rfl hempty
    | some s =>
        have hsample := List.find?_some hread
        exact ⟨s, List.mem_of_find?_eq_some hread, of_decide_eq_true hsample, rfl⟩

/-- The detector reads a symbol in an image of any of these scales. -/
lemma reported_finds (hknown : Distinct known) {scale : ℕ} (hpos : 0 < scale) (hscale : scale ≤ 3)
    {text t : String} (h : t ∈ reported (finds known) (picture scale 4 (symbolOf known text))) :
    t = text := by
  obtain ⟨s', hs', hsample, rfl⟩ := exists_of_reported h
  obtain ⟨hrows', -⟩ := hknown s' hs'
  rw [symbolOf] at hsample
  cases hfound : known.find? fun s => s.1 = text with
  | some s =>
      rw [hfound] at hsample
      have htext := List.find?_some hfound
      obtain ⟨hrows, hdistinct⟩ := hknown s (List.mem_of_find?_eq_some hfound)
      have hscale' : (picture scale 4 s.2).length / 37 = scale := by
        rw [length_picture, hrows]
        exact Nat.mul_div_cancel_left _ (by norm_num)
      rw [hscale', sample_picture hpos] at hsample
      exact (hdistinct s' hs' hsample).symm.trans (of_decide_eq_true htext)
  | none =>
      -- a symbol without modules
      rw [hfound] at hsample
      have hscale' : (picture scale 4 (Symbol.ofRows [])).length / 37 = 0 := by
        rw [length_picture]
        exact Nat.div_eq_of_lt (by show (0 + 2 * 4) * scale < 37; omega)
      rw [hscale', sample, Nat.div_zero] at hsample
      have hnone := congrArg List.length hsample
      rw [Grid.length_table, hrows'] at hnone
      cases hnone

/-- The variants of a drawn image are the image, larger or not. -/
lemma exists_of_mem_variants {qr : Symbol} {v : Raster}
    (h : some v ∈ variants blackAndWhite (picture 1 4 qr)) :
    ∃ scale, 0 < scale ∧ scale ≤ 3 ∧ v = picture scale 4 qr := by
  have hlarger : ∀ factor : ℕ, (picture 1 4 qr).kron (Grid.full factor factor 1) =
      picture factor 4 qr := fun factor => by rw [kron_picture, Nat.one_mul]
  simp only [variants, blackAndWhite, UPSCALE_FACTORS, Except.toOption, Option.bind_some,
    List.flatMap_cons, List.flatMap_nil, List.map_cons, List.map_nil, List.cons_append,
    List.nil_append, List.append_nil, List.mem_cons, Option.some.injEq, List.not_mem_nil, or_false] at h
  rcases h with rfl | rfl | rfl | rfl | rfl | rfl | rfl
  · exact ⟨1, by norm_num, by norm_num, rfl⟩
  · exact ⟨1, by norm_num, by norm_num, rfl⟩
  · exact ⟨1, by norm_num, by norm_num, rfl⟩
  · exact ⟨2, by norm_num, by norm_num, hlarger 2⟩
  · exact ⟨3, by norm_num, by norm_num, hlarger 3⟩
  · exact ⟨2, by norm_num, by norm_num, hlarger 2⟩
  · exact ⟨3, by norm_num, by norm_num, hlarger 3⟩

lemma gray_blackAndWhite (image : Raster) : blackAndWhite.gray image = .ok image := rfl

lemma degraded_noisyOptions (n : ℕ) (qr : Symbol) : noisyOptions.degraded n
    (picture noisyOptions.scale.toNat noisyOptions.border.toNat qr) = picture 1 4 qr := rfl

/-- The detector reports nothing but the text of the symbol. -/
lemma legible_noisyOptions (hknown : Distinct known) {frame : Bytes} {drawn : Raster} {n : ℕ}
    (h : noisyOptions.encode (drawing known) frame = .ok drawn) :
    Legible blackAndWhite (finds known) none (b64encode frame) (noisyOptions.degraded n drawn) := by
  obtain ⟨-, -, qr, hqr, rfl⟩ := encodeFrame_eq_ok_iff.mp h
  obtain rfl : symbolOf known (b64encode frame) = qr := Except.ok.inj hqr
  rw [degraded_noisyOptions]
  refine ⟨fun gray hgray v hv t ht => ?_, fun _ _ _ _ a ha => by cases ha⟩
  rw [gray_blackAndWhite] at hgray
  rw [← Except.ok.inj hgray] at hv
  obtain ⟨scale, hpos, hscale, rfl⟩ := exists_of_mem_variants hv
  exact .inr (reported_finds hknown hpos hscale ht)

end Legible

/-- The symbols of the frames that are transmitted: segno raises the level, to Q, as far as version
3 allows. -/
def symbols : List (String × Symbol) :=
  [("AQABAAcAAAAD6AAAAAAAAAAAs7Pt/Q==", .ofRows
      [0x1fc7087f, 0x104dd041, 0x1745eb5d, 0x175d345d, 0x17412e5d, 0x105bc541, 0x1fd5557f,
        0x1d1000, 0xc4fd668, 0xcbaf122, 0xfe5ad5, 0x1ab3538a, 0x8d9f77f, 0x587fd60, 0x13c532d5,
        0xcb6148a, 0xaccfa7f, 0x31d0620, 0x187262d5, 0x70752c8, 0x1f709bff, 0x1c5110, 0x1fc7ef55,
        0x1043071a, 0x174927ff, 0x174c6681, 0x1756afd7, 0x10579718, 0x1fc0d97d]),
    ("AQEDAAcAAAATiAAAA+kAAAAA80Rybg==", .ofRows
      [0x1fdc427f, 0x10435841, 0x175fba5d, 0x17504e5d, 0x1746fa5d, 0x105cd241, 0x1fd5557f,
        0x166c00, 0xaf1d1ed, 0x1ba3eb8c, 0x19dd4332, 0x436a304, 0xf6519d1, 0x14908982, 0xe679559,
        0x1239ba20, 0x13ed6a9c, 0x5a5e9aa, 0x17f1057b, 0x6beac2b, 0x14dcfbf1, 0x123b12, 0x1fd95b56,
        0x105d2514, 0x17480df5, 0x1756de62, 0x17414c59, 0x105efda2, 0x1fcf63be]),
    ("AQICAAcAAAAD6QAAE4kAAAAAIyf0MA==", .ofRows
      [0x1fcd427f, 0x105e2941, 0x1753055d, 0x1740305d, 0x1741885d, 0x104e9341, 0x1fd5557f, 0x3900,
        0xecfa606, 0x1a3ba7b8, 0x164fcc06, 0x159b62c3, 0x3e4de16, 0x1aa76447, 0xe6b5761,
        0x18aa0018, 0x8d0eca6, 0xdb6516d, 0x1678b9bc, 0x33759ec, 0xdc4b5f9, 0x1b3116, 0x1fc9595e,
        0x105cd513, 0x174abdf2, 0x175d6fa5, 0x17514261, 0x105cb0aa, 0x1fc6efa6]),
    ("AQMAAAcBAAAAAAAAAAAAIAABnFYmXyo=", .ofRows
      [0x1fcc6c7f, 0x104ea141, 0x1740cb5d, 0x1750565d, 0x174a965d, 0x1059a541, 0x1fd5557f,
        0x1ab400, 0xc4d7a68, 0x132c4522, 0x1d667fd5, 0x1505878a, 0x6e0db7f, 0x8b36960, 0x8d33ed5,
        0x10f908a, 0x13f9737f, 0xa060520, 0x1850afd5, 0x72457d8, 0x1a5899ff, 0x16991c, 0x1fcfaf55,
        0x104e071a, 0x174163ff, 0x1744e181, 0x17512fd7, 0x10567528, 0x1fca59bd]),
    ("AQIAAAcBAAAAAAAAAAEAIAAA5Ys4pQ==", .ofRows
      [0x1fd8537f, 0x10419941, 0x17525a5d, 0x17554e5d, 0x1747665d, 0x10571641, 0x1fd5557f,
        0x1fe800, 0xaf2e1ed, 0x1c9f9d88, 0x114a6636, 0x182ac704, 0x1ddab3d5, 0x7ae2983, 0x1f7ad5b,
        0x1e91ca20, 0x9dd829c, 0xc99e6a6, 0x14e3047f, 0x32b6d3b, 0x11caf9f1, 0x1b7b1e, 0x1fd95756,
        0x105f6514, 0x1745cdf5, 0x175c5d62, 0x1747cc59, 0x10597d82, 0x1fc9639e])]

/-- No noise. -/
def quiet : ImageDraws := { loss := 1, dup := 1 }
/-- The frame is lost. -/
def losing : ImageDraws := { loss := 0, dup := 1 }
/-- The image is put into the inbox twice. -/
def duplicating : ImageDraws := { loss := 1, dup := 0 }

/-- The first SYN is lost, and the byte is duplicated. -/
def noisyRun : List ImageAction :=
  [.callA (.connect 0) 0 fun _ => losing, .callA (cycle [] 1) 1 fun _ => quiet,
    .callB (cycle [syn] 1) 2 fun _ => quiet, .callA (cycle [synAck] 1) 2 fun _ => quiet,
    .callB (cycle [handshakeAck] 1) 2 fun _ => quiet,
    .callA (.sendOn 1 [42] 1) 0 fun _ => duplicating,
    .callB (cycle [byteData, byteData] 1) 3 fun _ => quiet,
    .callA (cycle [byteAck] 1) 1 fun _ => quiet, .closeB]

lemma distinct_symbols : Distinct symbols := by
  decide +kernel

end ImageLink

open ImageLink in
/-- The byte is sent and acknowledged, and no encoder has raised. -/
theorem image_link_delivers_noisyRun : ∃ c : ImageLink, c.a.stream.sent = [[42]] ∧
    c.a.stream.session.ackedBytes 1 = 1 ∧ c.raised = none ∧
    ((c.b.stream.received 1).flatten <+: c.a.stream.sent.flatten ∧
      c.a.stream.session.ackedBytes 1 ≤ (c.b.stream.received 1).flatten.length) ∧
    (c.a.stream.received 1).flatten <+: c.b.stream.sent.flatten ∧
      c.b.stream.session.ackedBytes 1 ≤ (c.a.stream.received 1).flatten.length := by
  obtain ⟨c, hrun, hsent, hacked⟩ := (system (drawing symbols)
    (decodeFrame blackAndWhite b64decode (finds symbols) none) 1).exists_reach_of_exec (Orderly 1)
    noisyRun (.start (Session.create true 7 1000) (Session.create false 0 5000) noisyOptions)
    (fun c => c.a.stream.sent = [[42]] ∧ c.a.stream.session.ackedBytes 1 = 1) (by decide +kernel)
  exact ⟨c, hsent, hacked, image_link_delivers (by decide)
    ⟨⟨by decide, by decide⟩, 7, 1000, _, _, _, _, _, _, _, rfl⟩
    ⟨⟨by decide, by decide⟩, 0, 5000, _, _, _, _, _, _, _, rfl⟩ (by decide) (by decide) (by decide)
    (by decide) (fun data _ _ => ⟨_, rfl⟩) (by decide)
    (fun _ _ _ hencode => legible_noisyOptions distinct_symbols hencode) hrun⟩

end PhotonTCP
