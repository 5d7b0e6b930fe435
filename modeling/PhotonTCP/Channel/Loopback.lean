import PhotonTCP.Packet.Corruption

/-!
# The loopback channel and its noise

One end of the in-memory channel, as seen by the peer that sends: the frames it has put into its
partner's inbox, the one frame it may be holding back, and the noise profile.  The random generator
is a parameter of each send, `Draws`, so a statement about all draws is a statement about all seeds.

* `LoopbackChannel.corruptFrame` — `_corrupt`, and `substituted_corruptFrame`: it really changes one
  byte.
* `LoopbackChannel.sendFrame` — loss, corruption, duplication and the one-slot delay, in this order.
* **`refused_or_sent`** — along any sequence of sends, every frame the channel ever passes on is
  one of the frames sent, or is refused by `unpack`.

A corrupted frame is not passed on unnoticed, and that is not the channel's merit.  The channel
changes one byte, with a mask that is never zero, and the checksum detects any change of one byte.
An empty frame cannot be corrupted, but no encoding is empty.  So of all the noise only loss,
duplication and delay are left to the layers above.
-/

namespace PhotonTCP

open CyclicCode

/-- What the random generator returns during one send. -/
structure Draws where
  loss : ℚ
  corrupt : ℚ
  dup : ℚ
  /-- One draw for each of the at most two survivors. -/
  reorder : ℚ × ℚ
  randrange : ∀ {n : ℕ}, 0 < n → Fin n
  /-- `randint(1, 255)`. -/
  mask : {m : UInt8 // m ≠ 0}

/-- The sending end of a channel. -/
structure LoopbackChannel where
  outbox : List Bytes := []
  reorderHeld : Option Bytes := none
  closed : Bool := false
  loss : ℚ := 0
  dup : ℚ := 0
  corrupt : ℚ := 0
  reorder : ℚ := 0

namespace LoopbackChannel

/-- `frame` with one random byte flipped, or an empty frame unchanged. -/
def corruptFrame (d : Draws) (frame : Bytes) : Bytes :=
  if h : frame = [] then frame
  else frame.modify (d.randrange (List.length_pos_iff.mpr h)) (· ^^^ d.mask.val)

/-- The copies of `frame` that survive the transmission. -/
def survivors (c : LoopbackChannel) (d : Draws) (frame : Bytes) : List Bytes :=
  if d.loss < c.loss then []
  else
    let f := if d.corrupt < c.corrupt then corruptFrame d frame else frame
    if d.dup < c.dup then [f, f] else [f]

/-- Pass one survivor through the one-slot delay buffer. -/
def delay (reorder : ℚ) (emit : List Bytes) (held : Option Bytes) (f : Bytes) (draw : ℚ) :
    List Bytes × Option Bytes :=
  if draw < reorder then (emit ++ held.toList, some f)
  else (emit ++ held.toList ++ [f], none)

/-- Apply the noise profile and put what survives into the partner's inbox. -/
def sendFrame (c : LoopbackChannel) (d : Draws) (frame : Bytes) : LoopbackChannel :=
  if c.closed then c
  else
    let (emit, held) := ((c.survivors d frame).zip [d.reorder.1, d.reorder.2]).foldl
      (fun s f => delay c.reorder s.1 s.2 f.1 f.2) ([], c.reorderHeld)
    { c with outbox := c.outbox ++ emit, reorderHeld := held }

/-- Send frames one after the other. -/
def sendFrames (c : LoopbackChannel) (sends : List (Draws × Bytes)) : LoopbackChannel :=
  sends.foldl (fun c s => c.sendFrame s.1 s.2) c

/-- The frames the channel has passed on or still holds. -/
def frames (c : LoopbackChannel) : List Bytes := c.outbox ++ c.reorderHeld.toList

/-! ## Corruption changes one byte

The position is reduced modulo the length, and the mask is a byte between 1 and 255.
-/

lemma xor_mask_ne (b : UInt8) (m : {m : UInt8 // m ≠ 0}) : b ≠ b ^^^ m.val := by
  intro h
  have hm := congrArg (b ^^^ ·) h
  simp only [UInt8.xor_self, ← UInt8.xor_assoc, UInt8.zero_xor] at hm
  exact m.property hm.symm

/-- Flipping the byte at a position is a substitution. -/
lemma substituted_modify {frame : Bytes} {i : ℕ} (hi : i < frame.length)
    (m : {m : UInt8 // m ≠ 0}) : Substituted frame (frame.modify i (· ^^^ m.val)) := by
  refine ⟨frame.take i, frame[i], frame[i] ^^^ m.val, frame.drop (i + 1), xor_mask_ne _ m, ?_, ?_⟩
  · rw [← List.drop_eq_getElem_cons hi, List.take_append_drop]
  · rw [List.modify_eq_take_drop, List.drop_eq_getElem_cons hi]
    rfl

lemma substituted_corruptFrame {frame : Bytes} (h : frame ≠ []) (d : Draws) :
    Substituted frame (corruptFrame d frame) := by
  rw [corruptFrame, dif_neg h]
  exact substituted_modify (Fin.isLt _) d.mask

/-! ## What a channel passes on

The delay buffer holds one frame at most, and passes it on unchanged.
-/

lemma mem_survivors {c : LoopbackChannel} {d : Draws} {frame f : Bytes}
    (h : f ∈ c.survivors d frame) : f = frame ∨ f = corruptFrame d frame := by
  rw [survivors] at h
  split_ifs at h with hloss hcorrupt hdup <;> simp_all

lemma mem_delay {reorder draw : ℚ} {emit : List Bytes} {held : Option Bytes} {f x : Bytes}
    (h : x ∈ (delay reorder emit held f draw).1 ++ (delay reorder emit held f draw).2.toList) :
    x ∈ emit ++ held.toList ∨ x = f := by
  rw [delay] at h
  split_ifs at h <;> simp_all [or_assoc]

/-- A run of the delay buffer neither makes nor changes a frame. -/
lemma mem_foldl_delay {reorder : ℚ} {x : Bytes} : ∀ {l : List (Bytes × ℚ)}
    {s : List Bytes × Option Bytes},
    x ∈ (l.foldl (fun s f => delay reorder s.1 s.2 f.1 f.2) s).1 ++
      (l.foldl (fun s f => delay reorder s.1 s.2 f.1 f.2) s).2.toList →
    x ∈ s.1 ++ s.2.toList ∨ x ∈ l.map Prod.fst
  | [], _, h => Or.inl h
  | f :: l, s, h => by
      rcases mem_foldl_delay (l := l) h with hs | hl
      · rcases mem_delay hs with hold | rfl
        · exact Or.inl hold
        · exact Or.inr (List.mem_cons_self ..)
      · exact Or.inr (List.mem_cons_of_mem _ hl)

/-- **One send**: a frame of the channel was there before, or is the frame sent, unchanged or
corrupted. -/
theorem mem_frames_sendFrame {c : LoopbackChannel} {d : Draws} {frame x : Bytes}
    (h : x ∈ (c.sendFrame d frame).frames) :
    x ∈ c.frames ∨ x = frame ∨ x = corruptFrame d frame := by
  rw [sendFrame] at h
  split_ifs at h with hclosed
  · exact Or.inl h
  · simp only [frames, List.append_assoc, List.mem_append] at h ⊢
    rcases h with hout | hrest
    · exact Or.inl (Or.inl hout)
    · rcases mem_foldl_delay (List.mem_append.mpr hrest) with hheld | hsurv
      · exact Or.inl (Or.inr hheld)
      · obtain ⟨⟨f, draw⟩, hf, rfl⟩ := List.mem_map.mp hsurv
        exact Or.inr (mem_survivors (List.of_mem_zip hf).1)

/-- **Any number of sends.** -/
theorem mem_frames_sendFrames {x : Bytes} : ∀ {sends : List (Draws × Bytes)}
    {c : LoopbackChannel}, x ∈ (c.sendFrames sends).frames →
    x ∈ c.frames ∨ ∃ s ∈ sends, x = s.2 ∨ x = corruptFrame s.1 s.2
  | [], _, h => Or.inl h
  | s :: sends, c, h => by
      rcases mem_frames_sendFrames (c := c.sendFrame s.1 s.2) h with hc | ⟨t, ht, hx⟩
      · rcases mem_frames_sendFrame hc with hold | hnew
        · exact Or.inl hold
        · exact Or.inr ⟨s, List.mem_cons_self .., hnew⟩
      · exact Or.inr ⟨t, List.mem_cons_of_mem _ ht, hx⟩

/-! ## Corrupted frames are refused

What holds of one send, along any number of them.
-/

/-- An encoding has at least a header's bytes. -/
lemma ne_nil_of_pack {zlib : Bytes → ℕ} {p : Packet} {raw : Bytes}
    (h : p.pack zlib = some raw) : raw ≠ [] := by
  rintro rfl
  have hi := ((unpack_eq_ok_iff _).mp (unpack_of_pack _ h)).1
  exact absurd hi.length (by decide)

/-- **A corrupted encoding is refused with a packet error.** -/
theorem unpack_corruptFrame {p : Packet} {raw : Bytes} (h : p.pack zlibCrc32 = some raw)
    (d : Draws) : ∃ e, Packet.unpack zlibCrc32 (corruptFrame d raw) = .error (.PacketError e) :=
  unpack_of_substituted h (substituted_corruptFrame (ne_nil_of_pack h) d)

/-- **Along any sequence of sends of encoded packets**, whatever the noise, every frame the channel
passes on is one of the frames sent, or is refused with a packet error. -/
theorem refused_or_sent {c : LoopbackChannel} (hc : c.frames = []) {sends : List (Draws × Bytes)}
    (hsends : ∀ s ∈ sends, ∃ p : Packet, p.pack zlibCrc32 = some s.2) {x : Bytes}
    (hx : x ∈ (c.sendFrames sends).frames) :
    (∃ s ∈ sends, x = s.2) ∨ ∃ e, Packet.unpack zlibCrc32 x = .error (.PacketError e) := by
  rcases mem_frames_sendFrames hx with hold | ⟨s, hs, rfl | rfl⟩
  · rw [hc] at hold
    exact absurd hold List.not_mem_nil
  · exact Or.inl ⟨s, hs, rfl⟩
  · obtain ⟨p, hp⟩ := hsends s hs
    exact Or.inr (unpack_corruptFrame hp s.1)

end LoopbackChannel

end PhotonTCP
