import PhotonTCP.App.Codec

/-!
# The file-transfer codec

A frame travels as a 4-byte big-endian length, a type byte and a body; the length counts the type
byte and the body.

* `FileFrameType`, `FileFrame`, `encodeFrame`, `encodeControl`, `decodeControl`.
* `fileFraming`, `FileFrameReassembler` — frames from the bytes of a stream.
* **`fileFrames_inverse`** — encoding and reassembling are inverse, in both directions and for every
  fragmentation.

The length counts the type byte, so a length of zero is malformed, and a body may be empty.  An
unknown type byte is an error that shows only when the whole frame has arrived, while a bad length
shows with the prefix; the framing keeps these apart.

The second direction of the theorem is worth having on its own.  It says that the reassembler
accepts nothing but encodings: what it has returned, encoded again, is what it was given, byte for
byte.  There is one way only to write a frame.
-/

namespace PhotonTCP

/-- Limit on the declared length of a frame. -/
def MAX_FRAME_BYTES : ℕ := 1 <<< 24

/-- The kinds of frame. -/
inductive FileFrameType where
  | Offer
  | Accept
  | Reject
  | Chunk
  | Done
  | Ack
  | Nack
deriving DecidableEq

namespace FileFrameType

/-- The type byte. -/
def value : FileFrameType → ℕ
  | Offer => 0
  | Accept => 1
  | Reject => 2
  | Chunk => 3
  | Done => 4
  | Ack => 5
  | Nack => 6

/-- `FileFrameType(value)`, which raises for any other value. -/
def ofValue : ℕ → Option FileFrameType
  | 0 => some Offer
  | 1 => some Accept
  | 2 => some Reject
  | 3 => some Chunk
  | 4 => some Done
  | 5 => some Ack
  | 6 => some Nack
  | _ => none

lemma ofValue_value (type : FileFrameType) : ofValue type.value = some type := by cases type <;> rfl

lemma value_lt (type : FileFrameType) : type.value < 7 := by cases type <;> decide

lemma value_of_ofValue {v : ℕ} {type : FileFrameType} (h : ofValue v = some type) :
    type.value = v := by
  rw [ofValue.eq_def] at h
  split at h
  all_goals simp at h
  all_goals rw [← h, value]

end FileFrameType

/-- A frame. -/
structure FileFrame where
  type : FileFrameType
  body : Bytes
deriving DecidableEq

/-! ## Encoding

A control frame has an object for its body, even where there is nothing to say.
-/

/-- Length prefix, type byte and body. -/
def encodeFrame (type : FileFrameType) (body : Bytes) : Except ValueError Bytes :=
  let length := 1 + body.length
  if MAX_FRAME_BYTES < length then
    .error s!"frame length {length} exceeds MAX_FRAME_BYTES ({MAX_FRAME_BYTES})"
  else .ok (ByteRecord.encode LENGTH_SIZE length ++ [UInt8.ofNat type.value] ++ body)

/-- A frame whose body is a JSON object. -/
def encodeControl (type : FileFrameType) (obj : Dict String JsonValue) : Except ValueError Bytes :=
  encodeFrame type (jsonDumps obj)

/-- The object of a control frame's body. -/
def decodeControl (loads : JsonLoads) (body : Bytes) : Except ValueError (Dict String JsonValue) :=
  match loads body with
  | .error exc => .error s!"failed to parse control body: {exc}"
  | .ok (.other obj) => .error s!"control body is not a JSON object: <class '{obj.typeName}'>"
  | .ok (.mapping obj) => .ok obj

/-! ## Reassembling

As in the chat codec, by a framing of its own.
-/

/-- How `FileFrameReassembler.feed` takes a frame off its buffer. -/
def fileFraming : Framing UInt8 FileFrame ValueError where
  width := LENGTH_SIZE
  size header :=
    let length := ByteRecord.decode header
    if length < 1 then
      .error s!"declared frame length {length} is too small (no room for a type byte)"
    else if MAX_FRAME_BYTES < length then
      .error s!"declared frame length {length} exceeds MAX_FRAME_BYTES ({MAX_FRAME_BYTES})"
    else .ok length
  decode frame :=
    -- the declared length is at least 1, so there is a type byte
    let typeByte := (frame.head?.map UInt8.toNat).getD 0
    match FileFrameType.ofValue typeByte with
    | none => .error s!"unknown file frame type byte: {typeByte}"
    | some type => .ok { type, body := frame.drop 1 }
  width_pos := LENGTH_SIZE_pos

/-- The bytes that have not become a frame. -/
structure FileFrameReassembler where
  buf : Bytes := []

namespace FileFrameReassembler

/-- Append `data` and return the frames that are complete. -/
def feed (r : FileFrameReassembler) (data : Bytes) :
    Except ValueError (List FileFrame) × FileFrameReassembler :=
  let (result, buf) := fileFraming.feed r.buf data
  (result, { buf })

/-- Successive calls of `feed`. -/
def feeds : FileFrameReassembler → List Bytes →
    List (Except ValueError (List FileFrame)) × FileFrameReassembler := Mealy.run feed

lemma feeds_eq (r : FileFrameReassembler) (pieces : List Bytes) :
    r.feeds pieces =
      ((fileFraming.feeds r.buf pieces).1, { buf := (fileFraming.feeds r.buf pieces).2 }) := by
  induction pieces generalizing r with
  | nil => rfl
  | cons data pieces ih =>
      rw [feeds, Mealy.run_cons, ← feeds, ih]
      rfl

end FileFrameReassembler

/-! ## One frame

The two functions of the framing, as equivalences.
-/

/-- The frame, encoded. -/
def FileFrame.encode (f : FileFrame) : Except ValueError Bytes := encodeFrame f.type f.body

lemma encode_eq_ok_iff {f : FileFrame} {enc : Bytes} :
    f.encode = .ok enc ↔ 1 + f.body.length ≤ MAX_FRAME_BYTES ∧
      enc = ByteRecord.encode LENGTH_SIZE (1 + f.body.length) ++
        (UInt8.ofNat f.type.value :: f.body) := by
  rw [FileFrame.encode, encodeFrame]
  split_ifs with hlong
  · simp [Nat.not_le.mpr hlong]
  · simp [Nat.not_lt.mp hlong, eq_comm]

lemma size_eq_ok_iff {header : Bytes} {size : ℕ} : fileFraming.size header = .ok size ↔
    0 < size ∧ size ≤ MAX_FRAME_BYTES ∧ ByteRecord.decode header = size := by
  simp only [fileFraming]
  split_ifs with hsmall hlarge
  · simp only [false_iff]
    omega
  · simp only [false_iff]
    omega
  · rw [Except.ok.injEq]
    omega

lemma decode_eq_ok_iff {b : UInt8} {body : Bytes} {f : FileFrame} :
    fileFraming.decode (b :: body) = .ok f ↔
      FileFrameType.ofValue b.toNat = some f.type ∧ body = f.body := by
  simp only [fileFraming, List.head?_cons, Option.map_some, Option.getD_some, List.drop_one,
    List.tail_cons]
  cases FileFrameType.ofValue b.toNat with
  | none => simp
  | some type =>
      rw [Except.ok.injEq, Option.some.injEq]
      constructor
      · rintro rfl
        exact ⟨rfl, rfl⟩
      · rintro ⟨rfl, rfl⟩
        rfl

/-- **An encoded frame is read back.** -/
theorem spells_of_encode {f : FileFrame} {enc : Bytes} (h : f.encode = .ok enc) :
    fileFraming.Spells enc f := by
  obtain ⟨hle, rfl⟩ := encode_eq_ok_iff.mp h
  have hdecode : ByteRecord.decode (ByteRecord.encode LENGTH_SIZE (1 + f.body.length))
      = 1 + f.body.length :=
    ByteRecord.decode_encode (lt_of_le_of_lt hle (by decide))
  have htype : (UInt8.ofNat f.type.value).toNat = f.type.value := by
    have := f.type.value_lt
    rw [UInt8.toNat_ofNat']
    omega
  refine Framing.spells_of_header (ByteRecord.length_encode ..) ?_ ?_
  · rw [size_eq_ok_iff, List.length_cons, Nat.add_comm f.body.length]
    exact ⟨by omega, hle, hdecode⟩
  · rw [decode_eq_ok_iff, htype]
    exact ⟨f.type.ofValue_value, rfl⟩

/-- **What is read was encoded.** -/
theorem encode_of_front {f : FileFrame} {buf rest : Bytes}
    (h : fileFraming.front buf = .frame f rest) : ∃ enc, f.encode = .ok enc ∧ buf = enc ++ rest := by
  obtain ⟨size, hle, hsize, hdecode, rfl⟩ := Framing.front_eq_frame_iff.mp h
  have hwidth : fileFraming.width = LENGTH_SIZE := rfl
  rw [hwidth] at hle hsize hdecode ⊢
  have hheader : (buf.take LENGTH_SIZE).length = LENGTH_SIZE := by
    rw [List.length_take]
    omega
  obtain ⟨hpos, hmax, hspelled⟩ := size_eq_ok_iff.mp hsize
  obtain ⟨b, body, hframe⟩ : ∃ b body, (buf.drop LENGTH_SIZE).take size = b :: body := by
    refine List.exists_cons_of_length_pos ?_
    rw [List.length_take, List.length_drop]
    omega
  have hlen : 1 + body.length = size := by
    have := congrArg List.length hframe
    rw [List.length_take, List.length_drop, List.length_cons] at this
    omega
  rw [hframe] at hdecode
  obtain ⟨htype, rfl⟩ := decode_eq_ok_iff.mp hdecode
  refine ⟨_, encode_eq_ok_iff.mpr ⟨by omega, rfl⟩, ?_⟩
  have hprefix : ByteRecord.encode LENGTH_SIZE size = buf.take LENGTH_SIZE := by
    have := ByteRecord.encode_decode (buf.take LENGTH_SIZE)
    rwa [hheader, hspelled] at this
  have hbyte : UInt8.ofNat f.type.value = b := by
    rw [FileFrameType.value_of_ofValue htype, UInt8.ofNat_toNat]
  rw [hlen, hprefix, hbyte, ← hframe, ← List.drop_drop, List.append_assoc, List.take_append_drop,
    List.take_append_drop]

/-! ## All frames

From one frame to a list of them, in either direction.
-/

/-- The frames, encoded in order. -/
def encodeFrames (frames : List FileFrame) : Except ValueError (List Bytes) :=
  frames.mapM FileFrame.encode

lemma encodeFrames_nil : encodeFrames [] = .ok [] := rfl

lemma encodeFrames_cons {f : FileFrame} {frames : List FileFrame} {encs : List Bytes} :
    encodeFrames (f :: frames) = .ok encs ↔
      ∃ enc encs', f.encode = .ok enc ∧ encodeFrames frames = .ok encs' ∧ encs = enc :: encs' := by
  rw [encodeFrames, List.mapM_cons, ← encodeFrames]
  cases f.encode with
  | error e => simp [bind, Except.bind]
  | ok enc =>
      cases encodeFrames frames with
      | error e => simp [bind, Except.bind]
      | ok encs' => simp [bind, Except.bind, pure, Except.pure, eq_comm]

lemma encodeFrames_drop : ∀ {frames : List FileFrame} {encs : List Bytes},
    encodeFrames frames = .ok encs → ∀ n, encodeFrames (frames.drop n) = .ok (encs.drop n)
  | _, _, h, 0 => h
  | [], encs, h, n + 1 => by
      obtain rfl : encs = [] := by simpa [encodeFrames_nil, eq_comm] using h
      rfl
  | f :: frames, encs, h, n + 1 => by
      obtain ⟨enc, encs', -, hframes, rfl⟩ := encodeFrames_cons.mp h
      exact encodeFrames_drop hframes n

/-- Frames that fit the limit are encoded. -/
lemma encodeFrames_of_fits {frames : List FileFrame}
    (h : ∀ f ∈ frames, 1 + f.body.length ≤ MAX_FRAME_BYTES) : ∃ encs, encodeFrames frames = .ok encs := by
  induction frames with
  | nil => exact ⟨[], rfl⟩
  | cons f frames ih =>
      obtain ⟨encs, hencs⟩ := ih fun g hg => h g (by simp [hg])
      exact ⟨_, encodeFrames_cons.mpr
        ⟨_, encs, encode_eq_ok_iff.mpr ⟨h f (by simp), rfl⟩, hencs, rfl⟩⟩

/-- The encodings beside their frames, as the library wants them. -/
lemma encodeFrames_spells : ∀ {frames : List FileFrame} {encs : List Bytes},
    encodeFrames frames = .ok encs → (encs.zip frames).map Prod.fst = encs ∧
      (encs.zip frames).map Prod.snd = frames ∧
      ∀ p ∈ encs.zip frames, fileFraming.Spells p.1 p.2
  | [], encs, h => by
      obtain rfl : encs = [] := by simpa [encodeFrames_nil, eq_comm] using h
      simp
  | f :: frames, encs, h => by
      obtain ⟨enc, encs', hf, hframes, rfl⟩ := encodeFrames_cons.mp h
      obtain ⟨hfst, hsnd, hspells⟩ := encodeFrames_spells hframes
      refine ⟨by simp [hfst], by simp [hsnd], ?_⟩
      rintro p hp
      rcases List.mem_cons.mp hp with rfl | hmem
      · exact spells_of_encode hf
      · exact hspells p hmem

lemma encodeFrames_of_reads {buf rest : Bytes} {frames : List FileFrame}
    (h : fileFraming.Reads buf frames rest) :
    ∃ encs, encodeFrames frames = .ok encs ∧ encs.flatten ++ rest = buf := by
  induction h with
  | nil => exact ⟨[], rfl, rfl⟩
  | cons hf _ ih =>
      obtain ⟨encs, hencs, rfl⟩ := ih
      obtain ⟨enc, henc, rfl⟩ := encode_of_front hf
      exact ⟨enc :: encs, encodeFrames_cons.mpr ⟨enc, encs, henc, hencs, rfl⟩, by simp⟩

/-- **Codec and reassembler are inverse, however the bytes are cut.**  Encoded frames come back in
order, each from the call that supplies its last byte, and the buffer ends empty; and what the calls
have returned, encoded again, and the buffer are the bytes they were given. -/
theorem fileFrames_inverse :
    (∀ frames : List FileFrame, (∀ f ∈ frames, 1 + f.body.length ≤ MAX_FRAME_BYTES) →
      ∃ encs, encodeFrames frames = .ok encs ∧ ∀ pieces : List Bytes,
        pieces.flatten = encs.flatten →
        ∃ results : List (List FileFrame),
          FileFrameReassembler.feeds {} pieces = (results.map .ok, {}) ∧
          results.length = pieces.length ∧ results.flatten = frames ∧
          ∀ n, (results.take n).flatten =
            Framing.within (encs.zip frames) (pieces.take n).flatten.length) ∧
    (∀ (pieces : List Bytes) (results : List (List FileFrame)) (r : FileFrameReassembler),
      FileFrameReassembler.feeds {} pieces = (results.map .ok, r) →
      ∃ encs, encodeFrames results.flatten = .ok encs ∧
        encs.flatten ++ r.buf = pieces.flatten) := by
  constructor
  · intro frames hfits
    obtain ⟨encs, hencs⟩ := encodeFrames_of_fits hfits
    obtain ⟨hfst, hsnd, hspells⟩ := encodeFrames_spells hencs
    refine ⟨encs, hencs, fun pieces hpieces => ?_⟩
    obtain ⟨results, hfeeds, hlen, hall, hwithin⟩ :=
      Framing.feeds_encoded hspells (hpieces.trans (by rw [hfst]))
    refine ⟨results, ?_, hlen, hall.trans hsnd, hwithin⟩
    rw [FileFrameReassembler.feeds_eq, hfeeds]
  · intro pieces results r h
    rw [FileFrameReassembler.feeds_eq, Prod.mk.injEq] at h
    obtain ⟨hreturned, rfl⟩ := h
    exact encodeFrames_of_reads (Framing.reads_of_feeds hreturned)

/-- An offer and an empty chunk. -/
def twoFrames : List FileFrame := [⟨.Offer, [7]⟩, ⟨.Chunk, []⟩]

/-- Their encodings, cut inside the first length prefix and after the first type byte. -/
def twoFramesCut : List Bytes := [[0, 0], [], [0, 2, 0], [7, 0, 0, 0, 1, 3]]

/-- Both come back, and nothing before its last byte. -/
theorem fileFrames_inverse_twoFrames :
    ∃ results : List (List FileFrame),
      FileFrameReassembler.feeds {} twoFramesCut = (results.map .ok, {}) ∧
      results.flatten = twoFrames ∧ (results.take 3).flatten = [] ∧
      ∃ encs, encodeFrames results.flatten = .ok encs ∧ encs.flatten = twoFramesCut.flatten := by
  obtain ⟨encs, hencs, hall⟩ := fileFrames_inverse.1 twoFrames (by decide)
  obtain rfl : encs = [[0, 0, 0, 2, 0, 7], [0, 0, 0, 1, 3]] := by
    have hvalue : encodeFrames twoFrames = .ok [[0, 0, 0, 2, 0, 7], [0, 0, 0, 1, 3]] := by
      decide +kernel
    simpa [hvalue, eq_comm] using hencs
  obtain ⟨results, hfeeds, -, hframes, hwithin⟩ := hall twoFramesCut (by decide)
  obtain ⟨encs, hencs', hbytes⟩ := fileFrames_inverse.2 _ _ _ hfeeds
  exact ⟨results, hfeeds, hframes, (hwithin 3).trans (by decide), encs, hencs', by simpa using hbytes⟩

end PhotonTCP
