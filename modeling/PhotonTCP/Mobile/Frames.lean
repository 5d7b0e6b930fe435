import Mathlib.Data.Int.Basic
import Mathlib.Data.List.Basic
import Mathlib.Tactic
import PhotonTCP.Packet.Types

/-!
# Frames

What the display uploads and what the camera hands out: arrays of bytes, packed and unpacked.

* `NdArray` — an array; `WellFormed` — it has as many bytes as its shape says.
* `pack` — the display's packing; **`length_pack`** — the buffer has the size the upload expects.
* `frameToArray` — the camera's conversion; **`wellFormed_frameToArray`** — the result is a gray or
  a color image.

Arrays are lists of bytes with a shape.  Both directions check what they are given and return
nothing if they cannot use it, so that what they do return needs no further check: a texture gets
exactly as many bytes as its size and format say, and the decoder gets one of the two kinds of image
that it accepts.
-/

namespace PhotonTCP.Mobile

/-- A `uint8` array: its shape, and its elements in C order. -/
structure NdArray where
  shape : List ℕ
  data : Bytes
deriving DecidableEq

/-- As many elements as the shape says. -/
def NdArray.WellFormed (arr : NdArray) : Prop := arr.data.length = arr.shape.prod

/-- Bytes for each pixel. -/
def CHANNELS : String → Option ℕ
  | "rgba" => some 4
  | "bgra" => some 4
  | "rgb" => some 3
  | "bgr" => some 3
  | "luminance" => some 1
  | "gray" => some 1
  | _ => none

/-- `arr[:, :, 0]` of an array with one channel. -/
def NdArray.squeeze (arr : NdArray) : NdArray :=
  match arr.shape with
  | [height, width, 1] => { arr with shape := [height, width] }
  | _ => arr

/-! ## Packing

A gray image, or one with as many channels as the format of the texture.
-/

/-- What is uploaded: a buffer, and the width and the height. -/
structure Frame where
  buffer : Bytes
  size : ℕ × ℕ
deriving DecidableEq

/-- An image without pixels cannot be uploaded. -/
def Frame.make (height width : ℕ) (buffer : Bytes) : Option Frame :=
  if height = 0 ∨ width = 0 then none else some { buffer, size := (width, height) }

/-- `KivyDisplay._pack`. -/
def pack (colorfmt : String) (image : NdArray) : Option Frame :=
  let arr := image.squeeze
  match CHANNELS colorfmt.toLower with
  | none => none
  | some channels =>
      match arr.shape with
      | [height, width] =>
          if channels = 3 then Frame.make height width (arr.data.flatMap (List.replicate 3))
          else if channels = 1 then Frame.make height width arr.data
          else none
      | [height, width, depth] =>
          if depth = channels then Frame.make height width arr.data else none
      | _ => none

lemma NdArray.WellFormed.squeeze {arr : NdArray} (h : arr.WellFormed) : arr.squeeze.WellFormed := by
  rw [NdArray.squeeze]
  split
  · rename_i height width hshape
    rw [NdArray.WellFormed, hshape] at h
    rw [NdArray.WellFormed, h]
    simp
  · exact h

lemma Frame.make_eq_some {height width : ℕ} {buffer : Bytes} {f : Frame}
    (h : Frame.make height width buffer = some f) :
    0 < height ∧ 0 < width ∧ f = { buffer, size := (width, height) } := by
  rw [Frame.make] at h
  split_ifs at h with hempty
  obtain rfl := Option.some.inj h
  exact ⟨by omega, by omega, rfl⟩

/-- **The buffer has the size that the upload expects.** -/
theorem length_pack {colorfmt : String} {image : NdArray} {f : Frame} (h : image.WellFormed)
    (hpack : pack colorfmt image = some f) : 0 < f.size.1 ∧ 0 < f.size.2 ∧
      ∃ channels, CHANNELS colorfmt.toLower = some channels ∧
        f.buffer.length = f.size.1 * f.size.2 * channels := by
  have hsqueeze := h.squeeze
  rw [pack] at hpack
  rw [NdArray.WellFormed] at hsqueeze
  rcases hchannels : CHANNELS colorfmt.toLower with _ | channels <;> rw [hchannels] at hpack
  · cases hpack
  · dsimp only at hpack
    split at hpack
    · rename_i height width hshape
      rw [hshape] at hsqueeze
      split_ifs at hpack with hrgb hgray
      · obtain ⟨hheight, hwidth, rfl⟩ := Frame.make_eq_some hpack
        refine ⟨hwidth, hheight, channels, rfl, ?_⟩
        simp [List.length_flatMap, hsqueeze, hrgb]
        ring
      · obtain ⟨hheight, hwidth, rfl⟩ := Frame.make_eq_some hpack
        refine ⟨hwidth, hheight, channels, rfl, ?_⟩
        simp [hsqueeze, hgray, mul_comm]
    · rename_i height width depth hshape
      rw [hshape] at hsqueeze
      split_ifs at hpack with hdepth
      obtain ⟨hheight, hwidth, rfl⟩ := Frame.make_eq_some hpack
      refine ⟨hwidth, hheight, channels, rfl, ?_⟩
      simp [hsqueeze, hdepth]
      ring
    · cases hpack

/-! ## Unpacking

A preview hands out rows of packed pixels.  The flips undo what it did to them, and an alpha channel
is dropped.
-/

/-- Captured pixels: a packed buffer, an array, or something else. -/
inductive Pixels where
  | buffer (bytes : Bytes)
  | array (arr : NdArray)
  | other
deriving DecidableEq

/-- The array with these elements. -/
def NdArray.ofIndex (height width depth : ℕ) (index : ℕ → ℕ → ℕ → UInt8) : NdArray where
  shape := if depth = 1 then [height, width] else [height, width, depth]
  data := (List.range height).flatMap fun row => (List.range width).flatMap fun column =>
    (List.range depth).map (index row column)

/-- The pixels as an array with two or three dimensions; a buffer needs its size and its format. -/
def shaped (raw : Pixels) (size : Option (ℤ × ℤ)) (colorfmt : String) : Option NdArray :=
  let flat (data : Bytes) : Option NdArray :=
    match size, CHANNELS colorfmt.toLower with
    | some (width, height), some channels =>
        if width ≤ 0 ∨ height ≤ 0 then none
        else
          let expected := width.toNat * height.toNat * channels
          if data.length < expected then none
          else some { shape := [height.toNat, width.toNat, channels], data := data.take expected }
    | _, _ => none
  match raw with
  | .other => none
  | .buffer bytes => flat bytes
  | .array arr =>
      match arr.shape with
      | [_] => flat arr.data
      | [_, _] | [_, _, _] => some arr
      | _ => none

/-- The channels that `channel` selects, of the rows and columns in the order that the flips ask
for. -/
def NdArray.flipped (arr : NdArray) (flipVertical flipHorizontal : Bool) (height width depth stride : ℕ)
    (channel : ℕ → ℕ) : NdArray :=
  NdArray.ofIndex height width depth fun row column k =>
    let row := if flipVertical then height - 1 - row else row
    let column := if flipHorizontal then width - 1 - column else column
    arr.data.getD ((row * width + column) * stride + channel k) 0

/-- `_frame_to_array`: at most three channels, in the order of OpenCV, and the flips. -/
def frameToArray (raw : Pixels) (size : Option (ℤ × ℤ)) (colorfmt : String)
    (flipVertical flipHorizontal : Bool) : Option NdArray :=
  match shaped raw size colorfmt with
  | none => none
  | some arr =>
      match arr.shape with
      | [height, width] => some (arr.flipped flipVertical flipHorizontal height width 1 1 id)
      | [height, width, depth] =>
          if depth = 1 then some (arr.flipped flipVertical flipHorizontal height width 1 1 id)
          else if depth = 3 ∨ depth = 4 then
            let channel (k : ℕ) := if colorfmt.toLower = "rgba" ∨ colorfmt.toLower = "rgb" then 2 - k else k
            some (arr.flipped flipVertical flipHorizontal height width 3 depth channel)
          else none
      | _ => none

lemma wellFormed_ofIndex (height width depth : ℕ) (index : ℕ → ℕ → ℕ → UInt8) :
    (NdArray.ofIndex height width depth index).WellFormed := by
  rw [NdArray.WellFormed, NdArray.ofIndex]
  simp only [List.length_flatMap, List.length_map, List.length_range, List.map_const',
    List.sum_replicate, smul_eq_mul]
  split_ifs with hdepth
  · simp [hdepth]
  · simp

/-- **The result is a gray or a color image.** -/
theorem wellFormed_frameToArray {raw : Pixels} {size : Option (ℤ × ℤ)} {colorfmt : String}
    {flipVertical flipHorizontal : Bool} {arr : NdArray}
    (h : frameToArray raw size colorfmt flipVertical flipHorizontal = some arr) : arr.WellFormed ∧
      ∃ height width, arr.shape = [height, width] ∨ arr.shape = [height, width, 3] := by
  rw [frameToArray] at h
  split at h
  · cases h
  · split at h
    · obtain rfl := Option.some.inj h
      exact ⟨wellFormed_ofIndex .., _, _, .inl rfl⟩
    · split at h
      · obtain rfl := Option.some.inj h
        exact ⟨wellFormed_ofIndex .., _, _, .inl rfl⟩
      · split at h
        · obtain rfl := Option.some.inj h
          exact ⟨wellFormed_ofIndex .., _, _, .inr rfl⟩
        · cases h
    · cases h

end PhotonTCP.Mobile
