import PhotonTCP.Foundation.Base64
import PhotonTCP.Foundation.Grid
import PhotonTCP.Packet.Types

/-!
# Encoding a QR image

The encoder writes a frame as base64, lets segno make the symbol of this text, and draws it: a quiet
zone of light modules around it, every module a block of pixels.

segno is a parameter: any function from texts to symbols, which may raise.

* `b64encode`, `b64decode` — the text of a frame.
* `Symbol`, `encodeFrame`, `picture` — the symbol and how it is drawn.
* **`picture_eq`** — every pixel; **`sample_picture`** — the modules can be read off the pixels.
* **`images_differ`** — two frames never have the same image, if no two base64 texts have the same
  symbol.

That two frames have different images is what an optical link lives on, and it has three parts.
Base64 is injective.  That the symbols of two texts differ is the business of segno, and is supposed
of it for the texts that are given to it here; these are ASCII, and it writes them as they are.  And
a symbol can be recovered from its picture, since each module fills a block of pixels and a block
has a pixel in it.

`ErrorLevel.capacity` is what an application may rely on when it chooses the size of its packets:
the frames that fit the largest symbol.
-/

namespace PhotonTCP.Qr

/-! ## The text

Base64 is in the library of this development; the two functions of Python are instances.
-/

/-- `base64.b64encode(data).decode("ascii")`. -/
def b64encode (data : Bytes) : String := String.ofList (Base64.encode Base64.standard data)

/-- `base64.b64decode(text, validate=True)`; what it raises is caught wherever it is called.  Pads
behind a whole group, which not all versions refuse, are refused. -/
def b64decode (text : String) : Option Bytes := Base64.decode Base64.standard text.toList

/-- **What was written is read.** -/
theorem b64decode_b64encode (data : Bytes) : b64decode (b64encode data) = some data := by
  rw [b64decode, b64encode, String.toList_ofList, Base64.decode_encode]

/-- Two frames have two texts. -/
lemma b64encode_injective : Function.Injective b64encode := by
  intro data data' h
  have hdecode := b64decode_b64encode data
  rw [h, b64decode_b64encode] at hdecode
  exact (Option.some.inj hdecode).symm

lemma length_b64encode (data : Bytes) : (b64encode data).length = 4 * ((data.length + 2) / 3) := by
  rw [b64encode, String.length_ofList, Base64.length_encode]

/-- Only nothing is written as nothing. -/
lemma b64encode_eq_empty {data : Bytes} : b64encode data = "" ↔ data = [] :=
  b64encode_injective.eq_iff (b := [])

/-! ## The symbol

The levels and the capacities are those of the standard.
-/

/-- segno's error-correction levels. -/
inductive ErrorLevel where
  | l
  | m
  | q
  | h
deriving DecidableEq

/-- As segno is told. -/
def ErrorLevel.name : ErrorLevel → String
  | l => "l"
  | m => "m"
  | q => "q"
  | h => "h"

/-- The bytes that the largest symbol holds. -/
def ErrorLevel.capacity : ErrorLevel → ℕ
  | l => 2953
  | m => 2331
  | q => 1663
  | h => 1273

/-- A symbol: its modules, row by row, where dark is `true`. -/
structure Symbol where
  matrix : List (List Bool)
  square : ∀ row ∈ matrix, row.length = matrix.length

/-- What `segno.make` raises. -/
inductive SegnoError where
  | DataOverflowError (exc : String)
  | other (exc : String)

/-- `segno.make(text, error=error, micro=False)`. -/
abbrev SegnoMake := String → ErrorLevel → Except SegnoError Symbol

/-! ## Drawing

The loops of the source go over the dark modules only, on an image that is light to begin with.
-/

/-- A grayscale image. -/
abbrev Raster := Grid UInt8

/-- The places of the dark modules in a row. -/
def drawRow (border r : ℕ) (row : List Bool) (grid : Raster) : Raster :=
  row.zipIdx.foldl (fun grid m => if m.1 then grid.put (border + r) (border + m.2) 0 else grid) grid

/-- The modules and the quiet zone, one pixel each. -/
def draw (border : ℕ) (rows : List (List Bool)) : Raster :=
  let full := rows.length + 2 * border
  rows.zipIdx.foldl (fun grid row => drawRow border row.2 row.1 grid) (Grid.full full full 255)

/-- Every module is a block of pixels. -/
def picture (scale border : ℕ) (qr : Symbol) : Raster :=
  (draw border qr.matrix).kron (Grid.full scale scale 1)

/-- What `encode_frame` raises. -/
inductive EncodeError where
  | ValueError (text : String)
  | QRCapacityError (text : String)
  | SegnoError (exc : String)
deriving DecidableEq

/-- `encode_frame`. -/
def encodeFrame (make : SegnoMake) (data : Bytes) (scale : ℤ := 8) (border : ℤ := 4)
    (error : ErrorLevel := .m) : Except EncodeError Raster :=
  if scale < 1 then .error (.ValueError s!"scale must be >= 1, got {scale}")
  else if border < 0 then .error (.ValueError s!"border must be >= 0, got {border}")
  else
    let b64 := b64encode data
    match make b64 error with
    | .error (.DataOverflowError exc) => .error (.QRCapacityError (
        s!"payload too large for a single QR symbol at error level '{error.name}': " ++
        s!"{data.length} raw bytes -> {b64.length} base64 chars ({exc})"))
    | .error (.other exc) => .error (.SegnoError exc)
    | .ok qr => .ok (picture scale.toNat border.toNat qr)

/-- When there is an image, and which. -/
lemma encodeFrame_eq_ok_iff {make : SegnoMake} {data : Bytes} {scale border : ℤ} {error : ErrorLevel}
    {image : Raster} : encodeFrame make data scale border error = .ok image ↔
      1 ≤ scale ∧ 0 ≤ border ∧ ∃ qr, make (b64encode data) error = .ok qr ∧
        picture scale.toNat border.toNat qr = image := by
  rw [encodeFrame]
  split_ifs with hscale hborder
  · simp [Int.not_le.mpr hscale]
  · simp [Int.not_le.mpr hborder]
  · simp only [Int.not_lt.mp hscale, Int.not_lt.mp hborder, true_and]
    rcases make (b64encode data) error with (exc | exc) | qr
    · simp
    · simp
    · simp

/-! ## The pixels

The loops write each dark pixel once, in some order that does not matter.
-/

/-- A module is dark; there is none outside of the symbol. -/
def Symbol.Dark (qr : Symbol) (r c : ℕ) : Prop := Grid.get? qr.matrix r c = some true

instance (qr : Symbol) (r c : ℕ) : Decidable (qr.Dark r c) := inferInstanceAs (Decidable (_ = _))

/-- The places that are darkened. -/
def darkened (border : ℕ) (rows : List (List Bool)) : List (ℕ × ℕ) :=
  rows.zipIdx.flatMap fun row =>
    (row.1.zipIdx.filter Prod.fst).map fun m => (border + row.2, border + m.2)

lemma drawRow_eq (border r : ℕ) (row : List Bool) (grid : Raster) : drawRow border r row grid =
    ((row.zipIdx.filter Prod.fst).map fun m => (border + r, border + m.2)).foldl
      (fun g p => g.put p.1 p.2 0) grid := by
  rw [drawRow, List.foldl_map, List.foldl_filter]

/-- The loops write at the places of the dark modules. -/
lemma draw_eq (border : ℕ) (rows : List (List Bool)) : draw border rows =
    (darkened border rows).foldl (fun g p => g.put p.1 p.2 0)
      (Grid.full (rows.length + 2 * border) (rows.length + 2 * border) 255) := by
  rw [draw, darkened, List.foldl_flatMap]
  simp only [drawRow_eq]

lemma mem_darkened {border i j : ℕ} {qr : Symbol} : (i, j) ∈ darkened border qr.matrix ↔
    border ≤ i ∧ border ≤ j ∧ qr.Dark (i - border) (j - border) := by
  simp only [darkened, List.mem_flatMap, List.mem_map, List.mem_filter, Prod.exists,
    List.mem_zipIdx_iff_getElem?, Prod.mk.injEq, Symbol.Dark, Grid.get?, Option.bind_eq_some_iff]
  constructor
  · rintro ⟨row, r, hrow, dark, c, ⟨hmodule, hdark⟩, rfl, rfl⟩
    refine ⟨Nat.le_add_right _ _, Nat.le_add_right _ _, row, ?_, ?_⟩
    · rwa [Nat.add_sub_cancel_left]
    · rwa [Nat.add_sub_cancel_left, ← hdark]
  · rintro ⟨hi, hj, row, hrow, hmodule⟩
    exact ⟨row, i - border, hrow, true, j - border, ⟨hmodule, rfl⟩, by omega, by omega⟩

/-- **Every pixel of the image**: dark where its module is, and light elsewhere and in the quiet
zone. -/
theorem picture_eq (scale border : ℕ) (qr : Symbol) :
    let full := qr.matrix.length + 2 * border
    picture scale border qr = Grid.table (full * scale) (full * scale) fun i j =>
      if border ≤ i / scale ∧ border ≤ j / scale ∧ qr.Dark (i / scale - border) (j / scale - border)
      then 0 else 255 := by
  rw [picture, draw_eq, Grid.full_eq_table, Grid.foldl_put_table,
    Grid.kron_full_table UInt8.mul_one]
  exact Grid.table_congr fun i _ j _ => if_congr mem_darkened rfl rfl

/-- Scaling an image up is drawing it larger. -/
lemma kron_picture (scale border factor : ℕ) (qr : Symbol) :
    (picture scale border qr).kron (Grid.full factor factor 1) =
      picture (scale * factor) border qr := by
  rw [picture_eq, picture_eq, Grid.kron_full_table UInt8.mul_one, Nat.mul_assoc]
  simp only [Nat.div_div_eq_div_mul, Nat.mul_comm factor scale]

/-! ## Reading the modules

The first pixel of every block will do.
-/

/-- The modules of an image, by one pixel of each. -/
def sample (scale border : ℕ) (image : Raster) : List (List Bool) :=
  let modules := image.length / scale - 2 * border
  Grid.table modules modules fun r c =>
    image.get? ((border + r) * scale) ((border + c) * scale) = some 0

/-- **The modules can be read off the image.** -/
theorem sample_picture {scale : ℕ} (hscale : 0 < scale) (border : ℕ) (qr : Symbol) :
    sample scale border (picture scale border qr) = qr.matrix := by
  have hlength : (picture scale border qr).length / scale - 2 * border = qr.matrix.length := by
    rw [picture_eq, Grid.length_table, Nat.mul_div_cancel _ hscale, Nat.add_sub_cancel]
  rw [sample, hlength]
  refine (Grid.eq_table_of_get? rfl qr.square fun r hr c hc => ?_).symm
  have hinside : ∀ k < qr.matrix.length,
      (border + k) * scale < (qr.matrix.length + 2 * border) * scale := fun k hk =>
    Nat.mul_lt_mul_of_pos_right (by omega) hscale
  have hrow : c < qr.matrix[r].length := (qr.square _ (List.getElem_mem hr)).symm ▸ hc
  rw [picture_eq, Grid.get?_table (hinside r hr) (hinside c hc)]
  simp only [Nat.mul_div_cancel _ hscale, Nat.le_add_right, true_and, Nat.add_sub_cancel_left,
    Symbol.Dark, Grid.get?, List.getElem?_eq_getElem hr, Option.bind_some,
    List.getElem?_eq_getElem hrow]
  cases qr.matrix[r][c]
  · simp
  · simp

/-- **Two frames never have the same image**, if no two of the texts that segno is given, the base64
of some bytes, have the same symbol. -/
theorem images_differ {make : SegnoMake} {error : ErrorLevel}
    (hmake : ∀ data data' qr qr', make (b64encode data) error = .ok qr →
      make (b64encode data') error = .ok qr' → qr.matrix = qr'.matrix →
      b64encode data = b64encode data')
    {data data' : Bytes} (hne : data ≠ data') {scale border : ℤ} {image image' : Raster}
    (h : encodeFrame make data scale border error = .ok image)
    (h' : encodeFrame make data' scale border error = .ok image') : image ≠ image' := by
  obtain ⟨hscale, -, qr, hqr, rfl⟩ := encodeFrame_eq_ok_iff.mp h
  obtain ⟨-, -, qr', hqr', rfl⟩ := encodeFrame_eq_ok_iff.mp h'
  have hpos : 0 < scale.toNat := by omega
  intro hsame
  have hmatrix : qr.matrix = qr'.matrix := by
    rw [← sample_picture hpos border.toNat qr, hsame, sample_picture hpos]
  exact hne (b64encode_injective (hmake _ _ _ _ hqr hqr' hmatrix))

/-! ### Two symbols

Real symbols, to see that the drawing is the right one.
-/

/-- The symbol whose rows spell these numbers, most significant bit first. -/
def Symbol.ofRows (rows : List ℕ) : Symbol where
  matrix := rows.map fun row => (List.range rows.length).map fun c => row.testBit (rows.length - 1 - c)
  square row hrow := by
    obtain ⟨n, -, rfl⟩ := List.mem_map.mp hrow
    simp

/-- The symbol of `"hi"`, of version 1. -/
def symbolHi : Symbol := .ofRows
  [0x1fc87f, 0x105141, 0x175e5d, 0x17515d, 0x17585d, 0x105241, 0x1fd57f, 0xf00, 0x4f4be, 0xd8088,
    0x1ce6c1, 0x2b39a, 0x7a4b, 0x17e5, 0x1fdef1, 0x105b20, 0x174bf1, 0x174fcc, 0x175c87, 0x104310,
    0x1fc94d]

/-- The symbol of `"ok"`, of the same version. -/
def symbolOk : Symbol := .ofRows
  [0x1fc57f, 0x104d41, 0x175b5d, 0x17565d, 0x17415d, 0x104041, 0x1fd57f, 0x400, 0x36f0c, 0x71bd6,
    0xdf119, 0x1a8045, 0xd4ec3, 0x13a6, 0x1fd938, 0x104975, 0x175363, 0x175590, 0x174e47, 0x104ed7,
    0x1fc484]

/-- A `segno.make` that knows these two texts. -/
def twoSymbols : SegnoMake := fun text _ =>
  if text = "aGk=" then .ok symbolHi
  else if text = "b2s=" then .ok symbolOk
  else .error (.DataOverflowError "Data too large")

lemma twoSymbols_eq_ok {text : String} {error : ErrorLevel} {qr : Symbol}
    (h : twoSymbols text error = .ok qr) :
    text = "aGk=" ∧ qr = symbolHi ∨ text = "b2s=" ∧ qr = symbolOk := by
  rw [twoSymbols] at h
  split_ifs at h with hhi hok
  · exact .inl ⟨hhi, (Except.ok.inj h).symm⟩
  · exact .inr ⟨hok, (Except.ok.inj h).symm⟩

/-- Both are drawn, and the images differ. -/
theorem images_differ_hi_ok : ∃ image image',
    encodeFrame twoSymbols [104, 105] = .ok image ∧ encodeFrame twoSymbols [111, 107] = .ok image' ∧
      image ≠ image' := by
  have hi : encodeFrame twoSymbols [104, 105] = .ok (picture 8 4 symbolHi) := by decide +kernel
  have ok : encodeFrame twoSymbols [111, 107] = .ok (picture 8 4 symbolOk) := by decide +kernel
  refine ⟨_, _, hi, ok, images_differ ?_ (by decide) hi ok⟩
  intro data data' qr qr' h h' hmatrix
  rcases twoSymbols_eq_ok h with ⟨htext, rfl⟩ | ⟨htext, rfl⟩
  · rcases twoSymbols_eq_ok h' with ⟨htext', rfl⟩ | ⟨-, rfl⟩
    · exact htext.trans htext'.symm
    · exact absurd hmatrix (by decide +kernel)
  · rcases twoSymbols_eq_ok h' with ⟨-, rfl⟩ | ⟨htext', rfl⟩
    · exact absurd hmatrix (by decide +kernel)
    · exact htext.trans htext'.symm

end PhotonTCP.Qr
