import PhotonTCP.Foundation.Generator
import PhotonTCP.Packet.Types

/-!
# Decoding a QR image

The decoder tries variants of an image, cheapest first, under its detector, and returns at the first
whose text is base64; if there is none it tries an alternate detector on the same variants.  The
variants come from a generator, so what OpenCV raises while it prepares one of them is raised by the
loop and not where a variant is tried.

OpenCV and base64 are parameters: any functions, which may raise.

* `Cv2`, `Detector`, `AltDetector` — what the decoder calls.
* `decodeVariants`, `altDecode`, `cv2Decode`, `decodeFrame`.
* `variants`, `cascade` — the specification: a variant that cannot be prepared is skipped.
* **`decodeFrame_eq_cascade_iff`** — when the decoder meets it; `cascade_of_decodeFrame` — what it
  returns is always right.
* **`variants_dropped`** — an image that it does not read.

The contract is that an exception of OpenCV costs the variant on which it is raised, and no more.
For the detectors this is what the loop does.  The variants themselves are prepared inside the
generator, and an exception there ends it: the variants after it are not tried, and neither is the
alternate detector.

How much is lost depends on the image.  If the primary detector has read a variant before, the rest
is not needed; and if no detector would have read anything, nothing is lost.  `Prepared` is the
condition that says when one of these is the case.
-/

namespace PhotonTCP.Qr

open Generator

/-! ## What the decoder calls

Each operation may raise on each image.
-/

/-- The message of a `cv2.error`. -/
abbrev CvError := String

/-- The operations on images. -/
structure Cv2 (Image : Type) where
  ndim : Image → ℕ
  cvtColor : Image → Except CvError Image
  /-- `threshold` with Otsu's method. -/
  threshold : Image → Except CvError Image
  /-- `filter2D` with the sharpening kernel. -/
  filter2D : Image → Except CvError Image
  /-- `resize` by a factor, to the nearest pixel. -/
  resize : Image → ℚ → Except CvError Image

/-- What a detector returns: a text, and the corners of the symbol. -/
structure Detection where
  dataStr : String
  points : Option (List (ℚ × ℚ))

/-- `detectAndDecode` of the primary detector. -/
abbrev Detector (Image : Type) := Image → Except CvError Detection

/-- The alternate detector of an OpenCV build; that of WeChat may report several texts. -/
inductive AltDetector (Image : Type) where
  | wechat (detectAndDecode : Image → Except CvError (Option (List String)))
  | aruco (detectAndDecode : Detector Image)

/-! ## The decoder

As in the source, with the generator as a generator: its body runs only as far as a loop asks for
its values.
-/

/-- The larger sizes that are tried. -/
def UPSCALE_FACTORS : List ℚ := [2, 3]

section Decoder

variable {Image : Type} (cv2 : Cv2 Image) (b64decode : String → Option Bytes)

/-- The variants of a gray image, in order. -/
def decodeVariants (image : Image) : Generator CvError Image :=
  .yield image <|
  .afterStep (cv2.threshold image) fun otsu =>
  .yield otsu <|
  .afterStep (cv2.filter2D image) fun sharpened =>
  .afterStep (cv2.threshold sharpened) fun sharpOtsu =>
  .yield sharpOtsu <|
  .yieldAll ([otsu, sharpOtsu].flatMap fun base => UPSCALE_FACTORS.map (cv2.resize base))

/-- The texts of a detection. -/
def Detection.texts (d : Detection) : List String :=
  if d.dataStr = "" ∨ d.points = none then [] else [d.dataStr]

/-- The first text that is not empty and is base64. -/
def firstValid (texts : List String) : Option Bytes :=
  texts.findSome? fun text => if text = "" then none else b64decode text

/-- What the primary detector reads; an exception, no detection and no base64 are all the same. -/
def tryVariant (detector : Detector Image) (variant : Image) : Option Bytes :=
  match detector variant with
  | .error _ => none
  | .ok d => firstValid b64decode d.texts

/-- What an alternate detector reads. -/
def AltDetector.tryVariant : AltDetector Image → Image → Option Bytes
  | .wechat detectAndDecode, variant =>
      match detectAndDecode variant with
      | .error _ => none
      | .ok texts => firstValid b64decode (texts.getD [])
  | .aruco detectAndDecode, variant => Qr.tryVariant b64decode detectAndDecode variant

/-- The last resort, if there is an alternate detector. -/
def altDecode (alt : Option (AltDetector Image)) (image : Image) : Except CvError (Option Bytes) :=
  match alt with
  | none => .ok none
  | some detector => (decodeVariants cv2 image).firstSome (detector.tryVariant b64decode)

/-- The backend. -/
def cv2Decode (detector : Detector Image) (alt : Option (AltDetector Image)) (image : Image) :
    Except CvError (Option Bytes) := do
  if cv2.ndim image = 3 then
    match cv2.cvtColor image with
    | .error _ => return none
    | .ok gray => decodeGray gray
  else decodeGray image
where
  decodeGray (image : Image) : Except CvError (Option Bytes) := do
    match ← (decodeVariants cv2 image).firstSome (tryVariant b64decode detector) with
    | some data => return data
    | none => altDecode cv2 b64decode alt image

/-- `decode_frame` with this backend; it never raises. -/
def decodeFrame (detector : Detector Image) (alt : Option (AltDetector Image)) (image : Image) :
    Option Bytes :=
  match cv2Decode cv2 b64decode detector alt image with
  | .ok result => result
  | .error _ => none

end Decoder

/-! ## The specification

There is no generator here, and a variant is prepared whether it is needed or not.
-/

section Specification

variable {Image : Type} (cv2 : Cv2 Image) (b64decode : String → Option Bytes)

/-- The seven variants; one is missing if what it is made with raises. -/
def variants (image : Image) : List (Option Image) :=
  let otsu := (cv2.threshold image).toOption
  let sharpOtsu := (cv2.filter2D image).toOption.bind fun sharpened =>
    (cv2.threshold sharpened).toOption
  [some image, otsu, sharpOtsu] ++ [otsu, sharpOtsu].flatMap fun base =>
    UPSCALE_FACTORS.map fun factor => base.bind fun b => (cv2.resize b factor).toOption

/-- The primary detector on all variants, then the alternate one. -/
def cascade (detector : Detector Image) (alt : Option (AltDetector Image)) (image : Image) :
    Option Bytes :=
  (firstOn (tryVariant b64decode detector) (variants cv2 image)).or
    (alt.bind fun a => firstOn (a.tryVariant b64decode) (variants cv2 image))

/-- Every variant can be prepared; or the primary detector reads one before the first that cannot;
or there is nothing to be read. -/
def Prepared (detector : Detector Image) (alt : Option (AltDetector Image)) (image : Image) : Prop :=
  none ∉ variants cv2 image ∨
  (∃ v data, some v ∈ upToMissing (variants cv2 image) ∧
    tryVariant b64decode detector v = some data) ∨
  ∀ v, some v ∈ variants cv2 image →
    tryVariant b64decode detector v = none ∧ ∀ a ∈ alt, a.tryVariant b64decode v = none

end Specification

/-! ## The generator and the specification

A generator that raises yields what it has come to, and then the exception; the library of
generators says how a loop meets it.
-/

section Correctness

variable {Image : Type} {cv2 : Cv2 Image} {b64decode : String → Option Bytes}
  {detector : Detector Image} {alt : Option (AltDetector Image)} {image : Image} {data : Bytes}

/-- **The generator yields the variants**, up to the first that is missing. -/
theorem yields_decodeVariants (cv2 : Cv2 Image) (image : Image) :
    (decodeVariants cv2 image).Yields (variants cv2 image) := by
  rw [decodeVariants, variants]
  refine Generator.Yields.yield ?_ image
  rcases cv2.threshold image with e | otsu
  · exact Generator.yields_raise e _
  refine Generator.Yields.yield ?_ otsu
  rcases cv2.filter2D image with e | sharpened
  · exact Generator.yields_raise e _
  simp only [Except.toOption, Option.bind_some, Generator.afterStep]
  rcases cv2.threshold sharpened with e | sharpOtsu
  · exact Generator.yields_raise e _
  refine Generator.Yields.yield ?_ sharpOtsu
  -- only the upscaled variants are left
  have hupscaled := Generator.yields_yieldAll
    ([otsu, sharpOtsu].flatMap fun base => UPSCALE_FACTORS.map (cv2.resize base))
  exact hupscaled

/-- **The decoder on a gray image.** -/
theorem decodeFrame_cases (h : cv2.ndim image ≠ 3) :
    (∃ data, firstOn (tryVariant b64decode detector) (upToMissing (variants cv2 image)) = some data ∧
      decodeFrame cv2 b64decode detector alt image = some data) ∨
    firstOn (tryVariant b64decode detector) (upToMissing (variants cv2 image)) = none ∧
      (none ∈ variants cv2 image ∧ decodeFrame cv2 b64decode detector alt image = none ∨
        none ∉ variants cv2 image ∧
          firstOn (tryVariant b64decode detector) (variants cv2 image) = none ∧
          decodeFrame cv2 b64decode detector alt image =
            alt.bind fun a => firstOn (a.tryVariant b64decode) (variants cv2 image)) := by
  have hyields : (decodeVariants cv2 image).Yields (variants cv2 image) := yields_decodeVariants ..
  rw [decodeFrame, cv2Decode, if_neg h, cv2Decode.decodeGray]
  rcases hyields.firstSome (tryVariant b64decode detector) with ⟨data, hfound, hloop⟩ |
    ⟨hnothing, ⟨hmissing, e, hloop⟩ | ⟨hall, hwhole, hloop⟩⟩
  · rw [hloop]
    exact .inl ⟨data, hfound, rfl⟩
  · rw [hloop]
    exact .inr ⟨hnothing, .inl ⟨hmissing, rfl⟩⟩
  · refine .inr ⟨hnothing, .inr ⟨hall, hwhole, ?_⟩⟩
    rw [hloop]
    cases alt with
    | none => rfl
    | some a =>
        -- the alternate detector gets the same variants
        simp only [bind, Except.bind, altDecode, Option.bind_some]
        rcases hyields.firstSome (a.tryVariant b64decode) with ⟨data, hfound, hloop⟩ |
          ⟨-, ⟨hmissing, -⟩ | ⟨-, hnone, hloop⟩⟩
        · rw [hloop, firstOn_of_upToMissing hfound]
        · exact absurd hmissing hall
        · rw [hloop, hnone]

/-- **What the decoder returns is right.** -/
theorem cascade_of_decodeFrame (h : cv2.ndim image ≠ 3)
    (hdata : decodeFrame cv2 b64decode detector alt image = some data) :
    cascade cv2 b64decode detector alt image = some data := by
  rw [cascade]
  rcases decodeFrame_cases h with ⟨data', hfound, hdecode⟩ |
    ⟨-, ⟨-, hdecode⟩ | ⟨-, hnone, hdecode⟩⟩
  · rw [firstOn_of_upToMissing hfound, Option.some_or, ← hdecode, hdata]
  · rw [hdecode] at hdata
    cases hdata
  · rw [hnone, Option.none_or, ← hdecode, hdata]

/-- There is nothing to be read. -/
lemma cascade_eq_none : cascade cv2 b64decode detector alt image = none ↔
    ∀ v, some v ∈ variants cv2 image →
      tryVariant b64decode detector v = none ∧ ∀ a ∈ alt, a.tryVariant b64decode v = none := by
  rw [cascade, Option.or_eq_none_iff, firstOn_eq_none]
  cases alt with
  | none => simp
  | some a =>
      rw [Option.bind_some, firstOn_eq_none]
      simp only [Option.mem_some_iff, forall_eq']
      exact ⟨fun h v hv => ⟨h.1 v hv, h.2 v hv⟩, fun h => ⟨fun v hv => (h v hv).1, fun v hv => (h v hv).2⟩⟩

/-- **When the decoder meets its specification**: for a gray image, exactly if every variant can be
prepared, or the primary detector reads one before the first that cannot, or there is nothing to be
read. -/
theorem decodeFrame_eq_cascade_iff (h : cv2.ndim image ≠ 3) :
    decodeFrame cv2 b64decode detector alt image = cascade cv2 b64decode detector alt image ↔
      Prepared cv2 b64decode detector alt image := by
  rw [Prepared, ← cascade_eq_none]
  rcases decodeFrame_cases h with ⟨data, hfound, hdecode⟩ |
    ⟨hnothing, ⟨hmissing, hdecode⟩ | ⟨hall, hnone, hdecode⟩⟩
  · refine iff_of_true ?_ (.inr (.inl ?_))
    · rw [cascade_of_decodeFrame h hdecode, hdecode]
    · obtain ⟨v, hv, hread⟩ := exists_of_firstOn hfound
      exact ⟨v, data, hv, hread⟩
  · rw [hdecode]
    constructor
    · exact fun heq => .inr (.inr heq.symm)
    · rintro (hall | ⟨v, data, hv, hread⟩ | hempty)
      · exact absurd hmissing hall
      · rw [firstOn_eq_none.mp hnothing v hv] at hread
        cases hread
      · exact hempty.symm
  · refine iff_of_true ?_ (.inl hall)
    rw [hdecode, cascade, hnone, Option.none_or]

/-! ## An image that is not read

Arithmetic in place of pictures: the operations are injective, and a number says which of them have
been applied.
-/

/-- Images are numbers here: binarizing adds `1` and scaling up adds `10`, and sharpening raises. -/
def noSharpening : Cv2 ℕ where
  ndim _ := 2
  cvtColor image := .ok image
  threshold image := .ok (image + 1)
  filter2D _ := .error "filter2D"
  resize image _ := .ok (image + 10)

/-- A detector that sees the symbol on one image only, and `b64decode` of its text. -/
def seesOn (image : ℕ) : Detector ℕ := fun variant =>
  .ok (if variant = image then ⟨"aGk=", some []⟩ else ⟨"", none⟩)
/-- It knows one text. -/
def hiBase64 (text : String) : Option Bytes := if text = "aGk=" then some [104, 105] else none

/-- **A variant that cannot be prepared keeps the later ones, and the alternate detector, from being
tried.**  The symbol can be seen on the binarized image, scaled up; or, by the other detector, on
the image itself. -/
theorem variants_dropped :
    decodeFrame noSharpening hiBase64 (seesOn 11) none 0 = none ∧
    cascade noSharpening hiBase64 (seesOn 11) none 0 = some [104, 105] ∧
    decodeFrame noSharpening hiBase64 (seesOn 99) (some (.aruco (seesOn 0))) 0 = none ∧
    cascade noSharpening hiBase64 (seesOn 99) (some (.aruco (seesOn 0))) 0 = some [104, 105] := by
  decide

/-- The condition holds where the symbol is seen before the sharpening, and not where it is seen
after it. -/
theorem decodeFrame_eq_cascade_iff_noSharpening :
    Prepared noSharpening hiBase64 (seesOn 1) none 0 ∧
      ¬ Prepared noSharpening hiBase64 (seesOn 11) none 0 := by
  rw [← decodeFrame_eq_cascade_iff (by decide), ← decodeFrame_eq_cascade_iff (by decide)]
  decide

end Correctness

end PhotonTCP.Qr
