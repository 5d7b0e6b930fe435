import PhotonTCP.Qr.Decode
import PhotonTCP.Qr.Encode

/-!
# What is read of an image that was drawn

A detector may miss a symbol, but what it reports is the text that the symbol was made of.  Then the
decoder returns the frame or nothing, and never another frame.

* `reported` — the texts that a detector reports; `Legible` — it reports this text only, on every
  variant of the image.
* **`decodeFrame_of_legible`** — the frame or nothing; **`decodeFrame_of_seen`** — the frame, if the
  image itself is read.

Nothing is said about which images a detector reads.  A detector that sees nothing is allowed, and
so is one that raises; what is excluded is that it reports a text that was not drawn.  The decoder
may then go through its variants in any way and use either detector, and the frame is the only thing
it can return.

For a channel this says that images are lost and never changed.  That an image that is read returns
its frame is the other half, and needs the detector to see the image itself.
-/

namespace PhotonTCP.Qr

variable {Image : Type}

/-! ## What is reported

The texts only; the corners that a detector returns with them are not looked at.
-/

/-- The texts that the primary detector reports. -/
def reported (detector : Detector Image) (variant : Image) : List String :=
  match detector variant with
  | .error _ => []
  | .ok d => d.texts

/-- The texts that an alternate detector reports. -/
def AltDetector.reported : AltDetector Image → Image → List String
  | .wechat detectAndDecode, variant =>
      match detectAndDecode variant with
      | .error _ => []
      | .ok texts => texts.getD []
  | .aruco detectAndDecode, variant => Qr.reported detectAndDecode variant

/-- The image in gray. -/
def Cv2.gray (cv2 : Cv2 Image) (image : Image) : Except CvError Image :=
  if cv2.ndim image = 3 then cv2.cvtColor image else .ok image

/-- Nothing but this text is reported on the variants of an image. -/
structure Legible (cv2 : Cv2 Image) (detector : Detector Image) (alt : Option (AltDetector Image))
    (text : String) (image : Image) : Prop where
  primary : ∀ gray, cv2.gray image = .ok gray → ∀ v, some v ∈ variants cv2 gray →
    ∀ t ∈ reported detector v, t = "" ∨ t = text
  alternate : ∀ gray, cv2.gray image = .ok gray → ∀ v, some v ∈ variants cv2 gray →
    ∀ a ∈ alt, ∀ t ∈ a.reported v, t = "" ∨ t = text

section Reading

variable {cv2 : Cv2 Image} {detector : Detector Image} {alt : Option (AltDetector Image)}
  {text : String} {image : Image} {data data' : Bytes}

lemma tryVariant_eq (detector : Detector Image) (v : Image) :
    tryVariant b64decode detector v = firstValid b64decode (reported detector v) := by
  rw [tryVariant, reported]
  cases detector v with
  | error e => rfl
  | ok d => rfl

lemma AltDetector.tryVariant_eq (a : AltDetector Image) (v : Image) :
    a.tryVariant b64decode v = firstValid b64decode (a.reported v) := by
  cases a with
  | wechat detectAndDecode =>
      simp only [AltDetector.tryVariant, AltDetector.reported]
      cases detectAndDecode v with
      | error e => rfl
      | ok texts => rfl
  | aruco detectAndDecode => exact Qr.tryVariant_eq detectAndDecode v

/-- What is made of texts that are all the same. -/
lemma eq_of_firstValid {texts : List String} (hsame : ∀ t ∈ texts, t = "" ∨ t = b64encode data)
    (h : firstValid b64decode texts = some data') : data' = data := by
  obtain ⟨t, ht, hdecode⟩ := List.exists_of_findSome?_eq_some h
  split_ifs at hdecode with hempty
  obtain rfl : t = b64encode data := (hsame t ht).resolve_left hempty
  rw [b64decode_b64encode] at hdecode
  exact (Option.some.inj hdecode).symm

/-- The same operations, where every image is gray. -/
def Cv2.onGray (cv2 : Cv2 Image) : Cv2 Image := { cv2 with ndim := fun _ => 2 }

/-- The image is decoded in gray. -/
lemma decodeFrame_eq_bind (cv2 : Cv2 Image) (detector : Detector Image)
    (alt : Option (AltDetector Image)) (image : Image) :
    decodeFrame cv2 b64decode detector alt image =
      (cv2.gray image).toOption.bind (decodeFrame cv2.onGray b64decode detector alt) := by
  rw [decodeFrame, cv2Decode, Cv2.gray]
  split_ifs
  · cases cv2.cvtColor image with
    | error e => rfl
    | ok gray => rfl
  · rfl

/-- What is read on a variant of a legible image. -/
lemma Legible.firstOn_eq {vs : List (Option Image)} {read : Image → List String}
    (hread : ∀ v, some v ∈ vs → ∀ t ∈ read v, t = "" ∨ t = b64encode data)
    (h : Generator.firstOn (fun v => firstValid b64decode (read v)) vs = some data') : data' = data := by
  obtain ⟨v, hv, hfirst⟩ := Generator.exists_of_firstOn h
  exact eq_of_firstValid (hread v hv) hfirst

/-- **Of an image that was drawn, the frame is decoded or nothing.** -/
theorem decodeFrame_of_legible (h : Legible cv2 detector alt (b64encode data) image)
    (hdecode : decodeFrame cv2 b64decode detector alt image = some data') : data' = data := by
  rw [decodeFrame_eq_bind, Option.bind_eq_some_iff] at hdecode
  obtain ⟨gray, hgray, hdecode⟩ := hdecode
  have hgray : cv2.gray image = .ok gray := by
    cases hresult : cv2.gray image with
    | error e => rw [hresult] at hgray; cases hgray
    | ok gray' => rw [hresult] at hgray; exact congrArg Except.ok (Option.some.inj hgray)
  have hcascade : cascade cv2.onGray b64decode detector alt gray = some data' :=
    cascade_of_decodeFrame (show (2 : ℕ) ≠ 3 by decide) hdecode
  rw [cascade, Option.or_eq_some_iff] at hcascade
  rcases hcascade with hprimary | ⟨-, halternate⟩
  · refine Legible.firstOn_eq (h.primary gray hgray) ?_
    rw [← hprimary]
    exact congrArg (Generator.firstOn · _) (funext fun v => (tryVariant_eq detector v).symm)
  · obtain ⟨a, ha, halternate⟩ := Option.bind_eq_some_iff.mp halternate
    refine Legible.firstOn_eq (fun v hv => h.alternate gray hgray v hv a ha) ?_
    rw [← halternate]
    exact congrArg (Generator.firstOn · _) (funext fun v => (a.tryVariant_eq v).symm)

/-- **An image that the detector reads is decoded**, and no variant of it is tried. -/
theorem decodeFrame_of_seen (hdata : data ≠ []) (hgray : cv2.ndim image ≠ 3)
    (h : reported detector image = [b64encode data]) :
    decodeFrame cv2 b64decode detector alt image = some data := by
  have htry : tryVariant b64decode detector image = some data := by
    rw [tryVariant_eq, h, firstValid, List.findSome?_singleton, if_neg (mt b64encode_eq_empty.mp hdata),
      b64decode_b64encode]
  rw [decodeFrame, cv2Decode, if_neg hgray, cv2Decode.decodeGray, decodeVariants, Generator.firstSome,
    htry]
  rfl

end Reading

end PhotonTCP.Qr
