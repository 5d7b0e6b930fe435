import Mathlib.Data.Finset.Basic
import Mathlib.Data.List.Sort
import PhotonTCP.Foundation.ByteRecord
import PhotonTCP.Packet.Types

/-!
# The optical channel

Every frame that is shown starts with a rolling two-byte nonce; the capture loop drops what it has
delivered recently and strips the nonce of the rest.

QR coding enters as parameters: whether a frame fits a symbol, and what an image decodes to.  Pacing
and the capture thread do not change what is shown or delivered.

* `OpticalSender`, `sendFrame` — the sending side.
* `RecentWindow` — the deque of the frames delivered last and the set that mirrors it, in step by
  construction.
* `Receiver`, `captureStep` — one turn of the capture loop.

A camera is faster than a display, so it captures a frame many times; and a sender may transmit the
same packet again.  The nonce tells these apart.  A captured frame is compared with those that were
delivered last, nonce and all: one that is equal to one of them was captured again, and a packet
that was sent again has another nonce.

The window is kept twice, as a deque for the order and as a set for the membership.  The record
below carries the proof that the two agree, so that a window in which they do not cannot be written
down, and `record` has to give it again.
-/

namespace PhotonTCP

namespace Optical

/-- Width of the nonce. -/
def NONCE_BYTES : ℕ := 2

/-- Number of delivered frames that are remembered. -/
def DEDUP_DEPTH : ℕ := 8

/-! ## Sending

The nonce is counted modulo `256 ^ NONCE_BYTES`, and is not advanced by a frame that is refused.
-/

/-- The sending side, with the frames it has shown so far. -/
structure OpticalSender where
  closed : Bool := false
  sendNonce : ℕ := 0
  shown : List Bytes := []

/-- What `encode_frame` raises for a frame that no symbol can hold. -/
inductive SendError where
  | QRCapacityError
deriving DecidableEq

variable (fitsSymbol : Bytes → Bool)

/-- Show one frame; only a frame that was shown uses its nonce up. -/
def sendFrame (ch : OpticalSender) (frame : Bytes) : Except SendError Unit × OpticalSender :=
  if ch.closed then (.ok (), ch)
  else
    let nonce := ch.sendNonce
    let channelFrame := ByteRecord.encode NONCE_BYTES nonce ++ frame
    if fitsSymbol channelFrame then
      (.ok (), { ch with
        shown := ch.shown ++ [channelFrame]
        sendNonce := (nonce + 1) % 256 ^ NONCE_BYTES })
    else (.error .QRCapacityError, ch)

/-- Successive sends. -/
def sendFrames (ch : OpticalSender) (frames : List Bytes) : OpticalSender :=
  frames.foldl (fun ch frame => (sendFrame fitsSymbol ch frame).2) ch

/-! ## The window

A deque with a `maxlen` drops its first item when it is full.  The source removes that item from the
set before it appends, and the lemmas here say that this is the right one: no other item of the
deque is equal to it.
-/

/-- The frames delivered last, oldest first, and the set of them. -/
structure RecentWindow where
  recent : List Bytes
  recentSet : Finset Bytes
  mirror : recentSet = recent.toFinset
  nodup : recent.Nodup
  length_le : recent.length ≤ DEDUP_DEPTH

namespace RecentWindow

/-- Nothing was delivered yet. -/
def empty : RecentWindow := ⟨[], ∅, rfl, List.nodup_nil, Nat.zero_le _⟩

variable {w : RecentWindow} {frame : Bytes}

lemma mem_recentSet : frame ∈ w.recentSet ↔ frame ∈ w.recent := by
  rw [w.mirror, List.mem_toFinset]

/-- The set without the item that the deque is about to drop. -/
def evicted (w : RecentWindow) : Finset Bytes :=
  if w.recent.length = DEDUP_DEPTH then w.recentSet \ (w.recent.take 1).toFinset else w.recentSet

/-- The deque without it: its `maxlen` is the depth. -/
def kept (w : RecentWindow) : List Bytes :=
  if w.recent.length = DEDUP_DEPTH then w.recent.drop 1 else w.recent

lemma kept_subset (w : RecentWindow) : w.kept ⊆ w.recent := by
  rw [kept]
  split_ifs
  · exact List.drop_subset 1 w.recent
  · exact List.Subset.refl _

/-- **Eviction removes exactly the item the deque drops.** -/
theorem evicted_eq (w : RecentWindow) : w.evicted = w.kept.toFinset := by
  rw [evicted, kept, w.mirror]
  split_ifs with hfull
  · cases hr : w.recent with
    | nil => simp
    | cons oldest rest =>
        have hnotin : oldest ∉ rest := (List.nodup_cons.mp (hr ▸ w.nodup)).1
        ext x
        simp only [List.take_succ_cons, List.take_zero, List.toFinset_cons, List.toFinset_nil,
          insert_empty_eq, Finset.mem_sdiff, Finset.mem_insert, List.mem_toFinset,
          Finset.mem_singleton, List.drop_succ_cons, List.drop_zero]
        constructor
        · rintro ⟨rfl | hmem, hne⟩
          · exact absurd rfl hne
          · exact hmem
        · intro hmem
          exact ⟨Or.inr hmem, fun heq => hnotin (heq ▸ hmem)⟩
  · rfl

lemma length_kept (w : RecentWindow) : w.kept.length + 1 ≤ DEDUP_DEPTH := by
  have := w.length_le
  rw [kept]
  split_ifs with hfull
  · rw [List.length_drop]
    have : 0 < DEDUP_DEPTH := by decide
    omega
  · omega

/-- Record a delivered frame. -/
def record (w : RecentWindow) (frame : Bytes) (h : frame ∉ w.recentSet) : RecentWindow where
  recent := w.kept ++ [frame]
  recentSet := insert frame w.evicted
  mirror := by
    rw [evicted_eq]
    ext x
    simp
  nodup := by
    have hnotin : frame ∉ w.kept := fun hmem => h (mem_recentSet.mpr (w.kept_subset hmem))
    have hkept : w.kept.Nodup := by
      rw [kept]
      split_ifs
      · exact w.nodup.sublist (List.drop_sublist 1 _)
      · exact w.nodup
    rw [List.nodup_append]
    exact ⟨hkept, List.nodup_singleton _, by
      rintro x hx y hy rfl
      rw [List.mem_singleton] at hy
      exact hnotin (hy ▸ hx)⟩
  length_le := by
    rw [List.length_append]
    exact w.length_kept

end RecentWindow

/-! ## Receiving

A read can fail, can return the array of the read before, or an image that does not decode; all of
these are skipped.  What remains is delivered or dropped by the window.
-/

/-- An array that the camera returned; arrays are compared by identity. -/
structure Image where
  identity : ℕ
  pixels : Bytes
deriving DecidableEq

/-- The capture loop's variables, and what it has put into the inbox. -/
structure Receiver where
  lastDecodedArray : Option ℕ := none
  window : RecentWindow := .empty
  inbox : List Bytes := []

namespace Receiver

/-- De-duplicate and deliver a decoded frame. -/
def deliver (r : Receiver) (channelFrame : Bytes) : Receiver :=
  if channelFrame.length < NONCE_BYTES then r
  else if h : channelFrame ∈ r.window.recentSet then r
  else { r with
    inbox := r.inbox ++ [channelFrame.drop NONCE_BYTES]
    window := r.window.record channelFrame h }

variable (decodeFrame : Image → Option Bytes)

/-- One turn of the capture loop, with what the camera returned in it. -/
def captureStep (r : Receiver) (read : Option Image) : Receiver :=
  match read with
  | none => r
  | some img =>
      if some img.identity = r.lastDecodedArray then r
      else
        match decodeFrame img with
        | none => { r with lastDecodedArray := some img.identity }
        | some channelFrame =>
            { r with lastDecodedArray := some img.identity }.deliver channelFrame

/-- The capture loop. -/
def captureLoop (r : Receiver) (reads : List (Option Image)) : Receiver :=
  reads.foldl (captureStep decodeFrame) r

/-- The captures that are decoded: all reads but the failed ones, the arrays that were decoded just
before, and what does not decode. -/
def decodedCaptures : Option ℕ → List (Option Image) → List Bytes
  | _, [] => []
  | last, none :: reads => decodedCaptures last reads
  | last, some img :: reads =>
      if some img.identity = last then decodedCaptures last reads
      else (decodeFrame img).toList ++ decodedCaptures (some img.identity) reads

variable {decodeFrame} {r : Receiver}

/-- Delivering does not look at the array that was decoded last. -/
lemma deliver_withLast (r : Receiver) (last : Option ℕ) (channelFrame : Bytes) :
    { r with lastDecodedArray := last }.deliver channelFrame
      = { r.deliver channelFrame with lastDecodedArray := last } := by
  rw [deliver, deliver]
  split_ifs <;> rfl

lemma foldl_deliver_withLast (last : Option ℕ) (frames : List Bytes) (r : Receiver) :
    frames.foldl deliver { r with lastDecodedArray := last }
      = { frames.foldl deliver r with lastDecodedArray := last } := by
  induction frames generalizing r with
  | nil => rfl
  | cons frame frames ih => rw [List.foldl_cons, deliver_withLast, ih, List.foldl_cons]

/-- **The loop delivers the decoded captures, in order.** -/
theorem captureLoop_eq (decodeFrame : Image → Option Bytes) (reads : List (Option Image))
    (r : Receiver) :
    ∃ last, r.captureLoop decodeFrame reads =
      { (decodedCaptures decodeFrame r.lastDecodedArray reads).foldl deliver r with
        lastDecodedArray := last } := by
  induction reads generalizing r with
  | nil => exact ⟨r.lastDecodedArray, rfl⟩
  | cons read reads ih =>
      obtain ⟨last, hlast⟩ := ih (r.captureStep decodeFrame read)
      refine ⟨last, ?_⟩
      rw [captureLoop, List.foldl_cons, ← captureLoop, hlast]
      cases read with
      | none => rfl
      | some img =>
          rw [captureStep, decodedCaptures]
          dsimp only
          split_ifs with hsame
          · rfl
          · cases hdecode : decodeFrame img with
            | none =>
                dsimp only
                rw [foldl_deliver_withLast]
                rfl
            | some channelFrame =>
                dsimp only
                rw [deliver_withLast, foldl_deliver_withLast]
                rfl

end Receiver

end Optical

end PhotonTCP
