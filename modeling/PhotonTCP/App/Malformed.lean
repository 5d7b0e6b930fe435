import PhotonTCP.App.FileCodec

/-!
# Malformed streams

When a call of `feed` takes frames off the buffer and then meets a malformed one, it raises, and the
frames it has taken are neither returned nor left in the buffer.

* **`frames_before_error`** — for both reassemblers: nothing is lost exactly if some call ends
  between the last frame before the malformed one and the byte that shows the error.
* **`frame_lost`** — a frame that is lost, and the cut that saves it.

What is lost this way was received in full and acknowledged, so the peer will not send it again.
Which frames are concerned depends on how the bytes are cut, and so on the transport: one piece that
holds a frame and malformed bytes behind it loses the frame, and the same bytes in two pieces do
not.  The malformed bytes stay at the front of the buffer, so that every later call raises too.
-/

namespace PhotonTCP

/-- **Which frames are returned before the error.**  `scan` reads the stream as a whole: all the
frames before the first malformed one. -/
theorem frames_before_error (loads : JsonLoads) (pieces : List Bytes) :
    (Framing.untilError (FileFrameReassembler.feeds {} pieces).1
        = (fileFraming.scan pieces.flatten).frames ↔
      ((fileFraming.scan pieces.flatten).error ≠ none → fileFraming.CutBefore pieces)) ∧
    (Framing.untilError (StreamReassembler.feeds loads {} pieces).1
        = ((chatFraming loads).scan pieces.flatten).frames ↔
      (((chatFraming loads).scan pieces.flatten).error ≠ none →
        (chatFraming loads).CutBefore pieces)) := by
  rw [FileFrameReassembler.feeds_eq, StreamReassembler.feeds_eq]
  exact ⟨Framing.untilError_feeds_iff pieces, Framing.untilError_feeds_iff pieces⟩

/-- **A frame is lost with the error behind it**, unless the bytes are cut between the two. -/
theorem frame_lost :
    Framing.untilError (FileFrameReassembler.feeds {} [[0, 0, 0, 2, 0, 7, 0, 0, 0, 0]]).1 = [] ∧
    Framing.untilError (FileFrameReassembler.feeds {} [[0, 0, 0, 2, 0, 7], [0, 0, 0, 0]]).1
      = [⟨.Offer, [7]⟩] := by
  decide +kernel

end PhotonTCP
