import PhotonTCP.Channel.Loopback

/-!
# A pair of loopback channels

`pair` wires two channels crosswise: what one end puts into its outbox is what the other takes out
of its inbox, oldest first.

* `LoopbackChannel.pair`, `recvFrame`, `close` — the rest of the channel's operations.
* `LoopbackChannel.recvFrames` — polls until there is nothing, as a cycle of a session does;
  **`recvFrames_eq`**.
* `Passes` — everything on a channel has been sent, or is refused; **`Passes.sendFrames`** and its
  like.

A channel has no inbox of its own in this model.  Its inbox is the outbox of its partner, so
receiving is an operation on both, and what one end has sent is in one place.  Closing an end stops
what it sends and what it receives.  What it has put into its outbox stays there for the partner,
but a frame that is still held back is gone.
-/

namespace PhotonTCP

namespace LoopbackChannel

/-- Two channels with the same noise. -/
def pair (loss dup corrupt reorder : ℚ := 0) : LoopbackChannel × LoopbackChannel :=
  ({ loss, dup, corrupt, reorder }, { loss, dup, corrupt, reorder })

/-- Take the next frame out of the inbox, which is the partner's outbox; a closed channel takes
none. -/
def recvFrame (c partner : LoopbackChannel) : Option Bytes × LoopbackChannel :=
  if c.closed then (none, partner)
  else
    match partner.outbox with
    | [] => (none, partner)
    | frame :: rest => (some frame, { partner with outbox := rest })

/-- Close the channel; a frame that is held back is dropped. -/
def close (c : LoopbackChannel) : LoopbackChannel := { c with closed := true, reorderHeld := none }

/-- Poll so many times, or until there is nothing. -/
def recvFrames (c : LoopbackChannel) : ℕ → LoopbackChannel → List Bytes × LoopbackChannel
  | 0, partner => ([], partner)
  | polls + 1, partner =>
      match c.recvFrame partner with
      | (none, partner) => ([], partner)
      | (some frame, partner) =>
          let (frames, partner) := recvFrames c polls partner
          (frame :: frames, partner)

/-- **The frames come out in the order in which they were put in.** -/
theorem recvFrames_eq {c : LoopbackChannel} (hopen : c.closed = false) : ∀ (polls : ℕ)
    (partner : LoopbackChannel), c.recvFrames polls partner =
      (partner.outbox.take polls, { partner with outbox := partner.outbox.drop polls })
  | 0, partner => rfl
  | polls + 1, partner => by
      rw [recvFrames, recvFrame, if_neg (by simp [hopen])]
      obtain ⟨outbox, reorderHeld, closed, loss, dup, corrupt, reorder⟩ := partner
      cases outbox with
      | nil => rfl
      | cons frame rest =>
          simp only [recvFrames_eq hopen polls]
          rfl

lemma recvFrames_closed {c : LoopbackChannel} (hclosed : c.closed = true) (polls : ℕ)
    (partner : LoopbackChannel) : c.recvFrames polls partner = ([], partner) := by
  cases polls with
  | zero => rfl
  | succ polls => rw [recvFrames, recvFrame, if_pos hclosed]

/-! ## What is on a channel

An invariant over sends, receives and closing, with the list of what was ever sent as its parameter.
-/

/-- Everything that the channel holds or has put into its outbox has been sent, or is refused with a
packet error. -/
def Passes (c : LoopbackChannel) (sent : List Bytes) : Prop :=
  ∀ x ∈ c.frames, x ∈ sent ∨ ∃ e, Packet.unpack zlibCrc32 x = .error (.PacketError e)

namespace Passes

variable {c partner : LoopbackChannel} {sent sent' : List Bytes}

lemma mono (h : c.Passes sent) (hsub : sent ⊆ sent') : c.Passes sent' :=
  fun x hx => (h x hx).imp (fun hold => hsub hold) id

/-- **Encoded packets are sent**, whatever the noise. -/
theorem sendFrames (h : c.Passes sent) {sends : List (Draws × Bytes)}
    (hsends : ∀ s ∈ sends, ∃ p : Packet, p.pack zlibCrc32 = some s.2) :
    (c.sendFrames sends).Passes (sent ++ sends.map Prod.snd) := by
  intro x hx
  rcases mem_frames_sendFrames hx with hold | ⟨s, hs, rfl | rfl⟩
  · exact (h x hold).imp (List.mem_append_left _) id
  · exact .inl (List.mem_append_right _ (List.mem_map_of_mem hs))
  · obtain ⟨p, hp⟩ := hsends s hs
    exact .inr (unpack_corruptFrame hp s.1)

/-- Frames are taken out. -/
theorem recvFrames (h : partner.Passes sent) (c : LoopbackChannel) (polls : ℕ) :
    (c.recvFrames polls partner).2.Passes sent ∧
      ∀ x ∈ (c.recvFrames polls partner).1,
        x ∈ sent ∨ ∃ e, Packet.unpack zlibCrc32 x = .error (.PacketError e) := by
  cases hclosed : c.closed with
  | true =>
      rw [recvFrames_closed hclosed]
      exact ⟨h, by simp⟩
  | false =>
      rw [recvFrames_eq hclosed]
      constructor
      · intro x hx
        refine h x ?_
        rcases List.mem_append.mp hx with hout | hheld
        · exact List.mem_append_left _ (List.drop_subset _ _ hout)
        · exact List.mem_append_right _ hheld
      · intro x hx
        exact h x (List.mem_append_left _ (List.take_subset _ _ hx))

lemma close (h : c.Passes sent) : c.close.Passes sent := by
  intro x hx
  refine h x ?_
  rw [frames, LoopbackChannel.close] at hx
  simp only [Option.toList_none, List.append_nil] at hx
  exact List.mem_append_left _ hx

/-- Nothing is on a new channel. -/
lemma pair (loss dup corrupt reorder : ℚ) :
    (LoopbackChannel.pair loss dup corrupt reorder).1.Passes [] ∧
      (LoopbackChannel.pair loss dup corrupt reorder).2.Passes [] := by
  constructor <;> intro x hx <;> exact absurd hx List.not_mem_nil

end Passes

end LoopbackChannel

end PhotonTCP
