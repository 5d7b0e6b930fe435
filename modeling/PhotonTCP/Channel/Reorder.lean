import PhotonTCP.Channel.Loopback

/-!
# The reorder noise

A frame whose reorder draw hits is held back in a one-slot buffer.  Whatever comes next, the held
frame is released *before* it, so the buffer delays and never swaps.

* `Hits` — the draw that holds a frame back.
* `sendFrame_noiseless`, `frames_sendFrames` — without the other noise, what has been passed on and
  what is held is what was sent, in the order in which it was sent.
* `Swaps` — the swap that the class documentation describes; `NoneToSwap` — there is nothing to
  swap.
* **`swaps_iff`** — the channel swaps exactly if there is nothing to swap; `heldFirst` is a run in
  which there is.

To swap two frames, a channel has to hold back the first, pass on the second, and then release the
first.  The code releases what it holds before it passes anything on, whether the next frame is held
in its turn or not.  So a hit delays a frame by one send and changes nothing else, and the other
three kinds of noise have to be switched off to see it.

Where there are no two different frames to swap the documentation is right all the same: when no hit
is followed by a miss, or when the two frames are equal, so that swapping them cannot be seen.
-/

namespace PhotonTCP

/-- `random()` is never negative. -/
structure Draws.Drawn (d : Draws) : Prop where
  loss : 0 ≤ d.loss
  corrupt : 0 ≤ d.corrupt
  dup : 0 ≤ d.dup

namespace LoopbackChannel

/-- The reorder draw of a frame hits. -/
def Hits (reorder : ℚ) (s : Draws × Bytes) : Prop := s.1.reorder.1 < reorder

instance (reorder : ℚ) (s : Draws × Bytes) : Decidable (Hits reorder s) :=
  inferInstanceAs (Decidable (_ < _))

/-- A channel without other noise. -/
structure Noiseless (c : LoopbackChannel) : Prop where
  closed : c.closed = false
  loss : c.loss = 0
  dup : c.dup = 0
  corrupt : c.corrupt = 0

variable {c : LoopbackChannel} {s t : Draws × Bytes} {sends : List (Draws × Bytes)}

/-! ## What a send does

One equation for a hit and one for a miss.
-/

/-- Without other noise only the delay buffer works. -/
lemma sendFrame_noiseless (hc : c.Noiseless) (hs : s.1.Drawn) :
    c.sendFrame s.1 s.2 =
      { c with
        outbox := c.outbox ++ (delay c.reorder [] c.reorderHeld s.2 s.1.reorder.1).1
        reorderHeld := (delay c.reorder [] c.reorderHeld s.2 s.1.reorder.1).2 } := by
  have hsurvivors : c.survivors s.1 s.2 = [s.2] := by
    rw [survivors, hc.loss, hc.corrupt, hc.dup, if_neg (not_lt.mpr hs.loss)]
    dsimp only
    rw [if_neg (not_lt.mpr hs.corrupt), if_neg (not_lt.mpr hs.dup)]
  rw [sendFrame, if_neg (by simp [hc.closed]), hsurvivors]
  rfl

lemma sendFrame_hits (hc : c.Noiseless) (hs : s.1.Drawn) (hhits : Hits c.reorder s) :
    c.sendFrame s.1 s.2 =
      { c with outbox := c.outbox ++ c.reorderHeld.toList, reorderHeld := some s.2 } := by
  rw [sendFrame_noiseless hc hs, delay, if_pos (show s.1.reorder.1 < c.reorder from hhits)]
  rfl

lemma sendFrame_misses (hc : c.Noiseless) (hs : s.1.Drawn) (hmisses : ¬ Hits c.reorder s) :
    c.sendFrame s.1 s.2 =
      { c with outbox := c.outbox ++ (c.reorderHeld.toList ++ [s.2]), reorderHeld := none } := by
  rw [sendFrame_noiseless hc hs, delay, if_neg (show ¬ s.1.reorder.1 < c.reorder from hmisses)]
  simp

/-- A send keeps the noise profile. -/
lemma sendFrame_frame (c : LoopbackChannel) (d : Draws) (frame : Bytes) :
    ∃ outbox reorderHeld, c.sendFrame d frame = { c with outbox, reorderHeld } := by
  rw [sendFrame]
  split_ifs
  · exact ⟨_, _, rfl⟩
  · exact ⟨_, _, rfl⟩

lemma Noiseless.sendFrame (hc : c.Noiseless) (d : Draws) (frame : Bytes) :
    (c.sendFrame d frame).Noiseless ∧ (c.sendFrame d frame).reorder = c.reorder := by
  obtain ⟨outbox, reorderHeld, h⟩ := c.sendFrame_frame d frame
  rw [h]
  exact ⟨⟨hc.closed, hc.loss, hc.dup, hc.corrupt⟩, rfl⟩

/-- **The delay buffer keeps the order.** -/
theorem frames_sendFrame (hc : c.Noiseless) (hs : s.1.Drawn) :
    (c.sendFrame s.1 s.2).frames = c.frames ++ [s.2] := by
  by_cases hhits : Hits c.reorder s
  · simp [sendFrame_hits hc hs hhits, frames]
  · simp [sendFrame_misses hc hs hhits, frames]

lemma Noiseless.sendFrames : ∀ (sends : List (Draws × Bytes)) {c : LoopbackChannel},
    c.Noiseless → (c.sendFrames sends).Noiseless ∧ (c.sendFrames sends).reorder = c.reorder
  | [], c, hc => ⟨hc, rfl⟩
  | s :: sends, c, hc => by
      obtain ⟨hnext, hreorder⟩ := hc.sendFrame s.1 s.2
      obtain ⟨hlast, hsame⟩ := Noiseless.sendFrames sends hnext
      exact ⟨hlast, hsame.trans hreorder⟩

/-- **At every point the frames that have been passed on and the one that is held are the frames
that were sent, in this order.** -/
theorem frames_sendFrames : ∀ (sends : List (Draws × Bytes)) {c : LoopbackChannel},
    c.Noiseless → (∀ s ∈ sends, s.1.Drawn) →
      (c.sendFrames sends).frames = c.frames ++ sends.map Prod.snd
  | [], c, _, _ => by simp [sendFrames]
  | s :: sends, c, hc, hdrawn => by
      obtain ⟨hs, hrest⟩ := List.forall_mem_cons.mp hdrawn
      have ih := frames_sendFrames sends (hc.sendFrame s.1 s.2).1 hrest
      calc (c.sendFrames (s :: sends)).frames
          = ((c.sendFrame s.1 s.2).sendFrames sends).frames := rfl
        _ = (c.sendFrame s.1 s.2).frames ++ sends.map Prod.snd := ih
        _ = c.frames ++ (s :: sends).map Prod.snd := by simp [frames_sendFrame hc hs]

lemma sendFrames_append (c : LoopbackChannel) (sends more : List (Draws × Bytes)) :
    c.sendFrames (sends ++ more) = (c.sendFrames sends).sendFrames more :=
  List.foldl_append ..

/-- Something is held exactly if the last draw hit. -/
lemma reorderHeld_sendFrames (hc : c.Noiseless) (hheld : c.reorderHeld = none)
    (hdrawn : ∀ s ∈ sends, s.1.Drawn) :
    (c.sendFrames sends).reorderHeld = none ↔ ∀ s ∈ sends.getLast?, ¬ Hits c.reorder s := by
  induction sends using List.reverseRecOn with
  | nil => simp [sendFrames, hheld]
  | append_singleton sends s _ =>
      have hs := hdrawn s (by simp)
      obtain ⟨hlast, hreorder⟩ := Noiseless.sendFrames sends hc
      have hstep : c.sendFrames (sends ++ [s]) = (c.sendFrames sends).sendFrame s.1 s.2 := by
        rw [sendFrames_append]
        rfl
      rw [hstep, List.getLast?_concat]
      by_cases hhits : Hits c.reorder s
      · simp [sendFrame_hits hlast hs (by rwa [hreorder]), hhits]
      · simp [sendFrame_misses hlast hs (by rwa [hreorder]), hhits]

/-! ## The swap

What the documentation says, as a property of the channel at every point of a run.
-/

/-- When a frame is held back with nothing held before it and the next frame is not, the partner
receives the next frame first. -/
def Swaps (c : LoopbackChannel) (sends : List (Draws × Bytes)) : Prop :=
  ∀ before s t after, sends = before ++ s :: t :: after →
    (c.sendFrames before).reorderHeld = none → Hits c.reorder s → ¬ Hits c.reorder t →
      (c.sendFrames (before ++ [s, t])).outbox = (c.sendFrames before).outbox ++ [t.2, s.2]

/-- No two different frames are to be swapped: after a draw that missed, or at the beginning, no
hit is followed by a miss. -/
def NoneToSwap (reorder : ℚ) (sends : List (Draws × Bytes)) : Prop :=
  ∀ before s t after, sends = before ++ s :: t :: after →
    (∀ r ∈ before.getLast?, ¬ Hits reorder r) → Hits reorder s → ¬ Hits reorder t → s.2 = t.2

/-- What happens instead: the held frame goes first. -/
lemma outbox_heldFirst (hc : c.Noiseless) (hheld : c.reorderHeld = none) (hs : s.1.Drawn)
    (ht : t.1.Drawn) (hhits : Hits c.reorder s) (hmisses : ¬ Hits c.reorder t) :
    (c.sendFrames [s, t]).outbox = c.outbox ++ [s.2, t.2] := by
  obtain ⟨hnext, hreorder⟩ := hc.sendFrame s.1 s.2
  have hsecond := sendFrame_misses (s := t) hnext ht (by rwa [hreorder])
  have htwo : c.sendFrames [s, t] = (c.sendFrame s.1 s.2).sendFrame t.1 t.2 := rfl
  rw [htwo, hsecond, sendFrame_hits hc hs hhits, hheld]
  simp

/-- **The reorder noise never reorders**: it swaps a held frame with the next one exactly if there
are no two different frames to swap, and at every point the frames received and the one held are
those sent, none lost, none duplicated and none out of order. -/
theorem swaps_iff (reorder : ℚ) (sends : List (Draws × Bytes)) (hdrawn : ∀ s ∈ sends, s.1.Drawn) :
    (Swaps { reorder } sends ↔ NoneToSwap reorder sends) ∧
      ∀ sent, sent <+: sends →
        (({ reorder } : LoopbackChannel).sendFrames sent).frames = sent.map Prod.snd := by
  have hc : Noiseless { reorder } := ⟨rfl, rfl, rfl, rfl⟩
  have hplaces : ∀ before s t after, sends = before ++ s :: t :: after →
      (∀ r ∈ before, r.1.Drawn) ∧ s.1.Drawn ∧ t.1.Drawn := by
    rintro before s t after rfl
    exact ⟨fun r hr => hdrawn r (by simp [hr]), hdrawn s (by simp), hdrawn t (by simp)⟩
  have hplace : ∀ before s t after, sends = before ++ s :: t :: after →
      ((({ reorder } : LoopbackChannel).sendFrames before).reorderHeld = none ↔
        ∀ r ∈ before.getLast?, ¬ Hits reorder r) ∧
      ((({ reorder } : LoopbackChannel).sendFrames before).reorderHeld = none →
        Hits reorder s → ¬ Hits reorder t →
        ((({ reorder } : LoopbackChannel).sendFrames (before ++ [s, t])).outbox =
          (({ reorder } : LoopbackChannel).sendFrames before).outbox ++ [t.2, s.2] ↔ s.2 = t.2)) := by
    intro before s t after hsends
    obtain ⟨hbefore, hs, ht⟩ := hplaces before s t after hsends
    obtain ⟨hthere, hreorder⟩ := Noiseless.sendFrames before hc
    refine ⟨reorderHeld_sendFrames hc rfl hbefore, fun hheld hhits hmisses => ?_⟩
    rw [sendFrames_append,
      outbox_heldFirst hthere hheld hs ht (by rwa [hreorder]) (by rwa [hreorder])]
    simp only [List.append_cancel_left_eq, List.cons.injEq, and_true]
    exact ⟨fun h => h.1, fun h => ⟨h, h.symm⟩⟩
  refine ⟨⟨?_, ?_⟩, ?_⟩
  · intro h before s t after hsends hlast hhits hmisses
    obtain ⟨hheld, hout⟩ := hplace before s t after hsends
    exact (hout (hheld.mpr hlast) hhits hmisses).mp
      (h before s t after hsends (hheld.mpr hlast) hhits hmisses)
  · intro h before s t after hsends hnone hhits hmisses
    obtain ⟨hheld, hout⟩ := hplace before s t after hsends
    exact (hout hnone hhits hmisses).mpr
      (h before s t after hsends (hheld.mp hnone) hhits hmisses)
  · rintro sent ⟨rest, rfl⟩
    rw [frames_sendFrames _ hc fun s hs => hdrawn s (by simp [hs])]
    simp [frames]

/-- Draws whose reorder draw is `x`. -/
def reorderDraw (x : ℚ) : Draws where
  loss := 0
  corrupt := 0
  dup := 0
  reorder := (x, 0)
  randrange := fun h => ⟨0, h⟩
  mask := ⟨1, by simp⟩

/-- The first frame is held back and the second is not. -/
def heldRun : List (Draws × Bytes) := [(reorderDraw (1 / 4), [1]), (reorderDraw (3 / 4), [2])]

lemma drawn_heldRun : ∀ s ∈ heldRun, s.1.Drawn := by
  simp only [heldRun, List.mem_cons, List.not_mem_nil, or_false]
  rintro s (rfl | rfl) <;> exact ⟨le_rfl, le_rfl, le_rfl⟩

/-- Both frames are held back. -/
def heldTwice : List (Draws × Bytes) := [(reorderDraw (1 / 4), [1]), (reorderDraw (1 / 4), [2])]

/-- No hit is followed by a miss, so there is nothing to swap. -/
theorem swaps_iff_heldTwice : Swaps { reorder := 1 / 2 } heldTwice := by
  refine (swaps_iff (1 / 2) heldTwice ?_).1.mpr ?_
  · simp only [heldTwice, List.mem_cons, List.not_mem_nil, or_false]
    rintro s (rfl | rfl) <;> exact ⟨le_rfl, le_rfl, le_rfl⟩
  · intro before s t after hsends _ _ hmisses
    have ht : t ∈ heldTwice := by simp [hsends]
    simp only [heldTwice, List.mem_cons, List.not_mem_nil, or_false] at ht
    rcases ht with rfl | rfl <;> exact absurd (by norm_num [Hits, reorderDraw]) hmisses

/-- **The frames come out in the order in which they were sent.** -/
theorem heldFirst :
    (({ reorder := 1 / 2 } : LoopbackChannel).sendFrames heldRun).outbox = [[1], [2]] ∧
    ¬ ∀ sends : List (Draws × Bytes), (∀ s ∈ sends, s.1.Drawn) →
      Swaps { reorder := 1 / 2 } sends := by
  have hout : (({ reorder := 1 / 2 } : LoopbackChannel).sendFrames heldRun).outbox = [[1], [2]] :=
    outbox_heldFirst ⟨rfl, rfl, rfl, rfl⟩ rfl ⟨le_rfl, le_rfl, le_rfl⟩ ⟨le_rfl, le_rfl, le_rfl⟩
      (by norm_num [Hits, reorderDraw]) (by norm_num [Hits, reorderDraw])
  refine ⟨hout, fun h => ?_⟩
  have hswap := h heldRun drawn_heldRun [] _ _ [] rfl rfl (by norm_num [Hits, reorderDraw])
    (by norm_num [Hits, reorderDraw])
  rw [show [] ++ [(reorderDraw (1 / 4), ([1] : Bytes)), (reorderDraw (3 / 4), [2])] = heldRun from rfl,
    hout] at hswap
  simp [sendFrames] at hswap

end LoopbackChannel

end PhotonTCP
