import PhotonTCP.Optical.Channel

/-!
# Captures are delivered exactly once

What the camera sees is a sequence of frames that were shown: each is new and was shown after all
those seen before, or is one of the last few that were delivered.

* `channelFrame`, `shown_sendFrames` — what is on the display when the `k`-th frame is shown.
* `Captures` — such a sequence, with the frames it delivers.
* `Spaced` — frames with the same nonce are far enough apart.
* **`captures_delivered_once`** — the inbox holds the payloads of the captured frames, each once and
  in the order they were sent.

The documentation argues that a wrapped nonce cannot do harm, because the window is much shorter
than the cycle.  This is an argument about frames that were delivered and not about frames that were
sent: a camera can miss any number of frames, and two frames with the same nonce may be neighbours
among those that it sees.  Then the second is dropped if the payloads are equal too.  `Spaced` is
what the argument needs.

A capture is of a frame that is new, or of one that is in the window.  An older one would be
delivered a second time, and a camera whose images do not get so old does not show it.
-/

namespace PhotonTCP

namespace Optical

open ByteRecord

/-! ## What is shown

Frames that no symbol can hold are not shown and have no place.
-/

/-- The `k`-th frame that is shown. -/
def channelFrame (k : ℕ) (payload : Bytes) : Bytes :=
  encode NONCE_BYTES (k % 256 ^ NONCE_BYTES) ++ payload

variable (fitsSymbol : Bytes → Bool)

/-- The display, when `sent` has been shown. -/
structure Shows (ch : OpticalSender) (sent : List Bytes) : Prop where
  opened : ch.closed = false
  nonce : ch.sendNonce = sent.length % 256 ^ NONCE_BYTES
  shown : ch.shown = sent.mapIdx channelFrame

lemma Shows.sendFrame {ch : OpticalSender} {sent : List Bytes} (h : Shows ch sent) (frame : Bytes) :
    Shows (sendFrame fitsSymbol ch frame).2 sent ∨
      Shows (sendFrame fitsSymbol ch frame).2 (sent ++ [frame]) := by
  rw [Optical.sendFrame, if_neg (by simp [h.opened])]
  dsimp only
  split_ifs
  · refine Or.inr ⟨h.opened, ?_, ?_⟩
    · rw [h.nonce, List.length_append, List.length_singleton, Nat.mod_add_mod]
    · rw [h.nonce, h.shown, List.mapIdx_append]
      simp [channelFrame]
  · exact Or.inl h

/-- **What successive sends show**: some of the frames, each with the nonce of its place. -/
theorem Shows.sendFrames {ch : OpticalSender} {sent : List Bytes} (h : Shows ch sent)
    (frames : List Bytes) :
    ∃ more, more.Sublist frames ∧ Shows (sendFrames fitsSymbol ch frames) (sent ++ more) := by
  induction frames generalizing ch sent with
  | nil => exact ⟨[], List.Sublist.refl _, by rwa [List.append_nil]⟩
  | cons frame frames ih =>
      rcases h.sendFrame fitsSymbol frame with hsame | hsent
      · obtain ⟨more, hsub, hshows⟩ := ih hsame
        exact ⟨more, hsub.cons frame, hshows⟩
      · obtain ⟨more, hsub, hshows⟩ := ih hsent
        rw [List.append_assoc] at hshows
        exact ⟨frame :: more, hsub.cons_cons frame, hshows⟩

/-! ## Sequences of captures

With places in the order of showing in place of frames, the sequence says which captures are of the
same frame.  Equal places make equal frames; the converse is what `Spaced` gives for those in the
window.
-/

/-- The frames delivered last. -/
def lastDelivered (ds : List ℕ) : List ℕ := ds.drop (ds.length - DEDUP_DEPTH)

/-- Captures of `n` shown frames, by their places, and the places of those that are delivered. -/
inductive Captures (n : ℕ) : List ℕ → List ℕ → Prop where
  | nil : Captures n [] []
  | fresh {cs ds : List ℕ} {i : ℕ} (h : Captures n cs ds) (shown : i < n) (later : ∀ j ∈ ds, j < i) :
      Captures n (cs ++ [i]) (ds ++ [i])
  | again {cs ds : List ℕ} {i : ℕ} (h : Captures n cs ds) (recent : i ∈ lastDelivered ds) :
      Captures n (cs ++ [i]) ds

/-- Two frames with the same nonce have a window's worth of other frames between them. -/
def Spaced (ds : List ℕ) : Prop :=
  ∀ i ∈ ds, ∀ j ∈ ds, i < j → (j - i) % 256 ^ NONCE_BYTES = 0 →
    DEDUP_DEPTH ≤ (ds.filter fun k => i < k ∧ k < j).length

variable {n : ℕ} {cs ds : List ℕ} {i j : ℕ}

namespace Captures

lemma sorted (h : Captures n cs ds) : ds.Pairwise (· < ·) := by
  induction h with
  | nil => exact List.Pairwise.nil
  | fresh _ _ hlater ih =>
      refine List.pairwise_append.mpr ⟨ih, List.pairwise_singleton _ _, ?_⟩
      rintro j hj k hk
      rw [List.mem_singleton.mp hk]
      exact hlater j hj
  | again _ _ ih => exact ih

lemma lt_length (h : Captures n cs ds) : ∀ k ∈ ds, k < n := by
  induction h with
  | nil => simp
  | fresh _ hi _ ih =>
      intro k hk
      rcases List.mem_append.mp hk with hmem | hmem
      · exact ih k hmem
      · rwa [List.mem_singleton.mp hmem]
  | again _ _ ih => exact ih

lemma mem_iff (h : Captures n cs ds) (k : ℕ) : k ∈ cs ↔ k ∈ ds := by
  induction h with
  | nil => rfl
  | fresh _ _ _ ih => simp [ih]
  | again _ hrecent ih =>
      rw [List.mem_append, ih, List.mem_singleton, or_iff_left_iff_imp]
      rintro rfl
      exact List.drop_subset _ _ hrecent

end Captures

lemma lastDelivered_concat (ds : List ℕ) (i : ℕ) : lastDelivered (ds ++ [i]) =
    (if (lastDelivered ds).length = DEDUP_DEPTH then (lastDelivered ds).drop 1
      else lastDelivered ds) ++ [i] := by
  have hlen : (lastDelivered ds).length = ds.length - (ds.length - DEDUP_DEPTH) := List.length_drop
  rw [lastDelivered, List.length_append, List.length_singleton, List.drop_append_of_le_length
    (by rw [DEDUP_DEPTH]; omega), hlen]
  split_ifs with hfull
  · rw [lastDelivered, List.drop_drop, show ds.length + 1 - DEDUP_DEPTH
      = ds.length - DEDUP_DEPTH + 1 by rw [DEDUP_DEPTH] at hfull ⊢; omega]
  · rw [lastDelivered, show ds.length + 1 - DEDUP_DEPTH = ds.length - DEDUP_DEPTH by
      rw [DEDUP_DEPTH] at hfull ⊢; omega]

lemma Spaced.of_concat (h : Spaced (ds ++ [i])) (hlater : ∀ j ∈ ds, j < i) : Spaced ds := by
  intro a ha b hb hlt hmod
  have hspaced := h a (by simp [ha]) b (by simp [hb]) hlt hmod
  have hout : ¬ (a < i ∧ i < b) := fun hin => absurd (hlater b hb) (by omega)
  rwa [List.filter_append, List.filter_singleton, decide_eq_false hout, cond_false,
    List.append_nil] at hspaced

/-- A new frame is not one of those delivered last, even if the nonce has wrapped. -/
lemma not_recent (h : ds.Pairwise (· < ·)) (hspaced : Spaced (ds ++ [i])) (hlater : ∀ j ∈ ds, j < i)
    (hj : j ∈ lastDelivered ds) : i % 256 ^ NONCE_BYTES ≠ j % 256 ^ NONCE_BYTES := by
  intro hmod
  have hmem : j ∈ ds := List.drop_subset _ _ hj
  have hlt := hlater j hmem
  have hsub : (i - j) % 256 ^ NONCE_BYTES = 0 := Nat.sub_mod_eq_zero_of_mod_eq hmod
  have hcount := hspaced j (by simp [hmem]) i (by simp) hlt hsub
  have hsplit : ds.take (ds.length - DEDUP_DEPTH) ++ lastDelivered ds = ds := List.take_append_drop ..
  -- what is between the two has been delivered after `j`
  have hearlier : (ds.take (ds.length - DEDUP_DEPTH)).filter (fun k => j < k ∧ k < i) = [] := by
    rw [List.filter_eq_nil_iff]
    intro k hk
    rw [← hsplit] at h
    have := (List.pairwise_append.mp h).2.2 k hk j hj
    simp
    omega
  have hlater' : ((lastDelivered ds).filter fun k => j < k ∧ k < i).length
      < (lastDelivered ds).length :=
    List.length_filter_lt_length_iff_exists.mpr ⟨j, hj, by simp⟩
  have hlen : (lastDelivered ds).length ≤ DEDUP_DEPTH := by
    rw [lastDelivered, List.length_drop]
    omega
  rw [List.filter_append, List.filter_singleton, decide_eq_false (by omega), cond_false,
    List.append_nil, ← hsplit,
    List.filter_append, hearlier, List.nil_append] at hcount
  omega

/-! ## The loop

The induction is over the sequence of captures, and what is kept is the window: it holds the frames
of the places that were delivered last.
-/

variable {sent : List Bytes}

/-- What is shown `k`-th. -/
def shownAt (sent : List Bytes) (k : ℕ) : Bytes := (sent.mapIdx channelFrame).getD k []

lemma shownAt_of_lt {k : ℕ} (h : k < sent.length) :
    shownAt sent k = channelFrame k (sent.getD k []) := by
  simp [shownAt, List.getD_eq_getElem?_getD, h]

lemma le_length_channelFrame (k : ℕ) (payload : Bytes) :
    ¬ (channelFrame k payload).length < NONCE_BYTES := by
  simp [channelFrame]

lemma nonce_of_channelFrame_eq {k l : ℕ} {p q : Bytes} (h : channelFrame k p = channelFrame l q) :
    k % 256 ^ NONCE_BYTES = l % 256 ^ NONCE_BYTES := by
  have hnonce := (List.append_inj h (by simp)).1
  have hk : k % 256 ^ NONCE_BYTES < 256 ^ NONCE_BYTES := Nat.mod_lt _ (by decide)
  have hl : l % 256 ^ NONCE_BYTES < 256 ^ NONCE_BYTES := Nat.mod_lt _ (by decide)
  rw [← decode_encode hk, hnonce, decode_encode hl]

/-- The receiver, when `ds` have been delivered. -/
structure Delivered (sent : List Bytes) (ds : List ℕ) (r : Receiver) : Prop where
  recent : r.window.recent = (lastDelivered ds).map (shownAt sent)
  inbox : r.inbox = ds.map fun k => sent.getD k []

/-- **The run**: what the loop has delivered and remembers. -/
theorem Captures.delivered (h : Captures sent.length cs ds) (hspaced : Spaced ds) :
    Delivered sent ds ((cs.map (shownAt sent)).foldl Receiver.deliver {}) := by
  induction h with
  | nil => exact ⟨rfl, rfl⟩
  | @fresh cs ds i h hi hlater ih =>
      obtain ⟨hrecent, hinbox⟩ := ih (hspaced.of_concat hlater)
      rw [List.map_append, List.foldl_append]
      generalize (cs.map (shownAt sent)).foldl Receiver.deliver {} = r at hrecent hinbox
      have hnew : shownAt sent i ∉ r.window.recentSet := by
        rw [RecentWindow.mem_recentSet, hrecent, List.mem_map]
        rintro ⟨j, hj, hsame⟩
        have hj' := h.lt_length j (List.drop_subset _ _ hj)
        rw [shownAt_of_lt hi, shownAt_of_lt hj'] at hsame
        exact not_recent h.sorted hspaced hlater hj (nonce_of_channelFrame_eq hsame.symm)
      have hlong : ¬ (shownAt sent i).length < NONCE_BYTES := by
        rw [shownAt_of_lt hi]
        exact le_length_channelFrame _ _
      rw [List.map_singleton, List.foldl_cons, List.foldl_nil, Receiver.deliver, if_neg hlong,
        dif_neg hnew]
      constructor
      · show r.window.kept ++ [shownAt sent i] = _
        rw [RecentWindow.kept, hrecent, List.length_map, lastDelivered_concat, List.map_append]
        split_ifs <;> simp
      · show r.inbox ++ [(shownAt sent i).drop NONCE_BYTES] = _
        rw [hinbox, shownAt_of_lt hi, channelFrame, List.drop_left' (by simp), List.map_append]
        rfl
  | @again cs ds i h hlast ih =>
      obtain ⟨hrecent, hinbox⟩ := ih hspaced
      rw [List.map_append, List.foldl_append]
      generalize (cs.map (shownAt sent)).foldl Receiver.deliver {} = r at hrecent hinbox
      have hknown : shownAt sent i ∈ r.window.recentSet := by
        rw [RecentWindow.mem_recentSet, hrecent]
        exact List.mem_map_of_mem hlast
      have hsame : r.deliver (shownAt sent i) = r := by
        rw [Receiver.deliver]
        split_ifs
        · rfl
        · rfl
      rw [List.map_singleton, List.foldl_cons, List.foldl_nil, hsame]
      exact ⟨hrecent, hinbox⟩

/-- Neighbours among the captured frames are neighbours in the inbox. -/
lemma infix_of_sorted (h : ds.Pairwise (· < ·)) (hi : i ∈ ds) (hnext : i + 1 ∈ ds) :
    [i, i + 1] <:+: ds := by
  obtain ⟨before, after, rfl⟩ := List.append_of_mem hi
  obtain ⟨-, hafter, hcross⟩ := List.pairwise_append.mp h
  obtain ⟨hgreater, hsorted⟩ := List.pairwise_cons.mp hafter
  have hmem : i + 1 ∈ after := by
    rcases List.mem_append.mp hnext with hbefore | hmem
    · exact absurd (hcross _ hbefore i (by simp)) (by omega)
    · simpa using hmem
  cases after with
  | nil => simp at hmem
  | cons k rest =>
      have hk := hgreater k (by simp)
      obtain rfl : k = i + 1 := by
        rcases List.mem_cons.mp hmem with rfl | hrest
        · rfl
        · have := (List.pairwise_cons.mp hsorted).1 _ hrest
          omega
      exact ⟨before, rest, by simp⟩

/-- **Every captured frame is delivered exactly once, in the order of sending.**  `sent` are the
frames that the sender has shown.  Whatever the camera returns, the set mirrors the deque. -/
theorem captures_delivered_once (decodeFrame : Image → Option Bytes) (frames : List Bytes) :
    (∃ sent, sent.Sublist frames ∧
      (sendFrames fitsSymbol {} frames).shown = sent.mapIdx channelFrame ∧
      ∀ (reads : List (Option Image)) (cs ds : List ℕ), Captures sent.length cs ds → Spaced ds →
        Receiver.decodedCaptures decodeFrame none reads = cs.map (shownAt sent) →
        (Receiver.captureLoop decodeFrame {} reads).inbox = ds.map (fun k => sent.getD k []) ∧
        ds.Pairwise (· < ·) ∧ (∀ k, k ∈ cs ↔ k ∈ ds) ∧
        ∀ k ∈ ds, k + 1 ∈ ds → sent.getD k [] = sent.getD (k + 1) [] →
          [sent.getD k [], sent.getD k []] <:+: (Receiver.captureLoop decodeFrame {} reads).inbox) ∧
    ∀ reads : List (Option Image),
      (Receiver.captureLoop decodeFrame {} reads).window.recentSet
          = (Receiver.captureLoop decodeFrame {} reads).window.recent.toFinset ∧
        (Receiver.captureLoop decodeFrame {} reads).window.recent.Nodup ∧
        (Receiver.captureLoop decodeFrame {} reads).window.recent.length ≤ DEDUP_DEPTH := by
  constructor
  · have hnew : Shows {} [] := ⟨rfl, rfl, rfl⟩
    obtain ⟨sent, hsub, -, -, hshown⟩ := hnew.sendFrames fitsSymbol frames
    refine ⟨sent, hsub, hshown, ?_⟩
    intro reads cs ds hcaptures hspaced hreads
    obtain ⟨last, hloop⟩ := Receiver.captureLoop_eq decodeFrame reads {}
    have hinbox : (Receiver.captureLoop decodeFrame {} reads).inbox
        = ds.map fun k => sent.getD k [] := by
      rw [hloop, hreads]
      exact (hcaptures.delivered hspaced).inbox
    refine ⟨hinbox, hcaptures.sorted, hcaptures.mem_iff, ?_⟩
    intro k hk hnext hsame
    have hinfix := (infix_of_sorted hcaptures.sorted hk hnext).map fun k => sent.getD k []
    rw [hinbox]
    rwa [List.map_cons, List.map_cons, List.map_nil, ← hsame] at hinfix
  · intro reads
    exact ⟨RecentWindow.mirror _, RecentWindow.nodup _, RecentWindow.length_le _⟩

/-- Two equal frames and a third. -/
def threeShown : List Bytes := [[5], [5], [6]]

/-- The camera sees the first again, after the second. -/
def threeReads : List (Option Image) :=
  [some ⟨1, [0, 0, 5]⟩, none, some ⟨2, [0, 1, 5]⟩, some ⟨3, [0, 0, 5]⟩, some ⟨3, [0, 0, 5]⟩,
    some ⟨4, [0, 2, 6]⟩]

/-- The two equal frames and the third are delivered once each. -/
theorem captures_delivered_once_threeReads :
    (Receiver.captureLoop (fun img => some img.pixels) {} threeReads).inbox = threeShown ∧
    (Receiver.captureLoop (fun img => some img.pixels) {} threeReads).window.recent.length ≤ 8 := by
  obtain ⟨⟨sent, hsub, hshown, hall⟩, hwindow⟩ :=
    captures_delivered_once (fun _ => true) (fun img => some img.pixels) threeShown
  have hlen : sent.length = threeShown.length := by
    have := congrArg List.length hshown
    rw [List.length_mapIdx] at this
    rw [← this]
    decide +kernel
  obtain rfl := hsub.eq_of_length hlen
  have hcaptures : Captures threeShown.length [0, 1, 0, 2] [0, 1, 2] :=
    (((Captures.nil.fresh (by decide) (by decide)).fresh (by decide) (by decide)).again
      (by decide)).fresh (by decide) (by decide)
  obtain ⟨hinbox, -⟩ := hall threeReads _ _ hcaptures (by unfold Spaced; decide) (by decide +kernel)
  exact ⟨hinbox.trans (by decide), (hwindow threeReads).2.2⟩

end Optical

end PhotonTCP
