import Mathlib.Data.List.Induction
import PhotonTCP.Foundation.Framing

/-!
# Reading in batches

A reader that keeps what it has read only when a whole batch of pieces has been fed.  When a piece
shows an error, the frames of its batch are dropped with it, and nothing is read after it.

* `readBatch`, `Batched`, `commit`, `commits` — the reader.
* `Follows`, `Broken` — it has kept all the frames there were, or it is past an error.
* **`kept_iff`** — encoded frames are kept exactly if the batch that brings their last byte shows no
  error.

Such a reader loses frames that have been received in full: they share a batch with bytes that are
malformed, and the exception that these raise leaves before the frames are stored.  Whether that
happens cannot be seen from the bytes alone, since the same bytes in other batches lose nothing.
The condition is therefore about one batch, the one in which the last byte of the frames arrives,
and `CleanAt` states it for a prefix of any length.

The proof follows the reader through its two states.  While it `Follows`, its buffer and what it has
kept are those of one scan over everything that was read; a batch with an error makes it `Broken`,
and from then on the malformed bytes stay at the front of the buffer and raise again whenever
something is fed.  There is no way back, which makes the condition exact.
-/

namespace Framing

variable {β α ε : Type*} (F : Framing β α ε)

/-- Feed the pieces of a batch, up to the first error. -/
def readBatch : List β → List (List β) → Except ε (List α) × List β
  | buf, [] => (.ok [], buf)
  | buf, data :: pieces =>
      match F.feed buf data with
      | (.error e, buf) => (.error e, buf)
      | (.ok as, buf) =>
          match readBatch buf pieces with
          | (.error e, buf) => (.error e, buf)
          | (.ok bs, buf) => (.ok (as ++ bs), buf)

/-- A reader: its buffer, and the frames it has kept. -/
structure Batched (β α : Type*) where
  buf : List β := []
  kept : List α := []

/-- Feed a batch, and keep its frames if there was no error. -/
def commit (s : Batched β α) (batch : List (List β)) : Batched β α :=
  match F.readBatch s.buf batch with
  | (.error _, buf) => { s with buf }
  | (.ok as, buf) => { buf, kept := s.kept ++ as }

/-- Feed the batches in order. -/
def commits : Batched β α → List (List (List β)) → Batched β α := List.foldl F.commit

/-- The bytes of some batches. -/
def bytes (batches : List (List (List β))) : List β := batches.flatten.flatten

/-- The reader has kept the frames of all the bytes `read`, of which none is malformed. -/
structure Follows (read : List β) (s : Batched β α) : Prop where
  error : (F.scan read).error = none
  buf : s.buf = (F.scan read).rest
  kept : s.kept = (F.scan read).frames

/-- The reader is past an error. -/
def Broken (s : Batched β α) : Prop := ∃ e, F.front s.buf = .malformed e

variable {F} {buf data read : List β} {pieces batch : List (List β)}
  {batches : List (List (List β))} {s : Batched β α} {e : ε}

@[simp] lemma commit_nil (s : Batched β α) : F.commit s [] = s := by
  simp [commit, readBatch]

@[simp] lemma commits_nil : F.commits s [] = s := rfl

lemma commits_append (batches batches' : List (List (List β))) :
    F.commits s (batches ++ batches') = F.commits (F.commits s batches) batches' :=
  List.foldl_append

lemma bytes_append (batches batches' : List (List (List β))) :
    bytes (batches ++ batches') = bytes batches ++ bytes batches' := by
  simp [bytes]

lemma bytes_concat (batches : List (List (List β))) (batch : List (List β)) :
    bytes (batches ++ [batch]) = bytes batches ++ batch.flatten := by
  simp [bytes]

/-! ## One batch

A batch is fed piece by piece, but its result is that of a single scan of all of its bytes.  Both
lemmas go through the pieces in order, and the framing's own lemma about one `feed` does the step.
-/

lemma feed_of_malformed (h : F.front buf = .malformed e) :
    F.feed buf data = (.error e, buf ++ data) := by
  have hscan : F.scan (buf ++ data) = ⟨[], buf ++ data, some e⟩ :=
    scan_of_stopped (some e) (front_append_of_malformed h)
  rw [feed_of_some (by rw [hscan]), hscan]

/-- A batch without an error is read as a whole. -/
lemma readBatch_of_none : ∀ {pieces : List (List β)} {buf : List β}, F.front buf = .incomplete →
    (F.scan (buf ++ pieces.flatten)).error = none →
      F.readBatch buf pieces =
        (.ok (F.scan (buf ++ pieces.flatten)).frames, (F.scan (buf ++ pieces.flatten)).rest)
  | [], buf, hbuf, _ => by
      have hempty : F.scan buf = ⟨[], buf, none⟩ := scan_of_stopped none hbuf
      simp [readBatch, hempty]
  | data :: pieces, buf, hbuf, hnone => by
      rw [List.flatten_cons, ← List.append_assoc] at hnone ⊢
      cases hdata : (F.scan (buf ++ data)).error with
      | some e =>
          rw [scan_append_of_error _ hdata] at hnone
          simp at hnone
      | none =>
          have hstopped := (F.scan_spec (buf ++ data)).2
          rw [hdata] at hstopped
          rw [scan_append] at hnone ⊢
          rw [readBatch, feed_of_none hdata]
          dsimp only
          rw [readBatch_of_none hstopped hnone]

/-- A batch with an error raises it, and leaves what is malformed at the front of the buffer. -/
lemma readBatch_of_some : ∀ {pieces : List (List β)} {buf : List β}, F.front buf = .incomplete →
    (F.scan (buf ++ pieces.flatten)).error = some e →
      ∃ buf', F.readBatch buf pieces = (.error e, buf') ∧ F.front buf' = .malformed e
  | [], buf, hbuf, herror => by
      have hempty : F.scan buf = ⟨[], buf, none⟩ := scan_of_stopped none hbuf
      simp [hempty] at herror
  | data :: pieces, buf, hbuf, herror => by
      rw [List.flatten_cons, ← List.append_assoc] at herror
      have hstopped := (F.scan_spec (buf ++ data)).2
      rw [readBatch]
      cases hdata : (F.scan (buf ++ data)).error with
      | some e' =>
          rw [scan_append_of_error _ hdata] at herror
          obtain rfl : e' = e := by simpa using herror
          rw [hdata] at hstopped
          rw [feed_of_some hdata]
          exact ⟨_, rfl, hstopped⟩
      | none =>
          rw [hdata] at hstopped
          rw [scan_append] at herror
          obtain ⟨buf', hbatch, hfront⟩ := readBatch_of_some hstopped herror
          rw [feed_of_none hdata]
          dsimp only
          rw [hbatch]
          exact ⟨buf', rfl, hfront⟩

/-! ## What a batch does to the reader

One lemma for each way out of a state: following and staying so, following and breaking, and staying
broken.
-/

lemma follows_new : F.Follows [] ({} : Batched β α) := by
  have hnil : F.scan [] = ⟨[], [], none⟩ := scan_of_stopped none (if_pos F.width_pos)
  exact ⟨by rw [hnil], by rw [hnil], by rw [hnil]⟩

lemma Follows.incomplete (h : F.Follows read s) : F.front s.buf = .incomplete := by
  have hstopped := (F.scan_spec read).2
  rwa [h.error, ← h.buf] at hstopped

/-- More bytes are read as if they followed what is in the buffer. -/
lemma Follows.scan (h : F.Follows read s) (data : List β) : F.scan (read ++ data) =
    { F.scan (s.buf ++ data) with frames := s.kept ++ (F.scan (s.buf ++ data)).frames } := by
  rw [scan_append, h.buf, h.kept]

/-- **A batch without an error** is kept. -/
theorem Follows.commit (h : F.Follows read s) (hnone : (F.scan (read ++ batch.flatten)).error = none) :
    F.Follows (read ++ batch.flatten) (F.commit s batch) := by
  have hscan := h.scan batch.flatten
  rw [hscan] at hnone
  rw [Framing.commit, readBatch_of_none h.incomplete hnone]
  exact ⟨by rw [hscan, hnone], by rw [hscan], by rw [hscan]⟩

/-- **A batch with an error** is dropped. -/
theorem Follows.break (h : F.Follows read s)
    (hsome : (F.scan (read ++ batch.flatten)).error = some e) :
    F.Broken (F.commit s batch) ∧ (F.commit s batch).kept = s.kept := by
  rw [h.scan] at hsome
  obtain ⟨buf, hbatch, hfront⟩ := readBatch_of_some h.incomplete hsome
  rw [Framing.commit, hbatch]
  exact ⟨⟨e, hfront⟩, rfl⟩

/-- **After an error** nothing is kept any more. -/
theorem Broken.commit (h : F.Broken s) (batch : List (List β)) :
    F.Broken (F.commit s batch) ∧ (F.commit s batch).kept = s.kept := by
  obtain ⟨e, h⟩ := h
  cases batch with
  | nil => exact ⟨⟨e, h⟩, List.append_nil _⟩
  | cons data pieces =>
      rw [Framing.commit, readBatch, feed_of_malformed h]
      exact ⟨⟨e, front_append_of_malformed h⟩, rfl⟩

/-! ## Runs

From the three step lemmas a run is known: it follows as long as the scan of its bytes shows no
error, and what has been kept is never given up.  The batch with the last byte of the frames is then
the only one to look at.
-/

lemma Broken.commits (h : F.Broken s) (batches : List (List (List β))) :
    (F.commits s batches).kept = s.kept := by
  induction batches generalizing s with
  | nil => rfl
  | cons batch batches ih =>
      obtain ⟨hnext, hkept⟩ := h.commit batch
      exact (ih hnext).trans hkept

/-- What has been kept stays. -/
lemma kept_mono (batches : List (List (List β))) : s.kept <+: (F.commits s batches).kept := by
  induction batches generalizing s with
  | nil => exact List.prefix_rfl
  | cons batch batches ih =>
      have hcommit : s.kept <+: (F.commit s batch).kept := by
        rw [Framing.commit]
        split
        · exact List.prefix_rfl
        · exact List.prefix_append _ _
      exact hcommit.trans ih

/-- Without an error, the reader follows. -/
lemma follows_of_none (hnone : (F.scan (bytes batches)).error = none) :
    F.Follows (bytes batches) (F.commits {} batches) := by
  induction batches using List.reverseRecOn with
  | nil => exact follows_new
  | append_singleton batches batch ih =>
      rw [bytes_concat] at hnone ⊢
      have hbefore : (F.scan (bytes batches)).error = none := by
        cases herror : (F.scan (bytes batches)).error with
        | none => rfl
        | some e =>
            rw [scan_append_of_error _ herror] at hnone
            simp at hnone
      rw [commits_append]
      exact (ih hbefore).commit hnone

/-- No batch that brings the last of the first `n` bytes shows an error. -/
def CleanAt (F : Framing β α ε) (n : ℕ) (batches : List (List (List β))) : Prop :=
  ∀ before batch after, batches = before ++ batch :: after → (bytes before).length < n →
    n ≤ (bytes (before ++ [batch])).length → (F.scan (bytes (before ++ [batch]))).error = none

/-- One batch brings the `n`-th byte. -/
lemma exists_crossing {n : ℕ} (hn : 0 < n) :
    ∀ {batches : List (List (List β))}, n ≤ (bytes batches).length →
      ∃ before batch after, batches = before ++ batch :: after ∧ (bytes before).length < n ∧
        n ≤ (bytes (before ++ [batch])).length := by
  intro batches
  induction batches using List.reverseRecOn with
  | nil =>
      intro h
      have : (bytes ([] : List (List (List β)))).length = 0 := rfl
      omega
  | append_singleton batches batch ih =>
      intro h
      by_cases hle : n ≤ (bytes batches).length
      · obtain ⟨before, first, after, rfl, hlt, hge⟩ := ih hle
        exact ⟨before, first, after ++ [batch], by simp, hlt, hge⟩
      · exact ⟨batches, batch, [], rfl, by omega, h⟩

variable {encoded : List (List β × α)} {rest : List β}

lemma eq_nil_of_encoded (h : ∀ p ∈ encoded, F.Spells p.1 p.2)
    (hnil : (encoded.map Prod.fst).flatten = []) : encoded = [] := by
  have hreads := Reads.of_encoded h []
  rw [hnil, List.append_nil] at hreads
  cases encoded with
  | nil => rfl
  | cons p encoded =>
      cases hreads with
      | cons head tail =>
          have := length_of_front head
          simp at this

/-- The batch that brings their last byte decides. -/
lemma kept_iff_of_crossing {before after : List (List (List β))}
    (h : ∀ p ∈ encoded, F.Spells p.1 p.2)
    (hbytes : bytes (before ++ batch :: after) = (encoded.map Prod.fst).flatten ++ rest)
    (hlt : (bytes before).length < (encoded.map Prod.fst).flatten.length)
    (hge : (encoded.map Prod.fst).flatten.length ≤ (bytes (before ++ [batch])).length) :
    encoded.map Prod.snd <+: (F.commits {} (before ++ batch :: after)).kept ↔
      (F.scan (bytes (before ++ [batch]))).error = none := by
  have hall : (encoded.map Prod.fst).flatten <+: bytes (before ++ batch :: after) :=
    hbytes ▸ List.prefix_append _ _
  -- before the batch, some of the frames are not complete
  obtain ⟨more, hmore⟩ : bytes before <+: (encoded.map Prod.fst).flatten :=
    List.prefix_of_prefix_length_le (bytes_append before _ ▸ List.prefix_append _ _) hall hlt.le
  obtain ⟨n, last, hscan, hlast, -⟩ := scan_encoded more h hmore
  have hfew : n < encoded.length := by
    by_contra hge'
    rw [List.drop_eq_nil_of_le (by omega)] at hlast
    obtain ⟨-, rfl⟩ : last = [] ∧ more = [] := by simpa using hlast
    rw [← hmore, List.append_nil] at hlt
    omega
  have hfollows : F.Follows (bytes before) (F.commits {} before) :=
    follows_of_none (by rw [hscan])
  -- after it, all are
  obtain ⟨behind, hbehind⟩ : (encoded.map Prod.fst).flatten <+: bytes (before ++ [batch]) := by
    refine List.prefix_of_prefix_length_le hall ?_ hge
    rw [List.append_cons before batch after, bytes_append (before ++ [batch])]
    exact List.prefix_append _ _
  have hframes : encoded.map Prod.snd <+: (F.scan (bytes (before ++ [batch]))).frames := by
    rw [← hbehind, (Reads.of_encoded h behind).scan]
    exact List.prefix_append _ _
  rw [commits_append, commits, List.foldl_cons, ← commits]
  cases herror : (F.scan (bytes (before ++ [batch]))).error with
  | none =>
      have hkept := (follows_of_none herror).kept
      rw [commits_append] at hkept
      rw [← hkept] at hframes
      exact iff_of_true (hframes.trans (kept_mono after)) rfl
  | some e =>
      rw [bytes_concat] at herror
      obtain ⟨hbroken, hkept⟩ := hfollows.break herror
      refine iff_of_false (fun hprefix => ?_) (by simp)
      rw [hbroken.commits, hkept, hfollows.kept, hscan] at hprefix
      have := hprefix.length_le
      simp only [List.length_map, List.length_take] at this
      omega

/-- **What is kept of encoded frames**, whatever follows them: all, exactly if the batch that brings
their last byte shows no error. -/
theorem kept_iff (h : ∀ p ∈ encoded, F.Spells p.1 p.2)
    (hbytes : bytes batches = (encoded.map Prod.fst).flatten ++ rest) :
    encoded.map Prod.snd <+: (F.commits {} batches).kept ↔
      F.CleanAt (encoded.map Prod.fst).flatten.length batches := by
  rcases Nat.eq_zero_or_pos (encoded.map Prod.fst).flatten.length with hzero | hpos
  · obtain rfl := eq_nil_of_encoded h (List.length_eq_zero_iff.mp hzero)
    constructor
    · rintro - before batch after - hlt
      simp at hlt
    · rintro -
      exact List.nil_prefix
  · constructor
    · rintro hkept before batch after rfl hlt hge
      exact (kept_iff_of_crossing h hbytes hlt hge).mp hkept
    · intro hclean
      have hle : (encoded.map Prod.fst).flatten.length ≤ (bytes batches).length := by
        rw [hbytes, List.length_append]
        omega
      obtain ⟨before, batch, after, rfl, hlt, hge⟩ := exists_crossing hpos hle
      exact (kept_iff_of_crossing h hbytes hlt hge).mpr (hclean before batch after rfl hlt hge)

end Framing
