import Mathlib.Order.Nat
import Mathlib.Tactic.SplitIfs
import PhotonTCP.Foundation.Mealy

/-!
# Framings of a stream

A frame is a header of fixed width, which declares the size of the rest, and that rest.  Reading
from a buffer takes whole frames off its front until the buffer holds no more of them, or what is
there cannot be a frame.

* `Framing`, `front` — what the front of a buffer is.
* `Reads`, `scan` — the frames of a buffer.
* **`scan_append`** — where the bytes end does not matter to what is read.
* `feed`, `feeds` — the reader that is given its bytes piece by piece, and raises.
* **`feeds_encoded`** — it gives back encoded frames, however their bytes are cut.
* **`untilError_feeds_iff`** — the frames it returns before it first raises are those of the whole
  stream, exactly if some piece ends between the last of them and the byte that shows the error.

Nothing is assumed of the two functions of a framing but that a header is not empty, which makes
reading end.  Both may refuse, the first one a size that is not allowed and the second one contents
that are no value, so there are two kinds of malformed frame; they differ in how many bytes have to
arrive before the error shows, and `shown` counts them.

A reader on a connection does not see the stream but pieces of it, cut wherever the transport has
cut them.  Everything about it follows from one fact, that reading can be interrupted anywhere:
`scan_append` says that the frames of a longer buffer are those of the shorter one and then those of
what was left, together with the rest.  So as long as no error shows, the result of all the calls is
that of a single scan, and when one shows, only the frames of the piece that brings it are lost,
those which its own call has taken off the buffer.
-/

/-- How frames are read: the header's width, the size it declares, and the frame's value. -/
structure Framing (β α ε : Type*) where
  width : ℕ
  size : List β → Except ε ℕ
  decode : List β → Except ε α
  width_pos : 0 < width

namespace Framing

variable {β α ε : Type*}

/-- What the front of a buffer is. -/
inductive Front (β α ε : Type*) where
  | incomplete
  | malformed (error : ε)
  | frame (value : α) (rest : List β)

/-- What was read, what was not, and why not, if not for want of bytes. -/
structure Scan (β α ε : Type*) where
  frames : List α
  rest : List β
  error : Option ε

variable (F : Framing β α ε)

/-- Read one frame. -/
def front (buf : List β) : Front β α ε :=
  if buf.length < F.width then .incomplete
  else
    match F.size (buf.take F.width) with
    | .error e => .malformed e
    | .ok size =>
        if buf.length < F.width + size then .incomplete
        else
          match F.decode ((buf.drop F.width).take size) with
          | .error e => .malformed e
          | .ok value => .frame value (buf.drop (F.width + size))

variable {F} {buf rest more : List β} {a : α} {e : ε}

/-! ## One frame

What more bytes do to the front of a buffer: a frame stays a frame, what is malformed stays
malformed, and what is incomplete becomes one of these or stays.  Two lemmas go the other way, from
the longer buffer to the shorter one.
-/

lemma front_eq_frame_iff : F.front buf = .frame a rest ↔ ∃ size, F.width + size ≤ buf.length ∧
    F.size (buf.take F.width) = .ok size ∧ F.decode ((buf.drop F.width).take size) = .ok a ∧
    rest = buf.drop (F.width + size) := by
  rw [front]
  split_ifs with hheader
  · constructor
    · simp
    · rintro ⟨size, hle, -⟩
      omega
  · cases hsize : F.size (buf.take F.width) with
    | error e => simp
    | ok size =>
        dsimp only
        split_ifs with hbody
        · constructor
          · simp
          · rintro ⟨size', hle, hsize', -⟩
            obtain rfl : size = size' := by simpa using hsize'
            omega
        · cases hdecode : F.decode ((buf.drop F.width).take size) with
          | error e =>
              simp only [reduceCtorEq, false_iff, not_exists]
              rintro size' ⟨-, hsize', hdecode', -⟩
              obtain rfl : size = size' := by simpa using hsize'
              simp [hdecode] at hdecode'
          | ok value =>
              simp only [Front.frame.injEq]
              constructor
              · rintro ⟨rfl, rfl⟩
                exact ⟨size, by omega, rfl, hdecode, rfl⟩
              · rintro ⟨size', -, hsize', hdecode', rfl⟩
                obtain rfl : size = size' := by simpa using hsize'
                exact ⟨by simpa [hdecode] using hdecode', rfl⟩

/-- A frame has at least a header. -/
lemma length_of_front (h : F.front buf = .frame a rest) : rest.length < buf.length := by
  obtain ⟨size, hle, -, -, rfl⟩ := front_eq_frame_iff.mp h
  have := F.width_pos
  rw [List.length_drop]
  omega

/-- Bytes behind a frame do not change it. -/
lemma front_append_of_frame (h : F.front buf = .frame a rest) :
    F.front (buf ++ more) = .frame a (rest ++ more) := by
  obtain ⟨size, hle, hsize, hdecode, rfl⟩ := front_eq_frame_iff.mp h
  refine front_eq_frame_iff.mpr ⟨size, ?_, ?_, ?_, ?_⟩
  · rw [List.length_append]
    omega
  · rwa [List.take_append_of_le_length (by omega)]
  · rwa [List.drop_append_of_le_length (by omega),
      List.take_append_of_le_length (by rw [List.length_drop]; omega)]
  · rw [List.drop_append_of_le_length hle]

/-- The number of bytes that show that the buffer's front is malformed. -/
def shown (F : Framing β α ε) (buf : List β) : ℕ :=
  match F.size (buf.take F.width) with
  | .error _ => F.width
  | .ok size => F.width + size

lemma width_le_shown : F.width ≤ F.shown buf := by
  rw [shown]
  split <;> omega

lemma shown_append (h : F.width ≤ buf.length) : F.shown (buf ++ more) = F.shown buf := by
  rw [shown, shown, List.take_append_of_le_length h]

lemma shown_le_of_malformed (h : F.front buf = .malformed e) : F.shown buf ≤ buf.length := by
  rw [front] at h
  rw [shown]
  split_ifs at h with hheader
  cases hsize : F.size (buf.take F.width) with
  | error e => simpa using hheader
  | ok size =>
      rw [hsize] at h
      dsimp only at h ⊢
      split_ifs at h with hbody
      omega

/-- It is seen as soon as the bytes that show it have arrived. -/
lemma front_append_of_shown (h : F.front (buf ++ more) = .malformed e)
    (hn : F.shown (buf ++ more) ≤ buf.length) : F.front buf = .malformed e := by
  have hwidth : F.width ≤ buf.length := width_le_shown.trans hn
  rw [shown_append hwidth, shown] at hn
  rw [front, List.take_append_of_le_length hwidth, if_neg (by rw [List.length_append]; omega)] at h
  rw [front, if_neg (by omega)]
  cases hsize : F.size (buf.take F.width) with
  | error e => simpa [hsize] using h
  | ok size =>
      rw [hsize] at h hn
      dsimp only at h hn ⊢
      rw [List.drop_append_of_le_length hwidth,
        List.take_append_of_le_length (by rw [List.length_drop]; omega),
        if_neg (by rw [List.length_append]; omega)] at h
      rw [if_neg (by omega)]
      cases hdecode : F.decode ((buf.drop F.width).take size) with
      | error e => simpa [hdecode] using h
      | ok value => simp [hdecode] at h

/-- Bytes behind what is malformed do not repair it. -/
lemma front_append_of_malformed (h : F.front buf = .malformed e) :
    F.front (buf ++ more) = .malformed e := by
  have hle := shown_le_of_malformed h
  rw [front] at h ⊢
  rw [shown] at hle
  split_ifs at h with hheader
  rw [List.length_append, if_neg (by omega), List.take_append_of_le_length (by omega)]
  cases hsize : F.size (buf.take F.width) with
  | error e => simpa [hsize] using h
  | ok size =>
      rw [hsize] at h hle
      dsimp only at h hle ⊢
      rw [if_neg (by omega), List.drop_append_of_le_length (by omega),
        List.take_append_of_le_length (by rw [List.length_drop]; omega)]
      rw [if_neg (by omega)] at h
      cases hdecode : F.decode ((buf.drop F.width).take size) with
      | error e => simpa [hdecode] using h
      | ok value => simp [hdecode] at h

/-- A frame is read as soon as its bytes have arrived. -/
lemma front_of_append (h : F.front (buf ++ more) = .frame a rest) (hle : more.length ≤ rest.length) :
    ∃ rest', rest = rest' ++ more ∧ F.front buf = .frame a rest' := by
  obtain ⟨size, hbody, hsize, hdecode, rfl⟩ := front_eq_frame_iff.mp h
  rw [List.length_append] at hbody
  rw [List.length_drop, List.length_append] at hle
  have hfit : F.width + size ≤ buf.length := by omega
  refine ⟨buf.drop (F.width + size), List.drop_append_of_le_length hfit,
    front_eq_frame_iff.mpr ⟨size, hfit, ?_, ?_, rfl⟩⟩
  · rwa [List.take_append_of_le_length (by omega)] at hsize
  · rwa [List.drop_append_of_le_length (by omega),
      List.take_append_of_le_length (by rw [List.length_drop]; omega)] at hdecode

/-- No frame is read before its last byte has arrived. -/
lemma front_of_short (h : F.front (buf ++ more) = .frame a rest) (hlt : rest.length < more.length) :
    F.front buf = .incomplete := by
  cases hf : F.front buf with
  | incomplete => rfl
  | malformed e => simp [front_append_of_malformed hf] at h
  | frame a' rest' =>
      rw [front_append_of_frame hf, Front.frame.injEq] at h
      rw [← h.2, List.length_append] at hlt
      omega

/-! ## All frames

`Reads` is the relation, and `scan` the function.  The relation is the one to do inductions on: each
of its steps is one frame, while the function also carries the reason for which it stopped.
-/

/-- The frames at the front of a buffer, and what is behind them. -/
inductive Reads (F : Framing β α ε) : List β → List α → List β → Prop where
  | nil {buf : List β} : Reads F buf [] buf
  | cons {buf rest last : List β} {a : α} {as : List α} (head : F.front buf = .frame a rest)
      (tail : Reads F rest as last) : Reads F buf (a :: as) last

variable (F)

/-- Read as long as there are frames. -/
def scan (buf : List β) : Scan β α ε :=
  match _h : F.front buf with
  | .incomplete => ⟨[], buf, none⟩
  | .malformed e => ⟨[], buf, some e⟩
  | .frame a rest => { scan rest with frames := a :: (scan rest).frames }
termination_by buf.length
decreasing_by all_goals exact length_of_front _h

/-- What reading stops at. -/
@[simp] def Stopped (buf : List β) : Option ε → Prop
  | none => F.front buf = .incomplete
  | some e => F.front buf = .malformed e

variable {F} {as bs : List α} {last : List β}

lemma scan_of_stopped (error : Option ε) (h : F.Stopped buf error) : F.scan buf = ⟨[], buf, error⟩ := by
  rw [scan]
  cases error with
  | none =>
      split
      case h_1 => rfl
      case h_2 hf => simp [hf] at h
      case h_3 hf => simp [hf] at h
  | some e =>
      split
      case h_1 hf => simp [hf] at h
      case h_2 hf =>
          obtain rfl : e = _ := by simpa [hf, eq_comm] using h
          rfl
      case h_3 hf => simp [hf] at h

lemma scan_of_frame (h : F.front buf = .frame a rest) :
    F.scan buf = { F.scan rest with frames := a :: (F.scan rest).frames } := by
  rw [scan]
  split
  case h_1 hf => simp [hf] at h
  case h_2 hf => simp [hf] at h
  case h_3 hf =>
      rw [hf, Front.frame.injEq] at h
      rw [h.1, h.2]

/-- **The specification of `scan`**: it reads all the frames there are. -/
theorem scan_spec (buf : List β) :
    F.Reads buf (F.scan buf).frames (F.scan buf).rest ∧
      F.Stopped (F.scan buf).rest (F.scan buf).error := by
  induction hn : buf.length using Nat.strongRecOn generalizing buf with
  | ind n ih =>
    cases hf : F.front buf with
    | incomplete =>
        rw [scan_of_stopped none hf]
        exact ⟨.nil, hf⟩
    | malformed e =>
        rw [scan_of_stopped (some e) hf]
        exact ⟨.nil, hf⟩
    | frame a rest =>
        obtain ⟨hreads, hstopped⟩ := ih rest.length (hn ▸ length_of_front hf) rest rfl
        rw [scan_of_frame hf]
        exact ⟨.cons hf hreads, hstopped⟩

lemma Reads.scan (h : F.Reads buf as rest) :
    F.scan buf = { F.scan rest with frames := as ++ (F.scan rest).frames } := by
  induction h with
  | nil => rfl
  | cons hf _ ih => rw [scan_of_frame hf, ih, List.cons_append]

lemma Reads.scan_eq (h : F.Reads buf as rest) (error : Option ε) (hstop : F.Stopped rest error) :
    F.scan buf = ⟨as, rest, error⟩ := by
  rw [h.scan, scan_of_stopped _ hstop, List.append_nil]

lemma Reads.append (h : F.Reads buf as rest) (more : List β) :
    F.Reads (buf ++ more) as (rest ++ more) := by
  induction h with
  | nil => exact .nil
  | cons hf _ ih => exact .cons (front_append_of_frame hf) ih

lemma Reads.trans (h : F.Reads buf as rest) (h' : F.Reads rest bs last) :
    F.Reads buf (as ++ bs) last := by
  induction h with
  | nil => exact h'
  | cons hf _ ih => exact .cons hf (ih h')

lemma Reads.length_le (h : F.Reads buf as rest) : rest.length ≤ buf.length := by
  induction h with
  | nil => exact le_rfl
  | cons hf _ ih => exact ih.trans (length_of_front hf).le

lemma Reads.eq_of_nil (h : F.Reads buf [] rest) : rest = buf := by
  cases h
  rfl

/-- **More bytes are read as if they had been there from the start.** -/
theorem scan_append (buf more : List β) :
    F.scan (buf ++ more) = { F.scan ((F.scan buf).rest ++ more) with
      frames := (F.scan buf).frames ++ (F.scan ((F.scan buf).rest ++ more)).frames } :=
  ((scan_spec buf).1.append more).scan

/-- After an error nothing more is read. -/
theorem scan_append_of_error (more : List β) (h : (F.scan buf).error = some e) :
    F.scan (buf ++ more) = ⟨(F.scan buf).frames, (F.scan buf).rest ++ more, some e⟩ := by
  obtain ⟨hreads, hstopped⟩ := F.scan_spec buf
  rw [h] at hstopped
  exact (hreads.append more).scan_eq (some e) (front_append_of_malformed hstopped)

/-! ## Reading piece by piece

A call that raises has already taken frames off the buffer, and returns none of them.  The next call
starts at the malformed bytes and raises again.
-/

variable (F)

/-- Append `data` to the buffer and take its frames off.  When it raises, they are off the buffer
all the same. -/
def feed (buf data : List β) : Except ε (List α) × List β :=
  let s := F.scan (buf ++ data)
  match s.error with
  | none => (.ok s.frames, s.rest)
  | some e => (.error e, s.rest)

/-- Feed the pieces in order: what each call returns or raises, and the buffer. -/
def feeds : List β → List (List β) → List (Except ε (List α)) × List β := Mealy.run F.feed

/-- What is returned before the first error. -/
def untilError : List (Except ε (List α)) → List α
  | [] => []
  | .ok as :: results => as ++ untilError results
  | .error _ :: _ => []

variable {F} {data : List β} {pieces : List (List β)}

@[simp] lemma feeds_nil : F.feeds buf [] = ([], buf) := rfl

lemma feeds_cons : F.feeds buf (data :: pieces) = ((F.feed buf data).1 ::
    (F.feeds (F.feed buf data).2 pieces).1, (F.feeds (F.feed buf data).2 pieces).2) := rfl

lemma feed_of_none (h : (F.scan (buf ++ data)).error = none) :
    F.feed buf data = (.ok (F.scan (buf ++ data)).frames, (F.scan (buf ++ data)).rest) := by
  rw [feed]
  simp [h]

lemma feed_of_some (h : (F.scan (buf ++ data)).error = some e) :
    F.feed buf data = (.error e, (F.scan (buf ++ data)).rest) := by
  rw [feed]
  simp [h]

lemma untilError_map_ok (results : List (List α)) :
    untilError (results.map (Except.ok (ε := ε))) = results.flatten := by
  induction results with
  | nil => rfl
  | cons as results ih => rw [List.map_cons, untilError, ih, List.flatten_cons]

lemma length_flatten_take_le (pieces : List (List β)) {i n : ℕ} (h : i ≤ n) :
    (pieces.take i).flatten.length ≤ (pieces.take n).flatten.length := by
  obtain ⟨k, rfl⟩ := Nat.exists_eq_add_of_le h
  rw [List.take_add, List.flatten_append, List.length_append]
  omega

/-- **As long as nothing is malformed, the cuts do not matter**: after every call, what has been
returned are the frames of what has arrived. -/
theorem feeds_of_none : ∀ {pieces : List (List β)} {buf : List β},
    F.front buf = .incomplete → (F.scan (buf ++ pieces.flatten)).error = none →
      ∃ results : List (List α), F.feeds buf pieces =
          (results.map .ok, (F.scan (buf ++ pieces.flatten)).rest) ∧
        results.length = pieces.length ∧
        ∀ n, (results.take n).flatten = (F.scan (buf ++ (pieces.take n).flatten)).frames
  | [], buf, hbuf, _ => by
      have hempty : F.scan buf = ⟨[], buf, none⟩ := scan_of_stopped none hbuf
      refine ⟨[], ?_, rfl, ?_⟩
      · simp [hempty]
      · simp [hempty]
  | data :: pieces, buf, hbuf, hnone => by
      rw [List.flatten_cons, ← List.append_assoc] at hnone ⊢
      cases hdata : (F.scan (buf ++ data)).error with
      | some e =>
          rw [scan_append_of_error _ hdata] at hnone
          simp at hnone
      | none =>
          have hstopped := (F.scan_spec (buf ++ data)).2
          rw [hdata] at hstopped
          rw [scan_append] at hnone ⊢
          obtain ⟨results, hfeeds, hlen, hframes⟩ := feeds_of_none hstopped hnone
          refine ⟨(F.scan (buf ++ data)).frames :: results, ?_, by simp [hlen], fun n => ?_⟩
          · rw [feeds_cons, feed_of_none hdata, hfeeds]
            rfl
          · cases n with
            | zero => simp [scan_of_stopped none hbuf]
            | succ n =>
                rw [List.take_succ_cons, List.flatten_cons, hframes, List.take_succ_cons,
                  List.flatten_cons, ← List.append_assoc, scan_append (buf ++ data)]

/-- One piece is the first to show an error. -/
lemma untilError_feeds : ∀ {pieces : List (List β)} {buf : List β},
    F.front buf = .incomplete → (F.scan (buf ++ pieces.flatten)).error = some e →
      ∃ n, (F.scan (buf ++ (pieces.take n).flatten)).error = none ∧
        (F.scan (buf ++ (pieces.take (n + 1)).flatten)).error = some e ∧
        untilError (F.feeds buf pieces).1 = (F.scan (buf ++ (pieces.take n).flatten)).frames
  | [], buf, hbuf, herror => by
      rw [List.flatten_nil, List.append_nil, scan_of_stopped none hbuf] at herror
      simp at herror
  | data :: pieces, buf, hbuf, herror => by
      rw [List.flatten_cons, ← List.append_assoc] at herror
      cases hdata : (F.scan (buf ++ data)).error with
      | some e' =>
          have hempty : F.scan buf = ⟨[], buf, none⟩ := scan_of_stopped none hbuf
          rw [scan_append_of_error _ hdata] at herror
          obtain rfl : e' = e := by simpa using herror
          refine ⟨0, ?_, by simpa using hdata, ?_⟩
          · simp [hempty]
          · simp [feeds_cons, feed_of_some hdata, untilError, hempty]
      | none =>
          have hstopped := (F.scan_spec (buf ++ data)).2
          rw [hdata] at hstopped
          rw [scan_append] at herror
          obtain ⟨n, hnone, hsome, huntil⟩ := untilError_feeds hstopped herror
          refine ⟨n + 1, ?_, ?_, ?_⟩
          · rw [List.take_succ_cons, List.flatten_cons, ← List.append_assoc, scan_append]
            exact hnone
          · rw [List.take_succ_cons, List.flatten_cons, ← List.append_assoc, scan_append]
            exact hsome
          · rw [List.take_succ_cons, List.flatten_cons, ← List.append_assoc, scan_append,
              feeds_cons, feed_of_none hdata, untilError, huntil]

/-- What was returned by calls that did not raise. -/
lemma reads_of_feeds : ∀ {pieces : List (List β)} {buf : List β} {results : List (List α)},
    (F.feeds buf pieces).1 = results.map .ok →
      F.Reads (buf ++ pieces.flatten) results.flatten (F.feeds buf pieces).2
  | [], buf, results, h => by
      obtain rfl : results = [] := by simpa [eq_comm] using h
      simpa using Reads.nil
  | data :: pieces, buf, [], h => by simp [feeds_cons] at h
  | data :: pieces, buf, as :: results, h => by
      rw [feeds_cons, List.map_cons, List.cons.injEq] at h
      obtain ⟨has, hresults⟩ := h
      cases herror : (F.scan (buf ++ data)).error with
      | some e => simp [feed_of_some herror] at has
      | none =>
          rw [feed_of_none herror, Except.ok.injEq] at has
          have hreads := (F.scan_spec (buf ++ data)).1
          have hrest := reads_of_feeds hresults
          rw [feed_of_none herror] at hrest
          rw [List.flatten_cons, ← List.append_assoc, List.flatten_cons, feeds_cons,
            feed_of_none herror, ← has]
          exact (hreads.append pieces.flatten).trans hrest

/-! ## Encoded frames

A sender concatenates encodings.  Each of them spells its frame whatever follows, so no escaping and
no separator is needed, and at any moment the bytes that have arrived are those of some whole frames
and a part of the next one.
-/

/-- `enc` spells `a`, whatever is behind it. -/
def Spells (F : Framing β α ε) (enc : List β) (a : α) : Prop :=
  ∀ rest, F.front (enc ++ rest) = .frame a rest

/-- The frames whose last byte is among the first `n`. -/
def within : List (List β × α) → ℕ → List α
  | [], _ => []
  | (enc, a) :: encoded, n => if enc.length ≤ n then a :: within encoded (n - enc.length) else []

variable {encoded : List (List β × α)}

/-- A header and what it declares. -/
lemma spells_of_header {header body : List β} (hwidth : header.length = F.width)
    (hsize : F.size header = .ok body.length) (hdecode : F.decode body = .ok a) :
    F.Spells (header ++ body) a := by
  intro rest
  refine front_eq_frame_iff.mpr ⟨body.length, ?_, ?_, ?_, ?_⟩
  · simp only [List.length_append]
    omega
  · rwa [List.append_assoc, List.take_left' hwidth]
  · rwa [List.append_assoc, List.drop_left' hwidth, List.take_left' rfl]
  · rw [List.drop_left' (by rw [List.length_append, hwidth])]

lemma Reads.of_encoded (h : ∀ p ∈ encoded, F.Spells p.1 p.2) (rest : List β) :
    F.Reads ((encoded.map Prod.fst).flatten ++ rest) (encoded.map Prod.snd) rest := by
  induction encoded with
  | nil => exact .nil
  | cons p encoded ih =>
      rw [List.map_cons, List.flatten_cons, List.append_assoc]
      exact .cons (h p (by simp) _) (ih fun q hq => h q (by simp [hq]))

/-- What is read of a part of encoded frames, and what is left for later. -/
theorem scan_encoded (more : List β) (h : ∀ p ∈ encoded, F.Spells p.1 p.2) :
    buf ++ more = (encoded.map Prod.fst).flatten →
      ∃ n rest, F.scan buf = ⟨(encoded.take n).map Prod.snd, rest, none⟩ ∧
        rest ++ more = ((encoded.drop n).map Prod.fst).flatten ∧
        (encoded.take n).map Prod.snd = within encoded buf.length := by
  induction encoded generalizing buf with
  | nil =>
      intro hall
      obtain ⟨rfl, rfl⟩ : buf = [] ∧ more = [] := by simpa using hall
      exact ⟨0, [], scan_of_stopped none (if_pos F.width_pos), rfl, rfl⟩
  | cons p encoded ih =>
      obtain ⟨enc, a⟩ := p
      intro hall
      have hspells : F.front (buf ++ more) = .frame a (encoded.map Prod.fst).flatten := by
        rw [hall]
        exact h (enc, a) (by simp) _
      have hlen := congrArg List.length hall
      simp only [List.map_cons, List.flatten_cons, List.length_append] at hlen
      rw [within]
      split_ifs with hle
      · obtain ⟨rest, hrest, hf⟩ := front_of_append hspells (by omega)
        have hsub : buf.length - enc.length = rest.length := by
          have := congrArg List.length hrest
          rw [List.length_append] at this
          omega
        obtain ⟨n, last, hscan, hlast, hwithin⟩ := ih (fun q hq => h q (by simp [hq])) hrest.symm
        refine ⟨n + 1, last, ?_, hlast, ?_⟩
        · rw [scan_of_frame hf, hscan]
          rfl
        · rw [hsub, ← hwithin]
          rfl
      · exact ⟨0, buf, scan_of_stopped none (front_of_short hspells (by omega)), hall, rfl⟩

/-- **Encoded frames, cut in any way, are read back**: each is returned by the call that supplies
its last byte, and nothing is left over. -/
theorem feeds_encoded (h : ∀ p ∈ encoded, F.Spells p.1 p.2)
    (hpieces : pieces.flatten = (encoded.map Prod.fst).flatten) :
    ∃ results : List (List α), F.feeds [] pieces = (results.map .ok, []) ∧
      results.length = pieces.length ∧ results.flatten = encoded.map Prod.snd ∧
      ∀ n, (results.take n).flatten = within encoded (pieces.take n).flatten.length := by
  have hempty : F.front [] = .incomplete := if_pos F.width_pos
  have hscan : F.scan pieces.flatten = ⟨encoded.map Prod.snd, [], none⟩ := by
    rw [hpieces, ← List.append_nil (encoded.map Prod.fst).flatten]
    exact (Reads.of_encoded h []).scan_eq none hempty
  obtain ⟨results, hfeeds, hlen, hframes⟩ := feeds_of_none (F := F) hempty
    (show (F.scan ([] ++ pieces.flatten)).error = none by simp [hscan])
  refine ⟨results, by simpa [hscan] using hfeeds, hlen, ?_, fun n => ?_⟩
  · have hall := hframes results.length
    rwa [List.take_length, hlen, List.take_length, List.nil_append, hscan] at hall
  · rw [hframes, List.nil_append]
    obtain ⟨k, rest, hpart, -, hwithin⟩ := scan_encoded (pieces.drop n).flatten h
      (show (pieces.take n).flatten ++ _ = _ by
        rw [← List.flatten_append, List.take_append_drop, hpieces])
    rw [hpart, hwithin]

/-! ## Where the cuts matter

For a malformed stream it depends on the cuts how much is returned before the error.  The last frame
before it is returned exactly if some call ends behind that frame, and before the bytes are complete
that show the error.
-/

/-- The number of bytes of the frames at the front of a buffer. -/
def whole (F : Framing β α ε) (buf : List β) : ℕ := buf.length - (F.scan buf).rest.length

/-- Some piece ends between the last frame before the malformed one and the byte that shows the
latter. -/
def CutBefore (F : Framing β α ε) (pieces : List (List β)) : Prop :=
  ∃ n, F.whole pieces.flatten ≤ (pieces.take n).flatten.length ∧
    (pieces.take n).flatten.length
      < F.whole pieces.flatten + F.shown (F.scan pieces.flatten).rest

lemma Reads.of_append (h : F.Reads (buf ++ more) as rest) (hle : more.length ≤ rest.length) :
    ∃ rest', rest = rest' ++ more ∧ F.Reads buf as rest' := by
  generalize hall : buf ++ more = all at h
  induction h generalizing buf with
  | nil => exact ⟨buf, hall.symm, .nil⟩
  | cons hf htail ih =>
      subst hall
      obtain ⟨rest', rfl, hf'⟩ := front_of_append hf (hle.trans htail.length_le)
      obtain ⟨last', rfl, htail'⟩ := ih hle rfl
      exact ⟨last', rfl, .cons hf' htail'⟩

/-- What is known of a malformed stream when a part of it has arrived: the error, once enough bytes
have, and all the frames before it, once theirs have. -/
lemma scan_of_error (buf more : List β) (h : (F.scan (buf ++ more)).error = some e) :
    ((F.scan buf).error = none ↔
      buf.length < F.whole (buf ++ more) + F.shown (F.scan (buf ++ more)).rest) ∧
    ((F.scan buf).error = none → ((F.scan buf).frames = (F.scan (buf ++ more)).frames ↔
      F.whole (buf ++ more) ≤ buf.length)) := by
  obtain ⟨hreads, hstopped⟩ := F.scan_spec (buf ++ more)
  rw [h, Stopped] at hstopped
  have hlen := hreads.length_le
  rw [List.length_append] at hlen
  rw [whole, List.length_append]
  refine ⟨⟨fun hnone => ?_, fun hlt => ?_⟩, fun hnone => ⟨fun hframes => ?_, fun hle => ?_⟩⟩
  · by_contra hge
    obtain ⟨rest', hrest, hreads'⟩ := hreads.of_append (by omega)
    rw [hrest, List.length_append] at hge
    rw [hrest] at hstopped
    have hmalformed := front_append_of_shown hstopped (by omega)
    rw [hreads'.scan_eq (some e) hmalformed] at hnone
    simp at hnone
  · cases herror : (F.scan buf).error with
    | none => rfl
    | some e' =>
        have hbuf := (F.scan_spec buf).1.length_le
        have hstopped' := (F.scan_spec buf).2
        rw [herror, Stopped] at hstopped'
        have hshown := shown_le_of_malformed hstopped'
        rw [scan_append_of_error more herror, shown_append (width_le_shown.trans hshown),
          List.length_append] at hlt
        omega
  · rw [scan_append] at hframes ⊢
    have hnothing : (F.scan ((F.scan buf).rest ++ more)).frames = [] := by simpa using hframes
    obtain ⟨hreads', -⟩ := F.scan_spec ((F.scan buf).rest ++ more)
    rw [hnothing] at hreads'
    rw [hreads'.eq_of_nil, List.length_append]
    omega
  · obtain ⟨rest', hrest, hreads'⟩ := hreads.of_append (by omega)
    rw [hreads'.scan]
    cases hf : F.front rest' with
    | incomplete => rw [scan_of_stopped none hf, List.append_nil]
    | malformed e' => rw [scan_of_stopped (some e') hf, List.append_nil]
    | frame a last =>
        rw [hrest, front_append_of_frame hf] at hstopped
        simp at hstopped

/-- **Every frame before the malformed one is returned exactly if some piece ends between the
two.** -/
theorem untilError_feeds_iff (pieces : List (List β)) :
    untilError (F.feeds [] pieces).1 = (F.scan pieces.flatten).frames ↔
      ((F.scan pieces.flatten).error ≠ none → F.CutBefore pieces) := by
  have hempty : F.front [] = .incomplete := if_pos F.width_pos
  cases herror : (F.scan pieces.flatten).error with
  | none =>
      obtain ⟨results, hfeeds, hlen, hframes⟩ := feeds_of_none hempty (by simpa using herror)
      have hall := hframes results.length
      rw [List.take_length, hlen, List.take_length, List.nil_append] at hall
      simp [hfeeds, untilError_map_ok, hall]
  | some e =>
      obtain ⟨n, hnone, hsome, huntil⟩ := untilError_feeds hempty (by simpa using herror)
      simp only [List.nil_append] at hnone hsome huntil
      have hcut : ∀ i, (pieces.take i).flatten ++ (pieces.drop i).flatten = pieces.flatten :=
        fun i => by rw [← List.flatten_append, List.take_append_drop]
      have hlast := scan_of_error (pieces.take n).flatten (pieces.drop n).flatten (by rwa [hcut])
      have hfirst := scan_of_error (pieces.take (n + 1)).flatten (pieces.drop (n + 1)).flatten
        (by rwa [hcut])
      rw [hcut] at hlast hfirst
      rw [huntil, hlast.2 hnone]
      simp only [ne_eq, reduceCtorEq, not_false_eq_true, forall_const]
      refine ⟨fun hle => ⟨n, hle, hlast.1.mp hnone⟩, ?_⟩
      rintro ⟨i, hle, hlt⟩
      -- the piece after the first `n` shows the error, so the cut is not behind it
      have hge : F.whole pieces.flatten + F.shown (F.scan pieces.flatten).rest
          ≤ (pieces.take (n + 1)).flatten.length := by
        rw [← not_lt, ← hfirst.1, hsome]
        simp
      refine hle.trans (length_flatten_take_le pieces ?_)
      by_contra hlt'
      have := length_flatten_take_le pieces (show n + 1 ≤ i by omega)
      omega

end Framing
