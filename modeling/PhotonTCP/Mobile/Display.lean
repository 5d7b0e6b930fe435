import PhotonTCP.Foundation.Threads
import PhotonTCP.Mobile.Frames

/-!
# The display

`KivyDisplay.show` stores a frame on the thread that calls it, and asks the scheduler for a render
callback on the main thread unless one is on its way.  The callback takes the frame that is pending
by then and uploads it.

* `KivyDisplay` — the display; `store` and `take` — its locked sections.
* `Screen` — the display, the queue of the scheduler and the frame that was stored last;
  `Screen.system` — the threads that call `show`, `close` and the callback.
* `Settled` — the invariant; `Settled.step` — one step of one thread preserves it.
* **`no_frame_stranded`** — without a `close`, the widget ends up with the frame that was stored
  last.

Frames are shown faster than they are rendered, and then some are never seen; this is intended,
since the newest is what counts.  What must not happen is that the newest is stored and nobody
renders it.  That is the danger in a flag which says that a callback is on its way: if it were
cleared too late, a frame that is stored between the take and the clearing would find it set and
schedule nothing.

The flag is cleared in the section that takes the frame.  The invariant says where the newest frame
is: pending with a callback expected, or taken by the callback and not uploaded yet, or in the
widget.
-/

namespace PhotonTCP.Mobile

/-! ## The display

The methods by their sections, as for the camera.
-/

/-- A texture with an image in it. -/
structure Texture where
  size : ℕ × ℕ
  colorfmt : String
  buffer : Bytes
  flipped : Bool
deriving DecidableEq

/-- `widget` is the texture of the widget. -/
structure KivyDisplay where
  widget : Option Texture
  colorfmt : String := "luminance"
  flipVertical : Bool := true
  pending : Option Frame := none
  scheduled : Bool := false
  closed : Bool := false
deriving DecidableEq

namespace KivyDisplay

/-- The unlocked part of `show`: the frame to store, if there is one. -/
def «show» (display : KivyDisplay) (image : Option NdArray) : Option Frame :=
  if display.closed then none else image.bind (pack display.colorfmt)

/-- The locked section of `show`, and `needs_schedule`. -/
def store (display : KivyDisplay) (prepared : Frame) : Bool × KivyDisplay :=
  (!display.scheduled, { display with pending := some prepared, scheduled := true })

/-- The locked section of `_render`, and the frame it takes. -/
def take (display : KivyDisplay) : Option Frame × KivyDisplay :=
  (display.pending, { display with pending := none, scheduled := false })

/-- The texture that `_render` makes of a frame. -/
def texture (display : KivyDisplay) (f : Frame) : Texture where
  size := f.size
  colorfmt := display.colorfmt
  buffer := f.buffer
  flipped := display.flipVertical

/-- `_render` after its locked section. -/
def upload (display : KivyDisplay) (taken : Option Frame) : KivyDisplay :=
  match taken with
  | none => display
  | some f => if display.closed then display else { display with widget := some (display.texture f) }

@[simp] lemma pending_upload (display : KivyDisplay) (taken : Option Frame) :
    (display.upload taken).pending = display.pending := by
  cases taken with
  | none => rfl
  | some f => rw [KivyDisplay.upload]; split_ifs <;> rfl

@[simp] lemma scheduled_upload (display : KivyDisplay) (taken : Option Frame) :
    (display.upload taken).scheduled = display.scheduled := by
  cases taken with
  | none => rfl
  | some f => rw [KivyDisplay.upload]; split_ifs <;> rfl

@[simp] lemma closed_upload (display : KivyDisplay) (taken : Option Frame) :
    (display.upload taken).closed = display.closed := by
  cases taken with
  | none => rfl
  | some f => rw [KivyDisplay.upload]; split_ifs <;> rfl

/-- The locked section of `close`. -/
def drop (display : KivyDisplay) : KivyDisplay := { display with pending := none }

end KivyDisplay

/-! ## The threads

Callbacks wait in the queue of the scheduler, and the main thread runs one at a time.
-/

/-- Where a thread is. -/
inductive DisplayStage where
  | idle
  | storing (prepared : Frame)
  | scheduling
  | rendering (taken : Option Frame)
  | closing
deriving DecidableEq

/-- What a thread does next. -/
inductive DisplayAction where
  | «show» (image : Option NdArray)
  | store
  | schedule
  | take
  | upload
  | close
  | drop
deriving DecidableEq

/-- The display; `queued` callbacks wait for the main thread; `stored` is the frame that was stored
last. -/
structure Screen where
  display : KivyDisplay
  queued : ℕ := 0
  stored : Option Frame := none
deriving DecidableEq

namespace Screen

variable {ι : Type*} [DecidableEq ι]

/-- The atomic steps.  Callbacks run on the thread `main`, one after the other. -/
def step (main i : ι) (stage : DisplayStage) (a : DisplayAction) (s : Screen) :
    Option (DisplayStage × Screen) :=
  match a, stage with
  | .show image, .idle =>
      match s.display.show image with
      | some prepared => some (.storing prepared, s)
      | none => some (.idle, s)
  | .store, .storing prepared =>
      let (needsSchedule, display) := s.display.store prepared
      some (if needsSchedule then .scheduling else .idle, { s with display, stored := some prepared })
  | .schedule, .scheduling => some (.idle, { s with queued := s.queued + 1 })
  | .take, .idle =>
      if i = main ∧ 0 < s.queued then
        let (taken, display) := s.display.take
        some (.rendering taken, { s with display, queued := s.queued - 1 })
      else none
  | .upload, .rendering taken => some (.idle, { s with display := s.display.upload taken })
  | .close, .idle => some (.closing, { s with display := { s.display with closed := true } })
  | .drop, .closing => some (.idle, { s with display := s.display.drop })
  | _, _ => none

/-- The interleavings. -/
abbrev system (main : ι) : Transition (Threads ι Screen DisplayStage) (ι × DisplayAction) :=
  Threads.system (step main)

/-- A new display, before anything is called. -/
def initial (widget : Option Texture) (colorfmt : String) (flipVertical : Bool) :
    Threads ι Screen DisplayStage where
  shared := { display := { widget, colorfmt, flipVertical } }
  stage _ := .idle

/-- Nobody closes the display. -/
def stillOpen (_ : Threads ι Screen DisplayStage) (act : ι × DisplayAction) : Prop := act.2 ≠ .close

instance (t : Threads ι Screen DisplayStage) (act : ι × DisplayAction) : Decidable (stillOpen t act) :=
  inferInstanceAs (Decidable (_ ≠ _))

/-! ## The invariant

Where the callback is, and where the frame is.
-/

/-- A callback is queued, or a thread is about to queue one. -/
def Expected (t : Threads ι Screen DisplayStage) : Prop :=
  0 < t.shared.queued ∨ ∃ i, t.stage i = .scheduling

/-- At most one callback is queued or about to be. -/
structure OneCallback (t : Threads ι Screen DisplayStage) : Prop where
  queued : t.shared.queued ≤ 1
  scheduling : t.AtMostOne (· = .scheduling)
  apart : ∀ i, t.stage i = .scheduling → t.shared.queued = 0

/-- The frame is pending, or it has been taken and is not uploaded, or the widget shows it. -/
inductive Underway (main : ι) (t : Threads ι Screen DisplayStage) (f : Frame) : Prop where
  | pending (h : t.shared.display.pending = some f)
  | taken (h : t.stage main = .rendering (some f))
      (hpending : t.shared.display.pending = none)
  | shown (h : t.shared.display.widget = some (t.shared.display.texture f))
      (hpending : t.shared.display.pending = none)
      (htaken : ∀ g, t.stage main ≠ .rendering (some g))

/-- What every interleaving preserves. -/
structure Settled (main : ι) (t : Threads ι Screen DisplayStage) : Prop where
  isOpen : t.shared.display.closed = false
  closing : ∀ i, t.stage i ≠ .closing
  rendering : ∀ i taken, t.stage i = .rendering taken → i = main
  one : OneCallback t
  scheduled : t.shared.display.scheduled = true ↔ Expected t
  pending : t.shared.display.pending ≠ none → t.shared.display.scheduled = true
  stored : ∀ f, t.shared.stored = some f → Underway main t f

variable {main i : ι} {t : Threads ι Screen DisplayStage} {l : DisplayStage} {s : Screen}

/-- A thread that queues nothing. -/
lemma OneCallback.move (h : OneCallback t) (hl : l ≠ .scheduling)
    (hqueued : s.queued ≤ t.shared.queued) : OneCallback (t.move i l s) where
  queued := hqueued.trans h.queued
  scheduling := h.scheduling.move_out hl
  apart := by
    refine (Threads.forall_stage_move (P := fun _ (l : DisplayStage) => l = .scheduling → s.queued = 0)).mpr
      ⟨fun h => absurd h hl, fun j _ hj => ?_⟩
    have hzero := h.apart j hj
    omega

lemma expected_move (h : t.stage i ≠ .scheduling) (hl : l ≠ .scheduling) :
    Expected (t.move i l s) ↔ 0 < s.queued ∨ ∃ j, t.stage j = .scheduling :=
  or_congr_right (Threads.exists_stage_move (P := fun l : DisplayStage => l = .scheduling) h hl)

/-- A thread that leaves the display alone, and is in the callback neither before nor after. -/
lemma Underway.move {f : Frame} (h : Underway main t f) (hi : ∀ taken, t.stage i ≠ .rendering taken)
    (hl : ∀ taken, l ≠ .rendering taken) (hs : s.display = t.shared.display) :
    Underway main (t.move i l s) f := by
  cases h with
  | pending h => exact .pending (hs ▸ h)
  | taken h hpending =>
      have hne : main ≠ i := by
        rintro rfl
        exact hi _ h
      exact .taken (by rwa [Threads.stage_move_of_ne hne]) (hs ▸ hpending)
  | shown h hpending htaken =>
      refine .shown (hs ▸ h) (hs ▸ hpending) fun g => ?_
      by_cases hmain : main = i
      · subst hmain
        rw [Threads.stage_move_self]
        exact hl _
      · rw [Threads.stage_move_of_ne hmain]
        exact htaken g

/-! ## One step

One lemma for each section.
-/

lemma Settled.closing_move (h : Settled main t) (hl : l ≠ .closing) :
    ∀ j, (t.move i l s).stage j ≠ .closing :=
  (Threads.forall_stage_move (P := fun _ (l : DisplayStage) => l ≠ .closing)).mpr
    ⟨hl, fun j _ => h.closing j⟩

lemma Settled.rendering_move (h : Settled main t) (hl : ∀ taken, l = .rendering taken → i = main) :
    ∀ j taken, (t.move i l s).stage j = .rendering taken → j = main :=
  (Threads.forall_stage_move
    (P := fun j (l : DisplayStage) => ∀ taken, l = .rendering taken → j = main)).mpr
    ⟨hl, fun j _ => h.rendering j⟩

/-- `show` checks and packs. -/
lemma Settled.show (h : Settled main t) (hi : t.stage i = .idle)
    (hl : l = .idle ∨ ∃ prepared, l = .storing prepared) : Settled main (t.move i l t.shared) := by
  have hscheduling : l ≠ .scheduling := by rcases hl with rfl | ⟨f, rfl⟩ <;> simp
  have hrendering : ∀ taken, l ≠ .rendering taken := by rcases hl with rfl | ⟨f, rfl⟩ <;> simp
  have hclosing : l ≠ .closing := by rcases hl with rfl | ⟨f, rfl⟩ <;> simp
  exact {
    isOpen := h.isOpen
    closing := h.closing_move hclosing
    rendering := h.rendering_move fun taken h => absurd h (hrendering taken)
    one := h.one.move hscheduling le_rfl
    scheduled := h.scheduled.trans (expected_move (by simp [hi]) hscheduling).symm
    pending := h.pending
    stored := fun f hf => (h.stored f hf).move (by simp [hi]) hrendering rfl }

/-- `show` stores, and a callback is expected. -/
lemma Settled.store_again {prepared : Frame} (h : Settled main t) (hi : t.stage i = .storing prepared)
    (hscheduled : t.shared.display.scheduled = true) :
    Settled main (t.move i .idle
      { t.shared with display := (t.shared.display.store prepared).2, stored := some prepared }) where
  isOpen := h.isOpen
  closing := h.closing_move (by simp)
  rendering := h.rendering_move (by simp)
  one := h.one.move (by simp) le_rfl
  scheduled := by
    rw [expected_move (by simp [hi]) (by simp)]
    exact iff_of_true rfl (h.scheduled.mp hscheduled)
  pending := fun _ => rfl
  stored := fun _ hf => .pending hf

/-- `show` stores, and is about to queue a callback. -/
lemma Settled.store_first {prepared : Frame} (h : Settled main t)
    (hscheduled : ¬ t.shared.display.scheduled = true) :
    Settled main (t.move i .scheduling
      { t.shared with display := (t.shared.display.store prepared).2, stored := some prepared }) := by
  have hnone : ¬ Expected t := fun h' => hscheduled (h.scheduled.mpr h')
  obtain ⟨hqueued, hscheduling⟩ := not_or.mp hnone
  exact {
    isOpen := h.isOpen
    closing := h.closing_move (by simp)
    rendering := h.rendering_move (by simp)
    one := {
      queued := h.one.queued
      scheduling := Threads.AtMostOne.move_in fun j hj => hscheduling ⟨j, hj⟩
      apart := fun _ _ => Nat.eq_zero_of_not_pos hqueued }
    scheduled := iff_of_true rfl (.inr ⟨i, Threads.stage_move_self⟩)
    pending := fun _ => rfl
    stored := fun _ hf => .pending hf }

/-- `show` queues the callback. -/
lemma Settled.schedule (h : Settled main t) (hi : t.stage i = .scheduling) :
    Settled main (t.move i .idle { t.shared with queued := t.shared.queued + 1 }) := by
  have hqueued := h.one.apart i hi
  exact {
    isOpen := h.isOpen
    closing := h.closing_move (by simp)
    rendering := h.rendering_move (by simp)
    one := {
      queued := by simp [hqueued]
      scheduling := h.one.scheduling.move_out (by simp)
      apart := by
        refine (Threads.forall_stage_move (P := fun _ (l : DisplayStage) => l = .scheduling → _)).mpr
          ⟨by simp, fun j hne hj => absurd (h.one.scheduling j i hj hi) hne⟩ }
    scheduled := iff_of_true (h.scheduled.mpr (.inr ⟨i, hi⟩)) (.inl (Nat.succ_pos _))
    pending := h.pending
    stored := fun f hf => (h.stored f hf).move (by simp [hi]) (by simp) rfl }

/-- The callback takes what is pending. -/
lemma Settled.take (h : Settled main t) (hi : t.stage main = .idle) (hqueued : 0 < t.shared.queued) :
    Settled main (t.move main (.rendering t.shared.display.take.1)
      { t.shared with display := t.shared.display.take.2, queued := t.shared.queued - 1 }) := by
  have hone := h.one.queued
  have hnone : ¬ ∃ j, t.stage j = .scheduling := by
    rintro ⟨j, hj⟩
    have hzero := h.one.apart j hj
    omega
  exact {
    isOpen := h.isOpen
    closing := h.closing_move (by simp)
    rendering := h.rendering_move fun _ _ => rfl
    one := h.one.move (by simp) (Nat.sub_le _ _)
    scheduled := by
      rw [expected_move (by simp [hi]) (by simp)]
      refine iff_of_false (by simp [KivyDisplay.take]) ?_
      rintro (hpos | hsome)
      · change 0 < t.shared.queued - 1 at hpos
        omega
      · exact hnone hsome
    pending := fun h => absurd rfl h
    stored := fun f hf => by
      cases h.stored f hf with
      | pending hpending => exact .taken (by simp [KivyDisplay.take, hpending]) rfl
      | taken htaken _ => simp [hi] at htaken
      | shown hshown hpending _ =>
          refine .shown hshown rfl fun g => ?_
          simp [KivyDisplay.take, hpending] }

/-- The callback uploads what it took. -/
lemma Settled.upload {taken : Option Frame} (h : Settled main t)
    (hmain : t.stage main = .rendering taken) :
    Settled main
      (t.move main .idle { t.shared with display := t.shared.display.upload taken }) where
  isOpen := by simp [h.isOpen]
  closing := h.closing_move (by simp)
  rendering := h.rendering_move (by simp)
  one := h.one.move (by simp) le_rfl
  scheduled := by
    rw [expected_move (by simp [hmain]) (by simp)]
    simpa [Expected] using h.scheduled
  pending := by simpa using h.pending
  stored := fun f hf => by
    cases h.stored f hf with
    | pending hpending => exact .pending (by simpa using hpending)
    | taken htaken hpending =>
        obtain rfl : taken = some f := by simpa [hmain] using htaken
        refine .shown ?_ (by simpa using hpending) (by simp)
        simp [KivyDisplay.upload, h.isOpen, KivyDisplay.texture]
    | shown hshown hpending htaken =>
        obtain rfl : taken = none := by
          rcases taken with _ | g
          · rfl
          · exact absurd hmain (htaken g)
        exact .shown hshown hpending (by simp)

/-- **One step of one thread.** -/
lemma Settled.step {a : DisplayAction} (h : Settled main t) (hok : a ≠ .close)
    (hstep : Screen.step main i (t.stage i) a t.shared = some (l, s)) :
    Settled main (t.move i l s) := by
  cases a <;> cases hi : t.stage i <;> simp only [Screen.step, hi, reduceCtorEq] at hstep
  case «show».idle image =>
    split at hstep <;> obtain ⟨rfl, rfl⟩ := Option.some.inj hstep
    · exact h.show hi (.inr ⟨_, rfl⟩)
    · exact h.show hi (.inl rfl)
  case store.storing prepared =>
    obtain ⟨rfl, rfl⟩ := Option.some.inj hstep
    by_cases hscheduled : t.shared.display.scheduled = true
    · simpa [KivyDisplay.store, hscheduled] using h.store_again hi hscheduled
    · simpa [KivyDisplay.store, hscheduled] using h.store_first hscheduled
  case schedule.scheduling =>
    obtain ⟨rfl, rfl⟩ := Option.some.inj hstep
    exact h.schedule hi
  case take.idle =>
    split_ifs at hstep with hmain
    obtain ⟨rfl, hqueued⟩ := hmain
    obtain ⟨rfl, rfl⟩ := Option.some.inj hstep
    exact h.take hi hqueued
  case upload.rendering taken =>
    obtain ⟨rfl, rfl⟩ := Option.some.inj hstep
    obtain rfl := h.rendering i taken hi
    exact h.upload hi
  case close.idle => exact absurd rfl hok
  case drop.closing => exact absurd hi (h.closing i)

omit [DecidableEq ι] in
lemma settled_initial (widget : Option Texture) (colorfmt : String) (flipVertical : Bool) :
    Settled main (initial (ι := ι) widget colorfmt flipVertical) where
  isOpen := rfl
  closing _ := by simp [initial]
  rendering _ := by simp [initial]
  one := {
    queued := Nat.zero_le _
    scheduling := fun _ _ h => by simp [initial] at h
    apart := fun _ _ => rfl }
  scheduled := iff_of_false (by simp [initial]) (by simp [Expected, initial])
  pending h := absurd rfl h
  stored := by simp [initial]

/-! ## Every run

A closed display shows nothing more, so the run has no `close` in it.
-/

/-- **No displayed frame is stranded.**  At most one callback is queued or about to be; a pending
frame implies that there is one; and when nothing is in progress and no callback is queued, the
widget shows the frame that was stored last. -/
theorem no_frame_stranded {widget : Option Texture} {colorfmt : String} {flipVertical : Bool}
    (h : (system main).Reach stillOpen (initial widget colorfmt flipVertical) t) :
    OneCallback t ∧ (t.shared.display.pending ≠ none → Expected t) ∧
      ((∀ i, t.stage i = .idle) → t.shared.queued = 0 → ∀ f, t.shared.stored = some f →
        t.shared.display.widget = some (t.shared.display.texture f)) := by
  have hsettled : Settled main t :=
    Threads.invariant h (settled_initial widget colorfmt flipVertical)
      fun _ _ _ _ _ hI hok hstep => hI.step hok hstep
  refine ⟨hsettled.one, fun hpending => hsettled.scheduled.mp (hsettled.pending hpending), ?_⟩
  intro hidle hqueued f hstored
  have hnone : ¬ Expected t := by
    rintro (hpos | ⟨i, hi⟩)
    · omega
    · rw [hidle i] at hi
      cases hi
  cases hsettled.stored f hstored with
  | pending hpending => exact absurd (hsettled.scheduled.mp (hsettled.pending (by simp [hpending]))) hnone
  | taken htaken _ =>
      rw [hidle main] at htaken
      cases htaken
  | shown hshown _ _ => exact hshown

/-- One pixel. -/
def pixel (value : UInt8) : NdArray where
  shape := [1, 1]
  data := [value]

/-- A second frame is shown while the first is rendered. -/
def overlapping : List (Bool × DisplayAction) :=
  [(true, .show (pixel 1)), (true, .store), (true, .schedule), (false, .take),
    (true, .show (pixel 2)), (true, .store), (false, .upload), (true, .schedule),
    (false, .take), (false, .upload)]

/-- The second frame is the one that is left in the widget. -/
theorem no_frame_stranded_overlapping : ∃ t, (system false).Reach stillOpen
    (initial none "luminance" true) t ∧ t.shared.display.widget =
      some { size := (1, 1), colorfmt := "luminance", buffer := [2], flipped := true } := by
  obtain ⟨t, hreach, hidle, hqueued, hstored, htexture⟩ :=
    (system false).exists_reach_of_exec stillOpen overlapping (initial none "luminance" true)
      (fun t => (∀ i, t.stage i = .idle) ∧ t.shared.queued = 0 ∧
        t.shared.stored = some { buffer := [2], size := (1, 1) } ∧
        t.shared.display.texture { buffer := [2], size := (1, 1) } =
          { size := (1, 1), colorfmt := "luminance", buffer := [2], flipped := true })
      (by decide +kernel)
  refine ⟨t, hreach, ?_⟩
  rw [(no_frame_stranded hreach).2.2 hidle hqueued _ hstored, htexture]

end Screen

end PhotonTCP.Mobile
