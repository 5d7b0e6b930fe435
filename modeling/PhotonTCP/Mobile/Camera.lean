import Mathlib.Data.Fintype.Pi
import Mathlib.Data.Rat.Defs
import PhotonTCP.Foundation.Threads
import PhotonTCP.Mobile.Frames

/-!
# The camera

The preview calls `KivyCamera.submit_frame` on its own thread, which overwrites the one pending
frame; `read` takes it, converts it and remembers the result; `close` drops both.  The flag
`_closed` is read and written outside the lock.

* `KivyCamera` — the camera; `store`, `take` and `clear` — its locked sections.
* `Shutter` — the camera and the frame that was stored last; `Shutter.system` — the threads.
* `Fresh` — the invariant; `Fresh.step` — one step of one thread preserves it.
* **`latest_frame`** — the event announces the latest frame, and nothing is retained after `close`
  unless a call that had checked the flag before stores or remembers after the clearing.

The camera holds one pending frame and one that was read last.  It promises two things: that a
reader gets the latest frame, and that a camera that is closed keeps nothing.  The first holds of
every interleaving, since the frame and its event are written in one locked section.  The second
does not quite: the flag is checked before the lock is taken, and `close` may run between the check
and the store.  So it holds of the runs in which no such call is late, and a call that is late does
leave a frame behind.
-/

namespace PhotonTCP.Mobile

/-! ## The camera

The locked sections are functions, and so is what a method does before them and after them.
-/

/-- A capture: the pixels, the size and the format. -/
structure Entry where
  raw : Pixels
  size : Option (ℤ × ℤ)
  colorfmt : String
deriving DecidableEq

/-- `arrived` is the event that `read` waits for; `last` is what it returned last. -/
structure KivyCamera where
  colorfmt : String := "rgba"
  flipVertical : Bool := false
  flipHorizontal : Bool := false
  pending : Option Entry := none
  arrived : Bool := false
  last : Option NdArray := none
  closed : Bool := false
deriving DecidableEq

namespace KivyCamera

/-- The unlocked part of `submit_frame`: the capture to store, if there is one. -/
def submitFrame (camera : KivyCamera) (pixels : Option Pixels) (size : Option (ℤ × ℤ))
    (colorfmt : Option String) : Option Entry :=
  if camera.closed then none
  else pixels.map fun raw =>
    let colorfmt :=
      match colorfmt with
      | none => camera.colorfmt
      | some colorfmt => if colorfmt = "" then camera.colorfmt else colorfmt
    { raw, size, colorfmt }

/-- The locked section of `submit_frame`. -/
def store (camera : KivyCamera) (entry : Entry) : KivyCamera :=
  { camera with pending := some entry, arrived := true }

/-- The locked section of `read`, and the capture it takes. -/
def take (camera : KivyCamera) : Option Entry × KivyCamera :=
  (camera.pending, { camera with pending := none, arrived := false })

/-- The conversion of a capture. -/
def convert (camera : KivyCamera) (entry : Entry) : Option NdArray :=
  frameToArray entry.raw entry.size entry.colorfmt camera.flipVertical camera.flipHorizontal

/-- `read` after its locked section: what it returns, and the camera that remembers it. -/
def remember (camera : KivyCamera) (taken : Option Entry) : Option NdArray × KivyCamera :=
  match taken.bind camera.convert with
  | none => (camera.last, camera)
  | some frame => (some frame, { camera with last := some frame })

/-- The locked section of `close`. -/
def clear (camera : KivyCamera) : KivyCamera := { camera with pending := none, last := none }

@[simp] lemma pending_remember (camera : KivyCamera) (taken : Option Entry) :
    (camera.remember taken).2.pending = camera.pending := by
  rw [remember]
  split <;> rfl

@[simp] lemma arrived_remember (camera : KivyCamera) (taken : Option Entry) :
    (camera.remember taken).2.arrived = camera.arrived := by
  rw [remember]
  split <;> rfl

@[simp] lemma closed_remember (camera : KivyCamera) (taken : Option Entry) :
    (camera.remember taken).2.closed = camera.closed := by
  rw [remember]
  split <;> rfl

/-- **What `read` returns is what it remembers, and a gray or a color image.** -/
theorem wellFormed_remember {camera : KivyCamera} {taken : Option Entry}
    (h : ∀ arr, camera.last = some arr → arr.WellFormed) :
    (camera.remember taken).1 = (camera.remember taken).2.last ∧
      ∀ arr, (camera.remember taken).2.last = some arr → arr.WellFormed := by
  rw [remember]
  split
  · exact ⟨rfl, h⟩
  · rename_i frame hframe
    refine ⟨rfl, fun arr harr => ?_⟩
    obtain rfl := Option.some.inj harr
    obtain ⟨entry, _, hconvert⟩ := Option.bind_eq_some_iff.mp hframe
    exact (wellFormed_frameToArray hconvert).1

end KivyCamera

/-! ## The threads

Any number of threads call the three methods.  A method is as many steps as it has sections, and its
local variables are in the stage of its thread.
-/

/-- Where a thread is. -/
inductive CameraStage where
  | idle
  | storing (entry : Entry)
  | waiting (timeout : Option ℚ)
  | checking
  | taking
  | converting (taken : Option Entry)
  | flagging
  | clearing
  | signalling
deriving DecidableEq

/-- What a thread does next. -/
inductive CameraAction where
  | submitFrame (pixels : Option Pixels) (size : Option (ℤ × ℤ)) (colorfmt : Option String)
  | store
  | read (timeout : Option ℚ)
  | wake
  | check
  | take
  | remember
  | close
  | flag
  | clear
  | signal
deriving DecidableEq

/-- The camera, and the capture that was stored last. -/
structure Shutter where
  camera : KivyCamera
  stored : Option Entry := none
deriving DecidableEq

namespace Shutter

variable {ι : Type*} [DecidableEq ι]

/-- The atomic steps.  A wait ends when the event is set or, if there is a timeout, at any moment.
-/
def step (_ : ι) (stage : CameraStage) (a : CameraAction) (s : Shutter) :
    Option (CameraStage × Shutter) :=
  match a, stage with
  | .submitFrame pixels size colorfmt, .idle =>
      match s.camera.submitFrame pixels size colorfmt with
      | some entry => some (.storing entry, s)
      | none => some (.idle, s)
  | .store, .storing entry =>
      some (.idle, { s with camera := s.camera.store entry, stored := some entry })
  | .read timeout, .idle => some (if s.camera.closed then .idle else .waiting timeout, s)
  | .wake, .waiting timeout =>
      if s.camera.arrived ∨ timeout ≠ none then some (.checking, s) else none
  | .check, .checking => some (if s.camera.closed then .idle else .taking, s)
  | .take, .taking =>
      let (taken, camera) := s.camera.take
      some (.converting taken, { s with camera })
  | .remember, .converting taken => some (.idle, { s with camera := (s.camera.remember taken).2 })
  | .close, .idle => some (if s.camera.closed then .idle else .flagging, s)
  | .flag, .flagging => some (.clearing, { s with camera := { s.camera with closed := true } })
  | .clear, .clearing => some (.signalling, { s with camera := s.camera.clear })
  | .signal, .signalling => some (.idle, { s with camera := { s.camera with arrived := true } })
  | _, _ => none

/-- The interleavings. -/
abbrev system : Transition (Threads ι Shutter CameraStage) (ι × CameraAction) := Threads.system step

/-- A new camera, before anything is called. -/
def initial (colorfmt : String) (flipVertical flipHorizontal : Bool) :
    Threads ι Shutter CameraStage where
  shared := { camera := { colorfmt, flipVertical, flipHorizontal } }
  stage _ := .idle

/-- `close` has not come to the end of its clearing yet. -/
def Closing (stage : CameraStage) : Prop := stage = .flagging ∨ stage = .clearing

instance (stage : CameraStage) : Decidable (Closing stage) := inferInstanceAs (Decidable (_ ∨ _))

/-- `close` has dropped what was retained. -/
def Cleared (t : Threads ι Shutter CameraStage) : Prop :=
  t.shared.camera.closed = true ∧ ∀ i, ¬ Closing (t.stage i)

/-- The step retains a frame: it stores a capture, or it remembers a converted one. -/
def retains (camera : KivyCamera) : CameraStage → CameraAction → Bool
  | .storing _, .store => true
  | .converting (some entry), .remember => (camera.convert entry).isSome
  | _, _ => false

/-- No step retains a frame after `close` has dropped what was retained. -/
def inTime (t : Threads ι Shutter CameraStage) (act : ι × CameraAction) : Prop :=
  Cleared t → retains t.shared.camera (t.stage act.1) act.2 = false

instance [Fintype ι] (t : Threads ι Shutter CameraStage) : Decidable (Cleared t) :=
  inferInstanceAs (Decidable (_ ∧ ∀ _, _))

instance [Fintype ι] (t : Threads ι Shutter CameraStage) (act : ι × CameraAction) :
    Decidable (inTime t act) :=
  inferInstanceAs (Decidable (_ → _))

/-! ## The event and the latest frame

One lemma for each section, which says that it keeps the invariant.
-/

/-- What every interleaving preserves. -/
structure Fresh (t : Threads ι Shutter CameraStage) : Prop where
  stored : ∀ entry, t.shared.camera.pending = some entry → t.shared.stored = some entry
  arrived : t.shared.camera.closed = false →
    (t.shared.camera.arrived = true ↔ t.shared.camera.pending ≠ none)
  closing : ∀ i, t.stage i = .clearing ∨ t.stage i = .signalling → t.shared.camera.closed = true

variable {i : ι} {t : Threads ι Shutter CameraStage} {l : CameraStage} {s : Shutter}

lemma Fresh.closing_move (h : Fresh t)
    (hs : t.shared.camera.closed = true → s.camera.closed = true)
    (hl : l = .clearing ∨ l = .signalling → s.camera.closed = true) :
    ∀ j, (t.move i l s).stage j = .clearing ∨ (t.move i l s).stage j = .signalling →
      s.camera.closed = true :=
  (Threads.forall_stage_move
    (P := fun _ (l : CameraStage) => l = .clearing ∨ l = .signalling → s.camera.closed = true)).mpr
    ⟨hl, fun j _ hj => hs (h.closing j hj)⟩

/-- A thread moves on, and the camera stays as it is. -/
lemma Fresh.move (h : Fresh t) (hl : l ≠ .clearing) (hl' : l ≠ .signalling) :
    Fresh (t.move i l t.shared) where
  stored := h.stored
  arrived := h.arrived
  closing := h.closing_move id (by simp [hl, hl'])

/-- `submit_frame` stores. -/
lemma Fresh.store (h : Fresh t) (entry : Entry) : Fresh (t.move i .idle
    { t.shared with camera := t.shared.camera.store entry, stored := some entry }) where
  stored _ hentry := hentry
  arrived _ := iff_of_true rfl (by simp [KivyCamera.store])
  closing := h.closing_move id (by simp)

/-- `read` takes. -/
lemma Fresh.take (h : Fresh t) : Fresh (t.move i (.converting t.shared.camera.take.1)
    { t.shared with camera := t.shared.camera.take.2 }) where
  stored := by simp [KivyCamera.take]
  arrived _ := by simp [KivyCamera.take]
  closing := h.closing_move id (by simp)

/-- `read` remembers. -/
lemma Fresh.remember (h : Fresh t) (taken : Option Entry) : Fresh (t.move i .idle
    { t.shared with camera := (t.shared.camera.remember taken).2 }) where
  stored := by simpa using h.stored
  arrived := by simpa using h.arrived
  closing := h.closing_move (by simp) (by simp)

/-- `close` raises the flag. -/
lemma Fresh.flag (h : Fresh t) : Fresh (t.move i .clearing
    { t.shared with camera := { t.shared.camera with closed := true } }) where
  stored := h.stored
  arrived hopen := by cases hopen
  closing := h.closing_move (fun _ => rfl) fun _ => rfl

/-- `close` clears. -/
lemma Fresh.clear (h : Fresh t) (hi : t.stage i = .clearing) :
    Fresh (t.move i .signalling { t.shared with camera := t.shared.camera.clear }) where
  stored := by simp [KivyCamera.clear]
  arrived hopen := by
    have hclosed := h.closing i (.inl hi)
    rw [Threads.shared_move] at hopen
    exact absurd (hopen.symm.trans hclosed) (by simp)
  closing := h.closing_move id fun _ => h.closing i (.inl hi)

/-- `close` sets the event. -/
lemma Fresh.signal (h : Fresh t) (hi : t.stage i = .signalling) :
    Fresh (t.move i .idle { t.shared with camera := { t.shared.camera with arrived := true } }) where
  stored := h.stored
  arrived hopen := by
    have hclosed := h.closing i (.inr hi)
    rw [Threads.shared_move] at hopen
    exact absurd (hopen.symm.trans hclosed) (by simp)
  closing := h.closing_move id (by simp)

/-- One step of one thread. -/
lemma Fresh.step {a : CameraAction} (h : Fresh t)
    (hstep : Shutter.step i (t.stage i) a t.shared = some (l, s)) : Fresh (t.move i l s) := by
  cases a <;> cases hi : t.stage i <;> simp only [Shutter.step, hi, reduceCtorEq] at hstep
  case submitFrame.idle pixels size colorfmt =>
    split at hstep <;> obtain ⟨rfl, rfl⟩ := Option.some.inj hstep
    · exact h.move (by simp) (by simp)
    · exact h.move (by simp) (by simp)
  case wake.waiting timeout =>
    split_ifs at hstep
    obtain ⟨rfl, rfl⟩ := Option.some.inj hstep
    exact h.move (by simp) (by simp)
  all_goals obtain ⟨rfl, rfl⟩ := Option.some.inj hstep
  case store.storing entry => exact h.store entry
  case read.idle timeout => exact h.move (by split_ifs <;> simp) (by split_ifs <;> simp)
  case check.checking => exact h.move (by split_ifs <;> simp) (by split_ifs <;> simp)
  case take.taking => exact h.take
  case remember.converting taken => exact h.remember taken
  case close.idle => exact h.move (by split_ifs <;> simp) (by split_ifs <;> simp)
  case flag.flagging => exact h.flag
  case clear.clearing => exact h.clear hi
  case signal.signalling => exact h.signal hi

/-! ## What `close` drops

A store or a conversion is in time if `close` has not finished its clearing.  The condition is about
the step and the state before it.
-/

/-- Nothing is retained once `close` has cleared. -/
def Dropped (t : Threads ι Shutter CameraStage) : Prop :=
  Cleared t → t.shared.camera.pending = none ∧ t.shared.camera.last = none

/-- A thread that has no part in the clearing. -/
lemma Cleared.of_move (h : Cleared (t.move i l s)) (hi : ¬ Closing (t.stage i))
    (hs : s.camera.closed = t.shared.camera.closed) : Cleared t := by
  refine ⟨hs ▸ h.1, fun j => ?_⟩
  by_cases hj : j = i
  · rwa [hj]
  · have hstage := h.2 j
    rwa [Threads.stage_move_of_ne hj] at hstage

/-- A step that retains nothing. -/
lemma Dropped.move (h : Dropped t) (hi : ¬ Closing (t.stage i))
    (hclosed : s.camera.closed = t.shared.camera.closed)
    (hpending : t.shared.camera.pending = none → s.camera.pending = none)
    (hlast : Cleared t → s.camera.last = t.shared.camera.last) : Dropped (t.move i l s) := by
  intro hcleared
  have hcleared' := hcleared.of_move hi hclosed
  obtain ⟨hp, hl⟩ := h hcleared'
  exact ⟨hpending hp, (hlast hcleared').trans hl⟩

omit [DecidableEq ι] in
/-- A conversion that is in time. -/
lemma last_remember {taken : Option Entry} (hi : t.stage i = .converting taken)
    (hok : inTime t (i, .remember)) (hcleared : Cleared t) :
    (t.shared.camera.remember taken).2.last = t.shared.camera.last := by
  have hnone : taken.bind t.shared.camera.convert = none := by
    have hretains := hok hcleared
    rw [hi] at hretains
    rcases taken with _ | entry
    · rfl
    · simpa [retains] using hretains
  rw [KivyCamera.remember, hnone]

/-- One step of one thread that is in time. -/
lemma Dropped.step {a : CameraAction} (h : Dropped t) (hok : inTime t (i, a))
    (hstep : Shutter.step i (t.stage i) a t.shared = some (l, s)) : Dropped (t.move i l s) := by
  cases a <;> cases hi : t.stage i <;> simp only [Shutter.step, hi, reduceCtorEq] at hstep
  case submitFrame.idle pixels size colorfmt =>
    split at hstep <;> obtain ⟨rfl, rfl⟩ := Option.some.inj hstep
    · exact h.move (by simp [hi, Closing]) rfl id fun _ => rfl
    · exact h.move (by simp [hi, Closing]) rfl id fun _ => rfl
  case wake.waiting timeout =>
    split_ifs at hstep
    obtain ⟨rfl, rfl⟩ := Option.some.inj hstep
    exact h.move (by simp [hi, Closing]) rfl id fun _ => rfl
  all_goals obtain ⟨rfl, rfl⟩ := Option.some.inj hstep
  case store.storing entry =>
    intro hcleared
    have hretains := hok (hcleared.of_move (by simp [hi, Closing]) rfl)
    rw [hi] at hretains
    cases hretains
  case read.idle timeout => exact h.move (by simp [hi, Closing]) rfl id fun _ => rfl
  case check.checking => exact h.move (by simp [hi, Closing]) rfl id fun _ => rfl
  case take.taking => exact h.move (by simp [hi, Closing]) rfl (fun _ => rfl) fun _ => rfl
  case remember.converting taken =>
    exact h.move (by simp [hi, Closing]) (by simp) (by simp) (last_remember hi hok)
  case close.idle => exact h.move (by simp [hi, Closing]) rfl id fun _ => rfl
  case flag.flagging =>
    intro hcleared
    have hstage := hcleared.2 i
    rw [Threads.stage_move_self] at hstage
    exact absurd (.inr rfl) hstage
  case clear.clearing => exact fun _ => ⟨rfl, rfl⟩
  case signal.signalling => exact h.move (by simp [hi, Closing]) rfl id fun _ => rfl

/-- **A step that is not in time retains a frame.** -/
theorem retained_of_late {a : CameraAction} (hlate : ¬ inTime t (i, a))
    (hstep : Shutter.step i (t.stage i) a t.shared = some (l, s)) :
    Cleared (t.move i l s) ∧ (s.camera.pending ≠ none ∨ s.camera.last ≠ none) := by
  obtain ⟨hcleared, hretains⟩ := Classical.not_imp.mp hlate
  have hidle : ∀ j, ¬ Closing ((t.move i .idle s).stage j) :=
    (Threads.forall_stage_move (P := fun _ l => ¬ Closing l)).mpr
      ⟨by simp [Closing], fun j _ => hcleared.2 j⟩
  rw [Bool.not_eq_false, retains.eq_def] at hretains
  dsimp only at hretains
  split at hretains
  · rename_i entry hi
    rw [hi] at hstep
    obtain ⟨rfl, rfl⟩ := Option.some.inj hstep
    exact ⟨⟨hcleared.1, hidle⟩, .inl (by simp [KivyCamera.store])⟩
  · rename_i entry hi
    rw [hi] at hstep
    obtain ⟨rfl, rfl⟩ := Option.some.inj hstep
    obtain ⟨frame, hframe⟩ := Option.isSome_iff_exists.mp hretains
    refine ⟨⟨by simpa using hcleared.1, hidle⟩, .inr ?_⟩
    simp [KivyCamera.remember, hframe]
  · cases hretains

/-! ## Every run

The two invariants along a run.
-/

omit [DecidableEq ι] in
lemma fresh_initial (colorfmt : String) (flipVertical flipHorizontal : Bool) :
    Fresh (initial (ι := ι) colorfmt flipVertical flipHorizontal) where
  stored := by simp [initial]
  arrived _ := by simp [initial]
  closing := by simp [initial]

/-- **The latest frame, and nothing after `close`.**  Before `close` the event is set if and only if
a frame is pending; a `read` that takes a frame takes the one that was stored last; and after
`close`, when nothing is in progress, no frame is retained if every step was in time. -/
theorem latest_frame {colorfmt : String} {flipVertical flipHorizontal : Bool}
    (h : system.Reach Transition.free (initial colorfmt flipVertical flipHorizontal) t) :
    (t.shared.camera.closed = false →
      (t.shared.camera.arrived = true ↔ t.shared.camera.pending ≠ none)) ∧
    (∀ i entry, t.stage i = .taking →
      (system.next t (i, .take)).stage i = .converting (some entry) →
        t.shared.stored = some entry) ∧
    (system.Reach inTime (initial colorfmt flipVertical flipHorizontal) t →
      t.shared.camera.closed = true → (∀ i, t.stage i = .idle) →
        t.shared.camera.pending = none ∧ t.shared.camera.last = none) := by
  have hfresh : Fresh t := Threads.invariant h (fresh_initial colorfmt flipVertical flipHorizontal)
    fun _ _ _ _ _ hI _ hstep => hI.step hstep
  refine ⟨hfresh.arrived, ?_, ?_⟩
  · intro i entry hi htaken
    simp only [Threads.system, hi, Shutter.step, Threads.stage_move_self,
      CameraStage.converting.injEq] at htaken
    exact hfresh.stored entry htaken
  · intro hreach hclosed hidle
    have hdropped : Dropped t := Threads.invariant hreach (fun hcleared => by cases hcleared.1)
      fun _ _ _ _ _ hI hok hstep => hI.step hok hstep
    exact hdropped ⟨hclosed, fun i => by simp [hidle i, Closing]⟩

/-- One gray pixel. -/
def gray (value : UInt8) : CameraAction :=
  .submitFrame (some (.buffer [value])) (some (1, 1)) (some "luminance")

/-- A capture callback `0`, a reader `1` and the call of `close` in `2`, one after the other. -/
def inOrder : List (Fin 3 × CameraAction) :=
  [(0, gray 1), (0, .store), (1, .read (some 0)), (1, .wake), (1, .check), (1, .take), (1, .remember),
    (0, gray 2), (0, .store), (2, .close), (2, .flag), (2, .clear), (2, .signal)]

/-- Nothing is retained in the end, and every step was in time. -/
theorem latest_frame_inOrder : ∃ t, system.Reach inTime (initial (ι := Fin 3) "rgba" false false) t ∧
    t.shared.stored ≠ none ∧ t.shared.camera.pending = none ∧ t.shared.camera.last = none := by
  obtain ⟨t, hreach, hclosed, hidle, hstored⟩ :=
    system.exists_reach_of_exec inTime inOrder (initial (ι := Fin 3) "rgba" false false)
      (fun t => t.shared.camera.closed = true ∧ (∀ i, t.stage i = .idle) ∧ t.shared.stored ≠ none)
      (by decide +kernel)
  exact ⟨t, hreach, hstored,
    (latest_frame (hreach.mono fun _ _ _ => trivial)).2.2 hreach hclosed hidle⟩

/-- `close` runs between the check of `submit_frame` and its store, and while `read` converts. -/
def closedMeanwhile : List (Fin 3 × CameraAction) :=
  [(0, gray 1), (0, .store), (1, .read (some 0)), (1, .wake), (1, .check), (1, .take), (0, gray 2),
    (2, .close), (2, .flag), (2, .clear), (2, .signal), (0, .store), (1, .remember)]

/-- **Frames are retained after `close`.** -/
theorem retained_after_close : ∃ t : Threads (Fin 3) Shutter CameraStage,
    system.Reach Transition.free (initial "rgba" false false) t ∧ t.shared.camera.closed = true ∧
      (∀ i, t.stage i = .idle) ∧
      t.shared.camera.pending =
        some { raw := .buffer [2], size := some (1, 1), colorfmt := "luminance" } ∧
      t.shared.camera.last = some { shape := [1, 1], data := [1] } :=
  system.exists_reach_of_exec Transition.free closedMeanwhile (initial "rgba" false false)
    (fun t => t.shared.camera.closed = true ∧ (∀ i, t.stage i = .idle) ∧
      t.shared.camera.pending =
        some { raw := .buffer [2], size := some (1, 1), colorfmt := "luminance" } ∧
      t.shared.camera.last = some { shape := [1, 1], data := [1] })
    (by decide +kernel)

end Shutter

end PhotonTCP.Mobile
