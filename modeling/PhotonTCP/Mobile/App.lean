import PhotonTCP.Foundation.Threads
import PhotonTCP.Optical.Peer

/-!
# The phone application

The main thread owns the widgets: it handles the buttons, launches a session, and runs what the
other threads schedule.  A session is one drive of `run_peer` on a thread of its own, over a channel
that can be cancelled.  The camera permission is answered on a thread of the system.

The drive itself is left open: it does channel operations and reports progress, in any order, until
it returns or raises; then it closes its channel.  Scheduled calls may run in any order.

* `CancellableChannel`, `PeerSession` — a channel with a stop switch; a session that was launched.
* `PhotonTCPApp` — the application: `onStartPressed`, `launchSession`, `onStop`, `teardown`.
* `AppStage`, `PhotonTCPApp.step` — the threads; `AppThreads.system` — their interleavings.

The application contains no protocol.  What can go wrong in it is that two things are going on at
once: a second session beside the first, devices that are released while they are used, controls
that say one thing while the application does another.  All of this is decided by a few attributes,
which the main thread alone writes, all but the permission; the other threads ask it to, by
scheduling a call.

The model keeps these attributes, the texts of the status line, and of a session as much as the stop
button needs to know.  The answers of the system, whether there is a preview and whether the
permission is granted, come with the actions.  So a run is any sequence of what a user, the system
and the drives may do.
-/

namespace PhotonTCP.Mobile

open Optical

/-! ## Sessions

The defaults of the settings, and what is made from them.
-/

/-- The error-correction level of the symbols that the application shows. -/
def LINK_ERROR_LEVEL : String := "q"
/-- The size of a module, in pixels, when the setting cannot be read. -/
def DEFAULT_SCALE : ℤ := 8
/-- The pause of a round, in seconds, when the setting cannot be read. -/
def DEFAULT_HOLD : ℚ := 2 / 5
/-- The shortest pause; a smaller one is raised to it. -/
def MIN_HOLD : ℚ := 1 / 100

/-- Which camera is opened. -/
inductive Lens where
  | back
  | front
deriving DecidableEq

/-- What the preview is told. -/
def Lens.name : Lens → String
  | back => "back"
  | front => "front"

/-- An optical channel with a stop switch; `transported` counts the operations that were passed on.
-/
structure CancellableChannel where
  scale : ℤ
  error : String
  hold : ℚ
  flipHorizontal : Bool
  cancelled : Bool := false
  closed : Bool := false
  transported : ℕ := 0
deriving DecidableEq

/-- A session that was launched. -/
structure PeerSession where
  role : PeerRole
  hold : ℚ
  channel : CancellableChannel
deriving DecidableEq

namespace PeerSession

/-- Turn the switch. -/
def cancel (s : PeerSession) : PeerSession := { s with channel := { s.channel with cancelled := true } }

/-- The drive has closed its channel. -/
def close (s : PeerSession) : PeerSession := { s with channel := { s.channel with closed := true } }

/-- An operation is passed on. -/
def transport (s : PeerSession) : PeerSession :=
  { s with channel := { s.channel with transported := s.channel.transported + 1 } }

end PeerSession

/-- What can be scheduled on the main thread. -/
inductive Callback where
  | setStatus (text : String)
  | launchSession
  | teardown
deriving DecidableEq

/-- How texts become numbers, and numbers and JSON values texts. -/
structure Conversions where
  int : String → Option ℤ
  float : String → Option ℚ
  floatText : ℚ → String
  /-- With one decimal. -/
  fixedText : ℚ → String
  jsonText : JsonValue → String

/-! ## What the surroundings answer

Where the source calls Android or Kivy and goes by what it returns or raises.
-/

/-- How the request for the permission ends. -/
inductive PermissionReply where
  | unavailable (exc : String)
  | granted
  | requested
  | refused (exc : String)
deriving DecidableEq

/-- How the preview is created and connected. -/
inductive CameraReply where
  | noPreview (error : String)
  | unavailable (exc : String)
  | connected
deriving DecidableEq

/-! ## The application

Each method of `PhotonTCPApp` as a function on its attributes.  `_ui` does not run anything: it
appends to the calls that are scheduled.
-/

/-- The attributes and the widgets.  A session is referred to by its number in `sessions`, and so
are its channel, its devices and its preview; `requests` counts the permission requests. -/
structure PhotonTCPApp where
  worker : Option ℕ := none
  channel : Option ℕ := none
  display : Option ℕ := none
  camera : Option ℕ := none
  preview : Option ℕ := none
  running : Bool := false
  permissionGranted : Bool
  role : PeerRole := .sender
  scaleInput : String := "8"
  holdInput : String := "0.4"
  facing : Lens := .back
  settingsDisabled : Bool := false
  startDisabled : Bool := false
  stopDisabled : Bool := true
  previewSlot : Option ℕ := none
  statusLabel : String := "idle - press Start"
  scheduled : List Callback := []
  sessions : List PeerSession := []
  requests : ℕ := 0
deriving DecidableEq

namespace PhotonTCPApp

/-- Run a callback on the main thread. -/
def ui (app : PhotonTCPApp) (callback : Callback) : PhotonTCPApp :=
  { app with scheduled := app.scheduled ++ [callback] }

/-- Show a text in the status line. -/
def setStatus (app : PhotonTCPApp) (text : String) : PhotonTCPApp := app.ui (.setStatus text)

/-- Reflect the run state in the controls. -/
def setRunning (app : PhotonTCPApp) (running : Bool) : PhotonTCPApp :=
  { app with running, startDisabled := running, stopDisabled := !running, settingsDisabled := running }

/-- Cancel the channel of the session that is on; the worker does the rest. -/
def onStop (app : PhotonTCPApp) : PhotonTCPApp :=
  match app.channel with
  | none => app
  | some r => { app.setStatus "stopping..." with sessions := app.sessions.modify r PeerSession.cancel }

/-- Release the devices and unlock the controls. -/
def teardown (app : PhotonTCPApp) : PhotonTCPApp :=
  { app with
    preview := none
    previewSlot := if app.preview.isSome then none else app.previewSlot
    channel := none
    display := none
    camera := none
    worker := none }.setRunning false

section Conversions

variable (conv : Conversions)

/-- The settings row; what cannot be read is replaced by the default. -/
def readSettings (app : PhotonTCPApp) : PeerRole × ℤ × ℚ × Lens :=
  let scale :=
    match conv.int app.scaleInput with
    | some scale => max 1 scale
    | none => DEFAULT_SCALE
  let hold :=
    match conv.float app.holdInput with
    | some hold => max MIN_HOLD hold
    | none => DEFAULT_HOLD
  (app.role, scale, hold, app.facing)

/-- Assemble the devices and the channel and start the worker, unless there is no camera. -/
def launchSession (app : PhotonTCPApp) (reply : CameraReply) : PhotonTCPApp :=
  if app.running then app
  else
    let (role, scale, hold, facing) := app.readSettings conv
    match reply with
    | .noPreview error => app.setStatus s!"{error}. Session not started."
    | .unavailable exc =>
        { app with previewSlot := none }.setStatus s!"camera unavailable ({exc}). Session not started."
    | .connected =>
        let r := app.sessions.length
        let launched : PhotonTCPApp := { app with
          previewSlot := some r
          display := some r
          camera := some r
          preview := some r
          channel := some r
          worker := some r
          sessions := app.sessions ++ [{
            role
            hold
            channel := {
              scale
              error := LINK_ERROR_LEVEL
              hold
              flipHorizontal := facing = .front } }] }
        let hold := conv.floatText hold
        (launched.setRunning true).setStatus
          s!"role={role.name} scale={scale} hold={hold}s camera={facing.name} - starting"

/-- Ensure the camera permission, then launch a session. -/
def ensurePermission (app : PhotonTCPApp) (permission : PermissionReply) (camera : CameraReply) :
    PhotonTCPApp :=
  if app.permissionGranted then app.launchSession conv camera
  else
    match permission with
    | .unavailable exc =>
        app.setStatus s!"camera permission API unavailable ({exc}); cannot start a session"
    | .granted => { app with permissionGranted := true }.launchSession conv camera
    | .requested =>
        { app.setStatus "requesting camera permission..." with requests := app.requests + 1 }
    | .refused exc =>
        (app.setStatus "requesting camera permission...").setStatus
          s!"camera permission request failed ({exc})"

/-- Start a session, unless one is running. -/
def onStartPressed (app : PhotonTCPApp) (permission : PermissionReply) (camera : CameraReply) :
    PhotonTCPApp :=
  if app.running then app
  else (app.setStatus "starting...").ensurePermission conv permission camera

/-- The main thread runs a callback. -/
def run (app : PhotonTCPApp) (camera : CameraReply) : Callback → PhotonTCPApp
  | .setStatus text => { app with statusLabel := text }
  | .launchSession => app.launchSession conv camera
  | .teardown => app.teardown

/-- The line that sums a drive up. -/
def formatSummary (result : PeerResult) : String :=
  let verdict := if result.passed then "PASS" else "FAIL"
  let established := if result.established then "True" else "False"
  let messages := if result.messagesMatch then "MATCH" else "MISMATCH"
  let closed := if result.closed then "True" else "False"
  let wall := conv.fixedText result.wallSeconds
  let timedOut := if result.timedOut then " | TIMED OUT" else ""
  s!"{verdict} | established={established} | {messages} " ++
    s!"({result.received.length}/{result.expected.length}) | closed={closed} | wall={wall}s" ++ timedOut

/-- The number of rounds, if there is one. -/
def roundsText : Option ℕ → String
  | none => "None"
  | some rounds => toString rounds

/-- The status line for an event of the drive. -/
def onEvent (app : PhotonTCPApp) : PeerEvent → PhotonTCPApp
  | .start role _ => app.setStatus s!"start: role={role}"
  | .connect isInitiator =>
      app.setStatus (if isInitiator then "handshaking: SYN shown as QR"
        else "handshaking: waiting for the peer's SYN")
  | .handshake established rounds =>
      let rounds := roundsText rounds
      app.setStatus (if established then s!"ESTABLISHED after {rounds} round(s)"
        else "handshake FAILED (timed out)")
  | .sent msgId text => app.setStatus s!"sent #{msgId}: {text}"
  | .received msgId text =>
      let msgId := conv.jsonText msgId
      let text := conv.jsonText text
      app.setStatus s!"recv #{msgId}: {text}"
  | .matched received expected isMatch =>
      let verdict := if isMatch then "MATCH" else "MISMATCH"
      app.setStatus s!"messages {received}/{expected} - {verdict}"
  | .closing _ => app.setStatus "closing the session..."
  | .closed closed rounds =>
      let rounds := roundsText rounds
      app.setStatus (if closed then s!"CLOSED after {rounds} round(s)" else "close FAILED (timed out)")
  | .error stage message => app.setStatus s!"error [{stage}]: {message}"
  | .done result => app.setStatus (formatSummary conv result)

end Conversions

end PhotonTCPApp

/-! ## The threads

A worker goes from stage to stage; what its drive does in between is left to the actions.  The
channel checks the switch in one step and passes the operation on in another.
-/

/-- The main thread, the answers to the permission requests, and the sessions. -/
inductive AppThread where
  | main
  | permission (n : ℕ)
  | session (r : ℕ)
deriving DecidableEq

/-- How a drive ends. -/
inductive Outcome where
  | returned (result : PeerResult)
  | cancelled
  /-- `exc` is the type of the exception and its text. -/
  | failed (exc : String)
deriving DecidableEq

/-- Where a thread is; the main thread, and one that has not begun, is `idle`. -/
inductive AppStage where
  | idle
  | driving
  | checked
  | unwinding (outcome : Outcome)
  | reporting (outcome : Outcome)
  | leaving
  | ended
  | granted
  | answered
deriving DecidableEq

/-- The drive has closed the channel. -/
def AppStage.Closed : AppStage → Prop
  | .reporting _ | .leaving | .ended => True
  | _ => False

/-- What the user, the system or a drive does. -/
inductive AppAction where
  | startPressed (permission : PermissionReply) (camera : CameraReply)
  | stopPressed
  | editSettings (role : PeerRole) (scaleInput holdInput : String) (facing : Lens)
  /-- The main thread runs the `i`-th scheduled call. -/
  | runScheduled (i : ℕ) (camera : CameraReply)
  /-- The user answers the permission request. -/
  | answer (granted : Bool)
  | begin
  /-- The drive calls `send_frame` or `recv_frame`. -/
  | transport
  | progress (event : PeerEvent)
  | finish (result : PeerResult)
  | fail (exc : String)
  | proceed
deriving DecidableEq

namespace PhotonTCPApp

variable (conv : Conversions)

/-- The main thread handles a button or runs what was scheduled. -/
def mainStep (app : PhotonTCPApp) : AppAction → Option PhotonTCPApp
  | .startPressed permission camera => some (app.onStartPressed conv permission camera)
  | .stopPressed => some app.onStop
  | .editSettings role scaleInput holdInput facing =>
      if app.settingsDisabled then none else some { app with role, scaleInput, holdInput, facing }
  | .runScheduled i camera => app.scheduled[i]?.map fun callback =>
      { app with scheduled := app.scheduled.eraseIdx i }.run conv camera callback
  | _ => none

/-- The callback of a permission request. -/
def permissionStep (app : PhotonTCPApp) (n : ℕ) :
    AppStage → AppAction → Option (AppStage × PhotonTCPApp)
  | .idle, .answer granted =>
      if n < app.requests then
        if granted then some (.granted, { app with permissionGranted := true })
        else some (.answered,
          app.setStatus "camera permission denied - grant it in Settings, then Start again")
      else none
  | .granted, .proceed => some (.answered, app.ui .launchSession)
  | _, _ => none

/-- What the worker shows when the drive is over. -/
def report (app : PhotonTCPApp) : Outcome → PhotonTCPApp
  | .returned result => app.onEvent conv (.done result)
  | .cancelled => app.setStatus "stopped by user"
  | .failed exc => app.setStatus s!"session failed: {exc}"

/-- The worker of a session.  An operation on a cancelled channel raises; one that has checked
before is passed on. -/
def sessionStep (app : PhotonTCPApp) (r : ℕ) : AppStage → AppAction → Option (AppStage × PhotonTCPApp)
  | .idle, .begin => if r < app.sessions.length then some (.driving, app) else none
  | .driving, .transport =>
      app.sessions[r]?.map fun s =>
        (if s.channel.cancelled then .unwinding .cancelled else .checked, app)
  | .checked, .proceed =>
      some (.driving, { app with sessions := app.sessions.modify r PeerSession.transport })
  | .driving, .progress event => some (.driving, app.onEvent conv event)
  | .driving, .finish result => some (.unwinding (.returned result), app)
  | .driving, .fail exc => some (.unwinding (.failed exc), app)
  | .unwinding outcome, .proceed =>
      some (.reporting outcome, { app with sessions := app.sessions.modify r PeerSession.close })
  | .reporting outcome, .proceed => some (.leaving, app.report conv outcome)
  | .leaving, .proceed => some (.ended, app.ui .teardown)
  | _, _ => none

/-- One step of one thread. -/
def step : AppThread → AppStage → AppAction → PhotonTCPApp → Option (AppStage × PhotonTCPApp)
  | .main, stage, action, app => (app.mainStep conv action).map fun app' => (stage, app')
  | .permission n, stage, action, app => app.permissionStep n stage action
  | .session r, stage, action, app => app.sessionStep conv r stage action

end PhotonTCPApp

/-- The application and its threads. -/
abbrev AppThreads := Threads AppThread PhotonTCPApp AppStage

namespace AppThreads

/-- The interleavings. -/
def system (conv : Conversions) : Transition AppThreads (AppThread × AppAction) :=
  Threads.system (PhotonTCPApp.step conv)

instance (conv : Conversions) (t : AppThreads) (act : AppThread × AppAction) :
    Decidable ((system conv).enabled t act) :=
  inferInstanceAs (Decidable ((Threads.system (PhotonTCPApp.step conv)).enabled t act))

end AppThreads

/-- The application after `build`. -/
def PhotonTCPApp.start (permissionGranted : Bool) : AppThreads where
  shared := { permissionGranted }
  stage _ := .idle

end PhotonTCP.Mobile
