import PhotonTCP.App.Chat

/-!
# Driving one peer

One peer of a link is driven through the handshake, the exchange of a few messages and a graceful
close.  Every stage has a cap on its rounds, and the whole drive a deadline; progress is reported as
events, of which `done` is the last.

What the drive meets is an argument: the readings of the performance counter, and the frames that
arrive in each pump.  The texts of times and `json.loads` are parameters of the chat endpoint.

The messages are texts of the source's language, and the pause of a round is a number of it.  Not
every such text has an encoding, and not every such number is a length of time, so both can make the
drive raise.

* `PyStr`, `PyFloat` — texts of any code points, lone surrogates included, and floating-point
  numbers.
* `PeerResult`, `PeerEvent`, `PeerEnv`, `PeerError` — the outcome, the events, the surroundings, and
  what can be raised.
* `runPeer` — the drive, by its stages `opening`, `exchange`, `conclude` and `closing`.
* `CanSendText`, `Sends` — in every round of the exchange that has a message left, it can be sent.
* **`runPeer_returns_iff`** — the drive returns, with `done` as its last event, exactly then, if its
  pause is one that can be slept.
* **`runPeer_raises`** — a conforming peer that closes early makes it raise.

Texts are not strings of Lean here.  A Python string can hold half of a surrogate pair, as one does
that was read from a file name, and `encode_message` raises for it; and a pause is a `float`, which
can be infinite or not a number.  `hold <= 0` is false of `nan`, so such a pause passes the check
and `time.sleep` raises.  Both are among the ways in which a drive can fail to return, and the
condition speaks about both.

The structure is that of the source: four stages, the first and the last of which are the same loop
with another goal.  A stage begins with a state of which two things are known, that the endpoint
works and that the default stream is its own, and every operation but a send keeps this and raises
nothing.  So the sends are all that the condition has to name.
-/

namespace PhotonTCP.Optical

open Raising

/-! ## Texts and pauses

As much of `str` and `float` as a drive looks at.  A text has an encoding if every code point in it
is a character.
-/

/-- A text: a sequence of code points.  A surrogate is a code point of its own here. -/
structure PyStr where
  codePoints : List ℕ
  valid : ∀ c ∈ codePoints, c < 0x110000
deriving DecidableEq

namespace PyStr

/-- One half of a pair of UTF-16, which is no character. -/
def IsSurrogate (c : ℕ) : Prop := 0xD800 ≤ c ∧ c ≤ 0xDFFF

instance (c : ℕ) : Decidable (IsSurrogate c) := inferInstanceAs (Decidable (_ ∧ _))

/-- The characters of a text; a text with a surrogate has none, and no encoding in UTF-8. -/
def toString? (text : PyStr) : Option String :=
  if ∃ c ∈ text.codePoints, IsSurrogate c then none
  else some (String.ofList (text.codePoints.map Char.ofNat))

lemma toNat_lt (c : Char) : c.toNat < 0x110000 := by
  rcases c.valid with hlow | hhigh
  · exact hlow.trans (by decide)
  · exact hhigh.2

/-- The text of some characters. -/
def ofString (s : String) : PyStr where
  codePoints := s.toList.map Char.toNat
  valid := List.forall_mem_map.mpr fun c _ => toNat_lt c

instance : Coe String PyStr := ⟨ofString⟩

end PyStr

/-- A floating-point number. -/
inductive PyFloat where
  | finite (value : ℚ)
  | inf
  | negInf
  | nan

namespace PyFloat

/-- `x <= 0`; comparing with `nan` is false. -/
def NonPos : PyFloat → Prop
  | finite value => value ≤ 0
  | negInf => True
  | inf | nan => False

/-- The longest time that `time.sleep` takes: its nanoseconds are a signed 64-bit number. -/
def MAX_SLEEP : ℚ := (2 ^ 63 - 1) / 10 ^ 9

/-- A length of time that can be slept. -/
def Sleepable : PyFloat → Prop
  | finite value => 0 ≤ value ∧ value ≤ MAX_SLEEP
  | inf | negInf | nan => False

/-- How a number is written; the texts of the finite ones are given. -/
def text (floatText : ℚ → String) : PyFloat → String
  | finite value => floatText value
  | inf => "inf"
  | negInf => "-inf"
  | nan => "nan"

instance : (x : PyFloat) → Decidable x.NonPos
  | finite _ => inferInstanceAs (Decidable (_ ≤ _))
  | negInf => isTrue trivial
  | inf | nan => isFalse id

instance : (x : PyFloat) → Decidable x.Sleepable
  | finite _ => inferInstanceAs (Decidable (_ ∧ _))
  | inf | negInf | nan => isFalse id

end PyFloat

/-! ## Parameters, outcome and events

The constants of the module, and its data classes.  Events are what the source passes to its
callback.
-/

/-- Virtual seconds for each round. -/
def ROUND_DT : ℚ := 3 / 5

/-- Virtual seconds between two heartbeats. -/
def HEARTBEAT_INTERVAL : ℚ := 5
/-- Virtual seconds without a frame of the peer. -/
def IDLE_TIMEOUT : ℚ := 120
/-- The cap on the rounds of the handshake. -/
def MAX_HANDSHAKE_ROUNDS : ℕ := 200

/-- The cap on the rounds of the exchange. -/
def MAX_CHAT_ROUNDS : ℕ := 200

/-- The cap on the rounds of the close. -/
def MAX_CLOSE_ROUNDS : ℕ := 200

/-- Which peer is driven. -/
inductive PeerRole where
  | sender
  | receiver
deriving DecidableEq

namespace PeerRole

/-- The names of the roles, as they are reported. -/
def name : PeerRole → String
  | sender => "sender"
  | receiver => "receiver"

/-- The sender initiates the connection. -/
def isInitiator (role : PeerRole) : Bool := role = sender

/-- Of the two message sets, the one that this peer sends. -/
def outgoing (role : PeerRole) (messages : List PyStr × List PyStr) : List PyStr :=
  if role.isInitiator then messages.1 else messages.2

/-- The one that it expects. -/
def expected (role : PeerRole) (messages : List PyStr × List PyStr) : List PyStr :=
  if role.isInitiator then messages.2 else messages.1

end PeerRole

/-- The outcome of a drive.  What has been sent could be encoded; what is expected need not be a
text that can. -/
structure PeerResult where
  role : String := ""
  established : Bool := false
  messagesMatch : Bool := false
  closed : Bool := false
  wallSeconds : ℚ := 0
  passed : Bool := false
  handshakeRounds : Option ℕ := none
  closeRounds : Option ℕ := none
  sent : List String := []
  received : List JsonValue := []
  expected : List PyStr := []
  timedOut : Bool := false
deriving DecidableEq

/-- What is reported. -/
inductive PeerEvent where
  | start (role : String) (isInitiator : Bool)
  | connect (isInitiator : Bool)
  | handshake (established : Bool) (rounds : Option ℕ)
  | sent (msgId : ℕ) (text : String)
  | received (msgId text : JsonValue)
  | matched (received expected : ℕ) (isMatch : Bool)
  | closing (isInitiator : Bool)
  | closed (closed : Bool) (rounds : Option ℕ)
  | error (stage message : String)
  | done (result : PeerResult)
deriving DecidableEq

/-- What the drive meets. -/
structure PeerEnv where
  perfCounter : ℕ → ℚ
  frames : ℕ → List Bytes

/-- The state of a drive. -/
structure PeerState where
  chat : ChatSession
  result : PeerResult
  readings : ℕ := 0
  pumps : ℕ := 0
  emitted : List PeerEvent := []

/-- What a drive can raise: what its chat endpoint raises, a text without an encoding, and what its
own checks and `time.sleep` refuse. -/
inductive PeerError where
  | session (error : SessionError)
  | UnicodeEncodeError
  | ValueError (text : String)
  | OverflowError (text : String)
deriving DecidableEq

/-- Computations of a drive. -/
abbrev PeerM := EStateM PeerError PeerState

/-- A new session and a new chat endpoint. -/
def PeerState.new (role : PeerRole) (messages : List PyStr × List PyStr) : PeerState where
  chat := { session := Session.create role.isInitiator (if role.isInitiator then 1 else 0)
              (if role.isInitiator then 1000 else 5000) HEARTBEAT_INTERVAL IDLE_TIMEOUT }
  result := { role := role.name, expected := role.expected messages }

/-! ## The drive

`run_peer` in pieces.  The loops have their caps as fuel, which is what the source has: it counts
the rounds itself.
-/

/-- Report an event. -/
def emit (event : PeerEvent) : PeerM Unit :=
  modify fun s => { s with emitted := s.emitted ++ [event] }

/-- Write the outcome down. -/
def modifyResult (f : PeerResult → PeerResult) : PeerM Unit :=
  modify fun s => { s with result := f s.result }

/-- Let the chat endpoint work. -/
def onChat {α : Type} (x : ChatM α) : PeerM α := fun s =>
  match x s.chat with
  | .ok a chat => .ok a { s with chat }
  | .error e chat => .error (.session e) { s with chat }

section Drive

variable (zlib : Bytes → ℕ) (loads : JsonLoads) (floatText : ℚ → String) (env : PeerEnv)
  (hold : PyFloat)

/-- Read the performance counter. -/
def readCounter : PeerM ℚ :=
  modifyGet fun s => (env.perfCounter s.readings, { s with readings := s.readings + 1 })

/-- `time.sleep`. -/
def sleep : PyFloat → PeerM Unit
  | .nan => throw (.ValueError "Invalid value NaN (not a number)")
  | .finite value =>
      if value < 0 then throw (.ValueError "sleep length must be non-negative")
      else if value ≤ PyFloat.MAX_SLEEP then return ()
      else throw (.OverflowError "timestamp too large to convert to C PyTime_t")
  | .inf | .negInf => throw (.OverflowError "timestamp too large to convert to C PyTime_t")

/-- Advance virtual time by one round and pace it; `false` when out of budget. -/
def round (deadline : ℚ) : PeerM Bool := do
  if deadline < (← readCounter env) then
    modifyResult fun r => { r with timedOut := true }
    return false
  else
    modify fun s => { s with chat := { s.chat with now := s.chat.now + ROUND_DT } }
    sleep hold
    return true

/-- One cycle of the chat endpoint, with the frames that have arrived. -/
def pumpChat : PeerM (List ChatMessage) := do
  let frames ← modifyGet fun s => (env.frames s.pumps, { s with pumps := s.pumps + 1 })
  onChat (ChatSession.pump zlib loads frames)

/-- Pump until the session is where it should be, and record the number of rounds; the loop of the
handshake and of the close. -/
def pumpUntil (deadline : ℚ) (reached : ChatSession → Bool)
    (record : ℕ → PeerResult → PeerResult) : ℕ → ℕ → PeerM Unit
  | 0, _ => pure ()
  | rounds + 1, rnd => do
      if ← round env hold deadline then
        let _ ← pumpChat zlib loads env
        if reached (← get).chat then modifyResult (record rnd)
        else pumpUntil deadline reached record rounds (rnd + 1)

/-- What only the initiator does. -/
def asInitiator (role : PeerRole) (x : ChatM (List SessionEvent)) : PeerM Unit :=
  if role.isInitiator then do
    let _ ← onChat x
  else return ()

/-- What comes behind the loop of the handshake: whether there is an exchange. -/
def afterLoop : PeerM Bool := do
  let s ← get
  emit (.handshake s.result.established s.result.handshakeRounds)
  if s.result.established then return true
  else
    emit (.error "handshake" "handshake did not complete within the cap/deadline")
    return false

/-- The handshake.  Returns whether the session was established. -/
def handshake (role : PeerRole) (deadline : ℚ) : PeerM Bool := do
  asInitiator role (ChatSession.connect zlib)
  emit (.connect role.isInitiator)
  pumpUntil zlib loads env hold deadline ChatSession.isEstablished
    (fun rnd r => { r with established := true, handshakeRounds := some rnd })
    MAX_HANDSHAKE_ROUNDS 1
  afterLoop

/-- What comes before the exchange: when the drive started, and whether there is an exchange. -/
def opening (role : PeerRole) (timeout : ℚ) : PeerM (ℚ × Bool) := do
  let started ← readCounter env
  emit (.start role.name role.isInitiator)
  let established ← handshake zlib loads env hold role (started + timeout)
  return (started, established)

/-- The characters of a text that is about to be encoded.  The encoder comes before everything that
sending does, so a text that it refuses changes nothing. -/
def encodable (text : PyStr) : PeerM String :=
  match text.toString? with
  | some text => return text
  | none => throw .UnicodeEncodeError

/-- Send the next message, if there is one.  Returns those that are left. -/
def sendNext : List PyStr → PeerM (List PyStr)
  | [] => return []
  | text :: rest => do
      let text ← encodable text
      let msgId ← onChat (ChatSession.sendMessage zlib floatText text)
      modifyResult fun r => { r with sent := r.sent ++ [text] }
      emit (.sent msgId text)
      return rest

/-- What a round of the exchange does.  Returns the messages that are left, or nothing when all are
sent and as many have arrived as are expected. -/
def exchangeRound (out : List PyStr) : PeerM (Option (List PyStr)) := do
  let rest ← sendNext zlib floatText out
  let messages ← pumpChat zlib loads env
  messages.forM fun msg => emit (.received msg.msgId msg.text)
  let s ← get
  return if rest = [] ∧ s.result.expected.length ≤ s.chat.received.length then none else some rest

/-- The exchange. -/
def exchange (deadline : ℚ) : ℕ → List PyStr → PeerM Unit
  | 0, _ => pure ()
  | rounds + 1, out => do
      if ← round env hold deadline then
        match ← exchangeRound zlib loads floatText env out with
        | none => pure ()
        | some rest => exchange deadline rounds rest

/-- Compare what has arrived with what was expected.  What arrives has been decoded from UTF-8, so
an expected text without an encoding equals none of it. -/
def conclude : PeerM Unit := do
  modify fun s => { s with result := { s.result with
    received := s.chat.received.map ChatMessage.text
    messagesMatch := s.chat.received.map (fun msg => some msg.text)
      = s.result.expected.map fun text => text.toString?.map JsonValue.str } }
  let s ← get
  emit (.matched s.result.received.length s.result.expected.length s.result.messagesMatch)

/-- The graceful close. -/
def closing (role : PeerRole) (deadline : ℚ) : PeerM Unit := do
  asInitiator role (ChatSession.close zlib)
  emit (.closing role.isInitiator)
  pumpUntil zlib loads env hold deadline ChatSession.isClosed
    (fun rnd r => { r with closed := true, closeRounds := some rnd }) MAX_CLOSE_ROUNDS 1
  let s ← get
  emit (.closed s.result.closed s.result.closeRounds)
  if s.result.closed then return ()
  else emit (.error "close" "this peer did not reach CLOSED within the cap/deadline")

/-- Stamp the outcome, and report it. -/
def finish (started : ℚ) : PeerM PeerResult := do
  let ended ← readCounter env
  modifyResult fun r => { r with
    wallSeconds := ended - started
    passed := r.established && r.messagesMatch && r.closed }
  let s ← get
  emit (.done s.result)
  return s.result

/-- What follows the handshake. -/
def afterHandshake (role : PeerRole) (out : List PyStr) (deadline : ℚ) (established : Bool) :
    PeerM Unit :=
  if established then do
    exchange zlib loads floatText env hold deadline MAX_CHAT_ROUNDS out
    conclude
    closing zlib loads env hold role deadline
  else return ()

/-- The drive. -/
def drive (role : PeerRole) (out : List PyStr) (timeout : ℚ) : PeerM PeerResult := do
  let (started, established) ← opening zlib loads env hold role timeout
  afterHandshake zlib loads floatText env hold role out (started + timeout) established
  finish env started

/-- The check of the pause, before anything is done. -/
def checkHold : PeerM Unit :=
  if hold.NonPos then
    throw (.ValueError (s!"hold must be > 0 (got {hold.text floatText}); a zero pause starves the " ++
      "channel's capture thread and the drive can never complete"))
  else return ()

/-- `run_peer`. -/
def runPeer (role : PeerRole) (messages : List PyStr × List PyStr) (timeout : ℚ) :
    EStateM.Result PeerError PeerState PeerResult :=
  (do
    checkHold floatText hold
    drive zlib loads floatText env hold role (role.outgoing messages) timeout : PeerM PeerResult)
    (PeerState.new role messages)

end Drive

/-! ## The invariant

Stated once for computations: whatever state satisfies it, the computation returns, and satisfies it
again.
-/

open ChatSession (Chatting CanSend Readable)

variable {zlib : Bytes → ℕ} {loads : JsonLoads} {floatText : ℚ → String} {env : PeerEnv}
  {hold : PyFloat} {log : List Bytes} {deadline : ℚ}

/-- The chat endpoint is in order, and works on the default stream. -/
def Driving (loads : JsonLoads) (log : List Bytes) (s : PeerState) : Prop :=
  Chatting loads log s.chat ∧ s.chat.streamId = DEFAULT_STREAM_ID

/-- A peer that conforms: it sends the chunks of `log` on the default stream, which can be read, and
every frame is one of its packets or was damaged on the way. -/
structure Conforming (zlib : Bytes → ℕ) (loads : JsonLoads) (env : PeerEnv) (log : List Bytes) :
    Prop where
  length_lt : log.length < 2 ^ 31
  readable : Readable loads log
  frames : ∀ k, ∀ frame ∈ env.frames k, Session.FrameConforms zlib log DEFAULT_STREAM_ID frame

lemma keeps_emit (event : PeerEvent) : Keeps (Driving loads log) (emit event) :=
  keeps_modify fun _ h => h

lemma keeps_modifyResult (f : PeerResult → PeerResult) :
    Keeps (Driving loads log) (modifyResult f) :=
  keeps_modify fun _ h => h

lemma keeps_readCounter : Keeps (Driving loads log) (readCounter env) :=
  keeps_modifyGet fun _ h => h

/-- A pause that can be slept is slept. -/
lemma sleep_ok (hh : hold.Sleepable) (s : PeerState) : sleep hold s = .ok () s := by
  cases hold with
  | finite value => rw [sleep, if_neg (not_lt.mpr hh.1), if_pos hh.2]; rfl
  | inf => exact hh.elim
  | negInf => exact hh.elim
  | nan => exact hh.elim

/-- Any other makes `time.sleep` raise. -/
lemma sleep_error (hh : ¬ hold.Sleepable) (s : PeerState) : ∃ e, sleep hold s = .error e s := by
  cases hold with
  | finite value =>
      rw [sleep]
      split_ifs with hneg hmax
      · exact ⟨_, rfl⟩
      · exact absurd ⟨not_lt.mp hneg, hmax⟩ hh
      · exact ⟨_, rfl⟩
  | inf => exact ⟨_, rfl⟩
  | negInf => exact ⟨_, rfl⟩
  | nan => exact ⟨_, rfl⟩

lemma keeps_round (hh : hold.Sleepable) : Keeps (Driving loads log) (round env hold deadline) := by
  refine keeps_readCounter.bind fun reading => keeps_ite ?_ ?_
  · exact (keeps_modifyResult _).bind fun _ => keeps_pure false
  · refine (keeps_modify ?_).bind fun _ => Keeps.bind ?_ fun _ => keeps_pure true
    · rintro s ⟨h, hstream⟩
      exact ⟨h.advance (by norm_num [ROUND_DT]), hstream⟩
    · exact fun s h => ⟨(), s, sleep_ok hh s, h⟩

/-- Something that the chat endpoint does. -/
lemma onChat_ok {α : Type} {x : ChatM α} {s : PeerState} {a : α} {chat : ChatSession}
    (h : x s.chat = .ok a chat) : onChat x s = .ok a { s with chat } := by
  rw [onChat, h]

lemma onChat_error {α : Type} {x : ChatM α} {s : PeerState} {e : SessionError} {chat : ChatSession}
    (h : x s.chat = .error e chat) : onChat x s = .error (.session e) { s with chat } := by
  rw [onChat, h]

/-- What the endpoint does in order, the drive does. -/
lemma keeps_onChat {α : Type} {x : ChatM α} (hx : ∀ c, Chatting loads log c →
      ∃ a c', x c = .ok a c' ∧ Chatting loads log c' ∧ c'.now = c.now ∧ c'.streamId = c.streamId) :
    Keeps (Driving loads log) (onChat x) := by
  rintro s ⟨h, hstream⟩
  obtain ⟨a, chat, hrun, hchat, -, hsame⟩ := hx s.chat h
  exact ⟨a, { s with chat }, onChat_ok hrun, hchat, hsame.trans hstream⟩

/-- A pump of the drive raises nothing. -/
lemma keeps_pumpChat (hc : Conforming zlib loads env log) :
    Keeps (Driving loads log) (pumpChat zlib loads env) := by
  rintro s ⟨h, hstream⟩
  obtain ⟨messages, chat, hrun, hchat, -, hsame⟩ := h.pump hc.readable hc.length_lt
    (show ∀ frame ∈ env.frames s.pumps, _ by rw [hstream]; exact hc.frames s.pumps)
  refine ⟨messages, { s with chat, pumps := s.pumps + 1 }, ?_, hchat, hsame.trans hstream⟩
  rw [pumpChat]
  exact (bind_ok rfl).trans (onChat_ok hrun)

lemma keeps_pumpUntil (hc : Conforming zlib loads env log) (hh : hold.Sleepable)
    (reached : ChatSession → Bool) (record : ℕ → PeerResult → PeerResult) : ∀ rounds rnd,
    Keeps (Driving loads log) (pumpUntil zlib loads env hold deadline reached record rounds rnd)
  | 0, _ => keeps_pure ()
  | rounds + 1, rnd => by
      refine (keeps_round hh).bind fun inBudget => keeps_ite ?_ (keeps_pure ())
      refine (keeps_pumpChat hc).bind fun _ => keeps_get_bind fun s => keeps_ite ?_ ?_
      · exact keeps_modifyResult _
      · exact keeps_pumpUntil hc hh reached record rounds (rnd + 1)

lemma keeps_asInitiator {x : ChatM (List SessionEvent)} (hx : ∀ c, Chatting loads log c →
      ∃ a c', x c = .ok a c' ∧ Chatting loads log c' ∧ c'.now = c.now ∧ c'.streamId = c.streamId)
    (role : PeerRole) : Keeps (Driving loads log) (asInitiator role x) :=
  keeps_ite ((keeps_onChat hx).bind fun _ => keeps_pure _) (keeps_pure ())

lemma keeps_afterLoop : Keeps (Driving loads log) afterLoop := by
  refine keeps_get_bind fun s => (keeps_emit _).bind fun _ => keeps_ite (keeps_pure true) ?_
  exact (keeps_emit _).bind fun _ => keeps_pure false

/-- **The handshake raises nothing**, if its pauses can be slept. -/
theorem keeps_opening (hc : Conforming zlib loads env log) (hh : hold.Sleepable) (role : PeerRole)
    (timeout : ℚ) : Keeps (Driving loads log) (opening zlib loads env hold role timeout) := by
  have hhandshake : ∀ deadline, Keeps (Driving loads log)
      (handshake zlib loads env hold role deadline) := by
    intro deadline
    exact (keeps_asInitiator (fun c h => h.connect) role).bind fun _ => (keeps_emit _).bind fun _ =>
      (keeps_pumpUntil hc hh _ _ _ _).bind fun _ => keeps_afterLoop
  exact keeps_readCounter.bind fun started => (keeps_emit _).bind fun _ =>
    (hhandshake _).bind fun established => keeps_pure _

/-- The close raises nothing. -/
lemma keeps_closing (hc : Conforming zlib loads env log) (hh : hold.Sleepable) (role : PeerRole) :
    Keeps (Driving loads log) (closing zlib loads env hold role deadline) :=
  (keeps_asInitiator (fun _ h => h.close) role).bind fun _ => (keeps_emit _).bind fun _ =>
    (keeps_pumpUntil hc hh _ _ _ _).bind fun _ => keeps_get_bind fun _ => (keeps_emit _).bind fun _ =>
      keeps_ite (keeps_pure _) (keeps_emit _)

lemma keeps_conclude : Keeps (Driving loads log) conclude := by
  refine Keeps.bind (keeps_modify ?_) fun _ => keeps_get_bind fun _ => keeps_emit _
  exact fun _ h => h

/-! ## The exchange

The only stage that sends messages.  A round first sends one, if any is left, and then pumps.
-/

/-- The text has an encoding, and the session and the message are such that it can be sent. -/
def CanSendText (floatText : ℚ → String) (c : ChatSession) (text : PyStr) : Prop :=
  ∃ chars, text.toString? = some chars ∧ CanSend floatText c chars

/-- In every round that begins with a message left, it can be sent. -/
def Sends (zlib : Bytes → ℕ) (loads : JsonLoads) (floatText : ℚ → String) (env : PeerEnv)
    (hold : PyFloat) (deadline : ℚ) : ℕ → List PyStr → PeerState → Prop
  | 0, _, _ => True
  | rounds + 1, out, s => ∀ s', round env hold deadline s = .ok true s' →
      (∀ text ∈ out.head?, CanSendText floatText s'.chat text) ∧
        ∀ rest s'', exchangeRound zlib loads floatText env out s' = .ok (some rest) s'' →
          Sends zlib loads floatText env hold deadline rounds rest s''

lemma sendNext_ok (hc : Conforming zlib loads env log) {out : List PyStr} {s : PeerState}
    (h : Driving loads log s) (hcan : ∀ text ∈ out.head?, CanSendText floatText s.chat text) :
    ∃ rest s', sendNext zlib floatText out s = .ok rest s' ∧ Driving loads log s' := by
  cases out with
  | nil => exact ⟨[], s, rfl, h⟩
  | cons text rest =>
      obtain ⟨hchat, hstream⟩ := h
      obtain ⟨chars, hchars, hcansend⟩ := hcan text rfl
      have hencode : encodable text s = .ok chars s := by
        rw [encodable, hchars]
        rfl
      obtain ⟨chat, hsend, hchat', -, hsame⟩ := hchat.sendMessage_ok hc.length_lt hcansend
      refine ⟨rest, _, (bind_ok hencode).trans ((bind_ok (onChat_ok hsend)).trans rfl), hchat',
        hsame.trans hstream⟩

/-- A round in which the message can be sent raises nothing. -/
theorem exchangeRound_ok (hc : Conforming zlib loads env log) {out : List PyStr} {s : PeerState}
    (h : Driving loads log s) (hcan : ∀ text ∈ out.head?, CanSendText floatText s.chat text) :
    ∃ left s', exchangeRound zlib loads floatText env out s = .ok left s' ∧ Driving loads log s' := by
  obtain ⟨rest, s₁, hsend, h₁⟩ := sendNext_ok hc h hcan
  have hkeeps : Keeps (Driving loads log) (do
      let messages ← pumpChat zlib loads env
      messages.forM fun msg => emit (.received msg.msgId msg.text)
      let s ← get
      return if rest = [] ∧ s.result.expected.length ≤ s.chat.received.length then none
        else some rest : PeerM (Option (List PyStr))) :=
    (keeps_pumpChat hc).bind fun messages => (keeps_forM (fun _ => keeps_emit _) messages).bind
      fun _ => keeps_get_bind fun _ => keeps_pure _
  obtain ⟨left, s', hrest, h'⟩ := hkeeps s₁ h₁
  exact ⟨left, s', (bind_ok hsend).trans hrest, h'⟩

/-- A round in which it cannot be sent raises. -/
theorem exchangeRound_error {out : List PyStr} {s : PeerState}
    (hcan : ¬ ∀ text ∈ out.head?, CanSendText floatText s.chat text) :
    ∃ e s', exchangeRound zlib loads floatText env out s = .error e s' := by
  cases out with
  | nil => exact absurd (by simp) hcan
  | cons text rest =>
      have hcannot : ¬ CanSendText floatText s.chat text := fun h => hcan (by simpa using h)
      cases hchars : text.toString? with
      | none =>
          have hencode : encodable text s = .error .UnicodeEncodeError s := by
            rw [encodable, hchars]
            rfl
          exact ⟨_, _, bind_error (bind_error hencode)⟩
      | some chars =>
          have hencode : encodable text s = .ok chars s := by
            rw [encodable, hchars]
            rfl
          obtain ⟨e, chat, herror⟩ := ChatSession.Chatting.sendMessage_error
            (fun h : CanSend floatText s.chat chars => hcannot ⟨chars, hchars, h⟩)
          exact ⟨_, _, bind_error ((bind_ok hencode).trans (bind_error (onChat_error herror)))⟩

/-- **The exchange returns exactly when every message can be sent in its round.** -/
theorem exchange_iff (hc : Conforming zlib loads env log) (hh : hold.Sleepable) :
    ∀ (rounds : ℕ) (out : List PyStr) (s : PeerState), Driving loads log s →
    (Sends zlib loads floatText env hold deadline rounds out s →
      ∃ s', exchange zlib loads floatText env hold deadline rounds out s = .ok () s' ∧
        Driving loads log s') ∧
    (¬ Sends zlib loads floatText env hold deadline rounds out s →
      ∃ e s', exchange zlib loads floatText env hold deadline rounds out s = .error e s') := by
  intro rounds
  induction rounds with
  | zero =>
      intro out s h
      exact ⟨fun _ => ⟨s, rfl, h⟩, fun hnot => absurd trivial hnot⟩
  | succ rounds ih =>
      intro out s h
      obtain ⟨inBudget, s₁, hround, h₁⟩ := keeps_round hh s h
      cases inBudget with
      | false =>
          have hstop : exchange zlib loads floatText env hold deadline (rounds + 1) out s = .ok () s₁ :=
            (bind_ok hround).trans rfl
          refine ⟨fun _ => ⟨s₁, hstop, h₁⟩, fun hnot => absurd ?_ hnot⟩
          intro s' hs'
          rw [hround] at hs'
          cases hs'
      | true =>
          have hgo : exchange zlib loads floatText env hold deadline (rounds + 1) out s = (do
              match ← exchangeRound zlib loads floatText env out with
              | none => pure ()
              | some rest => exchange zlib loads floatText env hold deadline rounds rest) s₁ :=
            bind_ok hround
          have hsame : ∀ s', round env hold deadline s = .ok true s' → s' = s₁ := by
            intro s' hs'
            rw [hround] at hs'
            exact (EStateM.Result.ok.inj hs').2.symm
          by_cases hcan : ∀ text ∈ out.head?, CanSendText floatText s₁.chat text
          · obtain ⟨left, s₂, hleft, h₂⟩ := exchangeRound_ok hc h₁ hcan
            cases left with
            | none =>
                refine ⟨fun _ => ⟨s₂, hgo.trans (bind_ok hleft), h₂⟩, fun hnot => absurd ?_ hnot⟩
                intro s' hs'
                rw [hsame s' hs', hleft]
                exact ⟨hcan, by simp⟩
            | some rest =>
                have hnext := hgo.trans (bind_ok hleft)
                have hsends : Sends zlib loads floatText env hold deadline (rounds + 1) out s ↔
                    Sends zlib loads floatText env hold deadline rounds rest s₂ := by
                  constructor
                  · intro hsends
                    exact (hsends s₁ hround).2 rest s₂ hleft
                  · intro hrest s' hs'
                    rw [hsame s' hs', hleft]
                    refine ⟨hcan, ?_⟩
                    rintro rest' s'' ⟨⟩
                    exact hrest
                rw [hsends]
                obtain ⟨hok, herror⟩ := ih rest s₂ h₂
                exact ⟨fun h => by rw [hnext]; exact hok h, fun h => by rw [hnext]; exact herror h⟩
          · refine ⟨fun hsends => absurd (hsends s₁ hround).1 hcan, fun _ => ?_⟩
            obtain ⟨e, s₂, herror⟩ :
                ∃ e s₂, exchangeRound zlib loads floatText env out s₁ = .error e s₂ :=
              exchangeRound_error hcan
            exact ⟨e, s₂, hgo.trans (bind_error herror)⟩

/-! ## The whole drive

The stages before the exchange and after it raise nothing, if the pauses can be slept.  If they
cannot, the first round raises, unless its deadline has passed.
-/

lemma driving_new (role : PeerRole) (messages : List PyStr × List PyStr) :
    Driving loads log (PeerState.new role messages) := by
  refine ⟨Chatting.start ?_ ?_, rfl⟩
  · refine Session.Sound.create ?_ ?_ (by decide) (by decide)
    · split_ifs <;> decide
    · split_ifs <;> decide
  · exact Session.Hears.create (by decide) (by decide)

/-- The last thing that is done is to report the outcome. -/
lemma finish_done (env : PeerEnv) (started : ℚ) (s : PeerState) :
    ∃ result s', finish env started s = .ok result s' ∧
      s'.emitted.getLast? = some (.done result) :=
  ⟨_, _, rfl, by simp⟩

/-- The drive returns, and the last thing that it has reported is the outcome that it returns. -/
def Returns (outcome : EStateM.Result PeerError PeerState PeerResult) : Prop :=
  ∃ result s, outcome = .ok result s ∧ s.emitted.getLast? = some (.done result)

section Returns

variable {role : PeerRole} {out : List PyStr} {timeout started : ℚ} {s s' : PeerState}

/-- What is raised is not returned. -/
lemma not_returns_error {e : PeerError} {s : PeerState} : ¬ Returns (.error e s) := by
  rintro ⟨result, s', hrun, -⟩
  cases hrun

/-- A drive without an exchange returns. -/
lemma returns_of_opening_false
    (hopening : opening zlib loads env hold role timeout s = .ok (started, false) s') :
    Returns (drive zlib loads floatText env hold role out timeout s) := by
  obtain ⟨result, last, hfinish, hlast⟩ := finish_done env started s'
  exact ⟨result, last, (bind_ok hopening).trans ((bind_ok rfl).trans hfinish), hlast⟩

/-- **A drive with an exchange returns exactly when every message can be sent in its round.** -/
theorem returns_iff_of_opening_true (hc : Conforming zlib loads env log) (hh : hold.Sleepable)
    (hopening : opening zlib loads env hold role timeout s = .ok (started, true) s')
    (h : Driving loads log s') :
    Returns (drive zlib loads floatText env hold role out timeout s) ↔
      Sends zlib loads floatText env hold (started + timeout) MAX_CHAT_ROUNDS out s' := by
  obtain ⟨hok, herror⟩ : (Sends zlib loads floatText env hold (started + timeout) MAX_CHAT_ROUNDS
      out s' → _) ∧ (¬ _ → _) := exchange_iff hc hh _ _ s' h
  have hdrive : drive zlib loads floatText env hold role out timeout s = (do
      afterHandshake zlib loads floatText env hold role out (started + timeout) true
      finish env started) s' := bind_ok hopening
  rw [hdrive]
  by_cases hsends : Sends zlib loads floatText env hold (started + timeout) MAX_CHAT_ROUNDS out s'
  · refine iff_of_true ?_ hsends
    obtain ⟨s₁, hexchange, h₁⟩ := hok hsends
    have hrest : Keeps (Driving loads log) (do
        conclude
        closing zlib loads env hold role (started + timeout)) :=
      keeps_conclude.bind fun _ => keeps_closing hc hh role
    obtain ⟨_, s₂, hclosing, -⟩ := hrest s₁ h₁
    obtain ⟨result, last, hfinish, hlast⟩ := finish_done env started s₂
    have hafter : afterHandshake zlib loads floatText env hold role out (started + timeout) true s'
        = .ok () s₂ := (bind_ok hexchange).trans hclosing
    exact ⟨result, last, (bind_ok hafter).trans hfinish, hlast⟩
  · refine iff_of_false ?_ hsends
    obtain ⟨e, last, hraise⟩ := herror hsends
    have hafter : afterHandshake zlib loads floatText env hold role out (started + timeout) true s'
        = .error e last := bind_error hraise
    rw [bind_error hafter]
    exact not_returns_error

lemma readCounter_ok (env : PeerEnv) (s : PeerState) : readCounter env s
    = .ok (env.perfCounter s.readings) { s with readings := s.readings + 1 } := rfl

/-- A round after the deadline. -/
lemma round_late (h : deadline < env.perfCounter s.readings) : round env hold deadline s = .ok false
    { s with readings := s.readings + 1, result := { s.result with timedOut := true } } := by
  rw [round, bind_ok (readCounter_ok env s), if_pos h]
  rfl

/-- A round in time that cannot be paced. -/
lemma round_error (hh : ¬ hold.Sleepable) (h : ¬ deadline < env.perfCounter s.readings) :
    ∃ e s', round env hold deadline s = .error e s' := by
  rw [round, bind_ok (readCounter_ok env s), if_neg h, modify_bind]
  obtain ⟨e, hsleep⟩ := sleep_error hh
    { s with readings := s.readings + 1, chat := { s.chat with now := s.chat.now + ROUND_DT } }
  exact ⟨e, _, bind_error hsleep⟩

variable (zlib loads env deadline) in
/-- A loop whose first round cannot be paced ends there, with an error or because its time is up. -/
lemma pumpUntil_of_not_sleepable (hh : ¬ hold.Sleepable) (reached : ChatSession → Bool)
    (record : ℕ → PeerResult → PeerResult) (rounds rnd : ℕ) (s : PeerState) :
    (deadline < env.perfCounter s.readings →
      ∃ s', pumpUntil zlib loads env hold deadline reached record (rounds + 1) rnd s = .ok () s' ∧
        s'.result.established = s.result.established) ∧
    (¬ deadline < env.perfCounter s.readings →
      ∃ e s', pumpUntil zlib loads env hold deadline reached record (rounds + 1) rnd s
        = .error e s') := by
  rw [pumpUntil]
  constructor
  · intro hlate
    rw [bind_ok (round_late hlate), if_neg Bool.false_ne_true]
    exact ⟨_, rfl, rfl⟩
  · intro htime
    obtain ⟨e, s', hraise⟩ := round_error hh htime
    exact ⟨e, s', bind_error hraise⟩

/-- Without an establishment there is no exchange. -/
lemma afterLoop_of_not_established (h : s.result.established = false) :
    ∃ s', afterLoop s = .ok false s' := by
  rw [afterLoop, get_bind, h]
  exact ⟨_, rfl⟩

/-- The handshake from its first round on. -/
def firstRound (zlib : Bytes → ℕ) (loads : JsonLoads) (env : PeerEnv) (hold : PyFloat)
    (timeout : ℚ) : PeerM (ℚ × Bool) := do
  let established ← (do
    pumpUntil zlib loads env hold (env.perfCounter 0 + timeout) ChatSession.isEstablished
      (fun rnd r => { r with established := true, handshakeRounds := some rnd })
      MAX_HANDSHAKE_ROUNDS 1
    afterLoop)
  return (env.perfCounter 0, established)

variable (zlib loads env hold) in
/-- What comes before the first round raises nothing, reads the counter once and establishes
nothing. -/
lemma opening_eq_firstRound (role : PeerRole) (messages : List PyStr × List PyStr) (timeout : ℚ) :
    ∃ s : PeerState, s.readings = 1 ∧ s.result.established = false ∧
      opening zlib loads env hold role timeout (PeerState.new role messages)
        = firstRound zlib loads env hold timeout s := by
  let s₁ : PeerState :=
    { PeerState.new role messages with
      readings := 1, emitted := [.start role.name role.isInitiator] }
  obtain ⟨chat, hconnect⟩ : ∃ chat, asInitiator role (ChatSession.connect zlib) s₁
      = .ok () { s₁ with chat } := by
    obtain ⟨hchat, -⟩ : Driving loads [] (PeerState.new role messages) := driving_new role messages
    rw [asInitiator]
    split_ifs
    · obtain ⟨events, chat, hrun, -⟩ : ∃ events chat,
          ChatSession.connect zlib (PeerState.new role messages).chat = .ok events chat ∧ _ :=
        hchat.connect
      exact ⟨chat, (bind_ok (onChat_ok (s := s₁) hrun)).trans rfl⟩
    · exact ⟨s₁.chat, rfl⟩
  let s₂ : PeerState :=
    { s₁ with chat, emitted := s₁.emitted ++ [.connect role.isInitiator] }
  have hemit : emit (.connect role.isInitiator) { s₁ with chat } = .ok () s₂ := rfl
  refine ⟨s₂, rfl, rfl, ?_⟩
  have hhandshake : handshake zlib loads env hold role (env.perfCounter 0 + timeout) s₁ = (do
      pumpUntil zlib loads env hold (env.perfCounter 0 + timeout) ChatSession.isEstablished
        (fun rnd r => { r with established := true, handshakeRounds := some rnd })
        MAX_HANDSHAKE_ROUNDS 1
      afterLoop) s₂ := by
    rw [handshake, bind_ok hconnect, bind_ok hemit]
  have hstart : emit (.start role.name role.isInitiator)
      { PeerState.new role messages with readings := 1 } = .ok () s₁ := rfl
  rw [opening, bind_ok (readCounter_ok env _)]
  refine (bind_ok hstart).trans ?_
  exact bind_congr_run hhandshake

variable (zlib loads env) in
/-- **A drive that cannot pause** raises in its first round, unless its time is up before. -/
lemma opening_of_not_sleepable (hh : ¬ hold.Sleepable) (role : PeerRole)
    (messages : List PyStr × List PyStr) (timeout : ℚ) :
    (env.perfCounter 0 + timeout < env.perfCounter 1 →
      ∃ started s, opening zlib loads env hold role timeout (PeerState.new role messages)
        = .ok (started, false) s) ∧
    (¬ env.perfCounter 0 + timeout < env.perfCounter 1 →
      ∃ e s, opening zlib loads env hold role timeout (PeerState.new role messages) = .error e s) := by
  obtain ⟨s, hreadings, hestablished, hopening⟩ :=
    opening_eq_firstRound zlib loads env hold role messages timeout
  obtain ⟨hlate, htime⟩ := pumpUntil_of_not_sleepable zlib loads env (env.perfCounter 0 + timeout) hh
    ChatSession.isEstablished
    (fun rnd r => { r with established := true, handshakeRounds := some rnd }) 199 1 s
  rw [hopening, ← hreadings]
  constructor
  · intro hover
    obtain ⟨s', hloop, hsame⟩ := hlate hover
    obtain ⟨s'', hnone⟩ := afterLoop_of_not_established (hsame.trans hestablished)
    exact ⟨env.perfCounter 0, s'', bind_ok ((bind_ok hloop).trans hnone)⟩
  · intro hnot
    obtain ⟨e, s', hraise⟩ := htime hnot
    exact ⟨e, s', bind_error (bind_error hraise)⟩

end Returns

/-- **When a drive returns its verdict**, with `done` as its last event, for every conforming peer:
exactly when its pause is positive and can be slept (or the time is up before the first round), and
in every round of the exchange that begins with a message left the session is `ESTABLISHED` and the
message can be encoded. -/
theorem runPeer_returns_iff (zlib : Bytes → ℕ) (loads : JsonLoads) (floatText : ℚ → String)
    (env : PeerEnv) (log : List Bytes) (hc : Conforming zlib loads env log) (role : PeerRole)
    (messages : List PyStr × List PyStr) (timeout : ℚ) (hold : PyFloat) :
    (∃ result s, runPeer zlib loads floatText env hold role messages timeout = .ok result s ∧
      s.emitted.getLast? = some (.done result)) ↔
    ¬ hold.NonPos ∧ (hold.Sleepable ∨ env.perfCounter 0 + timeout < env.perfCounter 1) ∧
      ∀ started s, opening zlib loads env hold role timeout (PeerState.new role messages)
          = .ok (started, true) s →
        Sends zlib loads floatText env hold (started + timeout) MAX_CHAT_ROUNDS
          (role.outgoing messages) s := by
  show Returns (runPeer zlib loads floatText env hold role messages timeout) ↔ _
  by_cases hpositive : hold.NonPos
  · -- the check refuses the pause
    have hcheck : ∃ e, checkHold floatText hold (PeerState.new role messages)
        = .error e (PeerState.new role messages) := by
      rw [checkHold, if_pos hpositive]
      exact ⟨_, rfl⟩
    obtain ⟨e, hcheck⟩ := hcheck
    rw [runPeer, bind_error hcheck]
    exact iff_of_false not_returns_error fun h => h.1 hpositive
  have hcheck : checkHold floatText hold (PeerState.new role messages)
      = .ok () (PeerState.new role messages) := by
    rw [checkHold, if_neg hpositive]
    rfl
  rw [runPeer, bind_ok hcheck, and_iff_right hpositive]
  by_cases hh : hold.Sleepable
  · rw [and_iff_right (Or.inl hh)]
    obtain ⟨⟨started, established⟩, s, hopening, h⟩ :=
      keeps_opening hc hh role timeout _ (driving_new role messages)
    cases established with
    | false =>
        refine iff_of_true (returns_of_opening_false hopening) fun started' s' hs' => ?_
        rw [hopening] at hs'
        cases hs'
    | true =>
        rw [returns_iff_of_opening_true hc hh hopening h]
        refine ⟨fun hsends started' s' hs' => ?_, fun hsends => hsends started s hopening⟩
        rw [hopening] at hs'
        cases hs'
        exact hsends
  · obtain ⟨hlate, htime⟩ := opening_of_not_sleepable zlib loads env hh role messages timeout
    by_cases hover : env.perfCounter 0 + timeout < env.perfCounter 1
    · obtain ⟨started, s, hopening⟩ := hlate hover
      refine iff_of_true (returns_of_opening_false hopening) ⟨Or.inr hover, fun started' s' hs' => ?_⟩
      rw [hopening] at hs'
      cases hs'
    · obtain ⟨e, s, hraise⟩ := htime hover
      rw [drive, bind_error hraise]
      exact iff_of_false not_returns_error fun h => h.1.elim hh hover

/-- A control packet of the other peer. -/
def controlFrame (type : PacketType) (seq ack : ℤ) (flags : ℕ) : Bytes :=
  packed zlibCrc32 { type, sessionId := 1, streamId := 0, seq, ack, window := 0, flags }

/-- The other peer completes the handshake, and closes in the next round. -/
def leavesEarly : PeerEnv where
  perfCounter := fun _ => 0
  frames
    | 0 => [controlFrame .SynAck 5000 1001 (Flags.syn ||| Flags.ack)]
    | 1 => [controlFrame .Fin 5001 0 Flags.fin]
    | _ => []

/-- It completes the handshake, has nothing to say in the exchange, and answers the close. -/
def stays : PeerEnv where
  perfCounter := fun _ => 0
  frames
    | 0 => [controlFrame .SynAck 5000 1001 (Flags.syn ||| Flags.ack)]
    | 2 => [controlFrame .FinAck 5001 1002 (Flags.fin ||| Flags.ack),
        controlFrame .Fin 5001 0 Flags.fin]
    | _ => []

/-- What a drive raised. -/
def raised : EStateM.Result PeerError PeerState PeerResult → Option PeerError
  | .ok _ _ => none
  | .error e _ => some e

/-- A conforming peer that sends nothing on the default stream. -/
lemma conforming_of_control {env : PeerEnv}
    (h : ∀ k, ∀ frame ∈ env.frames k, ∃ pkt, Packet.unpack zlibCrc32 frame = .ok pkt ∧
      pkt.streamId = 0 ∧ pkt.seq + 1 < 2 ^ 32) :
    Conforming zlibCrc32 (fun _ => .error "") env [] where
  length_lt := by decide
  readable := by
    intro taken htaken
    obtain rfl := List.prefix_nil.mp htaken
    have hnil : (chatFraming fun _ => .error "").scan [] = ⟨[], [], none⟩ :=
      Framing.scan_of_stopped none (if_pos LENGTH_SIZE_pos)
    rw [List.flatten_nil, hnil]
  frames := by
    intro k frame hmem
    obtain ⟨pkt, hunpack, hstream, hseq⟩ := h k frame hmem
    exact .inr ⟨pkt, hunpack, fun _ => hseq, fun hdefault => by
      simp [hstream, DEFAULT_STREAM_ID] at hdefault⟩

lemma unpack_controlFrame (type : PacketType) {seq ack : ℤ} {flags : ℕ} {frame : Bytes}
    (hframe : frame = controlFrame type seq ack flags) (hseq : 0 ≤ seq ∧ seq + 1 < 2 ^ 32)
    (hack : 0 ≤ ack ∧ ack < 2 ^ 32) (hflags : flags < 256) :
    ∃ pkt, Packet.unpack zlibCrc32 frame = .ok pkt ∧ pkt.streamId = 0 ∧ pkt.seq + 1 < 2 ^ 32 := by
  rw [hframe]
  exact ⟨_, unpack_packed ⟨by simp [PROTOCOL_VERSION], hflags, by simp, by simp,
    ⟨hseq.1, by show seq < _; omega⟩, hack, by simp, by simp⟩, rfl, hseq.2⟩

lemma conforming_leavesEarly : Conforming zlibCrc32 (fun _ => .error "") leavesEarly [] := by
  refine conforming_of_control fun k frame hmem => ?_
  match k with
  | 0 =>
      exact unpack_controlFrame .SynAck (List.mem_singleton.mp hmem) (by decide) (by decide)
        (by decide)
  | 1 => exact unpack_controlFrame .Fin (List.mem_singleton.mp hmem) (by decide) (by decide) (by decide)
  | _ + 2 => exact absurd hmem List.not_mem_nil

lemma conforming_stays : Conforming zlibCrc32 (fun _ => .error "") stays [] := by
  refine conforming_of_control fun k frame hmem => ?_
  match k with
  | 0 =>
      exact unpack_controlFrame .SynAck (List.mem_singleton.mp hmem) (by decide) (by decide)
        (by decide)
  | 1 => exact absurd hmem List.not_mem_nil
  | 2 =>
      rcases List.mem_cons.mp hmem with hframe | hrest
      · exact unpack_controlFrame .FinAck hframe (by decide) (by decide) (by decide)
      · exact unpack_controlFrame .Fin (List.mem_singleton.mp hrest) (by decide) (by decide)
          (by decide)
  | _ + 3 => exact absurd hmem List.not_mem_nil

set_option maxRecDepth 20000 in
/-- **A conforming peer that closes while there is a message left makes the drive raise.** -/
theorem runPeer_raises :
    Conforming zlibCrc32 (fun _ => .error "") leavesEarly [] ∧
    raised (runPeer zlibCrc32 (fun _ => .error "") (fun _ => "0.0") leavesEarly (.finite (2 / 5))
      .sender (["hi over light", "frame two"], ["got your light", "B done"]) 60)
        = some (.session
            (.RuntimeError "cannot send data: session is CLOSE_WAIT, not ESTABLISHED")) :=
  ⟨conforming_leavesEarly, by decide +kernel⟩

/-- A drive returned with a pass, reported the outcome last, and has sent these texts. -/
def passedWith (sent : List String) : EStateM.Result PeerError PeerState PeerResult → Bool
  | .ok result s =>
      s.emitted.getLast? = some (.done result) ∧ result.passed = true ∧ result.sent = sent
  | .error _ _ => false

lemma exists_of_passedWith {sent : List String}
    {outcome : EStateM.Result PeerError PeerState PeerResult} (h : passedWith sent outcome = true) :
    ∃ result s, outcome = .ok result s ∧ s.emitted.getLast? = some (.done result) := by
  cases outcome with
  | ok result s => exact ⟨result, s, rfl, (of_decide_eq_true h).1⟩
  | error e s => cases h

/-- Whether there is an exchange. -/
def established : EStateM.Result PeerError PeerState (ℚ × Bool) → Bool
  | .ok (_, established) _ => established
  | .error _ _ => false

lemma exists_of_established {outcome : EStateM.Result PeerError PeerState (ℚ × Bool)}
    (h : established outcome = true) : ∃ started s, outcome = .ok (started, true) s := by
  cases outcome with
  | ok a s =>
      obtain ⟨started, b⟩ := a
      exact ⟨started, s, by rw [show b = true from h]⟩
  | error e s => cases h

set_option maxRecDepth 20000 in
/-- A drive that sends a message and passes: when the exchange begins, the message can be sent. -/
theorem runPeer_returns_stays :
    passedWith ["hi over light"] (runPeer zlibCrc32 (fun _ => .error "") (fun _ => "0.0")
      stays (.finite (2 / 5)) .sender (["hi over light"], []) 60) = true ∧
    ∃ started s, opening zlibCrc32 (fun _ => .error "") stays (.finite (2 / 5)) .sender 60
        (PeerState.new .sender (["hi over light"], [])) = .ok (started, true) s ∧
      Sends zlibCrc32 (fun _ => .error "") (fun _ => "0.0") stays (.finite (2 / 5)) (started + 60)
        MAX_CHAT_ROUNDS ["hi over light"] s := by
  have hpassed : passedWith ["hi over light"] (runPeer zlibCrc32 (fun _ => .error "")
      (fun _ => "0.0") stays (.finite (2 / 5)) .sender (["hi over light"], []) 60) = true := by
    decide +kernel
  obtain ⟨started, s, hopening⟩ : ∃ started s, opening zlibCrc32 (fun _ => .error "") stays
      (.finite (2 / 5)) .sender 60 (PeerState.new .sender (["hi over light"], []))
        = .ok (started, true) s :=
    exists_of_established (by decide +kernel)
  obtain ⟨-, -, hsends⟩ := (runPeer_returns_iff zlibCrc32 (fun _ => .error "") (fun _ => "0.0") stays
    [] conforming_stays .sender (["hi over light"], []) 60 (.finite (2 / 5))).mp
      (exists_of_passedWith hpassed)
  exact ⟨hpassed, started, s, hopening, hsends started s hopening⟩

/-- A message that is one lone surrogate has no encoding. -/
example : raised (runPeer zlibCrc32 (fun _ => .error "") (fun _ => "0.0") stays (.finite (2 / 5))
    .sender ([⟨[0xD800], by simp⟩], []) 60) = some .UnicodeEncodeError := by
  decide +kernel

/-- A pause without end passes the check and cannot be slept. -/
example : raised (runPeer zlibCrc32 (fun _ => .error "") (fun _ => "0.0") stays .inf .sender
    (["hi over light"], []) 60)
      = some (.OverflowError "timestamp too large to convert to C PyTime_t") := by
  decide +kernel

end PhotonTCP.Optical
