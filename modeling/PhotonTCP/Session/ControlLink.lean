import Mathlib.Data.Fintype.Basic
import PhotonTCP.Foundation.Exchange
import PhotonTCP.Foundation.Transition
import PhotonTCP.Session.StateMachine

/-!
# Two machines over a lossy link

An initiator and a responder exchange control packets.  The link keeps the order of the packets it
does not lose, and it loses whichever it likes: the fate of a packet is decided when it is
transmitted, and is recorded.  Each machine is ticked every `control_rto`, and the answer to a
packet, if neither is lost, is there before the retransmission timer runs out.

* `Party`, `ControlLink` — the state.
* `LinkAction`, `ControlLink.system` — `connect` once, `close`, ticks and deliveries.
* `fates` — what became of the packets of one type, in order; `arriving` — how many of them are on
  their way.
* `fates_next_self`, `arriving_next_peer` and their like — what a step does to them.

A timer is of no use on a link that may be arbitrarily slow: a retransmission then says nothing
about a loss.  The guard of a tick expresses what is expected of the link.  When a retransmission
timer runs out, neither the packet that was sent nor a reply to it is still on its way, so the
packet was lost, or the reply was.  This is an assumption on the round trip and on the timeout
together, and nothing in the code enforces it.  The idle timeout is kept out in the same way,
because it ends a connection for reasons that have nothing to do with lost control packets.

Fates are decided when a packet is put on the link, and are part of the action.  A run so carries
the whole history of its losses, by type and by side, and a bound on the losses is a statement about
lists of Booleans, to which the general theorem on exchanges applies.
-/

namespace PhotonTCP

open LossWindow

/-! ## The state

The two sides are symmetric, and are told apart by the role of their machines only.
-/

/-- The two sides of the link. -/
inductive Side where
  | Initiator
  | Responder
deriving DecidableEq

instance : Fintype Side := ⟨{.Initiator, .Responder}, fun x => by cases x <;> decide⟩

namespace Side

/-- The other side. -/
def peer : Side → Side
  | Initiator => Responder
  | Responder => Initiator

@[simp] lemma peer_peer (x : Side) : x.peer.peer = x := by cases x <;> rfl

/-- What holds of one side and of the other holds of both. -/
lemma forall_of (x : Side) {P : Side → Prop} (h : P x) (h' : P x.peer) : ∀ y, P y := by
  intro y
  cases x <;> cases y <;> assumption

lemma eq_or_eq_peer (x y : Side) : y = x ∨ y = x.peer := by cases x <;> cases y <;> decide

end Side

/-- A packet put on the link, and whether the link delivers it. -/
structure Transmission where
  packet : Packet
  delivered : Bool
  time : ℚ
deriving DecidableEq

/-- One side: its machine, the time of its next tick, what is on its way to it, what it has
transmitted and what it has surfaced. -/
structure Party where
  machine : SessionStateMachine
  nextTick : ℚ
  inbox : List Packet := []
  sent : List Transmission := []
  surfaced : List (SessionEvent × ℚ) := []

/-- Both sides, and the time. -/
structure ControlLink where
  initiator : Party
  responder : Party
  clock : ℚ

/-- The fates of the packets of one type, in order. -/
def fatesOf (kind : PacketType) (sent : List Transmission) : List Bool :=
  (sent.filter fun t => t.packet.type = kind).map Transmission.delivered

/-- The packets that are delivered. -/
def arrivals (sent : List Transmission) : List Packet :=
  (sent.filter Transmission.delivered).map Transmission.packet

/-- Put packets on the link. -/
def stamp (packets : List Packet) (fates : List Bool) (now : ℚ) : List Transmission :=
  List.zipWith (fun packet delivered => ⟨packet, delivered, now⟩) packets fates

namespace Party

/-- What became of the packets of one type. -/
def fates (p : Party) (kind : PacketType) : List Bool := fatesOf kind p.sent

/-- The application of this side has been told. -/
def Surfaced (p : Party) (event : SessionEvent) : Prop := event ∈ p.surfaced.map Prod.fst

instance (p : Party) (event : SessionEvent) : Decidable (p.Surfaced event) :=
  inferInstanceAs (Decidable (_ ∈ _))

/-- How many packets of one type are on their way to this side. -/
def arriving (p : Party) (kind : PacketType) : ℕ := p.inbox.countP fun pkt => pkt.type = kind

end Party

/-! ## The steps

An action names a side, what its machine is faced with, and what becomes of the packets that it
transmits in return.
-/

/-- The applications open and close, the timers run, the link delivers.  The last argument says what
becomes of the packets that the machine transmits in return. -/
inductive LinkAction where
  | connect (now : ℚ) (fates : List Bool)
  | close (x : Side) (now : ℚ) (fates : List Bool)
  | tick (x : Side) (fates : List Bool)
  | deliver (x : Side) (now : ℚ) (fates : List Bool)

namespace LinkAction

/-- The side that acts. -/
def side : LinkAction → Side
  | connect _ _ => .Initiator
  | close x _ _ | tick x _ | deliver x _ _ => x

/-- What becomes of the packets that are transmitted. -/
def fates : LinkAction → List Bool
  | connect _ fates | close _ _ fates | tick _ fates | deliver _ _ fates => fates

end LinkAction

/-- What a machine is faced with: a call of the application, a tick, or a packet. -/
inductive Stimulus where
  | call
  | tick
  | packet (kind : PacketType)
deriving DecidableEq

/-- The reply that a pending control packet awaits. -/
def PacketType.reply : PacketType → PacketType
  | .Syn => .SynAck
  | .SynAck => .Ack
  | .Fin => .FinAck
  | other => other

namespace ControlLink

/-- The party on a side. -/
def party (link : ControlLink) : Side → Party
  | .Initiator => link.initiator
  | .Responder => link.responder

/-- The link with the party `p` on side `x` and `q` on the other. -/
def place (x : Side) (p q : Party) (clock : ℚ) : ControlLink :=
  match x with
  | .Initiator => { initiator := p, responder := q, clock }
  | .Responder => { initiator := q, responder := p, clock }

@[simp] lemma party_place_self (x : Side) (p q : Party) (clock : ℚ) :
    (place x p q clock).party x = p := by cases x <;> rfl

@[simp] lemma party_place_peer (x : Side) (p q : Party) (clock : ℚ) :
    (place x p q clock).party x.peer = q := by cases x <;> rfl

/-- When the action happens: ticks at their time. -/
def time (link : ControlLink) : LinkAction → ℚ
  | .connect now _ | .close _ now _ | .deliver _ now _ => now
  | .tick x _ => (link.party x).nextTick

/-- What the acting side is faced with. -/
def stimulus (link : ControlLink) : LinkAction → Stimulus
  | .connect _ _ | .close _ _ _ => .call
  | .tick _ _ => .tick
  | .deliver x _ _ =>
      match (link.party x).inbox with
      | [] => .call
      | pkt :: _ => .packet pkt.type

/-- What the machine does. -/
def answer (link : ControlLink) : LinkAction → Output × SessionStateMachine
  | .connect now _ => (link.party .Initiator).machine.connect now
  | .close x now _ => (link.party x).machine.close now
  | .tick x _ => (link.party x).machine.onTick (link.party x).nextTick
  | .deliver x now _ =>
      match (link.party x).inbox with
      | [] => ({}, (link.party x).machine)
      | pkt :: _ => (link.party x).machine.onPacket pkt now

/-- The acting side when its input has been taken. -/
def taken (link : ControlLink) : LinkAction → Party
  | .connect _ _ => link.party .Initiator
  | .close x _ _ => link.party x
  | .tick x _ =>
      { link.party x with
        nextTick := (link.party x).nextTick + (link.party x).machine.controlRto }
  | .deliver x _ _ => { link.party x with inbox := (link.party x).inbox.tail }

/-- What the acting side transmits. -/
def transmitted (link : ControlLink) (act : LinkAction) : List Transmission :=
  stamp (link.answer act).1.packets act.fates (link.time act)

/-- One step: the machine works, and what it transmits is put on the link or lost. -/
def next (link : ControlLink) (act : LinkAction) : ControlLink :=
  place act.side
    { link.taken act with
      machine := (link.answer act).2
      sent := (link.party act.side).sent ++ link.transmitted act
      surfaced := (link.party act.side).surfaced ++
        (link.answer act).1.events.map fun event => (event, link.time act) }
    { link.party act.side.peer with
      inbox := (link.party act.side.peer).inbox ++ arrivals (link.transmitted act) }
    (link.time act)

/-- Neither the packet that awaits a reply nor a reply to it is on its way. -/
def Settled (link : ControlLink) (x : Side) (pkt : Packet) : Prop :=
  (link.party x.peer).arriving pkt.type = 0 ∧ (link.party x).arriving pkt.type.reply = 0

/-- What the individual action asks for: `connect` is the initiator's first action; a timer runs out
only when the link has settled. -/
def guard (link : ControlLink) : LinkAction → Prop
  | .connect _ _ => (link.party .Initiator).sent = []
  | .close _ _ _ => True
  | .tick x _ => (link.party x).machine.timerDue (link.party x).nextTick = true →
      ∀ pkt ∈ (link.party x).machine.pendingCtrl, link.Settled x pkt
  | .deliver x _ _ => (link.party x).inbox ≠ []

instance (link : ControlLink) : (act : LinkAction) → Decidable (link.guard act)
  | .connect _ _ => inferInstanceAs (Decidable (_ = _))
  | .close _ _ _ => isTrue trivial
  | .tick _ _ => inferInstanceAs (Decidable (_ → ∀ pkt ∈ (_ : Option Packet), _ ∧ _))
  | .deliver _ _ _ => inferInstanceAs (Decidable (_ ≠ _))

/-- Time does not go back and passes no tick; no idle timeout runs out; every packet has a fate. -/
def enabled (link : ControlLink) (act : LinkAction) : Prop :=
  link.clock ≤ link.time act ∧
  (∀ x, link.time act ≤ (link.party x).nextTick) ∧
  (∀ x, (link.party x).machine.idleExpired (link.time act) = false) ∧
  act.fates.length = (link.answer act).1.packets.length ∧
  link.guard act

instance (link : ControlLink) (act : LinkAction) : Decidable (link.enabled act) :=
  inferInstanceAs (Decidable (_ ∧ _ ∧ _ ∧ _ ∧ _))

/-- The link as a transition system. -/
def system : Transition ControlLink LinkAction := ⟨enabled, next⟩

instance (link : ControlLink) (act : LinkAction) : Decidable (system.enabled link act) :=
  inferInstanceAs (Decidable (link.enabled act))

/-- Among any `j` consecutive packets of type `ask` that a side transmits, and among any `k`
consecutive replies to that type, one is delivered. -/
def LossBounded (ask : PacketType) (j k : ℕ) (link : ControlLink) : Prop :=
  ∀ x, EveryWindow j ((link.party x).fates ask) ∧ EveryWindow k ((link.party x).fates ask.reply)

instance (ask : PacketType) (j k : ℕ) (link : ControlLink) : Decidable (LossBounded ask j k link) :=
  inferInstanceAs (Decidable (∀ _, _ ∧ _))

end ControlLink

/-! ## Counting

What is put on the link has a fate each, so the histories grow by what the machine's output holds.
-/

/-- The number of packets of one type in an output. -/
def Output.transmits (out : Output) (kind : PacketType) : ℕ :=
  out.packets.countP fun pkt => pkt.type = kind

section Counting

variable {kind : PacketType}

@[simp] lemma fatesOf_append (s t : List Transmission) :
    fatesOf kind (s ++ t) = fatesOf kind s ++ fatesOf kind t := by
  rw [fatesOf, List.filter_append, List.map_append]
  rfl

/-- What is delivered of a type is what has arrived of it. -/
lemma countP_arrivals (sent : List Transmission) :
    (arrivals sent).countP (fun pkt => pkt.type = kind) = (fatesOf kind sent).count true := by
  induction sent with
  | nil => rfl
  | cons t sent ih =>
      obtain ⟨packet, delivered, time⟩ := t
      rw [arrivals, fatesOf] at *
      by_cases hkind : packet.type = kind <;> cases delivered <;> simp [hkind, ih]

/-- Every packet has a fate. -/
lemma length_fatesOf_stamp (now : ℚ) : ∀ {packets : List Packet} {fates : List Bool},
    fates.length = packets.length →
    (fatesOf kind (stamp packets fates now)).length = packets.countP fun pkt => pkt.type = kind
  | [], _, _ => rfl
  | _ :: _, [], h => by cases h
  | pkt :: packets, fate :: fates, h => by
      have ih : (fatesOf kind (stamp packets fates now)).length
          = packets.countP fun pkt => pkt.type = kind :=
        length_fatesOf_stamp now (Nat.succ.inj h)
      simp only [stamp, fatesOf] at ih
      by_cases hkind : pkt.type = kind <;> simp [stamp, fatesOf, hkind, ih]

lemma mem_of_mem_stamp {now : ℚ} {t : Transmission} : ∀ {packets : List Packet}
    {fates : List Bool}, t ∈ stamp packets fates now → t.packet ∈ packets ∧ t.time = now
  | [], _, h => absurd h List.not_mem_nil
  | _ :: _, [], h => absurd h List.not_mem_nil
  | pkt :: packets, fate :: fates, h => by
      rcases List.mem_cons.mp h with rfl | hrest
      · exact ⟨List.mem_cons_self .., rfl⟩
      · obtain ⟨hmem, htime⟩ := mem_of_mem_stamp hrest
        exact ⟨List.mem_cons_of_mem _ hmem, htime⟩

end Counting

/-! ## What a step does

Two lemmas for each component of the state, one for the side that acts and one for its peer.  The
other side changes by what arrives in its inbox, and by nothing else.
-/

namespace ControlLink

variable {link : ControlLink} {act : LinkAction} {kind : PacketType}

lemma next_self : (link.next act).party act.side =
    { link.taken act with
      machine := (link.answer act).2
      sent := (link.party act.side).sent ++ link.transmitted act
      surfaced := (link.party act.side).surfaced ++
        (link.answer act).1.events.map fun event => (event, link.time act) } :=
  party_place_self ..

lemma next_peer : (link.next act).party act.side.peer =
    { link.party act.side.peer with
      inbox := (link.party act.side.peer).inbox ++ arrivals (link.transmitted act) } :=
  party_place_peer ..

lemma clock_next : (link.next act).clock = link.time act := by
  rw [next]
  cases act.side <;> rfl

lemma fates_next_self : ((link.next act).party act.side).fates kind =
    (link.party act.side).fates kind ++ fatesOf kind (link.transmitted act) := by
  rw [next_self]
  exact fatesOf_append _ _

lemma fates_next_peer : ((link.next act).party act.side.peer).fates kind =
    (link.party act.side.peer).fates kind := by
  rw [next_peer]
  rfl

lemma arriving_next_peer : ((link.next act).party act.side.peer).arriving kind =
    (link.party act.side.peer).arriving kind
      + (fatesOf kind (link.transmitted act)).count true := by
  rw [next_peer, Party.arriving, List.countP_append, countP_arrivals]
  rfl

lemma arriving_next_self : ((link.next act).party act.side).arriving kind =
    (link.taken act).arriving kind := by
  rw [next_self]
  rfl

lemma machine_next_self : ((link.next act).party act.side).machine = (link.answer act).2 := by
  rw [next_self]

lemma machine_next_peer :
    ((link.next act).party act.side.peer).machine = (link.party act.side.peer).machine := by
  rw [next_peer]

lemma surfaced_next_self {event : SessionEvent} :
    ((link.next act).party act.side).Surfaced event ↔
      (link.party act.side).Surfaced event ∨ event ∈ (link.answer act).1.events := by
  rw [next_self]
  simp [Party.Surfaced]

lemma surfaced_next_peer {event : SessionEvent} :
    ((link.next act).party act.side.peer).Surfaced event ↔
      (link.party act.side.peer).Surfaced event := by
  rw [next_peer]
  rfl

/-- A delivery takes one packet. -/
lemma arriving_taken (link : ControlLink) (act : LinkAction) (kind : PacketType) :
    (link.taken act).arriving kind
    + (if link.stimulus act = .packet kind then 1 else 0) = (link.party act.side).arriving kind := by
  cases act with
  | connect now fates => rfl
  | close x now fates => rfl
  | tick x fates => rfl
  | deliver x now fates =>
      show List.countP _ (link.party x).inbox.tail + _ = List.countP _ (link.party x).inbox
      rw [stimulus]
      cases (link.party x).inbox with
      | nil => rfl
      | cons pkt rest => simp [List.countP_cons]

/-- What is heard was the first in the inbox. -/
lemma inbox_eq_of_heard (hheard : link.stimulus act = .packet kind) :
    ∃ pkt, (link.party act.side).inbox = pkt :: (link.taken act).inbox ∧ pkt.type = kind := by
  cases act with
  | connect now fates => cases hheard
  | close x now fates => cases hheard
  | tick x fates => cases hheard
  | deliver x now fates =>
      show ∃ pkt, (link.party x).inbox = pkt :: (link.party x).inbox.tail ∧ pkt.type = kind
      rw [stimulus] at hheard
      cases hbox : (link.party x).inbox with
      | nil =>
          rw [hbox] at hheard
          cases hheard
      | cons pkt rest =>
          rw [hbox] at hheard
          exact ⟨pkt, rfl, Stimulus.packet.inj hheard⟩

/-- **The cases of a step**: what the machine that acts is called with. -/
theorem answer_cases (he : link.enabled act)
    {P : Output × SessionStateMachine → Stimulus → Prop}
    (hconnect : (link.party act.side).sent = [] →
      P ((link.party act.side).machine.connect (link.time act)) .call)
    (hclose : P ((link.party act.side).machine.close (link.time act)) .call)
    (htick : (link.party act.side).machine.idleExpired (link.time act) = false →
      ((link.party act.side).machine.timerDue (link.time act) = true →
        ∀ pkt ∈ (link.party act.side).machine.pendingCtrl, link.Settled act.side pkt) →
      P ((link.party act.side).machine.onTick (link.time act)) .tick)
    (hpacket : ∀ pkt ∈ (link.party act.side).inbox,
      P ((link.party act.side).machine.onPacket pkt (link.time act)) (.packet pkt.type)) :
    P (link.answer act) (link.stimulus act) := by
  obtain ⟨-, -, hidle, -, hguard⟩ := he
  cases act with
  | connect now fates => exact hconnect hguard
  | close x now fates => exact hclose
  | tick x fates => exact htick (hidle x) hguard
  | deliver x now fates =>
      rw [answer, stimulus]
      cases hbox : (link.party x).inbox with
      | nil => exact absurd hbox hguard
      | cons pkt rest => exact hpacket pkt (hbox ▸ List.mem_cons_self ..)

/-- A timer runs out only when the link has settled. -/
lemma settled_of_tick (he : link.enabled act) (htick : link.stimulus act = .tick)
    (hdue : (link.party act.side).machine.timerDue (link.time act) = true) :
    ∀ pkt ∈ (link.party act.side).machine.pendingCtrl, link.Settled act.side pkt := by
  obtain ⟨-, -, -, -, hguard⟩ := he
  cases act with
  | connect now fates => cases htick
  | close x now fates => cases htick
  | tick x fates => exact hguard hdue
  | deliver x now fates =>
      rw [stimulus] at htick
      cases hbox : (link.party x).inbox <;> simp [hbox] at htick

/-- As many packets of a type are transmitted as the machine's output holds. -/
lemma length_transmitted (he : link.enabled act) (kind : PacketType) :
    (fatesOf kind (link.transmitted act)).length = (link.answer act).1.transmits kind :=
  length_fatesOf_stamp _ he.2.2.2.1

/-- Where no packet of a type is in the output, none is transmitted. -/
lemma fatesOf_transmitted_eq_nil (he : link.enabled act)
    (h : ∀ pkt ∈ (link.answer act).1.packets, pkt.type ≠ kind) :
    fatesOf kind (link.transmitted act) = [] := by
  refine List.eq_nil_of_length_eq_zero ((length_transmitted he kind).trans ?_)
  exact List.countP_eq_zero.mpr fun pkt hp => by simpa using h pkt hp

lemma transmitted_eq_nil (h : (link.answer act).1.packets = []) : link.transmitted act = [] := by
  rw [transmitted, h]
  rfl

lemma transmitted_ne_nil (he : link.enabled act) (h : (link.answer act).1.packets ≠ []) :
    link.transmitted act ≠ [] := by
  obtain ⟨-, -, -, hlength, -⟩ := he
  intro hnil
  have hzero : (link.transmitted act).length = 0 := by rw [hnil]; rfl
  rw [transmitted, stamp, List.length_zipWith, hlength, Nat.min_self] at hzero
  exact h (List.eq_nil_of_length_eq_zero hzero)

/-- What is put on the link comes from the machine's output. -/
lemma mem_arrivals {pkt : Packet} (h : pkt ∈ arrivals (link.transmitted act)) :
    pkt ∈ (link.answer act).1.packets := by
  obtain ⟨t, ht, rfl⟩ := List.mem_map.mp h
  exact (mem_of_mem_stamp (List.mem_filter.mp ht).1).1

/-- What is on its way to the side that acts was on its way before, in the same order. -/
lemma inbox_taken_sublist (link : ControlLink) (act : LinkAction) :
    (link.taken act).inbox.Sublist (link.party act.side).inbox := by
  cases act with
  | connect now fates => exact List.Sublist.refl _
  | close x now fates => exact List.Sublist.refl _
  | tick x fates => exact List.Sublist.refl _
  | deliver x now fates => exact List.tail_sublist _

lemma mem_inbox_taken {pkt : Packet} (h : pkt ∈ (link.taken act).inbox) :
    pkt ∈ (link.party act.side).inbox :=
  (inbox_taken_sublist link act).subset h

/-- Every history continues. -/
lemma fates_prefix_next (kind : PacketType) (x : Side) :
    (link.party x).fates kind <+: ((link.next act).party x).fates kind := by
  rcases act.side.eq_or_eq_peer x with rfl | rfl
  · rw [fates_next_self]
    exact List.prefix_append _ _
  · rw [fates_next_peer]

/-- A bound on the losses holds of every earlier history. -/
lemma LossBounded.of_next {ask : PacketType} {j k : ℕ} (h : LossBounded ask j k (link.next act)) :
    LossBounded ask j k link := by
  intro x
  obtain ⟨hask, hreply⟩ := h x
  obtain ⟨rest, hrest⟩ : (link.party x).fates ask <+: ((link.next act).party x).fates ask :=
    fates_prefix_next ask x
  obtain ⟨rest', hrest'⟩ :
      (link.party x).fates ask.reply <+: ((link.next act).party x).fates ask.reply :=
    fates_prefix_next ask.reply x
  rw [← hrest] at hask
  rw [← hrest'] at hreply
  exact ⟨hask.append_left, hreply.append_left⟩

/-! ## Time

The clock and the timers of both sides, as far as all results need them.
-/

open SessionStateMachine

lemma answer_frame (link : ControlLink) (act : LinkAction) :
    (link.answer act).2.config = (link.party act.side).machine.config ∧
    (link.party act.side).machine.TimerStep (link.answer act).2 (link.time act) := by
  cases act with
  | connect now fates => exact apply_frame _ (.connect now)
  | close x now fates => exact apply_frame _ (.close now)
  | tick x fates => exact apply_frame _ (.tick _)
  | deliver x now fates =>
      show (link.answer (.deliver x now fates)).2.config = (link.party x).machine.config ∧
        (link.party x).machine.TimerStep (link.answer (.deliver x now fates)).2 now
      rw [answer]
      cases (link.party x).inbox with
      | nil => exact ⟨rfl, Or.inr (Or.inr ⟨rfl, rfl⟩)⟩
      | cons pkt rest => exact apply_frame _ (.packet pkt now)

/-- No step changes the parameters of a machine. -/
lemma config_next (x : Side) :
    ((link.next act).party x).machine.config = (link.party x).machine.config := by
  rcases act.side.eq_or_eq_peer x with rfl | rfl
  · rw [machine_next_self]
    exact (answer_frame link act).1
  · rw [machine_next_peer]

/-- Ticks come every `rto`, and what is pending was sent at most two of them ago. -/
structure OnTime (rto : ℚ) (link : ControlLink) : Prop where
  controlRto : ∀ x, (link.party x).machine.controlRto = rto
  ahead : ∀ x, link.clock ≤ (link.party x).nextTick
  near : ∀ x, (link.party x).nextTick ≤ link.clock + rto
  timer : ∀ x, (link.party x).machine.pendingCtrl ≠ none →
    (link.party x).nextTick ≤ (link.party x).machine.pendingCtrlSince + 2 * rto

variable {rto : ℚ}

/-- One more retransmission fits. -/
lemma retransmission_le {n N : ℕ} (hrto : 0 < rto) (h : n + 1 ≤ N) :
    2 * rto * n + 2 * rto ≤ 2 * rto * N := by
  have hcast : (n : ℚ) + 1 ≤ N := by exact_mod_cast h
  calc 2 * rto * n + 2 * rto = 2 * rto * (n + 1) := by ring
    _ ≤ 2 * rto * N := mul_le_mul_of_nonneg_left hcast (by linarith)

lemma nextTick_taken (h : link.OnTime rto) (hrto : 0 < rto) (he : link.enabled act) :
    link.time act ≤ (link.taken act).nextTick ∧
      (link.taken act).nextTick ≤ link.time act + rto := by
  obtain ⟨hclock, hahead, -, -, -⟩ := he
  have hnear := h.near act.side
  have hside := hahead act.side
  cases act with
  | tick x fates =>
      show (link.party x).nextTick ≤ (link.party x).nextTick + (link.party x).machine.controlRto ∧
        (link.party x).nextTick + (link.party x).machine.controlRto ≤ (link.party x).nextTick + rto
      rw [h.controlRto x]
      exact ⟨by linarith, le_rfl⟩
  | connect now fates => exact ⟨hside, hnear.trans (by linarith)⟩
  | close x now fates => exact ⟨hside, hnear.trans (by linarith)⟩
  | deliver x now fates => exact ⟨hside, hnear.trans (by linarith)⟩

lemma timer_taken (h : link.OnTime rto) (hrto : 0 < rto) (he : link.enabled act)
    (hpending : (link.answer act).2.pendingCtrl ≠ none) :
    (link.taken act).nextTick ≤ (link.answer act).2.pendingCtrlSince + 2 * rto := by
  have hnear := (nextTick_taken h hrto he).2
  obtain ⟨-, hnone | hnow | ⟨hsame, hsince⟩⟩ := answer_frame link act
  · exact absurd hnone hpending
  · rw [hnow]
    linarith
  · cases act with
    | tick x fates =>
        have hfresh := onTick_timer (by rw [h.controlRto x]; exact hrto) hpending
        rw [h.controlRto x] at hfresh
        replace hfresh : link.time (.tick x fates)
          - (link.answer (.tick x fates)).2.pendingCtrlSince < rto := hfresh
        linarith
    | connect now fates =>
        rw [hsince]
        exact h.timer _ (hsame ▸ hpending)
    | close x now fates =>
        rw [hsince]
        exact h.timer _ (hsame ▸ hpending)
    | deliver x now fates =>
        rw [hsince]
        exact h.timer _ (hsame ▸ hpending)

/-- **A step of a link that is on time.** -/
theorem OnTime.next (h : link.OnTime rto) (hrto : 0 < rto) (he : link.enabled act) :
    (link.next act).OnTime rto := by
  have hclock : link.clock ≤ link.time act := he.1
  have hahead := he.2.1
  refine ⟨?_, ?_, ?_, ?_⟩
  · intro x
    exact (congrArg Config.controlRto (config_next x)).trans (h.controlRto x)
  · rw [clock_next]
    refine act.side.forall_of ?_ ?_
    · rw [next_self]
      exact (nextTick_taken h hrto he).1
    · rw [next_peer]
      exact hahead _
  · rw [clock_next]
    refine act.side.forall_of ?_ ?_
    · rw [next_self]
      exact (nextTick_taken h hrto he).2
    · rw [next_peer]
      exact (h.near _).trans (by linarith)
  · refine act.side.forall_of ?_ ?_
    · rw [next_self]
      exact timer_taken h hrto he
    · rw [next_peer]
      exact h.timer _

end ControlLink

end PhotonTCP
