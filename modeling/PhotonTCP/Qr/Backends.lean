import PhotonTCP.Foundation.Dict
import PhotonTCP.Foundation.Threads
import PhotonTCP.Packet.Types

/-!
# The decoder backends

Every decode looks its backend up: the one that is selected, or the first of those registered whose
factory has one.  Any number of threads decode, register, select and reset, while the environment
changes; every read and write of the shared state is a step of its own.

That OpenCV is missing is remembered until a reset, and that it is there is not.

* `Platform` — what a factory and a backend can do; a factory may depend on the environment.
* `Registry`, `Stage`, `Registry.resume` — the registry, and the threads at work on it.
* `Lookup.Right`, `Backends.choice` — what a look-up should find.
* `Registry.Sound`, `Stage.Sound` — the invariant.
* **`lookup_right`** — under every interleaving it finds that.

A look-up takes many steps, and the registry may be another at each of them.  So it cannot be said
to find the backend of any one moment.  What it finds is explained by the moments that it has gone
through: there was one at which these were the candidates, each candidate that was passed over had
nothing at some moment, and the one that was found was offered at some moment.  If nothing has
changed meanwhile, all the moments are the same and the explanation is an answer, namely the backend
that the registry chooses.

The flag for a missing OpenCV is the reason for one more condition.  Only a failure is remembered,
so the flag can be wrong in one way: OpenCV has come back, and the process has not said so.

Whether a backend is given a detector is decided by its signature, which is inspected once for each
backend.  `TakesDetector` says what this amounts to, and a look-up is right only if its backend was
called accordingly.
-/

namespace PhotonTCP.Qr

/-! ## Factories and backends

Everything that is code of the platform: what it has of OpenCV, what a factory returns, what a
backend decodes, and what can be read of its signature.
-/

/-- A parameter of a signature. -/
structure Param where
  name : String
  varKeyword : Bool

/-- What a factory returns. -/
inductive Product (B : Type) where
  | nothing
  | notCallable
  | backend (b : B)

/-- The factory of OpenCV, or one that the environment decides on. -/
inductive Factory (Env B : Type) where
  | cv2BackendFactory
  | other (call : Env → Except String (Product B))

/-- The detectors beside the primary one. -/
inductive AltKind where
  | wechat
  | aruco
deriving DecidableEq

/-- What the environment has of OpenCV, and the backends: `run` is a call with or without a
detector, which may raise. -/
structure Platform (Env B Image Det : Type) where
  importsCv2 : Env → Bool
  constructs : Env → AltKind → Bool
  cv2Decode : B
  signature : B → Except String (List Param)
  hashable : B → Bool
  run : B → Env → Image → Option Det → Except String (Option Bytes)

section Factories

variable {Env B Image Det : Type} (P : Platform Env B Image Det)

/-- `_accepts_detector`. -/
def Platform.acceptsDetector (backend : B) : Bool :=
  match P.signature backend with
  | .error _ => false
  | .ok params => params.any (fun p => p.name = "detector") || params.any Param.varKeyword

/-- The backend that a factory has in an environment. -/
def Factory.provides (env : Env) : Factory Env B → Option B
  | .cv2BackendFactory => if P.importsCv2 env then some P.cv2Decode else none
  | .other call =>
      match call env with
      | .ok (.backend b) => some b
      | _ => none

/-- `_resolve_alt_kind`, once OpenCV is imported. -/
def Platform.resolveAltKind (env : Env) : Option AltKind :=
  if P.constructs env .wechat then some .wechat
  else if P.constructs env .aruco then some .aruco
  else none

end Factories

/-! ## The registry

The module-level variables of the source, each of which is read and written in steps of its own.
Besides them there is a record of what has happened, which no step looks at.
-/

/-- What decides which backend is used. -/
structure Backends (Env B : Type) where
  env : Env
  factories : Dict String (Factory Env B)
  selected : Option String := none
  cv2Missing : Bool := false

/-- What a look-up is for: `active_decoder_backend` or `decode_frame`. -/
inductive Purpose (Image Det : Type) where
  | report
  | decode (image : Image) (detector : Option Det)

/-- A look-up that has ended: what it was for, what there was meanwhile, the backend found with its
name and whether it accepts a detector, the environment in which `decode_frame` has called it, and
what was decoded. -/
structure Lookup (Env B Image Det : Type) where
  purpose : Purpose Image Det
  moments : List (Backends Env B)
  result : Option (String × B × Bool)
  env : Env
  decoded : Option Bytes

/-- What the functions raise. -/
inductive RegistryError where
  /-- `backend name must be a non-empty str` -/
  | emptyName
  /-- `unknown decoder backend: {name!r}` -/
  | unknownBackend (name : String)
deriving DecidableEq

/-- The shared state.  `altKind` is `none` while it is not resolved.  `moments` is what there was
before every step, `probes` and `resets` count the times that `altKind` was resolved and forgotten,
and `altKinds` are those that were returned. -/
structure Registry (Env B Image Det : Type) extends Backends Env B where
  acceptsDetector : Dict B Bool := .empty
  altKind : Option (Option AltKind) := none
  altKindLock : Bool := false
  moments : List (Backends Env B) := []
  lookups : List (Lookup Env B Image Det) := []
  raised : List RegistryError := []
  altKinds : List (Option (Option AltKind)) := []
  probes : ℕ := 0
  resets : ℕ := 0

/-- A look-up under way, with the number of the step in which it began. -/
structure Search (Image Det : Type) where
  purpose : Purpose Image Det
  since : ℕ
  tried : List String := []
  rest : List String := []

/-- Who asks for OpenCV: a look-up at its factory, or the probe of the alternate detectors. -/
inductive Asker (Image Det : Type) where
  | lookup (s : Search Image Det) (name : String)
  | alt

/-- The public functions, and `_alt_kind_cached`. -/
inductive Request (Env B Image Det : Type) where
  | activeDecoderBackend
  | decodeFrame (image : Option Image) (detector : Option Det)
  | registerDecoderBackend (name : String) (factory : Factory Env B)
  | setDecoderBackend (name : Option String)
  | resetDecoderBackendProbe
  | altKindCached

/-- Where a thread is. -/
inductive Stage (Env B Image Det : Type) where
  | idle
  | selecting (purpose : Purpose Image Det) (since : ℕ)
  | listing (purpose : Purpose Image Det) (since : ℕ)
  | looking (s : Search Image Det) (name : String)
  | calling (s : Search Image Det) (name : String) (factory : Factory Env B)
  | requiring (asker : Asker Image Det)
  | importing (asker : Asker Image Det)
  | marking (asker : Asker Image Det)
  | recalling (s : Search Image Det) (name : String) (backend : B)
  | inspecting (s : Search Image Det) (name : String) (backend : B)
  | found (s : Search Image Det) (result : Option (String × B × Bool))
  | registering (name : String) (factory : Factory Env B)
  | setting (name : Option String)
  | pinning (name : Option String)
  | resetting
  | forgetting
  | clearing
  | checkingAlt
  | waitingAlt
  | lockedAlt
  | constructing
  | storing (kind : Option AltKind)
  | releasing (returning : Bool)
  | returningAlt

section Steps

variable {Env B Image Det : Type} [DecidableEq B] (P : Platform Env B Image Det)

/-- The next candidate, if there is one. -/
def Search.next (s : Search Image Det) : Stage Env B Image Det :=
  match s.rest with
  | [] => .found s none
  | name :: rest => .looking { s with rest } name

/-- A candidate has no backend. -/
def Search.skip (s : Search Image Det) (name : String) : Stage Env B Image Det :=
  Search.next { s with tried := s.tried ++ [name] }

/-- What is done without OpenCV. -/
def Asker.absent : Asker Image Det → Stage Env B Image Det
  | .lookup s name => s.skip name
  | .alt => .storing none

/-- What is done with OpenCV. -/
def Asker.present : Asker Image Det → Stage Env B Image Det
  | .lookup s name => .recalling s name P.cv2Decode
  | .alt => .constructing

/-- What `decode_frame` returns of a look-up; nothing is raised. -/
def Platform.decoded (env : Env) : Purpose Image Det → Option (String × B × Bool) → Option Bytes
  | .decode image detector, some (_, backend, accepts) =>
      match P.run backend env image (if accepts then detector else none) with
      | .ok data => data
      | .error _ => none
  | _, _ => none

namespace Registry

/-- A call up to its first access to the shared state, or until it raises. -/
def begin (reg : Registry Env B Image Det) :
    Request Env B Image Det → Stage Env B Image Det × Registry Env B Image Det
  | .activeDecoderBackend => (.selecting .report reg.moments.length, reg)
  | .decodeFrame none _ => (.idle, reg)
  | .decodeFrame (some image) detector => (.selecting (.decode image detector) reg.moments.length, reg)
  | .registerDecoderBackend name factory =>
      if name = "" then (.idle, { reg with raised := reg.raised ++ [.emptyName] })
      else (.registering name factory, reg)
  | .setDecoderBackend name => (.setting name, reg)
  | .resetDecoderBackendProbe => (.resetting, reg)
  | .altKindCached => (.checkingAlt, reg)

/-- The next step of a thread, unless it has to wait. -/
def resume (reg : Registry Env B Image Det) :
    Stage Env B Image Det → Option (Stage Env B Image Det × Registry Env B Image Det)
  | .idle => none
  -- `_resolve_backend` and `_resolve_one`
  | .selecting purpose since =>
      match reg.selected with
      | some name => some (.looking { purpose, since } name, reg)
      | none => some (.listing purpose since, reg)
  | .listing purpose since =>
      some (Search.next { purpose, since, rest := reg.factories.keys }, reg)
  | .looking s name =>
      match reg.factories.get? name with
      | some factory => some (.calling s name factory, reg)
      | none => some (s.skip name, reg)
  | .calling s name .cv2BackendFactory => some (.requiring (.lookup s name), reg)
  | .calling s name (.other call) =>
      match (Factory.other call).provides P reg.env with
      | some backend => some (.recalling s name backend, reg)
      | none => some (s.skip name, reg)
  -- `_require_cv2`
  | .requiring asker => some (if reg.cv2Missing then asker.absent else .importing asker, reg)
  | .importing asker =>
      some (if P.importsCv2 reg.env then asker.present P else .marking asker, reg)
  | .marking asker => some (asker.absent, { reg with cv2Missing := true })
  | .recalling s name backend =>
      match if P.hashable backend then reg.acceptsDetector.get? backend else none with
      | some accepts => some (.found s (some (name, backend, accepts)), reg)
      | none => some (.inspecting s name backend, reg)
  | .inspecting s name backend =>
      let accepts := P.acceptsDetector backend
      some (.found s (some (name, backend, accepts)),
        if P.hashable backend then
          { reg with acceptsDetector := reg.acceptsDetector.set backend accepts }
        else reg)
  | .found s result =>
      some (.idle, { reg with lookups := reg.lookups ++
        [⟨s.purpose, reg.moments.drop s.since, result, reg.env,
          P.decoded reg.env s.purpose result⟩] })
  -- `register_decoder_backend` and `set_decoder_backend`
  | .registering name factory =>
      some (.resetting, { reg with factories := reg.factories.set name factory })
  | .setting none => some (.pinning none, reg)
  | .setting (some name) =>
      if name ∈ reg.factories.keys then some (.pinning (some name), reg)
      else some (.idle, { reg with raised := reg.raised ++ [.unknownBackend name] })
  | .pinning name => some (.resetting, { reg with selected := name })
  -- `reset_decoder_backend_probe`
  | .resetting => some (.forgetting, { reg with cv2Missing := false })
  | .forgetting =>
      if reg.altKindLock then none else some (.clearing, { reg with altKindLock := true })
  | .clearing => some (.releasing false, { reg with altKind := none, resets := reg.resets + 1 })
  -- `_alt_kind_cached`
  | .checkingAlt => some (if reg.altKind.isNone then .waitingAlt else .returningAlt, reg)
  | .waitingAlt =>
      if reg.altKindLock then none else some (.lockedAlt, { reg with altKindLock := true })
  | .lockedAlt =>
      if reg.altKind.isNone then some (.requiring .alt, { reg with probes := reg.probes + 1 })
      else some (.releasing true, reg)
  | .constructing => some (.storing (P.resolveAltKind reg.env), reg)
  | .storing kind => some (.releasing true, { reg with altKind := some kind })
  | .releasing returning =>
      some (if returning then .returningAlt else .idle, { reg with altKindLock := false })
  | .returningAlt => some (.idle, { reg with altKinds := reg.altKinds ++ [reg.altKind] })

/-- The step is noted. -/
def noting (reg reg' : Registry Env B Image Det) : Registry Env B Image Det :=
  { reg' with moments := reg.moments ++ [reg.toBackends] }

end Registry

/-- A thread outside of these functions calls one, or changes the environment; within them it goes
on. -/
inductive RegistryAction (Env B Image Det : Type) where
  | call (request : Request Env B Image Det)
  | environment (env : Env)
  | resume

namespace Registry

/-- One step of a thread; nothing if it has to wait. -/
def step (_ : ℕ) (stage : Stage Env B Image Det) (act : RegistryAction Env B Image Det)
    (reg : Registry Env B Image Det) : Option (Stage Env B Image Det × Registry Env B Image Det) :=
  match stage, act with
  | .idle, .call request => some ((reg.begin request).map id reg.noting)
  | .idle, .environment env => some (.idle, reg.noting { reg with env })
  | stage, .resume => (reg.resume P stage).map (Prod.map id reg.noting)
  | _, _ => none

/-- The threads over a registry. -/
abbrev system := Threads.system (ι := ℕ) (step P)

/-- What a process begins with. -/
def new (env : Env) : Threads ℕ (Registry Env B Image Det) (Stage Env B Image Det) where
  shared := { env, factories := Dict.empty.set "cv2" .cv2BackendFactory }
  stage _ := .idle

end Registry

end Steps

/-! ## What a look-up should find

Stated about the moments of the look-up, and about nothing inside it.
-/

section Right

variable {Env B Image Det : Type} (P : Platform Env B Image Det)

/-- The names that are tried: the one that was selected, or all in the order of their registration.
-/
def Candidates (ms : List (Backends Env B)) (names : List String) : Prop :=
  (∃ name, names = [name] ∧ ∃ m ∈ ms, m.selected = some name) ∨
  (∃ m ∈ ms, m.selected = none) ∧ ∃ m ∈ ms, m.factories.keys = names

/-- A name was not registered, or its factory had nothing, or OpenCV was thought to be missing. -/
def Lacks (ms : List (Backends Env B)) (name : String) : Prop :=
  (∃ m ∈ ms, m.factories.get? name = none) ∨
  ∃ factory, (∃ m ∈ ms, m.factories.get? name = some factory) ∧
    ((∃ m ∈ ms, factory.provides P m.env = none) ∨
      factory = .cv2BackendFactory ∧ ∃ m ∈ ms, m.cv2Missing = true)

/-- A name was registered, and its factory had this backend. -/
def Offers (ms : List (Backends Env B)) (name : String) (backend : B) : Prop :=
  ∃ factory, (∃ m ∈ ms, m.factories.get? name = some factory) ∧
    ∃ m ∈ ms, factory.provides P m.env = some backend

/-- The signature of a backend takes a detector: it can be read, and names one or takes any keyword.
-/
def Platform.TakesDetector (backend : B) : Prop :=
  ∃ params, P.signature backend = .ok params ∧ ∃ p ∈ params, p.name = "detector" ∨ p.varKeyword = true

lemma Platform.acceptsDetector_iff (backend : B) :
    P.acceptsDetector backend = true ↔ P.TakesDetector backend := by
  rw [Platform.acceptsDetector, Platform.TakesDetector]
  cases P.signature backend with
  | error e => simp
  | ok params => simp [List.any_eq_true, and_or_left, exists_or]

/-- What a call of a backend decodes; what raises decodes to nothing. -/
def Platform.called (env : Env) (backend : B) (image : Image) (detector : Option Det) : Option Bytes :=
  (P.run backend env image detector).toOption.join

/-- The backend is called with the detector if it accepts one. -/
lemma Platform.decoded_eq_called (env : Env) (image : Image) (detector : Option Det) (name : String)
    (backend : B) (accepts : Bool) :
    P.decoded env (.decode image detector) (some (name, backend, accepts)) =
      P.called env backend image (if accepts then detector else none) := by
  rw [Platform.decoded, Platform.called]
  cases P.run backend env image (if accepts then detector else none) with
  | error e => rfl
  | ok data => rfl

/-- The first candidate whose factory had a backend, each at some moment of the look-up; and to
decode an image it is called with the detector if its signature takes one, and without if it does
not. -/
structure Lookup.Right (l : Lookup Env B Image Det) : Prop where
  missed : l.result = none → ∃ names, Candidates l.moments names ∧ ∀ n ∈ names, Lacks P l.moments n
  found : ∀ name backend accepts, l.result = some (name, backend, accepts) →
    accepts = P.acceptsDetector backend ∧ Offers P l.moments name backend ∧
      ∃ tried rest, Candidates l.moments (tried ++ name :: rest) ∧ ∀ n ∈ tried, Lacks P l.moments n
  undecoded : l.result = none ∨ l.purpose = .report → l.decoded = none
  withDetector : ∀ image detector name backend accepts, l.purpose = .decode image detector →
    l.result = some (name, backend, accepts) → P.TakesDetector backend →
      l.decoded = P.called l.env backend image detector
  withoutDetector : ∀ image detector name backend accepts, l.purpose = .decode image detector →
    l.result = some (name, backend, accepts) → ¬ P.TakesDetector backend →
      l.decoded = P.called l.env backend image none

/-- The backend to be found in a registry: the one that is selected, or the first that there is. -/
def Backends.choice (m : Backends Env B) : Option (String × B × Bool) :=
  (match m.selected with
    | some name => [name]
    | none => m.factories.keys).findSome? fun name =>
      ((m.factories.get? name).bind (Factory.provides P m.env)).map fun backend =>
        (name, backend, P.acceptsDetector backend)

section Steady

variable {P} {ms : List (Backends Env B)} {m₀ : Backends Env B}

/-- Nothing but the flag changes, and if OpenCV is thought to be missing it is.  The flag is
forgotten at a reset only, so without this an OpenCV that has come back would not be chosen. -/
def Steady (P : Platform Env B Image Det) (ms : List (Backends Env B)) (m₀ : Backends Env B) : Prop :=
  ∀ m ∈ ms, m.env = m₀.env ∧ m.factories = m₀.factories ∧ m.selected = m₀.selected ∧
    (m.cv2Missing = true → P.importsCv2 m₀.env = false)

lemma Steady.lacks (h : Steady P ms m₀) {name : String} (hlacks : Lacks P ms name) :
    (m₀.factories.get? name).bind (Factory.provides P m₀.env) = none := by
  rcases hlacks with ⟨m, hm, hnone⟩ | ⟨factory, ⟨m, hm, hget⟩, hrefuses⟩
  · rw [← (h m hm).2.1, hnone, Option.bind_none]
  · rw [← (h m hm).2.1, hget, Option.bind_some]
    rcases hrefuses with ⟨m', hm', hnone⟩ | ⟨rfl, m', hm', hmissing⟩
    · rwa [(h m' hm').1] at hnone
    · rw [Factory.provides, (h m' hm').2.2.2 hmissing]
      rfl

lemma Steady.offers (h : Steady P ms m₀) {name : String} {backend : B}
    (hoffers : Offers P ms name backend) :
    (m₀.factories.get? name).bind (Factory.provides P m₀.env) = some backend := by
  obtain ⟨factory, ⟨m, hm, hget⟩, m', hm', hprovides⟩ := hoffers
  rw [← (h m hm).2.1, hget, Option.bind_some, ← (h m' hm').1, hprovides]

lemma Steady.candidates (h : Steady P ms m₀) {names : List String} (hnames : Candidates ms names) :
    (match m₀.selected with
      | some name => [name]
      | none => m₀.factories.keys) = names := by
  rcases hnames with ⟨name, rfl, m, hm, hselected⟩ | ⟨⟨m, hm, hselected⟩, m', hm', hkeys⟩
  · rw [← (h m hm).2.2.1, hselected]
  · rw [← (h m hm).2.2.1, hselected, ← (h m' hm').2.1, hkeys]

/-- **If nothing changes during the look-up, it is the choice that is found.** -/
theorem Lookup.Right.eq_choice {l : Lookup Env B Image Det} (h : l.Right P)
    (hsteady : Steady P l.moments m₀) :
    l.result = m₀.choice P := by
  rw [Backends.choice]
  cases hresult : l.result with
  | none =>
      obtain ⟨names, hnames, hlacks⟩ := h.missed hresult
      rw [hsteady.candidates hnames, eq_comm, List.findSome?_eq_none_iff]
      intro n hn
      rw [hsteady.lacks (hlacks n hn), Option.map_none]
  | some found =>
      obtain ⟨name, backend, accepts⟩ := found
      obtain ⟨rfl, hoffers, tried, rest, hnames, hlacks⟩ := h.found name backend accepts hresult
      rw [hsteady.candidates hnames, List.findSome?_append, List.findSome?_cons,
        hsteady.offers hoffers, Option.map_some]
      have htried : tried.findSome? (fun name =>
          ((m₀.factories.get? name).bind (Factory.provides P m₀.env)).map fun backend =>
            (name, backend, P.acceptsDetector backend)) = none := by
        rw [List.findSome?_eq_none_iff]
        intro n hn
        rw [hsteady.lacks (hlacks n hn), Option.map_none]
      rw [htried, Option.none_or]

end Steady

end Right

/-! ## The invariant

A thread in a look-up knows which candidates it has tried, and why it was right to pass each of them
over.  What it knows is about the past and stays true.  There is a lemma for each stage.
-/

section Invariant

variable {Env B Image Det : Type} {P : Platform Env B Image Det}

section Monotone

variable {ms ms' : List (Backends Env B)} {names : List String} {name : String} {backend : B}

lemma Candidates.mono (hms : ms ⊆ ms') (h : Candidates ms names) : Candidates ms' names := by
  rcases h with ⟨name, rfl, m, hm, hselected⟩ | ⟨⟨m, hm, hselected⟩, m', hm', hkeys⟩
  · exact .inl ⟨name, rfl, m, hms hm, hselected⟩
  · exact .inr ⟨⟨m, hms hm, hselected⟩, m', hms hm', hkeys⟩

lemma Lacks.mono (hms : ms ⊆ ms') (h : Lacks P ms name) : Lacks P ms' name := by
  rcases h with ⟨m, hm, hnone⟩ | ⟨factory, ⟨m, hm, hget⟩, ⟨m', hm', hnone⟩ | ⟨hcv2, m', hm', hmissing⟩⟩
  · exact .inl ⟨m, hms hm, hnone⟩
  · exact .inr ⟨factory, ⟨m, hms hm, hget⟩, .inl ⟨m', hms hm', hnone⟩⟩
  · exact .inr ⟨factory, ⟨m, hms hm, hget⟩, .inr ⟨hcv2, m', hms hm', hmissing⟩⟩

lemma Offers.mono (hms : ms ⊆ ms') (h : Offers P ms name backend) : Offers P ms' name backend := by
  obtain ⟨factory, ⟨m, hm, hget⟩, m', hm', hprovides⟩ := h
  exact ⟨factory, ⟨m, hms hm, hget⟩, m', hms hm', hprovides⟩

end Monotone

/-- What a look-up knows: these names are left of the candidates, and those before had nothing. -/
structure Search.Sound (P : Platform Env B Image Det) (reg : Registry Env B Image Det)
    (s : Search Image Det) (names : List String) : Prop where
  began : s.since ≤ reg.moments.length
  candidates : Candidates (reg.moments.drop s.since) (s.tried ++ names)
  lacks : ∀ n ∈ s.tried, Lacks P (reg.moments.drop s.since) n

/-- It is registered, and has been called. -/
def Search.Called (reg : Registry Env B Image Det) (s : Search Image Det) (name : String)
    (factory : Factory Env B) : Prop :=
  ∃ m ∈ reg.moments.drop s.since, m.factories.get? name = some factory

/-- What is known where OpenCV is asked for. -/
def Asker.Sound (P : Platform Env B Image Det) (reg : Registry Env B Image Det) : Asker Image Det → Prop
  | .lookup s name => s.Sound P reg (name :: s.rest) ∧ s.Called reg name .cv2BackendFactory
  | .alt => True

/-- When its look-up began. -/
def Asker.since : Asker Image Det → ℕ
  | .lookup s _ => s.since
  | .alt => 0

/-- What a thread knows of the registry. -/
def Stage.Sound (P : Platform Env B Image Det) (reg : Registry Env B Image Det) :
    Stage Env B Image Det → Prop
  | .selecting _ since => since ≤ reg.moments.length
  | .listing _ since => since ≤ reg.moments.length ∧ ∃ m ∈ reg.moments.drop since, m.selected = none
  | .looking s name => s.Sound P reg (name :: s.rest)
  | .calling s name factory => s.Sound P reg (name :: s.rest) ∧ s.Called reg name factory
  | .requiring asker | .importing asker => asker.Sound P reg
  | .marking asker => asker.Sound P reg ∧
      ∃ m ∈ reg.moments.drop asker.since, P.importsCv2 m.env = false
  | .recalling s name backend | .inspecting s name backend =>
      s.Sound P reg (name :: s.rest) ∧ Offers P (reg.moments.drop s.since) name backend
  | .found s none => s.Sound P reg []
  | .found s (some (name, backend, accepts)) => s.Sound P reg (name :: s.rest) ∧
      Offers P (reg.moments.drop s.since) name backend ∧ accepts = P.acceptsDetector backend
  | .pinning (some name) => name ∈ reg.factories.keys
  | _ => True

/-- What holds of the registry itself. -/
structure Registry.Sound (P : Platform Env B Image Det) [DecidableEq B]
    (reg : Registry Env B Image Det) : Prop where
  pinned : ∀ name, reg.selected = some name → name ∈ reg.factories.keys
  missing : reg.cv2Missing = true → ∃ m ∈ reg.moments, P.importsCv2 m.env = false
  recalled : ∀ b accepts, reg.acceptsDetector.get? b = some accepts → accepts = P.acceptsDetector b
  right : ∀ l ∈ reg.lookups, l.Right P

/-- One step later. -/
structure Registry.Later (reg reg' : Registry Env B Image Det) : Prop where
  moments : reg'.moments = reg.moments ++ [reg.toBackends]
  keys : reg.factories.keys ⊆ reg'.factories.keys

variable {reg reg' r : Registry Env B Image Det} {s : Search Image Det} {names : List String}
  {name : String}

namespace Registry.Later

lemma same (reg : Registry Env B Image Det) : reg.Later (reg.noting reg) := ⟨rfl, List.Subset.refl _⟩

lemma length_le (h : reg.Later reg') {n : ℕ} (hn : n ≤ reg.moments.length) :
    n ≤ reg'.moments.length := by
  rw [h.moments, List.length_append]
  omega

lemma drop_eq (h : reg.Later reg') {n : ℕ} (hn : n ≤ reg.moments.length) :
    reg'.moments.drop n = reg.moments.drop n ++ [reg.toBackends] := by
  rw [h.moments, List.drop_append_of_le_length hn]

lemma subset (h : reg.Later reg') {n : ℕ} (hn : n ≤ reg.moments.length) :
    reg.moments.drop n ⊆ reg'.moments.drop n := by
  rw [h.drop_eq hn]
  exact List.subset_append_left _ _

/-- What there was before the step. -/
lemma now (h : reg.Later reg') {n : ℕ} (hn : n ≤ reg.moments.length) :
    reg.toBackends ∈ reg'.moments.drop n := by
  rw [h.drop_eq hn]
  exact List.mem_append_right _ (List.mem_singleton_self _)

end Registry.Later

namespace Search.Sound

lemma mono (h : s.Sound P reg names) (hlater : reg.Later reg') : s.Sound P reg' names where
  began := hlater.length_le h.began
  candidates := h.candidates.mono (hlater.subset h.began)
  lacks n hn := (h.lacks n hn).mono (hlater.subset h.began)

lemma next (h : s.Sound P reg s.rest) : (Search.next s : Stage Env B Image Det).Sound P reg := by
  rw [Search.next]
  obtain ⟨hbegan, hcandidates, hlacks⟩ := h
  cases hrest : s.rest with
  | nil => exact ⟨hbegan, hrest ▸ hcandidates, hlacks⟩
  | cons name rest => exact ⟨hbegan, hrest ▸ hcandidates, hlacks⟩

lemma skip (h : s.Sound P reg (name :: s.rest)) (hlacks : Lacks P (reg.moments.drop s.since) name) :
    (s.skip name : Stage Env B Image Det).Sound P reg := by
  refine Search.Sound.next ⟨h.began, ?_, ?_⟩
  · simpa using h.candidates
  · intro n hn
    rcases List.mem_append.mp hn with hn | hn
    · exact h.lacks n hn
    · rw [List.mem_singleton.mp hn]
      exact hlacks

lemma called_mono (h : s.Sound P reg names) (hlater : reg.Later reg') {factory : Factory Env B}
    (hcalled : s.Called reg name factory) : s.Called reg' name factory := by
  obtain ⟨m, hm, hget⟩ := hcalled
  exact ⟨m, hlater.subset h.began hm, hget⟩

end Search.Sound

lemma Asker.Sound.mono {asker : Asker Image Det} (h : asker.Sound P reg) (hlater : reg.Later reg') :
    asker.Sound P reg' := by
  cases asker with
  | lookup s name => exact ⟨h.1.mono hlater, h.1.called_mono hlater h.2⟩
  | alt => trivial

lemma Asker.Sound.since_le {asker : Asker Image Det} (h : asker.Sound P reg) :
    asker.since ≤ reg.moments.length := by
  cases asker with
  | lookup s name => exact h.1.began
  | alt => exact Nat.zero_le _

/-- What a thread knows stays true while the others take their steps. -/
lemma Stage.Sound.mono {stage : Stage Env B Image Det} (h : stage.Sound P reg)
    (hlater : reg.Later reg') : stage.Sound P reg' := by
  cases stage with
  | selecting purpose since => exact hlater.length_le h
  | listing purpose since =>
      obtain ⟨hsince, m, hm, hselected⟩ := h
      exact ⟨hlater.length_le hsince, m, hlater.subset hsince hm, hselected⟩
  | looking s name => exact Search.Sound.mono h hlater
  | calling s name factory => exact ⟨h.1.mono hlater, h.1.called_mono hlater h.2⟩
  | requiring asker => exact Asker.Sound.mono h hlater
  | importing asker => exact Asker.Sound.mono h hlater
  | marking asker =>
      obtain ⟨hasker, m, hm, habsent⟩ := h
      exact ⟨hasker.mono hlater, m, hlater.subset hasker.since_le hm, habsent⟩
  | recalling s name backend => exact ⟨h.1.mono hlater, h.2.mono (hlater.subset h.1.began)⟩
  | inspecting s name backend => exact ⟨h.1.mono hlater, h.2.mono (hlater.subset h.1.began)⟩
  | found s result =>
      cases result with
      | none => exact Search.Sound.mono h hlater
      | some found =>
          obtain ⟨hs, hoffers, haccepts⟩ := h
          exact ⟨hs.mono hlater, hoffers.mono (hlater.subset hs.began), haccepts⟩
  | pinning name =>
      cases name with
      | none => trivial
      | some name => exact hlater.keys h
  | _ => trivial

/-- An asker goes on without OpenCV. -/
lemma Asker.Sound.absent {asker : Asker Image Det} (h : asker.Sound P reg)
    (hmissing : (∃ m ∈ reg.moments.drop asker.since, P.importsCv2 m.env = false) ∨
      ∃ m ∈ reg.moments.drop asker.since, m.cv2Missing = true) :
    (asker.absent : Stage Env B Image Det).Sound P reg := by
  cases asker with
  | alt => trivial
  | lookup s name =>
      obtain ⟨hs, hcalled⟩ := h
      refine hs.skip (.inr ⟨_, hcalled, ?_⟩)
      rcases hmissing with ⟨m, hm, habsent⟩ | hflag
      · exact .inl ⟨m, hm, by rw [Factory.provides, habsent]; rfl⟩
      · exact .inr ⟨rfl, hflag⟩

/-- An asker goes on with OpenCV. -/
lemma Asker.Sound.present {asker : Asker Image Det} (h : asker.Sound P reg)
    (himports : ∃ m ∈ reg.moments.drop asker.since, P.importsCv2 m.env = true) :
    (asker.present P : Stage Env B Image Det).Sound P reg := by
  cases asker with
  | alt => trivial
  | lookup s name =>
      obtain ⟨hs, hcalled⟩ := h
      obtain ⟨m, hm, himports⟩ := himports
      exact ⟨hs, _, hcalled, m, hm, by rw [Factory.provides, himports]; rfl⟩

/-- **A look-up that ends** has found what it should, and done with it what it should. -/
lemma Stage.Sound.right {result : Option (String × B × Bool)}
    (hstage : Stage.Sound P reg (.found s result)) : Lookup.Right P
    ⟨s.purpose, reg.moments.drop s.since, result, reg.env, P.decoded reg.env s.purpose result⟩ where
  missed := by
    rintro rfl
    obtain ⟨-, hcandidates, hlacks⟩ : s.Sound P reg [] := hstage
    rw [List.append_nil] at hcandidates
    exact ⟨s.tried, hcandidates, hlacks⟩
  found := by
    rintro name backend accepts rfl
    obtain ⟨⟨-, hcandidates, hlacks⟩, hoffers, haccepts⟩ := hstage
    exact ⟨haccepts, hoffers, s.tried, s.rest, hcandidates, hlacks⟩
  undecoded := by
    rintro (rfl | hreport)
    · cases hpurpose : s.purpose with
      | report => rfl
      | decode image detector => rfl
    · rw [show s.purpose = .report from hreport]
      rfl
  withDetector := by
    rintro image detector name backend accepts hdecode rfl htakes
    obtain ⟨-, -, haccepts⟩ := hstage
    rw [show s.purpose = .decode image detector from hdecode, P.decoded_eq_called, haccepts,
      if_pos ((P.acceptsDetector_iff backend).mpr htakes)]
  withoutDetector := by
    rintro image detector name backend accepts hdecode rfl htakes
    obtain ⟨-, -, haccepts⟩ := hstage
    rw [show s.purpose = .decode image detector from hdecode, P.decoded_eq_called, haccepts,
      if_neg (mt (P.acceptsDetector_iff backend).mp htakes)]

section Steps

variable [DecidableEq B] {stage l : Stage Env B Image Det}

/-- After a step, once it is noted, the registry is sound and so is what the thread knows. -/
def Registry.Advances (P : Platform Env B Image Det) (reg r : Registry Env B Image Det)
    (l : Stage Env B Image Det) : Prop :=
  (reg.noting r).Sound P ∧ l.Sound P (reg.noting r) ∧ reg.Later (reg.noting r)

namespace Registry.Sound

variable {purpose : Purpose Image Det} {since : ℕ} {asker : Asker Image Det} {backend : B}
  {factory : Factory Env B} {result : Option (String × B × Bool)} {selection : Option String}

/-- What holds of a registry still holds once the step is noted. -/
lemma noting (h : r.Sound P) (hmoments : r.moments = reg.moments) : (reg.noting r).Sound P where
  pinned := h.pinned
  missing hmissing := by
    obtain ⟨m, hm, habsent⟩ := h.missing hmissing
    exact ⟨m, List.mem_append_left _ (hmoments ▸ hm), habsent⟩
  recalled := h.recalled
  right := h.right

/-- A thread that only looks. -/
lemma looks (h : reg.Sound P) (hl : l.Sound P (reg.noting reg)) :
    reg.Advances P reg l :=
  ⟨h.noting rfl, hl, .same reg⟩

/-- A thread that changes what is of no matter to look-ups. -/
lemma aside (h : reg.Sound P) (hmoments : r.moments = reg.moments)
    (hfactories : r.factories = reg.factories) (hselected : r.selected = reg.selected)
    (hmissing : r.cv2Missing = reg.cv2Missing) (haccepts : r.acceptsDetector = reg.acceptsDetector)
    (hlookups : r.lookups = reg.lookups) (hl : l.Sound P (reg.noting r)) : reg.Advances P r l := by
  refine ⟨noting ⟨?_, ?_, ?_, ?_⟩ hmoments, hl, rfl, ?_⟩
  · rw [hselected, hfactories]
    exact h.pinned
  · rw [hmissing, hmoments]
    exact h.missing
  · rw [haccepts]
    exact h.recalled
  · rw [hlookups]
    exact h.right
  · show reg.factories.keys ⊆ r.factories.keys
    rw [hfactories]
    exact List.Subset.refl _

/-- The name that is selected is the only candidate; without one, all that are registered are. -/
lemma resume_selecting (h : reg.Sound P) (hstage : Stage.Sound P reg (.selecting purpose since))
    (hstep : reg.resume P (.selecting purpose since) = some (l, r)) : reg.Advances P r l := by
  have hlater : reg.Later (reg.noting reg) := .same reg
  have hnow := hlater.now hstage
  rw [Registry.resume] at hstep
  cases hselected : reg.selected with
  | none =>
      simp only [hselected, Option.some.injEq, Prod.mk.injEq] at hstep
      obtain ⟨rfl, rfl⟩ := hstep
      exact h.looks ⟨hlater.length_le hstage, _, hnow, hselected⟩
  | some name =>
      simp only [hselected, Option.some.injEq, Prod.mk.injEq] at hstep
      obtain ⟨rfl, rfl⟩ := hstep
      refine h.looks ⟨hlater.length_le hstage, .inl ⟨name, rfl, _, hnow, hselected⟩, ?_⟩
      exact fun n hn => absurd hn List.not_mem_nil

/-- The candidates are the names that are registered now. -/
lemma resume_listing (h : reg.Sound P) (hstage : Stage.Sound P reg (.listing purpose since))
    (hstep : reg.resume P (.listing purpose since) = some (l, r)) : reg.Advances P r l := by
  have hlater : reg.Later (reg.noting reg) := .same reg
  obtain ⟨hsince, m, hm, hselected⟩ := hstage
  obtain ⟨rfl, rfl⟩ := hstep
  refine h.looks (Search.Sound.next ⟨hlater.length_le hsince, ?_, ?_⟩)
  · exact .inr ⟨⟨m, hlater.subset hsince hm, hselected⟩, _, hlater.now hsince, rfl⟩
  · exact fun n hn => absurd hn List.not_mem_nil

/-- A candidate that is not registered is skipped. -/
lemma resume_looking (h : reg.Sound P) (hstage : Stage.Sound P reg (.looking s name))
    (hstep : reg.resume P (.looking s name) = some (l, r)) : reg.Advances P r l := by
  have hlater : reg.Later (reg.noting reg) := .same reg
  have hs : s.Sound P (reg.noting reg) (name :: s.rest) := Search.Sound.mono hstage hlater
  have hnow := hlater.now hstage.began
  rw [Registry.resume] at hstep
  cases hget : reg.factories.get? name with
  | none =>
      simp only [hget, Option.some.injEq, Prod.mk.injEq] at hstep
      obtain ⟨rfl, rfl⟩ := hstep
      exact h.looks (hs.skip (.inl ⟨_, hnow, hget⟩))
  | some factory =>
      simp only [hget, Option.some.injEq, Prod.mk.injEq] at hstep
      obtain ⟨rfl, rfl⟩ := hstep
      exact h.looks ⟨hs, _, hnow, hget⟩

/-- A factory that has nothing is skipped; that of OpenCV asks for it. -/
lemma resume_calling (h : reg.Sound P) (hstage : Stage.Sound P reg (.calling s name factory))
    (hstep : reg.resume P (.calling s name factory) = some (l, r)) : reg.Advances P r l := by
  have hlater : reg.Later (reg.noting reg) := .same reg
  obtain ⟨hs, hcalled⟩ := hstage
  have hnow := hlater.now hs.began
  have hcalled := hs.called_mono hlater hcalled
  have hs := hs.mono hlater
  cases factory with
  | cv2BackendFactory =>
      obtain ⟨rfl, rfl⟩ := hstep
      exact h.looks ⟨hs, hcalled⟩
  | other call =>
      rw [Registry.resume] at hstep
      cases hprovides : (Factory.other call).provides P reg.env with
      | none =>
          simp only [hprovides, Option.some.injEq, Prod.mk.injEq] at hstep
          obtain ⟨rfl, rfl⟩ := hstep
          exact h.looks (hs.skip (.inr ⟨_, hcalled, .inl ⟨_, hnow, hprovides⟩⟩))
      | some backend =>
          simp only [hprovides, Option.some.injEq, Prod.mk.injEq] at hstep
          obtain ⟨rfl, rfl⟩ := hstep
          exact h.looks ⟨hs, _, hcalled, _, hnow, hprovides⟩

/-- OpenCV is not imported while it is thought to be missing. -/
lemma resume_requiring (h : reg.Sound P) (hstage : Stage.Sound P reg (.requiring asker))
    (hstep : reg.resume P (.requiring asker) = some (l, r)) : reg.Advances P r l := by
  have hlater : reg.Later (reg.noting reg) := .same reg
  have hasker := Asker.Sound.mono hstage hlater
  have hnow := hlater.now (Asker.Sound.since_le hstage)
  rw [Registry.resume, Option.some.injEq, Prod.mk.injEq] at hstep
  obtain ⟨rfl, rfl⟩ := hstep
  split_ifs with hmissing
  · exact h.looks (hasker.absent (.inr ⟨_, hnow, hmissing⟩))
  · exact h.looks hasker

/-- It is imported, or not. -/
lemma resume_importing (h : reg.Sound P) (hstage : Stage.Sound P reg (.importing asker))
    (hstep : reg.resume P (.importing asker) = some (l, r)) : reg.Advances P r l := by
  have hlater : reg.Later (reg.noting reg) := .same reg
  have hasker := Asker.Sound.mono hstage hlater
  have hnow := hlater.now (Asker.Sound.since_le hstage)
  rw [Registry.resume, Option.some.injEq, Prod.mk.injEq] at hstep
  obtain ⟨rfl, rfl⟩ := hstep
  split_ifs with himports
  · exact h.looks (hasker.present ⟨_, hnow, himports⟩)
  · exact h.looks ⟨hasker, _, hnow, Bool.eq_false_iff.mpr himports⟩

/-- That it is missing is noted only later; it was missing when the import failed. -/
lemma resume_marking (h : reg.Sound P) (hstage : Stage.Sound P reg (.marking asker))
    (hstep : reg.resume P (.marking asker) = some (l, r)) : reg.Advances P r l := by
  obtain ⟨hasker, m, hm, habsent⟩ := hstage
  obtain ⟨rfl, rfl⟩ := hstep
  have hlater : reg.Later (reg.noting { reg with cv2Missing := true }) :=
    ⟨rfl, List.Subset.refl _⟩
  have hm' := hlater.subset hasker.since_le hm
  refine ⟨noting ⟨h.pinned, fun _ => ?_, h.recalled, h.right⟩ rfl,
    (hasker.mono hlater).absent (.inl ⟨m, hm', habsent⟩), hlater⟩
  exact ⟨m, List.mem_of_mem_drop hm, habsent⟩

/-- What is remembered of a backend is what its signature says. -/
lemma resume_recalling (h : reg.Sound P) (hstage : Stage.Sound P reg (.recalling s name backend))
    (hstep : reg.resume P (.recalling s name backend) = some (l, r)) : reg.Advances P r l := by
  have hlater : reg.Later (reg.noting reg) := .same reg
  obtain ⟨hs, hoffers⟩ := hstage
  have hoffers := hoffers.mono (hlater.subset hs.began)
  have hs := hs.mono hlater
  rw [Registry.resume] at hstep
  split at hstep
  next accepts hrecalled =>
    obtain ⟨rfl, rfl⟩ := hstep
    split_ifs at hrecalled
    exact h.looks ⟨hs, hoffers, h.recalled backend accepts hrecalled⟩
  next =>
    obtain ⟨rfl, rfl⟩ := hstep
    exact h.looks ⟨hs, hoffers⟩

/-- And what its signature says is remembered. -/
lemma resume_inspecting (h : reg.Sound P) (hstage : Stage.Sound P reg (.inspecting s name backend))
    (hstep : reg.resume P (.inspecting s name backend) = some (l, r)) : reg.Advances P r l := by
  have hlater : reg.Later (reg.noting reg) := .same reg
  obtain ⟨hs, hoffers⟩ := hstage
  rw [Registry.resume, Option.some.injEq, Prod.mk.injEq] at hstep
  obtain ⟨rfl, rfl⟩ := hstep
  split_ifs with hhashable
  · have hlater : reg.Later (reg.noting { reg with
        acceptsDetector := reg.acceptsDetector.set backend (P.acceptsDetector backend) }) :=
      ⟨rfl, List.Subset.refl _⟩
    refine ⟨noting ⟨h.pinned, h.missing, fun b accepts hget => ?_, h.right⟩ rfl,
      ⟨hs.mono hlater, hoffers.mono (hlater.subset hs.began), rfl⟩, hlater⟩
    rw [Dict.get?_set] at hget
    split_ifs at hget with hb
    · rw [hb, ← Option.some.inj hget]
    · exact h.recalled b accepts hget
  · exact h.looks ⟨hs.mono hlater, hoffers.mono (hlater.subset hs.began), rfl⟩

/-- It is noted among the look-ups that have ended. -/
lemma resume_found (h : reg.Sound P) (hstage : Stage.Sound P reg (.found s result))
    (hstep : reg.resume P (.found s result) = some (l, r)) : reg.Advances P r l := by
  obtain ⟨rfl, rfl⟩ := hstep
  refine ⟨noting ⟨h.pinned, h.missing, h.recalled, fun l hl => ?_⟩ rfl, trivial, rfl,
    List.Subset.refl _⟩
  rcases List.mem_append.mp hl with hl | hl
  · exact h.right l hl
  · rw [List.mem_singleton.mp hl]
    exact Stage.Sound.right hstage

/-- A name that is registered stays so. -/
lemma resume_registering (h : reg.Sound P)
    (hstep : reg.resume P (.registering name factory) = some (l, r)) : reg.Advances P r l := by
  obtain ⟨rfl, rfl⟩ := hstep
  have hkeys : reg.factories.keys ⊆ (reg.factories.set name factory).keys :=
    fun n hn => Dict.mem_keys_set.mpr (.inr hn)
  exact ⟨noting ⟨fun n hn => hkeys (h.pinned n hn), h.missing, h.recalled, h.right⟩ rfl, trivial,
    rfl, hkeys⟩

/-- Only a registered name is selected. -/
lemma resume_setting (h : reg.Sound P)
    (hstep : reg.resume P (.setting selection) = some (l, r)) : reg.Advances P r l := by
  cases selection with
  | none =>
      obtain ⟨rfl, rfl⟩ := hstep
      exact h.looks trivial
  | some name =>
      rw [Registry.resume] at hstep
      split_ifs at hstep with hname
      · obtain ⟨rfl, rfl⟩ := hstep
        exact h.looks hname
      · obtain ⟨rfl, rfl⟩ := hstep
        exact h.aside rfl rfl rfl rfl rfl rfl trivial

/-- It is still registered when the selection is written. -/
lemma resume_pinning (h : reg.Sound P) (hstage : Stage.Sound P reg (.pinning selection))
    (hstep : reg.resume P (.pinning selection) = some (l, r)) : reg.Advances P r l := by
  obtain ⟨rfl, rfl⟩ := hstep
  refine ⟨noting ⟨?_, h.missing, h.recalled, h.right⟩ rfl, trivial, rfl, List.Subset.refl _⟩
  rintro n rfl
  exact hstage

/-- What was noted of OpenCV is forgotten. -/
lemma resume_resetting (h : reg.Sound P) (hstep : reg.resume P .resetting = some (l, r)) :
    reg.Advances P r l := by
  obtain ⟨rfl, rfl⟩ := hstep
  refine ⟨noting ⟨h.pinned, fun hmissing => ?_, h.recalled, h.right⟩ rfl, trivial, rfl,
    List.Subset.refl _⟩
  cases hmissing

/-- **The next step of a thread.** -/
theorem resume (h : reg.Sound P) (hstage : stage.Sound P reg)
    (hstep : reg.resume P stage = some (l, r)) : reg.Advances P r l := by
  have hlater : reg.Later (reg.noting reg) := .same reg
  cases stage with
  | idle => cases hstep
  | selecting purpose since => exact h.resume_selecting hstage hstep
  | listing purpose since => exact h.resume_listing hstage hstep
  | looking s name => exact h.resume_looking hstage hstep
  | calling s name factory => exact h.resume_calling hstage hstep
  | requiring asker => exact h.resume_requiring hstage hstep
  | importing asker => exact h.resume_importing hstage hstep
  | marking asker => exact h.resume_marking hstage hstep
  | recalling s name backend => exact h.resume_recalling hstage hstep
  | inspecting s name backend => exact h.resume_inspecting hstage hstep
  | found s result => exact h.resume_found hstage hstep
  | registering name factory => exact h.resume_registering hstep
  | setting name => exact h.resume_setting hstep
  | pinning name => exact h.resume_pinning hstage hstep
  | resetting => exact h.resume_resetting hstep
  | forgetting =>
      rw [Registry.resume] at hstep
      split_ifs at hstep
      obtain ⟨rfl, rfl⟩ := hstep
      exact h.aside rfl rfl rfl rfl rfl rfl trivial
  | waitingAlt =>
      rw [Registry.resume] at hstep
      split_ifs at hstep
      obtain ⟨rfl, rfl⟩ := hstep
      exact h.aside rfl rfl rfl rfl rfl rfl trivial
  | checkingAlt =>
      rw [Registry.resume, Option.some.injEq, Prod.mk.injEq] at hstep
      obtain ⟨rfl, rfl⟩ := hstep
      split_ifs
      · exact h.looks trivial
      · exact h.looks trivial
  | lockedAlt =>
      rw [Registry.resume] at hstep
      split_ifs at hstep
      · obtain ⟨rfl, rfl⟩ := hstep
        exact h.aside rfl rfl rfl rfl rfl rfl trivial
      · obtain ⟨rfl, rfl⟩ := hstep
        exact h.looks trivial
  | releasing returning =>
      rw [Registry.resume, Option.some.injEq, Prod.mk.injEq] at hstep
      obtain ⟨rfl, rfl⟩ := hstep
      split_ifs
      · exact h.aside rfl rfl rfl rfl rfl rfl trivial
      · exact h.aside rfl rfl rfl rfl rfl rfl trivial
  | _ =>
      obtain ⟨rfl, rfl⟩ := hstep
      exact h.aside rfl rfl rfl rfl rfl rfl trivial

/-- **A new call.** -/
theorem begin (h : reg.Sound P) (request : Request Env B Image Det) :
    reg.Advances P (reg.begin request).2 (reg.begin request).1 := by
  have hlater : reg.Later (reg.noting reg) := .same reg
  cases request with
  | activeDecoderBackend => exact h.looks (hlater.length_le le_rfl)
  | decodeFrame image detector =>
      cases image with
      | none => exact h.looks trivial
      | some image => exact h.looks (hlater.length_le le_rfl)
  | registerDecoderBackend name factory =>
      rw [Registry.begin]
      split_ifs
      · exact h.aside rfl rfl rfl rfl rfl rfl trivial
      · exact h.looks trivial
  | _ => exact h.looks trivial

/-- **One step of one thread.** -/
theorem step {i : ℕ} {act : RegistryAction Env B Image Det} (h : reg.Sound P)
    (hstage : stage.Sound P reg) (hstep : Registry.step P i stage act reg = some (l, r)) :
    r.Sound P ∧ l.Sound P r ∧ reg.Later r := by
  cases act with
  | call request =>
      cases stage with
      | idle =>
          obtain ⟨rfl, rfl⟩ := hstep
          exact h.begin request
      | _ => cases hstep
  | environment env =>
      cases stage with
      | idle =>
          obtain ⟨rfl, rfl⟩ := hstep
          exact h.aside rfl rfl rfl rfl rfl rfl trivial
      | _ => cases hstep
  | resume =>
      have hstep : (reg.resume P stage).map (Prod.map id reg.noting) = some (l, r) := by
        cases stage with
        | _ => exact hstep
      obtain ⟨⟨l', r'⟩, hresume, hnoted⟩ := Option.map_eq_some_iff.mp hstep
      obtain ⟨rfl, rfl⟩ := Prod.mk.inj hnoted
      exact h.resume hstage hresume

end Registry.Sound

lemma Registry.sound_new (P : Platform Env B Image Det) (env : Env) :
    (Registry.new env :
      Threads ℕ (Registry Env B Image Det) (Stage Env B Image Det)).shared.Sound P where
  pinned _ hname := by cases hname
  missing hmissing := by cases hmissing
  recalled _ _ hget := by cases hget
  right _ hl := by cases hl

/-- In every interleaving the registry is sound, and so is what the threads know of it. -/
theorem sound_of_reach {env : Env} {t : Threads ℕ (Registry Env B Image Det) (Stage Env B Image Det)}
    (h : (Registry.system P).Reach Transition.free (Registry.new env) t) :
    t.shared.Sound P ∧ ∀ i, (t.stage i).Sound P t.shared := by
  refine Threads.invariant (I := fun t => t.shared.Sound P ∧ ∀ i, (t.stage i).Sound P t.shared) h
    ⟨Registry.sound_new P env, fun _ => trivial⟩ ?_
  rintro t i act l r ⟨hshared, hstages⟩ - hstep
  obtain ⟨hr, hl, hlater⟩ := hshared.step (hstages i) hstep
  exact ⟨hr, Threads.forall_stage_move.mpr ⟨hl, fun j _ => (hstages j).mono hlater⟩⟩

/-- **Every look-up finds the right backend.**  However threads decode, register, select and reset
while the environment changes: what is found is the first candidate whose factory had a backend, and
the candidates are the name that was selected, or all in the order of their registration, each of it
at some moment of the look-up; to decode, it is called with the detector if its signature takes one,
and without if not.  If nothing changes meanwhile but the note that OpenCV is missing, and that note
is right, it is the choice that the registry makes.  A selected name is always registered, and
OpenCV is thought to be missing only if it was. -/
theorem lookup_right {env : Env} {t : Threads ℕ (Registry Env B Image Det) (Stage Env B Image Det)}
    (h : (Registry.system P).Reach Transition.free (Registry.new env) t) :
    (∀ l ∈ t.shared.lookups, l.Right P ∧ ∀ m, Steady P l.moments m → l.result = m.choice P) ∧
      (∀ name, t.shared.selected = some name → name ∈ t.shared.factories.keys) ∧
      (t.shared.cv2Missing = true → ∃ m ∈ t.shared.moments, P.importsCv2 m.env = false) := by
  obtain ⟨hshared, -⟩ := sound_of_reach h
  refine ⟨fun l hl => ⟨hshared.right l hl, fun m hsteady => ?_⟩, hshared.pinned, hshared.missing⟩
  exact (hshared.right l hl).eq_choice hsteady

end Steps

end Invariant

/-! ### A phone without OpenCV

The import fails, and a backend that is registered at run time takes over.
-/

/-- The environment is whether OpenCV can be imported; backends are numbers, of which `1` takes no
detector: without one it reads every image as one byte, and with one it reads nothing. -/
def withoutCv2 : Platform Bool ℕ Unit Unit where
  importsCv2 env := env
  constructs _ kind := kind = .aruco
  cv2Decode := 0
  signature b := .ok (if b = 0 then [⟨"image", false⟩, ⟨"detector", false⟩] else [⟨"image", false⟩])
  hashable _ := true
  run b _ _ detector := .ok (if b = 1 ∧ detector.isNone then some [42] else none)

/-- A factory of another package. -/
def fakeFactory : Factory Bool ℕ := .other fun _ => .ok (.backend 1)

/-- One thread finds OpenCV missing, but notes it only after another one has registered a backend
and selected it; then it decodes. -/
def lateMark : List (ℕ × RegistryAction Bool ℕ Unit Unit) :=
  (0, .call .activeDecoderBackend) :: List.replicate 6 (0, .resume) ++
  (1, .call (.registerDecoderBackend "fake" fakeFactory)) :: List.replicate 5 (1, .resume) ++
  (1, .call (.setDecoderBackend (some "fake"))) :: List.replicate 6 (1, .resume) ++
  List.replicate 2 (0, .resume) ++
  (0, .call (.decodeFrame (some ()) (some ()))) :: List.replicate 6 (0, .resume)

/-- The late note does no harm: what was selected is found, and called without a detector. -/
theorem lookup_right_lateMark : ∃ t : Threads ℕ (Registry Bool ℕ Unit Unit) (Stage Bool ℕ Unit Unit),
    t.shared.lookups.map Lookup.decoded = [none, some [42]] ∧
      (∀ l ∈ t.shared.lookups, l.Right withoutCv2 ∧
        ∀ m, Steady withoutCv2 l.moments m → l.result = m.choice withoutCv2) ∧
      "fake" ∈ t.shared.factories.keys ∧
      ∃ m ∈ t.shared.moments, withoutCv2.importsCv2 m.env = false := by
  obtain ⟨t, hrun, hlookups, hselected, hmissing⟩ :=
    (Registry.system withoutCv2).exists_reach_of_exec Transition.free lateMark (Registry.new false)
      (fun t : Threads ℕ (Registry Bool ℕ Unit Unit) (Stage Bool ℕ Unit Unit) =>
        t.shared.lookups.map Lookup.decoded = [none, some [42]] ∧
          t.shared.selected = some "fake" ∧ t.shared.cv2Missing = true) (by decide +kernel)
  obtain ⟨hright, hpinned, habsent⟩ := lookup_right hrun
  exact ⟨t, hlookups, hright, hpinned "fake" hselected, habsent hmissing⟩

end PhotonTCP.Qr
