import PhotonTCP.Foundation.Smoothing
import PhotonTCP.Reliability.Rto

/-!
# The envelope of the retransmission timeout

Whatever an estimator measures and however often it backs off, its timeout stays between the
configured bounds, and its estimates stay close to what was measured.

* `RtoCall`, `called`, `samples` — the calls as data, and the measurements among them.
* `trendOf` — the estimates, as a function of the measurements alone; **`trend_calls`** — these are
  the estimator's.
* `Enveloped` — the timeout is between its bounds.
* **`estimates_enveloped`** — all of this for every sequence of calls.

Calls are data, so that a statement about every sequence of calls is one about lists, and a call
that raises is part of the sequence like any other.  Between the bounds and the estimates there is
no connection: the bounds hold because every way of setting the timeout goes through a minimum or a
clamp, and the estimates are those of exponential smoothing, which knows nothing of timeouts.
`trend_calls` separates the two, since by it the calls that back off may be left out.

The bound on the variation is the larger of two numbers because the first measurement sets it to
half of itself, whatever the later ones are.
-/

namespace PhotonTCP

/-- What an estimator is called to do. -/
inductive RtoCall where
  | onSample (rtt : ℚ)
  | onTimeout

/-- The measurements among the calls. -/
def samples (calls : List RtoCall) : List ℚ :=
  calls.filterMap fun
    | .onSample rtt => some rtt
    | .onTimeout => none

namespace RtoEstimator

/-- The estimator after a call, also if it has raised. -/
def called (e : RtoEstimator) : RtoCall → RtoEstimator
  | .onSample rtt =>
      match e.onSample rtt with
      | .ok e' => e'
      | .error _ => e
  | .onTimeout => e.onTimeout

/-- The estimator after calls, in order. -/
def calls (e : RtoEstimator) (cs : List RtoCall) : RtoEstimator := cs.foldl called e

/-- The configuration is in order. -/
structure Configured (e : RtoEstimator) : Prop where
  minRto : 0 < e.minRto
  initialRto : e.minRto ≤ e.initialRto ∧ e.initialRto ≤ e.maxRto

/-- The timeout is between its bounds. -/
def Enveloped (e : RtoEstimator) : Prop := e.rto ∈ Set.Icc e.minRto e.maxRto

/-! ## The estimates

The code keeps two optional fields.  Read as one optional pair they are the trend of the smoothing
library.
-/

/-- The estimates, once there are any. -/
def trend (e : RtoEstimator) : Option (Trend ℚ) :=
  match e.srtt, e.rttvar with
  | some srtt, some rttvar => some ⟨srtt, rttvar⟩
  | _, _ => none

/-- What a first measurement says. -/
def firstTrend (rtt : ℚ) : Trend ℚ := ⟨rtt, rtt / 2⟩

/-- What measurements say. -/
def trendOf : List ℚ → Option (Trend ℚ)
  | [] => none
  | first :: rest => some (rest.foldl (Trend.next ALPHA BETA) (firstTrend first))

variable {e : RtoEstimator} {rtt lo hi r : ℚ} {cs : List RtoCall} {rs : List ℚ}

lemma trend_eq_some {t : Trend ℚ} :
    e.trend = some t ↔ e.srtt = some t.mean ∧ e.rttvar = some t.deviation := by
  obtain ⟨mean, deviation⟩ := t
  rw [trend]
  cases e.srtt with
  | none => simp
  | some srtt => cases e.rttvar <;> simp

lemma trendOf_append_singleton (rs : List ℚ) (rtt : ℚ) : trendOf (rs ++ [rtt]) =
    some ((trendOf rs).elim (firstTrend rtt) fun t => t.next ALPHA BETA rtt) := by
  cases rs with
  | nil => rfl
  | cons first rest => simp [trendOf]

/-- **A measurement**: the estimates move, and the timeout is theirs, between its bounds. -/
theorem onSample_eq (h : 0 ≤ rtt) : ∃ e', e.onSample rtt = .ok e' ∧
    e'.trend = some (e.trend.elim (firstTrend rtt) fun t => t.next ALPHA BETA rtt) ∧
    (∃ raw, e'.rto = clamp raw e.minRto e.maxRto) ∧
    e'.initialRto = e.initialRto ∧ e'.minRto = e.minRto ∧ e'.maxRto = e.maxRto := by
  rw [onSample, if_neg (not_lt.mpr h)]
  refine ⟨_, rfl, ?_, ⟨_, rfl⟩, rfl, rfl, rfl⟩
  rw [trend_eq_some, trend]
  cases e.srtt with
  | none => exact ⟨rfl, rfl⟩
  | some srtt => cases e.rttvar <;> exact ⟨rfl, rfl⟩

lemma samples_append (cs : List RtoCall) (c : RtoCall) :
    samples (cs ++ [c]) = samples cs ++ samples [c] := List.filterMap_append

/-- **The estimates depend on the measurements alone.** -/
theorem trend_calls (hnew : e.trend = none) (h : ∀ r ∈ samples cs, 0 ≤ r) :
    (e.calls cs).trend = trendOf (samples cs) := by
  induction cs using List.reverseRecOn with
  | nil => exact hnew
  | append_singleton cs c ih =>
      rw [samples_append] at h ⊢
      have ih := ih fun r hr => h r (List.mem_append_left _ hr)
      rw [calls, List.foldl_concat, ← calls]
      cases c with
      | onSample rtt =>
          obtain ⟨e', hsample, htrend, -⟩ := onSample_eq (e := e.calls cs)
            (h rtt (List.mem_append_right _ (List.mem_singleton_self rtt)))
          show (called (e.calls cs) (.onSample rtt)).trend = trendOf (samples cs ++ [rtt])
          simp only [called, hsample]
          rw [htrend, ih, trendOf_append_singleton]
      | onTimeout =>
          rw [show samples [RtoCall.onTimeout] = [] from rfl, List.append_nil, ← ih]
          rfl

/-! ## Bounds on the estimates

All measurements from the first on are in the interval, and the first of them is the mean to start
with.
-/

lemma gain_bounds : ALPHA ∈ Set.Icc 0 1 ∧ BETA ∈ Set.Icc 0 1 := by
  norm_num [ALPHA, BETA]

/-- **The estimates stay close to the measurements.** -/
theorem trendOf_within {first : ℚ} {rest : List ℚ} (hfirst : 0 ≤ first)
    (h : ∀ r ∈ first :: rest, r ∈ Set.Icc lo hi) : ∃ t, trendOf (first :: rest) = some t ∧
      t.Within lo hi (max (first / 2) (hi - lo)) := by
  obtain ⟨hhead, hrest⟩ := List.forall_mem_cons.mp h
  have hstart : (firstTrend first).Within lo hi (max (first / 2) (hi - lo)) :=
    ⟨hhead, div_nonneg hfirst (by norm_num), le_max_left _ _⟩
  exact ⟨_, rfl, hstart.foldl gain_bounds.1 gain_bounds.2 hrest (le_max_right _ _)⟩

/-- Equal measurements. -/
lemma trendOf_replicate (n : ℕ) (r : ℚ) :
    trendOf (List.replicate (n + 1) r) = some ⟨r, (3 / 4) ^ n * (r / 2)⟩ := by
  have hdecay : (List.replicate n (firstTrend r).mean).foldl (Trend.next ALPHA BETA) (firstTrend r) = _ :=
    Trend.foldl_replicate n (firstTrend r)
  rw [List.replicate_succ, trendOf]
  refine congrArg some (hdecay.trans ?_)
  norm_num [firstTrend, BETA]

/-! ## The timeout

The configuration has to be in order, since a clamp with its bounds the wrong way round returns one
of them.  The constructor does not check this.
-/

lemma clamp_mem_Icc {low high : ℚ} (h : low ≤ high) (value : ℚ) :
    clamp value low high ∈ Set.Icc low high := by
  rw [clamp]
  split_ifs with hlow hhigh
  · exact ⟨le_rfl, h⟩
  · exact ⟨h, le_rfl⟩
  · exact ⟨not_lt.mp hlow, not_lt.mp hhigh⟩

/-- Backing off never shortens a timeout between its bounds. -/
lemma le_onTimeout (h : e.Configured) (hrto : e.Enveloped) : e.rto ≤ e.onTimeout.rto := by
  have hpos : 0 < e.rto := h.minRto.trans_le hrto.1
  exact le_min (by linarith) hrto.2

/-- **Every call keeps the timeout between its bounds**, and the configuration as it is. -/
theorem Enveloped.called (h : e.Enveloped) (hconfig : e.Configured) (c : RtoCall) :
    (e.called c).Enveloped ∧ (e.called c).Configured ∧ (e.called c).minRto = e.minRto ∧
      (e.called c).maxRto = e.maxRto := by
  cases c with
  | onTimeout =>
      refine ⟨⟨h.1.trans (le_onTimeout hconfig h), min_le_right _ _⟩, ?_, rfl, rfl⟩
      exact ⟨hconfig.minRto, hconfig.initialRto⟩
  | onSample rtt =>
      by_cases hrtt : 0 ≤ rtt
      · obtain ⟨e', hsample, -, ⟨raw, hrto⟩, hinitial, hmin, hmax⟩ := onSample_eq (e := e) hrtt
        simp only [RtoEstimator.called, hsample]
        refine ⟨?_, ⟨?_, ?_⟩, hmin, hmax⟩
        · rw [Enveloped, hrto, hmin, hmax]
          exact clamp_mem_Icc (hconfig.initialRto.1.trans hconfig.initialRto.2) raw
        · rw [hmin]
          exact hconfig.minRto
        · rw [hmin, hinitial, hmax]
          exact hconfig.initialRto
      · rw [RtoEstimator.called, onSample, if_pos (not_le.mp hrtt)]
        exact ⟨h, hconfig, rfl, rfl⟩

lemma Enveloped.calls (h : e.Enveloped) (hconfig : e.Configured) (cs : List RtoCall) :
    (e.calls cs).Enveloped ∧ (e.calls cs).Configured ∧
      (e.calls cs).minRto = e.minRto ∧ (e.calls cs).maxRto = e.maxRto := by
  induction cs generalizing e with
  | nil => exact ⟨h, hconfig, rfl, rfl⟩
  | cons c cs ih =>
      obtain ⟨hnext, hconfig', hmin, hmax⟩ := h.called hconfig c
      obtain ⟨hlast, hconfig'', hmin', hmax'⟩ := ih hnext hconfig'
      exact ⟨hlast, hconfig'', hmin'.trans hmin, hmax'.trans hmax⟩

/-- **The envelope.**  Of an estimator that was constructed with `0 < min_rto ≤ initial_rto ≤
max_rto`, after any calls with measurements that are not negative: the timeout is between its
bounds, and a timeout does not shorten it; the mean is between the least and the greatest
measurement, and the variation at most half the first or the distance between these two; and if all
measurements are equal, the mean is what they are, and the variation has shrunk to three quarters
with each but the first. -/
theorem estimates_enveloped (initialRto minRto maxRto : ℚ) (hmin : 0 < minRto)
    (hinitial : minRto ≤ initialRto ∧ initialRto ≤ maxRto) (cs : List RtoCall)
    (hcs : ∀ r ∈ samples cs, 0 ≤ r) :
    let e : RtoEstimator := calls { initialRto, minRto, maxRto } cs
    (minRto ≤ e.rto ∧ e.rto ≤ maxRto) ∧ e.rto ≤ e.onTimeout.rto ∧
    (∀ first rest, samples cs = first :: rest →
      ∀ lo hi, (samples cs).min? = some lo → (samples cs).max? = some hi →
        ∃ srtt rttvar, e.srtt = some srtt ∧ e.rttvar = some rttvar ∧ lo ≤ srtt ∧ srtt ≤ hi ∧
          0 ≤ rttvar ∧ rttvar ≤ max (first / 2) (hi - lo)) ∧
    (∀ n r, samples cs = List.replicate (n + 1) r →
      e.srtt = some r ∧ e.rttvar = some ((3 / 4) ^ n * (r / 2))) := by
  intro e
  have hconfig : Configured { initialRto, minRto, maxRto } := ⟨hmin, hinitial⟩
  have hstart : Enveloped { initialRto, minRto, maxRto } := hinitial
  obtain ⟨henveloped, hconfig', hminRto, hmaxRto⟩ := hstart.calls hconfig cs
  have htrend : e.trend = trendOf (samples cs) := trend_calls rfl hcs
  refine ⟨?_, le_onTimeout hconfig' henveloped, ?_, ?_⟩
  · rw [Enveloped, hminRto, hmaxRto] at henveloped
    exact henveloped
  · intro first rest hsamples lo hi hlo hhi
    have hbounds : ∀ r ∈ first :: rest, r ∈ Set.Icc lo hi := by
      intro r hr
      rw [← hsamples] at hr
      exact ⟨(List.min?_eq_some_iff.mp hlo).2 r hr, (List.max?_eq_some_iff.mp hhi).2 r hr⟩
    have hfirst : 0 ≤ first := hcs first (by simp [hsamples])
    obtain ⟨t, ht, hwithin⟩ := trendOf_within hfirst hbounds
    obtain ⟨hsrtt, hrttvar⟩ := trend_eq_some.mp (htrend.trans (hsamples ▸ ht))
    exact ⟨_, _, hsrtt, hrttvar, hwithin.mean.1, hwithin.mean.2, hwithin.deviation.1,
      hwithin.deviation.2⟩
  · intro n r hsamples
    have ht := trendOf_replicate n r
    rw [← hsamples] at ht
    exact trend_eq_some.mp (htrend.trans ht)

/-- Two measurements, with a timeout between them. -/
def backedOff : List RtoCall := [.onSample (1 / 10), .onTimeout, .onSample (3 / 10)]

/-- The bounds after these calls. -/
theorem estimates_enveloped_backedOff :
    let e : RtoEstimator := calls { initialRto := 1, minRto := 1 / 5, maxRto := 60 } backedOff
    e.rto ≤ 60 ∧ ∃ srtt rttvar, e.srtt = some srtt ∧ e.rttvar = some rttvar ∧
      1 / 10 ≤ srtt ∧ srtt ≤ 3 / 10 ∧ rttvar ≤ 1 / 5 := by
  obtain ⟨hrto, -, hestimates, -⟩ := estimates_enveloped 1 (1 / 5) 60 (by norm_num)
    (by norm_num) backedOff (by decide +kernel)
  obtain ⟨srtt, rttvar, hsrtt, hrttvar, hlo, hhi, -, hbound⟩ := hestimates (1 / 10) [3 / 10]
    (by decide +kernel) (1 / 10) (3 / 10) (by decide +kernel) (by decide +kernel)
  refine ⟨hrto.2, srtt, rttvar, hsrtt, hrttvar, hlo, hhi, hbound.trans ?_⟩
  norm_num

end RtoEstimator

end PhotonTCP
