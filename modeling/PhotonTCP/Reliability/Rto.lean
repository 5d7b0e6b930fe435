import Mathlib.Tactic

/-!
# The adaptive retransmission timeout

The estimator keeps a smoothed round-trip time and its variation, and derives the timeout from
them.  Times are exact rationals here.

* `RtoEstimator` — the state, with its configuration.
* `onSample` — a measurement; it raises on a negative one and then changes nothing.
* `onTimeout` — exponential backoff.
* `clone` — the same configuration and no samples.

Before the first measurement there is no smoothed time; both estimates are set together, which is
why `onSample` and every reader of the two match on the pair.  A backoff changes neither of them.
It doubles the timeout that is in force, up to the maximum, and the next measurement computes the
timeout anew from the estimates, so that one measurement undoes any number of backoffs.
-/

namespace PhotonTCP

/-- The texts of the `ValueError`s raised by this layer. -/
abbrev ValueError := String

/-- Smoothing constants. -/
def ALPHA : ℚ := 1 / 8
/-- How fast the variation follows. -/
def BETA : ℚ := 1 / 4
/-- How many variations the timeout is above the mean. -/
def K : ℚ := 4

/-- `value`, constrained to `[low, high]`. -/
def clamp (value low high : ℚ) : ℚ :=
  if value < low then low else if high < value then high else value

/-- The estimator: its configuration, the two estimates once there is a sample, and the current
timeout. -/
structure RtoEstimator where
  initialRto : ℚ := 1
  minRto : ℚ := 1 / 5
  maxRto : ℚ := 60
  srtt : Option ℚ := none
  rttvar : Option ℚ := none
  rto : ℚ := initialRto
deriving DecidableEq

namespace RtoEstimator

/-- A fresh estimator with the same configuration. -/
def clone (e : RtoEstimator) : RtoEstimator :=
  { initialRto := e.initialRto, minRto := e.minRto, maxRto := e.maxRto }

/-- A new measurement. -/
def onSample (e : RtoEstimator) (rtt : ℚ) : Except ValueError RtoEstimator :=
  if rtt < 0 then .error s!"rtt must be non-negative, got {rtt}"
  else
    let (srtt, rttvar) :=
      match e.srtt, e.rttvar with
      | some srtt, some rttvar =>
          ((1 - ALPHA) * srtt + ALPHA * rtt, (1 - BETA) * rttvar + BETA * |srtt - rtt|)
      | _, _ => (rtt, rtt / 2)
    .ok { e with srtt := some srtt, rttvar := some rttvar,
                 rto := clamp (srtt + K * rttvar) e.minRto e.maxRto }

/-- Exponential backoff. -/
def onTimeout (e : RtoEstimator) : RtoEstimator :=
  { e with rto := min (e.rto * 2) e.maxRto }

end RtoEstimator

end PhotonTCP
