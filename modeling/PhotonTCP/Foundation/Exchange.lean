import PhotonTCP.Foundation.LossWindow

/-!
# Asking until an answer is heard

One party asks over and over until it hears an answer, and the other answers every question that
reaches it.  Questions and answers get lost.  As long as no answer has been heard, every question is
accounted for: it was lost, it is on its way, or it was answered; and every answer was lost or is on
its way.

* `Open` — the account of an exchange that is not complete.
* `Open.ask`, `Open.answer` — how it changes.
* **`Open.length_lt`** — once nothing is on its way, bounded losses bound the number of questions:
  with windows of `j` and `k` there were fewer than `j * k` of them.

The account is kept in counts and not in identities.  That is enough, because no question differs
from another one: all there is to say about a message is whether it got through.  The two fields of
`Open` are the two ends of this: there are as many answers as questions that arrived, and every
answer that was not lost is still on its way, since the first one to be heard ends the exchange.

With nothing on its way all answers were lost, so the answers make a history without a success and
are fewer than `k`; as many questions arrived, and the others were lost between them.  That is why
the bound is a product: losing a round trip takes only one of its two messages, and each of fewer
than `k` arrivals may follow on `j - 1` questions that did not arrive.
-/

namespace Exchange

open LossWindow

/-- The account: the fates of the questions and of the answers, in order, and how many of each are
on their way. -/
structure Open (asks answers : List Bool) (asking answering : ℕ) : Prop where
  answered : answers.length + asking = asks.count true
  unheard : answers.count true = answering

variable {asks answers : List Bool} {asking answering : ℕ}

/-- Nothing has been asked. -/
lemma Open.start : Open [] [] 0 0 := ⟨rfl, rfl⟩

/-- More questions are asked. -/
lemma Open.ask (h : Open asks answers asking answering) (new : List Bool) :
    Open (asks ++ new) answers (asking + new.count true) answering := by
  refine ⟨?_, h.unheard⟩
  rw [List.count_append, ← h.answered, Nat.add_assoc]

/-- A question arrives and is answered. -/
lemma Open.answer {new : List Bool} (h : Open asks answers (asking + 1) answering)
    (hnew : new.length = 1) :
    Open asks (answers ++ new) asking (answering + new.count true) := by
  have hanswered := h.answered
  refine ⟨?_, ?_⟩
  · rw [List.length_append]
    omega
  · rw [List.count_append, h.unheard]

/-- **The bound.** -/
theorem Open.length_lt {j k : ℕ} (h : Open asks answers 0 0) (hj : 0 < j) (hk : 0 < k)
    (hasks : EveryWindow j asks) (hanswers : EveryWindow k answers) : asks.length < j * k := by
  refine hasks.length_lt_mul hj ?_
  have hlost : answers.length < k := hanswers.length_lt_of_count_eq_zero hk h.unheard
  have hanswered := h.answered
  omega

end Exchange
