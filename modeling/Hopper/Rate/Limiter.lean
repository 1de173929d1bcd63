import Mathlib.Algebra.Order.Floor
import Mathlib.Data.Rat.Floor

/-!
# The rate limiter

`rate::RateLimiter` throttles the storage worker (one limiter for read units, one for write
units) and the command thread (network bytes).  Time is cut into frames of
`TIME_FRAME_LEN_SEC` seconds; `time_frame_progress` counts what was consumed since the current
frame began, and `check_wait_time` says how long to wait until that consumption is covered by
`rate` times the time elapsed in the frame.  A frame ends only when a check notices it, and the
next frame starts on the same grid of frame boundaries.

The limiter does not bound a single consumption: a check that passes lets the caller consume
any amount, and a Get pays `rcu_cost - 1` read units when it completes with no check at all.
The command thread consumes network bytes after sleeping for the wait its check returned, so
its consumption lands later than the check, possibly after the frame the check saw is over.

Clock readings are rationals (seconds), doubles are rationals, and `uint64_t` arithmetic is
modulo `2 ^ 64`.
-/

namespace Hopper

namespace Rate

/-- `RateLimiter::TIME_FRAME_LEN_SEC`. -/
def timeFrameLenSec : ℚ := 37 / 100

theorem timeFrameLenSec_pos : 0 < timeFrameLenSec := by norm_num [timeFrameLenSec]

/-- `std::fmod` for a non-negative dividend and a positive divisor. -/
def fmod (x y : ℚ) : ℚ := x - y * ⌊x / y⌋

/-- A `rate::RateLimiter`. -/
structure RateLimiter where
  rate : ℚ
  timeFrameProgress : Nat
  timeFrameBegin : ℚ
  proposedRate : ℚ
  deriving DecidableEq, Repr

namespace RateLimiter

/-- The constructor, at clock reading `now`. -/
def new (rate now : ℚ) : RateLimiter := ⟨rate, 0, now, rate⟩

/-- `update_time_frame` at clock reading `now`: once the frame is over, start the frame that
holds `now` on the same grid, reset the progress and take the proposed rate.  Returns the
time elapsed in the frame. -/
def updateTimeFrame (l : RateLimiter) (now : ℚ) : RateLimiter × ℚ :=
  let elapsed := now - l.timeFrameBegin
  if timeFrameLenSec ≤ elapsed then
    let elapsed := fmod elapsed timeFrameLenSec
    ({ l with
      timeFrameBegin := now - elapsed
      timeFrameProgress := 0
      rate := if l.proposedRate ≠ l.rate then l.proposedRate else l.rate }, elapsed)
  else (l, elapsed)

/-- `consume`: a `uint64_t` addition. -/
def consume (l : RateLimiter) (consumption : Nat) : RateLimiter :=
  { l with timeFrameProgress := (l.timeFrameProgress + consumption) % 2 ^ 64 }

/-- `check_wait_time`: the caller may send when the result is at most `0`. -/
def checkWaitTime (l : RateLimiter) (now : ℚ) : RateLimiter × ℚ :=
  let u := l.updateTimeFrame now
  (u.1, u.1.timeFrameProgress / u.1.rate - u.2)

/-- `propose_new_rate`: taken at the start of the next frame. -/
def proposeNewRate (l : RateLimiter) (newRate : ℚ) : RateLimiter :=
  { l with proposedRate := newRate }

end RateLimiter

/-! ## Callers -/

/-- What a caller does with a limiter at one clock reading. -/
inductive Call
  /-- `check_wait_time`, with nothing consumed after it. -/
  | check
  /-- `storage_thread_main`: `check_wait_time`, then `consume(c)` right after it when it
  returned at most `0` and a task was popped. -/
  | checkConsume (c : Nat)
  /-- `network::wait_until_can_send`, then `network::consume(c)`: `check_wait_time`, a sleep
  for the wait it returned when that is positive, and `consume(c)` once the command thread runs
  again, `slept` seconds after the check. -/
  | waitConsume (c : Nat) (slept : ℚ)
  /-- A `consume(c)` that no check guards: `rcu_cost - 1` at a Get's completion. -/
  | consume (c : Nat)
  deriving DecidableEq, Repr

namespace Call

/-- What the call may consume. -/
def charge : Call → Nat
  | .check => 0
  | .checkConsume c => c
  | .waitConsume c _ => c
  | .consume c => c

/-- What the call consumes after a check. -/
def guarded : Call → Nat
  | .checkConsume c => c
  | .waitConsume c _ => c
  | _ => 0

/-- What the call consumes after a network wait. -/
def waited : Call → Nat
  | .waitConsume c _ => c
  | _ => 0

/-- What the call consumes with no check. -/
def unguarded : Call → Nat
  | .consume c => c
  | _ => 0

/-- The clock reading at which the consumption of a call made at `now` lands. -/
def landing (now : ℚ) : Call → ℚ
  | .waitConsume _ slept => now + slept
  | _ => now

/-- A network wait whose check returned `wait` sleeps at least that long. -/
def sleepsEnough (wait : ℚ) : Call → Prop
  | .waitConsume _ slept => 0 ≤ slept ∧ wait ≤ slept
  | _ => True

instance (wait : ℚ) : DecidablePred (sleepsEnough wait)
  | .check | .checkConsume _ | .consume _ => isTrue trivial
  | .waitConsume _ slept => inferInstanceAs (Decidable (0 ≤ slept ∧ wait ≤ slept))

end Call

/-- One call at clock reading `now`: the limiter after it, and what it consumed. -/
def RateLimiter.call (l : RateLimiter) (now : ℚ) : Call → RateLimiter × Nat
  | .check => ((l.checkWaitTime now).1, 0)
  | .checkConsume c =>
    let w := l.checkWaitTime now
    if w.2 ≤ 0 then (w.1.consume c, c) else (w.1, 0)
  | .waitConsume c _ => ((l.checkWaitTime now).1.consume c, c)
  | .consume c => (l.consume c, c)

/-- The calls come one after another: each at a clock reading no earlier than the one at which
the previous call's consumption landed, and each network wait sleeps at least the wait its
check returned. -/
def Sequential : ℚ → RateLimiter → List (ℚ × Call) → Prop
  | _, _, [] => True
  | τ, l, e :: es => τ ≤ e.1 ∧ e.2.sleepsEnough (l.checkWaitTime e.1).2 ∧
      Sequential (e.2.landing e.1) (l.call e.1 e.2).1 es

instance Sequential.decidable : ∀ τ l es, Decidable (Sequential τ l es)
  | _, _, [] => isTrue trivial
  | τ, l, e :: es =>
    haveI := Sequential.decidable (e.2.landing e.1) (l.call e.1 e.2).1 es
    inferInstanceAs (Decidable (τ ≤ e.1 ∧ e.2.sleepsEnough (l.checkWaitTime e.1).2 ∧ _))

end Rate

end Hopper
