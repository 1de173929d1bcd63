import Hopper.Rate.Limiter
import Mathlib.Tactic.Linarith
import Mathlib.Tactic.LinearCombination

/-!
# What a rate limiter lets through

Within one frame a check passes only while the consumption recorded since the frame began is
covered by the rate times the time elapsed in the frame.  The consumption that follows a
passing check is not bounded by the limiter, so each frame can overshoot by one charge; and
unguarded consumption is not bounded at all.  A network wait adds one more charge per frame:
its consume lands after the sleep, when the progress is covered by the rate up to the landing,
but the landing may come after the frame has ended, where the next check no longer sees it.
So if every charge after a check is at most `C` and every charge after a network wait at most
`D`, over any window of length `T` the limiter lets land at most
`r * (T + F) + (T / F + 2) * (C + D)` after checks, `F` the frame length, besides the
unguarded consumption (`consumedIn_le`).

The proof is by a potential, in two parts.  `frameBudget` bounds what can still land in the
window within the frames the checks saw: a frame is charged `r * F + C + D` in advance, and
the consumption after checks in a frame never exceeds that.  `lateBudget` holds the one
network charge that can land in the window after its frame ended before the window began.  A
consumption landing in the window spends its amount of one of the two, and nothing raises
either, a new frame included (`Good.call`).
-/

namespace Hopper

namespace Rate

open RateLimiter

/-! ## `fmod` and the frame grid -/

theorem fmod_nonneg {x y : ℚ} (hy : 0 < y) : 0 ≤ fmod x y := by
  have h := mul_le_mul_of_nonneg_left (Int.floor_le (x / y)) hy.le
  rw [mul_div_cancel₀ _ hy.ne'] at h
  unfold fmod; linarith

theorem fmod_lt {x y : ℚ} (hy : 0 < y) : fmod x y < y := by
  have h := mul_lt_mul_of_pos_left (Int.lt_floor_add_one (x / y)) hy
  rw [mul_add, mul_div_cancel₀ _ hy.ne', mul_one] at h
  unfold fmod; linarith

/-- A new frame starts at least one frame after the old one. -/
theorem le_sub_fmod {x y : ℚ} (hy : 0 < y) (hx : y ≤ x) : y ≤ x - fmod x y := by
  have h1 : (1 : ℤ) ≤ ⌊x / y⌋ := Int.le_floor.2 (by rw [Int.cast_one, le_div_iff₀ hy]; linarith)
  have h2 : (1 : ℚ) ≤ ⌊x / y⌋ := by exact_mod_cast h1
  rw [fmod, sub_sub_cancel]
  exact le_mul_of_one_le_right hy.le h2

/-! ## The potential -/

/-- A limiter at rate `r` whose frame began by clock reading `τ`, where the last consumption
landed, and `pg`, the consumption after checks since the frame began.  `pg` is at most the
progress.  It is at most a frame's worth plus one charge after a check, and one more charge
after a network wait once the frame is over at `τ`. -/
structure Good (r : ℚ) (C D : Nat) (τ : ℚ) (l : RateLimiter) (pg : Nat) : Prop where
  rate : l.rate = r
  proposedRate : l.proposedRate = r
  begin_le : l.timeFrameBegin ≤ τ
  pg_le : pg ≤ l.timeFrameProgress
  pg_le_frame : (pg : ℚ) ≤ r * timeFrameLenSec + C + D
  pg_le_open : τ < l.timeFrameBegin + timeFrameLenSec → (pg : ℚ) ≤ r * timeFrameLenSec + C

/-- What checks can still let land in `[t0, t1]` within the frames they saw, for charges of at
most `C` after a check and `D` after a network wait: the rate plus one charge of each kind per
frame, over the frames from the current one (or the first one that meets the window), less what
the current frame has already let through. -/
def frameBudget (r t0 t1 : ℚ) (C D : Nat) (l : RateLimiter) (pg : Nat) : ℚ :=
  max 0 ((r + (C + D) / timeFrameLenSec) *
      (t1 - max l.timeFrameBegin (t0 - timeFrameLenSec)) + C -
    if t0 < l.timeFrameBegin + timeFrameLenSec then (pg : ℚ) else 0)

/-- The one charge after a network wait that can still land in `[t0, t1]` although the frame
its check saw ended before `t0`: only while nothing has landed at `t0` or later. -/
def lateBudget (t0 : ℚ) (D : Nat) (τ : ℚ) (l : RateLimiter) : ℚ :=
  if l.timeFrameBegin + timeFrameLenSec ≤ t0 ∧ τ < t0 then (D : ℚ) else 0

/-- What checks can still let land in `[t0, t1]`. -/
def budget (r t0 t1 : ℚ) (C D : Nat) (τ : ℚ) (l : RateLimiter) (pg : Nat) : ℚ :=
  frameBudget r t0 t1 C D l pg + lateBudget t0 D τ l

/-- More consumption in the same frame leaves less budget. -/
theorem frameBudget_anti {r t0 t1 : ℚ} {C D : Nat} {l l' : RateLimiter} {pg pg' : Nat}
    (hb : l'.timeFrameBegin = l.timeFrameBegin) (hpg : pg ≤ pg') :
    frameBudget r t0 t1 C D l' pg' ≤ frameBudget r t0 t1 C D l pg := by
  unfold frameBudget
  rw [hb]
  refine max_le_max le_rfl (sub_le_sub_left ?_ _)
  split_ifs
  · exact_mod_cast hpg
  · exact le_rfl

/-- A later landing, or a later frame, leaves no more late budget. -/
theorem lateBudget_anti {t0 τ τ' : ℚ} {D : Nat} {l l' : RateLimiter}
    (hb : l.timeFrameBegin ≤ l'.timeFrameBegin) (hτ : τ ≤ τ') :
    lateBudget t0 D τ' l' ≤ lateBudget t0 D τ l := by
  unfold lateBudget
  by_cases h : l'.timeFrameBegin + timeFrameLenSec ≤ t0 ∧ τ' < t0
  · rw [if_pos h, if_pos ⟨by linarith only [hb, h.1], hτ.trans_lt h.2⟩]
  · rw [if_neg h]
    split_ifs <;> positivity

theorem budget_anti {r t0 t1 τ τ' : ℚ} {C D : Nat} {l l' : RateLimiter} {pg pg' : Nat}
    (hb : l'.timeFrameBegin = l.timeFrameBegin) (hτ : τ ≤ τ') (hpg : pg ≤ pg') :
    budget r t0 t1 C D τ' l' pg' ≤ budget r t0 t1 C D τ l pg :=
  add_le_add (frameBudget_anti hb hpg) (lateBudget_anti hb.ge hτ)

section call

variable {r t0 t1 : ℚ} {C D : Nat} {τ now : ℚ} {l : RateLimiter} {pg : Nat}

theorem rate_add_mul_frame :
    (r + (C + D) / timeFrameLenSec) * timeFrameLenSec = r * timeFrameLenSec + C + D := by
  rw [add_mul, div_mul_cancel₀ _ timeFrameLenSec_pos.ne', add_assoc]

/-- A new frame, starting at least one frame after the old one, leaves no more frame budget:
the old frame is charged a frame's worth and one charge of each kind in advance, and its
consumption after checks never exceeds that. -/
theorem frameBudget_newFrame (hr : 0 < r) (t0 t1 : ℚ) {b' : ℚ}
    (hb' : l.timeFrameBegin + timeFrameLenSec ≤ b')
    (hpg : (pg : ℚ) ≤ r * timeFrameLenSec + C + D) :
    max 0 ((r + (C + D) / timeFrameLenSec) * (t1 - max b' (t0 - timeFrameLenSec)) + C) ≤
      frameBudget r t0 t1 C D l pg := by
  have hK : 0 ≤ r + (C + D) / timeFrameLenSec := by have := timeFrameLenSec_pos; positivity
  refine max_le_max le_rfl ?_
  split_ifs with h0
  · rw [max_eq_left (by linarith only [h0] : t0 - timeFrameLenSec ≤ l.timeFrameBegin)]
    have hmul := mul_le_mul_of_nonneg_left
      (by linarith only [le_max_left b' (t0 - timeFrameLenSec), hb'] :
        t1 - max b' (t0 - timeFrameLenSec) ≤ t1 - l.timeFrameBegin - timeFrameLenSec) hK
    linarith only [hmul, rate_add_mul_frame (r := r) (C := C) (D := D), hpg]
  · rw [max_eq_right (by linarith only [h0] : l.timeFrameBegin ≤ t0 - timeFrameLenSec)]
    have hmul := mul_le_mul_of_nonneg_left
      (by linarith only [le_max_right b' (t0 - timeFrameLenSec)] :
        t1 - max b' (t0 - timeFrameLenSec) ≤ t1 - (t0 - timeFrameLenSec)) hK
    linarith only [hmul]

/-- A check starts a new frame or keeps the current one; either way the limiter stays good,
its progress does not grow, the elapsed time is measured from the frame's beginning and is
below a frame, and the budget does not grow. -/
theorem Good.update (hr : 0 < r) (hg : Good r C D τ l pg) (hτ : τ ≤ now) :
    ∃ pg', Good r C D now (l.updateTimeFrame now).1 pg' ∧
      (l.updateTimeFrame now).1.timeFrameProgress ≤ l.timeFrameProgress ∧
      (l.updateTimeFrame now).2 = now - (l.updateTimeFrame now).1.timeFrameBegin ∧
      (l.updateTimeFrame now).2 < timeFrameLenSec ∧
      ∀ t0 t1 : ℚ, budget r t0 t1 C D now (l.updateTimeFrame now).1 pg' ≤
        budget r t0 t1 C D τ l pg := by
  have hF := timeFrameLenSec_pos
  by_cases hnew : timeFrameLenSec ≤ now - l.timeFrameBegin
  · have hb' := le_sub_fmod hF hnew
    have he0 : 0 ≤ fmod (now - l.timeFrameBegin) timeFrameLenSec := fmod_nonneg hF
    set e := fmod (now - l.timeFrameBegin) timeFrameLenSec
    have hu : l.updateTimeFrame now = (⟨r, 0, now - e, r⟩, e) := by
      simp [updateTimeFrame, hnew, hg.rate, hg.proposedRate, e]
    rw [hu]
    refine ⟨0, ⟨rfl, rfl, show now - e ≤ now by linarith only [he0], le_rfl, by positivity,
      fun _ => by positivity⟩, Nat.zero_le _, by ring, fmod_lt hF,
      fun t0 t1 => add_le_add ?_ ?_⟩
    · have := frameBudget_newFrame hr t0 t1
        (by linarith only [hb'] : l.timeFrameBegin + timeFrameLenSec ≤ now - e) hg.pg_le_frame
      simpa only [frameBudget, Nat.cast_zero, ite_self, sub_zero] using this
    · exact lateBudget_anti (show l.timeFrameBegin ≤ now - e by linarith only [hb', hF]) hτ
  · have hu : l.updateTimeFrame now = (l, now - l.timeFrameBegin) := if_neg hnew
    have hopen : now < l.timeFrameBegin + timeFrameLenSec := by linarith only [hnew]
    rw [hu]
    exact ⟨pg, ⟨hg.rate, hg.proposedRate, hg.begin_le.trans hτ, hg.pg_le, hg.pg_le_frame,
        fun _ => hg.pg_le_open (hτ.trans_lt hopen)⟩,
      le_rfl, rfl, lt_of_not_le hnew, fun _ _ => budget_anti rfl hτ le_rfl⟩

/-- A check at `now` whose wait is at most `s - now` leaves a progress covered by the rate over
the time from the frame's beginning to `s`. -/
theorem progress_le_of_wait_le (hr : 0 < r) {s : ℚ}
    (hrate : (l.updateTimeFrame now).1.rate = r)
    (he : (l.updateTimeFrame now).2 = now - (l.updateTimeFrame now).1.timeFrameBegin)
    (hw : (l.checkWaitTime now).2 ≤ s - now) :
    ((l.updateTimeFrame now).1.timeFrameProgress : ℚ) ≤
      r * (s - (l.updateTimeFrame now).1.timeFrameBegin) := by
  rw [checkWaitTime, hrate, he, sub_le_iff_le_add, div_le_iff₀ hr] at hw
  linarith only [hw]

/-- A consumption inside the window that the frame's `-pg` term sees spends its amount of the
frame budget: the progress before it is covered by the rate up to where it lands. -/
theorem frameBudget_consume (hr : 0 < r) {s : ℚ} {c : Nat} (hc : c ≤ C)
    (hwin : t0 ≤ s ∧ s ≤ t1) (h0 : t0 < l.timeFrameBegin + timeFrameLenSec)
    (hb : l.timeFrameBegin ≤ s) (hpg : pg ≤ l.timeFrameProgress)
    (hpe : (l.timeFrameProgress : ℚ) ≤ r * (s - l.timeFrameBegin)) :
    c + frameBudget r t0 t1 C D (l.consume c) (pg + c) ≤ frameBudget r t0 t1 C D l pg := by
  have hpg' : (pg : ℚ) ≤ l.timeFrameProgress := by exact_mod_cast hpg
  have hc' : (c : ℚ) ≤ C := by exact_mod_cast hc
  have hR : r * (s - l.timeFrameBegin) ≤
      (r + (C + D) / timeFrameLenSec) * (t1 - l.timeFrameBegin) := by
    have h1 := mul_le_mul_of_nonneg_left (by linarith only [hwin.2] :
      s - l.timeFrameBegin ≤ t1 - l.timeFrameBegin) hr.le
    have h2 := mul_nonneg (by have := timeFrameLenSec_pos; positivity :
      (0 : ℚ) ≤ (C + D) / timeFrameLenSec) (by linarith only [hwin.2, hb] :
        (0 : ℚ) ≤ t1 - l.timeFrameBegin)
    linarith only [h1, h2]
  unfold frameBudget
  simp only [RateLimiter.consume]
  rw [if_pos h0, if_pos h0, max_eq_left (by linarith only [h0] :
    t0 - timeFrameLenSec ≤ l.timeFrameBegin), Nat.cast_add]
  set A := (r + (C + D) / timeFrameLenSec) * (t1 - l.timeFrameBegin) + C
  have hA : 0 ≤ A - (pg + c) := by simp only [A]; linarith only [hR, hpe, hpg', hc']
  rw [max_eq_right hA]
  linarith only [le_max_right 0 (A - pg)]

/-- A consumption of at most `C` after a check at `now`, landing at `s` with the progress
covered up to `s`, keeps the limiter good and spends its amount of the budget when it lands in
the window.  A landing after the frame is over (only a network wait's) must be at most `D`:
the frame budget pays for it while the window meets the frame, the late budget once the window
starts after the frame. -/
theorem Good.land (hr : 0 < r) (hg : Good r C D now l pg)
    (hopen : now < l.timeFrameBegin + timeFrameLenSec) {s : ℚ} (hs : now ≤ s)
    (hpe : (l.timeFrameProgress : ℚ) ≤ r * (s - l.timeFrameBegin)) {c : Nat} (hc : c ≤ C)
    (hlate : s < l.timeFrameBegin + timeFrameLenSec ∨ c ≤ D)
    (h64 : l.timeFrameProgress + c < 2 ^ 64) :
    Good r C D s (l.consume c) (pg + c) ∧
      ∀ t0 t1 : ℚ, (if t0 ≤ s ∧ s ≤ t1 then (c : ℚ) else 0) +
          budget r t0 t1 C D s (l.consume c) (pg + c) ≤ budget r t0 t1 C D now l pg := by
  have hF := timeFrameLenSec_pos
  have hp' : (l.consume c).timeFrameProgress = l.timeFrameProgress + c := Nat.mod_eq_of_lt h64
  have hpg : (pg : ℚ) ≤ l.timeFrameProgress := by exact_mod_cast hg.pg_le
  have hc' : (c : ℚ) ≤ C := by exact_mod_cast hc
  have hopen' := hg.pg_le_open hopen
  have hfits :
      s < l.timeFrameBegin + timeFrameLenSec → (pg : ℚ) + c ≤ r * timeFrameLenSec + C :=
    fun h => by
      have := mul_le_mul_of_nonneg_left (by linarith only [h] :
        s - l.timeFrameBegin ≤ timeFrameLenSec) hr.le
      linarith only [this, hpe, hpg, hc']
  refine ⟨⟨hg.rate, hg.proposedRate, hg.begin_le.trans hs,
    hp' ▸ Nat.add_le_add_right hg.pg_le c, ?_, fun h => by push_cast; exact hfits h⟩,
    fun t0 t1 => ?_⟩
  · push_cast
    rcases hlate with h | h
    · linarith only [hfits h, (Nat.cast_nonneg D : (0 : ℚ) ≤ D)]
    · linarith only [hopen', (by exact_mod_cast h : (c : ℚ) ≤ D)]
  have hlate' : lateBudget t0 D s (l.consume c) ≤ lateBudget t0 D now l :=
    lateBudget_anti le_rfl hs
  have hframe : frameBudget r t0 t1 C D (l.consume c) (pg + c) ≤ frameBudget r t0 t1 C D l pg :=
    frameBudget_anti rfl (Nat.le_add_right pg c)
  unfold budget
  split_ifs with hwin
  · by_cases h0 : t0 < l.timeFrameBegin + timeFrameLenSec
    · linarith only [frameBudget_consume (D := D) hr hc hwin h0 (hg.begin_le.trans hs) hg.pg_le
        hpe, hlate']
    · -- the frame is over before the window starts: the late budget pays
      have hD : (c : ℚ) ≤ D := by
        rcases hlate with h | h
        · exact absurd (by linarith only [h, hwin.1]) h0
        · exact_mod_cast h
      have hL : lateBudget t0 D now l = D :=
        if_pos ⟨le_of_not_lt h0, by linarith only [hopen, h0]⟩
      have hL' : lateBudget t0 D s (l.consume c) = 0 := if_neg fun h => absurd hwin.1 (not_le.2 h.2)
      linarith only [hframe, hL, hL', hD]
  · linarith only [hframe, hlate']

/-- One call lets through, inside the window and after a check, at most what it spends of the
budget, and the limiter stays good with its progress grown by at most the call's charge. -/
theorem Good.call (hr : 0 < r) (hg : Good r C D τ l pg) (hτ : τ ≤ now) (c : Call)
    (hsleep : c.sleepsEnough (l.checkWaitTime now).2) (hc : c.guarded ≤ C) (hd : c.waited ≤ D)
    (h64 : l.timeFrameProgress + c.charge < 2 ^ 64) :
    ∃ pg', Good r C D (c.landing now) (l.call now c).1 pg' ∧
      (l.call now c).1.timeFrameProgress ≤ l.timeFrameProgress + c.charge ∧
      ∀ t0 t1 : ℚ,
        (if t0 ≤ c.landing now ∧ c.landing now ≤ t1 then ((l.call now c).2 : ℚ) else 0) +
            budget r t0 t1 C D (c.landing now) (l.call now c).1 pg' ≤
          budget r t0 t1 C D τ l pg + if t0 ≤ now ∧ now ≤ t1 then (c.unguarded : ℚ) else 0 := by
  obtain ⟨pgU, hgU, hp, he, helt, hb⟩ := hg.update hr hτ
  set u := l.updateTimeFrame now
  have hopen : now < u.1.timeFrameBegin + timeFrameLenSec := by linarith only [he, helt]
  cases c with
  | check =>
    refine ⟨pgU, hgU, by simpa [RateLimiter.call, checkWaitTime, Call.charge] using hp,
      fun t0 t1 => ?_⟩
    simpa [RateLimiter.call, checkWaitTime, Call.unguarded, Call.landing] using hb t0 t1
  | consume c =>
    have hp' : (l.consume c).timeFrameProgress = l.timeFrameProgress + c := Nat.mod_eq_of_lt h64
    refine ⟨pg, ⟨hg.rate, hg.proposedRate, hg.begin_le.trans hτ,
      hp' ▸ hg.pg_le.trans (Nat.le_add_right _ _), hg.pg_le_frame,
      fun h => hg.pg_le_open (hτ.trans_lt h)⟩, hp'.le, fun t0 t1 => ?_⟩
    simp only [RateLimiter.call, Call.unguarded, Call.landing]
    have : budget r t0 t1 C D now (l.consume c) pg ≤ budget r t0 t1 C D τ l pg :=
      budget_anti rfl hτ le_rfl
    linarith only [this]
  | checkConsume c =>
    simp only [Call.guarded, Call.charge, Call.unguarded, Call.landing] at hc h64 ⊢
    by_cases hw : (l.checkWaitTime now).2 ≤ 0
    · have hpe := progress_le_of_wait_le hr hgU.rate he (by rwa [sub_self])
      obtain ⟨hg', hland⟩ := hgU.land hr hopen le_rfl hpe hc (Or.inl hopen) (by omega)
      have hcall : l.call now (.checkConsume c) = (u.1.consume c, c) := if_pos hw
      rw [hcall]
      exact ⟨pgU + c, hg', (Nat.mod_le _ _).trans (Nat.add_le_add_right hp c),
        fun t0 t1 => by simpa using (hland t0 t1).trans (hb t0 t1)⟩
    · have hcall : l.call now (.checkConsume c) = (u.1, 0) := if_neg hw
      rw [hcall]
      exact ⟨pgU, hgU, hp.trans (Nat.le_add_right _ _), fun t0 t1 => by simpa using hb t0 t1⟩
  | waitConsume c slept =>
    simp only [Call.guarded, Call.waited, Call.charge, Call.unguarded, Call.landing,
      Call.sleepsEnough] at hc hd h64 hsleep ⊢
    have hpe := progress_le_of_wait_le (s := now + slept) hr hgU.rate he
      (by linarith only [hsleep.2])
    obtain ⟨hg', hland⟩ := hgU.land hr hopen (by linarith only [hsleep.1]) hpe hc (Or.inr hd)
      (by omega)
    exact ⟨pgU + c, hg', (Nat.mod_le _ _).trans (Nat.add_le_add_right hp c),
      fun t0 t1 => by simpa using (hland t0 t1).trans (hb t0 t1)⟩

end call

end Rate

end Hopper
