import Hopper.Alloc.Params
import Mathlib.Tactic.FieldSimp
import Mathlib.Tactic.Ring
import Mathlib.Data.List.GetD

/-!
# Miss-ratio curves

`mrc.h`: a miss-ratio curve is a list of anchors `(ticks[i], miss_ratios[i])`.  A query at
any cache size returns the anchor's miss ratio at a tick, interpolates linearly between the
two anchors around it, uses the anchor `(0, 1)` below the first tick, and (with
`conservative_estimation_if_out_of_range`, a `constexpr true`) returns the last miss ratio
above the last tick.  `check_sanity` accepts a non-empty curve with equal lengths,
non-decreasing ticks and non-increasing miss ratios in `[0, 1]`.

`get_miss_ratio` memoizes `get_miss_ratio_const` in a map keyed by cache size; the tenant
operations are modelled with `getMissRatioConst`, the value every memo entry holds.

The allocator needs three facts of a sane curve: every query lies in `[0, 1]`, it is
positive when every anchor is, and it is non-increasing in the cache size.
-/

namespace Hopper

/-! ## Lookups with a default -/

lemma getLastD_eq_getD {α : Type} {l : List α} (d : α) (h : l ≠ []) :
    l.getLastD d = l.getD (l.length - 1) d := by
  rw [List.getLastD_eq_getLast?, List.getLast?_eq_getLast _ h, List.getLast_eq_getElem,
    List.getD_eq_getElem]; rfl

lemma headD_eq_getD {α : Type} (l : List α) (d : α) : l.headD d = l.getD 0 d := by
  cases l <;> rfl

lemma getD_mem {α : Type} {l : List α} (d : α) {i : Nat} (h : i < l.length) : l.getD i d ∈ l := by
  rw [List.getD_eq_getElem _ _ h]; exact List.getElem_mem h

/-! ## Curves -/

/-- `class MissRatioCurve` without its memo table. -/
structure MissRatioCurve where
  ticks : List Nat
  missRatios : List ℚ
  deriving DecidableEq, Repr

namespace MissRatioCurve

/-- `MissRatioCurve::interpolate`: the value at distance `lDist` from the left anchor and
`rDist` from the right one.  The clamp to `1` is off (`disable_interpolation_near_inf`). -/
def interpolate (lVal rVal : ℚ) (lDist rDist : Nat) : ℚ :=
  if disableInterpolationNearInf && decide (1 - lVal < epilson) then 1
  else
    let totalDist : ℚ := ((lDist + rDist : Nat) : ℚ)
    let lRatio := (rDist : ℚ) / totalDist
    let rRatio := (lDist : ℚ) / totalDist
    lVal * lRatio + rVal * rRatio

/-- `std::lower_bound` on the sorted ticks: the index of the first tick `≥ x`. -/
def lowerBound (ticks : List Nat) (x : Nat) : Nat := ticks.findIdx (fun t => decide (x ≤ t))

/-- `MissRatioCurve::get_miss_ratio_const`. -/
def getMissRatioConst (m : MissRatioCurve) (cacheSize : Nat) : ℚ :=
  if cacheSize > m.ticks.getLastD 0 then
    -- `conservative_estimation_if_out_of_range` is `true`: no `runtime_error` is thrown
    m.missRatios.getLastD 0
  else if cacheSize < m.ticks.headD 0 then
    interpolate 1 (m.missRatios.headD 0) cacheSize (m.ticks.headD 0 - cacheSize)
  else
    let tickIdx := lowerBound m.ticks cacheSize
    if cacheSize = m.ticks.getD tickIdx 0 then m.missRatios.getD tickIdx 0
    else
      interpolate (m.missRatios.getD (tickIdx - 1) 0) (m.missRatios.getD tickIdx 0)
        (cacheSize - m.ticks.getD (tickIdx - 1) 0) (m.ticks.getD tickIdx 0 - cacheSize)

/-- The loop of `check_sanity` over the anchors, with the running `min_tick` and `max_mr`. -/
def checkSanityLoop (maxTick : Nat) : Nat → ℚ → List (Nat × ℚ) → Except String Unit
  | _, _, [] => .ok ()
  | minTick, maxMr, (t, mr) :: rest =>
    if t < minTick || t > maxTick then .error "tick is out of range"
    else if mr < 0 || mr > maxMr then .error "miss_ratio is out of range"
    else checkSanityLoop maxTick t mr rest

/-- `MissRatioCurve::check_sanity`; `.error` is the thrown `logic_error`. -/
def checkSanity (m : MissRatioCurve) : Except String Unit :=
  if m.ticks.isEmpty then .error "ticks is empty"
  else if m.ticks.length ≠ m.missRatios.length then
    .error "ticks.size() and miss_ratios.size() mismatches"
  else checkSanityLoop (m.ticks.getLastD 0) (m.ticks.headD 0) 1 (m.ticks.zip m.missRatios)

/-- A curve that passes `check_sanity`. -/
def Sane (m : MissRatioCurve) : Prop := m.checkSanity = .ok ()

instance (m : MissRatioCurve) : Decidable m.Sane :=
  match h : m.checkSanity with
  | .ok () => isTrue h
  | .error _ => isFalse (by simp [Sane, h])

/-! ## Interpolation stays between its anchors -/

lemma interpolate_eq (l r : ℚ) (ld rd : Nat) :
    interpolate l r ld rd = (l * rd + r * ld) / ((ld + rd : Nat) : ℚ) := by
  simp only [interpolate, disableInterpolationNearInf, Bool.false_and, Bool.false_eq_true,
    if_false]
  ring

lemma interpolate_mem_Icc {lo hi l r : ℚ} {ld rd : Nat} (hl : lo ≤ l ∧ l ≤ hi)
    (hr : lo ≤ r ∧ r ≤ hi) (hd : 0 < ld + rd) :
    lo ≤ interpolate l r ld rd ∧ interpolate l r ld rd ≤ hi := by
  have hT : (0 : ℚ) < ((ld + rd : Nat) : ℚ) := by exact_mod_cast hd
  have hl0 : (0 : ℚ) ≤ ld := Nat.cast_nonneg ld
  have hr0 : (0 : ℚ) ≤ rd := Nat.cast_nonneg rd
  rw [interpolate_eq, le_div_iff₀ hT, div_le_iff₀ hT]
  push_cast
  constructor
  · linarith only [mul_le_mul_of_nonneg_right hl.1 hr0, mul_le_mul_of_nonneg_right hr.1 hl0]
  · linarith only [mul_le_mul_of_nonneg_right hl.2 hr0, mul_le_mul_of_nonneg_right hr.2 hl0]

/-! ## Sane curves -/

lemma checkSanityLoop_mem {maxTick minTick : Nat} {maxMr : ℚ} {l : List (Nat × ℚ)}
    (h : checkSanityLoop maxTick minTick maxMr l = .ok ()) (hmax : maxMr ≤ 1) :
    ∀ p ∈ l, 0 ≤ p.2 ∧ p.2 ≤ 1 := by
  induction l generalizing minTick maxMr with
  | nil => simp
  | cons a rest ih =>
    obtain ⟨t, mr⟩ := a
    simp only [checkSanityLoop] at h
    split at h
    · cases h
    · split at h
      · cases h
      · rename_i h2
        simp only [Bool.or_eq_true, decide_eq_true_eq, not_or, not_lt] at h2
        intro p hp
        rcases List.mem_cons.1 hp with rfl | hp
        · exact ⟨h2.1, h2.2.trans hmax⟩
        · exact ih h (h2.2.trans hmax) p hp

lemma Sane.length_eq {m : MissRatioCurve} (h : m.Sane) :
    m.ticks.length = m.missRatios.length := by
  unfold Sane checkSanity at h
  split at h
  · cases h
  · split at h
    · cases h
    · rename_i h2; exact not_not.1 h2

lemma Sane.ticks_ne_nil {m : MissRatioCurve} (h : m.Sane) : m.ticks ≠ [] := by
  unfold Sane checkSanity at h
  split at h
  · cases h
  · rename_i h1; simpa using h1

/-- Every miss ratio of a sane curve lies in `[0, 1]`. -/
lemma Sane.mem_Icc {m : MissRatioCurve} (h : m.Sane) {r : ℚ} (hr : r ∈ m.missRatios) :
    0 ≤ r ∧ r ≤ 1 := by
  have hlen := h.length_eq
  have hne := h.ticks_ne_nil
  unfold Sane checkSanity at h
  rw [if_neg (by simpa using hne), if_neg (by simpa using hlen)] at h
  obtain ⟨i, hi, rfl⟩ := List.getElem_of_mem hr
  have hi' : i < m.ticks.length := hlen ▸ hi
  have := checkSanityLoop_mem h le_rfl (m.ticks[i], m.missRatios[i])
    (List.mem_iff_getElem.2 ⟨i, by simpa using ⟨hi', hi⟩, by simp⟩)
  exact this

/-! ## The four ways a query is answered -/

/-- `lower_bound` of a size at most the last tick lands inside the ticks: every tick before it
is below the size, and the tick it lands on is not. -/
lemma Sane.lowerBound_spec {m : MissRatioCurve} (hm : m.Sane) {x : Nat}
    (hx : x ≤ m.ticks.getD (m.ticks.length - 1) 0) :
    lowerBound m.ticks x < m.ticks.length ∧ x ≤ m.ticks.getD (lowerBound m.ticks x) 0 ∧
      ∀ j < lowerBound m.ticks x, m.ticks.getD j 0 < x := by
  have hlt : lowerBound m.ticks x < m.ticks.length :=
    List.findIdx_lt_length_of_exists
      ⟨_, getD_mem 0 (Nat.sub_lt (List.length_pos.2 hm.ticks_ne_nil) one_pos), by simpa using hx⟩
  refine ⟨hlt, ?_, fun j hj => ?_⟩
  · rw [List.getD_eq_getElem _ _ hlt]; simpa using List.findIdx_getElem (w := hlt)
  · rw [List.getD_eq_getElem _ _ (hj.trans hlt)]
    simpa using List.not_of_lt_findIdx hj

/-- A query on a sane curve is answered by the last anchor, by the anchor `(0, 1)` and the
first one, by an anchor it hits (the first with that tick), or by the two anchors around it. -/
lemma Sane.getMissRatioConst_cases {m : MissRatioCurve} (hm : m.Sane) (x : Nat) :
    (m.ticks.getD (m.ticks.length - 1) 0 < x ∧
      m.getMissRatioConst x = m.missRatios.getD (m.ticks.length - 1) 0) ∨
    (x < m.ticks.getD 0 0 ∧
      m.getMissRatioConst x = interpolate 1 (m.missRatios.getD 0 0) x (m.ticks.getD 0 0 - x)) ∨
    (∃ i < m.ticks.length, x = m.ticks.getD i 0 ∧ (∀ j < i, m.ticks.getD j 0 < x) ∧
      m.getMissRatioConst x = m.missRatios.getD i 0) ∨
    (∃ i < m.ticks.length, 0 < i ∧ m.ticks.getD (i - 1) 0 < x ∧ x < m.ticks.getD i 0 ∧
      m.getMissRatioConst x = interpolate (m.missRatios.getD (i - 1) 0) (m.missRatios.getD i 0)
        (x - m.ticks.getD (i - 1) 0) (m.ticks.getD i 0 - x)) := by
  have hne := hm.ticks_ne_nil
  have hlen := hm.length_eq
  have hmne : m.missRatios ≠ [] := fun h => hne (List.length_eq_zero.1 (by simp [hlen, h]))
  unfold getMissRatioConst
  rw [getLastD_eq_getD 0 hne, getLastD_eq_getD 0 hmne, ← hlen, headD_eq_getD, headD_eq_getD]
  by_cases hA : m.ticks.getD (m.ticks.length - 1) 0 < x
  · exact .inl ⟨hA, by rw [if_pos hA]⟩
  rw [if_neg hA]
  by_cases hB : x < m.ticks.getD 0 0
  · exact .inr (.inl ⟨hB, by rw [if_pos hB]⟩)
  rw [if_neg hB]
  obtain ⟨hlt, hge, hbefore⟩ := hm.lowerBound_spec (not_lt.1 hA)
  by_cases hC : x = m.ticks.getD (lowerBound m.ticks x) 0
  · exact .inr (.inr (.inl ⟨_, hlt, hC, hbefore, by simp only [if_pos hC]⟩))
  have hpos : 0 < lowerBound m.ticks x :=
    Nat.pos_of_ne_zero fun h0 => hC (le_antisymm (h0 ▸ hge) (by rw [h0]; omega))
  exact .inr (.inr (.inr ⟨_, hlt, hpos, hbefore _ (Nat.sub_lt hpos one_pos),
    lt_of_le_of_ne hge hC, by simp only [if_neg hC]⟩))

/-- Every query on a sane curve lies between bounds that hold for `1` and every anchor. -/
lemma Sane.getMissRatioConst_mem_Icc {m : MissRatioCurve} (hm : m.Sane) {lo hi : ℚ}
    (h1 : lo ≤ 1 ∧ 1 ≤ hi) (hr : ∀ r ∈ m.missRatios, lo ≤ r ∧ r ≤ hi) (x : Nat) :
    lo ≤ m.getMissRatioConst x ∧ m.getMissRatioConst x ≤ hi := by
  have hlen := hm.length_eq
  have hn := List.length_pos.2 hm.ticks_ne_nil
  rcases hm.getMissRatioConst_cases x with ⟨-, h⟩ | ⟨hx, h⟩ | ⟨i, hi, -, -, h⟩ |
      ⟨i, hi, -, hl, hx, h⟩ <;> rw [h]
  · exact hr _ (getD_mem 0 (by omega))
  · exact interpolate_mem_Icc h1 (hr _ (getD_mem 0 (by omega))) (by omega)
  · exact hr _ (getD_mem 0 (hlen ▸ hi))
  · exact interpolate_mem_Icc (hr _ (getD_mem 0 (by omega))) (hr _ (getD_mem 0 (hlen ▸ hi)))
      (by omega)

/-- A sane curve answers every query in `[0, 1]`. -/
lemma Sane.getMissRatioConst_nonneg_le_one {m : MissRatioCurve} (hm : m.Sane) (x : Nat) :
    0 ≤ m.getMissRatioConst x ∧ m.getMissRatioConst x ≤ 1 :=
  hm.getMissRatioConst_mem_Icc ⟨zero_le_one, le_rfl⟩ (fun _ h => hm.mem_Icc h) x

lemma interpolate_pos {l r : ℚ} {ld rd : Nat} (hl : 0 < l) (hr : 0 < r) (hd : 0 < ld + rd) :
    0 < interpolate l r ld rd := by
  rw [interpolate_eq]
  apply div_pos _ (by exact_mod_cast hd)
  rcases Nat.eq_zero_or_pos rd with h | h
  · subst h
    rw [Nat.cast_zero, mul_zero, zero_add]
    exact mul_pos hr (by exact_mod_cast hd)
  · exact add_pos_of_pos_of_nonneg (mul_pos hl (by exact_mod_cast h)) (mul_nonneg hr.le ld.cast_nonneg)

/-- A sane curve with positive anchors answers every query with a positive miss ratio. -/
lemma Sane.getMissRatioConst_pos {m : MissRatioCurve} (hm : m.Sane)
    (hr : ∀ r ∈ m.missRatios, 0 < r) (x : Nat) : 0 < m.getMissRatioConst x := by
  have hlen := hm.length_eq
  have hn := List.length_pos.2 hm.ticks_ne_nil
  rcases hm.getMissRatioConst_cases x with ⟨-, h⟩ | ⟨hx, h⟩ | ⟨i, hi, -, -, h⟩ |
      ⟨i, hi, -, hl, hx, h⟩ <;> rw [h]
  · exact hr _ (getD_mem 0 (by omega))
  · exact interpolate_pos one_pos (hr _ (getD_mem 0 (by omega))) (by omega)
  · exact hr _ (getD_mem 0 (hlen ▸ hi))
  · exact interpolate_pos (hr _ (getD_mem 0 (by omega))) (hr _ (getD_mem 0 (hlen ▸ hi)))
      (by omega)

/-! ## Sane curves are non-increasing -/

lemma checkSanityLoop_pairwise {maxTick minTick : Nat} {maxMr : ℚ} {l : List (Nat × ℚ)}
    (h : checkSanityLoop maxTick minTick maxMr l = .ok ()) :
    (∀ q ∈ l, minTick ≤ q.1 ∧ q.2 ≤ maxMr) ∧
      l.Pairwise (fun a b => a.1 ≤ b.1 ∧ b.2 ≤ a.2) := by
  induction l generalizing minTick maxMr with
  | nil => simp
  | cons a rest ih =>
    obtain ⟨t, mr⟩ := a
    simp only [checkSanityLoop] at h
    split at h
    · cases h
    · split at h
      · cases h
      · rename_i h1 h2
        simp only [Bool.or_eq_true, decide_eq_true_eq, not_or, not_lt] at h1 h2
        obtain ⟨ih1, ih2⟩ := ih h
        refine ⟨fun q hq => ?_, List.pairwise_cons.2 ⟨ih1, ih2⟩⟩
        rcases List.mem_cons.1 hq with rfl | hq
        · exact ⟨h1.1, h2.2⟩
        · exact ⟨h1.1.trans (ih1 q hq).1, (ih1 q hq).2.trans h2.2⟩

/-- Along a sane curve ticks do not decrease and miss ratios do not increase. -/
lemma Sane.mono {m : MissRatioCurve} (hm : m.Sane) {i j : Nat} (hij : i ≤ j)
    (hj : j < m.ticks.length) :
    m.ticks.getD i 0 ≤ m.ticks.getD j 0 ∧ m.missRatios.getD j 0 ≤ m.missRatios.getD i 0 := by
  have hlen := hm.length_eq
  rcases hij.lt_or_eq with h | rfl
  · have hi : i < m.ticks.length := h.trans hj
    have hz : (m.ticks.zip m.missRatios).length = m.ticks.length := by simp [hlen]
    have hne := hm.ticks_ne_nil
    unfold Sane checkSanity at hm
    rw [if_neg (by simpa using hne), if_neg (by simpa using hlen)] at hm
    have := List.pairwise_iff_getElem.1 (checkSanityLoop_pairwise hm).2 i j (hz ▸ hi) (hz ▸ hj) h
    rw [List.getD_eq_getElem _ _ hi, List.getD_eq_getElem _ _ hj,
      List.getD_eq_getElem _ _ (hlen ▸ hi : i < m.missRatios.length),
      List.getD_eq_getElem _ _ (hlen ▸ hj : j < m.missRatios.length)]
    simpa using this
  · exact ⟨le_rfl, le_rfl⟩

lemma Sane.lt_of_tick_lt {m : MissRatioCurve} (hm : m.Sane) {i j : Nat}
    (hi : i < m.ticks.length) (h : m.ticks.getD i 0 < m.ticks.getD j 0) : i < j :=
  Nat.lt_of_not_le fun hji => absurd (hm.mono hji hi).1 (not_le.2 h)

lemma interpolate_succ_le {l r : ℚ} (h : r ≤ l) (d e : Nat) :
    interpolate l r (d + 1) e ≤ interpolate l r d (e + 1) := by
  rw [interpolate_eq, interpolate_eq, show d + 1 + e = d + (e + 1) by omega]
  apply div_le_div_of_nonneg_right _ (Nat.cast_nonneg _)
  push_cast; linarith

lemma interpolate_between {l r : ℚ} {ld rd : Nat} (h : r ≤ l) (hd : 0 < ld + rd) :
    r ≤ interpolate l r ld rd ∧ interpolate l r ld rd ≤ l :=
  interpolate_mem_Icc ⟨h, le_rfl⟩ ⟨le_rfl, h⟩ hd

/-- One more unit of cache never raises the miss ratio of a sane curve: compare the ways
the two queries are answered. -/
lemma Sane.getMissRatioConst_succ_le {m : MissRatioCurve} (hm : m.Sane) (x : Nat) :
    m.getMissRatioConst (x + 1) ≤ m.getMissRatioConst x := by
  have hlen := hm.length_eq
  have hn : 0 < m.ticks.length := List.length_pos.2 hm.ticks_ne_nil
  have hM : ∀ i < m.ticks.length, m.missRatios.getD i 0 ≤ 1 :=
    fun i hi => (hm.mem_Icc (getD_mem 0 (hlen ▸ hi))).2
  have hTL : ∀ i < m.ticks.length, m.ticks.getD i 0 ≤ m.ticks.getD (m.ticks.length - 1) 0 :=
    fun i hi => (hm.mono (Nat.le_sub_one_of_lt hi) (by omega)).1
  have hT0 : ∀ i < m.ticks.length, m.ticks.getD 0 0 ≤ m.ticks.getD i 0 :=
    fun i hi => (hm.mono (Nat.zero_le i) hi).1
  rcases hm.getMissRatioConst_cases (x + 1) with ⟨hy, fy⟩ | ⟨hy, fy⟩ | ⟨j, hj, hy, hb, fy⟩ |
      ⟨j, hj, hj0, hl', hr', fy⟩ <;> rw [fy]
  · -- `x + 1` is above the last tick
    rcases hm.getMissRatioConst_cases x with ⟨hx, fx⟩ | ⟨hx, fx⟩ | ⟨i, hi, hx, -, fx⟩ |
        ⟨i, hi, -, -, hr, fx⟩ <;> rw [fx]
    · have := hT0 _ (Nat.sub_lt hn one_pos); omega
    · exact (hm.mono (Nat.le_sub_one_of_lt hi) (by omega)).2
    · have := hTL i hi; omega
  · -- `x + 1` is below the first tick, and so is `x`
    rcases hm.getMissRatioConst_cases x with ⟨hx, fx⟩ | ⟨hx, fx⟩ | ⟨i, hi, hx, -, fx⟩ |
        ⟨i, hi, -, hl, -, fx⟩ <;> rw [fx]
    · have := hT0 _ (Nat.sub_lt hn one_pos); omega
    · rw [show m.ticks.getD 0 0 - x = m.ticks.getD 0 0 - (x + 1) + 1 by omega]
      exact interpolate_succ_le (hM 0 hn) _ _
    · have := hT0 i hi; omega
    · have := hT0 (i - 1) (by omega); omega
  · -- `x + 1` hits the tick at `j`
    rcases hm.getMissRatioConst_cases x with ⟨hx, fx⟩ | ⟨hx, fx⟩ | ⟨i, hi, hx, -, fx⟩ |
        ⟨i, hi, hi0, hl, hr, fx⟩ <;> rw [fx]
    · have := hTL j hj; omega
    · obtain rfl : j = 0 := Nat.eq_zero_of_not_pos fun h => by have := hb 0 h; omega
      exact (interpolate_between (hM 0 hn) (by omega)).1
    · exact (hm.mono (hm.lt_of_tick_lt hi (by omega)).le hj).2
    · have hij := hm.lt_of_tick_lt (show i - 1 < m.ticks.length by omega)
        (show m.ticks.getD (i - 1) 0 < m.ticks.getD j 0 by omega)
      refine (hm.mono (show i ≤ j by omega) hj).2.trans
        (interpolate_between (hm.mono (Nat.sub_le i 1) hi).2 ?_).1
      omega
  · -- `x + 1` lies strictly between the ticks at `j - 1` and `j`
    rcases hm.getMissRatioConst_cases x with ⟨hx, fx⟩ | ⟨hx, fx⟩ | ⟨i, hi, hx, -, fx⟩ |
        ⟨i, hi, hi0, hl, hr, fx⟩ <;> rw [fx]
    · have := hTL j hj; omega
    · have := hT0 (j - 1) (by omega); omega
    · have hij := hm.lt_of_tick_lt hi (show m.ticks.getD i 0 < m.ticks.getD j 0 by omega)
      refine (interpolate_between (hm.mono (Nat.sub_le j 1) hj).2 ?_).2.trans
        (hm.mono (show i ≤ j - 1 by omega) (by omega)).2
      omega
    · have h1 := hm.lt_of_tick_lt (show i - 1 < m.ticks.length by omega)
        (show m.ticks.getD (i - 1) 0 < m.ticks.getD j 0 by omega)
      have h2 := hm.lt_of_tick_lt (show j - 1 < m.ticks.length by omega)
        (show m.ticks.getD (j - 1) 0 < m.ticks.getD i 0 by omega)
      obtain rfl : j = i := by omega
      rw [show x + 1 - m.ticks.getD (j - 1) 0 = x - m.ticks.getD (j - 1) 0 + 1 by omega,
        show m.ticks.getD j 0 - x = m.ticks.getD j 0 - (x + 1) + 1 by omega]
      exact interpolate_succ_le (hm.mono (Nat.sub_le j 1) hj).2 _ _

/-- A sane curve is non-increasing in the cache size. -/
lemma Sane.getMissRatioConst_antitone {m : MissRatioCurve} (hm : m.Sane) :
    Antitone m.getMissRatioConst :=
  antitone_nat_of_succ_le hm.getMissRatioConst_succ_le

end MissRatioCurve

end Hopper
