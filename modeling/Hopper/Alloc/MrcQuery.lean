import Hopper.Alloc.Mrc

/-!
# What a query on a miss-ratio curve answers

`Alloc/Mrc.lean` proves the three facts about `get_miss_ratio_const` that the allocator uses.
This module states what a query answers in full, for every sane curve.

`getMissRatioConstChecked` is `get_miss_ratio_const` with everything the source leaves to
chance made explicit.  Each `assert` (`interpolate`'s `assert(l_val >= r_val)` among them), the
`runtime_error` of the non-conservative mode, and every access out of range (`back()`,
`front()`, `*tick_it` on `ticks.end()`) is an `.error` there.
`Sane.getMissRatioConstChecked_eq` shows that on a sane curve none of them happens, and that
the answer is `getMissRatioConst`'s for every cache size.

Read against the anchors, the answer is:
* the anchor's miss ratio at a tick, taken from the first anchor with that tick
  (`Sane.getMissRatioConst_tick`);
* at most the miss ratio of every anchor left of the size (`Sane.getMissRatioConst_le_left`);
* at least that of every anchor at or right of it (`Sane.le_getMissRatioConst_right`);
* the last miss ratio above the last tick (`getMissRatioConst_above`).

`get_miss_ratio` puts a memo in front of `get_miss_ratio_const`.  An entry is written only
with the answer of `get_miss_ratio_const`, so every entry stays sound (`MemoSound`).  Hence
after any history of queries the memoized query answers the same (`MemoSound.getMissRatios`).
This is why the tenant model calls `getMissRatioConst` where `tenant.h` calls
`get_miss_ratio`.
-/

namespace Hopper

namespace MissRatioCurve

/-! ## The query with its failures -/

/-- Element `i` of a vector, or the out-of-range access as an error. -/
def elemAt {α : Type} (l : List α) (i : Nat) (access : String) : Except String α :=
  match l[i]? with
  | some a => .ok a
  | none => .error access

lemma elemAt_of_lt {α : Type} {l : List α} {i : Nat} (d : α) (h : i < l.length) (access : String) :
    elemAt l i access = .ok (l.getD i d) := by
  simp [elemAt, List.getElem?_eq_getElem h, List.getD_eq_getElem _ _ h]

/-- `MissRatioCurve::interpolate` with its `assert(l_val >= r_val)`. -/
def interpolateChecked (lVal rVal : ℚ) (lDist rDist : Nat) : Except String ℚ :=
  if rVal ≤ lVal then .ok (interpolate lVal rVal lDist rDist)
  else .error "assert(l_val >= r_val)"

/-- `MissRatioCurve::get_miss_ratio_const`, failing where the source throws, fails an
`assert`, or reads out of range. -/
def getMissRatioConstChecked (m : MissRatioCurve) (cacheSize : Nat) : Except String ℚ := do
  let back ← elemAt m.ticks (m.ticks.length - 1) "ticks.back() of an empty vector"
  if cacheSize > back then
    if conservativeEstimationIfOutOfRange then
      elemAt m.missRatios (m.missRatios.length - 1) "miss_ratios.back() of an empty vector"
    else throw "cache_size out of range"
  else
    let front ← elemAt m.ticks 0 "ticks.front() of an empty vector"
    if cacheSize < front then
      let mr0 ← elemAt m.missRatios 0 "miss_ratios.front() of an empty vector"
      interpolateChecked 1 mr0 cacheSize (front - cacheSize)
    else
      let tickIdx := lowerBound m.ticks cacheSize
      let tick ← elemAt m.ticks tickIdx "*tick_it dereferences ticks.end()"
      if cacheSize = tick then elemAt m.missRatios tickIdx "miss_ratios[tick_idx]"
      else
        unless 0 < tickIdx do throw "assert(tick_idx > 0)"
        unless tickIdx < m.ticks.length do throw "assert(tick_idx < ticks.size())"
        let prev ← elemAt m.ticks (tickIdx - 1) "ticks[tick_idx - 1]"
        unless prev < cacheSize do throw "assert(cache_size > ticks[tick_idx - 1])"
        unless cacheSize < tick do throw "assert(cache_size < ticks[tick_idx])"
        let lVal ← elemAt m.missRatios (tickIdx - 1) "miss_ratios[tick_idx - 1]"
        let rVal ← elemAt m.missRatios tickIdx "miss_ratios[tick_idx]"
        interpolateChecked lVal rVal (cacheSize - prev) (tick - cacheSize)

/-- On a sane curve every query succeeds, with the answer of `getMissRatioConst`: no throw, no
failed `assert`, no read out of range. -/
theorem Sane.getMissRatioConstChecked_eq {m : MissRatioCurve} (hm : m.Sane) (x : Nat) :
    m.getMissRatioConstChecked x = .ok (m.getMissRatioConst x) := by
  have hne := hm.ticks_ne_nil
  have hlen := hm.length_eq
  have hn : 0 < m.ticks.length := List.length_pos.2 hne
  have hmne : m.missRatios ≠ [] := fun h => hne (List.length_eq_zero.1 (by simp [hlen, h]))
  have hM : ∀ i < m.ticks.length, m.missRatios.getD i 0 ≤ 1 :=
    fun i hi => (hm.mem_Icc (getD_mem 0 (hlen ▸ hi))).2
  unfold getMissRatioConstChecked getMissRatioConst
  rw [getLastD_eq_getD 0 hne, getLastD_eq_getD 0 hmne, headD_eq_getD, headD_eq_getD,
    elemAt_of_lt 0 (Nat.sub_lt hn one_pos), elemAt_of_lt 0 hn]
  simp only [bind, Except.bind, gt_iff_lt]
  by_cases hA : m.ticks.getD (m.ticks.length - 1) 0 < x
  · simp only [hA, if_true, conservativeEstimationIfOutOfRange]
    exact elemAt_of_lt 0 (Nat.sub_lt (List.length_pos.2 hmne) one_pos) _
  simp only [hA, if_false]
  by_cases hB : x < m.ticks.getD 0 0
  · simp only [hB, if_true, elemAt_of_lt 0 (hlen ▸ hn), interpolateChecked, if_pos (hM 0 hn)]
  obtain ⟨hlt, hge, hbefore⟩ := hm.lowerBound_spec (not_lt.1 hA)
  simp only [hB, if_false, elemAt_of_lt 0 hlt]
  by_cases hC : x = m.ticks.getD (lowerBound m.ticks x) 0
  · rw [if_pos hC, if_pos hC]; exact elemAt_of_lt 0 (hlen ▸ hlt) _
  have hpos : 0 < lowerBound m.ticks x :=
    Nat.pos_of_ne_zero fun h0 => hC (le_antisymm (h0 ▸ hge) (by rw [h0]; omega))
  have hprev := hbefore _ (Nat.sub_lt hpos one_pos)
  have hmono := (hm.mono (Nat.sub_le (lowerBound m.ticks x) 1) hlt).2
  simp only [if_neg hC, if_pos hpos, if_pos hlt, pure, Except.pure,
    elemAt_of_lt 0 (show lowerBound m.ticks x - 1 < m.ticks.length by omega), if_pos hprev,
    if_pos (lt_of_le_of_ne hge hC),
    elemAt_of_lt 0 (show lowerBound m.ticks x - 1 < m.missRatios.length by omega),
    elemAt_of_lt 0 (hlen ▸ hlt : lowerBound m.ticks x < m.missRatios.length),
    interpolateChecked, if_pos hmono]

/-! ## The answer against the anchors -/

section anchors

variable {m : MissRatioCurve} (hm : m.Sane)
include hm

/-- At a tick the answer is the miss ratio of the first anchor with that tick. -/
lemma Sane.getMissRatioConst_tick {i : Nat} (hi : i < m.ticks.length)
    (hfirst : ∀ j < i, m.ticks.getD j 0 ≠ m.ticks.getD i 0) :
    m.getMissRatioConst (m.ticks.getD i 0) = m.missRatios.getD i 0 := by
  have hlast := (hm.mono (Nat.le_sub_one_of_lt hi) (by omega)).1
  have hfirst' : ∀ j < i, m.ticks.getD j 0 < m.ticks.getD i 0 := fun j hj =>
    lt_of_le_of_ne (hm.mono hj.le hi).1 (hfirst j hj)
  rcases hm.getMissRatioConst_cases (m.ticks.getD i 0) with ⟨hx, -⟩ | ⟨hx, -⟩ |
      ⟨i', hi', hx, hb, h⟩ | ⟨i', hi', -, hl, hr, -⟩
  · omega
  · have := (hm.mono (Nat.zero_le i) hi).1; omega
  · obtain rfl : i' = i := by
      rcases Nat.lt_trichotomy i' i with h' | rfl | h'
      · exact absurd hx (hfirst' i' h').ne'
      · rfl
      · exact absurd (hb i h') (lt_irrefl _)
    exact h
  · have h1 := hm.lt_of_tick_lt (show i' - 1 < m.ticks.length by omega) hl
    have h2 := hm.lt_of_tick_lt hi hr
    omega

/-- The answer is at most the miss ratio of every anchor whose tick is below the size. -/
lemma Sane.getMissRatioConst_le_left {x i : Nat} (hi : i < m.ticks.length)
    (hx : m.ticks.getD i 0 < x) : m.getMissRatioConst x ≤ m.missRatios.getD i 0 := by
  rcases hm.getMissRatioConst_cases x with ⟨-, h⟩ | ⟨hx', h⟩ | ⟨i', hi', rfl, -, h⟩ |
      ⟨i', hi', hi0, -, hr, h⟩ <;> rw [h]
  · exact (hm.mono (Nat.le_sub_one_of_lt hi) (by omega)).2
  · have := (hm.mono (Nat.zero_le i) hi).1; omega
  · exact (hm.mono (hm.lt_of_tick_lt hi hx).le hi').2
  · have hii := hm.lt_of_tick_lt hi (hx.trans hr)
    refine (interpolate_between (hm.mono (Nat.sub_le i' 1) hi').2 (by omega)).2.trans ?_
    exact (hm.mono (show i ≤ i' - 1 by omega) (by omega)).2

/-- The answer is at least the miss ratio of every anchor whose tick is at or above the
size. -/
lemma Sane.le_getMissRatioConst_right {x j : Nat} (hj : j < m.ticks.length)
    (hx : x ≤ m.ticks.getD j 0) : m.missRatios.getD j 0 ≤ m.getMissRatioConst x := by
  have hlen := hm.length_eq
  rcases hm.getMissRatioConst_cases x with ⟨hx', h⟩ | ⟨hx', h⟩ | ⟨i, hi, hxi, hb, h⟩ |
      ⟨i, hi, hi0, hl, -, h⟩ <;> rw [h]
  · have := (hm.mono (Nat.le_sub_one_of_lt hj) (by omega)).1; omega
  · exact (hm.mono (Nat.zero_le j) hj).2.trans (interpolate_between
      (hm.mem_Icc (getD_mem 0 (hlen ▸ (Nat.zero_lt_of_lt hj)))).2 (by omega)).1
  · have hij : i ≤ j := Nat.le_of_not_lt fun h' => absurd (hb j h') (by omega)
    exact (hm.mono hij hj).2
  · have hij : i ≤ j := Nat.le_of_not_lt fun h' =>
      absurd (hm.mono (show j ≤ i - 1 by omega) (by omega)).1 (by omega)
    exact (hm.mono hij hj).2.trans
      (interpolate_between (hm.mono (Nat.sub_le i 1) hi).2 (by omega)).1

end anchors

/-- Above the last tick the answer is the last miss ratio. -/
lemma getMissRatioConst_above {m : MissRatioCurve} {x : Nat} (hx : m.ticks.getLastD 0 < x) :
    m.getMissRatioConst x = m.missRatios.getLastD 0 := by
  unfold getMissRatioConst
  rw [if_pos hx]

/-! ## The memo of `get_miss_ratio` -/

/-- `MissRatioCurve::get_miss_ratio`: the memo's answer for the size, or else the answer of
`get_miss_ratio_const`, which is then recorded.  The memo (`miss_ratio_map`) is an association
list, the latest entry first. -/
def getMissRatio (m : MissRatioCurve) (memo : List (Nat × ℚ)) (cacheSize : Nat) :
    ℚ × List (Nat × ℚ) :=
  match memo.lookup cacheSize with
  | some missRatio => (missRatio, memo)
  | none =>
    let missRatio := m.getMissRatioConst cacheSize
    (missRatio, (cacheSize, missRatio) :: memo)

/-- A history of queries, with every answer and the memo they leave. -/
def getMissRatios (m : MissRatioCurve) (memo : List (Nat × ℚ)) :
    List Nat → List ℚ × List (Nat × ℚ)
  | [] => ([], memo)
  | x :: xs =>
    let r := m.getMissRatio memo x
    let rest := m.getMissRatios r.2 xs
    (r.1 :: rest.1, rest.2)

/-- Every entry of the memo holds the answer of `get_miss_ratio_const` for its size. -/
def MemoSound (m : MissRatioCurve) (memo : List (Nat × ℚ)) : Prop :=
  ∀ x r, memo.lookup x = some r → r = m.getMissRatioConst x

lemma memoSound_nil (m : MissRatioCurve) : m.MemoSound [] := fun _ _ h => by cases h

/-- One query on a sound memo answers as `get_miss_ratio_const` and keeps the memo sound. -/
lemma MemoSound.getMissRatio {m : MissRatioCurve} {memo : List (Nat × ℚ)} (h : m.MemoSound memo)
    (x : Nat) :
    (m.getMissRatio memo x).1 = m.getMissRatioConst x ∧ m.MemoSound (m.getMissRatio memo x).2 := by
  unfold MissRatioCurve.getMissRatio
  split
  · rename_i r hr
    exact ⟨h x r hr, h⟩
  · refine ⟨rfl, fun y r hy => ?_⟩
    simp only [List.lookup_cons] at hy
    split at hy
    · rename_i hxy
      cases hy; rw [beq_iff_eq.1 hxy]
    · exact h y r hy

/-- Every query of a history from a sound memo answers as `get_miss_ratio_const`. -/
lemma MemoSound.getMissRatios {m : MissRatioCurve} {memo : List (Nat × ℚ)} (h : m.MemoSound memo)
    (xs : List Nat) :
    (m.getMissRatios memo xs).1 = xs.map m.getMissRatioConst ∧
      m.MemoSound (m.getMissRatios memo xs).2 := by
  induction xs generalizing memo with
  | nil => exact ⟨rfl, h⟩
  | cons x xs ih =>
    obtain ⟨h1, h2⟩ := h.getMissRatio x
    obtain ⟨h3, h4⟩ := ih h2
    exact ⟨by simp only [MissRatioCurve.getMissRatios, h1, h3, List.map_cons], h4⟩

/-! ## Miss-ratio curves are well-behaved -/

/-- On every sane curve `get_miss_ratio_const` succeeds for every size with no failed
`assert`, answers in `[0, 1]`, is non-increasing, answers the first anchor's miss ratio at a
tick, lies between the miss ratios of the anchors around the size, answers the last miss ratio
above the last tick, and `get_miss_ratio` answers the same after any history of queries. -/
theorem Sane.getMissRatio_wellBehaved {m : MissRatioCurve} (hm : m.Sane) :
    (∀ x, m.getMissRatioConstChecked x = .ok (m.getMissRatioConst x)) ∧
    (∀ x, 0 ≤ m.getMissRatioConst x ∧ m.getMissRatioConst x ≤ 1) ∧
    Antitone m.getMissRatioConst ∧
    (∀ i < m.ticks.length, (∀ j < i, m.ticks.getD j 0 ≠ m.ticks.getD i 0) →
      m.getMissRatioConst (m.ticks.getD i 0) = m.missRatios.getD i 0) ∧
    (∀ x, ∀ i < m.ticks.length, m.ticks.getD i 0 < x →
      m.getMissRatioConst x ≤ m.missRatios.getD i 0) ∧
    (∀ x, ∀ j < m.ticks.length, x ≤ m.ticks.getD j 0 →
      m.missRatios.getD j 0 ≤ m.getMissRatioConst x) ∧
    (∀ x, m.ticks.getLastD 0 < x → m.getMissRatioConst x = m.missRatios.getLastD 0) ∧
    ∀ xs y, (m.getMissRatio (m.getMissRatios [] xs).2 y).1 = m.getMissRatioConst y :=
  ⟨hm.getMissRatioConstChecked_eq, hm.getMissRatioConst_nonneg_le_one,
    hm.getMissRatioConst_antitone, fun _ hi hf => hm.getMissRatioConst_tick hi hf,
    fun _ _ hi hx => hm.getMissRatioConst_le_left hi hx,
    fun _ _ hj hx => hm.le_getMissRatioConst_right hj hx, fun _ hx => getMissRatioConst_above hx,
    fun xs y => (((memoSound_nil m).getMissRatios xs).2.getMissRatio y).1⟩

/-- The curve of `test_basic` in `test_mrc.cpp`. -/
def basicCurve : MissRatioCurve := ⟨[10, 20, 40, 80], [9 / 10, 4 / 5, 7 / 10, 3 / 5]⟩

attribute [local semireducible] Rat.mul Rat.inv Rat.add Rat.sub

theorem getMissRatio_wellBehaved_basicCurve :
    basicCurve.Sane ∧
    (∀ x, basicCurve.getMissRatioConstChecked x = .ok (basicCurve.getMissRatioConst x)) ∧
    (∀ x, 0 ≤ basicCurve.getMissRatioConst x ∧ basicCurve.getMissRatioConst x ≤ 1) ∧
    Antitone basicCurve.getMissRatioConst ∧
    (∀ i < basicCurve.ticks.length, (∀ j < i, basicCurve.ticks.getD j 0 ≠ basicCurve.ticks.getD i 0) →
      basicCurve.getMissRatioConst (basicCurve.ticks.getD i 0) = basicCurve.missRatios.getD i 0) ∧
    (∀ x, ∀ i < basicCurve.ticks.length, basicCurve.ticks.getD i 0 < x →
      basicCurve.getMissRatioConst x ≤ basicCurve.missRatios.getD i 0) ∧
    (∀ x, ∀ j < basicCurve.ticks.length, x ≤ basicCurve.ticks.getD j 0 →
      basicCurve.missRatios.getD j 0 ≤ basicCurve.getMissRatioConst x) ∧
    (∀ x, basicCurve.ticks.getLastD 0 < x →
      basicCurve.getMissRatioConst x = basicCurve.missRatios.getLastD 0) ∧
    ∀ xs y, (basicCurve.getMissRatio (basicCurve.getMissRatios [] xs).2 y).1 =
      basicCurve.getMissRatioConst y := by
  have hm : basicCurve.Sane := by decide
  exact ⟨hm, Sane.getMissRatio_wellBehaved hm⟩

/-- The eleven sizes `test_basic` queries, with the answers it expects. -/
example : [0, 5, 7, 10, 20, 25, 30, 40, 50, 60, 80].map basicCurve.getMissRatioConst =
    [1, 19 / 20, 93 / 100, 9 / 10, 4 / 5, 31 / 40, 3 / 4, 7 / 10, 27 / 40, 13 / 20, 3 / 5] := by
  decide

end MissRatioCurve

end Hopper
