import Hopper.Alloc.Params
import Mathlib.Tactic.IntervalCases

/-!
# `mem_estimate::round_size`

The ghost cache charges a key `mem_estimate::estimate(key_size, val_size)`: the fixed cost `55`
plus `round_size` of each size, which rounds a size up to a jemalloc-style size class.  A class
has a spacing `divisor = 2^power` and holds the sizes up to `divisor * 8 - 4`; its values lie
`4` below a multiple of the divisor.  A table answers the sizes up to `4092` (powers `3` to
`9`), and a loop over `power = 3, 4, …` answers the rest.

`InClass s p` says that `s` falls in the class of power `p`, and `roundClass (2^p) s` is the
value the code returns there: `roundClass d s + 4` is the least multiple of `d` from `s + 4`.
Every size up to `2^32 - 4` lies in a class (`exists_inClass`), and the table and the loop both
return that class's value (`roundSize_of_inClass`, `roundSizeLoop_of_inClass`).  So on that
domain `round_size` is a closure operator onto the class values (`roundSize_closure`), and
the table agrees with the loop.

The three largest `uint32_t` values have no class value above them that fits in 32 bits.  For
them `upper_bound = divisor * 8 - 4` wraps to `2^32 - 4` at powers `29`, `30` and `31`, the
loop goes on to `power = 32`, and `1 << 32` shifts by the width of `int`, which is undefined
behaviour (on x86 the shift count is masked to `0` and the loop never ends).  The model returns
`none` there (`roundSize_eq_none`).
-/

namespace Hopper

namespace Ghost

/-! ## The code -/

/-- The `while (true)` loop of `round_size`, from `power` on.  `1 << power` is `2^power` for
`power ≤ 31` (`1 << 31` is `INT_MIN`, which converts to `2^31`); `divisor * 8 - 4` is computed
in `uint32_t`; the returned sum cannot wrap, as `s ≤ upper_bound`.  At `power = 32` the shift
`1 << 32` is undefined behaviour: `none`. -/
def roundSizeLoop (s power : Nat) : Option Nat :=
  if h : power < 32 then
    let divisor := 2 ^ power
    let upperBound := (divisor * 8 - 4) % u32Size
    if s ≤ upperBound then
      let offset := divisor - 4
      some ((s + 3) / divisor * divisor + offset)
    else roundSizeLoop s (power + 1)
  else none
termination_by 32 - power

/-- `uint32_t mem_estimate::round_size(uint32_t s)`: the table, then the loop from
`power = 3`.  The table's sums stay below `2^32`. -/
def roundSize (s : Nat) : Option Nat :=
  if s ≤ 4 then some 4
  else if s ≤ 60 then some ((s + 3) / 8 * 8 + 4)
  else if s ≤ 124 then some ((s + 3) / 16 * 16 + 12)
  else if s ≤ 252 then some ((s + 3) / 32 * 32 + 28)
  else if s ≤ 508 then some ((s + 3) / 64 * 64 + 60)
  else if s ≤ 1020 then some ((s + 3) / 128 * 128 + 124)
  else if s ≤ 2044 then some ((s + 3) / 256 * 256 + 252)
  else if s ≤ 4092 then some ((s + 3) / 512 * 512 + 508)
  else roundSizeLoop s 3

/-- `mem_estimate::estimate`'s `fixed_cost`, from offline profiling. -/
def fixedCost : Nat := 55

/-- `uint32_t mem_estimate::estimate(uint32_t key_size, uint32_t val_size)`: both sizes are
rounded, and the `uint32_t` sum wraps. -/
def estimate (keySize valSize : Nat) : Option Nat := do
  let k ← roundSize keySize
  let v ← roundSize valSize
  return (fixedCost + k + v) % u32Size

/-! ## Size classes -/

/-- The value the code gives `s` in the class of spacing `d`. -/
def roundClass (d s : Nat) : Nat := (s + 3) / d * d + (d - 4)

/-- `s` falls in the class of power `p`: it fits below `2^(p+3) - 4`, and lies above the class
before unless `p = 3`, the table's first row.  The last class that fits in 32 bits has
`p = 29`. -/
structure InClass (s p : Nat) : Prop where
  three_le : 3 ≤ p
  le_29 : p ≤ 29
  fits : s + 4 ≤ 2 ^ (p + 3)
  above : p = 3 ∨ 2 ^ (p + 2) < s + 4

/-- A class value: a size in some class, `4` below a multiple of that class's spacing. -/
def IsSizeClass (r : Nat) : Prop := ∃ p, InClass r p ∧ 2 ^ p ∣ r + 4

section roundClass

variable {d : Nat} (hd : 4 ≤ d)
include hd

lemma roundClass_add_four (s : Nat) : roundClass d s + 4 = ((s + 3) / d + 1) * d := by
  rw [roundClass, add_one_mul]
  omega

lemma le_roundClass (s : Nat) : s ≤ roundClass d s := by
  have := Nat.div_add_mod' (s + 3) d
  have := Nat.mod_lt (s + 3) (show 0 < d by omega)
  unfold roundClass
  omega

/-- A multiple of the spacing from `s + 4` is also one from `roundClass d s + 4`. -/
lemma roundClass_add_four_le {s m : Nat} (hs : s + 4 ≤ m * d) : roundClass d s + 4 ≤ m * d := by
  rw [roundClass_add_four hd]
  have := (Nat.div_lt_iff_lt_mul (show 0 < d by omega)).2 (show s + 3 < m * d by omega)
  exact Nat.mul_le_mul_right d (by omega)

lemma roundClass_eq_self_iff {r : Nat} : roundClass d r = r ↔ d ∣ r + 4 := by
  constructor
  · intro h
    have e := roundClass_add_four hd r
    rw [h] at e
    rw [e]
    exact Nat.dvd_mul_left _ _
  · rintro ⟨k, hk⟩
    obtain ⟨j, rfl⟩ := Nat.exists_eq_succ_of_ne_zero (show k ≠ 0 by rintro rfl; omega)
    rw [Nat.mul_succ, mul_comm] at hk
    have hq : (r + 3) / d = j := Nat.div_eq_of_lt_le (by omega) (by rw [add_one_mul]; omega)
    rw [roundClass, hq]
    omega

lemma roundClass_roundClass (s : Nat) : roundClass d (roundClass d s) = roundClass d s :=
  (roundClass_eq_self_iff hd).2 ⟨(s + 3) / d + 1, by rw [roundClass_add_four hd, mul_comm]⟩

omit hd in
lemma roundClass_mono {s s' : Nat} (hs : s ≤ s') : roundClass d s ≤ roundClass d s' := by
  have := Nat.mul_le_mul_right d (Nat.div_le_div_right (c := d) (show s + 3 ≤ s' + 3 by omega))
  unfold roundClass
  omega

end roundClass

namespace InClass

variable {s p : Nat} (h : InClass s p)
include h

lemma eight_le : 8 ≤ 2 ^ p :=
  le_trans (by norm_num) (Nat.pow_le_pow_right (by norm_num) h.three_le)

lemma four_le : 4 ≤ 2 ^ p := le_trans (by norm_num) h.eight_le

lemma fits_mul : s + 4 ≤ 8 * 2 ^ p := by
  have := h.fits
  rwa [pow_add, mul_comm] at this

/-- The value of a class lies in the same class. -/
lemma roundClass : InClass (roundClass (2 ^ p) s) p where
  three_le := h.three_le
  le_29 := h.le_29
  fits := by
    rw [pow_add, mul_comm]
    exact roundClass_add_four_le h.four_le h.fits_mul
  above := h.above.imp_right fun ha =>
    lt_of_lt_of_le ha (by
      have := le_roundClass h.four_le s
      omega)

/-- A larger size lies in the same class or a later one. -/
lemma le_of_le {s' p' : Nat} (h' : InClass s' p') (hs : s ≤ s') : p ≤ p' := by
  by_contra hlt
  have hpow := Nat.pow_le_pow_right (show 0 < 2 by norm_num) (show p' + 3 ≤ p + 2 by omega)
  rcases h.above with rfl | ha
  · exact hlt h'.three_le
  · have := h'.fits
    omega

end InClass

/-- Every size up to `2^32 - 4` lies in a class: the first power `p` with
`s ≤ 2^(p+3) - 4`, or `3`. -/
lemma exists_inClass {s : Nat} (hs : s + 4 ≤ u32Size) : ∃ p, InClass s p := by
  have hex : ∃ p, s + 4 ≤ 2 ^ (p + 3) := ⟨29, hs⟩
  by_cases hm : Nat.find hex ≤ 3
  · exact ⟨3, le_rfl, by norm_num,
      (Nat.find_spec hex).trans (Nat.pow_le_pow_right (by norm_num) (by omega)), .inl rfl⟩
  · refine ⟨Nat.find hex, by omega, Nat.find_min' hex hs, Nat.find_spec hex, .inr ?_⟩
    have := Nat.find_min hex (show Nat.find hex - 1 < Nat.find hex by omega)
    rwa [not_le, show Nat.find hex - 1 + 3 = Nat.find hex + 2 by omega] at this

/-! ## The loop -/

lemma eight_le_two_pow (power : Nat) : 8 ≤ 2 ^ (power + 3) :=
  Nat.pow_le_pow_right (n := 2) (by norm_num) (Nat.le_add_left 3 power)

/-- Below power `30` the `uint32_t` upper bound does not wrap. -/
lemma upperBound_of_le {power : Nat} (hp : power ≤ 29) :
    (2 ^ power * 8 - 4) % u32Size = 2 ^ (power + 3) - 4 := by
  rw [show 2 ^ power * 8 = 2 ^ (power + 3) by rw [pow_add]; norm_num]
  exact Nat.mod_eq_of_lt ((Nat.sub_lt (by positivity) (by norm_num)).trans_le
    (Nat.pow_le_pow_right (by norm_num) (by omega)))

/-- From power `29` on the upper bound wraps to `2^32 - 4`, so no bound reaches the three
largest `uint32_t` values. -/
lemma upperBound_add_four_le {power : Nat} (hp : power < 32) :
    (2 ^ power * 8 - 4) % u32Size + 4 ≤ u32Size := by
  rcases Nat.lt_or_ge power 30 with h | h
  · have h1 : 2 ^ (power + 3) ≤ u32Size := Nat.pow_le_pow_right (by norm_num) (by omega)
    have h2 := eight_le_two_pow power
    rw [upperBound_of_le (by omega)]
    omega
  · interval_cases power <;> decide

lemma roundSizeLoop_of_fits {s power : Nat} (hp : power ≤ 29) (hs : s + 4 ≤ 2 ^ (power + 3)) :
    roundSizeLoop s power = some (roundClass (2 ^ power) s) := by
  rw [roundSizeLoop]
  dsimp only
  rw [dif_pos (show power < 32 by omega), upperBound_of_le hp,
    if_pos (show s ≤ 2 ^ (power + 3) - 4 by omega)]
  rfl

lemma roundSizeLoop_of_above {s power : Nat} (hp : power ≤ 29) (hs : 2 ^ (power + 3) < s + 4) :
    roundSizeLoop s power = roundSizeLoop s (power + 1) := by
  rw [roundSizeLoop]
  dsimp only
  rw [dif_pos (show power < 32 by omega), upperBound_of_le hp,
    if_neg (show ¬ s ≤ 2 ^ (power + 3) - 4 by have := eight_le_two_pow power; omega)]

/-- Entered at `power = 3`, the loop stops at the class of `s` and returns its value. -/
lemma roundSizeLoop_of_inClass {s p : Nat} (h : InClass s p) :
    roundSizeLoop s 3 = some (roundClass (2 ^ p) s) := by
  have h3 := h.three_le
  suffices hk : ∀ k, k + 3 ≤ p → roundSizeLoop s (p - k) = some (roundClass (2 ^ p) s) by
    have := hk (p - 3) (by omega)
    rwa [show p - (p - 3) = 3 by omega] at this
  intro k
  induction k with
  | zero => exact fun _ => roundSizeLoop_of_fits h.le_29 h.fits
  | succ k ih =>
    intro hk
    have hpow := Nat.pow_le_pow_right (show 0 < 2 by norm_num)
      (show p - (k + 1) + 3 ≤ p + 2 by omega)
    rw [roundSizeLoop_of_above (by have := h.le_29; omega) ?_,
      show p - (k + 1) + 1 = p - k by omega]
    · exact ih (by omega)
    · rcases h.above with rfl | ha <;> omega

/-- Above `2^32 - 4` the loop never finds a bound and reaches the undefined `1 << 32`. -/
lemma roundSizeLoop_eq_none {s : Nat} (hs : u32Size < s + 4) (power : Nat) :
    roundSizeLoop s power = none := by
  rw [roundSizeLoop]
  dsimp only
  split_ifs with hp hle
  · have := upperBound_add_four_le hp
    omega
  · exact roundSizeLoop_eq_none hs (power + 1)
  · rfl
termination_by 32 - power

/-! ## `round_size` -/

/-- The table rows and the loop return the value of the class of `s`. -/
lemma roundSize_of_inClass {s p : Nat} (h : InClass s p) :
    roundSize s = some (roundClass (2 ^ p) s) := by
  rcases Nat.lt_or_ge p 10 with hp | hp
  · obtain ⟨h3, -, hfit, habove⟩ := h
    unfold roundSize
    generalize roundSizeLoop s 3 = loop
    -- each row's condition is decided by the bounds of the class
    interval_cases p <;> simp only [Nat.reducePow, Nat.reduceAdd] at hfit habove <;>
      simp (disch := omega) only [if_pos, if_neg] <;> (try split_ifs) <;>
      first | rfl | (congr 1; simp only [roundClass, Nat.reducePow, Nat.reduceSub]; omega)
  · have hpow := Nat.pow_le_pow_right (show 0 < 2 by norm_num) (show 12 ≤ p + 2 by omega)
    have hs : 4092 < s := by
      rcases h.above with rfl | ha
      · omega
      · norm_num at hpow
        omega
    unfold roundSize
    simp (disch := omega) only [if_neg]
    exact roundSizeLoop_of_inClass h

lemma roundSize_eq_none {s : Nat} (hs : u32Size < s + 4) : roundSize s = none := by
  have : 4096 ≤ u32Size := by decide
  unfold roundSize
  simp (disch := omega) only [if_neg]
  exact roundSizeLoop_eq_none hs 3

/-- Whatever `round_size` returns is the value of the class of its argument. -/
lemma exists_inClass_of_roundSize {s r : Nat} (h : roundSize s = some r) :
    ∃ p, InClass s p ∧ r = roundClass (2 ^ p) s := by
  by_cases hs : s + 4 ≤ u32Size
  · obtain ⟨p, hp⟩ := exists_inClass hs
    rw [roundSize_of_inClass hp] at h
    exact ⟨p, hp, (Option.some.inj h).symm⟩
  · rw [roundSize_eq_none (by omega)] at h
    cases h

/-- Every size up to `2^32 - 4` is rounded up to a class value that fits in 32 bits and is
rounded to itself. -/
lemma exists_roundSize {s : Nat} (hs : s + 4 ≤ u32Size) :
    ∃ r, roundSize s = some r ∧ s ≤ r ∧ r + 4 ≤ u32Size ∧ roundSize r = some r := by
  obtain ⟨p, hp⟩ := exists_inClass hs
  have hd := hp.four_le
  refine ⟨_, roundSize_of_inClass hp, le_roundClass hd s,
    hp.roundClass.fits.trans (Nat.pow_le_pow_right (by norm_num) (by have := hp.le_29; omega)),
    ?_⟩
  rw [roundSize_of_inClass hp.roundClass, roundClass_roundClass hd]

/-- The sizes rounded to themselves are exactly the class values. -/
lemma roundSize_eq_self_iff {r : Nat} : roundSize r = some r ↔ IsSizeClass r := by
  constructor
  · intro h
    obtain ⟨p, hp, hr⟩ := exists_inClass_of_roundSize h
    exact ⟨p, hp, (roundClass_eq_self_iff hp.four_le).1 hr.symm⟩
  · rintro ⟨p, hp, hdvd⟩
    rw [roundSize_of_inClass hp,
      (roundClass_eq_self_iff hp.four_le).2 hdvd]

/-- Rounding is monotone wherever it returns. -/
lemma roundSize_mono {s s' r r' : Nat} (hss : s ≤ s') (h : roundSize s = some r)
    (h' : roundSize s' = some r') : r ≤ r' := by
  obtain ⟨p, hp, rfl⟩ := exists_inClass_of_roundSize h
  obtain ⟨p', hp', rfl⟩ := exists_inClass_of_roundSize h'
  rcases (hp.le_of_le hp' hss).eq_or_lt with rfl | hlt
  · exact roundClass_mono hss
  · -- a later class starts above every value of an earlier one
    have hpow := Nat.pow_le_pow_right (show 0 < 2 by norm_num) (show p + 3 ≤ p' + 2 by omega)
    have := hp.roundClass.fits
    have := le_roundClass hp'.four_le s'
    rcases hp'.above with rfl | ha
    · exact absurd hlt (by have := hp.three_le; omega)
    · omega

/-- The table rows agree with the loop entered at `power = 3`. -/
lemma roundSize_eq_roundSizeLoop {s : Nat} (hs : s ≤ 4092) : roundSize s = roundSizeLoop s 3 := by
  obtain ⟨p, hp⟩ := exists_inClass (show s + 4 ≤ u32Size by
    have : 4096 ≤ u32Size := by decide
    omega)
  rw [roundSize_of_inClass hp, roundSizeLoop_of_inClass hp]

/-- **`round_size` is a closure operator onto the size classes, up to `2^32 - 4`.**  Every
size up to `2^32 - 4` is rounded up to a value that fits in 32 bits and is rounded to itself;
the values rounded to themselves are exactly the class values; rounding is monotone wherever
it returns; the table rows agree with the loop; and the three sizes above `2^32 - 4` are
never rounded. -/
theorem roundSize_closure :
    (∀ s, s + 4 ≤ u32Size →
      ∃ r, roundSize s = some r ∧ s ≤ r ∧ r + 4 ≤ u32Size ∧ roundSize r = some r) ∧
    (∀ r, roundSize r = some r ↔ IsSizeClass r) ∧
    (∀ s s' r r', s ≤ s' → roundSize s = some r → roundSize s' = some r' → r ≤ r') ∧
    (∀ s, s ≤ 4092 → roundSize s = roundSizeLoop s 3) ∧
    (∀ s, u32Size < s + 4 → roundSize s = none) :=
  ⟨fun _ => exists_roundSize, fun _ => roundSize_eq_self_iff, fun _ _ _ _ => roundSize_mono,
    fun _ => roundSize_eq_roundSizeLoop, fun _ => roundSize_eq_none⟩

theorem roundSize_closure_maxClass :
    u32Size - 4 + 4 ≤ u32Size ∧ ∃ r, roundSize (u32Size - 4) = some r ∧ u32Size - 4 ≤ r ∧
      r + 4 ≤ u32Size ∧ roundSize r = some r :=
  ⟨by decide, roundSize_closure.1 _ (by decide)⟩

/-- The three largest `uint32_t` sizes are never rounded. -/
theorem roundSize_top_undefined :
    roundSize (u32Size - 3) = none ∧ roundSize (u32Size - 2) = none ∧
      roundSize (u32Size - 1) = none :=
  ⟨roundSize_eq_none (by decide), roundSize_eq_none (by decide), roundSize_eq_none (by decide)⟩

/-! ## `estimate` -/

/-- Class values below a power of two from `2^6` stay below it, as `2^m - 4` is itself a class
value. -/
lemma roundSize_add_four_le {s r m : Nat} (h : roundSize s = some r) (hm : 6 ≤ m)
    (hs : s + 4 ≤ 2 ^ m) : r + 4 ≤ 2 ^ m := by
  obtain ⟨p, hp, rfl⟩ := exists_inClass_of_roundSize h
  refine hp.roundClass.fits.trans (Nat.pow_le_pow_right (by norm_num) ?_)
  rcases hp.above with rfl | ha
  · omega
  · have := (Nat.pow_lt_pow_iff_right (show 1 < 2 by norm_num)).1 (ha.trans_le hs)
    omega

/-- For key and value sizes up to `2^30 - 4` the `uint32_t` sum of `estimate` does not wrap:
the estimate covers the fixed cost and both sizes, and grows with each size. -/
theorem estimate_mono {k v k' v' : Nat} (hk : k ≤ k') (hv : v ≤ v') (hk' : k' + 4 ≤ 2 ^ 30)
    (hv' : v' + 4 ≤ 2 ^ 30) :
    ∃ e e', estimate k v = some e ∧ estimate k' v' = some e' ∧ fixedCost + k + v ≤ e ∧
      e ≤ e' := by
  have h30 : 2 ^ 30 + 2 ^ 30 + fixedCost < u32Size := by decide
  obtain ⟨rk', hrk', -⟩ := exists_roundSize (show k' + 4 ≤ u32Size by omega)
  obtain ⟨rv', hrv', -⟩ := exists_roundSize (show v' + 4 ≤ u32Size by omega)
  obtain ⟨rk, hrk, hkr, -⟩ := exists_roundSize (show k + 4 ≤ u32Size by omega)
  obtain ⟨rv, hrv, hvr, -⟩ := exists_roundSize (show v + 4 ≤ u32Size by omega)
  have := roundSize_mono hk hrk hrk'
  have := roundSize_mono hv hrv hrv'
  have := roundSize_add_four_le hrk' (by norm_num) hk'
  have := roundSize_add_four_le hrv' (by norm_num) hv'
  refine ⟨(fixedCost + rk + rv) % u32Size, (fixedCost + rk' + rv') % u32Size,
    by simp [estimate, hrk, hrv], by simp [estimate, hrk', hrv'], ?_, ?_⟩
  · rw [Nat.mod_eq_of_lt (by omega)]
    omega
  · rw [Nat.mod_eq_of_lt (by omega), Nat.mod_eq_of_lt (by omega)]
    omega

theorem estimate_mono_maxSizes :
    0 ≤ 2 ^ 30 - 4 ∧ 0 ≤ 2 ^ 30 - 4 ∧ 2 ^ 30 - 4 + 4 ≤ 2 ^ 30 ∧ 2 ^ 30 - 4 + 4 ≤ 2 ^ 30 ∧
      ∃ e e', estimate 0 0 = some e ∧ estimate (2 ^ 30 - 4) (2 ^ 30 - 4) = some e' ∧
        fixedCost + 0 + 0 ≤ e ∧ e ≤ e' :=
  ⟨by decide, by decide, by decide, by decide,
    estimate_mono (by decide) (by decide) (by decide) (by decide)⟩

end Ghost

end Hopper
