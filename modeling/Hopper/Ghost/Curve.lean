import Hopper.Alloc.Params
import Hopper.DataPlane.Resp
import Mathlib.Algebra.Order.Floor
import Mathlib.Data.Rat.Floor
import Mathlib.Data.List.Sort
import Mathlib.Tactic.LinearCombination

/-!
# From the ghost cache's curve to a miss-ratio curve in bytes

`ghost::reply_ghost_stats` turns the ghost cache's curve — for each size tier, the number of
keys it holds, their estimated size, and its hits and misses — into the three arrays of
`HOPPER.STATS` from which a miss-ratio curve in bytes is built: `ghost.ticks` (memory in
bytes), `ghost.hit_cnt` and `ghost.miss_cnt`, each headed by the point of an empty cache.

## The calibration

The estimated sizes are not what Redis spends.  The handler reads `MEMORY STATS`: the memory
Redis needs with no key (`bytes_startup`, plus `mem_fixed_overhead` when it fits), and so the
bytes each key costs now (`bytes_per_key`).  When the instance is small and that cost is above
the running average key-value size by more than `max_per_key_overhead`, the average is used
instead and `bytes_startup` recomputed from it.  One tier's ratio of `bytes_per_key` to its
average estimated size (`mem_amplify`) then scales every tier's size into memory.

`ghostCurve_calibrates` states what the calibration is for: the tier it takes `mem_amplify` from,
when that tier holds as many keys as the cache, is reported at the memory Redis uses now (one
byte less when the fallback truncates `bytes_startup`).  `ghostTicks_sorted`: the ticks are
sorted when the tiers are.  `memAmplifyLoop_sorted` says which tier the loop picks: on tiers
ordered by key count, the first when the cache holds more keys than it, the last otherwise.

`SampledGhostKvCache` is not modelled: its curve is an argument.  A tier with no bytes (or no
keys and no bytes) makes the `double` arithmetic leave the rationals (`inf` or `NaN`), modelled
as `none`, as is a negative `double` converted to `uint64_t`.  Reply integers are the exact
values: the conversions of values of `2^63` bytes or more to `long long` are not modelled.
-/

namespace Hopper

namespace Ghost

open DataPlane

/-! ## Inputs -/

/-- `stats::MemStats`: the five `long long` counters `collect_mem_stats` fetches from
`MEMORY STATS` (`-1` for one it did not find) and the running average key-value size. -/
structure MemStats where
  totalAllocated : Int
  keysCount : Int
  startupAllocated : Int
  clientsNormal : Int
  functionsCaches : Int
  avgKvSize : ℚ
  deriving DecidableEq, Repr

/-- The hits and misses the ghost cache counted for one tier. -/
structure CacheStat where
  hitCnt : Nat
  missCnt : Nat
  deriving DecidableEq, Repr

/-- A point of `get_cache_stat_curve()`: a tier of the ghost cache, with the number of keys it
holds, their total estimated size in bytes, and its hits and misses. -/
structure CurvePoint where
  count : Nat
  size : Nat
  stat : CacheStat
  deriving DecidableEq, Repr

/-- The statistics of a running instance once `collect_mem_stats` has succeeded: the counters
are non-negative `long long`s, the memory of an empty instance is part of the total, there is a
key, and the running average of sizes is non-negative (`avgKvSize_nonneg` in `Stats.lean`). -/
structure MemStats.Consistent (ms : MemStats) : Prop where
  keys_pos : 0 < ms.keysCount
  startup_nonneg : 0 ≤ ms.startupAllocated
  clients_nonneg : 0 ≤ ms.clientsNormal
  functions_nonneg : 0 ≤ ms.functionsCaches
  startup_le_total : ms.startupAllocated + ms.clientsNormal + ms.functionsCaches ≤
    ms.totalAllocated
  total_lt : ms.totalAllocated < 2 ^ 63
  avg_nonneg : 0 ≤ ms.avgKvSize

/-! ## `config::ghost::heuristic` -/

/-- `calib_fixed`. -/
def calibFixed : Bool := true

/-- `calib_abnormal`. -/
def calibAbnormal : Bool := true

/-- `calib_small_cache`. -/
def calibSmallCache : Bool := false

/-- `min_total_allocated`: 20 MiB. -/
def minTotalAllocated : Nat := 20 * 1024 * 1024

/-- `max_per_key_overhead`. -/
def maxPerKeyOverhead : Nat := 300

/-- `mem_fixed_overhead`: 1 MiB. -/
def memFixedOverhead : Nat := 1 * 1024 * 1024

/-- `small_cache_threshold`: 4 MiB. -/
def smallCacheThreshold : Nat := 4 * 1024 * 1024

/-- `small_cache_overhead`: 2 MiB. -/
def smallCacheOverhead : Nat := 2 * 1024 * 1024

/-! ## Conversions -/

/-- `long long` to `uint64_t`: modulo `2 ^ 64`. -/
def toU64 (x : Int) : Nat := (x % (u64Size : Int)).toNat

/-- `double` to `uint64_t`: truncation toward zero, `none` (undefined) when the result does not
fit. -/
def doubleToU64 (x : ℚ) : Option Nat := if -1 < x ∧ x < u64Size then some ⌊x⌋₊ else none

/-- `double` to `long long`: truncation toward zero. -/
def truncToInt (x : ℚ) : Int := if 0 ≤ x then ⌊x⌋ else ⌈x⌉

lemma toU64_of_nonneg {x : Int} (h0 : 0 ≤ x) (h : x < u64Size) : (toU64 x : Int) = x := by
  rw [toU64, Int.emod_eq_of_lt h0 h, Int.toNat_of_nonneg h0]

lemma truncToInt_of_nonneg {x : ℚ} (h : 0 ≤ x) : truncToInt x = ⌊x⌋ := if_pos h

/-! ## The handler -/

/-- `bytes_startup` after the calibrations for a small cache (off) and for the fixed overhead;
each adds its overhead only where `bytes_startup` stays below `total_allocated`. -/
def calibStartup (totalAllocated : Int) (bytesStartup : Nat) : Nat :=
  if calibSmallCache &&
      decide (subU64 (toU64 totalAllocated) bytesStartup < smallCacheThreshold) then
    if addU64 bytesStartup smallCacheOverhead < toU64 totalAllocated then
      addU64 bytesStartup smallCacheOverhead
    else bytesStartup
  else if calibFixed then
    if addU64 bytesStartup memFixedOverhead < toU64 totalAllocated then
      addU64 bytesStartup memFixedOverhead
    else bytesStartup
  else bytesStartup

/-- The detection of an abnormal `bytes_per_key`: below `min_total_allocated`, a cost per key
above the average size plus `max_per_key_overhead` is replaced by that bound, and
`bytes_startup` by what is left of `total_allocated`. -/
def calibAbnormalStep (ms : MemStats) (bytesPerKey : ℚ) (bytesStartup : Nat) :
    Option (ℚ × Nat) :=
  if calibAbnormal && decide (ms.totalAllocated < minTotalAllocated) &&
      decide (ms.avgKvSize + maxPerKeyOverhead < bytesPerKey) then
    let bytesPerKey := ms.avgKvSize + maxPerKeyOverhead
    (doubleToU64 (ms.totalAllocated - bytesPerKey * ms.keysCount)).map (bytesPerKey, ·)
  else some (bytesPerKey, bytesStartup)

/-- `bytes_per_key` and `bytes_startup`, from `MEMORY STATS`. -/
def calibrate (ms : MemStats) : Option (ℚ × Nat) :=
  let bytesStartup := calibStartup ms.totalAllocated
    (toU64 (ms.startupAllocated + ms.clientsNormal + ms.functionsCaches))
  calibAbnormalStep ms
    ((subU64 (toU64 ms.totalAllocated) bytesStartup : ℚ) / ms.keysCount) bytesStartup

/-- `bytes_per_key / (double(size) / count)` for one tier: `none` for a tier with no bytes
(`inf` or `NaN`), `0` for a tier with bytes and no key (`size / 0` is `inf`). -/
def amplify (bytesPerKey : ℚ) (c : CurvePoint) : Option ℚ :=
  if c.size = 0 then none
  else if c.count = 0 then some 0
  else some (bytesPerKey / ((c.size : ℚ) / c.count))

/-- The loop over the curve that sets `mem_amplify`, from its value `amp` for the first tier:
it stops at the first tier holding fewer than `ms.keys_count` keys. -/
def memAmplifyLoop (keysCount : Int) (bytesPerKey : ℚ) (amp : Option ℚ) :
    List CurvePoint → Option ℚ
  | [] => amp
  | c :: cs =>
    if keysCount > c.count then amp
    else memAmplifyLoop keysCount bytesPerKey (amplify bytesPerKey c) cs

/-- `bytes_startup` and `mem_amplify`, where the arithmetic is defined. -/
def ghostCurve (ms : MemStats) (first : CurvePoint) (curve : List CurvePoint) :
    Option (Nat × ℚ) := do
  let (bytesPerKey, bytesStartup) ← calibrate ms
  let memAmplify ← memAmplifyLoop ms.keysCount bytesPerKey (amplify bytesPerKey first) curve
  pure (bytesStartup, memAmplify)

/-- The memory reported for one tier, truncated to `long long`. -/
def tickOf (memAmplify : ℚ) (bytesStartup : Nat) (c : CurvePoint) : Int :=
  let dataMem : ℚ := c.size * memAmplify
  let mem := dataMem + bytesStartup
  let mem := if calibSmallCache && decide (dataMem < smallCacheThreshold) then
      mem + smallCacheOverhead - (if calibFixed then memFixedOverhead else 0 : Nat)
    else mem
  truncToInt mem

/-- The reply when there is no key or no curve: each name with `null`. -/
def nullGhostStats : List Tok :=
  [.simple "ghost.ticks", .null, .simple "ghost.miss_cnt", .null, .simple "ghost.hit_cnt", .null]

/-- `ghost::reply_ghost_stats(ctx, ms)` on the ghost cache's curve: three names, each followed by
an array of `len + 1` values. -/
def replyGhostStats (ms : MemStats) (curve : List CurvePoint) : Option (List Tok) :=
  if ms.keysCount = 0 then some nullGhostStats
  else match curve with
    | [] => some nullGhostStats
    | first :: _ => (ghostCurve ms first curve).map fun (bytesStartup, memAmplify) =>
      let len := curve.length % u32Size
      let accCnt := first.stat.hitCnt + first.stat.missCnt
      [.simple "ghost.ticks", .array ((len + 1) % u32Size)] ++
        (.longLong bytesStartup :: curve.map fun c => .longLong (tickOf memAmplify bytesStartup c)) ++
      [.simple "ghost.hit_cnt", .array ((len + 1) % u32Size)] ++
        (.longLong 0 :: curve.map fun c => .longLong c.stat.hitCnt) ++
      [.simple "ghost.miss_cnt", .array ((len + 1) % u32Size)] ++
        (.longLong accCnt :: curve.map fun c => .longLong c.stat.missCnt)

/-! ## The reply is six replies -/

lemma completeReplies_named {n : Nat} {xs : List Tok} (hxs : ∀ t ∈ xs, t.IsScalar)
    (hn : xs.length = n) (s : String) (k : Nat) (rest : List Tok) :
    completeReplies (k + 2) (.simple s :: .array n :: (xs ++ rest)) =
      completeReplies k rest := by
  subst hn
  rw [completeReplies_scalar (t := .simple s) trivial, completeReplies, Nat.add_comm,
    completeReplies_scalars hxs]

/-- Three names, each followed by an array of scalars, are six replies. -/
lemma completeReplies_three {n : Nat} {xs ys zs : List Tok} (hx : ∀ t ∈ xs, t.IsScalar)
    (hy : ∀ t ∈ ys, t.IsScalar) (hz : ∀ t ∈ zs, t.IsScalar) (hxn : xs.length = n)
    (hyn : ys.length = n) (hzn : zs.length = n) (a b c : String) :
    completeReplies 6 ([.simple a, .array n] ++ xs ++ [.simple b, .array n] ++ ys ++
      [.simple c, .array n] ++ zs) = true := by
  simp only [List.append_assoc, List.cons_append, List.nil_append]
  rw [completeReplies_named hx hxn, completeReplies_named hy hyn, ← List.append_nil zs,
    completeReplies_named (k := 0) hz hzn]
  rfl

lemma longLongs_scalar (x : Int) (f : CurvePoint → Int) (curve : List CurvePoint) :
    ∀ t ∈ Tok.longLong x :: curve.map (fun c => Tok.longLong (f c)), t.IsScalar := by
  simp [Tok.IsScalar]

/-- Whatever it reports, `reply_ghost_stats` sends three names and three values: the six
elements `HOPPER.STATS` counts for it, as long as the number of tiers fits `len + 1` in
`uint32_t`. -/
lemma replyGhostStats_complete {ms : MemStats} {curve : List CurvePoint} {out : List Tok}
    (hlen : curve.length + 1 < u32Size) (h : replyGhostStats ms curve = some out) :
    completeReplies 6 out = true := by
  unfold replyGhostStats at h
  split_ifs at h
  · cases h; rfl
  rcases curve with _ | ⟨first, rest⟩
  · cases h; rfl
  dsimp only at h
  obtain ⟨⟨s, amp⟩, -, rfl⟩ := Option.map_eq_some'.mp h
  have h1 : (first :: rest).length % u32Size = (first :: rest).length :=
    Nat.mod_eq_of_lt (by omega)
  rw [h1, Nat.mod_eq_of_lt hlen]
  exact completeReplies_three (longLongs_scalar _ _ _) (longLongs_scalar _ _ _)
    (longLongs_scalar _ _ _) (by simp) (by simp) (by simp) _ _ _

/-! ## The calibration -/

/-- The fixed overhead keeps `bytes_startup` within the total. -/
lemma calibStartup_le {s t : Nat} (hst : s ≤ t) (ht : t < 2 ^ 63) :
    calibStartup t s ≤ t := by
  have hT : toU64 t = t := by
    have := toU64_of_nonneg (x := (t : Int)) (Int.natCast_nonneg t)
      (by simp only [u64Size, Nat.reducePow] at ht ⊢; omega)
    exact_mod_cast this
  simp only [calibStartup, calibSmallCache, calibFixed, Bool.false_and, if_true, hT,
    Bool.false_eq_true, if_false]
  have hadd : addU64 s memFixedOverhead = s + memFixedOverhead := by
    apply addU64_of_lt
    simp only [u64Size, memFixedOverhead, Nat.reducePow, Nat.reduceMul] at ht ⊢
    omega
  rw [hadd]
  split <;> omega

/-- **What the calibration computes.**  On consistent statistics it is defined, the cost per
key is non-negative, and `bytes_startup` is what the keys leave of `total_allocated`, truncated:
exactly when the fallback is not taken, since then `bytes_per_key` was derived from it. -/
lemma calibrate_spec {ms : MemStats} (hc : ms.Consistent) :
    ∃ bytesPerKey bytesStartup, calibrate ms = some (bytesPerKey, bytesStartup) ∧
      0 ≤ bytesPerKey ∧ 0 ≤ (ms.totalAllocated : ℚ) - bytesPerKey * ms.keysCount ∧
      bytesStartup = ⌊(ms.totalAllocated : ℚ) - bytesPerKey * ms.keysCount⌋₊ := by
  have hsum0 : 0 ≤ ms.startupAllocated + ms.clientsNormal + ms.functionsCaches := by
    have := hc.startup_nonneg; have := hc.clients_nonneg; have := hc.functions_nonneg; omega
  obtain ⟨S, hS⟩ := Int.eq_ofNat_of_zero_le hsum0
  obtain ⟨T, hT⟩ := Int.eq_ofNat_of_zero_le (hsum0.trans hc.startup_le_total)
  obtain ⟨K, hK⟩ := Int.eq_ofNat_of_zero_le hc.keys_pos.le
  have hST : S ≤ T := by have := hc.startup_le_total; omega
  have hT63 : T < 2 ^ 63 := by have := hc.total_lt; omega
  have hK0 : (0 : ℚ) < K := by have := hc.keys_pos; exact_mod_cast (show 0 < K by omega)
  have hu : ∀ n : ℕ, n < 2 ^ 63 → toU64 n = n := fun n hn => by
    have := toU64_of_nonneg (x := (n : Int)) (Int.natCast_nonneg n)
      (by simp only [u64Size, Nat.reducePow] at hn ⊢; omega)
    exact_mod_cast this
  have hS'T : calibStartup T S ≤ T := calibStartup_le hST hT63
  have hsub : subU64 T (calibStartup T S) = T - calibStartup T S :=
    subU64_of_le hS'T (by simp only [u64Size, Nat.reducePow] at hT63 ⊢; omega)
  have hbpk : (0 : ℚ) ≤ ((T - calibStartup T S : ℕ) : ℚ) / K := by positivity
  have hcost : ((T - calibStartup T S : ℕ) : ℚ) / K * K = T - calibStartup T S := by
    rw [div_mul_cancel₀ _ hK0.ne', Nat.cast_sub hS'T]
  unfold calibrate calibAbnormalStep
  simp only [hS, hT, hK, hu S (by omega), hu T hT63, hsub, Int.cast_natCast, calibAbnormal,
    Bool.true_and, Bool.and_eq_true, decide_eq_true_eq]
  split_ifs with h
  · -- the fallback: the average size plus the overhead, and what it leaves of the total
    have havg := hc.avg_nonneg
    have hleft : (calibStartup T S : ℚ) < T - (ms.avgKvSize + maxPerKeyOverhead) * K := by
      have := mul_lt_mul_of_pos_right h.2 hK0
      rw [hcost] at this
      linarith only [this]
    have hlt : (T : ℚ) - (ms.avgKvSize + maxPerKeyOverhead) * K < u64Size := by
      have : (0 : ℚ) ≤ (ms.avgKvSize + maxPerKeyOverhead) * K := by positivity
      have hT' : (T : ℚ) < u64Size := by
        unfold u64Size; exact_mod_cast (show T < 2 ^ 64 by omega)
      linarith only [this, hT']
    have hx : (0 : ℚ) ≤ T - (ms.avgKvSize + maxPerKeyOverhead) * K :=
      (Nat.cast_nonneg _).trans hleft.le
    refine ⟨_, _, ?_, by positivity, hx, rfl⟩
    rw [doubleToU64, if_pos ⟨by linarith only [hx], hlt⟩]
    rfl
  · refine ⟨_, _, rfl, hbpk, ?_, ?_⟩ <;> rw [hcost, sub_sub_cancel]
    · exact Nat.cast_nonneg _
    · exact (Nat.floor_natCast _).symm

/-! ## The tier the loop picks -/

/-- The tier whose ratio the loop leaves in `mem_amplify`: `cur`, replaced by each tier the loop
reaches that holds at least `keysCount` keys. -/
def selectTier (keysCount : Int) (cur : CurvePoint) : List CurvePoint → CurvePoint
  | [] => cur
  | c :: cs => if keysCount > c.count then cur else selectTier keysCount c cs

/-- The loop computes the ratio of one tier: the one `selectTier` names. -/
lemma memAmplifyLoop_eq (k : Int) (b : ℚ) (cur : CurvePoint) (cs : List CurvePoint) :
    memAmplifyLoop k b (amplify b cur) cs = amplify b (selectTier k cur cs) := by
  induction cs generalizing cur with
  | nil => rfl
  | cons c cs ih =>
    simp only [memAmplifyLoop, selectTier]
    split
    · rfl
    · exact ih c

lemma selectTier_of_le {k : Int} {cs : List CurvePoint} (h : ∀ c ∈ cs, k ≤ c.count)
    (cur : CurvePoint) : selectTier k cur cs = (cur :: cs).getLast (List.cons_ne_nil _ _) := by
  induction cs generalizing cur with
  | nil => rfl
  | cons c cs ih =>
    rw [selectTier, if_neg (not_lt.mpr (h c (List.mem_cons_self _ _))), List.getLast_cons_cons]
    exact ih (fun c' hc' => h c' (List.mem_cons_of_mem _ hc')) c

/-- **The loop calibrates against an end of the curve.**  On tiers sorted by key count,
`mem_amplify` is the first tier's ratio when the cache holds more keys than that tier, and the
last tier's otherwise: never the ratio of a tier in between. -/
theorem memAmplifyLoop_sorted (keysCount : Int) (bytesPerKey : ℚ) (first : CurvePoint)
    (rest : List CurvePoint) (hsorted : List.Sorted (· ≤ ·) ((first :: rest).map (·.count))) :
    memAmplifyLoop keysCount bytesPerKey (amplify bytesPerKey first) (first :: rest) =
      amplify bytesPerKey (if (first.count : Int) < keysCount then first
        else (first :: rest).getLast (List.cons_ne_nil _ _)) := by
  rw [memAmplifyLoop_eq, selectTier]
  split_ifs with h
  · rfl
  · rw [selectTier_of_le]
    intro c hc
    have hle := (List.sorted_cons.mp hsorted).1 c.count (List.mem_map_of_mem _ hc)
    have : (first.count : Int) ≤ c.count := by exact_mod_cast hle
    exact (not_lt.mp h).trans this

/-- The three lists `hsorted`, `first :: rest` and their counts, for tiers of 32K, 64K and 96K
keys: on a cache of 50K keys the loop keeps the first tier's ratio. -/
theorem memAmplifyLoop_sorted_threeTiers :
    List.Sorted (· ≤ ·) (([⟨32768, 10, ⟨1, 2⟩⟩, ⟨65536, 20, ⟨3, 4⟩⟩, ⟨98304, 30, ⟨5, 6⟩⟩] :
      List CurvePoint).map (·.count)) ∧
    memAmplifyLoop 50000 7 (amplify 7 ⟨32768, 10, ⟨1, 2⟩⟩)
        [⟨32768, 10, ⟨1, 2⟩⟩, ⟨65536, 20, ⟨3, 4⟩⟩, ⟨98304, 30, ⟨5, 6⟩⟩] =
      amplify 7 ⟨32768, 10, ⟨1, 2⟩⟩ := by
  have hs : List.Sorted (· ≤ ·) (([⟨32768, 10, ⟨1, 2⟩⟩, ⟨65536, 20, ⟨3, 4⟩⟩,
      ⟨98304, 30, ⟨5, 6⟩⟩] : List CurvePoint).map (·.count)) := by decide
  refine ⟨hs, ?_⟩
  rw [memAmplifyLoop_sorted 50000 7 _ _ hs]
  rfl

/-! ## What is reported -/

lemma ghostCurve_eq_some {ms : MemStats} {first : CurvePoint} {curve : List CurvePoint}
    {bytesStartup : Nat} {memAmplify : ℚ} :
    ghostCurve ms first curve = some (bytesStartup, memAmplify) ↔
      ∃ bytesPerKey, calibrate ms = some (bytesPerKey, bytesStartup) ∧
        amplify bytesPerKey (selectTier ms.keysCount first curve) = some memAmplify := by
  simp only [ghostCurve, Option.bind_eq_bind, Option.bind_eq_some, Prod.exists,
    memAmplifyLoop_eq, Option.pure_def, Option.some.injEq, Prod.mk.injEq]
  constructor
  · rintro ⟨a, b, hcal, x, hamp, rfl, rfl⟩
    exact ⟨a, hcal, hamp⟩
  · rintro ⟨a, hcal, hamp⟩
    exact ⟨a, _, hcal, _, hamp, rfl, rfl⟩

lemma amplify_nonneg {b a : ℚ} {c : CurvePoint} (hb : 0 ≤ b) (h : amplify b c = some a) :
    0 ≤ a := by
  unfold amplify at h
  split_ifs at h <;> cases h
  · exact le_rfl
  · positivity

lemma tickOf_eq (memAmplify : ℚ) (bytesStartup : Nat) (c : CurvePoint) :
    tickOf memAmplify bytesStartup c = truncToInt (c.size * memAmplify + bytesStartup) := by
  simp [tickOf, calibSmallCache]

lemma le_tickOf {memAmplify : ℚ} (h : 0 ≤ memAmplify) (bytesStartup : Nat) (c : CurvePoint) :
    (bytesStartup : Int) ≤ tickOf memAmplify bytesStartup c := by
  rw [tickOf_eq, truncToInt_of_nonneg (by positivity), Int.le_floor]
  push_cast
  linarith only [mul_nonneg (Nat.cast_nonneg (α := ℚ) c.size) h]

lemma tickOf_mono {memAmplify : ℚ} (h : 0 ≤ memAmplify) (bytesStartup : Nat) {c d : CurvePoint}
    (hcd : c.size ≤ d.size) :
    tickOf memAmplify bytesStartup c ≤ tickOf memAmplify bytesStartup d := by
  rw [tickOf_eq, tickOf_eq, truncToInt_of_nonneg (by positivity),
    truncToInt_of_nonneg (by positivity)]
  apply Int.floor_mono
  have : (c.size : ℚ) ≤ d.size := by exact_mod_cast hcd
  linarith only [mul_le_mul_of_nonneg_right this h]

/-- On consistent statistics the handler's arithmetic is defined as soon as the tier it
calibrates against has bytes: `ghostCurve` is `calibrate_spec`'s values and that tier's ratio. -/
lemma ghostCurve_spec {ms : MemStats} (hc : ms.Consistent) {first : CurvePoint}
    {curve : List CurvePoint} (hsize : 0 < (selectTier ms.keysCount first curve).size) :
    ∃ bytesPerKey bytesStartup memAmplify,
      ghostCurve ms first curve = some (bytesStartup, memAmplify) ∧
      amplify bytesPerKey (selectTier ms.keysCount first curve) = some memAmplify ∧
      0 ≤ bytesPerKey ∧ 0 ≤ (ms.totalAllocated : ℚ) - bytesPerKey * ms.keysCount ∧
      bytesStartup = ⌊(ms.totalAllocated : ℚ) - bytesPerKey * ms.keysCount⌋₊ := by
  obtain ⟨bpk, s, hcal, hb, hx, hs⟩ := calibrate_spec hc
  obtain ⟨amp, hamp⟩ : ∃ amp, amplify bpk (selectTier ms.keysCount first curve) = some amp := by
    unfold amplify
    split_ifs with h0 <;> first | omega | exact ⟨_, rfl⟩
  exact ⟨bpk, s, amp, ghostCurve_eq_some.mpr ⟨bpk, hcal, hamp⟩, hamp, hb, hx, hs⟩

/-- A small instance: 3 MB allocated for 1000 keys, 1 MB of it at start-up, keys of 100 bytes
on average. -/
def smallStats : MemStats := ⟨3000000, 1000, 900000, 50000, 50000, 100⟩

/-- The first tier of `twoTiers`. -/
def tierA : CurvePoint := ⟨1000, 50000, ⟨1, 9⟩⟩

/-- Two tiers whose keys have the same estimated size. -/
def twoTiers : List CurvePoint := [tierA, ⟨2000, 100000, ⟨4, 6⟩⟩]

lemma smallStats_consistent : smallStats.Consistent :=
  ⟨by decide, by decide, by decide, by decide, by decide, by decide, by decide⟩

/-- **The ticks are sorted when the tiers are.**  On consistent statistics, whatever tier the
loop calibrates against (as long as it has bytes), the ticks `HOPPER.STATS` reports —
`bytes_startup`, then one per tier — are non-decreasing along tiers of non-decreasing size: the
sizes of the miss-ratio curve are in order. -/
theorem ghostTicks_sorted {ms : MemStats} (hc : ms.Consistent) {first : CurvePoint}
    {curve : List CurvePoint} (hsize : 0 < (selectTier ms.keysCount first curve).size)
    (hsorted : List.Sorted (· ≤ ·) (curve.map (·.size))) :
    ∃ bytesStartup memAmplify, ghostCurve ms first curve = some (bytesStartup, memAmplify) ∧
      List.Sorted (· ≤ ·) ((bytesStartup : Int) :: curve.map (tickOf memAmplify bytesStartup)) := by
  obtain ⟨bpk, s, amp, hg, hamp, hb, -⟩ := ghostCurve_spec hc hsize
  have h0 := amplify_nonneg hb hamp
  refine ⟨s, amp, hg, List.sorted_cons.mpr ⟨fun t ht => ?_, ?_⟩⟩
  · obtain ⟨c, -, rfl⟩ := List.mem_map.mp ht
    exact le_tickOf h0 _ c
  · exact List.pairwise_map.mpr ((List.pairwise_map.mp hsorted).imp (tickOf_mono h0 _))

/-- The two tiers of `twoTiers` on `smallStats`. -/
theorem ghostTicks_sorted_smallStats :
    smallStats.Consistent ∧ 0 < (selectTier smallStats.keysCount tierA twoTiers).size ∧
      List.Sorted (· ≤ ·) (twoTiers.map (·.size)) ∧
      ∃ bytesStartup memAmplify,
        ghostCurve smallStats tierA twoTiers = some (bytesStartup, memAmplify) ∧
        List.Sorted (· ≤ ·)
          ((bytesStartup : Int) :: twoTiers.map (tickOf memAmplify bytesStartup)) := by
  have h1 : 0 < (selectTier smallStats.keysCount tierA twoTiers).size := by decide
  have h2 : List.Sorted (· ≤ ·) (twoTiers.map (·.size)) := by decide
  exact ⟨smallStats_consistent, h1, h2, ghostTicks_sorted smallStats_consistent h1 h2⟩

/-- **The ticks follow the heuristic memory model.**  `config.h` models the memory of `n` keys as
`bytes_startup + bytes_per_key * n`.  On consistent statistics, that line passes through the
present — at `keys_count` keys it gives `total_allocated`, less than one byte under when the
fallback truncated `bytes_startup` — and every tier whose keys have the average estimated size
of the tier the loop calibrates against is reported on it. -/
theorem ghostTicks_linear {ms : MemStats} (hc : ms.Consistent) {first : CurvePoint}
    {curve : List CurvePoint} (hsize : 0 < (selectTier ms.keysCount first curve).size)
    (hcount : 0 < (selectTier ms.keysCount first curve).count) :
    ∃ bytesPerKey bytesStartup memAmplify,
      ghostCurve ms first curve = some (bytesStartup, memAmplify) ∧
      (ms.totalAllocated : ℚ) - 1 < bytesStartup + bytesPerKey * ms.keysCount ∧
      bytesStartup + bytesPerKey * ms.keysCount ≤ ms.totalAllocated ∧
      ∀ c ∈ curve, c.size * (selectTier ms.keysCount first curve).count =
          (selectTier ms.keysCount first curve).size * c.count →
        tickOf memAmplify bytesStartup c = ⌊(bytesStartup : ℚ) + bytesPerKey * c.count⌋ := by
  set sel := selectTier ms.keysCount first curve
  obtain ⟨bpk, s, amp, hg, hamp, hb, hx, hs⟩ := ghostCurve_spec hc hsize
  have hamp' : amp = bpk * sel.count / sel.size := by
    simp only [amplify, hsize.ne', hcount.ne', if_false, Option.some.injEq] at hamp
    rw [← hamp, div_div_eq_mul_div]
  have hfloor := Nat.floor_le hx
  have hlt := Nat.lt_floor_add_one ((ms.totalAllocated : ℚ) - bpk * ms.keysCount)
  rw [← hs] at hfloor hlt
  refine ⟨bpk, s, amp, hg, by linarith only [hlt], by linarith only [hfloor], fun c _ hc' => ?_⟩
  have hsz : (sel.size : ℚ) ≠ 0 := by exact_mod_cast hsize.ne'
  have hdata : (c.size : ℚ) * amp = bpk * c.count := by
    have : (c.size : ℚ) * sel.count = sel.size * c.count := by exact_mod_cast hc'
    rw [hamp', mul_div_assoc', div_eq_iff hsz]
    linear_combination bpk * this
  have hnonneg : 0 ≤ bpk * c.count := mul_nonneg hb (Nat.cast_nonneg _)
  rw [tickOf_eq, hdata, truncToInt_of_nonneg (by positivity), add_comm]

/-- The two tiers of `twoTiers` on `smallStats`, where the fallback is taken. -/
theorem ghostTicks_linear_smallStats :
    smallStats.Consistent ∧ 0 < (selectTier smallStats.keysCount tierA twoTiers).size ∧
      0 < (selectTier smallStats.keysCount tierA twoTiers).count ∧
      ∃ bytesPerKey bytesStartup memAmplify,
        ghostCurve smallStats tierA twoTiers = some (bytesStartup, memAmplify) ∧
        (smallStats.totalAllocated : ℚ) - 1 < bytesStartup + bytesPerKey * smallStats.keysCount ∧
        bytesStartup + bytesPerKey * smallStats.keysCount ≤ smallStats.totalAllocated ∧
        ∀ c ∈ twoTiers, c.size * (selectTier smallStats.keysCount tierA twoTiers).count =
            (selectTier smallStats.keysCount tierA twoTiers).size * c.count →
          tickOf memAmplify bytesStartup c = ⌊(bytesStartup : ℚ) + bytesPerKey * c.count⌋ := by
  have h1 : 0 < (selectTier smallStats.keysCount tierA twoTiers).size := by decide
  have h2 : 0 < (selectTier smallStats.keysCount tierA twoTiers).count := by decide
  exact ⟨smallStats_consistent, h1, h2, ghostTicks_linear smallStats_consistent h1 h2⟩

end Ghost

end Hopper
