import Mathlib.Algebra.Order.Field.Rat
import Mathlib.Tactic.Linarith

/-!
# Allocator parameters and unsigned arithmetic

`params.h`/`params.cpp` of the HARE allocator engine.  The settable globals of
`params::alloc` and `params::policy` are gathered in one record `Params`, passed explicitly
to every operation that reads them; the `constexpr` constants are plain definitions.

Doubles are modelled as rationals: every theorem about the allocator is stated over exact
arithmetic.  The two abort sentinels stay the finite numbers the code uses, so a deal that
"no one could possibly afford" is affordable by a large enough tenant, exactly as in the
code.  Cache sizes are `uint64_t`; `addU64` and `subU64` are the wrapping operations the
code performs on them.
-/

namespace Hopper

/-! ## Unsigned 64-bit arithmetic -/

/-- `2^64`, the modulus of `uint64_t`. -/
def u64Size : Nat := 2 ^ 64

/-- `2^32`, the modulus of `uint32_t`. -/
def u32Size : Nat := 2 ^ 32

/-- `a + b` on `uint64_t`. -/
def addU64 (a b : Nat) : Nat := (a + b) % u64Size

/-- `a - b` on `uint64_t`, for operands already below `2^64`. -/
def subU64 (a b : Nat) : Nat := (a + (u64Size - b)) % u64Size

lemma addU64_of_lt {a b : Nat} (h : a + b < u64Size) : addU64 a b = a + b :=
  Nat.mod_eq_of_lt h

lemma subU64_of_le {a b : Nat} (hb : b ≤ a) (ha : a < u64Size) : subU64 a b = a - b := by
  unfold subU64
  rw [show a + (u64Size - b) = (a - b) + u64Size by omega, Nat.add_mod_right]
  exact Nat.mod_eq_of_lt (by omega)

/-- The run-time configurable globals `params::policy::alloc_total_net_bw` and
`params::alloc::{cache_delta, min_cache_size, min_db_rcu, min_db_wcu, min_net_bw}`. -/
structure Params where
  allocTotalNetBw : Bool
  cacheDelta : Nat
  minCacheSize : Nat
  minDbRcu : ℚ
  minDbWcu : ℚ
  minNetBw : ℚ
  deriving DecidableEq, Repr

/-- The initial values in `params.cpp`. -/
def Params.default : Params where
  allocTotalNetBw := true
  cacheDelta := 4 * 1024 * 1024
  minCacheSize := 4 * 1024 * 1024
  minDbRcu := 10
  minDbWcu := 10
  minNetBw := 80 * 1024

/-- `params::policy::set_alloc_total_net_bw`. -/
def Params.setAllocTotalNetBw (p : Params) (b : Bool) : Params := { p with allocTotalNetBw := b }

/-! ## Constants -/

/-- `params::alloc::max_trade_round`. -/
def maxTradeRound : Nat := 10000

/-- `params::alloc::min_improve_ratio_delta`. -/
def minImproveRatioDelta : ℚ := 1 / 10000

/-- `params::alloc::max_miss_ratio`. -/
def maxMissRatio : ℚ := 1

/-- `params::alloc::min_miss_ratio`. -/
def minMissRatio : ℚ := 0

/-- `params::numeric::db_rcu_epsilon`, `db_wcu_epsilon` and `net_bw_epsilon` (all equal). -/
def dbRcuEpsilon : ℚ := 1 / 10000

def dbWcuEpsilon : ℚ := 1 / 10000

def netBwEpsilon : ℚ := 1 / 10000

/-- `params::numeric::epilson`, the machine epsilon of `double`, `2^-52`. -/
def epilson : ℚ := 1 / 4503599627370496

/-- `params::numeric::relinq_abort_offer`. -/
def relinqAbortOffer : ℚ := 0

/-- `params::numeric::compen_abort_offer`, the largest finite `float`, `(2^24 - 1) * 2^104`. -/
def compenAbortOffer : ℚ := 340282346638528859811704183484516925440

/-- `params::mrc::disable_interpolation_near_inf`. -/
def disableInterpolationNearInf : Bool := false

/-- `params::mrc::conservative_estimation_if_out_of_range`. -/
def conservativeEstimationIfOutOfRange : Bool := true

lemma epilson_pos : 0 < epilson := by norm_num [epilson]

lemma compenAbortOffer_pos : 0 < compenAbortOffer := by norm_num [compenAbortOffer]

lemma minImproveRatioDelta_pos : 0 < minImproveRatioDelta := by norm_num [minImproveRatioDelta]

end Hopper
