import Hopper.Alloc.DoAlloc

/-!
# What one round guarantees

An allocator built by `add_tenant` calls with admissible specifications, then one
`do_alloc`.  Besides admissibility two conditions on the input matter:

* `TotalsBelowAbort`: every total is below `float_max`, the value of `compen_abort_offer`.
  A relinquisher holding more than that can pay for a compensator's abort offer, and the
  deal goes through: the compensator gives up cache it may not have (its `uint64_t` cache
  size wraps) and its throughput collapses.
* `CachesFit`: the cache sizes, plus `min_cache_size + cache_delta`, fit `uint64_t`.

Under both, a round keeps the cache sum exactly; in conserving mode it hands out exactly the
total when it redistributes (within the epsilons when it skips); without memshare every
tenant's throughput grows by `1 + improve_ratio`, up to the shortfall of its immediate
trades; cache sizes keep their floors; and every committed trade is a valid one.  The
concrete inputs below show what goes wrong without `TotalsBelowAbort`, and that the
stateless floors `min_db_rcu`, `min_db_wcu`, `min_net_bw` are not kept at all.
-/

namespace Hopper

namespace Allocator

open Tenant

/-! ## The input -/

/-- Every total of the base resources is below `compen_abort_offer`. -/
def TotalsBelowAbort (specs : List TenantSpec) : Prop :=
  ∀ k : Dim, (specs.map fun spec : TenantSpec => spec.baseResrc.stateless).sum.get k < compenAbortOffer

/-- The base cache sizes, plus `min_cache_size + cache_delta`, fit `uint64_t`. -/
def CachesFit (p : Params) (specs : List TenantSpec) : Prop :=
  (specs.map fun spec : TenantSpec => spec.baseResrc.cacheSize).sum + p.minCacheSize + p.cacheDelta < u64Size

instance (specs : List TenantSpec) : Decidable (TotalsBelowAbort specs) :=
  Dim.decidableForall _

instance (p : Params) (specs : List TenantSpec) : Decidable (CachesFit p specs) :=
  Nat.decLt _ _

/-- The parameters `main` of `test_alloc.cpp` fixes. -/
def testParams : Params :=
  { Params.default with
    allocTotalNetBw := false, cacheDelta := 10, minCacheSize := 10, minDbRcu := 10,
    minDbWcu := 10, minNetBw := 10 }

/-- The two tenants of `test_trade_basic`. -/
def tradeBasicSpecs : List TenantSpec :=
  [⟨⟨4 / 5, 1 / 5, 4⟩, ⟨40, ⟨2, 2, 16⟩⟩, ⟨[20, 40, 60, 80, 100], [9 / 10, 17 / 20, 4 / 5, 7 / 10, 1 / 2]⟩, 0⟩,
   ⟨⟨4 / 5, 1 / 5, 4⟩, ⟨40, ⟨2, 2, 16⟩⟩, ⟨[20, 40, 60, 80, 100], [4 / 5, 3 / 5, 3 / 10, 1 / 5, 3 / 20]⟩, 0⟩]

section built

variable {p : Params} {policy : Policy} {specs : List TenantSpec}

lemma totalsBelowAbort_build (hF : TotalsBelowAbort specs) (k : Dim) :
    (build policy specs).totalResrc.stateless.get k < compenAbortOffer := by
  rw [build_total, aggregateResrc_build]; exact hF k

lemma cachesFit_build (hfit : CachesFit p specs) :
    cacheSum (build policy specs).tenants + p.minCacheSize + p.cacheDelta < u64Size := by
  rw [cacheSum_build]; exact hfit

end built

attribute [local semireducible] Rat.mul Rat.inv Rat.add Rat.sub

/-! ## Conservation -/

/-- With every total below `float_max` and the cache sizes fitting `uint64_t`, one round
keeps the sum of the cache sizes exactly, with no wrap.  In conserving mode the tenants end up
holding the total within the epsilons, and exactly when `do_redistribute` runs; otherwise they
hold at most the total in every dimension, and the total itself in some dimension when
`do_redistribute` runs. -/
theorem doAlloc_conserves (p : Params) (fuel : Nat) (policy : Policy) {specs : List TenantSpec}
    (hs : ∀ spec ∈ specs, spec.Admissible) :
    let a := build policy specs
    let a' := (doAlloc p fuel a).1
    let total := (specs.map fun spec : TenantSpec => spec.baseResrc.stateless).sum
    (TotalsBelowAbort specs → CachesFit p specs →
      cacheSum a'.tenants = (specs.map fun spec : TenantSpec => spec.baseResrc.cacheSize).sum) ∧
    (policy.conserving = true →
      (runsRedistribute p fuel a = true → aggregateResrc a'.tenants = total) ∧
      (total - aggregateResrc a'.tenants).isAlmostEmpty = true) ∧
    (policy.conserving = false →
      (∀ k, (aggregateResrc a'.tenants).get k ≤ total.get k) ∧
      (runsRedistribute p fuel a = true →
        ∃ k, (aggregateResrc a'.tenants).get k = total.get k)) := by
  intro a a' total
  have htot : a.totalResrc.stateless = total := (build_total _ _).trans (aggregateResrc_build _ _)
  by_cases hn : a.tenants.length ≤ 1
  · -- `do_alloc` returns at once
    have hr : runsRedistribute p fuel a = false := by simp [runsRedistribute, hn]
    have ha' : a' = a := by simp only [a', doAlloc_eq, if_pos hn]
    rw [ha', hr, aggregateResrc_build, cacheSum_build, sub_self]
    exact ⟨fun _ _ => rfl, fun _ => ⟨nofun, StatelessResrcVec.isAlmostEmpty_zero⟩,
      fun _ => ⟨fun _ => le_rfl, nofun⟩⟩
  have ha : a.Ready := ready_build policy hs (by simpa [a, build_tenants] using hn)
  have hn2 := ha.two_le
  have hph := allocPhase_phased p fuel ha
  refine ⟨fun hF hfit => ?_, ?_⟩
  · obtain ⟨hc, -, -⟩ := doAlloc_tenant fuel ha (cachesFit_build hfit)
      (reserved_le_cacheSum_build _ _) (totalsBelowAbort_build hF)
    exact hc.trans (cacheSum_build _ _)
  have hpol : (allocPhase p fuel a).1.policy = policy := hph.policy.trans (build_policy _ _)
  have hr : runsRedistribute p fuel a = !(allocPhase p fuel a).2.isAlmostEmpty := by
    simp [runsRedistribute, hn]
  simp only [a', doAlloc_eq, if_neg hn, hr, Bool.not_eq_true']
  rw [← htot]
  by_cases he : (allocPhase p fuel a).2.isAlmostEmpty = true
  · -- the skip: the tenants hold the total less the almost empty `resrc_avail`
    rw [← hph.conserve]
    simp only [he, if_true, Bool.true_eq_false, false_implies, true_and, and_true,
      add_sub_cancel_left]
    exact ⟨fun _ => trivial, fun _ k => by
      rw [StatelessResrcVec.get_add]; linarith [hph.avail_nonneg k]⟩
  · simp only [if_neg he]
    refine ⟨fun hcons => ?_, fun hcons => ?_⟩
    · rw [redistribute_conserving hph hn2 (hpol ▸ hcons), sub_self]
      exact ⟨fun _ => rfl, StatelessResrcVec.isAlmostEmpty_zero⟩
    · obtain ⟨hle, heq⟩ := redistribute_nonconserving hph hn2 (hpol ▸ hcons)
      exact ⟨hle, fun _ => heq⟩

theorem doAlloc_conserves_tradeBasic :
    (∀ spec ∈ tradeBasicSpecs, spec.Admissible) ∧ TotalsBelowAbort tradeBasicSpecs ∧
      CachesFit testParams tradeBasicSpecs ∧
      cacheSum (doAlloc testParams 0 (build Policy.default tradeBasicSpecs)).1.tenants = 80 := by
  have hs : ∀ spec ∈ tradeBasicSpecs, spec.Admissible := by decide
  have hF : TotalsBelowAbort tradeBasicSpecs := by decide
  have hfit : CachesFit testParams tradeBasicSpecs := by decide
  exact ⟨hs, hF, hfit, (doAlloc_conserves testParams 0 Policy.default hs).1 hF hfit⟩

/-- Two tenants of `test_alloc.cpp`'s scale, except that the second holds `100 * float_max`
of every resource with a flat curve at cache size `5 < cache_delta`: the first relinquishes
`2 * float_max` of `db_rcu` for one more `cache_delta`, which pays for the second's abort
offer, and the second's cache size wraps. -/
def wrapSpecs : List TenantSpec :=
  [⟨⟨1, 1, 1⟩, ⟨10, ⟨4 * compenAbortOffer, 81 / 10 * compenAbortOffer,
      81 / 10 * compenAbortOffer⟩⟩, ⟨[10, 20], [1 / 2, 1 / 4]⟩, 0⟩,
   ⟨⟨1, 1, 1⟩, ⟨5, ⟨100 * compenAbortOffer, 100 * compenAbortOffer,
      100 * compenAbortOffer⟩⟩, ⟨[10, 20], [1, 1]⟩, 0⟩]

/-- Two tenants with small totals, the second at cache size `7` on a curve that drops to `1/2`
at its last tick; with `min_cache_size = 2^64 - 5` the sum `min_cache_size + cache_delta`
wraps to `5`, the second tenant passes the check, and the miss ratio it predicts at the
wrapped `7 - cache_delta` is the last one, so it gives its cache away for nothing. -/
def overflowSpecs : List TenantSpec :=
  [⟨⟨1, 1, 1⟩, ⟨20, ⟨10, 20, 20⟩⟩, ⟨[10, 20, 30], [9 / 10, 1 / 2, 1 / 10]⟩, 0⟩,
   ⟨⟨1, 1, 1⟩, ⟨7, ⟨10, 20, 20⟩⟩, ⟨[10, 20], [1, 1 / 2]⟩, 0⟩]

/-- On `wrapSpecs` the second tenant's cache size wraps to `2^64 - 5`; on `overflowSpecs`,
whose totals are small, it wraps to `2^64 - 3`. -/
theorem doAlloc_cacheSum_wraps :
    (∀ spec ∈ wrapSpecs, spec.Admissible) ∧ CachesFit testParams wrapSpecs ∧
      (doAlloc testParams 0 (build Policy.default wrapSpecs)).1.getAllocResult.map
        (·.cacheSize) = [20, u64Size - 5] ∧
      cacheSum (doAlloc testParams 0 (build Policy.default wrapSpecs)).1.tenants ≠
        (wrapSpecs.map fun spec : TenantSpec => spec.baseResrc.cacheSize).sum ∧
      (∀ spec ∈ overflowSpecs, spec.Admissible) ∧ TotalsBelowAbort overflowSpecs ∧
      (doAlloc { testParams with minCacheSize := u64Size - 5 } 0
        (build Policy.default overflowSpecs)).1.getAllocResult.map (·.cacheSize) =
        [30, u64Size - 3] := by
  decide

/-! ## The sharing incentive -/

/-- Without memshare, a round returns a non-negative `improve_ratio` `r`, and every tenant
ends with throughput at least `(1 + r)` times its base throughput, times its shortfall: the
product, over the trades in which it was the compensator on the immediate zero offer, of
that trade's `mr(c) / mr(c - cache_delta)`. -/
theorem doAlloc_sharing_incentive (p : Params) (fuel : Nat) (policy : Policy)
    {specs : List TenantSpec} (hs : ∀ spec ∈ specs, spec.Admissible) (hn : 2 ≤ specs.length)
    (hm : policy.memshare = false) (hF : TotalsBelowAbort specs) (hfit : CachesFit p specs) :
    let a := build policy specs
    let r := (doAlloc p fuel a).2
    0 ≤ r ∧ ∀ (i : Nat) t t', a.tenants[i]? = some t → (doAlloc p fuel a).1.tenants[i]? = some t' →
      (1 + r) * t.tput p * shortfall p i (allocTrace p fuel a) ≤ t'.tput p := by
  obtain ⟨-, hr, ht⟩ := doAlloc_tenant fuel (ready_build policy hs hn) (cachesFit_build hfit)
    (reserved_le_cacheSum_build _ _) (totalsBelowAbort_build hF)
  exact ⟨hr, fun i t t' h h' => ((ht i t t' h h').2.2 (by rw [build_policy]; exact hm)).2.2⟩

theorem doAlloc_sharing_incentive_tradeBasic :
    (∀ spec ∈ tradeBasicSpecs, spec.Admissible) ∧ 2 ≤ tradeBasicSpecs.length ∧
      TotalsBelowAbort tradeBasicSpecs ∧ CachesFit testParams tradeBasicSpecs ∧
      0 ≤ (doAlloc testParams 0 (build Policy.default tradeBasicSpecs)).2 := by
  have hs : ∀ spec ∈ tradeBasicSpecs, spec.Admissible := by decide
  have hF : TotalsBelowAbort tradeBasicSpecs := by decide
  have hfit : CachesFit testParams tradeBasicSpecs := by decide
  exact ⟨hs, by decide, hF, hfit,
    (doAlloc_sharing_incentive testParams 0 Policy.default hs (by decide) rfl hF hfit).1⟩

/-- The first tenant of `wrapSpecs`, and a second one with `100 * float_max` of `db_wcu` and
`net_bw`, `10 * float_max` of `db_rcu`, and miss ratio `0.1` at cache size `cache_delta`. -/
def hugeSpecs : List TenantSpec :=
  [⟨⟨1, 1, 1⟩, ⟨10, ⟨4 * compenAbortOffer, 81 / 10 * compenAbortOffer,
      81 / 10 * compenAbortOffer⟩⟩, ⟨[10, 20], [1 / 2, 1 / 4]⟩, 0⟩,
   ⟨⟨1, 1, 1⟩, ⟨10, ⟨10 * compenAbortOffer, 100 * compenAbortOffer,
      100 * compenAbortOffer⟩⟩, ⟨[10, 20], [1 / 10, 1 / 10]⟩, 0⟩]

/-- On `hugeSpecs` the second tenant's abort offer is accepted: it gives up all its cache,
its shortfall is `1`, and its throughput ends far below `1 + r` times its base. -/
theorem doAlloc_tput_collapses :
    let a := build Policy.default hugeSpecs
    let r := doAlloc testParams 0 a
    (∀ spec ∈ hugeSpecs, spec.Admissible) ∧ 2 ≤ hugeSpecs.length ∧
      shortfall testParams 1 (allocTrace testParams 0 a) = 1 ∧
      ∃ t ∈ a.tenants[1]?, ∃ t' ∈ r.1.tenants[1]?,
        t'.tput testParams < (1 + r.2) * t.tput testParams *
          shortfall testParams 1 (allocTrace testParams 0 a) := by
  decide

/-! ## Floors -/

/-- When every base cache size is at least `min_cache_size`, a round leaves every tenant a
cache size of at least `min(reserved_cache_size, min_cache_size)`, and without memshare at
least `min_cache_size`; every stateless component stays positive. -/
theorem doAlloc_cache_floor (p : Params) (fuel : Nat) (policy : Policy) {specs : List TenantSpec}
    (hs : ∀ spec ∈ specs, spec.Admissible) (hn : 2 ≤ specs.length)
    (hmin : ∀ spec ∈ specs, p.minCacheSize ≤ spec.baseResrc.cacheSize)
    (hF : TotalsBelowAbort specs) (hfit : CachesFit p specs) :
    let a := build policy specs
    ∀ (i : Nat) t t', a.tenants[i]? = some t → (doAlloc p fuel a).1.tenants[i]? = some t' →
      min t.reservedCacheSize p.minCacheSize ≤ t'.resrc.cacheSize ∧
      (policy.memshare = false → p.minCacheSize ≤ t'.resrc.cacheSize) ∧
      ∀ k, 0 < t'.resrc.stateless.get k := by
  intro a i t t' h h'
  obtain ⟨-, -, ht⟩ := doAlloc_tenant fuel (ready_build policy hs hn) (cachesFit_build hfit)
    (reserved_le_cacheSum_build _ _) (totalsBelowAbort_build hF)
  obtain ⟨hpos, h1, h2⟩ := ht i t t' h h'
  rw [getElem?_build, Option.map_eq_some'] at h
  obtain ⟨spec, hspec, rfl⟩ := h
  have hc := hmin spec (List.getElem?_mem hspec)
  simp only [Tenant.new, build_policy] at h1 h2 ⊢
  rw [min_eq_right (Nat.div_le_self _ 2)] at h1
  exact ⟨h1, fun hm => min_eq_right hc ▸ (h2 hm).1, hpos⟩

theorem doAlloc_cache_floor_tradeBasic :
    (∀ spec ∈ tradeBasicSpecs, spec.Admissible) ∧ 2 ≤ tradeBasicSpecs.length ∧
      (∀ spec ∈ tradeBasicSpecs, testParams.minCacheSize ≤ spec.baseResrc.cacheSize) ∧
      TotalsBelowAbort tradeBasicSpecs ∧ CachesFit testParams tradeBasicSpecs ∧
      ∀ t' ∈ (doAlloc testParams 0 (build Policy.default tradeBasicSpecs)).1.tenants[0]?,
        testParams.minCacheSize ≤ t'.resrc.cacheSize := by
  have hs : ∀ spec ∈ tradeBasicSpecs, spec.Admissible := by decide
  have hmin : ∀ spec ∈ tradeBasicSpecs, testParams.minCacheSize ≤ spec.baseResrc.cacheSize := by
    decide
  have hF : TotalsBelowAbort tradeBasicSpecs := by decide
  have hfit : CachesFit testParams tradeBasicSpecs := by decide
  exact ⟨hs, by decide, hmin, hF, hfit, fun t' ht' =>
    ((doAlloc_cache_floor testParams 0 Policy.default hs (by decide) hmin hF hfit) 0 _ t' rfl
      ht').2.1 rfl⟩

/-- Two tenants at cache size `40` that meet the test floors; the first has a flat curve and
gives its cache away for nothing, the second wants it. -/
def floorSpecs : List TenantSpec :=
  [⟨⟨1, 1, 1⟩, ⟨40, ⟨10, 20, 20⟩⟩, ⟨[10, 20, 30, 40, 50], [1, 1, 1, 1, 1]⟩, 0⟩,
   ⟨⟨1, 1, 1⟩, ⟨40, ⟨10, 20, 20⟩⟩,
      ⟨[10, 20, 30, 40, 50, 60, 70, 80], [9 / 10, 4 / 5, 7 / 10, 3 / 5, 1 / 2, 2 / 5, 3 / 10, 1 / 5]⟩,
      0⟩]

/-- Two tenants at cache size `24` with `min_cache_size = 20`, for memshare: the first, with a
flat curve, donates down to `14`. -/
def memshareFloorSpecs : List TenantSpec :=
  [⟨⟨1, 1, 1⟩, ⟨24, ⟨10, 10, 10⟩⟩, ⟨[10, 20, 30, 40, 50], [1, 1, 1, 1, 1]⟩, 0⟩,
   ⟨⟨1, 1, 1⟩, ⟨24, ⟨10, 10, 10⟩⟩, ⟨[10, 20, 30, 40, 50], [1, 4 / 5, 3 / 5, 2 / 5, 1 / 5]⟩, 0⟩]

/-- On `floorSpecs` the harvest takes the first tenant to cache size `10`, below its reserved
`20`, and the second ends with `db_rcu` below `min_db_rcu`; on `memshareFloorSpecs`,
memshare takes the first tenant below `min_cache_size`; on `hugeSpecs`, whose cache sizes
start at `min_cache_size`, the accepted abort offer takes the second tenant to `0`. -/
theorem doAlloc_below_floors :
    (∀ spec ∈ floorSpecs, spec.Admissible ∧ testParams.minCacheSize ≤ spec.baseResrc.cacheSize ∧
      testParams.minDbRcu ≤ spec.baseResrc.stateless.dbRcu ∧
      testParams.minDbWcu ≤ spec.baseResrc.stateless.dbWcu ∧
      testParams.minNetBw ≤ spec.baseResrc.stateless.netBw) ∧
      (∃ t ∈ (build Policy.default floorSpecs).tenants[0]?,
        ∃ t' ∈ (doAlloc testParams 0 (build Policy.default floorSpecs)).1.tenants[0]?,
          t'.resrc.cacheSize < t.reservedCacheSize) ∧
      (∃ t' ∈ (doAlloc testParams 0 (build Policy.default floorSpecs)).1.tenants[1]?,
        t'.resrc.stateless.dbRcu < testParams.minDbRcu) ∧
      (∀ spec ∈ memshareFloorSpecs, spec.Admissible ∧
        20 ≤ spec.baseResrc.cacheSize ∧ testParams.minDbRcu ≤ spec.baseResrc.stateless.dbRcu ∧
        testParams.minDbWcu ≤ spec.baseResrc.stateless.dbWcu ∧
        testParams.minNetBw ≤ spec.baseResrc.stateless.netBw) ∧
      (∃ t' ∈ (doAlloc { testParams with minCacheSize := 20 } 10
          (build ⟨false, true, true⟩ memshareFloorSpecs)).1.tenants[0]?,
        t'.resrc.cacheSize < 20) ∧
      (∀ spec ∈ hugeSpecs, testParams.minCacheSize ≤ spec.baseResrc.cacheSize) ∧
      ∃ t' ∈ (doAlloc testParams 0 (build Policy.default hugeSpecs)).1.tenants[1]?,
        t'.resrc.cacheSize < testParams.minCacheSize := by
  decide

/-! ## Valid trades -/

/-- Every trade a round commits is between two different tenants, neither on its abort
offer; the compensator could give up `cache_delta` without going below `min_cache_size`;
every stateless component stays positive; the relinquisher keeps its throughput, and so does
the compensator unless it made the immediate offer. -/
theorem harvest_trades_valid (p : Params) (fuel : Nat) (policy : Policy) {specs : List TenantSpec}
    (hs : ∀ spec ∈ specs, spec.Admissible) (hn : 2 ≤ specs.length)
    (hF : TotalsBelowAbort specs) (hfit : CachesFit p specs) :
    let a := build policy specs
    ∀ x ∈ allocTrace p fuel a, ∃ s', harvestRound p a.totalResrc.stateless x.2 = some (x.1, s') ∧
      ∃ tR tC, x.2.tenants[x.1.tRelinq]? = some tR ∧ x.2.tenants[x.1.tCompen]? = some tC ∧
        x.1.tRelinq ≠ x.1.tCompen ∧ ¬ tR.RelinqAborts p ∧ ¬ tC.CompenAborts p ∧
        p.minCacheSize + p.cacheDelta ≤ tC.resrc.cacheSize ∧
        (∀ t ∈ s'.tenants, ∀ k, 0 < t.resrc.stateless.get k) ∧
        s'.tenants[x.1.tRelinq]?.map (·.tput p) = some (tR.tput p) ∧
        (¬ tC.CompenImmediate p → s'.tenants[x.1.tCompen]?.map (·.tput p) = some (tC.tput p)) := by
  intro a x hx
  have ha := ready_build policy hs hn
  have hF' : ∀ k, a.totalResrc.stateless.get k < compenAbortOffer := totalsBelowAbort_build hF
  have hfit' := cacheSum_harvestEntry fuel ha (cachesFit_build hfit)
    (reserved_le_cacheSum_build _ _) ▸ cachesFit_build hfit
  unfold allocTrace at hx
  split_ifs at hx
  · obtain ⟨hi, hc, s', h⟩ := mem_harvestTrace hF' maxTradeRound _ (ha.harvestEntry_inv p fuel)
      hfit' x hx
    exact ⟨s', h, harvestRound_trade hF' hi (hc ▸ hfit') h⟩
  · simp at hx

theorem harvest_trades_valid_tradeBasic :
    (∀ spec ∈ tradeBasicSpecs, spec.Admissible) ∧ 2 ≤ tradeBasicSpecs.length ∧
      TotalsBelowAbort tradeBasicSpecs ∧ CachesFit testParams tradeBasicSpecs ∧
      ∀ x ∈ allocTrace testParams 0 (build Policy.default tradeBasicSpecs),
        x.1.tRelinq ≠ x.1.tCompen := by
  have hs : ∀ spec ∈ tradeBasicSpecs, spec.Admissible := by decide
  have hF : TotalsBelowAbort tradeBasicSpecs := by decide
  have hfit : CachesFit testParams tradeBasicSpecs := by decide
  refine ⟨hs, by decide, hF, hfit, fun x hx => ?_⟩
  obtain ⟨-, -, -, -, -, -, hne, -⟩ :=
    harvest_trades_valid testParams 0 Policy.default hs (by decide) hF hfit x hx
  exact hne

/-- On `hugeSpecs` the one committed trade takes `cache_delta` from the second tenant, whose
cache size is below `min_cache_size + cache_delta`, at its abort offer `float_max`. -/
theorem harvest_accepts_abort_offer :
    (∀ spec ∈ hugeSpecs, spec.Admissible) ∧ 2 ≤ hugeSpecs.length ∧
      ∃ x ∈ allocTrace testParams 0 (build Policy.default hugeSpecs),
        x.1.rcuDeltaCompen = compenAbortOffer ∧
        ∃ tC ∈ x.2.tenants[x.1.tCompen]?,
          tC.resrc.cacheSize < testParams.minCacheSize + testParams.cacheDelta := by
  decide

end Allocator

end Hopper
