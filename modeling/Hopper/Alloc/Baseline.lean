import Hopper.Alloc.Guarantees

/-!
# Rounds without trades, and what harvesting adds

A `do_alloc` round that commits no trade, without memshare, is conserving DRF (dominant
resource fairness).  `collect_idle` leaves every tenant its demand-proportional part
`u = d(c) · (S / d(c))`.  With `T` the total and `U` the sum of the parts, `resrc_avail` is
`T - U`.  `do_redistribute` then scales each part by `T_k / U_k` in dimension `k` and returns
the min-ratio quotient `(T - U) / U` (`doAlloc_conserving_drf`).  When `T - U` is almost
empty the parts stay as they are and the ratio is `0`.

Harvesting never lowers the ratio (`doAlloc_harvest_ratio_ge`).  A run with harvest and a run
without it agree up to the harvest loop, which starts from the estimated improvement ratio of
the same `resrc_avail`.  Every committed trade raises that estimate, and `do_redistribute`
returns the estimate the loop ends with (`HarvestInv.estimate`).
-/

namespace Hopper

namespace Allocator

open Tenant

/-! ## The phase without trades -/

/-- Without memshare and without a committed trade, the phase leaves every tenant the
allocation `collect_idle` keeps, and `resrc_avail` is the sum of the idle parts. -/
lemma allocPhase_resrc_of_no_trade (p : Params) (fuel : Nat) {a : Allocator}
    (hm : a.policy.memshare = false) (htr : allocTrace p fuel a = []) {i : Nat} {t t1 : Tenant}
    (h : a.tenants[i]? = some t) (h1 : (allocPhase p fuel a).1.tenants[i]? = some t1) :
    t1.resrc = (t.collectIdle p).1.resrc := by
  have hms : memshared p fuel a = a := by simp [memshared, hm]
  rw [allocPhase_eq] at h1
  split_ifs at h1 with hh
  · rw [allocTrace, if_pos hh] at htr
    rw [harvestLoop_eq_of_harvestTrace_eq_nil htr, harvestEntry_tenants, hms, List.getElem?_map,
      h, Option.map_some', Option.some.injEq] at h1
    rw [← h1, resrc_updateRcuNetDelta]
  · rw [collected, hms, collectIdle_tenants, List.getElem?_map, h, Option.map_some',
      Option.some.injEq] at h1
    rw [← h1]

/-- The ratio `do_redistribute` returns is the estimated improvement ratio of `resrc_avail`. -/
lemma doRedistribute_ratio (a : Allocator) (v : StatelessResrcVec) :
    (doRedistribute a v).2.1 = (estimateBottleneck a.totalResrc.stateless v).1 := by
  unfold doRedistribute
  split_ifs <;> rfl

/-! ## Conserving DRF -/

/-- Without memshare, in conserving mode, a round that commits no trade keeps every cache
size, gives every tenant its demand-proportional part `u = d(c) · (S / d(c))` scaled by
`T_k / U_k` in each dimension, and returns `(T - U) / U`; when `T - U` is almost empty it
leaves the parts and returns `0`. -/
theorem doAlloc_conserving_drf (p : Params) (fuel : Nat) (policy : Policy)
    {specs : List TenantSpec} (hs : ∀ spec ∈ specs, spec.Admissible) (hn : 2 ≤ specs.length)
    (hm : policy.memshare = false) (hc : policy.conserving = true)
    (htr : allocTrace p fuel (build policy specs) = []) :
    let a := build policy specs
    let u := fun t : Tenant => t.projectedDemand p t.resrc.cacheSize *
      (t.resrc.stateless / t.projectedDemand p t.resrc.cacheSize)
    let U := (a.tenants.map u).sum
    let T := aggregateResrc a.tenants
    (doAlloc p fuel a).1.tenants.length = a.tenants.length ∧
    (∀ (i : Nat) t t', a.tenants[i]? = some t → (doAlloc p fuel a).1.tenants[i]? = some t' →
      t'.resrc.cacheSize = t.resrc.cacheSize ∧
      ∀ k, t'.resrc.stateless.get k =
        if (T - U).isAlmostEmpty then (u t).get k else (u t).get k * T.get k / U.get k) ∧
    (doAlloc p fuel a).2 = if (T - U).isAlmostEmpty then 0 else (T - U) / U := by
  intro a u U T
  have ha : a.Ready := ready_build policy hs hn
  have hpol : a.policy = policy := build_policy _ _
  -- each tenant of the phase holds its used part `u`
  have hA : ∀ (i : Nat) t t1, a.tenants[i]? = some t →
      (allocPhase p fuel a).1.tenants[i]? = some t1 →
      t1.resrc.cacheSize = t.resrc.cacheSize ∧ t1.resrc.stateless = u t := fun i t t1 h h1 => by
    rw [allocPhase_resrc_of_no_trade p fuel (by rw [hpol]; exact hm) htr h h1]
    exact ⟨rfl, rfl⟩
  have hph := allocPhase_phased p fuel ha
  rw [doAlloc_eq, if_neg (by have := ha.two_le; omega)]
  generalize allocPhase p fuel a = P at hph hA ⊢
  obtain ⟨A, v⟩ := P
  have hU : aggregateResrc A.tenants = U :=
    sum_map_eq_of_getElem? hph.length fun i t t1 h h1 => (hA i t t1 h h1).2
  have hUpos : ∀ k, 0 < U.get k := fun k => hU ▸ hph.aggregate_pos ha.two_le k
  have hv : v = T - U := by
    have := hph.conserve
    rw [ha.total, hU] at this
    exact eq_sub_of_add_eq' this
  have hsum : A.totalResrc.stateless - v = U := by
    rw [hph.totalResrc, ha.total, hv]; exact sub_sub_cancel _ _
  dsimp only
  rw [← hv]
  by_cases he : v.isAlmostEmpty
  · simp only [he, if_true]
    exact ⟨hph.length, fun i t t' h h' => ⟨(hA i t t' h h').1, fun k => by
      rw [(hA i t t' h h').2]⟩, trivial⟩
  simp only [he, Bool.false_eq_true, if_false]
  have hcA : A.policy.conserving = true := by rw [hph.policy, hpol, hc]
  refine ⟨by simp [doRedistribute, hcA, hph.length], fun i t t' h h' => ?_, ?_⟩
  · obtain ⟨t1, h1⟩ := exists_getElem?_of_length_eq hph.length h
    obtain ⟨hc1, hs1⟩ := hA i t t1 h h1
    simp only [doRedistribute, hcA, if_true, List.getElem?_map, h1, Option.map_some',
      Option.some.injEq] at h'
    subst h'
    refine ⟨hc1, fun k => ?_⟩
    have hk := (hUpos k).ne'
    rw [stateless_scaleStatelessResrcByOwned_get _ _ (by rwa [hsum]), hsum, hs1, hv,
      StatelessResrcVec.get_sub, one_add_div hk, add_sub_cancel, mul_div_assoc]
  · rw [doRedistribute_ratio, estimateBottleneck, hsum, hv]

/-- `test_rw_ratio` of `test_alloc.cpp`: two tenants with flat curves and mirrored demands. -/
def rwRatioSpecs : List TenantSpec :=
  [⟨⟨4 / 5, 1 / 5, 4⟩, ⟨20, ⟨2, 2, 16⟩⟩, ⟨[10, 20, 40, 80, 100], [1, 1, 1, 1, 1]⟩, 0⟩,
   ⟨⟨1 / 5, 4 / 5, 4⟩, ⟨20, ⟨2, 2, 16⟩⟩, ⟨[10, 20, 40, 80, 100], [1, 1, 1, 1, 1]⟩, 0⟩]

/-- Conserving mode with harvest and memshare off. -/
def drfPolicy : Policy := ⟨false, true, false⟩

attribute [local semireducible] Rat.mul Rat.inv Rat.add Rat.sub

theorem doAlloc_conserving_drf_rwRatio :
    (∀ spec ∈ rwRatioSpecs, spec.Admissible) ∧ 2 ≤ rwRatioSpecs.length ∧
    drfPolicy.memshare = false ∧ drfPolicy.conserving = true ∧
    allocTrace testParams 0 (build drfPolicy rwRatioSpecs) = [] ∧
    let a := build drfPolicy rwRatioSpecs
    let u := fun t : Tenant => t.projectedDemand testParams t.resrc.cacheSize *
      (t.resrc.stateless / t.projectedDemand testParams t.resrc.cacheSize)
    let U := (a.tenants.map u).sum
    let T := aggregateResrc a.tenants
    (doAlloc testParams 0 a).1.tenants.length = a.tenants.length ∧
    (∀ (i : Nat) t t', a.tenants[i]? = some t → (doAlloc testParams 0 a).1.tenants[i]? = some t' →
      t'.resrc.cacheSize = t.resrc.cacheSize ∧
      ∀ k, t'.resrc.stateless.get k =
        if (T - U).isAlmostEmpty then (u t).get k else (u t).get k * T.get k / U.get k) ∧
    (doAlloc testParams 0 a).2 = if (T - U).isAlmostEmpty then 0 else (T - U) / U := by
  have hs : ∀ spec ∈ rwRatioSpecs, spec.Admissible := by decide
  exact ⟨hs, by decide, rfl, rfl, rfl,
    doAlloc_conserving_drf testParams 0 drfPolicy hs (by decide) rfl rfl rfl⟩

/-- The allocation `test_rw_ratio` expects, under the default policy. -/
example : (doAlloc testParams 0 (build Policy.default rwRatioSpecs)).1.getAllocResult =
    [⟨20, ⟨16 / 5, 4 / 5, 16⟩⟩, ⟨20, ⟨4 / 5, 16 / 5, 16⟩⟩] := by
  decide

/-! ## Harvesting never lowers the ratio -/

section harvest

variable (p : Params) (fuel : Nat) {a an : Allocator}

/-- Memshare and idle collection read the tenants and the memshare flag only. -/
lemma collected_congr (ht : an.tenants = a.tenants)
    (hmem : an.policy.memshare = a.policy.memshare) :
    (collected p fuel an).2 = (collected p fuel a).2 := by
  simp only [collected, memshared, hmem]
  split_ifs <;> simp [collectIdle, doMemshare, ht]

variable (ha : a.Ready) (ht : an.tenants = a.tenants)
  (htot : an.totalResrc.stateless = a.totalResrc.stateless)
  (hmem : an.policy.memshare = a.policy.memshare)
include ha ht htot hmem

/-- With the same tenants, total and memshare flag, the round with harvest returns at least
the ratio of the round without it, unless its `resrc_avail` ends almost empty. -/
lemma doAlloc_ratio_le_of_harvest (hh : a.policy.harvest = true)
    (hnh : an.policy.harvest = false) (hne : (allocPhase p fuel a).2.isAlmostEmpty = false) :
    (doAlloc p fuel an).2 ≤ (doAlloc p fuel a).2 := by
  have hph := allocPhase_phased p fuel ha
  have hn := ha.two_le
  have hi := ha.harvestEntry_inv p fuel
  have hfin := (harvestLoop_inv maxTradeRound _ hi).1
  -- the ratio of the round with harvest is the estimate the loop ends with
  have hne' : ¬(allocPhase p fuel a).2.isAlmostEmpty = true := by simp [hne]
  have hrh : (doAlloc p fuel a).2 = (harvestLoop p a.totalResrc.stateless maxTradeRound
      (harvestEntry p fuel a)).prevEstimatedImproveRatio := by
    rw [doAlloc_eq, if_neg (by omega), if_neg hne', doRedistribute_ratio,
      hph.totalResrc, allocPhase_eq, if_pos hh, hfin.estimate]
  have hge : 0 ≤ (doAlloc p fuel a).2 := by
    rw [doAlloc_eq, if_neg (by omega), if_neg hne']
    exact redistribute_ratio_nonneg hph hn
  -- the round without harvest stops at the estimate the loop starts from
  rw [doAlloc_eq, if_neg (by rw [ht]; omega), allocPhase_eq,
    if_neg (show ¬an.policy.harvest = true by simp [hnh])]
  split_ifs
  · exact hge
  · rw [doRedistribute_ratio, collected, collectIdle_totalResrc, memshared_totalResrc, htot,
      ← collected, collected_congr p fuel ht hmem, hrh]
    have he : (estimateBottleneck a.totalResrc.stateless (collected p fuel a).2).1 =
        (harvestEntry p fuel a).prevEstimatedImproveRatio := congrArg Prod.fst hi.estimate
    rw [he]
    exact harvestLoop_prev_ge maxTradeRound _ hi

end harvest

/-- Two allocators built from the same specifications and policy but for the harvest flag:
the one with harvest returns at least the ratio of the other, unless its `resrc_avail` ends
almost empty. -/
theorem doAlloc_harvest_ratio_ge (p : Params) (fuel : Nat) (policy : Policy)
    {specs : List TenantSpec} (hs : ∀ spec ∈ specs, spec.Admissible)
    (hne : (allocPhase p fuel (build { policy with harvest := true } specs)).2.isAlmostEmpty =
      false) :
    (doAlloc p fuel (build { policy with harvest := false } specs)).2 ≤
      (doAlloc p fuel (build { policy with harvest := true } specs)).2 := by
  by_cases hn : specs.length ≤ 1
  · have h1 : ∀ b, (build { policy with harvest := b } specs).tenants.length ≤ 1 := fun b => by
      simpa [build_tenants] using hn
    rw [doAlloc_eq, if_pos (h1 false), doAlloc_eq, if_pos (h1 true)]
  exact doAlloc_ratio_le_of_harvest p fuel (ready_build _ hs (by omega))
    (by rw [build_tenants, build_tenants])
    (by rw [build_total, build_total, build_tenants, build_tenants]) (by simp)
    (by simp) (by simp) hne

/-- On the tenants of `test_trade_basic` the run with harvest commits trades. -/
theorem doAlloc_harvest_ratio_ge_tradeBasic :
    (allocTrace testParams 0
      (build { Policy.default with harvest := true } tradeBasicSpecs)).isEmpty = false ∧
    (∀ spec ∈ tradeBasicSpecs, spec.Admissible) ∧
    (allocPhase testParams 0
      (build { Policy.default with harvest := true } tradeBasicSpecs)).2.isAlmostEmpty = false ∧
    (doAlloc testParams 0 (build { Policy.default with harvest := false } tradeBasicSpecs)).2 ≤
      (doAlloc testParams 0 (build { Policy.default with harvest := true } tradeBasicSpecs)).2 := by
  have hs : ∀ spec ∈ tradeBasicSpecs, spec.Admissible := by decide
  have hne : (allocPhase testParams 0
      (build { Policy.default with harvest := true } tradeBasicSpecs)).2.isAlmostEmpty = false := by
    decide
  exact ⟨by decide, hs, hne, doAlloc_harvest_ratio_ge testParams 0 Policy.default hs hne⟩

end Allocator

end Hopper
