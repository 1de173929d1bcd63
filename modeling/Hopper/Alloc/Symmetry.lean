import Hopper.Alloc.Guarantees

/-!
# Symmetric tenants

`test_symmetric` runs four identical tenants and expects `do_alloc` to change nothing.  Over
identical tenants every tenant makes the same offers, so a trade pays only if a tenant's
relinquish offer exceeds its own compensate offer.  On a curve that is locally convex at the
shared cache size, `mr(c) - mr(c + δ) ≤ mr(c - δ) - mr(c)`, it never does: the harvest loop
stops at its first iteration, the conserving redistribution hands every tenant back exactly
its idle part, and the improvement ratio is `0`.  The one exception is the skip of an almost
empty `resrc_avail`, which leaves every tenant with the part `collect_idle` kept.

On a curve that is concave at the shared cache size a trade pays and the tenants end apart.
-/

namespace Hopper

/-- The curve gains no more from one more `δ` at `c` than it loses from one less. -/
def MissRatioCurve.LocallyConvex (m : MissRatioCurve) (c δ : Nat) : Prop :=
  m.getMissRatioConst c - m.getMissRatioConst (addU64 c δ) ≤
    m.getMissRatioConst (subU64 c δ) - m.getMissRatioConst c

instance (m : MissRatioCurve) (c δ : Nat) : Decidable (m.LocallyConvex c δ) :=
  Rat.instDecidableLe _ _

namespace Tenant

/-! ## One tenant's two offers -/

/-- On a locally convex curve the compensate offer is never the immediate one while the
relinquish offer is a real one. -/
lemma not_compenImmediate {p : Params} {t : Tenant}
    (hconv : t.mrc.LocallyConvex t.resrc.cacheSize p.cacheDelta) (hR : ¬ t.RelinqAborts p) :
    ¬ t.CompenImmediate p := by
  obtain ⟨h1, -, h3⟩ := not_relinqAborts hR
  have hc : t.currMr - t.moreMr p ≤ t.lessMr p - t.currMr := hconv
  rintro ⟨-, -, h | h⟩ <;> linarith [epilson_pos]

section convex

variable {p : Params} {t : Tenant} (ht : t.Admissible) (hS : ∀ k, 0 < t.resrc.stateless.get k)
  (hF : ∀ k, t.resrc.stateless.get k < compenAbortOffer)
  (hconv : t.mrc.LocallyConvex t.resrc.cacheSize p.cacheDelta)
include ht hS hF hconv

/-- On a locally convex curve a tenant never relinquishes more `db_rcu` than it asks back. -/
lemma relinq_le_compen_rcu :
    (t.predRcuNetDeltaIfMoreCache p).rcuDeltaRelinq ≤
      (t.predRcuNetDeltaIfLessCache p).rcuDeltaCompen := by
  by_cases hR : t.RelinqAborts p
  · rw [(predRcuNetDeltaIfMoreCache_of_aborts p t hR).1]; exact compen_rcu_nonneg hS
  by_cases hA : t.CompenAborts p
  · rw [(predRcuNetDeltaIfLessCache_of_aborts p t hA).1]
    exact (relinq_rcu_lt hS ht).le.trans (hF .dbRcu).le
  have hI := not_compenImmediate hconv hR
  obtain ⟨h1, -, -⟩ := not_relinqAborts hR
  rw [(predRcuNetDeltaIfMoreCache_of_not_aborts p t hR).1,
    (predRcuNetDeltaIfLessCache_of_normal p t hA hI).1]
  exact div_le_div_of_nonneg_right (mul_le_mul_of_nonneg_left hconv (hS .dbRcu).le)
    (by linarith [epilson_pos])

/-- The same for `net_bw`, with `alloc_total_net_bw`. -/
lemma relinq_le_compen_net (hn : p.allocTotalNetBw = true) :
    (t.predRcuNetDeltaIfMoreCache p).netDeltaRelinq ≤
      (t.predRcuNetDeltaIfLessCache p).netDeltaCompen := by
  by_cases hR : t.RelinqAborts p
  · rw [(predRcuNetDeltaIfMoreCache_of_aborts p t hR).2, if_pos hn]
    exact compen_net_nonneg hS ht hn
  by_cases hA : t.CompenAborts p
  · rw [(predRcuNetDeltaIfLessCache_of_aborts p t hA).2, if_pos hn]
    exact (relinq_net_lt hS ht hn).le.trans (hF .netBw).le
  have hI := not_compenImmediate hconv hR
  rw [(predRcuNetDeltaIfMoreCache_of_not_aborts p t hR).2, if_pos hn,
    (predRcuNetDeltaIfLessCache_of_normal p t hA hI).2, if_pos hn]
  refine div_le_div_of_nonneg_right ?_ (ht.netShare_pos _).le
  exact mul_le_mul_of_nonneg_right (mul_le_mul_of_nonneg_left hconv (hS .netBw).le)
    ht.alpha_nonneg

end convex

end Tenant

/-- The tenant `add_tenant` makes of `spec` at index `0`: every tenant of an allocator built
from copies of `spec` is this one but for its index. -/
def TenantSpec.baseTenant (spec : TenantSpec) : Tenant :=
  Tenant.new 0 spec.demandCacheless spec.baseResrc spec.mrc spec.netBwAlpha

lemma TenantSpec.Admissible.baseTenant {spec : TenantSpec} (hs : spec.Admissible) :
    spec.baseTenant.Admissible :=
  ⟨hs.demand_pos, hs.alpha_nonneg, hs.alpha_le_one, hs.mrc_sane, hs.mrc_pos⟩

namespace Allocator

open Tenant

/-! ## No trade between alike tenants -/

/-- Tenants are alike when they hold the same resources on the same curve with the same
`net_bw_alpha`: then they make the same offers. -/
def Alike (u t : Tenant) : Prop :=
  u.resrc = t.resrc ∧ u.mrc = t.mrc ∧ u.netBwAlpha = t.netBwAlpha

lemma Alike.symm {u t : Tenant} (h : Alike u t) : Alike t u := ⟨h.1.symm, h.2.1.symm, h.2.2.symm⟩

lemma Alike.trans {u t w : Tenant} (h : Alike u t) (h' : Alike t w) : Alike u w :=
  ⟨h.1.trans h'.1, h.2.1.trans h'.2.1, h.2.2.trans h'.2.2⟩

/-- A loop iteration over pairwise alike tenants on a locally convex curve commits nothing. -/
theorem harvestRound_eq_none_of_alike {p : Params} {total : StatelessResrcVec} {s : HarvestState}
    (hi : HarvestInv p total s) (hF : ∀ k, total.get k < compenAbortOffer)
    (hsym : ∀ u ∈ s.tenants, ∀ t ∈ s.tenants, Alike u t)
    (hconv : ∀ t ∈ s.tenants, t.mrc.LocallyConvex t.resrc.cacheSize p.cacheDelta) :
    harvestRound p total s = none := by
  cases h : harvestRound p total s with
  | none => rfl
  | some x =>
    obtain ⟨d, s'⟩ := x
    obtain ⟨s1, tR, tC, hi1, hd, hts, -, -, -, -⟩ := harvestRound_eq_some hi h
    have hR := hts ▸ hd.relinq_mem
    have hC := hts ▸ hd.compen_mem
    obtain ⟨hr, hm, ha⟩ := hsym tR hR tC hC
    have hA := hi1.admissible tC hd.compen_mem
    have hS := hi1.pos tC hd.compen_mem
    have hFC : ∀ k, tC.resrc.stateless.get k < compenAbortOffer := fun k =>
      (hi1.le_total hd.compen_mem k).trans_lt (hF k)
    have hprofit := hi1.profit hd.accepted
    rcases hd.bottleneck with hb | ⟨hn, hb⟩
    · have hlt := hprofit.1 hb
      rw [hd.rcuRelinq_eq hi1, hd.rcuCompen_eq hi1, rcuDeltaRelinq_congr p hr hm] at hlt
      exact absurd hlt (not_lt.2 (relinq_le_compen_rcu hA hS hFC (hconv tC hC)))
    · have hlt := hprofit.2 hb
      rw [hd.netRelinq_eq hi1 hn, hd.netCompen_eq hi1 hn, netDeltaRelinq_congr p hr hm ha hn] at hlt
      exact absurd hlt (not_lt.2 (relinq_le_compen_net hA hS hFC (hconv tC hC) hn))

/-- A loop that commits nothing at its first iteration returns its start. -/
lemma harvestLoop_of_none {p : Params} {total : StatelessResrcVec} {s : HarvestState}
    (h : harvestRound p total s = none) (fuel : Nat) : harvestLoop p total (fuel + 1) s = s := by
  simp [harvestLoop, h]

lemma get_sum_of_forall_eq {l : List StatelessResrcVec} {w : StatelessResrcVec}
    (h : ∀ v ∈ l, v = w) (k : Dim) : l.sum.get k = l.length * w.get k := by
  rw [StatelessResrcVec.get_sum, List.eq_replicate_iff.2 ⟨rfl, h⟩]
  simp

/-! ## A symmetric round -/

section symmetric

variable {p : Params} (fuel : Nat) {spec : TenantSpec} {n : Nat}

lemma mem_build_replicate {policy : Policy} {t : Tenant}
    (ht : t ∈ (build policy (List.replicate n spec)).tenants) :
    ∃ i, t = Tenant.new i spec.demandCacheless spec.baseResrc spec.mrc spec.netBwAlpha := by
  rw [build_tenants, List.mem_mapIdx] at ht
  obtain ⟨i, hi, rfl⟩ := ht
  exact ⟨i, by rw [List.getElem_replicate]⟩

/-- At the start of the harvest loop every tenant is alike the used part of `Tenant.ofSpec`. -/
lemma alike_harvestEntry {t : Tenant}
    (ht : t ∈ (harvestEntry p fuel (build Policy.default (List.replicate n spec))).tenants) :
    Alike t (spec.baseTenant.collectIdle p).1 := by
  rw [harvestEntry_tenants, memshared, if_neg (by simp [Policy.default]), List.mem_map] at ht
  obtain ⟨t1, h1, rfl⟩ := ht
  obtain ⟨i, rfl⟩ := mem_build_replicate h1
  obtain ⟨-, -, hm, ha, -⟩ := fixed_eq_iff.1 (fixed_updateRcuNetDelta p
    ((Tenant.new i spec.demandCacheless spec.baseResrc spec.mrc spec.netBwAlpha).collectIdle p).1)
  exact ⟨by rw [resrc_updateRcuNetDelta]; rfl, hm, ha⟩

/-- Idle collection gives `n` times the idle part of `spec.baseTenant`. -/
lemma avail_collected_replicate (k : Dim) :
    (collected p fuel (build Policy.default (List.replicate n spec))).2.get k =
      n * ((spec.baseTenant.collectIdle p).2).get k := by
  have hl : (build Policy.default (List.replicate n spec)).tenants.length = n := by
    simp [build_tenants]
  rw [collected, memshared, if_neg (by simp [Policy.default]), Allocator.collectIdle]
  rw [get_sum_of_forall_eq (w := (spec.baseTenant.collectIdle p).2) _ k]
  · simp [hl]
  · intro v hv
    simp only [List.map_map, List.mem_map, Function.comp] at hv
    obtain ⟨t, ht, rfl⟩ := hv
    obtain ⟨i, rfl⟩ := mem_build_replicate ht
    rfl

/-- The tenants at the start of the harvest loop hold `n` times the used part of
`spec.baseTenant`. -/
lemma aggregate_harvestEntry_replicate (k : Dim) :
    (aggregateResrc (harvestEntry p fuel (build Policy.default (List.replicate n spec))).tenants).get k =
      n * (spec.baseTenant.collectIdle p).1.resrc.stateless.get k := by
  have hl : (harvestEntry p fuel (build Policy.default (List.replicate n spec))).tenants.length = n := by
    simp [harvestEntry_tenants, memshared, Policy.default, build_tenants]
  rw [aggregateResrc, get_sum_of_forall_eq (w := (spec.baseTenant.collectIdle p).1.resrc.stateless) _ k]
  · simp [hl]
  · intro v hv
    obtain ⟨t, ht, rfl⟩ := List.mem_map.1 hv
    rw [(alike_harvestEntry fuel ht).1]

variable (hn : 2 ≤ n) (hs : spec.Admissible)
include hn hs

lemma ready_replicate : (build Policy.default (List.replicate n spec)).Ready :=
  ready_build _ (fun _ h => List.eq_of_mem_replicate h ▸ hs) (by simpa using hn)

variable (hF : TotalsBelowAbort (List.replicate n spec))
  (hconv : spec.mrc.LocallyConvex spec.baseResrc.cacheSize p.cacheDelta)
include hF hconv

/-- On a locally convex curve the harvest loop of a symmetric allocator commits nothing. -/
lemma allocPhase_replicate :
    allocPhase p fuel (build Policy.default (List.replicate n spec)) =
      ({ (collected p fuel (build Policy.default (List.replicate n spec))).1 with
          tenants := (harvestEntry p fuel (build Policy.default (List.replicate n spec))).tenants },
        (collected p fuel (build Policy.default (List.replicate n spec))).2) := by
  have ha := ready_replicate hn hs
  have hnone := harvestRound_eq_none_of_alike (ha.harvestEntry_inv p fuel)
    (totalsBelowAbort_build hF)
    (fun u hu t ht => (alike_harvestEntry fuel hu).trans (alike_harvestEntry fuel ht).symm)
    (fun t ht => by obtain ⟨hr, hm, -⟩ := alike_harvestEntry fuel ht; rw [hr, hm]; exact hconv)
  rw [allocPhase_eq, if_pos (by simp [Policy.default]), show maxTradeRound = 9999 + 1 from rfl,
    harvestLoop_of_none hnone]
  rfl

end symmetric

/-- Identical tenants on a curve that is locally convex at their cache size are a fixed point
of a default-policy round: the ratio is `0`, every cache size stays, and every tenant gets
back its base resources, or keeps the part `collect_idle` kept when `do_redistribute` is
skipped. -/
theorem doAlloc_symmetric (p : Params) (fuel : Nat) (spec : TenantSpec) {n : Nat} (hn : 2 ≤ n)
    (hs : spec.Admissible) (hF : TotalsBelowAbort (List.replicate n spec))
    (hconv : spec.mrc.LocallyConvex spec.baseResrc.cacheSize p.cacheDelta) :
    let a := build Policy.default (List.replicate n spec)
    (doAlloc p fuel a).2 = 0 ∧
      ∀ t' ∈ (doAlloc p fuel a).1.tenants, t'.resrc.cacheSize = spec.baseResrc.cacheSize ∧
        t'.resrc.stateless = if runsRedistribute p fuel a then spec.baseResrc.stateless
          else (spec.baseTenant.collectIdle p).1.resrc.stateless := by
  intro a
  have ha : a.Ready := ready_replicate hn hs
  have hph := allocPhase_phased p fuel ha
  have hr0 := redistribute_ratio_nonneg hph ha.two_le
  have hphase := allocPhase_replicate fuel hn hs hF hconv
  have hlen : ¬ a.tenants.length ≤ 1 := by have := ha.two_le; omega
  have hr : runsRedistribute p fuel a = !(allocPhase p fuel a).2.isAlmostEmpty := by
    simp [runsRedistribute, hlen]
  rw [doAlloc_eq, if_neg hlen, hr]
  by_cases he : (allocPhase p fuel a).2.isAlmostEmpty = true
  · -- the skip leaves the tenants as the loop started them
    simp only [he, if_true, Bool.not_true, Bool.false_eq_true, if_false, true_and]
    rw [hphase]
    intro t' ht'
    rw [(alike_harvestEntry fuel ht').1]
    exact ⟨rfl, rfl⟩
  · -- the conserving redistribution hands back `n` times the idle part in proportion
    have he' : (allocPhase p fuel a).2.isAlmostEmpty = false := by simpa using he
    simp only [he', Bool.false_eq_true, if_false, Bool.not_false, if_true]
    have hsum := hph.sum_eq
    have hcons : (collected p fuel a).1.policy.conserving = true := by
      simp [collected, a, Policy.default]
    rw [hphase] at hsum hr0 ⊢
    simp only [doRedistribute, if_pos hcons, hsum] at hr0 ⊢
    have ht0 := hs.baseTenant
    have hu := used_pos_collectIdle (ht0.projectedDemand_pos (p := p) _) hs.base_pos
    have hagg : ∀ k, (aggregateResrc (harvestEntry p fuel a).tenants).get k ≠ 0 := fun k => by
      rw [aggregate_harvestEntry_replicate]; exact mul_ne_zero (by positivity) (hu k).ne'
    refine ⟨le_antisymm ?_ hr0, fun t' ht' => ?_⟩
    · obtain ⟨k, hk⟩ := exists_idle_eq_zero_collectIdle (ht0.projectedDemand_pos (p := p) _)
      refine (StatelessResrcVec.div_le _ _ k).trans_eq ?_
      rw [avail_collected_replicate, hk, mul_zero, zero_div]
    · obtain ⟨t1, h1, rfl⟩ := List.mem_map.1 ht'
      have hal := (alike_harvestEntry fuel h1).1
      refine ⟨by simp [scaleStatelessResrcByOwned, hal]; rfl, ?_⟩
      ext k
      have hw : (spec.baseTenant.collectIdle p).1.resrc.stateless.get k +
          (spec.baseTenant.collectIdle p).2.get k = spec.baseResrc.stateless.get k := by
        rw [← StatelessResrcVec.get_add, collectIdle_used_add_idle]; rfl
      rw [stateless_scaleStatelessResrcByOwned_get _ _ (hagg k), hal,
        aggregate_harvestEntry_replicate, avail_collected_replicate, ← hw]
      have hn0 : (n : ℚ) ≠ 0 := by positivity
      rw [mul_div_mul_left _ _ hn0, mul_add, mul_one, mul_div_cancel₀ _ (hu k).ne']

attribute [local semireducible] Rat.mul Rat.inv Rat.add Rat.sub

/-- The tenant of `test_symmetric`, at `2 * cache_delta` on a curve convex there. -/
def symmetricSpec : TenantSpec :=
  ⟨⟨1 / 2, 1 / 2, 4⟩, ⟨20, ⟨2, 2, 16⟩⟩,
    ⟨[10, 20, 40, 80, 100], [9 / 10, 4 / 5, 7 / 10, 3 / 5, 2 / 5]⟩, 0⟩

theorem doAlloc_symmetric_testSymmetric :
    2 ≤ 4 ∧ symmetricSpec.Admissible ∧ TotalsBelowAbort (List.replicate 4 symmetricSpec) ∧
      symmetricSpec.mrc.LocallyConvex symmetricSpec.baseResrc.cacheSize testParams.cacheDelta ∧
      (doAlloc testParams 0 (build Policy.default (List.replicate 4 symmetricSpec))).2 = 0 := by
  have hs : symmetricSpec.Admissible := by decide
  have hF : TotalsBelowAbort (List.replicate 4 symmetricSpec) := by decide
  have hconv : symmetricSpec.mrc.LocallyConvex symmetricSpec.baseResrc.cacheSize
      testParams.cacheDelta := by decide
  exact ⟨by decide, hs, hF, hconv,
    (doAlloc_symmetric testParams 0 symmetricSpec (by decide) hs hF hconv).1⟩

/-- A shared curve concave at the shared cache size `20`. -/
def concaveSpec : TenantSpec :=
  ⟨⟨1, 1 / 10, 1⟩, ⟨20, ⟨2, 2, 16⟩⟩, ⟨[10, 20, 30], [9 / 10, 4 / 5, 3 / 10]⟩, 0⟩

/-- A flat shared curve, with `net_bw` idle by `1 / 100000`. -/
def almostIdleSpec : TenantSpec :=
  ⟨⟨1, 1, 1⟩, ⟨20, ⟨10, 10, 10 + 1 / 100000⟩⟩, ⟨[10, 20], [1, 1]⟩, 0⟩

/-- The first tenant of `hugeSpecs`: a convex curve, and `4 * float_max` of `db_rcu`. -/
def hugeSymmetricSpec : TenantSpec :=
  ⟨⟨1, 1, 1⟩, ⟨10, ⟨4 * compenAbortOffer, 81 / 10 * compenAbortOffer,
    81 / 10 * compenAbortOffer⟩⟩, ⟨[10, 20], [1 / 2, 1 / 4]⟩, 0⟩

/-- Two copies of `concaveSpec` trade: they end at cache sizes `30` and `10` with ratio
`1 / 3`.  Two copies of `almostIdleSpec` skip the redistribution and keep less `net_bw` than
their base.  Two copies of `hugeSymmetricSpec`, on a curve convex at their cache size, trade
at the abort offer `float_max`. -/
theorem doAlloc_symmetric_moves :
    concaveSpec.Admissible ∧
      (doAlloc testParams 0 (build Policy.default (List.replicate 2 concaveSpec))).1.getAllocResult.map
        (·.cacheSize) = [30, 10] ∧
      (doAlloc testParams 0 (build Policy.default (List.replicate 2 concaveSpec))).2 = 1 / 3 ∧
      almostIdleSpec.Admissible ∧
      almostIdleSpec.mrc.LocallyConvex almostIdleSpec.baseResrc.cacheSize testParams.cacheDelta ∧
      (∀ t' ∈ (doAlloc testParams 0 (build Policy.default (List.replicate 2 almostIdleSpec))).1.tenants,
        t'.resrc.stateless ≠ almostIdleSpec.baseResrc.stateless) ∧
      hugeSymmetricSpec.Admissible ∧
      hugeSymmetricSpec.mrc.LocallyConvex hugeSymmetricSpec.baseResrc.cacheSize
        testParams.cacheDelta ∧
      (doAlloc testParams 0 (build Policy.default (List.replicate 2 hugeSymmetricSpec))).1.getAllocResult.map
        (·.cacheSize) = [20, 0] := by
  decide

end Allocator

end Hopper
