import Hopper.Alloc.Redistribute

/-!
# A whole `do_alloc` round

`do_alloc` returns at once with fewer than two tenants; otherwise it runs the memshare pass
(if on), collects idle resources, runs the harvest loop (if on), and hands `resrc_avail`
back by `do_redistribute` unless it is almost empty.  This module follows one tenant
through these stages: with every total below `float_max` and the cache sizes fitting
`uint64_t`, the cache sum is kept, a tenant's cache size stays at least
`min(c, reserved_cache_size, min_cache_size)`, and without memshare its throughput ends at
least `1 + improve_ratio` times its start, up to the shortfall of its immediate trades.
-/

namespace Hopper

namespace Allocator

open Tenant

/-! ## Which stages run -/

/-- The trades a round commits, each with the state it was picked in: the harvest loop's
trace, or nothing when harvest is off. -/
def allocTrace (p : Params) (fuel : Nat) (a : Allocator) : List (Deal × HarvestState) :=
  if a.policy.harvest then
    harvestTrace p a.totalResrc.stateless maxTradeRound (harvestEntry p fuel a)
  else []

/-- Whether `do_alloc` reaches `do_redistribute`: at least two tenants, and `resrc_avail` not
almost empty after the harvest. -/
def runsRedistribute (p : Params) (fuel : Nat) (a : Allocator) : Bool :=
  !decide (a.tenants.length ≤ 1) && !(allocPhase p fuel a).2.isAlmostEmpty

lemma doAlloc_eq (p : Params) (fuel : Nat) (a : Allocator) :
    doAlloc p fuel a =
      if a.tenants.length ≤ 1 then (a, 0)
      else if (allocPhase p fuel a).2.isAlmostEmpty then ((allocPhase p fuel a).1, 0)
      else ((doRedistribute (allocPhase p fuel a).1 (allocPhase p fuel a).2).1,
        (doRedistribute (allocPhase p fuel a).1 (allocPhase p fuel a).2).2.1) :=
  rfl

lemma harvestEntry_tenants (p : Params) (fuel : Nat) (a : Allocator) :
    (harvestEntry p fuel a).tenants =
      (memshared p fuel a).tenants.map fun t => (t.collectIdle p).1.updateRcuNetDelta p := by
  simp [harvestEntry, harvestStart, collected, collectIdle_tenants]

/-! ## Following one tenant through the phase -/

section phase

variable {p : Params} (fuel : Nat) {a : Allocator} (ha : a.Ready)
  (hfit : cacheSum a.tenants + p.minCacheSize + p.cacheDelta < u64Size)
  (hres : ∀ t ∈ a.tenants, t.reservedCacheSize ≤ cacheSum a.tenants)
include ha hfit hres

/-- The memshare pass keeps the cache sum and relates every tenant to its new state by
`MemshareStep`; without memshare it changes nothing. -/
lemma memshared_spec :
    cacheSum (memshared p fuel a).tenants = cacheSum a.tenants ∧
      ∀ (i : Nat) t t1, a.tenants[i]? = some t → (memshared p fuel a).tenants[i]? = some t1 →
        MemshareStep t t1 ∧ (a.policy.memshare = false → t1 = t) := by
  unfold memshared
  split_ifs with hm
  · obtain ⟨-, hc, hs⟩ := memshareLoop_spec (p := p) fuel a.tenants (List.range a.tenants.length)
      (by have := ha.two_le; omega) (by omega) hres
    exact ⟨hc, fun i t t1 h h1 => ⟨hs i t t1 h h1, fun hm' => absurd hm (by simp [hm'])⟩⟩
  · refine ⟨rfl, fun i t t1 h h1 => ?_⟩
    obtain rfl : t = t1 := Option.some.inj (h.symm.trans h1)
    exact ⟨MemshareStep.refl t, fun _ => rfl⟩

/-- The harvest loop starts from the cache sum of the round. -/
lemma cacheSum_harvestEntry : cacheSum (harvestEntry p fuel a).tenants = cacheSum a.tenants := by
  rw [harvestEntry_tenants p fuel a, ← (memshared_spec fuel ha hfit hres).1]
  simp [cacheSum, Function.comp_def]

variable (hF : ∀ k, a.totalResrc.stateless.get k < compenAbortOffer)
include hF

/-- The phase before redistribution keeps the cache sum; a tenant's cache size stays at least
`min(c, reserved_cache_size, min_cache_size)`, and without memshare at least
`min(c, min_cache_size)`, while its throughput drops at most by its shortfall. -/
theorem allocPhase_tenant :
    cacheSum (allocPhase p fuel a).1.tenants = cacheSum a.tenants ∧
      ∀ (i : Nat) t t', a.tenants[i]? = some t → (allocPhase p fuel a).1.tenants[i]? = some t' →
        min (min t.resrc.cacheSize t.reservedCacheSize) p.minCacheSize ≤ t'.resrc.cacheSize ∧
        (a.policy.memshare = false →
          min t.resrc.cacheSize p.minCacheSize ≤ t'.resrc.cacheSize ∧
          0 ≤ shortfall p i (allocTrace p fuel a) ∧
          t.tput p * shortfall p i (allocTrace p fuel a) ≤ t'.tput p) := by
  obtain ⟨hm1, hm2⟩ := memshared_spec fuel ha hfit hres
  have hl := (memshared_frame p fuel a).1
  have hentry := harvestEntry_tenants p fuel a
  have hcoll : (collected p fuel a).1.tenants =
      (memshared p fuel a).tenants.map fun t => (t.collectIdle p).1 := collectIdle_tenants p _
  -- the tenant at `i` after memshare
  have hidx : ∀ (i : Nat) t, a.tenants[i]? = some t →
      ∃ t1, (memshared p fuel a).tenants[i]? = some t1 ∧ MemshareStep t t1 ∧
        (a.policy.memshare = false → t1 = t) := fun i t h => by
    obtain ⟨t1, h1⟩ := exists_getElem?_of_length_eq hl h
    exact ⟨t1, h1, hm2 i t t1 h h1⟩
  rw [allocPhase_eq, allocTrace]
  split_ifs with hh
  · have hcs := cacheSum_harvestEntry fuel ha hfit hres
    obtain ⟨-, hc, -, hstep⟩ :=
      harvestLoop_spec hF maxTradeRound _ (ha.harvestEntry_inv p fuel) (hcs ▸ hfit)
    refine ⟨hc.trans hcs, fun i t t' h h' => ?_⟩
    obtain ⟨t1, h1, hs1, he1⟩ := hidx i t h
    have h2 : (harvestEntry p fuel a).tenants[i]? =
        some ((t1.collectIdle p).1.updateRcuNetDelta p) := by
      rw [hentry, List.getElem?_map, h1, Option.map_some']
    obtain ⟨hsf, htp, hcache⟩ := hstep i _ t' h2 h'
    rw [resrc_updateRcuNetDelta, cacheSize_collectIdle] at hcache
    refine ⟨le_trans (min_le_min_right _ hs1.cache) hcache, fun hm => ?_⟩
    obtain rfl := he1 hm
    rw [tput_updateRcuNetDelta, tput_collectIdle
      ((ha.ok.admissible _ (List.getElem?_mem h)).projectedDemand_pos _)] at htp
    exact ⟨hcache, hsf, htp⟩
  · refine ⟨by rw [← hm1, hcoll]; simp [cacheSum, Function.comp_def], fun i t t' h h' => ?_⟩
    obtain ⟨t1, h1, hs1, he1⟩ := hidx i t h
    rw [hcoll, List.getElem?_map, h1, Option.map_some', Option.some.injEq] at h'
    subst h'
    rw [cacheSize_collectIdle]
    refine ⟨(min_le_left _ _).trans hs1.cache, fun hm => ?_⟩
    obtain rfl := he1 hm
    simpa [shortfall] using
      (tput_collectIdle ((ha.ok.admissible _ (List.getElem?_mem h)).projectedDemand_pos _)).ge

/-- A whole round keeps the cache sum and returns a non-negative ratio; every tenant ends with
positive stateless resources, with the cache floors of `allocPhase_tenant`, and without
memshare with throughput at least `1 + improve_ratio` times its start, times its
shortfall. -/
theorem doAlloc_tenant :
    cacheSum (doAlloc p fuel a).1.tenants = cacheSum a.tenants ∧ 0 ≤ (doAlloc p fuel a).2 ∧
      ∀ (i : Nat) t t', a.tenants[i]? = some t → (doAlloc p fuel a).1.tenants[i]? = some t' →
        (∀ k, 0 < t'.resrc.stateless.get k) ∧
        min (min t.resrc.cacheSize t.reservedCacheSize) p.minCacheSize ≤ t'.resrc.cacheSize ∧
        (a.policy.memshare = false →
          min t.resrc.cacheSize p.minCacheSize ≤ t'.resrc.cacheSize ∧
          0 ≤ shortfall p i (allocTrace p fuel a) ∧
          (1 + (doAlloc p fuel a).2) * t.tput p * shortfall p i (allocTrace p fuel a) ≤
            t'.tput p) := by
  obtain ⟨hc, hstep⟩ := allocPhase_tenant fuel ha hfit hres hF
  have hph := allocPhase_phased p fuel ha
  have hn := ha.two_le
  rw [doAlloc_eq, if_neg (by omega)]
  split_ifs
  · refine ⟨hc, le_rfl, fun i t t' h h' => ?_⟩
    obtain ⟨h1, h2⟩ := hstep i t t' h h'
    refine ⟨hph.pos t' (List.getElem?_mem h'), h1, fun hm => ?_⟩
    obtain ⟨h3, h4, h5⟩ := h2 hm
    exact ⟨h3, h4, by rwa [add_zero, one_mul]⟩
  · have hr := redistribute_ratio_nonneg hph hn
    refine ⟨(cacheSum_doRedistribute _ _).trans hc, hr, fun i t t' h h' => ?_⟩
    obtain ⟨t1, h1⟩ := exists_getElem?_of_length_eq hph.length h
    obtain ⟨hc1, hc2⟩ := hstep i t t1 h h1
    obtain ⟨hcr, -, hpos, htp⟩ := redistribute_tenant hph hn p h1 h'
    refine ⟨hpos, hcr ▸ hc1, fun hm => ?_⟩
    obtain ⟨h3, h4, h5⟩ := hc2 hm
    refine ⟨hcr ▸ h3, h4, ?_⟩
    calc (1 + _) * t.tput p * _ = t.tput p * shortfall p i (allocTrace p fuel a) * (1 + _) := by
          ring
      _ ≤ t1.tput p * (1 + _) := mul_le_mul_of_nonneg_right h5 (by linarith)
      _ ≤ t'.tput p := htp

end phase

end Allocator

end Hopper
