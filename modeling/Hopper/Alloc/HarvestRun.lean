import Hopper.Alloc.Harvest

/-!
# Runs of the harvest loop

Over a run of `do_harvest`'s loop from a state with the invariant, and with every total
below `float_max` and the cache sizes fitting `uint64_t` with room for
`min_cache_size + cache_delta`:

* the sum of the cache sizes never changes and no cache size wraps;
* a tenant's cache size never drops below `min(its cache size at the start, min_cache_size)`;
* a tenant's throughput never drops, except by the factor `mr(c) / mr(c - cache_delta)` of
  each trade in which it was the compensator on the immediate zero offer.

`harvestTrace` lists the committed deals of a run with the state each was picked in;
`shortfall` multiplies a tenant's factors over a trace.
-/

namespace Hopper

namespace Allocator

open Tenant

/-- The sum of the tenants' cache sizes, over the naturals. -/
def cacheSum (ts : List Tenant) : Nat := (ts.map (·.resrc.cacheSize)).sum

lemma cacheSize_le_cacheSum {ts : List Tenant} {t : Tenant} (ht : t ∈ ts) :
    t.resrc.cacheSize ≤ cacheSum ts :=
  List.le_sum_of_mem (List.mem_map_of_mem _ ht)

@[simp] lemma tput_updateRcuNetDelta (p : Params) (t : Tenant) :
    (t.updateRcuNetDelta p).tput p = t.tput p := by
  simp [tput, tputAt, projectedDemand_of_fixed (fixed_updateRcuNetDelta p t)]

namespace CommittedDeal

variable {p : Params} {total : StatelessResrcVec} {s : HarvestState} {d : Deal} {tR tC : Tenant}
  (hd : CommittedDeal p total s d tR tC) (hi : HarvestInv p total s)
include hd hi

/-- The relinquisher keeps its throughput. -/
lemma relinquished_tput :
    ((tR.relinquishResrc p d.rcuDeltaRelinq d.netDeltaRelinq).updateRcuNetDelta p).tput p =
      tR.tput p := by
  have e : tR.relinquishResrc p d.rcuDeltaRelinq d.netDeltaRelinq =
      tR.relinquishResrc p (tR.predRcuNetDeltaIfMoreCache p).rcuDeltaRelinq
        (tR.predRcuNetDeltaIfMoreCache p).netDeltaRelinq := by
    by_cases hn : p.allocTotalNetBw = true
    · rw [hd.rcuRelinq_eq hi, hd.netRelinq_eq hi hn]
    · simp [relinquishResrc, hn, hd.rcuRelinq_eq hi]
  rw [tput_updateRcuNetDelta, e]
  exact tput_relinquishResrc (hi.admissible tR hd.relinq_mem) (hd.not_relinqAborts hi)

lemma compensateResrc_eq :
    tC.compensateResrc p d.rcuDeltaCompen d.netDeltaCompen =
      tC.compensateResrc p (tC.predRcuNetDeltaIfLessCache p).rcuDeltaCompen
        (tC.predRcuNetDeltaIfLessCache p).netDeltaCompen := by
  by_cases hn : p.allocTotalNetBw = true
  · rw [hd.rcuCompen_eq hi, hd.netCompen_eq hi hn]
  · simp [compensateResrc, hn, hd.rcuCompen_eq hi]

/-- A compensator on a normal offer keeps its throughput. -/
lemma compensated_tput (hF : ∀ k, total.get k < compenAbortOffer)
    (hni : ¬ tC.CompenImmediate p) :
    ((tC.compensateResrc p d.rcuDeltaCompen d.netDeltaCompen).updateRcuNetDelta p).tput p =
      tC.tput p := by
  rw [tput_updateRcuNetDelta, hd.compensateResrc_eq hi]
  exact tput_compensateResrc (hi.admissible tC hd.compen_mem) (hd.not_compenAborts hi hF) hni

/-- The compensator asked for nothing exactly when it made the immediate offer. -/
lemma rcuCompen_eq_zero_iff (hF : ∀ k, total.get k < compenAbortOffer) :
    d.rcuDeltaCompen = 0 ↔ tC.CompenImmediate p := by
  rw [hd.rcuCompen_eq hi]
  refine ⟨fun h0 => ?_, fun h => (predRcuNetDeltaIfLessCache_of_immediate p tC h).1⟩
  by_contra hni
  obtain ⟨h1, -, h3⟩ := compen_normal (hd.not_compenAborts hi hF) hni
  rw [(predRcuNetDeltaIfLessCache_of_normal p tC (hd.not_compenAborts hi hF) hni).1] at h0
  have hS := hi.pos tC hd.compen_mem .dbRcu
  simp only [StatelessResrcVec.get_dbRcu] at hS
  have : 0 < tC.resrc.stateless.dbRcu * (tC.lessMr p - tC.currMr) / tC.currMr :=
    div_pos (mul_pos hS (by linarith [epilson_pos])) (by linarith [epilson_pos])
  linarith

end CommittedDeal

/-- The factor by which a deal may lower the throughput of tenant `i` (state `t` before the
deal): `mr(c) / mr(c - cache_delta)` for a compensator on the zero offer, else `1`. -/
def dealFactor (p : Params) (d : Deal) (i : Nat) (t : Tenant) : ℚ :=
  if i = d.tCompen ∧ d.rcuDeltaCompen = 0 then t.currMr / t.lessMr p else 1

lemma dealFactor_nonneg {p : Params} {d : Deal} {i : Nat} {t : Tenant} (ht : t.Admissible) :
    0 ≤ dealFactor p d i t := by
  unfold dealFactor
  split_ifs
  · exact div_nonneg (ht.missRatio_pos _).le (ht.missRatio_pos _).le
  · exact zero_le_one

namespace CommittedDeal

variable {p : Params} {total : StatelessResrcVec} {s : HarvestState} {d : Deal} {tR tC : Tenant}
  (hd : CommittedDeal p total s d tR tC)
  (hfit : cacheSum s.tenants + p.minCacheSize + p.cacheDelta < u64Size)
include hd hfit

lemma relinquished_cacheSize :
    ((tR.relinquishResrc p d.rcuDeltaRelinq d.netDeltaRelinq).updateRcuNetDelta p
      ).resrc.cacheSize = tR.resrc.cacheSize + p.cacheDelta := by
  have := cacheSize_le_cacheSum hd.relinq_mem
  simp only [resrc_updateRcuNetDelta, relinquishResrc]
  exact addU64_of_lt (by omega)

variable (hi : HarvestInv p total s) (hF : ∀ k, total.get k < compenAbortOffer)
include hi hF

/-- The compensator of a committed deal holds at least `min_cache_size + cache_delta`. -/
lemma compen_cacheSize_ge : p.minCacheSize + p.cacheDelta ≤ tC.resrc.cacheSize := by
  have h := hd.not_compenAborts hi hF
  simp only [CompenAborts, not_or, not_lt] at h
  rw [addU64_of_lt (by omega)] at h
  exact h.1

lemma compensated_cacheSize :
    ((tC.compensateResrc p d.rcuDeltaCompen d.netDeltaCompen).updateRcuNetDelta p
      ).resrc.cacheSize = tC.resrc.cacheSize - p.cacheDelta := by
  have := cacheSize_le_cacheSum hd.compen_mem
  have := hd.compen_cacheSize_ge hfit hi hF
  simp only [resrc_updateRcuNetDelta, compensateResrc]
  exact subU64_of_le (by omega) (by omega)

/-- A committed deal moves `cache_delta` from the compensator to the relinquisher. -/
theorem cacheSum_committed : cacheSum (committed p total s d).tenants = cacheSum s.tenants := by
  have hR := hd.relinquished_cacheSize hfit
  have hC := hd.compensated_cacheSize hfit hi hF
  have hge := hd.compen_cacheSize_ge hfit hi hF
  have hu : ∀ t : Tenant, (t.updateRcuNetDelta p).resrc.cacheSize = t.resrc.cacheSize := by simp
  simp only [resrc_updateRcuNetDelta] at hR hC
  simp only [cacheSum, committed, tradeTenants,
    map_modify_of_comp (·.resrc.cacheSize) (updateRcuNetDelta p) hu]
  have h1 := sum_map_modify_of_getElem? (·.resrc.cacheSize)
    (fun t => t.compensateResrc p d.rcuDeltaCompen d.netDeltaCompen) hd.getCompen
  have h2 := sum_map_modify_of_getElem? (·.resrc.cacheSize)
    (fun t => t.relinquishResrc p d.rcuDeltaRelinq d.netDeltaRelinq)
    ((List.getElem?_modify_ne (fun t => t.compensateResrc p d.rcuDeltaCompen d.netDeltaCompen) _
      (Ne.symm hd.ne)).trans hd.getRelinq)
  simp only [hR, hC] at h1 h2
  omega

/-- Fewer cache, no lower miss ratio: `mr(c) ≤ mr(c - cache_delta)` at the compensator. -/
lemma compen_currMr_le_lessMr : tC.currMr ≤ tC.lessMr p := by
  have := cacheSize_le_cacheSum hd.compen_mem
  have := hd.compen_cacheSize_ge hfit hi hF
  unfold currMr lessMr
  rw [subU64_of_le (by omega) (by omega)]
  exact (hi.admissible tC hd.compen_mem).mrc_sane.getMissRatioConst_antitone (Nat.sub_le _ _)

/-- What a committed deal does to each tenant: its throughput drops at most by the deal's
factor, and its cache size stays at least `min(c, min_cache_size)`. -/
theorem tenant_committed {i : Nat} {t t' : Tenant} (h : s.tenants[i]? = some t)
    (h' : (committed p total s d).tenants[i]? = some t') :
    t.tput p * dealFactor p d i t ≤ t'.tput p ∧
      min t.resrc.cacheSize p.minCacheSize ≤ t'.resrc.cacheSize := by
  have hge := hd.compen_cacheSize_ge hfit hi hF
  change (tradeTenants p s.tenants d)[i]? = some t' at h'
  rw [getElem?_tradeTenants p s.tenants hd.ne i, h, Option.map_some', Option.some.injEq] at h'
  subst h'
  by_cases hir : i = d.tRelinq
  · subst hir
    obtain rfl : t = tR := Option.some.inj (h.symm.trans hd.getRelinq)
    rw [if_pos rfl]
    simp only [dealFactor, if_neg (fun hc : _ ∧ _ => hd.ne hc.1), mul_one]
    exact ⟨(hd.relinquished_tput hi).ge, by rw [hd.relinquished_cacheSize hfit]; omega⟩
  by_cases hic : i = d.tCompen
  · subst hic
    obtain rfl : t = tC := Option.some.inj (h.symm.trans hd.getCompen)
    rw [if_neg hir, if_pos rfl]
    simp only [dealFactor, true_and]
    refine ⟨?_, by rw [hd.compensated_cacheSize hfit hi hF]; omega⟩
    split_ifs with h0
    · rw [tput_updateRcuNetDelta, hd.compensateResrc_eq hi]
      exact tput_compensateResrc_immediate (hi.admissible t hd.compen_mem)
        (fun k => (hi.pos t hd.compen_mem k).le) ((hd.rcuCompen_eq_zero_iff hi hF).1 h0)
        (hd.compen_currMr_le_lessMr hfit hi hF)
    · rw [mul_one, hd.compensated_tput hi hF (fun hI => h0 ((hd.rcuCompen_eq_zero_iff hi hF).2 hI))]
  · simp only [if_neg hir, if_neg hic, dealFactor, hic, false_and, if_false, mul_one]
    exact ⟨le_rfl, min_le_left _ _⟩

end CommittedDeal

/-! ## Runs of the loop -/

/-- The committed deals of a run of at most `fuel` iterations, each with the state of the
iteration that picked it. -/
def harvestTrace (p : Params) (total : StatelessResrcVec) :
    Nat → HarvestState → List (Deal × HarvestState)
  | 0, _ => []
  | fuel + 1, s =>
    match harvestRound p total s with
    | none => []
    | some (d, s') => (d, s) :: harvestTrace p total fuel s'

/-- The product of tenant `i`'s deal factors over a trace. -/
def shortfall (p : Params) (i : Nat) (trace : List (Deal × HarvestState)) : ℚ :=
  (trace.map fun x => (x.2.tenants[i]?.map (dealFactor p x.1 i)).getD 1).prod

/-- Every committed iteration keeps the invariant and the number of tenants. -/
theorem harvestRound_inv {p : Params} {total : StatelessResrcVec} {s s' : HarvestState}
    {d : Deal} (hi : HarvestInv p total s) (h : harvestRound p total s = some (d, s')) :
    HarvestInv p total s' ∧ s'.tenants.length = s.tenants.length := by
  obtain ⟨s1, tR, tC, hi1, hd, hts, -, -, -, rfl⟩ := harvestRound_eq_some hi h
  exact ⟨hd.inv_committed hi1, by simp [committed, hts]⟩

/-- A whole run of the loop keeps the invariant and the number of tenants. -/
theorem harvestLoop_inv {p : Params} {total : StatelessResrcVec} :
    ∀ (fuel : Nat) (s : HarvestState), HarvestInv p total s →
      HarvestInv p total (harvestLoop p total fuel s) ∧
        (harvestLoop p total fuel s).tenants.length = s.tenants.length
  | 0, _, hi => ⟨hi, rfl⟩
  | fuel + 1, s, hi => by
    simp only [harvestLoop]
    cases h : harvestRound p total s with
    | none => exact ⟨hi, rfl⟩
    | some x =>
      obtain ⟨hi', hl'⟩ := harvestRound_inv hi h
      obtain ⟨ih1, ih2⟩ := harvestLoop_inv fuel x.2 hi'
      exact ⟨ih1, ih2.trans hl'⟩

/-- A committed iteration raises the estimated improvement ratio by at least
`min_improve_ratio_delta`. -/
lemma harvestRound_prev_add_le {p : Params} {total : StatelessResrcVec} {s s' : HarvestState}
    {d : Deal} (hi : HarvestInv p total s) (h : harvestRound p total s = some (d, s')) :
    s.prevEstimatedImproveRatio + minImproveRatioDelta ≤ s'.prevEstimatedImproveRatio := by
  obtain ⟨s1, tR, tC, -, hd, -, hprev, -, -, rfl⟩ := harvestRound_eq_some hi h
  have := hd.accepted
  rw [hprev] at this
  simp only [committed]
  linarith

/-- Along a run the estimated improvement ratio never drops. -/
theorem harvestLoop_prev_ge {p : Params} {total : StatelessResrcVec} :
    ∀ (fuel : Nat) (s : HarvestState), HarvestInv p total s →
      s.prevEstimatedImproveRatio ≤ (harvestLoop p total fuel s).prevEstimatedImproveRatio
  | 0, _, _ => le_rfl
  | fuel + 1, s, hi => by
    simp only [harvestLoop]
    cases h : harvestRound p total s with
    | none => exact le_rfl
    | some x =>
      have hδ : (0 : ℚ) < minImproveRatioDelta := by rw [minImproveRatioDelta]; norm_num
      linarith [harvestRound_prev_add_le hi h,
        harvestLoop_prev_ge fuel x.2 (harvestRound_inv hi h).1]

/-- A run that commits no deal ends in the state it started from. -/
lemma harvestLoop_eq_of_harvestTrace_eq_nil {p : Params} {total : StatelessResrcVec} :
    ∀ {fuel : Nat} {s : HarvestState}, harvestTrace p total fuel s = [] →
      harvestLoop p total fuel s = s
  | 0, _, _ => rfl
  | fuel + 1, s, h => by
    simp only [harvestTrace] at h
    simp only [harvestLoop]
    split at h
    · rename_i hr; simp only [hr]
    · cases h

/-- Every iteration of a run starts from a state with the invariant and commits its deal. -/
theorem mem_harvestTrace_inv {p : Params} {total : StatelessResrcVec} :
    ∀ (fuel : Nat) (s : HarvestState), HarvestInv p total s →
      ∀ x ∈ harvestTrace p total fuel s,
        HarvestInv p total x.2 ∧ ∃ s', harvestRound p total x.2 = some (x.1, s')
  | 0, _, _ => by simp [harvestTrace]
  | fuel + 1, s, hi => by
    simp only [harvestTrace]
    cases h : harvestRound p total s with
    | none => simp
    | some y =>
      obtain ⟨d, s'⟩ := y
      intro x hx
      rcases List.mem_cons.1 hx with rfl | hx
      · exact ⟨hi, s', h⟩
      · exact mem_harvestTrace_inv fuel s' (harvestRound_inv hi h).1 x hx

section run

variable {p : Params} {total : StatelessResrcVec} (hF : ∀ k, total.get k < compenAbortOffer)
include hF

/-- One committed iteration keeps the invariant, the length and the cache sum, and changes
each tenant as `tenant_committed` says. -/
theorem harvestRound_spec {s s' : HarvestState} {d : Deal} (hi : HarvestInv p total s)
    (hfit : cacheSum s.tenants + p.minCacheSize + p.cacheDelta < u64Size)
    (h : harvestRound p total s = some (d, s')) :
    HarvestInv p total s' ∧ cacheSum s'.tenants = cacheSum s.tenants ∧
      s'.tenants.length = s.tenants.length ∧
      ∀ i t t', s.tenants[i]? = some t → s'.tenants[i]? = some t' →
        t.tput p * dealFactor p d i t ≤ t'.tput p ∧
          min t.resrc.cacheSize p.minCacheSize ≤ t'.resrc.cacheSize := by
  obtain ⟨s1, tR, tC, hi1, hd, hts, -, -, -, rfl⟩ := harvestRound_eq_some hi h
  rw [← hts] at hfit ⊢
  exact ⟨hd.inv_committed hi1, hd.cacheSum_committed hfit hi1 hF, by simp [committed],
    fun i t t' h h' => hd.tenant_committed hfit hi1 hF h h'⟩

/-- One committed iteration trades between two different tenants, neither on its abort
offer; the compensator could give up `cache_delta` without going below `min_cache_size`;
every stateless component stays positive; the relinquisher keeps its throughput, and so does
the compensator unless it made the immediate offer. -/
theorem harvestRound_trade {s s' : HarvestState} {d : Deal} (hi : HarvestInv p total s)
    (hfit : cacheSum s.tenants + p.minCacheSize + p.cacheDelta < u64Size)
    (h : harvestRound p total s = some (d, s')) :
    ∃ tR tC, s.tenants[d.tRelinq]? = some tR ∧ s.tenants[d.tCompen]? = some tC ∧
      d.tRelinq ≠ d.tCompen ∧ ¬ tR.RelinqAborts p ∧ ¬ tC.CompenAborts p ∧
      p.minCacheSize + p.cacheDelta ≤ tC.resrc.cacheSize ∧
      (∀ t ∈ s'.tenants, ∀ k, 0 < t.resrc.stateless.get k) ∧
      s'.tenants[d.tRelinq]?.map (·.tput p) = some (tR.tput p) ∧
      (¬ tC.CompenImmediate p → s'.tenants[d.tCompen]?.map (·.tput p) = some (tC.tput p)) := by
  obtain ⟨s1, tR, tC, hi1, hd, hts, -, -, -, rfl⟩ := harvestRound_eq_some hi h
  rw [← hts] at hfit ⊢
  have hR : (committed p total s1 d).tenants[d.tRelinq]? =
      some ((tR.relinquishResrc p d.rcuDeltaRelinq d.netDeltaRelinq).updateRcuNetDelta p) := by
    change (tradeTenants p s1.tenants d)[d.tRelinq]? = _
    rw [getElem?_tradeTenants p _ hd.ne, hd.getRelinq, Option.map_some', if_pos rfl]
  have hC : (committed p total s1 d).tenants[d.tCompen]? =
      some ((tC.compensateResrc p d.rcuDeltaCompen d.netDeltaCompen).updateRcuNetDelta p) := by
    change (tradeTenants p s1.tenants d)[d.tCompen]? = _
    rw [getElem?_tradeTenants p _ hd.ne, hd.getCompen, Option.map_some', if_neg hd.ne.symm,
      if_pos rfl]
  refine ⟨tR, tC, hd.getRelinq, hd.getCompen, hd.ne, hd.not_relinqAborts hi1,
    hd.not_compenAborts hi1 hF, hd.compen_cacheSize_ge hfit hi1 hF, (hd.inv_committed hi1).pos,
    ?_, fun hni => ?_⟩
  · rw [hR, Option.map_some', hd.relinquished_tput hi1]
  · rw [hC, Option.map_some', hd.compensated_tput hi1 hF hni]

/-- A whole run of the loop keeps the invariant, the length and the cache sum; every tenant
ends with throughput at least its starting one times its shortfall over the run's trace, and
with cache size at least `min(c, min_cache_size)`. -/
theorem harvestLoop_spec : ∀ (fuel : Nat) (s : HarvestState), HarvestInv p total s →
    cacheSum s.tenants + p.minCacheSize + p.cacheDelta < u64Size →
    HarvestInv p total (harvestLoop p total fuel s) ∧
      cacheSum (harvestLoop p total fuel s).tenants = cacheSum s.tenants ∧
      (harvestLoop p total fuel s).tenants.length = s.tenants.length ∧
      ∀ i t t', s.tenants[i]? = some t → (harvestLoop p total fuel s).tenants[i]? = some t' →
        0 ≤ shortfall p i (harvestTrace p total fuel s) ∧
        t.tput p * shortfall p i (harvestTrace p total fuel s) ≤ t'.tput p ∧
          min t.resrc.cacheSize p.minCacheSize ≤ t'.resrc.cacheSize
  | 0, s, hi, _ => ⟨hi, rfl, rfl, fun i t t' h h' => by
      obtain rfl : t = t' := Option.some.inj (h.symm.trans h')
      simp [shortfall, harvestTrace]⟩
  | fuel + 1, s, hi, hfit => by
    simp only [harvestLoop, harvestTrace]
    cases h : harvestRound p total s with
    | none =>
      refine ⟨hi, rfl, rfl, fun i t t' h h' => ?_⟩
      obtain rfl : t = t' := Option.some.inj (h.symm.trans h')
      simp [shortfall]
    | some x =>
      obtain ⟨d, s'⟩ := x
      obtain ⟨hi', hc', hl', hstep⟩ := harvestRound_spec hF hi hfit h
      obtain ⟨ih1, ih2, ih3, ih4⟩ := harvestLoop_spec fuel s' hi' (hc' ▸ hfit)
      refine ⟨ih1, ih2.trans hc', ih3.trans hl', fun i t t' h0 h' => ?_⟩
      obtain ⟨t1, h1⟩ := exists_getElem?_of_length_eq hl' h0
      obtain ⟨hf1, hf2⟩ := hstep i t t1 h0 h1
      obtain ⟨hR, hR1, hR2⟩ := ih4 i t1 t' h1 h'
      have hf0 : 0 ≤ dealFactor p d i t :=
        dealFactor_nonneg (hi.admissible t (List.getElem?_mem h0))
      simp only [shortfall, List.map_cons, List.prod_cons, h0, Option.map_some',
        Option.getD_some] at hR hR1 ⊢
      refine ⟨mul_nonneg hf0 hR, ?_, by omega⟩
      calc t.tput p * (dealFactor p d i t * _) = t.tput p * dealFactor p d i t * _ := by ring
        _ ≤ t1.tput p * _ := mul_le_mul_of_nonneg_right hf1 hR
        _ ≤ t'.tput p := hR1

/-- Every iteration of a run starts from a state with the invariant and the cache sum of the
run's start. -/
theorem mem_harvestTrace : ∀ (fuel : Nat) (s : HarvestState), HarvestInv p total s →
    cacheSum s.tenants + p.minCacheSize + p.cacheDelta < u64Size →
    ∀ x ∈ harvestTrace p total fuel s, HarvestInv p total x.2 ∧
      cacheSum x.2.tenants = cacheSum s.tenants ∧ ∃ s', harvestRound p total x.2 = some (x.1, s')
  | 0, _, _, _ => by simp [harvestTrace]
  | fuel + 1, s, hi, hfit => by
    simp only [harvestTrace]
    cases h : harvestRound p total s with
    | none => simp
    | some y =>
      obtain ⟨d, s'⟩ := y
      obtain ⟨hi', hc', -, -⟩ := harvestRound_spec hF hi hfit h
      intro x hx
      rcases List.mem_cons.1 hx with rfl | hx
      · exact ⟨hi, rfl, s', h⟩
      · obtain ⟨h1, h2, h3⟩ := mem_harvestTrace fuel s' hi' (hc' ▸ hfit) x hx
        exact ⟨h1, h2.trans hc', h3⟩

end run

end Allocator

end Hopper
