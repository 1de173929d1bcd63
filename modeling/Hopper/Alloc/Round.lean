import Hopper.Alloc.Memshare

/-!
# One `do_alloc` round

An allocator built by `add_tenant` calls with admissible tenant specifications, then one
`do_alloc`: the memshare pass (if on), idle collection, the harvest loop (if on) and the
redistribution.  This module describes each stage's effect on the tenants and on the
available resources, and assembles from them the facts about a whole round.
-/

namespace Hopper

/-- What every `add_tenant` call is taken to satisfy: positive demand and base resources,
`net_bw_alpha ∈ [0, 1]`, and a curve that passes `check_sanity` with positive anchors. -/
structure TenantSpec.Admissible (spec : TenantSpec) : Prop where
  demand_pos : ∀ k, 0 < spec.demandCacheless.get k
  base_pos : ∀ k, 0 < spec.baseResrc.stateless.get k
  alpha_nonneg : 0 ≤ spec.netBwAlpha
  alpha_le_one : spec.netBwAlpha ≤ 1
  mrc_sane : spec.mrc.Sane
  mrc_pos : ∀ r ∈ spec.mrc.missRatios, 0 < r

instance (spec : TenantSpec) : Decidable spec.Admissible :=
  decidable_of_iff ((∀ k, 0 < spec.demandCacheless.get k) ∧
      (∀ k, 0 < spec.baseResrc.stateless.get k) ∧ 0 ≤ spec.netBwAlpha ∧ spec.netBwAlpha ≤ 1 ∧
      spec.mrc.Sane ∧ ∀ r ∈ spec.mrc.missRatios, 0 < r)
    ⟨fun ⟨h1, h2, h3, h4, h5, h6⟩ => ⟨h1, h2, h3, h4, h5, h6⟩,
      fun ⟨h1, h2, h3, h4, h5, h6⟩ => ⟨h1, h2, h3, h4, h5, h6⟩⟩

namespace Allocator

open Tenant

/-! ## Building -/

/-- `add_tenant` calls append one tenant each, numbered in order. -/
lemma foldl_addTenant_tenants (specs : List TenantSpec) (a : Allocator) :
    (specs.foldl (fun a spec => (a.addTenant spec).1) a).tenants = a.tenants ++
      specs.mapIdx fun i spec => Tenant.new (a.tenants.length + i) spec.demandCacheless
        spec.baseResrc spec.mrc spec.netBwAlpha := by
  induction specs generalizing a with
  | nil => simp
  | cons spec rest ih =>
    rw [List.foldl_cons, ih]
    simp [addTenant, List.mapIdx_cons, Nat.add_assoc, Nat.add_comm 1]

lemma foldl_addTenant_total (specs : List TenantSpec) (a : Allocator) :
    (specs.foldl (fun a spec => (a.addTenant spec).1) a).totalResrc.stateless =
      a.totalResrc.stateless + (specs.map (·.baseResrc.stateless)).sum := by
  induction specs generalizing a with
  | nil => simp
  | cons spec rest ih =>
    rw [List.foldl_cons, ih]
    simp [addTenant, ResrcVec.add, add_assoc]

lemma build_tenants (policy : Policy) (specs : List TenantSpec) :
    (build policy specs).tenants = specs.mapIdx fun i spec =>
      Tenant.new i spec.demandCacheless spec.baseResrc spec.mrc spec.netBwAlpha := by
  simp [build, foldl_addTenant_tenants, new]

lemma foldl_addTenant_policy (specs : List TenantSpec) (a : Allocator) :
    (specs.foldl (fun a spec => (a.addTenant spec).1) a).policy = a.policy := by
  induction specs generalizing a with
  | nil => rfl
  | cons spec rest ih => rw [List.foldl_cons, ih]; rfl

@[simp] lemma build_policy (policy : Policy) (specs : List TenantSpec) :
    (build policy specs).policy = policy :=
  foldl_addTenant_policy specs _

/-- The tenants of a built allocator hold their base resources. -/
lemma build_resrc (policy : Policy) (specs : List TenantSpec) :
    (build policy specs).tenants.map (·.resrc) = specs.map (·.baseResrc) := by
  apply List.ext_getElem?
  intro i
  simp only [build_tenants, List.getElem?_map, List.getElem?_mapIdx]
  cases specs[i]? <;> rfl

lemma getElem?_build (policy : Policy) (specs : List TenantSpec) (i : Nat) :
    (build policy specs).tenants[i]? = specs[i]?.map fun spec =>
      Tenant.new i spec.demandCacheless spec.baseResrc spec.mrc spec.netBwAlpha := by
  rw [build_tenants, List.getElem?_mapIdx]

lemma cacheSum_build (policy : Policy) (specs : List TenantSpec) :
    cacheSum (build policy specs).tenants = (specs.map (·.baseResrc.cacheSize)).sum := by
  have := congrArg (fun l => (l.map (·.cacheSize)).sum) (build_resrc policy specs)
  simpa [cacheSum, List.map_map, Function.comp_def] using this

lemma aggregateResrc_build (policy : Policy) (specs : List TenantSpec) :
    aggregateResrc (build policy specs).tenants = (specs.map (·.baseResrc.stateless)).sum := by
  have := congrArg (fun l => (l.map (·.stateless)).sum) (build_resrc policy specs)
  simpa [aggregateResrc, List.map_map, Function.comp_def] using this

/-- A built tenant reserves half its base cache, so no more than the cache sum. -/
lemma reserved_le_cacheSum_build (policy : Policy) (specs : List TenantSpec) :
    ∀ t ∈ (build policy specs).tenants, t.reservedCacheSize ≤ cacheSum (build policy specs).tenants := by
  intro t ht
  have hc := cacheSize_le_cacheSum ht
  rw [build_tenants, List.mem_mapIdx] at ht
  obtain ⟨i, hi, rfl⟩ := ht
  exact (Nat.div_le_self _ 2).trans hc

lemma build_total (policy : Policy) (specs : List TenantSpec) :
    (build policy specs).totalResrc.stateless = aggregateResrc (build policy specs).tenants := by
  have e : aggregateResrc (build policy specs).tenants =
      (((build policy specs).tenants.map (·.resrc)).map (·.stateless)).sum := by
    rw [aggregateResrc, List.map_map]; rfl
  rw [e, build_resrc, build, foldl_addTenant_total, List.map_map]
  exact zero_add _

/-! ## Tenants before idle collection -/

/-- What holds of the tenants before idle collection in every round of a fresh allocator:
admissible, positive resources and zero `net_bw` offers. -/
structure TenantsOk (ts : List Tenant) : Prop where
  admissible : ∀ t ∈ ts, t.Admissible
  pos : ∀ t ∈ ts, ∀ k, 0 < t.resrc.stateless.get k
  netZero : ∀ t ∈ ts, t.netDeltaRelinq = 0 ∧ t.netDeltaCompen = 0

lemma tenantsOk_build (policy : Policy) {specs : List TenantSpec}
    (hs : ∀ spec ∈ specs, spec.Admissible) : TenantsOk (build policy specs).tenants := by
  have hmem : ∀ t ∈ (build policy specs).tenants, ∃ i, ∃ spec ∈ specs, t =
      Tenant.new i spec.demandCacheless spec.baseResrc spec.mrc spec.netBwAlpha := by
    intro t ht
    rw [build_tenants, List.mem_mapIdx] at ht
    obtain ⟨i, hi, rfl⟩ := ht
    exact ⟨i, _, List.getElem_mem hi, rfl⟩
  refine ⟨fun t ht => ?_, fun t ht => ?_, fun t ht => ?_⟩ <;>
    obtain ⟨i, spec, hspec, rfl⟩ := hmem t ht
  · have h := hs spec hspec
    exact ⟨h.demand_pos, h.alpha_nonneg, h.alpha_le_one, h.mrc_sane, h.mrc_pos⟩
  · exact (hs spec hspec).base_pos
  · exact ⟨rfl, rfl⟩

lemma TenantsOk.of_memshareFrame {ts ts' : List Tenant} (h : TenantsOk ts)
    (hl : ts'.length = ts.length)
    (hs : ∀ (i : Nat) t t', ts[i]? = some t → ts'[i]? = some t' → MemshareFrame t t') :
    TenantsOk ts' := by
  have hmem : ∀ t' ∈ ts', ∃ t ∈ ts, MemshareFrame t t' := fun t' ht' => by
    obtain ⟨i, hi⟩ := List.mem_iff_getElem?.1 ht'
    obtain ⟨t, ht⟩ := exists_getElem?_of_length_eq hl.symm hi
    exact ⟨t, List.getElem?_mem ht, hs i t t' ht hi⟩
  refine ⟨fun t' ht' => ?_, fun t' ht' => ?_, fun t' ht' => ?_⟩ <;>
    obtain ⟨t, ht, hst⟩ := hmem t' ht'
  · exact (h.admissible t ht).of_fixed hst.fixed
  · rw [hst.stateless]; exact h.pos t ht
  · rw [hst.netRelinq, hst.netCompen]; exact h.netZero t ht

/-! ## Idle collection and the start of the harvest loop -/

/-- The allocator after the memshare pass, if it is on. -/
def memshared (p : Params) (fuel : Nat) (a : Allocator) : Allocator :=
  if a.policy.memshare then a.doMemshare p fuel else a

/-- The allocator after memshare (if on) and idle collection, with `resrc_avail`. -/
def collected (p : Params) (fuel : Nat) (a : Allocator) : Allocator × StatelessResrcVec :=
  (memshared p fuel a).collectIdle p

/-- The state `do_harvest`'s loop starts from in a `do_alloc` round. -/
def harvestEntry (p : Params) (fuel : Nat) (a : Allocator) : HarvestState :=
  harvestStart p (collected p fuel a).1 (collected p fuel a).2

lemma allocPhase_eq (p : Params) (fuel : Nat) (a : Allocator) :
    allocPhase p fuel a = if a.policy.harvest then
      ({ (collected p fuel a).1 with
          tenants := (harvestLoop p a.totalResrc.stateless maxTradeRound
            (harvestEntry p fuel a)).tenants },
        (harvestLoop p a.totalResrc.stateless maxTradeRound (harvestEntry p fuel a)).resrcAvail)
    else collected p fuel a := by
  unfold allocPhase harvestEntry doHarvest collected memshared
  by_cases hm : a.policy.memshare = true
  · simp only [if_pos hm]; rfl
  · simp only [if_neg hm]; rfl

@[simp] lemma collectIdle_totalResrc (p : Params) (a : Allocator) :
    (a.collectIdle p).1.totalResrc = a.totalResrc := rfl

@[simp] lemma collectIdle_policy (p : Params) (a : Allocator) :
    (a.collectIdle p).1.policy = a.policy := rfl

lemma collectIdle_tenants (p : Params) (a : Allocator) :
    (a.collectIdle p).1.tenants = a.tenants.map fun t => (t.collectIdle p).1 := by
  simp [collectIdle]

/-- Idle collection splits every tenant's resources into the used part it keeps and the idle
part that goes to `resrc_avail`. -/
lemma aggregateResrc_collectIdle (p : Params) (a : Allocator) :
    aggregateResrc (a.collectIdle p).1.tenants + (a.collectIdle p).2 =
      aggregateResrc a.tenants := by
  simp only [collectIdle, aggregateResrc, List.map_map, ← List.sum_map_add]
  congr 1
  apply List.map_congr_left
  intro t _
  exact collectIdle_used_add_idle p t

lemma avail_nonneg_collectIdle (p : Params) {a : Allocator}
    (h : ∀ t ∈ a.tenants, t.Admissible) (k : Dim) : 0 ≤ (a.collectIdle p).2.get k := by
  simp only [collectIdle, List.map_map, StatelessResrcVec.get_sum]
  exact List.sum_nonneg
    (by simpa using fun t ht => idle_nonneg_collectIdle ((h t ht).projectedDemand_pos _) k)

/-- `do_harvest` starts its loop from a state with the invariant. -/
theorem harvestStart_inv (p : Params) {a : Allocator} (hn : 2 ≤ a.tenants.length)
    (hok : TenantsOk a.tenants) (htot : a.totalResrc.stateless = aggregateResrc a.tenants) :
    HarvestInv p a.totalResrc.stateless
      (harvestStart p (a.collectIdle p).1 (a.collectIdle p).2) := by
  have hmem : ∀ t ∈ (harvestStart p (a.collectIdle p).1 (a.collectIdle p).2).tenants,
      ∃ t0 ∈ a.tenants, t = ((t0.collectIdle p).1).updateRcuNetDelta p := by
    intro t ht
    simp only [harvestStart, collectIdle_tenants, List.map_map, List.mem_map] at ht
    obtain ⟨t0, h0, rfl⟩ := ht
    exact ⟨t0, h0, rfl⟩
  have hagg : aggregateResrc (harvestStart p (a.collectIdle p).1 (a.collectIdle p).2).tenants =
      aggregateResrc (a.collectIdle p).1.tenants := by
    simp only [harvestStart, aggregateResrc, List.map_map]
    congr 1
    apply List.map_congr_left
    intro t _
    simp
  refine ⟨by simpa [harvestStart, collectIdle_tenants] using hn, fun t ht => ?_, fun t ht => ?_,
    fun t ht => ?_, fun hf t ht => ?_, ?_, avail_nonneg_collectIdle p hok.admissible, rfl, rfl,
    by simp [harvestStart], fun hf => ?_, fun hf => ?_⟩
  · obtain ⟨t0, h0, rfl⟩ := hmem t ht
    exact (hok.admissible t0 h0).of_fixed (by simp)
  · obtain ⟨t0, h0, rfl⟩ := hmem t ht
    rw [resrc_updateRcuNetDelta]
    exact used_pos_collectIdle ((hok.admissible t0 h0).projectedDemand_pos _) (hok.pos t0 h0)
  · obtain ⟨t0, h0, rfl⟩ := hmem t ht
    exact offersCurrent_updateRcuNetDelta p _
  · obtain ⟨t0, h0, rfl⟩ := hmem t ht
    exact netOffers_updateRcuNetDelta hf (hok.netZero t0 h0)
  · rw [hagg]
    show aggregateResrc (a.collectIdle p).1.tenants + (a.collectIdle p).2 = _
    rw [aggregateResrc_collectIdle, htot]
  · simp [harvestStart, hf]
  · simp [harvestStart, hf]

/-! ## The phase before redistribution -/

/-- An allocator ready for a round with trades: at least two tenants as `TenantsOk` says, and
`total_resrc.stateless` their sum. -/
structure Ready (a : Allocator) : Prop where
  two_le : 2 ≤ a.tenants.length
  ok : TenantsOk a.tenants
  total : a.totalResrc.stateless = aggregateResrc a.tenants

lemma ready_build (policy : Policy) {specs : List TenantSpec}
    (hs : ∀ spec ∈ specs, spec.Admissible) (hn : 2 ≤ specs.length) :
    (build policy specs).Ready :=
  ⟨by simpa [build_tenants] using hn, tenantsOk_build policy hs, build_total policy specs⟩

lemma aggregateResrc_eq_of_frame {ts ts' : List Tenant} (hl : ts'.length = ts.length)
    (hs : ∀ (i : Nat) t t', ts[i]? = some t → ts'[i]? = some t' → MemshareFrame t t') :
    aggregateResrc ts' = aggregateResrc ts :=
  sum_map_eq_of_getElem? hl fun i t t' h h' => (hs i t t' h h').stateless

@[simp] lemma memshared_totalResrc (p : Params) (fuel : Nat) (a : Allocator) :
    (memshared p fuel a).totalResrc = a.totalResrc := by
  unfold memshared; split_ifs <;> rfl

@[simp] lemma memshared_policy (p : Params) (fuel : Nat) (a : Allocator) :
    (memshared p fuel a).policy = a.policy := by
  unfold memshared; split_ifs <;> rfl

/-- The memshare pass keeps the length and every tenant's frame. -/
lemma memshared_frame (p : Params) (fuel : Nat) (a : Allocator) :
    (memshared p fuel a).tenants.length = a.tenants.length ∧
      ∀ (i : Nat) t t', a.tenants[i]? = some t → (memshared p fuel a).tenants[i]? = some t' →
        MemshareFrame t t' := by
  unfold memshared
  split_ifs
  · exact memshareLoop_frame fuel a.tenants _
  · exact ⟨rfl, fun i t t' h h' => by
      obtain rfl : t = t' := Option.some.inj (h.symm.trans h'); exact MemshareFrame.refl t⟩

lemma Ready.memshared {a : Allocator} (ha : a.Ready) (p : Params) (fuel : Nat) :
    (memshared p fuel a).Ready := by
  obtain ⟨hl, hs⟩ := memshared_frame p fuel a
  exact ⟨hl ▸ ha.two_le, ha.ok.of_memshareFrame hl hs,
    by rw [memshared_totalResrc, ha.total, aggregateResrc_eq_of_frame hl hs]⟩

/-- What holds after the phase before redistribution: the tenants and `resrc_avail` add up
to the total, `resrc_avail` is non-negative, and the tenants are admissible with positive
resources. -/
structure Phased (a a' : Allocator) (v : StatelessResrcVec) : Prop where
  policy : a'.policy = a.policy
  totalResrc : a'.totalResrc = a.totalResrc
  length : a'.tenants.length = a.tenants.length
  conserve : aggregateResrc a'.tenants + v = a.totalResrc.stateless
  avail_nonneg : ∀ k, 0 ≤ v.get k
  admissible : ∀ t ∈ a'.tenants, t.Admissible
  pos : ∀ t ∈ a'.tenants, ∀ k, 0 < t.resrc.stateless.get k

lemma Phased.aggregate_pos {a a' : Allocator} {v : StatelessResrcVec} (h : Phased a a' v)
    (hn : 2 ≤ a.tenants.length) (k : Dim) : 0 < (aggregateResrc a'.tenants).get k :=
  aggregateResrc_pos (List.ne_nil_of_length_pos (by rw [h.length]; omega)) h.pos k

lemma Ready.harvestEntry_inv {a : Allocator} (ha : a.Ready) (p : Params) (fuel : Nat) :
    HarvestInv p a.totalResrc.stateless (harvestEntry p fuel a) := by
  have hm := ha.memshared p fuel
  have := harvestStart_inv p hm.two_le hm.ok hm.total
  rwa [memshared_totalResrc] at this

theorem allocPhase_phased (p : Params) (fuel : Nat) {a : Allocator} (ha : a.Ready) :
    Phased a (allocPhase p fuel a).1 (allocPhase p fuel a).2 := by
  have hm := ha.memshared p fuel
  have hl := (memshared_frame p fuel a).1
  have hi := ha.harvestEntry_inv p fuel
  have hmem : ∀ t ∈ (collected p fuel a).1.tenants, ∃ t0 ∈ (memshared p fuel a).tenants,
      t = (t0.collectIdle p).1 := fun t ht => by
    simpa [collected, collectIdle_tenants, eq_comm] using ht
  rw [allocPhase_eq]
  split_ifs
  · obtain ⟨hi', hl'⟩ := harvestLoop_inv maxTradeRound _ hi
    refine ⟨by simp [collected], by simp [collected], ?_, hi'.conserve, hi'.avail_nonneg,
      hi'.admissible, hi'.pos⟩
    have hl0 : (harvestEntry p fuel a).tenants.length = a.tenants.length := by
      simpa [harvestEntry, harvestStart, collected, collectIdle_tenants] using hl
    exact hl'.trans hl0
  · refine ⟨by simp [collected], by simp [collected], by simpa [collected, collectIdle_tenants]
      using hl, ?_, avail_nonneg_collectIdle p hm.ok.admissible, fun t ht => ?_, fun t ht => ?_⟩
    · rw [collected, aggregateResrc_collectIdle, ← hm.total, memshared_totalResrc]
    · obtain ⟨t0, h0, rfl⟩ := hmem t ht
      exact (hm.ok.admissible t0 h0).of_fixed (by simp)
    · obtain ⟨t0, h0, rfl⟩ := hmem t ht
      exact used_pos_collectIdle ((hm.ok.admissible t0 h0).projectedDemand_pos _)
        (hm.ok.pos t0 h0)

end Allocator

end Hopper
