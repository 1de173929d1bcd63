import Hopper.Alloc.Resrc
import Hopper.Alloc.Mrc

/-!
# Tenants

`tenant.h`: a tenant holds its demand vector without cache hits, its current allocation,
its miss-ratio curve, the coupling coefficient `net_bw_alpha` of network bandwidth to cache
hits, and the scratch offers the trading loops read: how much `db_rcu`/`net_bw` it would
relinquish for one more `cache_delta` of cache, how much it asks as compensation for one
`cache_delta` less, and (for memshare) how its miss ratio moves either way.

Every method is a function from the tenant (and the parameters it reads) to the updated
tenant.  `collect_idle` also returns the idle resources; `relocate_resrc` and
`relocate_cache`, which take two tenants by reference, are split into their effect on each
side, so that the allocator applies them at two list positions.
-/

namespace Hopper

/-- `class Tenant`. -/
structure Tenant where
  tIdx : Nat
  demandCacheless : StatelessResrcVec
  resrc : ResrcVec
  mrc : MissRatioCurve
  netBwAlpha : ℚ
  rcuDeltaRelinq : ℚ
  rcuDeltaCompen : ℚ
  netDeltaRelinq : ℚ
  netDeltaCompen : ℚ
  mrIncIfMoreCache : ℚ
  mrDecIfLessCache : ℚ
  reservedCacheSize : Nat
  deriving DecidableEq, Repr

namespace Tenant

/-- The constructor: every scratch value starts at `0`, and the reserved cache is
`base_resrc.cache_size * reserved_ratio` (`reserved_ratio = 0.5`) truncated to `uint64_t`. -/
def new (tIdx : Nat) (demandCacheless : StatelessResrcVec) (baseResrc : ResrcVec)
    (mrc : MissRatioCurve) (netBwAlpha : ℚ) : Tenant where
  tIdx := tIdx
  demandCacheless := demandCacheless
  resrc := baseResrc
  mrc := mrc
  netBwAlpha := netBwAlpha
  rcuDeltaRelinq := 0
  rcuDeltaCompen := 0
  netDeltaRelinq := 0
  netDeltaCompen := 0
  mrIncIfMoreCache := 0
  mrDecIfLessCache := 0
  reservedCacheSize := baseResrc.cacheSize / 2

/-- The demand at cache size `c`, as `collect_idle` projects it: `db_rcu` is only spent on
misses, and with `alloc_total_net_bw` the network is spent fully on a miss and by a fraction
`1 - net_bw_alpha` on a hit. -/
def projectedDemand (p : Params) (t : Tenant) (c : Nat) : StatelessResrcVec :=
  let mr := t.mrc.getMissRatioConst c
  { t.demandCacheless with
    dbRcu := t.demandCacheless.dbRcu * mr
    netBw := if p.allocTotalNetBw then
        t.demandCacheless.netBw * (mr + (1 - t.netBwAlpha) * (1 - mr))
      else t.demandCacheless.netBw }

/-- The throughput a stateless allocation `S` sustains at cache size `c`: the min-ratio
quotient `S / d(c)` over the demand `collect_idle` projects, its `tp`.  (`report(true)` logs
another figure: it scales `net_bw` by the miss ratio alone, with no `net_bw_alpha`.) -/
def tputAt (p : Params) (t : Tenant) (c : Nat) (S : StatelessResrcVec) : ℚ :=
  S / t.projectedDemand p c

/-- The tenant's current throughput. -/
def tput (p : Params) (t : Tenant) : ℚ := t.tputAt p t.resrc.cacheSize t.resrc.stateless

/-- `Tenant::collect_idle`: keep the part of the allocation the demand can use at the
current miss ratio, and return the rest. -/
def collectIdle (p : Params) (t : Tenant) : Tenant × StatelessResrcVec :=
  let demand := t.projectedDemand p t.resrc.cacheSize
  let tp := t.resrc.stateless / demand
  let used := demand * tp
  let idle := t.resrc.stateless - used
  ({ t with resrc := { t.resrc with stateless := used } }, idle)

/-- `Tenant::pred_rcu_net_delta_if_more_cache`: the `db_rcu` and `net_bw` the tenant can give
up for one more `cache_delta` at unchanged throughput; `relinq_abort_offer` aborts.  The
`infinity` tests of the source never fire over exact arithmetic. -/
def predRcuNetDeltaIfMoreCache (p : Params) (t : Tenant) : Tenant :=
  let abortOffer : Tenant := { t with
    rcuDeltaRelinq := relinqAbortOffer
    netDeltaRelinq := if p.allocTotalNetBw then relinqAbortOffer else t.netDeltaRelinq }
  let currMr := t.mrc.getMissRatioConst t.resrc.cacheSize
  if currMr ≤ epilson then abortOffer
  else
    let predMr := t.mrc.getMissRatioConst (addU64 t.resrc.cacheSize p.cacheDelta)
    if predMr < minMissRatio then abortOffer
    else
      let deltaMr := currMr - predMr
      if deltaMr ≤ epilson then abortOffer
      else { t with
        rcuDeltaRelinq := t.resrc.stateless.dbRcu * deltaMr / currMr
        netDeltaRelinq := if p.allocTotalNetBw then
            t.resrc.stateless.netBw * deltaMr * t.netBwAlpha /
              (currMr * t.netBwAlpha + 1 - t.netBwAlpha)
          else t.netDeltaRelinq }

/-- `Tenant::pred_rcu_net_delta_if_less_cache`: the `db_rcu` and `net_bw` the tenant asks to
give up one `cache_delta`; `compen_abort_offer` aborts, `0` is the immediate offer. -/
def predRcuNetDeltaIfLessCache (p : Params) (t : Tenant) : Tenant :=
  let abortOffer : Tenant := { t with
    rcuDeltaCompen := compenAbortOffer
    netDeltaCompen := if p.allocTotalNetBw then compenAbortOffer else t.netDeltaCompen }
  let immediateOffer : Tenant := { t with
    rcuDeltaCompen := 0
    netDeltaCompen := if p.allocTotalNetBw then 0 else t.netDeltaCompen }
  if t.resrc.cacheSize < addU64 p.minCacheSize p.cacheDelta then abortOffer
  else
    let currMr := t.mrc.getMissRatioConst t.resrc.cacheSize
    let predMr := t.mrc.getMissRatioConst (subU64 t.resrc.cacheSize p.cacheDelta)
    if predMr > maxMissRatio then abortOffer
    else
      let deltaMr := predMr - currMr
      if deltaMr ≤ epilson then immediateOffer
      else if predMr ≤ epilson then immediateOffer
      else if currMr ≤ epilson then abortOffer
      else { t with
        rcuDeltaCompen := t.resrc.stateless.dbRcu * deltaMr / currMr
        netDeltaCompen := if p.allocTotalNetBw then
            t.resrc.stateless.netBw * deltaMr * t.netBwAlpha /
              (currMr * t.netBwAlpha + 1 - t.netBwAlpha)
          else 0 }

/-- `Tenant::update_rcu_net_delta`. -/
def updateRcuNetDelta (p : Params) (t : Tenant) : Tenant :=
  predRcuNetDeltaIfLessCache p (predRcuNetDeltaIfMoreCache p t)

/-- `Tenant::update_mr_delta`. -/
def updateMrDelta (p : Params) (t : Tenant) : Tenant :=
  let currMr := t.mrc.getMissRatioConst t.resrc.cacheSize
  let moreMr := t.mrc.getMissRatioConst (addU64 t.resrc.cacheSize p.cacheDelta)
  let lessMr := t.mrc.getMissRatioConst (subU64 t.resrc.cacheSize p.cacheDelta)
  { t with mrIncIfMoreCache := currMr - moreMr, mrDecIfLessCache := lessMr - currMr }

/-- `Tenant::can_donate` with the default `delta = cache_delta`. -/
def canDonate (p : Params) (t : Tenant) : Bool :=
  addU64 t.reservedCacheSize p.cacheDelta ≤ t.resrc.cacheSize

/-- `Tenant::scale_stateless_resrc`. -/
def scaleStatelessResrc (t : Tenant) (scaleFactor : ℚ) : Tenant :=
  { t with resrc := { t.resrc with stateless := t.resrc.stateless * scaleFactor } }

/-- The factor of `scale_stateless_resrc_by_owned` in one dimension: the owned share of
`sum`, or `1 / even_denom` where `sum` is `0`. -/
def ownedFactor (owned sum : ℚ) (evenDenom : Nat) : ℚ :=
  if sum ≠ 0 then owned / sum else 1 / (evenDenom : ℚ)

/-- `Tenant::scale_stateless_resrc_by_owned`. -/
def scaleStatelessResrcByOwned (t : Tenant) (avail sum : StatelessResrcVec) (evenDenom : Nat) :
    Tenant :=
  let s := t.resrc.stateless
  { t with resrc := { t.resrc with stateless :=
    ⟨s.dbRcu + avail.dbRcu * ownedFactor s.dbRcu sum.dbRcu evenDenom,
     s.dbWcu + avail.dbWcu * ownedFactor s.dbWcu sum.dbWcu evenDenom,
     s.netBw + avail.netBw * ownedFactor s.netBw sum.netBw evenDenom⟩ } }

/-- The receiver's side of `Tenant::relocate_cache`. -/
def receiveCache (p : Params) (t : Tenant) : Tenant :=
  { t with resrc := { t.resrc with cacheSize := addU64 t.resrc.cacheSize p.cacheDelta } }

/-- The donor's side of `Tenant::relocate_cache`. -/
def donateCache (p : Params) (t : Tenant) : Tenant :=
  { t with resrc := { t.resrc with cacheSize := subU64 t.resrc.cacheSize p.cacheDelta } }

/-- The relinquisher's side of `Tenant::relocate_resrc`: one more `cache_delta`, less
`db_rcu` and (with `alloc_total_net_bw`) less `net_bw`. -/
def relinquishResrc (p : Params) (t : Tenant) (rcuRelinq netRelinq : ℚ) : Tenant :=
  let s := t.resrc.stateless
  { t with resrc := { cacheSize := addU64 t.resrc.cacheSize p.cacheDelta
                      stateless := { s with
                        dbRcu := s.dbRcu - rcuRelinq
                        netBw := if p.allocTotalNetBw then s.netBw - netRelinq else s.netBw } } }

/-- The compensator's side of `Tenant::relocate_resrc`. -/
def compensateResrc (p : Params) (t : Tenant) (rcuCompen netCompen : ℚ) : Tenant :=
  let s := t.resrc.stateless
  { t with resrc := { cacheSize := subU64 t.resrc.cacheSize p.cacheDelta
                      stateless := { s with
                        dbRcu := s.dbRcu + rcuCompen
                        netBw := if p.allocTotalNetBw then s.netBw + netCompen else s.netBw } } }

/-- The two `assert`s of `Tenant::relocate_resrc` when `alloc_total_net_bw` is off. -/
def relocateResrcAssert (p : Params) (netRelinq netCompen : ℚ) : Bool :=
  p.allocTotalNetBw || (netCompen == 0 && netRelinq == 0)

/-- `Tenant::aggregate_resrc` (the order of summation is immaterial over exact arithmetic). -/
def aggregateResrc (ts : List Tenant) : StatelessResrcVec := (ts.map (·.resrc.stateless)).sum

end Tenant

end Hopper

namespace Hopper

namespace Tenant

/-! ## What each method leaves alone -/

/-- The fields no method writes: identity, demand, curve, `net_bw_alpha`, reserved cache. -/
def fixed (t : Tenant) : Nat × StatelessResrcVec × MissRatioCurve × ℚ × Nat :=
  (t.tIdx, t.demandCacheless, t.mrc, t.netBwAlpha, t.reservedCacheSize)

section frame

variable (p : Params) (t : Tenant)

@[simp] lemma fixed_collectIdle : (t.collectIdle p).1.fixed = t.fixed := rfl

@[simp] lemma fixed_predRcuNetDeltaIfMoreCache : (t.predRcuNetDeltaIfMoreCache p).fixed = t.fixed := by
  simp only [predRcuNetDeltaIfMoreCache, apply_ite (f := fixed)]; simp only [fixed, ite_self]

@[simp] lemma fixed_predRcuNetDeltaIfLessCache : (t.predRcuNetDeltaIfLessCache p).fixed = t.fixed := by
  simp only [predRcuNetDeltaIfLessCache, apply_ite (f := fixed)]; simp only [fixed, ite_self]

@[simp] lemma fixed_updateRcuNetDelta : (t.updateRcuNetDelta p).fixed = t.fixed := by
  simp [updateRcuNetDelta]

@[simp] lemma fixed_updateMrDelta : (t.updateMrDelta p).fixed = t.fixed := rfl

@[simp] lemma fixed_scaleStatelessResrc (f : ℚ) : (t.scaleStatelessResrc f).fixed = t.fixed := rfl

@[simp] lemma fixed_scaleStatelessResrcByOwned (avail sum : StatelessResrcVec) (n : Nat) :
    (t.scaleStatelessResrcByOwned avail sum n).fixed = t.fixed := rfl

@[simp] lemma fixed_receiveCache : (t.receiveCache p).fixed = t.fixed := rfl

@[simp] lemma fixed_donateCache : (t.donateCache p).fixed = t.fixed := rfl

@[simp] lemma fixed_relinquishResrc (r n : ℚ) : (t.relinquishResrc p r n).fixed = t.fixed := rfl

@[simp] lemma fixed_compensateResrc (r n : ℚ) : (t.compensateResrc p r n).fixed = t.fixed := rfl

@[simp] lemma resrc_predRcuNetDeltaIfMoreCache : (t.predRcuNetDeltaIfMoreCache p).resrc = t.resrc := by
  simp only [predRcuNetDeltaIfMoreCache, apply_ite (f := resrc), ite_self]

@[simp] lemma resrc_predRcuNetDeltaIfLessCache : (t.predRcuNetDeltaIfLessCache p).resrc = t.resrc := by
  simp only [predRcuNetDeltaIfLessCache, apply_ite (f := resrc), ite_self]

@[simp] lemma resrc_updateRcuNetDelta : (t.updateRcuNetDelta p).resrc = t.resrc := by
  simp [updateRcuNetDelta]

@[simp] lemma resrc_updateMrDelta : (t.updateMrDelta p).resrc = t.resrc := rfl

@[simp] lemma cacheSize_collectIdle : (t.collectIdle p).1.resrc.cacheSize = t.resrc.cacheSize :=
  rfl

lemma stateless_collectIdle : (t.collectIdle p).1.resrc.stateless =
    t.projectedDemand p t.resrc.cacheSize * (t.resrc.stateless / t.projectedDemand p t.resrc.cacheSize) :=
  rfl

end frame

lemma fixed_eq_iff {t t' : Tenant} : t'.fixed = t.fixed ↔
    t'.tIdx = t.tIdx ∧ t'.demandCacheless = t.demandCacheless ∧ t'.mrc = t.mrc ∧
      t'.netBwAlpha = t.netBwAlpha ∧ t'.reservedCacheSize = t.reservedCacheSize := by
  simp [fixed]

lemma projectedDemand_of_fixed {t t' : Tenant} (h : t'.fixed = t.fixed) (p : Params) (c : Nat) :
    t'.projectedDemand p c = t.projectedDemand p c := by
  obtain ⟨-, hd, hm, ha, -⟩ := fixed_eq_iff.1 h
  simp [projectedDemand, hd, hm, ha]

/-! ## Admissible tenants -/

/-- What the callers of `add_tenant` are taken to promise: a positive demand vector,
`net_bw_alpha ∈ [0, 1]`, and a curve that passes `check_sanity` with positive anchors.
These are fixed fields, so every method keeps them. -/
structure Admissible (t : Tenant) : Prop where
  demand_pos : ∀ k, 0 < t.demandCacheless.get k
  alpha_nonneg : 0 ≤ t.netBwAlpha
  alpha_le_one : t.netBwAlpha ≤ 1
  mrc_sane : t.mrc.Sane
  mrc_pos : ∀ r ∈ t.mrc.missRatios, 0 < r

lemma Admissible.of_fixed {t t' : Tenant} (h : t'.fixed = t.fixed) (ht : t.Admissible) :
    t'.Admissible := by
  obtain ⟨-, hd, hm, ha, -⟩ := fixed_eq_iff.1 h
  exact ⟨hd ▸ ht.demand_pos, ha ▸ ht.alpha_nonneg, ha ▸ ht.alpha_le_one, hm ▸ ht.mrc_sane,
    hm ▸ ht.mrc_pos⟩

/-- The projected demand is positive in every dimension when the demand is, `net_bw_alpha` is
at most `1`, and the miss ratio at `c` lies in `(0, 1]`. -/
lemma projectedDemand_pos {p : Params} {t : Tenant} {c : Nat}
    (hD : ∀ k, 0 < t.demandCacheless.get k) (hα : t.netBwAlpha ≤ 1) (hm : 0 < t.mrc.getMissRatioConst c)
    (hm1 : t.mrc.getMissRatioConst c ≤ 1) (k : Dim) : 0 < (t.projectedDemand p c).get k := by
  cases k
  · exact mul_pos (hD .dbRcu) hm
  · exact hD .dbWcu
  · simp only [projectedDemand, StatelessResrcVec.get_netBw]
    split_ifs
    · exact mul_pos (hD .netBw)
        (add_pos_of_pos_of_nonneg hm (mul_nonneg (sub_nonneg.2 hα) (sub_nonneg.2 hm1)))
    · exact hD .netBw

section admissible

variable {p : Params} {t : Tenant} (ht : t.Admissible)
include ht

lemma Admissible.missRatio_pos (c : Nat) : 0 < t.mrc.getMissRatioConst c :=
  ht.mrc_sane.getMissRatioConst_pos ht.mrc_pos c

lemma Admissible.missRatio_le_one (c : Nat) : t.mrc.getMissRatioConst c ≤ 1 :=
  (ht.mrc_sane.getMissRatioConst_nonneg_le_one c).2

/-- The network share `mr + (1 - α)(1 - mr) = mr·α + 1 - α` is positive. -/
lemma Admissible.netShare_pos (c : Nat) :
    0 < t.mrc.getMissRatioConst c * t.netBwAlpha + 1 - t.netBwAlpha := by
  have h1 := ht.missRatio_pos c
  have := mul_nonneg (sub_nonneg.2 ht.alpha_le_one) (sub_nonneg.2 (ht.missRatio_le_one c))
  linarith

lemma Admissible.projectedDemand_pos (c : Nat) (k : Dim) :
    0 < (t.projectedDemand p c).get k :=
  Tenant.projectedDemand_pos ht.demand_pos ht.alpha_le_one (ht.missRatio_pos c) (ht.missRatio_le_one c) k

end admissible

end Tenant

end Hopper
