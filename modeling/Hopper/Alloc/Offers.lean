import Hopper.Alloc.Tenant
import Mathlib.Tactic.FieldSimp

/-!
# Idle collection and trade offers of one tenant

The arithmetic behind the allocator's guarantees, for one tenant at a time.

`collect_idle` keeps `used = d(c) · tp`, where `tp = S / d(c)` is the throughput the
allocation sustains: `used` sustains the same throughput, lies below `S`, and is tight in
the bottleneck dimension, so the idle part is non-negative and zero there.

The offers of `pred_rcu_net_delta_if_{more,less}_cache` are exactly what keeps the
throughput unchanged across a trade: scaling `db_rcu` by `mr(c') / mr(c)` and `net_bw` by
`(mr(c') α + 1 - α) / (mr(c) α + 1 - α)` follows the demand from cache size `c` to `c'`.
Only the immediate offer of a compensator breaks this, by a factor `mr(c) / mr(c - δ)`.
-/

namespace Hopper

namespace Tenant

/-! ## Idle collection -/

section collect

variable {p : Params} {t : Tenant}

lemma collectIdle_used_add_idle (p : Params) (t : Tenant) :
    (t.collectIdle p).1.resrc.stateless + (t.collectIdle p).2 = t.resrc.stateless := by
  simp [collectIdle]

lemma used_get_collectIdle (k : Dim) :
    (t.collectIdle p).1.resrc.stateless.get k =
      (t.projectedDemand p t.resrc.cacheSize).get k * t.tput p := by
  simp [stateless_collectIdle, tput, tputAt]

variable (hd : ∀ k, 0 < (t.projectedDemand p t.resrc.cacheSize).get k)
include hd

/-- The allocation kept by `collect_idle` sustains the throughput of the whole. -/
lemma tput_collectIdle : (t.collectIdle p).1.tput p = t.tput p := by
  simp only [tput, tputAt, cacheSize_collectIdle, stateless_collectIdle,
    projectedDemand_of_fixed (fixed_collectIdle p t)]
  exact StatelessResrcVec.mul_div_self hd _

/-- The idle part is non-negative in every dimension. -/
lemma idle_nonneg_collectIdle (k : Dim) : 0 ≤ (t.collectIdle p).2.get k := by
  have hle := StatelessResrcVec.div_le t.resrc.stateless (t.projectedDemand p t.resrc.cacheSize) k
  have hk : (t.collectIdle p).2.get k = t.resrc.stateless.get k -
      (t.projectedDemand p t.resrc.cacheSize).get k * t.tput p := by
    rw [← collectIdle_used_add_idle p t, StatelessResrcVec.get_add, used_get_collectIdle]; ring
  rw [hk, sub_nonneg, mul_comm, ← le_div_iff₀ (hd k)]
  exact hle

/-- The idle part is zero in a bottleneck dimension. -/
lemma exists_idle_eq_zero_collectIdle : ∃ k, (t.collectIdle p).2.get k = 0 := by
  obtain ⟨k, hk⟩ := StatelessResrcVec.exists_div_eq t.resrc.stateless
    (t.projectedDemand p t.resrc.cacheSize)
  refine ⟨k, ?_⟩
  have h := congrArg (StatelessResrcVec.get · k) (collectIdle_used_add_idle p t)
  simp only [StatelessResrcVec.get_add, used_get_collectIdle, tput, tputAt, hk] at h
  rw [mul_div_cancel₀ _ (hd k).ne'] at h
  linarith

/-- The used part is a non-negative multiple of the projected demand when the allocation is
non-negative, and a positive one when it is positive. -/
lemma used_nonneg_collectIdle (hS : ∀ k, 0 ≤ t.resrc.stateless.get k) (k : Dim) :
    0 ≤ (t.collectIdle p).1.resrc.stateless.get k := by
  rw [used_get_collectIdle]
  obtain ⟨j, hj⟩ := StatelessResrcVec.exists_div_eq t.resrc.stateless
    (t.projectedDemand p t.resrc.cacheSize)
  simp only [tput, tputAt, hj]
  exact mul_nonneg (hd k).le (div_nonneg (hS j) (hd j).le)

lemma used_pos_collectIdle (hS : ∀ k, 0 < t.resrc.stateless.get k) (k : Dim) :
    0 < (t.collectIdle p).1.resrc.stateless.get k := by
  rw [used_get_collectIdle]
  obtain ⟨j, hj⟩ := StatelessResrcVec.exists_div_eq t.resrc.stateless
    (t.projectedDemand p t.resrc.cacheSize)
  simp only [tput, tputAt, hj]
  exact mul_pos (hd k) (div_pos (hS j) (hd j))

end collect

/-- `collect_idle` keeps every field but the stateless allocation, which becomes
`used = d(c) · (S / d(c))`, and returns `idle = S - used`: with `S ≥ 0`, a positive demand,
`net_bw_alpha ≤ 1` and a sane curve with `mr(c) > 0`, the used part lies in `[0, S]` and
the idle part is zero in a bottleneck dimension.  (`net_bw_alpha ≥ 0` is not needed.) -/
theorem collectIdle_split {p : Params} {t : Tenant} (hS : ∀ k, 0 ≤ t.resrc.stateless.get k)
    (hD : ∀ k, 0 < t.demandCacheless.get k) (hα : t.netBwAlpha ≤ 1) (hm : t.mrc.Sane)
    (hmr : 0 < t.mrc.getMissRatioConst t.resrc.cacheSize) :
    ∃ used idle : StatelessResrcVec,
      t.collectIdle p = ({ t with resrc := { t.resrc with stateless := used } }, idle) ∧
      used + idle = t.resrc.stateless ∧
      (∀ k, 0 ≤ used.get k ∧ used.get k ≤ t.resrc.stateless.get k) ∧
      used = t.projectedDemand p t.resrc.cacheSize *
        (t.resrc.stateless / t.projectedDemand p t.resrc.cacheSize) ∧
      ∃ k, idle.get k = 0 := by
  have hd : ∀ k, 0 < (t.projectedDemand p t.resrc.cacheSize).get k :=
    projectedDemand_pos hD hα hmr (hm.getMissRatioConst_nonneg_le_one _).2
  have hsum := collectIdle_used_add_idle p t
  refine ⟨(t.collectIdle p).1.resrc.stateless, (t.collectIdle p).2, rfl, hsum, fun k => ⟨used_nonneg_collectIdle hd hS k, ?_⟩, rfl,
    exists_idle_eq_zero_collectIdle hd⟩
  have h := congrArg (StatelessResrcVec.get · k) hsum
  simp only [StatelessResrcVec.get_add] at h
  linarith [idle_nonneg_collectIdle hd k]

/-- A tenant with an idle network share: `S = (4, 2, 8)` against the demand `(2, 1, 2)` at a
miss ratio of `1/2`. -/
def idleSample : Tenant :=
  Tenant.new 0 ⟨2, 1, 2⟩ ⟨10, ⟨4, 2, 8⟩⟩ ⟨[10], [1 / 2]⟩ (1 / 2)

attribute [local semireducible] Rat.mul Rat.inv Rat.add Rat.sub

theorem collectIdle_split_idleSample :
    (∀ k, 0 ≤ idleSample.resrc.stateless.get k) ∧ (∀ k, 0 < idleSample.demandCacheless.get k) ∧
      idleSample.netBwAlpha ≤ 1 ∧ idleSample.mrc.Sane ∧
      0 < idleSample.mrc.getMissRatioConst idleSample.resrc.cacheSize ∧
      ∃ used idle : StatelessResrcVec,
        idleSample.collectIdle Params.default =
          ({ idleSample with resrc := { idleSample.resrc with stateless := used } }, idle) ∧
        used + idle = idleSample.resrc.stateless ∧
        (∀ k, 0 ≤ used.get k ∧ used.get k ≤ idleSample.resrc.stateless.get k) ∧
        used = idleSample.projectedDemand Params.default idleSample.resrc.cacheSize *
          (idleSample.resrc.stateless / idleSample.projectedDemand Params.default
            idleSample.resrc.cacheSize) ∧
        ∃ k, idle.get k = 0 := by
  have hS : ∀ k, 0 ≤ idleSample.resrc.stateless.get k := by decide
  have hD : ∀ k, 0 < idleSample.demandCacheless.get k := by decide
  have hα : idleSample.netBwAlpha ≤ 1 := by decide
  have hm : idleSample.mrc.Sane := by decide
  have hmr : 0 < idleSample.mrc.getMissRatioConst idleSample.resrc.cacheSize := by decide
  exact ⟨hS, hD, hα, hm, hmr, collectIdle_split hS hD hα hm hmr⟩

/-! ## The offers -/

/-- The miss ratio at the current cache size. -/
def currMr (t : Tenant) : ℚ := t.mrc.getMissRatioConst t.resrc.cacheSize

/-- The miss ratio with one more `cache_delta` (`pred_mr` of the relinquish offer). -/
def moreMr (p : Params) (t : Tenant) : ℚ :=
  t.mrc.getMissRatioConst (addU64 t.resrc.cacheSize p.cacheDelta)

/-- The miss ratio with one `cache_delta` less (`pred_mr` of the compensation offer). -/
def lessMr (p : Params) (t : Tenant) : ℚ :=
  t.mrc.getMissRatioConst (subU64 t.resrc.cacheSize p.cacheDelta)

/-- `pred_rcu_net_delta_if_more_cache` jumps to `abort_offer`. -/
def RelinqAborts (p : Params) (t : Tenant) : Prop :=
  t.currMr ≤ epilson ∨ t.moreMr p < minMissRatio ∨ t.currMr - t.moreMr p ≤ epilson

/-- `pred_rcu_net_delta_if_less_cache` jumps to `abort_offer`. -/
def CompenAborts (p : Params) (t : Tenant) : Prop :=
  t.resrc.cacheSize < addU64 p.minCacheSize p.cacheDelta ∨ t.lessMr p > maxMissRatio ∨
    (epilson < t.lessMr p - t.currMr ∧ epilson < t.lessMr p ∧ t.currMr ≤ epilson)

/-- `pred_rcu_net_delta_if_less_cache` jumps to `immediate_offer`. -/
def CompenImmediate (p : Params) (t : Tenant) : Prop :=
  ¬ t.resrc.cacheSize < addU64 p.minCacheSize p.cacheDelta ∧ ¬ t.lessMr p > maxMissRatio ∧
    (t.lessMr p - t.currMr ≤ epilson ∨ t.lessMr p ≤ epilson)

section offers

variable (p : Params) (t : Tenant)

lemma predRcuNetDeltaIfMoreCache_of_aborts (h : t.RelinqAborts p) :
    (t.predRcuNetDeltaIfMoreCache p).rcuDeltaRelinq = relinqAbortOffer ∧
      (t.predRcuNetDeltaIfMoreCache p).netDeltaRelinq =
        if p.allocTotalNetBw then relinqAbortOffer else t.netDeltaRelinq := by
  unfold RelinqAborts currMr moreMr at h
  simp only [predRcuNetDeltaIfMoreCache]
  by_cases h1 : t.mrc.getMissRatioConst t.resrc.cacheSize ≤ epilson
  · rw [if_pos h1]; exact ⟨rfl, rfl⟩
  rw [if_neg h1]
  by_cases h2 : t.mrc.getMissRatioConst (addU64 t.resrc.cacheSize p.cacheDelta) < minMissRatio
  · rw [if_pos h2]; exact ⟨rfl, rfl⟩
  rw [if_neg h2, if_pos ((h.resolve_left h1).resolve_left h2)]
  exact ⟨rfl, rfl⟩

lemma predRcuNetDeltaIfMoreCache_of_not_aborts (h : ¬ t.RelinqAborts p) :
    (t.predRcuNetDeltaIfMoreCache p).rcuDeltaRelinq =
        t.resrc.stateless.dbRcu * (t.currMr - t.moreMr p) / t.currMr ∧
      (t.predRcuNetDeltaIfMoreCache p).netDeltaRelinq =
        if p.allocTotalNetBw then
          t.resrc.stateless.netBw * (t.currMr - t.moreMr p) * t.netBwAlpha /
            (t.currMr * t.netBwAlpha + 1 - t.netBwAlpha)
        else t.netDeltaRelinq := by
  unfold RelinqAborts currMr moreMr at h
  simp only [not_or, not_le, not_lt] at h
  simp only [predRcuNetDeltaIfMoreCache, currMr, moreMr, if_neg (not_le.2 h.1),
    if_neg (not_lt.2 h.2.1), if_neg (not_le.2 h.2.2)]
  exact ⟨trivial, trivial⟩

lemma predRcuNetDeltaIfLessCache_of_aborts (h : t.CompenAborts p) :
    (t.predRcuNetDeltaIfLessCache p).rcuDeltaCompen = compenAbortOffer ∧
      (t.predRcuNetDeltaIfLessCache p).netDeltaCompen =
        if p.allocTotalNetBw then compenAbortOffer else t.netDeltaCompen := by
  unfold CompenAborts currMr lessMr at h
  simp only [predRcuNetDeltaIfLessCache]
  by_cases h1 : t.resrc.cacheSize < addU64 p.minCacheSize p.cacheDelta
  · rw [if_pos h1]; exact ⟨rfl, rfl⟩
  rw [if_neg h1]
  by_cases h2 : t.mrc.getMissRatioConst (subU64 t.resrc.cacheSize p.cacheDelta) > maxMissRatio
  · rw [if_pos h2]; exact ⟨rfl, rfl⟩
  obtain ⟨h3, h4, h5⟩ := (h.resolve_left h1).resolve_left h2
  rw [if_neg h2, if_neg (not_le.2 h3), if_neg (not_le.2 h4), if_pos h5]
  exact ⟨rfl, rfl⟩

lemma predRcuNetDeltaIfLessCache_of_immediate (h : t.CompenImmediate p) :
    (t.predRcuNetDeltaIfLessCache p).rcuDeltaCompen = 0 ∧
      (t.predRcuNetDeltaIfLessCache p).netDeltaCompen =
        if p.allocTotalNetBw then 0 else t.netDeltaCompen := by
  unfold CompenImmediate currMr lessMr at h
  obtain ⟨h1, h2, h3⟩ := h
  simp only [predRcuNetDeltaIfLessCache, if_neg h1, if_neg h2]
  by_cases h4 : t.mrc.getMissRatioConst (subU64 t.resrc.cacheSize p.cacheDelta) -
      t.mrc.getMissRatioConst t.resrc.cacheSize ≤ epilson
  · rw [if_pos h4]; exact ⟨rfl, rfl⟩
  · rw [if_neg h4, if_pos (h3.resolve_left h4)]; exact ⟨rfl, rfl⟩

lemma predRcuNetDeltaIfLessCache_of_normal (h : ¬ t.CompenAborts p) (h' : ¬ t.CompenImmediate p) :
    (t.predRcuNetDeltaIfLessCache p).rcuDeltaCompen =
        t.resrc.stateless.dbRcu * (t.lessMr p - t.currMr) / t.currMr ∧
      (t.predRcuNetDeltaIfLessCache p).netDeltaCompen =
        if p.allocTotalNetBw then
          t.resrc.stateless.netBw * (t.lessMr p - t.currMr) * t.netBwAlpha /
            (t.currMr * t.netBwAlpha + 1 - t.netBwAlpha)
        else 0 := by
  unfold CompenAborts at h
  unfold CompenImmediate at h'
  unfold currMr lessMr at h h'
  simp only [not_or, not_and, not_le, not_lt] at h h'
  obtain ⟨h1, h2, h3⟩ := h
  obtain ⟨h4, h5⟩ := h' h1 h2
  simp only [predRcuNetDeltaIfLessCache, if_neg (not_lt.2 h1), if_neg (not_lt.2 h2),
    if_neg (not_le.2 h4), if_neg (not_le.2 h5), if_neg (not_le.2 (h3 h4 h5))]
  exact ⟨rfl, rfl⟩

end offers

/-! ## Trades keep the throughput -/

@[simp] lemma projectedDemand_dbWcu (p : Params) (t : Tenant) (c : Nat) :
    (t.projectedDemand p c).dbWcu = t.demandCacheless.dbWcu := rfl

/-- Scaling an amount and its demand by the same factor `m'` (the amount from a base `m`)
leaves the ratio over the demand at base `m`. -/
lemma div_rescale {a D m m' : ℚ} (hm' : m' ≠ 0) : a * m' / m / (D * m') = a / (D * m) := by
  rw [div_div, show m * (D * m') = D * m * m' by ring, mul_div_mul_right _ _ hm']

section trade

variable {p : Params} {t : Tenant} (ht : t.Admissible)
include ht

lemma relinq_rcu_eq (hno : ¬ t.RelinqAborts p) :
    t.resrc.stateless.dbRcu - (t.predRcuNetDeltaIfMoreCache p).rcuDeltaRelinq =
      t.resrc.stateless.dbRcu * t.moreMr p / t.currMr := by
  rw [(predRcuNetDeltaIfMoreCache_of_not_aborts p t hno).1,
    sub_div' _ _ t.currMr (ht.missRatio_pos _).ne']
  congr 1; ring

lemma relinq_net_eq (hno : ¬ t.RelinqAborts p) (hf : p.allocTotalNetBw = true) :
    t.resrc.stateless.netBw - (t.predRcuNetDeltaIfMoreCache p).netDeltaRelinq =
      t.resrc.stateless.netBw * (t.moreMr p * t.netBwAlpha + 1 - t.netBwAlpha) /
        (t.currMr * t.netBwAlpha + 1 - t.netBwAlpha) := by
  rw [(predRcuNetDeltaIfMoreCache_of_not_aborts p t hno).2, if_pos hf,
    sub_div' _ _ (t.currMr * t.netBwAlpha + 1 - t.netBwAlpha)
      (ht.netShare_pos _).ne']
  congr 1; ring

lemma compen_rcu_eq (hn : ¬ t.CompenAborts p) (hi : ¬ t.CompenImmediate p) :
    t.resrc.stateless.dbRcu + (t.predRcuNetDeltaIfLessCache p).rcuDeltaCompen =
      t.resrc.stateless.dbRcu * t.lessMr p / t.currMr := by
  rw [(predRcuNetDeltaIfLessCache_of_normal p t hn hi).1,
    add_div' _ _ t.currMr (ht.missRatio_pos _).ne']
  congr 1; ring

lemma compen_net_eq (hn : ¬ t.CompenAborts p) (hi : ¬ t.CompenImmediate p)
    (hf : p.allocTotalNetBw = true) :
    t.resrc.stateless.netBw + (t.predRcuNetDeltaIfLessCache p).netDeltaCompen =
      t.resrc.stateless.netBw * (t.lessMr p * t.netBwAlpha + 1 - t.netBwAlpha) /
        (t.currMr * t.netBwAlpha + 1 - t.netBwAlpha) := by
  rw [(predRcuNetDeltaIfLessCache_of_normal p t hn hi).2, if_pos hf,
    add_div' _ _ (t.currMr * t.netBwAlpha + 1 - t.netBwAlpha)
      (ht.netShare_pos _).ne']
  congr 1; ring

/-- Moving from cache size `c` to `c'` while scaling `db_rcu` by `mr(c') / mr(c)` and (with
`alloc_total_net_bw`) `net_bw` by the ratio of network shares keeps every componentwise
throughput ratio. -/
lemma tputAt_rescale (c c' : Nat) (S S' : StatelessResrcVec)
    (hr : S'.dbRcu = S.dbRcu * t.mrc.getMissRatioConst c' / t.mrc.getMissRatioConst c)
    (hw : S'.dbWcu = S.dbWcu)
    (hn : S'.netBw = if p.allocTotalNetBw then
      S.netBw * (t.mrc.getMissRatioConst c' * t.netBwAlpha + 1 - t.netBwAlpha) /
        (t.mrc.getMissRatioConst c * t.netBwAlpha + 1 - t.netBwAlpha) else S.netBw) :
    t.tputAt p c' S' = t.tputAt p c S := by
  have hm' := ht.missRatio_pos c'
  have hs' := ht.netShare_pos c'
  refine StatelessResrcVec.div_congr fun k => ?_
  cases k
  · simp only [StatelessResrcVec.get_dbRcu, projectedDemand, hr]
    exact div_rescale hm'.ne'
  · simp [hw]
  · simp only [StatelessResrcVec.get_netBw, projectedDemand, hn]
    split_ifs
    · have e : ∀ m : ℚ, m + (1 - t.netBwAlpha) * (1 - m) = m * t.netBwAlpha + 1 - t.netBwAlpha :=
        fun m => by ring
      rw [e, e]; exact div_rescale hs'.ne'
    · rfl

/-- A relinquisher that made a (non-aborted) offer keeps its throughput after the trade. -/
lemma tput_relinquishResrc (hno : ¬ t.RelinqAborts p) :
    (t.relinquishResrc p (t.predRcuNetDeltaIfMoreCache p).rcuDeltaRelinq
      (t.predRcuNetDeltaIfMoreCache p).netDeltaRelinq).tput p = t.tput p := by
  simp only [tput, relinquishResrc, tputAt, projectedDemand]
  refine tputAt_rescale ht _ _ _ _ (relinq_rcu_eq ht hno) rfl ?_
  split_ifs with hf
  · exact relinq_net_eq ht hno hf
  · rfl

/-- A compensator that made a normal offer keeps its throughput after the trade. -/
lemma tput_compensateResrc (hn : ¬ t.CompenAborts p) (hi : ¬ t.CompenImmediate p) :
    (t.compensateResrc p (t.predRcuNetDeltaIfLessCache p).rcuDeltaCompen
      (t.predRcuNetDeltaIfLessCache p).netDeltaCompen).tput p = t.tput p := by
  simp only [tput, compensateResrc, tputAt, projectedDemand]
  refine tputAt_rescale ht _ _ _ _ (compen_rcu_eq ht hn hi) rfl ?_
  split_ifs with hf
  · exact compen_net_eq ht hn hi hf
  · rfl

end trade

end Tenant

end Hopper
