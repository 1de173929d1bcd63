import Hopper.Alloc.Offers
import Mathlib.Algebra.Order.Field.Basic

/-!
# One trade, seen from its two tenants

`do_harvest` reads the four offers a tenant stores (`rcu_delta_relinq`, `net_delta_relinq`,
`rcu_delta_compen`, `net_delta_compen`) and refreshes them with `update_rcu_net_delta` after
each `relocate_resrc`.  The offers are *current* when they are what the two prediction
methods compute from the tenant's present cache size and resources; refreshing makes them
current, and the offer methods only read the cache size, the resources and the fixed fields.

Over a tenant with current offers and positive resources: a relinquish offer lies in
`[0, S)` (so the relinquisher keeps positive resources), a compensate offer is
non-negative, and a compensator on the immediate zero offer loses throughput by at most
the factor `mr(c) / mr(c - cache_delta)`.
-/

namespace Hopper

namespace Tenant

/-! ## What the offer methods read and write -/

section frame

variable (p : Params) (t : Tenant)

@[simp] lemma rcuDeltaRelinq_predRcuNetDeltaIfLessCache :
    (t.predRcuNetDeltaIfLessCache p).rcuDeltaRelinq = t.rcuDeltaRelinq := by
  simp only [predRcuNetDeltaIfLessCache, apply_ite (f := rcuDeltaRelinq), ite_self]

@[simp] lemma netDeltaRelinq_predRcuNetDeltaIfLessCache :
    (t.predRcuNetDeltaIfLessCache p).netDeltaRelinq = t.netDeltaRelinq := by
  simp only [predRcuNetDeltaIfLessCache, apply_ite (f := netDeltaRelinq), ite_self]

@[simp] lemma rcuDeltaCompen_predRcuNetDeltaIfMoreCache :
    (t.predRcuNetDeltaIfMoreCache p).rcuDeltaCompen = t.rcuDeltaCompen := by
  simp only [predRcuNetDeltaIfMoreCache, apply_ite (f := rcuDeltaCompen), ite_self]

@[simp] lemma netDeltaCompen_predRcuNetDeltaIfMoreCache :
    (t.predRcuNetDeltaIfMoreCache p).netDeltaCompen = t.netDeltaCompen := by
  simp only [predRcuNetDeltaIfMoreCache, apply_ite (f := netDeltaCompen), ite_self]

end frame

/-! The `db_rcu` offers read only the resources and the miss-ratio curve; the `net_bw` offers
also read `net_bw_alpha`. -/

section congr

variable (p : Params) {t u : Tenant} (hr : u.resrc = t.resrc) (hm : u.mrc = t.mrc)
include hr hm

lemma rcuDeltaRelinq_congr :
    (u.predRcuNetDeltaIfMoreCache p).rcuDeltaRelinq =
      (t.predRcuNetDeltaIfMoreCache p).rcuDeltaRelinq := by
  simp only [predRcuNetDeltaIfMoreCache, hr, hm, apply_ite (f := rcuDeltaRelinq)]

lemma rcuDeltaCompen_congr :
    (u.predRcuNetDeltaIfLessCache p).rcuDeltaCompen =
      (t.predRcuNetDeltaIfLessCache p).rcuDeltaCompen := by
  simp only [predRcuNetDeltaIfLessCache, hr, hm, apply_ite (f := rcuDeltaCompen)]

variable (ha : u.netBwAlpha = t.netBwAlpha) (hn : p.allocTotalNetBw = true)
include ha hn

lemma netDeltaRelinq_congr :
    (u.predRcuNetDeltaIfMoreCache p).netDeltaRelinq =
      (t.predRcuNetDeltaIfMoreCache p).netDeltaRelinq := by
  simp only [predRcuNetDeltaIfMoreCache, hr, hm, ha, hn, apply_ite (f := netDeltaRelinq), if_true]

lemma netDeltaCompen_congr :
    (u.predRcuNetDeltaIfLessCache p).netDeltaCompen =
      (t.predRcuNetDeltaIfLessCache p).netDeltaCompen := by
  simp only [predRcuNetDeltaIfLessCache, hr, hm, ha, hn, apply_ite (f := netDeltaCompen), if_true]

end congr

/-! ## Current offers -/

/-- The stored offers are those the prediction methods compute now; the `net_bw` offers
only matter (and are only refreshed to a value of the state) with `alloc_total_net_bw`. -/
structure OffersCurrent (p : Params) (t : Tenant) : Prop where
  rcuRelinq : t.rcuDeltaRelinq = (t.predRcuNetDeltaIfMoreCache p).rcuDeltaRelinq
  rcuCompen : t.rcuDeltaCompen = (t.predRcuNetDeltaIfLessCache p).rcuDeltaCompen
  netRelinq : p.allocTotalNetBw = true →
    t.netDeltaRelinq = (t.predRcuNetDeltaIfMoreCache p).netDeltaRelinq
  netCompen : p.allocTotalNetBw = true →
    t.netDeltaCompen = (t.predRcuNetDeltaIfLessCache p).netDeltaCompen

/-- `update_rcu_net_delta` makes the offers current. -/
lemma offersCurrent_updateRcuNetDelta (p : Params) (t : Tenant) :
    (t.updateRcuNetDelta p).OffersCurrent p := by
  have hr : (t.updateRcuNetDelta p).resrc = t.resrc := by simp
  obtain ⟨-, -, hm, ha, -⟩ := fixed_eq_iff.1 (fixed_updateRcuNetDelta p t)
  have hr' : (t.updateRcuNetDelta p).resrc = (t.predRcuNetDeltaIfMoreCache p).resrc := by simp
  obtain ⟨-, -, hm', ha', -⟩ := fixed_eq_iff.1 (show (t.updateRcuNetDelta p).fixed =
    (t.predRcuNetDeltaIfMoreCache p).fixed by simp)
  refine ⟨?_, ?_, fun hn => ?_, fun hn => ?_⟩
  · rw [rcuDeltaRelinq_congr p hr hm]; simp [updateRcuNetDelta]
  · rw [rcuDeltaCompen_congr p hr' hm']; rfl
  · rw [netDeltaRelinq_congr p hr hm ha hn]; simp [updateRcuNetDelta]
  · rw [netDeltaCompen_congr p hr' hm' ha' hn]; rfl

section noNet

variable {p : Params} {t : Tenant} (hn : p.allocTotalNetBw = false)
include hn

lemma netDeltaRelinq_predRcuNetDeltaIfMoreCache_of :
    (t.predRcuNetDeltaIfMoreCache p).netDeltaRelinq = t.netDeltaRelinq := by
  simp only [predRcuNetDeltaIfMoreCache, hn, Bool.false_eq_true, if_false,
    apply_ite (f := netDeltaRelinq), ite_self]

lemma netDeltaCompen_predRcuNetDeltaIfLessCache_of (h : t.netDeltaCompen = 0) :
    (t.predRcuNetDeltaIfLessCache p).netDeltaCompen = 0 := by
  simp only [predRcuNetDeltaIfLessCache, hn, Bool.false_eq_true, if_false, h,
    apply_ite (f := netDeltaCompen), ite_self]

/-- Without `alloc_total_net_bw`, refreshing keeps zero `net_bw` offers zero. -/
lemma netOffers_updateRcuNetDelta (h : t.netDeltaRelinq = 0 ∧ t.netDeltaCompen = 0) :
    (t.updateRcuNetDelta p).netDeltaRelinq = 0 ∧ (t.updateRcuNetDelta p).netDeltaCompen = 0 :=
  ⟨by simp [updateRcuNetDelta, netDeltaRelinq_predRcuNetDeltaIfMoreCache_of hn, h.1],
    netDeltaCompen_predRcuNetDeltaIfLessCache_of hn (by simp [h.2])⟩

end noNet

/-! ## Bounds on the offers -/

lemma not_relinqAborts {p : Params} {t : Tenant} (h : ¬ t.RelinqAborts p) :
    epilson < t.currMr ∧ minMissRatio ≤ t.moreMr p ∧ epilson < t.currMr - t.moreMr p := by
  simp only [RelinqAborts, not_or, not_le, not_lt] at h; exact h

/-- What a normal compensate offer knows: `mr(c - δ) - mr(c)`, `mr(c - δ)` and `mr(c)` all
exceed `epilson`. -/
lemma compen_normal {p : Params} {t : Tenant} (h : ¬ t.CompenAborts p)
    (h' : ¬ t.CompenImmediate p) :
    epilson < t.lessMr p - t.currMr ∧ epilson < t.lessMr p ∧ epilson < t.currMr := by
  simp only [CompenAborts, CompenImmediate, not_or, not_and, not_le, not_lt] at h h'
  obtain ⟨h4, h5⟩ := h' h.1 h.2.1
  exact ⟨h4, h5, h.2.2 h4 h5⟩

section bounds

variable {p : Params} {t : Tenant} (hS : ∀ k, 0 < t.resrc.stateless.get k)
include hS

lemma compen_rcu_nonneg : 0 ≤ (t.predRcuNetDeltaIfLessCache p).rcuDeltaCompen := by
  by_cases h : t.CompenAborts p
  · rw [(predRcuNetDeltaIfLessCache_of_aborts p t h).1]; exact compenAbortOffer_pos.le
  by_cases h' : t.CompenImmediate p
  · rw [(predRcuNetDeltaIfLessCache_of_immediate p t h').1]
  obtain ⟨h1, -, h3⟩ := compen_normal h h'
  rw [(predRcuNetDeltaIfLessCache_of_normal p t h h').1]
  have := hS .dbRcu
  simp only [StatelessResrcVec.get_dbRcu] at this
  exact div_nonneg (mul_nonneg this.le (by linarith [epilson_pos])) (by linarith [epilson_pos])

variable (ht : t.Admissible)
include ht

lemma relinq_rcu_lt : (t.predRcuNetDeltaIfMoreCache p).rcuDeltaRelinq < t.resrc.stateless.dbRcu := by
  have hR := hS .dbRcu
  simp only [StatelessResrcVec.get_dbRcu] at hR
  by_cases h : t.RelinqAborts p
  · simpa [(predRcuNetDeltaIfMoreCache_of_aborts p t h).1, relinqAbortOffer] using hR
  · have e := relinq_rcu_eq ht h
    have : 0 < t.resrc.stateless.dbRcu * t.moreMr p / t.currMr :=
      div_pos (mul_pos hR (ht.missRatio_pos _)) (ht.missRatio_pos _)
    linarith

variable (hn : p.allocTotalNetBw = true)
include hn

lemma relinq_net_lt : (t.predRcuNetDeltaIfMoreCache p).netDeltaRelinq < t.resrc.stateless.netBw := by
  have hN := hS .netBw
  simp only [StatelessResrcVec.get_netBw] at hN
  by_cases h : t.RelinqAborts p
  · simpa [(predRcuNetDeltaIfMoreCache_of_aborts p t h).2, hn, relinqAbortOffer] using hN
  · have e := relinq_net_eq ht h hn
    have : 0 < t.resrc.stateless.netBw * (t.moreMr p * t.netBwAlpha + 1 - t.netBwAlpha) /
        (t.currMr * t.netBwAlpha + 1 - t.netBwAlpha) :=
      div_pos (mul_pos hN (ht.netShare_pos _)) (ht.netShare_pos _)
    linarith

lemma compen_net_nonneg :
    0 ≤ (t.predRcuNetDeltaIfLessCache p).netDeltaCompen := by
  by_cases h : t.CompenAborts p
  · rw [(predRcuNetDeltaIfLessCache_of_aborts p t h).2, if_pos hn]; exact compenAbortOffer_pos.le
  by_cases h' : t.CompenImmediate p
  · rw [(predRcuNetDeltaIfLessCache_of_immediate p t h').2, if_pos hn]
  obtain ⟨h1, -, -⟩ := compen_normal h h'
  rw [(predRcuNetDeltaIfLessCache_of_normal p t h h').2, if_pos hn]
  have := hS .netBw
  simp only [StatelessResrcVec.get_netBw] at this
  exact div_nonneg (mul_nonneg (mul_nonneg this.le (by linarith [epilson_pos])) ht.alpha_nonneg)
    (ht.netShare_pos _).le

end bounds

/-! ## The immediate offer -/

section immediate

variable {p : Params} {t : Tenant} (ht : t.Admissible)
include ht

/-- Moving from cache size `c` to `c'`, where the miss ratio is no smaller, at unchanged
resources loses throughput by at most the factor `mr(c) / mr(c')`. -/
lemma tputAt_mul_le {c c' : Nat} {S : StatelessResrcVec} (hS : ∀ k, 0 ≤ S.get k)
    (hle : t.mrc.getMissRatioConst c ≤ t.mrc.getMissRatioConst c') :
    t.tputAt p c S * (t.mrc.getMissRatioConst c / t.mrc.getMissRatioConst c') ≤
      t.tputAt p c' S := by
  have hm := ht.missRatio_pos c
  have hm' := ht.missRatio_pos c'
  have hf0 : 0 ≤ t.mrc.getMissRatioConst c / t.mrc.getMissRatioConst c' :=
    div_nonneg hm.le hm'.le
  have hf1 : t.mrc.getMissRatioConst c / t.mrc.getMissRatioConst c' ≤ 1 := (div_le_one hm').2 hle
  have hD := ht.demand_pos
  refine StatelessResrcVec.le_div_iff_forall.2 fun k =>
    (mul_le_mul_of_nonneg_right (StatelessResrcVec.div_le _ _ k) hf0).trans ?_
  cases k
  · simp only [StatelessResrcVec.get_dbRcu, projectedDemand]
    rw [div_mul_div_comm, mul_right_comm _ (t.mrc.getMissRatioConst c),
      mul_div_mul_right _ _ hm.ne']
  · simp only [StatelessResrcVec.get_dbWcu, projectedDemand_dbWcu]
    exact mul_le_of_le_one_right (div_nonneg (hS .dbWcu) (hD .dbWcu).le) hf1
  · have hd := hD .netBw
    have hs := ht.netShare_pos c
    have hs' := ht.netShare_pos c'
    have hN := hS .netBw
    simp only [StatelessResrcVec.get_netBw, projectedDemand] at hd hN ⊢
    split_ifs
    · have e : ∀ m : ℚ, m + (1 - t.netBwAlpha) * (1 - m) = m * t.netBwAlpha + 1 - t.netBwAlpha :=
        fun m => by ring
      rw [e, e, div_mul_div_comm, div_le_div_iff₀ (by positivity) (by positivity)]
      have key : t.mrc.getMissRatioConst c *
          (t.mrc.getMissRatioConst c' * t.netBwAlpha + 1 - t.netBwAlpha) ≤
          (t.mrc.getMissRatioConst c * t.netBwAlpha + 1 - t.netBwAlpha) *
            t.mrc.getMissRatioConst c' := by
        have := mul_le_mul_of_nonneg_right hle (sub_nonneg.2 ht.alpha_le_one)
        linarith
      calc S.netBw * t.mrc.getMissRatioConst c *
            (t.demandCacheless.netBw * (t.mrc.getMissRatioConst c' * t.netBwAlpha + 1 - t.netBwAlpha))
          _ = S.netBw * t.demandCacheless.netBw * (t.mrc.getMissRatioConst c *
              (t.mrc.getMissRatioConst c' * t.netBwAlpha + 1 - t.netBwAlpha)) := by ring
          _ ≤ S.netBw * t.demandCacheless.netBw *
              ((t.mrc.getMissRatioConst c * t.netBwAlpha + 1 - t.netBwAlpha) *
                t.mrc.getMissRatioConst c') := mul_le_mul_of_nonneg_left key (mul_nonneg hN hd.le)
          _ = _ := by ring
    · exact mul_le_of_le_one_right (div_nonneg hN hd.le) hf1

/-- A compensator on the immediate zero offer loses throughput by at most the factor
`mr(c) / mr(c - cache_delta)`. -/
lemma tput_compensateResrc_immediate (hS : ∀ k, 0 ≤ t.resrc.stateless.get k)
    (hi : t.CompenImmediate p) (hle : t.currMr ≤ t.lessMr p) :
    t.tput p * (t.currMr / t.lessMr p) ≤
      (t.compensateResrc p (t.predRcuNetDeltaIfLessCache p).rcuDeltaCompen
        (t.predRcuNetDeltaIfLessCache p).netDeltaCompen).tput p := by
  obtain ⟨h1, h2⟩ := predRcuNetDeltaIfLessCache_of_immediate p t hi
  have hS' : (t.compensateResrc p (t.predRcuNetDeltaIfLessCache p).rcuDeltaCompen
      (t.predRcuNetDeltaIfLessCache p).netDeltaCompen).resrc.stateless = t.resrc.stateless := by
    ext k; cases k <;> cases hf : p.allocTotalNetBw <;> simp [compensateResrc, h1, h2, hf]
  simp only [tput, tputAt, projectedDemand_of_fixed (fixed_compensateResrc p t _ _), hS']
  exact tputAt_mul_le ht hS hle

end immediate

end Tenant

end Hopper
