import Hopper.Alloc.Round
import Mathlib.Algebra.BigOperators.Ring.List

/-!
# Redistribution and conservation

`Allocator::do_redistribute` hands `resrc_avail` back to the tenants.  In conserving mode
each tenant gets the share of every resource it holds (`scale_stateless_resrc_by_owned`),
so the tenants end up holding exactly the total; otherwise every tenant is scaled by
`1 + improve_ratio`, where `improve_ratio = avail / (total - avail)` is the min-ratio
quotient, so no resource exceeds its total and the bottleneck one meets it.  Either way
every tenant's throughput grows by at least the factor `1 + improve_ratio`.
-/

namespace Hopper

namespace Allocator

open Tenant

/-! ## Scaling one tenant -/

lemma stateless_scaleStatelessResrcByOwned_get (t : Tenant) {avail sum : StatelessResrcVec}
    (n : Nat) {k : Dim} (hk : sum.get k ≠ 0) :
    (t.scaleStatelessResrcByOwned avail sum n).resrc.stateless.get k =
      t.resrc.stateless.get k * (1 + avail.get k / sum.get k) := by
  cases k <;>
    simp only [scaleStatelessResrcByOwned, ownedFactor, StatelessResrcVec.get_dbRcu,
      StatelessResrcVec.get_dbWcu, StatelessResrcVec.get_netBw, ne_eq] at hk ⊢ <;>
    rw [if_pos hk] <;> ring

lemma aggregateResrc_scaleStatelessResrcByOwned (ts : List Tenant) {avail sum : StatelessResrcVec}
    (n : Nat) {k : Dim} (hk : sum.get k ≠ 0) :
    (aggregateResrc (ts.map (·.scaleStatelessResrcByOwned avail sum n))).get k =
      (aggregateResrc ts).get k * (1 + avail.get k / sum.get k) := by
  simp only [aggregateResrc, StatelessResrcVec.get_sum, List.map_map, Function.comp_def,
    stateless_scaleStatelessResrcByOwned_get _ n hk, List.sum_map_mul_right]

lemma aggregateResrc_scaleStatelessResrc (ts : List Tenant) (f : ℚ) (k : Dim) :
    (aggregateResrc (ts.map (·.scaleStatelessResrc f))).get k = (aggregateResrc ts).get k * f := by
  simp only [aggregateResrc, StatelessResrcVec.get_sum, List.map_map, Function.comp_def,
    scaleStatelessResrc, StatelessResrcVec.get_mul, List.sum_map_mul_right]

/-- Scaling every resource by at least `f ≥ 0` scales the throughput by at least `f`. -/
lemma tputAt_mul_le_of_le {p : Params} {t : Tenant} (ht : t.Admissible) (c : Nat)
    {S S' : StatelessResrcVec} {f : ℚ} (hf : 0 ≤ f) (h : ∀ k, S.get k * f ≤ S'.get k) :
    t.tputAt p c S * f ≤ t.tputAt p c S' := by
  refine StatelessResrcVec.le_div_iff_forall.2 fun k =>
    (mul_le_mul_of_nonneg_right (StatelessResrcVec.div_le _ _ k) hf).trans ?_
  have hd := ht.projectedDemand_pos (p := p) c k
  rw [div_mul_eq_mul_div]
  exact div_le_div_of_nonneg_right (h k) hd.le

lemma tput_eq_of_fixed {p : Params} {t t' : Tenant} (hf : t'.fixed = t.fixed)
    (hc : t'.resrc.cacheSize = t.resrc.cacheSize) :
    t'.tput p = t.tputAt p t.resrc.cacheSize t'.resrc.stateless := by
  simp only [tput, tputAt, projectedDemand_of_fixed hf, hc]

/-- Redistribution leaves every cache size alone. -/
lemma cacheSum_doRedistribute (a : Allocator) (v : StatelessResrcVec) :
    cacheSum (doRedistribute a v).1.tenants = cacheSum a.tenants := by
  unfold doRedistribute
  split_ifs <;>
    simp [cacheSum, Function.comp_def, scaleStatelessResrc, scaleStatelessResrcByOwned]

/-! ## Redistribution after the phase -/

section redistribute

variable {a a' : Allocator} {v : StatelessResrcVec} (hph : Phased a a' v)
include hph

lemma Phased.sum_eq : a'.totalResrc.stateless - v = aggregateResrc a'.tenants := by
  rw [hph.totalResrc, ← hph.conserve, add_sub_cancel_right]

variable (hn : 2 ≤ a.tenants.length)
include hn

/-- The improvement ratio is non-negative. -/
lemma redistribute_ratio_nonneg : 0 ≤ (doRedistribute a' v).2.1 := by
  obtain ⟨k, hk⟩ := StatelessResrcVec.exists_div_eq v (a'.totalResrc.stateless - v)
  simp only [doRedistribute]
  split_ifs <;>
  · rw [hk, hph.sum_eq]
    exact div_nonneg (hph.avail_nonneg k) (hph.aggregate_pos hn k).le

/-- In conserving mode the tenants end up holding exactly the total. -/
theorem redistribute_conserving (hc : a'.policy.conserving = true) :
    aggregateResrc (doRedistribute a' v).1.tenants = a.totalResrc.stateless := by
  simp only [doRedistribute, if_pos hc]
  ext k
  have hk := (hph.aggregate_pos hn k).ne'
  rw [aggregateResrc_scaleStatelessResrcByOwned _ _ (by rwa [hph.sum_eq]), hph.sum_eq,
    ← hph.conserve, StatelessResrcVec.get_add, mul_add, mul_one, mul_div_cancel₀ _ hk]

/-- In non-conserving mode no resource exceeds its total and some resource meets it. -/
theorem redistribute_nonconserving (hc : a'.policy.conserving = false) :
    (∀ k, (aggregateResrc (doRedistribute a' v).1.tenants).get k ≤ a.totalResrc.stateless.get k) ∧
      ∃ k, (aggregateResrc (doRedistribute a' v).1.tenants).get k = a.totalResrc.stateless.get k := by
  simp only [doRedistribute, hc, Bool.false_eq_true, if_false, aggregateResrc_scaleStatelessResrc,
    hph.sum_eq]
  have htot : ∀ k, a.totalResrc.stateless.get k =
      (aggregateResrc a'.tenants).get k + v.get k := fun k => by
    rw [← hph.conserve, StatelessResrcVec.get_add]
  constructor
  · intro k
    have hk := hph.aggregate_pos hn k
    have hle := StatelessResrcVec.div_le v (aggregateResrc a'.tenants) k
    rw [le_div_iff₀ hk] at hle
    rw [htot]; linarith only [hle]
  · obtain ⟨k, hk⟩ := StatelessResrcVec.exists_div_eq v (aggregateResrc a'.tenants)
    refine ⟨k, ?_⟩
    rw [htot, hk, mul_add, mul_one, mul_div_cancel₀ _ (hph.aggregate_pos hn k).ne']

/-- Every tenant keeps its cache size and fixed fields, its stateless resources stay positive,
and its throughput grows by at least the factor `1 + improve_ratio`. -/
theorem redistribute_tenant (p : Params) {i : Nat} {t t' : Tenant} (h : a'.tenants[i]? = some t)
    (h' : (doRedistribute a' v).1.tenants[i]? = some t') :
    t'.resrc.cacheSize = t.resrc.cacheSize ∧ t'.fixed = t.fixed ∧
      (∀ k, 0 < t'.resrc.stateless.get k) ∧
      t.tput p * (1 + (doRedistribute a' v).2.1) ≤ t'.tput p := by
  have hr := redistribute_ratio_nonneg hph hn
  have ht := hph.admissible t (List.getElem?_mem h)
  have hS := hph.pos t (List.getElem?_mem h)
  -- each mode scales every dimension by at least `1 + improve_ratio`
  have key : t'.resrc.cacheSize = t.resrc.cacheSize ∧ t'.fixed = t.fixed ∧
      ∀ k, t.resrc.stateless.get k * (1 + (doRedistribute a' v).2.1) ≤
        t'.resrc.stateless.get k := by
    by_cases hc : a'.policy.conserving = true
    · simp only [doRedistribute, if_pos hc, hph.sum_eq] at h' ⊢
      rw [List.getElem?_map, h, Option.map_some', Option.some.injEq] at h'
      subst h'
      refine ⟨rfl, rfl, fun k => ?_⟩
      rw [stateless_scaleStatelessResrcByOwned_get _ _ (hph.aggregate_pos hn k).ne']
      exact mul_le_mul_of_nonneg_left (add_le_add_left (StatelessResrcVec.div_le _ _ k) 1)
        (hS k).le
    · simp only [doRedistribute, if_neg hc] at h' ⊢
      rw [List.getElem?_map, h, Option.map_some', Option.some.injEq] at h'
      subst h'
      exact ⟨rfl, rfl, fun k => by simp [scaleStatelessResrc]⟩
  obtain ⟨hc, hf, hk⟩ := key
  refine ⟨hc, hf, fun k => (mul_pos (hS k) (by linarith)).trans_le (hk k), ?_⟩
  rw [tput_eq_of_fixed hf hc]
  exact tputAt_mul_le_of_le ht _ (by linarith) hk

end redistribute

end Allocator

end Hopper
