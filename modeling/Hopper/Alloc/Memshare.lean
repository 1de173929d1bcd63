import Hopper.Alloc.HarvestRun

/-!
# The memshare pass

`Allocator::do_memshare` moves `cache_delta` at a time from the tenant whose miss ratio
rises least to the one whose miss ratio falls most, as long as the gain exceeds the loss,
and only from donors that keep their reserved cache (`can_donate`).  It never touches the
stateless resources or the harvest offers, it keeps the sum of the cache sizes when they fit
`uint64_t`, and a tenant's cache size never drops below `min(c, reserved_cache_size)`.
-/

namespace Hopper

namespace Allocator

open Tenant

/-- What memshare never changes in a tenant: its fixed fields, resources and `net_bw`
offers. -/
structure MemshareFrame (t t' : Tenant) : Prop where
  fixed : t'.fixed = t.fixed
  stateless : t'.resrc.stateless = t.resrc.stateless
  netRelinq : t'.netDeltaRelinq = t.netDeltaRelinq
  netCompen : t'.netDeltaCompen = t.netDeltaCompen

lemma MemshareFrame.refl (t : Tenant) : MemshareFrame t t := ⟨rfl, rfl, rfl, rfl⟩

lemma MemshareFrame.trans {t t' t'' : Tenant} (h : MemshareFrame t t')
    (h' : MemshareFrame t' t'') : MemshareFrame t t'' :=
  ⟨h'.fixed.trans h.fixed, h'.stateless.trans h.stateless, h'.netRelinq.trans h.netRelinq,
    h'.netCompen.trans h.netCompen⟩

/-- What one memshare step may do to a tenant whose cache sizes fit: besides its frame, its
cache size stays at least `min(c, reserved_cache_size)`. -/
structure MemshareStep (t t' : Tenant) extends MemshareFrame t t' : Prop where
  cache : min t.resrc.cacheSize t.reservedCacheSize ≤ t'.resrc.cacheSize

lemma MemshareStep.refl (t : Tenant) : MemshareStep t t :=
  ⟨MemshareFrame.refl t, min_le_left _ _⟩

lemma MemshareStep.trans {t t' t'' : Tenant} (h : MemshareStep t t') (h' : MemshareStep t' t'') :
    MemshareStep t t'' := by
  have hres : t'.reservedCacheSize = t.reservedCacheSize := (fixed_eq_iff.1 h.fixed).2.2.2.2
  refine ⟨h.toMemshareFrame.trans h'.toMemshareFrame, ?_⟩
  have := h.cache
  have := h'.cache
  rw [hres] at this
  omega

lemma memshareStep_updateMrDelta (p : Params) (t : Tenant) : MemshareStep t (t.updateMrDelta p) :=
  ⟨⟨rfl, rfl, rfl, rfl⟩, min_le_left _ _⟩

/-- What one iteration of `do_memshare`'s loop can do: stop, leaving the offers
`update_mr_delta` stored, or move `cache_delta` to the receiver `max_element` picks from a
different tenant that can donate at a profit, and go on with the sorted donor list. -/
lemma memshareRound_cases {p : Params} {ts ts' : List Tenant} {more less : List Nat}
    {o : Option (List Nat)} (h : memshareRound p ts more less = (ts', o)) :
    (ts' = ts.map (updateMrDelta p) ∧ o = none) ∨
      ∃ d t, d ≠ memshareReceiver (ts.map (updateMrDelta p)) more ∧ ts[d]? = some t ∧
        (t.updateMrDelta p).canDonate p = true ∧
        offerOf (ts.map (updateMrDelta p)) (·.mrDecIfLessCache) d <
          offerOf (ts.map (updateMrDelta p)) (·.mrIncIfMoreCache)
            (memshareReceiver (ts.map (updateMrDelta p)) more) ∧
        ts' = ((ts.map (updateMrDelta p)).modify (receiveCache p)
          (memshareReceiver (ts.map (updateMrDelta p)) more)).modify (donateCache p) d ∧
        ∃ l, o = some l ∧ l.Perm less := by
  simp only [memshareRound] at h
  split at h
  · obtain ⟨rfl, rfl⟩ := Prod.mk.inj h
    exact .inl ⟨rfl, rfl⟩
  rename_i d hfind
  obtain ⟨hdr, hcan⟩ : d ≠ _ ∧ _ := by simpa using List.find?_some hfind
  obtain ⟨t, ht, hcD⟩ : ∃ t, ts[d]? = some t ∧ (t.updateMrDelta p).canDonate p = true := by
    cases e : ts[d]? with
    | none => simp [e] at hcan
    | some t => exact ⟨t, rfl, by simpa [e] using hcan⟩
  split_ifs at h with hprof
  · obtain ⟨rfl, rfl⟩ := Prod.mk.inj h
    exact .inr ⟨d, t, hdr, ht, hcD, hprof, rfl, _, rfl, List.perm_insertionSort _ _⟩
  · obtain ⟨rfl, rfl⟩ := Prod.mk.inj h
    exact .inl ⟨rfl, rfl⟩

/-- One iteration of `do_memshare`'s loop keeps the length and every tenant's frame. -/
theorem memshareRound_frame {p : Params} {ts ts' : List Tenant} {more less : List Nat}
    {o : Option (List Nat)} (h : memshareRound p ts more less = (ts', o)) :
    ts'.length = ts.length ∧
      ∀ (i : Nat) t t', ts[i]? = some t → ts'[i]? = some t' → MemshareFrame t t' := by
  have hmap : ∀ (i : Nat) t t', ts[i]? = some t → (ts.map (updateMrDelta p))[i]? = some t' →
      MemshareFrame t t' := fun i t t' h h' => by
    rw [List.getElem?_map, h, Option.map_some', Option.some.injEq] at h'
    subst h'; exact ⟨rfl, rfl, rfl, rfl⟩
  rcases memshareRound_cases h with ⟨rfl, -⟩ | ⟨d, -, -, -, -, -, rfl, -⟩
  · exact ⟨by simp, hmap⟩
  · refine ⟨by simp, fun i t t' h h' => ?_⟩
    rw [List.getElem?_modify, List.getElem?_modify, List.getElem?_map, h] at h'
    simp only [Option.map_eq_map, Option.map_some', Option.some.injEq] at h'
    subst h'
    split_ifs <;> exact ⟨rfl, rfl, rfl, rfl⟩

/-- The memshare loop keeps the length and every tenant's frame. -/
theorem memshareLoop_frame {p : Params} {more : List Nat} : ∀ (fuel : Nat) (ts : List Tenant)
    (less : List Nat), (memshareLoop p more fuel ts less).length = ts.length ∧
      ∀ (i : Nat) t t', ts[i]? = some t → (memshareLoop p more fuel ts less)[i]? = some t' →
        MemshareFrame t t'
  | 0, ts, _ => ⟨rfl, fun i t t' h h' => by
      obtain rfl : t = t' := Option.some.inj (h.symm.trans h'); exact MemshareFrame.refl t⟩
  | fuel + 1, ts, less => by
    rcases h : memshareRound p ts more less with ⟨ts1, o⟩
    obtain ⟨hl1, hs1⟩ := memshareRound_frame h
    simp only [memshareLoop, h]
    cases o with
    | none => exact ⟨hl1, hs1⟩
    | some l =>
      obtain ⟨hl2, hs2⟩ := memshareLoop_frame fuel ts1 l
      refine ⟨hl2.trans hl1, fun i t t' h h' => ?_⟩
      obtain ⟨t1, ht1⟩ := exists_getElem?_of_length_eq hl1 h
      exact (hs1 i t t1 h ht1).trans (hs2 i t1 t' ht1 h')

/-- One iteration of `do_memshare`'s loop on tenants whose cache sizes and reserved sizes
fit: the receiver gains `cache_delta`, the donor loses it and keeps its reserve. -/
theorem memshareRound_spec {p : Params} {ts ts' : List Tenant} {less : List Nat}
    {o : Option (List Nat)} (hn : 0 < ts.length)
    (hfit : cacheSum ts + p.cacheDelta < u64Size)
    (hres : ∀ t ∈ ts, t.reservedCacheSize ≤ cacheSum ts)
    (h : memshareRound p ts (List.range ts.length) less = (ts', o)) :
    ts'.length = ts.length ∧ cacheSum ts' = cacheSum ts ∧
      ∀ (i : Nat) t t', ts[i]? = some t → ts'[i]? = some t' → MemshareStep t t' := by
  have hsum1 : cacheSum (ts.map (updateMrDelta p)) = cacheSum ts := by
    simp only [cacheSum, List.map_map]; rfl
  have hstep1 : ∀ (i : Nat) t t', ts[i]? = some t → (ts.map (updateMrDelta p))[i]? = some t' →
      MemshareStep t t' := fun i t t' h h' => by
    rw [List.getElem?_map, h, Option.map_some', Option.some.injEq] at h'
    subst h'; exact memshareStep_updateMrDelta p t
  rcases memshareRound_cases h with ⟨rfl, -⟩ | ⟨donor, t0, hdr, ht0, hcD, -, rfl, -⟩
  · exact ⟨by simp, hsum1, hstep1⟩
  generalize hr : memshareReceiver _ (List.range ts.length) = r at hdr ⊢
  have hrlt : r < ts.length := hr ▸ List.mem_range.1 (getD_mem 0
    (maxElement_lt_length _ (List.ne_nil_of_length_pos (by simpa using hn))))
  have htD : (ts.map (updateMrDelta p))[donor]? = some (t0.updateMrDelta p) := by simp [ht0]
  have hc0 := cacheSize_le_cacheSum (List.getElem?_mem ht0)
  have hres0 := hres t0 (List.getElem?_mem ht0)
  have hdon : t0.reservedCacheSize + p.cacheDelta ≤ t0.resrc.cacheSize := by
    simpa [canDonate, updateMrDelta, addU64_of_lt (show t0.reservedCacheSize + p.cacheDelta <
      u64Size by omega)] using hcD
  have hrecv : ∀ t ∈ ts, (receiveCache p (t.updateMrDelta p)).resrc.cacheSize =
      t.resrc.cacheSize + p.cacheDelta := fun t ht => by
    have := cacheSize_le_cacheSum ht
    exact addU64_of_lt (by simp [updateMrDelta]; omega)
  have hdonate : (donateCache p (t0.updateMrDelta p)).resrc.cacheSize =
      t0.resrc.cacheSize - p.cacheDelta := subU64_of_le (by simp [updateMrDelta]; omega)
        (by simp [updateMrDelta]; omega)
  refine ⟨by simp, ?_, fun i t t' h h' => ?_⟩
  · obtain ⟨tr, htr⟩ : ∃ tr, ts[r]? = some tr := ⟨_, List.getElem?_eq_getElem hrlt⟩
    have h1 := sum_map_modify_of_getElem? (·.resrc.cacheSize) (receiveCache p)
      (show (ts.map (updateMrDelta p))[r]? = some (tr.updateMrDelta p) by simp [htr])
    have h2 := sum_map_modify_of_getElem? (·.resrc.cacheSize) (donateCache p)
      ((List.getElem?_modify_ne (receiveCache p) _ (Ne.symm hdr)).trans htD)
    simp only [hrecv tr (List.getElem?_mem htr)] at h1
    simp only [hdonate] at h2
    have := cacheSize_le_cacheSum (List.getElem?_mem htr)
    have hs := hsum1
    unfold cacheSum at hs ⊢
    simp only [updateMrDelta] at h1 h2
    omega
  · rw [List.getElem?_modify, List.getElem?_modify, List.getElem?_map, h] at h'
    simp only [Option.map_eq_map, Option.map_some', Option.some.injEq] at h'
    subst h'
    by_cases hid : donor = i
    · subst hid
      obtain rfl : t = t0 := Option.some.inj (h.symm.trans ht0)
      rw [if_pos rfl, if_neg hdr.symm]
      exact ⟨⟨rfl, rfl, rfl, rfl⟩, by rw [hdonate]; omega⟩
    · rw [if_neg hid]
      split_ifs with hir
      · subst hir
        exact ⟨⟨rfl, rfl, rfl, rfl⟩, by rw [hrecv t (List.getElem?_mem h)]; omega⟩
      · exact memshareStep_updateMrDelta p t

/-- A whole memshare loop keeps the length and the cache sum, and relates every tenant to
its final state by `MemshareStep`. -/
theorem memshareLoop_spec {p : Params} : ∀ (fuel : Nat) (ts : List Tenant) (less : List Nat),
    0 < ts.length → cacheSum ts + p.cacheDelta < u64Size →
    (∀ t ∈ ts, t.reservedCacheSize ≤ cacheSum ts) →
    (memshareLoop p (List.range ts.length) fuel ts less).length = ts.length ∧
      cacheSum (memshareLoop p (List.range ts.length) fuel ts less) = cacheSum ts ∧
      ∀ (i : Nat) t t', ts[i]? = some t →
        (memshareLoop p (List.range ts.length) fuel ts less)[i]? = some t' → MemshareStep t t'
  | 0, ts, _, _, _, _ => ⟨rfl, rfl, fun i t t' h h' => by
      obtain rfl : t = t' := Option.some.inj (h.symm.trans h'); exact MemshareStep.refl t⟩
  | fuel + 1, ts, less, hn, hfit, hres => by
    rcases h : memshareRound p ts (List.range ts.length) less with ⟨ts1, o⟩
    obtain ⟨hl1, hc1, hs1⟩ := memshareRound_spec hn hfit hres h
    simp only [memshareLoop, h]
    cases o with
    | none => exact ⟨hl1, hc1, hs1⟩
    | some l =>
      have hres1 : ∀ t ∈ ts1, t.reservedCacheSize ≤ cacheSum ts1 := fun t1 ht1 => by
        obtain ⟨i, hi⟩ := List.mem_iff_getElem?.1 ht1
        obtain ⟨t, ht⟩ := exists_getElem?_of_length_eq hl1.symm hi
        rw [(fixed_eq_iff.1 (hs1 i t t1 ht hi).fixed).2.2.2.2, hc1]
        exact hres t (List.getElem?_mem ht)
      have := memshareLoop_spec fuel ts1 l (hl1 ▸ hn) (hc1 ▸ hfit) hres1
      rw [hl1] at this
      obtain ⟨hl2, hc2, hs2⟩ := this
      refine ⟨hl2, hc2.trans hc1, fun i t t' h h' => ?_⟩
      obtain ⟨t1, ht1⟩ := exists_getElem?_of_length_eq hl1 h
      exact (hs1 i t t1 h ht1).trans (hs2 i t1 t' ht1 h')

end Allocator

end Hopper
