import Hopper.Alloc.Allocator

/-!
# Choosing the trading partners

Facts about the position helpers of `do_harvest`: `std::max_element` and
`std::min_element` return a position inside a non-empty list, `std::iter_swap` permutes the
list, and so `pickDeal` on the relinquisher list `0, …, n-1` and any permutation of it as
compensator list returns two *different* tenant indices below `n` and a compensator list
that is again a permutation.
-/

namespace Hopper

variable {α : Type}

lemma maxElementAux_lt (comp : α → α → Bool) (l : List α) :
    ∀ (best : α) (bestPos pos : Nat), bestPos < pos →
      maxElementAux comp best bestPos pos l < pos + l.length := by
  induction l with
  | nil => intro _ _ _ h; simpa using h
  | cons a l ih =>
    intro best bestPos pos h
    simp only [maxElementAux, List.length_cons]
    split
    · have := ih a pos (pos + 1) (by omega); omega
    · have := ih best bestPos (pos + 1) (by omega); omega

lemma maxElement_lt_length (comp : α → α → Bool) {l : List α} (h : l ≠ []) :
    maxElement comp l < l.length := by
  cases l with
  | nil => exact absurd rfl h
  | cons a l => simpa [maxElement, Nat.add_comm] using maxElementAux_lt comp l a 0 1 one_pos

lemma minElementAux_lt (comp : α → α → Bool) (l : List α) :
    ∀ (best : α) (bestPos pos : Nat), bestPos < pos →
      minElementAux comp best bestPos pos l < pos + l.length := by
  induction l with
  | nil => intro _ _ _ h; simpa using h
  | cons a l ih =>
    intro best bestPos pos h
    simp only [minElementAux, List.length_cons]
    split
    · have := ih a pos (pos + 1) (by omega); omega
    · have := ih best bestPos (pos + 1) (by omega); omega

lemma minElement_lt_length (comp : α → α → Bool) {l : List α} (h : l ≠ []) :
    minElement comp l < l.length := by
  cases l with
  | nil => exact absurd rfl h
  | cons a l => simpa [minElement, Nat.add_comm] using minElementAux_lt comp l a 0 1 one_pos

/-- Overwriting position `i` with `b` and putting back the old element is a permutation. -/
lemma cons_perm_cons_set {l : List α} {i : Nat} (hi : i < l.length) (b : α) :
    (b :: l).Perm (l[i] :: l.set i b) := by
  rw [List.set_eq_take_append_cons_drop, if_pos hi]
  conv_lhs => rw [← List.take_append_drop i l, List.drop_eq_getElem_cons hi]
  exact (List.perm_middle.cons b).trans ((List.Perm.swap _ _ _).trans (List.perm_middle.symm.cons _))

/-- `std::iter_swap` permutes the list. -/
lemma iterSwap_perm (l : List α) (i j : Nat) : (iterSwap l i j).Perm l := by
  unfold iterSwap
  split
  · rename_i a b ha hb
    obtain ⟨hi, rfl⟩ := List.getElem?_eq_some_iff.1 ha
    obtain ⟨hj, rfl⟩ := List.getElem?_eq_some_iff.1 hb
    have hj' : j < (l.set i l[j]).length := by simpa using hj
    have h1 := cons_perm_cons_set hi l[j]
    have h2 := cons_perm_cons_set hj' l[i]
    have e : (l.set i l[j])[j] = l[j] := by
      rw [List.getElem_set]; split <;> simp_all
    rw [e] at h2
    exact (List.Perm.cons_inv (h1.trans h2)).symm
  · exact List.Perm.refl l

lemma getElem?_iterSwap_right {l : List α} {i j : Nat} (hi : i < l.length) (hj : j < l.length) :
    (iterSwap l i j)[j]? = l[i]? := by
  simp only [iterSwap, List.getElem?_eq_getElem hi, List.getElem?_eq_getElem hj]
  rw [List.getElem?_set_self (by simpa using hj)]

/-- Two lists of one length have an element at the same positions. -/
lemma exists_getElem?_of_length_eq {β : Type} {l : List α} {l' : List β}
    (hl : l'.length = l.length) {i : Nat} {a : α} (h : l[i]? = some a) : ∃ b, l'[i]? = some b :=
  ⟨_, List.getElem?_eq_getElem (hl ▸ (List.getElem?_eq_some_iff.1 h).1)⟩

/-- Sums over two lists of one length agree when their summands agree position by position. -/
lemma sum_map_eq_of_getElem? {β M : Type} [AddMonoid M] {l : List α} {l' : List β} {f : β → M}
    {g : α → M} (hl : l'.length = l.length)
    (hs : ∀ (i : Nat) a b, l[i]? = some a → l'[i]? = some b → f b = g a) :
    (l'.map f).sum = (l.map g).sum := by
  congr 1
  refine List.ext_getElem? fun i => ?_
  simp only [List.getElem?_map]
  cases h : l[i]? with
  | none => rw [List.getElem?_eq_none_iff.2 (hl ▸ List.getElem?_eq_none_iff.1 h)]; rfl
  | some a =>
    obtain ⟨b, h'⟩ := exists_getElem?_of_length_eq hl h
    rw [h', Option.map_some', Option.map_some', hs i a b h h']

namespace Allocator

/-- On the full relinquisher list `0, …, n-1` and a permutation of it as compensator list,
`pickDeal` picks two different tenants below `n` and leaves a permutation behind. -/
theorem pickDeal_spec (ts : List Tenant) (relinq compen : Tenant → ℚ) {n : Nat}
    {rl l : List Nat} (hn : 2 ≤ n) (hrl : rl = List.range n) (hl : l.Perm (List.range n)) :
    (pickDeal ts relinq compen rl l).1 < n ∧ (pickDeal ts relinq compen rl l).2.1 < n ∧
      (pickDeal ts relinq compen rl l).1 ≠ (pickDeal ts relinq compen rl l).2.1 ∧
      (pickDeal ts relinq compen rl l).2.2.Perm (List.range n) := by
  subst hrl
  have hlen : l.length = n := by simpa using hl.length_eq
  have hne : ∀ {m : List Nat}, m.length = n → m ≠ [] := fun h e => by subst e; simp at h; omega
  have hlt : ∀ {m : List Nat}, m.Perm (List.range n) → ∀ x ∈ m, x < n :=
    fun h x hx => List.mem_range.1 (h.subset hx)
  simp only [pickDeal]
  generalize hc : minElement _ l = itC
  generalize hR : (List.range n).getD (maxElement _ (List.range n)) 0 = r
  have hitC : itC < n := hc ▸ hlen ▸ minElement_lt_length _ (hne hlen)
  have hr : r < n := hR ▸ hlt (List.Perm.refl _) _
    (getD_mem 0 (maxElement_lt_length _ (hne (List.length_range n))))
  by_cases heq : r = l.getD itC 0
  · rw [if_pos heq]
    have hs := (iterSwap_perm l itC 0).trans hl
    have hslen : (iterSwap l itC 0).length = n := by simpa using hs.length_eq
    generalize hm : minElement _ ((iterSwap l itC 0).drop 1) = m
    have hm1 : m + 1 < n := by
      have := hm ▸ minElement_lt_length _ (by rw [← List.length_pos, List.length_drop]; omega)
      simp only [List.length_drop, hslen] at this; omega
    refine ⟨hr, hlt hs _ (getD_mem 0 (by omega)), ?_, hs⟩
    have h0 : (iterSwap l itC 0)[0]? = some r := by
      rw [getElem?_iterSwap_right (by omega) (by omega), heq, List.getD_eq_getElem _ _ (by omega),
        List.getElem?_eq_getElem]
    rw [List.getD_eq_getElem _ _ (by omega)]
    rw [List.getElem?_eq_getElem (by omega)] at h0
    intro e
    have := (hs.nodup_iff.2 (List.nodup_range n)).getElem_inj_iff.1 ((Option.some.inj h0).trans e)
    omega
  · rw [if_neg heq]
    exact ⟨hr, hlt hl _ (getD_mem 0 (hlen ▸ hitC)), heq, hl⟩

end Allocator

end Hopper
