import Hopper.DataPlane.Model

/-!
# The inflight registry suppresses stale fills

`inflight_map` holds, for each key, the `TaskGet` whose value may still fill the cache.  Over
every run the registry agrees with the history of `HOPPER.SET`s: a live `TaskGet` is the
registered task of its key exactly when no `HOPPER.SET` on that key has written the cache
since the task began.  So `end_inflight` in the task's `storage_callback` refuses the fill
after such a SET and allows it when no SET on the key ran at all; a dependent's
`inflight_callback` never writes the cache.
-/

namespace Hopper

namespace DataPlane

/-- The part of a `TaskGet` that the registry invariant reads. -/
def TaskGet.tag (g : TaskGet) : String × Bool × Bool := (g.key, g.written, g.setRan)

/-- The registry agrees with the ghost history of every live `TaskGet`, and ids from `next` on
are free. -/
structure InflightInv (s : State) : Prop where
  fresh : ∀ t, s.next ≤ t → s.gets t = none ∧ s.sets t = none
  registered : ∀ {t g}, s.gets t = some g → (s.inflight g.key = some t ↔ g.written = false)
  setRan_of_written : ∀ {t g}, s.gets t = some g → g.written = true → g.setRan = true

theorem InflightInv.init (storage : String → Option String) : InflightInv (State.init storage) :=
  ⟨fun _ _ => ⟨rfl, rfl⟩, fun h => (nomatch h), fun h => (nomatch h)⟩

/-- Freeing task `t` keeps every other task. -/
theorem update_none_eq_some {α : Type} {f : Nat → Option α} {t t' : Nat} {a : α}
    (h : Function.update f t none t' = some a) : t' ≠ t ∧ f t' = some a := by
  by_cases ht : t' = t
  · subst ht; simp at h
  · rw [Function.update_noteq ht] at h; exact ⟨ht, h⟩

/-! ## Steps that create no task -/

section live

variable {s s' : State} (h : InflightInv s)
include h

/-- A step that creates no task keeps the invariant when every `TaskGet` it keeps alive keeps
its tag and its registration. -/
theorem InflightInv.of_live (hn : s.next ≤ s'.next)
    (hg : ∀ {t g'}, s'.gets t = some g' → ∃ g, s.gets t = some g ∧ g.tag = g'.tag ∧
      (s'.inflight g.key = some t ↔ s.inflight g.key = some t))
    (hs : ∀ {t}, s.sets t = none → s'.sets t = none) : InflightInv s' where
  fresh t ht := by
    obtain ⟨h1, h2⟩ := h.fresh t (hn.trans ht)
    refine ⟨?_, hs h2⟩
    cases hg' : s'.gets t with
    | none => rfl
    | some g' => obtain ⟨g, hg, -⟩ := hg hg'; simp [hg] at h1
  registered hg' := by
    obtain ⟨g, hg, htag, hreg⟩ := hg hg'
    simp only [TaskGet.tag, Prod.mk.injEq] at htag
    rw [← htag.1, hreg, h.registered hg, htag.2.1]
  setRan_of_written hg' hw := by
    obtain ⟨g, hg, htag, -⟩ := hg hg'
    simp only [TaskGet.tag, Prod.mk.injEq] at htag
    rw [← htag.2.2]
    exact h.setRan_of_written hg (htag.2.1 ▸ hw)

/-- A step that keeps the registry and the tags, and creates no task. -/
theorem InflightInv.frame (hn : s.next ≤ s'.next) (hi : s'.inflight = s.inflight)
    (hg : ∀ {t g'}, s'.gets t = some g' → ∃ g, s.gets t = some g ∧ g.tag = g'.tag)
    (hs : ∀ {t}, s.sets t = none → s'.sets t = none) : InflightInv s' :=
  h.of_live hn (fun hg' => (hg hg').imp fun _ ⟨hg, htag⟩ => ⟨hg, htag, by rw [hi]⟩) hs

/-- A step that changes neither the live tasks nor the registry. -/
theorem InflightInv.of_eq (hn : s'.next = s.next) (hi : s'.inflight = s.inflight)
    (hg : s'.gets = s.gets) (hs : s'.sets = s.sets) : InflightInv s' :=
  h.frame hn.ge hi (fun hg' => ⟨_, hg ▸ hg', rfl⟩) (fun h2 => hs ▸ h2)

/-- `storage_callback` of `TaskGet` `t`, followed by freeing it: `end_inflight` erases the
entry only if it is `t`, so every other live task keeps its registration. -/
theorem InflightInv.endInflight {t : Nat} {g : TaskGet} (hn : s.next ≤ s'.next) (hi : s'.inflight = (endInflight s.inflight g.key t).1)
    (hfree : ∀ {t' g'}, s'.gets t' = some g' → t' ≠ t ∧ s.gets t' = some g')
    (hs : ∀ {t}, s.sets t = none → s'.sets t = none) : InflightInv s' := by
  refine h.of_live hn (fun {t' g'} hg' => ?_) hs
  obtain ⟨hne, hg'⟩ := hfree hg'
  refine ⟨g', hg', rfl, ?_⟩
  rw [hi, DataPlane.endInflight]
  split_ifs with he
  · dsimp only
    by_cases hk : g'.key = g.key
    · rw [hk, Function.update_same, he]; simp [Ne.symm hne]
    · rw [Function.update_noteq hk]
  · exact Iff.rfl

end live

/-! ## Each step keeps the invariant -/

section steps

variable {s : State} (h : InflightInv s)
include h

/-- A miss with no registered task registers a fresh `TaskGet`; the other live tasks on the
key were all invalidated, since the key had no entry. -/
theorem InflightInv.hopperGet (c : Nat) (key : String) : InflightInv (hopperGet s c key) := by
  unfold DataPlane.hopperGet
  split
  · exact h.of_eq rfl rfl rfl rfl
  · split
    · refine h.frame le_rfl rfl (fun {t g'} hg' => ?_) id
      simp only [addDependent, Function.update_apply] at hg'
      split_ifs at hg' with ht
      · subst ht; obtain ⟨g, hg, rfl⟩ := Option.map_eq_some'.1 hg'; exact ⟨g, hg, rfl⟩
      · exact ⟨g', hg', rfl⟩
    · rename_i hi
      refine ⟨fun t ht => ?_, fun {t g} hg => ?_, fun {t g} hg => ?_⟩
      · have hne : t ≠ s.next := by simp only at ht; omega
        simpa [Function.update_noteq hne] using h.fresh t (by simp only at ht; omega)
      · simp only [Function.update_apply] at hg ⊢
        split_ifs at hg with ht
        · subst ht; cases hg; simp [TaskGet.new]
        · have hw := h.registered hg
          split_ifs with hk
          · have := hw.not.1 (by rw [hk, hi]; simp)
            simp [Ne.symm ht, this]
          · exact hw
      · simp only [Function.update_apply] at hg
        split_ifs at hg with ht
        · cases hg; simp [TaskGet.new]
        · exact h.setRan_of_written hg

/-- A SET marks every live `TaskGet` on its key; when it writes the cache it also erases the
key's entry, and then every one of them is marked `written`. -/
theorem InflightInv.hopperSet (admitWrite : Bool) (c : Nat) (key value : String) :
    InflightInv (hopperSet admitWrite s c key value) := by
  refine ⟨fun t ht => ?_, fun {t g'} hg' => ?_, fun {t g'} hg' => ?_⟩
  · have hne : t ≠ s.next := by simp only [DataPlane.hopperSet] at ht; omega
    have := h.fresh t (by simp only [DataPlane.hopperSet] at ht; omega)
    simp [DataPlane.hopperSet, noteSet, Function.update_noteq hne, this]
  · simp only [DataPlane.hopperSet, noteSet, Option.map_eq_some'] at hg' ⊢
    obtain ⟨g, hg, rfl⟩ := hg'
    have hw := h.registered hg
    by_cases hk : g.key = key
    · rw [if_pos hk]
      dsimp only
      rw [hk] at hw ⊢
      cases hwr : ((s.cache key).isSome || admitWrite)
      · simpa [hwr] using hw
      · simp [invalidateInflight]
    · rw [if_neg hk]
      split_ifs <;> simp [invalidateInflight, Function.update_noteq hk, hw]
  · simp only [DataPlane.hopperSet, noteSet, Option.map_eq_some'] at hg'
    obtain ⟨g, hg, rfl⟩ := hg'
    split_ifs
    · simp
    · exact h.setRan_of_written hg

theorem InflightInv.processTaskGet {s' : State} {ok : Bool} (hs : processTaskGet s ok = some s') :
    InflightInv s' := by
  unfold DataPlane.processTaskGet at hs
  split at hs
  · cases hs
  · rename_i t q _
    obtain ⟨g, hg, rfl⟩ := Option.map_eq_some'.1 hs
    refine h.frame le_rfl rfl (fun {t' g'} hg' => ?_) id
    simp only [Function.update_apply] at hg'
    split_ifs at hg' with ht
    · subst ht; cases hg'; exact ⟨g, hg, by split <;> rfl⟩
    · exact ⟨g', hg', rfl⟩

theorem InflightInv.processTaskSet {s' : State} {failure : Option String}
    (hs : processTaskSet s failure = some s') : InflightInv s' := by
  unfold DataPlane.processTaskSet at hs
  split at hs
  · cases hs
  · rename_i t q _
    obtain ⟨st, hst, rfl⟩ := Option.map_eq_some'.1 hs
    have hsets : ∀ (v : TaskSet) {t'}, s.sets t' = none →
        Function.update s.sets t (some v) t' = none := fun v t' h2 => by
      have ht : t' ≠ t := by rintro rfl; simp [hst] at h2
      rw [Function.update_noteq ht, h2]
    cases failure <;> exact h.frame le_rfl rfl (fun hg' => ⟨_, hg', rfl⟩) (hsets _)

theorem InflightInv.handleUnblocked (u : Unblocked) : InflightInv (handleUnblocked s u) := by
  unfold DataPlane.handleUnblocked
  split
  · rename_i t _
    have hfree : ∀ {t' g'}, Function.update s.gets t none t' = some g' →
        ∃ g, s.gets t' = some g ∧ g.tag = g'.tag := fun hg' => ⟨_, (update_none_eq_some hg').2, rfl⟩
    split_ifs
    · exact h.frame le_rfl rfl hfree id
    · split
      · rename_i g hg
        refine h.endInflight (t := t) (g := g) (by simp) (by simp) (fun hg' => ?_)
          (fun h2 => by simpa using h2)
        simpa using update_none_eq_some hg'
      · exact h.frame le_rfl rfl hfree id
  · rename_i t _
    have key : ∀ s' : State, s'.next = s.next → s'.inflight = s.inflight → s'.gets = s.gets →
        s'.sets = s.sets → InflightInv { s' with sets := Function.update s'.sets t none } :=
      fun s' hn hi hg hs => h.frame hn.ge hi (fun hg' => ⟨_, hg ▸ hg', rfl⟩) fun {t'} h2 => by
        by_cases ht : t' = t
        · subst ht; simp
        · simpa [Function.update_noteq ht, hs] using h2
    split_ifs
    · exact key s rfl rfl rfl rfl
    · split
      · exact key _ (replyCallback_next ..) (replyCallback_inflight ..) (replyCallback_gets ..)
          (replyCallback_sets ..)
      · exact key s rfl rfl rfl rfl
  · split_ifs
    · exact h
    · rename_i v _ _
      cases v <;> exact h.of_eq rfl rfl rfl rfl

/-- Every step keeps the invariant. -/
theorem InflightInv.step {admitWrite : Bool} {a : Action} {s' : State}
    (hs : step admitWrite s a = some s') : InflightInv s' := by
  cases a with
  | get c key =>
    simp only [DataPlane.step] at hs
    split_ifs at hs
    cases hs
    exact h.hopperGet c key
  | set c key value =>
    simp only [DataPlane.step] at hs
    split_ifs at hs
    cases hs
    exact h.hopperSet admitWrite c key value
  | issueGet ok => exact h.processTaskGet hs
  | issueSet failure => exact h.processTaskSet hs
  | handle i =>
    simp only [DataPlane.step, Option.map_eq_some'] at hs
    obtain ⟨u, -, rfl⟩ := hs
    have h' : InflightInv { s with unblocked := s.unblocked.eraseIdx i } := h.of_eq rfl rfl rfl rfl
    exact h'.handleUnblocked u
  | evict key => cases hs; exact h.of_eq rfl rfl rfl rfl
  | disconnect c => cases hs; exact h.of_eq rfl rfl rfl rfl

end steps

theorem Reachable.inflightInv {admitWrite : Bool} {storage : String → Option String} {s : State}
    (hr : Reachable admitWrite storage s) : InflightInv s := by
  induction hr with
  | init => exact InflightInv.init storage
  | step _ hs ih => exact ih.step hs

/-! ## Deduplication -/

/-- While `t` is registered for the uncached `key`, misses on `key` join `t` as dependents, in
order, and leave the registry, the Get queue and the task ids alone. -/
theorem hopperGet_joins (key : String) (t : Nat) :
    ∀ (cs : List Nat) (s : State) (g : TaskGet), s.cache key = none →
      s.inflight key = some t → s.gets t = some g →
      let s' := cs.foldl (fun s c => hopperGet s c key) s
      s'.inflight key = some t ∧ s'.gets t = some { g with dependents := g.dependents ++ cs } ∧
        s'.getQueue = s.getQueue ∧ s'.next = s.next
  | [], s, g, _, hi, hg => by simpa using ⟨hi, hg⟩
  | c :: cs, s, g, hc, hi, hg => by
    have h1 : hopperGet s c key = { s with gets := addDependent s.gets t c } := by
      simp [DataPlane.hopperGet, hc, hi]
    have := hopperGet_joins key t cs (hopperGet s c key)
      { g with dependents := g.dependents ++ [c] } (by rw [h1]; exact hc) (by rw [h1]; exact hi)
      (by simp [h1, addDependent, hg])
    simpa [h1] using this

/-- Misses on an uncached key with no registered task, by clients `c :: cs` with no SET on the
key and no completion between them, register and queue one `TaskGet`, owned by `c`, whose
dependents are `cs`. -/
theorem hopperGet_burst (s : State) (key : String) (c : Nat) (cs : List Nat)
    (hc : s.cache key = none) (hi : s.inflight key = none) :
    let s' := (c :: cs).foldl (fun s c => hopperGet s c key) s
    s'.inflight key = some s.next ∧
      s'.gets s.next = some { TaskGet.new c key with dependents := cs } ∧
      s'.getQueue = s.getQueue ++ [s.next] ∧ s'.next = s.next + 1 := by
  have h1 : hopperGet s c key = { s with
      gets := Function.update s.gets s.next (some (TaskGet.new c key))
      inflight := Function.update s.inflight key (some s.next)
      getQueue := s.getQueue ++ [s.next]
      next := s.next + 1 } := by
    simp [DataPlane.hopperGet, hc, hi]
  have := hopperGet_joins key s.next cs (hopperGet s c key) (TaskGet.new c key)
    (by rw [h1]; exact hc) (by simp [h1]) (by simp [h1])
  simpa [h1, TaskGet.new] using this

/-! ## Stale fills -/

/-- In a reachable state, when the command thread handles the owner of `TaskGet` `t` and the
owner is still connected, `storage_callback` does not fill the cache if a `HOPPER.SET` on the
key wrote the cache since `t` began (`end_inflight` returns false); if no `HOPPER.SET` on the
key ran at all, `end_inflight` returns true and the callback writes `t`'s value unless `t`
failed.  Handling a dependent never changes the cache. -/
theorem storageCallback_respects_sets {admitWrite : Bool} {storage : String → Option String}
    {s s' : State} {i : Nat} (hr : Reachable admitWrite storage s)
    (hs : step admitWrite s (.handle i) = some s') :
    (∀ c t g, s.unblocked[i]? = some ⟨c, .getTask t⟩ → c ∉ s.disconnected →
      s.gets t = some g →
      (g.written = true → (endInflight s.inflight g.key t).2 = false ∧ s'.cache = s.cache) ∧
      (g.setRan = false → (endInflight s.inflight g.key t).2 = true ∧
        s'.cache = if g.status = .err then s.cache
          else Function.update s.cache g.key (some g.value))) ∧
    ∀ c v, s.unblocked[i]? = some ⟨c, .value v⟩ → s'.cache = s.cache := by
  simp only [step, Option.map_eq_some'] at hs
  obtain ⟨u, hu, rfl⟩ := hs
  refine ⟨fun c t g hu' hc hg => ?_, fun c v hu' => ?_⟩
  · rw [hu'] at hu
    cases hu
    have hreg := hr.inflightInv.registered hg
    simp only [handleUnblocked, hc, if_false, hg, storageCallback_cache, endInflight_snd]
    refine ⟨fun hw => ?_, fun hran => ?_⟩
    · have : s.inflight g.key ≠ some t := by simp [hreg, hw]
      simp [this]
    · have hw : g.written = false := by
        cases hw : g.written
        · rfl
        · simp [hr.inflightInv.setRan_of_written hg hw] at hran
      simp [hreg.2 hw]
  · rw [hu'] at hu
    cases hu
    simp only [handleUnblocked]
    split_ifs <;> simp

/-- A table holding `v0` under `K`. -/
def testStorage : String → Option String := fun k => if k = "K" then some "v0" else none

theorem hopperGet_burst_three : (State.init testStorage).cache "K" = none ∧
    (State.init testStorage).inflight "K" = none ∧
    let s' := [1, 2, 3].foldl (fun s c => hopperGet s c "K") (State.init testStorage)
    s'.inflight "K" = some 0 ∧ s'.gets 0 = some { TaskGet.new 1 "K" with dependents := [2, 3] } ∧
      s'.getQueue = [0] ∧ s'.next = 1 :=
  ⟨rfl, rfl, hopperGet_burst _ "K" 1 [2, 3] rfl rfl⟩

/-- A Get miss on `K` is registered, then issued.  With no SET in between, its callback fills the
cache with the stored `v0`; with a `HOPPER.SET K v1` in between, which writes the cache since
`admit_write` is on, the callback leaves `v1` in place. -/
theorem storageCallback_respects_sets_getMiss :
    (∃ s s', Reachable true testStorage s ∧
      step true s (.handle 0) = some s' ∧ s'.cache "K" = some "v0") ∧
    ∃ s s', Reachable true testStorage s ∧
      step true s (.handle 0) = some s' ∧ s'.cache "K" = some "v1" := by
  have hr := Reachable.init.run
    (rfl : run true (State.init testStorage) [.get 1 "K", .issueGet true] = some _)
  have h := (storageCallback_respects_sets (i := 0) hr rfl).1 1 0 _ rfl (by decide) rfl
  have hrSet := Reachable.init.run
    (rfl : run true (State.init testStorage) [.get 1 "K", .set 2 "K" "v1", .issueGet true] = some _)
  have hSet := (storageCallback_respects_sets (i := 0) hrSet rfl).1 1 0 _ rfl (by decide) rfl
  refine ⟨⟨_, _, hr, rfl, ?_⟩, ⟨_, _, hrSet, rfl, ?_⟩⟩
  · rw [(h.2 rfl).2]
    decide
  · rw [(hSet.1 rfl).2]
    decide

/-- A failed Get does not fill the cache, though no SET ran. -/
theorem storageCallback_skips_fill_on_error : ∃ s s', Reachable true testStorage s ∧
    step true s (.handle 0) = some s' ∧ s.unblocked[0]? = some ⟨1, .getTask 0⟩ ∧
    (∃ g, s.gets 0 = some g ∧ g.setRan = false) ∧ s'.cache "K" = none :=
  ⟨_, _, Reachable.init.run
    (rfl : run true (State.init testStorage) [.get 1 "K", .issueGet false] = some _),
    rfl, rfl, ⟨_, rfl, rfl⟩, by decide⟩

end DataPlane

end Hopper
