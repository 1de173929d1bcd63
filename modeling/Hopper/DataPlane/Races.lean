import Hopper.DataPlane.Inflight

/-!
# Stale fills and stranded clients

Two runs show what the registry does not prevent.

A Get task reads the table when the worker issues it, and fills the cache when its callback
runs; only a `HOPPER.SET` that writes the cache in between erases its entry.  A
`HOPPER.SET` on a key that is not cached, with `cache.admit_write` off, writes neither the
cache nor the registry, so the outstanding Get fills the cache with the value the SET
replaced.  With `admit_write` on, an eviction between the SET and a later miss lets the new
Get, popped before the Set from the other queue, read the old value and fill the cache with
it.  Either way, once every task is done the cache holds a value the table no longer has.

A client that disconnects while it owns a Get task never runs `storage_callback`: Redis frees
the task, `end_inflight` is never called, and the registry keeps the freed task.  Its
dependents are never woken, and every later miss on the key joins the freed task.
-/

namespace Hopper

namespace DataPlane

/-- Every task is done: no task is queued, outstanding, or waiting for its callback. -/
def Idle (s : State) : Prop :=
  (∀ t, s.gets t = none) ∧ ∀ t, s.sets t = none

/-- The cache lacks `key` or holds its value in the table. -/
def CoherentAt (s : State) (key : String) : Prop :=
  s.cache key = none ∨ s.cache key = s.storage key

instance (s : State) (key : String) : Decidable (CoherentAt s key) :=
  inferInstanceAs (Decidable (_ ∨ _))

/-- In a reachable state all tasks are done once those below `next` are. -/
theorem InflightInv.idle {s : State} (h : InflightInv s)
    (hb : ∀ t < s.next, s.gets t = none ∧ s.sets t = none) : Idle s :=
  have all t : s.gets t = none ∧ s.sets t = none :=
    if ht : t < s.next then hb t ht else h.fresh t (Nat.le_of_not_lt ht)
  ⟨fun t => (all t).1, fun t => (all t).2⟩

/-- A Get that misses on `K`, then a SET on the uncached `K` with `admit_write` off; or, with
`admit_write` on, a SET, an eviction and a miss whose Get is popped before the Set.  After
every callback the cache holds `v0` and the table `v1`. -/
theorem stale_fill_outlives_tasks :
    (∃ s, Reachable false testStorage s ∧ Idle s ∧ ¬CoherentAt s "K") ∧
      ∃ s, Reachable true testStorage s ∧ Idle s ∧ ¬CoherentAt s "K" := by
  have ha := Reachable.init.run (rfl : run false (State.init testStorage)
    [.get 1 "K", .issueGet true, .set 2 "K" "v1", .issueSet none, .handle 0, .handle 0] =
      some _)
  have hb := Reachable.init.run (rfl : run true (State.init testStorage)
    [.set 1 "K" "v1", .evict "K", .get 2 "K", .issueGet true, .issueSet none, .handle 0,
      .handle 0] = some _)
  exact ⟨⟨_, ha, ha.inflightInv.idle (by decide), by decide⟩,
    _, hb, hb.inflightInv.idle (by decide), by decide⟩

/-- Every registered task is a live `TaskGet` for its key. -/
def RegistryValid (s : State) : Prop :=
  ∀ key t, s.inflight key = some t → ∃ g, s.gets t = some g ∧ g.key = key

/-- Client `1` misses on `K`, client `2` becomes its dependent, and client `1` disconnects
before its Get completes.  The registry keeps the freed task, and no task, unblocked client
or reply is left for client `2`. -/
theorem disconnect_strands_dependents : ∃ s, Reachable true testStorage s ∧
    ¬RegistryValid s ∧ Idle s ∧ s.unblocked = [] ∧ ∀ r ∈ s.replies, r.1 ≠ 2 := by
  have hr := Reachable.init.run (rfl : run true (State.init testStorage)
    [.get 1 "K", .get 2 "K", .disconnect 1, .issueGet true, .handle 0] = some _)
  have hidle := hr.inflightInv.idle (by decide)
  refine ⟨_, hr, fun hv => ?_, hidle, rfl, by decide⟩
  obtain ⟨g, hg, -⟩ := hv "K" 0 rfl
  cases (hidle.1 0).symm.trans hg

/-! ## The registry while no client disconnects -/

section registry

variable {s : State} (hv : RegistryValid s)
include hv

/-- A step that adds no entry to the registry and keeps every live task alive under its key. -/
theorem RegistryValid.frame {s' : State}
    (hi : ∀ {key t}, s'.inflight key = some t → s.inflight key = some t)
    (hg : ∀ {t g}, s.gets t = some g → ∃ g', s'.gets t = some g' ∧ g'.key = g.key) :
    RegistryValid s' := fun _ _ h => by
  obtain ⟨g, hg0, rfl⟩ := hv _ _ (hi h)
  exact hg hg0

/-- A step that changes neither the registry nor the live tasks. -/
theorem RegistryValid.of_eq {s' : State} (hi : s'.inflight = s.inflight) (hg : s'.gets = s.gets) :
    RegistryValid s' :=
  hv.frame (fun h => hi ▸ h) fun h => ⟨_, hg ▸ h, rfl⟩

theorem RegistryValid.hopperGet (hinv : InflightInv s) (c : Nat) (key : String) :
    RegistryValid (hopperGet s c key) := by
  unfold DataPlane.hopperGet
  split
  · exact hv
  · split
    · refine hv.frame id fun hg => ?_
      simp only [addDependent_apply, hg, Option.map_some', Option.some.injEq, exists_eq_left']
      split_ifs <;> rfl
    · intro k t h
      simp only [Function.update_apply] at h ⊢
      split_ifs at h with hk
      · cases h; simp [TaskGet.new, hk]
      · obtain ⟨g, hg, rfl⟩ := hv _ _ h
        have ht : t ≠ s.next := fun ht => by simp [ht, (hinv.fresh _ le_rfl).1] at hg
        exact ⟨g, by simp [ht, hg], rfl⟩

theorem RegistryValid.hopperSet (admitWrite : Bool) (c : Nat) (key value : String) :
    RegistryValid (hopperSet admitWrite s c key value) := by
  apply hv.frame
  · intro k t h
    simp only [DataPlane.hopperSet, invalidateInflight] at h
    split_ifs at h
    · by_cases hk : k = key
      · subst hk; rw [Function.update_same] at h; cases h
      · rwa [Function.update_noteq hk] at h
    · exact h
  · intro t g hg
    simp only [DataPlane.hopperSet, noteSet, hg, Option.map_some', Option.some.injEq,
      exists_eq_left']
    split_ifs <;> rfl

/-- `storage_callback` of a live `TaskGet` `t`, then freeing `t`: the only entry that can name
`t` is that of `t`'s key, and `end_inflight` erases it. -/
theorem RegistryValid.storageCallback {t : Nat} {g : TaskGet} (hg : s.gets t = some g) :
    RegistryValid { storageCallback s t g with
      gets := Function.update (storageCallback s t g).gets t none } := by
  intro k t' h
  simp only [storageCallback_inflight, storageCallback_gets, endInflight] at h ⊢
  have hk : s.inflight k = some t' → t' = t → k = g.key := fun h ht => by
    obtain ⟨g', hg', rfl⟩ := hv _ _ h
    rw [ht, hg] at hg'
    cases hg'
    rfl
  have hne : t' ≠ t ∧ s.inflight k = some t' := by
    split_ifs at h with he <;> dsimp only at h
    · by_cases hkg : k = g.key
      · subst hkg; rw [Function.update_same] at h; cases h
      · rw [Function.update_noteq hkg] at h
        exact ⟨fun ht => hkg (hk h ht), h⟩
    · exact ⟨fun ht => he (by rw [← hk h ht, ← ht]; exact h), h⟩
  obtain ⟨g', hg', hkey⟩ := hv _ _ hne.2
  exact ⟨g', by rw [Function.update_noteq hne.1, hg'], hkey⟩

/-- Handling an unblocked client of a connected state keeps the registry valid. -/
theorem RegistryValid.handleUnblocked (hd : s.disconnected = []) (u : Unblocked) :
    RegistryValid (handleUnblocked s u) := by
  have hc : u.client ∉ s.disconnected := by simp [hd]
  unfold DataPlane.handleUnblocked
  split
  · rename_i t _
    rw [if_neg hc]
    split
    · rename_i g hg
      exact hv.storageCallback hg
    · rename_i hg
      exact hv.of_eq rfl (by simp [hg])
  · rw [if_neg hc]
    split <;> exact hv.of_eq (by simp) (by simp)
  · rw [if_neg hc]
    exact hv.of_eq (by rename_i v _; cases v <;> rfl) (by rename_i v _; cases v <;> rfl)

end registry

/-- While no client has disconnected, the registry maps every key to a live `TaskGet` for that
key. -/
theorem registryValid_of_no_disconnect {admitWrite : Bool} {storage : String → Option String}
    {s : State} (hr : Reachable admitWrite storage s) (hd : s.disconnected = []) :
    RegistryValid s := by
  induction hr with
  | init => intro k t h; cases h
  | @step s s' a hr hs ih =>
    have hd0 : s.disconnected = [] := List.subset_nil.1 (hd ▸ disconnected_subset_of_step hs)
    have hv := ih hd0
    cases a with
    | get c key =>
      simp only [step] at hs; split_ifs at hs; cases hs
      exact hv.hopperGet hr.inflightInv c key
    | set c key value =>
      simp only [step] at hs; split_ifs at hs; cases hs
      exact hv.hopperSet admitWrite c key value
    | issueGet ok =>
      simp only [step, processTaskGet] at hs
      split at hs
      · cases hs
      · obtain ⟨g, hg, rfl⟩ := Option.map_eq_some'.1 hs
        refine hv.frame id fun {t' g'} hg' => ?_
        simp only [Function.update_apply]
        split_ifs with ht
        · subst ht; rw [hg] at hg'; cases hg'; exact ⟨_, rfl, by split <;> rfl⟩
        · exact ⟨g', hg', rfl⟩
    | issueSet failure =>
      simp only [step, processTaskSet] at hs
      split at hs
      · cases hs
      · obtain ⟨st, -, rfl⟩ := Option.map_eq_some'.1 hs
        split <;> exact hv.of_eq rfl rfl
    | handle i =>
      simp only [step, Option.map_eq_some'] at hs
      obtain ⟨u, -, rfl⟩ := hs
      have hv' : RegistryValid { s with unblocked := s.unblocked.eraseIdx i } := hv.of_eq rfl rfl
      exact hv'.handleUnblocked hd0 u
    | evict key => cases hs; exact hv.of_eq rfl rfl
    | disconnect c => cases hs; cases hd

theorem registryValid_of_no_disconnect_getMiss : ∃ s, Reachable true testStorage s ∧
    s.disconnected = [] ∧ RegistryValid s := by
  have hr := Reachable.init.run
    (rfl : run true (State.init testStorage) [.get 1 "K", .get 2 "K"] = some _)
  exact ⟨_, hr, rfl, registryValid_of_no_disconnect hr rfl⟩

end DataPlane

end Hopper
