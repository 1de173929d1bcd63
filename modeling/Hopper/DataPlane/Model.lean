import Mathlib.Logic.Function.Basic
import Mathlib.Data.List.Basic

/-!
# The data plane

One Redis instance in front of DynamoDB.  `HOPPER.GET` answers from the cache, or blocks its
client on a `TaskGet`; `HOPPER.SET` writes the cache when the key is cached (or always, with
`cache.admit_write`) and blocks its client on a `TaskSet`.  The storage worker pops the Get
and Set queues independently, issues each request to DynamoDB and, when it completes, sets the
task's status and calls `RedisModule_UnblockClient`.  Later the command thread runs the
blocked client's reply callback and frees the private data with the free callback; for a
client that has disconnected in the meantime Redis only frees the data.

`inflight_map` deduplicates concurrent misses: a miss on a key with a registered `TaskGet`
becomes one of its dependents, and a `HOPPER.SET` that writes the cache erases the entry so
that the outstanding Get does not fill the cache with the value it read before the write.

Pointers are task ids drawn from a counter, so a freed task's id is never handed out again.
Each `TaskGet` also carries two ghost fields that record which `HOPPER.SET`s ran on its key
since it began; no step reads them.
-/

namespace Hopper

namespace DataPlane

/-- `task::Task::Status`. -/
inductive Status
  | none
  | ok
  | err
  deriving DecidableEq, Repr

/-- A `task::TaskGet`. -/
structure TaskGet where
  client : Nat
  key : String
  value : String
  status : Status
  dependents : List Nat
  /-- Ghost: a `HOPPER.SET` on `key` wrote the cache after `begin_inflight`. -/
  written : Bool
  /-- Ghost: some `HOPPER.SET` on `key` ran after `begin_inflight`. -/
  setRan : Bool
  deriving DecidableEq, Repr

/-- The `TaskGet` a miss creates: status `NONE`, no value and no dependents yet. -/
def TaskGet.new (client : Nat) (key : String) : TaskGet :=
  ⟨client, key, "", .none, [], false, false⟩

/-- A `task::TaskSet`. -/
structure TaskSet where
  client : Nat
  key : String
  value : String
  status : Status
  deriving DecidableEq, Repr

/-- The private data `RedisModule_UnblockClient` hands to the callback of a blocked client. -/
inductive PrivData
  /-- The owner of a `TaskGet`, for `get::storage_callback`. -/
  | getTask (t : Nat)
  /-- The owner of a `TaskSet`, for `set::reply_callback`. -/
  | setTask (t : Nat)
  /-- A dependent, for `get::inflight_callback`: a copy of the value, or `nullptr`. -/
  | value (v : Option String)
  deriving DecidableEq, Repr

/-- A client that `RedisModule_UnblockClient` has unblocked, waiting for the command thread. -/
structure Unblocked where
  client : Nat
  data : PrivData
  deriving DecidableEq, Repr

/-- What a client is sent. -/
inductive Reply
  | value (v : String)
  | simple (s : String)
  | error (msg : String)
  deriving DecidableEq, Repr

/-- The `std::exception`s a handler can let escape: `std::invalid_argument`, `std::out_of_range`,
`std::length_error` and `std::runtime_error`. -/
inductive CxxException
  | invalidArgument
  | outOfRange
  | lengthError
  | runtimeError
  deriving DecidableEq, Repr

/-- How a command handler ends the server instead of replying: a C++ exception leaves the
module's callback, which Redis calls from C, and `std::terminate` aborts the process; or an
integer division by zero traps. -/
inductive Crash
  | uncaught (e : CxxException)
  | divByZero
  deriving DecidableEq, Repr

/-- The reply of a failed Get, to its owner and to its dependents. -/
def getErrorMsg : String := "ERR Fail to get from DynamoDB"

/-- The prefix of the reply of a failed Set. -/
def setErrorPrefix : String := "ERR Fail to set to DynamoDB: "

/-- The prefix `process_task_set` gives the value of a failed Set. -/
def writeFailurePrefix : String := "Fail to write to DynamoDB: "

/-- DynamoDB, the Redis keyspace (string values only), `inflight_map`, the live tasks by id,
the two task queues, the unblocked clients in the order they were unblocked, the clients that
have disconnected, the replies sent, and the next task id. -/
structure State where
  storage : String → Option String
  cache : String → Option String
  inflight : String → Option Nat
  gets : Nat → Option TaskGet
  sets : Nat → Option TaskSet
  getQueue : List Nat
  setQueue : List Nat
  unblocked : List Unblocked
  disconnected : List Nat
  replies : List (Nat × Reply)
  next : Nat

/-- An empty cache in front of the table `storage`. -/
def State.init (storage : String → Option String) : State :=
  ⟨storage, fun _ => none, fun _ => none, fun _ => none, fun _ => none, [], [], [], [], [], 0⟩

/-! ## The inflight registry -/

/-- `inflight::add_dependent`; `task::TaskGet::add_dependent` on a freed task is undefined,
and the model drops the client. -/
def addDependent (gets : Nat → Option TaskGet) (t c : Nat) : Nat → Option TaskGet :=
  Function.update gets t ((gets t).map fun g => { g with dependents := g.dependents ++ [c] })

theorem addDependent_apply (gets : Nat → Option TaskGet) (t c t' : Nat) :
    addDependent gets t c t' =
      (gets t').map fun g => if t' = t then { g with dependents := g.dependents ++ [c] } else g := by
  unfold addDependent
  by_cases h : t' = t
  · subst h; simp
  · simp [Function.update_noteq h, h]

/-- `inflight::end_inflight`: erase the entry of `key` if it is `t`, and say whether it was. -/
def endInflight (m : String → Option Nat) (key : String) (t : Nat) :
    (String → Option Nat) × Bool :=
  if m key = some t then (Function.update m key none, true) else (m, false)

@[simp] theorem endInflight_snd (m : String → Option Nat) (key : String) (t : Nat) :
    (endInflight m key t).2 = decide (m key = some t) := by
  unfold endInflight; split_ifs <;> simp [*]

/-- `inflight::invalidate_inflight`. -/
def invalidateInflight (m : String → Option Nat) (key : String) : String → Option Nat :=
  Function.update m key none

/-- Ghost bookkeeping of a `HOPPER.SET` on `key`: every live `TaskGet` on `key` records that
a SET ran, and whether it wrote the cache. -/
def noteSet (gets : Nat → Option TaskGet) (key : String) (wrote : Bool) :
    Nat → Option TaskGet :=
  fun t => (gets t).map fun g =>
    if g.key = key then { g with written := g.written || wrote, setRan := true } else g

/-! ## Commands -/

/-- `RedisModule_HopperGet` from client `c`: a hit replies from the cache; a miss with a
registered task becomes its dependent; otherwise a new `TaskGet` is registered with
`begin_inflight` and queued with `storage::get_async`. -/
def hopperGet (s : State) (c : Nat) (key : String) : State :=
  match s.cache key with
  | some v => { s with replies := s.replies ++ [(c, .value v)] }
  | none =>
    match s.inflight key with
    | some t => { s with gets := addDependent s.gets t c }
    | none =>
      { s with
        gets := Function.update s.gets s.next (some (TaskGet.new c key))
        inflight := Function.update s.inflight key (some s.next)
        getQueue := s.getQueue ++ [s.next]
        next := s.next + 1 }

/-- `RedisModule_HopperSet` from client `c`: the cache is written, and the inflight entry
invalidated, when the key is cached (`REDISMODULE_KEYTYPE_STRING`) or with
`cache.admit_write`; then a `TaskSet` is queued with `storage::set_async`. -/
def hopperSet (admitWrite : Bool) (s : State) (c : Nat) (key value : String) : State :=
  let wrote := (s.cache key).isSome || admitWrite
  { s with
    cache := if wrote then Function.update s.cache key (some value) else s.cache
    inflight := if wrote then invalidateInflight s.inflight key else s.inflight
    gets := noteSet s.gets key wrote
    sets := Function.update s.sets s.next (some ⟨c, key, value, .none⟩)
    setQueue := s.setQueue ++ [s.next]
    next := s.next + 1 }

/-! ## The storage worker -/

/-- `process_task_get` and its completion: the worker pops the first queued Get, DynamoDB reads
the stored value (a missing item or `ok = false` is a failure), and the completion sets the
status and unblocks the owner with the task. -/
def processTaskGet (s : State) (ok : Bool) : Option State :=
  match s.getQueue with
  | [] => none
  | t :: q =>
    (s.gets t).map fun g =>
      let g' : TaskGet := match ok, s.storage g.key with
        | true, some v => { g with status := .ok, value := v }
        | _, _ => { g with status := .err }
      { s with
        getQueue := q
        gets := Function.update s.gets t (some g')
        unblocked := s.unblocked ++ [⟨g.client, .getTask t⟩] }

/-- `process_task_set` and its completion: the worker pops the first queued Set; DynamoDB
stores the value, or fails with message `msg` and leaves the table unchanged; the completion
sets the status and unblocks the owner with the task. -/
def processTaskSet (s : State) (failure : Option String) : Option State :=
  match s.setQueue with
  | [] => none
  | t :: q =>
    (s.sets t).map fun st =>
      let s' : State := { s with
        setQueue := q
        unblocked := s.unblocked ++ [⟨st.client, .setTask t⟩] }
      match failure with
      | none =>
        { s' with
          storage := Function.update s.storage st.key (some st.value)
          sets := Function.update s.sets t (some { st with status := .ok }) }
      | some msg =>
        { s' with
          sets := Function.update s.sets t
            (some { st with status := .err, value := writeFailurePrefix ++ msg }) }

/-! ## Callbacks on the command thread -/

/-- `get::storage_callback` of the owner of `TaskGet` `t`: `end_inflight` says whether the
value may fill the cache; a failure wakes the dependents with `nullptr`, a success fills the
cache (when `end_inflight` allowed it) and wakes the dependents with a copy of the value. -/
def storageCallback (s : State) (t : Nat) (g : TaskGet) : State :=
  let updateCache := (endInflight s.inflight g.key t).2
  let s := { s with inflight := (endInflight s.inflight g.key t).1 }
  if g.status = .err then
    { s with
      replies := s.replies ++ [(g.client, .error getErrorMsg)]
      unblocked := s.unblocked ++ g.dependents.map fun c => ⟨c, .value none⟩ }
  else
    { s with
      cache := if updateCache then Function.update s.cache g.key (some g.value) else s.cache
      replies := s.replies ++ [(g.client, .value g.value)]
      unblocked := s.unblocked ++ g.dependents.map fun c => ⟨c, .value (some g.value)⟩ }

section storageCallback

variable (s : State) (t : Nat) (g : TaskGet)

@[simp] theorem storageCallback_inflight :
    (storageCallback s t g).inflight = (endInflight s.inflight g.key t).1 := by
  unfold storageCallback; split_ifs <;> rfl

@[simp] theorem storageCallback_gets : (storageCallback s t g).gets = s.gets := by
  unfold storageCallback; split_ifs <;> rfl

@[simp] theorem storageCallback_sets : (storageCallback s t g).sets = s.sets := by
  unfold storageCallback; split_ifs <;> rfl

@[simp] theorem storageCallback_next : (storageCallback s t g).next = s.next := by
  unfold storageCallback; split_ifs <;> rfl

@[simp] theorem storageCallback_disconnected :
    (storageCallback s t g).disconnected = s.disconnected := by
  unfold storageCallback; split_ifs <;> rfl

theorem storageCallback_cache : (storageCallback s t g).cache =
    if g.status = .err then s.cache
    else if (endInflight s.inflight g.key t).2 then Function.update s.cache g.key (some g.value)
    else s.cache := by
  unfold storageCallback; dsimp only; split_ifs <;> rfl

end storageCallback

/-- `get::inflight_callback` of a dependent: it replies and never touches the cache. -/
def inflightCallback (s : State) (c : Nat) : Option String → State
  | none => { s with replies := s.replies ++ [(c, .error getErrorMsg)] }
  | some v => { s with replies := s.replies ++ [(c, .value v)] }

@[simp] theorem inflightCallback_cache (s : State) (c : Nat) (v : Option String) :
    (inflightCallback s c v).cache = s.cache := by
  cases v <;> rfl

@[simp] theorem inflightCallback_disconnected (s : State) (c : Nat) (v : Option String) :
    (inflightCallback s c v).disconnected = s.disconnected := by
  cases v <;> rfl

/-- `set::reply_callback` of the owner of a `TaskSet`: a failure deletes the key from the
cache. -/
def replyCallback (s : State) (st : TaskSet) : State :=
  if st.status = .err then
    { s with
      cache := Function.update s.cache st.key none
      replies := s.replies ++ [(st.client, .error (setErrorPrefix ++ st.value))] }
  else { s with replies := s.replies ++ [(st.client, .simple "OK")] }

section replyCallback

variable (s : State) (st : TaskSet)

@[simp] theorem replyCallback_inflight : (replyCallback s st).inflight = s.inflight := by
  unfold replyCallback; split_ifs <;> rfl

@[simp] theorem replyCallback_gets : (replyCallback s st).gets = s.gets := by
  unfold replyCallback; split_ifs <;> rfl

@[simp] theorem replyCallback_sets : (replyCallback s st).sets = s.sets := by
  unfold replyCallback; split_ifs <;> rfl

@[simp] theorem replyCallback_next : (replyCallback s st).next = s.next := by
  unfold replyCallback; split_ifs <;> rfl

@[simp] theorem replyCallback_disconnected :
    (replyCallback s st).disconnected = s.disconnected := by
  unfold replyCallback; split_ifs <;> rfl

end replyCallback

/-- The command thread handles an unblocked client: Redis runs its reply callback unless the
client has disconnected, then frees the private data (`free_storage_callback_data`,
`free_reply_data`, `free_inflight_callback_data`). -/
def handleUnblocked (s : State) (u : Unblocked) : State :=
  match u.data with
  | .getTask t =>
    let s' := if u.client ∈ s.disconnected then s else
      match s.gets t with
      | some g => storageCallback s t g
      | none => s
    { s' with gets := Function.update s'.gets t none }
  | .setTask t =>
    let s' := if u.client ∈ s.disconnected then s else
      match s.sets t with
      | some st => replyCallback s st
      | none => s
    { s' with sets := Function.update s'.sets t none }
  | .value v => if u.client ∈ s.disconnected then s else inflightCallback s u.client v

@[simp] theorem handleUnblocked_disconnected (s : State) (u : Unblocked) :
    (handleUnblocked s u).disconnected = s.disconnected := by
  unfold handleUnblocked
  split <;> split_ifs <;> (try split) <;> simp

/-- Handling the owner of `TaskGet` `t` changes the cache, `inflight_map` and the replies, wakes
dependents, and frees the task. -/
theorem handleUnblocked_getTask (s : State) (c t : Nat) :
    ∃ cache inflight replies woken, handleUnblocked s ⟨c, .getTask t⟩ =
      { s with
        cache := cache, inflight := inflight, replies := replies,
        unblocked := s.unblocked ++ woken, gets := Function.update s.gets t none } ∧
      ∀ u ∈ woken, ∃ v, u.data = .value v := by
  simp only [handleUnblocked]
  split_ifs
  · exact ⟨s.cache, s.inflight, s.replies, [], by simp, by simp⟩
  · split
    · unfold storageCallback
      split_ifs <;> exact ⟨_, _, _, _, rfl, by simp⟩
    · exact ⟨s.cache, s.inflight, s.replies, [], by simp, by simp⟩

/-- Handling the owner of `TaskSet` `t` changes the cache and the replies, and frees the task. -/
theorem handleUnblocked_setTask (s : State) (c t : Nat) :
    ∃ cache replies, handleUnblocked s ⟨c, .setTask t⟩ =
      { s with cache := cache, replies := replies, sets := Function.update s.sets t none } := by
  simp only [handleUnblocked]
  split_ifs
  · exact ⟨_, _, rfl⟩
  · split
    · unfold replyCallback
      split_ifs <;> exact ⟨_, _, rfl⟩
    · exact ⟨_, _, rfl⟩

/-- Handling a dependent only replies. -/
theorem handleUnblocked_value (s : State) (c : Nat) (v : Option String) :
    ∃ replies, handleUnblocked s ⟨c, .value v⟩ = { s with replies := replies } := by
  simp only [handleUnblocked]
  split_ifs
  · exact ⟨_, rfl⟩
  · cases v <;> exact ⟨_, rfl⟩

/-! ## Runs -/

/-- The steps of the data plane. -/
inductive Action
  /-- `HOPPER.GET key` from client `c`. -/
  | get (c : Nat) (key : String)
  /-- `HOPPER.SET key value` from client `c`. -/
  | set (c : Nat) (key value : String)
  /-- The worker issues the first queued Get, which completes. -/
  | issueGet (ok : Bool)
  /-- The worker issues the first queued Set, which completes. -/
  | issueSet (failure : Option String)
  /-- The command thread handles the `i`-th unblocked client. -/
  | handle (i : Nat)
  /-- Redis evicts `key` from the cache. -/
  | evict (key : String)
  /-- Client `c` disconnects. -/
  | disconnect (c : Nat)
  deriving DecidableEq, Repr

/-- One step, `none` when it cannot be taken. -/
def step (admitWrite : Bool) (s : State) : Action → Option State
  | .get c key => if c ∈ s.disconnected then none else some (hopperGet s c key)
  | .set c key value =>
    if c ∈ s.disconnected then none else some (hopperSet admitWrite s c key value)
  | .issueGet ok => processTaskGet s ok
  | .issueSet failure => processTaskSet s failure
  | .handle i => s.unblocked[i]?.map fun u =>
      handleUnblocked { s with unblocked := s.unblocked.eraseIdx i } u
  | .evict key => some { s with cache := Function.update s.cache key none }
  | .disconnect c => some { s with disconnected := c :: s.disconnected }

/-- No step forgets a disconnected client. -/
theorem disconnected_subset_of_step {admitWrite : Bool} {s s' : State} {a : Action}
    (hs : step admitWrite s a = some s') : s.disconnected ⊆ s'.disconnected := by
  cases a with
  | get c key =>
    simp only [step] at hs; split_ifs at hs; cases hs
    unfold hopperGet; split <;> (try split) <;> exact fun _ h => h
  | set c key value =>
    simp only [step] at hs; split_ifs at hs; cases hs; exact fun _ h => h
  | issueGet ok =>
    simp only [step, processTaskGet] at hs
    split at hs
    · cases hs
    · obtain ⟨g, -, rfl⟩ := Option.map_eq_some'.1 hs; exact fun _ h => h
  | issueSet failure =>
    simp only [step, processTaskSet] at hs
    split at hs
    · cases hs
    · obtain ⟨st, -, rfl⟩ := Option.map_eq_some'.1 hs; split <;> exact fun _ h => h
  | handle i =>
    simp only [step, Option.map_eq_some'] at hs
    obtain ⟨u, -, rfl⟩ := hs
    rw [handleUnblocked_disconnected]
    exact fun _ h => h
  | evict key => cases hs; exact fun _ h => h
  | disconnect c => cases hs; exact List.subset_cons_self _ _

/-- The states reachable from an empty cache in front of `storage`. -/
inductive Reachable (admitWrite : Bool) (storage : String → Option String) : State → Prop
  | init : Reachable admitWrite storage (State.init storage)
  | step {s s' : State} {a : Action} :
      Reachable admitWrite storage s → step admitWrite s a = some s' →
        Reachable admitWrite storage s'

/-- Run a list of steps in order. -/
def run (admitWrite : Bool) : State → List Action → Option State
  | s, [] => some s
  | s, a :: as => (step admitWrite s a).bind (run admitWrite · as)

theorem Reachable.run {admitWrite : Bool} {storage : String → Option String} :
    ∀ {s s' : State} {as : List Action}, Reachable admitWrite storage s →
      DataPlane.run admitWrite s as = some s' → Reachable admitWrite storage s'
  | _, _, [], hs, h => by cases h; exact hs
  | s, _, a :: as, hs, h => by
    cases ha : DataPlane.step admitWrite s a with
    | none => simp [DataPlane.run, ha] at h
    | some s₁ =>
      simp only [DataPlane.run, ha, Option.bind_some] at h
      exact Reachable.run (hs.step ha) h

end DataPlane

end Hopper
