import Hopper.DataPlane.Load

/-!
# Throttling against statistics

Every data-plane path charges a rate limiter and adds to `stats::resrc_stats`.  The command
thread passes each handler's traffic to `network::consume` and adds it to `net_bw_consump`.  A
Get that misses is charged to `rcu_rate_limiter` in two parts — one unit prepaid by the storage
thread after `process_task_get`, and `rcu_cost() − 1` by the request's completion — and its
`storage_callback` adds `kv_to_rcu` to `db_rcu_consump`.  A Set adds `kv_to_wcu` to
`db_wcu_consump` in `HOPPER.SET` and is charged `wcu_cost()` by the storage thread after
`process_task_set`.

The storage thread is finer here than in `Model.lean`.  Its loop body is split at the two
charges: after `process_task_get(t)` it stands before the prepaid unit, after
`process_task_set(t)` before `t->wcu_cost()`, and other threads move in between.  DynamoDB
answers outstanding requests in any order, on its own threads; with `dynamo.mock` the storage
thread answers `mock_dynamo_queue` itself, in order.  The command-thread steps are
`Model.lean`'s functions, with what each adds to the `Ledger`, plus `HOPPER.SETC` and
`HOPPER.LOAD`, which charge nothing.

`AcctInv` holds in every reachable state: the network limiter is charged exactly what the
statistics count, and every Get is charged, prepaid unit included, `1 + (rcu_cost() − 1)` for
the sizes its completion saw, which its `storage_callback` records as `kv_to_rcu`.  With
`dynamo.mock`, every Set is charged the `wcu_cost()` of what `HOPPER.SET` recorded.  Against
real DynamoDB the storage thread reads `t` after handing it over: the put's failure callback
may already have replaced the value by the error text, and the command thread may already have
freed `t` (`set_charge_races`).

`config::policy::alloc_total_net_bw` is `true` (a `constexpr`).  The counters are unbounded:
the `uint64_t` ones would need `2^64` units of traffic to wrap.
-/

namespace Hopper

namespace DataPlane

/-! ## Charges -/

/-- `std::string::size()`: the length in bytes. -/
def byteSize (s : String) : Nat := s.utf8ByteSize

/-- `utils::resrc::kv_to_rcu`: one read unit per started 4 KiB. -/
def kvToRcu (keySize valSize : Nat) : Nat := (keySize + valSize) / 4096 + 1

/-- `utils::resrc::kv_to_wcu`: one write unit per started 1 KiB. -/
def kvToWcu (keySize valSize : Nat) : Nat := (keySize + valSize) / 1024 + 1

/-- `utils::resrc::kv_to_net_get_client`. -/
def kvToNetGetClient (keySize valSize : Nat) : Nat := keySize + valSize

/-- `utils::resrc::kv_to_net_get_storage`. -/
def kvToNetGetStorage (keySize valSize : Nat) : Nat := keySize + valSize

/-- `utils::resrc::kv_to_net_set_client`. -/
def kvToNetSetClient (keySize valSize : Nat) : Nat := keySize + valSize

/-- `utils::resrc::kv_to_net_set_storage`. -/
def kvToNetSetStorage (keySize valSize : Nat) : Nat := keySize + valSize

/-- `t->rcu_cost() - 1` in a Get's completion: `rcu_cost()` returns `uint32_t`, and so does the
subtraction. -/
def rcuCostMinusOne (keySize valSize : Nat) : Nat :=
  (kvToRcu keySize valSize % u32Size + u32Size - 1) % u32Size

/-- `TaskSet::wcu_cost()`, which returns `uint32_t`. -/
def TaskSet.wcuCost (st : TaskSet) : Nat := kvToWcu (byteSize st.key) (byteSize st.value) % u32Size

/-- Below `2^32` units, the prepaid unit and `rcu_cost() − 1` make up `kv_to_rcu`. -/
lemma one_add_rcuCostMinusOne {keySize valSize : Nat} (h : kvToRcu keySize valSize < u32Size) :
    1 + rcuCostMinusOne keySize valSize = kvToRcu keySize valSize := by
  have h1 : 1 ≤ kvToRcu keySize valSize := Nat.le_add_left 1 _
  unfold rcuCostMinusOne
  rw [Nat.mod_eq_of_lt h, show kvToRcu keySize valSize + u32Size - 1 =
    kvToRcu keySize valSize - 1 + u32Size by omega, Nat.add_mod_right, Nat.mod_eq_of_lt (by omega)]
  omega

/-! ## The ledger -/

/-- How far the request of a `TaskGet` has come: queued, issued by the storage thread, or
answered, with the key and value sizes of a success. -/
inductive GetFate
  | queued
  | issued
  | ok (keySize valSize : Nat)
  | err
  deriving DecidableEq, Repr

/-- What `rcu_rate_limiter` is charged for a Get once the storage thread has prepaid it: one
unit from its issue on, and `rcu_cost() − 1` more after a success. -/
def GetFate.charge : GetFate → Nat
  | .queued => 0
  | .issued => 1
  | .ok k v => 1 + rcuCostMinusOne k v
  | .err => 1

/-- The counters the accounting compares: `resrc_stats.net_bw_consump` and what `network::consume`
was passed; per task, what `rcu_rate_limiter` and `wcu_rate_limiter` were charged for it and what
its `record_get_done` or `record_set_done` added to `db_rcu_consump` or `db_wcu_consump`.  Ghost:
the fate of each `TaskGet` and whether each `TaskSet` was issued. -/
structure Ledger where
  statsNet : Nat
  netConsumed : Nat
  rcuCharged : Nat → Nat
  rcuRecorded : Nat → Nat
  wcuCharged : Nat → Nat
  wcuRecorded : Nat → Nat
  fate : Nat → GetFate
  setIssued : Nat → Bool

namespace Ledger

/-- Nothing charged or recorded. -/
def init : Ledger := ⟨0, 0, fun _ => 0, fun _ => 0, fun _ => 0, fun _ => 0, fun _ => .queued,
  fun _ => false⟩

variable (L : Ledger)

/-- `network::consume(amount)`. -/
def consumeNet (amount : Nat) : Ledger := { L with netConsumed := L.netConsumed + amount }

/-- `rcu_rate_limiter.consume(amount)` for `TaskGet` `t`. -/
def chargeRcu (t amount : Nat) : Ledger :=
  { L with rcuCharged := Function.update L.rcuCharged t (L.rcuCharged t + amount) }

/-- `wcu_rate_limiter.consume(amount)` for `TaskSet` `t`. -/
def chargeWcu (t amount : Nat) : Ledger :=
  { L with wcuCharged := Function.update L.wcuCharged t (L.wcuCharged t + amount) }

/-- `stats::record_get_done(key_size, val_size, is_miss)`, on the counters compared here: the
client traffic, and for a miss (the owner of `TaskGet` `t`) the storage traffic and `kv_to_rcu`
in `db_rcu_consump`. -/
def recordGetDone (keySize valSize : Nat) (miss : Option Nat) : Ledger :=
  { L with
    statsNet := L.statsNet + kvToNetGetClient keySize valSize +
      (if miss.isSome then kvToNetGetStorage keySize valSize else 0)
    rcuRecorded := match miss with
      | some t => Function.update L.rcuRecorded t (L.rcuRecorded t + kvToRcu keySize valSize)
      | none => L.rcuRecorded }

/-- `stats::record_set_done(key_size, val_size)` for `TaskSet` `t`. -/
def recordSetDone (t keySize valSize : Nat) : Ledger :=
  { L with
    statsNet := L.statsNet + kvToNetSetClient keySize valSize + kvToNetSetStorage keySize valSize
    wcuRecorded := Function.update L.wcuRecorded t (L.wcuRecorded t + kvToWcu keySize valSize) }

@[simp] lemma consumeNet_netConsumed (a : Nat) : (L.consumeNet a).netConsumed = L.netConsumed + a :=
  rfl

@[simp] lemma consumeNet_statsNet (a : Nat) : (L.consumeNet a).statsNet = L.statsNet := rfl

@[simp] lemma recordGetDone_netConsumed (k v : Nat) (miss : Option Nat) :
    (L.recordGetDone k v miss).netConsumed = L.netConsumed := rfl

@[simp] lemma recordGetDone_statsNet (k v : Nat) (miss : Option Nat) :
    (L.recordGetDone k v miss).statsNet = L.statsNet + kvToNetGetClient k v +
      (if miss.isSome then kvToNetGetStorage k v else 0) := rfl

@[simp] lemma recordSetDone_netConsumed (t k v : Nat) :
    (L.recordSetDone t k v).netConsumed = L.netConsumed := rfl

@[simp] lemma recordSetDone_statsNet (t k v : Nat) :
    (L.recordSetDone t k v).statsNet = L.statsNet + kvToNetSetClient k v + kvToNetSetStorage k v :=
  rfl

end Ledger

/-! ## The data plane with its charges -/

/-- Where the storage thread stands in `storage_thread_main`: between steps of its loop, just
after `process_task_get(t)` (before the prepaid `rcu_rate_limiter.consume(1)`), or just after
`process_task_set(t)` (before `wcu_rate_limiter.consume(t->wcu_cost())`). -/
inductive Pc
  | idle
  | prepay (t : Nat)
  | charge (t : Nat)
  deriving DecidableEq, Repr

/-- A request handed to storage, by task id. -/
inductive Req
  | get (t : Nat)
  | set (t : Nat)
  deriving DecidableEq, Repr

/-- `Model.lean`'s state, the `argv[1]` of each blocked client's command, the storage thread's
position, the requests DynamoDB has not answered, `mock_dynamo_queue`, the ledger, and whether
the storage thread has read a freed `TaskSet`. -/
structure AState where
  base : State
  argv : Nat → Option String
  pc : Pc
  outstanding : List Req
  mockQueue : List Req
  ledger : Ledger
  useAfterFree : Bool

/-- An empty cache in front of the table `storage`, with nothing charged. -/
def AState.init (storage : String → Option String) : AState :=
  ⟨State.init storage, fun _ => none, .idle, [], [], Ledger.init, false⟩

/-! ### The command thread -/

/-- `RedisModule_HopperGet`: a hit replies and charges the client traffic (`record_get_done`
with `is_miss = false`, then `network::consume`); a miss blocks the client, whose `argv[1]` is
the key. -/
def getAcct (s : AState) (c : Nat) (key : String) : AState :=
  match s.base.cache key with
  | some v =>
    { s with
      base := hopperGet s.base c key
      ledger := (s.ledger.recordGetDone (byteSize key) (byteSize v) none).consumeNet
        (kvToNetGetClient (byteSize key) (byteSize v)) }
  | none => { s with base := hopperGet s.base c key, argv := Function.update s.argv c (some key) }

/-- `RedisModule_HopperSet`: `record_set_done` for the new `TaskSet`, then `network::consume` of
the client and storage traffic. -/
def setAcct (admitWrite : Bool) (s : AState) (c : Nat) (key value : String) : AState :=
  { s with
    base := hopperSet admitWrite s.base c key value
    ledger := (s.ledger.recordSetDone s.base.next (byteSize key) (byteSize value)).consumeNet
      (kvToNetSetClient (byteSize key) (byteSize value) +
        kvToNetSetStorage (byteSize key) (byteSize value)) }

/-- `RedisModule_HopperSetC`: writes the cache and replies `OK`; it charges nothing. -/
def setCAcct (s : AState) (c : Nat) (key value : String) : AState :=
  { s with
    base := { s.base with
      cache := Function.update s.base.cache key (some value)
      replies := s.base.replies ++ [(c, .simple "OK")] } }

/-- `RedisModule_HopperLoad` of `file` into the cache; it charges nothing.  A crash ends the
server, so no step follows it. -/
def loadAcct (s : AState) (c : Nat) (file : Option (List Char)) : Option AState :=
  match hopperLoad file ⟨fun k => (s.base.cache k).map .string, []⟩ with
  | .error _ => none
  | .ok (r, st) => some { s with
      base := { s.base with
        cache := fun k => match st.keyspace k with
          | some (.string v) => some v
          | _ => none
        replies := s.base.replies ++ [(c, r)] } }

/-- What the callback of an unblocked client adds to the ledger: `storage_callback` of a Get
that did not fail records a miss and sends the value with its storage traffic;
`inflight_callback` with a value records the dependent's `argv[1]` and the value; a failed Get,
a dependent woken with `nullptr`, `reply_callback` and a disconnected client add nothing. -/
def handleCharge (s : AState) (u : Unblocked) : Ledger :=
  if u.client ∈ s.base.disconnected then s.ledger
  else match u.data with
    | .getTask t =>
      match s.base.gets t with
      | some g =>
        if g.status = .err then s.ledger
        else (s.ledger.recordGetDone (byteSize g.key) (byteSize g.value) (some t)).consumeNet
          (kvToNetGetClient (byteSize g.key) (byteSize g.value) +
            kvToNetGetStorage (byteSize g.key) (byteSize g.value))
      | none => s.ledger
    | .setTask _ => s.ledger
    | .value none => s.ledger
    | .value (some v) =>
      let k := byteSize ((s.argv u.client).getD "")
      (s.ledger.recordGetDone k (byteSize v) none).consumeNet (kvToNetGetClient k (byteSize v))

/-- The command thread handles the `i`-th unblocked client. -/
def handleAcct (s : AState) (i : Nat) : Option AState :=
  s.base.unblocked[i]?.map fun u =>
    let s1 := { s with base := { s.base with unblocked := s.base.unblocked.eraseIdx i } }
    { s1 with base := handleUnblocked s1.base u, ledger := handleCharge s1 u }

/-! ### The storage thread and DynamoDB -/

/-- `task_get_queue.pop()` and `process_task_get(t)`: with `dynamo.mock` the task joins
`mock_dynamo_queue`, otherwise its Get goes to DynamoDB. -/
def issueGet (mock : Bool) (s : AState) : Option AState :=
  match s.pc, s.base.getQueue with
  | .idle, t :: q => some { s with
      base := { s.base with getQueue := q }
      pc := .prepay t
      outstanding := if mock then s.outstanding else s.outstanding ++ [.get t]
      mockQueue := if mock then s.mockQueue ++ [.get t] else s.mockQueue
      ledger := { s.ledger with fate := Function.update s.ledger.fate t .issued } }
  | _, _ => none

/-- The prepaid `rcu_rate_limiter.consume(1)`. -/
def prepay (s : AState) : Option AState :=
  match s.pc with
  | .prepay t => some { s with pc := .idle, ledger := s.ledger.chargeRcu t 1 }
  | _ => none

/-- `task_set_queue.pop()` and `process_task_set(t)`. -/
def issueSet (mock : Bool) (s : AState) : Option AState :=
  match s.pc, s.base.setQueue with
  | .idle, t :: q => some { s with
      base := { s.base with setQueue := q }
      pc := .charge t
      outstanding := if mock then s.outstanding else s.outstanding ++ [.set t]
      mockQueue := if mock then s.mockQueue ++ [.set t] else s.mockQueue
      ledger := { s.ledger with setIssued := Function.update s.ledger.setIssued t true } }
  | _, _ => none

/-- `wcu_rate_limiter.consume(t->wcu_cost())`: it reads the task as it is now, and a task
already freed is a use after free. -/
def chargeSet (s : AState) : Option AState :=
  match s.pc with
  | .charge t => some (match s.base.sets t with
      | some st => { s with pc := .idle, ledger := s.ledger.chargeWcu t st.wcuCost }
      | none => { s with pc := .idle, useAfterFree := true })
  | _ => none

/-- The completion of `TaskGet` `t`, by DynamoDB or `process_mock_dynamo`: with a value the
status is `OK` and `rcu_cost() − 1` is charged, without one it is `ERR`; then
`RedisModule_UnblockClient`. -/
def completeGet (s : AState) (t : Nat) (value : Option String) : Option AState :=
  (s.base.gets t).map fun g =>
    { s with
      base := { s.base with
        gets := Function.update s.base.gets t (some (match value with
          | some v => { g with status := .ok, value := v }
          | none => { g with status := .err }))
        unblocked := s.base.unblocked ++ [⟨g.client, .getTask t⟩] }
      ledger := match value with
        | some v =>
          { s.ledger.chargeRcu t (rcuCostMinusOne (byteSize g.key) (byteSize v)) with
            fate := Function.update s.ledger.fate t (.ok (byteSize g.key) (byteSize v)) }
        | none => { s.ledger with fate := Function.update s.ledger.fate t .err } }

/-- The completion of `TaskSet` `t`: DynamoDB stores the value (`store`), or fails with `msg`
and the task's value becomes the error text; `process_mock_dynamo` succeeds without writing the
table. -/
def completeSet (s : AState) (t : Nat) (failure : Option String) (store : Bool) :
    Option AState :=
  (s.base.sets t).map fun st =>
    { s with
      base := { s.base with
        storage := if store && failure.isNone then
          Function.update s.base.storage st.key (some st.value) else s.base.storage
        sets := Function.update s.base.sets t (some (match failure with
          | none => { st with status := .ok }
          | some msg => { st with status := .err, value := writeFailurePrefix ++ msg }))
        unblocked := s.base.unblocked ++ [⟨st.client, .setTask t⟩] } }

/-- The steps of the data plane with its charges. -/
inductive AAction
  /-- `HOPPER.GET key` from client `c`. -/
  | get (c : Nat) (key : String)
  /-- `HOPPER.SET key value` from client `c`. -/
  | set (c : Nat) (key value : String)
  /-- `HOPPER.SETC key value` from client `c`. -/
  | setC (c : Nat) (key value : String)
  /-- `HOPPER.LOAD` of a file from client `c`. -/
  | load (c : Nat) (file : Option (List Char))
  /-- The command thread handles the `i`-th unblocked client. -/
  | handle (i : Nat)
  /-- Redis evicts `key` from the cache. -/
  | evict (key : String)
  /-- Client `c` disconnects. -/
  | disconnect (c : Nat)
  /-- The storage thread pops and issues a Get. -/
  | issueGet
  /-- The storage thread prepays the Get it issued. -/
  | prepay
  /-- The storage thread pops and issues a Set. -/
  | issueSet
  /-- The storage thread charges the Set it issued. -/
  | charge
  /-- `process_mock_dynamo` answers the front of `mock_dynamo_queue`; a Get gets `value`. -/
  | mockDone (value : Option String)
  /-- DynamoDB answers the `i`-th outstanding request, a Get; it fails unless `ok`. -/
  | dynamoGet (i : Nat) (ok : Bool)
  /-- DynamoDB answers the `i`-th outstanding request, a Set. -/
  | dynamoSet (i : Nat) (failure : Option String)

/-- One step, `none` when it cannot be taken. -/
def astep (admitWrite mock : Bool) (s : AState) : AAction → Option AState
  | .get c key => if c ∈ s.base.disconnected then none else some (getAcct s c key)
  | .set c key value =>
    if c ∈ s.base.disconnected then none else some (setAcct admitWrite s c key value)
  | .setC c key value => if c ∈ s.base.disconnected then none else some (setCAcct s c key value)
  | .load c file => if c ∈ s.base.disconnected then none else loadAcct s c file
  | .handle i => handleAcct s i
  | .evict key =>
    some { s with base := { s.base with cache := Function.update s.base.cache key none } }
  | .disconnect c =>
    some { s with base := { s.base with disconnected := c :: s.base.disconnected } }
  | .issueGet => issueGet mock s
  | .prepay => prepay s
  | .issueSet => issueSet mock s
  | .charge => chargeSet s
  | .mockDone value =>
    if s.pc ≠ .idle then none
    else match s.mockQueue with
      | .get t :: q => completeGet { s with mockQueue := q } t value
      | .set t :: q => completeSet { s with mockQueue := q } t none false
      | [] => none
  | .dynamoGet i ok =>
    match s.outstanding[i]? with
    | some (.get t) => (s.base.gets t).bind fun g =>
      completeGet { s with outstanding := s.outstanding.eraseIdx i } t
        (if ok then s.base.storage g.key else none)
    | _ => none
  | .dynamoSet i failure =>
    match s.outstanding[i]? with
    | some (.set t) => completeSet { s with outstanding := s.outstanding.eraseIdx i } t failure true
    | _ => none

/-- The states reachable from an empty cache in front of `storage`. -/
inductive AReachable (admitWrite mock : Bool) (storage : String → Option String) : AState → Prop
  | init : AReachable admitWrite mock storage (AState.init storage)
  | step {s s' : AState} {a : AAction} :
      AReachable admitWrite mock storage s → astep admitWrite mock s a = some s' →
        AReachable admitWrite mock storage s'

/-- Run a list of steps in order. -/
def arun (admitWrite mock : Bool) : AState → List AAction → Option AState
  | s, [] => some s
  | s, a :: as => (astep admitWrite mock s a).bind (arun admitWrite mock · as)

theorem AReachable.arun {admitWrite mock : Bool} {storage : String → Option String} :
    ∀ {s s' : AState} {as : List AAction}, AReachable admitWrite mock storage s →
      arun admitWrite mock s as = some s' → AReachable admitWrite mock storage s'
  | _, _, [], hr, h => by cases h; exact hr
  | _, _, _ :: _, hr, h => by
    simp only [DataPlane.arun, Option.bind_eq_some] at h
    obtain ⟨s1, h1, h2⟩ := h
    exact (hr.step h1).arun h2

/-! ## The invariant -/

/-- What the accounting reads of a `TaskGet`: its status, key and value. -/
def TaskGet.acct (g : TaskGet) : Status × String × String := (g.status, g.key, g.value)

/-- What the accounting reads of a `TaskSet`: its status, key and value. -/
def TaskSet.acct (st : TaskSet) : Status × String × String := (st.status, st.key, st.value)

/-- A live `TaskGet` agrees with its fate: unanswered until its completion, then answered with
the sizes it holds. -/
def GetFate.Matches : GetFate → TaskGet → Prop
  | .queued, g => g.status = .none
  | .issued, g => g.status = .none
  | .ok k v, g => g.status = .ok ∧ k = byteSize g.key ∧ v = byteSize g.value
  | .err, g => g.status = .err

lemma GetFate.matches_congr (f : GetFate) {g g' : TaskGet} (h : g.acct = g'.acct) :
    f.Matches g ↔ f.Matches g' := by
  simp only [TaskGet.acct, Prod.mk.injEq] at h
  cases f <;> simp [GetFate.Matches, h.1, h.2.1, h.2.2]

/-- The request of a Get has been answered. -/
def GetFate.Answered : GetFate → Prop
  | .ok _ _ => True
  | .err => True
  | _ => False

/-- The requests DynamoDB or `process_mock_dynamo` has still to answer. -/
def AState.requests (s : AState) : List Req := s.outstanding ++ s.mockQueue

/-- What holds of the charges in every reachable state, with the bookkeeping it needs: where each
task stands (queued, handed to storage, answered) agrees with its fate and with the storage
thread's position, and no task stands in two places. -/
structure AcctInv (s : AState) : Prop where
  /-- The network limiter has been charged what `net_bw_consump` counts. -/
  net : s.ledger.netConsumed = s.ledger.statsNet
  /-- An id not handed out yet has nothing charged or recorded. -/
  fresh : ∀ t, s.base.next ≤ t → s.ledger.fate t = .queued ∧ s.ledger.rcuRecorded t = 0 ∧
    s.ledger.setIssued t = false ∧ s.ledger.wcuRecorded t = 0
  getQueue_nodup : s.base.getQueue.Nodup
  /-- `task_get_queue` holds Gets not yet issued. -/
  queuedGet : ∀ t ∈ s.base.getQueue, t < s.base.next ∧ s.ledger.fate t = .queued
  setQueue_nodup : s.base.setQueue.Nodup
  /-- `task_set_queue` holds live Sets not yet issued. -/
  queuedSet : ∀ t ∈ s.base.setQueue, t < s.base.next ∧ s.ledger.setIssued t = false ∧
    ∃ st, s.base.sets t = some st ∧ st.status = .none
  requests_nodup : s.requests.Nodup
  /-- A request storage has not answered is for an issued, live and unanswered task. -/
  requestedGet : ∀ t, Req.get t ∈ s.requests → s.ledger.fate t = .issued
  requestedSet : ∀ t, Req.set t ∈ s.requests → s.ledger.setIssued t = true ∧
    ∃ st, s.base.sets t = some st ∧ st.status = .none
  /-- The storage thread stands before a charge only for a task it has issued. -/
  prepaying : ∀ t, s.pc = .prepay t → s.ledger.fate t ≠ .queued
  charging : ∀ t, s.pc = .charge t → s.ledger.setIssued t = true ∧ s.ledger.wcuCharged t = 0
  /-- The owner of a task is unblocked only once the task is answered. -/
  answeredGet : ∀ u ∈ s.base.unblocked, ∀ t, u.data = .getTask t →
    (s.ledger.fate t).Answered
  answeredSet : ∀ u ∈ s.base.unblocked, ∀ t, u.data = .setTask t →
    s.ledger.setIssued t = true ∧ ∀ st, s.base.sets t = some st → st.status ≠ .none
  /-- A Get has been charged what its fate says, once the pending prepaid unit is in. -/
  rcuCharge : ∀ t, s.ledger.rcuCharged t + (if s.pc = .prepay t then 1 else 0) =
    (s.ledger.fate t).charge
  /-- A Get records nothing, or `kv_to_rcu` of the sizes its completion saw. -/
  rcuRecord : ∀ t, s.ledger.rcuRecorded t = 0 ∨
    ∃ k v, s.ledger.fate t = .ok k v ∧ s.ledger.rcuRecorded t = kvToRcu k v
  /-- A live Get has recorded nothing yet, and holds what its fate says. -/
  liveGet : ∀ t g, s.base.gets t = some g →
    s.ledger.rcuRecorded t = 0 ∧ (s.ledger.fate t).Matches g
  /-- A live Set that has not failed holds the key and value `HOPPER.SET` recorded. -/
  liveSet : ∀ t st, s.base.sets t = some st → st.status ≠ .err →
    s.ledger.wcuRecorded t = kvToWcu (byteSize st.key) (byteSize st.value)
  /-- A Set is charged nothing before it is issued. -/
  unissuedSet : ∀ t, s.ledger.setIssued t = false → s.ledger.wcuCharged t = 0

/-- Nothing is queued, requested, charged or recorded at the start. -/
theorem AcctInv.init (storage : String → Option String) : AcctInv (AState.init storage) where
  net := rfl
  fresh _ _ := ⟨rfl, rfl, rfl, rfl⟩
  getQueue_nodup := List.nodup_nil
  queuedGet _ h := nomatch h
  setQueue_nodup := List.nodup_nil
  queuedSet _ h := nomatch h
  requests_nodup := List.nodup_nil
  requestedGet _ h := nomatch h
  requestedSet _ h := nomatch h
  prepaying _ h := nomatch h
  charging _ h := nomatch h
  answeredGet _ h := nomatch h
  answeredSet _ h := nomatch h
  rcuCharge _ := rfl
  rcuRecord _ := .inl rfl
  liveGet _ _ h := nomatch h
  liveSet _ _ h := nomatch h
  unissuedSet _ _ := rfl

/-- An answered Get that did not fail holds the sizes its fate records. -/
lemma GetFate.eq_ok_of_matches {f : GetFate} {g : TaskGet} (hm : f.Matches g) (ha : f.Answered)
    (he : g.status ≠ .err) : f = .ok (byteSize g.key) (byteSize g.value) :=
  match f, hm, ha with
  | .ok _ _, ⟨_, hk, hv⟩, _ => by rw [hk, hv]
  | .err, hm, _ => absurd hm he
  | .queued, _, ha => ha.elim
  | .issued, _, ha => ha.elim

/-- An answered Get is no longer queued. -/
lemma GetFate.ne_queued_of_answered {f : GetFate} (ha : f.Answered) : f ≠ .queued := by
  rintro rfl; exact ha

/-- Queueing the next id keeps a queue of smaller ids free of duplicates. -/
lemma nodup_append_next {q : List Nat} {n : Nat} (hq : q.Nodup) (hlt : ∀ t ∈ q, t < n) :
    (q ++ [n]).Nodup :=
  List.pairwise_append.2 ⟨hq, List.pairwise_singleton _ n,
    fun t ht _ hn => List.mem_singleton.1 hn ▸ Nat.ne_of_lt (hlt t ht)⟩

/-- Taking out the `i`-th element of a list leaves the rest of it. -/
lemma perm_cons_eraseIdx {α : Type} {l : List α} {i : Nat} {a : α} (h : l[i]? = some a) :
    l.Perm (a :: l.eraseIdx i) := by
  obtain ⟨hi, rfl⟩ := List.getElem?_eq_some_iff.1 h
  rw [List.eraseIdx_eq_take_drop_succ]
  nth_rewrite 1 [← List.take_append_drop i l]
  rw [List.drop_eq_getElem_cons hi]
  exact List.perm_middle

section steps

variable {s : AState}

/-! ### The moves steps are made of -/

theorem AcctInv.evict (h : AcctInv s) (key : String) :
    AcctInv { s with base := { s.base with cache := Function.update s.base.cache key none } } :=
  { h with }

/-- A hit or a dependent's value: `record_get_done` without a miss, and `network::consume` of
the same client traffic. -/
theorem AcctInv.recordHit (h : AcctInv s) (k v : Nat) :
    AcctInv { s with
      ledger := (s.ledger.recordGetDone k v none).consumeNet (kvToNetGetClient k v) } :=
  { h with net := by simp [h.net] }

theorem AcctInv.eraseUnblocked (h : AcctInv s) (i : Nat) :
    AcctInv { s with base := { s.base with unblocked := s.base.unblocked.eraseIdx i } } :=
  { h with
    answeredGet := fun u hu => h.answeredGet u (List.mem_of_mem_eraseIdx hu)
    answeredSet := fun u hu => h.answeredSet u (List.mem_of_mem_eraseIdx hu) }

/-- Changing what the accounting does not read of the live `TaskGet`s (their dependents and ghost
fields). -/
theorem AcctInv.mapGets (h : AcctInv s) (f : Nat → TaskGet → TaskGet)
    (hf : ∀ t g, (f t g).acct = g.acct) :
    AcctInv { s with base := { s.base with gets := fun t => (s.base.gets t).map (f t) } } :=
  { h with
    liveGet := fun t g hg => by
      obtain ⟨g0, hg0, rfl⟩ := Option.map_eq_some'.1 hg
      exact (h.liveGet t g0 hg0).imp_right (GetFate.matches_congr _ (hf t g0).symm).1 }

/-! ### The command thread -/

/-- `HOPPER.GET`: a hit records and charges its client traffic; a miss joins a task or queues
a fresh one. -/
theorem AcctInv.getAcct (h : AcctInv s) (c : Nat) (key : String) : AcctInv (getAcct s c key) := by
  unfold DataPlane.getAcct
  split
  · next v hv =>
    simp only [hopperGet, hv]
    have h1 : AcctInv { s with
        base := { s.base with replies := s.base.replies ++ [(c, .value v)] } } := { h with }
    exact h1.recordHit _ _
  · next hv =>
    simp only [hopperGet, hv]
    split
    · next t _ =>
      rw [funext (addDependent_apply s.base.gets t c)]
      exact { h.mapGets
        (fun t' g => if t' = t then { g with dependents := g.dependents ++ [c] } else g)
        fun t' g => by dsimp only; split_ifs <;> rfl with }
    · exact { h with
        fresh := fun t (ht : s.base.next + 1 ≤ t) => h.fresh t (Nat.le_of_succ_le ht)
        getQueue_nodup := nodup_append_next h.getQueue_nodup fun t ht => (h.queuedGet t ht).1
        queuedGet := fun t (ht : t ∈ s.base.getQueue ++ [s.base.next]) => by
          rcases List.mem_append.1 ht with ht | ht
          · exact ⟨Nat.lt_succ_of_lt (h.queuedGet t ht).1, (h.queuedGet t ht).2⟩
          · rw [List.mem_singleton.1 ht]; exact ⟨Nat.lt_succ_self _, (h.fresh _ le_rfl).1⟩
        queuedSet := fun t ht => ⟨Nat.lt_succ_of_lt (h.queuedSet t ht).1, (h.queuedSet t ht).2⟩
        liveGet := fun t g hg => by
          by_cases hn : t = s.base.next
          · subst hn
            obtain ⟨hf, hr, -⟩ := h.fresh _ le_rfl
            simp only [Function.update_same, Option.some.injEq] at hg
            subst hg
            exact ⟨hr, by simp only [hf]; rfl⟩
          · exact h.liveGet t g (by simpa [Function.update_noteq hn] using hg) }

/-- `HOPPER.SET`: the fresh task is queued with its `kv_to_wcu` recorded. -/
theorem AcctInv.setAcct (h : AcctInv s) (admitWrite : Bool) (c : Nat) (key value : String) :
    AcctInv (DataPlane.setAcct admitWrite s c key value) := by
  have hg := h.mapGets (fun _ g => if g.key = key then
    { g with written := g.written || ((s.base.cache key).isSome || admitWrite), setRan := true }
    else g) fun _ g => by dsimp only; split_ifs <;> rfl
  have hne : ∀ t, s.ledger.setIssued t = true → t ≠ s.base.next := fun t ht he => by
    rw [he, (h.fresh _ le_rfl).2.2.1] at ht; cases ht
  dsimp only [DataPlane.setAcct, hopperSet, Ledger.consumeNet, Ledger.recordSetDone]
  exact { hg with
    net := by simp [h.net]; omega
    fresh := fun t ht => by
      simp only at ht ⊢
      obtain ⟨h1, h2, h3, h4⟩ := h.fresh t (Nat.le_of_succ_le ht)
      exact ⟨h1, h2, h3, by simp [Function.update_noteq (show t ≠ s.base.next by omega), h4]⟩
    queuedGet := fun t ht => ⟨Nat.lt_succ_of_lt (h.queuedGet t ht).1, (h.queuedGet t ht).2⟩
    setQueue_nodup := nodup_append_next h.setQueue_nodup fun t ht => (h.queuedSet t ht).1
    queuedSet := fun t ht => by
      simp only [List.mem_append, List.mem_singleton] at ht ⊢
      rcases ht with ht | rfl
      · obtain ⟨h1, h2, st, h3, h4⟩ := h.queuedSet t ht
        exact ⟨Nat.lt_succ_of_lt h1, h2, st,
          by simp [Function.update_noteq (Nat.ne_of_lt h1), h3], h4⟩
      · exact ⟨Nat.lt_succ_self _, (h.fresh _ le_rfl).2.2.1, _,
          Function.update_same _ _ _, rfl⟩
    requestedSet := fun t ht => by
      obtain ⟨h1, st, h2, h3⟩ := h.requestedSet t ht
      exact ⟨h1, st, by simp [Function.update_noteq (hne t h1), h2], h3⟩
    answeredSet := fun u hu t hd => by
      obtain ⟨h1, h2⟩ := h.answeredSet u hu t hd
      exact ⟨h1, by simpa [Function.update_noteq (hne t h1)] using h2⟩
    liveSet := fun t st hst herr => by
      simp only at hst ⊢
      by_cases hn : t = s.base.next
      · subst hn
        simp only [Function.update_same, Option.some.injEq] at hst
        subst hst
        simp [(h.fresh _ le_rfl).2.2.2]
      · rw [Function.update_noteq hn] at hst ⊢
        exact h.liveSet t st hst herr }

theorem AcctInv.setCAcct (h : AcctInv s) (c : Nat) (key value : String) :
    AcctInv (DataPlane.setCAcct s c key value) :=
  { h with }

theorem AcctInv.loadAcct (h : AcctInv s) {c : Nat} {file : Option (List Char)} {s' : AState}
    (hs : DataPlane.loadAcct s c file = some s') : AcctInv s' := by
  unfold DataPlane.loadAcct at hs
  split at hs
  · cases hs
  · cases hs; exact { h with }

theorem AcctInv.disconnect (h : AcctInv s) (c : Nat) :
    AcctInv { s with base := { s.base with disconnected := c :: s.base.disconnected } } :=
  { h with }

/-! ### Reply callbacks -/

/-- `storage_callback` records nothing, or records a miss for a task that did not fail. -/
lemma handleCharge_getTask (s : AState) (c t : Nat) :
    handleCharge s ⟨c, .getTask t⟩ = s.ledger ∨
      ∃ g, s.base.gets t = some g ∧ g.status ≠ .err ∧
      handleCharge s ⟨c, .getTask t⟩ =
        (s.ledger.recordGetDone (byteSize g.key) (byteSize g.value) (some t)).consumeNet
          (kvToNetGetClient (byteSize g.key) (byteSize g.value) +
            kvToNetGetStorage (byteSize g.key) (byteSize g.value)) := by
  unfold handleCharge
  split_ifs
  · exact .inl rfl
  · dsimp only
    split
    · next g hg => split_ifs with he; exacts [.inl rfl, .inr ⟨g, hg, he, rfl⟩]
    · exact .inl rfl

lemma handleCharge_setTask (s : AState) (c t : Nat) :
    handleCharge s ⟨c, .setTask t⟩ = s.ledger := by
  unfold handleCharge; split_ifs <;> rfl

lemma handleCharge_value (s : AState) (c : Nat) (v : Option String) :
    handleCharge s ⟨c, .value v⟩ = s.ledger ∨ ∃ k n, handleCharge s ⟨c, .value v⟩ =
      (s.ledger.recordGetDone k n none).consumeNet (kvToNetGetClient k n) := by
  unfold handleCharge
  split_ifs
  · exact .inl rfl
  · cases v
    · exact .inl rfl
    · exact .inr ⟨_, _, rfl⟩

/-- Waking dependents: their private data is a value, which the accounting does not track. -/
theorem AcctInv.wake (h : AcctInv s) {woken : List Unblocked}
    (hw : ∀ u ∈ woken, ∃ v, u.data = .value v) :
    AcctInv { s with base := { s.base with unblocked := s.base.unblocked ++ woken } } :=
  { h with
    answeredGet := fun u hu t hd => (List.mem_append.1 hu).elim (h.answeredGet u · t hd)
      fun hu => let ⟨_, hv⟩ := hw u hu; nomatch hv.symm.trans hd
    answeredSet := fun u hu t hd => (List.mem_append.1 hu).elim (h.answeredSet u · t hd)
      fun hu => let ⟨_, hv⟩ := hw u hu; nomatch hv.symm.trans hd }

theorem AcctInv.freeGet (h : AcctInv s) (t : Nat) :
    AcctInv { s with base := { s.base with gets := Function.update s.base.gets t none } } :=
  { h with
    liveGet := fun t' g hg => by
      by_cases ht : t' = t
      · subst ht; simp at hg
      · exact h.liveGet t' g (by simpa [Function.update_noteq ht] using hg) }

/-- Freeing a `TaskSet` that has been issued and answered. -/
theorem AcctInv.freeSet (h : AcctInv s) {t : Nat} (hi : s.ledger.setIssued t = true)
    (hans : ∀ st, s.base.sets t = some st → st.status ≠ .none) :
    AcctInv { s with base := { s.base with sets := Function.update s.base.sets t none } } := by
  have hfree : ∀ t' st, Function.update s.base.sets t none t' = some st →
      t' ≠ t ∧ s.base.sets t' = some st := fun t' st hst => by
    by_cases ht : t' = t
    · subst ht; simp at hst
    · exact ⟨ht, by simpa [Function.update_noteq ht] using hst⟩
  exact { h with
    queuedSet := fun t' ht' => by
      obtain ⟨h1, h2, st, h3, h4⟩ := h.queuedSet t' ht'
      have ht : t' ≠ t := by rintro rfl; rw [hi] at h2; cases h2
      exact ⟨h1, h2, st, by simp [Function.update_noteq ht, h3], h4⟩
    requestedSet := fun t' ht' => by
      obtain ⟨h1, st, h2, h3⟩ := h.requestedSet t' ht'
      have ht : t' ≠ t := by rintro rfl; exact hans st h2 h3
      exact ⟨h1, st, by simp [Function.update_noteq ht, h2], h3⟩
    answeredSet := fun u hu t' hd =>
      let ⟨h1, h2⟩ := h.answeredSet u hu t' hd
      ⟨h1, fun st hst => h2 st (hfree t' st hst).2⟩
    liveSet := fun t' st hst => h.liveSet t' st (hfree t' st hst).2 }

/-- `storage_callback` of a Get answered with sizes `k` and `v` records `kv_to_rcu` once: the
task is freed as it is recorded. -/
theorem AcctInv.recordGet (h : AcctInv s) {t k v : Nat} (hg : s.base.gets t = none)
    (hf : s.ledger.fate t = .ok k v) (hr : s.ledger.rcuRecorded t = 0) :
    AcctInv { s with
      ledger := (s.ledger.recordGetDone k v (some t)).consumeNet
        (kvToNetGetClient k v + kvToNetGetStorage k v) } := by
  have hlt : t < s.base.next := Nat.lt_of_not_le fun hle => by
    rw [(h.fresh t hle).1] at hf; cases hf
  dsimp only [Ledger.consumeNet, Ledger.recordGetDone]
  exact { h with
    net := by simp [h.net]; omega
    fresh := fun t' (ht' : s.base.next ≤ t') => by
      obtain ⟨h1, h2, h3, h4⟩ := h.fresh t' ht'
      exact ⟨h1, by simp [Function.update_noteq (show t' ≠ t by omega), h2], h3, h4⟩
    rcuRecord := fun t' => by
      by_cases ht : t' = t
      · subst ht; exact .inr ⟨k, v, hf, by simp [hr]⟩
      · simpa [Function.update_noteq ht] using h.rcuRecord t'
    liveGet := fun t' g hg' => by
      have ht : t' ≠ t := by rintro rfl; rw [hg] at hg'; cases hg'
      simpa [Function.update_noteq ht] using h.liveGet t' g hg' }

/-- The command thread handles an unblocked client. -/
theorem AcctInv.handle (h : AcctInv s) {i : Nat} {s' : AState} (hs : handleAcct s i = some s') :
    AcctInv s' := by
  simp only [handleAcct, Option.map_eq_some'] at hs
  obtain ⟨⟨c, d⟩, hu, rfl⟩ := hs
  have hmem := List.getElem?_mem hu
  have h1 := h.eraseUnblocked i
  cases d with
  | value v =>
    obtain ⟨replies, hb⟩ :=
      handleUnblocked_value { s.base with unblocked := s.base.unblocked.eraseIdx i } c v
    have h2 : AcctInv { s with base := { s.base with
        unblocked := s.base.unblocked.eraseIdx i, replies := replies } } := { h1 with }
    rw [hb]
    rcases handleCharge_value { s with base := { s.base with
      unblocked := s.base.unblocked.eraseIdx i } } c v with hl | ⟨k, n, hl⟩ <;> rw [hl]
    · exact { h2 with }
    · exact h2.recordHit k n
  | setTask t =>
    obtain ⟨cache, replies, hb⟩ :=
      handleUnblocked_setTask { s.base with unblocked := s.base.unblocked.eraseIdx i } c t
    rw [hb, handleCharge_setTask]
    obtain ⟨hi, hans⟩ := h.answeredSet _ hmem t rfl
    exact { h1.freeSet hi hans with }
  | getTask t =>
    obtain ⟨cache, inflight, replies, woken, hb, hw⟩ :=
      handleUnblocked_getTask { s.base with unblocked := s.base.unblocked.eraseIdx i } c t
    have h2 : AcctInv { s with base := { s.base with
        cache := cache, inflight := inflight, replies := replies,
        unblocked := s.base.unblocked.eraseIdx i ++ woken,
        gets := Function.update s.base.gets t none } } :=
      { (h1.wake hw).freeGet t with }
    rw [hb]
    rcases handleCharge_getTask { s with base := { s.base with
      unblocked := s.base.unblocked.eraseIdx i } } c t with hl | ⟨g, hg, herr, hl⟩ <;> rw [hl]
    · exact { h2 with }
    · obtain ⟨hr, hm⟩ := h.liveGet t g hg
      exact h2.recordGet (Function.update_same _ _ _)
        (GetFate.eq_ok_of_matches hm (h.answeredGet _ hmem t rfl) herr) hr

/-! ### The storage thread and DynamoDB -/

/-- The requests once the storage thread has issued `r`, to DynamoDB or to `mock_dynamo_queue`. -/
lemma requests_issue (mock : Bool) (o m : List Req) (r : Req) :
    ((if mock then o else o ++ [r]) ++ if mock then m ++ [r] else m).Perm (r :: (o ++ m)) := by
  cases mock
  · simp
  · simpa using @List.perm_append_comm _ (o ++ m) [r]

/-- `process_task_get`: the first queued Get is issued and its prepaid unit falls due. -/
theorem AcctInv.issueGet (h : AcctInv s) {mock : Bool} {s' : AState}
    (hs : DataPlane.issueGet mock s = some s') : AcctInv s' := by
  unfold DataPlane.issueGet at hs
  split at hs
  · next t q hpc hq =>
    cases hs
    obtain ⟨hlt, hqd⟩ := h.queuedGet t (hq ▸ List.mem_cons_self t q)
    have hnd := List.nodup_cons.1 (hq ▸ h.getQueue_nodup)
    have hp := requests_issue mock s.outstanding s.mockQueue (.get t)
    have hnotin : Req.get t ∉ s.requests := fun hr => by
      rw [h.requestedGet t hr] at hqd; cases hqd
    exact { h with
      fresh := fun t' (ht' : s.base.next ≤ t') => by
        simpa [Function.update_noteq (show t' ≠ t by omega)] using h.fresh t' ht'
      getQueue_nodup := hnd.2
      queuedGet := fun t' (ht' : t' ∈ q) => by
        have ht : t' ≠ t := fun e => hnd.1 (e ▸ ht')
        simpa [Function.update_noteq ht] using h.queuedGet t' (hq ▸ List.mem_cons_of_mem t ht')
      requests_nodup := hp.nodup_iff.2 (List.nodup_cons.2 ⟨hnotin, h.requests_nodup⟩)
      requestedGet := fun t' ht' => by
        rcases List.mem_cons.1 (hp.mem_iff.1 ht') with he | he
        · cases he; simp
        · have ht : t' ≠ t := by rintro rfl; exact hnotin he
          simpa [Function.update_noteq ht] using h.requestedGet t' he
      requestedSet := fun t' ht' =>
        h.requestedSet t' ((List.mem_cons.1 (hp.mem_iff.1 ht')).resolve_left (by simp))
      prepaying := fun t' ht' => by cases ht'; simp
      charging := fun _ ht' => nomatch ht'
      answeredGet := fun u hu t' hd => by
        have ht : t' ≠ t := by
          rintro rfl; exact GetFate.ne_queued_of_answered (h.answeredGet u hu _ hd) hqd
        simpa [Function.update_noteq ht] using h.answeredGet u hu t' hd
      rcuCharge := fun t' => by
        have h0 := h.rcuCharge t'
        rw [hpc] at h0
        by_cases ht : t' = t
        · subst ht; simp [hqd, GetFate.charge] at h0 ⊢; exact h0
        · simpa [Function.update_noteq ht, Ne.symm ht] using h0
      rcuRecord := fun t' => by
        by_cases ht : t' = t
        · subst ht
          exact .inl ((h.rcuRecord t').resolve_right fun ⟨_, _, hf, _⟩ => by
            rw [hqd] at hf; cases hf)
        · simpa [Function.update_noteq ht] using h.rcuRecord t'
      liveGet := fun t' g hg => by
        obtain ⟨hr, hm⟩ := h.liveGet t' g hg
        by_cases ht : t' = t
        · subst ht; rw [hqd] at hm; exact ⟨hr, by simpa [GetFate.Matches] using hm⟩
        · exact ⟨hr, by simpa [Function.update_noteq ht] using hm⟩ }
  · cases hs

/-- The prepaid unit is charged. -/
theorem AcctInv.prepay (h : AcctInv s) {s' : AState} (hs : DataPlane.prepay s = some s') :
    AcctInv s' := by
  unfold DataPlane.prepay at hs
  split at hs
  · next t hpc =>
    cases hs
    exact { h with
      prepaying := fun _ h' => nomatch h'
      charging := fun _ h' => nomatch h'
      rcuCharge := fun t' => by
        have h0 := h.rcuCharge t'
        rw [hpc] at h0
        by_cases ht : t' = t
        · subst ht; simpa [Ledger.chargeRcu] using h0
        · simpa [Ledger.chargeRcu, Function.update_noteq ht, Ne.symm ht] using h0 }
  · cases hs

/-- `process_task_set`: the first queued Set is issued, with nothing charged yet. -/
theorem AcctInv.issueSet (h : AcctInv s) {mock : Bool} {s' : AState}
    (hs : DataPlane.issueSet mock s = some s') : AcctInv s' := by
  unfold DataPlane.issueSet at hs
  split at hs
  · next t q hpc hq =>
    cases hs
    obtain ⟨hlt, hni, hst⟩ := h.queuedSet t (hq ▸ List.mem_cons_self t q)
    have hnd := List.nodup_cons.1 (hq ▸ h.setQueue_nodup)
    have hp := requests_issue mock s.outstanding s.mockQueue (.set t)
    have hnotin : Req.set t ∉ s.requests := fun hr => by
      rw [(h.requestedSet t hr).1] at hni; cases hni
    exact { h with
      fresh := fun t' (ht' : s.base.next ≤ t') => by
        simpa [Function.update_noteq (show t' ≠ t by omega)] using h.fresh t' ht'
      setQueue_nodup := hnd.2
      queuedSet := fun t' (ht' : t' ∈ q) => by
        have ht : t' ≠ t := fun e => hnd.1 (e ▸ ht')
        simpa [Function.update_noteq ht] using h.queuedSet t' (hq ▸ List.mem_cons_of_mem t ht')
      requests_nodup := hp.nodup_iff.2 (List.nodup_cons.2 ⟨hnotin, h.requests_nodup⟩)
      requestedGet := fun t' ht' =>
        h.requestedGet t' ((List.mem_cons.1 (hp.mem_iff.1 ht')).resolve_left (by simp))
      requestedSet := fun t' ht' => by
        rcases List.mem_cons.1 (hp.mem_iff.1 ht') with he | he
        · cases he; simpa using hst
        · have ht : t' ≠ t := by rintro rfl; exact hnotin he
          simpa [Function.update_noteq ht] using h.requestedSet t' he
      prepaying := fun _ h' => nomatch h'
      charging := fun t' ht' => by cases ht'; simpa using h.unissuedSet t hni
      answeredSet := fun u hu t' hd =>
        let ⟨h1, h2⟩ := h.answeredSet u hu t' hd
        ⟨by simp [Function.update_apply, h1], h2⟩
      rcuCharge := fun t' => by simpa [hpc] using h.rcuCharge t'
      unissuedSet := fun t' ht' => by
        have ht : t' ≠ t := by rintro rfl; simp at ht'
        exact h.unissuedSet t' (by simpa [Function.update_noteq ht] using ht') }
  · cases hs

/-- `wcu_rate_limiter.consume(t->wcu_cost())`, whatever `t` holds by then. -/
theorem AcctInv.chargeSet (h : AcctInv s) {s' : AState} (hs : DataPlane.chargeSet s = some s') :
    AcctInv s' := by
  unfold DataPlane.chargeSet at hs
  split at hs
  · next t hpc =>
    cases hs
    have h1 : AcctInv { s with pc := .idle } :=
      { h with
        prepaying := fun _ h' => nomatch h'
        charging := fun _ h' => nomatch h'
        rcuCharge := fun t' => by simpa [hpc] using h.rcuCharge t' }
    cases s.base.sets t with
    | some st =>
      exact { h1 with
        charging := fun _ h' => nomatch h'
        unissuedSet := fun t' (ht' : s.ledger.setIssued t' = false) => by
          have ht : t' ≠ t := fun e => by rw [e, (h.charging t hpc).1] at ht'; cases ht'
          simpa [Ledger.chargeWcu, Function.update_noteq ht] using h.unissuedSet t' ht' }
    | none => exact { h1 with }
  · cases hs

/-- The completion of a requested Get with fate `f`: the request leaves the requests, the task
holds its answer, its owner is unblocked, and `rcu_rate_limiter` has been charged `f.charge` once
a pending prepaid unit is in. -/
theorem AcctInv.answerGet (h : AcctInv s) {t : Nat} {o m : List Req}
    (hp : s.requests.Perm (.get t :: (o ++ m))) {g : TaskGet} (hg : s.base.gets t = some g)
    (f : GetFate) (g' : TaskGet) (rc : Nat) (hf : f.Answered) (hm : f.Matches g')
    (hrc : rc + (if s.pc = .prepay t then 1 else 0) = f.charge) :
    AcctInv { s with
      base := { s.base with
        gets := Function.update s.base.gets t (some g')
        unblocked := s.base.unblocked ++ [⟨g.client, .getTask t⟩] }
      outstanding := o
      mockQueue := m
      ledger := { s.ledger with
        rcuCharged := Function.update s.ledger.rcuCharged t rc
        fate := Function.update s.ledger.fate t f } } := by
  have hmem : ∀ r ∈ o ++ m, r ∈ s.requests := fun r hr =>
    hp.mem_iff.2 (List.mem_cons_of_mem _ hr)
  obtain ⟨hout, hnd⟩ := List.nodup_cons.1 (hp.nodup_iff.1 h.requests_nodup)
  have hfi := h.requestedGet t (hp.mem_iff.2 (List.mem_cons_self _ _))
  have hne : ∀ t', s.ledger.fate t' = .queued → t' ≠ t := by
    rintro t' hq rfl; rw [hfi] at hq; cases hq
  exact { h with
    fresh := fun t' (ht' : s.base.next ≤ t') => by
      simpa [Function.update_noteq (hne t' (h.fresh t' ht').1)] using h.fresh t' ht'
    queuedGet := fun t' ht' => by
      simpa [Function.update_noteq (hne t' (h.queuedGet t' ht').2)] using h.queuedGet t' ht'
    requests_nodup := hnd
    requestedGet := fun t' ht' => by
      have ht : t' ≠ t := by rintro rfl; exact hout ht'
      simpa [Function.update_noteq ht] using h.requestedGet t' (hmem _ ht')
    requestedSet := fun t' ht' => h.requestedSet t' (hmem _ ht')
    prepaying := fun t' ht' => by
      by_cases ht : t' = t
      · subst ht; simpa using GetFate.ne_queued_of_answered hf
      · simpa [Function.update_noteq ht] using h.prepaying t' ht'
    answeredGet := fun u hu t' hd => by
      by_cases ht : t' = t
      · subst ht; simpa using hf
      · rcases List.mem_append.1 hu with hu | hu
        · simpa [Function.update_noteq ht] using h.answeredGet u hu t' hd
        · rw [List.mem_singleton.1 hu] at hd; cases hd; exact absurd rfl ht
    answeredSet := fun u hu t' hd => (List.mem_append.1 hu).elim (h.answeredSet u · t' hd)
      fun hu => by rw [List.mem_singleton.1 hu] at hd; cases hd
    rcuCharge := fun t' => by
      by_cases ht : t' = t
      · subst ht; simpa using hrc
      · simpa [Function.update_noteq ht] using h.rcuCharge t'
    rcuRecord := fun t' => by
      by_cases ht : t' = t
      · subst ht; exact .inl (h.liveGet t' g hg).1
      · simpa [Function.update_noteq ht] using h.rcuRecord t'
    liveGet := fun t' g'' hg'' => by
      by_cases ht : t' = t
      · subst ht
        simp only [Function.update_same, Option.some.injEq] at hg''
        subst hg''
        simpa using ⟨(h.liveGet t' g hg).1, hm⟩
      · simpa [Function.update_noteq ht] using
          h.liveGet t' g'' (by simpa [Function.update_noteq ht] using hg'') }

/-- A completion of a Get, by DynamoDB or by `process_mock_dynamo`. -/
theorem AcctInv.completeGet (h : AcctInv s) {t : Nat} {o m : List Req} {value : Option String}
    {s' : AState} (hp : s.requests.Perm (.get t :: (o ++ m)))
    (hs : DataPlane.completeGet { s with outstanding := o, mockQueue := m } t value = some s') :
    AcctInv s' := by
  obtain ⟨g, hg, rfl⟩ := Option.map_eq_some'.1 hs
  have hc := h.rcuCharge t
  rw [h.requestedGet t (hp.mem_iff.2 (List.mem_cons_self _ _))] at hc
  cases value with
  | none =>
    have := h.answerGet hp hg .err { g with status := .err } _ trivial rfl hc
    rwa [Function.update_eq_self] at this
  | some v =>
    exact h.answerGet hp hg (.ok (byteSize g.key) (byteSize v)) { g with status := .ok, value := v }
      (s.ledger.rcuCharged t + rcuCostMinusOne (byteSize g.key) (byteSize v)) trivial
      ⟨rfl, rfl, rfl⟩ (by simp only [GetFate.charge] at hc ⊢; omega)

/-- The completion of a requested Set: the request leaves the requests, the task holds its
status (and, after a failure, the error text), and its owner is unblocked. -/
theorem AcctInv.answerSet (h : AcctInv s) {t : Nat} {o m : List Req}
    (hp : s.requests.Perm (.set t :: (o ++ m))) {st st' : TaskSet} (hst : s.base.sets t = some st)
    (hdone : st'.status ≠ .none)
    (hkv : st'.status ≠ .err → st'.key = st.key ∧ st'.value = st.value)
    (storage : String → Option String) :
    AcctInv { s with
      base := { s.base with
        storage := storage
        sets := Function.update s.base.sets t (some st')
        unblocked := s.base.unblocked ++ [⟨st.client, .setTask t⟩] }
      outstanding := o
      mockQueue := m } := by
  have hmem : ∀ r ∈ o ++ m, r ∈ s.requests := fun r hr =>
    hp.mem_iff.2 (List.mem_cons_of_mem _ hr)
  obtain ⟨hout, hnd⟩ := List.nodup_cons.1 (hp.nodup_iff.1 h.requests_nodup)
  obtain ⟨hi, st0, hst0, hnone⟩ := h.requestedSet t (hp.mem_iff.2 (List.mem_cons_self _ _))
  rw [hst, Option.some.injEq] at hst0
  subst hst0
  have hsets : ∀ t' st1, Function.update s.base.sets t (some st') t' = some st1 →
      t' = t ∧ st1 = st' ∨ t' ≠ t ∧ s.base.sets t' = some st1 := fun t' st1 h1 => by
    by_cases ht : t' = t
    · subst ht; simp at h1; exact .inl ⟨rfl, h1.symm⟩
    · exact .inr ⟨ht, by simpa [Function.update_noteq ht] using h1⟩
  exact { h with
    queuedSet := fun t' ht' => by
      obtain ⟨h1, h2, st1, h3, h4⟩ := h.queuedSet t' ht'
      have ht : t' ≠ t := by rintro rfl; rw [hi] at h2; cases h2
      exact ⟨h1, h2, st1, by simp [Function.update_noteq ht, h3], h4⟩
    requests_nodup := hnd
    requestedGet := fun t' ht' => h.requestedGet t' (hmem _ ht')
    requestedSet := fun t' ht' => by
      have ht : t' ≠ t := by rintro rfl; exact hout ht'
      simpa [Function.update_noteq ht] using h.requestedSet t' (hmem _ ht')
    answeredGet := fun u hu t' hd => (List.mem_append.1 hu).elim (h.answeredGet u · t' hd)
      fun hu => by rw [List.mem_singleton.1 hu] at hd; cases hd
    answeredSet := fun u hu t' hd => by
      have hi' : s.ledger.setIssued t' = true := by
        rcases List.mem_append.1 hu with hu | hu
        · exact (h.answeredSet u hu t' hd).1
        · rw [List.mem_singleton.1 hu] at hd; cases hd; exact hi
      refine ⟨hi', fun st1 hst1 => ?_⟩
      rcases hsets t' st1 hst1 with ⟨-, rfl⟩ | ⟨ht, hst1⟩
      · exact hdone
      · rcases List.mem_append.1 hu with hu | hu
        · exact (h.answeredSet u hu t' hd).2 st1 hst1
        · rw [List.mem_singleton.1 hu] at hd; cases hd; exact absurd rfl ht
    liveSet := fun t' st1 hst1 herr => by
      rcases hsets t' st1 hst1 with ⟨rfl, rfl⟩ | ⟨-, hst1⟩
      · rw [(hkv herr).1, (hkv herr).2]; exact h.liveSet t' st hst (by rw [hnone]; simp)
      · exact h.liveSet t' st1 hst1 herr }

/-- A completion of a Set, by DynamoDB or by `process_mock_dynamo`. -/
theorem AcctInv.completeSet (h : AcctInv s) {t : Nat} {o m : List Req} {failure : Option String}
    {store : Bool} {s' : AState} (hp : s.requests.Perm (.set t :: (o ++ m)))
    (hs : DataPlane.completeSet { s with outstanding := o, mockQueue := m } t failure store =
      some s') : AcctInv s' := by
  obtain ⟨st, hst, rfl⟩ := Option.map_eq_some'.1 hs
  exact h.answerSet hp hst (by cases failure <;> simp) (by cases failure <;> simp) _

/-- Every step keeps the invariant. -/
theorem AcctInv.step (h : AcctInv s) {admitWrite mock : Bool} {a : AAction} {s' : AState}
    (hs : astep admitWrite mock s a = some s') : AcctInv s' := by
  cases a with
  | get c key =>
    simp only [astep, ite_eq_right_iff, Option.some.injEq] at hs
    split_ifs at hs
    cases hs; exact h.getAcct c key
  | set c key value =>
    simp only [astep] at hs; split_ifs at hs; cases hs; exact h.setAcct admitWrite c key value
  | setC c key value =>
    simp only [astep] at hs; split_ifs at hs; cases hs; exact h.setCAcct c key value
  | load c file => simp only [astep] at hs; split_ifs at hs; exact h.loadAcct hs
  | handle i => exact h.handle hs
  | evict key => cases hs; exact h.evict key
  | disconnect c => cases hs; exact h.disconnect c
  | issueGet => exact h.issueGet hs
  | prepay => exact h.prepay hs
  | issueSet => exact h.issueSet hs
  | charge => exact h.chargeSet hs
  | mockDone value =>
    simp only [astep] at hs
    split_ifs at hs
    split at hs
    · next t q hq => exact h.completeGet (by rw [AState.requests, hq]; exact List.perm_middle) hs
    · next t q hq => exact h.completeSet (by rw [AState.requests, hq]; exact List.perm_middle) hs
    · cases hs
  | dynamoGet i ok =>
    simp only [astep] at hs
    split at hs
    · next t ht =>
      obtain ⟨g, -, hs⟩ := Option.bind_eq_some.1 hs
      exact h.completeGet ((perm_cons_eraseIdx ht).append_right _) hs
    · cases hs
  | dynamoSet i failure =>
    simp only [astep] at hs
    split at hs
    · next t ht => exact h.completeSet ((perm_cons_eraseIdx ht).append_right _) hs
    · cases hs

end steps

/-- The invariant holds in every reachable state. -/
theorem AReachable.acctInv {admitWrite mock : Bool} {storage : String → Option String}
    {s : AState} (hr : AReachable admitWrite mock storage s) : AcctInv s := by
  induction hr with
  | init => exact AcctInv.init storage
  | step _ hs ih => exact ih.step hs

/-! ## Sets with `dynamo.mock` -/

/-- With `dynamo.mock`: no request goes to DynamoDB; the Set the storage thread stands before
charging is still in `mock_dynamo_queue`, since `process_mock_dynamo` runs only at the head of the
loop; and every Set charged was charged the `wcu_cost()` of what `HOPPER.SET` recorded. -/
structure MockInv (s : AState) : Prop where
  outstanding : s.outstanding = []
  /-- The Set before its charge still waits in `mock_dynamo_queue`. -/
  charging : ∀ t, s.pc = .charge t → Req.set t ∈ s.mockQueue
  /-- A Set past its charge was charged what was recorded, modulo `2^32`. -/
  charged : ∀ t, s.ledger.setIssued t = true → s.pc ≠ .charge t →
    s.ledger.wcuCharged t = s.ledger.wcuRecorded t % u32Size

theorem MockInv.init (storage : String → Option String) : MockInv (AState.init storage) where
  outstanding := rfl
  charging _ h := nomatch h
  charged _ h := nomatch h

section mock

variable {s : AState}

/-- A step that finds the storage thread away from a charge and leaves it away from one, and
changes neither the requests sent to DynamoDB nor the counters of a Set. -/
theorem MockInv.leave (h : MockInv s) (hpc : ∀ t, s.pc ≠ .charge t) (b : State) (p : Pc)
    (hp : ∀ t, p ≠ .charge t) (q : List Req) (L : Ledger)
    (hi : L.setIssued = s.ledger.setIssued) (hc : L.wcuCharged = s.ledger.wcuCharged)
    (hr : L.wcuRecorded = s.ledger.wcuRecorded) :
    MockInv { s with base := b, pc := p, mockQueue := q, ledger := L } where
  outstanding := h.outstanding
  charging t ht := absurd ht (hp t)
  charged t ht _ := by
    simp only [hi, hc, hr] at ht ⊢
    exact h.charged t ht (hpc t)

theorem MockInv.handle (h : MockInv s) {i : Nat} {s' : AState} (hs : handleAcct s i = some s') :
    MockInv s' := by
  simp only [handleAcct, Option.map_eq_some'] at hs
  obtain ⟨⟨c, d⟩, -, rfl⟩ := hs
  cases d with
  | value v =>
    rcases handleCharge_value { s with base := { s.base with
      unblocked := s.base.unblocked.eraseIdx i } } c v with hl | ⟨k, n, hl⟩ <;> rw [hl] <;>
      exact { h with }
  | setTask t => rw [handleCharge_setTask]; exact { h with }
  | getTask t =>
    rcases handleCharge_getTask { s with base := { s.base with
      unblocked := s.base.unblocked.eraseIdx i } } c t with hl | ⟨g, -, -, hl⟩ <;> rw [hl] <;>
      exact { h with }

/-- `HOPPER.SET` records the new task only, which the storage thread has not issued. -/
theorem MockInv.setAcct (hA : AcctInv s) (h : MockInv s) (admitWrite : Bool) (c : Nat)
    (key value : String) : MockInv (DataPlane.setAcct admitWrite s c key value) :=
  { h with
    charged := fun t (ht : s.ledger.setIssued t = true) hpc => by
      have hne : t ≠ s.base.next := fun e => by
        rw [e, (hA.fresh _ le_rfl).2.2.1] at ht; cases ht
      simpa [DataPlane.setAcct, Ledger.recordSetDone, Ledger.consumeNet,
        Function.update_noteq hne] using h.charged t ht hpc }

/-- `process_task_set` with `dynamo.mock`: the Set joins `mock_dynamo_queue`, where it waits
while the storage thread charges it. -/
theorem MockInv.issueSet (h : MockInv s) {s' : AState} (hs : DataPlane.issueSet true s = some s') :
    MockInv s' := by
  unfold DataPlane.issueSet at hs
  split at hs
  · next t q hpc _ =>
    cases hs
    exact { h with
      charging := fun t' ht' => by cases ht'; simp
      charged := fun t' ht hpc' => by
        have ht' : t' ≠ t := fun e => hpc' (by rw [e])
        simpa [Function.update_noteq ht'] using
          h.charged t' (by simpa [Function.update_noteq ht'] using ht)
            (by rw [hpc]; exact nofun) }
  · cases hs

/-- `wcu_rate_limiter.consume(t->wcu_cost())` with `dynamo.mock`: the task still waits in
`mock_dynamo_queue`, live and unanswered, so it is charged the `wcu_cost()` of what
`HOPPER.SET` recorded. -/
theorem MockInv.chargeSet (hA : AcctInv s) (h : MockInv s) {s' : AState}
    (hs : DataPlane.chargeSet s = some s') : MockInv s' := by
  unfold DataPlane.chargeSet at hs
  split at hs
  · next t hpc =>
    cases hs
    obtain ⟨-, st, hst, hnone⟩ := hA.requestedSet t (by
      rw [AState.requests, h.outstanding]; exact h.charging t hpc)
    rw [hst]
    exact { h with
      charging := fun _ h' => nomatch h'
      charged := fun t' ht _ => by
        by_cases ht' : t' = t
        · subst ht'
          simp [Ledger.chargeWcu, (hA.charging t' hpc).2, TaskSet.wcuCost,
            hA.liveSet t' st hst (by rw [hnone]; simp)]
        · simpa [Ledger.chargeWcu, Function.update_noteq ht'] using
            h.charged t' ht (by rw [hpc]; simpa using Ne.symm ht') }
  · cases hs

/-- Every step with `dynamo.mock` keeps `MockInv`. -/
theorem MockInv.step (hA : AcctInv s) (h : MockInv s) {admitWrite : Bool} {a : AAction}
    {s' : AState} (hs : astep admitWrite true s a = some s') : MockInv s' := by
  cases a with
  | get c key =>
    simp only [astep] at hs; split_ifs at hs; cases hs
    unfold DataPlane.getAcct; split <;> exact { h with }
  | set c key value =>
    simp only [astep] at hs; split_ifs at hs; cases hs; exact h.setAcct hA admitWrite c key value
  | setC c key value => simp only [astep] at hs; split_ifs at hs; cases hs; exact { h with }
  | load c file =>
    simp only [astep, DataPlane.loadAcct] at hs; split_ifs at hs; split at hs
    · cases hs
    · cases hs; exact { h with }
  | handle i => exact h.handle hs
  | evict key => cases hs; exact { h with }
  | disconnect c => cases hs; exact { h with }
  | issueGet =>
    simp only [astep, DataPlane.issueGet] at hs
    split at hs
    · next t q hpc _ =>
      cases hs; exact h.leave (by rw [hpc]; nofun) _ (.prepay t) (fun _ => nofun) _ _ rfl rfl rfl
    · cases hs
  | prepay =>
    simp only [astep, DataPlane.prepay] at hs
    split at hs
    · next t hpc =>
      cases hs; exact h.leave (by rw [hpc]; nofun) _ .idle (fun _ => nofun) _ _ rfl rfl rfl
    · cases hs
  | issueSet => exact h.issueSet hs
  | charge => exact h.chargeSet hA hs
  | mockDone value =>
    simp only [astep] at hs
    split_ifs at hs with hpc
    rw [not_not] at hpc
    have hleave := fun b => h.leave (by rw [hpc]; nofun) b s.pc (by rw [hpc]; nofun)
    split at hs
    · obtain ⟨g, -, rfl⟩ := Option.map_eq_some'.1 hs
      cases value <;> exact hleave _ _ _ rfl rfl rfl
    · obtain ⟨st, -, rfl⟩ := Option.map_eq_some'.1 hs
      exact hleave _ _ _ rfl rfl rfl
    · cases hs
  | dynamoGet i ok => simp [astep, h.outstanding] at hs
  | dynamoSet i failure => simp [astep, h.outstanding] at hs

end mock

/-- With `dynamo.mock`, `MockInv` holds in every reachable state. -/
theorem AReachable.mockInv {admitWrite : Bool} {storage : String → Option String} {s : AState}
    (hr : AReachable admitWrite true storage s) : MockInv s := by
  induction hr with
  | init => exact MockInv.init storage
  | step hr hs ih => exact ih.step hr.acctInv hs

/-! ## What the accounting gets right -/

/-- In every reachable state the network limiter has been charged exactly what `net_bw_consump`
counts.  A Get whose `storage_callback` recorded `kv_to_rcu` has been charged, counting the unit
the storage thread may still have to prepay, `1 + (rcu_cost() − 1)` for the same sizes, which is
the record itself below `2^32` units; a Get that failed is charged one unit and records nothing.
With `dynamo.mock`, every Set the storage thread has charged was charged what `HOPPER.SET`
recorded, truncated to `uint32_t`. -/
theorem charges_match_stats {admitWrite mock : Bool} {storage : String → Option String}
    {s : AState} (hr : AReachable admitWrite mock storage s) :
    s.ledger.netConsumed = s.ledger.statsNet ∧
    (∀ t, s.ledger.rcuRecorded t ≠ 0 → ∃ k v, s.ledger.fate t = .ok k v ∧
      s.ledger.rcuRecorded t = kvToRcu k v ∧
      s.ledger.rcuCharged t + (if s.pc = .prepay t then 1 else 0) = 1 + rcuCostMinusOne k v ∧
      (kvToRcu k v < u32Size →
        s.ledger.rcuCharged t + (if s.pc = .prepay t then 1 else 0) = s.ledger.rcuRecorded t)) ∧
    (∀ t, s.ledger.fate t = .err →
      s.ledger.rcuCharged t + (if s.pc = .prepay t then 1 else 0) = 1 ∧
        s.ledger.rcuRecorded t = 0) ∧
    (mock = true → ∀ t, s.ledger.setIssued t = true → s.pc ≠ .charge t →
      s.ledger.wcuCharged t = s.ledger.wcuRecorded t % u32Size) := by
  have h := hr.acctInv
  refine ⟨h.net, fun t ht => ?_, fun t hf => ?_, fun hm => ?_⟩
  · obtain ⟨k, v, hf, hrec⟩ := (h.rcuRecord t).resolve_left ht
    have hc := h.rcuCharge t
    rw [hf] at hc
    exact ⟨k, v, hf, hrec, hc, fun hlt => by rw [hc, hrec]; exact one_add_rcuCostMinusOne hlt⟩
  · have hc := h.rcuCharge t
    rw [hf] at hc
    exact ⟨hc, (h.rcuRecord t).resolve_right fun ⟨_, _, hf', _⟩ => by
      rw [hf] at hf'; cases hf'⟩
  · subst hm
    exact hr.mockInv.charged

/-- With `dynamo.mock`: a Set charged and answered, then a Get prepaid, answered and recorded. -/
theorem charges_match_stats_mockRun :
    ∃ s, AReachable false true (fun _ => none) s ∧ s.ledger.wcuCharged 0 = 1 ∧
      s.ledger.rcuRecorded 1 = 1 ∧ s.ledger.netConsumed = s.ledger.statsNet := by
  have hr := AReachable.init.arun (rfl : arun false true (AState.init fun _ => none)
    [.set 1 "k" "v1", .issueSet, .charge, .mockDone none, .handle 0, .get 2 "x", .issueGet,
      .prepay, .mockDone (some "val"), .handle 0] = some _)
  exact ⟨_, hr, rfl, rfl, (charges_match_stats hr).1⟩

/-- A value of `n` bytes `v`, as `process_mock_dynamo` and `HOPPER.LOAD` build them. -/
lemma byteSize_replicate (n : Nat) : byteSize ⟨List.replicate n 'v'⟩ = n := by
  induction n with
  | zero => rfl
  | succ n ih =>
    simp only [byteSize, String.utf8ByteSize, List.replicate_succ, String.utf8ByteSize.go] at ih ⊢
    rw [ih]
    rfl

/-- One `HOPPER.SET` against real DynamoDB whose put fails before the storage thread charges
it: the charge is taken on the error text. -/
lemma arun_put_fails_first (v msg : String) :
    ∃ s, arun true false (AState.init fun _ => none)
        [.set 1 "K" v, .issueSet, .dynamoSet 0 (some msg), .charge] = some s ∧
      s.pc = .idle ∧ s.ledger.setIssued 0 = true ∧
      s.ledger.wcuRecorded 0 = kvToWcu 1 (byteSize v) ∧
      s.ledger.wcuCharged 0 = kvToWcu 1 (byteSize (writeFailurePrefix ++ msg)) % u32Size := by
  have hK : byteSize "K" = 1 := rfl
  refine ⟨_, rfl, rfl, rfl, ?_, ?_⟩ <;> simp [setAcct, Ledger.recordSetDone, Ledger.consumeNet,
    Ledger.chargeWcu, Ledger.init, TaskSet.wcuCost, AState.init, State.init, hK]

/-- Against real DynamoDB the storage thread charges a Set as it finds it after
`process_task_set`.  A put that fails first leaves the error text as the task's value, so a
2000-byte value recorded as two write units is charged one; a put that succeeds and whose reply
the command thread sends first leaves a freed task to read. -/
theorem set_charge_races :
    (∃ s, AReachable true false (fun _ => none) s ∧ s.pc = .idle ∧
      s.ledger.setIssued 0 = true ∧ s.ledger.wcuRecorded 0 = 2 ∧ s.ledger.wcuCharged 0 = 1) ∧
    ∃ s, AReachable true false (fun _ => none) s ∧ s.useAfterFree = true := by
  obtain ⟨s, ha, hpc, hi, hr, hc⟩ := arun_put_fails_first ⟨List.replicate 2000 'v'⟩ "e"
  have hb := AReachable.init.arun (rfl : arun true false (AState.init fun _ => none)
    [.set 1 "K" "v1", .issueSet, .dynamoSet 0 none, .handle 0, .charge] = some _)
  refine ⟨⟨s, AReachable.init.arun ha, hpc, hi, ?_, ?_⟩, _, hb, rfl⟩
  · rw [hr, byteSize_replicate]; rfl
  · rw [hc]; rfl

end DataPlane

end Hopper
