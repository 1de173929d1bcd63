import Hopper.DataPlane.Accounting
import Hopper.Ghost.Curve

/-!
# The statistics a tenant reports

`stats.cpp` keeps, in `resrc_stats`, what the allocator is told about a tenant: the requests,
hits and misses, what the requests consumed (`db_rcu_consump`, `db_wcu_consump`,
`net_bw_consump`), and the demand vector — what they would have consumed had every Get missed
(`*_if_miss`) or hit (`net_bw_consump_if_hit`).  `record_get_done` and `record_set_done` add
to them; `HOPPER.STATS` reports them after the ghost cache's curve.

## The demand vector

`replay_demand_counterfactual` states what the two demand counters are: the consumption of the
same requests with every Get turned into a miss, or into a hit.  `replay_demand_bracket`: the
actual consumption lies between them, and `db_rcu_consump` reaches its if-miss demand exactly
while no Get has hit.  Both are read off the abstract counters `StatsCall.netBw` and
`StatsCall.dbRcu`, which `record_netBwConsump` and its siblings show each call adds.

`replay_avgKvSize_between`: the running average of key-value sizes stays between the smallest
and the largest size it was fed.

## `HOPPER.STATS`

`collect_mem_stats` answers a failure with `return RedisModule_ReplyWithError(...)`, whose value
is `REDISMODULE_OK`; `RedisModule_HopperStats` therefore goes on and sends its array of 24
after the error.  `hopperStats_replies` counts the replies: one exactly when every field of
`MEMORY STATS` was fetched, and otherwise two.

The counters are unbounded naturals (`uint64_t` counters would need `2^64` units of traffic to
wrap), and `config::policy::alloc_total_net_bw` is `true`.
-/

namespace Hopper

namespace DataPlane

open Ghost (MemStats CurvePoint replyGhostStats)

/-! ## `resrc_stats` -/

/-- `stats::resrc_stats`. -/
structure ResrcStats where
  reqCnt : Nat
  hitCnt : Nat
  missCnt : Nat
  dbRcuConsumpIfMiss : Nat
  netBwConsumpIfMiss : Nat
  netBwConsumpIfHit : Nat
  dbRcuConsump : Nat
  dbWcuConsump : Nat
  netBwConsump : Nat
  avgKvSize : ℚ
  deriving DecidableEq, Repr

/-- `config::policy::alloc_total_net_bw`. -/
def allocTotalNetBw : Bool := true

/-- `config::stats::kv_size_decay_rate`. -/
def kvSizeDecayRate : ℚ := 99 / 100

/-- The update of the running average of key-value sizes: while the average is `0`, the size is
taken as it is. -/
def runningAvg (avg : ℚ) (currKvSize : Nat) : ℚ :=
  if avg ≠ 0 then avg * kvSizeDecayRate + currKvSize * (1 - kvSizeDecayRate) else currKvSize

namespace ResrcStats

/-- The initial `resrc_stats`: every counter `0`. -/
def init : ResrcStats := ⟨0, 0, 0, 0, 0, 0, 0, 0, 0, 0⟩

variable (s : ResrcStats)

/-- `stats::record_get_done(key_size, val_size, is_miss)`. -/
def recordGetDone (keySize valSize : Nat) (isMiss : Bool) : ResrcStats :=
  let s := { s with reqCnt := s.reqCnt + 1 }
  let s := if isMiss then { s with missCnt := s.missCnt + 1 } else { s with hitCnt := s.hitCnt + 1 }
  let dbRcu := kvToRcu keySize valSize
  let s := { s with dbRcuConsumpIfMiss := s.dbRcuConsumpIfMiss + dbRcu }
  let s := if isMiss then { s with dbRcuConsump := s.dbRcuConsump + dbRcu } else s
  let netBwClient := kvToNetGetClient keySize valSize
  let s := { s with
    netBwConsumpIfMiss := s.netBwConsumpIfMiss + netBwClient
    netBwConsumpIfHit := s.netBwConsumpIfHit + netBwClient
    netBwConsump := s.netBwConsump + netBwClient }
  let s := if allocTotalNetBw then
      let netBwStorage := kvToNetGetStorage keySize valSize
      let s := { s with netBwConsumpIfMiss := s.netBwConsumpIfMiss + netBwStorage }
      if isMiss then { s with netBwConsump := s.netBwConsump + netBwStorage } else s
    else s
  { s with avgKvSize := runningAvg s.avgKvSize (keySize + valSize) }

/-- `stats::record_set_done(key_size, val_size)`, under the current `cache.admit_write`. -/
def recordSetDone (admitWrite : Bool) (keySize valSize : Nat) : ResrcStats :=
  let s := { s with reqCnt := s.reqCnt + 1 }
  let s := { s with dbWcuConsump := s.dbWcuConsump + kvToWcu keySize valSize }
  let netBwClient := kvToNetSetClient keySize valSize
  let s := { s with
    netBwConsumpIfMiss := s.netBwConsumpIfMiss + netBwClient
    netBwConsumpIfHit := s.netBwConsumpIfHit + netBwClient
    netBwConsump := s.netBwConsump + netBwClient }
  let s := if allocTotalNetBw then
      let netBwStorage := kvToNetSetStorage keySize valSize
      { s with
        netBwConsumpIfMiss := s.netBwConsumpIfMiss + netBwStorage
        netBwConsumpIfHit := s.netBwConsumpIfHit + netBwStorage
        netBwConsump := s.netBwConsump + netBwStorage }
    else s
  if admitWrite then { s with avgKvSize := runningAvg s.avgKvSize (keySize + valSize) } else s

end ResrcStats

/-! ## Calls and what each adds -/

/-- A call into `stats.cpp`: `record_get_done` for a Get that hit (from `HOPPER.GET`) or
missed (from `storage_callback`), or `record_set_done` from `HOPPER.SET`, with the value
`cache.admit_write` had then. -/
inductive StatsCall
  | getDone (keySize valSize : Nat) (isMiss : Bool)
  | setDone (keySize valSize : Nat) (admitWrite : Bool)
  deriving DecidableEq, Repr

namespace StatsCall

/-- Whether the call records a Get that missed. -/
def missed : StatsCall → Bool
  | getDone _ _ m => m
  | setDone .. => false

/-- Whether the call records a Get that hit. -/
def hit : StatsCall → Bool
  | getDone _ _ m => !m
  | setDone .. => false

/-- The network bytes of the call, for a Get that missed (`miss`) or hit. -/
def netBw (miss : Bool) : StatsCall → Nat
  | getDone k v _ => kvToNetGetClient k v + if miss then kvToNetGetStorage k v else 0
  | setDone k v _ => kvToNetSetClient k v + kvToNetSetStorage k v

/-- The read units of the call, for a Get that missed (`miss`) or hit. -/
def dbRcu (miss : Bool) : StatsCall → Nat
  | getDone k v _ => if miss then kvToRcu k v else 0
  | setDone .. => 0

/-- The write units of the call. -/
def dbWcu : StatsCall → Nat
  | getDone .. => 0
  | setDone k v _ => kvToWcu k v

/-- The size the call feeds to the running average: a Get's, and a Set's under
`cache.admit_write`. -/
def avgSample : StatsCall → Option Nat
  | getDone k v _ => some (k + v)
  | setDone k v a => if a then some (k + v) else none

/-- The same call for a Get that missed. -/
def asMiss : StatsCall → StatsCall
  | getDone k v _ => getDone k v true
  | c => c

/-- The same call for a Get that hit. -/
def asHit : StatsCall → StatsCall
  | getDone k v _ => getDone k v false
  | c => c

@[simp] lemma netBw_asMiss (c : StatsCall) : c.asMiss.netBw c.asMiss.missed = c.netBw true := by
  cases c <;> rfl

@[simp] lemma dbRcu_asMiss (c : StatsCall) : c.asMiss.dbRcu c.asMiss.missed = c.dbRcu true := by
  cases c <;> rfl

@[simp] lemma netBw_asHit (c : StatsCall) : c.asHit.netBw c.asHit.missed = c.netBw false := by
  cases c <;> rfl

lemma netBw_false_le (c : StatsCall) (m : Bool) : c.netBw false ≤ c.netBw m := by
  cases c <;> cases m <;> simp [netBw]

lemma netBw_le_true (c : StatsCall) (m : Bool) : c.netBw m ≤ c.netBw true := by
  cases c <;> cases m <;> simp [netBw]

/-- A hit leaves at least one read unit of its if-miss demand unconsumed. -/
lemma dbRcu_missed_add_hit (c : StatsCall) :
    c.dbRcu c.missed + (if c.hit then 1 else 0) ≤ c.dbRcu true := by
  cases c <;> rename_i m <;> cases m <;> simp [dbRcu, missed, hit, kvToRcu]

lemma dbRcu_missed_of_hit_eq_false {c : StatsCall} (h : c.hit = false) :
    c.dbRcu c.missed = c.dbRcu true := by
  cases c <;> rename_i m <;> cases m <;> simp_all [dbRcu, missed, hit]

end StatsCall

namespace ResrcStats

/-- One call into `stats.cpp`. -/
def record (s : ResrcStats) : StatsCall → ResrcStats
  | .getDone k v m => s.recordGetDone k v m
  | .setDone k v a => s.recordSetDone a k v

/-- The calls `cs` in order. -/
def replay (s : ResrcStats) (cs : List StatsCall) : ResrcStats := cs.foldl record s

variable (s : ResrcStats) (c : StatsCall)

@[simp] lemma record_netBwConsump :
    (s.record c).netBwConsump = s.netBwConsump + c.netBw c.missed := by
  cases c <;> rename_i m <;> cases m <;> simp [record, recordGetDone, recordSetDone,
    allocTotalNetBw, StatsCall.netBw, StatsCall.missed] <;> omega

@[simp] lemma record_netBwConsumpIfMiss :
    (s.record c).netBwConsumpIfMiss = s.netBwConsumpIfMiss + c.netBw true := by
  cases c <;> rename_i m <;> cases m <;> simp [record, recordGetDone, recordSetDone,
    allocTotalNetBw, StatsCall.netBw] <;> omega

@[simp] lemma record_netBwConsumpIfHit :
    (s.record c).netBwConsumpIfHit = s.netBwConsumpIfHit + c.netBw false := by
  cases c <;> rename_i m <;> cases m <;> simp [record, recordGetDone, recordSetDone,
    allocTotalNetBw, StatsCall.netBw] <;> omega

@[simp] lemma record_dbRcuConsump :
    (s.record c).dbRcuConsump = s.dbRcuConsump + c.dbRcu c.missed := by
  cases c <;> rename_i m <;> cases m <;> simp [record, recordGetDone, recordSetDone,
    allocTotalNetBw, StatsCall.dbRcu, StatsCall.missed]

@[simp] lemma record_dbRcuConsumpIfMiss :
    (s.record c).dbRcuConsumpIfMiss = s.dbRcuConsumpIfMiss + c.dbRcu true := by
  cases c <;> rename_i m <;> cases m <;> simp [record, recordGetDone, recordSetDone,
    allocTotalNetBw, StatsCall.dbRcu]

@[simp] lemma record_hitCnt : (s.record c).hitCnt = s.hitCnt + if c.hit then 1 else 0 := by
  cases c <;> rename_i m <;> cases m <;> simp [record, recordGetDone, recordSetDone,
    allocTotalNetBw, StatsCall.hit]

@[simp] lemma record_avgKvSize : (s.record c).avgKvSize =
    match c.avgSample with
    | some n => runningAvg s.avgKvSize n
    | none => s.avgKvSize := by
  cases c <;> rename_i m <;> cases m <;> simp [record, recordGetDone, recordSetDone,
    allocTotalNetBw, StatsCall.avgSample]

lemma replay_cons (cs : List StatsCall) : s.replay (c :: cs) = (s.record c).replay cs := rfl

/-- Each counter of the demand vector is its initial value plus what each call adds. -/
lemma replay_counters (cs : List StatsCall) :
    (s.replay cs).netBwConsump = s.netBwConsump + (cs.map fun c => c.netBw c.missed).sum ∧
    (s.replay cs).netBwConsumpIfMiss = s.netBwConsumpIfMiss + (cs.map (·.netBw true)).sum ∧
    (s.replay cs).netBwConsumpIfHit = s.netBwConsumpIfHit + (cs.map (·.netBw false)).sum ∧
    (s.replay cs).dbRcuConsump = s.dbRcuConsump + (cs.map fun c => c.dbRcu c.missed).sum ∧
    (s.replay cs).dbRcuConsumpIfMiss = s.dbRcuConsumpIfMiss + (cs.map (·.dbRcu true)).sum := by
  induction cs generalizing s with
  | nil => simp [replay]
  | cons c cs ih =>
    obtain ⟨h1, h2, h3, h4, h5⟩ := ih (s.record c)
    simp only [replay_cons, h1, h2, h3, h4, h5, record_netBwConsump, record_netBwConsumpIfMiss,
      record_netBwConsumpIfHit, record_dbRcuConsump, record_dbRcuConsumpIfMiss, List.map_cons,
      List.sum_cons]
    omega

/-! ## The demand vector -/

/-- **The demand counters are counterfactual consumptions.**  From the initial statistics, after
any calls, `db_rcu_consump_if_miss` and `net_bw_consump_if_miss` are what `db_rcu_consump` and
`net_bw_consump` would be had every Get missed, and `net_bw_consump_if_hit` what
`net_bw_consump` would be had every Get hit. -/
theorem replay_demand_counterfactual (cs : List StatsCall) :
    (init.replay cs).dbRcuConsumpIfMiss = (init.replay (cs.map StatsCall.asMiss)).dbRcuConsump ∧
    (init.replay cs).netBwConsumpIfMiss = (init.replay (cs.map StatsCall.asMiss)).netBwConsump ∧
    (init.replay cs).netBwConsumpIfHit = (init.replay (cs.map StatsCall.asHit)).netBwConsump := by
  obtain ⟨-, h2, h3, -, h5⟩ := replay_counters init cs
  obtain ⟨h1', -, -, h4', -⟩ := replay_counters init (cs.map StatsCall.asMiss)
  obtain ⟨h1'', -⟩ := replay_counters init (cs.map StatsCall.asHit)
  simp only [h2, h3, h5, h1', h4', h1'', List.map_map, Function.comp_def,
    StatsCall.netBw_asMiss, StatsCall.dbRcu_asMiss, StatsCall.netBw_asHit]
  exact ⟨rfl, rfl, rfl⟩

/-- What the counters keep over any calls: the network bytes consumed lie between their demands
if every Get hit and if every Get missed, each hit leaves a read unit of the if-miss demand
unconsumed, the read units meet their demand while no Get has hit, and the running average is
not negative. -/
structure DemandInv (s : ResrcStats) : Prop where
  hit_le : s.netBwConsumpIfHit ≤ s.netBwConsump
  le_miss : s.netBwConsump ≤ s.netBwConsumpIfMiss
  rcu_add_hits_le : s.dbRcuConsump + s.hitCnt ≤ s.dbRcuConsumpIfMiss
  rcu_eq_of_no_hit : s.hitCnt = 0 → s.dbRcuConsump = s.dbRcuConsumpIfMiss
  avg_nonneg : 0 ≤ s.avgKvSize

lemma DemandInv.init : DemandInv init := ⟨le_rfl, le_rfl, le_rfl, fun _ => rfl, le_rfl⟩

lemma runningAvg_nonneg {avg : ℚ} (h : 0 ≤ avg) (n : Nat) : 0 ≤ runningAvg avg n := by
  unfold runningAvg kvSizeDecayRate
  split_ifs <;> positivity

lemma DemandInv.record {s : ResrcStats} (h : DemandInv s) (c : StatsCall) :
    DemandInv (s.record c) where
  hit_le := by
    have := c.netBw_false_le c.missed; have := h.hit_le
    simp only [record_netBwConsump, record_netBwConsumpIfHit]; omega
  le_miss := by
    have := c.netBw_le_true c.missed; have := h.le_miss
    simp only [record_netBwConsump, record_netBwConsumpIfMiss]; omega
  rcu_add_hits_le := by
    have := c.dbRcu_missed_add_hit; have := h.rcu_add_hits_le
    simp only [record_dbRcuConsump, record_dbRcuConsumpIfMiss, record_hitCnt]; omega
  rcu_eq_of_no_hit := by
    simp only [record_dbRcuConsump, record_dbRcuConsumpIfMiss, record_hitCnt]
    intro h0
    have hhit : c.hit = false := by by_contra hc; simp [hc] at h0
    rw [h.rcu_eq_of_no_hit (by omega), StatsCall.dbRcu_missed_of_hit_eq_false hhit]
  avg_nonneg := by
    rw [record_avgKvSize]
    split
    · exact runningAvg_nonneg h.avg_nonneg _
    · exact h.avg_nonneg

lemma DemandInv.replay {s : ResrcStats} (h : DemandInv s) (cs : List StatsCall) :
    DemandInv (s.replay cs) := by
  induction cs generalizing s with
  | nil => exact h
  | cons c cs ih => exact ih (h.record c)

/-- **The consumption lies within the demand vector.**  From the initial statistics, after any
calls, the network bytes consumed lie between the if-hit and the if-miss demand, and the read
units consumed equal their if-miss demand exactly when no Get has hit. -/
theorem replay_demand_bracket (cs : List StatsCall) :
    (init.replay cs).netBwConsumpIfHit ≤ (init.replay cs).netBwConsump ∧
    (init.replay cs).netBwConsump ≤ (init.replay cs).netBwConsumpIfMiss ∧
    ((init.replay cs).dbRcuConsump = (init.replay cs).dbRcuConsumpIfMiss ↔
      (init.replay cs).hitCnt = 0) := by
  have h := DemandInv.init.replay cs
  refine ⟨h.hit_le, h.le_miss, fun heq => ?_, h.rcu_eq_of_no_hit⟩
  have := h.rcu_add_hits_le
  omega

/-! ## The running average -/

lemma runningAvg_between {avg : ℚ} {lo hi n : Nat} (hn : lo ≤ n ∧ n ≤ hi)
    (h : ((lo : ℚ) ≤ avg ∧ avg ≤ hi) ∨ avg = 0) :
    (lo : ℚ) ≤ runningAvg avg n ∧ runningAvg avg n ≤ hi := by
  have hlo : (lo : ℚ) ≤ n := by exact_mod_cast hn.1
  have hhi : (n : ℚ) ≤ hi := by exact_mod_cast hn.2
  unfold runningAvg kvSizeDecayRate
  split_ifs with h0
  · obtain ⟨h1, h2⟩ := h.resolve_right h0
    constructor <;> linarith only [h1, h2, hlo, hhi]
  · exact ⟨hlo, hhi⟩

/-- Over calls whose sizes lie between `lo` and `hi`, an average that starts there (or at `0`)
ends there, unless no call fed it and it did not move. -/
lemma replay_avgKvSize {lo hi : Nat} (s : ResrcStats) (cs : List StatsCall)
    (hin : ∀ c ∈ cs, ∀ n ∈ c.avgSample, lo ≤ n ∧ n ≤ hi)
    (hs : ((lo : ℚ) ≤ s.avgKvSize ∧ s.avgKvSize ≤ hi) ∨ s.avgKvSize = 0) :
    ((lo : ℚ) ≤ (s.replay cs).avgKvSize ∧ (s.replay cs).avgKvSize ≤ hi) ∨
      ((s.replay cs).avgKvSize = s.avgKvSize ∧ ∀ c ∈ cs, c.avgSample = none) := by
  induction cs generalizing s with
  | nil => exact .inr ⟨rfl, fun _ h => absurd h (List.not_mem_nil _)⟩
  | cons c cs ih =>
    have hcs : ∀ c ∈ cs, ∀ n ∈ c.avgSample, lo ≤ n ∧ n ≤ hi :=
      fun c' hc' => hin c' (List.mem_cons_of_mem _ hc')
    rw [replay_cons]
    cases hc : c.avgSample with
    | some n =>
      have hnew := runningAvg_between (hin c (List.mem_cons_self _ _) n hc) hs
      have hrec : (s.record c).avgKvSize = runningAvg s.avgKvSize n := by simp [hc]
      rcases ih (s.record c) hcs (.inl (hrec ▸ hnew)) with h | ⟨h, -⟩
      · exact .inl h
      · exact .inl (h ▸ hrec ▸ hnew)
    | none =>
      have hrec : (s.record c).avgKvSize = s.avgKvSize := by simp [hc]
      rcases ih (s.record c) hcs (hrec ▸ hs) with h | ⟨h, hnone⟩
      · exact .inl h
      · refine .inr ⟨h.trans hrec, fun c' hc' => ?_⟩
        rcases List.mem_cons.mp hc' with rfl | hc'
        · exact hc
        · exact hnone c' hc'

/-- **The running average stays within the sizes it was fed.**  From the initial statistics,
once a Get (or a Set under `cache.admit_write`) has fed it, `avg_kv_size` lies between the
smallest and the largest key-value size fed. -/
theorem replay_avgKvSize_between (cs : List StatsCall) {lo hi : Nat}
    (hin : ∀ c ∈ cs, ∀ n ∈ c.avgSample, lo ≤ n ∧ n ≤ hi) (hfed : ∃ c ∈ cs, c.avgSample ≠ none) :
    (lo : ℚ) ≤ (init.replay cs).avgKvSize ∧ (init.replay cs).avgKvSize ≤ hi := by
  rcases replay_avgKvSize init cs hin (.inr rfl) with h | ⟨-, hnone⟩
  · exact h
  · obtain ⟨c, hc, hne⟩ := hfed
    exact absurd (hnone c hc) hne

/-- A Get of 516 bytes and an admitted Set of 416. -/
theorem replay_avgKvSize_between_getSet :
    (∀ c ∈ [StatsCall.getDone 16 500 true, .setDone 16 400 true], ∀ n ∈ c.avgSample,
      416 ≤ n ∧ n ≤ 516) ∧
    (∃ c ∈ [StatsCall.getDone 16 500 true, .setDone 16 400 true], c.avgSample ≠ none) ∧
    ((416 : Nat) : ℚ) ≤ (init.replay [.getDone 16 500 true, .setDone 16 400 true]).avgKvSize ∧
    (init.replay [.getDone 16 500 true, .setDone 16 400 true]).avgKvSize ≤ ((516 : Nat) : ℚ) := by
  have hin : ∀ c ∈ [StatsCall.getDone 16 500 true, .setDone 16 400 true], ∀ n ∈ c.avgSample,
      416 ≤ n ∧ n ≤ 516 := by decide
  have hfed : ∃ c ∈ [StatsCall.getDone 16 500 true, .setDone 16 400 true], c.avgSample ≠ none :=
    ⟨_, List.mem_cons_self _ _, by decide⟩
  exact ⟨hin, hfed, replay_avgKvSize_between _ hin hfed⟩

end ResrcStats

/-! ## `collect_mem_stats` -/

/-- An element of the array `MEMORY STATS` replies with. -/
inductive CallReply
  | string (s : List Char)
  | integer (n : Int)
  | other
  deriving DecidableEq, Repr

/-- The five fields `collect_mem_stats` fetches. -/
inductive MemField
  | totalAllocated
  | keysCount
  | startupAllocated
  | clientsNormal
  | functionsCaches
  deriving DecidableEq, Repr

/-- Store `n` in a field. -/
def MemField.set (ms : MemStats) (n : Int) : MemField → MemStats
  | totalAllocated => { ms with totalAllocated := n }
  | keysCount => { ms with keysCount := n }
  | startupAllocated => { ms with startupAllocated := n }
  | clientsNormal => { ms with clientsNormal := n }
  | functionsCaches => { ms with functionsCaches := n }

/-- The field a name of `MEMORY STATS` is stored in: the first of `collect_mem_stats`'s
comparisons by `utils::rstr::strcmp` that holds. -/
def memField (name : List Char) : Option MemField :=
  if rstrcmp name "total.allocated" = 0 then some .totalAllocated
  else if rstrcmp name "keys.count" = 0 then some .keysCount
  else if rstrcmp name "startup.allocated" = 0 then some .startupAllocated
  else if rstrcmp name "clients.normal" = 0 then some .clientsNormal
  else if rstrcmp name "functions.caches" = 0 then some .functionsCaches
  else none

/-- The loop of `collect_mem_stats` over the elements of the reply: a string that names a field
is followed by its integer.  `none`: an `assert` fails, the name being the last element or
followed by something else. -/
def collectLoop (ms : MemStats) : List CallReply → Option MemStats
  | [] => some ms
  | .string name :: (tail@(.integer n :: rest)) =>
    match memField name with
    | some f => collectLoop (f.set ms n) rest
    | none => collectLoop ms tail
  | .string name :: rest =>
    match memField name with
    | some _ => none
    | none => collectLoop ms rest
  | _ :: rest => collectLoop ms rest

/-- The error for the first field `collect_mem_stats` finds negative (not fetched). -/
def fetchError (ms : MemStats) : Option String :=
  if ms.totalAllocated < 0 then some "ERR Fail to fetch <total.allocated>"
  else if ms.keysCount < 0 then some "ERR Fail to fetch <keys.count>"
  else if ms.startupAllocated < 0 then some "ERR Fail to fetch <startup.allocated>"
  else if ms.clientsNormal < 0 then some "ERR Fail to fetch <clients.normal>"
  else if ms.functionsCaches < 0 then some "ERR Fail to fetch <functions.caches>"
  else none

/-- `stats::collect_mem_stats(ctx, ms)` on the reply of `MEMORY STATS` (`none` for a reply that
is not an array): the statistics it leaves in `ms`, and what it replied — an error, or nothing.
It returns `REDISMODULE_OK` either way.  `none` outside: an `assert` fails. -/
def collectMemStats (avgKvSize : ℚ) (memoryStats : Option (List CallReply)) :
    Option (MemStats × List Tok) :=
  let ms : MemStats := ⟨-1, -1, -1, -1, -1, avgKvSize⟩
  match memoryStats with
  | none => some (ms, [.error "ERR Fail to call <MEMORY STATS>"])
  | some elems => (collectLoop ms elems).map fun ms => (ms, (fetchError ms).toList.map .error)

/-! ## `HOPPER.STATS` -/

/-- What `HOPPER.STATS` reports of `resrc_stats`, after the ghost cache's curve. -/
def statsCounters (s : ResrcStats) : List Tok :=
  [.simple "req_cnt", .longLong s.reqCnt, .simple "hit_cnt", .longLong s.hitCnt,
    .simple "miss_cnt", .longLong s.missCnt,
    .simple "db_rcu_consump_if_miss", .longLong s.dbRcuConsumpIfMiss,
    .simple "net_bw_consump_if_miss", .longLong s.netBwConsumpIfMiss,
    .simple "net_bw_consump_if_hit", .longLong s.netBwConsumpIfHit,
    .simple "db_rcu_consump", .longLong s.dbRcuConsump,
    .simple "db_wcu_consump", .longLong s.dbWcuConsump,
    .simple "net_bw_consump", .longLong s.netBwConsump]

/-- `RedisModule_HopperStats` with `argc` arguments, on `resrc_stats`, the reply of
`MEMORY STATS` and the ghost cache's curve: what `collect_mem_stats` replied, then the array of
24 — the ghost cache's six elements and eighteen of `resrc_stats`. -/
def hopperStats (argc : Nat) (s : ResrcStats) (memoryStats : Option (List CallReply))
    (curve : List CurvePoint) : Option (List Tok) :=
  if argc ≠ 1 then some [.wrongArity] else do
    let (ms, collected) ← collectMemStats s.avgKvSize memoryStats
    -- `ret` is `REDISMODULE_OK` whatever `collect_mem_stats` replied
    let ghost ← replyGhostStats ms curve
    pure (collected ++ .array 24 :: ghost ++ statsCounters s)

/-- A stream holds one number of replies. -/
lemma completeReplies_unique {m n : Nat} {ts : List Tok} (hm : completeReplies m ts = true)
    (hn : completeReplies n ts = true) : m = n := by
  induction ts generalizing m n with
  | nil => cases m <;> cases n <;> simp_all [completeReplies]
  | cons t ts ih =>
    cases m with
    | zero => simp [completeReplies] at hm
    | succ m =>
      cases n with
      | zero => simp [completeReplies] at hn
      | succ n =>
        cases t <;> simp only [completeReplies] at hm hn <;> have := ih hm hn <;> omega

/-- `collect_mem_stats` replies at most once, and only with an error. -/
lemma collectMemStats_reply {avg : ℚ} {memoryStats : Option (List CallReply)} {ms : MemStats}
    {collected : List Tok} (h : collectMemStats avg memoryStats = some (ms, collected)) :
    collected = [] ∨ ∃ msg, collected = [.error msg] := by
  unfold collectMemStats at h
  rcases memoryStats with _ | elems
  · simp only [Option.some.injEq, Prod.mk.injEq] at h
    exact .inr ⟨_, h.2.symm⟩
  · simp only [Option.map_eq_some', Prod.mk.injEq] at h
    obtain ⟨a, -, -, rfl⟩ := h
    cases fetchError a <;> simp

/-- **`HOPPER.STATS` replies twice when `MEMORY STATS` lacks a field.**  Whatever the statistics
and the curve (of fewer than `2^32 - 1` tiers), the handler's output is one reply exactly when
`collect_mem_stats` replied nothing, and otherwise two: its error, then the array of 24 that
the client reads as the reply to its next command. -/
theorem hopperStats_replies {s : ResrcStats} {memoryStats : Option (List CallReply)}
    {curve : List CurvePoint} {out : List Tok} (hlen : curve.length + 1 < u32Size)
    (h : hopperStats 1 s memoryStats curve = some out) :
    (completeReplies 1 out = true ↔ ∃ ms, collectMemStats s.avgKvSize memoryStats = some (ms, [])) ∧
    ((∀ ms, collectMemStats s.avgKvSize memoryStats ≠ some (ms, [])) →
      completeReplies 2 out = true) := by
  simp only [hopperStats, ne_eq, not_true_eq_false, if_false, Option.bind_eq_bind,
    Option.bind_eq_some, Prod.exists, Option.pure_def, Option.some.injEq] at h
  obtain ⟨ms, collected, hcol, ghost, hghost, rfl⟩ := h
  have hrest : completeReplies 1 (.array 24 :: ghost ++ statsCounters s) = true := by
    apply completeReplies_array
    have h18 : completeReplies 18 (statsCounters s) = true := rfl
    exact (completeReplies_append (Ghost.replyGhostStats_complete hlen hghost) 18 _).trans h18
  rcases collectMemStats_reply hcol with rfl | ⟨msg, rfl⟩
  · exact ⟨⟨fun _ => ⟨ms, hcol⟩, fun _ => hrest⟩, fun hne => absurd hcol (hne ms)⟩
  · have h2 : completeReplies 2 ([.error msg] ++ .array 24 :: ghost ++ statsCounters s) = true :=
      (completeReplies_scalar (t := .error msg) trivial 1 _).trans hrest
    refine ⟨⟨fun h1 => absurd (completeReplies_unique h1 h2) (by decide), ?_⟩, fun _ => h2⟩
    rintro ⟨ms', hms'⟩
    rw [hcol] at hms'
    simp at hms'

/-- An empty `MEMORY STATS` reply on fresh statistics: `collect_mem_stats` replies that
`total.allocated` is missing, and the client receives two replies. -/
theorem hopperStats_replies_empty :
    ∃ out, hopperStats 1 ResrcStats.init (some []) [] = some out ∧
      ([] : List CurvePoint).length + 1 < u32Size ∧
      (completeReplies 1 out = true ↔
        ∃ ms, collectMemStats ResrcStats.init.avgKvSize (some []) = some (ms, [])) ∧
      ((∀ ms, collectMemStats ResrcStats.init.avgKvSize (some []) ≠ some (ms, [])) →
        completeReplies 2 out = true) := by
  have hlen : ([] : List CurvePoint).length + 1 < u32Size := by decide
  have h : hopperStats 1 ResrcStats.init (some []) [] = some
      ([.error "ERR Fail to fetch <total.allocated>"] ++
        .array 24 :: Ghost.nullGhostStats ++ statsCounters ResrcStats.init) := by
    simp [hopperStats, collectMemStats, collectLoop, fetchError, Ghost.replyGhostStats]
  exact ⟨_, h, hlen, hopperStats_replies hlen h⟩

end DataPlane

end Hopper
