import Hopper.DataPlane.Load
import Hopper.DataPlane.Resp
import Hopper.Alloc.Params
import Hopper.Rate.Limiter
import Mathlib.Logic.Relation

/-!
# `HOPPER.RESRC.*` and `HOPPER.BARRIER.*`

The allocator drives each server with two groups of commands.

## Resources

`HOPPER.RESRC.SET <cache_size> <db_rcu> <db_wcu> <net_bw>` applies an allocation: a cache size
goes to Redis as `CONFIG SET MAXMEMORY`, each rate is proposed to its limiter (which takes it at
the start of its next frame), and a negative value leaves its resource alone.
`HOPPER.RESRC.GET` reports `resrc::allocated_resrc`, the record of what was applied.

* `resrcSet_eq_of_error`: a command that does not reply `OK` changes nothing.
* `resrcGet_reports`: in every state reached from the module's start, what `HOPPER.RESRC.GET`
  reports is what is in force, with two exceptions: the cache size is reported modulo `2^32`
  (the record holds a `uint32_t`), and a rate that was never set is reported as `0` while its
  limiter runs at the rate it was built with.

## The barrier

`HOPPER.BARRIER.WAIT` blocks its client, `HOPPER.BARRIER.SIGNAL` unblocks every blocked client
(each is then sent `OK` by `wait_callback`), and `HOPPER.BARRIER.COUNT` replies the number of
clients blocked.  `barrierRun_released`: over every run, the clients released, followed by those
still blocked, are exactly the clients that waited, in order, so that no wait is lost or released
twice; the clients still blocked are those that waited since the last signal.
-/

namespace Hopper

namespace DataPlane

open Rate (RateLimiter)

/-! ## `HOPPER.RESRC.SET` and `HOPPER.RESRC.GET` -/

/-- `resrc::allocated_resrc`. -/
structure AllocatedResrc where
  /-- A `uint32_t`. -/
  cacheSize : Nat
  dbRcu : ℚ
  dbWcu : ℚ
  netBw : ℚ
  deriving DecidableEq, Repr

/-- What the resource commands read and write: the record they report, Redis's `maxmemory`, and
the three rate limiters (`storage`'s read and write unit limiters, `network`'s byte limiter). -/
structure ResrcState where
  allocated : AllocatedResrc
  maxmemory : Int
  rcuLimiter : RateLimiter
  wcuLimiter : RateLimiter
  netLimiter : RateLimiter
  deriving DecidableEq, Repr

/-- The state after the module loads, at clock reading `now`, with Redis's own `maxmemory`: the
record is zero and the limiters run at the rates they were built with. -/
def ResrcState.init (maxmemory : Int) (now : ℚ) : ResrcState :=
  ⟨⟨0, 0, 0, 0⟩, maxmemory, RateLimiter.new 1000000 now, RateLimiter.new 1000000 now,
    RateLimiter.new 1000000000 now⟩

/-- What the handler asks of Redis: its number parsers (`none` for `REDISMODULE_ERR`), and
whether `CONFIG SET MAXMEMORY <n>` replies with a string. -/
structure ResrcEnv where
  /-- `RedisModule_StringToLongLong`. -/
  stringToLongLong : List Char → Option Int
  /-- `RedisModule_StringToDouble`. -/
  stringToDouble : List Char → Option ℚ
  /-- `RedisModule_CallReplyType(r) == REDISMODULE_REPLY_STRING` for
  `RedisModule_Call(ctx, "CONFIG", "ccl", "SET", "MAXMEMORY", n)`. -/
  setMaxmemory : Int → Bool

/-- The cache size of a parsed `HOPPER.RESRC.SET`, once `CONFIG SET MAXMEMORY` has succeeded:
a non-negative value becomes Redis's `maxmemory` and is recorded as a `uint32_t`; a negative one
is skipped.  Returns `maxmemory` and the record. -/
def setCacheSize (x maxmemory : Int) (recorded : Nat) : Int × Nat :=
  if 0 ≤ x then (x, (x % (u32Size : Int)).toNat) else (maxmemory, recorded)

/-- One rate of a parsed `HOPPER.RESRC.SET` (`db_rcu`, `db_wcu` or `net_bw`): a non-negative
value is proposed to its limiter (`storage::set_rcu_limit`, `storage::set_wcu_limit`,
`network::set_net_limit`, each a `propose_new_rate`) and recorded; a negative one is skipped.
Returns the limiter and the record. -/
def setRate (x : ℚ) (l : RateLimiter) (recorded : ℚ) : RateLimiter × ℚ :=
  if 0 ≤ x then (l.proposeNewRate x, x) else (l, recorded)

/-- The four updates of a parsed `HOPPER.RESRC.SET`, in the order of the source. -/
def applyResrc (s : ResrcState) (cacheSize : Int) (dbRcu dbWcu netBw : ℚ) : ResrcState :=
  let cache := setCacheSize cacheSize s.maxmemory s.allocated.cacheSize
  let rcu := setRate dbRcu s.rcuLimiter s.allocated.dbRcu
  let wcu := setRate dbWcu s.wcuLimiter s.allocated.dbWcu
  let net := setRate netBw s.netLimiter s.allocated.netBw
  ⟨⟨cache.2, rcu.2, wcu.2, net.2⟩, cache.1, rcu.1, wcu.1, net.1⟩

/-- `RedisModule_HopperResrcSet` on `argv`: the reply and the new state. -/
def resrcSet (env : ResrcEnv) (s : ResrcState) : List (List Char) → List Tok × ResrcState
  | [_, cacheSizeArg, dbRcuArg, dbWcuArg, netBwArg] =>
    match env.stringToLongLong cacheSizeArg, env.stringToDouble dbRcuArg,
      env.stringToDouble dbWcuArg, env.stringToDouble netBwArg with
    | none, _, _, _ => ([.error "ERR Fail to parse <cache_size>"], s)
    | some _, none, _, _ => ([.error "ERR Fail to parse <db_rcu>"], s)
    | some _, some _, none, _ => ([.error "ERR Fail to parse <db_wcu>"], s)
    | some _, some _, some _, none => ([.error "ERR Fail to parse <net_bw>"], s)
    | some cacheSize, some dbRcu, some dbWcu, some netBw =>
      if 0 ≤ cacheSize ∧ env.setMaxmemory cacheSize = false then
        ([.error "ERR Fail to set cache size"], s)
      else ([.simple "OK"], applyResrc s cacheSize dbRcu dbWcu netBw)
  | _ => ([.wrongArity], s)

/-- `RedisModule_HopperResrcGet` with `argc` arguments. -/
def resrcGet (s : ResrcState) (argc : Nat) : List Tok :=
  if argc ≠ 1 then [.wrongArity]
  else [.array 4, .longLong s.allocated.cacheSize, .longDouble s.allocated.dbRcu,
    .longDouble s.allocated.dbWcu, .longDouble s.allocated.netBw]

/-- What one `HOPPER.RESRC.SET` can do: refuse, and change nothing, or reply `OK` and apply the
values it parsed. -/
lemma resrcSet_cases {env : ResrcEnv} {s s' : ResrcState} {argv : List (List Char)}
    {r : List Tok} (h : resrcSet env s argv = (r, s')) :
    r ≠ [.simple "OK"] ∧ s' = s ∨
      ∃ cacheSize dbRcu dbWcu netBw, r = [.simple "OK"] ∧
        s' = applyResrc s cacheSize dbRcu dbWcu netBw := by
  unfold resrcSet at h
  split at h
  · split at h
    · cases h; exact .inl ⟨nofun, rfl⟩
    · cases h; exact .inl ⟨nofun, rfl⟩
    · cases h; exact .inl ⟨nofun, rfl⟩
    · cases h; exact .inl ⟨nofun, rfl⟩
    · split at h
      · cases h; exact .inl ⟨nofun, rfl⟩
      · cases h; exact .inr ⟨_, _, _, _, rfl, rfl⟩
  · cases h; exact .inl ⟨nofun, rfl⟩

/-- **A refused `HOPPER.RESRC.SET` changes nothing.**  Every reply other than `OK` (a wrong
arity, a value that does not parse, a `CONFIG SET MAXMEMORY` that fails) comes before the first
update. -/
lemma resrcSet_eq_of_error {env : ResrcEnv} {s s' : ResrcState} {argv : List (List Char)}
    {r : List Tok} (h : resrcSet env s argv = (r, s')) (hr : r ≠ [.simple "OK"]) : s' = s := by
  obtain ⟨-, rfl⟩ | ⟨_, _, _, _, rfl, -⟩ := resrcSet_cases h
  · rfl
  · exact absurd rfl hr

/-- A reported value against the value in force: equal, or neither has been set yet, the report
holding `r0` and the value in force `f0`. -/
def Agrees {α : Type} (reported inForce r0 f0 : α) : Prop :=
  reported = inForce ∨ reported = r0 ∧ inForce = f0

/-- What `HOPPER.RESRC.GET` reports against what is in force, from a start where Redis's
`maxmemory` was `m0`. -/
structure ResrcState.Reports (m0 : Int) (s : ResrcState) : Prop where
  cacheSize : (s.allocated.cacheSize : Int) = s.maxmemory % u32Size ∨
    s.allocated.cacheSize = 0 ∧ s.maxmemory = m0
  dbRcu : Agrees s.allocated.dbRcu s.rcuLimiter.proposedRate 0 1000000
  dbWcu : Agrees s.allocated.dbWcu s.wcuLimiter.proposedRate 0 1000000
  netBw : Agrees s.allocated.netBw s.netLimiter.proposedRate 0 1000000000

lemma ResrcState.reports_init (m0 : Int) (now : ℚ) : (ResrcState.init m0 now).Reports m0 :=
  ⟨.inr ⟨rfl, rfl⟩, .inr ⟨rfl, rfl⟩, .inr ⟨rfl, rfl⟩, .inr ⟨rfl, rfl⟩⟩

lemma setCacheSize_reports {x maxmemory m0 : Int} {recorded : Nat}
    (h : (recorded : Int) = maxmemory % u32Size ∨ recorded = 0 ∧ maxmemory = m0) :
    ((setCacheSize x maxmemory recorded).2 : Int) = (setCacheSize x maxmemory recorded).1 % u32Size ∨
      (setCacheSize x maxmemory recorded).2 = 0 ∧ (setCacheSize x maxmemory recorded).1 = m0 := by
  unfold setCacheSize
  split
  · left
    simp only [u32Size, Nat.reducePow, Nat.cast_ofNat]
    omega
  · exact h

lemma setRate_agrees {x r0 f0 recorded : ℚ} {l : RateLimiter}
    (h : Agrees recorded l.proposedRate r0 f0) :
    Agrees (setRate x l recorded).2 (setRate x l recorded).1.proposedRate r0 f0 := by
  unfold setRate
  split
  · exact .inl rfl
  · exact h

lemma ResrcState.Reports.applyResrc {m0 : Int} {s : ResrcState} (h : s.Reports m0)
    (cacheSize : Int) (dbRcu dbWcu netBw : ℚ) :
    (applyResrc s cacheSize dbRcu dbWcu netBw).Reports m0 :=
  ⟨setCacheSize_reports h.cacheSize, setRate_agrees h.dbRcu, setRate_agrees h.dbWcu,
    setRate_agrees h.netBw⟩

/-- One `HOPPER.RESRC.SET` that replies takes `s` to `s'`. -/
def ResrcStep (env : ResrcEnv) (s s' : ResrcState) : Prop :=
  ∃ argv r, resrcSet env s argv = (r, s')

lemma ResrcState.Reports.resrcSet {m0 : Int} {env : ResrcEnv} {s s' : ResrcState}
    {argv : List (List Char)} {r : List Tok} (hs : s.Reports m0)
    (h : DataPlane.resrcSet env s argv = (r, s')) : s'.Reports m0 := by
  obtain ⟨-, rfl⟩ | ⟨_, _, _, _, -, rfl⟩ := resrcSet_cases h
  · exact hs
  · exact hs.applyResrc _ _ _ _

/-- **What `HOPPER.RESRC.GET` reports.**  In every state reached from the module's start by
`HOPPER.RESRC.SET` commands, the reported cache size is Redis's `maxmemory` modulo `2^32`, and
each reported rate is the rate last proposed to its limiter; the only other case is a value never
set, reported as `0` while Redis keeps its own `maxmemory` and the limiter the rate it was built
with (a million read units, a million write units, a billion bytes a second). -/
theorem resrcGet_reports (env : ResrcEnv) (m0 : Int) (now : ℚ) {s : ResrcState}
    (hrun : Relation.ReflTransGen (ResrcStep env) (ResrcState.init m0 now) s) :
    ∃ (cacheSize : Nat) (dbRcu dbWcu netBw : ℚ),
      resrcGet s 1 = [.array 4, .longLong cacheSize, .longDouble dbRcu, .longDouble dbWcu,
        .longDouble netBw] ∧
      ((cacheSize : Int) = s.maxmemory % u32Size ∨ cacheSize = 0 ∧ s.maxmemory = m0) ∧
      Agrees dbRcu s.rcuLimiter.proposedRate 0 1000000 ∧
      Agrees dbWcu s.wcuLimiter.proposedRate 0 1000000 ∧
      Agrees netBw s.netLimiter.proposedRate 0 1000000000 := by
  have h : s.Reports m0 := by
    induction hrun with
    | refl => exact ResrcState.reports_init m0 now
    | tail _ hs ih =>
      obtain ⟨_, _, hs⟩ := hs
      exact ih.resrcSet hs
  exact ⟨_, _, _, _, rfl, h.cacheSize, h.dbRcu, h.dbWcu, h.netBw⟩

/-- The example environment of the witnesses: numbers are parsed digit by digit, and
`CONFIG SET MAXMEMORY` succeeds. -/
def digitsResrcEnv : ResrcEnv :=
  ⟨fun s => some (digitsValue s), fun s => some (digitsValue s), fun _ => true⟩

/-- `HOPPER.RESRC.SET 4294967296 100 100 100`: Redis gets a 4 GiB `maxmemory` and the
report says `0`. -/
theorem resrcGet_reports_fourGiB :
    resrcSet digitsResrcEnv (ResrcState.init 0 0)
        ["HOPPER.RESRC.SET".toList, "4294967296".toList, "100".toList, "100".toList,
          "100".toList] =
      ([.simple "OK"], ⟨⟨0, 100, 100, 100⟩, 4294967296, ⟨1000000, 0, 0, 100⟩,
        ⟨1000000, 0, 0, 100⟩, ⟨1000000000, 0, 0, 100⟩⟩) ∧
    ∃ (cacheSize : Nat) (dbRcu dbWcu netBw : ℚ),
      resrcGet ⟨⟨0, 100, 100, 100⟩, 4294967296, ⟨1000000, 0, 0, 100⟩, ⟨1000000, 0, 0, 100⟩,
        ⟨1000000000, 0, 0, 100⟩⟩ 1 = [.array 4, .longLong cacheSize, .longDouble dbRcu,
          .longDouble dbWcu, .longDouble netBw] ∧
      ((cacheSize : Int) = 4294967296 % u32Size ∨ cacheSize = 0 ∧ (4294967296 : Int) = 0) ∧
      Agrees dbRcu 100 0 1000000 ∧
      Agrees dbWcu 100 0 1000000 ∧ Agrees netBw 100 0 1000000000 := by
  have h : resrcSet digitsResrcEnv (ResrcState.init 0 0)
      ["HOPPER.RESRC.SET".toList, "4294967296".toList, "100".toList, "100".toList,
        "100".toList] =
      ([.simple "OK"], ⟨⟨0, 100, 100, 100⟩, 4294967296, ⟨1000000, 0, 0, 100⟩,
        ⟨1000000, 0, 0, 100⟩, ⟨1000000000, 0, 0, 100⟩⟩) := by
    have h4 : digitsValue "4294967296".toList = 4294967296 := by decide
    have h100 : digitsValue "100".toList = 100 := by decide
    simp only [resrcSet, digitsResrcEnv, h4, h100, applyResrc, setCacheSize, setRate,
      ResrcState.init, RateLimiter.new, RateLimiter.proposeNewRate]
    norm_num [u32Size]
  exact ⟨h, resrcGet_reports digitsResrcEnv 0 0 (.single ⟨_, _, h⟩)⟩

/-! ## The barrier -/

/-- The barrier's commands. -/
inductive BarrierCmd
  | wait
  | signal
  | count
  deriving DecidableEq, Repr

/-- What a barrier command sends: a reply to the client that issued it, or, for a client that
`HOPPER.BARRIER.SIGNAL` unblocks, the `OK` that `wait_callback` sends it. -/
inductive BarrierOut
  | reply (client : Nat) (t : Tok)
  | released (client : Nat)
  deriving DecidableEq, Repr

/-- The three handlers, issued by `client` with `argc` arguments, on `waiting_clients`.
`RedisModule_UnblockClient` only queues the client: its `wait_callback` runs after the signal's
own reply. -/
def barrierStep (waiting : List Nat) (client argc : Nat) (cmd : BarrierCmd) :
    List BarrierOut × List Nat :=
  if argc ≠ 1 then ([.reply client .wrongArity], waiting)
  else match cmd with
    | .wait => ([], waiting ++ [client])
    | .signal => (.reply client (.simple "OK") :: waiting.map .released, [])
    | .count => ([.reply client (.longLong waiting.length)], waiting)

/-- A run of barrier commands `(client, argc, command)` from `waiting`: everything sent, and
the clients left blocked. -/
def barrierRun (waiting : List Nat) : List (Nat × Nat × BarrierCmd) → List BarrierOut × List Nat
  | [] => ([], waiting)
  | (client, argc, cmd) :: cmds =>
    let (out, waiting) := barrierStep waiting client argc cmd
    let (out', waiting) := barrierRun waiting cmds
    (out ++ out', waiting)

/-- The client a `BarrierOut` releases. -/
def BarrierOut.releasedClient : BarrierOut → Option Nat
  | .released c => some c
  | .reply _ _ => none

/-- The clients whose `HOPPER.BARRIER.WAIT` was accepted, in order. -/
def waitsOf (cmds : List (Nat × Nat × BarrierCmd)) : List Nat :=
  (cmds.filter fun c => c.2.1 = 1 ∧ c.2.2 = .wait).map (·.1)

/-- The clients that waited since the last accepted `HOPPER.BARRIER.SIGNAL`. -/
def waitsSinceSignal (w : List Nat) : List (Nat × Nat × BarrierCmd) → List Nat
  | [] => w
  | (c, argc, cmd) :: cmds =>
    waitsSinceSignal (if argc ≠ 1 then w else match cmd with
      | .wait => w ++ [c]
      | .signal => []
      | .count => w) cmds

/-- One command: released clients, then those still blocked, are those blocked before and the
one that waited. -/
lemma barrierStep_released (waiting : List Nat) (client argc : Nat) (cmd : BarrierCmd) :
    (barrierStep waiting client argc cmd).1.filterMap BarrierOut.releasedClient ++
        (barrierStep waiting client argc cmd).2 =
      waiting ++ waitsOf [(client, argc, cmd)] := by
  unfold barrierStep waitsOf
  by_cases ha : argc = 1
  · cases cmd <;> simp [ha, List.filterMap_map, BarrierOut.releasedClient, Function.comp_def]
  · simp [ha, BarrierOut.releasedClient]

lemma waitsOf_cons (c : Nat × Nat × BarrierCmd) (cmds : List (Nat × Nat × BarrierCmd)) :
    waitsOf (c :: cmds) = waitsOf [c] ++ waitsOf cmds := by
  simp only [waitsOf, List.filter_cons, List.filter_nil]
  split <;> simp

/-- **No wait is lost or released twice.**  Over every run from any barrier, the clients
released (in the order they are sent `OK`) followed by the clients still blocked are exactly the
clients blocked at the start and then those whose `HOPPER.BARRIER.WAIT` was accepted, in order;
and the clients still blocked are those that waited since the last `HOPPER.BARRIER.SIGNAL`, so
`HOPPER.BARRIER.COUNT` replies their number. -/
theorem barrierRun_released (waiting : List Nat) (cmds : List (Nat × Nat × BarrierCmd)) :
    (barrierRun waiting cmds).1.filterMap BarrierOut.releasedClient ++ (barrierRun waiting cmds).2 =
        waiting ++ waitsOf cmds ∧
      (barrierRun waiting cmds).2 = waitsSinceSignal waiting cmds := by
  induction cmds generalizing waiting with
  | nil => simp [barrierRun, waitsOf, waitsSinceSignal]
  | cons c cmds ih =>
    obtain ⟨client, argc, cmd⟩ := c
    obtain ⟨ih1, ih2⟩ := ih (barrierStep waiting client argc cmd).2
    have hstep := barrierStep_released waiting client argc cmd
    refine ⟨?_, ?_⟩
    · simp only [barrierRun, List.filterMap_append, List.append_assoc, ih1]
      rw [← List.append_assoc, hstep, List.append_assoc, ← waitsOf_cons]
    · simp only [barrierRun, ih2, waitsSinceSignal]
      congr 1
      unfold barrierStep
      cases cmd <;> split <;> rfl

end DataPlane

end Hopper
