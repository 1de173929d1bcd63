import Hopper.Alloc.Tenant
import Mathlib.Data.List.Sort

/-!
# The HARE allocator

`alloc.h`: `Allocator::do_alloc` runs, in order, the optional memshare cache pass, idle
collection, the optional harvest loop that trades cache for `db_rcu`/`net_bw`, and the
redistribution of what is left.

The tenants are a list; the pointer lists of `do_harvest` and `do_memshare` are lists of
indices into it, and `std::max_element`, `std::min_element` and `std::iter_swap` are
modelled on positions of those lists, so that the tie-breaking (first extremum) and the
reordering `iter_swap` leaves behind from one round to the next are the source's.  The
harvest loop is bounded by `max_trade_round`; the memshare loop has no bound in the source
and takes a fuel argument here.  `std::sort` of the memshare donor list is modelled by the
stable `List.insertionSort`.
-/

namespace Hopper

/-! ## Positions in pointer lists -/

/-- The loop of `std::max_element`: `best` at `bestPos` is replaced by any later element it
compares less than. -/
def maxElementAux {α : Type} (comp : α → α → Bool) (best : α) (bestPos pos : Nat) :
    List α → Nat
  | [] => bestPos
  | a :: l =>
    if comp best a then maxElementAux comp a pos (pos + 1) l
    else maxElementAux comp best bestPos (pos + 1) l

/-- `std::max_element`: the position of the first maximum (`0`, i.e. `end`, on `[]`). -/
def maxElement {α : Type} (comp : α → α → Bool) : List α → Nat
  | [] => 0
  | a :: l => maxElementAux comp a 0 1 l

/-- The loop of `std::min_element`. -/
def minElementAux {α : Type} (comp : α → α → Bool) (best : α) (bestPos pos : Nat) :
    List α → Nat
  | [] => bestPos
  | a :: l =>
    if comp a best then minElementAux comp a pos (pos + 1) l
    else minElementAux comp best bestPos (pos + 1) l

/-- `std::min_element`: the position of the first minimum. -/
def minElement {α : Type} (comp : α → α → Bool) : List α → Nat
  | [] => 0
  | a :: l => minElementAux comp a 0 1 l

/-- `std::iter_swap` of the elements at positions `i` and `j`. -/
def iterSwap {α : Type} (l : List α) (i j : Nat) : List α :=
  match l[i]?, l[j]? with
  | some a, some b => (l.set i b).set j a
  | _, _ => l

/-- The scratch value `f` of the tenant at index `i` (the getters of `Tenant`). -/
def offerOf (ts : List Tenant) (f : Tenant → ℚ) (i : Nat) : ℚ := (ts[i]?.map f).getD 0

/-! ## The allocator -/

/-- The `policy` flags of `Allocator`. -/
structure Policy where
  harvest : Bool
  conserving : Bool
  memshare : Bool
  deriving DecidableEq, Repr

/-- The constructor's default policy. -/
def Policy.default : Policy := ⟨true, true, false⟩

/-- `class Allocator`. -/
structure Allocator where
  policy : Policy
  tenants : List Tenant
  totalResrc : ResrcVec

/-- What `Allocator::add_tenant` takes. -/
structure TenantSpec where
  demandCacheless : StatelessResrcVec
  baseResrc : ResrcVec
  mrc : MissRatioCurve
  netBwAlpha : ℚ
  deriving DecidableEq, Repr

namespace Allocator

/-- A freshly constructed allocator. -/
def new (policy : Policy) : Allocator := ⟨policy, [], {}⟩

/-- `Allocator::add_tenant`: returns the new tenant's index. -/
def addTenant (a : Allocator) (spec : TenantSpec) : Allocator × Nat :=
  let tIdx := a.tenants.length
  ({ a with
      totalResrc := a.totalResrc.add spec.baseResrc
      tenants := a.tenants ++
        [Tenant.new tIdx spec.demandCacheless spec.baseResrc spec.mrc spec.netBwAlpha] },
    tIdx)

/-- An allocator built by `add_tenant` calls, in order. -/
def build (policy : Policy) (specs : List TenantSpec) : Allocator :=
  specs.foldl (fun a spec => (a.addTenant spec).1) (new policy)

/-- `Allocator::get_alloc_result`. -/
def getAllocResult (a : Allocator) : List ResrcVec := a.tenants.map (·.resrc)

/-- `Allocator::estimate_bottleneck`: the improvement ratio `avail / (total - avail)` and
whether `db_rcu`, resp. `net_bw`, attains it. -/
def estimateBottleneck (total resrcAvail : StatelessResrcVec) : ℚ × Bool × Bool :=
  let resrcSum := total - resrcAvail
  let r := resrcAvail / resrcSum
  (r, decide (r = resrcAvail.dbRcu / resrcSum.dbRcu), decide (r = resrcAvail.netBw / resrcSum.netBw))

/-! ## The harvest loop -/

/-- The local state of `do_harvest`'s loop. -/
structure HarvestState where
  tenants : List Tenant
  resrcAvail : StatelessResrcVec
  prevEstimatedImproveRatio : ℚ
  isRcuBottleneck : Bool
  isNetBottleneck : Bool
  rcuRelinqList : List Nat
  rcuCompenList : List Nat
  netRelinqList : List Nat
  netCompenList : List Nat
  tradeRound : Nat

/-- A deal: the two tenants and the four offers `do_harvest` reads before trading. -/
structure Deal where
  tRelinq : Nat
  tCompen : Nat
  rcuDeltaRelinq : ℚ
  netDeltaRelinq : ℚ
  rcuDeltaCompen : ℚ
  netDeltaCompen : ℚ
  deriving DecidableEq, Repr

/-- The choice of a deal on one resource: the relinquisher offering the most, the
compensator asking the least, and, if both are the same tenant, the least asking one among
the rest of the compensator list after `iter_swap` moved that tenant to its front.  Returns
the two indices and the (possibly reordered) compensator list. -/
def pickDeal (ts : List Tenant) (relinq compen : Tenant → ℚ) (relinqList compenList : List Nat) :
    Nat × Nat × List Nat :=
  let lessRelinq := fun i j => decide (offerOf ts relinq i < offerOf ts relinq j)
  let lessCompen := fun i j => decide (offerOf ts compen i < offerOf ts compen j)
  let tRelinq := relinqList.getD (maxElement lessRelinq relinqList) 0
  let itCompen := minElement lessCompen compenList
  let tCompen := compenList.getD itCompen 0
  if tRelinq = tCompen then
    let swapped := iterSwap compenList itCompen 0
    (tRelinq, swapped.getD (minElement lessCompen (swapped.drop 1) + 1) 0, swapped)
  else (tRelinq, tCompen, compenList)

/-- The effect of a committed deal on the tenants: `relocate_resrc`, then
`update_rcu_net_delta` of the relinquisher and of the compensator. -/
def tradeTenants (p : Params) (ts : List Tenant) (d : Deal) : List Tenant :=
  let ts := ts.modify (fun t => t.compensateResrc p d.rcuDeltaCompen d.netDeltaCompen) d.tCompen
  let ts := ts.modify (fun t => t.relinquishResrc p d.rcuDeltaRelinq d.netDeltaRelinq) d.tRelinq
  let ts := ts.modify (Tenant.updateRcuNetDelta p) d.tRelinq
  ts.modify (Tenant.updateRcuNetDelta p) d.tCompen

/-- `resrc_if_deal`: the available resources if the deal is made. -/
def availIfDeal (resrcAvail : StatelessResrcVec) (d : Deal) : StatelessResrcVec :=
  { resrcAvail with
    dbRcu := resrcAvail.dbRcu + (d.rcuDeltaRelinq - d.rcuDeltaCompen)
    netBw := resrcAvail.netBw + (d.netDeltaRelinq - d.netDeltaCompen) }

/-- The first half of an iteration of `do_harvest`'s loop: on the bottleneck resource, the
two tenants `pickDeal` chooses and the state with the compensator list it leaves behind;
`none` is the `break` when neither resource is the bottleneck. -/
def pickRound (p : Params) (s : HarvestState) : Option (Nat × Nat × HarvestState) :=
  if s.isRcuBottleneck then
    let (r, c, l) := pickDeal s.tenants (·.rcuDeltaRelinq) (·.rcuDeltaCompen)
      s.rcuRelinqList s.rcuCompenList
    some (r, c, { s with rcuCompenList := l })
  else if p.allocTotalNetBw && s.isNetBottleneck then
    let (r, c, l) := pickDeal s.tenants (·.netDeltaRelinq) (·.netDeltaCompen)
      s.netRelinqList s.netCompenList
    some (r, c, { s with netCompenList := l })
  else none

/-- The deal between `tRelinq` and `tCompen` at the offers they store. -/
def dealOf (ts : List Tenant) (tRelinq tCompen : Nat) : Deal :=
  ⟨tRelinq, tCompen, offerOf ts (·.rcuDeltaRelinq) tRelinq, offerOf ts (·.netDeltaRelinq) tRelinq,
    offerOf ts (·.rcuDeltaCompen) tCompen, offerOf ts (·.netDeltaCompen) tCompen⟩

/-- The second half of an iteration: `break` unless the deal raises the estimated
improvement ratio by `min_improve_ratio_delta`, else relocate and go on. -/
def commitDeal (p : Params) (total : StatelessResrcVec) (s : HarvestState) (d : Deal) :
    Option HarvestState :=
  let resrcIfDeal := availIfDeal s.resrcAvail d
  let (curr, isRcu, isNet) := estimateBottleneck total resrcIfDeal
  if curr - s.prevEstimatedImproveRatio < minImproveRatioDelta then none
  else some { s with
    tenants := tradeTenants p s.tenants d
    resrcAvail := resrcIfDeal
    prevEstimatedImproveRatio := curr
    isRcuBottleneck := isRcu
    isNetBottleneck := isNet
    tradeRound := s.tradeRound + 1 }

/-- One iteration of `do_harvest`'s loop: `none` is a `break`, `some (d, s')` a committed
deal `d` and the state of the next iteration. -/
def harvestRound (p : Params) (total : StatelessResrcVec) (s : HarvestState) :
    Option (Deal × HarvestState) :=
  if s.tradeRound ≥ maxTradeRound then none
  else
    match pickRound p s with
    | none => none
    | some (tRelinq, tCompen, s) =>
      let d := dealOf s.tenants tRelinq tCompen
      (commitDeal p total s d).map (d, ·)

/-- `do_harvest`'s loop, run for at most `fuel` iterations. -/
def harvestLoop (p : Params) (total : StatelessResrcVec) : Nat → HarvestState → HarvestState
  | 0, s => s
  | fuel + 1, s =>
    match harvestRound p total s with
    | none => s
    | some (_, s') => harvestLoop p total fuel s'

/-- The state `do_harvest` enters its loop with. -/
def harvestStart (p : Params) (a : Allocator) (resrcAvail : StatelessResrcVec) : HarvestState :=
  let (prev, isRcu, isNet) := estimateBottleneck a.totalResrc.stateless resrcAvail
  let ts := a.tenants.map (Tenant.updateRcuNetDelta p)
  let all := List.range ts.length
  { tenants := ts
    resrcAvail := resrcAvail
    prevEstimatedImproveRatio := prev
    isRcuBottleneck := isRcu
    isNetBottleneck := isNet
    rcuRelinqList := all
    rcuCompenList := all
    netRelinqList := if p.allocTotalNetBw then all else []
    netCompenList := if p.allocTotalNetBw then all else []
    tradeRound := 0 }

/-- `Allocator::do_harvest`: the tenants and the available resources after trading.  Each
iteration either breaks or increments `trade_round`, so `max_trade_round` iterations are
all the loop can run. -/
def doHarvest (p : Params) (a : Allocator) (resrcAvail : StatelessResrcVec) :
    List Tenant × StatelessResrcVec :=
  let s := harvestLoop p a.totalResrc.stateless maxTradeRound (harvestStart p a resrcAvail)
  (s.tenants, s.resrcAvail)

/-! ## Redistribution -/

/-- `Allocator::do_redistribute`: the allocator, the improvement ratio and the new
`resrc_avail`. -/
def doRedistribute (a : Allocator) (resrcAvail : StatelessResrcVec) :
    Allocator × ℚ × StatelessResrcVec :=
  let resrcSum := a.totalResrc.stateless - resrcAvail
  let improveRatio := resrcAvail / resrcSum
  if a.policy.conserving then
    ({ a with tenants :=
        a.tenants.map (·.scaleStatelessResrcByOwned resrcAvail resrcSum a.tenants.length) },
      improveRatio, 0)
  else
    let ts := a.tenants.map (·.scaleStatelessResrc (1 + improveRatio))
    ({ a with tenants := ts }, improveRatio, a.totalResrc.stateless - Tenant.aggregateResrc ts)

/-- The `assert` at the top of `do_redistribute`. -/
def doRedistributeAssert (a : Allocator) (resrcAvail : StatelessResrcVec) : Bool :=
  (Tenant.aggregateResrc a.tenants).isAlmostEqual (a.totalResrc.stateless - resrcAvail)

/-! ## Memshare -/

/-- The receiver of a memshare round: `std::max_element` over `cache_more_list` with
`less_mr_inc`, which compares one tenant's `mr_inc_if_more_cache` with another's
`mr_dec_if_less_cache`. -/
def memshareReceiver (ts : List Tenant) (cacheMoreList : List Nat) : Nat :=
  let lessMrInc := fun i j =>
    decide (offerOf ts (·.mrIncIfMoreCache) i < offerOf ts (·.mrDecIfLessCache) j)
  cacheMoreList.getD (maxElement lessMrInc cacheMoreList) 0

/-- One iteration of `do_memshare`'s loop on the tenants and the donor list: the tenants
after `update_mr_delta` (and the relocation, if any), and the sorted donor list if the loop
continues. -/
def memshareRound (p : Params) (ts : List Tenant) (cacheMoreList cacheLessList : List Nat) :
    List Tenant × Option (List Nat) :=
  let ts := ts.map (Tenant.updateMrDelta p)
  let receiver := memshareReceiver ts cacheMoreList
  let sorted := cacheLessList.insertionSort fun i j =>
    offerOf ts (·.mrDecIfLessCache) i ≤ offerOf ts (·.mrDecIfLessCache) j
  match sorted.find? (fun d => d ≠ receiver && (ts[d]?.map (·.canDonate p)).getD false) with
  | none => (ts, none)
  | some donor =>
    if offerOf ts (·.mrIncIfMoreCache) receiver > offerOf ts (·.mrDecIfLessCache) donor then
      ((ts.modify (Tenant.receiveCache p) receiver).modify (Tenant.donateCache p) donor,
        some sorted)
    else (ts, none)

/-- `do_memshare`'s loop, run for at most `fuel` iterations. -/
def memshareLoop (p : Params) (cacheMoreList : List Nat) :
    Nat → List Tenant → List Nat → List Tenant
  | 0, ts, _ => ts
  | fuel + 1, ts, cacheLessList =>
    match memshareRound p ts cacheMoreList cacheLessList with
    | (ts', none) => ts'
    | (ts', some l) => memshareLoop p cacheMoreList fuel ts' l

/-- `Allocator::do_memshare`, with at most `fuel` rounds. -/
def doMemshare (p : Params) (fuel : Nat) (a : Allocator) : Allocator :=
  let all := List.range a.tenants.length
  { a with tenants := memshareLoop p all fuel a.tenants all }

/-! ## `do_alloc` -/

/-- Idle collection over all tenants: the tenants keep their used part and
`resrc_avail` is the sum of the idle parts. -/
def collectIdle (p : Params) (a : Allocator) : Allocator × StatelessResrcVec :=
  let collected := a.tenants.map (Tenant.collectIdle p)
  ({ a with tenants := collected.map Prod.fst }, (collected.map Prod.snd).sum)

/-- `do_alloc` up to the redistribution: memshare, idle collection and harvest. -/
def allocPhase (p : Params) (memshareFuel : Nat) (a : Allocator) : Allocator × StatelessResrcVec :=
  let a := if a.policy.memshare then a.doMemshare p memshareFuel else a
  let (a, resrcAvail) := a.collectIdle p
  if a.policy.harvest then
    let (ts, resrcAvail) := a.doHarvest p resrcAvail
    ({ a with tenants := ts }, resrcAvail)
  else (a, resrcAvail)

/-- `Allocator::do_alloc`: the allocator after the round and the improvement ratio it
returns. -/
def doAlloc (p : Params) (memshareFuel : Nat) (a : Allocator) : Allocator × ℚ :=
  if a.tenants.length ≤ 1 then (a, 0)
  else
    let (a, resrcAvail) := a.allocPhase p memshareFuel
    if resrcAvail.isAlmostEmpty then (a, 0)
    else
      let (a, improveRatio, _) := a.doRedistribute resrcAvail
      (a, improveRatio)

end Allocator

end Hopper
