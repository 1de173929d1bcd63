import Hopper.Alloc.Symmetry

/-!
# Sessions on one allocator

A client drives one `Allocator` with `add_tenant`, `params::policy::set_alloc_total_net_bw`
and `do_alloc` calls, in any order; the parameters are global.  Two of the `assert`s a
`do_alloc` executes are about the allocator's bookkeeping: `do_redistribute`'s, that the
tenants hold `total_resrc.stateless - resrc_avail`, and `relocate_resrc`'s, that a trade moves
no `net_bw` while `alloc_total_net_bw` is off.  `allocAssertsHold` checks these two; the
`assert`s inside the tenants' offer methods and `get_miss_ratio` are not among them.

In the first round of a built allocator both hold.  The second does not survive a change of
`alloc_total_net_bw`: with the flag off, `pred_rcu_net_delta_if_more_cache` leaves
`net_delta_relinq` as the last round with the flag on stored it, and `do_harvest` hands that
stale offer to `relocate_resrc`.
-/

namespace Hopper

namespace Allocator

open Tenant

/-- The calls a client makes. -/
inductive Call
  | addTenant (spec : TenantSpec)
  | setAllocTotalNetBw (b : Bool)
  | doAlloc

/-- The global parameters and the allocator. -/
structure Session where
  params : Params
  alloc : Allocator

namespace Session

/-- One call. -/
def step (fuel : Nat) (s : Session) : Call → Session
  | .addTenant spec => { s with alloc := (s.alloc.addTenant spec).1 }
  | .setAllocTotalNetBw b => { s with params := s.params.setAllocTotalNetBw b }
  | .doAlloc => { s with alloc := (s.alloc.doAlloc s.params fuel).1 }

/-- A sequence of calls. -/
def run (fuel : Nat) (s : Session) (calls : List Call) : Session := calls.foldl (step fuel) s

/-- The trades a `do_alloc` call from `s` hands to `relocate_resrc`: none with fewer than two
tenants. -/
def executedTrades (fuel : Nat) (s : Session) : List (Deal × HarvestState) :=
  if s.alloc.tenants.length ≤ 1 then [] else allocTrace s.params fuel s.alloc

/-- The bookkeeping `assert`s of a `do_alloc` call from `s` pass: `relocate_resrc`'s for every
trade it commits, and `do_redistribute`'s when it redistributes. -/
def allocAssertsHold (fuel : Nat) (s : Session) : Bool :=
  (executedTrades fuel s).all
      (fun x => relocateResrcAssert s.params x.1.netDeltaRelinq x.1.netDeltaCompen) &&
    (!runsRedistribute s.params fuel s.alloc ||
      doRedistributeAssert (allocPhase s.params fuel s.alloc).1 (allocPhase s.params fuel s.alloc).2)

end Session

/-! ## The first round -/

/-- A trade committed from a state with the invariant satisfies `relocate_resrc`'s assertion:
with `alloc_total_net_bw` off the stored `net_bw` offers are all `0`. -/
lemma relocateResrcAssert_of_harvestRound {p : Params} {total : StatelessResrcVec}
    {s s' : HarvestState} {d : Deal} (hi : HarvestInv p total s)
    (h : harvestRound p total s = some (d, s')) :
    relocateResrcAssert p d.netDeltaRelinq d.netDeltaCompen = true := by
  obtain ⟨s1, tR, tC, hi1, hd, -, -, -, -, -⟩ := harvestRound_eq_some hi h
  cases hn : p.allocTotalNetBw
  · rw [hd.netRelinq, hd.netCompen, (hi1.netZero hn tR hd.relinq_mem).1,
      (hi1.netZero hn tC hd.compen_mem).2]
    simp [relocateResrcAssert, hn]
  · simp [relocateResrcAssert, hn]

/-- `do_redistribute`'s assertion holds after the phase of a ready allocator. -/
lemma doRedistributeAssert_allocPhase (p : Params) (fuel : Nat) {a : Allocator} (ha : a.Ready) :
    doRedistributeAssert (allocPhase p fuel a).1 (allocPhase p fuel a).2 = true := by
  have hph := allocPhase_phased p fuel ha
  rw [doRedistributeAssert, StatelessResrcVec.isAlmostEqual, hph.sum_eq, sub_self]
  exact StatelessResrcVec.isAlmostEmpty_zero

/-- The first `do_alloc` of an allocator built from admissible specifications passes both
bookkeeping `assert`s, under any parameters and policy. -/
theorem allocAssertsHold_build (p : Params) (fuel : Nat) (policy : Policy)
    {specs : List TenantSpec} (hs : ∀ spec ∈ specs, spec.Admissible) :
    Session.allocAssertsHold fuel ⟨p, build policy specs⟩ = true := by
  simp only [Session.allocAssertsHold, Session.executedTrades, Bool.and_eq_true, List.all_eq_true,
    Bool.or_eq_true, Bool.not_eq_true']
  by_cases hn : (build policy specs).tenants.length ≤ 1
  · simp [hn, runsRedistribute]
  have ha := ready_build policy hs (by simpa [build_tenants] using hn)
  refine ⟨fun x hx => ?_, .inr (doRedistributeAssert_allocPhase p fuel ha)⟩
  rw [if_neg hn, allocTrace] at hx
  split_ifs at hx
  · obtain ⟨hi, s', h⟩ := mem_harvestTrace_inv maxTradeRound _ (ha.harvestEntry_inv p fuel) x hx
    exact relocateResrcAssert_of_harvestRound hi h
  · simp at hx

attribute [local semireducible] Rat.mul Rat.inv Rat.add Rat.sub

theorem allocAssertsHold_build_tradeBasic : (∀ spec ∈ tradeBasicSpecs, spec.Admissible) ∧
    Session.allocAssertsHold 0 ⟨testParams, build Policy.default tradeBasicSpecs⟩ = true := by
  have hs : ∀ spec ∈ tradeBasicSpecs, spec.Admissible := by decide
  exact ⟨hs, allocAssertsHold_build testParams 0 Policy.default hs⟩

/-! ## A change of `alloc_total_net_bw` -/

/-- The tenants of `test_trade_basic` with `net_bw_alpha = 1`, so that their `net_bw` offers
are not `0`. -/
def netSpecs : List TenantSpec :=
  [⟨⟨4 / 5, 1 / 5, 4⟩, ⟨40, ⟨2, 2, 16⟩⟩, ⟨[20, 40, 60, 80, 100], [9 / 10, 17 / 20, 4 / 5, 7 / 10, 1 / 2]⟩, 1⟩,
   ⟨⟨4 / 5, 1 / 5, 4⟩, ⟨40, ⟨2, 2, 16⟩⟩, ⟨[20, 40, 60, 80, 100], [4 / 5, 3 / 5, 3 / 10, 1 / 5, 3 / 20]⟩, 1⟩]

/-- With `alloc_total_net_bw` on, add the two tenants of `netSpecs` and allocate; turn the flag
off and allocate again: the second `do_alloc` commits a trade whose relinquisher still
carries the `net_bw` offer of the first round, and `relocate_resrc`'s assertion fails. -/
theorem relocateResrc_assert_fails_after_flag_change :
    (∀ spec ∈ netSpecs, spec.Admissible) ∧
      (Session.run 0 ⟨{ testParams with allocTotalNetBw := true }, new Policy.default⟩
        (netSpecs.map .addTenant ++ [.doAlloc, .setAllocTotalNetBw false])).allocAssertsHold 0 =
        false := by
  decide

end Allocator

end Hopper
