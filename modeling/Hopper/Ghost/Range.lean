import Hopper.Alloc.Params
import Hopper.DataPlane.Model
import Hopper.Ghost.Checkpoint

/-!
# `HOPPER.CONFIG.SET ghost.range`

`ghost.range <tick> <min_tick> <max_tick>` sets the ticks of the ghost cache's miss-ratio curve:
each value is rounded down to a multiple of `2^5` by `ghost::round_tick`, `max_tick` is rounded
once more so that `max_tick − min_tick` is a multiple of `tick`, the three are stored in the
`uint32_t` globals `config::ghost::{tick, min_tick, max_tick}`, and `ghost::init` builds a new
ghost cache over them and replays `dump.ghc` into it.

The handler parses the three values as `unsigned long long` and checks nothing else.
`round_tick` takes a `uint32_t`, so a value from `2^32` up is truncated before it is rounded; the
second rounding is `uint64_t` arithmetic, which divides by zero when the tick rounds to `0` and
wraps when `min_tick` rounds above `max_tick`; the three stores truncate to `uint32_t` again.
`configSetGhostRange_of_valid` shows that on the domain the code assumes — a tick from `32`,
values below `2^32` and `min_tick ≤ max_tick` — none of this happens and the stored range has
every property the option documents; `configSetGhostRange_eq_divByZero_iff` says exactly when the
handler divides by zero; `configSetGhostRange_failures` runs the three ways out of the domain.
-/

namespace Hopper

namespace Ghost

open DataPlane (Crash Reply)

/-- `ghost_sample_shift`: the ghost cache samples one key in `2^5`. -/
def ghostSampleShift : Nat := 5

/-- `ghost::round_tick(uint32_t tick)` called with an `unsigned long long`: the argument is
converted to `uint32_t`, then its low `ghost_sample_shift` bits are cleared. -/
def roundTick (tick : Nat) : Nat := (tick % u32Size) >>> ghostSampleShift <<< ghostSampleShift

lemma roundTick_eq (tick : Nat) : roundTick tick = tick % u32Size / 32 * 32 := by
  simp [roundTick, ghostSampleShift, Nat.shiftRight_eq_div_pow, Nat.shiftLeft_eq]

lemma roundTick_of_lt {tick : Nat} (h : tick < u32Size) : roundTick tick = tick / 32 * 32 := by
  rw [roundTick_eq, Nat.mod_eq_of_lt h]

lemma roundTick_lt (tick : Nat) : roundTick tick < u32Size := by
  have := Nat.mod_lt tick (show 0 < u32Size by decide)
  rw [roundTick_eq]
  omega

lemma dvd_roundTick (tick : Nat) : 32 ∣ roundTick tick := by
  rw [roundTick_eq]
  exact Nat.dvd_mul_left 32 _

lemma roundTick_eq_zero_iff (tick : Nat) : roundTick tick = 0 ↔ tick % u32Size < 32 := by
  rw [roundTick_eq]
  omega

/-- `config::ghost::{tick, min_tick, max_tick}`. -/
structure GhostRange where
  tick : Nat
  minTick : Nat
  maxTick : Nat
  deriving DecidableEq, Repr

/-- The initial values: ticks of 32K keys, from 32K to 1M keys. -/
def GhostRange.default : GhostRange := ⟨1 <<< 15, 1 <<< 15, 1 <<< 20⟩

/-- The ghost cache `ghost::init` builds: the range it was built over, and the `access` calls
`load()` replayed into it from `dump.ghc`. -/
structure GhostCache where
  range : GhostRange
  replayed : List Record
  deriving DecidableEq, Repr

/-- `ghost::init()`: a new `SampledGhostKvCache` over the range, then `load()` of `dump.ghc`
(`none` when there is no such file); a checkpoint that fails the header check (`-2`) throws
`std::runtime_error`. -/
def init (gshashHare : UInt32) (ckpt : Option (List UInt8)) (r : GhostRange) :
    Except Crash GhostCache :=
  if (load gshashHare ckpt).1 = -2 then .error (.uncaught .runtimeError)
  else .ok ⟨r, (load gshashHare ckpt).2⟩

/-- What `ghost.range` reads and writes: the configured range and the ghost cache. -/
structure GhostState where
  range : GhostRange
  cache : GhostCache
  deriving DecidableEq, Repr

/-- The `ghost.range` branch of `RedisModule_HopperConfigSet`, from the results of
`RedisModule_StringToULongLong` on its three arguments (`none` for `REDISMODULE_ERR`). -/
def configSetGhostRange (gshashHare : UInt32) (ckpt : Option (List UInt8)) (s : GhostState) :
    Option Nat → Option Nat → Option Nat → Except Crash (Reply × GhostState)
  | none, _, _ => .ok (.error "ERR Invalid value for <ghost.range:tick>", s)
  | some _, none, _ => .ok (.error "ERR Invalid value for <ghost.range:min_tick>", s)
  | some _, some _, none => .ok (.error "ERR Invalid value for <ghost.range:max_tick>", s)
  | some tick, some minTick, some maxTick =>
    let tick := roundTick tick
    let minTick := roundTick minTick
    let maxTick := roundTick maxTick
    if tick = 0 then .error .divByZero
    else
      -- one more rounding
      let maxTick := addU64 minTick (subU64 maxTick minTick / tick * tick)
      let r : GhostRange := ⟨tick % u32Size, minTick % u32Size, maxTick % u32Size⟩
      (init gshashHare ckpt r).map fun c => (.simple "OK", ⟨r, c⟩)

section parsed

variable (gshashHare : UInt32) (ckpt : Option (List UInt8)) (s : GhostState)

/-- The handler divides by zero exactly when the tick, truncated to `uint32_t`, is below `32`. -/
lemma configSetGhostRange_eq_divByZero_iff (tick minTick maxTick : Nat) :
    configSetGhostRange gshashHare ckpt s (some tick) (some minTick) (some maxTick) =
      .error .divByZero ↔ tick % u32Size < 32 := by
  rw [← roundTick_eq_zero_iff]
  simp only [configSetGhostRange]
  split_ifs with h
  · simp [h]
  · simp only [h, iff_false]
    unfold init
    split_ifs <;> simp [Except.map]

/-- Once the three values parse, the handler never replies with an error: it replies `OK`, or
it ends the server. -/
lemma configSetGhostRange_reply {tick minTick maxTick : Nat} {r : Reply} {s' : GhostState}
    (h : configSetGhostRange gshashHare ckpt s (some tick) (some minTick) (some maxTick) =
      .ok (r, s')) : r = .simple "OK" := by
  simp only [configSetGhostRange, init] at h
  split_ifs at h <;> simp [Except.map] at h
  exact h.1.symm

/-- **On the domain the code assumes** — a tick from `32`, every value below `2^32` and
`min_tick ≤ max_tick` — nothing divides by zero, wraps or is truncated: the handler stores the
range exact arithmetic gives, then re-initialises the ghost cache over it; the stored ticks are
multiples of `32`, the tick is at least `32`, `min_tick ≤ max_tick ≤` the requested `max_tick`,
and `max_tick − min_tick` is a multiple of the tick. -/
lemma configSetGhostRange_of_valid {tick minTick maxTick : Nat} (ht : 32 ≤ tick)
    (ht' : tick < u32Size) (hmax : maxTick < u32Size) (hle : minTick ≤ maxTick) :
    let r : GhostRange := ⟨roundTick tick, roundTick minTick, roundTick minTick +
      (roundTick maxTick - roundTick minTick) / roundTick tick * roundTick tick⟩
    configSetGhostRange gshashHare ckpt s (some tick) (some minTick) (some maxTick) =
        (init gshashHare ckpt r).map (fun c => (.simple "OK", ⟨r, c⟩)) ∧
      32 ≤ r.tick ∧ 32 ∣ r.tick ∧ 32 ∣ r.minTick ∧ 32 ∣ r.maxTick ∧
      r.minTick ≤ r.maxTick ∧ r.maxTick ≤ maxTick ∧ r.tick ∣ r.maxTick - r.minTick := by
  intro r
  have hmin : minTick < u32Size := lt_of_le_of_lt hle hmax
  have hT : 32 ≤ roundTick tick := by rw [roundTick_of_lt ht']; omega
  have hL : roundTick minTick ≤ roundTick maxTick := by
    rw [roundTick_of_lt hmin, roundTick_of_lt hmax]
    exact Nat.mul_le_mul_right 32 (Nat.div_le_div_right hle)
  have hH : roundTick maxTick ≤ maxTick := by
    rw [roundTick_of_lt hmax]
    exact Nat.div_mul_le_self _ _
  have hq : (roundTick maxTick - roundTick minTick) / roundTick tick * roundTick tick ≤
      roundTick maxTick - roundTick minTick := Nat.div_mul_le_self _ _
  have hM : r.maxTick ≤ maxTick := by simp only [r]; omega
  have hu : u32Size < u64Size := by decide
  refine ⟨?_, hT, dvd_roundTick _, dvd_roundTick _,
    Nat.dvd_add (dvd_roundTick _) (Nat.dvd_trans (dvd_roundTick _) (Nat.dvd_mul_left _ _)),
    Nat.le_add_right _ _, hM,
    by simp only [r, Nat.add_sub_cancel_left]; exact Nat.dvd_mul_left _ _⟩
  have hr : (⟨roundTick tick % u32Size, roundTick minTick % u32Size,
      addU64 (roundTick minTick)
        (subU64 (roundTick maxTick) (roundTick minTick) / roundTick tick * roundTick tick) %
          u32Size⟩ : GhostRange) = r := by
    rw [subU64_of_le hL (by have := roundTick_lt maxTick; omega), addU64_of_lt (by omega),
      Nat.mod_eq_of_lt (roundTick_lt _), Nat.mod_eq_of_lt (roundTick_lt _),
      Nat.mod_eq_of_lt (by omega)]
  simp only [configSetGhostRange, if_neg (show roundTick tick ≠ 0 by omega), hr]

end parsed

/-- Out of that domain: a tick below `32` divides by zero; `min_tick` above `max_tick` wraps and
stores `max_tick < min_tick`; a tick from `2^32` up is truncated and stored as another tick.  Each
time the handler either ends the server or replies `OK`, never with an error. -/
theorem configSetGhostRange_failures (gshashHare : UInt32) (s : GhostState) :
    configSetGhostRange gshashHare none s (some 5) (some 0) (some 0) = .error .divByZero ∧
    configSetGhostRange gshashHare none s (some 32) (some 64) (some 32) =
      .ok (.simple "OK", ⟨⟨32, 64, 32⟩, ⟨⟨32, 64, 32⟩, []⟩⟩) ∧
    configSetGhostRange gshashHare none s (some (2 ^ 32 + 64)) (some 0) (some 64) =
      .ok (.simple "OK", ⟨⟨64, 0, 64⟩, ⟨⟨64, 0, 64⟩, []⟩⟩) :=
  ⟨rfl, rfl, rfl⟩

end Ghost

end Hopper
