import Mathlib.Algebra.Group.Nat.Basic
import Mathlib.Data.List.Basic

/-!
# The ghost-cache checkpoint `dump.ghc`

`ghost::save()` writes the ghost cache to `dump.ghc`: the four bytes `"hare"`, the four bytes of
`gcache::gshash{}("hare")`, then one eight-byte record `(key_hash, kv_size)` per entry, in the
order `for_each_lru` visits them.  `ghost::load()` checks the two header fields and replays every
whole record into the ghost cache with `access(key_hash, kv_size, NOOP)`.

Integers go to the file through `f.write(reinterpret_cast<char *>(&x), sizeof x)`, so their byte
order is the host's; the model fixes it little-endian.  The hash of `"hare"` depends on the
platform and on `gcache`, which is not part of the repository, so it is a parameter
`gshashHare` of both functions.  `load` maps the file's bytes (`none` when the file does not
open) to its return code and the `access` calls it makes, in order.

The result this file exists for is `load_save`, the round trip: whatever `save` wrote, followed by
any tail shorter than a record, loads back as exactly the saved entries.  Its steps are the
byte round trip `ofBytesLE_toBytesLE` and the one-record step `readRecords_bytes_append`.  The
header check is `load_of_take_ne`: a stream whose first eight bytes are not the header is
rejected when it has at least eight bytes, and a shorter one exactly when it is not `"hare"`
followed by the low bytes of the hash.  `std::istream::read` of a short stream keeps the bytes it
got and `header_hash` starts at `0`, so a stream cut inside the hash field passes whenever the
missing high bytes of the hash are zero (`load_accepts_truncated_header`).
-/

namespace Hopper

namespace Ghost

/-! ## Bytes -/

/-- The `w` bytes of `n` in memory on a little-endian host, least significant first; bits above
`8 * w` are dropped. -/
def toBytesLE : Nat → Nat → List UInt8
  | 0, _ => []
  | w + 1, n => UInt8.ofNat (n % 256) :: toBytesLE w (n / 256)

/-- The integer whose in-memory bytes are `bs`, least significant first. -/
def ofBytesLE : List UInt8 → Nat
  | [] => 0
  | b :: bs => b.toNat + 256 * ofBytesLE bs

@[simp] lemma length_toBytesLE (w n : Nat) : (toBytesLE w n).length = w := by
  induction w generalizing n with
  | zero => rfl
  | succ w ih => simp [toBytesLE, ih]

lemma ofBytesLE_toBytesLE (w n : Nat) : ofBytesLE (toBytesLE w n) = n % 256 ^ w := by
  induction w generalizing n with
  | zero => simp [toBytesLE, ofBytesLE, Nat.mod_one]
  | succ w ih =>
    have hb : (UInt8.ofNat (n % 256)).toNat = n % 256 :=
      UInt8.toNat_ofNat_of_lt (Nat.mod_lt _ (by decide))
    rw [toBytesLE, ofBytesLE, ih, hb, Nat.pow_succ', Nat.mod_mul]

lemma ofBytesLE_lt (bs : List UInt8) : ofBytesLE bs < 256 ^ bs.length := by
  induction bs with
  | nil => decide
  | cons b bs ih =>
    have hb : b.toNat < 256 := b.toNat_lt_size
    rw [ofBytesLE, List.length_cons, Nat.pow_succ]
    omega

lemma toBytesLE_ofBytesLE (bs : List UInt8) : toBytesLE bs.length (ofBytesLE bs) = bs := by
  induction bs with
  | nil => rfl
  | cons b bs ih =>
    have hb : b.toNat < 256 := b.toNat_lt_size
    rw [List.length_cons, toBytesLE, ofBytesLE, Nat.add_mul_mod_self_left, Nat.mod_eq_of_lt hb,
      Nat.add_mul_div_left _ _ (by decide), Nat.div_eq_of_lt hb, Nat.zero_add, ih]
    exact congrArg (· :: bs) (UInt8.toNat.inj (UInt8.toNat_ofNat_of_lt b.toNat_lt_size))

/-- Bytes read back as `n` are the bytes of `n`, and then `n` fits in them. -/
lemma ofBytesLE_eq_iff {bs : List UInt8} {n : Nat} :
    ofBytesLE bs = n ↔ bs = toBytesLE bs.length n ∧ n < 256 ^ bs.length := by
  constructor
  · rintro rfl
    exact ⟨(toBytesLE_ofBytesLE bs).symm, ofBytesLE_lt bs⟩
  · rintro ⟨h, hn⟩
    rw [h, ofBytesLE_toBytesLE, Nat.mod_eq_of_lt hn]

/-- The four bytes of a `uint32_t`. -/
def u32Bytes (x : UInt32) : List UInt8 := toBytesLE 4 x.toNat

@[simp] lemma length_u32Bytes (x : UInt32) : (u32Bytes x).length = 4 := length_toBytesLE 4 _

@[simp] lemma ofBytesLE_u32Bytes (x : UInt32) : ofBytesLE (u32Bytes x) = x.toNat := by
  rw [u32Bytes, ofBytesLE_toBytesLE]
  exact Nat.mod_eq_of_lt x.toNat_lt_size

lemma ofNat_ofBytesLE_u32Bytes (x : UInt32) : UInt32.ofNat (ofBytesLE (u32Bytes x)) = x :=
  UInt32.toNat.inj (by rw [ofBytesLE_u32Bytes, UInt32.toNat_ofNat_of_lt x.toNat_lt_size])

/-! ## The file -/

/-- `"hare"`, the magic of `dump.ghc`. -/
def headerStr : List UInt8 := [104, 97, 114, 101]

@[simp] lemma take_headerStr_append (l : List UInt8) : (headerStr ++ l).take 4 = headerStr :=
  List.take_left' rfl

@[simp] lemma drop_headerStr_append (l : List UInt8) : (headerStr ++ l).drop 4 = l :=
  List.drop_left' rfl

/-- The `(key_hash, kv_size)` of one ghost-cache entry: the record `save` writes for it, and the
arguments of the `access` call `load` makes for that record. -/
structure Record where
  keyHash : UInt32
  kvSize : UInt32
  deriving DecidableEq, Repr

/-- The record `save` writes for one entry. -/
def Record.bytes (r : Record) : List UInt8 := u32Bytes r.keyHash ++ u32Bytes r.kvSize

/-- `ghost::save()` to a file that opened: the header, then the entries in LRU order. -/
def save (gshashHare : UInt32) (lru : List Record) : List UInt8 :=
  headerStr ++ u32Bytes gshashHare ++ lru.flatMap Record.bytes

/-- The loop `while (f.read(&buf, sizeof(buf))) access(buf.key_hash, buf.kv_size, NOOP)`: one
call per whole eight-byte record; the read of a shorter tail fails and ends the loop. -/
def readRecords : List UInt8 → List Record
  | k0 :: k1 :: k2 :: k3 :: v0 :: v1 :: v2 :: v3 :: rest =>
    ⟨UInt32.ofNat (ofBytesLE [k0, k1, k2, k3]), UInt32.ofNat (ofBytesLE [v0, v1, v2, v3])⟩ ::
      readRecords rest
  | _ => []

/-- `ghost::load()`: the return code and the `access` calls, in order.  `header_str` is a zeroed
`char[5]`, so `strcmp` reads the magic up to its first zero byte; `header_hash` is a zeroed
`uint32_t` whose low bytes take what `read` got.  After a short read of the hash no byte is left,
so the record loop reads nothing. -/
def load (gshashHare : UInt32) : Option (List UInt8) → Int × List Record
  | none => (-1, [])
  | some f =>
    if (f.take 4).takeWhile (· ≠ 0) ≠ headerStr then (-2, [])
    else if gshashHare.toNat ≠ ofBytesLE ((f.drop 4).take 4) then (-2, [])
    else (0, readRecords (f.drop 8))

/-! ## The round trip -/

lemma readRecords_of_length_lt {bs : List UInt8} (h : bs.length < 8) : readRecords bs = [] := by
  rw [readRecords.eq_def]
  split
  · simp only [List.length_cons] at h
    omega
  · rfl

/-- One record: reading `r.bytes` and then more gives `r` and then what the rest gives. -/
lemma readRecords_bytes_append (r : Record) (rest : List UInt8) :
    readRecords (r.bytes ++ rest) = r :: readRecords rest := by
  obtain ⟨k, v⟩ := r
  conv_rhs => rw [← ofNat_ofBytesLE_u32Bytes k, ← ofNat_ofBytesLE_u32Bytes v]
  rfl

lemma readRecords_flatMap_append (lru : List Record) {tail : List UInt8} (h : tail.length < 8) :
    readRecords (lru.flatMap Record.bytes ++ tail) = lru := by
  induction lru with
  | nil => exact readRecords_of_length_lt h
  | cons r lru ih => rw [List.flatMap_cons, List.append_assoc, readRecords_bytes_append, ih]

/-- What passes `strcmp` against `"hare"` is exactly a stream that starts with `"hare"`. -/
lemma takeWhile_take_eq_headerStr_iff (f : List UInt8) :
    (f.take 4).takeWhile (· ≠ 0) = headerStr ↔ f.take 4 = headerStr := by
  constructor
  · intro h
    have hp := List.takeWhile_prefix (fun b : UInt8 => decide (b ≠ 0)) (l := f.take 4)
    rw [h] at hp
    have hlen : (f.take 4).length ≤ headerStr.length := by
      rw [List.length_take]
      exact min_le_left _ _
    exact (hp.eq_of_length (le_antisymm hp.length_le hlen)).symm
  · intro h
    rw [h]
    decide

/-- `load` after the magic check: the hash field, then the records. -/
lemma load_some (gshashHare : UInt32) (f : List UInt8) :
    load gshashHare (some f) =
      if f.take 4 = headerStr ∧ ofBytesLE ((f.drop 4).take 4) = gshashHare.toNat then
        (0, readRecords (f.drop 8))
      else (-2, []) := by
  simp only [load, takeWhile_take_eq_headerStr_iff, ne_eq, ite_not, eq_comm (a := gshashHare.toNat)]
  split_ifs <;> simp_all

/-- **The round trip.**  Whatever `save` wrote, followed by a tail shorter than a record, loads
back as exactly the saved entries, in order. -/
lemma load_save (gshashHare : UInt32) (lru : List Record) {tail : List UInt8}
    (h : tail.length < 8) : load gshashHare (some (save gshashHare lru ++ tail)) = (0, lru) := by
  have hf : save gshashHare lru ++ tail =
      headerStr ++ (u32Bytes gshashHare ++ (lru.flatMap Record.bytes ++ tail)) := by
    simp [save]
  have ht' : ∀ l, (u32Bytes gshashHare ++ l).take 4 = u32Bytes gshashHare := fun _ =>
    List.take_left' (length_u32Bytes _)
  have hd' : ∀ l, (u32Bytes gshashHare ++ l).drop 4 = l := fun _ =>
    List.drop_left' (length_u32Bytes _)
  rw [load_some, hf, show 8 = 4 + 4 from rfl, ← List.drop_drop, take_headerStr_append,
    drop_headerStr_append, ht', hd',
    readRecords_flatMap_append lru h, ofBytesLE_u32Bytes]
  simp

/-! ## The header check -/

/-- The first eight bytes are those of a checkpoint of no entry: `"hare"` and the hash. -/
lemma take_eight_eq_iff (gshashHare : UInt32) (f : List UInt8) :
    f.take 8 = save gshashHare [] ↔
      f.take 4 = headerStr ∧ (f.drop 4).take 4 = u32Bytes gshashHare := by
  rw [show 8 = 4 + 4 from rfl, List.take_add, save, List.flatMap_nil, List.append_nil]
  constructor
  · intro h
    have hl := congrArg List.length h
    simp only [List.length_append, List.length_take, List.length_drop, length_u32Bytes] at hl
    exact List.append_inj h (by simp [headerStr] at hl ⊢; omega)
  · rintro ⟨h1, h2⟩
    rw [h1, h2]

/-- **The header check.**  A stream whose first eight bytes are not `"hare"` and the hash is
rejected with no `access` call, unless it is shorter than eight bytes and is `"hare"` followed by
the low bytes of the hash, the missing high bytes being zero. -/
lemma load_of_take_ne (gshashHare : UInt32) {f : List UInt8}
    (hf : f.take 8 ≠ save gshashHare []) :
    load gshashHare (some f) =
      if f.length < 8 ∧ f = headerStr ++ toBytesLE (f.length - 4) gshashHare.toNat ∧
          gshashHare.toNat < 256 ^ (f.length - 4) then (0, []) else (-2, []) := by
  rw [load_some]
  by_cases h8 : 8 ≤ f.length
  · have hC : ¬(f.take 4 = headerStr ∧ ofBytesLE ((f.drop 4).take 4) = gshashHare.toNat) := by
      rintro ⟨h1, h2⟩
      have hlen : ((f.drop 4).take 4).length = 4 := by simp; omega
      rw [ofBytesLE_eq_iff, hlen] at h2
      exact hf ((take_eight_eq_iff _ _).2 ⟨h1, h2.1⟩)
    rw [if_neg hC, if_neg (by omega)]
  · have hd : (f.drop 4).take 4 = f.drop 4 := List.take_of_length_le (by simp; omega)
    have h8' : f.drop 8 = [] := List.drop_of_length_le (by omega)
    refine if_congr ?_ (by rw [h8']; rfl) rfl
    rw [hd, ofBytesLE_eq_iff, List.length_drop]
    constructor
    · rintro ⟨h1, h2, h3⟩
      refine ⟨by omega, ?_, h3⟩
      calc f = f.take 4 ++ f.drop 4 := (List.take_append_drop 4 f).symm
        _ = _ := by rw [h1, h2]
    · rintro ⟨-, h2, h3⟩
      have hd2 := congrArg (List.drop 4) h2
      rw [drop_headerStr_append] at hd2
      exact ⟨by rw [h2, take_headerStr_append], hd2, h3⟩

/-- `ghost::load()` reads back what `ghost::save()` wrote, whatever the entries and with any tail
shorter than a record; and it rejects a stream whose first eight bytes are not the header, with no
`access` call, except a stream shorter than eight bytes that is `"hare"` followed by the low bytes
of the hash, the missing high bytes being zero. -/
theorem load_checkpoint (gshashHare : UInt32) :
    (∀ (lru : List Record) (tail : List UInt8), tail.length < 8 →
      load gshashHare (some (save gshashHare lru ++ tail)) = (0, lru)) ∧
    ∀ f : List UInt8, f.take 8 ≠ save gshashHare [] →
      load gshashHare (some f) =
        if f.length < 8 ∧ f = headerStr ++ toBytesLE (f.length - 4) gshashHare.toNat ∧
            gshashHare.toNat < 256 ^ (f.length - 4) then (0, []) else (-2, []) :=
  ⟨fun lru _ h => load_save gshashHare lru h, fun _ hf => load_of_take_ne gshashHare hf⟩

theorem load_checkpoint_oneRecord :
    load 0xC0FFEE (some (save 0xC0FFEE [⟨7, 64⟩] ++ [1, 2])) = (0, [⟨7, 64⟩]) ∧
      load 0xC0FFEE (some [104, 97, 114]) = (-2, []) :=
  ⟨(load_checkpoint 0xC0FFEE).1 [⟨7, 64⟩] [1, 2] (by decide),
    ((load_checkpoint 0xC0FFEE).2 [104, 97, 114] (by decide)).trans (by decide)⟩

/-- `load` reads `header_hash` into a zeroed `uint32_t` and never checks that the read got four
bytes.  So when the hash of `"hare"` is below `256 ^ k` for some `k < 4`, the stream `"hare"`
followed by the `k` low bytes of the hash, which has no eight-byte header, passes both header
checks and `load` returns `0`. -/
theorem load_accepts_truncated_header (gshashHare : UInt32) (k : Nat) (hk : k < 4)
    (hh : gshashHare.toNat < 256 ^ k) :
    (headerStr ++ toBytesLE k gshashHare.toNat).take 8 ≠ save gshashHare [] ∧
      load gshashHare (some (headerStr ++ toBytesLE k gshashHare.toNat)) = (0, []) := by
  have hlen : (headerStr ++ toBytesLE k gshashHare.toNat).length = 4 + k := by
    simp only [List.length_append, length_toBytesLE]; rfl
  have hne : (headerStr ++ toBytesLE k gshashHare.toNat).take 8 ≠ save gshashHare [] := by
    intro h
    have h' := congrArg List.length h
    rw [List.length_take, hlen] at h'
    simp [save, headerStr] at h'
    omega
  refine ⟨hne, ?_⟩
  rw [load_of_take_ne gshashHare hne, if_pos]
  rw [hlen, Nat.add_sub_cancel_left]
  exact ⟨by omega, rfl, hh⟩

theorem load_accepts_truncated_header_sevenBytes :
    3 < 4 ∧ (0xC0FFEE : UInt32).toNat < 256 ^ 3 ∧
      (headerStr ++ toBytesLE 3 (0xC0FFEE : UInt32).toNat).take 8 ≠ save 0xC0FFEE [] ∧
      load 0xC0FFEE (some (headerStr ++ toBytesLE 3 (0xC0FFEE : UInt32).toNat)) = (0, []) :=
  ⟨by decide, by decide, load_accepts_truncated_header 0xC0FFEE 3 (by decide) (by decide)⟩

end Ghost

end Hopper
