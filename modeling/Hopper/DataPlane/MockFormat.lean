import Hopper.DataPlane.Load
import Hopper.DataPlane.Resp
import Mathlib.Data.Nat.Digits

/-!
# The mock key-value format

With `dynamo.mock` and no mock image, the storage thread answers a Get itself: `make_mock_val`
reads the offset written in the key (`K<offset>s...`) and builds the value
`V<offset>s<val_size>AAA...L`, the offset and the size zero-padded to `offset_len` and
`size_len` digits.  `update_mock_format(key_size, val_size)` derives those widths, and the
padding that makes a key `key_size` bytes long and a value `val_size` bytes long; it throws
`std::invalid_argument` for sizes too small to hold the fields.

`updateMockFormat_valid`: every format it accepts satisfies `MockFormat.Valid`, the equations
between the widths the value is built from.  `makeMockVal_length`: for such a format, every key
of the format whose offset fits in `offset_len` digits (and in an `int`) gets a value of exactly
`val_size` bytes, which is what the format is for.  `mockGetValue` is the value
`process_mock_dynamo` gives a Get: with a mock image, the image's size; otherwise
`make_mock_val`.  `mockSetImage` is what a mocked Set does to the image: it records the written
length modulo `2^32`, and without an image the Set is dropped.

`update_mock_format`'s arithmetic is on `uint32_t` and its results are read as `int32_t`: sizes
of `2^31` bytes or more are rejected by the sign of that conversion.
-/

namespace Hopper

namespace DataPlane

/-! ## `update_mock_format` -/

/-- `std::to_string(n).length()` for an unsigned `n`. -/
def decLen (n : Nat) : Nat := (Nat.repr n).length

/-- `uint32_t` subtraction, for `b ≤ 2^32`. -/
def subU32 (a b : Nat) : Nat := (a + (u32Size - b)) % u32Size

/-- A `uint32_t` value read as an `int32_t`. -/
def toInt32 (n : Nat) : Int := if n < 2 ^ 31 then n else (n : Int) - 2 ^ 32

/-- `storage::mock_format`. -/
structure MockFormat where
  keySize : Nat
  valSize : Nat
  sizeLen : Nat
  offsetLen : Nat
  kPadLen : Nat
  vPadLen : Nat
  deriving DecidableEq, Repr

/-- `storage::update_mock_format(key_size, val_size)` on `uint32_t` sizes: the new format, or
the message of the `std::invalid_argument` it throws (the format is then unchanged). -/
def updateMockFormat (keySize valSize : Nat) : Except String MockFormat :=
  let sizeLen := max (decLen keySize) (decLen valSize)
  let leastLenLeft := toInt32 (subU32 (subU32 (min keySize valSize) 3) sizeLen)
  if leastLenLeft ≤ 0 then .error "Incorrect KV format: least_len_left <= 0"
  else
    let offsetLen := (min leastLenLeft 10).toNat
    let kPadLen := toInt32 (subU32 (subU32 (subU32 keySize 3) sizeLen) offsetLen)
    let vPadLen := toInt32 (subU32 (subU32 (subU32 valSize 3) sizeLen) offsetLen)
    if kPadLen < 0 then .error "Incorrect KV format: k_pad_len < 0"
    else if vPadLen < 0 then .error "Incorrect KV format: v_pad_len < 0"
    else .ok ⟨keySize, valSize, sizeLen, offsetLen, kPadLen.toNat, vPadLen.toNat⟩

/-- The widths of an accepted format: a key and a value are three marker bytes (`K`/`V`, `s`
and `L` for a value), the offset, the size and the padding; the offset has one to ten digits,
and `size_len` digits hold both sizes. -/
structure MockFormat.Valid (f : MockFormat) : Prop where
  key_eq : f.keySize = 3 + f.sizeLen + f.offsetLen + f.kPadLen
  val_eq : f.valSize = 3 + f.sizeLen + f.offsetLen + f.vPadLen
  offsetLen_pos : 0 < f.offsetLen
  offsetLen_le : f.offsetLen ≤ 10
  sizeLen_eq : f.sizeLen = max (decLen f.keySize) (decLen f.valSize)

lemma decLen_le_ten {n : Nat} (h : n < u32Size) : decLen n ≤ 10 :=
  Nat.repr_length n 10 (by decide) (lt_of_lt_of_le h (by decide))

/-- `least_len_left` is positive only when `min(key_size, val_size) - 3 - size_len` does not wrap,
and is then that difference. -/
lemma leastLenLeft_pos {m s : Nat} (hm : m < u32Size) (hs : s ≤ 10)
    (h : 0 < toInt32 (subU32 (subU32 m 3) s)) :
    3 + s < m ∧ toInt32 (subU32 (subU32 m 3) s) = (m - 3 - s : Nat) := by
  simp only [subU32, toInt32, u32Size, Nat.reducePow] at hm h ⊢
  split_ifs at h ⊢ <;> omega

lemma subU32_of_le {a b : Nat} (hb : b ≤ a) (ha : a < u32Size) : subU32 a b = a - b := by
  unfold subU32
  rw [show a + (u32Size - b) = (a - b) + u32Size by omega, Nat.add_mod_right]
  exact Nat.mod_eq_of_lt (by omega)

/-- A padding read as `int32_t` is non-negative only when it does not wrap, and is then the
bytes left for it. -/
lemma padLen_of_nonneg {a s o : Nat} (ha : a < u32Size) (hle : 3 + s + o ≤ a)
    (h : ¬toInt32 (subU32 (subU32 (subU32 a 3) s) o) < 0) :
    (toInt32 (subU32 (subU32 (subU32 a 3) s) o)).toNat = a - 3 - s - o := by
  have ha' : a < 2 ^ 32 := ha
  have h1 : subU32 a 3 = a - 3 := subU32_of_le (by omega) ha
  have h2 : subU32 (a - 3) s = a - 3 - s := subU32_of_le (by omega) (by omega)
  have h3 : subU32 (a - 3 - s) o = a - 3 - s - o := subU32_of_le (by omega) (by omega)
  rw [h1, h2, h3] at h ⊢
  unfold toInt32 at h ⊢
  split <;> omega

/-- **Every accepted format is valid.**  On `uint32_t` sizes, whatever `update_mock_format`
accepts satisfies the width equations the value is built from. -/
theorem updateMockFormat_valid {keySize valSize : Nat} {f : MockFormat}
    (hk : keySize < u32Size) (hv : valSize < u32Size) (h : updateMockFormat keySize valSize = .ok f) :
    f.Valid := by
  unfold updateMockFormat at h
  dsimp only at h
  have hs10 : max (decLen keySize) (decLen valSize) ≤ 10 :=
    max_le (decLen_le_ten hk) (decLen_le_ten hv)
  have hmk := min_le_left keySize valSize
  have hmv := min_le_right keySize valSize
  split_ifs at h with hleast hkpad hvpad
  cases h
  obtain ⟨hlt, hL⟩ := leastLenLeft_pos (lt_of_le_of_lt hmk hk) hs10 (lt_of_not_le hleast)
  rw [hL] at hkpad hvpad ⊢
  rw [padLen_of_nonneg hk (by omega) hkpad, padLen_of_nonneg hv (by omega) hvpad]
  refine ⟨?_, ?_, ?_, ?_, rfl⟩ <;> dsimp only <;> omega

/-- The format `storage::init` sets by `update_mock_format(16, 500)`: 16-byte keys and 500-byte
values, with a ten-digit offset. -/
def defaultMockFormat : MockFormat := ⟨16, 500, 3, 10, 0, 484⟩

lemma updateMockFormat_default : updateMockFormat 16 500 = .ok defaultMockFormat := by rfl

/-! ## `make_mock_val` -/

/-- `INT_MAX`. -/
def intMax : Nat := 2 ^ 31 - 1

/-- The loop of `make_mock_val` over the characters of `key` after its first: the offset is read
up to the first `'s'`, and a character that is not a digit throws; `none` when the `int` offset
overflows (undefined behaviour). -/
def offsetLoop (key : List Char) : List Char → Nat → Option (Except String Nat)
  | [], offset => some (.ok offset)
  | c :: cs, offset =>
    if c = 's' then some (.ok offset)
    else if isDigit c then
      if intMax < offset * 10 + (c.toNat - 48) then none
      else offsetLoop key cs (offset * 10 + (c.toNat - 48))
    else some (.error ("Invalid key format: non-digit char found in offset: " ++ String.mk key))

/-- `std::setw(width) << std::setfill('0') << n`: the decimal digits of `n`, padded on the
left with zeros to `width` characters. -/
def padZero (width n : Nat) : List Char :=
  List.replicate (width - decLen n) '0' ++ (Nat.repr n).toList

/-- `storage::make_mock_val(key)` under `mock_format`: the value, or the message of the
`std::invalid_argument` it throws; `none` when the offset overflows an `int`. -/
def makeMockVal (fmt : MockFormat) (key : List Char) : Option (Except String (List Char)) :=
  if key.length ≠ fmt.keySize then
    some (.error ("Incorrect KV format: key length mismatch: " ++ String.mk key))
  else if key.headD nul ≠ 'K' then
    some (.error ("Invalid key format: leading char must be \x27K\x27: " ++ String.mk key))
  else (offsetLoop key key.tail 0).map fun r => r.map fun offset =>
    'V' :: padZero fmt.offsetLen offset ++ 's' :: padZero fmt.sizeLen fmt.valSize ++
      List.replicate fmt.vPadLen 'A' ++ ['L']

lemma length_padZero {width n : Nat} (h : decLen n ≤ width) : (padZero width n).length = width := by
  simp only [padZero, List.length_append, List.length_replicate]
  have : (Nat.repr n).toList.length = decLen n := rfl
  omega

lemma le_digitsFold (ds : List Char) (acc : Nat) :
    acc ≤ ds.foldl (fun n d => 10 * n + (d.toNat - 48)) acc := by
  induction ds generalizing acc with
  | nil => exact le_rfl
  | cons d ds ih => exact le_trans (show acc ≤ 10 * acc + (d.toNat - 48) by omega) (ih _)

/-- On a run of digits followed by `'s'`, the loop reads the digits' value, as long as it fits
in an `int`. -/
lemma offsetLoop_digits (key : List Char) {ds : List Char} (hd : ∀ c ∈ ds, isDigit c = true)
    (rest : List Char) (acc : Nat)
    (hint : ds.foldl (fun n d => 10 * n + (d.toNat - 48)) acc ≤ intMax) :
    offsetLoop key (ds ++ 's' :: rest) acc =
      some (.ok (ds.foldl (fun n d => 10 * n + (d.toNat - 48)) acc)) := by
  induction ds generalizing acc with
  | nil => simp [offsetLoop]
  | cons d ds ih =>
    have hdd := hd d (List.mem_cons_self _ _)
    have hds : d ≠ 's' := by rintro rfl; simp [isDigit] at hdd
    have hle := le_digitsFold ds (10 * acc + (d.toNat - 48))
    rw [List.foldl_cons] at hint ⊢
    rw [List.cons_append, offsetLoop, if_neg hds, if_pos hdd, if_neg (by omega), Nat.mul_comm]
    exact ih (fun c hc => hd c (List.mem_cons_of_mem _ hc)) _ hint

/-- **A key of the format gets a value of the format's size.**  For a valid format, a key of
`key_size` bytes made of `'K'`, the digits of an offset that fits in `offset_len` digits and in
an `int`, then `'s'` and anything, is given a value of exactly `val_size` bytes. -/
theorem makeMockVal_length {fmt : MockFormat} (hv : fmt.Valid) {digits rest : List Char}
    (hdig : ∀ c ∈ digits, isDigit c = true)
    (hlen : ('K' :: (digits ++ 's' :: rest)).length = fmt.keySize)
    (hfit : digitsValue digits < 10 ^ fmt.offsetLen) (hint : digitsValue digits ≤ intMax) :
    ∃ v, makeMockVal fmt ('K' :: (digits ++ 's' :: rest)) = some (.ok v) ∧
      v.length = fmt.valSize := by
  have hoff : decLen (digitsValue digits) ≤ fmt.offsetLen :=
    Nat.repr_length _ _ hv.offsetLen_pos hfit
  have hsize : decLen fmt.valSize ≤ fmt.sizeLen := hv.sizeLen_eq ▸ le_max_right _ _
  refine ⟨'V' :: padZero fmt.offsetLen (digitsValue digits) ++ 's' ::
    padZero fmt.sizeLen fmt.valSize ++ List.replicate fmt.vPadLen 'A' ++ ['L'], ?_, ?_⟩
  · rw [makeMockVal, if_neg (not_not.mpr hlen), List.headD_cons, if_neg (not_not.mpr rfl),
      List.tail_cons, offsetLoop_digits _ hdig rest 0 hint]
    rfl
  · simp only [List.length_cons, List.length_append, length_padZero hoff, length_padZero hsize,
      List.length_replicate, List.length_nil]
    have := hv.val_eq
    omega

/-! ## The mocked storage -/

/-- The Get branch of `process_mock_dynamo` on `key`: with a mock image, as many bytes of `'v'`
as the image holds for the key's hash, or the error `key not found in image`; without one,
`make_mock_val(key)`. -/
def mockGetValue (keyHash : String → UInt32) (image : Option MockImage) (fmt : MockFormat)
    (key : List Char) : Option (Except String (List Char)) :=
  match image with
  | some img =>
    some (match img (keyHash ⟨key⟩) with
      | some size => .ok (List.replicate size.toNat 'v')
      | none => .error "key not found in image")
  | none => makeMockVal fmt key

/-- The Set branch of `process_mock_dynamo`: an image, if there is one, records the size of the
value under the key's hash, cast to `uint32_t`; the value itself is not kept. -/
def mockSetImage (keyHash : String → UInt32) (image : Option MockImage) (key value : List Char) :
    Option MockImage :=
  image.map fun img => Function.update img (keyHash ⟨key⟩) (some (UInt32.ofNat value.length))

end DataPlane

end Hopper
