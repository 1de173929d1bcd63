import Hopper.Alloc.Params
import Hopper.DataPlane.Model

/-!
# The CSV loaders

Two handlers read a CSV file whose first line is `key,val_size`.  `HOPPER.LOAD <file>` writes
each listed key into the keyspace with a value of `val_size` copies of `'v'` and replays it into
the ghost cache; `HOPPER.CONFIG.SET dynamo.mock image <file>...` fills the mock storage's
`mock_image`, a map from key hashes to value sizes, through `storage::load_mock_image`.  Both
read each line with `std::getline` into the text before its first comma and the rest, and convert
the rest with `std::stoi` (`HOPPER.LOAD`) or `std::stoul` (`load_mock_image`).

Neither catches the exceptions of the conversions, and a negative `int` size makes
`std::string(val_size, 'v')` throw as well; an exception that leaves a module command ends the
server.  The conversions also read only a prefix of the field.  `csv_loaders_crash` runs both
handlers on such files; `hopperLoad_csv` and `configSetMockImage_csv` show that a file whose
lines are all `<key>,<digits>` with sizes in range is loaded whole.

A file is its list of characters; `std::hash<std::string>` truncated to `uint32_t` is a parameter
`keyHash`, since the standard library fixes no hash.
-/

namespace Hopper

namespace DataPlane

/-! ## Reading lines and numbers -/

/-- `std::getline(is, str, delim)` on the characters `s` left in the stream: `none` when it
extracts nothing, at the end of the input (it sets `failbit`); otherwise the characters before
the first `delim`, and what follows that `delim`. -/
def getline (s : List Char) (delim : Char) : Option (List Char × List Char) :=
  if s = [] then none else some (s.takeWhile (· ≠ delim), (s.dropWhile (· ≠ delim)).drop 1)

/-- The successive `line`s of `while (std::getline(f, line))` over the characters `s`. -/
def lines : List Char → List (List Char)
  | [] => []
  | c :: s =>
    if c = '\n' then [] :: lines s
    else match lines s with
      | [] => [[c]]
      | l :: ls => (c :: l) :: ls

/-- `lines` is the `getline` loop: each line is what `getline` extracts, until it fails. -/
lemma lines_eq (s : List Char) :
    lines s = match getline s '\n' with
      | none => []
      | some (l, r) => l :: lines r := by
  induction s with
  | nil => rfl
  | cons c s ih =>
    by_cases hc : c = '\n'
    · simp [lines, getline, hc]
    · rw [lines, if_neg hc, ih]
      cases s with
      | nil => simp [getline, hc, lines]
      | cons d s => simp [getline, hc]

lemma getline_append_cons {a : List Char} {delim : Char} (h : delim ∉ a) (b : List Char) :
    getline (a ++ delim :: b) delim = some (a, b) := by
  have ha : ∀ x ∈ a, decide (x ≠ delim) = true := fun x hx =>
    decide_eq_true fun he => h (he ▸ hx)
  rw [getline, if_neg (by simp), List.takeWhile_append_of_pos ha, List.dropWhile_append_of_pos ha]
  simp

lemma getline_of_not_mem {s : List Char} {delim : Char} (hs : s ≠ []) (h : delim ∉ s) :
    getline s delim = some (s, []) := by
  have hs' : ∀ x ∈ s, decide (x ≠ delim) = true := fun x hx =>
    decide_eq_true fun he => h (he ▸ hx)
  rw [getline, if_neg hs, List.takeWhile_eq_self_iff.2 hs', List.dropWhile_eq_nil_iff.2 hs']
  rfl

lemma lines_append_newline {l : List Char} (h : '\n' ∉ l) (rest : List Char) :
    lines (l ++ '\n' :: rest) = l :: lines rest := by
  rw [lines_eq, getline_append_cons h]

/-- `isspace` in the "C" locale: space, `\t`, `\n`, `\v`, `\f` and `\r`. -/
def isSpace (c : Char) : Bool := c.toNat = 32 || (9 ≤ c.toNat && c.toNat ≤ 13)

/-- `isdigit` in the "C" locale. -/
def isDigit (c : Char) : Bool := 48 ≤ c.toNat && c.toNat ≤ 57

/-- The value of a run of decimal digits. -/
def digitsValue (ds : List Char) : Nat := ds.foldl (fun n d => 10 * n + (d.toNat - 48)) 0

/-- The optional sign `strtol` reads: whether it is `-`, and what follows it. -/
def readSign : List Char → Bool × List Char
  | '-' :: t => (true, t)
  | '+' :: t => (false, t)
  | t => (false, t)

lemma readSign_of_ne {d : Char} (h1 : d ≠ '-') (h2 : d ≠ '+') (ds : List Char) :
    readSign (d :: ds) = (false, d :: ds) := by
  unfold readSign
  split <;> simp_all

/-- `strtol` and `strtoul` in base 10, up to the range check: white space, an optional sign,
then the longest run of digits; `none` when there is no digit (`*endptr == str`), else whether
the sign was `-` and the value of the digits.  What follows the digits is ignored. -/
def strtoMagnitude (s : List Char) : Option (Bool × Nat) :=
  let (neg, s) := readSign (s.dropWhile isSpace)
  let ds := s.takeWhile isDigit
  if ds = [] then none else some (neg, digitsValue ds)

/-- `std::stoi`: `std::invalid_argument` when `strtol` converts nothing, `std::out_of_range`
when the value is outside `int`. -/
def stoi (s : List Char) : Except CxxException Int :=
  match strtoMagnitude s with
  | none => .error .invalidArgument
  | some (neg, m) =>
    let v : Int := if neg then -m else m
    if v < -2 ^ 31 ∨ 2 ^ 31 ≤ v then .error .outOfRange else .ok v

/-- `std::stoul` with a 64-bit `unsigned long`: `std::out_of_range` when the digits exceed
`ULONG_MAX`; a `-` negates modulo `2^64`, as `strtoul` does. -/
def stoul (s : List Char) : Except CxxException Nat :=
  match strtoMagnitude s with
  | none => .error .invalidArgument
  | some (neg, m) =>
    if u64Size ≤ m then .error .outOfRange else .ok (if neg then (u64Size - m) % u64Size else m)

/-- A line `<key>,<digits>`: a key with no comma, then a non-empty run of decimal digits. -/
structure CsvLine where
  key : List Char
  digits : List Char
  key_ok : ',' ∉ key
  digits_ne : digits ≠ []
  digits_ok : ∀ c ∈ digits, isDigit c = true

namespace CsvLine

variable (l : CsvLine)

/-- The line's text, without its newline. -/
def text : List Char := l.key ++ ',' :: l.digits

/-- The size the line gives. -/
def size : Nat := digitsValue l.digits

lemma newline_not_mem_digits : '\n' ∉ l.digits := fun h => by
  simpa [isDigit] using l.digits_ok _ h

lemma newline_not_mem_text (hk : '\n' ∉ l.key) : '\n' ∉ l.text := by
  simp only [text, List.mem_append, List.mem_cons, not_or]
  exact ⟨hk, by decide, l.newline_not_mem_digits⟩

lemma getline_text : getline l.text ',' = some (l.key, l.digits) :=
  getline_append_cons l.key_ok _

lemma getline_digits : getline l.digits '\n' = some (l.digits, []) :=
  getline_of_not_mem l.digits_ne l.newline_not_mem_digits

lemma strtoMagnitude_digits : strtoMagnitude l.digits = some (false, l.size) := by
  obtain ⟨d, ds, hd⟩ := List.exists_cons_of_ne_nil l.digits_ne
  have hall := l.digits_ok
  rw [hd] at hall ⊢
  have h0 : isDigit d = true := hall d (List.mem_cons_self _ _)
  have hs : isSpace d = false := by simp_all [isDigit, isSpace]; omega
  have hsign : d ≠ '-' ∧ d ≠ '+' := by
    constructor <;> rintro rfl <;> simp [isDigit] at h0
  have ht : (d :: ds).takeWhile isDigit = d :: ds := List.takeWhile_eq_self_iff.2 hall
  simp [strtoMagnitude, hs, readSign_of_ne hsign.1 hsign.2, ht, size, hd]

lemma stoi_digits (h : l.size < 2 ^ 31) : stoi l.digits = .ok l.size := by
  simp only [stoi, strtoMagnitude_digits, Bool.false_eq_true, if_false]
  rw [if_neg (by omega)]

lemma stoul_digits (h : l.size < u64Size) : stoul l.digits = .ok l.size := by
  simp only [stoul, strtoMagnitude_digits, Bool.false_eq_true, if_false]
  rw [if_neg (by omega)]

end CsvLine

/-- A file of `key,val_size` and then the lines `ls`, each ending in a newline. -/
def csvFile (ls : List CsvLine) : List Char :=
  "key,val_size".toList ++ '\n' :: ls.flatMap (fun l => l.text ++ ['\n'])

lemma lines_csvFile_body (ls : List CsvLine) (hk : ∀ l ∈ ls, '\n' ∉ l.key) :
    lines (ls.flatMap (fun l => l.text ++ ['\n'])) = ls.map CsvLine.text := by
  induction ls with
  | nil => rfl
  | cons l ls ih =>
    rw [List.flatMap_cons, List.append_assoc, List.singleton_append,
      lines_append_newline (l.newline_not_mem_text (hk l (List.mem_cons_self _ _))),
      ih fun l' hl' => hk l' (List.mem_cons_of_mem _ hl'), List.map_cons]

lemma getline_csvFile (ls : List CsvLine) :
    getline (csvFile ls) '\n' =
      some ("key,val_size".toList, ls.flatMap (fun l => l.text ++ ['\n'])) :=
  getline_append_cons (by decide) _

/-! ## `HOPPER.LOAD` -/

/-- A value of the Redis keyspace: a string, or a key of another type, which `HOPPER.LOAD` does
not overwrite. -/
inductive Value
  | string (v : String)
  | other
  deriving DecidableEq, Repr

/-- What `HOPPER.LOAD` writes: the keyspace, and the `(key, val_size)` pairs it replays into the
ghost cache with `ghost::access_key(key, val_size, false)`, in order. -/
structure LoadState where
  keyspace : String → Option Value
  warmed : List (String × Nat)

/-- The reply to a file that is not a CSV image. -/
def invalidImageMsg : String := "ERR Invalid image file format"

/-- `std::string val_str(val_size, 'v')` with an `int` count: a negative count converts to a
`size_t` above `max_size()`, and the constructor throws `std::length_error`. -/
def valueOfSize (valSize : Int) : Except CxxException String :=
  if valSize < 0 then .error .lengthError else .ok ⟨List.replicate valSize.toNat 'v'⟩

/-- The line loop of `RedisModule_HopperLoad`, from state `st`. -/
def hopperLoadLines : List (List Char) → LoadState → Except Crash (Reply × LoadState)
  | [], st => .ok (.simple "OK", st)
  | line :: ls, st =>
    match getline line ',' with
    | none => .ok (.error invalidImageMsg, st)
    | some (keyStr, rest) =>
      match getline rest '\n' with
      | none => .ok (.error invalidImageMsg, st)
      | some (valSizeStr, _) =>
        match stoi valSizeStr >>= valueOfSize with
        | .error e => .error (.uncaught e)
        | .ok valStr =>
          let key : String := ⟨keyStr⟩
          -- `can_set`: the key holds a string or nothing
          if st.keyspace key = some .other then .ok (.error invalidImageMsg, st)
          else hopperLoadLines ls
            { keyspace := Function.update st.keyspace key (some (.string valStr))
              warmed := st.warmed ++ [(key, valStr.length)] }

/-- `RedisModule_HopperLoad` on the file's characters (`none` when it does not open). -/
def hopperLoad (file : Option (List Char)) (st : LoadState) : Except Crash (Reply × LoadState) :=
  match file with
  | none => .ok (.error "ERR Failed to open file", st)
  | some s =>
    let (header, rest) := (getline s '\n').getD ([], [])
    if (⟨header⟩ : String) ≠ "key,val_size" then .ok (.error invalidImageMsg, st)
    else hopperLoadLines (lines rest) st

/-- What loading one well-formed line does to the state. -/
def LoadState.put (st : LoadState) (l : CsvLine) : LoadState :=
  { keyspace := Function.update st.keyspace ⟨l.key⟩ (some (.string ⟨List.replicate l.size 'v'⟩))
    warmed := st.warmed ++ [(⟨l.key⟩, l.size)] }

lemma hopperLoadLines_csv (ls : List CsvLine) (hsize : ∀ l ∈ ls, l.size < 2 ^ 31) :
    ∀ st : LoadState, (∀ l ∈ ls, st.keyspace ⟨l.key⟩ ≠ some .other) →
      hopperLoadLines (ls.map CsvLine.text) st = .ok (.simple "OK", ls.foldl LoadState.put st) := by
  induction ls with
  | nil => intro st _; rfl
  | cons l ls ih =>
    intro st hother
    have hl := hsize l (List.mem_cons_self _ _)
    have hv : stoi l.digits >>= valueOfSize = .ok ⟨List.replicate l.size 'v'⟩ := by
      rw [l.stoi_digits hl]
      rfl
    have hput : LoadState.mk
        (Function.update st.keyspace ⟨l.key⟩ (some (.string ⟨List.replicate l.size 'v'⟩)))
        (st.warmed ++ [(⟨l.key⟩, (⟨List.replicate l.size 'v'⟩ : String).length)]) = st.put l := by
      simp [LoadState.put]
    simp only [List.map_cons, hopperLoadLines, l.getline_text, l.getline_digits, hv,
      if_neg (hother l (List.mem_cons_self _ _)), List.foldl_cons, hput]
    refine ih (fun l' hl' => hsize l' (List.mem_cons_of_mem _ hl')) _ fun l' hl' => ?_
    simp only [LoadState.put, Function.update_apply]
    split_ifs
    · simp
    · exact hother l' (List.mem_cons_of_mem _ hl')

/-- **A well-formed file is loaded whole**: when every line is `<key>,<digits>` with a size
that fits an `int` and no listed key holds a value of another type, `HOPPER.LOAD` writes every
key, in order, and replies `OK`. -/
theorem hopperLoad_csv (ls : List CsvLine) (hk : ∀ l ∈ ls, '\n' ∉ l.key)
    (hsize : ∀ l ∈ ls, l.size < 2 ^ 31) (st : LoadState)
    (hother : ∀ l ∈ ls, st.keyspace ⟨l.key⟩ ≠ some .other) :
    hopperLoad (some (csvFile ls)) st = .ok (.simple "OK", ls.foldl LoadState.put st) := by
  simp only [hopperLoad, getline_csvFile, Option.getD_some, ne_eq, not_true_eq_false, if_false,
    lines_csvFile_body ls hk]
  exact hopperLoadLines_csv ls hsize st hother

/-! ## The mock image -/

/-- `storage::mock_image`: key hashes to value sizes. -/
abbrev MockImage := UInt32 → Option UInt32

/-- The line loop of `storage::load_mock_image`: `-2` for a line without a comma or without a
value; each line sets the size of its key's hash as it goes, so a rejected file keeps the lines
before it. -/
def loadMockImageLines (keyHash : String → UInt32) :
    List (List Char) → MockImage → Except CxxException (Int × MockImage)
  | [], img => .ok (0, img)
  | line :: ls, img =>
    match getline line ',' with
    | none => .ok (-2, img)
    | some (key, rest) =>
      match getline rest '\n' with
      | none => .ok (-2, img)
      | some (valSizeStr, _) =>
        match stoul valSizeStr with
        | .error e => .error e
        | .ok valSize =>
          loadMockImageLines keyHash ls
            (Function.update img (keyHash ⟨key⟩) (some (UInt32.ofNat valSize)))

/-- `storage::load_mock_image`: `-1` when the file does not open, `-2` for a bad header, and
otherwise the line loop. -/
def loadMockImage (keyHash : String → UInt32) (file : Option (List Char)) (img : MockImage) :
    Except CxxException (Int × MockImage) :=
  match file with
  | none => .ok (-1, img)
  | some s =>
    let (header, rest) := (getline s '\n').getD ([], [])
    if (⟨header⟩ : String) ≠ "key,val_size" then .ok (-2, img)
    else loadMockImageLines keyHash (lines rest) img

/-- What `dynamo.mock` reads and writes: whether storage is mocked, and the mock image
(`nullptr` is `none`). -/
structure MockState where
  mock : Bool
  image : Option MockImage

/-- The loop over the image files of `dynamo.mock image`: a file that does not open or is
rejected ends the command with an error, keeping what the files before it loaded; after the last
file storage is mocked. -/
def loadMockImages (keyHash : String → UInt32) (fs : String → Option (List Char)) (mock : Bool) :
    List String → MockImage → Except Crash (Reply × MockState)
  | [], img => .ok (.simple "OK", ⟨true, some img⟩)
  | f :: rest, img =>
    match loadMockImage keyHash (fs f) img with
    | .error e => .error (.uncaught e)
    | .ok (rc, img) =>
      if rc = -1 then .ok (.error "ERR Failed to open image file", ⟨mock, some img⟩)
      else if rc = -2 then .ok (.error "ERR Invalid image file format", ⟨mock, some img⟩)
      else loadMockImages keyHash fs mock rest img

/-- The `dynamo.mock image <file>...` branch of `RedisModule_HopperConfigSet`, over the file
system `fs`: `storage::init_mock_image()` creates an empty image if there is none, then the
files are loaded in turn. -/
def configSetMockImage (keyHash : String → UInt32) (fs : String → Option (List Char))
    (st : MockState) (files : List String) : Except Crash (Reply × MockState) :=
  loadMockImages keyHash fs st.mock files (st.image.getD fun _ => none)

/-- What loading one well-formed line does to the image: the size is cast to `uint32_t`. -/
def putSize (keyHash : String → UInt32) (img : MockImage) (l : CsvLine) : MockImage :=
  Function.update img (keyHash ⟨l.key⟩) (some (UInt32.ofNat l.size))

lemma loadMockImageLines_csv (keyHash : String → UInt32) (ls : List CsvLine)
    (hsize : ∀ l ∈ ls, l.size < u64Size) (img : MockImage) :
    loadMockImageLines keyHash (ls.map CsvLine.text) img = .ok (0, ls.foldl (putSize keyHash) img) := by
  induction ls generalizing img with
  | nil => rfl
  | cons l ls ih =>
    simp only [List.map_cons, loadMockImageLines, l.getline_text, l.getline_digits,
      l.stoul_digits (hsize l (List.mem_cons_self _ _)), List.foldl_cons]
    exact ih (fun l' hl' => hsize l' (List.mem_cons_of_mem _ hl')) _

/-- **A well-formed image is loaded whole**: when every line is `<key>,<digits>` with a size
below `2^64`, `dynamo.mock image` sets the size of every key's hash, cast to `uint32_t`, and
mocks storage. -/
theorem configSetMockImage_csv (keyHash : String → UInt32) (ls : List CsvLine)
    (hk : ∀ l ∈ ls, '\n' ∉ l.key) (hsize : ∀ l ∈ ls, l.size < u64Size) (st : MockState)
    (file : String) :
    configSetMockImage keyHash (fun _ => some (csvFile ls)) st [file] =
      .ok (.simple "OK", ⟨true, some (ls.foldl (putSize keyHash) (st.image.getD fun _ => none))⟩) := by
  simp only [configSetMockImage, loadMockImages, loadMockImage, getline_csvFile, Option.getD_some,
    ne_eq, not_true_eq_false, if_false, lines_csvFile_body ls hk, loadMockImageLines_csv keyHash ls hsize]
  rfl

/-! ## Files the loaders do not survive -/

/-- A size field that is not a number (`k,abc`) makes `std::stoi` and `std::stoul` throw
`std::invalid_argument`, which neither handler catches; `HOPPER.LOAD` also dies on a negative
size (`k,-1`, through `std::string`) and on one beyond `int` (`k,99999999999`).  Meanwhile both
accept fields that are not decimals that fit: `k,12abc` loads a 12-byte value, and the mock image
stores `k,4294967296` as size `0`. -/
theorem csv_loaders_crash (keyHash : String → UInt32) (st : LoadState) (ms : MockState) :
    hopperLoad (some "key,val_size\nk,abc".toList) st = .error (.uncaught .invalidArgument) ∧
    configSetMockImage keyHash (fun _ => some "key,val_size\nk,abc".toList) ms ["image.csv"] =
      .error (.uncaught .invalidArgument) ∧
    hopperLoad (some "key,val_size\nk,-1".toList) st = .error (.uncaught .lengthError) ∧
    hopperLoad (some "key,val_size\nk,99999999999".toList) st = .error (.uncaught .outOfRange) ∧
    hopperLoad (some "key,val_size\nk,12abc".toList) ⟨fun _ => none, []⟩ =
      .ok (.simple "OK", ⟨Function.update (fun _ => none) "k" (some (.string "vvvvvvvvvvvv")),
        [("k", 12)]⟩) ∧
    configSetMockImage keyHash (fun _ => some "key,val_size\nk,4294967296".toList) ms ["image.csv"] =
      .ok (.simple "OK", ⟨true, some (Function.update (ms.image.getD fun _ => none) (keyHash "k")
        (some 0))⟩) :=
  ⟨rfl, rfl, rfl, rfl, rfl, rfl⟩

end DataPlane

end Hopper
