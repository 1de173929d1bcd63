import Hopper.DataPlane.MockFormat
import Hopper.DataPlane.Stats
import Hopper.Ghost.Range
import Mathlib.Logic.Relation

/-!
# `HOPPER.CONFIG.SET` and `HOPPER.CONFIG.GET`

The module's settings are globals of `config.cpp` and `storage.cpp`: the DynamoDB table, whether
storage is mocked, the mock image and the mock key-value format, whether a Set is admitted into
the cache, and the ghost range with the ghost cache built over it.  `configSet` is
`RedisModule_HopperConfigSet` on them: it compares the option's name and its first value with
`utils::rstr::strcmp`, checks the arity, and hands the `dynamo.mock image` and `ghost.range`
branches to `configSetMockImage` and `Ghost.configSetGhostRange`.

## What one command can do

`configSet_outcome` lists every outcome of one command (`SetOutcome`): a refusal, which replies
one error and changes nothing, or one of six updates.  The properties of runs are derived from
it, never from `configSet` itself:

* `SetOutcome.eq_of_error`: a command that does not reply `OK` changes no setting, the mock image
  apart: `dynamo.mock image` creates the image before it opens a file, and keeps the lines of the
  files read before the one that fails.
* `mockImage_persists`: once there is a mock image, no command removes it or a key from it, and
  the format `dynamo.mock format` sets is never read again.
* `mockFormat_valid_of_reachable`: in every configuration reached from the one the module loads
  with, the mock format satisfies `MockFormat.Valid`, so a key of the format gets a value of
  `val_size` bytes.
-/

namespace Hopper

namespace DataPlane

open Ghost (GhostRange GhostCache GhostState configSetGhostRange)

/-! ## The settings and the command -/

/-- What the handlers read besides the settings: the Redis module API's number parsers (`none` for
`REDISMODULE_ERR`), the key hash of the mock image, the file system, and the ghost cache's hash
seed with the checkpoint `ghost::init` loads. -/
structure ConfigEnv where
  /-- `RedisModule_StringToLongLong`. -/
  stringToLongLong : List Char → Option Int
  /-- `RedisModule_StringToULongLong`. -/
  stringToULongLong : List Char → Option Nat
  /-- `std::hash<std::string>`, cast to `uint32_t`. -/
  keyHash : String → UInt32
  /-- The contents of each file that opens. -/
  fs : String → Option (List Char)
  gshashHare : UInt32
  /-- `dump.ghc`. -/
  ckpt : Option (List UInt8)

/-- `config::dynamo::{table, mock}` with `storage::mock_image`, `storage::mock_format`,
`config::cache::admit_write`, and `config::ghost` with the ghost cache. -/
structure ConfigState where
  table : List Char
  mock : MockState
  mockFormat : MockFormat
  admitWrite : Bool
  ghost : GhostState

/-- The settings after `RedisModule_OnLoad`: the initial values of `config.cpp`, no mock image,
the format `storage::init` sets, and the ghost cache `ghost::init` built over the default
range. -/
def ConfigState.init (cache : GhostCache) : ConfigState :=
  ⟨"hare_table".toList, ⟨false, none⟩, defaultMockFormat, true, ⟨GhostRange.default, cache⟩⟩

/-- A reply of the handlers modelled with `Reply`, as a call of the reply API. -/
def Reply.toTok : Reply → Tok
  | .value v => .stringBuffer v.toList
  | .simple s => .simple s
  | .error msg => .error msg

/-- The `dynamo.mock` branch of `RedisModule_HopperConfigSet`, on the option `opt` and the
arguments after it.  The casts of `static_cast<uint32_t>` are taken modulo `2^32`. -/
def configSetMock (env : ConfigEnv) (st : ConfigState) (opt : List Char)
    (rest : List (List Char)) : Except Crash (List Tok × ConfigState) :=
  if rstrcmp opt "disable" = 0 then
    if rest ≠ [] then .ok ([.wrongArity], st)
    else .ok ([.simple "OK"], { st with mock := { st.mock with mock := false } })
  else if rstrcmp opt "image" = 0 then
    (configSetMockImage env.keyHash env.fs st.mock (rest.map fun f => ⟨f⟩)).map
      fun (r, ms) => ([r.toTok], { st with mock := ms })
  else if rstrcmp opt "format" = 0 then
    match rest with
    | [keySize, valSize] =>
      match env.stringToLongLong keySize, env.stringToULongLong valSize with
      | none, _ => .ok ([.error "ERR Invalid `key_size` for <dynamo.mock>"], st)
      | some _, none => .ok ([.error "ERR Invalid `val_size` for <dynamo.mock>"], st)
      | some k, some v =>
        match updateMockFormat (k % (u32Size : Int)).toNat (v % u32Size) with
        | .ok f => .ok ([.simple "OK"],
            { st with mockFormat := f, mock := { st.mock with mock := true } })
        | .error e => .ok ([.error ("ERR Ill-formed key-value format: " ++ e)], st)
    | _ => .ok ([.wrongArity], st)
  else .ok ([.error "ERR Invalid option for <dynamo.mock>"], st)

/-- `RedisModule_HopperConfigSet` on `argv` (`argv[0]` is the command's name): the replies and
the new settings, or how the handler ends the server. -/
def configSet (env : ConfigEnv) (st : ConfigState) :
    List (List Char) → Except Crash (List Tok × ConfigState)
  | _ :: name :: arg :: rest =>
    if rstrcmp name "dynamo.table" = 0 then
      if rest ≠ [] then .ok ([.wrongArity], st)
      else .ok ([.simple "OK"], { st with table := arg })
    else if rstrcmp name "dynamo.mock" = 0 then configSetMock env st arg rest
    else if rstrcmp name "cache.admit_write" = 0 then
      if rest ≠ [] then .ok ([.wrongArity], st)
      else if rstrcmp arg "true" = 0 then .ok ([.simple "OK"], { st with admitWrite := true })
      else if rstrcmp arg "false" = 0 then .ok ([.simple "OK"], { st with admitWrite := false })
      else .ok ([.error "ERR Invalid value for <cache.admit_write>"], st)
    else if rstrcmp name "ghost.range" = 0 then
      match rest with
      | [minTick, maxTick] =>
        (configSetGhostRange env.gshashHare env.ckpt st.ghost (env.stringToULongLong arg)
          (env.stringToULongLong minTick) (env.stringToULongLong maxTick)).map
          fun (r, g) => ([r.toTok], { st with ghost := g })
      | _ => .ok ([.wrongArity], st)
    else if rstrcmp name "policy.alloc_total_net_bw" = 0 then
      .ok ([.error "ERR <policy.alloc_total_net_bw> is not configurable"], st)
    else .ok ([.error "ERR unrecognized config"], st)
  | _ => .ok ([.wrongArity], st)

/-- `storage::reply_mock_format`: the name, then the six fields as an array. -/
def replyMockFormat (f : MockFormat) : List Tok :=
  [.simple "dynamo.mock_format", .array 6, .longLong f.keySize, .longLong f.valSize,
    .longLong f.sizeLen, .longLong f.offsetLen, .longLong f.kPadLen, .longLong f.vPadLen]

/-- `RedisModule_HopperConfigGet` with `argc` arguments: twelve elements, a name then its
value. -/
def configGet (st : ConfigState) (argc : Nat) : List Tok :=
  if argc ≠ 1 then [.wrongArity]
  else .array 12 :: .simple "policy.alloc_total_net_bw" :: .bool allocTotalNetBw ::
    .simple "dynamo.table" :: .stringBuffer st.table :: .simple "dynamo.mock" ::
    .bool st.mock.mock :: replyMockFormat st.mockFormat ++
    [.simple "cache.admit_write", .bool st.admitWrite, .simple "ghost.range", .array 3,
      .longLong st.ghost.range.tick, .longLong st.ghost.range.minTick,
      .longLong st.ghost.range.maxTick]

/-- `RedisModule_HopperGhostLoad` with `argc` arguments: `ghost::load()` replays `dump.ghc` into
the ghost cache as it is, and its codes `-1` and `-2` are replied as errors. -/
def hopperGhostLoad (gshashHare : UInt32) (ckpt : Option (List UInt8)) (c : GhostCache)
    (argc : Nat) : Tok × GhostCache :=
  if argc ≠ 1 then (.wrongArity, c)
  else
    let (rc, records) := Ghost.load gshashHare ckpt
    if rc = -1 then (.error "ERR Fail to open dump.ghc file", c)
    else if rc = -2 then (.error "ERR Detect incompatible dump.ghc", c)
    else (.simple "OK", { c with replayed := c.replayed ++ records })

/-! ## The two delegated branches -/

/-- `img'` holds a size for every key hash `img` holds one for. -/
def ImageCovers (img' img : MockImage) : Prop := ∀ h, (img h).isSome → (img' h).isSome

lemma ImageCovers.refl (img : MockImage) : ImageCovers img img := fun _ h => h

lemma ImageCovers.trans {a b c : MockImage} (hab : ImageCovers a b) (hbc : ImageCovers b c) :
    ImageCovers a c := fun h hc => hab h (hbc h hc)

lemma imageCovers_update (img : MockImage) (h : UInt32) (v : UInt32) :
    ImageCovers (Function.update img h (some v)) img := by
  intro h' hh'
  by_cases e : h' = h
  · subst e
    rw [Function.update_same]
    rfl
  · rwa [Function.update_noteq e]

lemma loadMockImageLines_covers {keyHash : String → UInt32} {ls : List (List Char)}
    {img img' : MockImage} {rc : Int} (h : loadMockImageLines keyHash ls img = .ok (rc, img')) :
    ImageCovers img' img := by
  induction ls generalizing img with
  | nil => cases h; exact .refl _
  | cons line ls ih =>
    simp only [loadMockImageLines] at h
    split at h
    · cases h; exact .refl _
    · split at h
      · cases h; exact .refl _
      · split at h
        · cases h
        · exact (ih h).trans (imageCovers_update _ _ _)

lemma loadMockImage_covers {keyHash : String → UInt32} {file : Option (List Char)}
    {img img' : MockImage} {rc : Int} (h : loadMockImage keyHash file img = .ok (rc, img')) :
    ImageCovers img' img := by
  cases file with
  | none => cases h; exact .refl _
  | some s =>
    simp only [loadMockImage] at h
    split_ifs at h
    · cases h; exact .refl _
    · exact loadMockImageLines_covers h

/-- The image loop replies `OK` and mocks storage, or replies an error and keeps the flag; either
way the image is there, holding every key hash it held. -/
lemma loadMockImages_spec {keyHash : String → UInt32} {fs : String → Option (List Char)}
    {mock : Bool} {files : List String} {img : MockImage} {r : Reply} {ms : MockState}
    (h : loadMockImages keyHash fs mock files img = .ok (r, ms)) :
    (r = .simple "OK" ∧ ms.mock = true ∨ r ≠ .simple "OK" ∧ ms.mock = mock) ∧
      ∃ img', ms.image = some img' ∧ ImageCovers img' img := by
  induction files generalizing img with
  | nil => cases h; exact ⟨.inl ⟨rfl, rfl⟩, _, rfl, .refl _⟩
  | cons f files ih =>
    simp only [loadMockImages] at h
    split at h
    · cases h
    · rename_i rc img₁ hload
      have hcov := loadMockImage_covers hload
      split_ifs at h
      · cases h; exact ⟨.inr ⟨nofun, rfl⟩, _, rfl, hcov⟩
      · cases h; exact ⟨.inr ⟨nofun, rfl⟩, _, rfl, hcov⟩
      · obtain ⟨hr, img', himg, hcov'⟩ := ih h
        exact ⟨hr, img', himg, hcov'.trans hcov⟩

/-- Once the three values parse, `ghost.range` replies `OK`; before, it replies an error and
changes nothing. -/
lemma configSetGhostRange_eq_of_error {gshashHare : UInt32} {ckpt : Option (List UInt8)}
    {s s' : GhostState} {a b c : Option Nat} {r : Reply}
    (h : configSetGhostRange gshashHare ckpt s a b c = .ok (r, s')) (hr : r ≠ .simple "OK") :
    s' = s := by
  match a, b, c, h with
  | none, _, _, h => cases h; rfl
  | some _, none, _, h => cases h; rfl
  | some _, some _, none, h => cases h; rfl
  | some _, some _, some _, h => exact absurd (Ghost.configSetGhostRange_reply _ _ _ h) hr

/-! ## What one command can do -/

/-- The outcomes of one `HOPPER.CONFIG.SET` from the settings `st`: the reply and the new
settings. -/
inductive SetOutcome (env : ConfigEnv) (st : ConfigState) : Tok → ConfigState → Prop
  /-- An arity error or an error reply of the handler itself, which changes nothing. -/
  | refuse {t : Tok} (ht : t ≠ .simple "OK") : SetOutcome env st t st
  | table (v : List Char) : SetOutcome env st (.simple "OK") { st with table := v }
  | admitWrite (b : Bool) : SetOutcome env st (.simple "OK") { st with admitWrite := b }
  | disable : SetOutcome env st (.simple "OK") { st with mock := { st.mock with mock := false } }
  | image {files : List String} {r : Reply} {ms : MockState}
      (h : configSetMockImage env.keyHash env.fs st.mock files = .ok (r, ms)) :
      SetOutcome env st r.toTok { st with mock := ms }
  | format {k v : Nat} {f : MockFormat} (hk : k < u32Size) (hv : v < u32Size)
      (h : updateMockFormat k v = .ok f) :
      SetOutcome env st (.simple "OK") { st with mockFormat := f, mock := { st.mock with mock := true } }
  | ghost {a b c : Option Nat} {r : Reply} {g : GhostState}
      (h : configSetGhostRange env.gshashHare env.ckpt st.ghost a b c = .ok (r, g)) :
      SetOutcome env st r.toTok { st with ghost := g }

lemma error_ne_ok (msg : String) : Tok.error msg ≠ .simple "OK" := nofun

lemma wrongArity_ne_ok : Tok.wrongArity ≠ .simple "OK" := nofun

lemma configSetMock_outcome {env : ConfigEnv} {st st' : ConfigState} {opt : List Char}
    {rest : List (List Char)} {r : List Tok} (h : configSetMock env st opt rest = .ok (r, st')) :
    ∃ t, r = [t] ∧ SetOutcome env st t st' := by
  unfold configSetMock at h
  by_cases h1 : rstrcmp opt "disable" = 0
  · rw [if_pos h1] at h
    by_cases hr : rest ≠ []
    · rw [if_pos hr] at h; cases h; exact ⟨_, rfl, .refuse wrongArity_ne_ok⟩
    · rw [if_neg hr] at h; cases h; exact ⟨_, rfl, .disable⟩
  rw [if_neg h1] at h
  by_cases h2 : rstrcmp opt "image" = 0
  · rw [if_pos h2] at h
    cases himg : configSetMockImage env.keyHash env.fs st.mock (rest.map fun f => ⟨f⟩) with
    | error e => rw [himg] at h; cases h
    | ok p => rw [himg] at h; cases h; exact ⟨_, rfl, .image himg⟩
  rw [if_neg h2] at h
  by_cases h3 : rstrcmp opt "format" = 0
  · rw [if_pos h3] at h
    match rest, h with
    | [keySize, valSize], h =>
      simp only at h
      split at h
      · cases h; exact ⟨_, rfl, .refuse (error_ne_ok _)⟩
      · cases h; exact ⟨_, rfl, .refuse (error_ne_ok _)⟩
      · rename_i k v _ _
        split at h
        · cases h
          have hk : (k % (u32Size : Int)).toNat < u32Size := by
            simp only [u32Size, Nat.reducePow, Nat.cast_ofNat]
            omega
          exact ⟨_, rfl, .format hk (Nat.mod_lt v (by decide)) ‹_›⟩
        · cases h; exact ⟨_, rfl, .refuse (error_ne_ok _)⟩
    | [], h | [_], h | _ :: _ :: _ :: _, h => cases h; exact ⟨_, rfl, .refuse wrongArity_ne_ok⟩
  · rw [if_neg h3] at h; cases h; exact ⟨_, rfl, .refuse (error_ne_ok _)⟩

/-- **Everything one command can do.**  Every `HOPPER.CONFIG.SET` that replies sends exactly one
reply, and its effect is one of the outcomes of `SetOutcome`. -/
lemma configSet_outcome {env : ConfigEnv} {st st' : ConfigState} {argv : List (List Char)}
    {r : List Tok} (h : configSet env st argv = .ok (r, st')) :
    ∃ t, r = [t] ∧ SetOutcome env st t st' := by
  match argv, h with
  | [], h | [_], h | [_, _], h => cases h; exact ⟨_, rfl, .refuse wrongArity_ne_ok⟩
  | _ :: name :: arg :: rest, h =>
    simp only [configSet] at h
    by_cases h1 : rstrcmp name "dynamo.table" = 0
    · rw [if_pos h1] at h
      by_cases hr : rest ≠ []
      · rw [if_pos hr] at h; cases h; exact ⟨_, rfl, .refuse wrongArity_ne_ok⟩
      · rw [if_neg hr] at h; cases h; exact ⟨_, rfl, .table arg⟩
    rw [if_neg h1] at h
    by_cases h2 : rstrcmp name "dynamo.mock" = 0
    · rw [if_pos h2] at h; exact configSetMock_outcome h
    rw [if_neg h2] at h
    by_cases h3 : rstrcmp name "cache.admit_write" = 0
    · rw [if_pos h3] at h
      by_cases hr : rest ≠ []
      · rw [if_pos hr] at h; cases h; exact ⟨_, rfl, .refuse wrongArity_ne_ok⟩
      rw [if_neg hr] at h
      by_cases ht : rstrcmp arg "true" = 0
      · rw [if_pos ht] at h; cases h; exact ⟨_, rfl, .admitWrite true⟩
      rw [if_neg ht] at h
      by_cases hf : rstrcmp arg "false" = 0
      · rw [if_pos hf] at h; cases h; exact ⟨_, rfl, .admitWrite false⟩
      · rw [if_neg hf] at h; cases h; exact ⟨_, rfl, .refuse (error_ne_ok _)⟩
    rw [if_neg h3] at h
    by_cases h4 : rstrcmp name "ghost.range" = 0
    · rw [if_pos h4] at h
      split at h
      · cases hg : configSetGhostRange env.gshashHare env.ckpt st.ghost
            (env.stringToULongLong arg) (env.stringToULongLong _) (env.stringToULongLong _) with
        | error e => rw [hg] at h; cases h
        | ok p => rw [hg] at h; cases h; exact ⟨_, rfl, .ghost hg⟩
      · cases h; exact ⟨_, rfl, .refuse wrongArity_ne_ok⟩
    rw [if_neg h4] at h
    by_cases h5 : rstrcmp name "policy.alloc_total_net_bw" = 0
    · rw [if_pos h5] at h; cases h; exact ⟨_, rfl, .refuse (error_ne_ok _)⟩
    · rw [if_neg h5] at h; cases h; exact ⟨_, rfl, .refuse (error_ne_ok _)⟩

/-! ## Facts of one outcome -/

section outcome

variable {env : ConfigEnv} {st st' : ConfigState} {t : Tok}

/-- **A refused command changes nothing but the mock image.** -/
lemma SetOutcome.eq_of_error (h : SetOutcome env st t st') (ht : t ≠ .simple "OK") :
    st' = { st with mock := { st.mock with image := st'.mock.image } } := by
  cases h with
  | refuse => rfl
  | table | admitWrite | disable | format => exact absurd rfl ht
  | @image files r ms h =>
    obtain ⟨hr | hr, -⟩ := loadMockImages_spec h
    · exact absurd (by rw [hr.1]; rfl) ht
    · obtain ⟨m, i⟩ := ms
      obtain ⟨-, rfl⟩ := hr
      rfl
  | ghost h =>
    rw [configSetGhostRange_eq_of_error h fun hr => ht (by rw [hr]; rfl)]

/-- A mock image, once there, stays, holding every key hash it held. -/
lemma SetOutcome.image_covers (h : SetOutcome env st t st') {img : MockImage}
    (himg : st.mock.image = some img) : ∃ img', st'.mock.image = some img' ∧ ImageCovers img' img := by
  cases h with
  | image h =>
    obtain ⟨-, img', hms, hcov⟩ := loadMockImages_spec h
    rw [himg, Option.getD_some] at hcov
    exact ⟨img', hms, hcov⟩
  | _ => exact ⟨img, himg, .refl _⟩

/-- A command keeps the mock format valid: the only one that changes it takes the result of
`update_mock_format` on `uint32_t` sizes. -/
lemma SetOutcome.mockFormat_valid (h : SetOutcome env st t st') (hv : st.mockFormat.Valid) :
    st'.mockFormat.Valid := by
  cases h with
  | format hk hv' h => exact updateMockFormat_valid hk hv' h
  | _ => exact hv

end outcome

/-! ## Runs -/

/-- One `HOPPER.CONFIG.SET` that replies takes the settings `st` to `st'`. -/
def ConfigStep (env : ConfigEnv) (st st' : ConfigState) : Prop :=
  ∃ argv r, configSet env st argv = .ok (r, st')

/-- A property that every outcome keeps holds after every run of commands. -/
lemma ConfigStep.run_induction {env : ConfigEnv} {P : ConfigState → Prop}
    (hstep : ∀ {st st' t}, P st → SetOutcome env st t st' → P st') {st st' : ConfigState}
    (hrun : Relation.ReflTransGen (ConfigStep env) st st') (hst : P st) : P st' := by
  induction hrun with
  | refl => exact hst
  | tail _ hs ih =>
    obtain ⟨_, _, h⟩ := hs
    obtain ⟨_, -, ho⟩ := configSet_outcome h
    exact hstep ih ho

/-! ## Results -/

/-- The example environment of the witnesses: numbers are parsed digit by digit, and no file
opens. -/
def digitsEnv : ConfigEnv :=
  ⟨fun s => some (digitsValue s), fun s => some (digitsValue s), fun _ => 0, fun _ => none, 0,
    none⟩

/-- **A mock image is never dropped.**  Once `dynamo.mock image` has created the image, every
run of `HOPPER.CONFIG.SET` keeps it and every key hash it holds; as a mocked Get reads the image
whenever there is one, the format that `dynamo.mock format` sets is not read again. -/
theorem mockImage_persists (env : ConfigEnv) {st st' : ConfigState} {img : MockImage}
    (himg : st.mock.image = some img) (hrun : Relation.ReflTransGen (ConfigStep env) st st') :
    ∃ img', st'.mock.image = some img' ∧ ImageCovers img' img ∧
      ∀ fmt fmt' key, mockGetValue env.keyHash st'.mock.image fmt key =
        mockGetValue env.keyHash st'.mock.image fmt' key := by
  obtain ⟨img', himg', hcov⟩ := ConfigStep.run_induction
    (P := fun s => ∃ img', s.mock.image = some img' ∧ ImageCovers img' img)
    (fun ⟨i, hi, hc⟩ ho => let ⟨i', hi', hc'⟩ := ho.image_covers hi; ⟨i', hi', hc'.trans hc⟩)
    hrun ⟨img, himg, .refl _⟩
  exact ⟨img', himg', hcov, fun _ _ _ => by rw [himg']; rfl⟩

/-- An image, then a new format: the image stays and the format is not read. -/
theorem mockImage_persists_format :
    (ConfigState.init ⟨GhostRange.default, []⟩).mock.image = none ∧
      ∃ st st', configSet digitsEnv (ConfigState.init ⟨GhostRange.default, []⟩)
          ["HOPPER.CONFIG.SET".toList, "dynamo.mock".toList, "image".toList] =
          .ok ([.simple "OK"], st) ∧ st.mock.image = some (fun _ => none) ∧
        configSet digitsEnv st ["HOPPER.CONFIG.SET".toList, "dynamo.mock".toList,
          "format".toList, "32".toList, "1000".toList] = .ok ([.simple "OK"], st') ∧
        ∃ img', st'.mock.image = some img' ∧ ImageCovers img' (fun _ => none) ∧
          ∀ fmt fmt' key, mockGetValue digitsEnv.keyHash st'.mock.image fmt key =
            mockGetValue digitsEnv.keyHash st'.mock.image fmt' key := by
  have h : configSet digitsEnv { ConfigState.init ⟨GhostRange.default, []⟩ with
      mock := ⟨true, some fun _ => none⟩ } ["HOPPER.CONFIG.SET".toList, "dynamo.mock".toList,
        "format".toList, "32".toList, "1000".toList] =
      .ok ([.simple "OK"], { ConfigState.init ⟨GhostRange.default, []⟩ with
        mockFormat := ⟨32, 1000, 4, 10, 15, 983⟩, mock := ⟨true, some fun _ => none⟩ }) := rfl
  exact ⟨rfl, _, _, rfl, rfl, h, mockImage_persists digitsEnv rfl (.single ⟨_, _, h⟩)⟩

/-- **The mock format stays valid.**  In every configuration reached from the one the module
loads with, whatever `HOPPER.CONFIG.SET` commands were run, the mock format satisfies the width
equations, so a key of the format whose offset fits in `offset_len` digits (and in an `int`) gets
a value of exactly `val_size` bytes. -/
theorem mockFormat_valid_of_reachable (env : ConfigEnv) (cache : GhostCache) {st : ConfigState}
    (hrun : Relation.ReflTransGen (ConfigStep env) (ConfigState.init cache) st) :
    st.mockFormat.Valid ∧
      ∀ digits rest : List Char, (∀ c ∈ digits, isDigit c = true) →
        ('K' :: (digits ++ 's' :: rest)).length = st.mockFormat.keySize →
        digitsValue digits < 10 ^ st.mockFormat.offsetLen → digitsValue digits ≤ intMax →
        ∃ v, makeMockVal st.mockFormat ('K' :: (digits ++ 's' :: rest)) = some (.ok v) ∧
          v.length = st.mockFormat.valSize := by
  have hv : st.mockFormat.Valid := ConfigStep.run_induction (P := fun s => s.mockFormat.Valid)
    (fun hv ho => ho.mockFormat_valid hv) hrun
    (updateMockFormat_valid (by decide) (by decide) updateMockFormat_default)
  exact ⟨hv, fun _ _ hdig hlen hfit hint => makeMockVal_length hv hdig hlen hfit hint⟩

/-- After `HOPPER.CONFIG.SET dynamo.mock format 32 1000`. -/
theorem mockFormat_valid_of_reachable_format :
    configSet digitsEnv (ConfigState.init ⟨GhostRange.default, []⟩)
        ["HOPPER.CONFIG.SET".toList, "dynamo.mock".toList, "format".toList, "32".toList,
          "1000".toList] =
      .ok ([.simple "OK"], { ConfigState.init ⟨GhostRange.default, []⟩ with
        mockFormat := ⟨32, 1000, 4, 10, 15, 983⟩, mock := ⟨true, none⟩ }) ∧
      MockFormat.Valid ⟨32, 1000, 4, 10, 15, 983⟩ := by
  have h : configSet digitsEnv (ConfigState.init ⟨GhostRange.default, []⟩)
      ["HOPPER.CONFIG.SET".toList, "dynamo.mock".toList, "format".toList, "32".toList,
        "1000".toList] =
      .ok ([.simple "OK"], { ConfigState.init ⟨GhostRange.default, []⟩ with
        mockFormat := ⟨32, 1000, 4, 10, 15, 983⟩, mock := ⟨true, none⟩ }) := rfl
  exact ⟨h, (mockFormat_valid_of_reachable digitsEnv _ (.single ⟨_, _, h⟩)).1⟩

end DataPlane

end Hopper
