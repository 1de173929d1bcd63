import Mathlib.Data.Rat.Defs

/-!
# Replies and argument names

A command handler answers by calling `RedisModule_ReplyWith*` once per element of the reply.
`RedisModule_ReplyWithArray(ctx, len)` sends only a header: the next `len` calls are the
elements of the array.  A handler whose header announces more or fewer elements than it then
sends leaves the client reading the next command's reply in place of this one's, so the reply of
a command is modelled as the stream of these calls (`Tok`), and `completeReplies n ts` says that
the stream `ts` is exactly `n` whole replies (`completeReplies_append` assembles them).

`utils::rstr::strcmp` compares a Redis string of length `len` with a C string by
`strncmp(buf, cstr, len)`: it reads no further than the Redis string.
-/

namespace Hopper

namespace DataPlane

/-! ## The reply stream -/

/-- One call of the reply API: what it appends to the client's reply stream. -/
inductive Tok
  /-- `RedisModule_ReplyWithSimpleString`. -/
  | simple (s : String)
  /-- `RedisModule_ReplyWithError`. -/
  | error (msg : String)
  /-- `RedisModule_WrongArity`: Redis's own error reply naming the command. -/
  | wrongArity
  /-- `RedisModule_ReplyWithLongLong`. -/
  | longLong (n : Int)
  /-- `RedisModule_ReplyWithLongDouble`. -/
  | longDouble (x : ℚ)
  /-- `RedisModule_ReplyWithBool`. -/
  | bool (b : Bool)
  /-- `RedisModule_ReplyWithStringBuffer`. -/
  | stringBuffer (s : List Char)
  /-- `RedisModule_ReplyWithNull`. -/
  | null
  /-- `RedisModule_ReplyWithArray(ctx, len)`: the next `len` replies are its elements. -/
  | array (len : Nat)
  deriving DecidableEq, Repr

/-- The stream holds exactly `n` whole replies: an array header stands for one reply and asks
for the `len` elements that follow it. -/
def completeReplies : Nat → List Tok → Bool
  | 0, [] => true
  | 0, _ :: _ => false
  | _ + 1, [] => false
  | n + 1, .array len :: ts => completeReplies (n + len) ts
  | n + 1, _ :: ts => completeReplies n ts

/-- A token that is a whole reply by itself. -/
def Tok.IsScalar : Tok → Prop
  | .array _ => False
  | _ => True

lemma completeReplies_scalar {t : Tok} (ht : t.IsScalar) (n : Nat) (ts : List Tok) :
    completeReplies (n + 1) (t :: ts) = completeReplies n ts := by
  cases t <;> first | rfl | exact ht.elim

/-- Replies are read one after the other: a stream of `m` replies followed by anything holds
`m + n` replies exactly when what follows holds `n`. -/
lemma completeReplies_append {m : Nat} {a : List Tok} (ha : completeReplies m a = true)
    (n : Nat) (b : List Tok) : completeReplies (m + n) (a ++ b) = completeReplies n b := by
  induction a generalizing m with
  | nil =>
    cases m with
    | zero => simp
    | succ m => simp [completeReplies] at ha
  | cons t a ih =>
    cases m with
    | zero => simp [completeReplies] at ha
    | succ m =>
      rw [Nat.add_right_comm, List.cons_append]
      cases t <;> simp only [completeReplies] at ha ⊢ <;>
        first | exact ih ha | rw [Nat.add_right_comm]; exact ih ha

/-- A list of scalars is as many replies as it has tokens. -/
lemma completeReplies_scalars {a : List Tok} (ha : ∀ t ∈ a, t.IsScalar) (n : Nat)
    (b : List Tok) : completeReplies (a.length + n) (a ++ b) = completeReplies n b := by
  induction a with
  | nil => simp
  | cons t a ih =>
    rw [List.length_cons, Nat.add_right_comm, List.cons_append,
      completeReplies_scalar (ha t (List.mem_cons_self _ _))]
    exact ih fun t' ht' => ha t' (List.mem_cons_of_mem _ ht')

/-- An array header followed by exactly its elements is one reply. -/
lemma completeReplies_array {len : Nat} {a : List Tok} (ha : completeReplies len a = true) :
    completeReplies 1 (.array len :: a) = true := by
  simpa [completeReplies] using ha

/-! ## Comparing an argument with a name -/

/-- The terminator of a C string. -/
def nul : Char := Char.ofNat 0

/-- C's `strncmp` on two character strings, each followed by its terminator `'\0'`: at most
`n` characters are compared, up to the first difference or a terminator both share, and the
result is the difference of the first characters that differ. -/
def strncmp : List Char → List Char → Nat → Int
  | _, _, 0 => 0
  | a, b, n + 1 =>
    let x := a.headD nul
    let y := b.headD nul
    if x ≠ y then (x.toNat : Int) - y.toNat
    else if x = nul then 0
    else strncmp a.tail b.tail n

/-- `utils::rstr::strcmp(rstr, cstr)` (and its overload on a `RedisModuleCallReply`):
`strncmp(buf, cstr, len)` over the `len` characters of the Redis string. -/
def rstrcmp (arg : List Char) (cstr : String) : Int := strncmp arg cstr.toList arg.length

end DataPlane

end Hopper
