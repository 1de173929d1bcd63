import Hopper.Alloc.Params
import Mathlib.Algebra.BigOperators.Group.List

/-!
# Resource vectors

`resrc.h`: the stateless triple `StatelessResrcVec` (`db_rcu`, `db_wcu`, `net_bw`) and the
full `ResrcVec` that adds a `uint64_t` cache size.  Every operator of the source is
componentwise except `operator/` between two vectors, the *min-ratio* quotient
`min(a.db_rcu / b.db_rcu, a.db_wcu / b.db_wcu, a.net_bw / b.net_bw)` used for throughputs
and improvement ratios.

Most statements about the allocator hold "in every dimension", so the three components are
also read through one accessor `get : Dim → ℚ`; the `@[simp]` lemmas below push every
operator through it, and a goal about vectors becomes three goals about rationals.
-/

namespace Hopper

/-- The three stateless dimensions. -/
inductive Dim
  | dbRcu
  | dbWcu
  | netBw
  deriving DecidableEq, Repr

/-- A property of every dimension is decided one dimension at a time. -/
instance Dim.decidableForall (P : Dim → Prop) [DecidablePred P] : Decidable (∀ k, P k) :=
  decidable_of_iff (P .dbRcu ∧ P .dbWcu ∧ P .netBw)
    ⟨fun ⟨h1, h2, h3⟩ k => by cases k <;> assumption, fun h => ⟨h _, h _, h _⟩⟩

/-- `struct StatelessResrcVec`. -/
structure StatelessResrcVec where
  dbRcu : ℚ := 0
  dbWcu : ℚ := 0
  netBw : ℚ := 0
  deriving DecidableEq, Repr

namespace StatelessResrcVec

/-- One component, by dimension. -/
def get (v : StatelessResrcVec) : Dim → ℚ
  | .dbRcu => v.dbRcu
  | .dbWcu => v.dbWcu
  | .netBw => v.netBw

@[ext] lemma ext_get {a b : StatelessResrcVec} (h : ∀ k, a.get k = b.get k) : a = b := by
  cases a; cases b
  have h1 := h .dbRcu; have h2 := h .dbWcu; have h3 := h .netBw
  simp_all [get]

instance : Zero StatelessResrcVec := ⟨{}⟩

instance : Add StatelessResrcVec :=
  ⟨fun a b => ⟨a.dbRcu + b.dbRcu, a.dbWcu + b.dbWcu, a.netBw + b.netBw⟩⟩

instance : Sub StatelessResrcVec :=
  ⟨fun a b => ⟨a.dbRcu - b.dbRcu, a.dbWcu - b.dbWcu, a.netBw - b.netBw⟩⟩

/-- `operator*(double scale_factor)`. -/
instance : HMul StatelessResrcVec ℚ StatelessResrcVec :=
  ⟨fun a f => ⟨a.dbRcu * f, a.dbWcu * f, a.netBw * f⟩⟩

/-- `operator/(const StatelessResrcVec &)`: the min-ratio quotient. -/
def div (a b : StatelessResrcVec) : ℚ :=
  min (min (a.dbRcu / b.dbRcu) (a.dbWcu / b.dbWcu)) (a.netBw / b.netBw)

instance : HDiv StatelessResrcVec StatelessResrcVec ℚ := ⟨div⟩

/-- `is_almost_empty`: every component is below its epsilon in absolute value. -/
def isAlmostEmpty (v : StatelessResrcVec) : Bool :=
  decide (|v.dbRcu| < dbRcuEpsilon) && decide (|v.dbWcu| < dbWcuEpsilon) &&
    decide (|v.netBw| < netBwEpsilon)

/-- `is_almost_equal`. -/
def isAlmostEqual (a b : StatelessResrcVec) : Bool := (a - b).isAlmostEmpty

@[simp] lemma get_zero (k : Dim) : (0 : StatelessResrcVec).get k = 0 := by cases k <;> rfl

@[simp] lemma get_add (a b : StatelessResrcVec) (k : Dim) :
    (a + b).get k = a.get k + b.get k := by cases k <;> rfl

@[simp] lemma get_sub (a b : StatelessResrcVec) (k : Dim) :
    (a - b).get k = a.get k - b.get k := by cases k <;> rfl

@[simp] lemma get_mul (a : StatelessResrcVec) (f : ℚ) (k : Dim) :
    (a * f).get k = a.get k * f := by cases k <;> rfl

@[simp] lemma get_mk (r w n : ℚ) (k : Dim) :
    (StatelessResrcVec.mk r w n).get k = Dim.rec r w n k := by cases k <;> rfl

@[simp] lemma get_dbRcu (v : StatelessResrcVec) : v.get .dbRcu = v.dbRcu := rfl

@[simp] lemma get_dbWcu (v : StatelessResrcVec) : v.get .dbWcu = v.dbWcu := rfl

@[simp] lemma get_netBw (v : StatelessResrcVec) : v.get .netBw = v.netBw := rfl

@[simp] lemma dbRcu_add (a b : StatelessResrcVec) : (a + b).dbRcu = a.dbRcu + b.dbRcu := rfl

@[simp] lemma dbWcu_add (a b : StatelessResrcVec) : (a + b).dbWcu = a.dbWcu + b.dbWcu := rfl

@[simp] lemma netBw_add (a b : StatelessResrcVec) : (a + b).netBw = a.netBw + b.netBw := rfl

@[simp] lemma dbRcu_sub (a b : StatelessResrcVec) : (a - b).dbRcu = a.dbRcu - b.dbRcu := rfl

@[simp] lemma dbWcu_sub (a b : StatelessResrcVec) : (a - b).dbWcu = a.dbWcu - b.dbWcu := rfl

@[simp] lemma netBw_sub (a b : StatelessResrcVec) : (a - b).netBw = a.netBw - b.netBw := rfl

instance : Neg StatelessResrcVec := ⟨fun a => ⟨-a.dbRcu, -a.dbWcu, -a.netBw⟩⟩

@[simp] lemma get_neg (a : StatelessResrcVec) (k : Dim) : (-a).get k = -a.get k := by
  cases k <;> rfl

instance : AddCommGroup StatelessResrcVec where
  add_assoc a b c := by ext k; simp [add_assoc]
  zero_add a := by ext k; simp
  add_zero a := by ext k; simp
  add_comm a b := by ext k; simp [add_comm]
  neg_add_cancel a := by ext k; simp
  sub_eq_add_neg a b := by ext k; simp [sub_eq_add_neg]
  nsmul := nsmulRec
  zsmul := zsmulRec

lemma get_sum (l : List StatelessResrcVec) (k : Dim) :
    l.sum.get k = (l.map (·.get k)).sum := by
  induction l with
  | nil => simp
  | cons v l ih => simp [ih]

/-! ## The min-ratio quotient -/

lemma div_eq (a b : StatelessResrcVec) :
    a / b = min (min (a.dbRcu / b.dbRcu) (a.dbWcu / b.dbWcu)) (a.netBw / b.netBw) := rfl

/-- The min-ratio quotient is attained at some dimension. -/
lemma exists_div_eq (a b : StatelessResrcVec) : ∃ k, a / b = a.get k / b.get k := by
  rw [div_eq]
  rcases min_choice (min (a.dbRcu / b.dbRcu) (a.dbWcu / b.dbWcu)) (a.netBw / b.netBw)
    with h | h
  · rcases min_choice (a.dbRcu / b.dbRcu) (a.dbWcu / b.dbWcu) with h' | h'
    · exact ⟨.dbRcu, h.trans h'⟩
    · exact ⟨.dbWcu, h.trans h'⟩
  · exact ⟨.netBw, h⟩

lemma div_le (a b : StatelessResrcVec) (k : Dim) : a / b ≤ a.get k / b.get k := by
  rw [div_eq]; cases k <;> simp

/-- The min-ratio quotient is the largest lower bound of the componentwise ratios. -/
lemma le_div_iff_forall {a b : StatelessResrcVec} {x : ℚ} :
    x ≤ a / b ↔ ∀ k, x ≤ a.get k / b.get k := by
  refine ⟨fun h k => h.trans (div_le a b k), fun h => ?_⟩
  obtain ⟨k, hk⟩ := exists_div_eq a b
  rw [hk]; exact h k

/-- Two quotients agree when every componentwise ratio does. -/
lemma div_congr {a b a' b' : StatelessResrcVec} (h : ∀ k, a.get k / b.get k = a'.get k / b'.get k) :
    a / b = a' / b' := by
  simp only [div_eq, ← get_dbRcu, ← get_dbWcu, ← get_netBw, h]

/-- The quotient of `d * x` by `d` is `x` when `d` is positive. -/
lemma mul_div_self {d : StatelessResrcVec} (hd : ∀ k, 0 < d.get k) (x : ℚ) : d * x / d = x := by
  obtain ⟨k, hk⟩ := exists_div_eq (d * x) d
  rw [hk, get_mul, mul_div_cancel_left₀ x (hd k).ne']

lemma isAlmostEmpty_iff (v : StatelessResrcVec) :
    v.isAlmostEmpty = true ↔
      |v.dbRcu| < dbRcuEpsilon ∧ |v.dbWcu| < dbWcuEpsilon ∧ |v.netBw| < netBwEpsilon := by
  simp [isAlmostEmpty, and_assoc]

lemma isAlmostEmpty_zero : (0 : StatelessResrcVec).isAlmostEmpty = true := by
  rw [isAlmostEmpty_iff, ← get_dbRcu, ← get_dbWcu, ← get_netBw]
  simp only [get_zero, abs_zero]
  exact ⟨by rw [dbRcuEpsilon]; positivity, by rw [dbWcuEpsilon]; positivity,
    by rw [netBwEpsilon]; positivity⟩

end StatelessResrcVec

/-- `struct ResrcVec`: a `uint64_t` cache size and the stateless resources. -/
structure ResrcVec where
  cacheSize : Nat := 0
  stateless : StatelessResrcVec := {}
  deriving DecidableEq, Repr

/-- `ResrcVec::operator+=(const ResrcVec &)`, with the `uint64_t` sum of cache sizes. -/
def ResrcVec.add (a b : ResrcVec) : ResrcVec :=
  ⟨addU64 a.cacheSize b.cacheSize, a.stateless + b.stateless⟩

end Hopper
