import HipRand.Basic
import HipRand.Lib.Strided

/-!
# Values of the Python wrapper

What `python/hiprand/hiprand` takes from Python, `ctypes` and NumPy: integers of
any size, the exceptions it raises, the conversions to C values, element types
and the product of a shape.
-/

namespace HipRand.Py

/-- The exceptions that the package raises, or lets through from `ctypes`. -/
inductive PyError
  | typeError (message : String)
  | valueError (message : String)
  | attributeError (message : String)
  | importError (message : String)
  | argumentError
  | hipError (value : Int)
  | hipRandError (value : Int)
  deriving DecidableEq

/-- The bit pattern of a Python `float`. -/
abbrev PyFloat := CDouble

/-! ## Conversions to C values -/

/-- `c_ulonglong(value)`: no overflow check. -/
def cUlonglong (value : Int) : CULongLong :=
  BitVec.ofInt 64 value

/-- `c_uint(value)`: no overflow check. -/
def cUint (value : Int) : CUInt :=
  BitVec.ofInt 32 value

/-- An argument of a foreign function that declares no argument types: a pointer,
or a Python integer, which travels as a 32-bit `int`. -/
inductive CArg
  | pointer (p : Pointer)
  | int (v : BitVec 32)
  deriving DecidableEq

/-- The handle that a callee reads from an argument. -/
def CArg.handle (widen : BitVec 32 → Pointer) : CArg → Pointer
  | pointer p => p
  | int v => widen v

/-- A bare Python integer as an argument: it is masked to 32 bits, after a check
that it fits in a machine word. -/
def passInt (value : Int) : Except PyError CArg :=
  if -2 ^ 63 ≤ value ∧ value < 2 ^ 64 then .ok (.int (BitVec.ofInt 32 value))
  else .error .argumentError

/-- A stream handle as a client gives it. A `c_void_p` is taken by value: that a client may
write to the object later is not modelled. -/
inductive StreamArg
  | none
  | cVoidP (handle : Pointer)
  | int (value : Int)
  deriving DecidableEq

def passStream : StreamArg → Except PyError CArg
  | .none => .ok (.pointer 0)
  | .cVoidP handle => .ok (.pointer handle)
  | .int value => passInt value

/-! ## Numbers -/

/-- A number as Python holds it: its own integer, or a NumPy scalar. A float is given by
the number that it rounds. -/
inductive PyNum
  | int (value : Int)
  | int64 (value : BitVec 64)
  | uint64 (value : BitVec 64)
  | float64 (value : Int)
  deriving DecidableEq

namespace PyNum

/-- The value that comparisons see. -/
def value : PyNum → Int
  | int v => v
  | int64 v => v.toInt
  | uint64 v => v.toNat
  | float64 v => v

/-- `itemsize * number`: machine integers wrap around. -/
def scale (itemsize : Nat) : PyNum → PyNum
  | int v => int (itemsize * v)
  | int64 v => int64 (BitVec.ofNat 64 itemsize * v)
  | uint64 v => uint64 (BitVec.ofNat 64 itemsize * v)
  | float64 v => float64 (itemsize * v)

/-- `c_size_t(number)`: no overflow check, but a float is refused. -/
def cSizeT : PyNum → Except PyError CSize
  | int v => .ok (BitVec.ofInt 64 v)
  | int64 v => .ok v
  | uint64 v => .ok v
  | float64 _ => .error (.typeError "'numpy.float64' object cannot be interpreted as an integer")

end PyNum

/-- `np.prod(shape)` of a tuple of Python integers. Those below `2 ^ 63` are `int64`, those
from there to `2 ^ 64` are `uint64`, and a tuple of both is converted to floats; with any
other integer in it the product is Python's own. The product of nothing is a float. -/
def npProd (shape : List Int) : PyNum :=
  if shape = [] then .float64 1
  else if ∀ d ∈ shape, -2 ^ 63 ≤ d ∧ d < 2 ^ 63 then .int64 (BitVec.ofInt 64 shape.prod)
  else if ∀ d ∈ shape, 2 ^ 63 ≤ d ∧ d < 2 ^ 64 then .uint64 (BitVec.ofInt 64 shape.prod)
  else if ∀ d ∈ shape, -2 ^ 63 ≤ d ∧ d < 2 ^ 64 then .float64 shape.prod
  else .int shape.prod

/-- An integer comes back from `w` bits exactly if it fits. -/
theorem eq_toNat_ofInt_iff {w : Nat} {v : Int} :
    v = (BitVec.ofInt w v).toNat ↔ 0 ≤ v ∧ v < 2 ^ w := by
  have hpos : (0 : Int) < (2 ^ w : Nat) := by exact_mod_cast Nat.two_pow_pos w
  rw [BitVec.toNat_ofInt, Int.toNat_of_nonneg (Int.emod_nonneg _ hpos.ne')]
  constructor
  · intro h
    rw [h]
    exact ⟨Int.emod_nonneg _ hpos.ne', by exact_mod_cast Int.emod_lt_of_pos v hpos⟩
  · intro h
    exact (Int.emod_eq_of_lt h.1 (by exact_mod_cast h.2)).symm

/-- Read back as a signed word, it comes back exactly if it fits with the sign. -/
theorem toInt_ofInt_eq_iff {v : Int} :
    (BitVec.ofInt 64 v).toInt = v ↔ -2 ^ 63 ≤ v ∧ v < 2 ^ 63 := by
  constructor
  · intro h
    rw [← h]
    exact ⟨BitVec.le_toInt _, BitVec.toInt_lt⟩
  · rintro ⟨hlow, hhigh⟩
    exact BitVec.toInt_ofInt_eq_self (by decide) hlow hhigh

/-- A machine word holds the number itself if this is not negative. -/
theorem PyNum.cSizeT_toNat_eq_iff {size : PyNum} {n : CSize} (h : size.cSizeT = .ok n)
    (hlt : size.value < 2 ^ 64) : (n.toNat : Int) = size.value ↔ 0 ≤ size.value := by
  cases size with
  | int v =>
    cases h
    have hlt' : v < 2 ^ 64 := hlt
    show ((BitVec.ofInt 64 v).toNat : Int) = v ↔ 0 ≤ v
    rw [BitVec.toNat_ofInt]
    omega
  | int64 v =>
    cases h
    show (n.toNat : Int) = n.toInt ↔ 0 ≤ n.toInt
    rw [BitVec.toInt_eq_toNat_cond]
    have := n.isLt
    split <;> omega
  | uint64 v =>
    cases h
    exact iff_of_true rfl (Int.natCast_nonneg _)
  | float64 v => cases h

/-- A byte count reaches C modulo `2 ^ 64`, however NumPy represents the size. -/
theorem PyNum.cSizeT_scale {size : PyNum} {n : CSize} (h : size.cSizeT = .ok n) (w : Nat) :
    (size.scale w).cSizeT = .ok (BitVec.ofNat 64 w * n) := by
  cases size with
  | int v =>
    cases h
    show Except.ok (BitVec.ofInt 64 (w * v)) = _
    rw [BitVec.ofInt_mul, BitVec.ofInt_natCast]
  | int64 v =>
    cases h
    rfl
  | uint64 v =>
    cases h
    rfl
  | float64 v => cases h

/-- Apart from the empty shape only one with a dimension of at least `2 ^ 63` can have a
product that is a float. -/
theorem cSizeT_npProd_cases {shape : List Int} (h : shape ≠ []) :
    (npProd shape).cSizeT = .ok (BitVec.ofInt 64 shape.prod) ∨
      npProd shape = .float64 shape.prod ∧ ∃ d ∈ shape, 2 ^ 63 ≤ d := by
  unfold npProd
  rw [if_neg h]
  split
  · exact .inl rfl
  · next hsigned =>
    split
    · exact .inl rfl
    · split
      · next hmixed =>
        refine .inr ⟨rfl, ?_⟩
        by_contra hsmall
        simp only [not_exists, not_and, not_le] at hsmall
        exact hsigned fun d hd => ⟨(hmixed d hd).1, hsmall d hd⟩
      · exact .inl rfl

theorem cSizeT_npProd {shape : List Int} (h : shape ≠ []) (hlt : ∀ d ∈ shape, d < 2 ^ 63) :
    (npProd shape).cSizeT = .ok (BitVec.ofInt 64 shape.prod) :=
  (cSizeT_npProd_cases h).resolve_right fun ⟨_, d, hd, hle⟩ => absurd (hlt d hd) (not_lt.mpr hle)

theorem cSizeT_npProd_singleton (size : Int) :
    (npProd [size]).cSizeT = .ok (BitVec.ofInt 64 size) := by
  unfold npProd
  simp only [List.cons_ne_nil, if_false, List.mem_singleton, forall_eq, List.prod_singleton]
  split
  · rfl
  · split
    · rfl
    · rw [if_neg (by omega)]
      rfl

/-- The byte count of a one-dimensional array. -/
theorem cSizeT_scale_npProd (w : Nat) (size : Int) :
    ((npProd [size]).scale w).cSizeT = .ok (BitVec.ofInt 64 (w * size)) := by
  rw [PyNum.cSizeT_scale (cSizeT_npProd_singleton size), BitVec.ofInt_mul, BitVec.ofInt_natCast]

/-- The product of a shape of machine integers is the machine product. -/
theorem npProd_eq_int64 {shape : List Int} (hshape : shape ≠ [])
    (h : ∀ d ∈ shape, -2 ^ 63 ≤ d ∧ d < 2 ^ 63) :
    npProd shape = .int64 (BitVec.ofInt 64 shape.prod) := by
  unfold npProd
  rw [if_neg hshape, if_pos h]

/-- It is the product itself exactly if that fits. -/
theorem value_npProd_eq_iff {shape : List Int} (hshape : shape ≠ [])
    (h : ∀ d ∈ shape, -2 ^ 63 ≤ d ∧ d < 2 ^ 63) :
    (npProd shape).value = shape.prod ↔ -2 ^ 63 ≤ shape.prod ∧ shape.prod < 2 ^ 63 := by
  rw [npProd_eq_int64 hshape h]
  exact toInt_ofInt_eq_iff

/-- The size of a one-dimensional array is its length. -/
theorem value_npProd_singleton (size : Int) : (npProd [size]).value = size := by
  unfold npProd
  simp only [List.cons_ne_nil, if_false, List.mem_singleton, forall_eq, List.prod_singleton]
  split
  · next h => exact toInt_ofInt_eq_iff.mpr h
  · split
    · next h => exact (eq_toNat_ofInt_iff.mpr ⟨by omega, h.2⟩).symm
    · rw [if_neg (by omega)]
      rfl

/-! ## Arrays -/

/-- A NumPy element type; those that no method of the package names are `other`. -/
inductive Dtype
  | uint32
  | int32
  | uint64
  | int64
  | float32
  | float64
  | other (name : String) (itemsize : Nat)
  deriving DecidableEq

namespace Dtype

def itemsize : Dtype → Nat
  | uint32 | int32 | float32 => 4
  | uint64 | int64 | float64 => 8
  | other _ itemsize => itemsize

/-- `str(dtype)`. -/
def name : Dtype → String
  | uint32 => "uint32"
  | int32 => "int32"
  | uint64 => "uint64"
  | int64 => "int64"
  | float32 => "float32"
  | float64 => "float64"
  | other name _ => name

end Dtype

/-- A `numpy.ndarray`: a view of host memory whose first element is at `data`. -/
structure NdArray where
  dtype : Dtype
  shape : List Nat
  strides : List Int
  data : Pointer

/-- `ary.size`, a Python integer. -/
def NdArray.size (ary : NdArray) : Nat :=
  ary.shape.prod

/-- The address of the element with C-order index `i`. -/
def NdArray.addr (ary : NdArray) (i : Nat) : Int :=
  ary.data.toNat + Strided.offset ary.shape ary.strides i

/-- `ary.flags.c_contiguous` -/
def NdArray.CContiguous (ary : NdArray) : Prop :=
  Strided.CContiguous ary.dtype.itemsize ary.shape ary.strides

/-- NumPy only builds arrays whose byte count fits in a signed machine word. -/
def NdArray.WellFormed (ary : NdArray) : Prop :=
  ary.strides.length = ary.shape.length ∧ ary.size * ary.dtype.itemsize < 2 ^ 63

end HipRand.Py
