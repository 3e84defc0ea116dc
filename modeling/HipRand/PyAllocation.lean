import Mathlib.Algebra.Order.BigOperators.GroupWithZero.List
import HipRand.PyRequests

/-!
# The size and the memory of a device array

`DeviceNDArray.__init__` computes `np.prod(shape)`, multiplies it by the item size and
hands the result to `hipMalloc` as a `size_t`. Each of the three steps has a number
format of its own.

Results:
1. `traces_memoryPointer_iff`: what a constructor of device memory can do, whatever it
   is answered.
2. `npProd_exact_iff`, `nbytes_exact_iff`: where the size and the byte count are exact.
3. `allocation_exact_iff`: the shapes for which the array gets the memory of its size.
-/

namespace HipRand.Py

open Interaction

/-! ## What an allocation promises -/

/-- The number of elements of an array of that shape. -/
def ShapeArg.elements (shape : ShapeArg) : Int :=
  shape.toTuple.prod

/-- Dimensions that are not negative, each of which fits in a machine integer. -/
def ShapeArg.InRange (shape : ShapeArg) : Prop :=
  ∀ d ∈ shape.toTuple, 0 ≤ d ∧ d < 2 ^ 63

/-- NumPy keeps an item size in a signed machine word. -/
def Dtype.WellFormed (dtype : Dtype) : Prop :=
  1 ≤ dtype.itemsize ∧ dtype.itemsize < 2 ^ 63

/-- A call that copies at most `bytes` bytes, if it copies. -/
def CopiesWithin (bytes : Nat) : Op → Prop
  | .hipMemcpy _ _ nbytes _ => nbytes.toNat ≤ bytes
  | _ => True

/-- What the package later does with the array stays within `bytes` bytes: a number of
elements that passes the check of a generating method, and a copy to the host. -/
structure StaysWithin (d : DeviceNDArray) (bytes : Nat) : Prop where
  checks : ∀ size n, requestedSize (.device d) size = .ok n → n.value * d.dtype.itemsize ≤ bytes
  copies : ∀ ary, Issues (CopiesWithin bytes) (d.copyToHost ary)

/-- The array has the size of its shape, and its memory was requested with exactly the
bytes of so many elements. -/
structure ExactlyAllocated (shape : ShapeArg) (dtype : Dtype) (t : List (Event pySig))
    (d : DeviceNDArray) : Prop where
  size : d.size.value = shape.elements
  memory : ∃ nbytes : CSize, ⟨.hipMalloc nbytes, (hipSuccess, d.data.ptr)⟩ ∈ t ∧
    (nbytes.toNat : Int) = shape.elements * dtype.itemsize ∧ StaysWithin d nbytes.toNat

/-- There are no such arrays, or `hipMalloc` was not found, or it failed. -/
def CannotBeSatisfied (shape : ShapeArg) (dtype : Dtype) (t : List (Event pySig)) : Prop :=
  2 ^ 63 ≤ shape.elements * dtype.itemsize ∨
    (∃ e, ⟨.hipAttr .hipMalloc, .error e⟩ ∈ t) ∨
    ∃ nbytes status ptr, ⟨.hipMalloc nbytes, (status, ptr)⟩ ∈ t ∧ status ≠ hipSuccess

/-- `empty(shape, dtype)`, whatever it is answered, raises because the request cannot be
satisfied or makes an array with the memory of its size. -/
structure AllocationLaw (shape : ShapeArg) (dtype : Dtype) : Prop where
  allocates : ∀ t d, Traces (empty shape dtype) t (.ok d) → ExactlyAllocated shape dtype t d
  raises : ∀ t e, Traces (empty shape dtype) t (.error e) → CannotBeSatisfied shape dtype t

/-! ## The calls of the constructors -/

/-- The runs of `MemoryPointer.__init__`: `hipMalloc` is not found, the byte count is no
integer, `hipMalloc` fails, or there is memory and a finalizer for it. -/
inductive MemoryPointerRun (nbytes : PyNum) :
    List (Event pySig) → Except PyError MemoryPointer → Prop
  | notFound {self : ObjId} {e : PyError} :
      MemoryPointerRun nbytes [⟨.new, self⟩, ⟨.hipAttr .hipMalloc, .error e⟩] (.error e)
  | noInteger {self : ObjId} {e : PyError} (h : nbytes.cSizeT = .error e) :
      MemoryPointerRun nbytes [⟨.new, self⟩, ⟨.hipAttr .hipMalloc, .ok ()⟩] (.error e)
  | failed {self : ObjId} {n : CSize} {status : Int} {ptr : DevPtr} (h : nbytes.cSizeT = .ok n)
      (hstatus : status ≠ hipSuccess) :
      MemoryPointerRun nbytes
        [⟨.new, self⟩, ⟨.hipAttr .hipMalloc, .ok ()⟩, ⟨.hipMalloc n, (status, ptr)⟩]
        (.error (.hipError status))
  | allocated {self : ObjId} {n : CSize} {ptr : DevPtr} (h : nbytes.cSizeT = .ok n) :
      MemoryPointerRun nbytes
        [⟨.new, self⟩, ⟨.hipAttr .hipMalloc, .ok ()⟩, ⟨.hipMalloc n, (hipSuccess, ptr)⟩,
          ⟨.finalize self (.memory ptr), ()⟩]
        (.ok ⟨self, ptr⟩)

theorem traces_ofExcept_bind_iff {α β : Type} {x : Except PyError α} {f : α → PyProg β}
    {t : List (Event pySig)} {r : Except PyError β} :
    Traces (ofExcept x >>= f) t r ↔
      (∃ e, x = .error e ∧ t = [] ∧ r = .error e) ∨ ∃ a, x = .ok a ∧ Traces (f a) t r := by
  cases x with
  | ok a => simp [ofExcept]
  | error e => simp [ofExcept]

theorem traces_checkHip_bind_iff {α : Type} {status : Int} {f : Unit → PyProg α}
    {t : List (Event pySig)} {r : Except PyError α} :
    Traces (checkHip status >>= f) t r ↔
      (status ≠ hipSuccess ∧ t = [] ∧ r = .error (.hipError status)) ∨
        (status = hipSuccess ∧ Traces (f ()) t r) := by
  by_cases h : status = hipSuccess <;> simp [checkHip, h]

theorem traces_memoryPointer_iff {nbytes : PyNum} {t : List (Event pySig)}
    {r : Except PyError MemoryPointer} :
    Traces (MemoryPointer.init nbytes) t r ↔ MemoryPointerRun nbytes t r := by
  constructor
  · intro h
    obtain ⟨self, t₁, rfl, h₁⟩ := traces_perform_bind_iff.mp h
    obtain ⟨found, t₂, rfl, h₂⟩ := traces_perform_bind_iff.mp h₁
    rcases traces_ofExcept_bind_iff.mp h₂ with ⟨e, rfl, rfl, rfl⟩ | ⟨_, rfl, h₃⟩
    · exact .notFound
    rcases traces_ofExcept_bind_iff.mp h₃ with ⟨e, hn, rfl, rfl⟩ | ⟨n, hn, h₄⟩
    · exact .noInteger hn
    obtain ⟨⟨status, ptr⟩, t₅, rfl, h₅⟩ := traces_perform_bind_iff.mp h₄
    rcases traces_checkHip_bind_iff.mp h₅ with ⟨hstatus, rfl, rfl⟩ | ⟨rfl, h₆⟩
    · exact .failed hn hstatus
    obtain ⟨_, t₇, rfl, h₇⟩ := traces_perform_bind_iff.mp h₆
    obtain ⟨rfl, rfl⟩ := traces_ret_iff.mp h₇
    exact .allocated hn
  · rintro (_ | hn | ⟨hn, hstatus⟩ | hn)
    · exact .call (.call .throw)
    · exact .call (.call (traces_ofExcept_bind_iff.mpr (.inl ⟨_, hn, rfl, rfl⟩)))
    · refine .call (.call (traces_ofExcept_bind_iff.mpr (.inr ⟨_, hn, .call ?_⟩)))
      exact traces_checkHip_bind_iff.mpr (.inl ⟨hstatus, rfl, rfl⟩)
    · refine .call (.call (traces_ofExcept_bind_iff.mpr (.inr ⟨_, hn, .call ?_⟩)))
      exact .call .ret

/-- What the constructor stores. -/
def ShapeArg.deviceArray (shape : ShapeArg) (dtype : Dtype) (self : ObjId) (data : MemoryPointer) :
    DeviceNDArray where
  id := self
  shape := shape.toTuple
  dtype := dtype
  size := npProd shape.toTuple
  nbytes := (npProd shape.toTuple).scale dtype.itemsize
  data := data

section Empty

variable {shape : ShapeArg} {dtype : Dtype} {t : List (Event pySig)}

theorem empty_eq : empty shape dtype = (perform .new).bind fun self =>
    (MemoryPointer.init ((npProd shape.toTuple).scale dtype.itemsize)).bind fun mem =>
      .ret (shape.deviceArray dtype self mem) :=
  rfl

theorem traces_empty_ok_iff {d : DeviceNDArray} :
    Traces (empty shape dtype) t (.ok d) ↔ ∃ self t' mem, t = ⟨.new, self⟩ :: t' ∧
      MemoryPointerRun ((npProd shape.toTuple).scale dtype.itemsize) t' (.ok mem) ∧
      d = shape.deviceArray dtype self mem := by
  rw [empty_eq]
  constructor
  · intro h
    obtain ⟨self, t₁, rfl, h₁⟩ := traces_perform_bind_iff.mp h
    rcases traces_bind_iff.mp h₁ with ⟨e, he, _⟩ | ⟨t₂, t₃, mem, rfl, hmem, hret⟩
    · cases he
    · obtain ⟨rfl, hd⟩ := traces_ret_iff.mp hret
      rw [List.append_nil]
      exact ⟨self, t₂, mem, rfl, traces_memoryPointer_iff.mp hmem, Except.ok.inj hd⟩
  · rintro ⟨self, t', mem, rfl, hmem, rfl⟩
    have hinit := traces_memoryPointer_iff.mpr hmem
    refine traces_perform_bind_iff.mpr ⟨self, t', rfl, traces_bind_iff.mpr (.inr ?_)⟩
    exact ⟨t', [], mem, (List.append_nil t').symm, hinit, .ret⟩

theorem traces_empty_error_iff {e : PyError} :
    Traces (empty shape dtype) t (.error e) ↔ ∃ self t', t = ⟨.new, self⟩ :: t' ∧
      MemoryPointerRun ((npProd shape.toTuple).scale dtype.itemsize) t' (.error e) := by
  rw [empty_eq]
  constructor
  · intro h
    obtain ⟨self, t₁, rfl, h₁⟩ := traces_perform_bind_iff.mp h
    rcases traces_bind_iff.mp h₁ with ⟨e', he, hmem⟩ | ⟨t₂, t₃, mem, rfl, hmem, hret⟩
    · cases he
      exact ⟨self, t₁, rfl, traces_memoryPointer_iff.mp hmem⟩
    · obtain ⟨_, hd⟩ := traces_ret_iff.mp hret
      cases hd
  · rintro ⟨self, t', rfl, hmem⟩
    have hinit := traces_memoryPointer_iff.mpr hmem
    refine traces_perform_bind_iff.mpr ⟨self, t', rfl, traces_bind_iff.mpr (.inl ?_)⟩
    exact ⟨e, rfl, hinit⟩

/-! ## Where the arithmetic is exact -/

theorem ShapeArg.InRange.elements_nonneg (h : shape.InRange) : 0 ≤ shape.elements :=
  List.prod_nonneg fun d hd => (h d hd).1

theorem ShapeArg.InRange.bytes_nonneg (h : shape.InRange) (dtype : Dtype) :
    0 ≤ shape.elements * dtype.itemsize :=
  mul_nonneg h.elements_nonneg (Int.natCast_nonneg _)

/-- The size is the product of the dimensions exactly if that fits in a machine integer. -/
theorem npProd_exact_iff (h : shape.InRange) (hne : shape.toTuple ≠ []) :
    (npProd shape.toTuple).value = shape.elements ↔ shape.elements < 2 ^ 63 := by
  have hdims : ∀ d ∈ shape.toTuple, -2 ^ 63 ≤ d ∧ d < 2 ^ 63 :=
    fun d hd => ⟨le_trans (by decide) (h d hd).1, (h d hd).2⟩
  have hnonneg := h.elements_nonneg
  unfold ShapeArg.elements at hnonneg ⊢
  rw [value_npProd_eq_iff hne hdims]
  exact and_iff_right (le_trans (by decide) hnonneg)

/-- The byte count that reaches `hipMalloc` and `hipMemcpy`. -/
theorem cSizeT_nbytes (h : shape.InRange) (hne : shape.toTuple ≠ []) :
    ((npProd shape.toTuple).scale dtype.itemsize).cSizeT =
      .ok (BitVec.ofInt 64 (shape.elements * dtype.itemsize)) := by
  rw [PyNum.cSizeT_scale (cSizeT_npProd hne fun d hd => (h d hd).2), mul_comm, BitVec.ofInt_mul,
    BitVec.ofInt_natCast]
  rfl

/-- It is exact exactly if the bytes of the array fit in the address space. -/
theorem nbytes_exact_iff (h : shape.InRange) :
    ((BitVec.ofInt 64 (shape.elements * dtype.itemsize)).toNat : Int) =
      shape.elements * dtype.itemsize ↔ shape.elements * dtype.itemsize < 2 ^ 64 := by
  rw [eq_comm, eq_toNat_ofInt_iff]
  exact and_iff_right (h.bytes_nonneg dtype)

/-- What is checked against an exact size, and what is copied, stays within the memory. -/
theorem staysWithin_of_exact {d : DeviceNDArray} {nbytes : CSize}
    (hcopy : d.nbytes.cSizeT = .ok nbytes)
    (hsize : d.size.value * d.dtype.itemsize = nbytes.toNat) : StaysWithin d nbytes.toNat where
  checks := by
    intro size n hn
    calc
      n.value * d.dtype.itemsize ≤ d.size.value * d.dtype.itemsize :=
        mul_le_mul_of_nonneg_right (requestedSize_ok hn).1 (Int.natCast_nonneg _)
      _ = nbytes.toNat := hsize
  copies := by
    intro ary
    refine DeviceNDArray.issues_copyToHost (fun _ _ => trivial) trivial fun dst n hn => ?_
    rw [hcopy] at hn
    cases hn
    exact Nat.le_refl _

/-! ## The allocation law -/

/-- A shape that is not `()`, with an exact size and an exact byte count. -/
theorem allocationLaw_of_exact (h : shape.InRange) (hne : shape.toTuple ≠ [])
    (hsize : shape.elements < 2 ^ 63) (hbytes : shape.elements * dtype.itemsize < 2 ^ 64) :
    AllocationLaw shape dtype where
  allocates := by
    intro t d ht
    obtain ⟨self, t', mem, rfl, hmem, rfl⟩ := traces_empty_ok_iff.mp ht
    have hvalue := (npProd_exact_iff h hne).mpr hsize
    cases hmem with
    | @allocated mself n ptr hn =>
      obtain rfl := Except.ok.inj (hn.symm.trans (cSizeT_nbytes h hne))
      have hexact := (nbytes_exact_iff h).mpr hbytes
      have hwithin := staysWithin_of_exact (d := shape.deviceArray dtype self ⟨mself, ptr⟩)
        (cSizeT_nbytes h hne) ((congrArg (· * (dtype.itemsize : Int)) hvalue).trans hexact.symm)
      exact ⟨hvalue, _, by simp [ShapeArg.deviceArray], hexact, hwithin⟩
  raises := by
    intro t e ht
    obtain ⟨self, t', rfl, hmem⟩ := traces_empty_error_iff.mp ht
    cases hmem with
    | notFound => exact .inr (.inl ⟨e, by simp⟩)
    | noInteger hn =>
      rw [cSizeT_nbytes h hne] at hn
      cases hn
    | @failed self n status ptr hn hstatus => exact .inr (.inr ⟨n, status, ptr, by simp, hstatus⟩)

/-- `()` is refused: its size is a float, also after the multiplication. -/
theorem AllocationLaw.ne_nil (hlaw : AllocationLaw shape dtype) (hdtype : dtype.WellFormed) :
    shape.toTuple ≠ [] := by
  intro hnil
  have hfloat : ((npProd shape.toTuple).scale dtype.itemsize).cSizeT =
      .error (.typeError "'numpy.float64' object cannot be interpreted as an integer") := by
    rw [hnil]
    rfl
  -- `hipMalloc` is found, but it is never called
  have hrun : MemoryPointerRun ((npProd shape.toTuple).scale dtype.itemsize)
      [⟨.new, (0 : ObjId)⟩, ⟨.hipAttr .hipMalloc, .ok ()⟩] _ := .noInteger hfloat
  rcases hlaw.raises _ _ (traces_empty_error_iff.mpr ⟨(0 : ObjId), _, rfl, hrun⟩) with
    hbytes | ⟨e, he⟩ | ⟨n, status, ptr, hfailed, _⟩
  · have hlt := hdtype.2
    unfold ShapeArg.elements at hbytes
    rw [hnil, List.prod_nil, one_mul] at hbytes
    omega
  · simp at he
  · simp at hfailed

/-- The memory that the array gets if `hipMalloc` succeeds. -/
theorem traces_empty_allocated (h : shape.InRange) (dtype : Dtype) (hne : shape.toTuple ≠ []) :
    Traces (empty shape dtype)
      [⟨.new, (0 : ObjId)⟩, ⟨.new, (1 : ObjId)⟩, ⟨.hipAttr .hipMalloc, .ok ()⟩,
        ⟨.hipMalloc (BitVec.ofInt 64 (shape.elements * dtype.itemsize)), (hipSuccess, ⟨0, 65536⟩)⟩,
        ⟨.finalize 1 (.memory ⟨0, 65536⟩), ()⟩]
      (.ok (shape.deviceArray dtype 0 ⟨1, ⟨0, 65536⟩⟩)) :=
  traces_empty_ok_iff.mpr ⟨(0 : ObjId), _, _, rfl, .allocated (cSizeT_nbytes h hne), rfl⟩

theorem AllocationLaw.exact (hlaw : AllocationLaw shape dtype) (h : shape.InRange)
    (hne : shape.toTuple ≠ []) :
    shape.elements < 2 ^ 63 ∧ shape.elements * dtype.itemsize < 2 ^ 64 := by
  obtain ⟨hsize, n, hmalloc, hexact, _⟩ := hlaw.allocates _ _ (traces_empty_allocated h dtype hne)
  obtain rfl : n = BitVec.ofInt 64 (shape.elements * dtype.itemsize) := by
    simpa [ShapeArg.deviceArray] using hmalloc
  exact ⟨(npProd_exact_iff h hne).mp hsize, (nbytes_exact_iff h).mp hexact⟩

end Empty

/-- A device array gets exactly the memory of its size, unless the request cannot be
satisfied, for these shapes and no others: not `()`, with a number of elements that fits in
`int64` and a number of bytes that fits in `size_t`. -/
theorem allocation_exact_iff (shape : ShapeArg) (dtype : Dtype) (hshape : shape.InRange)
    (hdtype : dtype.WellFormed) :
    AllocationLaw shape dtype ↔ shape.toTuple ≠ [] ∧ shape.elements < 2 ^ 63 ∧
      shape.elements * dtype.itemsize < 2 ^ 64 := by
  constructor
  · intro hlaw
    have hne := hlaw.ne_nil hdtype
    exact ⟨hne, hlaw.exact hshape hne⟩
  · rintro ⟨hne, hsize, hbytes⟩
    exact allocationLaw_of_exact hshape hne hsize hbytes

/-- `empty((3, 4), numpy.uint32)` -/
theorem allocation_exact_3_4 : AllocationLaw (.tuple [3, 4]) .uint32 := by
  have hshape : ShapeArg.InRange (.tuple [3, 4]) := by
    intro d hd
    rcases List.mem_cons.mp hd with rfl | hd
    · decide
    · rw [List.mem_singleton.mp hd]
      decide
  exact (allocation_exact_iff (.tuple [3, 4]) .uint32 hshape ⟨by decide, by decide⟩).mpr
    ⟨List.cons_ne_nil _ _, by decide, by decide⟩

/-- `empty(2 ** 62, numpy.float32)` requests no byte at all, but its size is `2 ** 62`, and a
generating method fills so many elements if it is asked for no particular number;
`empty((), numpy.float32)` raises although it needs four bytes. -/
theorem wrapped_byte_count :
    (∃ t d, Traces (empty (.int (2 ^ 62)) .float32) t (.ok d) ∧
      ⟨.hipMalloc 0, (hipSuccess, d.data.ptr)⟩ ∈ t ∧
      requestedSize (.device d) none = .ok d.size ∧ d.size.value = 2 ^ 62) ∧
    ¬ AllocationLaw (.int (2 ^ 62)) .float32 ∧ ¬ AllocationLaw (.tuple []) .float32 := by
  have hshape : ShapeArg.InRange (.int (2 ^ 62)) := by
    intro d hd
    rw [List.mem_singleton.mp hd]
    decide
  have htrace := traces_empty_allocated hshape .float32 (List.cons_ne_nil _ _)
  have hbytes :
      BitVec.ofInt 64 (ShapeArg.elements (.int (2 ^ 62)) * Dtype.float32.itemsize) = 0 := by
    decide
  rw [hbytes] at htrace
  refine ⟨⟨_, _, htrace, by simp [ShapeArg.deviceArray], rfl, by decide⟩, ?_, ?_⟩
  · intro hlaw
    exact absurd (hlaw.exact hshape (List.cons_ne_nil _ _)).2 (by decide)
  · intro hlaw
    exact hlaw.ne_nil ⟨by decide, by decide⟩ rfl

end HipRand.Py
