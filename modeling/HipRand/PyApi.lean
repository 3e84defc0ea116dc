import HipRand.Lib.Hoare
import HipRand.PyBasic

/-!
# The Python API as programs

`python/hiprand/hiprand/hip.py` and `hiprand.py`. Each constructor, setter and
generating method is a program over what it asks of the world outside: attribute
lookups on the two library globals, calls of the loaded functions, the creation
of objects and finalizers, and writes to the attributes of an object, which stay
written when an exception follows. What these do to memory, to streams, to the
globals and to the heap of Python is left to the files that need it.

A generator handle and a device pointer stand for one creation, as an address can
come back after it was released; a device pointer also has its address.

Results:
1. `GenMethod.call_eq`: the five generating methods dispatch on the element type
   and then do the same.
2. `dispatch_width`: the backend function that is chosen writes elements of the
   size of the element type.
3. `triple_hiprandAttr`, `triple_checkHip` and the other rules, with which the files
   below reason about these programs.
-/

namespace HipRand.Py

open Interaction

/-! ## What the package asks of the world -/

abbrev ObjId := Nat

/-- What a `hiprandGenerator_t` points to. -/
abbrev Generator := Nat

/-- What `hipMalloc` stores in the pointer it gets. -/
structure DevPtr where
  id : Nat
  addr : Pointer
  deriving DecidableEq

/-- What a finalizer of the package releases. -/
inductive Resource
  | generator (gen : Generator)
  | memory (ptr : DevPtr)
  deriving DecidableEq

/-- The functions looked up on the global `hiprand`. -/
inductive HiprandFn
  | hiprandCreateGenerator
  | hiprandCreateGeneratorHost
  | hiprandDestroyGenerator
  | hiprandSetGeneratorOffset
  | hiprandSetStream
  | hiprandSetPseudoRandomGeneratorSeed
  | hiprandSetQuasiRandomGeneratorDimensions
  | hiprandGenerate
  | hiprandGenerateLongLong
  | hiprandGenerateUniform
  | hiprandGenerateUniformDouble
  | hiprandGenerateNormal
  | hiprandGenerateNormalDouble
  | hiprandGenerateLogNormal
  | hiprandGenerateLogNormalDouble
  | hiprandGeneratePoisson
  | hiprandGetVersion
  deriving DecidableEq

/-- The functions looked up on the global `hip`. -/
inductive HipFn
  | hipMalloc
  | hipFree
  | hipMemcpy
  | hipStreamSynchronize
  deriving DecidableEq

/-- The argument `gen_func` of `_generate`. -/
inductive GenFunc
  | hiprandGenerate
  | hiprandGenerateLongLong
  | hiprandGenerateUniform
  | hiprandGenerateUniformDouble
  | hiprandGenerateNormal
  | hiprandGenerateNormalDouble
  | hiprandGenerateLogNormal
  | hiprandGenerateLogNormalDouble
  | hiprandGeneratePoisson
  deriving DecidableEq

namespace GenFunc

def name : GenFunc → HiprandFn
  | hiprandGenerate => .hiprandGenerate
  | hiprandGenerateLongLong => .hiprandGenerateLongLong
  | hiprandGenerateUniform => .hiprandGenerateUniform
  | hiprandGenerateUniformDouble => .hiprandGenerateUniformDouble
  | hiprandGenerateNormal => .hiprandGenerateNormal
  | hiprandGenerateNormalDouble => .hiprandGenerateNormalDouble
  | hiprandGenerateLogNormal => .hiprandGenerateLogNormal
  | hiprandGenerateLogNormalDouble => .hiprandGenerateLogNormalDouble
  | hiprandGeneratePoisson => .hiprandGeneratePoisson

/-- The size of the elements that the C function writes: of `unsigned int`,
`unsigned long long`, `float` or `double`. -/
def width : GenFunc → Nat
  | hiprandGenerate | hiprandGeneratePoisson => 4
  | hiprandGenerateLongLong => 8
  | hiprandGenerateUniform | hiprandGenerateNormal | hiprandGenerateLogNormal => 4
  | hiprandGenerateUniformDouble | hiprandGenerateNormalDouble
  | hiprandGenerateLogNormalDouble => 8

theorem width_pos (func : GenFunc) : 0 < func.width := by
  cases func <;> decide

end GenFunc

/-- The distribution parameters, converted by `ctypes`. -/
inductive FloatArg
  | cFloat (value : PyFloat)
  | cDouble (value : PyFloat)
  deriving DecidableEq

/-- Where a generating call writes to. -/
inductive Output
  | host (addr : Pointer)
  | device (ptr : DevPtr)
  deriving DecidableEq

/-- What a setter of the backend gets: `hiprandSetGeneratorOffset`,
`hiprandSetStream`, `hiprandSetPseudoRandomGeneratorSeed` or
`hiprandSetQuasiRandomGeneratorDimensions`. -/
inductive Setting
  | offset (value : CULongLong)
  | stream (value : CArg)
  | seed (value : CULongLong)
  | dimensions (value : CUInt)
  deriving DecidableEq

/-- What `self._offset = value` and its like write: the attribute that a property
returns. -/
inductive AttrWrite
  | offset (value : Int)
  | stream (value : StreamArg)
  | seed (value : Option Int)
  | ndim (value : Int)
  deriving DecidableEq

def hipSuccess : Int := 0

def hipMemcpyDeviceToHost : Int := 2

def HIPRAND_STATUS_SUCCESS : Int := 0

inductive Op
  /-- A new object: what a constructor gets as `self`. -/
  | new
  /-- `finalize(self, callback, resource)`, where the callback releases it. -/
  | finalize (self : ObjId) (resource : Resource)
  | setAttr (self : ObjId) (write : AttrWrite)
  | hiprandAttr (name : HiprandFn)
  | hipAttr (name : HipFn)
  | createGenerator (isHost : Bool) (rngtype : CArg)
  | destroyGenerator (gen : Generator)
  | set (gen : Generator) (setting : Setting)
  | generate (func : GenFunc) (gen : Generator) (output : Output) (n : CSize)
      (args : List FloatArg)
  | getVersion
  | hipMalloc (nbytes : CSize)
  | hipFree (ptr : DevPtr)
  | hipMemcpy (dst : Pointer) (src : DevPtr) (nbytes : CSize) (kind : Int)
  | hipStreamSynchronize (stream : CArg)
  /-- `np.empty(shape, dtype)` -/
  | npEmpty (shape : List Int) (dtype : Dtype)

/-- A called function answers its status, and what it stores for a creation. -/
abbrev Op.Ans : Op → Type
  | new => ObjId
  | finalize _ _ | setAttr _ _ => Unit
  | hiprandAttr _ | hipAttr _ => Except PyError Unit
  | createGenerator _ _ => Int × Generator
  | hipMalloc _ => Int × DevPtr
  | getVersion => Int × Int
  | npEmpty _ _ => Except PyError NdArray
  | destroyGenerator _ | set _ _ | generate _ _ _ _ _ | hipFree _ | hipMemcpy _ _ _ _
  | hipStreamSynchronize _ => Int

abbrev pySig : Sig := ⟨Op, Op.Ans⟩

abbrev PyProg := Prog pySig PyError

def perform (op : Op) : PyProg op.Ans :=
  Prog.perform (S := pySig) op

/-- A conversion that may raise. -/
def ofExcept {α : Type} : Except PyError α → PyProg α
  | .ok a => pure a
  | .error e => throw e

/-- `hiprand.name` -/
def hiprandAttr (name : HiprandFn) : PyProg Unit := do
  let found ← perform (.hiprandAttr name)
  ofExcept found

/-- `hip.name` -/
def hipAttr (name : HipFn) : PyProg Unit := do
  let found ← perform (.hipAttr name)
  ofExcept found

/-! ## `hip.py` -/

def checkHip (status : Int) : PyProg Unit :=
  if status ≠ hipSuccess then throw (.hipError status) else pure ()

structure MemoryPointer where
  id : ObjId
  ptr : DevPtr

def MemoryPointer.init (nbytes : PyNum) : PyProg MemoryPointer := do
  let self ← perform .new
  hipAttr .hipMalloc
  let nbytes ← ofExcept nbytes.cSizeT
  let (status, ptr) ← perform (.hipMalloc nbytes)
  checkHip status
  perform (.finalize self (.memory ptr))
  return { id := self, ptr }

/-- `MemoryPointer._finalize` -/
def MemoryPointer.finalizer (ptr : DevPtr) : PyProg Unit := do
  hipAttr .hipFree
  let status ← perform (.hipFree ptr)
  checkHip status

structure DeviceNDArray where
  id : ObjId
  shape : List Int
  dtype : Dtype
  size : PyNum
  nbytes : PyNum
  data : MemoryPointer

def devicePointer (dary : DeviceNDArray) : DevPtr :=
  dary.data.ptr

/-- The argument `shape`: an integer or a tuple. -/
inductive ShapeArg
  | int (n : Int)
  | tuple (dims : List Int)

def ShapeArg.toTuple : ShapeArg → List Int
  | int n => [n]
  | tuple dims => dims

def DeviceNDArray.init (shape : ShapeArg) (dtype : Dtype) (data : Option MemoryPointer) :
    PyProg DeviceNDArray := do
  let self ← perform .new
  let shape := shape.toTuple
  let size := npProd shape
  let nbytes := size.scale dtype.itemsize
  let data ← match data with
    | none => MemoryPointer.init nbytes
    | some data => pure data
  return { id := self, shape, dtype, size, nbytes, data }

/-- The first lines of `copy_to_host`: the array to copy to. -/
def DeviceNDArray.copyTarget (self : DeviceNDArray) (ary : Option NdArray) : PyProg NdArray :=
  match ary with
  | none => do
    let created ← perform (.npEmpty self.shape self.dtype)
    ofExcept created
  | some ary =>
    if self.dtype ≠ ary.dtype then
      throw (.typeError "self and ary must have the same dtype")
    else if self.size.value > ary.size then
      throw (.valueError "size of self must be less than size of ary")
    else pure ary

/-- An array that is given is taken as it is, or refused by one of the two checks. -/
theorem DeviceNDArray.copyTarget_cases (self : DeviceNDArray) (ary : NdArray) :
    (self.copyTarget (some ary) = .ret ary ∧
      self.dtype = ary.dtype ∧ self.size.value ≤ ary.size) ∨
    (∃ e, self.copyTarget (some ary) = .throw e) ∧
      ¬ (self.dtype = ary.dtype ∧ self.size.value ≤ ary.size) := by
  unfold DeviceNDArray.copyTarget
  dsimp only
  split
  · next hdtype => exact .inr ⟨⟨_, rfl⟩, fun h => hdtype h.1⟩
  · next hdtype =>
    split
    · next hsize => exact .inr ⟨⟨_, rfl⟩, fun h => absurd h.2 (not_le.mpr hsize)⟩
    · next hsize => exact .inl ⟨rfl, not_not.mp hdtype, not_lt.mp hsize⟩

def DeviceNDArray.copyToHost (self : DeviceNDArray) (ary : Option NdArray) : PyProg NdArray := do
  let ary ← self.copyTarget ary
  hipAttr .hipMemcpy
  let nbytes ← ofExcept self.nbytes.cSizeT
  let status ← perform (.hipMemcpy ary.data (devicePointer self) nbytes hipMemcpyDeviceToHost)
  checkHip status
  return ary

def empty (shape : ShapeArg) (dtype : Dtype) : PyProg DeviceNDArray :=
  DeviceNDArray.init shape dtype none

def streamSynchronize (stream : StreamArg) : PyProg Unit := do
  hipAttr .hipStreamSynchronize
  let stream ← ofExcept (passStream stream)
  let status ← perform (.hipStreamSynchronize stream)
  checkHip status

/-! ## `hiprand.py`: generators and their attributes -/

def checkHiprand (status : Int) : PyProg Unit :=
  if status ≠ HIPRAND_STATUS_SUCCESS then throw (.hipRandError status) else pure ()

/-- `RNG`: a generator object with what its constructor sets once and for all. -/
structure RNG where
  id : ObjId
  gen : Generator
  isHost : Bool

/-- `check_hiprand(hiprand.name(self._gen, setting))`, where the conversion of the
setting may raise. -/
def callSetter (gen : Generator) (name : HiprandFn) (setting : Except PyError Setting) :
    PyProg Unit := do
  hiprandAttr name
  let setting ← ofExcept setting
  let status ← perform (.set gen setting)
  checkHiprand status

def RNG.setOffset (self : RNG) (offset : Int) : PyProg Unit := do
  callSetter self.gen .hiprandSetGeneratorOffset (.ok (.offset (cUlonglong offset)))
  perform (.setAttr self.id (.offset offset))

def RNG.setStream (self : RNG) (stream : StreamArg) : PyProg Unit := do
  callSetter self.gen .hiprandSetStream ((passStream stream).map .stream)
  perform (.setAttr self.id (.stream stream))

/-- The first lines of `RNG.__init__`, up to the registration of the finalizer. -/
def RNG.create (rngtype : Int) (isHost : Bool) : PyProg RNG := do
  let self ← perform .new
  hiprandAttr (if isHost then .hiprandCreateGeneratorHost else .hiprandCreateGenerator)
  let rngtype ← ofExcept (passInt rngtype)
  let (status, gen) ← perform (.createGenerator isHost rngtype)
  checkHiprand status
  perform (.finalize self (.generator gen))
  return { id := self, gen, isHost }

def RNG.init (rngtype : Int) (offset : Option Int) (stream : StreamArg) (isHost : Bool) :
    PyProg RNG := do
  let self ← RNG.create rngtype isHost
  perform (.setAttr self.id (.offset 0))
  match offset with
  | some offset => self.setOffset offset
  | none => pure ()
  perform (.setAttr self.id (.stream .none))
  if stream ≠ .none then self.setStream stream else pure ()
  return self

/-- `RNG._finalize` -/
def RNG.finalizer (gen : Generator) : PyProg Unit := do
  hiprandAttr .hiprandDestroyGenerator
  let status ← perform (.destroyGenerator gen)
  checkHiprand status

structure PRNG extends RNG

def PRNG.setSeed (self : PRNG) (seed : Int) : PyProg Unit := do
  callSetter self.gen .hiprandSetPseudoRandomGeneratorSeed (.ok (.seed (cUlonglong seed)))
  perform (.setAttr self.id (.seed (some seed)))

def PRNG.init (rngtype : Int) (seed offset : Option Int) (stream : StreamArg) (isHost : Bool) :
    PyProg PRNG := do
  let self : PRNG := ⟨← RNG.init rngtype offset stream isHost⟩
  perform (.setAttr self.id (.seed none))
  match seed with
  | some seed => self.setSeed seed
  | none => pure ()
  return self

structure QRNG extends RNG

def QRNG.setNdim (self : QRNG) (ndim : Int) : PyProg Unit := do
  callSetter self.gen .hiprandSetQuasiRandomGeneratorDimensions (.ok (.dimensions (cUint ndim)))
  perform (.setAttr self.id (.ndim ndim))

def QRNG.init (rngtype : Int) (ndim offset : Option Int) (stream : StreamArg) (isHost : Bool) :
    PyProg QRNG := do
  let self : QRNG := ⟨← RNG.init rngtype offset stream isHost⟩
  perform (.setAttr self.id (.ndim 1))
  match ndim with
  | some ndim => self.setNdim ndim
  | none => pure ()
  return self

def getVersion : PyProg Int := do
  hiprandAttr .hiprandGetVersion
  let (status, version) ← perform .getVersion
  checkHiprand status
  return version

/-! ## `hiprand.py`: the generating methods -/

/-- The argument `ary`; anything that is neither a NumPy array nor a device array
still has a `dtype` and a `size`. -/
inductive Ary
  | ndarray (ary : NdArray)
  | device (dary : DeviceNDArray)
  | other (type : String) (dtype : Dtype) (size : Int)

namespace Ary

def dtype : Ary → Dtype
  | ndarray ary => ary.dtype
  | device dary => dary.dtype
  | other _ dtype _ => dtype

def size : Ary → PyNum
  | ndarray ary => .int ary.size
  | device dary => dary.size
  | other _ _ size => .int size

end Ary

/-- The first lines of `_generate_device` and `_generate_host`. -/
def requestedSize (ary : Ary) (size : Option Int) : Except PyError PyNum :=
  match size with
  | none => .ok ary.size
  | some size =>
    if size > ary.size.value then .error (.valueError "requested size is greater than ary")
    else .ok (.int size)

theorem requestedSize_of_le {ary : Ary} {size : Int} (h : size ≤ ary.size.value) :
    requestedSize ary (some size) = .ok (.int size) :=
  if_neg (not_lt.mpr h)

theorem requestedSize_of_gt {ary : Ary} {size : Int} (h : ary.size.value < size) :
    requestedSize ary (some size) = .error (.valueError "requested size is greater than ary") :=
  if_pos h

/-- A size that passes the check is not above that of the array. -/
theorem requestedSize_ok {ary : Ary} {size : Option Int} {n : PyNum}
    (h : requestedSize ary size = .ok n) :
    n.value ≤ ary.size.value ∧ (size = none ∧ n = ary.size ∨ ∃ s, size = some s ∧ n = .int s) := by
  cases size with
  | none =>
    cases h
    exact ⟨le_refl _, .inl ⟨rfl, rfl⟩⟩
  | some s =>
    rcases le_or_gt s ary.size.value with hle | hgt
    · rw [requestedSize_of_le hle] at h
      cases h
      exact ⟨hle, .inr ⟨s, rfl, rfl⟩⟩
    · rw [requestedSize_of_gt hgt] at h
      cases h

theorem requestedSize_error {ary : Ary} {size : Option Int} {e : PyError}
    (h : requestedSize ary size = .error e) : ∃ s, size = some s ∧ ary.size.value < s := by
  cases size with
  | none => cases h
  | some s =>
    rcases le_or_gt s ary.size.value with hle | hgt
    · rw [requestedSize_of_le hle] at h
      cases h
    · exact ⟨s, rfl, hgt⟩

/-- The size of a request on a NumPy array is a Python integer. -/
theorem requestedSize_ndarray {ary : NdArray} {size : Option Int} {n : PyNum}
    (h : requestedSize (.ndarray ary) size = .ok n) :
    ∃ v, n = .int v ∧ v ≤ ary.size ∧ v = size.getD ary.size := by
  obtain ⟨hle, ⟨rfl, rfl⟩ | ⟨s, rfl, rfl⟩⟩ := requestedSize_ok h
  · exact ⟨ary.size, rfl, hle, rfl⟩
  · exact ⟨s, rfl, hle, rfl⟩

/-- `dary` and `needs_conversion` of `_generate_device`: the device array to generate
into, and the NumPy array to copy it to. -/
def deviceBuffer (ary : Ary) (size : PyNum) : PyProg (DeviceNDArray × Option NdArray) :=
  match ary with
  | .ndarray ary => do
    let dary ← empty (.int size.value) ary.dtype
    return (dary, some ary)
  | .device dary => pure (dary, none)
  | .other type _ _ => throw (.typeError ("unsupported type " ++ type))

namespace RNG

def generateDevice (self : RNG) (func : GenFunc) (ary : Ary) (size : Option Int)
    (args : List FloatArg) : PyProg Unit := do
  let size ← ofExcept (requestedSize ary size)
  let (dary, copyTo) ← deviceBuffer ary size
  let n ← ofExcept size.cSizeT
  let status ← perform (.generate func self.gen (.device (devicePointer dary)) n args)
  checkHiprand status
  match copyTo with
  | some ary => do
    let _ ← dary.copyToHost (some ary)
    pure ()
  | none => pure ()

def generateHost (self : RNG) (func : GenFunc) (ary : Ary) (size : Option Int)
    (args : List FloatArg) : PyProg Unit := do
  let size ← ofExcept (requestedSize ary size)
  match ary with
  | .device _ =>
    throw (.typeError ("Generate called with a device-side array on a host-side generator. " ++
      "For device arrays, instantiate a device-side generator"))
  | .other type _ _ => throw (.typeError ("unsupported type " ++ type))
  | .ndarray ary => do
    let n ← ofExcept size.cSizeT
    let status ← perform (.generate func self.gen (.host ary.data) n args)
    checkHiprand status

/-- `_generate` -/
def generateWith (self : RNG) (func : GenFunc) (ary : Ary) (size : Option Int)
    (args : List FloatArg) : PyProg Unit :=
  if self.isHost then self.generateHost func ary size args
  else self.generateDevice func ary size args

/-- A branch of a generating method: `self._generate(hiprand.func, ary, size, *args)`. -/
def lookupAndGenerate (self : RNG) (func : GenFunc) (ary : Ary) (size : Option Int)
    (args : List FloatArg) : PyProg Unit := do
  hiprandAttr func.name
  self.generateWith func ary size args

/-- The last branch of a generating method. -/
def unsupportedType (ary : Ary) : PyProg Unit :=
  throw (.typeError ("unsupported type " ++ ary.dtype.name))

def generate (self : RNG) (ary : Ary) (size : Option Int) : PyProg Unit :=
  match ary.dtype with
  | .uint32 | .int32 => self.lookupAndGenerate .hiprandGenerate ary size []
  | .uint64 | .int64 => self.lookupAndGenerate .hiprandGenerateLongLong ary size []
  | _ => unsupportedType ary

def uniform (self : RNG) (ary : Ary) (size : Option Int) : PyProg Unit :=
  match ary.dtype with
  | .float32 => self.lookupAndGenerate .hiprandGenerateUniform ary size []
  | .float64 => self.lookupAndGenerate .hiprandGenerateUniformDouble ary size []
  | _ => unsupportedType ary

def normal (self : RNG) (ary : Ary) (mean stddev : PyFloat) (size : Option Int) : PyProg Unit :=
  match ary.dtype with
  | .float32 =>
    self.lookupAndGenerate .hiprandGenerateNormal ary size [.cFloat mean, .cFloat stddev]
  | .float64 =>
    self.lookupAndGenerate .hiprandGenerateNormalDouble ary size [.cDouble mean, .cDouble stddev]
  | _ => unsupportedType ary

def lognormal (self : RNG) (ary : Ary) (mean stddev : PyFloat) (size : Option Int) :
    PyProg Unit :=
  match ary.dtype with
  | .float32 =>
    self.lookupAndGenerate .hiprandGenerateLogNormal ary size [.cFloat mean, .cFloat stddev]
  | .float64 =>
    self.lookupAndGenerate .hiprandGenerateLogNormalDouble ary size
      [.cDouble mean, .cDouble stddev]
  | _ => unsupportedType ary

def poisson (self : RNG) (ary : Ary) (lmbd : PyFloat) (size : Option Int) : PyProg Unit :=
  match ary.dtype with
  | .uint32 | .int32 => self.lookupAndGenerate .hiprandGeneratePoisson ary size [.cDouble lmbd]
  | _ => unsupportedType ary

end RNG

/-! ## The generating methods together -/

/-- A generating method with its distribution parameters. -/
inductive GenMethod
  | generate
  | uniform
  | normal (mean stddev : PyFloat)
  | lognormal (mean stddev : PyFloat)
  | poisson (lmbd : PyFloat)

namespace GenMethod

def call (m : GenMethod) (rng : RNG) (ary : Ary) (size : Option Int) : PyProg Unit :=
  match m with
  | generate => rng.generate ary size
  | uniform => rng.uniform ary size
  | normal mean stddev => rng.normal ary mean stddev size
  | lognormal mean stddev => rng.lognormal ary mean stddev size
  | poisson lmbd => rng.poisson ary lmbd size

/-- The backend function that the method chooses for an element type, with its
arguments, if it supports the type. -/
def dispatch : GenMethod → Dtype → Option (GenFunc × List FloatArg)
  | generate, .uint32 | generate, .int32 => some (.hiprandGenerate, [])
  | generate, .uint64 | generate, .int64 => some (.hiprandGenerateLongLong, [])
  | uniform, .float32 => some (.hiprandGenerateUniform, [])
  | uniform, .float64 => some (.hiprandGenerateUniformDouble, [])
  | normal mean stddev, .float32 => some (.hiprandGenerateNormal, [.cFloat mean, .cFloat stddev])
  | normal mean stddev, .float64 =>
    some (.hiprandGenerateNormalDouble, [.cDouble mean, .cDouble stddev])
  | lognormal mean stddev, .float32 =>
    some (.hiprandGenerateLogNormal, [.cFloat mean, .cFloat stddev])
  | lognormal mean stddev, .float64 =>
    some (.hiprandGenerateLogNormalDouble, [.cDouble mean, .cDouble stddev])
  | poisson lmbd, .uint32 | poisson lmbd, .int32 => some (.hiprandGeneratePoisson, [.cDouble lmbd])
  | _, _ => none

/-- The method supports arrays of this element type. -/
def Supports (m : GenMethod) (dtype : Dtype) : Prop :=
  (m.dispatch dtype).isSome

instance (m : GenMethod) (dtype : Dtype) : Decidable (m.Supports dtype) :=
  inferInstanceAs (Decidable (_ = true))

theorem call_eq (m : GenMethod) (rng : RNG) (ary : Ary) (size : Option Int) :
    m.call rng ary size =
      match m.dispatch ary.dtype with
      | some (func, args) => rng.lookupAndGenerate func ary size args
      | none => RNG.unsupportedType ary := by
  cases m <;>
    simp only [call, RNG.generate, RNG.uniform, RNG.normal, RNG.lognormal, RNG.poisson] <;>
    cases ary.dtype <;> rfl

theorem call_of_dispatch {m : GenMethod} {rng : RNG} {ary : Ary} {size : Option Int}
    {func : GenFunc} {args : List FloatArg} (h : m.dispatch ary.dtype = some (func, args)) :
    m.call rng ary size = rng.lookupAndGenerate func ary size args := by
  rw [call_eq, h]

theorem call_of_unsupported {m : GenMethod} {rng : RNG} {ary : Ary} {size : Option Int}
    (h : m.dispatch ary.dtype = none) : m.call rng ary size = RNG.unsupportedType ary := by
  rw [call_eq, h]

theorem dispatch_width {m : GenMethod} {dtype : Dtype} {func : GenFunc} {args : List FloatArg}
    (h : m.dispatch dtype = some (func, args)) : func.width = dtype.itemsize := by
  cases m <;> cases dtype <;> cases h <;> rfl

end GenMethod

/-- Every lookup finds its function and every call succeeds. -/
def succeeding : (op : pySig.Op) → pySig.Ans op
  | .new => (0 : ObjId)
  | .finalize _ _ | .setAttr _ _ => ()
  | .hiprandAttr _ | .hipAttr _ => .ok ()
  | .createGenerator _ _ => (HIPRAND_STATUS_SUCCESS, 0)
  | .hipMalloc _ => (hipSuccess, ⟨0, 65536⟩)
  | .getVersion => (HIPRAND_STATUS_SUCCESS, 0)
  | .npEmpty _ dtype => .ok ⟨dtype, [0], [0], 0⟩
  | .destroyGenerator _ | .set _ _ | .generate _ _ _ _ _ => HIPRAND_STATUS_SUCCESS
  | .hipFree _ | .hipMemcpy _ _ _ _ | .hipStreamSynchronize _ => hipSuccess

/-! ## Rules for lookups, conversions and status checks -/

section Rules

variable {σ α : Type} {E : Env pySig σ} {P : σ → Prop}

theorem triple_ofExcept {x : Except PyError α} {Q : Except PyError α → σ → Prop}
    (hP : Stable E P) (h : ∀ s, P s → Q x s) : Triple E P (ofExcept x) Q := by
  cases x with
  | ok a => exact .ret hP h
  | error e => exact .throw hP h

theorem triple_hiprandAttr {name : HiprandFn} {Q : Except PyError Unit → σ → Prop}
    (hP : Stable E P) (hQ : ∀ found, Stable E (Q found))
    (h : ∀ s found s', P s → E.handle (.hiprandAttr name) s found s' → Q found s') :
    Triple E P (hiprandAttr name) Q :=
  .call hP h fun found => triple_ofExcept (hQ found) fun _ hs => hs

theorem triple_hipAttr {name : HipFn} {Q : Except PyError Unit → σ → Prop}
    (hP : Stable E P) (hQ : ∀ found, Stable E (Q found))
    (h : ∀ s found s', P s → E.handle (.hipAttr name) s found s' → Q found s') :
    Triple E P (hipAttr name) Q :=
  .call hP h fun found => triple_ofExcept (hQ found) fun _ hs => hs

/-- Where the environment only answers, a lookup changes nothing. -/
theorem triple_hiprandAttr_unchanged {name : HiprandFn} (hP : Stable E P)
    (h : ∀ s found s', E.handle (.hiprandAttr name) s found s' → s' = s) :
    Triple E P (hiprandAttr name) fun _ s => P s :=
  triple_hiprandAttr hP (fun _ => hP) fun s found s' hs hh => h s found s' hh ▸ hs

theorem triple_hipAttr_unchanged {name : HipFn} (hP : Stable E P)
    (h : ∀ s found s', E.handle (.hipAttr name) s found s' → s' = s) :
    Triple E P (hipAttr name) fun _ s => P s :=
  triple_hipAttr hP (fun _ => hP) fun s found s' hs hh => h s found s' hh ▸ hs

theorem triple_checkHip {status : Int} {Q : Except PyError Unit → σ → Prop} (hP : Stable E P)
    (hok : status = hipSuccess → ∀ s, P s → Q (.ok ()) s)
    (herr : status ≠ hipSuccess → ∀ s, P s → Q (.error (.hipError status)) s) :
    Triple E P (checkHip status) Q := by
  unfold checkHip
  split
  · exact .throw hP (herr ‹_›)
  · exact .ret hP (hok (not_not.mp ‹_›))

theorem triple_checkHiprand {status : Int} {Q : Except PyError Unit → σ → Prop} (hP : Stable E P)
    (hok : status = HIPRAND_STATUS_SUCCESS → ∀ s, P s → Q (.ok ()) s)
    (herr : status ≠ HIPRAND_STATUS_SUCCESS → ∀ s, P s → Q (.error (.hipRandError status)) s) :
    Triple E P (checkHiprand status) Q := by
  unfold checkHiprand
  split
  · exact .throw hP (herr ‹_›)
  · exact .ret hP (hok (not_not.mp ‹_›))

end Rules

/-! ## The calls that a function can issue -/

section Calls

variable {A : pySig.Op → Prop} {α : Type}

theorem issues_ofExcept (x : Except PyError α) : Issues A (ofExcept x) := by
  cases x <;> trivial

theorem issues_checkHip (status : Int) : Issues A (checkHip status) := by
  unfold checkHip
  split <;> trivial

theorem issues_checkHiprand (status : Int) : Issues A (checkHiprand status) := by
  unfold checkHiprand
  split <;> trivial

theorem issues_hipAttr {name : HipFn} (h : A (.hipAttr name)) : Issues A (hipAttr name) :=
  ⟨h, issues_ofExcept⟩

theorem issues_hiprandAttr {name : HiprandFn} (h : A (.hiprandAttr name)) :
    Issues A (hiprandAttr name) :=
  ⟨h, issues_ofExcept⟩

/-- A setter looks its function up and calls it on its generator. -/
theorem issues_callSetter {gen : Generator} {name : HiprandFn} {setting : Except PyError Setting}
    (hattr : A (.hiprandAttr name)) (hset : ∀ setting, A (.set gen setting)) :
    Issues A (callSetter gen name setting) :=
  (issues_hiprandAttr hattr).bind fun _ => (issues_ofExcept _).bind fun setting =>
    (Issues.perform (hset setting)).bind issues_checkHiprand

/-- What a constructor of a generator calls: it creates an object and a generator with a
finalizer, and may set what it is asked to. -/
structure Constructs (A : pySig.Op → Prop) : Prop where
  new : A .new
  setAttr : ∀ self write, A (.setAttr self write)
  attr : ∀ name, A (.hiprandAttr name)
  create : ∀ isHost rngtype, A (.createGenerator isHost rngtype)
  finalize : ∀ self gen, A (.finalize self (.generator gen))
  set : ∀ gen setting, A (.set gen setting)

namespace Constructs

theorem issues_setter (h : Constructs A) {self : ObjId} {gen : Generator} {name : HiprandFn}
    {setting : Except PyError Setting} {write : AttrWrite} :
    Issues A (callSetter gen name setting >>= fun _ => perform (.setAttr self write)) :=
  (issues_callSetter (h.attr name) (h.set gen)).bind fun _ => Issues.perform (h.setAttr self write)

theorem issues_RNG_create (h : Constructs A) (rngtype : Int) (isHost : Bool) :
    Issues A (RNG.create rngtype isHost) := by
  refine (Issues.perform h.new).bind fun self => (issues_hiprandAttr (h.attr _)).bind fun _ => ?_
  refine (issues_ofExcept _).bind fun arg => ?_
  refine (Issues.perform (h.create isHost arg)).bind fun answer => ?_
  refine (issues_checkHiprand _).bind fun _ => ?_
  exact (Issues.perform (h.finalize _ _)).bind fun _ => trivial

theorem issues_RNG_init (h : Constructs A) (rngtype : Int) (offset : Option Int)
    (stream : StreamArg) (isHost : Bool) : Issues A (RNG.init rngtype offset stream isHost) := by
  refine (h.issues_RNG_create rngtype isHost).bind fun self => ?_
  refine (Issues.perform (h.setAttr self.id _)).bind fun _ => ?_
  have hstream : Issues A (do
      perform (.setAttr self.id (.stream .none))
      if stream ≠ .none then self.setStream stream else pure ()
      return self) := by
    refine (Issues.perform (h.setAttr self.id _)).bind fun _ => ?_
    split
    · exact h.issues_setter.bind fun _ => trivial
    · trivial
  cases offset with
  | some offset => exact h.issues_setter.bind fun _ => hstream
  | none => exact hstream

theorem issues_PRNG_init (h : Constructs A) (rngtype : Int) (seed offset : Option Int)
    (stream : StreamArg) (isHost : Bool) :
    Issues A (PRNG.init rngtype seed offset stream isHost) := by
  refine (h.issues_RNG_init rngtype offset stream isHost).bind fun self => ?_
  refine (Issues.perform (h.setAttr self.id _)).bind fun _ => ?_
  cases seed with
  | some seed => exact h.issues_setter.bind fun _ => trivial
  | none => trivial

theorem issues_QRNG_init (h : Constructs A) (rngtype : Int) (ndim offset : Option Int)
    (stream : StreamArg) (isHost : Bool) :
    Issues A (QRNG.init rngtype ndim offset stream isHost) := by
  refine (h.issues_RNG_init rngtype offset stream isHost).bind fun self => ?_
  refine (Issues.perform (h.setAttr self.id _)).bind fun _ => ?_
  cases ndim with
  | some ndim => exact h.issues_setter.bind fun _ => trivial
  | none => trivial

end Constructs

theorem issues_getVersion (hattr : A (.hiprandAttr .hiprandGetVersion)) (hget : A .getVersion) :
    Issues A getVersion :=
  (issues_hiprandAttr hattr).bind fun _ => (Issues.perform hget).bind fun _ =>
    (issues_checkHiprand _).bind fun _ => trivial

theorem issues_streamSynchronize {stream : StreamArg} (hattr : A (.hipAttr .hipStreamSynchronize))
    (hsync : ∀ stream, A (.hipStreamSynchronize stream)) : Issues A (streamSynchronize stream) :=
  (issues_hipAttr hattr).bind fun _ => (issues_ofExcept _).bind fun stream =>
    (Issues.perform (hsync stream)).bind issues_checkHip

/-- A conversion, and what follows it on the converted value. -/
theorem issues_ofExcept_bind {β : Type} {x : Except PyError α} {f : α → PyProg β}
    (hf : ∀ a, x = .ok a → Issues A (f a)) : Issues A (ofExcept x >>= f) := by
  cases x with
  | ok a => exact hf a rfl
  | error e => trivial

/-- `copy_to_host` copies the bytes of the device array and may create an array. -/
theorem DeviceNDArray.issues_copyToHost {dary : DeviceNDArray} {ary : Option NdArray}
    (hempty : ∀ shape dtype, A (.npEmpty shape dtype)) (hattr : A (.hipAttr .hipMemcpy))
    (hcopy : ∀ dst nbytes, dary.nbytes.cSizeT = .ok nbytes →
      A (.hipMemcpy dst (devicePointer dary) nbytes hipMemcpyDeviceToHost)) :
    Issues A (dary.copyToHost ary) := by
  have htarget : Issues A (dary.copyTarget ary) := by
    cases ary with
    | none => exact ⟨hempty _ _, issues_ofExcept⟩
    | some ary =>
      rcases dary.copyTarget_cases ary with ⟨htarget, _⟩ | ⟨⟨e, htarget⟩, _⟩ <;> rw [htarget] <;>
        trivial
  refine htarget.bind fun ary => (issues_hipAttr hattr).bind fun _ => issues_ofExcept_bind ?_
  intro nbytes hnbytes
  exact (Issues.perform (hcopy _ _ hnbytes)).bind fun status => (issues_checkHip status).bind
    fun _ => trivial

end Calls

end HipRand.Py
