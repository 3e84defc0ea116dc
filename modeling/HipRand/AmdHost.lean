import HipRand.HostApi

/-!
# The rocRAND backend of the host API

`library/src/amd_detail/hiprand.cpp`: three translations that throw on an
enumerator they do not know, one translation of the status, and the entry points.
The two direction-vector entry points are the only ones that translate an
enumeration without a `try`.
-/

namespace HipRand.Amd

open Interaction

/-! ## The rocRAND library -/

/-- `rocrand_status`. The backend may return any integer; `other` is one that the
header does not list. -/
inductive RocrandStatus
  | success
  | notCreated
  | versionMismatch
  | allocationFailed
  | typeError
  | outOfRange
  | lengthNotMultiple
  | doublePrecisionRequired
  | launchFailure
  | internalError
  | other (code : Int)
  deriving DecidableEq, Repr

/-- The values of `rocrand_rng_type` that hipRAND uses. -/
inductive RocrandRngType
  | pseudoDefault
  | pseudoXorwow
  | pseudoMrg32k3a
  | pseudoMtgp32
  | pseudoPhilox4_32_10
  | pseudoMt19937
  | quasiDefault
  | quasiSobol32
  | quasiScrambledSobol32
  | quasiSobol64
  | quasiScrambledSobol64
  deriving DecidableEq, Repr

/-- The values of `rocrand_ordering` that hipRAND uses. -/
inductive RocrandOrdering
  | pseudoBest
  | pseudoDefault
  | pseudoSeeded
  | pseudoLegacy
  | pseudoDynamic
  | quasiDefault
  deriving DecidableEq, Repr

/-- The values of `rocrand_direction_vector_set` that hipRAND uses. -/
inductive RocrandDirectionVectorSet
  | directionVectors32Joekuo6
  | scrambledDirectionVectors32Joekuo6
  | directionVectors64Joekuo6
  | scrambledDirectionVectors64Joekuo6
  deriving DecidableEq, Repr

/-- The rocRAND functions that hipRAND calls, with their arguments. -/
inductive RocrandCall
  | rocrandCreateGenerator (generator : Pointer) (rngType : RocrandRngType)
  | rocrandCreateGeneratorHostBlocking (generator : Pointer) (rngType : RocrandRngType)
  | rocrandDestroyGenerator (generator : Pointer)
  | rocrandGenerate (generator outputData : Pointer) (n : CSize)
  | rocrandGenerateChar (generator outputData : Pointer) (n : CSize)
  | rocrandGenerateShort (generator outputData : Pointer) (n : CSize)
  | rocrandGenerateLongLong (generator outputData : Pointer) (n : CSize)
  | rocrandGenerateUniform (generator outputData : Pointer) (n : CSize)
  | rocrandGenerateUniformDouble (generator outputData : Pointer) (n : CSize)
  | rocrandGenerateUniformHalf (generator outputData : Pointer) (n : CSize)
  | rocrandGenerateNormal (generator outputData : Pointer) (n : CSize) (mean stddev : CFloat)
  | rocrandGenerateNormalDouble (generator outputData : Pointer) (n : CSize) (mean stddev : CDouble)
  | rocrandGenerateNormalHalf (generator outputData : Pointer) (n : CSize) (mean stddev : CHalf)
  | rocrandGenerateLogNormal (generator outputData : Pointer) (n : CSize) (mean stddev : CFloat)
  | rocrandGenerateLogNormalDouble (generator outputData : Pointer) (n : CSize)
      (mean stddev : CDouble)
  | rocrandGenerateLogNormalHalf (generator outputData : Pointer) (n : CSize) (mean stddev : CHalf)
  | rocrandGeneratePoisson (generator outputData : Pointer) (n : CSize) (lambda : CDouble)
  | rocrandInitializeGenerator (generator : Pointer)
  | rocrandSetStream (generator stream : Pointer)
  | rocrandSetSeed (generator : Pointer) (seed : CULongLong)
  | rocrandSetOffset (generator : Pointer) (offset : CULongLong)
  | rocrandSetOrdering (generator : Pointer) (order : RocrandOrdering)
  | rocrandSetQuasiRandomGeneratorDimensions (generator : Pointer) (dimensions : CUInt)
  | rocrandGetVersion (version : Pointer)
  | rocrandCreatePoissonDistribution (lambda : CDouble) (discreteDistribution : Pointer)
  | rocrandDestroyDiscreteDistribution (discreteDistribution : Pointer)
  | rocrandGetDirectionVectors32 (vectors : Pointer) (set : RocrandDirectionVectorSet)
  | rocrandGetDirectionVectors64 (vectors : Pointer) (set : RocrandDirectionVectorSet)
  | rocrandGetScrambleConstants32 (constants : Pointer)
  | rocrandGetScrambleConstants64 (constants : Pointer)
  deriving DecidableEq

/-- A host API function on rocRAND. -/
abbrev AmdProg := HostProg RocrandCall RocrandStatus

/-! ## Translations -/

/-- `to_hiprand_status` -/
def toHiprandStatus : RocrandStatus → HiprandStatus
  | .success => .success
  | .notCreated => .notInitialized
  | .versionMismatch => .versionMismatch
  | .allocationFailed => .allocationFailed
  | .typeError => .typeError
  | .outOfRange => .outOfRange
  | .lengthNotMultiple => .lengthNotMultiple
  | .doublePrecisionRequired => .doublePrecisionRequired
  | .launchFailure => .launchFailure
  | .internalError => .internalError
  | .other _ => .internalError

/-- `to_rocrand_rng_type`. The switch lists no case for `HIPRAND_RNG_TEST`. -/
def toRocrandRngType (rngType : Int) : AmdProg RocrandRngType :=
  match CEnum.ofInt? (α := HiprandRngType) rngType with
  | some .pseudoDefault => pure .pseudoDefault
  | some .pseudoXorwow => pure .pseudoXorwow
  | some .pseudoMrg32k3a => pure .pseudoMrg32k3a
  | some .pseudoMtgp32 => pure .pseudoMtgp32
  | some .pseudoPhilox4_32_10 => pure .pseudoPhilox4_32_10
  | some .pseudoMt19937 => pure .pseudoMt19937
  | some .quasiDefault => pure .quasiDefault
  | some .quasiSobol32 => pure .quasiSobol32
  | some .quasiScrambledSobol32 => pure .quasiScrambledSobol32
  | some .quasiSobol64 => pure .quasiSobol64
  | some .quasiScrambledSobol64 => pure .quasiScrambledSobol64
  | _ => throw .typeError

/-- `to_rocrand_direction_vector_set_type` -/
def toRocrandDirectionVectorSetType (set : Int) : AmdProg RocrandDirectionVectorSet :=
  match CEnum.ofInt? (α := HiprandDirectionVectorSet) set with
  | some .directionVectors32Joekuo6 => pure .directionVectors32Joekuo6
  | some .scrambledDirectionVectors32Joekuo6 => pure .scrambledDirectionVectors32Joekuo6
  | some .directionVectors64Joekuo6 => pure .directionVectors64Joekuo6
  | some .scrambledDirectionVectors64Joekuo6 => pure .scrambledDirectionVectors64Joekuo6
  | none => throw .typeError

/-- `to_rocrand_ordering` -/
def toRocrandOrdering (ordering : Int) : AmdProg RocrandOrdering :=
  match CEnum.ofInt? (α := HiprandOrdering) ordering with
  | some .pseudoBest => pure .pseudoBest
  | some .pseudoDefault => pure .pseudoDefault
  | some .pseudoSeeded => pure .pseudoSeeded
  | some .pseudoLegacy => pure .pseudoLegacy
  | some .pseudoDynamic => pure .pseudoDynamic
  | some .quasiDefault => pure .quasiDefault
  | none => throw .typeError

/-! ## Entry points -/

def hiprandCreateGenerator (generator : Pointer) (rngType : Int) : AmdProg HiprandStatus :=
  catchStatus do
    let type ← toRocrandRngType rngType
    forward toHiprandStatus (.rocrandCreateGenerator generator type)

def hiprandCreateGeneratorHost (generator : Pointer) (rngType : Int) : AmdProg HiprandStatus :=
  catchStatus do
    let type ← toRocrandRngType rngType
    forward toHiprandStatus (.rocrandCreateGeneratorHostBlocking generator type)

def hiprandDestroyGenerator (generator : Pointer) : AmdProg HiprandStatus :=
  forward toHiprandStatus (.rocrandDestroyGenerator generator)

def hiprandGenerate (generator outputData : Pointer) (n : CSize) : AmdProg HiprandStatus :=
  forward toHiprandStatus (.rocrandGenerate generator outputData n)

def hiprandGenerateChar (generator outputData : Pointer) (n : CSize) : AmdProg HiprandStatus :=
  forward toHiprandStatus (.rocrandGenerateChar generator outputData n)

def hiprandGenerateShort (generator outputData : Pointer) (n : CSize) : AmdProg HiprandStatus :=
  forward toHiprandStatus (.rocrandGenerateShort generator outputData n)

def hiprandGenerateLongLong (generator outputData : Pointer) (n : CSize) : AmdProg HiprandStatus :=
  forward toHiprandStatus (.rocrandGenerateLongLong generator outputData n)

def hiprandGenerateUniform (generator outputData : Pointer) (n : CSize) : AmdProg HiprandStatus :=
  forward toHiprandStatus (.rocrandGenerateUniform generator outputData n)

def hiprandGenerateUniformDouble (generator outputData : Pointer) (n : CSize) :
    AmdProg HiprandStatus :=
  forward toHiprandStatus (.rocrandGenerateUniformDouble generator outputData n)

def hiprandGenerateUniformHalf (generator outputData : Pointer) (n : CSize) :
    AmdProg HiprandStatus :=
  forward toHiprandStatus (.rocrandGenerateUniformHalf generator outputData n)

def hiprandGenerateNormal (generator outputData : Pointer) (n : CSize) (mean stddev : CFloat) :
    AmdProg HiprandStatus :=
  forward toHiprandStatus (.rocrandGenerateNormal generator outputData n mean stddev)

def hiprandGenerateNormalDouble (generator outputData : Pointer) (n : CSize)
    (mean stddev : CDouble) : AmdProg HiprandStatus :=
  forward toHiprandStatus (.rocrandGenerateNormalDouble generator outputData n mean stddev)

def hiprandGenerateNormalHalf (generator outputData : Pointer) (n : CSize) (mean stddev : CHalf) :
    AmdProg HiprandStatus :=
  forward toHiprandStatus (.rocrandGenerateNormalHalf generator outputData n mean stddev)

def hiprandGenerateLogNormal (generator outputData : Pointer) (n : CSize) (mean stddev : CFloat) :
    AmdProg HiprandStatus :=
  forward toHiprandStatus (.rocrandGenerateLogNormal generator outputData n mean stddev)

def hiprandGenerateLogNormalDouble (generator outputData : Pointer) (n : CSize)
    (mean stddev : CDouble) : AmdProg HiprandStatus :=
  forward toHiprandStatus (.rocrandGenerateLogNormalDouble generator outputData n mean stddev)

def hiprandGenerateLogNormalHalf (generator outputData : Pointer) (n : CSize)
    (mean stddev : CHalf) : AmdProg HiprandStatus :=
  forward toHiprandStatus (.rocrandGenerateLogNormalHalf generator outputData n mean stddev)

def hiprandGeneratePoisson (generator outputData : Pointer) (n : CSize) (lambda : CDouble) :
    AmdProg HiprandStatus :=
  forward toHiprandStatus (.rocrandGeneratePoisson generator outputData n lambda)

def hiprandGenerateSeeds (generator : Pointer) : AmdProg HiprandStatus :=
  forward toHiprandStatus (.rocrandInitializeGenerator generator)

def hiprandSetStream (generator stream : Pointer) : AmdProg HiprandStatus :=
  forward toHiprandStatus (.rocrandSetStream generator stream)

def hiprandSetPseudoRandomGeneratorSeed (generator : Pointer) (seed : CULongLong) :
    AmdProg HiprandStatus :=
  forward toHiprandStatus (.rocrandSetSeed generator seed)

def hiprandSetGeneratorOffset (generator : Pointer) (offset : CULongLong) :
    AmdProg HiprandStatus :=
  forward toHiprandStatus (.rocrandSetOffset generator offset)

def hiprandSetGeneratorOrdering (generator : Pointer) (order : Int) : AmdProg HiprandStatus :=
  catchStatus do
    let ordering ← toRocrandOrdering order
    forward toHiprandStatus (.rocrandSetOrdering generator ordering)

def hiprandSetQuasiRandomGeneratorDimensions (generator : Pointer) (dimensions : CUInt) :
    AmdProg HiprandStatus :=
  forward toHiprandStatus (.rocrandSetQuasiRandomGeneratorDimensions generator dimensions)

def hiprandGetVersion (version : Pointer) : AmdProg HiprandStatus :=
  forward toHiprandStatus (.rocrandGetVersion version)

def hiprandCreatePoissonDistribution (lambda : CDouble) (discreteDistribution : Pointer) :
    AmdProg HiprandStatus :=
  forward toHiprandStatus (.rocrandCreatePoissonDistribution lambda discreteDistribution)

def hiprandDestroyDistribution (discreteDistribution : Pointer) : AmdProg HiprandStatus :=
  forward toHiprandStatus (.rocrandDestroyDiscreteDistribution discreteDistribution)

def hiprandGetDirectionVectors32 (vectors : Pointer) (set : Int) : AmdProg HiprandStatus := do
  let type ← toRocrandDirectionVectorSetType set
  forward toHiprandStatus (.rocrandGetDirectionVectors32 vectors type)

def hiprandGetDirectionVectors64 (vectors : Pointer) (set : Int) : AmdProg HiprandStatus := do
  let type ← toRocrandDirectionVectorSetType set
  forward toHiprandStatus (.rocrandGetDirectionVectors64 vectors type)

def hiprandGetScrambleConstants32 (constants : Pointer) : AmdProg HiprandStatus :=
  forward toHiprandStatus (.rocrandGetScrambleConstants32 constants)

def hiprandGetScrambleConstants64 (constants : Pointer) : AmdProg HiprandStatus :=
  forward toHiprandStatus (.rocrandGetScrambleConstants64 constants)

/-- The implementation of each host API function in this backend. -/
def host : HostCall → AmdProg HiprandStatus
  | .hiprandCreateGenerator generator rngType => hiprandCreateGenerator generator rngType
  | .hiprandCreateGeneratorHost generator rngType => hiprandCreateGeneratorHost generator rngType
  | .hiprandDestroyGenerator generator => hiprandDestroyGenerator generator
  | .hiprandGenerate generator outputData n => hiprandGenerate generator outputData n
  | .hiprandGenerateChar generator outputData n => hiprandGenerateChar generator outputData n
  | .hiprandGenerateShort generator outputData n => hiprandGenerateShort generator outputData n
  | .hiprandGenerateLongLong generator outputData n =>
    hiprandGenerateLongLong generator outputData n
  | .hiprandGenerateUniform generator outputData n => hiprandGenerateUniform generator outputData n
  | .hiprandGenerateUniformDouble generator outputData n =>
    hiprandGenerateUniformDouble generator outputData n
  | .hiprandGenerateUniformHalf generator outputData n =>
    hiprandGenerateUniformHalf generator outputData n
  | .hiprandGenerateNormal generator outputData n mean stddev =>
    hiprandGenerateNormal generator outputData n mean stddev
  | .hiprandGenerateNormalDouble generator outputData n mean stddev =>
    hiprandGenerateNormalDouble generator outputData n mean stddev
  | .hiprandGenerateNormalHalf generator outputData n mean stddev =>
    hiprandGenerateNormalHalf generator outputData n mean stddev
  | .hiprandGenerateLogNormal generator outputData n mean stddev =>
    hiprandGenerateLogNormal generator outputData n mean stddev
  | .hiprandGenerateLogNormalDouble generator outputData n mean stddev =>
    hiprandGenerateLogNormalDouble generator outputData n mean stddev
  | .hiprandGenerateLogNormalHalf generator outputData n mean stddev =>
    hiprandGenerateLogNormalHalf generator outputData n mean stddev
  | .hiprandGeneratePoisson generator outputData n lambda =>
    hiprandGeneratePoisson generator outputData n lambda
  | .hiprandGenerateSeeds generator => hiprandGenerateSeeds generator
  | .hiprandSetStream generator stream => hiprandSetStream generator stream
  | .hiprandSetPseudoRandomGeneratorSeed generator seed =>
    hiprandSetPseudoRandomGeneratorSeed generator seed
  | .hiprandSetGeneratorOffset generator offset => hiprandSetGeneratorOffset generator offset
  | .hiprandSetGeneratorOrdering generator order => hiprandSetGeneratorOrdering generator order
  | .hiprandSetQuasiRandomGeneratorDimensions generator dimensions =>
    hiprandSetQuasiRandomGeneratorDimensions generator dimensions
  | .hiprandGetVersion version => hiprandGetVersion version
  | .hiprandCreatePoissonDistribution lambda discreteDistribution =>
    hiprandCreatePoissonDistribution lambda discreteDistribution
  | .hiprandDestroyDistribution discreteDistribution =>
    hiprandDestroyDistribution discreteDistribution
  | .hiprandGetDirectionVectors32 vectors set => hiprandGetDirectionVectors32 vectors set
  | .hiprandGetDirectionVectors64 vectors set => hiprandGetDirectionVectors64 vectors set
  | .hiprandGetScrambleConstants32 constants => hiprandGetScrambleConstants32 constants
  | .hiprandGetScrambleConstants64 constants => hiprandGetScrambleConstants64 constants

/-! ## The translations and the contract -/

theorem toHiprandStatus_eq_success (status : RocrandStatus) :
    toHiprandStatus status = .success ↔ status = .success := by
  cases status <;> simp [toHiprandStatus]

/-- The generator types are translated or refused with `HIPRAND_STATUS_TYPE_ERROR`;
every integer that the header does not list is refused. -/
theorem toRocrandRngType_cases (rngType : Int) :
    (CEnum.Listed HiprandRngType rngType ∧ ∃ type, toRocrandRngType rngType = .ret type) ∨
      ∃ status, status ≠ .success ∧ toRocrandRngType rngType = .throw status := by
  cases h : CEnum.ofInt? (α := HiprandRngType) rngType with
  | none => exact .inr ⟨.typeError, by decide, by simp [toRocrandRngType, h]⟩
  | some type =>
    have hlisted := CEnum.listed_of_ofInt? h
    cases type with
    | test => exact .inr ⟨.typeError, by decide, by simp [toRocrandRngType, h]⟩
    | _ => exact .inl ⟨hlisted, by simp [toRocrandRngType, h]⟩

theorem toRocrandOrdering_cases (ordering : Int) :
    (CEnum.Listed HiprandOrdering ordering ∧ ∃ type, toRocrandOrdering ordering = .ret type) ∨
      ∃ status, status ≠ .success ∧ toRocrandOrdering ordering = .throw status := by
  cases h : CEnum.ofInt? (α := HiprandOrdering) ordering with
  | none => exact .inr ⟨.typeError, by decide, by simp [toRocrandOrdering, h]⟩
  | some type =>
    have hlisted := CEnum.listed_of_ofInt? h
    cases type <;> exact .inl ⟨hlisted, by simp [toRocrandOrdering, h]⟩

theorem toRocrandDirectionVectorSetType_cases (set : Int) :
    (CEnum.Listed HiprandDirectionVectorSet set ∧
        ∃ type, toRocrandDirectionVectorSetType set = .ret type) ∨
      ¬ CEnum.Listed HiprandDirectionVectorSet set ∧
        ∃ status, toRocrandDirectionVectorSetType set = .throw status := by
  cases h : CEnum.ofInt? (α := HiprandDirectionVectorSet) set with
  | none =>
    exact .inr ⟨CEnum.ofInt?_eq_none_iff.mp h, .typeError,
      by simp [toRocrandDirectionVectorSetType, h]⟩
  | some type =>
    have hlisted := CEnum.listed_of_ofInt? h
    cases type <;> exact .inl ⟨hlisted, by simp [toRocrandDirectionVectorSetType, h]⟩

end HipRand.Amd
