import HipRand.HostApi

/-!
# The cuRAND backend of the host API

`library/src/nvidia_detail/hiprand.cpp`. It mirrors the rocRAND backend, except
that the 8-bit, 16-bit and half-precision generation functions answer
`HIPRAND_STATUS_NOT_IMPLEMENTED` without calling cuRAND.
-/

namespace HipRand.Nvidia

open Interaction

/-! ## The cuRAND library -/

/-- `curandStatus_t`. The backend may return any integer; `other` is one that the
header does not list. -/
inductive CurandStatus
  | success
  | notInitialized
  | versionMismatch
  | allocationFailed
  | typeError
  | outOfRange
  | lengthNotMultiple
  | doublePrecisionRequired
  | launchFailure
  | preexistingFailure
  | initializationFailed
  | archMismatch
  | internalError
  | other (code : Int)
  deriving DecidableEq, Repr

/-- The values of `curandRngType_t` that hipRAND uses. -/
inductive CurandRngType
  | pseudoDefault
  | pseudoXorwow
  | pseudoMrg32k3a
  | pseudoMtgp32
  | pseudoPhilox4_32_10
  | pseudoMt19937
  | quasiDefault
  | quasiSobol32
  | quasiScrambledSobol32
  | quasiSobol64
  | quasiScrambledSobol64
  deriving DecidableEq, Repr

/-- The values of `curandOrdering_t` that hipRAND uses. -/
inductive CurandOrdering
  | pseudoBest
  | pseudoDefault
  | pseudoSeeded
  | pseudoLegacy
  | pseudoDynamic
  | quasiDefault
  deriving DecidableEq, Repr

/-- The values of `curandDirectionVectorSet_t` that hipRAND uses. -/
inductive CurandDirectionVectorSet
  | directionVectors32Joekuo6
  | scrambledDirectionVectors32Joekuo6
  | directionVectors64Joekuo6
  | scrambledDirectionVectors64Joekuo6
  deriving DecidableEq, Repr

/-- The cuRAND functions that hipRAND calls, with their arguments. -/
inductive CurandCall
  | curandCreateGenerator (generator : Pointer) (rngType : CurandRngType)
  | curandCreateGeneratorHost (generator : Pointer) (rngType : CurandRngType)
  | curandDestroyGenerator (generator : Pointer)
  | curandGenerate (generator outputData : Pointer) (n : CSize)
  | curandGenerateLongLong (generator outputData : Pointer) (n : CSize)
  | curandGenerateUniform (generator outputData : Pointer) (n : CSize)
  | curandGenerateUniformDouble (generator outputData : Pointer) (n : CSize)
  | curandGenerateNormal (generator outputData : Pointer) (n : CSize) (mean stddev : CFloat)
  | curandGenerateNormalDouble (generator outputData : Pointer) (n : CSize) (mean stddev : CDouble)
  | curandGenerateLogNormal (generator outputData : Pointer) (n : CSize) (mean stddev : CFloat)
  | curandGenerateLogNormalDouble (generator outputData : Pointer) (n : CSize)
      (mean stddev : CDouble)
  | curandGeneratePoisson (generator outputData : Pointer) (n : CSize) (lambda : CDouble)
  | curandGenerateSeeds (generator : Pointer)
  | curandSetStream (generator stream : Pointer)
  | curandSetPseudoRandomGeneratorSeed (generator : Pointer) (seed : CULongLong)
  | curandSetGeneratorOffset (generator : Pointer) (offset : CULongLong)
  | curandSetGeneratorOrdering (generator : Pointer) (order : CurandOrdering)
  | curandSetQuasiRandomGeneratorDimensions (generator : Pointer) (dimensions : CUInt)
  | curandGetVersion (version : Pointer)
  | curandCreatePoissonDistribution (lambda : CDouble) (discreteDistribution : Pointer)
  | curandDestroyDistribution (discreteDistribution : Pointer)
  | curandGetDirectionVectors32 (vectors : Pointer) (set : CurandDirectionVectorSet)
  | curandGetDirectionVectors64 (vectors : Pointer) (set : CurandDirectionVectorSet)
  | curandGetScrambleConstants32 (constants : Pointer)
  | curandGetScrambleConstants64 (constants : Pointer)
  deriving DecidableEq

/-- A host API function on cuRAND. -/
abbrev NvidiaProg := HostProg CurandCall CurandStatus

/-! ## Translations -/

/-- `to_hiprand_status` -/
def toHiprandStatus : CurandStatus → HiprandStatus
  | .success => .success
  | .notInitialized => .notInitialized
  | .versionMismatch => .versionMismatch
  | .allocationFailed => .allocationFailed
  | .typeError => .typeError
  | .outOfRange => .outOfRange
  | .lengthNotMultiple => .lengthNotMultiple
  | .doublePrecisionRequired => .doublePrecisionRequired
  | .launchFailure => .launchFailure
  | .preexistingFailure => .preexistingFailure
  | .initializationFailed => .initializationFailed
  | .archMismatch => .archMismatch
  | .internalError => .internalError
  | .other _ => .internalError

/-- `to_curand_rng_type`. The switch lists no case for `HIPRAND_RNG_TEST`. -/
def toCurandRngType (rngType : Int) : NvidiaProg CurandRngType :=
  match CEnum.ofInt? (α := HiprandRngType) rngType with
  | some .pseudoDefault => pure .pseudoDefault
  | some .pseudoXorwow => pure .pseudoXorwow
  | some .pseudoMrg32k3a => pure .pseudoMrg32k3a
  | some .pseudoMtgp32 => pure .pseudoMtgp32
  | some .pseudoPhilox4_32_10 => pure .pseudoPhilox4_32_10
  | some .pseudoMt19937 => pure .pseudoMt19937
  | some .quasiDefault => pure .quasiDefault
  | some .quasiSobol32 => pure .quasiSobol32
  | some .quasiScrambledSobol32 => pure .quasiScrambledSobol32
  | some .quasiSobol64 => pure .quasiSobol64
  | some .quasiScrambledSobol64 => pure .quasiScrambledSobol64
  | _ => throw .typeError

/-- `to_curand_direction_vector_set_type` -/
def toCurandDirectionVectorSetType (set : Int) : NvidiaProg CurandDirectionVectorSet :=
  match CEnum.ofInt? (α := HiprandDirectionVectorSet) set with
  | some .directionVectors32Joekuo6 => pure .directionVectors32Joekuo6
  | some .scrambledDirectionVectors32Joekuo6 => pure .scrambledDirectionVectors32Joekuo6
  | some .directionVectors64Joekuo6 => pure .directionVectors64Joekuo6
  | some .scrambledDirectionVectors64Joekuo6 => pure .scrambledDirectionVectors64Joekuo6
  | none => throw .typeError

/-- `to_curand_ordering` -/
def toCurandOrdering (ordering : Int) : NvidiaProg CurandOrdering :=
  match CEnum.ofInt? (α := HiprandOrdering) ordering with
  | some .pseudoBest => pure .pseudoBest
  | some .pseudoDefault => pure .pseudoDefault
  | some .pseudoSeeded => pure .pseudoSeeded
  | some .pseudoLegacy => pure .pseudoLegacy
  | some .pseudoDynamic => pure .pseudoDynamic
  | some .quasiDefault => pure .quasiDefault
  | none => throw .typeError

/-! ## Entry points -/

def hiprandCreateGenerator (generator : Pointer) (rngType : Int) : NvidiaProg HiprandStatus :=
  catchStatus do
    let type ← toCurandRngType rngType
    forward toHiprandStatus (.curandCreateGenerator generator type)

def hiprandCreateGeneratorHost (generator : Pointer) (rngType : Int) : NvidiaProg HiprandStatus :=
  catchStatus do
    let type ← toCurandRngType rngType
    forward toHiprandStatus (.curandCreateGeneratorHost generator type)

def hiprandDestroyGenerator (generator : Pointer) : NvidiaProg HiprandStatus :=
  forward toHiprandStatus (.curandDestroyGenerator generator)

def hiprandGenerate (generator outputData : Pointer) (n : CSize) : NvidiaProg HiprandStatus :=
  forward toHiprandStatus (.curandGenerate generator outputData n)

def hiprandGenerateChar (_generator _outputData : Pointer) (_n : CSize) :
    NvidiaProg HiprandStatus :=
  pure .notImplemented

def hiprandGenerateShort (_generator _outputData : Pointer) (_n : CSize) :
    NvidiaProg HiprandStatus :=
  pure .notImplemented

def hiprandGenerateLongLong (generator outputData : Pointer) (n : CSize) :
    NvidiaProg HiprandStatus :=
  forward toHiprandStatus (.curandGenerateLongLong generator outputData n)

def hiprandGenerateUniform (generator outputData : Pointer) (n : CSize) :
    NvidiaProg HiprandStatus :=
  forward toHiprandStatus (.curandGenerateUniform generator outputData n)

def hiprandGenerateUniformDouble (generator outputData : Pointer) (n : CSize) :
    NvidiaProg HiprandStatus :=
  forward toHiprandStatus (.curandGenerateUniformDouble generator outputData n)

def hiprandGenerateUniformHalf (_generator _outputData : Pointer) (_n : CSize) :
    NvidiaProg HiprandStatus :=
  pure .notImplemented

def hiprandGenerateNormal (generator outputData : Pointer) (n : CSize) (mean stddev : CFloat) :
    NvidiaProg HiprandStatus :=
  forward toHiprandStatus (.curandGenerateNormal generator outputData n mean stddev)

def hiprandGenerateNormalDouble (generator outputData : Pointer) (n : CSize)
    (mean stddev : CDouble) : NvidiaProg HiprandStatus :=
  forward toHiprandStatus (.curandGenerateNormalDouble generator outputData n mean stddev)

def hiprandGenerateNormalHalf (_generator _outputData : Pointer) (_n : CSize)
    (_mean _stddev : CHalf) : NvidiaProg HiprandStatus :=
  pure .notImplemented

def hiprandGenerateLogNormal (generator outputData : Pointer) (n : CSize) (mean stddev : CFloat) :
    NvidiaProg HiprandStatus :=
  forward toHiprandStatus (.curandGenerateLogNormal generator outputData n mean stddev)

def hiprandGenerateLogNormalDouble (generator outputData : Pointer) (n : CSize)
    (mean stddev : CDouble) : NvidiaProg HiprandStatus :=
  forward toHiprandStatus (.curandGenerateLogNormalDouble generator outputData n mean stddev)

def hiprandGenerateLogNormalHalf (_generator _outputData : Pointer) (_n : CSize)
    (_mean _stddev : CHalf) : NvidiaProg HiprandStatus :=
  pure .notImplemented

def hiprandGeneratePoisson (generator outputData : Pointer) (n : CSize) (lambda : CDouble) :
    NvidiaProg HiprandStatus :=
  forward toHiprandStatus (.curandGeneratePoisson generator outputData n lambda)

def hiprandGenerateSeeds (generator : Pointer) : NvidiaProg HiprandStatus :=
  forward toHiprandStatus (.curandGenerateSeeds generator)

def hiprandSetStream (generator stream : Pointer) : NvidiaProg HiprandStatus :=
  forward toHiprandStatus (.curandSetStream generator stream)

def hiprandSetPseudoRandomGeneratorSeed (generator : Pointer) (seed : CULongLong) :
    NvidiaProg HiprandStatus :=
  forward toHiprandStatus (.curandSetPseudoRandomGeneratorSeed generator seed)

def hiprandSetGeneratorOffset (generator : Pointer) (offset : CULongLong) :
    NvidiaProg HiprandStatus :=
  forward toHiprandStatus (.curandSetGeneratorOffset generator offset)

def hiprandSetGeneratorOrdering (generator : Pointer) (order : Int) : NvidiaProg HiprandStatus :=
  catchStatus do
    let ordering ← toCurandOrdering order
    forward toHiprandStatus (.curandSetGeneratorOrdering generator ordering)

def hiprandSetQuasiRandomGeneratorDimensions (generator : Pointer) (dimensions : CUInt) :
    NvidiaProg HiprandStatus :=
  forward toHiprandStatus (.curandSetQuasiRandomGeneratorDimensions generator dimensions)

def hiprandGetVersion (version : Pointer) : NvidiaProg HiprandStatus :=
  forward toHiprandStatus (.curandGetVersion version)

def hiprandCreatePoissonDistribution (lambda : CDouble) (discreteDistribution : Pointer) :
    NvidiaProg HiprandStatus :=
  forward toHiprandStatus (.curandCreatePoissonDistribution lambda discreteDistribution)

def hiprandDestroyDistribution (discreteDistribution : Pointer) : NvidiaProg HiprandStatus :=
  forward toHiprandStatus (.curandDestroyDistribution discreteDistribution)

def hiprandGetDirectionVectors32 (vectors : Pointer) (set : Int) : NvidiaProg HiprandStatus := do
  let type ← toCurandDirectionVectorSetType set
  forward toHiprandStatus (.curandGetDirectionVectors32 vectors type)

def hiprandGetDirectionVectors64 (vectors : Pointer) (set : Int) : NvidiaProg HiprandStatus := do
  let type ← toCurandDirectionVectorSetType set
  forward toHiprandStatus (.curandGetDirectionVectors64 vectors type)

def hiprandGetScrambleConstants32 (constants : Pointer) : NvidiaProg HiprandStatus :=
  forward toHiprandStatus (.curandGetScrambleConstants32 constants)

def hiprandGetScrambleConstants64 (constants : Pointer) : NvidiaProg HiprandStatus :=
  forward toHiprandStatus (.curandGetScrambleConstants64 constants)

/-- The implementation of each host API function in this backend. -/
def host : HostCall → NvidiaProg HiprandStatus
  | .hiprandCreateGenerator generator rngType => hiprandCreateGenerator generator rngType
  | .hiprandCreateGeneratorHost generator rngType => hiprandCreateGeneratorHost generator rngType
  | .hiprandDestroyGenerator generator => hiprandDestroyGenerator generator
  | .hiprandGenerate generator outputData n => hiprandGenerate generator outputData n
  | .hiprandGenerateChar generator outputData n => hiprandGenerateChar generator outputData n
  | .hiprandGenerateShort generator outputData n => hiprandGenerateShort generator outputData n
  | .hiprandGenerateLongLong generator outputData n =>
    hiprandGenerateLongLong generator outputData n
  | .hiprandGenerateUniform generator outputData n => hiprandGenerateUniform generator outputData n
  | .hiprandGenerateUniformDouble generator outputData n =>
    hiprandGenerateUniformDouble generator outputData n
  | .hiprandGenerateUniformHalf generator outputData n =>
    hiprandGenerateUniformHalf generator outputData n
  | .hiprandGenerateNormal generator outputData n mean stddev =>
    hiprandGenerateNormal generator outputData n mean stddev
  | .hiprandGenerateNormalDouble generator outputData n mean stddev =>
    hiprandGenerateNormalDouble generator outputData n mean stddev
  | .hiprandGenerateNormalHalf generator outputData n mean stddev =>
    hiprandGenerateNormalHalf generator outputData n mean stddev
  | .hiprandGenerateLogNormal generator outputData n mean stddev =>
    hiprandGenerateLogNormal generator outputData n mean stddev
  | .hiprandGenerateLogNormalDouble generator outputData n mean stddev =>
    hiprandGenerateLogNormalDouble generator outputData n mean stddev
  | .hiprandGenerateLogNormalHalf generator outputData n mean stddev =>
    hiprandGenerateLogNormalHalf generator outputData n mean stddev
  | .hiprandGeneratePoisson generator outputData n lambda =>
    hiprandGeneratePoisson generator outputData n lambda
  | .hiprandGenerateSeeds generator => hiprandGenerateSeeds generator
  | .hiprandSetStream generator stream => hiprandSetStream generator stream
  | .hiprandSetPseudoRandomGeneratorSeed generator seed =>
    hiprandSetPseudoRandomGeneratorSeed generator seed
  | .hiprandSetGeneratorOffset generator offset => hiprandSetGeneratorOffset generator offset
  | .hiprandSetGeneratorOrdering generator order => hiprandSetGeneratorOrdering generator order
  | .hiprandSetQuasiRandomGeneratorDimensions generator dimensions =>
    hiprandSetQuasiRandomGeneratorDimensions generator dimensions
  | .hiprandGetVersion version => hiprandGetVersion version
  | .hiprandCreatePoissonDistribution lambda discreteDistribution =>
    hiprandCreatePoissonDistribution lambda discreteDistribution
  | .hiprandDestroyDistribution discreteDistribution =>
    hiprandDestroyDistribution discreteDistribution
  | .hiprandGetDirectionVectors32 vectors set => hiprandGetDirectionVectors32 vectors set
  | .hiprandGetDirectionVectors64 vectors set => hiprandGetDirectionVectors64 vectors set
  | .hiprandGetScrambleConstants32 constants => hiprandGetScrambleConstants32 constants
  | .hiprandGetScrambleConstants64 constants => hiprandGetScrambleConstants64 constants

/-! ## The translations and the contract -/

theorem toHiprandStatus_eq_success (status : CurandStatus) :
    toHiprandStatus status = .success ↔ status = .success := by
  cases status <;> simp [toHiprandStatus]

/-- The generator types are translated or refused with `HIPRAND_STATUS_TYPE_ERROR`;
every integer that the header does not list is refused. -/
theorem toCurandRngType_cases (rngType : Int) :
    (CEnum.Listed HiprandRngType rngType ∧ ∃ type, toCurandRngType rngType = .ret type) ∨
      ∃ status, status ≠ .success ∧ toCurandRngType rngType = .throw status := by
  cases h : CEnum.ofInt? (α := HiprandRngType) rngType with
  | none => exact .inr ⟨.typeError, by decide, by simp [toCurandRngType, h]⟩
  | some type =>
    have hlisted := CEnum.listed_of_ofInt? h
    cases type with
    | test => exact .inr ⟨.typeError, by decide, by simp [toCurandRngType, h]⟩
    | _ => exact .inl ⟨hlisted, by simp [toCurandRngType, h]⟩

theorem toCurandOrdering_cases (ordering : Int) :
    (CEnum.Listed HiprandOrdering ordering ∧ ∃ type, toCurandOrdering ordering = .ret type) ∨
      ∃ status, status ≠ .success ∧ toCurandOrdering ordering = .throw status := by
  cases h : CEnum.ofInt? (α := HiprandOrdering) ordering with
  | none => exact .inr ⟨.typeError, by decide, by simp [toCurandOrdering, h]⟩
  | some type =>
    have hlisted := CEnum.listed_of_ofInt? h
    cases type <;> exact .inl ⟨hlisted, by simp [toCurandOrdering, h]⟩

theorem toCurandDirectionVectorSetType_cases (set : Int) :
    (CEnum.Listed HiprandDirectionVectorSet set ∧
        ∃ type, toCurandDirectionVectorSetType set = .ret type) ∨
      ¬ CEnum.Listed HiprandDirectionVectorSet set ∧
        ∃ status, toCurandDirectionVectorSetType set = .throw status := by
  cases h : CEnum.ofInt? (α := HiprandDirectionVectorSet) set with
  | none =>
    exact .inr ⟨CEnum.ofInt?_eq_none_iff.mp h, .typeError,
      by simp [toCurandDirectionVectorSetType, h]⟩
  | some type =>
    have hlisted := CEnum.listed_of_ofInt? h
    cases type <;> exact .inl ⟨hlisted, by simp [toCurandDirectionVectorSetType, h]⟩

end HipRand.Nvidia
