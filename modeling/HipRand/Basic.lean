import Mathlib.Tactic.Common

/-!
# The types of `hiprand.h`

Enumerations of the C API are inductive types. An argument of enumeration type
arrives as an integer, because C lets a caller pass any integer there; `CEnum`
relates the two. Pointers, handles, sizes and floating-point values are only
passed on, so they are kept as bit patterns of their width.
-/

namespace HipRand

/-! ## Scalars -/

/-- An address, or an opaque handle, which is an address too. -/
abbrev Pointer := BitVec 64

/-- `size_t`. -/
abbrev CSize := BitVec 64

/-- `unsigned int`. -/
abbrev CUInt := BitVec 32

/-- `unsigned long long`. -/
abbrev CULongLong := BitVec 64

/-- The bit pattern of a `half`. -/
abbrev CHalf := BitVec 16

/-- The bit pattern of a `float`. -/
abbrev CFloat := BitVec 32

/-- The bit pattern of a `double`. -/
abbrev CDouble := BitVec 64

/-! ## Enumerations -/

/-- A C enumeration: its listed enumerators and their integer values. -/
class CEnum (α : Type) where
  enumerators : List α
  complete : ∀ a, a ∈ enumerators
  value : α → Int

namespace CEnum

variable {α : Type} [CEnum α]

/-- The enumerator with value `v`, if the header lists one. -/
def ofInt? (v : Int) : Option α :=
  enumerators.find? fun a => value a = v

/-- `v` is the value of a listed enumerator. -/
def Listed (α : Type) [CEnum α] (v : Int) : Prop :=
  ∃ a : α, value a = v

theorem ofInt?_eq_none_iff {v : Int} : ofInt? (α := α) v = none ↔ ¬ Listed α v := by
  simp [ofInt?, Listed, complete]

theorem listed_of_ofInt? {v : Int} {a : α} (h : ofInt? v = some a) : Listed α v := by
  have hv := List.find?_some h
  exact ⟨a, by simpa using hv⟩

instance (v : Int) : Decidable (Listed α v) :=
  decidable_of_iff (ofInt? (α := α) v ≠ none) (by rw [ne_eq, ofInt?_eq_none_iff, not_not])

end CEnum

/-- `hiprandStatus_t`. -/
inductive HiprandStatus
  | success
  | versionMismatch
  | notInitialized
  | allocationFailed
  | typeError
  | outOfRange
  | lengthNotMultiple
  | doublePrecisionRequired
  | launchFailure
  | preexistingFailure
  | initializationFailed
  | archMismatch
  | internalError
  | notImplemented
  deriving DecidableEq, Repr

instance : CEnum HiprandStatus where
  enumerators :=
    [.success, .versionMismatch, .notInitialized, .allocationFailed, .typeError, .outOfRange,
      .lengthNotMultiple, .doublePrecisionRequired, .launchFailure, .preexistingFailure,
      .initializationFailed, .archMismatch, .internalError, .notImplemented]
  complete a := by cases a <;> decide
  value
    | .success => 0
    | .versionMismatch => 100
    | .notInitialized => 101
    | .allocationFailed => 102
    | .typeError => 103
    | .outOfRange => 104
    | .lengthNotMultiple => 105
    | .doublePrecisionRequired => 106
    | .launchFailure => 201
    | .preexistingFailure => 202
    | .initializationFailed => 203
    | .archMismatch => 204
    | .internalError => 999
    | .notImplemented => 1000

/-- The name in `hiprand.h`. -/
def HiprandStatus.enumerator : HiprandStatus → String
  | .success => "HIPRAND_STATUS_SUCCESS"
  | .versionMismatch => "HIPRAND_STATUS_VERSION_MISMATCH"
  | .notInitialized => "HIPRAND_STATUS_NOT_INITIALIZED"
  | .allocationFailed => "HIPRAND_STATUS_ALLOCATION_FAILED"
  | .typeError => "HIPRAND_STATUS_TYPE_ERROR"
  | .outOfRange => "HIPRAND_STATUS_OUT_OF_RANGE"
  | .lengthNotMultiple => "HIPRAND_STATUS_LENGTH_NOT_MULTIPLE"
  | .doublePrecisionRequired => "HIPRAND_STATUS_DOUBLE_PRECISION_REQUIRED"
  | .launchFailure => "HIPRAND_STATUS_LAUNCH_FAILURE"
  | .preexistingFailure => "HIPRAND_STATUS_PREEXISTING_FAILURE"
  | .initializationFailed => "HIPRAND_STATUS_INITIALIZATION_FAILED"
  | .archMismatch => "HIPRAND_STATUS_ARCH_MISMATCH"
  | .internalError => "HIPRAND_STATUS_INTERNAL_ERROR"
  | .notImplemented => "HIPRAND_STATUS_NOT_IMPLEMENTED"

theorem value_status_injective {st st' : HiprandStatus}
    (h : CEnum.value st = CEnum.value st') : st = st' := by
  cases st <;> cases st' <;> first | rfl | exact absurd h (by decide)

/-- `hiprandRngType_t`. -/
inductive HiprandRngType
  | test
  | pseudoDefault
  | pseudoXorwow
  | pseudoMrg32k3a
  | pseudoMtgp32
  | pseudoMt19937
  | pseudoPhilox4_32_10
  | quasiDefault
  | quasiSobol32
  | quasiScrambledSobol32
  | quasiSobol64
  | quasiScrambledSobol64
  deriving DecidableEq, Repr

instance : CEnum HiprandRngType where
  enumerators :=
    [.test, .pseudoDefault, .pseudoXorwow, .pseudoMrg32k3a, .pseudoMtgp32, .pseudoMt19937,
      .pseudoPhilox4_32_10, .quasiDefault, .quasiSobol32, .quasiScrambledSobol32, .quasiSobol64,
      .quasiScrambledSobol64]
  complete a := by cases a <;> decide
  value
    | .test => 0
    | .pseudoDefault => 400
    | .pseudoXorwow => 401
    | .pseudoMrg32k3a => 402
    | .pseudoMtgp32 => 403
    | .pseudoMt19937 => 404
    | .pseudoPhilox4_32_10 => 405
    | .quasiDefault => 500
    | .quasiSobol32 => 501
    | .quasiScrambledSobol32 => 502
    | .quasiSobol64 => 503
    | .quasiScrambledSobol64 => 504

/-- `hiprandOrdering_t`. -/
inductive HiprandOrdering
  | pseudoBest
  | pseudoDefault
  | pseudoSeeded
  | pseudoLegacy
  | pseudoDynamic
  | quasiDefault
  deriving DecidableEq, Repr

instance : CEnum HiprandOrdering where
  enumerators :=
    [.pseudoBest, .pseudoDefault, .pseudoSeeded, .pseudoLegacy, .pseudoDynamic, .quasiDefault]
  complete a := by cases a <;> decide
  value
    | .pseudoBest => 100
    | .pseudoDefault => 101
    | .pseudoSeeded => 102
    | .pseudoLegacy => 103
    | .pseudoDynamic => 104
    | .quasiDefault => 201

/-- `hiprandDirectionVectorSet_t`. -/
inductive HiprandDirectionVectorSet
  | directionVectors32Joekuo6
  | scrambledDirectionVectors32Joekuo6
  | directionVectors64Joekuo6
  | scrambledDirectionVectors64Joekuo6
  deriving DecidableEq, Repr

instance : CEnum HiprandDirectionVectorSet where
  enumerators :=
    [.directionVectors32Joekuo6, .scrambledDirectionVectors32Joekuo6, .directionVectors64Joekuo6,
      .scrambledDirectionVectors64Joekuo6]
  complete a := by cases a <;> decide
  value
    | .directionVectors32Joekuo6 => 101
    | .scrambledDirectionVectors32Joekuo6 => 102
    | .directionVectors64Joekuo6 => 103
    | .scrambledDirectionVectors64Joekuo6 => 104

end HipRand
