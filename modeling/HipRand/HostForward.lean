import HipRand.HostContract
import HipRand.Lib.Handler

/-!
# What the entry points forward

Each function of rocRAND and cuRAND that the backend files call implements one host
API call: `hostCall` reads the call back from it. `Forwards` says that the entry points
of a backend are the inverse of that, as far as there is one.

Results:
1. `Forwards.of_host`: how to show it from the definitions of a backend.
2. `hosts_forward`: both backends forward. Of the calls with known enumerators, rocRAND
   implements all and cuRAND all but five.
-/

namespace HipRand

open Interaction

/-! ## Which call a backend function implements -/

theorem CEnum.value_of_ofInt? {α : Type} [CEnum α] {v : Int} {a : α} (h : ofInt? v = some a) :
    value a = v := by
  simpa using List.find?_some h

namespace Amd

def RocrandRngType.hiprand : RocrandRngType → HiprandRngType
  | pseudoDefault => .pseudoDefault
  | pseudoXorwow => .pseudoXorwow
  | pseudoMrg32k3a => .pseudoMrg32k3a
  | pseudoMtgp32 => .pseudoMtgp32
  | pseudoPhilox4_32_10 => .pseudoPhilox4_32_10
  | pseudoMt19937 => .pseudoMt19937
  | quasiDefault => .quasiDefault
  | quasiSobol32 => .quasiSobol32
  | quasiScrambledSobol32 => .quasiScrambledSobol32
  | quasiSobol64 => .quasiSobol64
  | quasiScrambledSobol64 => .quasiScrambledSobol64

def RocrandOrdering.hiprand : RocrandOrdering → HiprandOrdering
  | pseudoBest => .pseudoBest
  | pseudoDefault => .pseudoDefault
  | pseudoSeeded => .pseudoSeeded
  | pseudoLegacy => .pseudoLegacy
  | pseudoDynamic => .pseudoDynamic
  | quasiDefault => .quasiDefault

def RocrandDirectionVectorSet.hiprand : RocrandDirectionVectorSet → HiprandDirectionVectorSet
  | directionVectors32Joekuo6 => .directionVectors32Joekuo6
  | scrambledDirectionVectors32Joekuo6 => .scrambledDirectionVectors32Joekuo6
  | directionVectors64Joekuo6 => .directionVectors64Joekuo6
  | scrambledDirectionVectors64Joekuo6 => .scrambledDirectionVectors64Joekuo6

/-- The host API call that a rocRAND function implements. -/
def RocrandCall.hostCall : RocrandCall → HostCall
  | rocrandCreateGenerator g type => .hiprandCreateGenerator g (CEnum.value type.hiprand)
  | rocrandCreateGeneratorHostBlocking g type =>
    .hiprandCreateGeneratorHost g (CEnum.value type.hiprand)
  | rocrandDestroyGenerator g => .hiprandDestroyGenerator g
  | rocrandGenerate g out n => .hiprandGenerate g out n
  | rocrandGenerateChar g out n => .hiprandGenerateChar g out n
  | rocrandGenerateShort g out n => .hiprandGenerateShort g out n
  | rocrandGenerateLongLong g out n => .hiprandGenerateLongLong g out n
  | rocrandGenerateUniform g out n => .hiprandGenerateUniform g out n
  | rocrandGenerateUniformDouble g out n => .hiprandGenerateUniformDouble g out n
  | rocrandGenerateUniformHalf g out n => .hiprandGenerateUniformHalf g out n
  | rocrandGenerateNormal g out n mean stddev => .hiprandGenerateNormal g out n mean stddev
  | rocrandGenerateNormalDouble g out n mean stddev =>
    .hiprandGenerateNormalDouble g out n mean stddev
  | rocrandGenerateNormalHalf g out n mean stddev => .hiprandGenerateNormalHalf g out n mean stddev
  | rocrandGenerateLogNormal g out n mean stddev => .hiprandGenerateLogNormal g out n mean stddev
  | rocrandGenerateLogNormalDouble g out n mean stddev =>
    .hiprandGenerateLogNormalDouble g out n mean stddev
  | rocrandGenerateLogNormalHalf g out n mean stddev =>
    .hiprandGenerateLogNormalHalf g out n mean stddev
  | rocrandGeneratePoisson g out n lambda => .hiprandGeneratePoisson g out n lambda
  | rocrandInitializeGenerator g => .hiprandGenerateSeeds g
  | rocrandSetStream g stream => .hiprandSetStream g stream
  | rocrandSetSeed g seed => .hiprandSetPseudoRandomGeneratorSeed g seed
  | rocrandSetOffset g offset => .hiprandSetGeneratorOffset g offset
  | rocrandSetOrdering g order => .hiprandSetGeneratorOrdering g (CEnum.value order.hiprand)
  | rocrandSetQuasiRandomGeneratorDimensions g dimensions =>
    .hiprandSetQuasiRandomGeneratorDimensions g dimensions
  | rocrandGetVersion version => .hiprandGetVersion version
  | rocrandCreatePoissonDistribution lambda dist => .hiprandCreatePoissonDistribution lambda dist
  | rocrandDestroyDiscreteDistribution dist => .hiprandDestroyDistribution dist
  | rocrandGetDirectionVectors32 vectors set =>
    .hiprandGetDirectionVectors32 vectors (CEnum.value set.hiprand)
  | rocrandGetDirectionVectors64 vectors set =>
    .hiprandGetDirectionVectors64 vectors (CEnum.value set.hiprand)
  | rocrandGetScrambleConstants32 constants => .hiprandGetScrambleConstants32 constants
  | rocrandGetScrambleConstants64 constants => .hiprandGetScrambleConstants64 constants

theorem host_hostCall (c : RocrandCall) : host c.hostCall = forward toHiprandStatus c := by
  cases c with
  | rocrandCreateGenerator g type | rocrandCreateGeneratorHostBlocking g type => cases type <;> rfl
  | rocrandSetOrdering g order => cases order <;> rfl
  | rocrandGetDirectionVectors32 v set | rocrandGetDirectionVectors64 v set => cases set <;> rfl
  | _ => rfl

theorem RocrandRngType.exists_hiprand (type : HiprandRngType) :
    type = .test ∨ ∃ type' : RocrandRngType, type'.hiprand = type := by
  cases type with
  | test => exact .inl rfl
  | pseudoDefault => exact .inr ⟨.pseudoDefault, rfl⟩
  | pseudoXorwow => exact .inr ⟨.pseudoXorwow, rfl⟩
  | pseudoMrg32k3a => exact .inr ⟨.pseudoMrg32k3a, rfl⟩
  | pseudoMtgp32 => exact .inr ⟨.pseudoMtgp32, rfl⟩
  | pseudoMt19937 => exact .inr ⟨.pseudoMt19937, rfl⟩
  | pseudoPhilox4_32_10 => exact .inr ⟨.pseudoPhilox4_32_10, rfl⟩
  | quasiDefault => exact .inr ⟨.quasiDefault, rfl⟩
  | quasiSobol32 => exact .inr ⟨.quasiSobol32, rfl⟩
  | quasiScrambledSobol32 => exact .inr ⟨.quasiScrambledSobol32, rfl⟩
  | quasiSobol64 => exact .inr ⟨.quasiSobol64, rfl⟩
  | quasiScrambledSobol64 => exact .inr ⟨.quasiScrambledSobol64, rfl⟩

theorem RocrandOrdering.exists_hiprand (order : HiprandOrdering) :
    ∃ order' : RocrandOrdering, order'.hiprand = order := by
  cases order with
  | pseudoBest => exact ⟨.pseudoBest, rfl⟩
  | pseudoDefault => exact ⟨.pseudoDefault, rfl⟩
  | pseudoSeeded => exact ⟨.pseudoSeeded, rfl⟩
  | pseudoLegacy => exact ⟨.pseudoLegacy, rfl⟩
  | pseudoDynamic => exact ⟨.pseudoDynamic, rfl⟩
  | quasiDefault => exact ⟨.quasiDefault, rfl⟩

theorem RocrandDirectionVectorSet.exists_hiprand (set : HiprandDirectionVectorSet) :
    ∃ set' : RocrandDirectionVectorSet, set'.hiprand = set := by
  cases set with
  | directionVectors32Joekuo6 => exact ⟨.directionVectors32Joekuo6, rfl⟩
  | scrambledDirectionVectors32Joekuo6 => exact ⟨.scrambledDirectionVectors32Joekuo6, rfl⟩
  | directionVectors64Joekuo6 => exact ⟨.directionVectors64Joekuo6, rfl⟩
  | scrambledDirectionVectors64Joekuo6 => exact ⟨.scrambledDirectionVectors64Joekuo6, rfl⟩

theorem toRocrandRngType_ends (v : Int) :
    (∃ type : RocrandRngType, CEnum.value type.hiprand = v) ∨
      ¬ (CEnum.Listed HiprandRngType v ∧ v ≠ CEnum.value HiprandRngType.test) ∧
        toRocrandRngType v = .throw .typeError := by
  cases h : CEnum.ofInt? (α := HiprandRngType) v with
  | none =>
    exact .inr ⟨fun hl => CEnum.ofInt?_eq_none_iff.mp h hl.1, by simp [toRocrandRngType, h]⟩
  | some type =>
    have hv := CEnum.value_of_ofInt? h
    rcases RocrandRngType.exists_hiprand type with rfl | ⟨type', rfl⟩
    · exact .inr ⟨fun hl => hl.2 hv.symm, by simp [toRocrandRngType, h]⟩
    · exact .inl ⟨type', hv⟩

theorem toRocrandOrdering_ends (v : Int) :
    (∃ order : RocrandOrdering, CEnum.value order.hiprand = v) ∨
      ¬ CEnum.Listed HiprandOrdering v ∧ toRocrandOrdering v = .throw .typeError := by
  cases h : CEnum.ofInt? (α := HiprandOrdering) v with
  | none => exact .inr ⟨CEnum.ofInt?_eq_none_iff.mp h, by simp [toRocrandOrdering, h]⟩
  | some order =>
    obtain ⟨order', rfl⟩ := RocrandOrdering.exists_hiprand order
    exact .inl ⟨order', CEnum.value_of_ofInt? h⟩

theorem toRocrandDirectionVectorSetType_ends (v : Int) :
    (∃ set : RocrandDirectionVectorSet, CEnum.value set.hiprand = v) ∨
      ¬ CEnum.Listed HiprandDirectionVectorSet v ∧
        toRocrandDirectionVectorSetType v = .throw .typeError := by
  cases h : CEnum.ofInt? (α := HiprandDirectionVectorSet) v with
  | none =>
    exact .inr ⟨CEnum.ofInt?_eq_none_iff.mp h, by simp [toRocrandDirectionVectorSetType, h]⟩
  | some set =>
    obtain ⟨set', rfl⟩ := RocrandDirectionVectorSet.exists_hiprand set
    exact .inl ⟨set', CEnum.value_of_ofInt? h⟩

end Amd

namespace Nvidia

def CurandRngType.hiprand : CurandRngType → HiprandRngType
  | pseudoDefault => .pseudoDefault
  | pseudoXorwow => .pseudoXorwow
  | pseudoMrg32k3a => .pseudoMrg32k3a
  | pseudoMtgp32 => .pseudoMtgp32
  | pseudoPhilox4_32_10 => .pseudoPhilox4_32_10
  | pseudoMt19937 => .pseudoMt19937
  | quasiDefault => .quasiDefault
  | quasiSobol32 => .quasiSobol32
  | quasiScrambledSobol32 => .quasiScrambledSobol32
  | quasiSobol64 => .quasiSobol64
  | quasiScrambledSobol64 => .quasiScrambledSobol64

def CurandOrdering.hiprand : CurandOrdering → HiprandOrdering
  | pseudoBest => .pseudoBest
  | pseudoDefault => .pseudoDefault
  | pseudoSeeded => .pseudoSeeded
  | pseudoLegacy => .pseudoLegacy
  | pseudoDynamic => .pseudoDynamic
  | quasiDefault => .quasiDefault

def CurandDirectionVectorSet.hiprand : CurandDirectionVectorSet → HiprandDirectionVectorSet
  | directionVectors32Joekuo6 => .directionVectors32Joekuo6
  | scrambledDirectionVectors32Joekuo6 => .scrambledDirectionVectors32Joekuo6
  | directionVectors64Joekuo6 => .directionVectors64Joekuo6
  | scrambledDirectionVectors64Joekuo6 => .scrambledDirectionVectors64Joekuo6

/-- The host API call that a cuRAND function implements. -/
def CurandCall.hostCall : CurandCall → HostCall
  | curandCreateGenerator g type => .hiprandCreateGenerator g (CEnum.value type.hiprand)
  | curandCreateGeneratorHost g type =>
    .hiprandCreateGeneratorHost g (CEnum.value type.hiprand)
  | curandDestroyGenerator g => .hiprandDestroyGenerator g
  | curandGenerate g out n => .hiprandGenerate g out n
  | curandGenerateLongLong g out n => .hiprandGenerateLongLong g out n
  | curandGenerateUniform g out n => .hiprandGenerateUniform g out n
  | curandGenerateUniformDouble g out n => .hiprandGenerateUniformDouble g out n
  | curandGenerateNormal g out n mean stddev => .hiprandGenerateNormal g out n mean stddev
  | curandGenerateNormalDouble g out n mean stddev =>
    .hiprandGenerateNormalDouble g out n mean stddev
  | curandGenerateLogNormal g out n mean stddev => .hiprandGenerateLogNormal g out n mean stddev
  | curandGenerateLogNormalDouble g out n mean stddev =>
    .hiprandGenerateLogNormalDouble g out n mean stddev
  | curandGeneratePoisson g out n lambda => .hiprandGeneratePoisson g out n lambda
  | curandGenerateSeeds g => .hiprandGenerateSeeds g
  | curandSetStream g stream => .hiprandSetStream g stream
  | curandSetPseudoRandomGeneratorSeed g seed => .hiprandSetPseudoRandomGeneratorSeed g seed
  | curandSetGeneratorOffset g offset => .hiprandSetGeneratorOffset g offset
  | curandSetGeneratorOrdering g order => .hiprandSetGeneratorOrdering g (CEnum.value order.hiprand)
  | curandSetQuasiRandomGeneratorDimensions g dimensions =>
    .hiprandSetQuasiRandomGeneratorDimensions g dimensions
  | curandGetVersion version => .hiprandGetVersion version
  | curandCreatePoissonDistribution lambda dist => .hiprandCreatePoissonDistribution lambda dist
  | curandDestroyDistribution dist => .hiprandDestroyDistribution dist
  | curandGetDirectionVectors32 vectors set =>
    .hiprandGetDirectionVectors32 vectors (CEnum.value set.hiprand)
  | curandGetDirectionVectors64 vectors set =>
    .hiprandGetDirectionVectors64 vectors (CEnum.value set.hiprand)
  | curandGetScrambleConstants32 constants => .hiprandGetScrambleConstants32 constants
  | curandGetScrambleConstants64 constants => .hiprandGetScrambleConstants64 constants

theorem host_hostCall (c : CurandCall) : host c.hostCall = forward toHiprandStatus c := by
  cases c with
  | curandCreateGenerator g type | curandCreateGeneratorHost g type => cases type <;> rfl
  | curandSetGeneratorOrdering g order => cases order <;> rfl
  | curandGetDirectionVectors32 v set | curandGetDirectionVectors64 v set => cases set <;> rfl
  | _ => rfl

theorem CurandRngType.exists_hiprand (type : HiprandRngType) :
    type = .test ∨ ∃ type' : CurandRngType, type'.hiprand = type := by
  cases type with
  | test => exact .inl rfl
  | pseudoDefault => exact .inr ⟨.pseudoDefault, rfl⟩
  | pseudoXorwow => exact .inr ⟨.pseudoXorwow, rfl⟩
  | pseudoMrg32k3a => exact .inr ⟨.pseudoMrg32k3a, rfl⟩
  | pseudoMtgp32 => exact .inr ⟨.pseudoMtgp32, rfl⟩
  | pseudoMt19937 => exact .inr ⟨.pseudoMt19937, rfl⟩
  | pseudoPhilox4_32_10 => exact .inr ⟨.pseudoPhilox4_32_10, rfl⟩
  | quasiDefault => exact .inr ⟨.quasiDefault, rfl⟩
  | quasiSobol32 => exact .inr ⟨.quasiSobol32, rfl⟩
  | quasiScrambledSobol32 => exact .inr ⟨.quasiScrambledSobol32, rfl⟩
  | quasiSobol64 => exact .inr ⟨.quasiSobol64, rfl⟩
  | quasiScrambledSobol64 => exact .inr ⟨.quasiScrambledSobol64, rfl⟩

theorem CurandOrdering.exists_hiprand (order : HiprandOrdering) :
    ∃ order' : CurandOrdering, order'.hiprand = order := by
  cases order with
  | pseudoBest => exact ⟨.pseudoBest, rfl⟩
  | pseudoDefault => exact ⟨.pseudoDefault, rfl⟩
  | pseudoSeeded => exact ⟨.pseudoSeeded, rfl⟩
  | pseudoLegacy => exact ⟨.pseudoLegacy, rfl⟩
  | pseudoDynamic => exact ⟨.pseudoDynamic, rfl⟩
  | quasiDefault => exact ⟨.quasiDefault, rfl⟩

theorem CurandDirectionVectorSet.exists_hiprand (set : HiprandDirectionVectorSet) :
    ∃ set' : CurandDirectionVectorSet, set'.hiprand = set := by
  cases set with
  | directionVectors32Joekuo6 => exact ⟨.directionVectors32Joekuo6, rfl⟩
  | scrambledDirectionVectors32Joekuo6 => exact ⟨.scrambledDirectionVectors32Joekuo6, rfl⟩
  | directionVectors64Joekuo6 => exact ⟨.directionVectors64Joekuo6, rfl⟩
  | scrambledDirectionVectors64Joekuo6 => exact ⟨.scrambledDirectionVectors64Joekuo6, rfl⟩

theorem toCurandRngType_ends (v : Int) :
    (∃ type : CurandRngType, CEnum.value type.hiprand = v) ∨
      ¬ (CEnum.Listed HiprandRngType v ∧ v ≠ CEnum.value HiprandRngType.test) ∧
        toCurandRngType v = .throw .typeError := by
  cases h : CEnum.ofInt? (α := HiprandRngType) v with
  | none =>
    exact .inr ⟨fun hl => CEnum.ofInt?_eq_none_iff.mp h hl.1, by simp [toCurandRngType, h]⟩
  | some type =>
    have hv := CEnum.value_of_ofInt? h
    rcases CurandRngType.exists_hiprand type with rfl | ⟨type', rfl⟩
    · exact .inr ⟨fun hl => hl.2 hv.symm, by simp [toCurandRngType, h]⟩
    · exact .inl ⟨type', hv⟩

theorem toCurandOrdering_ends (v : Int) :
    (∃ order : CurandOrdering, CEnum.value order.hiprand = v) ∨
      ¬ CEnum.Listed HiprandOrdering v ∧ toCurandOrdering v = .throw .typeError := by
  cases h : CEnum.ofInt? (α := HiprandOrdering) v with
  | none => exact .inr ⟨CEnum.ofInt?_eq_none_iff.mp h, by simp [toCurandOrdering, h]⟩
  | some order =>
    obtain ⟨order', rfl⟩ := CurandOrdering.exists_hiprand order
    exact .inl ⟨order', CEnum.value_of_ofInt? h⟩

theorem toCurandDirectionVectorSetType_ends (v : Int) :
    (∃ set : CurandDirectionVectorSet, CEnum.value set.hiprand = v) ∨
      ¬ CEnum.Listed HiprandDirectionVectorSet v ∧
        toCurandDirectionVectorSetType v = .throw .typeError := by
  cases h : CEnum.ofInt? (α := HiprandDirectionVectorSet) v with
  | none =>
    exact .inr ⟨CEnum.ofInt?_eq_none_iff.mp h, by simp [toCurandDirectionVectorSetType, h]⟩
  | some set =>
    obtain ⟨set', rfl⟩ := CurandDirectionVectorSet.exists_hiprand set
    exact .inl ⟨set', CEnum.value_of_ofInt? h⟩

end Nvidia

/-! ## What an entry point does -/

/-- What a call ends with that no backend function implements. -/
def HostCall.refusal : HostCall → Except HiprandStatus HiprandStatus
  | .hiprandGetDirectionVectors32 _ _ | .hiprandGetDirectionVectors64 _ _ => .error .typeError
  | _ => .ok .typeError

/-- On cuRAND the functions without a counterpart answer first. -/
def HostCall.refusalNvidia : HostCall → Except HiprandStatus HiprandStatus
  | .hiprandGenerateChar _ _ _ | .hiprandGenerateShort _ _ _ | .hiprandGenerateUniformHalf _ _ _
  | .hiprandGenerateNormalHalf _ _ _ _ _ | .hiprandGenerateLogNormalHalf _ _ _ _ _ =>
    .ok .notImplemented
  | call => call.refusal

/-- The functions without a counterpart in cuRAND. -/
def HostCall.RocrandOnly : HostCall → Prop
  | .hiprandGenerateChar _ _ _ | .hiprandGenerateShort _ _ _ | .hiprandGenerateUniformHalf _ _ _
  | .hiprandGenerateNormalHalf _ _ _ _ _ | .hiprandGenerateLogNormalHalf _ _ _ _ _ => True
  | _ => False

/-- The enumerators that the call hands on are listed, and not `HIPRAND_RNG_TEST`. -/
def HostCall.Translates : HostCall → Prop
  | .hiprandCreateGenerator _ rngType | .hiprandCreateGeneratorHost _ rngType =>
    CEnum.Listed HiprandRngType rngType ∧ rngType ≠ CEnum.value HiprandRngType.test
  | call => call.EnumsListed

/-- The entry points `host` issue the function that implements the call and translate its
status, if there is one, and else do as `refusal` says. -/
structure Forwards {C St : Type} (host : HostCall → HostProg C St HiprandStatus)
    (toHiprandStatus : St → HiprandStatus) (hostCall : C → HostCall)
    (implemented : HostCall → Prop) (refusal : HostCall → Except HiprandStatus HiprandStatus) :
    Prop where
  injective : Function.Injective hostCall
  implemented_iff : ∀ call, implemented call ↔ ∃ c, hostCall c = call
  traces_iff : ∀ call t r, Traces (host call) t r ↔
    (∃ c status, hostCall c = call ∧ t = [⟨c, status⟩] ∧ r = .ok (toHiprandStatus status)) ∨
      ¬ implemented call ∧ t = [] ∧ r = refusal call

section Forwards

variable {C St : Type} {host : HostCall → HostProg C St HiprandStatus}
  {toHiprandStatus : St → HiprandStatus} {hostCall : C → HostCall} {implemented : HostCall → Prop}
  {refusal : HostCall → Except HiprandStatus HiprandStatus}

theorem traces_forward_iff {c : C} {t : List (Event (backendSig C St))}
    {r : Except HiprandStatus HiprandStatus} :
    Traces (forward toHiprandStatus c) t r ↔
      ∃ status, t = [⟨c, status⟩] ∧ r = .ok (toHiprandStatus status) := by
  constructor
  · intro ht
    obtain ⟨status, t', rfl, ht'⟩ := traces_call_iff.mp ht
    obtain ⟨rfl, rfl⟩ := traces_ret_iff.mp ht'
    exact ⟨status, rfl, rfl⟩
  · rintro ⟨status, rfl, rfl⟩
    exact .call .ret

/-- A refusal as a program. -/
def refuse : Except HiprandStatus HiprandStatus → HostProg C St HiprandStatus
  | .ok status => .ret status
  | .error status => .throw status

theorem traces_refuse_iff {x r : Except HiprandStatus HiprandStatus}
    {t : List (Event (backendSig C St))} : Traces (refuse x) t r ↔ t = [] ∧ r = x := by
  cases x with
  | ok status => exact traces_ret_iff
  | error status => exact traces_throw_iff

/-- It is enough to know each call that is implemented, and that all other ones refuse. -/
theorem Forwards.of_host (hforward : ∀ c, host (hostCall c) = forward toHiprandStatus c)
    (himplemented : ∀ c, implemented (hostCall c))
    (hcases : ∀ call, (∃ c, hostCall c = call) ∨
      ¬ implemented call ∧ host call = refuse (refusal call)) :
    Forwards host toHiprandStatus hostCall implemented refusal where
  injective c c' h := by
    have hcall : forward toHiprandStatus c = forward toHiprandStatus c' := by
      rw [← hforward, ← hforward, h]
    exact (Prog.call.inj hcall).1
  implemented_iff call := by
    constructor
    · intro hcall
      exact (hcases call).resolve_right fun h => h.1 hcall
    · rintro ⟨c, rfl⟩
      exact himplemented c
  traces_iff call t r := by
    rcases hcases call with ⟨c, rfl⟩ | ⟨hno, hrefuse⟩
    · rw [hforward, traces_forward_iff]
      constructor
      · rintro ⟨status, ht, hr⟩
        exact .inl ⟨c, status, rfl, ht, hr⟩
      · rintro (⟨c', status, hc, ht, hr⟩ | ⟨hno, _⟩)
        · have hcall : forward toHiprandStatus c' = forward toHiprandStatus c := by
            rw [← hforward, ← hforward, hc]
          obtain rfl := (Prog.call.inj hcall).1
          exact ⟨status, ht, hr⟩
        · exact absurd (himplemented c) hno
    · rw [hrefuse, traces_refuse_iff]
      constructor
      · intro h
        exact .inr ⟨hno, h⟩
      · rintro (⟨c, status, rfl, _⟩ | ⟨_, h⟩)
        · exact absurd (himplemented c) hno
        · exact h

end Forwards

/-! ## Both backends forward -/

namespace Amd

theorem hostCall_translates (c : RocrandCall) : c.hostCall.Translates := by
  cases c with
  | rocrandCreateGenerator g type | rocrandCreateGeneratorHostBlocking g type =>
    exact ⟨⟨type.hiprand, rfl⟩, by cases type <;> decide⟩
  | rocrandSetOrdering g order => exact ⟨order.hiprand, rfl⟩
  | rocrandGetDirectionVectors32 v set | rocrandGetDirectionVectors64 v set =>
    exact ⟨set.hiprand, rfl⟩
  | _ => trivial

theorem host_ends (call : HostCall) :
    (∃ c : RocrandCall, c.hostCall = call) ∨
      ¬ call.Translates ∧ host call = refuse call.refusal := by
  cases call with
  | hiprandCreateGenerator g rngType =>
    rcases toRocrandRngType_ends rngType with ⟨type, rfl⟩ | h
    · exact .inl ⟨.rocrandCreateGenerator g type, rfl⟩
    · refine .inr ⟨h.1, ?_⟩
      simp only [host, hiprandCreateGenerator, h.2]
      rfl
  | hiprandCreateGeneratorHost g rngType =>
    rcases toRocrandRngType_ends rngType with ⟨type, rfl⟩ | h
    · exact .inl ⟨.rocrandCreateGeneratorHostBlocking g type, rfl⟩
    · refine .inr ⟨h.1, ?_⟩
      simp only [host, hiprandCreateGeneratorHost, h.2]
      rfl
  | hiprandSetGeneratorOrdering g order =>
    rcases toRocrandOrdering_ends order with ⟨order', rfl⟩ | h
    · exact .inl ⟨.rocrandSetOrdering g order', rfl⟩
    · refine .inr ⟨h.1, ?_⟩
      simp only [host, hiprandSetGeneratorOrdering, h.2]
      rfl
  | hiprandGetDirectionVectors32 vectors set =>
    rcases toRocrandDirectionVectorSetType_ends set with ⟨set', rfl⟩ | h
    · exact .inl ⟨.rocrandGetDirectionVectors32 vectors set', rfl⟩
    · refine .inr ⟨h.1, ?_⟩
      simp only [host, hiprandGetDirectionVectors32, h.2]
      rfl
  | hiprandGetDirectionVectors64 vectors set =>
    rcases toRocrandDirectionVectorSetType_ends set with ⟨set', rfl⟩ | h
    · exact .inl ⟨.rocrandGetDirectionVectors64 vectors set', rfl⟩
    · refine .inr ⟨h.1, ?_⟩
      simp only [host, hiprandGetDirectionVectors64, h.2]
      rfl
  | hiprandDestroyGenerator g => exact .inl ⟨.rocrandDestroyGenerator g, rfl⟩
  | hiprandGenerate g out n => exact .inl ⟨.rocrandGenerate g out n, rfl⟩
  | hiprandGenerateChar g out n => exact .inl ⟨.rocrandGenerateChar g out n, rfl⟩
  | hiprandGenerateShort g out n => exact .inl ⟨.rocrandGenerateShort g out n, rfl⟩
  | hiprandGenerateLongLong g out n => exact .inl ⟨.rocrandGenerateLongLong g out n, rfl⟩
  | hiprandGenerateUniform g out n => exact .inl ⟨.rocrandGenerateUniform g out n, rfl⟩
  | hiprandGenerateUniformDouble g out n => exact .inl ⟨.rocrandGenerateUniformDouble g out n, rfl⟩
  | hiprandGenerateUniformHalf g out n => exact .inl ⟨.rocrandGenerateUniformHalf g out n, rfl⟩
  | hiprandGenerateNormal g out n m s => exact .inl ⟨.rocrandGenerateNormal g out n m s, rfl⟩
  | hiprandGenerateNormalDouble g out n m s => exact .inl ⟨.rocrandGenerateNormalDouble g out n m s, rfl⟩
  | hiprandGenerateNormalHalf g out n m s => exact .inl ⟨.rocrandGenerateNormalHalf g out n m s, rfl⟩
  | hiprandGenerateLogNormal g out n m s => exact .inl ⟨.rocrandGenerateLogNormal g out n m s, rfl⟩
  | hiprandGenerateLogNormalDouble g out n m s => exact .inl ⟨.rocrandGenerateLogNormalDouble g out n m s, rfl⟩
  | hiprandGenerateLogNormalHalf g out n m s => exact .inl ⟨.rocrandGenerateLogNormalHalf g out n m s, rfl⟩
  | hiprandGeneratePoisson g out n l => exact .inl ⟨.rocrandGeneratePoisson g out n l, rfl⟩
  | hiprandGenerateSeeds g => exact .inl ⟨.rocrandInitializeGenerator g, rfl⟩
  | hiprandSetStream g stream => exact .inl ⟨.rocrandSetStream g stream, rfl⟩
  | hiprandSetPseudoRandomGeneratorSeed g seed => exact .inl ⟨.rocrandSetSeed g seed, rfl⟩
  | hiprandSetGeneratorOffset g offset => exact .inl ⟨.rocrandSetOffset g offset, rfl⟩
  | hiprandSetQuasiRandomGeneratorDimensions g d => exact .inl ⟨.rocrandSetQuasiRandomGeneratorDimensions g d, rfl⟩
  | hiprandGetVersion version => exact .inl ⟨.rocrandGetVersion version, rfl⟩
  | hiprandCreatePoissonDistribution l dist => exact .inl ⟨.rocrandCreatePoissonDistribution l dist, rfl⟩
  | hiprandDestroyDistribution dist => exact .inl ⟨.rocrandDestroyDiscreteDistribution dist, rfl⟩
  | hiprandGetScrambleConstants32 constants => exact .inl ⟨.rocrandGetScrambleConstants32 constants, rfl⟩
  | hiprandGetScrambleConstants64 constants => exact .inl ⟨.rocrandGetScrambleConstants64 constants, rfl⟩

end Amd

namespace Nvidia

theorem hostCall_translates (c : CurandCall) :
    c.hostCall.Translates ∧ ¬ c.hostCall.RocrandOnly := by
  cases c with
  | curandCreateGenerator g type | curandCreateGeneratorHost g type =>
    exact ⟨⟨⟨type.hiprand, rfl⟩, by cases type <;> decide⟩, fun h => h⟩
  | curandSetGeneratorOrdering g order => exact ⟨⟨order.hiprand, rfl⟩, fun h => h⟩
  | curandGetDirectionVectors32 v set | curandGetDirectionVectors64 v set =>
    exact ⟨⟨set.hiprand, rfl⟩, fun h => h⟩
  | _ => exact ⟨trivial, fun h => h⟩

theorem host_ends (call : HostCall) :
    (∃ c : CurandCall, c.hostCall = call) ∨
      ¬ (call.Translates ∧ ¬ call.RocrandOnly) ∧ host call = refuse call.refusalNvidia := by
  cases call with
  | hiprandCreateGenerator g rngType =>
    rcases toCurandRngType_ends rngType with ⟨type, rfl⟩ | h
    · exact .inl ⟨.curandCreateGenerator g type, rfl⟩
    · refine .inr ⟨fun hi => h.1 hi.1, ?_⟩
      simp only [host, hiprandCreateGenerator, h.2]
      rfl
  | hiprandCreateGeneratorHost g rngType =>
    rcases toCurandRngType_ends rngType with ⟨type, rfl⟩ | h
    · exact .inl ⟨.curandCreateGeneratorHost g type, rfl⟩
    · refine .inr ⟨fun hi => h.1 hi.1, ?_⟩
      simp only [host, hiprandCreateGeneratorHost, h.2]
      rfl
  | hiprandSetGeneratorOrdering g order =>
    rcases toCurandOrdering_ends order with ⟨order', rfl⟩ | h
    · exact .inl ⟨.curandSetGeneratorOrdering g order', rfl⟩
    · refine .inr ⟨fun hi => h.1 hi.1, ?_⟩
      simp only [host, hiprandSetGeneratorOrdering, h.2]
      rfl
  | hiprandGetDirectionVectors32 vectors set =>
    rcases toCurandDirectionVectorSetType_ends set with ⟨set', rfl⟩ | h
    · exact .inl ⟨.curandGetDirectionVectors32 vectors set', rfl⟩
    · refine .inr ⟨fun hi => h.1 hi.1, ?_⟩
      simp only [host, hiprandGetDirectionVectors32, h.2]
      rfl
  | hiprandGetDirectionVectors64 vectors set =>
    rcases toCurandDirectionVectorSetType_ends set with ⟨set', rfl⟩ | h
    · exact .inl ⟨.curandGetDirectionVectors64 vectors set', rfl⟩
    · refine .inr ⟨fun hi => h.1 hi.1, ?_⟩
      simp only [host, hiprandGetDirectionVectors64, h.2]
      rfl
  | hiprandDestroyGenerator g => exact .inl ⟨.curandDestroyGenerator g, rfl⟩
  | hiprandGenerate g out n => exact .inl ⟨.curandGenerate g out n, rfl⟩
  | hiprandGenerateChar => exact .inr ⟨fun hi => hi.2 trivial, rfl⟩
  | hiprandGenerateShort => exact .inr ⟨fun hi => hi.2 trivial, rfl⟩
  | hiprandGenerateLongLong g out n => exact .inl ⟨.curandGenerateLongLong g out n, rfl⟩
  | hiprandGenerateUniform g out n => exact .inl ⟨.curandGenerateUniform g out n, rfl⟩
  | hiprandGenerateUniformDouble g out n => exact .inl ⟨.curandGenerateUniformDouble g out n, rfl⟩
  | hiprandGenerateUniformHalf => exact .inr ⟨fun hi => hi.2 trivial, rfl⟩
  | hiprandGenerateNormal g out n m s => exact .inl ⟨.curandGenerateNormal g out n m s, rfl⟩
  | hiprandGenerateNormalDouble g out n m s => exact .inl ⟨.curandGenerateNormalDouble g out n m s, rfl⟩
  | hiprandGenerateNormalHalf => exact .inr ⟨fun hi => hi.2 trivial, rfl⟩
  | hiprandGenerateLogNormal g out n m s => exact .inl ⟨.curandGenerateLogNormal g out n m s, rfl⟩
  | hiprandGenerateLogNormalDouble g out n m s => exact .inl ⟨.curandGenerateLogNormalDouble g out n m s, rfl⟩
  | hiprandGenerateLogNormalHalf => exact .inr ⟨fun hi => hi.2 trivial, rfl⟩
  | hiprandGeneratePoisson g out n l => exact .inl ⟨.curandGeneratePoisson g out n l, rfl⟩
  | hiprandGenerateSeeds g => exact .inl ⟨.curandGenerateSeeds g, rfl⟩
  | hiprandSetStream g stream => exact .inl ⟨.curandSetStream g stream, rfl⟩
  | hiprandSetPseudoRandomGeneratorSeed g seed => exact .inl ⟨.curandSetPseudoRandomGeneratorSeed g seed, rfl⟩
  | hiprandSetGeneratorOffset g offset => exact .inl ⟨.curandSetGeneratorOffset g offset, rfl⟩
  | hiprandSetQuasiRandomGeneratorDimensions g d => exact .inl ⟨.curandSetQuasiRandomGeneratorDimensions g d, rfl⟩
  | hiprandGetVersion version => exact .inl ⟨.curandGetVersion version, rfl⟩
  | hiprandCreatePoissonDistribution l dist => exact .inl ⟨.curandCreatePoissonDistribution l dist, rfl⟩
  | hiprandDestroyDistribution dist => exact .inl ⟨.curandDestroyDistribution dist, rfl⟩
  | hiprandGetScrambleConstants32 constants => exact .inl ⟨.curandGetScrambleConstants32 constants, rfl⟩
  | hiprandGetScrambleConstants64 constants => exact .inl ⟨.curandGetScrambleConstants64 constants, rfl⟩

end Nvidia

theorem Amd.forwards :
    Forwards Amd.host Amd.toHiprandStatus Amd.RocrandCall.hostCall HostCall.Translates
      HostCall.refusal :=
  .of_host Amd.host_hostCall Amd.hostCall_translates Amd.host_ends

theorem Nvidia.forwards :
    Forwards Nvidia.host Nvidia.toHiprandStatus Nvidia.CurandCall.hostCall
      (fun call => call.Translates ∧ ¬ call.RocrandOnly) HostCall.refusalNvidia :=
  .of_host Nvidia.host_hostCall Nvidia.hostCall_translates Nvidia.host_ends

/-- On both backends a call reaches the one function that implements it, with the
arguments that the client gave, and the client gets the translation of its status; a
call that no function implements reaches nothing. -/
theorem hosts_forward :
    Forwards Amd.host Amd.toHiprandStatus Amd.RocrandCall.hostCall HostCall.Translates
      HostCall.refusal ∧
    Forwards Nvidia.host Nvidia.toHiprandStatus Nvidia.CurandCall.hostCall
      (fun call => call.Translates ∧ ¬ call.RocrandOnly) HostCall.refusalNvidia :=
  ⟨Amd.forwards, Nvidia.forwards⟩

end HipRand
