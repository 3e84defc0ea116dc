import HipRand.Basic
import HipRand.Lib.Prog

/-!
# The host API and its error contract

`HostCall` has one constructor for each host API function that `hiprand.h`
declares, with the arguments the function takes. An enumeration argument is an
integer, because a caller may pass one that the header does not list.

Each backend file implements every function as a program that calls the backend
library and may throw a `hiprandStatus_t`. A program that still throws at its
end lets a C++ exception leave an `extern "C"` function.

`HostContract` is what a caller of the C API relies on. This file proves it once
for each of the three shapes of entry point that the backend files use:
* `forward_contract`: pass the arguments on and translate the status;
* `guarded_contract`: translate an enumeration first and catch what that throws;
* `notImplemented_contract`: answer without a backend call.
The fourth shape translates an enumeration and catches nothing;
`unguarded_contract_iff` says for which arguments it still meets the contract.
-/

namespace HipRand

open Interaction

/-- The host API functions of `hiprand.h`. -/
inductive HostCall
  | hiprandCreateGenerator (generator : Pointer) (rngType : Int)
  | hiprandCreateGeneratorHost (generator : Pointer) (rngType : Int)
  | hiprandDestroyGenerator (generator : Pointer)
  | hiprandGenerate (generator outputData : Pointer) (n : CSize)
  | hiprandGenerateChar (generator outputData : Pointer) (n : CSize)
  | hiprandGenerateShort (generator outputData : Pointer) (n : CSize)
  | hiprandGenerateLongLong (generator outputData : Pointer) (n : CSize)
  | hiprandGenerateUniform (generator outputData : Pointer) (n : CSize)
  | hiprandGenerateUniformDouble (generator outputData : Pointer) (n : CSize)
  | hiprandGenerateUniformHalf (generator outputData : Pointer) (n : CSize)
  | hiprandGenerateNormal (generator outputData : Pointer) (n : CSize) (mean stddev : CFloat)
  | hiprandGenerateNormalDouble (generator outputData : Pointer) (n : CSize) (mean stddev : CDouble)
  | hiprandGenerateNormalHalf (generator outputData : Pointer) (n : CSize) (mean stddev : CHalf)
  | hiprandGenerateLogNormal (generator outputData : Pointer) (n : CSize) (mean stddev : CFloat)
  | hiprandGenerateLogNormalDouble (generator outputData : Pointer) (n : CSize)
      (mean stddev : CDouble)
  | hiprandGenerateLogNormalHalf (generator outputData : Pointer) (n : CSize) (mean stddev : CHalf)
  | hiprandGeneratePoisson (generator outputData : Pointer) (n : CSize) (lambda : CDouble)
  | hiprandGenerateSeeds (generator : Pointer)
  | hiprandSetStream (generator stream : Pointer)
  | hiprandSetPseudoRandomGeneratorSeed (generator : Pointer) (seed : CULongLong)
  | hiprandSetGeneratorOffset (generator : Pointer) (offset : CULongLong)
  | hiprandSetGeneratorOrdering (generator : Pointer) (order : Int)
  | hiprandSetQuasiRandomGeneratorDimensions (generator : Pointer) (dimensions : CUInt)
  | hiprandGetVersion (version : Pointer)
  | hiprandCreatePoissonDistribution (lambda : CDouble) (discreteDistribution : Pointer)
  | hiprandDestroyDistribution (discreteDistribution : Pointer)
  | hiprandGetDirectionVectors32 (vectors : Pointer) (set : Int)
  | hiprandGetDirectionVectors64 (vectors : Pointer) (set : Int)
  | hiprandGetScrambleConstants32 (constants : Pointer)
  | hiprandGetScrambleConstants64 (constants : Pointer)

/-- Every enumeration argument of the call is a listed enumerator. -/
def HostCall.EnumsListed : HostCall → Prop
  | .hiprandCreateGenerator _ rngType
  | .hiprandCreateGeneratorHost _ rngType => CEnum.Listed HiprandRngType rngType
  | .hiprandSetGeneratorOrdering _ order => CEnum.Listed HiprandOrdering order
  | .hiprandGetDirectionVectors32 _ set
  | .hiprandGetDirectionVectors64 _ set => CEnum.Listed HiprandDirectionVectorSet set
  | _ => True

/-- The calls of a backend library `C`, each answered by a status `St`. -/
abbrev backendSig (C St : Type) : Sig := ⟨C, fun _ => St⟩

/-- A host API function over the backend library `C`: it may throw a
`hiprandStatus_t`. -/
abbrev HostProg (C St : Type) := Prog (backendSig C St) HiprandStatus

/-- What a caller relies on, where `success` is the backend's success status,
`listed` says that the enumeration arguments are listed, and `run` is the end of
the call with the backend calls it made. -/
structure HostContract {C St : Type} (success : St) (listed : Prop)
    (run : Except HiprandStatus HiprandStatus × List (Event (backendSig C St))) : Prop where
  returns : ∃ status, run.1 = .ok status
  success_iff : run.1 = .ok .success ↔ ∃ c, run.2 = [⟨c, success⟩]
  rejects : ¬ listed → (∃ status, run.1 = .ok status ∧ status ≠ .success) ∧ run.2 = []

variable {C St : Type}

/-- `catch(const hiprandStatus_t& error) { return error; }` -/
def catchStatus (p : HostProg C St HiprandStatus) : HostProg C St HiprandStatus :=
  try p catch error => pure error

/-- `return to_hiprand_status(call);` -/
def forward (toHiprandStatus : St → HiprandStatus) (c : C) : HostProg C St HiprandStatus := do
  let status ← Prog.perform (S := backendSig C St) c
  return toHiprandStatus status

section Shapes

variable {toHiprandStatus : St → HiprandStatus} {success : St}
  (hsuccess : ∀ status, toHiprandStatus status = .success ↔ status = success)
  {listed : Prop} {answer : C → St}

include hsuccess

theorem forward_contract {c : C} (hlisted : listed) :
    HostContract success listed (observe answer (forward toHiprandStatus c)) where
  returns := ⟨_, rfl⟩
  success_iff := by
    show Except.ok (toHiprandStatus (answer c)) = .ok .success ↔
      ∃ c', [(⟨c, answer c⟩ : Event (backendSig C St))] = [⟨c', success⟩]
    simp [hsuccess]
  rejects h := absurd hlisted h

/-- A translated enumeration whose throw is caught: the translation issues no
call, and throws an error status exactly where the contract asks for one. -/
theorem guarded_contract {E : Type} {translate : HostProg C St E} {c : E → C}
    (h : (listed ∧ ∃ e, translate = .ret e) ∨
      ∃ status, status ≠ .success ∧ translate = .throw status) :
    HostContract success listed
      (observe answer
        (catchStatus (translate >>= fun e => forward toHiprandStatus (c e)))) := by
  rcases h with ⟨hlisted, e, rfl⟩ | ⟨status, hne, rfl⟩
  · exact forward_contract hsuccess hlisted
  · refine ⟨⟨status, rfl⟩, ?_, fun _ => ⟨⟨status, rfl, hne⟩, rfl⟩⟩
    show Except.ok status = .ok .success ↔
      ∃ c', ([] : List (Event (backendSig C St))) = [⟨c', success⟩]
    simp [hne]

omit hsuccess in
theorem notImplemented_contract (hlisted : listed) :
    HostContract success listed
      (observe answer (pure .notImplemented : HostProg C St HiprandStatus)) where
  returns := ⟨_, rfl⟩
  success_iff := by simp [observe]
  rejects h := absurd hlisted h

/-- Without the catch the contract holds exactly for the listed enumerators:
for any other one the exception leaves the function. -/
theorem unguarded_contract_iff {E : Type} {translate : HostProg C St E} {c : E → C}
    (h : (listed ∧ ∃ e, translate = .ret e) ∨
      ¬ listed ∧ ∃ status, translate = .throw status) :
    HostContract success listed
      (observe answer (translate >>= fun e => forward toHiprandStatus (c e))) ↔ listed := by
  rcases h with ⟨hlisted, e, rfl⟩ | ⟨hlisted, status, rfl⟩
  · exact ⟨fun _ => hlisted, forward_contract hsuccess⟩
  · refine ⟨fun hc => ?_, fun hl => absurd hl hlisted⟩
    obtain ⟨status', hret⟩ := hc.returns
    cases hret

end Shapes

end HipRand
