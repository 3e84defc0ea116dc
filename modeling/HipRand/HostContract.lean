import HipRand.AmdHost
import HipRand.NvidiaHost

/-!
# Which host API calls meet the error contract

Every entry point of both backends has one of the four shapes of `HostApi`. The
two direction-vector functions are the only unguarded ones, so they are the only
ones that break the contract, and they break it for exactly the sets that the
header does not list.
-/

namespace HipRand

open Interaction

/-- The call does not hand an unlisted set to one of the two direction-vector
functions. -/
def HostCall.SetListed : HostCall → Prop
  | .hiprandGetDirectionVectors32 _ set
  | .hiprandGetDirectionVectors64 _ set => CEnum.Listed HiprandDirectionVectorSet set
  | _ => True

theorem amd_contract_iff (answer : Amd.RocrandCall → Amd.RocrandStatus) (call : HostCall) :
    HostContract .success call.EnumsListed (observe answer (Amd.host call)) ↔ call.SetListed := by
  have hs := Amd.toHiprandStatus_eq_success
  cases call with
  | hiprandCreateGenerator _ rngType | hiprandCreateGeneratorHost _ rngType =>
    exact iff_of_true (guarded_contract hs (Amd.toRocrandRngType_cases rngType)) trivial
  | hiprandSetGeneratorOrdering _ order =>
    exact iff_of_true (guarded_contract hs (Amd.toRocrandOrdering_cases order)) trivial
  | hiprandGetDirectionVectors32 _ set | hiprandGetDirectionVectors64 _ set =>
    exact unguarded_contract_iff hs (Amd.toRocrandDirectionVectorSetType_cases set)
  | _ => exact iff_of_true (forward_contract hs trivial) trivial

theorem nvidia_contract_iff (answer : Nvidia.CurandCall → Nvidia.CurandStatus) (call : HostCall) :
    HostContract .success call.EnumsListed (observe answer (Nvidia.host call)) ↔
      call.SetListed := by
  have hs := Nvidia.toHiprandStatus_eq_success
  cases call with
  | hiprandCreateGenerator _ rngType | hiprandCreateGeneratorHost _ rngType =>
    exact iff_of_true (guarded_contract hs (Nvidia.toCurandRngType_cases rngType)) trivial
  | hiprandSetGeneratorOrdering _ order =>
    exact iff_of_true (guarded_contract hs (Nvidia.toCurandOrdering_cases order)) trivial
  | hiprandGetDirectionVectors32 _ set | hiprandGetDirectionVectors64 _ set =>
    exact unguarded_contract_iff hs (Nvidia.toCurandDirectionVectorSetType_cases set)
  | hiprandGenerateChar | hiprandGenerateShort | hiprandGenerateUniformHalf
  | hiprandGenerateNormalHalf | hiprandGenerateLogNormalHalf =>
    exact iff_of_true (notImplemented_contract trivial) trivial
  | _ => exact iff_of_true (forward_contract hs trivial) trivial

/-- On either backend, and whatever the backend library answers, a host API call
meets the contract exactly when it does not pass an unlisted set to
`hiprandGetDirectionVectors32` or `hiprandGetDirectionVectors64`. -/
theorem hostContract_iff_setListed (call : HostCall) :
    (∀ answer : Amd.RocrandCall → Amd.RocrandStatus,
      HostContract .success call.EnumsListed (observe answer (Amd.host call)) ↔
        call.SetListed) ∧
    (∀ answer : Nvidia.CurandCall → Nvidia.CurandStatus,
      HostContract .success call.EnumsListed (observe answer (Nvidia.host call)) ↔
        call.SetListed) :=
  ⟨fun answer => amd_contract_iff answer call, fun answer => nvidia_contract_iff answer call⟩

/-- `hiprandGetDirectionVectors32(&vectors, 105)` on rocRAND: the thrown
`HIPRAND_STATUS_TYPE_ERROR` leaves the function, no status is returned. -/
theorem directionVectors_exception_escapes :
    CEnum.ofInt? (α := HiprandDirectionVectorSet) 105 = none ∧
    (observe (fun _ => Amd.RocrandStatus.success)
      (Amd.host (.hiprandGetDirectionVectors32 4096 105))).1 = .error .typeError ∧
    ¬ ∀ (call : HostCall) (answer : Amd.RocrandCall → Amd.RocrandStatus),
      HostContract .success call.EnumsListed (observe answer (Amd.host call)) := by
  refine ⟨by decide, rfl, fun h => ?_⟩
  obtain ⟨status, hret⟩ :=
    (h (.hiprandGetDirectionVectors32 4096 105) fun _ => .success).returns
  cases hret

end HipRand
