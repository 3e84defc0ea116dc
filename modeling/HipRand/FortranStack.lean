import HipRand.HostStack

/-!
# The Fortran interface above a backend

`library/src/fortran/hiprand_m.f90` binds twenty functions of the C API with the numbers
of the generator types and of the statuses. A Fortran integer is signed; the C function
finds the same bits. An argument without `value` is passed by its address.

Results:
1. `fortran_on_backends`: what a Fortran program asks is what the library of the backend
   gets, and each status is a number of the module.
2. `fortran_portable`: every Fortran program does the same on both backends.
-/

namespace HipRand.Fortran

open Interaction

/-! ## The module -/

/-- `integer(c_int)` -/
abbrev CInt := BitVec 32

/-- The functions of the interface. -/
inductive FortranCall
  | hiprandCreateGenerator (generator : Pointer) (rngType : CInt)
  | hiprandCreateGeneratorHost (generator : Pointer) (rngType : CInt)
  | hiprandDestroyGenerator (generator : CSize)
  | hiprandGenerate (generator : CSize) (outputData : Pointer) (n : CSize)
  | hiprandGenerateLongLong (generator : CSize) (outputData : Pointer) (n : CSize)
  | hiprandGenerateUniform (generator : CSize) (outputData : Pointer) (n : CSize)
  | hiprandGenerateUniformDouble (generator : CSize) (outputData : Pointer) (n : CSize)
  | hiprandGenerateNormal (generator : CSize) (outputData : Pointer) (n : CSize)
      (mean stddev : CFloat)
  | hiprandGenerateNormalDouble (generator : CSize) (outputData : Pointer) (n : CSize)
      (mean stddev : CDouble)
  | hiprandGenerateLogNormal (generator : CSize) (outputData : Pointer) (n : CSize)
      (mean stddev : CFloat)
  | hiprandGenerateLogNormalDouble (generator : CSize) (outputData : Pointer) (n : CSize)
      (mean stddev : CDouble)
  | hiprandGeneratePoisson (generator : CSize) (outputData : Pointer) (n : CSize)
      (lambda : CDouble)
  | hiprandGenerateSeeds (generator : CSize)
  | hiprandSetStream (generator : CSize) (stream : CSize)
  | hiprandSetPseudoRandomGeneratorSeed (generator : CSize) (seed : BitVec 64)
  | hiprandSetGeneratorOffset (generator : CSize) (offset : BitVec 64)
  | hiprandSetQuasiRandomGeneratorDimensions (generator : CSize) (dimensions : CInt)
  | hiprandGetVersion (version : Pointer)
  | hiprandCreatePoissonDistribution (lambda : CDouble) (discreteDistribution : Pointer)
  | hiprandDestroyDistribution (discreteDistribution : CSize)
  deriving DecidableEq

/-- The C function that `bind(C)` names, with the arguments as it finds them. -/
def FortranCall.hostCall : FortranCall → HostCall
  | hiprandCreateGenerator generator rngType => .hiprandCreateGenerator generator rngType.toInt
  | hiprandCreateGeneratorHost generator rngType =>
    .hiprandCreateGeneratorHost generator rngType.toInt
  | hiprandDestroyGenerator generator => .hiprandDestroyGenerator generator
  | hiprandGenerate generator outputData n => .hiprandGenerate generator outputData n
  | hiprandGenerateLongLong generator outputData n =>
    .hiprandGenerateLongLong generator outputData n
  | hiprandGenerateUniform generator outputData n => .hiprandGenerateUniform generator outputData n
  | hiprandGenerateUniformDouble generator outputData n =>
    .hiprandGenerateUniformDouble generator outputData n
  | hiprandGenerateNormal generator outputData n mean stddev =>
    .hiprandGenerateNormal generator outputData n mean stddev
  | hiprandGenerateNormalDouble generator outputData n mean stddev =>
    .hiprandGenerateNormalDouble generator outputData n mean stddev
  | hiprandGenerateLogNormal generator outputData n mean stddev =>
    .hiprandGenerateLogNormal generator outputData n mean stddev
  | hiprandGenerateLogNormalDouble generator outputData n mean stddev =>
    .hiprandGenerateLogNormalDouble generator outputData n mean stddev
  | hiprandGeneratePoisson generator outputData n lambda =>
    .hiprandGeneratePoisson generator outputData n lambda
  | hiprandGenerateSeeds generator => .hiprandGenerateSeeds generator
  | hiprandSetStream generator stream => .hiprandSetStream generator stream
  | hiprandSetPseudoRandomGeneratorSeed generator seed =>
    .hiprandSetPseudoRandomGeneratorSeed generator seed
  | hiprandSetGeneratorOffset generator offset => .hiprandSetGeneratorOffset generator offset
  | hiprandSetQuasiRandomGeneratorDimensions generator dimensions =>
    .hiprandSetQuasiRandomGeneratorDimensions generator dimensions
  | hiprandGetVersion version => .hiprandGetVersion version
  | hiprandCreatePoissonDistribution lambda discreteDistribution =>
    .hiprandCreatePoissonDistribution lambda discreteDistribution
  | hiprandDestroyDistribution discreteDistribution =>
    .hiprandDestroyDistribution discreteDistribution

/-- The generator types of the module. -/
def rngTypes : List (String × CInt) :=
  [("HIPRAND_RNG_PSEUDO_DEFAULT", 400),
    ("HIPRAND_RNG_PSEUDO_XORWOW", 401),
    ("HIPRAND_RNG_PSEUDO_MRG32K3A", 402),
    ("HIPRAND_RNG_PSEUDO_MTGP32", 403),
    ("HIPRAND_RNG_PSEUDO_MT19937", 404),
    ("HIPRAND_RNG_PSEUDO_PHILOX4_32_10", 405),
    ("HIPRAND_RNG_QUASI_DEFAULT", 500),
    ("HIPRAND_RNG_QUASI_SOBOL32", 501),
    ("HIPRAND_RNG_QUASI_SCRAMBLED_SOBOL32", 502),
    ("HIPRAND_RNG_QUASI_SOBOL64", 503),
    ("HIPRAND_RNG_QUASI_SCRAMBLED_SOBOL64", 504)]

/-- The statuses of the module. -/
def statuses : List (String × Int) :=
  [("HIPRAND_STATUS_SUCCESS", 0),
    ("HIPRAND_STATUS_VERSION_MISMATCH", 100),
    ("HIPRAND_STATUS_NOT_INITIALIZED", 101),
    ("HIPRAND_STATUS_ALLOCATION_FAILED", 102),
    ("HIPRAND_STATUS_TYPE_ERROR", 103),
    ("HIPRAND_STATUS_OUT_OF_RANGE", 104),
    ("HIPRAND_STATUS_LENGTH_NOT_MULTIPLE", 105),
    ("HIPRAND_STATUS_DOUBLE_PRECISION_REQUIRED", 106),
    ("HIPRAND_STATUS_LAUNCH_FAILURE", 201),
    ("HIPRAND_STATUS_PREEXISTING_FAILURE", 202),
    ("HIPRAND_STATUS_INITIALIZATION_FAILED", 203),
    ("HIPRAND_STATUS_ARCH_MISMATCH", 204),
    ("HIPRAND_STATUS_INTERNAL_ERROR", 999),
    ("HIPRAND_STATUS_NOT_IMPLEMENTED", 1000)]

/-- Each number of the module is the one of C, under the same name. -/
theorem mem_statuses (status : HiprandStatus) :
    (status.enumerator, CEnum.value status) ∈ statuses := by
  cases status <;> decide

/-- The module has no function for 8-bit, 16-bit and half values, and none for direction
vectors. -/
theorem FortranCall.portable (call : FortranCall) :
    ¬ call.hostCall.RocrandOnly ∧ call.hostCall.SetListed := by
  cases call <;> exact ⟨id, trivial⟩

/-- A creation with a type of the module. -/
def FortranCall.UsesModule : FortranCall → Prop
  | hiprandCreateGenerator _ rngType | hiprandCreateGeneratorHost _ rngType =>
    ∃ name, (name, rngType) ∈ rngTypes
  | _ => True

theorem FortranCall.translates_of_usesModule {call : FortranCall} (h : call.UsesModule) :
    call.hostCall.Translates := by
  have htypes : ∀ x ∈ rngTypes, CEnum.Listed HiprandRngType x.2.toInt ∧
      x.2.toInt ≠ CEnum.value HiprandRngType.test := by decide
  cases call with
  | hiprandCreateGenerator | hiprandCreateGeneratorHost =>
    obtain ⟨name, hname⟩ := h
    exact htypes _ hname
  | _ => trivial

/-! ## Programs -/

/-- What a Fortran program calls, beside what `X` stands for. -/
abbrev fortranSig : Sig := ⟨FortranCall, fun _ => Int⟩

variable {ε α : Type} {X : Sig}

/-- A call as a C client makes it. -/
def FortranCall.onHost (call : FortranCall) : Prog hostSig ε Int := do
  let status : HiprandStatus ← Prog.perform (S := hostSig) call.hostCall
  return CEnum.value status

def onHost (p : Prog (fortranSig.sum X) ε α) : Prog (hostSig.sum X) ε α :=
  p.through (beside (fun call => FortranCall.onHost (ε := ε) call) X) id

/-- A call of the interface, with the number that it answered. -/
def fortranEvents : Event (fortranSig.sum X) → List (FortranCall × Int)
  | ⟨.inl call, status⟩ => [(call, status)]
  | ⟨.inr _, _⟩ => []

/-- The same as C sees it. -/
def asHost (x : FortranCall × Int) : HostCall × Int :=
  (x.1.hostCall, x.2)

def withNumber (x : HostCall × HiprandStatus) : HostCall × Int :=
  (x.1, CEnum.value x.2)

/-- A call of the interface is one call of the C API, and answers the number of its status. -/
theorem traces_onHost_call {call : FortranCall} {t : List (Event (hostSig.sum X))}
    {r : Except ε Int} (ht : Traces (FortranCall.onHost call).inl t r) :
    ∃ st : HiprandStatus, t = [⟨.inl call.hostCall, st⟩] ∧ r = .ok (CEnum.value st) := by
  obtain ⟨es, rfl, hes⟩ := traces_inl_iff.mp ht
  obtain ⟨st, t', rfl, ht'⟩ := traces_call_iff.mp hes
  obtain ⟨rfl, rfl⟩ := traces_ret_iff.mp ht'
  exact ⟨st, rfl, rfl⟩

theorem traces_onHost {p : Prog (fortranSig.sum X) ε α} {t : List (Event (hostSig.sum X))}
    {r : Except ε α} (ht : Traces (onHost p) t r) :
    ∃ es, Traces p es r ∧
      (t.flatMap Backend.clientEvent).map withNumber = (es.flatMap fortranEvents).map asHost := by
  rcases traces_through_iff.mp ht with ⟨es, r', him, ht', rfl⟩ | ⟨es, op, _, t₂, z, _, _, _, hz, _⟩
  · refine ⟨es, by cases r' <;> exact ht', ?_⟩
    rw [List.map_flatMap, List.map_flatMap]
    refine him.collect (P := fun _ => True) (fun op a u _ hu => ?_) fun _ _ => trivial
    cases op with
    | inl call =>
      obtain ⟨st, rfl, ha⟩ := traces_onHost_call hu
      rw [Except.ok.inj ha]
      rfl
    | inr op =>
      obtain ⟨a', rfl, _⟩ := traces_perform_iff.mp hu
      rfl
  · cases op with
    | inl call =>
      obtain ⟨st, _, ha⟩ := traces_onHost_call hz
      cases ha
    | inr op =>
      obtain ⟨a', _, ha⟩ := traces_perform_iff.mp hz
      cases ha

theorem issues_onHost (p : Prog (fortranSig.sum X) ε α) :
    Issues (OnHost fun call => ¬ call.RocrandOnly ∧ call.SetListed) (onHost p) := by
  refine (Issues.any p).through fun op _ => ?_
  cases op with
  | inl call => exact ⟨call.portable, fun _ => trivial⟩
  | inr op => exact ⟨trivial, fun _ => trivial⟩

open Classical in
/-- A Fortran program on a backend ends as a Fortran program can: no exception of the C API
leaves it. The library gets the calls of the program, in order and once each, and the
program gets their statuses, except those that the backend does not implement: these answer
`HIPRAND_STATUS_TYPE_ERROR`. A creation with a type of the module is none of them. Every
status is one of the module. -/
theorem fortran_on_backends (b : Backend) (p : Prog (fortranSig.sum X) ε α)
    {t : List (Event (b.sig X))} {r : Except (Fault ε) α} (ht : Traces (b.link (onHost p)) t r) :
    ∃ es r', Traces p es r' ∧ r = r'.mapError .thrown ∧
      (b.hostLog t).map withNumber =
        ((es.flatMap fortranEvents).map asHost).filter (fun x => b.implemented x.1) ∧
      ∀ x ∈ es.flatMap fortranEvents,
        (∃ name, (name, x.2) ∈ statuses) ∧
        (x.1.UsesModule → b.implemented x.1.hostCall) ∧
        (¬ b.implemented x.1.hostCall → x.2 = CEnum.value HiprandStatus.typeError) := by
  have hlisted : Issues (OnHost HostCall.SetListed) (onHost p) :=
    (issues_onHost p).mono fun op hop => by
      cases op with
      | inl call => exact hop.2
      | inr op => trivial
  obtain ⟨hostEs, r', him, ht', rfl⟩ := (b.traces_link_listed_iff hlisted).mp ht
  obtain ⟨es, hes, hlog⟩ := traces_onHost ht'
  refine ⟨es, r', hes, rfl, ?_, fun x hx => ?_⟩
  · rw [b.hostLog_eq_filter him, ← hlog, List.filter_map]
    rfl
  · -- the call and the status of C that `x` stands for
    have hmem : asHost x ∈ (hostEs.flatMap Backend.clientEvent).map withNumber :=
      hlog ▸ List.mem_map_of_mem hx
    obtain ⟨y, hy, hxy⟩ := List.mem_map.mp hmem
    have hcall : y.1 = x.1.hostCall := congrArg Prod.fst hxy
    have hstatus : CEnum.value y.2 = x.2 := congrArg Prod.snd hxy
    refine ⟨⟨y.2.enumerator, hstatus ▸ mem_statuses y.2⟩, fun hmodule => ?_, fun hno => ?_⟩
    · exact b.implemented_of_portable _ (FortranCall.translates_of_usesModule hmodule) x.1.portable.1
    · rw [← hcall] at hno
      have hrefusal := b.refused_of_implements him y hy hno
      rw [← hstatus, b.refusal_ok _ _ (hcall ▸ x.1.portable.1) hrefusal]

/-- A program that creates an XORWOW generator and does nothing else. -/
def createXorwow : Prog (fortranSig.sum ⟨Empty, Empty.elim⟩) Empty Int :=
  .perform (S := fortranSig.sum ⟨Empty, Empty.elim⟩) (.inl (.hiprandCreateGenerator 4096 401))

/-- On rocRAND it gets the number that the module has for success. -/
theorem fortran_on_backends_createXorwow :
    ∃ es, Traces createXorwow es (.ok 0) ∧
      ∀ x ∈ es.flatMap fortranEvents, ∃ name, (name, x.2) ∈ statuses := by
  have ht : Traces (Backend.rocrand.link (onHost createXorwow))
      [⟨.inl (.rocrandCreateGenerator 4096 .pseudoXorwow), Amd.RocrandStatus.success⟩]
      (.ok 0) := .call .ret
  obtain ⟨es, r', htrace, hr, _, hes⟩ := fortran_on_backends .rocrand createXorwow ht
  refine ⟨es, ?_, fun x hx => (hes x hx).1⟩
  cases r' with
  | ok a => exact Except.ok.inj hr ▸ htrace
  | error e => cases hr

/-- Every Fortran program does the same on both backends. -/
theorem fortran_portable (p : Prog (fortranSig.sum X) ε α) : Portable (onHost p) := by
  refine .of_issues ((issues_onHost p).mono fun op hop => ?_)
  cases op with
  | inl call => exact hop.1
  | inr op => trivial

end HipRand.Fortran
