import HipRand.CppEngine
import HipRand.PyLifetime

/-!
# Which errors the calls of the package raise

`check_hiprand` and `HipRandError` of `hiprand.py`. A call of the package that issues
hipRAND calls checks the status of each at once, so that it stops at the first one that
does not succeed and raises `HipRandError` with its status; it raises `HipRandError` for
no other reason.

Results:
1. `Reports.bind`, `Reports.call`, `Reports.checkedThen`: the rules for programs.
2. `reports_packageCall`: every call of the package reports its first failure, and so does
   every finalizer.
3. `HipRandError.str_value`, `HipRandError.str_eq_what`: the text of an error names the
   status, and is otherwise that of the C++ wrapper.
-/

namespace HipRand.Py

open Interaction

/-! ## What is reported -/

/-- The status of a call of the hipRAND library. -/
def hiprandStatus? : Event pySig → Option Int
  | ⟨.createGenerator _ _, ans⟩ => some ans.1
  | ⟨.destroyGenerator _, status⟩ | ⟨.set _ _, status⟩ | ⟨.generate _ _ _ _ _, status⟩ =>
    some status
  | ⟨.getVersion, ans⟩ => some ans.1
  | _ => none

def Succeeded (ev : Event pySig) : Prop :=
  ∀ status, hiprandStatus? ev = some status → status = HIPRAND_STATUS_SUCCESS

def PyError.IsHipRandError : PyError → Prop
  | hipRandError _ => True
  | _ => False

/-- What Python and NumPy raise by themselves is no `HipRandError`. -/
def Plain : Event pySig → Prop
  | ⟨.hiprandAttr _, found⟩ | ⟨.hipAttr _, found⟩ => ∀ e, found = .error e → ¬ e.IsHipRandError
  | ⟨.npEmpty _ _, created⟩ => ∀ e, created = .error e → ¬ e.IsHipRandError
  | _ => True

/-- The calls `t` ended with `r`, which reports the first of them that failed. -/
inductive FirstFailure {α : Type} : List (Event pySig) → Except PyError α → Prop
  | none {t : List (Event pySig)} {r : Except PyError α} :
      (∀ ev ∈ t, Succeeded ev) → (∀ e, r = .error e → ¬ e.IsHipRandError) → FirstFailure t r
  | last {t : List (Event pySig)} {ev : Event pySig} {status : Int} :
      (∀ ev' ∈ t, Succeeded ev') → hiprandStatus? ev = some status →
      status ≠ HIPRAND_STATUS_SUCCESS →
      FirstFailure (t ++ [ev]) (.error (.hipRandError status))

def Reports {α : Type} (p : PyProg α) : Prop :=
  ∀ t r, Traces p t r → (∀ ev ∈ t, Plain ev) → FirstFailure t r

/-! ## Rules -/

section Rules

variable {α β : Type}

theorem FirstFailure.append {t t' : List (Event pySig)} {r : Except PyError β}
    (ht : ∀ ev ∈ t, Succeeded ev) (h : FirstFailure t' r) : FirstFailure (t ++ t') r := by
  cases h with
  | none hall hr =>
    exact .none (fun ev hev => (List.mem_append.mp hev).elim (ht ev) (hall ev)) hr
  | last hall hstatus hne =>
    rw [← List.append_assoc]
    exact .last (fun ev hev => (List.mem_append.mp hev).elim (ht ev) (hall ev)) hstatus hne

namespace Reports

theorem ret (a : α) : Reports (.ret a) := by
  intro t r ht _
  obtain ⟨rfl, rfl⟩ := traces_ret_iff.mp ht
  exact .none (List.forall_mem_nil _) nofun

theorem throw {e : PyError} (he : ¬ e.IsHipRandError) : Reports (.throw e : PyProg α) := by
  intro t r ht _
  obtain ⟨rfl, rfl⟩ := traces_throw_iff.mp ht
  refine .none (List.forall_mem_nil _) fun e' he' => ?_
  cases he'
  exact he

theorem bind {p : PyProg α} {f : α → PyProg β} (hp : Reports p) (hf : ∀ a, Reports (f a)) :
    Reports (p.bind f) := by
  intro t r ht hplain
  rcases traces_bind_iff.mp ht with ⟨e, rfl, h₁⟩ | ⟨t₁, t₂, a, rfl, h₁, h₂⟩
  · cases hp _ _ h₁ hplain with
    | none hall hr => exact .none hall fun e' he' => hr e' (by cases he'; rfl)
    | last hall hstatus hne => exact .last hall hstatus hne
  · obtain ⟨hplain₁, hplain₂⟩ := List.forall_mem_append.mp hplain
    cases hp _ _ h₁ hplain₁ with
    | none hall _ => exact (hf a _ _ h₂ hplain₂).append hall

/-- A call that is none of the hipRAND library. -/
theorem call {op : Op} {k : op.Ans → PyProg α} (hop : ∀ a, hiprandStatus? ⟨op, a⟩ = none)
    (hk : ∀ a, Plain ⟨op, a⟩ → Reports (k a)) : Reports (.call op k) := by
  intro t r ht hplain
  obtain ⟨a, t', rfl, ht'⟩ := traces_call_iff.mp ht
  obtain ⟨ha, hplain'⟩ := List.forall_mem_cons.mp hplain
  rw [← List.singleton_append]
  refine FirstFailure.append (fun ev hev => ?_) (hk a ha _ _ ht' hplain')
  rw [List.mem_singleton.mp hev]
  intro status hstatus
  rw [hop a] at hstatus
  cases hstatus

theorem perform {op : Op} (hop : ∀ a, hiprandStatus? ⟨op, a⟩ = none) : Reports (Py.perform op) :=
  call hop fun a _ => ret a

/-- A hipRAND call whose status decides how the program goes on. -/
theorem hiprandCall (op : Op) {k : op.Ans → PyProg α} {status : op.Ans → Int}
    (hop : ∀ a, hiprandStatus? ⟨op, a⟩ = some (status a))
    (hfail : ∀ a, status a ≠ HIPRAND_STATUS_SUCCESS → k a = .throw (.hipRandError (status a)))
    (hok : ∀ a, status a = HIPRAND_STATUS_SUCCESS → Reports (k a)) : Reports (.call op k) := by
  intro t r ht hplain
  obtain ⟨a, t', rfl, ht'⟩ := traces_call_iff.mp ht
  obtain ⟨_, hplain'⟩ := List.forall_mem_cons.mp hplain
  by_cases hst : status a = HIPRAND_STATUS_SUCCESS
  · rw [← List.singleton_append]
    refine FirstFailure.append (fun ev hev => ?_) (hok a hst _ _ ht' hplain')
    rw [List.mem_singleton.mp hev]
    intro status' hstatus
    rw [hop a] at hstatus
    rw [← Option.some.inj hstatus, hst]
  · rw [hfail a hst] at ht'
    obtain ⟨rfl, rfl⟩ := traces_throw_iff.mp ht'
    exact .last (t := []) (List.forall_mem_nil _) (hop a) hst

/-- A hipRAND call whose status is checked at once, and what follows. -/
theorem checkedThen (op : Op) {status : op.Ans → Int} {f : op.Ans → PyProg α}
    (hop : ∀ a, hiprandStatus? ⟨op, a⟩ = some (status a)) (hf : ∀ a, Reports (f a)) :
    Reports (.call op fun a => (checkHiprand (status a)).bind fun _ => f a) := by
  refine hiprandCall op hop (fun a hst => ?_) fun a hst => ?_
  · rw [checkHiprand, if_pos hst]
    rfl
  · rw [checkHiprand, if_neg (not_not.mpr hst)]
    exact hf a

theorem checked (op : Op) {status : op.Ans → Int}
    (hop : ∀ a, hiprandStatus? ⟨op, a⟩ = some (status a)) :
    Reports (.call op fun a => checkHiprand (status a)) := by
  refine hiprandCall op hop (fun a hst => if_pos hst) fun a hst => ?_
  rw [checkHiprand, if_neg (not_not.mpr hst)]
  exact ret ()

theorem ofExcept {x : Except PyError α} (hx : ∀ e, x = .error e → ¬ e.IsHipRandError) :
    Reports (Py.ofExcept x) := by
  cases x with
  | ok a => exact ret a
  | error e => exact throw (hx e rfl)

theorem checkHip (status : Int) : Reports (Py.checkHip status) := by
  unfold Py.checkHip
  split
  · exact throw id
  · exact ret ()

/-- A lookup, which Python may refuse. -/
theorem hiprandAttr (name : HiprandFn) : Reports (Py.hiprandAttr name) :=
  call (fun _ => rfl) fun _ hfound => ofExcept hfound

theorem hipAttr (name : HipFn) : Reports (Py.hipAttr name) :=
  call (fun _ => rfl) fun _ hfound => ofExcept hfound

end Reports

end Rules

/-! ## The functions of the package -/

theorem plain_passInt (value : Int) : ∀ e, passInt value = .error e → ¬ e.IsHipRandError := by
  intro e he
  unfold passInt at he
  split at he
  · cases he
  · cases he
    exact id

theorem plain_passStream (stream : StreamArg) :
    ∀ e, passStream stream = .error e → ¬ e.IsHipRandError := by
  cases stream with
  | none | cVoidP => exact fun _ he => nomatch he
  | int value => exact plain_passInt value

theorem plain_cSizeT (n : PyNum) : ∀ e, n.cSizeT = .error e → ¬ e.IsHipRandError := by
  intro e he
  cases n <;> cases he
  exact id

theorem plain_requestedSize (ary : Ary) (size : Option Int) :
    ∀ e, requestedSize ary size = .error e → ¬ e.IsHipRandError := by
  intro e he
  unfold requestedSize at he
  cases size with
  | none => cases he
  | some size =>
    dsimp only at he
    split at he
    · cases he
      exact id
    · cases he

section Functions

variable {α : Type}

theorem reports_callSetter {gen : Generator} {name : HiprandFn} {setting : Except PyError Setting}
    (hsetting : ∀ e, setting = .error e → ¬ e.IsHipRandError) :
    Reports (callSetter gen name setting) :=
  (Reports.hiprandAttr name).bind fun _ => (Reports.ofExcept hsetting).bind fun _ =>
    .checked (.set _ _) fun _ => rfl

/-- A setter calls the backend, and then writes the attribute. -/
theorem reports_assign {self : ObjId} {gen : Generator} {name : HiprandFn}
    {setting : Except PyError Setting} {write : AttrWrite}
    (hsetting : ∀ e, setting = .error e → ¬ e.IsHipRandError) :
    Reports (callSetter gen name setting >>= fun _ => perform (.setAttr self write)) :=
  (reports_callSetter hsetting).bind fun _ => .perform fun _ => rfl

theorem reports_setOffset (rng : RNG) (offset : Int) : Reports (rng.setOffset offset) :=
  reports_assign nofun

theorem reports_setSeed (rng : PRNG) (seed : Int) : Reports (rng.setSeed seed) :=
  reports_assign nofun

theorem reports_setNdim (rng : QRNG) (ndim : Int) : Reports (rng.setNdim ndim) :=
  reports_assign nofun

theorem reports_setStream (rng : RNG) (stream : StreamArg) : Reports (rng.setStream stream) := by
  refine reports_assign fun e he => ?_
  cases hstream : passStream stream with
  | ok arg =>
    rw [hstream] at he
    cases he
  | error e' =>
    rw [hstream] at he
    cases he
    exact plain_passStream stream e hstream

theorem reports_RNG_create (rngtype : Int) (isHost : Bool) :
    Reports (RNG.create rngtype isHost) := by
  unfold RNG.create
  refine (Reports.perform fun _ => rfl).bind fun self => (Reports.hiprandAttr _).bind fun _ => ?_
  refine (Reports.ofExcept (plain_passInt rngtype)).bind fun arg => ?_
  refine .checkedThen (.createGenerator isHost arg) (fun _ => rfl) fun answer => ?_
  exact (Reports.perform fun _ => rfl).bind fun _ => .ret _

theorem reports_RNG_init (rngtype : Int) (offset : Option Int) (stream : StreamArg)
    (isHost : Bool) : Reports (RNG.init rngtype offset stream isHost) := by
  refine (reports_RNG_create rngtype isHost).bind fun rng => ?_
  refine (Reports.perform fun _ => rfl).bind fun _ => ?_
  have hstream : Reports (do
      perform (.setAttr rng.id (.stream .none))
      if stream ≠ .none then rng.setStream stream else pure ()
      return rng) := by
    refine (Reports.perform fun _ => rfl).bind fun _ => ?_
    split
    · exact (reports_setStream rng stream).bind fun _ => .ret rng
    · exact .ret rng
  cases offset with
  | some offset => exact (reports_setOffset rng offset).bind fun _ => hstream
  | none => exact hstream

theorem reports_PRNG_init (rngtype : Int) (seed offset : Option Int) (stream : StreamArg)
    (isHost : Bool) : Reports (PRNG.init rngtype seed offset stream isHost) := by
  refine (reports_RNG_init rngtype offset stream isHost).bind fun rng => ?_
  refine (Reports.perform fun _ => rfl).bind fun _ => ?_
  cases seed with
  | some seed => exact (reports_setSeed _ seed).bind fun _ => .ret _
  | none => exact .ret _

theorem reports_QRNG_init (rngtype : Int) (ndim offset : Option Int) (stream : StreamArg)
    (isHost : Bool) : Reports (QRNG.init rngtype ndim offset stream isHost) := by
  refine (reports_RNG_init rngtype offset stream isHost).bind fun rng => ?_
  refine (Reports.perform fun _ => rfl).bind fun _ => ?_
  cases ndim with
  | some ndim => exact (reports_setNdim _ ndim).bind fun _ => .ret _
  | none => exact .ret _

theorem reports_RNG_finalizer (gen : Generator) : Reports (RNG.finalizer gen) :=
  (Reports.hiprandAttr _).bind fun _ => .checked (.destroyGenerator gen) fun _ => rfl

theorem reports_getVersion : Reports getVersion :=
  (Reports.hiprandAttr _).bind fun _ =>
    .checkedThen .getVersion (fun _ => rfl) fun _ => .ret _

theorem reports_memoryPointer_init (nbytes : PyNum) : Reports (MemoryPointer.init nbytes) := by
  refine (Reports.perform fun _ => rfl).bind fun self => (Reports.hipAttr _).bind fun _ => ?_
  refine (Reports.ofExcept (plain_cSizeT nbytes)).bind fun n => ?_
  refine (Reports.perform fun _ => rfl).bind fun answer => (Reports.checkHip _).bind fun _ => ?_
  exact (Reports.perform fun _ => rfl).bind fun _ => .ret _

theorem reports_memoryPointer_finalizer (ptr : DevPtr) : Reports (MemoryPointer.finalizer ptr) :=
  (Reports.hipAttr _).bind fun _ => (Reports.perform fun _ => rfl).bind fun _ => .checkHip _

theorem reports_deviceNDArray_init (shape : ShapeArg) (dtype : Dtype)
    (data : Option MemoryPointer) : Reports (DeviceNDArray.init shape dtype data) := by
  refine (Reports.perform fun _ => rfl).bind fun self => ?_
  cases data with
  | none => exact (reports_memoryPointer_init _).bind fun _ => .ret _
  | some data => exact .ret _

theorem reports_copyToHost (dary : DeviceNDArray) (ary : Option NdArray) :
    Reports (dary.copyToHost ary) := by
  have htarget : Reports (dary.copyTarget ary) := by
    unfold DeviceNDArray.copyTarget
    cases ary with
    | none => exact .call (fun _ => rfl) fun _ hcreated => .ofExcept hcreated
    | some ary =>
      dsimp only
      split
      · exact .throw id
      · split
        · exact .throw id
        · exact .ret ary
  refine htarget.bind fun ary => (Reports.hipAttr _).bind fun _ => ?_
  refine (Reports.ofExcept (plain_cSizeT _)).bind fun n => ?_
  exact (Reports.perform fun _ => rfl).bind fun _ => (Reports.checkHip _).bind fun _ => .ret _

theorem reports_streamSynchronize (stream : StreamArg) : Reports (streamSynchronize stream) :=
  (Reports.hipAttr _).bind fun _ => (Reports.ofExcept (plain_passStream stream)).bind fun _ =>
    (Reports.perform fun _ => rfl).bind fun _ => .checkHip _

theorem reports_deviceBuffer (ary : Ary) (size : PyNum) : Reports (deviceBuffer ary size) := by
  cases ary with
  | ndarray ary =>
    exact (reports_deviceNDArray_init (.int size.value) ary.dtype none).bind fun _ => .ret _
  | device dary => exact .ret _
  | other => exact .throw id

theorem reports_generateDevice (rng : RNG) (func : GenFunc) (ary : Ary) (size : Option Int)
    (args : List FloatArg) : Reports (rng.generateDevice func ary size args) := by
  refine (Reports.ofExcept (plain_requestedSize ary size)).bind fun n => ?_
  refine (reports_deviceBuffer ary n).bind fun (dary, copyTo) => ?_
  refine (Reports.ofExcept (plain_cSizeT n)).bind fun count => ?_
  refine .checkedThen (.generate _ _ _ _ _) (fun _ => rfl) fun _ => ?_
  cases copyTo with
  | some ary => exact (reports_copyToHost dary _).bind fun _ => .ret ()
  | none => exact .ret ()

theorem reports_generateHost (rng : RNG) (func : GenFunc) (ary : Ary) (size : Option Int)
    (args : List FloatArg) : Reports (rng.generateHost func ary size args) := by
  refine (Reports.ofExcept (plain_requestedSize ary size)).bind fun n => ?_
  cases ary with
  | device | other => exact .throw id
  | ndarray ary =>
    exact (Reports.ofExcept (plain_cSizeT n)).bind fun _ =>
      .checked (.generate _ _ _ _ _) fun _ => rfl

theorem reports_generating (m : GenMethod) (rng : RNG) (ary : Ary) (size : Option Int) :
    Reports (m.call rng ary size) := by
  cases hdispatch : m.dispatch ary.dtype with
  | none =>
    rw [GenMethod.call_of_unsupported hdispatch]
    exact .throw id
  | some chosen =>
    rw [GenMethod.call_of_dispatch hdispatch]
    refine (Reports.hiprandAttr _).bind fun _ => ?_
    unfold RNG.generateWith
    split
    · exact reports_generateHost rng _ ary size _
    · exact reports_generateDevice rng _ ary size _

end Functions

theorem reports_packageCall (c : PackageCall) : Reports c.prog := by
  have hreturn {α : Type} {p : PyProg α} (hp : Reports p) (f : α → List PyObj) :
      Reports (p >>= fun a => pure (f a)) := hp.bind fun a => .ret (f a)
  cases c with
  | client c =>
    cases c with
    | prng rngtype seed offset stream isHost =>
      exact hreturn (reports_PRNG_init rngtype seed offset stream isHost) _
    | qrng rngtype ndim offset stream isHost =>
      exact hreturn (reports_QRNG_init rngtype ndim offset stream isHost) _
    | memory nbytes => exact hreturn (reports_memoryPointer_init nbytes) _
    | array shape dtype data => exact hreturn (reports_deviceNDArray_init shape dtype data) _
    | setOffset rng offset => exact hreturn (reports_setOffset rng offset) _
    | setStream rng stream => exact hreturn (reports_setStream rng stream) _
    | setSeed rng seed => exact hreturn (reports_setSeed rng seed) _
    | setNdim rng ndim => exact hreturn (reports_setNdim rng ndim) _
    | generating m rng ary size => exact hreturn (reports_generating m rng ary size) _
    | copyToHost dary ary => exact hreturn (reports_copyToHost dary ary) _
    | streamSynchronize stream => exact hreturn (reports_streamSynchronize stream) _
    | getVersion => exact hreturn reports_getVersion _
  | finalizer r =>
    cases r with
    | generator gen => exact hreturn (reports_RNG_finalizer gen) _
    | memory ptr => exact hreturn (reports_memoryPointer_finalizer ptr) _

/-! ## Texts -/

/-- The dictionary `HIPRAND_STATUS` of `hiprand.py`. -/
def HIPRAND_STATUS : List (Int × String × String) :=
  [(0, "HIPRAND_STATUS_SUCCESS", "Success"),
    (100, "HIPRAND_STATUS_VERSION_MISMATCH",
      "Header file and linked library version do not match"),
    (101, "HIPRAND_STATUS_NOT_INITIALIZED",
      "Generator was not created using hiprandCreateGenerator"),
    (102, "HIPRAND_STATUS_ALLOCATION_FAILED", "Memory allocation failed during execution"),
    (103, "HIPRAND_STATUS_TYPE_ERROR", "Generator type is wrong"),
    (104, "HIPRAND_STATUS_OUT_OF_RANGE", "Argument out of range"),
    (105, "HIPRAND_STATUS_LENGTH_NOT_MULTIPLE",
      "Length requested is not a multiple of dimension"),
    (106, "HIPRAND_STATUS_DOUBLE_PRECISION_REQUIRED", "GPU does not have double precision"),
    (201, "HIPRAND_STATUS_LAUNCH_FAILURE", "Kernel launch failure"),
    (202, "HIPRAND_STATUS_PREEXISTING_FAILURE", "Preexisting failure on library entry"),
    (203, "HIPRAND_STATUS_INITIALIZATION_FAILED", "Initialization of HIP failed"),
    (204, "HIPRAND_STATUS_ARCH_MISMATCH",
      "Architecture mismatch, GPU does not support requested feature"),
    (999, "HIPRAND_STATUS_INTERNAL_ERROR", "Internal library error"),
    (1000, "HIPRAND_STATUS_NOT_IMPLEMENTED", "Feature not implemented yet")]

/-- `HipRandError.__str__` -/
def HipRandError.str (value : Int) : String :=
  match HIPRAND_STATUS.lookup value with
  | some (v, s) => s ++ " (" ++ v ++ ")"
  | none => "Unknown error" ++ " (" ++ toString value ++ ")"

/-- The dictionary has every status, under its name in C. -/
theorem HipRandError.str_value (status : HiprandStatus) :
    ∃ text, HIPRAND_STATUS.lookup (CEnum.value status) = some (status.enumerator, text) ∧
      HipRandError.str (CEnum.value status) = text ++ " (" ++ status.enumerator ++ ")" := by
  cases status <;> exact ⟨_, rfl, rfl⟩

/-- The package describes a status as the C++ wrapper does, and adds its name. -/
theorem HipRandError.str_eq_what (status : HiprandStatus) :
    HipRandError.str (CEnum.value status) =
      (Cpp.Error.mk status).what ++ " (" ++ status.enumerator ++ ")" := by
  cases status <;> rfl

end HipRand.Py
