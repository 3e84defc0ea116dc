import HipRand.HostStack
import HipRand.PyErrors

/-!
# The Python package above a backend

The calls of the package on the loaded hipRAND library are calls of the host API, with
the arguments as `ctypes` passes them. `onHost` is a program of the package as a client of
the host API, which also does what has nothing to do with hipRAND: it looks attributes up,
creates objects and writes their attributes, calls the HIP library, and reads what a call left
in a variable.

Results:
1. `traces_onHost_op`: a hipRAND call of the package is one call of the host API, and
   answers its status.
2. `package_portable`: every program of the package does the same on both backends.
3. `errors_on_backends`: what an error of the package says about the calls of the backend
   library.
-/

namespace HipRand.Py

open Interaction

/-! ## The package as a client of the host API -/

/-- What a program of the package does other than calling hipRAND. Python and NumPy raise
no `HipRandError` by themselves. -/
inductive Outside
  | python (op : Op)
  | hiprandAttr (name : HiprandFn)
  | hipAttr (name : HipFn)
  | npEmpty (shape : List Int) (dtype : Dtype)
  /-- What a call left in the `c_void_p` or the `c_int` it got. -/
  | readGenerator
  | readVersion

abbrev PlainError : Type := { e : PyError // ¬ e.IsHipRandError }

def Outside.Ans : Outside → Type
  | python op => op.Ans
  | hiprandAttr _ | hipAttr _ => Except PlainError Unit
  | npEmpty _ _ => Except PlainError NdArray
  | readGenerator => Generator
  | readVersion => Int

abbrev outsideSig : Sig := ⟨Outside, Outside.Ans⟩

/-- How `ctypes` passes arguments: the address of a variable, what a handle points to, the upper
half of an argument that is passed as an `int`, a `double` as a `float`, and what a callee
finds where no argument was passed. -/
structure Ctypes where
  byref : Pointer
  handle : Generator → Pointer
  widen : BitVec 32 → Pointer
  narrow : PyFloat → CFloat
  missing : Nat → CDouble

/-- An argument that the callee reads as an enumeration. -/
def CArg.enum : CArg → Int
  | pointer p => (p.setWidth 32).toInt
  | int v => v.toInt

def Output.pointer : Output → Pointer
  | host addr => addr
  | device ptr => ptr.addr

section Lower

variable (ctypes : Ctypes)

def floatArg (args : List FloatArg) (i : Nat) : CFloat :=
  match args[i]? with
  | some (.cFloat value) => ctypes.narrow value
  | _ => (ctypes.missing i).setWidth 32

def doubleArg (args : List FloatArg) (i : Nat) : CDouble :=
  match args[i]? with
  | some (.cDouble value) => value
  | _ => ctypes.missing i

def GenFunc.hostCall (g out : Pointer) (n : CSize) (args : List FloatArg) : GenFunc → HostCall
  | hiprandGenerate => .hiprandGenerate g out n
  | hiprandGenerateLongLong => .hiprandGenerateLongLong g out n
  | hiprandGenerateUniform => .hiprandGenerateUniform g out n
  | hiprandGenerateUniformDouble => .hiprandGenerateUniformDouble g out n
  | hiprandGenerateNormal =>
    .hiprandGenerateNormal g out n (floatArg ctypes args 0) (floatArg ctypes args 1)
  | hiprandGenerateNormalDouble =>
    .hiprandGenerateNormalDouble g out n (doubleArg ctypes args 0) (doubleArg ctypes args 1)
  | hiprandGenerateLogNormal =>
    .hiprandGenerateLogNormal g out n (floatArg ctypes args 0) (floatArg ctypes args 1)
  | hiprandGenerateLogNormalDouble =>
    .hiprandGenerateLogNormalDouble g out n (doubleArg ctypes args 0) (doubleArg ctypes args 1)
  | hiprandGeneratePoisson => .hiprandGeneratePoisson g out n (doubleArg ctypes args 0)

def Setting.hostCall (g : Pointer) : Setting → HostCall
  | offset value => .hiprandSetGeneratorOffset g value
  | stream value => .hiprandSetStream g (value.handle ctypes.widen)
  | seed value => .hiprandSetPseudoRandomGeneratorSeed g value
  | dimensions value => .hiprandSetQuasiRandomGeneratorDimensions g value

/-- The host API call that a call of the package is, if it is one of hipRAND. -/
def Op.hostCall? : Op → Option HostCall
  | createGenerator isHost rngtype =>
    some (if isHost then .hiprandCreateGeneratorHost ctypes.byref rngtype.enum
      else .hiprandCreateGenerator ctypes.byref rngtype.enum)
  | destroyGenerator gen => some (.hiprandDestroyGenerator (ctypes.handle gen))
  | set gen setting => some (setting.hostCall ctypes (ctypes.handle gen))
  | generate func gen output n args =>
    some (func.hostCall ctypes (ctypes.handle gen) output.pointer n args)
  | getVersion => some (.hiprandGetVersion ctypes.byref)
  | _ => none

/-- The status of a host API call, as `ctypes` returns it. -/
def callHost (call : HostCall) : Prog (hostSig.sum outsideSig) PyError Int := do
  let status : HiprandStatus ← Prog.perform (S := hostSig.sum outsideSig) (.inl call)
  return CEnum.value status

def outside (op : Outside) : Prog (hostSig.sum outsideSig) PyError op.Ans :=
  Prog.perform (S := hostSig.sum outsideSig) (.inr op)

/-- An answer of Python. -/
def plainAnswer {α : Type} (answer : Except PlainError α) : Except PyError α :=
  answer.mapError Subtype.val

/-- What a call of the package does. -/
def Op.onHost (op : Op) : Prog (hostSig.sum outsideSig) PyError op.Ans :=
  match op with
  | .createGenerator isHost rngtype => do
    let status ← callHost (if isHost then .hiprandCreateGeneratorHost ctypes.byref rngtype.enum
      else .hiprandCreateGenerator ctypes.byref rngtype.enum)
    let gen ← outside .readGenerator
    return (status, gen)
  | .destroyGenerator gen => callHost (.hiprandDestroyGenerator (ctypes.handle gen))
  | .set gen setting => callHost (setting.hostCall ctypes (ctypes.handle gen))
  | .generate func gen output n args =>
    callHost (func.hostCall ctypes (ctypes.handle gen) output.pointer n args)
  | .getVersion => do
    let status ← callHost (.hiprandGetVersion ctypes.byref)
    let version ← outside .readVersion
    return (status, version)
  | .hiprandAttr name => do
    let found ← outside (.hiprandAttr name)
    return plainAnswer found
  | .hipAttr name => do
    let found ← outside (.hipAttr name)
    return plainAnswer found
  | .npEmpty shape dtype => do
    let created ← outside (.npEmpty shape dtype)
    return plainAnswer created
  | op => outside (.python op)

def onHost {α : Type} (p : PyProg α) : Prog (hostSig.sum outsideSig) PyError α :=
  p.through (Op.onHost ctypes) id

/-- A hipRAND call of the package, with the status that it answered. -/
def hostEvents (ev : Event pySig) : List (HostCall × Int) :=
  match ev.op.hostCall? ctypes, hiprandStatus? ev with
  | some call, some status => [(call, status)]
  | _, _ => []

end Lower

section Traces

variable {ctypes : Ctypes} {α : Type}

/-- The calls of the host API, with the status as `ctypes` returns it. -/
def withValue (x : HostCall × HiprandStatus) : HostCall × Int :=
  (x.1, CEnum.value x.2)

theorem traces_callHost_iff {call : HostCall} {t : List (Event (hostSig.sum outsideSig))}
    {r : Except PyError Int} :
    Traces (callHost call) t r ↔
      ∃ st : HiprandStatus, t = [⟨.inl call, st⟩] ∧ r = .ok (CEnum.value st) := by
  constructor
  · intro ht
    obtain ⟨st, t', rfl, ht'⟩ := traces_call_iff.mp ht
    obtain ⟨rfl, rfl⟩ := traces_ret_iff.mp ht'
    exact ⟨st, rfl, rfl⟩
  · rintro ⟨st, rfl, rfl⟩
    exact .call .ret

theorem plain_plainAnswer {answer : Except PlainError α} :
    ∀ e, plainAnswer answer = .error e → ¬ e.IsHipRandError := by
  intro e he
  cases answer with
  | ok a => cases he
  | error e' =>
    cases he
    exact e'.property

/-- A hipRAND call of the package is one call of the host API, and answers its status. -/
theorem traces_onHost_op {op : Op} {t : List (Event (hostSig.sum outsideSig))}
    {r : Except PyError op.Ans} (ht : Traces (op.onHost ctypes) t r) :
    ∃ a, r = .ok a ∧ Plain ⟨op, a⟩ ∧
      (t.flatMap Backend.clientEvent).map withValue = hostEvents ctypes ⟨op, a⟩ := by
  cases op with
  | createGenerator isHost rngtype =>
    obtain ⟨st, t', rfl, ht'⟩ := traces_call_iff.mp ht
    obtain ⟨gen, t'', rfl, ht''⟩ := traces_call_iff.mp ht'
    obtain ⟨rfl, rfl⟩ := traces_ret_iff.mp ht''
    exact ⟨(CEnum.value (show HiprandStatus from st), gen), rfl, trivial, rfl⟩
  | getVersion =>
    obtain ⟨st, t', rfl, ht'⟩ := traces_call_iff.mp ht
    obtain ⟨version, t'', rfl, ht''⟩ := traces_call_iff.mp ht'
    obtain ⟨rfl, rfl⟩ := traces_ret_iff.mp ht''
    exact ⟨(CEnum.value (show HiprandStatus from st), version), rfl, trivial, rfl⟩
  | destroyGenerator | set | generate =>
    obtain ⟨st, rfl, rfl⟩ := traces_callHost_iff.mp ht
    exact ⟨CEnum.value st, rfl, trivial, rfl⟩
  | hiprandAttr | hipAttr | npEmpty =>
    obtain ⟨answer, t', rfl, ht'⟩ := traces_call_iff.mp ht
    obtain ⟨rfl, rfl⟩ := traces_ret_iff.mp ht'
    exact ⟨_, rfl, plain_plainAnswer, rfl⟩
  | _ =>
    obtain ⟨a, rfl, rfl⟩ := traces_perform_iff.mp ht
    exact ⟨a, rfl, trivial, rfl⟩

/-- A program of the package as a client makes its hipRAND calls, one by one. -/
theorem traces_onHost {p : PyProg α} {t : List (Event (hostSig.sum outsideSig))}
    {r : Except PyError α} (ht : Traces (onHost ctypes p) t r) :
    ∃ es, Traces p es r ∧ (∀ ev ∈ es, Plain ev) ∧
      (t.flatMap Backend.clientEvent).map withValue = es.flatMap (hostEvents ctypes) := by
  rcases traces_through_iff.mp ht with ⟨es, r', him, ht', rfl⟩ | ⟨es, op, _, t₂, z, _, _, _, hz, _⟩
  · refine ⟨es, by cases r' <;> exact ht', him.forall_source fun op a u hu => ?_, ?_⟩
    · obtain ⟨a', ha, hplain, _⟩ := traces_onHost_op hu
      rw [Except.ok.inj ha]
      exact hplain
    · rw [List.map_flatMap]
      refine him.collect (P := fun _ => True) (fun op a u _ hu => ?_) fun _ _ => trivial
      obtain ⟨a', ha, _, hevents⟩ := traces_onHost_op hu
      rw [Except.ok.inj ha, ← hevents, List.map_flatMap]
  · obtain ⟨a, ha, _⟩ := traces_onHost_op hz
    cases ha

/-- The package hands on no set of direction vectors, and uses no function that cuRAND
lacks. -/
theorem issues_onHost (p : PyProg α) :
    Issues (OnHost fun call => call.SetListed ∧ ¬ call.RocrandOnly) (onHost ctypes p) := by
  have hcall {call : HostCall} (h : call.SetListed ∧ ¬ call.RocrandOnly) :
      Issues (OnHost fun call => call.SetListed ∧ ¬ call.RocrandOnly) (callHost call) :=
    ⟨h, fun _ => trivial⟩
  have houtside {β : Type} {op : Outside} (f : op.Ans → β) :
      Issues (OnHost fun call => call.SetListed ∧ ¬ call.RocrandOnly)
        (outside op >>= fun a => pure (f a)) := ⟨trivial, fun _ => trivial⟩
  refine (Issues.any p).through fun op _ => ?_
  cases op with
  | createGenerator isHost rngtype =>
    refine (hcall ?_).bind fun _ => houtside _
    cases isHost <;> exact ⟨trivial, id⟩
  | getVersion =>
    refine (hcall ?_).bind fun _ => houtside _
    exact ⟨trivial, id⟩
  | destroyGenerator => exact hcall ⟨trivial, id⟩
  | set gen setting => cases setting <;> exact hcall ⟨trivial, id⟩
  | generate func => cases func <;> exact hcall ⟨trivial, id⟩
  | hiprandAttr | hipAttr | npEmpty => exact houtside _
  | _ => exact ⟨trivial, fun _ => trivial⟩

end Traces

/-- Every program of the package does the same on both backends. -/
theorem package_portable {α : Type} (ctypes : Ctypes) (p : PyProg α) :
    Portable (onHost ctypes p) := by
  refine .of_issues ((issues_onHost p).mono fun op hop => ?_)
  cases op with
  | inl call => exact hop.2
  | inr op => trivial

/-! ## Errors -/

section Errors

variable {ctypes : Ctypes}

/-- A hipRAND call with its status. -/
theorem mem_hostEvents {ev : Event pySig} {x : HostCall × Int} (h : x ∈ hostEvents ctypes ev) :
    ev.op.hostCall? ctypes = some x.1 ∧ hiprandStatus? ev = some x.2 := by
  unfold hostEvents at h
  split at h
  · next hcall hstatus =>
    rw [List.mem_singleton.mp h]
    exact ⟨hcall, hstatus⟩
  · cases h

theorem exists_hostEvent {ev : Event pySig} {status : Int} (h : hiprandStatus? ev = some status) :
    ∃ call, hostEvents ctypes ev = [(call, status)] := by
  obtain ⟨op, a⟩ := ev
  cases op <;> cases h <;> exact ⟨_, rfl⟩

theorem success_of_value {st : HiprandStatus} (h : CEnum.value st = HIPRAND_STATUS_SUCCESS) :
    st = .success :=
  value_status_injective h

/-- Where all calls of a program succeeded, all statuses of its host API calls are success. -/
theorem all_success {es : List (Event pySig)} {log : List (HostCall × HiprandStatus)}
    (hlog : log.map withValue = es.flatMap (hostEvents ctypes)) (hes : ∀ ev ∈ es, Succeeded ev) :
    ∀ x ∈ log, x.2 = .success := by
  intro x hx
  have hmem : withValue x ∈ es.flatMap (hostEvents ctypes) :=
    hlog ▸ List.mem_map_of_mem hx
  obtain ⟨ev, hev, hxe⟩ := List.mem_flatMap.mp hmem
  exact success_of_value (hes ev hev _ (mem_hostEvents hxe).2)

/-- Where the last call of a program failed, so did the last one of the host API, with the
same status, and no other. -/
theorem last_failed {es : List (Event pySig)} {ev : Event pySig} {status : Int}
    {log : List (HostCall × HiprandStatus)}
    (hlog : log.map withValue = (es ++ [ev]).flatMap (hostEvents ctypes))
    (hes : ∀ ev' ∈ es, Succeeded ev') (hev : hiprandStatus? ev = some status) :
    ∃ done call st, log = done ++ [(call, st)] ∧ (∀ x ∈ done, x.2 = .success) ∧
      status = CEnum.value st := by
  obtain ⟨call, hcall⟩ : ∃ call, hostEvents ctypes ev = [(call, status)] := exists_hostEvent hev
  rw [List.flatMap_append, List.flatMap_singleton, hcall] at hlog
  obtain ⟨done, last, rfl, hdone, hlast⟩ := List.map_eq_append_iff.mp hlog
  obtain ⟨⟨call', st⟩, rfl, hst⟩ := List.map_eq_singleton_iff.mp hlast
  exact ⟨done, call', st, rfl, all_success hdone hes, (Prod.mk.inj hst).2.symm⟩

/-- What an error of the package says about a backend. No exception of the host API leaves
a call of the package. A call raises `HipRandError` exactly for the translated status of
the last call that its backend library got, where all calls before succeeded, or for the
`HIPRAND_STATUS_TYPE_ERROR` with which the backend refuses a call that it then does not
make; its text names the status. Otherwise every call of the backend library succeeded. -/
theorem errors_on_backends (b : Backend) (c : PackageCall)
    {t : List (Event (b.sig outsideSig))} {r : Except (Fault PyError) (List PyObj)}
    (ht : Traces (b.link (onHost ctypes c.prog)) t r) :
    match r with
    | .error (.escaped _) => False
    | .error (.thrown (.hipRandError value)) =>
      ∃ st, value = CEnum.value st ∧ st ≠ HiprandStatus.success ∧
        (∃ text, HipRandError.str value = text ++ " (" ++ st.enumerator ++ ")") ∧
        ∃ done last, b.hostLog t = done ++ last ∧ (∀ x ∈ done, x.2 = .success) ∧
          ((∃ call, last = [(call, st)]) ∨ last = [] ∧ st = .typeError)
    | _ => ∀ x ∈ b.hostLog t, x.2 = .success := by
  have hlisted : Issues (OnHost HostCall.SetListed) (onHost ctypes c.prog) :=
    (issues_onHost c.prog).mono fun op hop => by
      cases op with
      | inl call => exact hop.1
      | inr op => trivial
  obtain ⟨es, r', him, ht', rfl⟩ := (b.traces_link_listed_iff hlisted).mp ht
  have hportable := (issues_onHost c.prog).of_mem ht'
  obtain ⟨pyEvents, htrace, hplain, hlog⟩ := traces_onHost ht'
  cases reports_packageCall c pyEvents r' htrace hplain with
  | none hall hr =>
    have hsuccess : ∀ x ∈ b.hostLog t, x.2 = .success := by
      intro x hx
      rw [b.hostLog_eq_filter him] at hx
      exact all_success hlog hall x (List.mem_of_mem_filter hx)
    cases r' with
    | ok xs => exact hsuccess
    | error e =>
      cases e with
      | hipRandError value => exact absurd trivial (hr _ rfl)
      | _ => exact hsuccess
  | @last earlier ev status hall hstatus hne =>
    obtain ⟨done, call, st, hsplit, hdone, rfl⟩ := last_failed hlog hall hstatus
    have hst : st ≠ .success := fun h => hne (by rw [h]; rfl)
    obtain ⟨text, _, htext⟩ := HipRandError.str_value st
    refine ⟨st, rfl, hst, ⟨text, htext⟩, ?_⟩
    rw [b.hostLog_eq_filter him, hsplit, List.filter_append]
    refine ⟨_, _, rfl, fun x hx => hdone x (List.mem_of_mem_filter hx), ?_⟩
    have hmem : (call, st) ∈ es.flatMap Backend.clientEvent := by
      rw [hsplit]
      exact List.mem_append_right _ (List.mem_singleton_self _)
    by_cases himplemented : b.implemented call
    · exact .inl ⟨call, by simp [himplemented]⟩
    · have hrefused := b.refused_of_implements him _ hmem himplemented
      have hcall := Backend.onHost_of_mem hportable _ hmem
      exact .inr ⟨by simp [himplemented], b.refusal_ok call st hcall.2 hrefused⟩

end Errors

/-- Handles are small numbers, and floats are not narrowed with care. -/
def someCtypes : Ctypes where
  byref := 4096
  handle := BitVec.ofNat 64
  widen v := v.setWidth 64
  narrow v := v.setWidth 32
  missing _ := 0

/-- `PRNG(PRNG.XORWOW, seed=5)` on cuRAND, which cannot allocate the state. -/
def seedRefused : List (Event (Backend.curand.sig outsideSig)) :=
  [⟨.inr (.python .new), (0 : ObjId)⟩,
    ⟨.inr (.hiprandAttr .hiprandCreateGenerator), (.ok () : Except PlainError Unit)⟩,
    ⟨.inl (.curandCreateGenerator 4096 .pseudoXorwow), Nvidia.CurandStatus.success⟩,
    ⟨.inr .readGenerator, (8 : Generator)⟩,
    ⟨.inr (.python (.finalize 0 (.generator 8))), ()⟩,
    ⟨.inr (.python (.setAttr 0 (.offset 0))), ()⟩,
    ⟨.inr (.python (.setAttr 0 (.stream .none))), ()⟩,
    ⟨.inr (.python (.setAttr 0 (.seed none))), ()⟩,
    ⟨.inr (.hiprandAttr .hiprandSetPseudoRandomGeneratorSeed), (.ok () : Except PlainError Unit)⟩,
    ⟨.inl (.curandSetPseudoRandomGeneratorSeed 8 5), Nvidia.CurandStatus.allocationFailed⟩]

theorem errors_on_backends_seedRefused :
    ∃ st, (102 : Int) = CEnum.value st ∧ st ≠ HiprandStatus.success ∧
      (∃ text, HipRandError.str 102 = text ++ " (" ++ st.enumerator ++ ")") ∧
      ∃ done last, Backend.curand.hostLog seedRefused = done ++ last ∧
        (∀ x ∈ done, x.2 = .success) ∧
        ((∃ call, last = [(call, st)]) ∨ last = [] ∧ st = .typeError) := by
  have htrace : Traces
      (Backend.curand.link (onHost someCtypes (PackageCall.client
        (.prng 401 (some 5) none .none false)).prog))
      seedRefused (.error (.thrown (.hipRandError 102))) :=
    .call (.call (.call (.call (.call (.call (.call (.call (.call (.call .throw)))))))))
  exact errors_on_backends .curand _ htrace

end HipRand.Py
