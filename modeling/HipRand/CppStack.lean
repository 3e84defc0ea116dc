import HipRand.CppOwnership
import HipRand.HostStack

/-!
# The C++ wrapper above a backend

The engine classes call the host API with `m_generator` and its address. `onHost` is an
engine program as a client of the host API, which also reads `m_generator` after a
creation. A generator stands for one creation; `handle` is its address, and `mGenerator`
the address of the member.

Results:
1. `traces_onBackend`: every call of an engine program reaches the library of the backend
   once, if the backend implements it.
2. `constructors_on_backends`: how a constructor ends on a backend, in terms of what the
   library answered.
3. `members_on_backends`: the same for a member function.
4. `engines_portable`: which of them do the same on both backends.
-/

namespace HipRand.Cpp

open Interaction Ledger

/-! ## Engine programs as clients of the host API -/

/-- Reading `m_generator`. -/
abbrev memberSig : Sig := ⟨Unit, fun _ => Generator⟩

section OnHost

variable (mGenerator : Pointer) (handle : Generator → Pointer)

def GenerateFn.hostCall (generator output : Pointer) (size : CSize) : GenerateFn → HostCall
  | hiprandGenerate => .hiprandGenerate generator output size
  | hiprandGenerateChar => .hiprandGenerateChar generator output size
  | hiprandGenerateShort => .hiprandGenerateShort generator output size
  | hiprandGenerateLongLong => .hiprandGenerateLongLong generator output size
  | hiprandGenerateUniform => .hiprandGenerateUniform generator output size
  | hiprandGenerateUniformDouble => .hiprandGenerateUniformDouble generator output size
  | hiprandGenerateUniformHalf => .hiprandGenerateUniformHalf generator output size
  | hiprandGenerateNormal mean stddev => .hiprandGenerateNormal generator output size mean stddev
  | hiprandGenerateNormalDouble mean stddev =>
    .hiprandGenerateNormalDouble generator output size mean stddev
  | hiprandGenerateNormalHalf mean stddev =>
    .hiprandGenerateNormalHalf generator output size mean stddev
  | hiprandGenerateLogNormal mean stddev =>
    .hiprandGenerateLogNormal generator output size mean stddev
  | hiprandGenerateLogNormalDouble mean stddev =>
    .hiprandGenerateLogNormalDouble generator output size mean stddev
  | hiprandGenerateLogNormalHalf mean stddev =>
    .hiprandGenerateLogNormalHalf generator output size mean stddev
  | hiprandGeneratePoisson lambda => .hiprandGeneratePoisson generator output size lambda

/-- The host API call that a call of the wrapper is. -/
def ApiCall.hostCall : ApiCall → HostCall
  | hiprandCreateGenerator rngType => .hiprandCreateGenerator mGenerator (CEnum.value rngType)
  | hiprandDestroyGenerator generator => .hiprandDestroyGenerator (handle generator)
  | hiprandSetStream generator stream => .hiprandSetStream (handle generator) stream
  | hiprandSetPseudoRandomGeneratorSeed generator seed =>
    .hiprandSetPseudoRandomGeneratorSeed (handle generator) seed
  | hiprandSetGeneratorOffset generator offset =>
    .hiprandSetGeneratorOffset (handle generator) offset
  | hiprandSetGeneratorOrdering generator order =>
    .hiprandSetGeneratorOrdering (handle generator) order
  | hiprandSetQuasiRandomGeneratorDimensions generator dimensions =>
    .hiprandSetQuasiRandomGeneratorDimensions (handle generator) dimensions
  | generate fn generator output size => fn.hostCall (handle generator) output size

def callHost (call : HostCall) : Prog (hostSig.sum memberSig) Error HiprandStatus :=
  .perform (S := hostSig.sum memberSig) (.inl call)

/-- What a call of the wrapper does. -/
def ApiCall.onHost : (op : ApiCall) → Prog (hostSig.sum memberSig) Error op.Ans
  | hiprandCreateGenerator rngType => do
    let status ← callHost ((hiprandCreateGenerator rngType).hostCall mGenerator handle)
    let generator ← Prog.perform (S := hostSig.sum memberSig) (.inr ())
    return (status, generator)
  | hiprandDestroyGenerator generator =>
    callHost ((hiprandDestroyGenerator generator).hostCall mGenerator handle)
  | hiprandSetStream generator stream =>
    callHost ((hiprandSetStream generator stream).hostCall mGenerator handle)
  | hiprandSetPseudoRandomGeneratorSeed generator seed =>
    callHost ((hiprandSetPseudoRandomGeneratorSeed generator seed).hostCall mGenerator handle)
  | hiprandSetGeneratorOffset generator offset =>
    callHost ((hiprandSetGeneratorOffset generator offset).hostCall mGenerator handle)
  | hiprandSetGeneratorOrdering generator order =>
    callHost ((hiprandSetGeneratorOrdering generator order).hostCall mGenerator handle)
  | hiprandSetQuasiRandomGeneratorDimensions generator dimensions =>
    callHost
      ((hiprandSetQuasiRandomGeneratorDimensions generator dimensions).hostCall mGenerator handle)
  | generate fn generator output size =>
    callHost ((generate fn generator output size).hostCall mGenerator handle)

def onHost {α : Type} (p : EngineProg α) : Prog (hostSig.sum memberSig) Error α :=
  p.through (ApiCall.onHost mGenerator handle) id

/-- A call of the wrapper, with the status that it answered. -/
def apiEvent (e : Event apiSig) : HostCall × HiprandStatus :=
  (e.op.hostCall mGenerator handle, status e)

end OnHost

section Traces

variable {mGenerator : Pointer} {handle : Generator → Pointer} {α : Type}

theorem traces_callHost_iff {call : HostCall} {t : List (Event (hostSig.sum memberSig))}
    {r : Except Error HiprandStatus} :
    Traces (callHost call) t r ↔ ∃ st : HiprandStatus, t = [⟨.inl call, st⟩] ∧ r = .ok st :=
  traces_perform_iff

/-- A call of the wrapper is one call of the host API, and answers its status. -/
theorem traces_onHost_op {op : ApiCall} {t : List (Event (hostSig.sum memberSig))}
    {r : Except Error op.Ans} (ht : Traces (op.onHost mGenerator handle) t r) :
    ∃ a, r = .ok a ∧ t.flatMap Backend.clientEvent = [apiEvent mGenerator handle ⟨op, a⟩] := by
  cases op with
  | hiprandCreateGenerator rngType =>
    obtain ⟨st, t', rfl, ht'⟩ := traces_call_iff.mp ht
    obtain ⟨g, t'', rfl, ht''⟩ := traces_call_iff.mp ht'
    obtain ⟨rfl, rfl⟩ := traces_ret_iff.mp ht''
    exact ⟨(st, g), rfl, rfl⟩
  | _ =>
    obtain ⟨st, rfl, rfl⟩ := traces_callHost_iff.mp ht
    exact ⟨st, rfl, rfl⟩

/-- An engine program as a client makes its calls, one by one. -/
theorem traces_onHost {p : EngineProg α} {t : List (Event (hostSig.sum memberSig))}
    {r : Except Error α} (ht : Traces (onHost mGenerator handle p) t r) :
    ∃ es, Traces p es r ∧ t.flatMap Backend.clientEvent = es.map (apiEvent mGenerator handle) := by
  rcases traces_through_iff.mp ht with ⟨es, r', him, ht', rfl⟩ | ⟨es, op, _, t₂, z, _, _, _, hz, _⟩
  · refine ⟨es, by cases r' <;> exact ht', ?_⟩
    rw [him.collect (P := fun _ => True) (F := fun e => [apiEvent mGenerator handle e])
      (fun op a u _ hu => ?_) (fun _ _ => trivial)]
    · exact List.map_eq_flatMap.symm
    · obtain ⟨a', ha, hu'⟩ := traces_onHost_op hu
      rw [Except.ok.inj ha]
      exact hu'
  · obtain ⟨a, ha, _⟩ := traces_onHost_op hz
    cases ha

/-- An engine program as a client makes only the calls that it makes itself. -/
theorem issues_onHost {A : HostCall → Prop} {p : EngineProg α}
    (hp : Issues (fun op : ApiCall => A (op.hostCall mGenerator handle)) p) :
    Issues (OnHost A) (onHost mGenerator handle p) :=
  hp.through fun op hop => by
    cases op with
    | hiprandCreateGenerator rngType => exact ⟨hop, fun _ => ⟨trivial, fun _ => trivial⟩⟩
    | _ => exact .perform hop

/-- Every call of an engine program reaches the library, if the backend implements it. -/
theorem traces_onBackend (b : Backend) {p : EngineProg α}
    (hp : Issues (fun op : ApiCall => b.implemented (op.hostCall mGenerator handle)) p)
    {t : List (Event (b.sig memberSig))} {r : Except (Fault Error) α}
    (ht : Traces (b.link (onHost mGenerator handle p)) t r) :
    ∃ es r', Traces p es r' ∧ r = r'.mapError .thrown ∧
      b.hostLog t = es.map (apiEvent mGenerator handle) := by
  have himplemented : Issues (OnHost b.implemented) (onHost mGenerator handle p) :=
    issues_onHost hp
  have hlisted : Issues (OnHost HostCall.SetListed) (onHost mGenerator handle p) :=
    himplemented.mono fun op hop => by
      cases op with
      | inl call => exact b.listed_of_implemented call hop
      | inr op => trivial
  obtain ⟨es, r', him, ht', rfl⟩ := (b.traces_link_listed_iff hlisted).mp ht
  obtain ⟨es', ht'', hes⟩ := traces_onHost ht'
  exact ⟨es', r', ht'', rfl, (b.hostLog_eq him (himplemented.of_mem ht')).trans hes⟩

end Traces

/-! ## Constructors -/

def EngineClass.rngType : EngineClass → HiprandRngType
  | philox4x32_10 => .pseudoPhilox4_32_10
  | xorwow => .pseudoXorwow
  | mrg32k3a => .pseudoMrg32k3a
  | mtgp32 => .pseudoMtgp32
  | mt19937 => .pseudoMt19937
  | sobol32 => .quasiSobol32
  | scrambledSobol32 => .quasiScrambledSobol32
  | sobol64 => .quasiSobol64
  | scrambledSobol64 => .quasiScrambledSobol64

def offsetCalls (generator : Pointer) (offset : CULongLong) : List HostCall :=
  if offset > 0 then [.hiprandSetGeneratorOffset generator offset] else []

/-- The calls that configure a new generator. -/
def CtorArgs.settings (generator : Pointer) : CtorArgs → List HostCall
  | seedOffset seedValue offsetValue =>
    offsetCalls generator offsetValue ++ [.hiprandSetPseudoRandomGeneratorSeed generator seedValue]
  | seed seedValue => [.hiprandSetPseudoRandomGeneratorSeed generator seedValue]
  | dimensionsOffset numOfDimensions offsetValue =>
    offsetCalls generator offsetValue ++
      [.hiprandSetQuasiRandomGeneratorDimensions generator numOfDimensions]

/-- The calls that succeeded. -/
def succeeded (calls : List HostCall) : List (HostCall × HiprandStatus) :=
  calls.map fun call => (call, .success)

section Construct

variable {mGenerator : Pointer} {handle : Generator → Pointer}

/-- `p` issues `calls` in this order, stops at the first that does not succeed, and
throws its status. -/
def Applies (mGenerator : Pointer) (handle : Generator → Pointer) (calls : List HostCall)
    (p : EngineProg Unit) : Prop :=
  ∀ t r, Traces p t r → match r with
    | .ok _ => t.map (apiEvent mGenerator handle) = succeeded calls
    | .error e => e.errorCode ≠ .success ∧ ∃ done call rest, calls = done ++ call :: rest ∧
      t.map (apiEvent mGenerator handle) = succeeded done ++ [(call, e.errorCode)]

theorem Applies.nil : Applies mGenerator handle [] (pure ()) := by
  intro t r ht
  obtain ⟨rfl, rfl⟩ := traces_ret_iff.mp ht
  rfl

theorem Applies.call {op : ApiCall} {k : apiSig.Ans op → EngineProg Unit}
    (hk : ∀ a, k a = check (status ⟨op, a⟩)) :
    Applies mGenerator handle [op.hostCall mGenerator handle] (.call op k) := by
  intro t r ht
  obtain ⟨a, t', rfl, ht'⟩ := traces_call_iff.mp ht
  rw [hk] at ht'
  rcases traces_check_iff.mp ht' with ⟨rfl, ⟨hst, rfl⟩ | ⟨hst, rfl⟩⟩
  · show [(op.hostCall mGenerator handle, status ⟨op, a⟩)] = _
    rw [hst]
    rfl
  · exact ⟨hst, [], _, [], rfl, rfl⟩

theorem Applies.bind {calls calls' : List HostCall} {p : EngineProg Unit}
    {f : Unit → EngineProg Unit} (hp : Applies mGenerator handle calls p)
    (hf : ∀ a, Applies mGenerator handle calls' (f a)) :
    Applies mGenerator handle (calls ++ calls') (p.bind f) := by
  intro t r ht
  rcases traces_bind_iff.mp ht with ⟨e, rfl, h₁⟩ | ⟨t₁, t₂, a, rfl, h₁, h₂⟩
  · obtain ⟨hne, done, call, rest, rfl, hlog⟩ := hp _ _ h₁
    exact ⟨hne, done, call, rest ++ calls', by simp, hlog⟩
  · have hlog₁ := hp _ _ h₁
    have hlog₂ := hf a _ _ h₂
    cases r with
    | ok =>
      show (t₁ ++ t₂).map _ = succeeded (calls ++ calls')
      rw [List.map_append, hlog₁, hlog₂, succeeded, succeeded, succeeded, List.map_append]
    | error e =>
      obtain ⟨hne, done, call, rest, rfl, hlog⟩ := hlog₂
      refine ⟨hne, calls ++ done, call, rest, (List.append_assoc ..).symm, ?_⟩
      rw [List.map_append, hlog₁, hlog, succeeded, succeeded, succeeded, List.map_append,
        List.append_assoc]

/-- The `try` block of a constructor that may set an offset before its last setting. -/
theorem Applies.afterOffset {calls : List HostCall} {p : EngineProg Unit} {g : Generator}
    {offsetValue : CULongLong} (hp : Applies mGenerator handle calls p) :
    Applies mGenerator handle (offsetCalls (handle g) offsetValue ++ calls)
      (do if offsetValue > 0 then offset g offsetValue
          p) := by
  unfold offsetCalls
  split
  · exact .bind (.call fun _ => rfl) fun _ => hp
  · exact .bind .nil fun _ => hp

/-- What a constructor did, in terms of its `try` block. -/
theorem traces_construct {type : HiprandRngType} {configure : Generator → EngineProg Unit}
    {t : List (Event apiSig)} {r : Except Error Generator}
    (ht : Traces (construct type configure) t r) :
    ∃ st g t', t = ⟨.hiprandCreateGenerator type, (st, g)⟩ :: t' ∧
      (st ≠ .success ∧ t' = [] ∧ r = .error ⟨st⟩ ∨
      st = .success ∧ Traces (configure g) t' (.ok ()) ∧ r = .ok g ∨
      st = .success ∧ ∃ t₁ e st', t' = t₁ ++ [⟨.hiprandDestroyGenerator g, st'⟩] ∧
        Traces (configure g) t₁ (.error e) ∧ r = .error e) := by
  obtain ⟨⟨st, g⟩, t', rfl, ht'⟩ := traces_perform_bind_iff.mp ht
  refine ⟨st, g, t', rfl, ?_⟩
  rcases traces_bind_iff.mp ht' with ⟨e, rfl, hcheck⟩ | ⟨_, t₁, _, rfl, hcheck, hrest⟩
  · obtain ⟨rfl, ⟨_, he⟩ | ⟨hst, he⟩⟩ := traces_check_iff.mp hcheck
    · cases he
    · cases he
      exact .inl ⟨hst, rfl, rfl⟩
  · obtain ⟨rfl, ⟨hst, _⟩ | ⟨_, he⟩⟩ := traces_check_iff.mp hcheck
    · right
      rw [List.nil_append]
      -- what the `try` statement did, with its handler; then `return m_generator`
      rcases traces_bind_iff.mp hrest with ⟨e, rfl, htry⟩ | ⟨t₂, _, _, rfl, htry, hret⟩
      · rcases traces_tryCatch_iff.mp htry with ⟨_, he, _⟩ | ⟨t₂, _, e', rfl, hthrow, hcatch⟩
        · cases he
        · obtain ⟨st', _, rfl, hthrow'⟩ := traces_perform_bind_iff.mp hcatch
          obtain ⟨rfl, he⟩ := traces_throw_iff.mp hthrow'
          cases he
          exact .inr ⟨hst, t₂, e, st', rfl, hthrow, rfl⟩
      · obtain ⟨rfl, rfl⟩ := traces_ret_iff.mp hret
        rw [List.append_nil]
        rcases traces_tryCatch_iff.mp htry with ⟨_, _, hok⟩ | ⟨_, _, e', rfl, _, hcatch⟩
        · exact .inl ⟨hst, hok, rfl⟩
        · obtain ⟨st', _, _, hthrow'⟩ := traces_perform_bind_iff.mp hcatch
          cases (traces_throw_iff.mp hthrow').2
    · cases he

/-- The nine constructors create and configure as their arguments say. -/
theorem EngineClass.constructor?_applies {cls : EngineClass} {args : CtorArgs}
    {p : EngineProg Generator} (h : cls.constructor? args = some p) :
    ∃ configure, p = construct cls.rngType configure ∧
      ∀ g, Applies mGenerator handle (args.settings (handle g)) (configure g) := by
  cases cls <;> cases args <;> cases h
  all_goals
    first
    | exact ⟨_, rfl, fun g => Applies.call fun _ => rfl⟩
    | exact ⟨_, rfl, fun g => (Applies.call fun _ => rfl).afterOffset⟩

theorem issues_check {A : ApiCall → Prop} (st : HiprandStatus) :
    Issues (S := apiSig) A (check st) := by
  unfold check
  split <;> trivial

theorem issues_call {A : ApiCall → Prop} {op : ApiCall} {k : apiSig.Ans op → EngineProg Unit}
    (hop : A op) (hk : ∀ a, k a = check (status ⟨op, a⟩)) : Issues (S := apiSig) A (.call op k) :=
  ⟨hop, fun a => hk a ▸ issues_check _⟩

theorem issues_construct {A : ApiCall → Prop} {type : HiprandRngType}
    {configure : Generator → EngineProg Unit} (hcreate : A (.hiprandCreateGenerator type))
    (hdestroy : ∀ g, A (.hiprandDestroyGenerator g))
    (hconfigure : ∀ g, Issues (S := apiSig) A (configure g)) :
    Issues (S := apiSig) A (construct type configure) := by
  refine ⟨hcreate, fun ⟨st, g⟩ => (issues_check st).bind fun _ => .bind ?_ fun _ => trivial⟩
  exact (hconfigure g).tryCatch fun _ => ⟨hdestroy g, fun _ => trivial⟩

/-- The calls that constructors use. -/
def ApiCall.ForConstructor : ApiCall → Prop
  | hiprandCreateGenerator rngType => rngType ≠ .test
  | hiprandSetGeneratorOrdering .. | generate .. => False
  | _ => True

theorem implemented_forConstructor (b : Backend) {op : ApiCall} (h : op.ForConstructor) :
    b.implemented (op.hostCall mGenerator handle) := by
  cases op with
  | hiprandCreateGenerator rngType =>
    refine b.implemented_of_portable _ ⟨⟨rngType, rfl⟩, fun hvalue => h ?_⟩ id
    cases rngType <;> first | rfl | exact absurd hvalue (by decide)
  | hiprandSetGeneratorOrdering | generate => exact h.elim
  | _ => exact b.implemented_of_portable _ trivial id

theorem issues_constructor {cls : EngineClass} {args : CtorArgs} {p : EngineProg Generator}
    (h : cls.constructor? args = some p) : Issues (S := apiSig) ApiCall.ForConstructor p := by
  have hoffset (g : Generator) (o : CULongLong) {p : EngineProg Unit}
      (hp : Issues (S := apiSig) ApiCall.ForConstructor p) :
      Issues (S := apiSig) ApiCall.ForConstructor
        (do if o > 0 then offset g o
            p) := by
    split
    · exact (issues_call trivial fun _ => rfl).bind fun _ => hp
    · exact hp
  cases cls <;> cases args <;> cases h
  all_goals
    refine issues_construct (by simp [ApiCall.ForConstructor]) (fun _ => trivial) fun g => ?_
    first
    | exact issues_call trivial fun _ => rfl
    | exact hoffset g _ (issues_call trivial fun _ => rfl)

/-- On either backend the library gets the calls of a value constructor as its arguments
say: a creation of the type of the class and then the settings, up to the first that does
not succeed. That one the constructor reports, after it destroyed what it created. No
exception of the host API leaves a constructor. -/
theorem constructors_on_backends (b : Backend) {cls : EngineClass} {args : CtorArgs}
    {p : EngineProg Generator} (h : cls.constructor? args = some p)
    {t : List (Event (b.sig memberSig))} {r : Except (Fault Error) Generator}
    (ht : Traces (b.link (onHost mGenerator handle p)) t r) :
    match r with
    | .ok g =>
      b.hostLog t = succeeded (.hiprandCreateGenerator mGenerator (CEnum.value cls.rngType) ::
        args.settings (handle g))
    | .error (.thrown e) =>
      e.errorCode ≠ .success ∧
        (b.hostLog t =
          [(.hiprandCreateGenerator mGenerator (CEnum.value cls.rngType), e.errorCode)] ∨
        ∃ g done call rest st, args.settings (handle g) = done ++ call :: rest ∧
          b.hostLog t =
            succeeded (.hiprandCreateGenerator mGenerator (CEnum.value cls.rngType) :: done) ++
              [(call, e.errorCode), (.hiprandDestroyGenerator (handle g), st)])
    | .error (.escaped _) => False := by
  have himplemented : Issues (fun op : ApiCall => b.implemented (op.hostCall mGenerator handle)) p :=
    (issues_constructor h).mono fun op hop => implemented_forConstructor b hop
  obtain ⟨es, r', ht', rfl, hlog⟩ := traces_onBackend b himplemented ht
  rw [hlog]
  obtain ⟨configure, rfl, happlies⟩ : ∃ configure, p = construct cls.rngType configure ∧
      ∀ g, Applies mGenerator handle (args.settings (handle g)) (configure g) :=
    EngineClass.constructor?_applies h
  obtain ⟨st, g, es', rfl, ⟨hst, rfl, rfl⟩ | ⟨rfl, hok, rfl⟩ | ⟨rfl, es₁, e, st', rfl, herr, rfl⟩⟩ :=
    traces_construct ht'
  · exact ⟨hst, .inl rfl⟩
  · exact congrArg (List.cons _) (happlies g _ _ hok)
  · obtain ⟨hne, done, call, rest, hsettings, hdone⟩ := happlies g _ _ herr
    refine ⟨hne, .inr ⟨g, done, call, rest, st', hsettings, ?_⟩⟩
    rw [List.map_cons, List.map_append, hdone, List.append_assoc]
    rfl

end Construct

/-- What rocRAND is asked by a Mersenne Twister engine whose seed it refuses. -/
def refusedSeed : List (Event (Backend.rocrand.sig memberSig)) :=
  [⟨.inl (.rocrandCreateGenerator 4096 .pseudoMt19937), Amd.RocrandStatus.success⟩,
    ⟨.inr (), (8 : Nat)⟩,
    ⟨.inl (.rocrandSetSeed 8 5), Amd.RocrandStatus.allocationFailed⟩,
    ⟨.inl (.rocrandDestroyGenerator 8), Amd.RocrandStatus.internalError⟩]

theorem constructors_on_backends_refused_seed :
    HiprandStatus.allocationFailed ≠ .success ∧
      (Backend.rocrand.hostLog refusedSeed =
        [(.hiprandCreateGenerator 4096 (CEnum.value EngineClass.mt19937.rngType),
          .allocationFailed)] ∨
      ∃ g done call rest st, (CtorArgs.seed 5).settings (BitVec.ofNat 64 g) = done ++ call :: rest ∧
        Backend.rocrand.hostLog refusedSeed =
          succeeded (.hiprandCreateGenerator 4096 (CEnum.value EngineClass.mt19937.rngType) :: done) ++
            [(call, .allocationFailed), (.hiprandDestroyGenerator (BitVec.ofNat 64 g), st)]) := by
  have h : EngineClass.mt19937.constructor? (.seed 5) = some (mt19937Engine 5) := rfl
  have ht : Traces (Backend.rocrand.link (onHost 4096 (BitVec.ofNat 64) (mt19937Engine 5)))
      refusedSeed (.error (.thrown ⟨.allocationFailed⟩)) :=
    .call (.call (.call (.call .throw)))
  exact constructors_on_backends .rocrand h ht

/-! ## Member functions -/

/-- The host API call of a member function. -/
def Method.hostCall (generator : Pointer) : Method → HostCall
  | stream value => .hiprandSetStream generator value
  | offset value => .hiprandSetGeneratorOffset generator value
  | order value => .hiprandSetGeneratorOrdering generator value
  | seed value => .hiprandSetPseudoRandomGeneratorSeed generator value
  | dimensions value => .hiprandSetQuasiRandomGeneratorDimensions generator value
  | generate fn output size => fn.hostCall generator output size

section Members

variable {mGenerator : Pointer} {handle : Generator → Pointer} {α : Type}

/-- An engine program hands on no set of direction vectors. -/
theorem ApiCall.setListed (op : ApiCall) : (op.hostCall mGenerator handle).SetListed := by
  cases op with
  | generate fn => cases fn <;> trivial
  | _ => trivial

/-- `p` makes the call `call` and throws its status if that is not success. -/
def CallsAndChecks (mGenerator : Pointer) (handle : Generator → Pointer) (call : HostCall)
    (p : EngineProg Unit) : Prop :=
  ∀ t r, Traces p t r → ∃ st, t.map (apiEvent mGenerator handle) = [(call, st)] ∧
    r = if st = .success then .ok () else .error ⟨st⟩

theorem CallsAndChecks.call {op : ApiCall} {k : apiSig.Ans op → EngineProg Unit}
    (hk : ∀ a, k a = check (status ⟨op, a⟩)) :
    CallsAndChecks mGenerator handle (op.hostCall mGenerator handle) (.call op k) := by
  intro t r ht
  obtain ⟨a, t', rfl, ht'⟩ := traces_call_iff.mp ht
  rw [hk] at ht'
  refine ⟨status ⟨op, a⟩, ?_, ?_⟩
  · rw [(traces_check_iff.mp ht').1]
    rfl
  · rcases (traces_check_iff.mp ht').2 with ⟨hst, rfl⟩ | ⟨hst, rfl⟩
    · rw [if_pos hst]
    · rw [if_neg hst]

theorem EngineClass.method?_callsAndChecks {cls : EngineClass} {m : Method} {g : Generator}
    {p : EngineProg Unit} (h : cls.method? m g = some p) :
    CallsAndChecks mGenerator handle (m.hostCall (handle g)) p := by
  have hcall {op : ApiCall} {k : apiSig.Ans op → EngineProg Unit}
      (hk : ∀ a, k a = check (status ⟨op, a⟩)) :
      CallsAndChecks mGenerator handle (op.hostCall mGenerator handle) (.call op k) := .call hk
  cases m <;> cases cls <;>
    first
    | (cases h; exact hcall fun _ => rfl)
    | exact absurd h (by simp [EngineClass.method?])

theorem destruct_callsAndChecks (g : Generator) :
    CallsAndChecks mGenerator handle (.hiprandDestroyGenerator (handle g)) (destruct g) :=
  .call fun _ => rfl

/-- A member function or a destructor on a backend: its one call reaches the library exactly
if the backend implements it, and is refused otherwise. A status other than success is
thrown, and nothing else is. -/
theorem members_on_backends (b : Backend) {cls : EngineClass} {g : Generator} {call : HostCall}
    {p : EngineProg Unit}
    (h : (∃ m, cls.method? m g = some p ∧ call = m.hostCall (handle g)) ∨
      p = destruct g ∧ call = .hiprandDestroyGenerator (handle g))
    {t : List (Event (b.sig memberSig))} {r : Except (Fault Error) Unit}
    (ht : Traces (b.link (onHost mGenerator handle p)) t r) :
    ∃ st, r = (if st = .success then .ok () else .error (.thrown ⟨st⟩)) ∧
      (b.implemented call ∧ b.hostLog t = [(call, st)] ∨
        ¬ b.implemented call ∧ b.hostLog t = [] ∧ b.refusal call = .ok st) := by
  have hp : CallsAndChecks mGenerator handle call p := by
    rcases h with ⟨m, hm, rfl⟩ | ⟨rfl, rfl⟩
    · exact EngineClass.method?_callsAndChecks hm
    · exact destruct_callsAndChecks g
  have hlisted : Issues (OnHost HostCall.SetListed) (onHost mGenerator handle p) :=
    issues_onHost ((Issues.any p).mono fun op _ => op.setListed)
  obtain ⟨es, r', him, ht', rfl⟩ := (b.traces_link_listed_iff hlisted).mp ht
  obtain ⟨es', ht'', hes⟩ := traces_onHost ht'
  obtain ⟨st, hcall, rfl⟩ := hp _ _ ht''
  rw [hcall] at hes
  refine ⟨st, ?_, ?_⟩
  · split <;> rfl
  · rw [b.hostLog_eq_filter him, hes]
    by_cases himplemented : b.implemented call
    · exact .inl ⟨himplemented, by simp [himplemented]⟩
    · refine .inr ⟨himplemented, by simp [himplemented], ?_⟩
      exact b.refused_of_implements him (call, st) (by simp [hes]) himplemented

end Members

/-- cuRAND has no function for 8-bit values, so a Philox engine throws. -/
theorem members_on_backends_char :
    ∃ st, Except.error (Fault.thrown (⟨.notImplemented⟩ : Error)) =
        (if st = .success then .ok () else .error (.thrown ⟨st⟩)) ∧
      (Backend.curand.implemented (.hiprandGenerateChar 8 64 16) ∧
          Backend.curand.hostLog (X := memberSig) [] = [(.hiprandGenerateChar 8 64 16, st)] ∨
        ¬ Backend.curand.implemented (.hiprandGenerateChar 8 64 16) ∧
          Backend.curand.hostLog (X := memberSig) [] = [] ∧
          Backend.curand.refusal (.hiprandGenerateChar 8 64 16) = .ok st) := by
  have h : EngineClass.philox4x32_10.method? (.generate .hiprandGenerateChar 64 16) 8 =
      some (generate .hiprandGenerateChar 8 64 16) := rfl
  have ht : Traces (Backend.curand.link
      (onHost 4096 (BitVec.ofNat 64) (generate .hiprandGenerateChar 8 64 16))) []
      (.error (.thrown ⟨.notImplemented⟩)) := .throw
  exact members_on_backends .curand (.inl ⟨_, h, rfl⟩) ht

/-! ## Portability -/

section Portability

variable {mGenerator : Pointer} {handle : Generator → Pointer}

theorem portable_of_issues {α : Type} {p : EngineProg α}
    (hp : Issues (fun op : ApiCall => ¬ (op.hostCall mGenerator handle).RocrandOnly) p) :
    Portable (onHost mGenerator handle p) :=
  .of_issues (issues_onHost hp)

theorem EngineClass.issues_method? {cls : EngineClass} {m : Method} {g : Generator}
    {p : EngineProg Unit} (h : cls.method? m g = some p) :
    Issues (S := apiSig) (fun op => op.hostCall mGenerator handle = m.hostCall (handle g)) p := by
  cases m <;> cases cls <;>
    first
    | (cases h; exact issues_call rfl fun _ => rfl)
    | exact absurd h (by simp [EngineClass.method?])

/-- What only rocRAND has does not go over to cuRAND. -/
theorem not_portable_generate {fn : GenerateFn} {g : Generator} {output : Pointer} {size : CSize}
    (h : (fn.hostCall (handle g) output size).RocrandOnly) :
    ¬ Portable (onHost mGenerator handle (generate fn g output size)) := by
  intro hportable
  have himplemented : Backend.rocrand.implemented (fn.hostCall (handle g) output size) := by
    cases fn <;> first | exact h.elim | trivial
  obtain ⟨c, hc⟩ := (Backend.rocrand.forwards.implemented_iff _).mp himplemented
  have hevents : Implements (Backend.rocrand.entryPoints Error memberSig)
      [⟨.inl (fn.hostCall (handle g) output size), HiprandStatus.success⟩]
      ([⟨.inl c, Amd.RocrandStatus.success⟩] ++ []) :=
    .cons (Backend.rocrand.traces_entryPoint_iff.mpr
      (.inl ⟨c, Amd.RocrandStatus.success, hc, rfl, rfl⟩)) .nil
  have htrace : Traces (onHost mGenerator handle (generate fn g output size))
      [⟨.inl (fn.hostCall (handle g) output size), HiprandStatus.success⟩] (.ok ()) := .call .ret
  obtain ⟨t', hsame, _⟩ := hportable.to_curand _ (.ok ())
    (Backend.rocrand.traces_link_iff.mpr (.inl ⟨_, _, hevents, htrace, rfl⟩))
  obtain ⟨x, _, hx, _, _⟩ := List.forall₂_cons_left_iff.mp hsame
  cases hx with
  | @inl _ _ c' _ hcall =>
    have hcurand := (Backend.curand.forwards.implemented_iff _).mpr ⟨c', hcall.1.symm.trans hc⟩
    exact hcurand.2 h

/-- Constructors and destructors of the engines do the same on both backends. A member
function does exactly if it generates no values for which cuRAND has no function. -/
theorem engines_portable (mGenerator : Pointer) (handle : Generator → Pointer) :
    (∀ (cls : EngineClass) args p, cls.constructor? args = some p →
      Portable (onHost mGenerator handle p)) ∧
    (∀ g, Portable (onHost mGenerator handle (destruct g))) ∧
    (∀ (cls : EngineClass) m g p, cls.method? m g = some p →
      (Portable (onHost mGenerator handle p) ↔ ¬ (m.hostCall (handle g)).RocrandOnly)) := by
  refine ⟨fun cls args p h => ?_, fun g => ?_, fun cls m g p h => ⟨fun hp hr => ?_, fun hr => ?_⟩⟩
  · refine portable_of_issues ((issues_constructor h).mono fun op hop => ?_)
    cases op with
    | hiprandSetGeneratorOrdering | generate => exact hop.elim
    | _ => exact id
  · exact portable_of_issues (issues_call id fun _ => rfl)
  · cases m with
    | generate fn output size =>
      cases (h : some (generate fn g output size) = some p)
      exact not_portable_generate hr hp
    | _ => exact hr
  · have hissues :
        Issues (S := apiSig) (fun op => op.hostCall mGenerator handle = m.hostCall (handle g)) p :=
      EngineClass.issues_method? h
    refine portable_of_issues (hissues.mono fun op hop => ?_)
    rw [hop]
    exact hr

/-- A Philox engine can be built on both backends, but gives 16-bit values on one. -/
theorem engines_portable_philox4x32_10 :
    Portable (onHost 4096 (BitVec.ofNat 64) (philox4x32_10Engine 5 0)) ∧
      ¬ Portable (onHost 4096 (BitVec.ofNat 64) (generate .hiprandGenerateShort 8 64 16)) := by
  have hctor : EngineClass.philox4x32_10.constructor? (.seedOffset 5 0) =
      some (philox4x32_10Engine 5 0) := rfl
  have hshort : EngineClass.philox4x32_10.method? (.generate .hiprandGenerateShort 64 16) 8 =
      some (generate .hiprandGenerateShort 8 64 16) := rfl
  obtain ⟨hctors, _, hmembers⟩ := engines_portable 4096 (BitVec.ofNat 64)
  exact ⟨hctors _ _ _ hctor, fun h => (hmembers _ _ _ _ hshort).mp h trivial⟩

end Portability

end HipRand.Cpp
