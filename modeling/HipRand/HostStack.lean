import HipRand.HostForward

/-!
# Clients above the host API

A program of a client calls the host API, and does other things that are no business of
a backend. `b.link p` puts the entry points of the backend `b` below such a program: what
is left are the calls of the backend library and the other things. A C++ exception that
leaves an entry point ends the client, whatever it would have caught.

Results:
1. `Backend.traces_link_iff`: a trace of the linked program is a trace of the client with
   each call replaced by what its entry point did.
2. `exceptions_escape_iff`: an exception leaves the host API exactly where a client hands
   on a set that the header does not list.
3. `clients_portable`: a client that uses no function that cuRAND lacks does the same on
   both backends, for answers with the same translation.
-/

namespace HipRand

open Interaction

/-! ## Backends -/

/-- A backend file over its library. -/
structure Backend where
  Call : Type
  Status : Type
  host : HostCall → HostProg Call Status HiprandStatus
  toHiprandStatus : Status → HiprandStatus
  hostCall : Call → HostCall
  implemented : HostCall → Prop
  refusal : HostCall → Except HiprandStatus HiprandStatus
  forwards : Forwards host toHiprandStatus hostCall implemented refusal
  refusal_error_iff : ∀ call status, ¬ implemented call →
    (refusal call = .error status ↔ ¬ call.SetListed ∧ status = .typeError)
  refusal_ok : ∀ call status, ¬ call.RocrandOnly → refusal call = .ok status → status = .typeError
  listed_of_implemented : ∀ call, implemented call → call.SetListed
  implemented_of_portable : ∀ call, call.Translates → ¬ call.RocrandOnly → implemented call

theorem HostCall.setListed_of_translates {call : HostCall} (h : call.Translates) :
    call.SetListed := by
  cases call with
  | hiprandGetDirectionVectors32 | hiprandGetDirectionVectors64 => exact h
  | _ => trivial

theorem HostCall.refusal_error_iff {call : HostCall} {status : HiprandStatus}
    (h : ¬ call.Translates) :
    call.refusal = .error status ↔ ¬ call.SetListed ∧ status = .typeError := by
  cases call with
  | hiprandGetDirectionVectors32 | hiprandGetDirectionVectors64 =>
    have hset : ¬ CEnum.Listed HiprandDirectionVectorSet _ := h
    simp [refusal, SetListed, hset, eq_comm]
  | _ => simp [refusal, SetListed]

theorem HostCall.refusal_ok {call : HostCall} {status : HiprandStatus}
    (h : call.refusal = .ok status) : status = .typeError := by
  cases call <;> cases h <;> rfl

theorem HostCall.refusalNvidia_eq {call : HostCall} (h : ¬ call.RocrandOnly) :
    call.refusalNvidia = call.refusal := by
  cases call with
  | hiprandGenerateChar | hiprandGenerateShort | hiprandGenerateUniformHalf
  | hiprandGenerateNormalHalf | hiprandGenerateLogNormalHalf => exact absurd trivial h
  | _ => rfl

def Backend.rocrand : Backend where
  Call := Amd.RocrandCall
  Status := Amd.RocrandStatus
  host := Amd.host
  toHiprandStatus := Amd.toHiprandStatus
  hostCall := Amd.RocrandCall.hostCall
  implemented := HostCall.Translates
  refusal := HostCall.refusal
  forwards := Amd.forwards
  refusal_error_iff _ _ h := HostCall.refusal_error_iff h
  refusal_ok _ _ _ h := HostCall.refusal_ok h
  listed_of_implemented _ h := HostCall.setListed_of_translates h
  implemented_of_portable _ h _ := h

def Backend.curand : Backend where
  Call := Nvidia.CurandCall
  Status := Nvidia.CurandStatus
  host := Nvidia.host
  toHiprandStatus := Nvidia.toHiprandStatus
  hostCall := Nvidia.CurandCall.hostCall
  implemented call := call.Translates ∧ ¬ call.RocrandOnly
  refusal := HostCall.refusalNvidia
  forwards := Nvidia.forwards
  refusal_error_iff call status h := by
    by_cases hr : call.RocrandOnly
    · cases call with
      | hiprandGenerateChar | hiprandGenerateShort | hiprandGenerateUniformHalf
      | hiprandGenerateNormalHalf | hiprandGenerateLogNormalHalf =>
        simp [HostCall.refusalNvidia, HostCall.SetListed]
      | _ => exact hr.elim
    · rw [HostCall.refusalNvidia_eq hr]
      exact HostCall.refusal_error_iff fun ht => h ⟨ht, hr⟩
  refusal_ok _ _ hr h := HostCall.refusal_ok (HostCall.refusalNvidia_eq hr ▸ h)
  listed_of_implemented _ h := HostCall.setListed_of_translates h.1
  implemented_of_portable _ h hr := ⟨h, hr⟩

/-! ## Clients -/

/-- The host API as a client sees it. -/
abbrev hostSig : Sig := ⟨HostCall, fun _ => HiprandStatus⟩

/-- How a linked program can end other than by returning. -/
inductive Fault (ε : Type)
  /-- A C++ exception left an `extern "C"` function. -/
  | escaped (status : HiprandStatus)
  | thrown (e : ε)
  deriving DecidableEq

/-- Every call of the host API that a client makes is one of `A`. -/
def OnHost {X : Sig} (A : HostCall → Prop) : (hostSig.sum X).Op → Prop
  | .inl call => A call
  | .inr _ => True

namespace Backend

variable {ε α : Type} {X : Sig}

/-- The library below a client that also uses `X`. -/
abbrev sig (b : Backend) (X : Sig) : Sig :=
  (backendSig b.Call b.Status).sum X

def entryPoints (b : Backend) (ε : Type) (X : Sig) :
    (op : (hostSig.sum X).Op) → Prog (b.sig X) (Fault ε) ((hostSig.sum X).Ans op) :=
  beside (fun call => (b.host call).mapError .escaped) X

def link (b : Backend) (p : Prog (hostSig.sum X) ε α) : Prog (b.sig X) (Fault ε) α :=
  p.through (b.entryPoints ε X) .thrown

/-- What an entry point does for a client. -/
theorem traces_entryPoint_iff (b : Backend) {call : HostCall} {t : List (Event (b.sig X))}
    {r : Except (Fault ε) HiprandStatus} :
    Traces (b.entryPoints ε X (.inl call)) t r ↔
      (∃ c status, b.hostCall c = call ∧ t = [Event.inl ⟨c, status⟩] ∧
        r = .ok (b.toHiprandStatus status)) ∨
      ¬ b.implemented call ∧ t = [] ∧ r = (b.refusal call).mapError .escaped := by
  show Traces (Prog.inl ((b.host call).mapError .escaped)) t r ↔ _
  rw [traces_inl_iff]
  simp only [traces_mapError_iff, b.forwards.traces_iff]
  constructor
  · rintro ⟨es, rfl, r', ⟨c, status, hc, rfl, rfl⟩ | ⟨hno, rfl, rfl⟩, rfl⟩
    · exact .inl ⟨c, status, hc, rfl, rfl⟩
    · exact .inr ⟨hno, rfl, rfl⟩
  · rintro (⟨c, status, hc, rfl, rfl⟩ | ⟨hno, rfl, rfl⟩)
    · exact ⟨_, rfl, _, .inl ⟨c, status, hc, rfl, rfl⟩, rfl⟩
    · exact ⟨_, rfl, _, .inr ⟨hno, rfl, rfl⟩, rfl⟩

/-- An entry point lets an exception out for an unlisted set only. -/
theorem entryPoint_escapes_iff (b : Backend) {op : (hostSig.sum X).Op} {t : List (Event (b.sig X))}
    {z : Fault ε} :
    Traces (b.entryPoints ε X op) t (.error z) ↔
      ∃ call, op = .inl call ∧ ¬ call.SetListed ∧ t = [] ∧ z = .escaped .typeError := by
  cases op with
  | inl call =>
    refine b.traces_entryPoint_iff.trans ?_
    constructor
    · rintro (⟨c, status, _, _, hr⟩ | ⟨hno, rfl, hr⟩)
      · cases hr
      · cases href : b.refusal call with
        | ok status =>
          rw [href] at hr
          cases hr
        | error status =>
          obtain ⟨hset, rfl⟩ := (b.refusal_error_iff call status hno).mp href
          rw [href] at hr
          exact ⟨call, rfl, hset, rfl, Except.error.inj hr⟩
    · rintro ⟨call', hcall, hset, rfl, rfl⟩
      obtain rfl := Sum.inl.inj hcall
      have hno : ¬ b.implemented call := mt (b.listed_of_implemented call) hset
      rw [(b.refusal_error_iff call .typeError hno).mpr ⟨hset, rfl⟩]
      exact .inr ⟨hno, rfl, rfl⟩
  | inr op =>
    constructor
    · intro ht
      obtain ⟨a, _, ha⟩ := traces_perform_iff.mp ht
      cases ha
    · rintro ⟨call, hcall, _⟩
      cases hcall

/-- The traces of a linked client. -/
theorem traces_link_iff (b : Backend) {p : Prog (hostSig.sum X) ε α} {t : List (Event (b.sig X))}
    {r : Except (Fault ε) α} :
    Traces (b.link p) t r ↔
      (∃ es r', Implements (b.entryPoints ε X) es t ∧ Traces p es r' ∧ r = r'.mapError .thrown) ∨
      ∃ es call, Implements (b.entryPoints ε X) es t ∧ Pending p es (.inl call) ∧
        ¬ call.SetListed ∧ r = .error (.escaped .typeError) := by
  unfold link
  rw [traces_through_iff]
  refine or_congr_right ?_
  constructor
  · rintro ⟨es, op, t₁, t₂, z, rfl, him, hp, hz, rfl⟩
    obtain ⟨call, rfl, hset, rfl, rfl⟩ := b.entryPoint_escapes_iff.mp hz
    rw [List.append_nil]
    exact ⟨es, call, him, hp, hset, rfl⟩
  · rintro ⟨es, call, him, hp, hset, rfl⟩
    exact ⟨es, .inl call, t, [], _, (List.append_nil t).symm, him, hp,
      b.entryPoint_escapes_iff.mpr ⟨call, rfl, hset, rfl, rfl⟩, rfl⟩

/-- A client that hands on listed sets only. -/
theorem traces_link_listed_iff (b : Backend) {p : Prog (hostSig.sum X) ε α}
    (hp : Issues (OnHost HostCall.SetListed) p) {t : List (Event (b.sig X))}
    {r : Except (Fault ε) α} :
    Traces (b.link p) t r ↔
      ∃ es r', Implements (b.entryPoints ε X) es t ∧ Traces p es r' ∧ r = r'.mapError .thrown := by
  rw [b.traces_link_iff]
  refine or_iff_left ?_
  rintro ⟨es, call, _, hpending, hset, _⟩
  exact hset (hp.of_pending hpending).1

/-! ## The host API calls that reached the library -/

/-- The call that an event of the library implements, with the status that the client got. -/
def hostEvent (b : Backend) : Event (b.sig X) → List (HostCall × HiprandStatus)
  | ⟨.inl c, status⟩ => [(b.hostCall c, b.toHiprandStatus status)]
  | ⟨.inr _, _⟩ => []

def hostLog (b : Backend) (t : List (Event (b.sig X))) : List (HostCall × HiprandStatus) :=
  t.flatMap b.hostEvent

/-- The same, seen by the client. -/
def clientEvent : Event (hostSig.sum X) → List (HostCall × HiprandStatus)
  | ⟨.inl call, status⟩ => [(call, status)]
  | ⟨.inr _, _⟩ => []

/-- Each call of a client that only makes calls of `A`. -/
theorem onHost_of_mem {A : HostCall → Prop} {es : List (Event (hostSig.sum X))}
    (hes : ∀ e ∈ es, OnHost A e.op) : ∀ x ∈ es.flatMap clientEvent, A x.1 := by
  intro x hx
  obtain ⟨e, he, hxe⟩ := List.mem_flatMap.mp hx
  match e, hes e he, hxe with
  | ⟨.inl call, status⟩, hcall, hxe =>
    rw [List.mem_singleton.mp hxe]
    exact hcall
  | ⟨.inr _, _⟩, _, hxe => cases hxe

open Classical in
/-- The calls that the backend implements reach its library, once each. -/
theorem hostLog_eq_filter (b : Backend) {es : List (Event (hostSig.sum X))}
    {t : List (Event (b.sig X))} (him : Implements (b.entryPoints ε X) es t) :
    b.hostLog t = (es.flatMap clientEvent).filter fun x => b.implemented x.1 := by
  rw [List.filter_flatMap]
  refine him.collect (P := fun _ => True) (fun op a u _ hu => ?_) fun _ _ => trivial
  cases op with
  | inl call =>
    have himplemented (c : b.Call) : b.implemented (b.hostCall c) :=
      (b.forwards.implemented_iff _).mpr ⟨c, rfl⟩
    rcases b.traces_entryPoint_iff.mp hu with ⟨c, status, rfl, rfl, hr⟩ | ⟨hno, rfl, _⟩
    · rw [Except.ok.inj hr]
      show [(b.hostCall c, b.toHiprandStatus status)] =
        [(b.hostCall c, b.toHiprandStatus status)].filter fun x => b.implemented x.1
      simp [himplemented c]
    · show [] = [(call, (a : HiprandStatus))].filter fun x => b.implemented x.1
      simp [hno]
  | inr op =>
    obtain ⟨a', rfl, _⟩ := traces_perform_iff.mp hu
    rfl

theorem hostLog_eq (b : Backend) {es : List (Event (hostSig.sum X))} {t : List (Event (b.sig X))}
    (him : Implements (b.entryPoints ε X) es t) (hes : ∀ e ∈ es, OnHost b.implemented e.op) :
    b.hostLog t = es.flatMap clientEvent := by
  rw [b.hostLog_eq_filter him, List.filter_eq_self]
  intro x hx
  simpa using onHost_of_mem hes x hx

/-- A call that the backend does not implement is refused. -/
theorem refused_of_implements (b : Backend) {es : List (Event (hostSig.sum X))}
    {t : List (Event (b.sig X))} (him : Implements (b.entryPoints ε X) es t) :
    ∀ x ∈ es.flatMap clientEvent, ¬ b.implemented x.1 → b.refusal x.1 = .ok x.2 := by
  have hevent : ∀ e ∈ es, ∀ x ∈ clientEvent e, ¬ b.implemented x.1 → b.refusal x.1 = .ok x.2 := by
    refine him.forall_source fun op a u hu => ?_
    cases op with
    | inl call =>
      intro x hx hno
      obtain rfl : x = (call, a) := List.mem_singleton.mp hx
      rcases b.traces_entryPoint_iff.mp hu with ⟨c, _, hc, _, _⟩ | ⟨_, _, hr⟩
      · exact absurd ((b.forwards.implemented_iff _).mpr ⟨c, hc⟩) hno
      · cases href : b.refusal call with
        | ok status =>
          rw [href] at hr
          rw [Except.ok.inj hr]
        | error status =>
          rw [href] at hr
          cases hr
    | inr op => exact fun x hx => absurd hx List.not_mem_nil
  intro x hx
  obtain ⟨e, he, hxe⟩ := List.mem_flatMap.mp hx
  exact hevent e he x hxe

end Backend

/-- On either backend an exception leaves the host API exactly where a client hands on a
set that the header does not list: after any events the next call of the client is such
a call, and its entry point throws `HIPRAND_STATUS_TYPE_ERROR` without a backend call. -/
theorem exceptions_escape_iff {ε α : Type} {X : Sig} (b : Backend) (p : Prog (hostSig.sum X) ε α)
    (t : List (Event (b.sig X))) (status : HiprandStatus) :
    Traces (b.link p) t (.error (.escaped status)) ↔
      status = .typeError ∧ ∃ es call, Implements (b.entryPoints ε X) es t ∧
        Pending p es (.inl call) ∧ ¬ call.SetListed := by
  rw [b.traces_link_iff]
  constructor
  · rintro (⟨es, r', _, _, hr⟩ | ⟨es, call, him, hp, hset, hr⟩)
    · cases r' <;> cases hr
    · cases hr
      exact ⟨rfl, es, call, him, hp, hset⟩
  · rintro ⟨rfl, es, call, him, hp, hset⟩
    exact .inr ⟨es, call, him, hp, hset, rfl⟩

/-! ## The same client on two backends -/

namespace Backend

variable {ε α : Type} {X : Sig} {b b' : Backend}

/-- Two functions that implement the same host API call, answered by statuses with the
same translation. -/
def Same (b b' : Backend) (e : Event (backendSig b.Call b.Status))
    (e' : Event (backendSig b'.Call b'.Status)) : Prop :=
  b.hostCall e.op = b'.hostCall e'.op ∧ b.toHiprandStatus e.ans = b'.toHiprandStatus e'.ans

theorem Same.symm {x : Event (b.sig X)} {y : Event (b'.sig X)} (h : Beside (b.Same b') X x y) :
    Beside (b'.Same b) X y x := by
  cases h with
  | inl hsame => exact .inl ⟨hsame.1.symm, hsame.2.symm⟩
  | inr op a => exact .inr op a

/-- Both backends implement the call, or refuse it in the same way. -/
def Agree (b b' : Backend) (call : HostCall) : Prop :=
  (b.implemented call ↔ b'.implemented call) ∧ b.refusal call = b'.refusal call

theorem Agree.follows {call : HostCall} (h : b.Agree b' call) :
    Follows (b.Same b') (b.host call) (b'.host call) := by
  intro t t' r ht hR
  rcases (b.forwards.traces_iff _ _ _).mp ht with ⟨c, status, hc, rfl, rfl⟩ | ⟨hno, rfl, rfl⟩
  · obtain ⟨e', t'', ⟨hcall, hstatus⟩, hnil, rfl⟩ := List.forall₂_cons_left_iff.mp hR
    cases hnil
    exact (b'.forwards.traces_iff _ _ _).mpr
      (.inl ⟨e'.op, e'.ans, hcall.symm.trans hc, rfl, congrArg Except.ok hstatus⟩)
  · cases hR
    exact (b'.forwards.traces_iff _ _ _).mpr (.inr ⟨mt h.1.mpr hno, rfl, h.2⟩)

/-- What a client does on one backend it does on the other, for corresponding events. -/
theorem follows_link {p : Prog (hostSig.sum X) ε α} (hp : Issues (OnHost (b.Agree b')) p) :
    Follows (Beside (b.Same b') X) (b.link p) (b'.link p) := by
  refine Follows.through ?_ hp
  intro op hop
  cases op with
  | inl call =>
    have hcall : b.Agree b' call := hop
    exact (hcall.follows.mapError _).inl
  | inr op => exact .inr op

/-- A property of the events of the backend library in a log. -/
def OnLibrary (P : b.Call → b.Status → Prop) : Event (b.sig X) → Prop
  | ⟨.inl c, status⟩ => P c status
  | ⟨.inr _, _⟩ => True

/-- A log has a counterpart when each event of the backend library has one. -/
theorem exists_counterpart {t : List (Event (b.sig X))}
    (h : ∀ e ∈ t, OnLibrary (fun c status => ∃ e', b.Same b' ⟨c, status⟩ e') e) :
    ∃ t', List.Forall₂ (Beside (b.Same b') X) t t' := by
  induction t with
  | nil => exact ⟨[], .nil⟩
  | cons e t ih =>
    obtain ⟨he, ht⟩ := List.forall_mem_cons.mp h
    obtain ⟨t', ht'⟩ := ih ht
    match e, he with
    | ⟨.inl c, status⟩, ⟨e', hsame⟩ => exact ⟨_ :: t', .cons (.inl hsame) ht'⟩
    | ⟨.inr op, a⟩, _ => exact ⟨_ :: t', .cons (.inr op a) ht'⟩

/-- The backend calls of a client implement its host API calls. -/
theorem onLibrary_of_traces {A : HostCall → Prop} {p : Prog (hostSig.sum X) ε α}
    (hp : Issues (OnHost A) p) {t : List (Event (b.sig X))} {r : Except (Fault ε) α}
    (ht : Traces (b.link p) t r) : ∀ e ∈ t, OnLibrary (fun c _ => A (b.hostCall c)) e := by
  have himplements : ∃ es, Implements (b.entryPoints ε X) es t ∧ ∀ e ∈ es, OnHost A e.op := by
    rcases b.traces_link_iff.mp ht with ⟨es, r', him, ht', _⟩ | ⟨es, call, him, hpending, _⟩
    · exact ⟨es, him, hp.of_mem ht'⟩
    · exact ⟨es, him, (hp.of_pending hpending).2⟩
  obtain ⟨es, him, hes⟩ := himplements
  refine him.forall_mem (fun op a u hop hu => ?_) hes
  cases op with
  | inl call =>
    rcases b.traces_entryPoint_iff.mp hu with ⟨c, status, rfl, rfl, _⟩ | ⟨_, rfl, _⟩
    · intro e he
      rw [List.mem_singleton.mp he]
      exact hop
    · exact List.forall_mem_nil _
  | inr op =>
    obtain ⟨a', rfl, _⟩ := traces_perform_iff.mp hu
    intro e he
    rw [List.mem_singleton.mp he]
    trivial

end Backend

theorem agree_of_portable {call : HostCall} (h : ¬ call.RocrandOnly) :
    Backend.rocrand.Agree .curand call :=
  ⟨(and_iff_left h).symm, (HostCall.refusalNvidia_eq h).symm⟩

/-- Every status of rocRAND has one of cuRAND with the same translation. -/
theorem exists_curandStatus (status : Amd.RocrandStatus) :
    ∃ status', Amd.toHiprandStatus status = Nvidia.toHiprandStatus status' := by
  cases status with
  | success => exact ⟨.success, rfl⟩
  | notCreated => exact ⟨.notInitialized, rfl⟩
  | versionMismatch => exact ⟨.versionMismatch, rfl⟩
  | allocationFailed => exact ⟨.allocationFailed, rfl⟩
  | typeError => exact ⟨.typeError, rfl⟩
  | outOfRange => exact ⟨.outOfRange, rfl⟩
  | lengthNotMultiple => exact ⟨.lengthNotMultiple, rfl⟩
  | doublePrecisionRequired => exact ⟨.doublePrecisionRequired, rfl⟩
  | launchFailure => exact ⟨.launchFailure, rfl⟩
  | internalError | other => exact ⟨.internalError, rfl⟩

/-- The statuses of cuRAND that no status of rocRAND has the translation of. -/
def Nvidia.CurandStatus.CurandOnly : Nvidia.CurandStatus → Prop
  | preexistingFailure | initializationFailed | archMismatch => True
  | _ => False

theorem exists_rocrandStatus {status' : Nvidia.CurandStatus} (h : ¬ status'.CurandOnly) :
    ∃ status, Amd.toHiprandStatus status = Nvidia.toHiprandStatus status' := by
  cases status' with
  | success => exact ⟨.success, rfl⟩
  | notInitialized => exact ⟨.notCreated, rfl⟩
  | versionMismatch => exact ⟨.versionMismatch, rfl⟩
  | allocationFailed => exact ⟨.allocationFailed, rfl⟩
  | typeError => exact ⟨.typeError, rfl⟩
  | outOfRange => exact ⟨.outOfRange, rfl⟩
  | lengthNotMultiple => exact ⟨.lengthNotMultiple, rfl⟩
  | doublePrecisionRequired => exact ⟨.doublePrecisionRequired, rfl⟩
  | launchFailure => exact ⟨.launchFailure, rfl⟩
  | internalError | other => exact ⟨.internalError, rfl⟩
  | preexistingFailure | initializationFailed | archMismatch => exact absurd trivial h

/-- The same events on rocRAND and on cuRAND. -/
def SameEvents (X : Sig) :
    List (Event (Backend.rocrand.sig X)) → List (Event (Backend.curand.sig X)) → Prop :=
  List.Forall₂ (Beside (Backend.rocrand.Same .curand) X)

section Portable

variable {ε α : Type} {X : Sig} {p : Prog (hostSig.sum X) ε α}

theorem link_iff_of_same (hp : Issues (OnHost fun call => ¬ call.RocrandOnly) p)
    {t : List (Event (Backend.rocrand.sig X))} {t' : List (Event (Backend.curand.sig X))}
    {r : Except (Fault ε) α} (h : SameEvents X t t') :
    Traces (Backend.rocrand.link p) t r ↔ Traces (Backend.curand.link p) t' r := by
  have hagree : Issues (OnHost (Backend.rocrand.Agree .curand)) p :=
    hp.mono fun op hop => by
      cases op with
      | inl call => exact agree_of_portable hop
      | inr op => trivial
  have hagree' : Issues (OnHost (Backend.curand.Agree .rocrand)) p :=
    hagree.mono fun op hop => by
      cases op with
      | inl call => exact ⟨hop.1.symm, hop.2.symm⟩
      | inr op => trivial
  have h' : List.Forall₂ (Beside (Backend.curand.Same .rocrand) X) t' t :=
    (List.Forall₂.imp (fun _ _ hxy => Backend.Same.symm hxy) h).flip
  constructor
  · intro ht
    exact Backend.follows_link hagree t t' r ht h
  · intro ht'
    exact Backend.follows_link hagree' t' t r ht' h'

/-- What happens on rocRAND can happen on cuRAND. -/
theorem exists_on_curand (hp : Issues (OnHost fun call => ¬ call.RocrandOnly) p)
    {t : List (Event (Backend.rocrand.sig X))} {r : Except (Fault ε) α}
    (ht : Traces (Backend.rocrand.link p) t r) : ∃ t', SameEvents X t t' := by
  refine Backend.exists_counterpart fun e he => ?_
  have hcall := Backend.onLibrary_of_traces hp ht e he
  match e, hcall with
  | ⟨.inl c, status⟩, hcall =>
    have htranslates : HostCall.Translates (Backend.rocrand.hostCall c) :=
      (Amd.forwards.implemented_iff _).mpr ⟨c, rfl⟩
    obtain ⟨c', hc'⟩ := (Nvidia.forwards.implemented_iff _).mp ⟨htranslates, hcall⟩
    obtain ⟨status', hstatus⟩ := exists_curandStatus status
    exact ⟨⟨c', status'⟩, hc'.symm, hstatus⟩
  | ⟨.inr op, a⟩, _ => trivial

/-- What happens on cuRAND without its own statuses can happen on rocRAND. -/
theorem exists_on_rocrand {t' : List (Event (Backend.curand.sig X))}
    (hstatus : ∀ e ∈ t', Backend.OnLibrary (b := .curand) (fun _ status => ¬ status.CurandOnly) e) :
    ∃ t, SameEvents X t t' := by
  have hcounterpart : ∃ t, List.Forall₂ (Beside (Backend.curand.Same .rocrand) X) t' t := by
    refine Backend.exists_counterpart fun e he => ?_
    have hknown := hstatus e he
    match e, hknown with
    | ⟨.inl c, status'⟩, hknown =>
      have himplemented := (Nvidia.forwards.implemented_iff _).mpr ⟨c, rfl⟩
      obtain ⟨c', hc'⟩ := (Amd.forwards.implemented_iff _).mp himplemented.1
      obtain ⟨status, hsame⟩ := exists_rocrandStatus hknown
      exact ⟨⟨c', status⟩, hc'.symm, hsame.symm⟩
    | ⟨.inr op, a⟩, _ => trivial
  obtain ⟨t, ht⟩ := hcounterpart
  exact ⟨t, (List.Forall₂.imp (fun _ _ hxy => Backend.Same.symm hxy) ht).flip⟩

/-- A client does the same on both backends. Where corresponding functions answer statuses
with the same translation it ends in the same way. Everything that can happen on rocRAND
can happen on cuRAND, and what can happen on cuRAND can happen on rocRAND unless cuRAND
answers one of the three statuses that rocRAND does not have. -/
structure Portable (p : Prog (hostSig.sum X) ε α) : Prop where
  same_end : ∀ t t' r, SameEvents X t t' →
    (Traces (Backend.rocrand.link p) t r ↔ Traces (Backend.curand.link p) t' r)
  to_curand : ∀ t r, Traces (Backend.rocrand.link p) t r →
    ∃ t', SameEvents X t t' ∧ Traces (Backend.curand.link p) t' r
  to_rocrand : ∀ t' r, Traces (Backend.curand.link p) t' r →
    (∀ e ∈ t', Backend.OnLibrary (b := .curand) (fun _ status => ¬ status.CurandOnly) e) →
    ∃ t, SameEvents X t t' ∧ Traces (Backend.rocrand.link p) t r

theorem Portable.of_issues (hp : Issues (OnHost fun call => ¬ call.RocrandOnly) p) :
    Portable p where
  same_end t t' r h := link_iff_of_same hp h
  to_curand t r ht := by
    obtain ⟨t', h⟩ := exists_on_curand hp ht
    exact ⟨t', h, (link_iff_of_same hp h).mp ht⟩
  to_rocrand t' r ht' hstatus := by
    obtain ⟨t, h⟩ := exists_on_rocrand hstatus
    exact ⟨t, h, (link_iff_of_same hp h).mpr ht'⟩

end Portable

/-- A client that uses none of the five functions that cuRAND lacks does the same on both
backends. -/
theorem clients_portable {ε α : Type} {X : Sig} {p : Prog (hostSig.sum X) ε α}
    (hp : Issues (OnHost fun call => ¬ call.RocrandOnly) p) : Portable p :=
  .of_issues hp

/-- A client that asks for the version and uses nothing else. -/
def askVersion : Prog (hostSig.sum ⟨Empty, Empty.elim⟩) Empty HiprandStatus :=
  .perform (S := hostSig.sum ⟨Empty, Empty.elim⟩) (.inl (.hiprandGetVersion 4096))

/-- An answer of rocRAND to it has a counterpart on cuRAND, with the same end. -/
theorem askVersion_portable :
    ∃ t', SameEvents ⟨Empty, Empty.elim⟩
        [⟨.inl (.rocrandGetVersion 4096), Amd.RocrandStatus.notCreated⟩] t' ∧
      Traces (Backend.curand.link askVersion) t' (.ok HiprandStatus.notInitialized) := by
  have hp : Issues (OnHost fun call => ¬ call.RocrandOnly) askVersion :=
    ⟨fun h => h, fun _ => trivial⟩
  exact (clients_portable hp).to_curand _ _ (.call .ret)

end HipRand
