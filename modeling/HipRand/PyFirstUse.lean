import HipRand.PyLifetime

/-!
# The first use of the HIP runtime

The first attribute that is read of the global `hiprand` loads both libraries, but the
global `hip` is `None` until then, and nothing loads it when it is used. On a system where
the libraries can be loaded, this file follows the lookups of the HIP functions through
every sequence of calls.

Results:
1. `hiprandAttr_loads`: any use of `hiprand` leaves a HIP runtime.
2. `triple_loaded`, `triple_usesHiprand`, `triple_idle`: with a runtime every call keeps
   it; without one, a call that uses `hiprand` loads it, and a call that needs neither
   changes nothing.
3. `hip_loaded_before_lookups`: if `empty`, `copy_to_host` and the other calls that need
   the runtime come after some use of `hiprand`, every lookup finds its function.
-/

namespace HipRand.Py

open Interaction Transition

/-! ## Sessions -/

/-- A lookup `hip.name`: what `hip` was, and what the lookup gave. -/
structure HipLookup where
  name : HipFn
  handle : Option HipLibrary
  found : Except PyError Unit

/-- The runtime was loaded, and the function was there. -/
def HipLookup.Succeeded (l : HipLookup) : Prop :=
  l.handle ≠ none ∧ l.found = .ok ()

/-- The state of the two modules of the package. -/
structure Modules where
  globals : Globals
  /-- What the finalizers that were registered and have not run release. -/
  registered : List Resource
  lookups : List HipLookup

def Modules.fresh : Modules where
  globals := .fresh
  registered := []
  lookups := []

/-- Every needed library loads: `libhiprand.so`, and one with the HIP runtime. -/
def Provides (attempt : Attempt) : Prop :=
  (∃ u, attempt .libhiprand = .ok u) ∧
    ((∃ u, attempt .libamdhip64 = .ok u) ∨ ∃ u, attempt .libcudart = .ok u)

/-- The effect of a call on the modules. Functions of the backend may answer anything, and
`np.empty` refuses a negative dimension. -/
def modulesHandle : (op : Op) → Modules → op.Ans → Modules → Prop
  | .hiprandAttr _, s, found, s' => ∃ attempt, Provides attempt ∧
    found = (access attempt .global s.globals).result ∧
      s' = { s with globals := (access attempt .global s.globals).globals }
  | .hipAttr name, s, found, s' => found = accessHip s.globals name.attribute ∧
    s' = { s with lookups := s.lookups ++ [⟨name, s.globals.hip, found⟩] }
  | .finalize _ r, s, _, s' => s' = { s with registered := r :: s.registered }
  | .npEmpty shape _, s, created, s' =>
    ((∃ d ∈ shape, d < 0) → ∃ e, created = .error e) ∧ s' = s
  | _, s, _, s' => s' = s

def modulesCalls : Env pySig Modules where
  handle := modulesHandle
  rely _ _ := False

/-- Some finalizer runs. Which objects are unreachable does not matter here. -/
def Modules.Finalizes (s s' : Modules) : Prop :=
  ∃ r ∈ s.registered, ∃ res,
    Runs modulesCalls r.finalizer { s with registered := s.registered.erase r } res s'

/-- Calls while finalizers run at any moment. -/
def modulesEnv : Env pySig Modules where
  handle := modulesHandle
  rely := Modules.Finalizes

/-- The objects of the package that the call is given. The memory of a device array may
come from elsewhere. -/
def ClientCall.given : ClientCall → List PyObj
  | array _ _ _ => []
  | c => c.args

structure Session where
  modules : Modules
  /-- The objects that the calls returned. -/
  objs : List PyObj
  calls : List ClientCall

def Session.fresh : Session where
  modules := .fresh
  objs := []
  calls := []

inductive SessionLabel
  | call (c : ClientCall)
  | finalizer

/-- Calls in any order, from a fresh import. -/
def session : System Session SessionLabel where
  init s := s = .fresh
  step s label s' :=
    match label with
    | .call c => (∀ x ∈ c.given, x ∈ s.objs) ∧ ∃ r, Runs modulesEnv c.prog s.modules r s'.modules ∧
      s'.objs = r.toOption.getD [] ++ s.objs ∧ s'.calls = s.calls ++ [c]
    | .finalizer => s.modules.Finalizes s'.modules ∧ s'.objs = s.objs ∧ s'.calls = s.calls

/-! ## Calls that need the runtime -/

/-- `copy_to_host` gets as far as the copy. Without a target it creates one first, which
`np.empty` refuses for a negative dimension. -/
def DeviceNDArray.AcceptsTarget (self : DeviceNDArray) : Option NdArray → Prop
  | none => ∀ d ∈ self.shape, 0 ≤ d
  | some ary => self.dtype = ary.dtype ∧ self.size.value ≤ ary.size

/-- The call looks up a function of the HIP runtime, and has not used `hiprand` before. -/
def ClientCall.AssumesHip : ClientCall → Prop
  | memory _ | array _ _ none | streamSynchronize _ => True
  | copyToHost dary ary => dary.AcceptsTarget ary
  | _ => False

/-- The call reads an attribute of `hiprand`. -/
def ClientCall.UsesHiprand : ClientCall → Prop
  | prng _ _ _ _ _ | qrng _ _ _ _ _ | setOffset _ _ | setStream _ _ | setSeed _ _ | setNdim _ _
  | getVersion => True
  | generating m _ ary _ => m.Supports ary.dtype
  | _ => False

def Session.Used (s : Session) : Prop :=
  ∃ c ∈ s.calls, c.UsesHiprand

/-- A call that assumes the runtime comes after one that used `hiprand`. -/
def UsedFirst (s : Session) : SessionLabel → Prop
  | .call c => c.AssumesHip → s.Used
  | .finalizer => True

/-! ## With the runtime -/

/-- The runtime has been loaded, and every lookup so far has succeeded. -/
structure Loaded (s : Modules) : Prop where
  hip : s.globals.hip ≠ none
  succeeded : ∀ l ∈ s.lookups, l.Succeeded

section Steps

variable {s s' : Modules}

/-- A use of `hiprand` on such a system finds its function and leaves a runtime. -/
theorem access_provides {attempt : Attempt} {g : Globals} (h : Provides attempt) (hg : Agree g) :
    (access attempt .global g).result = .ok () ∧ (access attempt .global g).globals.hip ≠ none := by
  rcases access_cases attempt .global g with ⟨hl, hok, heq⟩ | ⟨_, hfail, _, _, _⟩ |
    ⟨_, _, _, hok, _, hhip, _⟩ | ⟨_, _, hav, _, _, _, _⟩
  · refine ⟨hok, ?_⟩
    rw [heq]
    cases hglobal : g.hiprand with
    | placeholder => exact absurd (.inr hglobal) hl
    | library => exact hg hglobal
  · obtain ⟨u, hu⟩ := h.1
    exact absurd hu (hfail u)
  · exact ⟨hok, hhip⟩
  · exact absurd (.inr h.2) hav

theorem hiprandAttr_loads {name : HiprandFn} {found : Except PyError Unit}
    (hagree : Agree s.globals) (hlookups : ∀ l ∈ s.lookups, l.Succeeded)
    (hh : modulesHandle (.hiprandAttr name) s found s') : found = .ok () ∧ Loaded s' := by
  obtain ⟨attempt, hattempt, rfl, rfl⟩ := hh
  obtain ⟨hok, hhip⟩ := access_provides hattempt hagree
  exact ⟨hok, hhip, hlookups⟩

/-- Once it is loaded, any call keeps the runtime, and a lookup finds its function. -/
theorem Loaded.handle {op : Op} {ans : op.Ans} (h : Loaded s) (hh : modulesHandle op s ans s') :
    Loaded s' := by
  cases op with
  | hiprandAttr name => exact (hiprandAttr_loads (fun _ => h.hip) h.succeeded hh).2
  | hipAttr name =>
    obtain ⟨rfl, rfl⟩ := hh
    refine ⟨h.hip, fun l hl => ?_⟩
    rcases List.mem_append.mp hl with hl | hl
    · exact h.succeeded l hl
    · rw [List.mem_singleton.mp hl]
      exact ⟨h.hip, (accessHip_iff_serves ⟨0, 0⟩).mpr h.hip⟩
  | finalize self r =>
    obtain rfl : s' = _ := hh
    exact ⟨h.hip, h.succeeded⟩
  | npEmpty shape dtype =>
    obtain ⟨_, rfl⟩ := hh
    exact h
  | _ =>
    obtain rfl : s' = s := hh
    exact h

/-- A finalizer does not unload the runtime. -/
theorem stable_loaded : Stable modulesEnv Loaded := by
  intro s s' h ⟨r, _, res, hrun⟩
  have hkept : Triple modulesCalls Loaded r.finalizer fun _ => Loaded :=
    (Issues.any _).triple (fun _ _ _ => False.elim) fun _ _ _ _ _ hs hh => hs.handle hh
  have herased : Loaded { s with registered := s.registered.erase r } := ⟨h.hip, h.succeeded⟩
  exact hkept _ _ _ herased hrun

/-- After a fresh import there is no finalizer to run. -/
theorem stable_fresh : Stable modulesEnv fun s => s = .fresh := by
  rintro _ s' rfl ⟨r, hr, _⟩
  cases hr

end Steps

/-! ## The calls -/

section Calls

variable {α β : Type}

/-- With a runtime, every program keeps it and every lookup finds its function. -/
theorem triple_loaded (p : PyProg α) : Triple modulesEnv Loaded p fun _ => Loaded :=
  (Issues.any p).triple stable_loaded fun _ _ _ _ _ hs hh => hs.handle hh

theorem triple_firstUse (name : HiprandFn) :
    Triple modulesEnv (fun s => s = .fresh) (hiprandAttr name) fun _ => Loaded := by
  refine triple_hiprandAttr stable_fresh (fun _ => stable_loaded) ?_
  rintro s found s' rfl hh
  have hagree : Agree Modules.fresh.globals := fun h => by cases h
  have hlookups : ∀ l ∈ Modules.fresh.lookups, l.Succeeded := fun l hl => by cases hl
  exact (hiprandAttr_loads hagree hlookups hh).2

/-- What follows a program that loads the runtime. -/
theorem triple_thenLoaded {p : PyProg α} {f : α → PyProg β}
    (hp : Triple modulesEnv (fun s => s = .fresh) p fun _ => Loaded) :
    Triple modulesEnv (fun s => s = .fresh) (p >>= f) fun _ => Loaded :=
  hp.andThen (fun _ _ hs => hs) fun a => triple_loaded (f a)

theorem triple_RNG_create_loads {rngtype : Int} {isHost : Bool} :
    Triple modulesEnv (fun s => s = .fresh) (RNG.create rngtype isHost) fun _ => Loaded := by
  refine .perform_bind (R := fun _ s => s = .fresh) stable_fresh ?_ fun self =>
    triple_thenLoaded (triple_firstUse _)
  intro s ans s' hs hh
  exact Eq.trans hh hs

theorem triple_setter_loads {self : ObjId} {gen : Generator} {name : HiprandFn}
    {setting : Except PyError Setting} {write : AttrWrite} :
    Triple modulesEnv (fun s => s = .fresh)
      (callSetter gen name setting >>= fun _ => perform (.setAttr self write))
      fun _ => Loaded :=
  triple_thenLoaded (triple_thenLoaded (triple_firstUse name))

/-- The first call of a session that uses `hiprand` loads the runtime. -/
theorem triple_usesHiprand {c : ClientCall} (hc : c.UsesHiprand) :
    Triple modulesEnv (fun s => s = .fresh) c.prog fun _ => Loaded := by
  cases c with
  | prng rngtype seed offset stream isHost =>
    exact triple_thenLoaded (triple_thenLoaded (triple_thenLoaded triple_RNG_create_loads))
  | qrng rngtype ndim offset stream isHost =>
    exact triple_thenLoaded (triple_thenLoaded (triple_thenLoaded triple_RNG_create_loads))
  | setOffset rng offset => exact triple_thenLoaded triple_setter_loads
  | setStream rng stream => exact triple_thenLoaded triple_setter_loads
  | setSeed rng seed => exact triple_thenLoaded triple_setter_loads
  | setNdim rng ndim => exact triple_thenLoaded triple_setter_loads
  | getVersion => exact triple_thenLoaded (triple_thenLoaded (triple_firstUse _))
  | generating m rng ary size =>
    refine triple_thenLoaded ?_
    obtain ⟨⟨func, args⟩, hdisp⟩ := Option.isSome_iff_exists.mp hc
    rw [GenMethod.call_of_dispatch hdisp]
    exact triple_thenLoaded (triple_firstUse func.name)
  | memory | array | copyToHost | streamSynchronize => exact hc.elim

/-- A target that `copy_to_host` refuses, or cannot create. -/
theorem triple_copyTarget_refuses {dary : DeviceNDArray} {ary : Option NdArray}
    (h : ¬ dary.AcceptsTarget ary) :
    Triple modulesEnv (fun s => s = .fresh) (dary.copyTarget ary)
      fun r s => (∃ e, r = .error e) ∧ s = .fresh := by
  cases ary with
  | none =>
    have hnegative : ∃ d ∈ dary.shape, d < 0 := by
      simpa [DeviceNDArray.AcceptsTarget] using h
    refine .perform_bind (R := fun created s => (∃ e, created = .error e) ∧ s = .fresh)
      stable_fresh ?_ fun created => .assuming ?_
    · rintro s created s' rfl ⟨hrefused, hs'⟩
      exact ⟨hrefused hnegative, hs'⟩
    · rintro ⟨e, rfl⟩
      exact .throw stable_fresh fun _ hs => ⟨⟨e, rfl⟩, hs⟩
  | some ary =>
    obtain ⟨⟨e, he⟩, _⟩ := (dary.copyTarget_cases ary).resolve_left fun hok => h hok.2
    rw [he]
    exact .throw stable_fresh fun _ hs => ⟨⟨e, rfl⟩, hs⟩

/-- A call that needs neither library leaves the modules as they were imported. -/
theorem triple_idle {c : ClientCall} (hassumes : ¬ c.AssumesHip) (huses : ¬ c.UsesHiprand) :
    Triple modulesEnv (fun s => s = .fresh) c.prog fun _ s => s = .fresh := by
  cases c with
  | array shape dtype data =>
    cases data with
    | none => exact absurd trivial hassumes
    | some data =>
      refine .perform_bind (R := fun _ s => s = .fresh) stable_fresh ?_ fun self =>
        .ret stable_fresh fun _ hs => hs
      intro s ans s' hs hh
      exact Eq.trans hh hs
  | copyToHost dary ary =>
    have hrefused := triple_copyTarget_refuses hassumes
    have hcopy : Triple modulesEnv (fun s => s = .fresh) (dary.copyToHost ary)
        fun r s => (∃ e, r = .error e) ∧ s = .fresh :=
      hrefused.andThen (fun e _ hs => ⟨⟨e, rfl⟩, hs.2⟩) fun _ => .assuming fun ⟨_, he⟩ => nomatch he
    exact hcopy.andThen (fun _ _ hs => hs.2) fun _ => .assuming fun ⟨_, he⟩ => nomatch he
  | generating m rng ary size =>
    have hdisp : m.dispatch ary.dtype = none := Option.not_isSome_iff_eq_none.mp huses
    show Triple modulesEnv _ ((m.call rng ary size).bind _) _
    rw [GenMethod.call_of_unsupported hdisp]
    exact .throw stable_fresh fun _ hs => hs
  | memory | streamSynchronize => exact absurd trivial hassumes
  | prng | qrng | setOffset | setStream | setSeed | setNdim | getVersion =>
    exact absurd trivial huses

end Calls

/-! ## Without the runtime -/

/-- Some run of the program from `s` raises where a lookup does not find its function. -/
def FailsAtLookup {α : Type} (p : PyProg α) (s : Modules) : Prop :=
  ∃ e s', Runs modulesEnv p s (.error e) s' ∧ ∃ l ∈ s'.lookups, ¬ l.Succeeded

section Failures

variable {α β : Type} {s s₁ : Modules}

theorem FailsAtLookup.bind {p : PyProg α} (h : FailsAtLookup p s) (f : α → PyProg β) :
    FailsAtLookup (p.bind f) s := by
  obtain ⟨e, s', hrun, hl⟩ := h
  exact ⟨e, s', hrun.bind_error, hl⟩

theorem FailsAtLookup.call {op : Op} {ans : op.Ans} {k : op.Ans → PyProg α}
    (hh : modulesHandle op s ans s₁) (h : FailsAtLookup (k ans) s₁) :
    FailsAtLookup (Prog.call op k) s := by
  obtain ⟨e, s', hrun, hl⟩ := h
  exact ⟨e, s', .call hh hrun, hl⟩

theorem failsAtLookup_hipAttr (name : HipFn) (hhip : s.globals.hip = none) :
    FailsAtLookup (hipAttr name) s := by
  obtain ⟨e, he⟩ : ∃ e, accessHip s.globals name.attribute = .error e := by
    unfold accessHip
    rw [hhip]
    exact ⟨_, rfl⟩
  have hh : modulesHandle (.hipAttr name) s (.error e)
      { s with lookups := s.lookups ++ [⟨name, s.globals.hip, .error e⟩] } := ⟨he.symm, rfl⟩
  exact ⟨e, _, .call hh .throw, _, List.mem_append_right _ (List.mem_singleton_self _),
    fun hl => hl.1 hhip⟩

theorem failsAtLookup_memoryPointer (nbytes : PyNum) (hhip : s.globals.hip = none) :
    FailsAtLookup (MemoryPointer.init nbytes) s := by
  have hnew : modulesHandle .new s (0 : ObjId) s := rfl
  exact .call hnew ((failsAtLookup_hipAttr .hipMalloc hhip).bind _)

theorem failsAtLookup_copyToHost {dary : DeviceNDArray} {ary : Option NdArray}
    (hary : dary.AcceptsTarget ary) (hhip : s.globals.hip = none) :
    FailsAtLookup (dary.copyToHost ary) s := by
  cases ary with
  | none =>
    have hempty :
        modulesHandle (.npEmpty dary.shape dary.dtype) s (.ok ⟨dary.dtype, [], [], 0⟩) s :=
      ⟨fun ⟨d, hd, hneg⟩ => absurd (hary d hd) (not_le.mpr hneg), rfl⟩
    exact .call hempty ((failsAtLookup_hipAttr .hipMemcpy hhip).bind _)
  | some ary =>
    have htarget := (dary.copyTarget_cases ary).resolve_right fun hno => hno.2 hary
    show FailsAtLookup ((dary.copyTarget (some ary)).bind _) s
    rw [htarget.1]
    exact (failsAtLookup_hipAttr .hipMemcpy hhip).bind _

/-- A call that assumes the runtime may get as far as the lookup. -/
theorem failsAtLookup_clientCall {c : ClientCall} (hc : c.AssumesHip)
    (hhip : s.globals.hip = none) : FailsAtLookup c.prog s := by
  cases c with
  | memory nbytes => exact (failsAtLookup_memoryPointer nbytes hhip).bind _
  | array shape dtype data =>
    cases data with
    | some data => exact hc.elim
    | none =>
      have hnew : modulesHandle .new s (0 : ObjId) s := rfl
      have hinit : FailsAtLookup (DeviceNDArray.init shape dtype none) s :=
        .call hnew ((failsAtLookup_memoryPointer _ hhip).bind _)
      exact hinit.bind _
  | copyToHost dary ary => exact (failsAtLookup_copyToHost hc hhip).bind _
  | streamSynchronize stream =>
    have hsync : FailsAtLookup (Py.streamSynchronize stream) s :=
      (failsAtLookup_hipAttr .hipStreamSynchronize hhip).bind _
    exact hsync.bind _
  | _ => exact hc.elim

end Failures

/-! ## Runs -/

/-- Until `hiprand` is used nothing changes; from then on the runtime is there. -/
structure Ordered (s : Session) : Prop where
  used : s.Used → Loaded s.modules
  unused : ¬ s.Used → s.modules = .fresh

section Runs

variable {s s' : Session}

theorem used_append_iff {c : ClientCall} (h : s'.calls = s.calls ++ [c]) :
    s'.Used ↔ s.Used ∨ c.UsesHiprand := by
  simp only [Session.Used, h, List.mem_append, List.mem_singleton, or_and_right, exists_or,
    exists_eq_left]

theorem Ordered.step {label : SessionLabel} (h : Ordered s) (hfirst : UsedFirst s label)
    (hstep : session.step s label s') : Ordered s' := by
  cases label with
  | finalizer =>
    obtain ⟨hfinal, _, hcalls⟩ := hstep
    have hused : s'.Used ↔ s.Used := by rw [Session.Used, Session.Used, hcalls]
    exact ⟨fun hu => stable_loaded _ _ (h.used (hused.mp hu)) hfinal,
      fun hu => stable_fresh _ _ (h.unused (hused.not.mp hu)) hfinal⟩
  | call c =>
    obtain ⟨_, r, hrun, _, hcalls⟩ := hstep
    have hused := used_append_iff hcalls
    by_cases hbefore : s.Used
    · have hloaded := triple_loaded c.prog _ _ _ (h.used hbefore) hrun
      exact ⟨fun _ => hloaded, fun hu => absurd (hused.mpr (.inl hbefore)) hu⟩
    · have hfresh := h.unused hbefore
      by_cases huses : c.UsesHiprand
      · have hloaded := triple_usesHiprand huses _ _ _ hfresh hrun
        exact ⟨fun _ => hloaded, fun hu => absurd (hused.mpr (.inr huses)) hu⟩
      · have hidle := triple_idle (fun hc => hbefore (hfirst hc)) huses _ _ _ hfresh hrun
        exact ⟨fun hu => absurd (hused.mp hu) (not_or.mpr ⟨hbefore, huses⟩), fun _ => hidle⟩

theorem Ordered.of_reachable (h : (session.only UsedFirst).Reachable s) : Ordered s := by
  refine h.invariant_only ?_ fun s label s' hs hfirst hstep => hs.step hfirst hstep
  rintro s rfl
  exact ⟨fun ⟨_, hc, _⟩ => absurd hc List.not_mem_nil, fun _ => rfl⟩

theorem Ordered.succeeded (h : Ordered s) : ∀ l ∈ s.modules.lookups, l.Succeeded := by
  by_cases hused : s.Used
  · exact (h.used hused).succeeded
  · rw [h.unused hused]
    exact List.forall_mem_nil _

end Runs

/-- In every run in which the calls that assume the runtime come after one that used
`hiprand`, each lookup of a HIP function found the runtime and its function. The next call
keeps this, whatever the backend answers, exactly if it comes in that order too. -/
theorem hip_loaded_before_lookups {s : Session} (h : (session.only UsedFirst).Reachable s) :
    (∀ l ∈ s.modules.lookups, l.handle ≠ none ∧ l.found = .ok ()) ∧
    ∀ c : ClientCall, (∀ x ∈ c.given, x ∈ s.objs) →
      ((∀ s', session.step s (.call c) s' →
          ∀ l ∈ s'.modules.lookups, l.handle ≠ none ∧ l.found = .ok ()) ↔
        UsedFirst s (.call c)) := by
  have hordered := Ordered.of_reachable h
  refine ⟨hordered.succeeded, fun c hgiven => ⟨fun hall hc => ?_, fun hfirst s' hstep => ?_⟩⟩
  · -- without an earlier use, the call itself is a run that fails at its lookup
    by_contra hunused
    have hhip : s.modules.globals.hip = none := by
      rw [hordered.unused hunused]
      rfl
    obtain ⟨e, s₁, hrun, l, hl, hfails⟩ := failsAtLookup_clientCall hc hhip
    exact hfails (hall ⟨s₁, s.objs, s.calls ++ [c]⟩ ⟨hgiven, _, hrun, rfl, rfl⟩ l hl)
  · exact (hordered.step hfirst hstep).succeeded

/-- After `get_version()`. -/
def afterVersion : Modules :=
  { Modules.fresh with globals := ⟨.library, some .amdhip64⟩ }

/-- During `empty((4,), numpy.uint32)` after it: `hipMalloc` has been looked up. -/
def inEmpty : Modules :=
  { afterVersion with lookups := [⟨.hipMalloc, some .amdhip64, .ok ()⟩] }

/-- `get_version()` and then `empty((4,), numpy.uint32)`. -/
theorem loaded_by_getVersion :
    ∃ s, (session.only UsedFirst).Reachable s ∧ s.modules.lookups ≠ [] ∧
      ∀ l ∈ s.modules.lookups, l.handle ≠ none ∧ l.found = .ok () := by
  have hattr : modulesEnv.handle (.hiprandAttr .hiprandGetVersion) .fresh (.ok ()) afterVersion :=
    ⟨fun _ => .ok (), ⟨⟨(), rfl⟩, .inl ⟨(), rfl⟩⟩, rfl, rfl⟩
  have hget : modulesEnv.handle .getVersion afterVersion (HIPRAND_STATUS_SUCCESS, (200 : Int))
      afterVersion := rfl
  have hversion : session.step .fresh (.call .getVersion) ⟨afterVersion, [], [.getVersion]⟩ :=
    ⟨List.forall_mem_nil _, .ok [], .call hattr (.call hget .ret), rfl, rfl⟩
  have hnew (o : ObjId) : modulesEnv.handle .new afterVersion o afterVersion := rfl
  have hlookup : modulesEnv.handle (.hipAttr .hipMalloc) afterVersion (.ok ()) inEmpty := ⟨rfl, rfl⟩
  have hmalloc : modulesEnv.handle (.hipMalloc 16) inEmpty (hipSuccess, ⟨0, 65536⟩) inEmpty := rfl
  have hfinalize : modulesEnv.handle (.finalize 1 (.memory ⟨0, 65536⟩)) inEmpty ()
      { inEmpty with registered := [.memory ⟨0, 65536⟩] } := rfl
  have hrun : Runs modulesEnv (ClientCall.array (.tuple [4]) .uint32 none).prog afterVersion _ _ :=
    .call (hnew 0) (.call (hnew 1) (.call hlookup (.call hmalloc (.call hfinalize .ret))))
  have hfirst : UsedFirst .fresh (.call .getVersion) := False.elim
  have hthen : UsedFirst ⟨afterVersion, [], [.getVersion]⟩
      (.call (.array (.tuple [4]) .uint32 none)) :=
    fun _ => ⟨.getVersion, List.mem_singleton_self _, trivial⟩
  have hempty : session.step ⟨afterVersion, [], [.getVersion]⟩
      (.call (.array (.tuple [4]) .uint32 none))
      ⟨_, _, [.getVersion, .array (.tuple [4]) .uint32 none]⟩ :=
    ⟨List.forall_mem_nil _, _, hrun, rfl, rfl⟩
  have hinit : (session.only UsedFirst).Reachable .fresh := .init rfl
  have hreach := (hinit.step ⟨hfirst, hversion⟩).step ⟨hthen, hempty⟩
  exact ⟨_, hreach, List.cons_ne_nil _ _, (hip_loaded_before_lookups hreach).1⟩

/-- `empty((4,), numpy.uint32)` right after the import: nothing has loaded the runtime. -/
theorem empty_before_first_use :
    ∃ s, session.Reachable s ∧ ∃ l ∈ s.modules.lookups, l.handle = none ∧
      l.found = .error (.attributeError "'NoneType' object has no attribute 'hipMalloc'") := by
  have hnew (o : ObjId) : modulesEnv.handle .new .fresh o .fresh := rfl
  have hlookup : modulesEnv.handle (.hipAttr .hipMalloc) .fresh
      (.error (.attributeError "'NoneType' object has no attribute 'hipMalloc'"))
      { Modules.fresh with lookups := [⟨.hipMalloc, none,
        .error (.attributeError "'NoneType' object has no attribute 'hipMalloc'")⟩] } := ⟨rfl, rfl⟩
  have hrun : Runs modulesEnv (ClientCall.array (.tuple [4]) .uint32 none).prog .fresh _ _ :=
    .call (hnew 0) (.call (hnew 1) (.call hlookup .throw))
  have hstep : session.step .fresh (.call (.array (.tuple [4]) .uint32 none)) ⟨_, _, _⟩ :=
    ⟨List.forall_mem_nil _, _, hrun, rfl, rfl⟩
  exact ⟨_, (System.Reachable.init rfl).step hstep, _, List.mem_singleton_self _, rfl, rfl⟩

end HipRand.Py
