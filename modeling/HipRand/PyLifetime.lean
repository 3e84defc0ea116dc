import HipRand.Lib.Ledger
import HipRand.PyApi
import HipRand.PyLoading

/-!
# Lifetimes of generators and device memory

`RNG.__init__` and `MemoryPointer.__init__` register a finalizer right after the
backend gave them a resource. A finalizer runs once, at some moment after its object
became unreachable: while a call is going on, between calls, or at the exit of the
interpreter, when nothing is reachable any more. Objects are reachable through the
references that the client holds, of which a device array leads on to its
`MemoryPointer`, or as objects that the current call created. Calls that exit handlers
make after the finalizers of the exit, and objects made with `copy.copy`, which share a
resource but not its finalizer, are outside these runs.

Results:
1. `Finalizes.spec`: a finalizer releases its resource, whatever happens.
2. `stable_during`: what a call relies on is kept while finalizers run.
3. `triple_clientCall`: a call of the package, wherever it fails, leaves every
   resource that it acquired with one finalizer.
4. `resources_released_once`: exactly-once release in every run.
-/

namespace HipRand.Py

open Interaction Transition Ledger

/-! ## References and the world -/

/-- What the client can hold a reference to. The attributes of a generator object that
can be assigned do not matter here. -/
inductive PyObj
  | rng (id : ObjId) (gen : Generator) (isHost : Bool)
  | memory (mem : MemoryPointer)
  | array (dary : DeviceNDArray)

namespace PyObj

/-- The objects that the reference keeps alive. -/
def ids : PyObj → List ObjId
  | rng id _ _ => [id]
  | memory mem => [mem.id]
  | array dary => [dary.id, dary.data.id]

/-- The one of them that has a finalizer. -/
def holder : PyObj → ObjId
  | rng id _ _ => id
  | memory mem => mem.id
  | array dary => dary.data.id

/-- What its finalizer releases. -/
def resource : PyObj → Resource
  | rng _ gen _ => .generator gen
  | memory mem => .memory mem.ptr
  | array dary => .memory dary.data.ptr

theorem holder_mem_ids (x : PyObj) : x.holder ∈ x.ids := by
  cases x <;> simp [holder, ids]

end PyObj

structure World where
  globals : Globals
  /-- The references of the client. -/
  roots : List PyObj
  /-- The objects that the current call created. -/
  frame : List ObjId
  /-- The finalizers that were registered and have not run. -/
  pending : ObjId → Option Resource
  /-- What the calls so far did to resources. -/
  log : List (Action Resource)
  next : ObjId
  exited : Bool

namespace World

def initial : World where
  globals := .fresh
  roots := []
  frame := []
  pending _ := none
  log := []
  next := 0
  exited := false

def Reaches (w : World) (o : ObjId) : Prop :=
  o ∈ w.frame ∨ ∃ x ∈ w.roots, o ∈ x.ids

def record (w : World) (actions : List (Action Resource)) : World :=
  { w with log := w.log ++ actions }

/-- The backend never gave the resource before. -/
def Unused (w : World) (r : Resource) : Prop :=
  ¬ Acquired id r w.log

end World

/-! ## Calls and finalizers -/

def HipFn.attribute : HipFn → String
  | hipMalloc => "hipMalloc"
  | hipFree => "hipFree"
  | hipMemcpy => "hipMemcpy"
  | hipStreamSynchronize => "hipStreamSynchronize"

/-- The callback of a finalizer. -/
def Resource.finalizer : Resource → PyProg Unit
  | generator gen => RNG.finalizer gen
  | memory ptr => MemoryPointer.finalizer ptr

/-- The resources that a generating call works on. -/
def generateUses (gen : Generator) : Output → List (Action Resource)
  | .host _ => [.use (.generator gen)]
  | .device ptr => [.use (.generator gen), .use (.memory ptr)]

/-- The effect of a call. Any of them can fail; a library attribute is looked up as the
globals allow, and a resource that is given is a new one. -/
def heapHandle : (op : Op) → World → op.Ans → World → Prop
  | .new, w, o, w' => o = w.next ∧ w' = { w with next := w.next + 1, frame := o :: w.frame }
  | .finalize self r, w, _, w' =>
    w' = { w with pending := Function.update w.pending self (some r) }
  | .hiprandAttr _, w, found, w' => ∃ attempt,
    found = (access attempt .global w.globals).result ∧
      w' = { w with globals := (access attempt .global w.globals).globals }
  | .hipAttr name, w, found, w' => found = accessHip w.globals name.attribute ∧ w' = w
  | .createGenerator _ _, w, (status, gen), w' =>
    if status = HIPRAND_STATUS_SUCCESS then
      w.Unused (.generator gen) ∧ w' = w.record [.acquire (.generator gen)]
    else w' = w
  | .hipMalloc _, w, (status, ptr), w' =>
    if status = hipSuccess then w.Unused (.memory ptr) ∧ w' = w.record [.acquire (.memory ptr)]
    else w' = w
  | .destroyGenerator gen, w, _, w' => w' = w.record [.release (.generator gen)]
  | .hipFree ptr, w, _, w' => w' = w.record [.release (.memory ptr)]
  | .set gen _, w, _, w' => w' = w.record [.use (.generator gen)]
  | .generate _ gen output _ _, w, _, w' => w' = w.record (generateUses gen output)
  | .hipMemcpy _ src _ _, w, _, w' => w' = w.record [.use (.memory src)]
  | _, w, _, w' => w' = w

/-- Calls while nothing else happens. -/
def heapCalls : Env pySig World where
  handle := heapHandle
  rely _ _ := False

/-- The finalizer of an unreachable object runs. -/
def Finalizes (w : World) (o : ObjId) (w' : World) : Prop :=
  ∃ r res, w.pending o = some r ∧ ¬ w.Reaches o ∧
    Runs heapCalls r.finalizer { w with pending := Function.update w.pending o none } res w'

/-- Calls while finalizers run at any moment. -/
def heapEnv : Env pySig World where
  handle := heapHandle
  rely w w' := ∃ o, Finalizes w o w'

section Handle

variable {w w' : World} {status : Int}

theorem createGenerator_heap_iff {isHost : Bool} {rngtype : CArg} {gen : Generator} :
    heapEnv.handle (.createGenerator isHost rngtype) w (status, gen) w' ↔
      (status = HIPRAND_STATUS_SUCCESS ∧ w.Unused (.generator gen) ∧
        w' = w.record [.acquire (.generator gen)]) ∨
      (¬ status = HIPRAND_STATUS_SUCCESS ∧ w' = w) :=
  ite_prop_iff_or

theorem hipMalloc_heap_iff {nbytes : CSize} {ptr : DevPtr} :
    heapEnv.handle (.hipMalloc nbytes) w (status, ptr) w' ↔
      (status = hipSuccess ∧ w.Unused (.memory ptr) ∧ w' = w.record [.acquire (.memory ptr)]) ∨
      (¬ status = hipSuccess ∧ w' = w) :=
  ite_prop_iff_or

end Handle

/-! ## The invariant -/

/-- The library of a resource is loaded. -/
def Globals.Serves (g : Globals) : Resource → Prop
  | .generator _ => g.hiprand = .library
  | .memory _ => g.hip ≠ none

/-- The books are in order. Each live resource has exactly one finalizer, except the
one in flight, which was just acquired; what the client holds has its finalizer. -/
structure Sound (w : World) (φ : Resource → Phase) (inflight : Option Resource) : Prop where
  books : Books id w.log φ
  custody : Custody w.pending φ
  covered : ∀ r, φ r = .live → inflight = some r ∨ ∃ o, w.pending o = some r
  flying : ∀ r, inflight = some r → φ r = .live ∧ ∀ o, w.pending o ≠ some r
  held : ∀ x ∈ w.roots, w.pending x.holder = some x.resource
  existing : ∀ o, w.next ≤ o → w.pending o = none
  served : ∀ o r, w.pending o = some r → w.globals.Serves r

section Globals

variable {attempt : Attempt} {g : Globals} {r : Resource}

/-- A lookup that loads does not unload. -/
theorem serves_access (h : g.Serves r) : (access attempt .global g).globals.Serves r := by
  rcases access_cases attempt .global g with ⟨_, _, hg⟩ | ⟨_, _, _, hg, _⟩ |
    ⟨_, _, _, _, hlibrary, hhip, _⟩ | ⟨_, _, hav, _, hlibrary, hhip, _⟩
  · rw [hg]
    exact h
  · rw [hg]
    exact h
  · cases r with
    | generator gen => exact hlibrary
    | memory ptr => exact hhip
  · cases r with
    | generator gen => exact hlibrary
    | memory ptr => exact absurd (.inl h) hav

/-- A loaded library is found without loading again. -/
theorem not_loads_of_serves {gen : Generator} (h : g.Serves (.generator gen)) :
    ¬ Loads .global g := by
  have hlibrary : g.hiprand = .library := h
  simp [Loads, hlibrary]

theorem accessHip_iff_serves (ptr : DevPtr) {name : String} :
    accessHip g name = .ok () ↔ g.Serves (.memory ptr) := by
  show _ ↔ g.hip ≠ none
  cases hhip : g.hip with
  | none => simp [accessHip, hhip]
  | some lib => simp [accessHip, hhip]

end Globals

theorem stable_heapCalls (P : World → Prop) : Stable heapCalls P :=
  fun _ _ _ h => h.elim

/-- A finalizer finds its library and releases its resource, whatever the backend then
answers. -/
theorem triple_finalizer {w₀ : World} {r : Resource} (hserved : w₀.globals.Serves r) :
    Triple heapCalls (fun w => w = w₀) r.finalizer fun _ w => w = w₀.record [.release r] := by
  cases r with
  | generator gen =>
    unfold Resource.finalizer RNG.finalizer
    refine .bind (R := fun _ w => w = w₀) ?_ fun _ => ?_
    · refine triple_hiprandAttr (stable_heapCalls _) (fun _ => stable_heapCalls _) ?_
      intro w found w' hw ⟨attempt, hfound, hw'⟩
      subst hw
      rw [access_direct (not_loads_of_serves hserved)] at hfound hw'
      subst hfound
      exact hw'
    refine .perform_bind (R := fun _ w => w = w₀.record [.release (.generator gen)])
      (stable_heapCalls _) ?_ fun status => ?_
    · intro w status w' hw hh
      subst hw
      exact hh
    · exact triple_checkHiprand (stable_heapCalls _) (fun _ _ h => h) fun _ _ h => h
  | memory ptr =>
    unfold Resource.finalizer MemoryPointer.finalizer
    refine .bind (R := fun _ w => w = w₀) ?_ fun _ => ?_
    · refine triple_hipAttr (stable_heapCalls _) (fun _ => stable_heapCalls _) ?_
      intro w found w' hw ⟨hfound, hw'⟩
      subst hw
      rw [(accessHip_iff_serves ptr).mpr hserved] at hfound
      subst hfound
      exact hw'
    refine .perform_bind (R := fun _ w => w = w₀.record [.release (.memory ptr)])
      (stable_heapCalls _) ?_ fun status => ?_
    · intro w status w' hw hh
      subst hw
      exact hh
    · exact triple_checkHip (stable_heapCalls _) (fun _ _ h => h) fun _ _ h => h

/-- A finalizer can run. -/
theorem exists_runs_finalizer {w : World} {r : Resource} (hserved : w.globals.Serves r) :
    ∃ w', Runs heapCalls r.finalizer w (.ok ()) w' := by
  cases r with
  | generator gen =>
    have hattr : heapHandle (.hiprandAttr .hiprandDestroyGenerator) w (.ok ()) w := by
      refine ⟨fun _ => .ok (), ?_⟩
      rw [access_direct (not_loads_of_serves hserved)]
      exact ⟨rfl, rfl⟩
    have hdestroy : heapHandle (.destroyGenerator gen) w HIPRAND_STATUS_SUCCESS
        (w.record [.release (.generator gen)]) := rfl
    have hcheck {w : World} : Runs heapCalls (checkHiprand HIPRAND_STATUS_SUCCESS) w (.ok ()) w :=
      .ret
    exact ⟨_, .call hattr (.call hdestroy hcheck)⟩
  | memory ptr =>
    have hattr : heapHandle (.hipAttr .hipFree) w (.ok ()) w :=
      ⟨((accessHip_iff_serves ptr).mpr hserved).symm, rfl⟩
    have hfree : heapHandle (.hipFree ptr) w hipSuccess (w.record [.release (.memory ptr)]) := rfl
    have hcheck {w : World} : Runs heapCalls (checkHip hipSuccess) w (.ok ()) w := .ret
    exact ⟨_, .call hattr (.call hfree hcheck)⟩

namespace Sound

variable {w w' : World} {φ : Resource → Phase} {inflight : Option Resource} {o : ObjId}
  {r : Resource}

/-- Uses of a live resource. -/
theorem use (h : Sound w φ inflight) (hlive : φ r = .live) :
    Sound (w.record [.use r]) φ inflight where
  books := h.books.uses hlive (by simp)
  custody := h.custody
  covered := h.covered
  flying := h.flying
  held := h.held
  existing := h.existing
  served := h.served

/-- A resource that was never given before is acquired. -/
theorem acquire (h : Sound w φ none) (hunused : w.Unused r) :
    Sound (w.record [.acquire r]) (Function.update φ r .live) (some r) := by
  have hfresh : φ r = .fresh := by
    by_contra hne
    exact hunused ((h.books.acquired_iff r).mpr hne)
  have hnot : ∀ o, w.pending o ≠ some r := h.custody.not_held (by rw [hfresh]; nofun)
  refine ⟨h.books.acquire rfl hfresh, h.custody.set_phase hnot .live, ?_, ?_, h.held, h.existing,
    h.served⟩
  · intro r' hlive
    by_cases hr : r' = r
    · exact .inl (by rw [hr])
    · rw [Function.update_of_ne hr] at hlive
      exact .inr ((h.covered r' hlive).resolve_left nofun)
  · intro r' hr'
    obtain rfl := Option.some.inj hr'
    exact ⟨Function.update_self .., hnot⟩

/-- An object that has no finalizer gets one for the resource in flight. -/
theorem finalize (h : Sound w φ (some r)) (hbare : w.pending o = none) (hnext : o < w.next)
    (hserved : w.globals.Serves r) :
    Sound { w with pending := Function.update w.pending o (some r) } φ none := by
  obtain ⟨hlive, hnot⟩ := h.flying r rfl
  refine ⟨h.books, h.custody.give hlive hnot, ?_, nofun, ?_, ?_, ?_⟩
  · intro r' hlive'
    right
    rcases h.covered r' hlive' with hr | ⟨o', ho'⟩
    · obtain rfl := Option.some.inj hr
      exact ⟨o, Function.update_self ..⟩
    · exact ⟨o', (Function.update_of_ne (ne_of_holds ho' hbare) ..).trans ho'⟩
  · intro x hx
    have hheld := h.held x hx
    exact (Function.update_of_ne (ne_of_holds hheld hbare) ..).trans hheld
  · intro o' ho'
    have hne : o' ≠ o := by
      rintro rfl
      exact absurd hnext (Nat.not_lt.mpr ho')
    exact (Function.update_of_ne hne ..).trans (h.existing o' ho')
  · intro o' r' ho'
    by_cases hne : o' = o
    · subst hne
      change Function.update w.pending o' (some r) o' = some r' at ho'
      rw [Function.update_self] at ho'
      exact Option.some.inj ho' ▸ hserved
    · exact h.served o' r' ((Function.update_of_ne hne ..).symm.trans ho')

/-- The finalizer of an object that the client does not hold releases its resource. -/
theorem finalized (h : Sound w φ inflight) (ho : w.pending o = some r) (hnot : ¬ w.Reaches o) :
    Sound (World.record { w with pending := Function.update w.pending o none } [.release r])
      (Function.update φ r .released) inflight := by
  have hold : ∀ {o' r'}, Function.update w.pending o none o' = some r' → w.pending o' = some r' :=
    fun ho' => (holds_of_forget ho').2
  refine ⟨h.books.release rfl (h.custody.live ho), h.custody.release ho, ?_, ?_, ?_, ?_,
    fun o' r' ho' => h.served o' r' (hold ho')⟩
  · intro r' hlive
    have hr : r' ≠ r := by
      rintro rfl
      rw [Function.update_self] at hlive
      cases hlive
    rw [Function.update_of_ne hr] at hlive
    rcases h.covered r' hlive with hfl | ⟨o', ho'⟩
    · exact .inl hfl
    · have hne : o' ≠ o := by
        rintro rfl
        exact hr (Option.some.inj (ho'.symm.trans ho))
      exact .inr ⟨o', (Function.update_of_ne hne ..).trans ho'⟩
  · intro r' hfl
    obtain ⟨hlive, hfree⟩ := h.flying r' hfl
    have hr : r' ≠ r := by
      rintro rfl
      exact hfree o ho
    exact ⟨(Function.update_of_ne hr ..).trans hlive, fun o' ho' => hfree o' (hold ho')⟩
  · intro x hx
    have hne : x.holder ≠ o := by
      rintro rfl
      exact hnot (.inr ⟨x, hx, x.holder_mem_ids⟩)
    exact (Function.update_of_ne hne ..).trans (h.held x hx)
  · intro o' ho'
    by_cases hne : o' = o
    · subst hne
      exact Function.update_self ..
    · exact (Function.update_of_ne hne ..).trans (h.existing o' ho')

/-- A resource that was acquired has its one finalizer, or was released once. -/
theorem released_once (h : Sound w φ none) (hr : Acquired id r w.log) :
    (releaseCount id r w.log = 0 ∧ ∃! o, w.pending o = some r) ∨
    (releaseCount id r w.log = 1 ∧ ∀ o, w.pending o ≠ some r) := by
  have hcount := h.books.releaseCount_eq r
  cases hphase : φ r with
  | fresh => exact absurd hphase ((h.books.acquired_iff r).mp hr)
  | live =>
    left
    obtain ⟨o, ho⟩ := (h.covered r hphase).resolve_left nofun
    rw [hphase] at hcount
    exact ⟨hcount, o, ho, fun o' ho' => h.custody.unique ho' ho⟩
  | released =>
    right
    rw [hphase] at hcount
    exact ⟨hcount, h.custody.not_held (by rw [hphase]; nofun)⟩

end Sound

/-- What the finalizer of an unreachable object does. -/
theorem Finalizes.spec {w w' : World} {o : ObjId} {φ : Resource → Phase}
    {inflight : Option Resource} (hs : Sound w φ inflight) (h : Finalizes w o w') :
    ∃ r, w.pending o = some r ∧ ¬ w.Reaches o ∧
      w' = World.record { w with pending := Function.update w.pending o none } [.release r] := by
  obtain ⟨r, res, ho, hnot, hrun⟩ := h
  have hserved : World.globals { w with pending := Function.update w.pending o none } |>.Serves r :=
    hs.served o r ho
  exact ⟨r, ho, hnot, triple_finalizer hserved _ _ _ rfl hrun⟩

/-! ## What a call relies on -/

/-- During a call no resource is in flight, the client holds `ρ`, and `mine` lists the
finalizers of objects that the call created. -/
structure During (ρ : List PyObj) (mine : List (ObjId × Resource)) (w : World) : Prop where
  sound : ∃ φ, Sound w φ none
  running : w.exited = false
  roots : w.roots = ρ
  mine : ∀ p ∈ mine, p.1 ∈ w.frame ∧ w.pending p.1 = some p.2

/-- The object `obj` has been created and has no finalizer yet. -/
structure Making (ρ : List PyObj) (mine : List (ObjId × Resource)) (obj : ObjId)
    (G : Globals → Prop) (inflight : Option Resource) (w : World) : Prop where
  sound : ∃ φ, Sound w φ inflight
  running : w.exited = false
  roots : w.roots = ρ
  mine : ∀ p ∈ mine, p.1 ∈ w.frame ∧ w.pending p.1 = some p.2
  frame : obj ∈ w.frame
  existing : obj < w.next
  bare : w.pending obj = none
  globals : G w.globals

section Stability

variable {ρ : List PyObj} {mine : List (ObjId × Resource)} {obj : ObjId} {G : Globals → Prop}
  {inflight : Option Resource} {w : World}

theorem Making.during (h : Making ρ mine obj G none w) : During ρ mine w :=
  ⟨h.sound, h.running, h.roots, h.mine⟩

/-- The finalizer of a reachable object does not run. -/
theorem mine_kept {w w' : World} {o : ObjId} {r : Resource}
    (h : ∀ p ∈ mine, p.1 ∈ w.frame ∧ w.pending p.1 = some p.2) (hnot : ¬ w.Reaches o)
    (hw' : w' = World.record { w with pending := Function.update w.pending o none } [.release r]) :
    ∀ p ∈ mine, p.1 ∈ w'.frame ∧ w'.pending p.1 = some p.2 := by
  subst hw'
  intro p hp
  obtain ⟨hframe, hpending⟩ := h p hp
  have hne : p.1 ≠ o := by
    intro heq
    exact hnot (heq ▸ .inl hframe)
  exact ⟨hframe, (Function.update_of_ne hne ..).trans hpending⟩

theorem stable_during : Stable heapEnv (During ρ mine) := by
  intro w w' ⟨⟨φ, hs⟩, hrunning, hroots, hmine⟩ ⟨o, hf⟩
  obtain ⟨r, ho, hnot, rfl⟩ := hf.spec hs
  exact ⟨⟨_, hs.finalized ho hnot⟩, hrunning, hroots, mine_kept hmine hnot rfl⟩

theorem stable_making : Stable heapEnv (Making ρ mine obj G inflight) := by
  intro w w' ⟨⟨φ, hs⟩, hrunning, hroots, hmine, hframe, hnext, hbare, hglobals⟩ ⟨o, hf⟩
  obtain ⟨r, ho, hnot, rfl⟩ := hf.spec hs
  refine ⟨⟨_, hs.finalized ho hnot⟩, hrunning, hroots, mine_kept hmine hnot rfl, hframe, hnext, ?_,
    hglobals⟩
  show Function.update w.pending o none obj = none
  by_cases hobj : obj = o
  · rw [hobj, Function.update_self]
  · rw [Function.update_of_ne hobj, hbare]

end Stability

/-! ## Calls that use what is kept alive -/

/-- The client or the current call keeps the object of the resource alive. -/
def Kept (ρ : List PyObj) (mine : List (ObjId × Resource)) (r : Resource) : Prop :=
  (∃ x ∈ ρ, x.resource = r) ∨ ∃ p ∈ mine, p.2 = r

/-- A call that neither acquires nor releases, and works on what is kept alive. -/
def Harmless (ρ : List PyObj) (mine : List (ObjId × Resource)) : Op → Prop
  | .new | .setAttr _ _ | .hiprandAttr _ | .hipAttr _ | .getVersion | .hipStreamSynchronize _
  | .npEmpty _ _ => True
  | .set gen _ => Kept ρ mine (.generator gen)
  | .generate _ gen output _ _ =>
    Kept ρ mine (.generator gen) ∧ ∀ ptr, output = .device ptr → Kept ρ mine (.memory ptr)
  | .hipMemcpy _ src _ _ => Kept ρ mine (.memory src)
  | .finalize _ _ | .createGenerator _ _ | .destroyGenerator _ | .hipMalloc _ | .hipFree _ => False

section Calls

variable {ρ : List PyObj} {mine : List (ObjId × Resource)} {obj : ObjId} {G : Globals → Prop}
  {w w' : World} {r : Resource}

theorem During.forget (h : During ρ mine w) : During ρ [] w :=
  ⟨h.sound, h.running, h.roots, List.forall_mem_nil _⟩

theorem Kept.live (hr : Kept ρ mine r) (h : During ρ mine w) {φ : Resource → Phase}
    (hs : Sound w φ none) : φ r = .live := by
  rcases hr with ⟨x, hx, rfl⟩ | ⟨p, hp, rfl⟩
  · exact hs.custody.live (hs.held x (h.roots ▸ hx))
  · exact hs.custody.live (h.mine p hp).2

/-- A use of a resource whose object is kept alive. -/
theorem During.use (h : During ρ mine w) (hr : Kept ρ mine r) :
    During ρ mine (w.record [.use r]) := by
  obtain ⟨φ, hs⟩ := h.sound
  exact ⟨⟨φ, hs.use (hr.live h hs)⟩, h.running, h.roots, h.mine⟩

/-- A new object has no finalizer. -/
theorem During.new (h : During ρ mine w) :
    Making ρ mine w.next (fun _ => True) none
      { w with next := w.next + 1, frame := w.next :: w.frame } := by
  obtain ⟨φ, hs⟩ := h.sound
  have hsound : Sound { w with next := w.next + 1, frame := w.next :: w.frame } φ none :=
    ⟨hs.books, hs.custody, hs.covered, hs.flying, hs.held,
      fun o ho => hs.existing o (Nat.le_of_succ_le ho), hs.served⟩
  refine ⟨⟨φ, hsound⟩, h.running, h.roots, ?_, List.mem_cons_self, Nat.lt_succ_self _,
    hs.existing _ (Nat.le_refl _), trivial⟩
  intro p hp
  exact ⟨List.mem_cons_of_mem _ (h.mine p hp).1, (h.mine p hp).2⟩

theorem Sound.lookup {φ : Resource → Phase} {inflight : Option Resource} (hs : Sound w φ inflight)
    (attempt : Attempt) :
    Sound { w with globals := (access attempt .global w.globals).globals } φ inflight :=
  ⟨hs.books, hs.custody, hs.covered, hs.flying, hs.held, hs.existing,
    fun o r ho => serves_access (hs.served o r ho)⟩

theorem During.harmless {op : Op} {ans : op.Ans} (h : During ρ mine w) (hop : Harmless ρ mine op)
    (hh : heapHandle op w ans w') : During ρ mine w' := by
  cases op with
  | new =>
    obtain ⟨ho, hw'⟩ := hh
    subst ho hw'
    exact h.new.during
  | setAttr self write =>
    obtain rfl : w' = w := hh
    exact h
  | hiprandAttr name =>
    obtain ⟨attempt, _, rfl⟩ := hh
    obtain ⟨φ, hs⟩ := h.sound
    exact ⟨⟨φ, hs.lookup attempt⟩, h.running, h.roots, h.mine⟩
  | hipAttr name =>
    obtain ⟨_, rfl⟩ := hh
    exact h
  | set gen setting =>
    obtain rfl : w' = _ := hh
    exact h.use hop
  | generate func gen output n args =>
    obtain rfl : w' = _ := hh
    cases output with
    | host addr => exact h.use hop.1
    | device ptr =>
      have huses := (h.use hop.1).use (hop.2 ptr rfl)
      have hrecord : (w.record [.use (.generator gen)]).record [.use (.memory ptr)] =
          w.record (generateUses gen (.device ptr)) := by
        simp [World.record, generateUses]
      rwa [hrecord] at huses
  | hipMemcpy dst src nbytes kind =>
    obtain rfl : w' = _ := hh
    exact h.use hop
  | getVersion =>
    obtain rfl : w' = w := hh
    exact h
  | hipStreamSynchronize stream =>
    obtain rfl : w' = w := hh
    exact h
  | npEmpty shape dtype =>
    obtain rfl : w' = w := hh
    exact h
  | finalize | createGenerator | destroyGenerator | hipMalloc | hipFree => exact hop.elim

/-- A program of harmless calls. -/
theorem triple_harmless {α : Type} {p : PyProg α} (hp : Issues (Harmless ρ mine) p) :
    Triple heapEnv (During ρ mine) p fun _ => During ρ mine :=
  hp.triple stable_during fun _ _ _ _ hop h hh => h.harmless hop hh

/-! ## Acquisitions -/

/-- The object and the handle of a generator object. -/
def RNG.owned (rng : RNG) : ObjId × Resource :=
  (rng.id, .generator rng.gen)

def MemoryPointer.owned (mem : MemoryPointer) : ObjId × Resource :=
  (mem.id, .memory mem.ptr)

/-- What a constructor leaves behind if it returns: the finalizer of the object that owns
the new resource, as `key` tells. -/
def Owns {α : Type} (ρ : List PyObj) (key : α → ObjId × Resource) (r : Except PyError α)
    (w : World) : Prop :=
  match r with
  | .ok a => During ρ [key a] w
  | .error _ => During ρ [] w

/-- After a creation: if it succeeded, the resource is in flight. -/
structure Attempted (ρ : List PyObj) (obj : ObjId) (succeeded : Prop) (r : Resource) (w : World) :
    Prop where
  making : succeeded → Making ρ [] obj (·.Serves r) (some r) w
  failed : ¬ succeeded → During ρ [] w

theorem stable_attempted {succeeded : Prop} :
    Stable heapEnv (Attempted ρ obj succeeded r) := by
  intro w w' h hrely
  exact ⟨fun hok => stable_making w w' (h.making hok) hrely,
    fun hne => stable_during w w' (h.failed hne) hrely⟩

theorem Making.acquire (h : Making ρ mine obj G none w) (hunused : w.Unused r) :
    Making ρ mine obj G (some r) (w.record [.acquire r]) := by
  obtain ⟨φ, hs⟩ := h.sound
  exact ⟨⟨_, hs.acquire hunused⟩, h.running, h.roots, h.mine, h.frame, h.existing, h.bare,
    h.globals⟩

theorem Making.finalize (h : Making ρ mine obj (·.Serves r) (some r) w) :
    During ρ ((obj, r) :: mine) { w with pending := Function.update w.pending obj (some r) } := by
  obtain ⟨φ, hs⟩ := h.sound
  refine ⟨⟨φ, hs.finalize h.bare h.existing h.globals⟩, h.running, h.roots, ?_⟩
  intro p hp
  rcases List.mem_cons.mp hp with rfl | hp
  · exact ⟨h.frame, Function.update_self ..⟩
  · obtain ⟨hframe, hpending⟩ := h.mine p hp
    exact ⟨hframe, (Function.update_of_ne (ne_of_holds hpending h.bare) ..).trans hpending⟩

/-- From `new` on, for whatever comes next. -/
theorem triple_new {α : Type} {f : ObjId → PyProg α} {Q : Except PyError α → World → Prop}
    (hf : ∀ obj, Triple heapEnv (Making ρ mine obj (fun _ => True) none) (f obj) Q) :
    Triple heapEnv (During ρ mine) (perform .new >>= f) Q := by
  refine .perform_bind (R := fun obj => Making ρ mine obj (fun _ => True) none) stable_during ?_ hf
  intro w o w' hw ⟨ho, hw'⟩
  subst ho hw'
  exact hw.new

/-- The last lines of a constructor, after the status check: the registration of the
finalizer for the resource in flight. -/
theorem triple_finalize {α : Type} {key : α → ObjId × Resource} {a : α} (ha : key a = (obj, r)) :
    Triple heapEnv (Making ρ [] obj (·.Serves r) (some r))
      (perform (.finalize obj r) >>= fun _ => pure a) (Owns ρ key) := by
  refine .perform_bind (R := fun _ => During ρ [(obj, r)]) stable_making ?_ fun _ =>
    .ret stable_during fun w hw => ?_
  · intro w _ w' hw hw'
    obtain rfl : w' = _ := hw'
    exact hw.finalize
  · show During ρ [key a] w
    rwa [ha]

/-- `RNG.__init__` up to the registration of the finalizer, wherever it fails. -/
theorem triple_RNG_create_heap {rngtype : Int} {isHost : Bool} :
    Triple heapEnv (During ρ []) (RNG.create rngtype isHost)
      (Owns ρ RNG.owned) := by
  refine triple_new fun obj => ?_
  refine .bind (R := fun _ => Making ρ [] obj (·.hiprand = .library) none)
    (triple_hiprandAttr stable_making (fun found => ?_) ?_) fun _ => ?_
  · cases found with
    | ok _ => exact stable_making
    | error _ => exact stable_during
  · intro w found w' hw ⟨attempt, hfound, hw'⟩
    obtain ⟨φ, hs⟩ := hw.sound
    subst hw'
    cases found with
    | error _ => exact ⟨⟨φ, hs.lookup attempt⟩, hw.running, hw.roots, hw.mine⟩
    | ok _ =>
      exact ⟨⟨φ, hs.lookup attempt⟩, hw.running, hw.roots, hw.mine, hw.frame, hw.existing, hw.bare,
        library_of_ok hfound.symm⟩
  refine .bind (R := fun _ => Making ρ [] obj (·.hiprand = .library) none)
    (triple_ofExcept stable_making fun w hw => ?_) fun arg => ?_
  · cases passInt rngtype with
    | ok _ => exact hw
    | error _ => exact hw.during
  refine .perform_bind (R := fun ans => Attempted ρ obj (ans.1 = HIPRAND_STATUS_SUCCESS)
    (.generator ans.2)) stable_making ?_ fun (status, gen) => ?_
  · intro w (status, gen) w' hw hh
    rcases createGenerator_heap_iff.mp hh with ⟨hok, hunused, rfl⟩ | ⟨hne, rfl⟩
    · exact ⟨fun _ => hw.acquire hunused, fun hne => absurd hok hne⟩
    · exact ⟨fun hok => absurd hok hne, fun _ => hw.during⟩
  refine .bind (R := fun _ => Making ρ [] obj (·.Serves (.generator gen)) (some (.generator gen)))
    (triple_checkHiprand stable_attempted (fun hok w hw => hw.making hok)
      fun hne w hw => hw.failed hne) fun _ => ?_
  exact triple_finalize rfl

/-- The same for `MemoryPointer.__init__`. -/
theorem triple_memoryPointer_heap {nbytes : PyNum} :
    Triple heapEnv (During ρ []) (MemoryPointer.init nbytes)
      (Owns ρ MemoryPointer.owned) := by
  refine triple_new fun obj => ?_
  refine .bind (R := fun _ => Making ρ [] obj (·.hip ≠ none) none)
    (triple_hipAttr stable_making (fun found => ?_) ?_) fun _ => ?_
  · cases found with
    | ok _ => exact stable_making
    | error _ => exact stable_during
  · intro w found w' hw ⟨hfound, hw'⟩
    subst hw'
    cases found with
    | error _ => exact hw.during
    | ok _ =>
      exact ⟨hw.sound, hw.running, hw.roots, hw.mine, hw.frame, hw.existing, hw.bare,
        (accessHip_iff_serves ⟨0, 0⟩).mp hfound.symm⟩
  refine .bind (R := fun _ => Making ρ [] obj (·.hip ≠ none) none)
    (triple_ofExcept stable_making fun w hw => ?_) fun bytes => ?_
  · cases nbytes.cSizeT with
    | ok _ => exact hw
    | error _ => exact hw.during
  refine .perform_bind (R := fun ans => Attempted ρ obj (ans.1 = hipSuccess) (.memory ans.2))
    stable_making ?_ fun (status, ptr) => ?_
  · intro w (status, ptr) w' hw hh
    rcases hipMalloc_heap_iff.mp hh with ⟨hok, hunused, rfl⟩ | ⟨hne, rfl⟩
    · exact ⟨fun _ => hw.acquire hunused, fun hne => absurd hok hne⟩
    · exact ⟨fun hok => absurd hok hne, fun _ => hw.during⟩
  refine .bind (R := fun _ => Making ρ [] obj (·.Serves (.memory ptr)) (some (.memory ptr)))
    (triple_checkHip stable_attempted (fun hok w hw => hw.making hok)
      fun hne w hw => hw.failed hne) fun _ => ?_
  exact triple_finalize rfl

/-- A setter on a generator that is kept alive. -/
theorem harmless_setter {self : ObjId} {gen : Generator} {name : HiprandFn}
    {setting : Except PyError Setting} {write : AttrWrite} (hr : Kept ρ mine (.generator gen)) :
    Issues (Harmless ρ mine)
      (callSetter gen name setting >>= fun _ => perform (.setAttr self write)) :=
  (issues_callSetter trivial fun _ => hr).bind fun _ => Issues.perform trivial

/-! ## Constructors -/

/-- After the creation a constructor writes attributes and calls setters; the object keeps
its finalizer, wherever this fails. -/
theorem triple_afterNew {α : Type} {key : α → ObjId × Resource} {rng : RNG} {p : PyProg Unit}
    {f : Unit → PyProg α} (hp : Issues (Harmless ρ [rng.owned]) p)
    (hf : Triple heapEnv (During ρ [rng.owned]) (f ()) (Owns ρ key)) :
    Triple heapEnv (During ρ [rng.owned]) (p >>= f) (Owns ρ key) :=
  (triple_harmless hp).andThen (fun _ _ hw => hw.forget) fun _ => hf

/-- A constructor keeps the generator that it made alive. -/
theorem kept_owned (rng : RNG) : Kept ρ [rng.owned] (.generator rng.gen) :=
  .inr ⟨rng.owned, List.mem_singleton_self _, rfl⟩

theorem triple_RNG_init {rngtype : Int} {offset : Option Int} {stream : StreamArg} {isHost : Bool} :
    Triple heapEnv (During ρ []) (RNG.init rngtype offset stream isHost) (Owns ρ RNG.owned) := by
  refine .andThen triple_RNG_create_heap (fun _ _ hw => hw) fun rng => ?_
  refine triple_afterNew (Issues.perform trivial) ?_
  have hreturn : Triple heapEnv (During ρ [rng.owned]) (pure rng) (Owns ρ RNG.owned) :=
    .ret stable_during fun _ hw => hw
  have hstream : Triple heapEnv (During ρ [rng.owned]) (do
      perform (.setAttr rng.id (.stream .none))
      if stream ≠ .none then rng.setStream stream else pure ()
      return rng) (Owns ρ RNG.owned) := by
    refine triple_afterNew (Issues.perform trivial) ?_
    split
    · exact triple_afterNew (harmless_setter (kept_owned rng)) hreturn
    · exact hreturn
  cases offset with
  | none => exact hstream
  | some offset => exact triple_afterNew (harmless_setter (kept_owned rng)) hstream

theorem triple_PRNG_init {rngtype : Int} {seed offset : Option Int} {stream : StreamArg}
    {isHost : Bool} :
    Triple heapEnv (During ρ []) (PRNG.init rngtype seed offset stream isHost)
      (Owns ρ (·.toRNG.owned)) := by
  refine .andThen triple_RNG_init (fun _ _ hw => hw) fun rng => ?_
  refine triple_afterNew (Issues.perform trivial) ?_
  have hreturn : Triple heapEnv (During ρ [rng.owned]) (pure (⟨rng⟩ : PRNG))
      (Owns ρ (·.toRNG.owned)) := .ret stable_during fun _ hw => hw
  cases seed with
  | some seed => exact triple_afterNew (harmless_setter (kept_owned rng)) hreturn
  | none => exact hreturn

theorem triple_QRNG_init {rngtype : Int} {ndim offset : Option Int} {stream : StreamArg}
    {isHost : Bool} :
    Triple heapEnv (During ρ []) (QRNG.init rngtype ndim offset stream isHost)
      (Owns ρ (·.toRNG.owned)) := by
  refine .andThen triple_RNG_init (fun _ _ hw => hw) fun rng => ?_
  refine triple_afterNew (Issues.perform trivial) ?_
  have hreturn : Triple heapEnv (During ρ [rng.owned]) (pure (⟨rng⟩ : QRNG))
      (Owns ρ (·.toRNG.owned)) := .ret stable_during fun _ hw => hw
  cases ndim with
  | some ndim => exact triple_afterNew (harmless_setter (kept_owned rng)) hreturn
  | none => exact hreturn

/-- A device array with memory of its own. -/
theorem triple_empty_heap {shape : ShapeArg} {dtype : Dtype} :
    Triple heapEnv (During ρ []) (empty shape dtype) (Owns ρ (·.data.owned)) := by
  unfold empty DeviceNDArray.init
  refine .andThen (triple_harmless (Issues.perform trivial)) (fun _ _ hw => hw) fun self => ?_
  exact .andThen triple_memoryPointer_heap (fun _ _ hw => hw) fun mem =>
    .ret stable_during fun _ hw => hw

/-! ## Generating calls -/

/-- The device array of a generating call is the one of the client or a temporary one. -/
theorem triple_deviceBuffer_heap {ary : Ary} {size : PyNum}
    (hheld : ∀ dary, ary = .device dary → .array dary ∈ ρ) :
    Triple heapEnv (During ρ []) (deviceBuffer ary size) fun r w =>
      match r with
      | .ok p => ∃ mine, Kept ρ mine (.memory (devicePointer p.1)) ∧ During ρ mine w
      | .error _ => During ρ [] w := by
  cases ary with
  | ndarray a =>
    exact .andThen triple_empty_heap (fun _ _ hw => hw) fun dary =>
      .ret stable_during fun w hw => ⟨_, .inr ⟨_, List.mem_singleton_self _, rfl⟩, hw⟩
  | device dary =>
    exact .ret stable_during fun w hw => ⟨[], .inl ⟨.array dary, hheld dary rfl, rfl⟩, hw⟩
  | other type dtype size => exact .throw stable_during fun w hw => hw

/-- What follows once there is a device array: a generation, and the copy from a temporary
array. -/
theorem harmless_afterBuffer {rng : RNG} {func : GenFunc} {n : PyNum} {args : List FloatArg}
    {dary : DeviceNDArray} {copyTo : Option NdArray} (hrng : Kept ρ mine (.generator rng.gen))
    (hptr : Kept ρ mine (.memory (devicePointer dary))) :
    Issues (Harmless ρ mine) (ofExcept n.cSizeT >>= fun count =>
      perform (.generate func rng.gen (.device (devicePointer dary)) count args) >>= fun status =>
      checkHiprand status >>= fun _ => match copyTo with
        | some ary => dary.copyToHost (some ary) >>= fun _ => pure ()
        | none => pure ()) := by
  have hgenerate (count : CSize) : Harmless ρ mine
      (.generate func rng.gen (.device (devicePointer dary)) count args) := by
    refine ⟨hrng, fun ptr hp => ?_⟩
    cases hp
    exact hptr
  refine (issues_ofExcept _).bind fun count => (Issues.perform (hgenerate count)).bind fun _ => ?_
  refine (issues_checkHiprand _).bind fun _ => ?_
  cases copyTo with
  | none => trivial
  | some a =>
    exact (DeviceNDArray.issues_copyToHost (fun _ _ => trivial) trivial fun _ _ _ => hptr).bind
      fun _ => trivial

theorem triple_generateDevice_heap {rng : RNG} {func : GenFunc} {ary : Ary} {size : Option Int}
    {args : List FloatArg} (hrng : ∃ x ∈ ρ, x.resource = .generator rng.gen)
    (hheld : ∀ dary, ary = .device dary → .array dary ∈ ρ) :
    Triple heapEnv (During ρ []) (rng.generateDevice func ary size args) fun _ => During ρ [] := by
  unfold RNG.generateDevice
  refine .andThen (triple_harmless (issues_ofExcept _)) (fun _ _ hw => hw) fun n => ?_
  refine .andThen (triple_deviceBuffer_heap hheld) (fun _ _ hw => hw)
    fun (dary, copyTo) => .choosing fun mine => .assuming fun hptr => ?_
  exact (triple_harmless (harmless_afterBuffer (.inl hrng) hptr)).post fun _ _ hw => hw.forget

/-- A host-side request works on the generator alone. -/
theorem harmless_generateHost {rng : RNG} {func : GenFunc} {ary : Ary} {size : Option Int}
    {args : List FloatArg} (hrng : Kept ρ mine (.generator rng.gen)) :
    Issues (Harmless ρ mine) (rng.generateHost func ary size args) := by
  refine (issues_ofExcept _).bind fun n => ?_
  cases ary with
  | ndarray a =>
    exact (issues_ofExcept _).bind fun count => (Issues.perform ⟨hrng, nofun⟩).bind
      issues_checkHiprand
  | device dary => trivial
  | other type dtype size => trivial

theorem triple_generating_heap {m : GenMethod} {rng : RNG} {ary : Ary} {size : Option Int}
    (hrng : ∃ x ∈ ρ, x.resource = .generator rng.gen)
    (hheld : ∀ dary, ary = .device dary → .array dary ∈ ρ) :
    Triple heapEnv (During ρ []) (m.call rng ary size) fun _ => During ρ [] := by
  cases hdisp : m.dispatch ary.dtype with
  | none =>
    rw [GenMethod.call_of_unsupported hdisp]
    exact .throw stable_during fun _ hw => hw
  | some chosen =>
    obtain ⟨func, args⟩ := chosen
    rw [GenMethod.call_of_dispatch hdisp]
    refine .andThen (triple_harmless (issues_hiprandAttr trivial)) (fun _ _ hw => hw) fun _ => ?_
    unfold RNG.generateWith
    cases rng.isHost with
    | true => exact triple_harmless (harmless_generateHost (.inl hrng))
    | false => exact triple_generateDevice_heap hrng hheld

end Calls

/-! ## The client -/

/-- The calls of a client, each on objects that it holds references to. -/
inductive ClientCall
  | prng (rngtype : Int) (seed offset : Option Int) (stream : StreamArg) (isHost : Bool)
  | qrng (rngtype : Int) (ndim offset : Option Int) (stream : StreamArg) (isHost : Bool)
  | memory (nbytes : PyNum)
  | array (shape : ShapeArg) (dtype : Dtype) (data : Option MemoryPointer)
  | setOffset (rng : RNG) (offset : Int)
  | setStream (rng : RNG) (stream : StreamArg)
  | setSeed (rng : PRNG) (seed : Int)
  | setNdim (rng : QRNG) (ndim : Int)
  | generating (m : GenMethod) (rng : RNG) (ary : Ary) (size : Option Int)
  | copyToHost (dary : DeviceNDArray) (ary : Option NdArray)
  | streamSynchronize (stream : StreamArg)
  | getVersion

def RNG.obj (rng : RNG) : PyObj :=
  .rng rng.id rng.gen rng.isHost

/-- The device array among the arguments of a generating call. -/
def Ary.objs : Ary → List PyObj
  | device dary => [.array dary]
  | ndarray _ | other _ _ _ => []

namespace ClientCall

/-- The references that the call is given. -/
def args : ClientCall → List PyObj
  | array _ _ (some data) => [.memory data]
  | setOffset rng _ | setStream rng _ => [rng.obj]
  | setSeed rng _ => [rng.obj]
  | setNdim rng _ => [rng.obj]
  | generating _ rng ary _ => rng.obj :: ary.objs
  | copyToHost dary _ => [.array dary]
  | _ => []

/-- The call, with the new references that it returns. -/
def prog : ClientCall → PyProg (List PyObj)
  | prng rngtype seed offset stream isHost => do
    let rng ← PRNG.init rngtype seed offset stream isHost
    return [rng.obj]
  | qrng rngtype ndim offset stream isHost => do
    let rng ← QRNG.init rngtype ndim offset stream isHost
    return [rng.obj]
  | memory nbytes => do
    let mem ← MemoryPointer.init nbytes
    return [.memory mem]
  | array shape dtype data => do
    let dary ← DeviceNDArray.init shape dtype data
    return [.array dary]
  | setOffset rng offset => do
    rng.setOffset offset
    return []
  | setStream rng stream => do
    rng.setStream stream
    return []
  | setSeed rng seed => do
    rng.setSeed seed
    return []
  | setNdim rng ndim => do
    rng.setNdim ndim
    return []
  | generating m rng ary size => do
    m.call rng ary size
    return []
  | copyToHost dary ary => do
    let _ ← dary.copyToHost ary
    return []
  | streamSynchronize stream => do
    Py.streamSynchronize stream
    return []
  | getVersion => do
    let _ ← Py.getVersion
    return []

end ClientCall

/-- What a client or the interpreter runs of the package. -/
inductive PackageCall
  | client (c : ClientCall)
  | finalizer (r : Resource)

def PackageCall.prog : PackageCall → PyProg (List PyObj)
  | client c => c.prog
  | finalizer r => do
    r.finalizer
    return []

section Client

variable {ρ : List PyObj}

/-- How a call ends: the objects that it returns have their finalizers. -/
structure Returns (ρ : List PyObj) (r : Except PyError (List PyObj)) (w : World) : Prop where
  during : During ρ [] w
  registered : ∀ xs, r = .ok xs → ∀ x ∈ xs, w.pending x.holder = some x.resource

/-- A constructor returns the object that owns the new resource. -/
theorem triple_returnNew {α : Type} {key : α → ObjId × Resource} {p : PyProg α} {f : α → PyObj}
    (hp : Triple heapEnv (During ρ []) p (Owns ρ key))
    (hf : ∀ a, key a = ((f a).holder, (f a).resource)) :
    Triple heapEnv (During ρ []) (p >>= fun a => pure [f a]) (Returns ρ) := by
  refine hp.andThen (fun _ _ hw => ⟨hw, nofun⟩) fun a => .ret stable_during fun w hw => ?_
  have hw : During ρ [key a] w := hw
  refine ⟨hw.forget, fun xs hxs x hx => ?_⟩
  cases hxs
  rw [List.mem_singleton.mp hx]
  have hpending := (hw.mine (key a) (List.mem_singleton_self _)).2
  rwa [hf a] at hpending

/-- A call that returns no reference to a new object. -/
theorem triple_returnNone {α : Type} {p : PyProg α}
    (hp : Triple heapEnv (During ρ []) p fun _ => During ρ []) :
    Triple heapEnv (During ρ []) (p >>= fun _ => pure []) (Returns ρ) :=
  hp.andThen (fun _ _ hw => ⟨hw, nofun⟩) fun _ => .ret stable_during fun w hw => by
    refine ⟨hw, fun xs hxs x hx => ?_⟩
    cases hxs
    cases hx

/-- A device array on memory that the client holds. -/
theorem triple_shared {shape : ShapeArg} {dtype : Dtype} {data : MemoryPointer}
    (hdata : .memory data ∈ ρ) :
    Triple heapEnv (During ρ [])
      (DeviceNDArray.init shape dtype (some data) >>= fun dary => pure [.array dary])
      (Returns ρ) := by
  have hinit : Triple heapEnv (During ρ []) (DeviceNDArray.init shape dtype (some data))
      fun r w => (∀ dary, r = .ok dary → dary.data = data) ∧ During ρ [] w := by
    unfold DeviceNDArray.init
    refine .andThen (triple_harmless (Issues.perform trivial))
      (fun _ _ hw => ⟨(fun _ h => nomatch h), hw⟩) fun self =>
      .ret stable_during fun w hw => ⟨fun dary h => ?_, hw⟩
    cases h
    rfl
  refine hinit.andThen (fun _ _ hw => ⟨hw.2, nofun⟩) fun dary => .assuming fun hdary =>
    .ret stable_during fun w hw => ⟨hw, fun xs hxs x hx => ?_⟩
  cases hxs
  rw [List.mem_singleton.mp hx]
  obtain ⟨φ, hs⟩ := hw.sound
  have hheld := hs.held (.memory data) (hw.roots ▸ hdata)
  rwa [← hdary dary rfl] at hheld

/-- A setter of the client. -/
theorem triple_assign {rng : RNG} {name : HiprandFn} {setting : Except PyError Setting}
    {write : AttrWrite} (hrng : rng.obj ∈ ρ) :
    Triple heapEnv (During ρ [])
      ((callSetter rng.gen name setting >>= fun _ => perform (.setAttr rng.id write)) >>=
        fun _ => pure []) (Returns ρ) :=
  triple_returnNone (triple_harmless (harmless_setter (.inl ⟨rng.obj, hrng, rfl⟩)))

/-- Every call of a client, wherever it fails. -/
theorem triple_clientCall {c : ClientCall} (hargs : ∀ x ∈ c.args, x ∈ ρ) :
    Triple heapEnv (During ρ []) c.prog (Returns ρ) := by
  cases c with
  | prng rngtype seed offset stream isHost => exact triple_returnNew triple_PRNG_init fun _ => rfl
  | qrng rngtype ndim offset stream isHost => exact triple_returnNew triple_QRNG_init fun _ => rfl
  | memory nbytes => exact triple_returnNew triple_memoryPointer_heap fun _ => rfl
  | array shape dtype data =>
    cases data with
    | none => exact triple_returnNew triple_empty_heap fun _ => rfl
    | some data => exact triple_shared (hargs _ (List.mem_singleton_self _))
  | setOffset rng offset => exact triple_assign (hargs _ (List.mem_singleton_self _))
  | setStream rng stream => exact triple_assign (hargs _ (List.mem_singleton_self _))
  | setSeed rng seed => exact triple_assign (hargs _ (List.mem_singleton_self _))
  | setNdim rng ndim => exact triple_assign (hargs _ (List.mem_singleton_self _))
  | generating m rng ary size =>
    refine triple_returnNone (triple_generating_heap ⟨rng.obj, hargs _ List.mem_cons_self, rfl⟩ ?_)
    intro dary hary
    subst hary
    exact hargs _ (List.mem_cons_of_mem _ (List.mem_singleton_self _))
  | copyToHost dary ary =>
    have hdary : Kept ρ [] (.memory (devicePointer dary)) :=
      .inl ⟨.array dary, hargs _ (List.mem_singleton_self _), rfl⟩
    exact triple_returnNone (triple_harmless
      (DeviceNDArray.issues_copyToHost (fun _ _ => trivial) trivial fun _ _ _ => hdary))
  | streamSynchronize stream =>
    exact triple_returnNone (triple_harmless (issues_streamSynchronize trivial fun _ => trivial))
  | getVersion => exact triple_returnNone (triple_harmless (issues_getVersion trivial trivial))

end Client

/-! ## Runs -/

/-- A call ends: what it created and does not return is no longer reachable through it. -/
def World.callEnds (w : World) (r : Except PyError (List PyObj)) : World :=
  { w with frame := [], roots := (r.toOption.getD []) ++ w.roots }

inductive HeapLabel
  | call (c : ClientCall)
  /-- One more reference to the same object. -/
  | copyRef (x : PyObj)
  /-- `dary.data` -/
  | readData (dary : DeviceNDArray)
  /-- The client drops its `i`-th reference. -/
  | drop (i : Nat)
  | finalizer (o : ObjId)
  | exit

/-- The runs of a client, with finalizers at any moment. -/
def heap : System World HeapLabel where
  init w := w = .initial
  step w label w' :=
    match label with
    | .call c => w.exited = false ∧ (∀ x ∈ c.args, x ∈ w.roots) ∧
      ∃ r w₁, Runs heapEnv c.prog w r w₁ ∧ w' = w₁.callEnds r
    | .copyRef x => x ∈ w.roots ∧ w' = { w with roots := x :: w.roots }
    | .readData dary => .array dary ∈ w.roots ∧ w' = { w with roots := .memory dary.data :: w.roots }
    | .drop i => w' = { w with roots := w.roots.eraseIdx i }
    | .finalizer o => Finalizes w o w'
    | .exit => w' = { w with roots := [], exited := true }

/-- Between two steps no resource is in flight and no call is going on. -/
structure Orderly (w : World) : Prop where
  sound : ∃ φ, Sound w φ none
  idle : w.frame = []
  ended : w.exited = true → w.roots = []

/-- The client may hold other references to objects with a finalizer. -/
theorem Sound.hold {w : World} {φ : Resource → Phase} (h : Sound w φ none) (roots : List PyObj)
    (hroots : ∀ x ∈ roots, w.pending x.holder = some x.resource) :
    Sound { w with roots := roots } φ none :=
  ⟨h.books, h.custody, h.covered, h.flying, hroots, h.existing, h.served⟩

/-- One more reference to an object that keeps its finalizer. -/
theorem Sound.holdMore {w : World} {φ : Resource → Phase} {x : PyObj} (h : Sound w φ none)
    (hx : w.pending x.holder = some x.resource) : Sound { w with roots := x :: w.roots } φ none := by
  refine h.hold _ fun y hy => ?_
  rcases List.mem_cons.mp hy with rfl | hy
  · exact hx
  · exact h.held y hy

theorem Orderly.step {w w' : World} {label : HeapLabel} (h : Orderly w)
    (hstep : heap.step w label w') : Orderly w' := by
  obtain ⟨⟨φ, hs⟩, hidle, hended⟩ := h
  have hrunning {x : PyObj} (hx : x ∈ w.roots) : w.exited ≠ true := by
    intro hexited
    rw [hended hexited] at hx
    cases hx
  cases label with
  | call c =>
    obtain ⟨hexited, hargs, r, w₁, hrun, rfl⟩ := hstep
    obtain ⟨⟨⟨φ₁, hs₁⟩, hrunning₁, hroots₁, _⟩, hnew⟩ :=
      triple_clientCall hargs w r w₁ ⟨⟨φ, hs⟩, hexited, rfl, List.forall_mem_nil _⟩ hrun
    have hsound := hs₁.hold ((r.toOption.getD []) ++ w₁.roots) ?_
    · refine ⟨⟨φ₁, ⟨hsound.books, hsound.custody, hsound.covered, hsound.flying, hsound.held,
        hsound.existing, hsound.served⟩⟩, rfl, fun hexited₁ => ?_⟩
      rw [show (w₁.callEnds r).exited = w₁.exited from rfl, hrunning₁] at hexited₁
      cases hexited₁
    · intro x hx
      rcases List.mem_append.mp hx with hx | hx
      · cases r with
        | ok xs => exact hnew xs rfl x hx
        | error _ => cases hx
      · exact hs₁.held x hx
  | copyRef x =>
    obtain ⟨hx, rfl⟩ := hstep
    exact ⟨⟨φ, hs.holdMore (hs.held x hx)⟩, hidle, fun hexited => absurd hexited (hrunning hx)⟩
  | readData dary =>
    obtain ⟨hx, rfl⟩ := hstep
    have hheld := hs.held (.array dary) hx
    exact ⟨⟨φ, hs.holdMore hheld⟩, hidle, fun hexited => absurd hexited (hrunning hx)⟩
  | drop i =>
    obtain rfl : w' = _ := hstep
    have hkept := hs.hold (w.roots.eraseIdx i) fun x hx => hs.held x (List.mem_of_mem_eraseIdx hx)
    refine ⟨⟨φ, hkept⟩, hidle, fun hexited => ?_⟩
    show w.roots.eraseIdx i = []
    rw [hended hexited]
    rfl
  | finalizer o =>
    obtain ⟨r, ho, hnot, rfl⟩ := Finalizes.spec hs hstep
    exact ⟨⟨_, hs.finalized ho hnot⟩, hidle, hended⟩
  | exit =>
    obtain rfl : w' = _ := hstep
    exact ⟨⟨φ, hs.books, hs.custody, hs.covered, hs.flying, List.forall_mem_nil _,
      hs.existing, hs.served⟩, hidle, fun _ => rfl⟩

theorem Orderly.of_reachable {w : World} (h : heap.Reachable w) : Orderly w := by
  refine h.invariant ?_ fun w label w' hw hstep => hw.step hstep
  intro w hw
  obtain rfl : w = .initial := hw
  have hcustody : Custody World.initial.pending fun _ => .fresh := ⟨nofun, nofun⟩
  have hsound : Sound World.initial (fun _ => .fresh) none :=
    ⟨.nil, hcustody, nofun, nofun, List.forall_mem_nil _, fun _ _ => rfl, nofun⟩
  exact ⟨⟨_, hsound⟩, rfl, nofun⟩

/-- In every run: a resource that the backend gave has its one finalizer until it is
released, and is released once; nothing else is released, and nothing is touched after
its release. What the client holds has not been released. The finalizer of an object
that became unreachable can run and releases its resource; after the exit of the
interpreter nothing is reachable. -/
theorem resources_released_once {w : World} (h : heap.Reachable w) :
    (∀ r, Acquired id r w.log →
      (releaseCount id r w.log = 0 ∧ ∃! o, w.pending o = some r) ∨
      (releaseCount id r w.log = 1 ∧ ∀ o, w.pending o ≠ some r)) ∧
    (∀ r, 0 < releaseCount id r w.log → Acquired id r w.log) ∧
    (∀ earlier r later, w.log = earlier ++ .release r :: later → ∀ a ∈ later, ¬ a.Touches r) ∧
    (∀ x ∈ w.roots, w.pending x.holder = some x.resource ∧ releaseCount id x.resource w.log = 0) ∧
    (∀ o r, w.pending o = some r → ¬ w.Reaches o →
      (∃ w', heap.step w (.finalizer o) w') ∧
      ∀ w', heap.step w (.finalizer o) w' → w'.pending o = none ∧ releaseCount id r w'.log = 1) ∧
    (w.exited = true → ∀ o, ¬ w.Reaches o) := by
  obtain ⟨⟨φ, hs⟩, hidle, hended⟩ := Orderly.of_reachable h
  refine ⟨fun r hr => hs.released_once hr, fun r hr => ?_, fun earlier r later hlog => ?_,
    fun x hx => ?_, fun o r ho hnot => ⟨?_, fun w' hstep => ?_⟩, fun hexited o => ?_⟩
  · rw [hs.books.acquired_iff r]
    intro hfresh
    rw [hs.books.releaseCount_eq r, hfresh] at hr
    cases hr
  · exact (hs.books.untouched_after_release hlog rfl).2
  · have hheld := hs.held x hx
    have hlive := hs.custody.live hheld
    refine ⟨hheld, ?_⟩
    rw [hs.books.releaseCount_eq, hlive]
    rfl
  · obtain ⟨w', hrun⟩ := exists_runs_finalizer
      (w := { w with pending := Function.update w.pending o none }) (hs.served o r ho)
    exact ⟨w', r, .ok (), ho, hnot, hrun⟩
  · obtain ⟨r', ho', _, rfl⟩ := Finalizes.spec hs hstep
    obtain rfl : r' = r := Option.some.inj (ho'.symm.trans ho)
    refine ⟨Function.update_self .., ?_⟩
    rw [(hs.finalized ho hnot).books.releaseCount_eq, Function.update_self]
    rfl
  · rintro (hframe | ⟨x, hx, _⟩)
    · rw [hidle] at hframe
      cases hframe
    · rw [hended hexited] at hx
      cases hx

/-- After `PRNG(PRNG.MTGP32, offset=5)`, which the backend created but whose offset it
refused. -/
def offsetRefused : World where
  globals := ⟨.library, some .amdhip64⟩
  roots := []
  frame := []
  pending := Function.update (fun _ => none) 0 (some (.generator 0))
  log := [.acquire (.generator 0), .use (.generator 0)]
  next := 1
  exited := false

/-- During that constructor. -/
def inConstructor (globals : Globals) (pending : ObjId → Option Resource)
    (log : List (Action Resource)) : World :=
  { offsetRefused with globals, frame := [0], pending, log }

theorem offsetRefused_reachable : heap.Reachable offsetRefused := by
  have hnew : heapEnv.handle .new .initial (0 : ObjId) (inConstructor .fresh (fun _ => none) []) :=
    ⟨rfl, rfl⟩
  have hattr : heapEnv.handle (.hiprandAttr .hiprandCreateGenerator)
      (inConstructor .fresh (fun _ => none) []) (.ok ())
      (inConstructor ⟨.library, some .amdhip64⟩ (fun _ => none) []) :=
    ⟨fun _ => .ok (), rfl, rfl⟩
  have hcreate : heapEnv.handle (.createGenerator false (.int 403))
      (inConstructor ⟨.library, some .amdhip64⟩ (fun _ => none) []) (HIPRAND_STATUS_SUCCESS, 0)
      (inConstructor ⟨.library, some .amdhip64⟩ (fun _ => none) [.acquire (.generator 0)]) :=
    createGenerator_heap_iff.mpr (.inl ⟨rfl, nofun, rfl⟩)
  have hfinalize : heapEnv.handle (.finalize 0 (.generator 0))
      (inConstructor ⟨.library, some .amdhip64⟩ (fun _ => none) [.acquire (.generator 0)]) ()
      (inConstructor ⟨.library, some .amdhip64⟩ offsetRefused.pending [.acquire (.generator 0)]) :=
    rfl
  have hdefault : heapEnv.handle (.setAttr 0 (.offset 0))
      (inConstructor ⟨.library, some .amdhip64⟩ offsetRefused.pending [.acquire (.generator 0)]) ()
      (inConstructor ⟨.library, some .amdhip64⟩ offsetRefused.pending [.acquire (.generator 0)]) :=
    rfl
  have hattr' : heapEnv.handle (.hiprandAttr .hiprandSetGeneratorOffset)
      (inConstructor ⟨.library, some .amdhip64⟩ offsetRefused.pending [.acquire (.generator 0)])
      (.ok ())
      (inConstructor ⟨.library, some .amdhip64⟩ offsetRefused.pending [.acquire (.generator 0)]) :=
    ⟨fun _ => .ok (), rfl, rfl⟩
  have hset : heapEnv.handle (.set 0 (.offset (cUlonglong 5)))
      (inConstructor ⟨.library, some .amdhip64⟩ offsetRefused.pending [.acquire (.generator 0)])
      (103 : Int)
      (inConstructor ⟨.library, some .amdhip64⟩ offsetRefused.pending offsetRefused.log) := rfl
  have hrun : Runs heapEnv (ClientCall.prng 403 none (some 5) .none false).prog .initial
      (.error (.hipRandError 103))
      (inConstructor ⟨.library, some .amdhip64⟩ offsetRefused.pending offsetRefused.log) :=
    .call hnew (.call hattr (.call hcreate (.call hfinalize (.call hdefault
      (.call hattr' (.call hset .throw))))))
  have hinit : heap.Reachable .initial := .init rfl
  have hstep : heap.step .initial (.call (.prng 403 none (some 5) .none false)) offsetRefused :=
    ⟨rfl, List.forall_mem_nil _, _, _, hrun, rfl⟩
  exact hinit.step hstep

/-- Its finalizer can run, and releases the generator. -/
theorem offsetRefused_released :
    ∃ w, heap.step offsetRefused (.finalizer 0) w ∧ releaseCount id (.generator 0) w.log = 1 := by
  have hnot : ¬ offsetRefused.Reaches 0 := by
    rintro (hframe | ⟨x, hx, _⟩)
    · cases hframe
    · cases hx
  obtain ⟨⟨w, hstep⟩, hreleased⟩ :=
    (resources_released_once offsetRefused_reachable).2.2.2.2.1 0 (.generator 0) rfl hnot
  exact ⟨w, hstep, (hreleased w hstep).2⟩

end HipRand.Py
