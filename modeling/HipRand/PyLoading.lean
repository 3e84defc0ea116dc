import HipRand.PyBasic
import HipRand.Lib.System

/-!
# Lazy loading of the shared libraries

`hiprand.py` keeps a global `hiprand` that starts as a placeholder; the first
access to one of its attributes runs `load_hiprand`, which loads `libhiprand.so`,
replaces the placeholder and then calls `load_hip`. `hip.py` keeps a global `hip`
for the HIP runtime, which may come from `libamdhip64.so` or `libcudart.so`.

Results:
1. `access_cases`: what one access can do.
2. `loaded_and_retries`: while every attempt that loads `libhiprand.so` also finds
   a HIP runtime, the two globals agree and a failed access is tried again in full.
3. `hipless_library_is_reachable`: one attempt that loads `libhiprand.so` and no
   HIP runtime is enough for later accesses to succeed without a runtime.
-/

namespace HipRand.Py

open Transition

/-! ## The two modules -/

inductive SharedLib
  | libhiprand
  | libamdhip64
  | libcudart
  deriving DecidableEq

/-- What `CDLL` does at one attempt for each library: it loads, or it raises
`OSError` with a message. -/
abbrev Attempt := SharedLib → Except String Unit

/-- The global `hiprand` of `hiprand.py`. -/
inductive HiprandGlobal
  | placeholder
  | library
  deriving DecidableEq

/-- What the global `hip` of `hip.py` stands for when it is not `None`. -/
inductive HipLibrary
  | amdhip64
  /-- `libcudart.so`, with the four functions aliased to their HIP names. -/
  | cudart
  deriving DecidableEq

structure Globals where
  hiprand : HiprandGlobal
  hip : Option HipLibrary
  deriving DecidableEq

/-- A fresh import. -/
def Globals.fresh : Globals where
  hiprand := .placeholder
  hip := none

/-- Code that reads and writes the globals and keeps the list of libraries it
asked `CDLL` for. An exception does not undo what was written. -/
abbrev Loading := ExceptT PyError (StateM (Globals × List SharedLib))

def CDLL (attempt : Attempt) (lib : SharedLib) : Loading (Except String Unit) := do
  modify fun (g, asked) => (g, asked ++ [lib])
  return attempt lib

def setHiprand (hiprand : HiprandGlobal) : Loading Unit :=
  modify fun (g, asked) => ({ g with hiprand }, asked)

def setHip (hip : HipLibrary) : Loading Unit :=
  modify fun (g, asked) => ({ g with hip := some hip }, asked)

def getGlobals : Loading Globals :=
  return (← get).1

/-- One of the two `if hip is None` blocks of `load_hip`: what it appends to
`loading_errors`. -/
def tryHip (attempt : Attempt) (lib : SharedLib) (hip : HipLibrary) : Loading (List String) := do
  if (← getGlobals).hip = none then
    match ← CDLL attempt lib with
    | .ok _ =>
      setHip hip
      return []
    | .error e => return [e]
  else
    return []

def loadHip (attempt : Attempt) : Loading Unit := do
  let amdErrors ← tryHip attempt .libamdhip64 .amdhip64
  let cudaErrors ← tryHip attempt .libcudart .cudart
  if (← getGlobals).hip = none then
    throw (.importError ("both libcudart.so and libamdhip64.so cannot be loaded: " ++
      ", ".intercalate (amdErrors ++ cudaErrors)))

def loadHiprand (attempt : Attempt) : Loading Unit := do
  match ← CDLL attempt .libhiprand with
  | .ok _ => setHiprand .library
  | .error e => throw (.importError ("libhiprand.so cannot be loaded: " ++ e))
  loadHip attempt

/-- How client code reaches a function: through the module global, or through a
reference to the placeholder object that it kept. -/
inductive Via
  | global
  | placeholder
  deriving DecidableEq

/-- The attribute access loads: `_load_hiprand_on_access.__getattribute__` runs. -/
def Loads (via : Via) (g : Globals) : Prop :=
  via = .placeholder ∨ g.hiprand = .placeholder

instance (via : Via) (g : Globals) : Decidable (Loads via g) :=
  inferInstanceAs (Decidable (_ ∨ _))

/-- `hiprand.name`: the function is returned unless loading raises. -/
def accessHiprand (attempt : Attempt) (via : Via) : Loading Unit := do
  if Loads via (← getGlobals) then
    loadHiprand attempt

/-- `hip.name`. -/
def accessHip (g : Globals) (name : String) : Except PyError Unit :=
  match g.hip with
  | none => .error (.attributeError ("'NoneType' object has no attribute '" ++ name ++ "'"))
  | some _ => .ok ()

/-- What an access ends with, the globals it leaves and the libraries it asked for. -/
structure Access where
  result : Except PyError Unit
  globals : Globals
  asked : List SharedLib
  deriving DecidableEq

def access (attempt : Attempt) (via : Via) (g : Globals) : Access :=
  let (result, globals, asked) := (accessHiprand attempt via).run (g, [])
  { result, globals, asked }

/-! ## What one access does -/

/-- Some library that provides the HIP runtime loads, or one is loaded already. -/
def HipAvailable (attempt : Attempt) (g : Globals) : Prop :=
  g.hip ≠ none ∨ (∃ u, attempt .libamdhip64 = .ok u) ∨ ∃ u, attempt .libcudart = .ok u

/-- The outcomes of one access: nothing to load; `libhiprand.so` missing; it loads
and a HIP runtime is there; it loads and none is. -/
inductive AccessCase (attempt : Attempt) (via : Via) (g : Globals) (a : Access) : Prop
  | direct (hloads : ¬ Loads via g) (hok : a.result = .ok ()) (hg : a.globals = g)
  | noHiprand (hloads : Loads via g) (hfail : ∀ u, attempt .libhiprand ≠ .ok u)
      (herr : ∃ msg, a.result = .error (.importError msg)) (hg : a.globals = g)
      (hasked : a.asked = [.libhiprand])
  | loaded (hloads : Loads via g) (hlib : ∃ u, attempt .libhiprand = .ok u)
      (hav : HipAvailable attempt g) (hok : a.result = .ok ())
      (hlibrary : a.globals.hiprand = .library) (hhip : a.globals.hip ≠ none)
      (hasked : .libhiprand ∈ a.asked ∧ (g.hip = none → .libamdhip64 ∈ a.asked ∧
        ((∀ u, attempt .libamdhip64 ≠ .ok u) → .libcudart ∈ a.asked)))
  | noHip (hloads : Loads via g) (hlib : ∃ u, attempt .libhiprand = .ok u)
      (hav : ¬ HipAvailable attempt g) (herr : ∃ msg, a.result = .error (.importError msg))
      (hlibrary : a.globals.hiprand = .library) (hhip : a.globals.hip = none)
      (hasked : a.asked = [.libhiprand, .libamdhip64, .libcudart])

theorem access_direct {attempt : Attempt} {via : Via} {g : Globals} (h : ¬ Loads via g) :
    access attempt via g = ⟨.ok (), g, []⟩ := by
  have hrun : (accessHiprand attempt via).run (g, []) = (Except.ok (), g, []) := by
    show (if Loads via g then loadHiprand attempt else pure ()).run (g, []) = _
    rw [if_neg h]
    rfl
  unfold access
  rw [hrun]

theorem access_loads {attempt : Attempt} {via : Via} {g : Globals} (h : Loads via g) :
    access attempt via g =
      let (result, globals, asked) := (loadHiprand attempt).run (g, [])
      ⟨result, globals, asked⟩ := by
  have hrun : (accessHiprand attempt via).run (g, []) = (loadHiprand attempt).run (g, []) := by
    show (if Loads via g then loadHiprand attempt else pure ()).run (g, []) = _
    rw [if_pos h]
  unfold access
  rw [hrun]

theorem run_bind_ok {α β : Type} {x : Loading α} {f : α → Loading β} {a : α}
    {s s' : Globals × List SharedLib} (h : x.run s = (Except.ok a, s')) :
    (x >>= f).run s = (f a).run s' := by
  rw [ExceptT.run_bind]
  show StateT.bind x.run _ s = _
  unfold StateT.bind
  rw [h]
  rfl

theorem tryHip_run (attempt : Attempt) (lib : SharedLib) (hip : HipLibrary) (g : Globals)
    (asked : List SharedLib) :
    (tryHip attempt lib hip).run (g, asked) =
      match g.hip, attempt lib with
      | some _, _ => (.ok [], g, asked)
      | none, .ok _ => (.ok [], { g with hip := some hip }, asked ++ [lib])
      | none, .error e => (.ok [e], g, asked ++ [lib]) := by
  obtain ⟨hiprand, hip'⟩ := g
  cases hip' with
  | some _ => rfl
  | none => cases h : attempt lib <;> (simp [tryHip, CDLL, h]; rfl)

/-- `load_hip` on each state of the globals and each outcome of the two attempts. -/
theorem loadHip_run (attempt : Attempt) (g : Globals) (asked : List SharedLib) :
    (loadHip attempt).run (g, asked) =
      match g.hip, attempt .libamdhip64, attempt .libcudart with
      | some _, _, _ => (.ok (), g, asked)
      | none, .ok _, _ => (.ok (), { g with hip := some .amdhip64 }, asked ++ [.libamdhip64])
      | none, .error _, .ok _ =>
        (.ok (), { g with hip := some .cudart }, asked ++ [.libamdhip64] ++ [.libcudart])
      | none, .error e₁, .error e₂ =>
        (.error (.importError ("both libcudart.so and libamdhip64.so cannot be loaded: " ++
          ", ".intercalate [e₁, e₂])), g, asked ++ [.libamdhip64] ++ [.libcudart]) := by
  unfold loadHip
  obtain ⟨hiprand, hip⟩ := g
  cases hip with
  | some hip =>
    rw [run_bind_ok (tryHip_run attempt .libamdhip64 .amdhip64 ..),
      run_bind_ok (tryHip_run attempt .libcudart .cudart ..)]
    rfl
  | none =>
    cases h₁ : attempt .libamdhip64 with
    | ok u =>
      have hamd := tryHip_run attempt .libamdhip64 .amdhip64 ⟨hiprand, none⟩ asked
      rw [h₁] at hamd
      rw [run_bind_ok hamd, run_bind_ok (tryHip_run attempt .libcudart .cudart ..)]
      rfl
    | error e₁ =>
      have hamd := tryHip_run attempt .libamdhip64 .amdhip64 ⟨hiprand, none⟩ asked
      rw [h₁] at hamd
      have hcuda := tryHip_run attempt .libcudart .cudart ⟨hiprand, none⟩
        (asked ++ [.libamdhip64])
      cases h₂ : attempt .libcudart with
      | ok u | error e₂ =>
        rw [h₂] at hcuda
        rw [run_bind_ok hamd, run_bind_ok hcuda]
        rfl

theorem loadHiprand_run (attempt : Attempt) (g : Globals) (asked : List SharedLib) :
    (loadHiprand attempt).run (g, asked) =
      match attempt .libhiprand with
      | .ok _ => (loadHip attempt).run ({ g with hiprand := .library }, asked ++ [.libhiprand])
      | .error e => (.error (.importError ("libhiprand.so cannot be loaded: " ++ e)), g,
          asked ++ [.libhiprand]) := by
  unfold loadHiprand
  have hcdll : (CDLL attempt .libhiprand).run (g, asked) =
      (.ok (attempt .libhiprand), g, asked ++ [.libhiprand]) := rfl
  rw [run_bind_ok hcdll]
  cases attempt .libhiprand with
  | ok u => rfl
  | error e => rfl

theorem access_cases (attempt : Attempt) (via : Via) (g : Globals) :
    AccessCase attempt via g (access attempt via g) := by
  by_cases hl : Loads via g
  · rw [access_loads hl, loadHiprand_run]
    cases hlib : attempt .libhiprand with
    | error e => exact .noHiprand hl (by simp [hlib]) ⟨_, rfl⟩ rfl rfl
    | ok u =>
      show AccessCase attempt via g (let (result, globals, asked) := (loadHip attempt).run _; _)
      rw [loadHip_run]
      obtain ⟨hiprand, hip⟩ := g
      cases hip with
      | some hip => exact .loaded hl ⟨u, hlib⟩ (.inl (by simp)) rfl rfl (by simp) (by simp)
      | none =>
        cases hamd : attempt .libamdhip64 with
        | ok u' =>
          exact .loaded hl ⟨u, hlib⟩ (.inr (.inl ⟨u', hamd⟩)) rfl rfl (by simp) (by simp [hamd])
        | error e =>
          cases hcuda : attempt .libcudart with
          | ok u' =>
            exact .loaded hl ⟨u, hlib⟩ (.inr (.inr ⟨u', hcuda⟩)) rfl rfl (by simp) (by simp)
          | error e' =>
            refine .noHip hl ⟨u, hlib⟩ ?_ ⟨_, rfl⟩ rfl rfl rfl
            simp [HipAvailable, hamd, hcuda]
  · rw [access_direct hl]
    exact .direct hl rfl rfl

/-! ## Every sequence of accesses -/

/-- One access of a run. -/
structure AccessLabel where
  attempt : Attempt
  via : Via

/-- The runs of accesses from a fresh import. -/
def loading : System Globals AccessLabel where
  init g := g = .fresh
  step g l g' := g' = (access l.attempt l.via g).globals

/-- Should the access load, then `libhiprand.so` does not load without a HIP
runtime being there too. -/
def FindsRuntime (g : Globals) (l : AccessLabel) : Prop :=
  Loads l.via g → (∃ u, l.attempt .libhiprand = .ok u) → HipAvailable l.attempt g

/-- The next access asks again for what is missing: for `libhiprand.so` if it is
not there, and then, unless that fails, for a HIP runtime if there is none, first in
`libamdhip64.so` and if that does not load in `libcudart.so`. -/
def RetriesMissing (g : Globals) : Prop :=
  ∀ attempt via,
    (g.hiprand = .placeholder → .libhiprand ∈ (access attempt via g).asked) ∧
    (g.hip = none → (∃ u, attempt .libhiprand = .ok u) →
      .libamdhip64 ∈ (access attempt via g).asked ∧
      ((∀ u, attempt .libamdhip64 ≠ .ok u) → .libcudart ∈ (access attempt via g).asked))

/-- The global `hiprand` is only replaced once there is a HIP runtime. -/
def Agree (g : Globals) : Prop :=
  g.hiprand = .library → g.hip ≠ none

namespace Agree

variable {g : Globals} {attempt : Attempt} {via : Via}

theorem retriesMissing (h : Agree g) : RetriesMissing g := by
  intro attempt via
  cases hg : g.hiprand with
  | library => exact ⟨nofun, fun hnone => absurd hnone (h hg)⟩
  | placeholder =>
    rcases access_cases attempt via g with ⟨hl, _, _⟩ | ⟨_, hfail, _, _, ha⟩ |
      ⟨_, _, _, _, _, _, ha⟩ | ⟨_, _, _, _, _, _, ha⟩
    · exact absurd (.inr hg) hl
    · rw [ha]
      exact ⟨fun _ => List.mem_singleton_self _, fun _ ⟨u, hu⟩ => absurd hu (hfail u)⟩
    · exact ⟨fun _ => ha.1, fun hnone _ => ha.2 hnone⟩
    · rw [ha]
      exact ⟨fun _ => by simp, fun _ _ => by simp⟩

/-- From globals that agree, one access keeps them in agreement exactly when it
does not load `libhiprand.so` without a HIP runtime. -/
theorem access_iff (h : Agree g) :
    Agree (access attempt via g).globals ↔ FindsRuntime g ⟨attempt, via⟩ := by
  rcases access_cases attempt via g with ⟨hl, _, hg⟩ | ⟨_, hfail, _, hg, _⟩ |
    ⟨_, _, hav, _, _, hhip, _⟩ | ⟨hl, hlib, hav, _, hlibrary, hhip, _⟩
  · rw [hg]
    exact iff_of_true h fun hl' => absurd hl' hl
  · rw [hg]
    exact iff_of_true h fun _ ⟨u, hu⟩ => absurd hu (hfail u)
  · exact iff_of_true (fun _ => hhip) fun _ _ => hav
  · exact iff_of_false (fun ha => ha hlibrary hhip) fun hf => hav (hf hl hlib)

theorem of_reachable (h : (loading.only FindsRuntime).Reachable g) : Agree g := by
  refine System.Reachable.invariant_only ?_ ?_ h
  · rintro _ rfl hlib
    cases hlib
  · rintro g l _ hg hfind rfl
    exact hg.access_iff.mpr hfind

end Agree

theorem library_of_ok {attempt : Attempt} {via : Via} {g : Globals}
    (hok : (access attempt via g).result = .ok ()) :
    (access attempt via g).globals.hiprand = .library := by
  rcases access_cases attempt via g with ⟨hl, _, hg⟩ | ⟨_, _, ⟨msg, herr⟩, _, _⟩ |
    ⟨_, _, _, _, hlibrary, _, _⟩ | ⟨_, _, _, ⟨msg, herr⟩, _, _, _⟩
  · rw [hg]
    cases hglobal : g.hiprand with
    | library => rfl
    | placeholder => exact absurd (.inr hglobal) hl
  · rw [hok] at herr
    cases herr
  · exact hlibrary
  · rw [hok] at herr
    cases herr

/-- In every run whose accesses all find a HIP runtime if they load
`libhiprand.so`, the global `hiprand` is the library only if `hip` is loaded. The
next access keeps this exactly when it finds one too. It then leaves a HIP runtime
if it returns a function, and if it raises `ImportError` the access after it asks
again for all that is missing. -/
theorem loaded_and_retries {g : Globals} (h : (loading.only FindsRuntime).Reachable g)
    (l : AccessLabel) :
    Agree g ∧
    (Agree (access l.attempt l.via g).globals ↔ FindsRuntime g l) ∧
    (FindsRuntime g l →
      ((access l.attempt l.via g).result = .ok () →
        (access l.attempt l.via g).globals.hip ≠ none) ∧
      (∀ msg, (access l.attempt l.via g).result = .error (.importError msg) →
        RetriesMissing (access l.attempt l.via g).globals)) := by
  have hagree := Agree.of_reachable h
  refine ⟨hagree, hagree.access_iff, fun hfind => ?_⟩
  have hnext : Agree (access l.attempt l.via g).globals := hagree.access_iff.mpr hfind
  exact ⟨fun hok => hnext (library_of_ok hok), fun _ _ => hnext.retriesMissing⟩

/-- Nothing loads at first, then `libcudart.so` is found: the runs of
`loaded_and_retries` include failures and the fallback. -/
theorem loaded_and_retries_after_failure :
    RetriesMissing (access (fun _ => .error "not found") .global .fresh).globals ∧
    (access (fun lib => if lib = .libamdhip64 then .error "no ROCm" else .ok ()) .global
      (access (fun _ => .error "not found") .global .fresh).globals).globals.hip ≠ none := by
  have hfail : FindsRuntime .fresh ⟨fun _ => .error "not found", .global⟩ :=
    fun _ ⟨_, hu⟩ => by cases hu
  have hinit : (loading.only FindsRuntime).Reachable .fresh := .init rfl
  have hreach := hinit.step (l := ⟨fun _ => .error "not found", .global⟩) ⟨hfail, rfl⟩
  have hfind : FindsRuntime (access (fun _ => .error "not found") .global .fresh).globals
      ⟨fun lib => if lib = .libamdhip64 then .error "no ROCm" else .ok (), .global⟩ :=
    fun _ _ => .inr (.inr ⟨(), rfl⟩)
  exact ⟨((loaded_and_retries hinit _).2.2 hfail).2 _ rfl,
    ((loaded_and_retries hreach _).2.2 hfind).1 rfl⟩

/-- The HIP runtime is missing at the first access: it raises `ImportError`, but
the second one returns a function without asking for anything, while `hip` is
still `None`. -/
theorem hipless_library_is_reachable :
    ∃ g, loading.Reachable g ∧ g.hiprand = .library ∧ g.hip = none ∧
      (∃ msg, (access (fun lib => if lib = .libhiprand then .ok () else .error "not found") .global
        .fresh).result = .error (.importError msg)) ∧
      ¬ RetriesMissing g ∧
      access (fun _ => .ok ()) .global g = ⟨.ok (), g, []⟩ := by
  refine ⟨⟨.library, none⟩, ?_, rfl, rfl, ⟨_, rfl⟩, fun hretry => ?_, rfl⟩
  · exact (System.Reachable.init (s := Globals.fresh) rfl).step
      (l := ⟨fun lib => if lib = .libhiprand then .ok () else .error "not found", .global⟩) rfl
  · have hasked := ((hretry (fun _ => .ok ()) .global).2 rfl ⟨(), rfl⟩).1
    exact absurd hasked List.not_mem_nil

end HipRand.Py
