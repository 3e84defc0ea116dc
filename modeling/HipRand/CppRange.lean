import HipRand.CppOwnership
import HipRand.Lib.Hoare

/-!
# The range of the engines

Each engine class has a `result_type`, an `operator()` that calls one generation
function of the C API, and the bounds `min()` and `max()`; `uniform_int_distribution`
chooses its generation function by the integer type. A generating call that succeeds
may store any values of its element type. Which generating calls the C API accepts on a
live generator may depend on all calls so far: on how the generator was created, by an
engine or by the client, and on how it was configured.

Results:
1. `runs_generate_ok_iff`: what a call of `operator()` that returns has stored.
2. `EngineClass.bounds_hold_iff`: the bounds of six classes hold for every value of their
   generation function, those of `mrg32k3a_engine` and of the 64-bit Sobol engines do not.
3. `engine_values_in_range_iff`: so it is for each engine in every reachable state.
-/

namespace HipRand.Cpp

open Interaction Ledger Transition

/-! ## Element types -/

/-- The types that `uniform_int_distribution` supports. -/
inductive IntType
  | unsignedChar
  | unsignedShort
  | unsignedInt
  | unsignedLongLong
  deriving DecidableEq

def IntType.bits : IntType → Nat
  | unsignedChar => 8
  | unsignedShort => 16
  | unsignedInt => 32
  | unsignedLongLong => 64

/-- The size of the elements that a generation function writes. -/
def GenerateFn.bits : GenerateFn → Nat
  | hiprandGenerateChar => 8
  | hiprandGenerateShort | hiprandGenerateUniformHalf | hiprandGenerateNormalHalf _ _
  | hiprandGenerateLogNormalHalf _ _ => 16
  | hiprandGenerate | hiprandGenerateUniform | hiprandGenerateNormal _ _
  | hiprandGenerateLogNormal _ _ | hiprandGeneratePoisson _ => 32
  | hiprandGenerateLongLong | hiprandGenerateUniformDouble | hiprandGenerateNormalDouble _ _
  | hiprandGenerateLogNormalDouble _ _ => 64

/-- The overloads of `uniform_int_distribution::generate`. -/
def IntType.generateFn : IntType → GenerateFn
  | unsignedChar => .hiprandGenerateChar
  | unsignedShort => .hiprandGenerateShort
  | unsignedInt => .hiprandGenerate
  | unsignedLongLong => .hiprandGenerateLongLong

/-- `uniform_int_distribution<IntType>::operator()` -/
def uniformIntDistribution (type : IntType) (mGenerator : Generator) (output : Pointer)
    (size : CSize) : EngineProg Unit :=
  generate type.generateFn mGenerator output size

/-! ## The classes -/

/-- `std::numeric_limits<unsigned int>::max()` -/
def unsignedIntMax : CUInt :=
  BitVec.allOnes 32

namespace EngineClass

/-- `result_type` -/
def resultType : EngineClass → IntType
  | philox4x32_10 => .unsignedInt
  | xorwow => .unsignedInt
  | mrg32k3a => .unsignedInt
  | mtgp32 => .unsignedInt
  | mt19937 => .unsignedInt
  | sobol32 => .unsignedInt
  | scrambledSobol32 => .unsignedInt
  | sobol64 => .unsignedLongLong
  | scrambledSobol64 => .unsignedLongLong

/-- The function that `operator()` calls. -/
def operatorFn : EngineClass → GenerateFn
  | philox4x32_10 => .hiprandGenerate
  | xorwow => .hiprandGenerate
  | mrg32k3a => .hiprandGenerate
  | mtgp32 => .hiprandGenerate
  | mt19937 => .hiprandGenerate
  | sobol32 => .hiprandGenerate
  | scrambledSobol32 => .hiprandGenerate
  | sobol64 => .hiprandGenerateLongLong
  | scrambledSobol64 => .hiprandGenerateLongLong

/-- `operator()` -/
def operator (cls : EngineClass) (mGenerator : Generator) (output : Pointer) (size : CSize) :
    EngineProg Unit :=
  generate cls.operatorFn mGenerator output size

/-- `min()` -/
def min : (cls : EngineClass) → BitVec cls.resultType.bits
  | philox4x32_10 => (0 : CUInt)
  | xorwow => (0 : CUInt)
  | mrg32k3a => (1 : CUInt)
  | mtgp32 => (0 : CUInt)
  | mt19937 => (0 : CUInt)
  | sobol32 => (0 : CUInt)
  | scrambledSobol32 => (0 : CUInt)
  | sobol64 => (0 : CULongLong)
  | scrambledSobol64 => (0 : CULongLong)

/-- `max()`: each of the nine classes returns the same constant, converted to its
`result_type`. -/
def max (cls : EngineClass) : BitVec cls.resultType.bits :=
  unsignedIntMax.setWidth cls.resultType.bits

/-- `operator()` is one of the member functions. -/
theorem method?_operator (cls : EngineClass) (g : Generator) (output : Pointer) (size : CSize) :
    cls.method? (.generate cls.operatorFn output size) g = some (cls.operator g output size) := by
  cases cls <;> rfl

/-- A `uniform_int_distribution` of the `result_type` does what `operator()` does. -/
theorem uniformIntDistribution_eq (cls : EngineClass) :
    uniformIntDistribution cls.resultType = cls.operator := by
  cases cls <;> rfl

/-- The bounds hold for every value of the generation function. -/
def BoundsHold (cls : EngineClass) : Prop :=
  ∀ v : BitVec cls.operatorFn.bits, cls.min.toNat ≤ v.toNat ∧ v.toNat ≤ cls.max.toNat

/-- For a class whose `operator()` calls `hiprandGenerate`, `max()` is the largest value. -/
theorem toNat_le_unsignedIntMax (v : CUInt) : v.toNat ≤ unsignedIntMax.toNat :=
  Nat.le_pred_of_lt v.isLt

/-- The lower bound of `mrg32k3a_engine` excludes a value, and so does the upper bound
of the 64-bit Sobol engines. -/
theorem bounds_hold_iff (cls : EngineClass) :
    cls.BoundsHold ↔ cls ∉ [mrg32k3a, sobol64, scrambledSobol64] := by
  cases cls with
  | mrg32k3a =>
    refine iff_of_false (fun h => ?_) (by decide)
    exact absurd (h (0 : CUInt)).1 (by decide)
  | sobol64 | scrambledSobol64 =>
    refine iff_of_false (fun h => ?_) (by decide)
    exact absurd (h (2 ^ 32 : CULongLong)).2 (by decide)
  | _ => exact iff_of_true (fun v => ⟨Nat.zero_le _, toNat_le_unsignedIntMax v⟩) (by decide)

end EngineClass

/-! ## What a generating call stores -/

/-- The elements of the array at each pointer to device memory. -/
abbrev DeviceMemory := Pointer → Nat → Nat

/-- Which generating calls the C API accepts on a live generator, given the calls so far. -/
abbrev Acceptance := List (Event apiSig) → GenerateFn → Generator → CSize → Prop

/-- The calls so far have created the generator and not destroyed it. -/
def Live (log : List (Event apiSig)) (g : Generator) : Prop :=
  ∃ φ, Books kind log φ ∧ φ g = .live

def DeviceMemory.store {bits : Nat} (memory : DeviceMemory) (output : Pointer) (size : CSize)
    (values : Nat → BitVec bits) : DeviceMemory :=
  Function.update memory output fun i =>
    if i < size.toNat then (values i).toNat else memory output i

/-- A generating call that succeeds stores any values. What a failing one leaves in
memory is left open. -/
def storeEnv (accepts : Acceptance) (log : List (Event apiSig)) : Env apiSig DeviceMemory where
  handle
    | .generate fn g output size, memory, status, memory' =>
      status = .success → Live log g ∧ accepts log fn g size ∧
        ∃ values : Nat → BitVec fn.bits, memory' = memory.store output size values
    | _, _, _, _ => True
  rely _ _ := False

section Store

variable {accepts : Acceptance} {log : List (Event apiSig)} {fn : GenerateFn} {g : Generator}
  {output : Pointer} {size : CSize} {memory memory' : DeviceMemory}

theorem stable_storeEnv (P : DeviceMemory → Prop) : Stable (storeEnv accepts log) P :=
  fun _ _ _ h => h.elim

theorem triple_generate :
    Triple (storeEnv accepts log) (fun s => s = memory) (generate fn g output size) fun r s =>
      r = .ok () → Live log g ∧ accepts log fn g size ∧
        ∃ values : Nat → BitVec fn.bits, s = memory.store output size values := by
  refine .perform_bind (R := fun status s => status = HiprandStatus.success →
    Live log g ∧ accepts log fn g size ∧
      ∃ values : Nat → BitVec fn.bits, s = memory.store output size values)
    (stable_storeEnv _) ?_ fun status => ?_
  · intro s status s' hs hh
    subst hs
    exact hh
  · unfold check
    split
    · exact .throw (stable_storeEnv _) fun _ _ => nofun
    · next hok => exact .ret (stable_storeEnv _) fun s hs _ => hs (not_not.mp hok)

/-- A call that returns was accepted and has stored its values, and each way to do so is
possible. -/
theorem runs_generate_ok_iff :
    Runs (storeEnv accepts log) (generate fn g output size) memory (.ok ()) memory' ↔
      Live log g ∧ accepts log fn g size ∧
        ∃ values : Nat → BitVec fn.bits, memory' = memory.store output size values := by
  constructor
  · intro hrun
    exact triple_generate memory _ memory' rfl hrun rfl
  · intro h
    have hstored : (storeEnv accepts log).handle (.generate fn g output size) memory
        HiprandStatus.success memory' := fun _ => h
    exact .call hstored .ret

end Store

/-! ## The range in every reachable state -/

/-- Every value that a call of `p` stores when it returns is within the bounds of the class. -/
def InRange (accepts : Acceptance) (log : List (Event apiSig)) (cls : EngineClass)
    (p : EngineProg Unit) (output : Pointer) (size : CSize) : Prop :=
  ∀ memory memory', Runs (storeEnv accepts log) p memory (.ok ()) memory' →
    ∀ i < size.toNat, cls.min.toNat ≤ memory' output i ∧ memory' output i ≤ cls.max.toNat

section Range

variable {accepts : Acceptance} {log : List (Event apiSig)} {cls : EngineClass} {g : Generator}
  {output : Pointer} {size : CSize}

/-- On a live generator an accepted call may store each value at each place. -/
theorem inRange_operator_iff (hlive : Live log g) :
    InRange accepts log cls (cls.operator g output size) output size ↔
      cls.BoundsHold ∨ size = 0 ∨ ¬ accepts log cls.operatorFn g size := by
  constructor
  · intro hrange
    by_cases hsize : size = 0
    · exact .inr (.inl hsize)
    by_cases haccepts : accepts log cls.operatorFn g size
    · refine .inl fun v => ?_
      have hpos : 0 < size.toNat := by
        rw [Nat.pos_iff_ne_zero]
        intro hzero
        exact hsize (BitVec.eq_of_toNat_eq hzero)
      -- the call that stores `v` everywhere
      have hrun : Runs (storeEnv accepts log) (cls.operator g output size) (fun _ _ => 0) (.ok ())
          (DeviceMemory.store (fun _ _ => 0) output size fun _ => v) :=
        runs_generate_ok_iff.mpr ⟨hlive, haccepts, fun _ => v, rfl⟩
      have hv := hrange _ _ hrun 0 hpos
      rwa [DeviceMemory.store, Function.update_self, if_pos hpos] at hv
    · exact .inr (.inr haccepts)
  · intro hcond memory memory' hrun i hi
    obtain ⟨_, haccepts, values, rfl⟩ := runs_generate_ok_iff.mp hrun
    rcases hcond with hbounds | rfl | hnot
    · rw [DeviceMemory.store, Function.update_self, if_pos hi]
      exact hbounds (values i)
    · exact absurd hi (Nat.not_lt_zero i)
    · exact absurd haccepts hnot

/-- The generator that an engine owns is live. -/
theorem Owned.live_of_owns {w : World} {φ : Generator → Phase} {e : EngineId} (h : Owned w φ)
    (he : w.Owns e g) : Live w.log g :=
  ⟨φ, h.books, h.custody.live he⟩

end Range

/-- For each live engine in every reachable state: what `operator()` and a
`uniform_int_distribution` of the `result_type` store is within the bounds of the engine
exactly if the class is none of the three with a wrong bound, nothing is requested, or
the C API does not accept the call. -/
theorem engine_values_in_range_iff {w : World} (h : wrapper.Reachable w) {e : EngineId}
    {g : Generator} (he : w.Owns e g) (accepts : Acceptance) (output : Pointer) (size : CSize) :
    (InRange accepts w.log e.cls (e.cls.operator g output size) output size ∧
      InRange accepts w.log e.cls (uniformIntDistribution e.cls.resultType g output size) output
        size) ↔
      e.cls ∉ [.mrg32k3a, .sobol64, .scrambledSobol64] ∨ size = 0 ∨
        ¬ accepts w.log e.cls.operatorFn g size := by
  obtain ⟨φ, hφ⟩ := Owned.of_reachable h
  rw [EngineClass.uniformIntDistribution_eq, and_self, inRange_operator_iff (hφ.live_of_owns he),
    EngineClass.bounds_hold_iff]

/-- The generator types for which `hiprand.h` allows a generation function. -/
def GenerateFn.AllowedFor : GenerateFn → HiprandRngType → Prop
  | hiprandGenerate, type => type ∉ [.quasiSobol64, .quasiScrambledSobol64]
  | hiprandGenerateLongLong, type => type ∈ [.quasiSobol64, .quasiScrambledSobol64]
  | _, _ => True

/-- What the C API accepts if it only looks at the type of the generator. -/
def documentedAcceptance : Acceptance := fun log fn g _ =>
  ∃ type, ⟨.hiprandCreateGenerator type, (.success, g)⟩ ∈ log ∧ fn.AllowedFor type

/-- What the XORWOW engine that adopted generator 7 stores is within its bounds. -/
theorem engine_values_in_range_afterAdoption :
    InRange documentedAcceptance World.afterAdoption.log .xorwow
      (EngineClass.xorwow.operator 7 4096 100) 4096 100 := by
  have howns : World.afterAdoption.Owns ⟨.xorwow, 0⟩ 7 := rfl
  exact ((engine_values_in_range_iff World.afterAdoption_reachable howns documentedAcceptance 4096
    100).mpr (.inl (by decide))).1

/-- The calls of `sobol64_engine<> engine;` on generator 7. -/
def sobol64Calls : List (Event apiSig) :=
  [⟨.hiprandCreateGenerator .quasiSobol64, (.success, 7)⟩,
    ⟨.hiprandSetQuasiRandomGeneratorDimensions 7 1, HiprandStatus.success⟩]

def World.afterSobol64 : World :=
  World.initial.constructed ⟨.sobol64, 0⟩ sobol64Calls (.ok 7)

theorem World.afterSobol64_reachable : wrapper.Reachable .afterSobol64 := by
  have hfresh : World.initial.Fresh sobol64Calls :=
    fun _ _ ⟨_, hev, _⟩ => List.not_mem_nil hev
  have htrace : Traces (sobol64Engine 1 0) sobol64Calls (.ok 7) :=
    traces_perform_bind_iff.mpr ⟨_, _, rfl, .call .ret⟩
  have hstep : Step .initial (.construct ⟨.sobol64, 0⟩ (.dimensionsOffset 1 0) _ _) .afterSobol64 :=
    .construct rfl rfl htrace hfresh
  have hinit : wrapper.Reachable .initial := .init rfl
  exact hinit.step hstep

/-- The calls of `mrg32k3a_engine<> engine;` on generator 7. -/
def mrg32k3aCalls : List (Event apiSig) :=
  [⟨.hiprandCreateGenerator .pseudoMrg32k3a, (.success, 7)⟩,
    ⟨.hiprandSetPseudoRandomGeneratorSeed 7 12345, HiprandStatus.success⟩]

def World.afterMrg32k3a : World :=
  World.initial.constructed ⟨.mrg32k3a, 0⟩ mrg32k3aCalls (.ok 7)

theorem World.afterMrg32k3a_reachable : wrapper.Reachable .afterMrg32k3a := by
  have hfresh : World.initial.Fresh mrg32k3aCalls :=
    fun _ _ ⟨_, hev, _⟩ => List.not_mem_nil hev
  have htrace : Traces (mrg32k3aEngine 12345 0) mrg32k3aCalls (.ok 7) :=
    traces_perform_bind_iff.mpr ⟨_, _, rfl, .call .ret⟩
  have hstep : Step .initial (.construct ⟨.mrg32k3a, 0⟩ (.seedOffset 12345 0) _ _)
      .afterMrg32k3a := .construct rfl rfl htrace hfresh
  have hinit : wrapper.Reachable .initial := .init rfl
  exact hinit.step hstep

/-- Of a new `sobol64_engine`, one call may store `2^32`, which is above its `max()`; of a
new `mrg32k3a_engine`, one call may store `0`, which is below its `min()`. -/
theorem bounds_are_exceeded :
    (wrapper.Reachable .afterSobol64 ∧ World.afterSobol64.Owns ⟨.sobol64, 0⟩ 7 ∧
      ∃ memory, Runs (storeEnv documentedAcceptance World.afterSobol64.log)
        (EngineClass.sobol64.operator 7 4096 1) (fun _ _ => 0) (.ok ()) memory ∧
        EngineClass.sobol64.max.toNat < memory 4096 0) ∧
    (wrapper.Reachable .afterMrg32k3a ∧ World.afterMrg32k3a.Owns ⟨.mrg32k3a, 0⟩ 7 ∧
      ∃ memory, Runs (storeEnv documentedAcceptance World.afterMrg32k3a.log)
        (EngineClass.mrg32k3a.operator 7 4096 1) (fun _ _ => 0) (.ok ()) memory ∧
        memory 4096 0 < EngineClass.mrg32k3a.min.toNat) := by
  have hsobol : World.afterSobol64.Owns ⟨.sobol64, 0⟩ 7 := rfl
  have hmrg : World.afterMrg32k3a.Owns ⟨.mrg32k3a, 0⟩ 7 := rfl
  obtain ⟨φ, hφ⟩ := Owned.of_reachable World.afterSobol64_reachable
  obtain ⟨ψ, hψ⟩ := Owned.of_reachable World.afterMrg32k3a_reachable
  refine ⟨⟨World.afterSobol64_reachable, hsobol, _, runs_generate_ok_iff.mpr
    ⟨hφ.live_of_owns hsobol, ?_, fun _ => (2 ^ 32 : CULongLong), rfl⟩, ?_⟩,
    World.afterMrg32k3a_reachable, hmrg, _, runs_generate_ok_iff.mpr
    ⟨hψ.live_of_owns hmrg, ?_, fun _ => (0 : CUInt), rfl⟩, ?_⟩
  · exact ⟨.quasiSobol64, List.mem_cons_self, List.mem_cons_self⟩
  · decide
  · have hallowed : HiprandRngType.pseudoMrg32k3a ∉
        [HiprandRngType.quasiSobol64, .quasiScrambledSobol64] := by decide
    exact ⟨.pseudoMrg32k3a, List.mem_cons_self, hallowed⟩
  · decide

end HipRand.Cpp
