import HipRand.Basic
import HipRand.Lib.Ledger
import HipRand.Lib.Prog
import Mathlib.Data.List.Nodup

/-!
# The engine classes of the C++ wrapper

`library/include/hiprand/hiprand.hpp`: nine engine classes that own a generator.
Constructors, the destructor and the member functions are programs over the
hipRAND calls they issue, and throw `hiprand_cpp::error`. A generator stands for
one creation, so a backend that reuses an address after a destruction hands out a
new generator; a `hiprandGenerator_t` that is `NULL` is `none`.

Results, for each way in which an engine uses the API:
1. `construct_traces`: the three ways in which a constructor can end.
2. `destruct_traces`: the destructor issues one destruction, whatever it answers.
3. `EngineClass.method?_checksOn`: a member function only issues checked calls on
   the generator of its engine.
-/

namespace HipRand.Cpp

open Interaction Ledger

/-- What a `hiprandGenerator_t` other than `NULL` points to. -/
abbrev Generator := Nat

/-! ## The hipRAND calls of the wrapper -/

/-- The generation functions of the C API with their distribution parameters. -/
inductive GenerateFn
  | hiprandGenerate
  | hiprandGenerateChar
  | hiprandGenerateShort
  | hiprandGenerateLongLong
  | hiprandGenerateUniform
  | hiprandGenerateUniformDouble
  | hiprandGenerateUniformHalf
  | hiprandGenerateNormal (mean stddev : CFloat)
  | hiprandGenerateNormalDouble (mean stddev : CDouble)
  | hiprandGenerateNormalHalf (mean stddev : CHalf)
  | hiprandGenerateLogNormal (mean stddev : CFloat)
  | hiprandGenerateLogNormalDouble (mean stddev : CDouble)
  | hiprandGenerateLogNormalHalf (mean stddev : CHalf)
  | hiprandGeneratePoisson (lambda : CDouble)
  deriving DecidableEq

inductive ApiCall
  | hiprandCreateGenerator (rngType : HiprandRngType)
  | hiprandDestroyGenerator (generator : Generator)
  | hiprandSetStream (generator : Generator) (stream : Pointer)
  | hiprandSetPseudoRandomGeneratorSeed (generator : Generator) (seed : CULongLong)
  | hiprandSetGeneratorOffset (generator : Generator) (offset : CULongLong)
  | hiprandSetGeneratorOrdering (generator : Generator) (order : Int)
  | hiprandSetQuasiRandomGeneratorDimensions (generator : Generator) (dimensions : CUInt)
  | generate (fn : GenerateFn) (generator : Generator) (output : Pointer) (size : CSize)
  deriving DecidableEq

/-- Every call answers a status; a creation also leaves a generator in the
variable it got, which is one only if the status is `success`. -/
def ApiCall.Ans : ApiCall → Type
  | hiprandCreateGenerator _ => HiprandStatus × Generator
  | _ => HiprandStatus

abbrev apiSig : Sig := ⟨ApiCall, ApiCall.Ans⟩

/-- `hiprand_cpp::error` -/
structure Error where
  errorCode : HiprandStatus
  deriving DecidableEq

/-- `error::to_string`. An `error_type` may hold any number. -/
def Error.toString (error : Int) : String :=
  match CEnum.ofInt? (α := HiprandStatus) error with
  | some .success => "Success"
  | some .versionMismatch => "Header file and linked library version do not match"
  | some .notInitialized => "Generator was not created using hiprandCreateGenerator"
  | some .allocationFailed => "Memory allocation failed during execution"
  | some .typeError => "Generator type is wrong"
  | some .outOfRange => "Argument out of range"
  | some .lengthNotMultiple => "Length requested is not a multiple of dimension"
  | some .doublePrecisionRequired => "GPU does not have double precision"
  | some .launchFailure => "Kernel launch failure"
  | some .preexistingFailure => "Preexisting failure on library entry"
  | some .initializationFailed => "Initialization of HIP failed"
  | some .archMismatch => "Architecture mismatch, GPU does not support requested feature"
  | some .internalError => "Internal library error"
  | some .notImplemented => "Feature not implemented yet"
  | none => s!"Unknown hipRAND error ({error})"

/-- The text of `error_string` and `what`, which the constructor sets. -/
def Error.what (e : Error) : String :=
  Error.toString (CEnum.value e.errorCode)

/-- Errors with one text are equal. -/
theorem Error.what_injective {e e' : Error} (h : e.what = e'.what) : e = e' := by
  have hnodup : (CEnum.enumerators.map fun st => (Error.mk st).what).Nodup := by decide +kernel
  obtain ⟨st⟩ := e
  obtain ⟨st'⟩ := e'
  exact congrArg Error.mk
    (List.inj_on_of_nodup_map hnodup (CEnum.complete st) (CEnum.complete st') h)

abbrev EngineProg := Prog apiSig Error

def hiprandCreateGenerator (rngType : HiprandRngType) : EngineProg (HiprandStatus × Generator) :=
  Prog.perform (S := apiSig) (.hiprandCreateGenerator rngType)

def hiprandDestroyGenerator (generator : Generator) : EngineProg HiprandStatus :=
  Prog.perform (S := apiSig) (.hiprandDestroyGenerator generator)

/-- `if(status != HIPRAND_STATUS_SUCCESS) throw hiprand_cpp::error(status);` -/
def check (status : HiprandStatus) : EngineProg Unit :=
  if status ≠ .success then throw ⟨status⟩ else pure ()

/-! ## Member functions -/

def stream (mGenerator : Generator) (value : Pointer) : EngineProg Unit := do
  let status ← Prog.perform (S := apiSig) (.hiprandSetStream mGenerator value)
  check status

def offset (mGenerator : Generator) (value : CULongLong) : EngineProg Unit := do
  let status ← Prog.perform (S := apiSig) (.hiprandSetGeneratorOffset mGenerator value)
  check status

def order (mGenerator : Generator) (value : Int) : EngineProg Unit := do
  let status ← Prog.perform (S := apiSig) (.hiprandSetGeneratorOrdering mGenerator value)
  check status

def seed (mGenerator : Generator) (value : CULongLong) : EngineProg Unit := do
  let status ← Prog.perform (S := apiSig) (.hiprandSetPseudoRandomGeneratorSeed mGenerator value)
  check status

def dimensions (mGenerator : Generator) (value : CUInt) : EngineProg Unit := do
  let status ←
    Prog.perform (S := apiSig) (.hiprandSetQuasiRandomGeneratorDimensions mGenerator value)
  check status

/-- `operator()` of an engine and of each distribution applied to it. -/
def generate (fn : GenerateFn) (mGenerator : Generator) (output : Pointer) (size : CSize) :
    EngineProg Unit := do
  let status ← Prog.perform (S := apiSig) (.generate fn mGenerator output size)
  check status

/-! ## Constructors and the destructor -/

/-- The body that the constructors share: create, configure, and on an exception
destroy what was created and rethrow. -/
def construct (type : HiprandRngType) (configure : Generator → EngineProg Unit) :
    EngineProg Generator := do
  let (status, mGenerator) ← hiprandCreateGenerator type
  check status
  try
    configure mGenerator
  catch e =>
    let _ ← hiprandDestroyGenerator mGenerator
    throw e
  return mGenerator

/-- The `try` block of the engines with a seed and an offset. -/
def configureSeedOffset (seedValue offsetValue : CULongLong) (mGenerator : Generator) :
    EngineProg Unit := do
  if offsetValue > 0 then
    offset mGenerator offsetValue
  seed mGenerator seedValue

/-- The `try` block of the engines that accept no offset. -/
def configureSeed (seedValue : CULongLong) (mGenerator : Generator) : EngineProg Unit :=
  seed mGenerator seedValue

/-- The `try` block of the quasi-random engines. -/
def configureDimensionsOffset (numOfDimensions : CUInt) (offsetValue : CULongLong)
    (mGenerator : Generator) : EngineProg Unit := do
  if offsetValue > 0 then
    offset mGenerator offsetValue
  dimensions mGenerator numOfDimensions

def philox4x32_10Engine (seedValue offsetValue : CULongLong) : EngineProg Generator :=
  construct .pseudoPhilox4_32_10 (configureSeedOffset seedValue offsetValue)

def xorwowEngine (seedValue offsetValue : CULongLong) : EngineProg Generator :=
  construct .pseudoXorwow (configureSeedOffset seedValue offsetValue)

def mrg32k3aEngine (seedValue offsetValue : CULongLong) : EngineProg Generator :=
  construct .pseudoMrg32k3a (configureSeedOffset seedValue offsetValue)

def mtgp32Engine (seedValue : CULongLong) : EngineProg Generator :=
  construct .pseudoMtgp32 (configureSeed seedValue)

def mt19937Engine (seedValue : CULongLong) : EngineProg Generator :=
  construct .pseudoMt19937 (configureSeed seedValue)

def sobol32Engine (numOfDimensions : CUInt) (offsetValue : CULongLong) : EngineProg Generator :=
  construct .quasiSobol32 (configureDimensionsOffset numOfDimensions offsetValue)

def scrambledSobol32Engine (numOfDimensions : CUInt) (offsetValue : CULongLong) :
    EngineProg Generator :=
  construct .quasiScrambledSobol32 (configureDimensionsOffset numOfDimensions offsetValue)

def sobol64Engine (numOfDimensions : CUInt) (offsetValue : CULongLong) : EngineProg Generator :=
  construct .quasiSobol64 (configureDimensionsOffset numOfDimensions offsetValue)

def scrambledSobol64Engine (numOfDimensions : CUInt) (offsetValue : CULongLong) :
    EngineProg Generator :=
  construct .quasiScrambledSobol64 (configureDimensionsOffset numOfDimensions offsetValue)

/-- The constructor from `hiprandGenerator_t& generator`, the same in the nine
classes: the generator that the engine owns, and what it leaves in the
referenced variable. -/
def adopt (generator : Option Generator) : EngineProg (Generator × Option Generator) :=
  match generator with
  | none => throw ⟨.notInitialized⟩
  | some mGenerator => pure (mGenerator, none)

/-- The destructor, the same in the nine classes. -/
def destruct (mGenerator : Generator) : EngineProg Unit := do
  let status ← hiprandDestroyGenerator mGenerator
  check status

/-! ## The classes -/

inductive EngineClass
  | philox4x32_10
  | xorwow
  | mrg32k3a
  | mtgp32
  | mt19937
  | sobol32
  | scrambledSobol32
  | sobol64
  | scrambledSobol64
  deriving DecidableEq

/-- The argument lists of the value constructors. -/
inductive CtorArgs
  | seedOffset (seedValue offsetValue : CULongLong)
  | seed (seedValue : CULongLong)
  | dimensionsOffset (numOfDimensions : CUInt) (offsetValue : CULongLong)

/-- The constructor of the class that takes these arguments, if it has one. -/
def EngineClass.constructor? : EngineClass → CtorArgs → Option (EngineProg Generator)
  | .philox4x32_10, .seedOffset s o => some (philox4x32_10Engine s o)
  | .xorwow, .seedOffset s o => some (xorwowEngine s o)
  | .mrg32k3a, .seedOffset s o => some (mrg32k3aEngine s o)
  | .mtgp32, .seed s => some (mtgp32Engine s)
  | .mt19937, .seed s => some (mt19937Engine s)
  | .sobol32, .dimensionsOffset d o => some (sobol32Engine d o)
  | .scrambledSobol32, .dimensionsOffset d o => some (scrambledSobol32Engine d o)
  | .sobol64, .dimensionsOffset d o => some (sobol64Engine d o)
  | .scrambledSobol64, .dimensionsOffset d o => some (scrambledSobol64Engine d o)
  | _, _ => none

/-- The member functions, with their arguments. -/
inductive Method
  | stream (value : Pointer)
  | offset (value : CULongLong)
  | order (value : Int)
  | seed (value : CULongLong)
  | dimensions (value : CUInt)
  | generate (fn : GenerateFn) (output : Pointer) (size : CSize)

/-- The member function of the class, if it has it: the Mersenne Twisters have no
`offset`, and the classes either have a `seed` or `dimensions`. -/
def EngineClass.method? (cls : EngineClass) (m : Method) (mGenerator : Generator) :
    Option (EngineProg Unit) :=
  match m, cls with
  | .offset _, .mtgp32 | .offset _, .mt19937 => none
  | .seed _, .sobol32 | .seed _, .scrambledSobol32 | .seed _, .sobol64
  | .seed _, .scrambledSobol64 => none
  | .dimensions _, .philox4x32_10 | .dimensions _, .xorwow | .dimensions _, .mrg32k3a
  | .dimensions _, .mtgp32 | .dimensions _, .mt19937 => none
  | .stream value, _ => some (Cpp.stream mGenerator value)
  | .offset value, _ => some (Cpp.offset mGenerator value)
  | .order value, _ => some (Cpp.order mGenerator value)
  | .seed value, _ => some (Cpp.seed mGenerator value)
  | .dimensions value, _ => some (Cpp.dimensions mGenerator value)
  | .generate fn output size, _ => some (Cpp.generate fn mGenerator output size)

/-! ## What each use of the API leaves in the log -/

/-- What a call does to the generators: a creation acquires one if it succeeds. -/
def kind : Event apiSig → Action Generator
  | ⟨.hiprandCreateGenerator _, (.success, generator)⟩ => .acquire generator
  | ⟨.hiprandCreateGenerator _, _⟩ => .other
  | ⟨.hiprandDestroyGenerator generator, _⟩ => .release generator
  | ⟨.hiprandSetStream generator _, _⟩
  | ⟨.hiprandSetPseudoRandomGeneratorSeed generator _, _⟩
  | ⟨.hiprandSetGeneratorOffset generator _, _⟩
  | ⟨.hiprandSetGeneratorOrdering generator _, _⟩
  | ⟨.hiprandSetQuasiRandomGeneratorDimensions generator _, _⟩
  | ⟨.generate _ generator _ _, _⟩ => .use generator

/-- The status that a call returned. -/
def status : Event apiSig → HiprandStatus
  | ⟨.hiprandCreateGenerator _, ans⟩ => ans.1
  | ⟨.hiprandDestroyGenerator _, ans⟩
  | ⟨.hiprandSetStream _ _, ans⟩
  | ⟨.hiprandSetPseudoRandomGeneratorSeed _ _, ans⟩
  | ⟨.hiprandSetGeneratorOffset _ _, ans⟩
  | ⟨.hiprandSetGeneratorOrdering _ _, ans⟩
  | ⟨.hiprandSetQuasiRandomGeneratorDimensions _ _, ans⟩
  | ⟨.generate _ _ _ _, ans⟩ => ans

/-- The calls `t` are all on `g`, and `r` reports the first that failed: all of
them succeeded, or all before the last did and `r` is the status of the last. -/
def Checked (g : Generator) (t : List (Event apiSig)) (r : Except Error Unit) : Prop :=
  (∀ ev ∈ t, kind ev = .use g) ∧
  match r with
  | .ok _ => ∀ ev ∈ t, status ev = .success
  | .error e => ∃ pre ev, t = pre ++ [ev] ∧ (∀ ev' ∈ pre, status ev' = .success) ∧
      status ev = e.errorCode ∧ e.errorCode ≠ .success

/-- Every trace of `p` is a stretch of checked calls on `g`. -/
def ChecksOn (g : Generator) (p : EngineProg Unit) : Prop :=
  ∀ t r, Traces p t r → Checked g t r

theorem traces_check_iff {st : HiprandStatus} {t : List (Event apiSig)} {r : Except Error Unit} :
    Traces (check st) t r ↔
      t = [] ∧ ((st = .success ∧ r = .ok ()) ∨ (st ≠ .success ∧ r = .error ⟨st⟩)) := by
  unfold check
  by_cases h : st = .success <;> simp [h]

theorem ChecksOn.call {g : Generator} {op : ApiCall} {k : apiSig.Ans op → EngineProg Unit}
    (h : ∀ a, kind ⟨op, a⟩ = .use g ∧ k a = check (status ⟨op, a⟩)) :
    ChecksOn g (.call op k) := by
  intro t r ht
  obtain ⟨a, t', rfl, ht'⟩ := traces_call_iff.mp ht
  obtain ⟨hkind, hk⟩ := h a
  rw [hk] at ht'
  rcases traces_check_iff.mp ht' with ⟨rfl, ⟨hs, rfl⟩ | ⟨hs, rfl⟩⟩
  · exact ⟨by simpa using hkind, by simpa using hs⟩
  · exact ⟨by simpa using hkind, [], ⟨op, a⟩, rfl, by simp, rfl, hs⟩

theorem ChecksOn.pure {g : Generator} : ChecksOn g (pure ()) := by
  intro t r ht
  obtain ⟨rfl, rfl⟩ := traces_ret_iff.mp ht
  exact ⟨by simp, by simp⟩

theorem ChecksOn.bind {g : Generator} {p : EngineProg Unit} {f : Unit → EngineProg Unit}
    (hp : ChecksOn g p) (hf : ∀ a, ChecksOn g (f a)) : ChecksOn g (p >>= f) := by
  intro t r ht
  rcases traces_bind_iff.mp ht with ⟨e, rfl, h₁⟩ | ⟨t₁, t₂, a, rfl, h₁, h₂⟩
  · exact hp _ _ h₁
  · obtain ⟨huse₁, hok⟩ := hp _ _ h₁
    obtain ⟨huse₂, hr⟩ := hf a _ _ h₂
    have huse : ∀ ev ∈ t₁ ++ t₂, kind ev = .use g := fun ev hev =>
      (List.mem_append.mp hev).elim (huse₁ ev) (huse₂ ev)
    cases r with
    | ok =>
      exact ⟨huse, fun ev hev => (List.mem_append.mp hev).elim (hok ev) (hr ev)⟩
    | error e =>
      obtain ⟨pre, ev, rfl, hpre, hst, hne⟩ := hr
      refine ⟨huse, t₁ ++ pre, ev, (List.append_assoc ..).symm, fun ev' hev' => ?_, hst, hne⟩
      exact (List.mem_append.mp hev').elim (hok ev') (hpre ev')

/-- A member function only issues checked calls on the generator of its engine. -/
theorem EngineClass.method?_checksOn {cls : EngineClass} {m : Method} {g : Generator}
    {p : EngineProg Unit} (h : cls.method? m g = some p) : ChecksOn g p := by
  have hcall : ∀ {op : ApiCall} {k : apiSig.Ans op → EngineProg Unit},
      (∀ a, kind ⟨op, a⟩ = .use g ∧ k a = check (status ⟨op, a⟩)) → ChecksOn g (.call op k) :=
    ChecksOn.call
  cases m <;> cases cls <;>
    first
    | (cases h; exact hcall fun _ => ⟨rfl, rfl⟩)
    | exact absurd h (by simp [EngineClass.method?])

theorem configureSeedOffset_checksOn (s o : CULongLong) (g : Generator) :
    ChecksOn g (configureSeedOffset s o g) := by
  unfold configureSeedOffset
  split
  · exact .bind (.call fun _ => ⟨rfl, rfl⟩) fun _ => .call fun _ => ⟨rfl, rfl⟩
  · exact .bind .pure fun _ => .call fun _ => ⟨rfl, rfl⟩

theorem configureDimensionsOffset_checksOn (d : CUInt) (o : CULongLong) (g : Generator) :
    ChecksOn g (configureDimensionsOffset d o g) := by
  unfold configureDimensionsOffset
  split
  · exact .bind (.call fun _ => ⟨rfl, rfl⟩) fun _ => .call fun _ => ⟨rfl, rfl⟩
  · exact .bind .pure fun _ => .call fun _ => ⟨rfl, rfl⟩

/-- The three ways in which a constructor can end: nothing was created; the
engine was built; or a checked call failed and the new generator was destroyed,
whatever the destruction answered. -/
inductive Constructed (type : HiprandRngType) : List (Event apiSig) → Except Error Generator → Prop
  | notCreated {st : HiprandStatus} {g : Generator} :
      st ≠ .success →
      Constructed type [⟨.hiprandCreateGenerator type, (st, g)⟩] (.error ⟨st⟩)
  | built {g : Generator} {t : List (Event apiSig)} :
      Checked g t (.ok ()) →
      Constructed type (⟨.hiprandCreateGenerator type, (.success, g)⟩ :: t) (.ok g)
  | cleanedUp {g : Generator} {t : List (Event apiSig)} {e : Error} {st : HiprandStatus} :
      Checked g t (.error e) →
      Constructed type
        (⟨.hiprandCreateGenerator type, (.success, g)⟩ :: (t ++ [⟨.hiprandDestroyGenerator g, st⟩]))
        (.error e)

theorem construct_traces {type : HiprandRngType} {configure : Generator → EngineProg Unit}
    (hc : ∀ g, ChecksOn g (configure g)) {t : List (Event apiSig)} {r : Except Error Generator}
    (h : Traces (construct type configure) t r) : Constructed type t r := by
  obtain ⟨⟨st, g⟩, t₁, rfl, h₁⟩ := traces_perform_bind_iff.mp h
  rcases traces_bind_iff.mp h₁ with ⟨e, rfl, h₂⟩ | ⟨t₂, t₃, _, rfl, h₂, h₃⟩
  · obtain ⟨rfl, ⟨_, he⟩ | ⟨hst, he⟩⟩ := traces_check_iff.mp h₂
    · cases he
    · cases he; exact .notCreated hst
  · obtain ⟨rfl, ⟨rfl, _⟩ | ⟨_, he⟩⟩ := traces_check_iff.mp h₂
    · rw [List.nil_append]
      -- the creation succeeded: split the `try` block from the final `return`
      rcases traces_bind_iff.mp h₃ with ⟨e, rfl, htry⟩ | ⟨t₄, t₅, _, rfl, htry, hret⟩
      · rcases traces_tryCatch_iff.mp htry with ⟨_, he, _⟩ | ⟨t₄, t₅, e', rfl, h₄, h₅⟩
        · cases he
        · obtain ⟨d, t₆, rfl, h₆⟩ := traces_perform_bind_iff.mp h₅
          obtain ⟨rfl, he⟩ := traces_throw_iff.mp h₆
          cases he
          exact .cleanedUp (hc g _ _ h₄)
      · obtain ⟨rfl, rfl⟩ := traces_ret_iff.mp hret
        rcases traces_tryCatch_iff.mp htry with ⟨_, _, h₄⟩ | ⟨t₆, t₇, e', rfl, _, h₇⟩
        · rw [List.append_nil]
          exact .built (hc g _ _ h₄)
        · obtain ⟨d, t₈, rfl, h₈⟩ := traces_perform_bind_iff.mp h₇
          obtain ⟨_, he⟩ := traces_throw_iff.mp h₈
          cases he
    · cases he

theorem destruct_traces {g : Generator} {t : List (Event apiSig)} {r : Except Error Unit}
    (h : Traces (destruct g) t r) : ∃ st, t = [⟨.hiprandDestroyGenerator g, st⟩] := by
  obtain ⟨st, t', rfl, h'⟩ := traces_perform_bind_iff.mp h
  exact ⟨st, by rw [(traces_check_iff.mp h').1]⟩

/-- The nine classes construct alike: their configuration only issues checked
calls on the new generator. -/
theorem EngineClass.constructor?_eq_construct {cls : EngineClass} {args : CtorArgs}
    {p : EngineProg Generator} (h : cls.constructor? args = some p) :
    ∃ type configure, p = construct type configure ∧ ∀ g, ChecksOn g (configure g) := by
  cases cls <;> cases args <;> cases h
  all_goals
    first
    | exact ⟨_, _, rfl, configureSeedOffset_checksOn _ _⟩
    | exact ⟨_, _, rfl, configureDimensionsOffset_checksOn _ _⟩
    | exact ⟨_, _, rfl, fun _ => .call fun _ => ⟨rfl, rfl⟩⟩

end HipRand.Cpp
