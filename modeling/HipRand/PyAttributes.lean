import HipRand.Lib.System
import HipRand.PyApi

/-!
# Attributes and the settings of the backend

The setters of `offset`, `stream`, `seed` and `ndim` convert a Python value to a C
value, call the backend with it, and then write the Python value to the attribute
that the getter returns. What was written stays when an exception follows. A
backend setter that fails changes nothing; one that succeeds puts the C value that
it received in force. How a callee that expects a 64-bit handle reads a 32-bit
`int` is left open (`widen`).

Results:
1. `triple_setter`: what one assignment does, for each outcome of the backend.
2. `Ctor.init_eq_initFields`: a constructor creates a generator, and then writes a
   default and assigns what it was given, for one attribute after another.
3. `attributes_mirrored`: in every run whose accepted values survive the conversion,
   each attribute that was assigned reports what is in force, and an assignment
   that raises changes nothing.
4. `ndim_not_mirrored`: a value that does not survive is reported all the same.
-/

namespace HipRand.Py

open Interaction Transition

/-! ## Attributes and settings -/

inductive Attr
  | offset
  | stream
  | seed
  | ndim
  deriving DecidableEq

/-- The attributes behind the properties of one object; one that was never written is
`none`. -/
structure Attributes where
  offset : Option Int
  stream : Option StreamArg
  seed : Option (Option Int)
  ndim : Option Int

def Attributes.unset : Attributes where
  offset := none
  stream := none
  seed := none
  ndim := none

def Attributes.write (attrs : Attributes) : AttrWrite → Attributes
  | .offset value => { attrs with offset := some value }
  | .stream value => { attrs with stream := some value }
  | .seed value => { attrs with seed := some value }
  | .ndim value => { attrs with ndim := some value }

def AttrWrite.attr : AttrWrite → Attr
  | offset _ => .offset
  | stream _ => .stream
  | seed _ => .seed
  | ndim _ => .ndim

/-- What is in force in the backend for one generator. -/
structure Settings where
  offset : CULongLong
  stream : Pointer
  seed : CULongLong
  dimensions : CUInt

def Settings.put (widen : BitVec 32 → Pointer) (s : Settings) : Setting → Settings
  | .offset value => { s with offset := value }
  | .stream value => { s with stream := value.handle widen }
  | .seed value => { s with seed := value }
  | .dimensions value => { s with dimensions := value }

/-- The attributes of a generator object, and what is in force for its generator. -/
structure AttrState where
  attrs : Attributes
  settings : Settings

/-- What one call changes of the object `rng`. -/
def AttrState.next (widen : BitVec 32 → Pointer) (rng : RNG) (st : AttrState) :
    Event pySig → AttrState
  | ⟨.setAttr obj write, _⟩ =>
    if obj = rng.id then { st with attrs := st.attrs.write write } else st
  | ⟨.set gen setting, status⟩ =>
    if gen = rng.gen ∧ status = HIPRAND_STATUS_SUCCESS then
      { st with settings := st.settings.put widen setting }
    else st
  | _ => st

def AttrState.after (widen : BitVec 32 → Pointer) (rng : RNG) (st : AttrState)
    (t : List (Event pySig)) : AttrState :=
  t.foldl (AttrState.next widen rng) st

/-! ## Generator objects and assignments -/

inductive AnyRng
  | prng (g : PRNG)
  | qrng (g : QRNG)

def AnyRng.toRNG : AnyRng → RNG
  | prng g => g.toRNG
  | qrng g => g.toRNG

/-- `self.attr = value` -/
inductive Assign
  | offset (value : Int)
  | stream (value : StreamArg)
  | seed (value : Int)
  | ndim (value : Int)

namespace Assign

def attr : Assign → Attr
  | offset _ => .offset
  | stream _ => .stream
  | seed _ => .seed
  | ndim _ => .ndim

/-- The backend function of the setter, and what it is called with. -/
def call : Assign → HiprandFn × Except PyError Setting
  | offset value => (.hiprandSetGeneratorOffset, .ok (.offset (cUlonglong value)))
  | stream value => (.hiprandSetStream, (passStream value).map .stream)
  | seed value => (.hiprandSetPseudoRandomGeneratorSeed, .ok (.seed (cUlonglong value)))
  | ndim value => (.hiprandSetQuasiRandomGeneratorDimensions, .ok (.dimensions (cUint value)))

/-- What the setter writes in the end. -/
def write : Assign → AttrWrite
  | offset value => .offset value
  | stream value => .stream value
  | seed value => .seed (some value)
  | ndim value => .ndim value

@[simp] theorem write_attr (a : Assign) : a.write.attr = a.attr := by
  cases a <;> rfl

end Assign

namespace AnyRng

/-- The setter that an assignment runs, if the class has the property. The class that does
not has no setter to run: there, `seed` or `ndim` is an attribute like any other name. -/
def setter? (rng : AnyRng) : Assign → Option (PyProg Unit)
  | .offset value => some (rng.toRNG.setOffset value)
  | .stream value => some (rng.toRNG.setStream value)
  | .seed value =>
    match rng with
    | prng g => some (g.setSeed value)
    | qrng _ => none
  | .ndim value =>
    match rng with
    | prng _ => none
    | qrng g => some (g.setNdim value)

/-- The setters have one shape: call the backend, then write the value. -/
theorem setter?_eq {rng : AnyRng} {a : Assign} {p : PyProg Unit} (h : rng.setter? a = some p) :
    p = callSetter rng.toRNG.gen a.call.1 a.call.2 >>= fun _ =>
      perform (.setAttr rng.toRNG.id a.write) := by
  cases a <;> cases rng <;> cases h <;> rfl

/-- The class has the property. -/
def Has : AnyRng → Attr → Prop
  | prng _, attr => attr ≠ .ndim
  | qrng _, attr => attr ≠ .seed

theorem setter?_of_has {rng : AnyRng} {a : Assign} (h : rng.Has a.attr) :
    ∃ p, rng.setter? a = some p := by
  cases a <;> cases rng <;> first | exact ⟨_, rfl⟩ | exact absurd rfl h

end AnyRng

/-! ## Reported values and values in force -/

/-- The value comes through the conversion to its C type. -/
def Assign.Survives (widen : BitVec 32 → Pointer) : Assign → Prop
  | .offset value | .seed value => 0 ≤ value ∧ value < 2 ^ 64
  | .ndim value => 0 ≤ value ∧ value < 2 ^ 32
  | .stream .none | .stream (.cVoidP _) => True
  | .stream (.int value) => ((widen (BitVec.ofInt 32 value)).toNat : Int) = value

/-- The handle that a reported stream stands for. -/
def StreamArg.IsHandle (handle : Pointer) : StreamArg → Prop
  | .none => handle = 0
  | .cVoidP p => handle = p
  | .int value => (handle.toNat : Int) = value

/-- The attribute reports what is in force. -/
def AttrState.Mirrors (st : AttrState) : Attr → Prop
  | .offset => st.attrs.offset = some (st.settings.offset.toNat : Int)
  | .stream => ∃ stream, st.attrs.stream = some stream ∧ stream.IsHandle st.settings.stream
  | .seed => st.attrs.seed = some (some (st.settings.seed.toNat : Int))
  | .ndim => st.attrs.ndim = some (st.settings.dimensions.toNat : Int)

/-- `ndim` reports the default, or a number of dimensions that the backend accepts. -/
def Attributes.NdimAccepted (accepts : CUInt → Prop) (attrs : Attributes) : Prop :=
  ∀ n, attrs.ndim = some n → n = 1 ∨ ∃ d, accepts d ∧ n = d.toNat

variable {widen : BitVec 32 → Pointer} {rng : AnyRng} {a : Assign} {v : Setting}
  {st st₀ : AttrState}

/-- The state after an assignment that the backend accepted. -/
def AttrState.assign (widen : BitVec 32 → Pointer) (st : AttrState) (a : Assign) (v : Setting) :
    AttrState where
  attrs := st.attrs.write a.write
  settings := st.settings.put widen v

theorem stream_call_ok {value : StreamArg} (hv : (Assign.stream value).call.2 = .ok v) :
    ∃ arg, passStream value = .ok arg ∧ v = .stream arg := by
  have hmap : (passStream value).map Setting.stream = .ok v := hv
  cases harg : passStream value with
  | error e =>
    rw [harg] at hmap
    cases hmap
  | ok arg =>
    rw [harg] at hmap
    exact ⟨arg, rfl, (Except.ok.inj hmap).symm⟩

/-- After an assignment that the backend accepted, the attribute reports what is in
force exactly if the value survived. -/
theorem AttrState.mirrors_assign_iff (hv : a.call.2 = .ok v) :
    (st.assign widen a v).Mirrors a.attr ↔ a.Survives widen := by
  cases a with
  | offset value =>
    cases hv
    exact Option.some_inj.trans eq_toNat_ofInt_iff
  | stream value =>
    obtain ⟨arg, harg, rfl⟩ := stream_call_ok hv
    have hreported : (st.assign widen (.stream value) (.stream arg)).Mirrors .stream ↔
        value.IsHandle (arg.handle widen) :=
      ⟨fun ⟨_, hstream, hhandle⟩ => Option.some.inj hstream ▸ hhandle, fun h => ⟨value, rfl, h⟩⟩
    refine hreported.trans ?_
    cases value with
    | none | cVoidP handle =>
      cases harg
      exact iff_of_true rfl trivial
    | int value =>
      have hpass : passInt value = .ok arg := harg
      unfold passInt at hpass
      split at hpass
      · cases hpass
        exact Iff.rfl
      · cases hpass
  | seed value =>
    cases hv
    exact Option.some_inj.trans (Option.some_inj.trans eq_toNat_ofInt_iff)
  | ndim value =>
    cases hv
    exact Option.some_inj.trans eq_toNat_ofInt_iff

/-- The other attributes keep what they report and what is in force for them. -/
theorem AttrState.mirrors_assign_of_ne {attr : Attr} (hne : attr ≠ a.attr) (hv : a.call.2 = .ok v)
    (h : st.Mirrors attr) : (st.assign widen a v).Mirrors attr := by
  cases a with
  | stream value =>
    obtain ⟨arg, _, rfl⟩ := stream_call_ok hv
    cases attr <;> first | exact h | exact absurd rfl hne
  | offset value | seed value | ndim value =>
    cases hv
    cases attr <;> first | exact h | exact absurd rfl hne

/-- A write to another attribute. -/
theorem AttrState.mirrors_write_of_ne {attr : Attr} {write : AttrWrite} (hne : attr ≠ write.attr)
    (h : st.Mirrors attr) : AttrState.Mirrors { st with attrs := st.attrs.write write } attr := by
  cases write <;> cases attr <;> first | exact h | exact absurd rfl hne

theorem Attributes.ndimAccepted_assign {accepts : CUInt → Prop} {attrs : Attributes}
    (h : attrs.NdimAccepted accepts) (hv : a.call.2 = .ok v) (hs : a.Survives widen)
    (hacc : ∀ d, v = .dimensions d → accepts d) : (attrs.write a.write).NdimAccepted accepts := by
  cases a with
  | offset value | stream value | seed value => exact h
  | ndim value =>
    cases hv
    intro n hn
    obtain rfl := Option.some.inj hn
    exact .inr ⟨cUint value, hacc _ rfl, eq_toNat_ofInt_iff.mpr hs⟩

/-! ## Assignments -/

variable {answer : (op : pySig.Op) → pySig.Ans op}

/-- The backend accepts the assignment: its function is found, its value can be
passed, and the call answers success. -/
def Accepted (answer : (op : pySig.Op) → pySig.Ans op) (gen : Generator) (a : Assign) : Prop :=
  answer (.hiprandAttr a.call.1) = .ok () ∧
    ∃ v, a.call.2 = .ok v ∧ answer (.set gen v) = HIPRAND_STATUS_SUCCESS

/-- The backend only accepts numbers of dimensions in `accepts`. -/
def AcceptsOnly (accepts : CUInt → Prop) (answer : (op : pySig.Op) → pySig.Ans op) : Prop :=
  ∀ gen d, answer (.set gen (.dimensions d)) = HIPRAND_STATUS_SUCCESS → accepts d

/-- The calls so far have taken the object from `st₀` to `st`. -/
def At (widen : BitVec 32 → Pointer) (rng : RNG) (st₀ st : AttrState) (log : List (Event pySig)) :
    Prop :=
  st₀.after widen rng log = st

section Setter

variable {base : RNG}

theorem At.snoc {log : List (Event pySig)} (h : At widen base st₀ st log) (ev : Event pySig) :
    At widen base st₀ (st.next widen base ev) (log ++ [ev]) := by
  show (log ++ [ev]).foldl (AttrState.next widen base) st₀ = _
  rw [List.foldl_append]
  exact congrArg (AttrState.next widen base · ev) h

theorem At.setAttr {write : AttrWrite} {log log' : List (Event pySig)} {u : Unit}
    (h : At widen base st₀ st log)
    (hh : (Env.answering answer).handle (.setAttr base.id write) log u log') :
    At widen base st₀ { st with attrs := st.attrs.write write } log' := by
  obtain ⟨rfl, rfl⟩ := hh
  have hnext := h.snoc ⟨.setAttr base.id write, answer (.setAttr base.id write)⟩
  rwa [AttrState.next, if_pos rfl] at hnext

/-- A setter of the backend that is called for the generator of the object. -/
theorem triple_callSetter {name : HiprandFn} {setting : Except PyError Setting} :
    Triple (.answering answer) (At widen base st₀ st) (callSetter base.gen name setting)
      fun r log => match r with
        | .ok _ => (answer (.hiprandAttr name) = .ok () ∧
            ∃ v, setting = .ok v ∧ answer (.set base.gen v) = HIPRAND_STATUS_SUCCESS ∧
              At widen base st₀ { st with settings := st.settings.put widen v } log)
        | .error _ => At widen base st₀ st log := by
  unfold callSetter
  refine .bind (R := fun _ log => answer (.hiprandAttr name) = .ok () ∧ At widen base st₀ st log)
    (triple_hiprandAttr (stable_answering _) (fun _ => stable_answering _) ?_) fun _ =>
      .assuming fun hfound => ?_
  · rintro log found _ h ⟨rfl, rfl⟩
    have hlog : At widen base st₀ st _ := h.snoc ⟨.hiprandAttr name, answer (.hiprandAttr name)⟩
    cases hfound : answer (.hiprandAttr name) with
    | ok u => exact ⟨rfl, by rwa [hfound] at hlog⟩
    | error e => exact by rwa [hfound] at hlog
  cases setting with
  | error e => exact .throw (stable_answering _) fun _ h => h
  | ok v =>
    show Triple _ _ (perform (.set base.gen v) >>= checkHiprand) _
    refine .bind (R := fun status log => status = answer (.set base.gen v) ∧
        At widen base st₀ (if status = HIPRAND_STATUS_SUCCESS then
          { st with settings := st.settings.put widen v } else st) log)
      (.perform (stable_answering _) (fun _ => stable_answering _) ?_) fun status => ?_
    · rintro log status _ h ⟨rfl, rfl⟩
      have hlog := h.snoc ⟨.set base.gen v, answer (.set base.gen v)⟩
      refine ⟨rfl, ?_⟩
      simpa only [AttrState.next, true_and] using hlog
    refine triple_checkHiprand (stable_answering _) ?_ ?_
    · rintro rfl log ⟨hst, h⟩
      exact ⟨hfound, v, rfl, hst.symm, h⟩
    · rintro hne log ⟨_, h⟩
      rwa [if_neg hne] at h

end Setter

/-- One assignment: it raises and changes nothing, or the backend accepts the value
and the object keeps it. Every write comes after the last call that can fail. -/
theorem triple_setter {p : PyProg Unit} (hp : rng.setter? a = some p) :
    Triple (.answering answer) (At widen rng.toRNG st₀ st) p fun r log =>
      match r with
      | .ok _ => ∃ v, a.call.2 = .ok v ∧
          answer (.set rng.toRNG.gen v) = HIPRAND_STATUS_SUCCESS ∧
          Accepted answer rng.toRNG.gen a ∧ At widen rng.toRNG st₀ (st.assign widen a v) log
      | .error _ => At widen rng.toRNG st₀ st log := by
  rw [AnyRng.setter?_eq hp]
  refine triple_callSetter.andThen (fun _ _ hlog => hlog) fun _ => ?_
  refine .assuming fun hfound => .choosing fun v => .assuming fun hv => .assuming fun hst => ?_
  refine .perform (stable_answering _) (fun _ => stable_answering _) ?_
  intro log u log' hlog hh
  exact ⟨v, hv, hst, ⟨hfound, v, hv, hst⟩, hlog.setAttr hh⟩

/-- What holds of an object and of the settings in force: the attributes in
`assigned` report them, and `ndim` is a number of dimensions that the backend takes. -/
structure Good (accepts : CUInt → Prop) (assigned : Attr → Prop) (st : AttrState) : Prop where
  mirrors : ∀ attr, assigned attr → st.Mirrors attr
  ndim : st.attrs.NdimAccepted accepts

variable {accepts : CUInt → Prop} {assigned : Attr → Prop}

theorem Good.assign (h : Good accepts assigned st) (hv : a.call.2 = .ok v) (hs : a.Survives widen)
    (hacc : ∀ d, v = .dimensions d → accepts d) :
    Good accepts (fun attr => assigned attr ∨ attr = a.attr) (st.assign widen a v) where
  mirrors attr hattr := by
    by_cases heq : attr = a.attr
    · rw [heq]
      exact (AttrState.mirrors_assign_iff hv).mpr hs
    · exact AttrState.mirrors_assign_of_ne heq hv (h.mirrors attr (hattr.resolve_right heq))
  ndim := Attributes.ndimAccepted_assign h.ndim hv hs hacc

/-- A default of an attribute that was not assigned yet. -/
theorem Good.write {write : AttrWrite} (h : Good accepts assigned st)
    (hfresh : ¬ assigned write.attr) (hone : ∀ n, write = .ndim n → n = 1) :
    Good accepts assigned { st with attrs := st.attrs.write write } where
  mirrors attr hattr :=
    AttrState.mirrors_write_of_ne (fun heq => hfresh (heq ▸ hattr)) (h.mirrors attr hattr)
  ndim := by
    cases write with
    | ndim value =>
      intro n hn
      obtain rfl := Option.some.inj hn
      exact .inl (hone value rfl)
    | offset | stream | seed => exact h.ndim

/-! ## Constructors -/

/-- A constructor with its arguments. -/
inductive Ctor
  | prng (rngtype : Int) (seed offset : Option Int) (stream : StreamArg) (isHost : Bool)
  | qrng (rngtype : Int) (ndim offset : Option Int) (stream : StreamArg) (isHost : Bool)

/-- `self._x = default`, and then `if x is not None: self.x = x`. -/
structure Field where
  default : AttrWrite
  given : Option Assign

namespace Ctor

def init : Ctor → PyProg AnyRng
  | prng rngtype seed offset stream isHost => do
    let g ← PRNG.init rngtype seed offset stream isHost
    return .prng g
  | qrng rngtype ndim offset stream isHost => do
    let g ← QRNG.init rngtype ndim offset stream isHost
    return .qrng g

/-- The object before its first attribute is written. -/
def create : Ctor → PyProg AnyRng
  | prng rngtype _ _ _ isHost => do
    let rng ← RNG.create rngtype isHost
    return .prng ⟨rng⟩
  | qrng rngtype _ _ _ isHost => do
    let rng ← RNG.create rngtype isHost
    return .qrng ⟨rng⟩

def rngtype : Ctor → Int
  | prng rngtype _ _ _ _ | qrng rngtype _ _ _ _ => rngtype

def isHost : Ctor → Bool
  | prng _ _ _ _ isHost | qrng _ _ _ _ isHost => isHost

/-- The generator that the backend answers to the creation. -/
def gen (answer : (op : pySig.Op) → pySig.Ans op) (c : Ctor) : Generator :=
  match passInt c.rngtype with
  | .ok arg => (answer (.createGenerator c.isHost arg)).2
  | .error _ => 0

/-- What `RNG.__init__` initialises, in this order. -/
def baseFields (offset : Option Int) (stream : StreamArg) : List Field :=
  [⟨.offset 0, offset.map .offset⟩,
    ⟨.stream .none, if stream ≠ .none then some (.stream stream) else none⟩]

/-- What the constructor initialises, in this order. -/
def fields : Ctor → List Field
  | prng _ seed offset stream _ => baseFields offset stream ++ [⟨.seed none, seed.map .seed⟩]
  | qrng _ ndim offset stream _ => baseFields offset stream ++ [⟨.ndim 1, ndim.map .ndim⟩]

/-- What the constructor assigns, in this order. -/
def assigns (c : Ctor) : List Assign :=
  c.fields.filterMap Field.given

end Ctor

/-- Write the default, and assign what was given. -/
def initField (rng : AnyRng) (f : Field) : PyProg Unit := do
  perform (.setAttr rng.toRNG.id f.default)
  match f.given.bind rng.setter? with
  | some p => p
  | none => pure ()

def initFields (rng : AnyRng) : List Field → PyProg Unit
  | [] => pure ()
  | f :: fs => do
    initField rng f
    initFields rng fs

/-- A constructor creates the generator and then initialises its fields. -/
theorem Ctor.init_eq_initFields (c : Ctor) :
    c.init = c.create >>= fun rng => initFields rng c.fields >>= fun _ => pure rng := by
  cases c with
  | prng rngtype seed offset stream isHost =>
    cases offset <;> cases seed <;> by_cases hstream : stream = .none <;>
      simp [init, create, fields, baseFields, PRNG.init, RNG.init, initFields, initField,
        AnyRng.setter?, hstream, Prog.bind_assoc, AnyRng.toRNG, perform]
  | qrng rngtype ndim offset stream isHost =>
    cases offset <;> cases ndim <;> by_cases hstream : stream = .none <;>
      simp [init, create, fields, baseFields, QRNG.init, RNG.init, initFields, initField,
        AnyRng.setter?, hstream, Prog.bind_assoc, AnyRng.toRNG, perform]

/-- A field of a class with its own default and its own property. -/
structure Field.Of (rng : AnyRng) (f : Field) : Prop where
  own : ∀ a ∈ f.given, a.attr = f.default.attr
  has : rng.Has f.default.attr
  one : ∀ n, f.default = .ndim n → n = 1

theorem Ctor.of_mem_fields {c : Ctor} {base : RNG} {f : Field} (h : f ∈ c.fields) :
    f.Of (match c with
      | .prng .. => .prng ⟨base⟩
      | .qrng .. => .qrng ⟨base⟩) := by
  cases c with
  | prng rngtype seed offset stream isHost | qrng rngtype seed offset stream isHost =>
    simp only [fields, baseFields, List.cons_append, List.nil_append, List.mem_cons,
      List.not_mem_nil, or_false] at h
    rcases h with rfl | rfl | rfl
    · exact ⟨by simp [Assign.attr, AttrWrite.attr], nofun, nofun⟩
    · refine ⟨?_, nofun, nofun⟩
      intro a ha
      simp only [Option.mem_def, Option.ite_none_right_eq_some, Option.some.injEq] at ha
      rw [← ha.2]
      rfl
    · exact ⟨by simp [Assign.attr, AttrWrite.attr], nofun, by simp⟩

theorem Ctor.nodup_fields (c : Ctor) : (c.fields.map (·.default.attr)).Nodup := by
  have hprng : [Attr.offset, .stream, .seed].Nodup := by decide
  have hqrng : [Attr.offset, .stream, .ndim].Nodup := by decide
  cases c with
  | prng => exact hprng
  | qrng => exact hqrng

/-- The object that the constructor creates under these answers. -/
def Ctor.base (answer : (op : pySig.Op) → pySig.Ans op) (c : Ctor) : RNG where
  id := answer .new
  gen := c.gen answer
  isHost := c.isHost

def Op.Changes : Op → Prop
  | set _ _ | setAttr _ _ => True
  | _ => False

/-- A call that is not a setter leaves the attributes and what is in force. -/
theorem triple_perform_at {base : RNG} {op : Op} (hop : ¬ op.Changes) :
    Triple (.answering answer) (At widen base st₀ st) (perform op)
      fun r log => ∀ b, r = .ok b → b = answer op ∧ At widen base st₀ st log := by
  refine .perform (stable_answering _) (fun _ => stable_answering _) ?_
  rintro log _ _ h ⟨rfl, rfl⟩ b hb
  refine ⟨(Except.ok.inj hb).symm, ?_⟩
  have hlog := h.snoc ⟨op, answer op⟩
  cases op with
  | set | setAttr => exact absurd trivial hop
  | _ => exact hlog

theorem triple_RNG_create {base : RNG} {rngtype : Int} {isHost : Bool} :
    Triple (.answering answer) (At widen base st₀ st) (RNG.create rngtype isHost)
      fun r log => ∀ rng, r = .ok rng → At widen base st₀ st log ∧
        ∃ arg, passInt rngtype = .ok arg ∧
          rng = ⟨answer .new, (answer (.createGenerator isHost arg)).2, isHost⟩ := by
  unfold RNG.create
  refine (triple_perform_at id).bindOk fun self => .assuming fun hself => ?_
  refine .bind (R := fun _ => At widen base st₀ st)
    (triple_hiprandAttr (stable_answering _) (fun _ => stable_answering _) ?_) fun _ => ?_
  · rintro log found _ h ⟨_, rfl⟩
    cases found with
    | error e => exact nofun
    | ok u => exact h.snoc _
  cases harg : passInt rngtype with
  | error e => exact .throw (stable_answering _) fun _ _ => nofun
  | ok arg =>
    show Triple _ _ (perform (.createGenerator isHost arg) >>= _) _
    refine (triple_perform_at id).bindOk fun b => .assuming fun hb => ?_
    obtain ⟨status, gen⟩ := b
    refine .bind (R := fun _ => At widen base st₀ st)
      (triple_checkHiprand (stable_answering _) (fun _ _ h => h) fun _ _ _ => nofun) fun _ => ?_
    refine (triple_perform_at id).bindOk fun _ => .assuming fun _ => ?_
    refine .ret (stable_answering _) ?_
    rintro log hlog rng hr
    cases hr
    exact ⟨hlog, arg, rfl, by rw [hself, ← hb]⟩

theorem triple_create {base : RNG} {c : Ctor} :
    Triple (.answering answer) (At widen base st₀ st) c.create fun r log =>
      ∀ rng, r = .ok rng → rng.toRNG = c.base answer ∧ (∀ f ∈ c.fields, f.Of rng) ∧
        At widen base st₀ st log := by
  cases c with
  | prng rngtype own offset stream isHost | qrng rngtype own offset stream isHost =>
    refine triple_RNG_create.bindOk fun created => .ret (stable_answering _) ?_
    rintro log ⟨hlog, arg, harg, rfl⟩ rng hr
    cases hr
    refine ⟨?_, fun f hf => Ctor.of_mem_fields hf, hlog⟩
    show RNG.mk _ _ _ = _
    unfold Ctor.base Ctor.gen Ctor.rngtype Ctor.isHost
    rw [harg]

/-- One attribute: its default, and what was given for it. -/
theorem triple_initField {f : Field} (hf : f.Of rng) (hfresh : ¬ assigned f.default.attr)
    (hs : ∀ a ∈ f.given, Accepted answer rng.toRNG.gen a → a.Survives widen)
    (hacc : AcceptsOnly accepts answer) :
    Triple (.answering answer)
      (fun log => ∃ st, Good accepts assigned st ∧ At widen rng.toRNG st₀ st log) (initField rng f)
      fun r log => ∀ u, r = .ok u → ∃ st,
        Good accepts (fun attr => assigned attr ∨ ∃ a ∈ f.given, attr = a.attr) st ∧
          At widen rng.toRNG st₀ st log := by
  refine .choosing fun st => .assuming fun h => ?_
  have hdefault := h.write hfresh hf.one
  refine .perform_bind (R := fun _ => At widen rng.toRNG st₀ { st with attrs := _ })
    (stable_answering _) (fun _ _ _ hlog hh => hlog.setAttr hh) fun _ => ?_
  cases hgiven : f.given with
  | none =>
    refine .ret (stable_answering _) fun log hlog _ _ => ⟨_, ⟨?_, hdefault.ndim⟩, hlog⟩
    exact fun attr hattr => hdefault.mirrors attr (hattr.resolve_right (by simp))
  | some a =>
    have hattr := hf.own a hgiven
    obtain ⟨p, hp⟩ := AnyRng.setter?_of_has (a := a) (hattr ▸ hf.has)
    show Triple _ _ (match rng.setter? a with | some p => p | none => pure ()) _
    rw [hp]
    refine (triple_setter hp).post ?_
    rintro r log hr u rfl
    obtain ⟨v, hv, hst, haccepted, hlog⟩ := hr
    have hgood := hdefault.assign hv (hs a hgiven haccepted) (by
      rintro d rfl
      exact hacc _ d hst)
    refine ⟨_, ⟨fun attr hattr => hgood.mirrors attr (hattr.imp_right ?_), hgood.ndim⟩, hlog⟩
    rintro ⟨b, hb, rfl⟩
    rw [Option.some.inj hb]

theorem triple_initFields {fs : List Field} (hfs : ∀ f ∈ fs, f.Of rng)
    (hnodup : (fs.map (·.default.attr)).Nodup) (hfresh : ∀ f ∈ fs, ¬ assigned f.default.attr)
    (hs : ∀ f ∈ fs, ∀ a ∈ f.given, Accepted answer rng.toRNG.gen a → a.Survives widen)
    (hacc : AcceptsOnly accepts answer) :
    Triple (.answering answer)
      (fun log => ∃ st, Good accepts assigned st ∧ At widen rng.toRNG st₀ st log)
      (initFields rng fs) fun r log => ∀ u, r = .ok u → ∃ st,
        Good accepts
          (fun attr => assigned attr ∨ ∃ a ∈ fs.filterMap Field.given, attr = a.attr) st ∧
        At widen rng.toRNG st₀ st log := by
  induction fs generalizing assigned with
  | nil =>
    refine .ret (stable_answering _) ?_
    rintro log ⟨st, hgood, hlog⟩ _ _
    exact ⟨st, ⟨fun attr hattr => hgood.mirrors attr (by simpa using hattr), hgood.ndim⟩, hlog⟩
  | cons f fs ih =>
    obtain ⟨hhead, htail⟩ := List.nodup_cons.mp hnodup
    have hf := hfs f List.mem_cons_self
    refine (triple_initField hf (hfresh f List.mem_cons_self) (hs f List.mem_cons_self) hacc).bindOk
      fun _ => ?_
    refine (ih (fun g hg => hfs g (List.mem_cons_of_mem _ hg)) htail ?_
      (fun g hg => hs g (List.mem_cons_of_mem _ hg))).post ?_
    · -- what was assigned for `f` is not an attribute of the fields that follow
      rintro g hg (hassigned | ⟨a, ha, hattr⟩)
      · exact hfresh g (List.mem_cons_of_mem _ hg) hassigned
      · refine hhead (List.mem_map.mpr ⟨g, hg, ?_⟩)
        rw [hattr, hf.own a ha]
    · rintro r log hr u hu
      obtain ⟨st, hgood, hlog⟩ := hr u hu
      refine ⟨st, ⟨fun attr hattr => hgood.mirrors attr ?_, hgood.ndim⟩, hlog⟩
      rcases hattr with hattr | ⟨a, ha, hattr⟩
      · exact .inl (.inl hattr)
      · obtain ⟨g, hg, hgiven⟩ := List.mem_filterMap.mp ha
        rcases List.mem_cons.mp hg with rfl | hg
        · exact .inl (.inr ⟨a, hgiven, hattr⟩)
        · exact .inr ⟨a, List.mem_filterMap.mpr ⟨g, hg, hgiven⟩, hattr⟩

/-- A constructor that returns an object has written all its attributes. -/
theorem triple_init {c : Ctor} {s₀ : Settings} (hacc : AcceptsOnly accepts answer)
    (hs : ∀ a ∈ c.assigns, Accepted answer (c.gen answer) a → a.Survives widen) :
    Triple (.answering answer) (At widen (c.base answer) (.mk .unset s₀) (.mk .unset s₀)) c.init
      fun r log => ∀ rng, r = .ok rng → ∃ st,
        Good accepts (fun attr => ∃ a ∈ c.assigns, attr = a.attr) st ∧
          At widen rng.toRNG (.mk .unset s₀) st log := by
  have hunset : Good accepts (fun _ => False) (AttrState.mk .unset s₀) := ⟨nofun, nofun⟩
  have hnone : ∀ f ∈ c.fields, ¬ (fun _ : Attr => False) f.default.attr := fun _ _ => id
  rw [c.init_eq_initFields]
  refine triple_create.bindOk fun rng => .assuming fun hbase => .assuming fun hfields => ?_
  have hgiven : ∀ f ∈ c.fields, ∀ a ∈ f.given,
      Accepted answer rng.toRNG.gen a → a.Survives widen := by
    rw [hbase]
    exact fun f hf a ha => hs a (List.mem_filterMap.mpr ⟨f, hf, ha⟩)
  rw [← hbase]
  refine ((triple_initFields hfields c.nodup_fields hnone hgiven hacc).pre
    fun log hlog => ⟨_, hunset, hlog⟩).bindOk fun _ => .ret (stable_answering _) ?_
  rintro log ⟨st, hgood, hlog⟩ rng' hr
  cases hr
  exact ⟨st, ⟨fun attr hattr => hgood.mirrors attr (.inr hattr), hgood.ndim⟩, hlog⟩

/-! ## Every sequence of assignments -/

/-- A generator object with its attributes and the settings in force for its generator,
and the attributes that were assigned successfully at least once. -/
structure Obj where
  rng : AnyRng
  state : AttrState
  assigned : Attr → Prop

/-- One step of the client, under any answers of the backend. The settings of a new
generator are the backend's own. -/
inductive AttrLabel
  | construct (c : Ctor) (answer : (op : pySig.Op) → pySig.Ans op) (s₀ : Settings)
  | assign (a : Assign) (answer : (op : pySig.Op) → pySig.Ans op)

/-- The object that a constructor leaves, if it does not raise. -/
def Ctor.result (widen : BitVec 32 → Pointer) (c : Ctor) (s₀ : Settings) :
    Except PyError AnyRng × List (Event pySig) → Option Obj
  | (.ok rng, t) =>
    some ⟨rng, (AttrState.mk .unset s₀).after widen rng.toRNG t,
      fun attr => ∃ a ∈ c.assigns, attr = a.attr⟩
  | (.error _, _) => none

/-- The object after an assignment: what its setter wrote is written, also if it raised. -/
def Obj.after (widen : BitVec 32 → Pointer) (o : Obj) (a : Assign)
    (run : Except PyError Unit × List (Event pySig)) : Obj where
  rng := o.rng
  state := o.state.after widen o.rng.toRNG run.2
  assigned attr := o.assigned attr ∨ (∃ u, run.1 = .ok u) ∧ attr = a.attr

inductive AttrStep (widen : BitVec 32 → Pointer) (accepts : CUInt → Prop) :
    Option Obj → AttrLabel → Option Obj → Prop
  | construct {c answer s₀} :
      AcceptsOnly accepts answer →
      AttrStep widen accepts none (.construct c answer s₀)
        (c.result widen s₀ (observe answer c.init))
  | assign {o a p answer} :
      AcceptsOnly accepts answer → o.rng.setter? a = some p →
      AttrStep widen accepts (some o) (.assign a answer) (some (o.after widen a (observe answer p)))

/-- The life of one generator object. -/
def attributes (widen : BitVec 32 → Pointer) (accepts : CUInt → Prop) :
    System (Option Obj) AttrLabel where
  init st := st = none
  step := AttrStep widen accepts

/-- Each value that the backend accepts in this step comes through its conversion. -/
def Representable (widen : BitVec 32 → Pointer) : Option Obj → AttrLabel → Prop
  | _, .construct c answer _ =>
    ∀ a ∈ c.assigns, Accepted answer (c.gen answer) a → a.Survives widen
  | some o, .assign a answer => Accepted answer o.rng.toRNG.gen a → a.Survives widen
  | none, .assign _ _ => True

theorem good_construct {c : Ctor} {s₀ : Settings} {o : Obj} (hacc : AcceptsOnly accepts answer)
    (hs : ∀ a ∈ c.assigns, Accepted answer (c.gen answer) a → a.Survives widen)
    (ho : c.result widen s₀ (observe answer c.init) = some o) :
    Good accepts o.assigned o.state := by
  have htriple : Triple (.answering answer)
      (At widen (c.base answer) (.mk .unset s₀) (.mk .unset s₀)) c.init _ := triple_init hacc hs
  have hobs := htriple.observe rfl
  rcases hrun : observe answer c.init with ⟨r, t⟩
  rw [hrun] at ho hobs
  cases r with
  | error e => cases ho
  | ok rng =>
    cases ho
    obtain ⟨st, hgood, hlog⟩ := hobs rng rfl
    have hst : (AttrState.mk .unset s₀).after widen rng.toRNG t = st := hlog
    rw [hst]
    exact hgood

/-- One assignment, for each outcome: the object after it. -/
theorem after_cases (widen : BitVec 32 → Pointer) {o : Obj} {p : PyProg Unit}
    (hp : o.rng.setter? a = some p) (answer : (op : pySig.Op) → pySig.Ans op) :
    ((∃ e, (observe answer p).1 = .error e) ∧
      (o.after widen a (observe answer p)).state = o.state) ∨
    ∃ v, (observe answer p).1 = .ok () ∧ a.call.2 = .ok v ∧
      answer (.set o.rng.toRNG.gen v) = HIPRAND_STATUS_SUCCESS ∧
      Accepted answer o.rng.toRNG.gen a ∧
      (o.after widen a (observe answer p)).state = o.state.assign widen a v := by
  have htriple : Triple (.answering answer) (At widen o.rng.toRNG o.state o.state) p _ :=
    triple_setter hp
  have hobs := htriple.observe rfl
  generalize observe answer p = run at hobs ⊢
  obtain ⟨e | _, t⟩ := run
  · exact .inl ⟨⟨e, rfl⟩, hobs⟩
  · obtain ⟨v, hv, hst, haccepted, hput⟩ := hobs
    exact .inr ⟨v, rfl, hv, hst, haccepted, hput⟩

/-- An assignment that raises leaves the object as it was. -/
theorem after_of_error {o : Obj} {p : PyProg Unit} (hp : o.rng.setter? a = some p) {e : PyError}
    (he : (observe answer p).1 = .error e) : o.after widen a (observe answer p) = o := by
  rcases after_cases widen hp answer with ⟨_, hstate⟩ | ⟨_, hok, _⟩
  · have hkept : o.state.after widen o.rng.toRNG (observe answer p).2 = o.state := hstate
    unfold Obj.after
    rw [hkept, he]
    simp
  · rw [hok] at he
    cases he

/-- One assignment to an object that mirrors its settings. -/
theorem good_assign {o : Obj} {p : PyProg Unit} (hacc : AcceptsOnly accepts answer)
    (hp : o.rng.setter? a = some p) (h : Good accepts o.assigned o.state)
    (hs : Accepted answer o.rng.toRNG.gen a → a.Survives widen) :
    Good accepts (o.after widen a (observe answer p)).assigned
      (o.after widen a (observe answer p)).state := by
  rcases after_cases widen hp answer with ⟨⟨e, he⟩, _⟩ | ⟨v, _, hv, hst, haccepted, hstate⟩
  · rw [after_of_error hp he]
    exact h
  · rw [hstate]
    have hgood := h.assign hv (hs haccepted) (by
      rintro d rfl
      exact hacc _ d hst)
    exact ⟨fun attr hattr => hgood.mirrors attr (hattr.imp_right And.right), hgood.ndim⟩

theorem good_of_reachable {o : Obj}
    (h : ((attributes widen accepts).only (Representable widen)).Reachable (some o)) :
    Good accepts o.assigned o.state := by
  have hall : ∀ o', some o = some o' → Good accepts o'.assigned o'.state := by
    refine System.Reachable.invariant_only (I := fun st => ∀ o', st = some o' →
      Good accepts o'.assigned o'.state) ?_ ?_ h
    · rintro _ rfl o' ho'
      cases ho'
    · rintro st l _ hI hrep hstep o' ho'
      cases hstep with
      | construct hacc => exact good_construct hacc hrep ho'
      | assign hacc hp =>
        cases ho'
        exact good_assign hacc hp (hI _ rfl) hrep
  exact hall o rfl

/-- In every run whose accepted values all come through their conversions: each
attribute that was assigned successfully reports what is in force, and with a
backend that only accepts 1 to 20000 dimensions `ndim` reports no other number. An
assignment that raises, under any answers, changes nothing; one that does not
reports what is in force exactly if its value comes through. -/
theorem attributes_mirrored (widen : BitVec 32 → Pointer) (accepts : CUInt → Prop) {o : Obj}
    (h : ((attributes widen accepts).only (Representable widen)).Reachable (some o)) :
    (∀ attr, o.assigned attr → o.state.Mirrors attr) ∧
    ((∀ d, accepts d → 1 ≤ d.toNat ∧ d.toNat ≤ 20000) →
      ∀ n, o.state.attrs.ndim = some n → 1 ≤ n ∧ n ≤ 20000) ∧
    (∀ a p, o.rng.setter? a = some p → ∀ answer : (op : pySig.Op) → pySig.Ans op,
      (∀ e, (observe answer p).1 = .error e → o.after widen a (observe answer p) = o) ∧
      ((observe answer p).1 = .ok () →
        ((o.after widen a (observe answer p)).state.Mirrors a.attr ↔ a.Survives widen))) := by
  have hgood := good_of_reachable h
  refine ⟨hgood.mirrors, fun hrange n hn => ?_,
    fun a p hp answer => ⟨fun e he => after_of_error hp he, fun hok => ?_⟩⟩
  · rcases hgood.ndim n hn with hone | ⟨d, hd, hdim⟩
    · rw [hone]
      decide
    · have := hrange d hd
      rw [hdim]
      omega
  · rcases after_cases widen hp answer with ⟨⟨e, he⟩, _⟩ | ⟨v, _, hv, _, _, hstate⟩
    · rw [he] at hok
      cases hok
    · rw [hstate]
      exact AttrState.mirrors_assign_iff hv

def InRange (d : CUInt) : Prop :=
  1 ≤ d.toNat ∧ d.toNat ≤ 20000

instance (d : CUInt) : Decidable (InRange d) :=
  inferInstanceAs (Decidable (_ ∧ _))

/-- A backend that accepts 1 to 20000 dimensions and every other setting. -/
def rangeBackend : (op : pySig.Op) → pySig.Ans op
  | .set _ (.dimensions d) => if InRange d then HIPRAND_STATUS_SUCCESS else 104
  | op => succeeding op

theorem rangeBackend_acceptsOnly : AcceptsOnly InRange rangeBackend := by
  intro gen d h
  by_contra hd
  have hst : (if InRange d then HIPRAND_STATUS_SUCCESS else 104) = HIPRAND_STATUS_SUCCESS := h
  rw [if_neg hd] at hst
  cases hst

def defaultSettings : Settings where
  offset := 0
  stream := 0
  seed := 0
  dimensions := 1

/-- `QRNG(ndim=5)` -/
def fiveDims : Ctor :=
  .qrng 500 (some 5) none .none false

def fiveDimsRng : AnyRng :=
  .qrng { id := 0, gen := 0, isHost := false }

def fiveDimsObj : Obj where
  rng := fiveDimsRng
  state :=
    { attrs := { offset := some 0, stream := some .none, seed := none, ndim := some 5 }
      settings := { defaultSettings with dimensions := 5 } }
  assigned attr := ∃ a ∈ fiveDims.assigns, attr = a.attr

theorem fiveDims_step (widen : BitVec 32 → Pointer) :
    AttrStep widen InRange none (.construct fiveDims rangeBackend defaultSettings)
      (some fiveDimsObj) :=
  .construct rangeBackend_acceptsOnly

/-- `QRNG(ndim=5)`, then `q.ndim = 30000`, which the backend refuses. -/
theorem attributes_mirrored_fiveDims :
    fiveDimsObj.state.Mirrors .ndim ∧
    ∃ p, fiveDimsRng.setter? (.ndim 30000) = some p ∧
      (observe rangeBackend p).1 = .error (.hipRandError 104) ∧
      fiveDimsObj.after (fun v => v.signExtend 64) (.ndim 30000) (observe rangeBackend p) =
        fiveDimsObj := by
  have hrep : Representable (fun v => v.signExtend 64) none
      (.construct fiveDims rangeBackend defaultSettings) := by
    intro a ha _
    rw [List.mem_singleton.mp (show a ∈ [Assign.ndim 5] from ha)]
    exact ⟨by decide, by decide⟩
  have hinit : ((attributes (fun v => v.signExtend 64) InRange).only
      (Representable fun v => v.signExtend 64)).Reachable none := .init rfl
  have hreach := hinit.step ⟨hrep, fiveDims_step _⟩
  obtain ⟨hmirrors, _, hassign⟩ := attributes_mirrored _ _ hreach
  exact ⟨hmirrors .ndim ⟨.ndim 5, List.mem_singleton_self _, rfl⟩, _, rfl, rfl,
    (hassign _ _ rfl rangeBackend).1 (.hipRandError 104) rfl⟩

/-- `q.ndim = 2**32 + 1`: the backend gets 1 and accepts it, and `q.ndim` reports
4294967297 from then on. -/
theorem ndim_not_mirrored :
    ∃ o, (attributes (fun v => v.signExtend 64) InRange).Reachable (some o) ∧
      o.assigned .ndim ∧ o.state.settings.dimensions = 1 ∧ ¬ o.state.Mirrors .ndim ∧
      o.state.attrs.ndim = some (2 ^ 32 + 1) := by
  have hinit : (attributes (fun v => v.signExtend 64) InRange).Reachable none := .init rfl
  have hreach := (hinit.step (fiveDims_step _)).step
    (.assign (a := .ndim (2 ^ 32 + 1)) rangeBackend_acceptsOnly rfl)
  refine ⟨_, hreach, .inr ⟨⟨(), rfl⟩, rfl⟩, rfl, fun hm => ?_, rfl⟩
  have hndim : (2 ^ 32 + 1 : Int) = 1 := Option.some.inj hm
  exact absurd hndim (by decide)

end HipRand.Py
