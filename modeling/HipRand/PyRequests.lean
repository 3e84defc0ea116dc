import HipRand.PyApi

/-!
# What a generating method asks the backend for

A generating method checks `size > ary.size`, chooses a backend function from the
element type and hands it a pointer and a count. A request is safe when it raises
before that call, or makes exactly one such call, for exactly the requested number
of elements, into a buffer that owns their bytes.

Results:
1. `triple_generateHost`, `triple_generateDevice`: the generation calls that a
   request makes, for each kind of generator and of array.
2. `requestSafe_iff`: a request is safe exactly when no size is given, the size is
   not negative, or the request is refused before the size reaches the backend.
-/

namespace HipRand.Py

open Interaction

/-! ## Safe requests -/

/-- A generation call of the backend. -/
structure GenerateCall where
  func : GenFunc
  output : Output
  n : CSize

def generateCall? : Event pySig → Option GenerateCall
  | ⟨.generate func _ output n _, _⟩ => some ⟨func, output, n⟩
  | _ => none

def generateCalls (t : List (Event pySig)) : List GenerateCall :=
  t.filterMap generateCall?

/-- A C-contiguous NumPy array, or a device array, that owns `size * itemsize`
bytes of the address space. -/
def Ary.OwnsItsBytes : Ary → Prop
  | ndarray ary => ary.CContiguous ∧ ary.WellFormed
  | device dary => 0 ≤ dary.size.value ∧ dary.size.value * dary.dtype.itemsize < 2 ^ 64
  | other _ _ _ => True

/-- A buffer and the bytes it owns: those of the array itself, or those that were
asked of `hipMalloc` for a temporary device array. -/
inductive OwnedBytes (t : List (Event pySig)) : Ary → Output → Nat → Prop
  | host {ary : NdArray} :
      OwnedBytes t (.ndarray ary) (.host ary.data) (ary.size * ary.dtype.itemsize)
  | device {dary : DeviceNDArray} :
      OwnedBytes t (.device dary) (.device (devicePointer dary))
        (dary.size.value.toNat * dary.dtype.itemsize)
  | temporary {ary : Ary} {nbytes : CSize} {ptr : DevPtr} :
      ⟨.hipMalloc nbytes, (hipSuccess, ptr)⟩ ∈ t → OwnedBytes t ary (.device ptr) nbytes.toNat

/-- The number of elements that the client asks for. -/
def requestedCount (ary : Ary) : Option Int → Int
  | none => ary.size.value
  | some size => size

/-- The end of a call and its trace are those of a safe request. -/
def RequestSafe (ary : Ary) (size : Option Int)
    (run : Except PyError Unit × List (Event pySig)) : Prop :=
  ((∃ e, run.1 = .error e) ∧ generateCalls run.2 = []) ∨
  ∃ c bytes, generateCalls run.2 = [c] ∧ (c.n.toNat : Int) = requestedCount ary size ∧
    OwnedBytes run.2 ary c.output bytes ∧ c.n.toNat * c.func.width ≤ bytes

/-! ## The calls of each function under given answers -/

variable (answer : (op : pySig.Op) → pySig.Ans op)

/-- `hipMalloc` is found and gives `nbytes` bytes. -/
def MallocSucceeds (nbytes : CSize) : Prop :=
  answer (.hipAttr .hipMalloc) = .ok () ∧ (answer (.hipMalloc nbytes)).1 = hipSuccess

/-- The request raises before the backend sees a size: the method does not support
the element type, a library cannot be loaded, the generator does not write to this
kind of array, or there is no memory for the temporary device array. -/
def Refused (m : GenMethod) (rng : RNG) (ary : Ary) (size : Int) : Prop :=
  match m.dispatch ary.dtype with
  | none => True
  | some (func, _) =>
    answer (.hiprandAttr func.name) ≠ .ok () ∨
    match ary with
    | .ndarray ary =>
      rng.isHost = false ∧ ¬ MallocSucceeds answer (BitVec.ofInt 64 (ary.dtype.itemsize * size))
    | .device _ => rng.isHost = true
    | .other _ _ _ => True

/-- No size is given, or one that is not negative, or the request is refused. -/
def SizeHarmless (m : GenMethod) (rng : RNG) (ary : Ary) : Option Int → Prop
  | none => True
  | some size => 0 ≤ size ∨ Refused answer m rng ary size

variable {answer} {calls : List GenerateCall} {evs log : List (Event pySig)}

/-- The generation calls of the log are `calls`, and it has the events `evs`. -/
structure Logged (calls : List GenerateCall) (evs log : List (Event pySig)) : Prop where
  calls_eq : generateCalls log = calls
  mem : ∀ ev ∈ evs, ev ∈ log

/-- A call that generates nothing. -/
def Quiet (op : Op) : Prop :=
  ∀ a : op.Ans, generateCall? ⟨op, a⟩ = none

theorem Logged.quiet {op : Op} {a : op.Ans} (h : Logged calls evs log) (hop : Quiet op) :
    Logged calls (⟨op, a⟩ :: evs) (log ++ [⟨op, a⟩]) where
  calls_eq := by
    have hcalls := h.calls_eq
    unfold generateCalls at hcalls ⊢
    rw [List.filterMap_append, hcalls, List.filterMap_cons_none (hop a), List.filterMap_nil,
      List.append_nil]
  mem := by
    rintro ev (_ | ⟨_, hev⟩)
    · exact List.mem_append_right _ (List.mem_singleton_self _)
    · exact List.mem_append_left _ (h.mem ev hev)

theorem Logged.tail {ev : Event pySig} (h : Logged calls (ev :: evs) log) : Logged calls evs log :=
  ⟨h.calls_eq, fun ev' hev' => h.mem ev' (List.mem_cons_of_mem _ hev')⟩

theorem Logged.generate {func : GenFunc} {gen : Generator} {output : Output} {n : CSize}
    {args : List FloatArg} {st : Int} (h : Logged [] evs log) :
    Logged [⟨func, output, n⟩] evs (log ++ [⟨.generate func gen output n args, st⟩]) where
  calls_eq := by
    have hcalls := h.calls_eq
    unfold generateCalls at hcalls ⊢
    rw [List.filterMap_append, hcalls]
    rfl
  mem ev hev := List.mem_append_left _ (h.mem ev hev)

theorem triple_perform {op : Op} {P : List (Event pySig) → Prop}
    {Q : Except PyError op.Ans → List (Event pySig) → Prop}
    (h : ∀ log, P log → Q (.ok (answer op)) (log ++ [⟨op, answer op⟩])) :
    Triple (.answering answer) P (perform op) Q := by
  refine .perform (stable_answering _) (fun _ => stable_answering _) ?_
  rintro log a _ hP ⟨rfl, rfl⟩
  exact h log hP

theorem triple_lookupHip {name : HipFn} :
    Triple (.answering answer) (Logged calls evs) (hipAttr name)
      fun r log => answer (.hipAttr name) = r ∧ Logged calls evs log := by
  refine triple_hipAttr (stable_answering _) (fun _ => stable_answering _) ?_
  rintro log _ _ h ⟨rfl, rfl⟩
  exact ⟨rfl, (h.quiet fun _ => rfl).tail⟩

theorem triple_lookupHiprand {name : HiprandFn} :
    Triple (.answering answer) (Logged calls evs) (hiprandAttr name)
      fun r log => answer (.hiprandAttr name) = r ∧ Logged calls evs log := by
  refine triple_hiprandAttr (stable_answering _) (fun _ => stable_answering _) ?_
  rintro log _ _ h ⟨rfl, rfl⟩
  exact ⟨rfl, (h.quiet fun _ => rfl).tail⟩

/-- The memory of a device array: it is there exactly if `hipMalloc` gives it. -/
theorem triple_memoryPointer_init {nbytes : PyNum} {n : CSize} (hn : nbytes.cSizeT = .ok n) :
    Triple (.answering answer) (Logged [] []) (MemoryPointer.init nbytes) fun r log =>
      match r with
      | .ok mem => MallocSucceeds answer n ∧ Logged [] [⟨.hipMalloc n, (hipSuccess, mem.ptr)⟩] log
      | .error _ => ¬ MallocSucceeds answer n ∧ Logged [] [] log := by
  unfold MemoryPointer.init
  refine .bind (R := fun _ => Logged [] [])
    (triple_perform fun log h => (h.quiet fun _ => rfl).tail) fun self => ?_
  refine .andThen triple_lookupHip (fun e log h => ?_) fun _ => .assuming fun hfound => ?_
  · refine ⟨fun hm => ?_, h.2⟩
    rw [hm.1] at h
    cases h.1
  rw [hn]
  show Triple _ _ (perform (.hipMalloc n) >>= _) _
  refine .bind (R := fun b log => b = answer (.hipMalloc n) ∧ Logged [] [⟨.hipMalloc n, b⟩] log)
    (triple_perform fun log h => ⟨rfl, h.quiet fun _ => rfl⟩) fun (status, ptr) =>
    .assuming fun hb => ?_
  refine .bind (R := fun _ log => MallocSucceeds answer n ∧
    Logged [] [⟨.hipMalloc n, (hipSuccess, ptr)⟩] log)
    (triple_checkHip (stable_answering _) ?_ ?_) fun _ => ?_
  · rintro rfl log h
    exact ⟨⟨hfound, by rw [← hb]⟩, h⟩
  · intro hne log h
    refine ⟨fun hm => hne ?_, h.tail⟩
    have hst := hm.2
    rw [← hb] at hst
    exact hst
  refine .bind (R := fun _ log => MallocSucceeds answer n ∧
    Logged [] [⟨.hipMalloc n, (hipSuccess, ptr)⟩] log) (triple_perform ?_) fun _ => ?_
  · rintro log ⟨hm, h⟩
    exact ⟨hm, (h.quiet fun _ => rfl).tail⟩
  exact .ret (stable_answering _) fun _ h => h

/-- The end of a generating method: one generation call, and what comes after it
does not generate. -/
theorem triple_backendCall {func : GenFunc} {gen : Generator} {output : Output} {n : CSize}
    {args : List FloatArg} {rest : Int → PyProg Unit} (hrest : ∀ status, Issues Quiet (rest status)) :
    Triple (.answering answer) (Logged [] evs) (perform (.generate func gen output n args) >>= rest)
      fun _ => Logged [⟨func, output, n⟩] evs := by
  refine .bind (R := fun _ => Logged [⟨func, output, n⟩] evs) (triple_perform fun _ h => h.generate)
    fun status => ?_
  refine (hrest status).triple (stable_answering _) ?_
  rintro op log a _ hop h ⟨_, rfl⟩
  exact (h.quiet hop).tail

/-! ## The request as a whole -/

theorem requestSafe_of_error {ary : Ary} {size : Option Int} {e : PyError}
    (h : Logged [] evs log) : RequestSafe ary size (.error e, log) :=
  .inl ⟨⟨e, rfl⟩, h.calls_eq⟩

theorem requestedCount_of_ok {ary : Ary} {size : Option Int} {n : PyNum}
    (h : requestedSize ary size = .ok n) : n.value = requestedCount ary size := by
  obtain ⟨_, ⟨rfl, rfl⟩ | ⟨s, rfl, rfl⟩⟩ := requestedSize_ok h <;> rfl

/-- One generation call was made: the request is safe exactly if its count is the
requested one, which no negative size is. -/
theorem requestSafe_of_call {ary : Ary} {size : Option Int} {r : Except PyError Unit}
    {func : GenFunc} {output : Output} {n : PyNum} {count : CSize} {bytes : Nat}
    (h : Logged [⟨func, output, count⟩] evs log) (hcount : n.cSizeT = .ok count)
    (hlt : n.value < 2 ^ 64) (hn : n.value = requestedCount ary size)
    (howned : OwnedBytes log ary output bytes)
    (hfits : 0 ≤ n.value → n.value * func.width ≤ bytes) :
    RequestSafe ary size (r, log) ↔ 0 ≤ n.value := by
  have hiff := PyNum.cSizeT_toNat_eq_iff hcount hlt
  constructor
  · rintro (⟨_, hnone⟩ | ⟨c, _, hc, hreq, _⟩)
    · have := h.calls_eq.symm.trans hnone
      cases this
    · have hcall := h.calls_eq.symm.trans hc
      cases hcall
      exact hiff.mp (hreq.trans hn.symm)
  · intro hnonneg
    have hval := hiff.mpr hnonneg
    refine .inr ⟨⟨func, output, count⟩, bytes, h.calls_eq, hval.trans hn, howned, ?_⟩
    have hbytes := hfits hnonneg
    rw [← hval] at hbytes
    exact_mod_cast hbytes

section Request

variable {m : GenMethod} {rng : RNG} {ary : Ary} {size : Option Int} {func : GenFunc}
  {args : List FloatArg}

/-- A request that is refused, and raises. -/
theorem requestSafe_iff_of_refused {e : PyError} (h : Logged [] evs log)
    (hrefused : ∀ s, size = some s → Refused answer m rng ary s) :
    RequestSafe ary size (.error e, log) ↔ SizeHarmless answer m rng ary size := by
  refine iff_of_true (requestSafe_of_error h) ?_
  cases size with
  | none => trivial
  | some s => exact .inr (hrefused s rfl)

theorem refused_of_unsupported {s : Int} (hdisp : m.dispatch ary.dtype = none) :
    Refused answer m rng ary s := by
  unfold Refused
  rw [hdisp]
  trivial

theorem refused_of_lookup {s : Int} (hdisp : m.dispatch ary.dtype = some (func, args))
    (hmissing : answer (.hiprandAttr func.name) ≠ .ok ()) : Refused answer m rng ary s := by
  unfold Refused
  rw [hdisp]
  exact .inl hmissing

theorem refused_other {type : String} {dtype : Dtype} {k s : Int}
    (hdisp : m.dispatch dtype = some (func, args)) :
    Refused answer m rng (.other type dtype k) s := by
  unfold Refused
  rw [show m.dispatch (Ary.other type dtype k).dtype = some (func, args) from hdisp]
  exact .inr trivial

theorem refused_device_iff {dary : DeviceNDArray} {s : Int}
    (hdisp : m.dispatch dary.dtype = some (func, args))
    (hfound : answer (.hiprandAttr func.name) = .ok ()) :
    Refused answer m rng (.device dary) s ↔ rng.isHost = true := by
  unfold Refused
  rw [show m.dispatch (Ary.device dary).dtype = some (func, args) from hdisp]
  exact or_iff_right (not_not.mpr hfound)

theorem refused_ndarray_iff {a : NdArray} {s : Int} (hdisp : m.dispatch a.dtype = some (func, args))
    (hfound : answer (.hiprandAttr func.name) = .ok ()) :
    Refused answer m rng (.ndarray a) s ↔
      rng.isHost = false ∧ ¬ MallocSucceeds answer (BitVec.ofInt 64 (a.dtype.itemsize * s)) := by
  unfold Refused
  rw [show m.dispatch (Ary.ndarray a).dtype = some (func, args) from hdisp]
  exact or_iff_right (not_not.mpr hfound)

/-- A size that the check rejects is not negative, unless the array is of another
type, and then the request is refused. -/
theorem sizeHarmless_of_error (hown : ary.OwnsItsBytes)
    (hdisp : m.dispatch ary.dtype = some (func, args)) {e : PyError}
    (h : requestedSize ary size = .error e) : SizeHarmless answer m rng ary size := by
  obtain ⟨s, rfl, hs⟩ := requestedSize_error h
  cases ary with
  | ndarray ary =>
    have hpos : (0 : Int) ≤ ary.size := Int.natCast_nonneg _
    exact .inl (le_trans hpos (le_of_lt hs))
  | device dary => exact .inl (le_trans hown.1 (le_of_lt hs))
  | other type dtype n => exact .inr (refused_other hdisp)

/-- Where the backend is called, only the sign of the count matters. -/
theorem sizeHarmless_iff_of_call (hown : ary.OwnsItsBytes) {n : PyNum}
    (hn : n.value = requestedCount ary size)
    (hcalled : ∀ s, size = some s → ¬ Refused answer m rng ary s)
    (hother : ∀ type dtype k, ary ≠ .other type dtype k) :
    SizeHarmless answer m rng ary size ↔ 0 ≤ n.value := by
  rw [hn]
  cases size with
  | none =>
    refine iff_of_true trivial ?_
    cases ary with
    | ndarray ary => exact Int.natCast_nonneg _
    | device dary => exact hown.1
    | other type dtype k => exact absurd rfl (hother type dtype k)
  | some s => exact or_iff_left (hcalled s rfl)

/-- A count that passed the check fits in a NumPy array with room to spare. -/
theorem ndarray_fits {a : NdArray} (hown : (Ary.ndarray a).OwnsItsBytes)
    (hdisp : m.dispatch a.dtype = some (func, args)) {v : Int} (hle : v ≤ a.size) :
    v < 2 ^ 64 ∧ v * func.width ≤ (a.size * a.dtype.itemsize : Nat) ∧
      (a.dtype.itemsize * v : Int) < 2 ^ 64 := by
  have hwidth : func.width = a.dtype.itemsize := GenMethod.dispatch_width hdisp
  have hpos : 1 ≤ a.dtype.itemsize := hwidth ▸ func.width_pos
  have hbytes : a.size * a.dtype.itemsize < 2 ^ 63 := hown.2.2
  have hsize : a.size ≤ a.size * a.dtype.itemsize := Nat.le_mul_of_pos_right _ hpos
  have hmul : v * a.dtype.itemsize ≤ (a.size : Int) * a.dtype.itemsize :=
    mul_le_mul_of_nonneg_right hle (Int.natCast_nonneg _)
  rw [hwidth]
  push_cast
  refine ⟨by omega, hmul, ?_⟩
  rw [mul_comm]
  have : ((a.size : Int) * a.dtype.itemsize) < 2 ^ 63 := by exact_mod_cast hbytes
  omega

theorem device_fits {dary : DeviceNDArray} (hown : (Ary.device dary).OwnsItsBytes)
    (hdisp : m.dispatch dary.dtype = some (func, args)) {v : Int} (hle : v ≤ dary.size.value) :
    v < 2 ^ 64 ∧ (0 ≤ v → v * func.width ≤ (dary.size.value.toNat * dary.dtype.itemsize : Nat)) := by
  obtain ⟨hnonneg, hbytes⟩ := hown
  have hwidth : func.width = dary.dtype.itemsize := GenMethod.dispatch_width hdisp
  have hpos : (1 : Int) ≤ dary.dtype.itemsize := by exact_mod_cast hwidth ▸ func.width_pos
  have hsize : dary.size.value ≤ dary.size.value * dary.dtype.itemsize :=
    le_mul_of_one_le_right hnonneg hpos
  refine ⟨by omega, fun _ => ?_⟩
  rw [hwidth]
  push_cast
  rw [Int.toNat_of_nonneg hnonneg]
  exact mul_le_mul_of_nonneg_right hle (Int.natCast_nonneg _)

theorem triple_generateHost (hown : ary.OwnsItsBytes)
    (hdisp : m.dispatch ary.dtype = some (func, args))
    (hfound : answer (.hiprandAttr func.name) = .ok ()) (hhost : rng.isHost = true) :
    Triple (.answering answer) (Logged [] []) (rng.generateHost func ary size args)
      fun r log => RequestSafe ary size (r, log) ↔ SizeHarmless answer m rng ary size := by
  unfold RNG.generateHost
  cases hsize : requestedSize ary size with
  | error e =>
    exact .throw (stable_answering _) fun log h =>
      iff_of_true (requestSafe_of_error h) (sizeHarmless_of_error hown hdisp hsize)
  | ok n =>
    have hval := requestedCount_of_ok hsize
    cases ary with
    | device dary =>
      exact .throw (stable_answering _) fun log h => requestSafe_iff_of_refused h
        fun _ _ => (refused_device_iff hdisp hfound).mpr hhost
    | other type dtype k =>
      exact .throw (stable_answering _) fun log h => requestSafe_iff_of_refused h
        fun _ _ => refused_other hdisp
    | ndarray ary =>
      obtain ⟨v, rfl, hle, _⟩ := requestedSize_ndarray hsize
      show Triple (.answering answer) (Logged [] [])
        (perform (.generate func rng.gen (.host ary.data) (BitVec.ofInt 64 v) args) >>=
          checkHiprand) _
      refine (triple_backendCall issues_checkHiprand).post fun r log h => ?_
      have hfits := ndarray_fits hown hdisp hle
      rw [requestSafe_of_call (n := .int v) h rfl hfits.1 hval .host fun _ => hfits.2.1,
        sizeHarmless_iff_of_call hown hval (fun s hs => ?_) nofun]
      rw [refused_ndarray_iff hdisp hfound, hhost]
      exact fun hrefused => nomatch hrefused.1

/-- The temporary device array of a request on a NumPy array. -/
theorem triple_empty {v : Int} {dtype : Dtype} {n : CSize}
    (hn : n = BitVec.ofInt 64 (dtype.itemsize * v)) :
    Triple (.answering answer) (Logged [] []) (empty (.int v) dtype) fun r log =>
      match r with
      | .ok dary => MallocSucceeds answer n ∧
          Logged [] [⟨.hipMalloc n, (hipSuccess, devicePointer dary)⟩] log
      | .error _ => ¬ MallocSucceeds answer n ∧ Logged [] [] log := by
  subst hn
  refine .bind (R := fun _ => Logged [] [])
    (triple_perform fun log h => (h.quiet fun _ => rfl).tail) fun self => ?_
  exact .andThen (triple_memoryPointer_init (cSizeT_scale_npProd dtype.itemsize v))
    (fun _ _ h => h) fun mem => .ret (stable_answering _) fun _ h => h

/-- The device array for a NumPy array, if there is memory for it. -/
theorem triple_deviceBuffer {a : NdArray} {v : Int} {n : CSize}
    (hn : n = BitVec.ofInt 64 (a.dtype.itemsize * v)) :
    Triple (.answering answer) (Logged [] []) (deviceBuffer (.ndarray a) (.int v)) fun r log =>
      match r with
      | .ok p => (p.2 = some a ∧ MallocSucceeds answer n) ∧
          Logged [] [⟨.hipMalloc n, (hipSuccess, devicePointer p.1)⟩] log
      | .error _ => ¬ MallocSucceeds answer n ∧ Logged [] [] log :=
  (triple_empty hn).andThen (fun _ _ h => h) fun _ => .ret (stable_answering _)
    fun _ h => ⟨⟨rfl, h.1⟩, h.2⟩

/-- What follows the generation call on a temporary array copies, and does not
generate. -/
theorem issues_quiet_copy {status : Int} {dary : DeviceNDArray} {a : NdArray} :
    Issues Quiet (checkHiprand status >>= fun _ => dary.copyToHost (some a) >>= fun _ => pure ()) :=
  (issues_checkHiprand status).bind fun _ =>
    (DeviceNDArray.issues_copyToHost (fun _ _ _ => rfl) (fun _ => rfl) fun _ _ _ _ => rfl).bind
      fun _ => trivial

/-- A request on a device array, with a count that passed the check. -/
theorem triple_generateDevice_device {dary : DeviceNDArray} {n : PyNum}
    (hown : (Ary.device dary).OwnsItsBytes) (hdisp : m.dispatch dary.dtype = some (func, args))
    (hfound : answer (.hiprandAttr func.name) = .ok ()) (hhost : rng.isHost = false)
    (hsize : requestedSize (.device dary) size = .ok n) :
    Triple (.answering answer) (Logged [] []) (rng.generateDevice func (.device dary) size args)
      fun r log => RequestSafe (.device dary) size (r, log) ↔
        SizeHarmless answer m rng (.device dary) size := by
  have hval := requestedCount_of_ok hsize
  obtain ⟨hle, hnum⟩ := requestedSize_ok hsize
  unfold RNG.generateDevice
  rw [hsize]
  show Triple (.answering answer) (Logged [] []) (ofExcept n.cSizeT >>= _) _
  cases hcount : n.cSizeT with
  | error e =>
    -- only `ary.size` can be a float, and it is used only without a size
    have hnone : size = none := by
      rcases hnum with ⟨hnone, _⟩ | ⟨s, _, rfl⟩
      · exact hnone
      · cases hcount
    refine .throw (stable_answering _) fun log h => requestSafe_iff_of_refused h fun s hs => ?_
    rw [hnone] at hs
    cases hs
  | ok count =>
    refine (triple_backendCall ?_).post fun r log h => ?_
    · exact fun status => (issues_checkHiprand status).bind fun _ => trivial
    have hfits := device_fits hown hdisp hle
    rw [requestSafe_of_call h hcount hfits.1 hval .device hfits.2,
      sizeHarmless_iff_of_call hown hval (fun s hs => ?_) nofun]
    rw [refused_device_iff hdisp hfound, hhost]
    decide

/-- A request on a NumPy array, with a count that passed the check: it is refused if there
is no memory for the temporary array. -/
theorem triple_generateDevice_ndarray {a : NdArray} {n : PyNum}
    (hown : (Ary.ndarray a).OwnsItsBytes) (hdisp : m.dispatch a.dtype = some (func, args))
    (hfound : answer (.hiprandAttr func.name) = .ok ()) (hhost : rng.isHost = false)
    (hsize : requestedSize (.ndarray a) size = .ok n) :
    Triple (.answering answer) (Logged [] []) (rng.generateDevice func (.ndarray a) size args)
      fun r log => RequestSafe (.ndarray a) size (r, log) ↔
        SizeHarmless answer m rng (.ndarray a) size := by
  have hval := requestedCount_of_ok hsize
  obtain ⟨v, rfl, hle, _⟩ := requestedSize_ndarray hsize
  have hfits := ndarray_fits hown hdisp hle
  have hrefused (s : Int) (hs : size = some s) : Refused answer m rng (.ndarray a) s ↔
      ¬ MallocSucceeds answer (BitVec.ofInt 64 (a.dtype.itemsize * v)) := by
    obtain rfl : v = s := by rw [hs] at hval; exact hval
    rw [refused_ndarray_iff hdisp hfound]
    exact and_iff_right hhost
  unfold RNG.generateDevice
  rw [hsize]
  refine (triple_deviceBuffer rfl).andThen (fun e log h => ?_) ?_
  · exact requestSafe_iff_of_refused h.2 fun s hs => (hrefused s hs).mpr h.1
  rintro ⟨dary, copyTo⟩
  refine .assuming ?_
  rintro ⟨rfl, hmalloc⟩
  refine (triple_backendCall fun status => issues_quiet_copy).post fun r log h => ?_
  have howned : OwnedBytes log (.ndarray a) (.device (devicePointer dary)) _ :=
    .temporary (h.mem _ (List.mem_singleton_self _))
  rw [requestSafe_of_call (n := .int v) h rfl hfits.1 hval howned fun hnonneg => ?_,
    sizeHarmless_iff_of_call hown hval (fun s hs hno => (hrefused s hs).mp hno hmalloc) nofun]
  have hwidth : func.width = a.dtype.itemsize := GenMethod.dispatch_width hdisp
  have hprod : 0 ≤ (a.dtype.itemsize * v : Int) := mul_nonneg (Int.natCast_nonneg _) hnonneg
  have hbytes := eq_toNat_ofInt_iff.mpr ⟨hprod, hfits.2.2⟩
  rw [← hbytes, hwidth, mul_comm]
  exact le_refl _

theorem triple_generateDevice (hown : ary.OwnsItsBytes)
    (hdisp : m.dispatch ary.dtype = some (func, args))
    (hfound : answer (.hiprandAttr func.name) = .ok ()) (hhost : rng.isHost = false) :
    Triple (.answering answer) (Logged [] []) (rng.generateDevice func ary size args)
      fun r log => RequestSafe ary size (r, log) ↔ SizeHarmless answer m rng ary size := by
  cases hsize : requestedSize ary size with
  | error e =>
    unfold RNG.generateDevice
    rw [hsize]
    exact .throw (stable_answering _) fun log h =>
      iff_of_true (requestSafe_of_error h) (sizeHarmless_of_error hown hdisp hsize)
  | ok n =>
    cases ary with
    | ndarray a => exact triple_generateDevice_ndarray hown hdisp hfound hhost hsize
    | device dary => exact triple_generateDevice_device hown hdisp hfound hhost hsize
    | other type dtype k =>
      unfold RNG.generateDevice
      rw [hsize]
      exact .throw (stable_answering _) fun log h => requestSafe_iff_of_refused h
        fun _ _ => refused_other hdisp

theorem triple_call (hown : ary.OwnsItsBytes) :
    Triple (.answering answer) (Logged [] []) (m.call rng ary size)
      fun r log => RequestSafe ary size (r, log) ↔ SizeHarmless answer m rng ary size := by
  cases hdisp : m.dispatch ary.dtype with
  | none =>
    rw [GenMethod.call_of_unsupported hdisp]
    exact .throw (stable_answering _) fun log h => requestSafe_iff_of_refused h
      fun _ _ => refused_of_unsupported hdisp
  | some chosen =>
    obtain ⟨func, args⟩ := chosen
    rw [GenMethod.call_of_dispatch hdisp]
    refine .andThen triple_lookupHiprand (fun e log h => ?_) fun _ => .assuming fun hfound => ?_
    · refine requestSafe_iff_of_refused h.2 fun _ _ => refused_of_lookup hdisp fun hok => ?_
      rw [hok] at h
      cases h.1
    · unfold RNG.generateWith
      cases hhost : rng.isHost with
      | true => exact triple_generateHost hown hdisp hfound hhost
      | false => exact triple_generateDevice hown hdisp hfound hhost

end Request

/-- For every request on an array that owns its bytes, under all answers of the
libraries: it is safe exactly when no size is given, the size is not negative, or
the request is refused before the size reaches the backend. -/
theorem requestSafe_iff (answer : (op : pySig.Op) → pySig.Ans op) (m : GenMethod) (rng : RNG)
    (ary : Ary) (size : Option Int) (hown : ary.OwnsItsBytes) :
    RequestSafe ary size (observe answer (m.call rng ary size)) ↔
      SizeHarmless answer m rng ary size := by
  have hnothing : Logged [] [] [] := ⟨rfl, List.forall_mem_nil _⟩
  exact (triple_call hown).observe hnothing

/-- A NumPy array of two 32-bit integers, and a host-side generator. -/
def twoUint32 : NdArray where
  dtype := .uint32
  shape := [2]
  strides := [4]
  data := 4096

def hostRng : RNG where
  id := 1
  gen := 0
  isHost := true

theorem twoUint32_ownsItsBytes : (Ary.ndarray twoUint32).OwnsItsBytes :=
  ⟨⟨.inr rfl, trivial⟩, rfl, by decide⟩

theorem requestSafe_iff_twoUint32 :
    RequestSafe (.ndarray twoUint32) (some 2)
      (observe succeeding (GenMethod.generate.call hostRng (.ndarray twoUint32) (some 2))) :=
  (requestSafe_iff succeeding .generate hostRng _ (some 2) twoUint32_ownsItsBytes).mpr
    (.inl (by decide))

/-- `gen.generate(a, size=-1)` on a host-side generator: the check lets it through
and the backend is asked for `2^64 - 1` elements in a buffer of eight bytes. -/
theorem negative_size_unsafe :
    generateCalls (observe succeeding
        (GenMethod.generate.call hostRng (.ndarray twoUint32) (some (-1)))).2 =
      [⟨.hiprandGenerate, .host 4096, BitVec.ofNat 64 (2 ^ 64 - 1)⟩] ∧
    ¬ ∀ (answer : (op : pySig.Op) → pySig.Ans op) (m : GenMethod) (rng : RNG) (ary : Ary)
        (size : Option Int), ary.OwnsItsBytes →
      RequestSafe ary size (observe answer (m.call rng ary size)) := by
  refine ⟨rfl, fun h => ?_⟩
  rcases h succeeding .generate hostRng _ (some (-1)) twoUint32_ownsItsBytes with
    ⟨_, hnone⟩ | ⟨c, _, _, hcount, _⟩
  · cases hnone
  · have hneg : (c.n.toNat : Int) = -1 := hcount
    omega

end HipRand.Py
