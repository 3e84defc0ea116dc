import Mathlib.Algebra.BigOperators.Group.List.Lemmas
import HipRand.PyApi

/-!
# Where the generated values land

A generating method hands the backend the base pointer of a NumPy array, or copies a
temporary device array to that pointer; `copy_to_host` does the latter too. The
layout of the array is never looked at. Here a generation call writes `n` elements
one after another from the pointer that it gets, and `hipMemcpy` copies the bytes
that it is asked for; that the copy waits for the generation is not a matter of this
file. What a failed call leaves in memory is left open.

Results:
1. `triple_call`, `triple_copyToHost`: a call that returns has written the values
   one after another from the base pointer.
2. `generateLaw_iff`, `copyLaw_iff`: the values land in the elements of the array,
   and nowhere else, exactly if the array starts with these elements in C order.
3. `generateLaw_of_cContiguous`: so it is for C-contiguous arrays.
-/

namespace HipRand.Py

open Interaction

/-! ## Memory -/

abbrev Byte := BitVec 8

instance : Nontrivial Byte := ⟨0, 1, by decide⟩

/-- Host memory by address, and the bytes behind each device pointer. -/
structure Memory where
  host : Int → Byte
  device : DevPtr → Nat → Byte

/-- Write bytes one after another from where a generation call is told to. -/
def Memory.store (s : Memory) (output : Output) (len : Nat) (bytes : Nat → Byte) : Memory :=
  match output with
  | .host p => { s with host := Strided.write p.toNat len bytes s.host }
  | .device ptr =>
    { s with device := Function.update s.device ptr fun j =>
        if j < len then bytes j else s.device ptr j }

/-- The backend produces the values `out`, given by their bytes. -/
def memoryEnv (out : Nat → Nat → Byte) : Env pySig Memory where
  handle
    | .generate func _ output n _, s, status, s' =>
      status = HIPRAND_STATUS_SUCCESS →
        s' = s.store output (n.toNat * func.width) (Strided.flatten func.width out)
    | .hipMemcpy dst src nbytes _, s, status, s' =>
      status = hipSuccess →
        s' = { s with host := Strided.write dst.toNat nbytes.toNat (s.device src) s.host }
    | .hipMalloc _, s, _, s' | .hipFree _, s, _, s' => s'.host = s.host
    | _, s, _, s' => s' = s
  rely _ _ := False

theorem stable_memoryEnv {out : Nat → Nat → Byte} (P : Memory → Prop) :
    Stable (memoryEnv out) P :=
  fun _ _ _ h => h.elim

/-! ## The law -/

/-- The number of elements that a request is about. -/
def countOf (ary : NdArray) : Option Int → Nat
  | none => ary.size
  | some size => size.toNat

/-- After a call that returns, `vals` are in the first `n` elements and nothing else
has changed; an array whose elements cannot hold any values is rejected before that. -/
def LaidOut {α : Type} (a : NdArray) (n : Nat) (vals : Nat → Nat → Byte) (s : Memory)
    (r : Except PyError α) (s' : Memory) : Prop :=
  ((∃ x, r = .ok x) → Strided.Stores a.dtype.itemsize n a.size a.addr vals s.host s'.host) ∧
  (¬ Strided.Storable Byte a.dtype.itemsize n a.size a.addr →
    (∃ e, r = .error e) ∧ s'.host = s.host)

/-- The law of the generating methods. -/
def GenerateLaw (m : GenMethod) (rng : RNG) (a : NdArray) (size : Option Int) : Prop :=
  ∀ out s r s', Runs (memoryEnv out) (m.call rng (.ndarray a) size) s r s' →
    LaidOut a (countOf a size) out s r s'

/-- The law of `copy_to_host`: the values are the first elements of the device array. -/
def CopyLaw (d : DeviceNDArray) (a : NdArray) : Prop :=
  ∀ out s r s', Runs (memoryEnv out) (d.copyToHost (some a)) s r s' →
    LaidOut a d.size.value.toNat
      (fun i b => s.device (devicePointer d) (i * a.dtype.itemsize + b)) s r s'

/-- The first `n` elements in C order follow each other from the base pointer on, and no
other element overlaps with them. -/
def NdArray.StartsWith (a : NdArray) (n : Nat) : Prop :=
  Strided.PrefixContiguous a.dtype.itemsize n a.size a.addr a.data.toNat

/-! ## What a call that returns has written -/

section Calls

variable {out : Nat → Nat → Byte} {h₀ : Int → Byte} {func : GenFunc} {args : List FloatArg}
  {a : NdArray} {n : Nat}

/-- A call that leaves host memory alone. -/
def KeepsHost (op : Op) : Prop :=
  ∀ (out : Nat → Nat → Byte) (s : Memory) (ans : op.Ans) (s' : Memory),
    (memoryEnv out).handle op s ans s' → s'.host = s.host

theorem keepsHost_new : KeepsHost .new :=
  fun _ _ _ _ h => congrArg Memory.host h

theorem keepsHost_finalize (self : ObjId) (resource : Resource) :
    KeepsHost (.finalize self resource) :=
  fun _ _ _ _ h => congrArg Memory.host h

theorem keepsHost_hipAttr (name : HipFn) : KeepsHost (.hipAttr name) :=
  fun _ _ _ _ h => congrArg Memory.host h

theorem keepsHost_hipMalloc (nbytes : CSize) : KeepsHost (.hipMalloc nbytes) :=
  fun _ _ _ _ h => h

theorem triple_keepsHost {α : Type} {p : PyProg α} (hp : Issues KeepsHost p) :
    Triple (memoryEnv out) (fun s => s.host = h₀) p fun _ s => s.host = h₀ :=
  hp.triple (stable_memoryEnv _) fun _ s ans s' hop hs hh => (hop out s ans s' hh).trans hs

/-- `MemoryPointer.__init__` writes nothing to the host. -/
theorem MemoryPointer.issues_keepsHost (nbytes : PyNum) :
    Issues KeepsHost (MemoryPointer.init nbytes) := by
  unfold MemoryPointer.init
  refine (Issues.perform keepsHost_new).bind fun self => ?_
  refine (issues_hipAttr (keepsHost_hipAttr _)).bind fun _ => ?_
  refine (issues_ofExcept _).bind fun bytes => ?_
  refine (Issues.perform (keepsHost_hipMalloc _)).bind fun answer => ?_
  refine (issues_checkHip _).bind fun _ => ?_
  exact (Issues.perform (keepsHost_finalize _ _)).bind fun _ => trivial

/-- The temporary device array of a request on a NumPy array. -/
theorem triple_empty_keepsHost :
    Triple (memoryEnv out) (fun s => s.host = h₀) (empty (.int n) a.dtype) fun r s =>
      s.host = h₀ ∧ ∀ d, r = .ok d → d.dtype = a.dtype ∧ d.size = npProd [(n : Int)] ∧
        d.nbytes = (npProd [(n : Int)]).scale a.dtype.itemsize := by
  unfold empty DeviceNDArray.init
  refine .andThen (triple_keepsHost (Issues.perform keepsHost_new))
    (fun _ _ h => ⟨h, (fun _ hd => nomatch hd)⟩) fun self => ?_
  refine .andThen (triple_keepsHost (MemoryPointer.issues_keepsHost _))
    (fun _ _ h => ⟨h, (fun _ hd => nomatch hd)⟩) fun mem => ?_
  refine .ret (stable_memoryEnv _) fun s h => ⟨h, fun d hd => ?_⟩
  obtain rfl := Except.ok.inj hd
  simp only [ShapeArg.toTuple, and_self]

/-- `copy_to_host` copies as many bytes as the device array has to the base pointer. -/
theorem triple_copyToHost {d : DeviceNDArray} {dev : Nat → Byte} :
    Triple (memoryEnv out) (fun s => s.host = h₀ ∧ s.device (devicePointer d) = dev)
      (d.copyToHost (some a)) fun r s => (∃ x, r = .ok x) →
        ∃ nbytes, d.nbytes.cSizeT = .ok nbytes ∧
          s.host = Strided.write a.data.toNat nbytes.toNat dev h₀ := by
  unfold DeviceNDArray.copyToHost
  rcases d.copyTarget_cases a with ⟨htarget, _⟩ | ⟨⟨e, htarget⟩, _⟩ <;> rw [htarget]
  case inr => exact .throw (stable_memoryEnv _) nofun
  refine (triple_hipAttr_unchanged (stable_memoryEnv _) fun _ _ _ hh => hh).andThen
    (fun _ _ _ ⟨_, hx⟩ => nomatch hx) fun _ => ?_
  cases hn : d.nbytes.cSizeT with
  | error e => exact .throw (stable_memoryEnv _) nofun
  | ok nbytes =>
    show Triple _ _ (perform (.hipMemcpy a.data (devicePointer d) nbytes
      hipMemcpyDeviceToHost) >>= _) _
    refine .bind (R := fun status s => status = hipSuccess →
      s.host = Strided.write a.data.toNat nbytes.toNat dev h₀) (.perform (stable_memoryEnv _)
      (fun _ => stable_memoryEnv _) fun s status s' hs hh hstatus => ?_) fun status => ?_
    · rw [hh hstatus, hs.1, hs.2]
    refine .bind (R := fun _ s => s.host = Strided.write a.data.toNat nbytes.toNat dev h₀)
      (triple_checkHip (stable_memoryEnv _) (fun hok s hs => hs hok) nofun) fun _ => ?_
    exact .ret (stable_memoryEnv _) fun s hs _ => ⟨nbytes, rfl, hs⟩

/-- A byte count that `c_size_t` refuses is found out before anything is written. -/
theorem triple_copyToHost_refused {d : DeviceNDArray} {e : PyError}
    (hnbytes : d.nbytes.cSizeT = .error e) :
    Triple (memoryEnv out) (fun s => s.host = h₀) (d.copyToHost (some a)) fun r s =>
      (∃ e, r = .error e) ∧ s.host = h₀ := by
  unfold DeviceNDArray.copyToHost
  rw [hnbytes]
  rcases d.copyTarget_cases a with ⟨htarget, _⟩ | ⟨⟨e, htarget⟩, _⟩ <;> rw [htarget]
  case inr => exact .throw (stable_memoryEnv _) fun s hs => ⟨⟨_, rfl⟩, hs⟩
  exact (triple_hipAttr_unchanged (stable_memoryEnv _) fun _ _ _ hh => hh).andThen
    (fun e s hs => ⟨⟨e, rfl⟩, hs⟩) fun _ => .throw (stable_memoryEnv _) fun s hs => ⟨⟨_, rfl⟩, hs⟩

/-- The bytes of a whole array of a supported type fit in a machine word. -/
theorem toNat_ofInt_count {w k : Nat} (ha : a.WellFormed) (hw : w = a.dtype.itemsize)
    (hk : k ≤ a.size) : (BitVec.ofInt 64 (w * (k : Int))).toNat = w * k := by
  have hle : w * k ≤ a.size * a.dtype.itemsize := by
    rw [hw, Nat.mul_comm]
    exact Nat.mul_le_mul_right _ hk
  have hlt : w * k < 2 ^ 63 := Nat.lt_of_le_of_lt hle ha.2
  have hcast : (w * (k : Int)) = ((w * k : Nat) : Int) := by push_cast; rfl
  rw [hcast, BitVec.ofInt_natCast, BitVec.toNat_ofNat, Nat.mod_eq_of_lt (by omega)]

theorem count_lt (ha : a.WellFormed) (hpos : 0 < a.dtype.itemsize) (hn : n ≤ a.size) :
    n < 2 ^ 63 := by
  have hsize : a.size ≤ a.size * a.dtype.itemsize := Nat.le_mul_of_pos_right _ hpos
  have := ha.2
  omega

theorem toNat_count (ha : a.WellFormed) (hpos : 0 < a.dtype.itemsize) (hn : n ≤ a.size) :
    (BitVec.ofInt 64 (n : Int)).toNat = n := by
  have := count_lt ha hpos hn
  rw [BitVec.ofInt_natCast, BitVec.toNat_ofNat, Nat.mod_eq_of_lt (by omega)]

/-- The size of a request is that of the array or one that is not above it. -/
theorem requestedSize_countOf {size : Option Int} (hsize : ∀ k ∈ size, 0 ≤ k ∧ k ≤ a.size) :
    requestedSize (.ndarray a) size = .ok (.int (countOf a size)) := by
  cases size with
  | none => rfl
  | some k =>
    obtain ⟨hpos, hle⟩ := hsize k rfl
    calc
      requestedSize (.ndarray a) (some k) = .ok (.int k) := requestedSize_of_le hle
      _ = .ok (.int (countOf a (some k))) := by rw [countOf, Int.toNat_of_nonneg hpos]

theorem countOf_le {size : Option Int} (hsize : ∀ k ∈ size, 0 ≤ k ∧ k ≤ a.size) :
    countOf a size ≤ a.size := by
  cases size with
  | none => exact Nat.le_refl _
  | some k =>
    obtain ⟨hpos, hle⟩ := hsize k rfl
    show k.toNat ≤ a.size
    omega

/-- The call is the last one of a host-side request and puts the values in place. -/
theorem triple_generateHost_written {rng : RNG} {size : Option Int}
    (hreq : requestedSize (.ndarray a) size = .ok (.int n))
    (hn : (BitVec.ofInt 64 (n : Int)).toNat = n) :
    Triple (memoryEnv out) (fun s => s.host = h₀) (rng.generateHost func (.ndarray a) size args)
      fun r s => (∃ x, r = .ok x) →
        s.host = Strided.write a.data.toNat (n * func.width) (Strided.flatten func.width out) h₀ := by
  unfold RNG.generateHost
  rw [hreq]
  show Triple _ _ (perform (.generate func rng.gen (.host a.data) (BitVec.ofInt 64 n) args) >>= _) _
  refine .bind (R := fun status s => status = HIPRAND_STATUS_SUCCESS →
    s.host = Strided.write a.data.toNat (n * func.width) (Strided.flatten func.width out) h₀)
    (.perform (stable_memoryEnv _) (fun _ => stable_memoryEnv _) fun s status s' hs hh hok => ?_)
    fun status => ?_
  · rw [hh hok, hn]
    subst hs
    rfl
  · exact triple_checkHiprand (stable_memoryEnv _) (fun hok s hs _ => hs hok) nofun

/-- The temporary array for a NumPy array, and that the result goes there. -/
theorem triple_deviceBuffer_keepsHost :
    Triple (memoryEnv out) (fun s => s.host = h₀) (deviceBuffer (.ndarray a) (.int n)) fun r s =>
      match r with
      | .ok p => (p.2 = some a ∧ p.1.nbytes = (npProd [(n : Int)]).scale a.dtype.itemsize) ∧
          s.host = h₀
      | .error _ => True :=
  triple_empty_keepsHost.andThen (fun _ _ _ => trivial) fun d => .ret (stable_memoryEnv _)
    fun _ h => ⟨⟨rfl, (h.2 d rfl).2.2⟩, h.1⟩

/-- A device-side request writes to a temporary array and copies that. -/
theorem triple_generateDevice_written {rng : RNG} {size : Option Int}
    (hreq : requestedSize (.ndarray a) size = .ok (.int n)) (hw : func.width = a.dtype.itemsize)
    (hn : (BitVec.ofInt 64 (n : Int)).toNat = n)
    (hbytes : (BitVec.ofInt 64 (a.dtype.itemsize * (n : Int))).toNat = a.dtype.itemsize * n) :
    Triple (memoryEnv out) (fun s => s.host = h₀) (rng.generateDevice func (.ndarray a) size args)
      fun r s => (∃ x, r = .ok x) →
        s.host = Strided.write a.data.toNat (n * func.width) (Strided.flatten func.width out) h₀ := by
  unfold RNG.generateDevice
  rw [hreq]
  refine triple_deviceBuffer_keepsHost.andThen (fun _ _ _ ⟨_, hx⟩ => nomatch hx) ?_
  rintro ⟨d, copyTo⟩
  refine .assuming ?_
  rintro ⟨rfl, hnbytes⟩
  show Triple _ _ (perform (.generate func rng.gen (.device (devicePointer d)) (BitVec.ofInt 64 n)
    args) >>= _) _
  -- after the generation the first bytes of the temporary array are those of the values
  refine .bind (R := fun status s => status = HIPRAND_STATUS_SUCCESS → s.host = h₀ ∧
    ∀ j < n * func.width, s.device (devicePointer d) j = Strided.flatten func.width out j)
    (.perform (stable_memoryEnv _) (fun _ => stable_memoryEnv _) fun s status s' hs hh hok => ?_)
    fun status => ?_
  · rw [hh hok, hn]
    refine ⟨hs, fun j hj => ?_⟩
    show Function.update s.device _ _ (devicePointer d) j = _
    rw [Function.update_self, if_pos hj]
  refine .bind (R := fun _ s => s.host = h₀ ∧
    ∀ j < n * func.width, s.device (devicePointer d) j = Strided.flatten func.width out j)
    (triple_checkHiprand (stable_memoryEnv _) (fun hok s hs => hs hok) nofun) fun _ => ?_
  refine .bind (R := fun _ s => s.host =
    Strided.write a.data.toNat (n * func.width) (Strided.flatten func.width out) h₀) ?_
    fun _ => .ret (stable_memoryEnv _) fun s hs _ => hs
  intro s r s' hs hrun
  have hcopied := triple_copyToHost s r s' ⟨hs.1, rfl⟩ hrun
  cases r with
  | error e => exact fun ⟨_, hx⟩ => nomatch hx
  | ok x =>
    obtain ⟨nbytes, hnb, hhost⟩ := hcopied ⟨x, rfl⟩
    rw [hnbytes, cSizeT_scale_npProd] at hnb
    obtain rfl := Except.ok.inj hnb
    show s'.host = _
    rw [hhost, hbytes, Nat.mul_comm, ← hw]
    exact Strided.write_congr hs.2

/-- What a request that returns has written, whatever the generator and the array. -/
theorem triple_call_written {m : GenMethod} {rng : RNG} {size : Option Int}
    (hm : m.Supports a.dtype) (ha : a.WellFormed) (hsize : ∀ k ∈ size, 0 ≤ k ∧ k ≤ a.size) :
    Triple (memoryEnv out) (fun s => s.host = h₀) (m.call rng (.ndarray a) size)
      fun r s => (∃ x, r = .ok x) →
        s.host = Strided.write a.data.toNat (countOf a size * a.dtype.itemsize)
          (Strided.flatten a.dtype.itemsize out) h₀ := by
  obtain ⟨⟨func, args⟩, hdisp⟩ := Option.isSome_iff_exists.mp hm
  have hw : func.width = a.dtype.itemsize := GenMethod.dispatch_width hdisp
  have hpos : 0 < a.dtype.itemsize := hw ▸ func.width_pos
  have hle := countOf_le hsize
  have hreq := requestedSize_countOf hsize
  have hn := toNat_count ha hpos hle
  rw [GenMethod.call_of_dispatch hdisp, ← hw]
  refine (triple_hiprandAttr_unchanged (stable_memoryEnv _) fun _ _ _ hh => hh).andThen
    (fun _ _ _ ⟨_, hx⟩ => nomatch hx) fun _ => ?_
  unfold RNG.generateWith
  split
  · exact triple_generateHost_written hreq hn
  · exact triple_generateDevice_written hreq hw hn (toNat_ofInt_count ha rfl hle)

end Calls

/-! ## Calls that return -/

section Returns

variable {a : NdArray} {n : Nat}

/-- Memory allows every call to succeed. -/
theorem memoryEnv_succeeding (out : Nat → Nat → Byte) (op : Op) (s : Memory) :
    ∃ s', (memoryEnv out).handle op s (succeeding op) s' := by
  cases op with
  | generate func gen output n args => exact ⟨_, fun _ => rfl⟩
  | hipMemcpy dst src nbytes kind => exact ⟨_, fun _ => rfl⟩
  | _ => exact ⟨s, rfl⟩

theorem succeeding_empty (n : Nat) (dtype : Dtype) :
    ∃ d, (observe succeeding (empty (.int n) dtype)).1 = .ok d ∧ d.dtype = dtype ∧
      d.size = npProd [(n : Int)] ∧ d.nbytes = (npProd [(n : Int)]).scale dtype.itemsize := by
  refine ⟨⟨0, [n], dtype, npProd [n], (npProd [n]).scale dtype.itemsize, ⟨0, ⟨0, 65536⟩⟩⟩, ?_,
    by simp only [and_self]⟩
  unfold empty DeviceNDArray.init MemoryPointer.init
  simp only [ShapeArg.toTuple]
  rw [cSizeT_scale_npProd]
  rfl

/-- Nothing but its two checks keeps `copy_to_host` from returning. -/
theorem succeeding_copyToHost {d : DeviceNDArray} {nbytes : CSize} (hdtype : d.dtype = a.dtype)
    (hsize : d.size.value ≤ a.size) (hnbytes : d.nbytes.cSizeT = .ok nbytes) :
    (observe succeeding (d.copyToHost (some a))).1 = .ok a := by
  have htarget := (d.copyTarget_cases a).resolve_right fun hno => hno.2 ⟨hdtype, hsize⟩
  unfold DeviceNDArray.copyToHost
  rw [htarget.1, hnbytes]
  rfl

theorem succeeding_call {m : GenMethod} {rng : RNG} {size : Option Int} (hm : m.Supports a.dtype)
    (hsize : ∀ k ∈ size, 0 ≤ k ∧ k ≤ a.size) :
    (observe succeeding (m.call rng (.ndarray a) size)).1 = .ok () := by
  obtain ⟨⟨func, args⟩, hdisp⟩ := Option.isSome_iff_exists.mp hm
  rw [GenMethod.call_of_dispatch hdisp]
  refine (observe_bind_ok (a := ()) rfl _).trans ?_
  unfold RNG.generateWith
  split
  · unfold RNG.generateHost
    rw [requestedSize_countOf hsize]
    rfl
  · unfold RNG.generateDevice
    rw [requestedSize_countOf hsize]
    obtain ⟨d, hd, hdtype, hdsize, hdnbytes⟩ := succeeding_empty (countOf a size) a.dtype
    have hbuffer : (observe succeeding (deviceBuffer (.ndarray a) (.int (countOf a size)))).1 =
        .ok (d, some a) := observe_bind_ok hd _
    refine (observe_bind_ok hbuffer _).trans ?_
    have hcopy : (observe succeeding (d.copyToHost (some a))).1 = .ok a := by
      refine succeeding_copyToHost hdtype ?_ (hdnbytes ▸ cSizeT_scale_npProd _ _)
      rw [hdsize, value_npProd_singleton]
      exact_mod_cast countOf_le hsize
    exact observe_bind_ok hcopy _

end Returns

/-! ## When the law holds -/

section Law

variable {m : GenMethod} {rng : RNG} {a : NdArray} {size : Option Int} {d : DeviceNDArray}

/-- Where the elements are in place, what was written is what the law asks for. -/
theorem laidOut_of_startsWith {α : Type} {n : Nat} {vals : Nat → Nat → Byte} {s s' : Memory}
    {r : Except PyError α} (hw : 0 < a.dtype.itemsize) (h : a.StartsWith n)
    (hwritten : (∃ x, r = .ok x) → s'.host = Strided.write a.data.toNat (n * a.dtype.itemsize)
      (Strided.flatten a.dtype.itemsize vals) s.host) : LaidOut a n vals s r s' := by
  refine ⟨fun hr => ?_, fun hnot => absurd (h.storable hw) hnot⟩
  rw [hwritten hr]
  exact h.stores hw vals s.host

theorem itemsize_pos (hm : m.Supports a.dtype) : 0 < a.dtype.itemsize := by
  obtain ⟨⟨func, args⟩, hdisp⟩ := Option.isSome_iff_exists.mp hm
  exact GenMethod.dispatch_width hdisp ▸ func.width_pos

/-- The law of a generating method holds exactly if the array starts with the requested
elements. -/
theorem generateLaw_iff (hm : m.Supports a.dtype) (ha : a.WellFormed)
    (hsize : ∀ k ∈ size, 0 ≤ k ∧ k ≤ a.size) :
    GenerateLaw m rng a size ↔ a.StartsWith (countOf a size) := by
  have hw := itemsize_pos hm
  constructor
  · intro hlaw
    refine Strided.PrefixContiguous.of_stores (B := Byte) hw fun vals mem => ?_
    obtain ⟨s', hrun⟩ := exists_runs_observe (memoryEnv_succeeding vals)
      (m.call rng (.ndarray a) size) ⟨mem, fun _ _ => 0⟩
    rw [succeeding_call hm hsize] at hrun
    have hstores := (hlaw _ _ _ _ hrun).1 ⟨(), rfl⟩
    rwa [triple_call_written hm ha hsize _ _ _ rfl hrun ⟨(), rfl⟩] at hstores
  · intro h out s r s' hrun
    exact laidOut_of_startsWith hw h (triple_call_written hm ha hsize _ _ _ rfl hrun)

/-- The law of a generating method for C-contiguous arrays. -/
theorem generateLaw_of_cContiguous (hm : m.Supports a.dtype) (ha : a.WellFormed)
    (hsize : ∀ k ∈ size, 0 ≤ k ∧ k ≤ a.size) (hc : a.CContiguous) : GenerateLaw m rng a size :=
  (generateLaw_iff hm ha hsize).mpr (hc.prefixContiguous (countOf_le hsize))

/-- A device array as its constructor makes it. -/
def DeviceNDArray.Built (d : DeviceNDArray) : Prop :=
  d.size = npProd d.shape ∧ d.nbytes = d.size.scale d.dtype.itemsize

/-- The byte count of a device array that is not larger than the NumPy array. -/
theorem DeviceNDArray.Built.nbytes_eq (hd : d.Built)
    (hcount : d.size.cSizeT = .ok (BitVec.ofInt 64 d.shape.prod)) (hdtype : d.dtype = a.dtype)
    (ha : a.WellFormed) (hw : 0 < a.dtype.itemsize) (hpos : 0 ≤ d.size.value)
    (hle : d.size.value ≤ a.size) :
    ∃ nbytes, d.nbytes.cSizeT = .ok nbytes ∧
      nbytes.toNat = d.size.value.toNat * a.dtype.itemsize := by
  refine ⟨_, hd.2 ▸ PyNum.cSizeT_scale hcount _, ?_⟩
  have hlt := count_lt ha hw (Int.toNat_le.mpr hle)
  have hn : (BitVec.ofInt 64 d.shape.prod).toNat = d.size.value.toNat := by
    have hval := (PyNum.cSizeT_toNat_eq_iff hcount (by omega)).mpr hpos
    omega
  have hbytes : a.dtype.itemsize * d.size.value.toNat < 2 ^ 64 := by
    have hmul : d.size.value.toNat * a.dtype.itemsize ≤ a.size * a.dtype.itemsize :=
      Nat.mul_le_mul_right _ (Int.toNat_le.mpr hle)
    have := ha.2
    rw [Nat.mul_comm]
    omega
  rw [BitVec.toNat_mul, hn, hdtype, BitVec.toNat_ofNat, Nat.mod_mul_mod, Nat.mod_eq_of_lt hbytes,
    Nat.mul_comm]

/-- Nothing is copied if the size is a float, as that of the shape `()` is. -/
theorem copyLaw_of_float (hd : d.Built) {value : Int} (hfloat : d.size = .float64 value) :
    CopyLaw d a := by
  have hrefused : ∃ e, d.nbytes.cSizeT = .error e := by
    rw [hd.2, hfloat]
    exact ⟨_, rfl⟩
  obtain ⟨_, hrefused⟩ := hrefused
  intro out s r s' hrun
  obtain ⟨⟨e, rfl⟩, hhost⟩ := triple_copyToHost_refused hrefused s r s' rfl hrun
  exact ⟨nofun, fun _ => ⟨⟨e, rfl⟩, hhost⟩⟩

/-- A product that a dimension of at least `2 ^ 63` divides is zero if it is a size. -/
theorem prod_eq_zero_of_le {shape : List Int} {dim : Int} (hdim : dim ∈ shape)
    (hbig : 2 ^ 63 ≤ dim) (hpos : 0 ≤ shape.prod) (hlt : shape.prod < 2 ^ 63) :
    shape.prod = 0 := by
  by_contra hne
  have hle := Int.le_of_dvd (lt_of_le_of_ne hpos (Ne.symm hne)) (List.dvd_prod hdim)
  omega

/-- A copy that returns has written the bytes of the device array, as elements. -/
theorem copyToHost_written {nbytes : CSize} {w n : Nat} (hnb : d.nbytes.cSizeT = .ok nbytes)
    (hlen : nbytes.toNat = n * w) {out : Nat → Nat → Byte} {s s' : Memory}
    {r : Except PyError NdArray} (hrun : Runs (memoryEnv out) (d.copyToHost (some a)) s r s')
    (hr : ∃ x, r = .ok x) :
    s'.host = Strided.write a.data.toNat (n * w)
      (Strided.flatten w fun i b => s.device (devicePointer d) (i * w + b)) s.host := by
  obtain ⟨nbytes', hnb', hhost⟩ := triple_copyToHost s r s' ⟨rfl, rfl⟩ hrun hr
  obtain rfl : nbytes = nbytes' := Except.ok.inj (hnb.symm.trans hnb')
  rw [hhost, hlen]
  refine Strided.write_congr fun j _ => ?_
  show _ = s.device (devicePointer d) (j / w * w + j % w)
  rw [Nat.div_add_mod']

/-- The law of `copy_to_host` holds exactly if the array starts with as many elements as
the device array has, or this has the shape `()`, of which the size is a float. -/
theorem copyLaw_iff (hd : d.Built) (hdtype : d.dtype = a.dtype) (hw : 0 < a.dtype.itemsize)
    (ha : a.WellFormed) (hpos : 0 ≤ d.size.value) (hle : d.size.value ≤ a.size) :
    CopyLaw d a ↔ d.shape = [] ∨ a.StartsWith d.size.value.toNat := by
  by_cases hshape : d.shape = []
  · have hone : d.size = .float64 1 := by rw [hd.1, hshape]; rfl
    exact iff_of_true (copyLaw_of_float hd hone) (.inl hshape)
  rcases cSizeT_npProd_cases hshape with hcount | ⟨hfloat, dim, hdim, hbig⟩
  case inr =>
    rw [← hd.1] at hfloat
    have hlt := count_lt ha hw (Int.toNat_le.mpr hle)
    have hzero : d.size.value = 0 := by
      rw [hfloat] at hpos hlt ⊢
      have hpos' : 0 ≤ d.shape.prod := hpos
      have hlt' : d.shape.prod.toNat < 2 ^ 63 := hlt
      exact prod_eq_zero_of_le hdim hbig hpos' (by omega)
    refine iff_of_true (copyLaw_of_float hd hfloat) (.inr ?_)
    rw [hzero]
    exact .zero
  rw [← hd.1] at hcount
  obtain ⟨nbytes, hnb, hlen⟩ := hd.nbytes_eq hcount hdtype ha hw hpos hle
  constructor
  · intro hlaw
    refine .inr (Strided.PrefixContiguous.of_stores (B := Byte) hw fun vals mem => ?_)
    -- a device array that holds these values
    let s : Memory := ⟨mem, fun _ => Strided.flatten a.dtype.itemsize vals⟩
    have hvals : ∀ i, ∀ b < a.dtype.itemsize,
        s.device (devicePointer d) (i * a.dtype.itemsize + b) = vals i b :=
      fun i b hb => Strided.flatten_apply hb
    obtain ⟨s', hrun⟩ := exists_runs_observe (memoryEnv_succeeding vals) (d.copyToHost (some a)) s
    rw [succeeding_copyToHost hdtype hle hnb] at hrun
    have hstores := (hlaw _ _ _ _ hrun).1 ⟨a, rfl⟩
    rw [copyToHost_written hnb hlen hrun ⟨a, rfl⟩] at hstores
    have hbytes : Strided.write a.data.toNat (d.size.value.toNat * a.dtype.itemsize)
        (fun j => s.device (devicePointer d) (j / a.dtype.itemsize * a.dtype.itemsize +
          j % a.dtype.itemsize)) mem =
        Strided.write a.data.toNat (d.size.value.toNat * a.dtype.itemsize)
          (fun j => vals (j / a.dtype.itemsize) (j % a.dtype.itemsize)) mem :=
      Strided.write_congr fun j _ => hvals (j / a.dtype.itemsize) _ (Nat.mod_lt j hw)
    exact hbytes ▸ hstores.congr hvals
  · intro h out s r s' hrun
    exact laidOut_of_startsWith hw (h.resolve_left hshape) (copyToHost_written hnb hlen hrun)

end Law

/-- When the values land where they should: for a generating method exactly if the array
starts with the requested elements in C order, for `copy_to_host` exactly if it starts
with as many elements as the device array has (or the copy is refused for the shape
`()`). -/
theorem values_land_in_place_iff (a : NdArray) (ha : a.WellFormed) :
    (∀ (m : GenMethod) (rng : RNG) (size : Option Int), m.Supports a.dtype →
      (∀ k ∈ size, 0 ≤ k ∧ k ≤ a.size) →
      (GenerateLaw m rng a size ↔ a.StartsWith (countOf a size))) ∧
    ∀ d : DeviceNDArray, d.Built → d.dtype = a.dtype → 0 < a.dtype.itemsize →
      0 ≤ d.size.value → d.size.value ≤ a.size →
      (CopyLaw d a ↔ d.shape = [] ∨ a.StartsWith d.size.value.toNat) := by
  constructor
  · intro m rng size hm hsize
    exact generateLaw_iff hm ha hsize
  · intro d hd hdtype hw hpos hle
    exact copyLaw_iff hd hdtype hw ha hpos hle

/-- Four 32-bit integers, and every second one of them. -/
def fourUint32 : NdArray where
  dtype := .uint32
  shape := [4]
  strides := [4]
  data := 4096

def everySecond : NdArray where
  dtype := .uint32
  shape := [2]
  strides := [8]
  data := 4096

def someRng (isHost : Bool) : RNG where
  id := 1
  gen := 0
  isHost := isHost

def threeOnDevice : DeviceNDArray where
  id := 2
  shape := [3]
  dtype := .uint32
  size := npProd [3]
  nbytes := (npProd [3]).scale 4
  data := ⟨3, ⟨0, 65536⟩⟩

theorem fourUint32_startsWith : fourUint32.StartsWith 3 := by
  have hcontiguous : fourUint32.CContiguous := ⟨.inr rfl, trivial⟩
  exact hcontiguous.prefixContiguous (by decide)

theorem values_land_in_fourUint32 :
    GenerateLaw .generate (someRng true) fourUint32 (some 3) ∧ CopyLaw threeOnDevice fourUint32 := by
  have ha : fourUint32.WellFormed := ⟨rfl, by decide⟩
  have hlaws := values_land_in_place_iff fourUint32 ha
  exact ⟨(hlaws.1 .generate (someRng true) (some 3) (by decide) (by decide)).mpr
      fourUint32_startsWith,
    (hlaws.2 threeOnDevice ⟨rfl, rfl⟩ rfl (by decide) (by decide) (by decide)).mpr
      (.inr fourUint32_startsWith)⟩

/-- The second of these elements is not where the second value goes. -/
theorem not_startsWith_everySecond : ¬ everySecond.StartsWith 2 := by
  intro h
  have helt := h.elements 1 (by decide)
  exact absurd helt (by decide)

/-- `gen.generate(a[::2])` returns normally, on both kinds of generators, and does not
leave the values in the elements of the view. -/
theorem strided_view_misplaced :
    everySecond.WellFormed ∧ ∀ isHost, ¬ GenerateLaw .generate (someRng isHost) everySecond none := by
  refine ⟨⟨rfl, by decide⟩, ?_⟩
  intro isHost hlaw
  have hstarts := (generateLaw_iff (by decide) ⟨rfl, by decide⟩ (by simp)).mp hlaw
  exact not_startsWith_everySecond hstarts

end HipRand.Py
