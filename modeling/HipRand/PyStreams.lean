import HipRand.PyLayout
import HipRand.PyLifetime
import Mathlib.Data.Fintype.EquivFin

/-!
# The order of generation and copy

A device-side generator enqueues a kernel on its stream, and the array of a
generating call is then filled by a plain `hipMemcpy`. The device runs the kernels of
one stream in order, and a copy waits for those of the default stream and of the
blocking streams, but not for those of a stream that was created non-blocking;
`hipFree` is taken to wait for all of them. Between any two calls the device may run
whatever kernel is next in its stream. A kernel is taken to stay in the buffer that it
was given. The finalizers run between the calls of the client.

Results:
1. `triple_generatingCall`: a call that returns has launched one kernel, and if its
   stream is not a non-blocking one the array has the bytes of that kernel from its
   base pointer on.
2. `exists_undelivered`: where the stream is a non-blocking one, where the elements of the
   array do not follow each other, or where the size wraps around, a call may return
   without the values of its kernel.
3. `calls_deliver`: in every run without such calls, each call delivers its values, and the
   next one does exactly if it is not such a call either.
4. `stale_copy`: on a non-blocking stream a call can return with the bytes from before
   its kernel ran.
-/

namespace HipRand.Py

open Interaction Transition

/-! ## Streams and kernels -/

/-- The streams that were created non-blocking, which the default one is not, and the
handle that a callee reads from an `int`. -/
structure Streams where
  nonBlocking : Pointer → Bool
  default_blocking : nonBlocking 0 = false
  widen : BitVec 32 → Pointer

/-- A generation that was launched: it writes `bytes` to the first `len` bytes. -/
structure Kernel where
  stream : Pointer
  ptr : DevPtr
  len : Nat
  bytes : Nat → Byte

def Kernel.run (k : Kernel) (memory : DevPtr → Nat → Byte) : DevPtr → Nat → Byte :=
  Function.update memory k.ptr fun j => if j < k.len then k.bytes j else memory k.ptr j

/-- `later` has to wait for `earlier`: they are in one stream, or one is in the default
stream and the other in a blocking one. -/
def Streams.Waits (st : Streams) (later earlier : Kernel) : Prop :=
  later.stream = earlier.stream ∨
  (later.stream = 0 ∧ st.nonBlocking earlier.stream = false) ∨
  (earlier.stream = 0 ∧ st.nonBlocking later.stream = false)

/-- Host memory, device memory with its live allocations, the kernels that have not run
yet and all that were launched, and the stream of each generator. -/
structure Device where
  host : Int → Byte
  memory : DevPtr → Nat → Byte
  live : List DevPtr
  pending : List Kernel
  launched : List Kernel
  streamOf : Generator → Pointer

namespace Device

def launch (s : Device) (k : Kernel) : Device :=
  { s with pending := s.pending ++ [k], launched := s.launched ++ [k] }

def memcpy (s : Device) (dst : Pointer) (src : DevPtr) (nbytes : CSize) : Device :=
  { s with host := Strided.write dst.toNat nbytes.toNat (s.memory src) s.host }

/-- The device runs a kernel that has to wait for no other one. -/
def RunsKernel (st : Streams) (s s' : Device) : Prop :=
  ∃ before k after, s.pending = before ++ k :: after ∧ (∀ e ∈ before, ¬ st.Waits k e) ∧
    s' = { s with pending := before ++ after, memory := k.run s.memory }

/-- Kernels that have not run yet write to live allocations. -/
def Sound (s : Device) : Prop :=
  ∀ k ∈ s.pending, k.ptr ∈ s.live

end Device

/-- The calls of the package against a device that works by itself. -/
def streamEnv (st : Streams) : Env pySig Device where
  handle
    | .hipMalloc _, s, (status, ptr), s' =>
      if status = hipSuccess then ptr ∉ s.live ∧ s' = { s with live := ptr :: s.live }
      else s' = s
    | .hipFree ptr, s, status, s' =>
      if status = hipSuccess then
        s.pending = [] ∧ s' = { s with live := s.live.filter (· ≠ ptr) }
      else s' = s
    | .generate func gen (.device ptr) n _, s, status, s' =>
      if status = HIPRAND_STATUS_SUCCESS then
        ∃ bytes, s' = s.launch ⟨s.streamOf gen, ptr, n.toNat * func.width, bytes⟩
      else s' = s
    | .generate _ _ (.host _) _ _, s, _, s' => ∃ host, s' = { s with host := host }
    | .hipMemcpy dst src nbytes _, s, status, s' =>
      if status = hipSuccess then
        (∀ k ∈ s.pending, st.nonBlocking k.stream = true) ∧ s' = s.memcpy dst src nbytes
      else ∃ host, s' = { s with host := host }
    | .createGenerator _ _, s, (status, gen), s' =>
      if status = HIPRAND_STATUS_SUCCESS then
        s' = { s with streamOf := Function.update s.streamOf gen 0 }
      else s' = s
    | .set gen (.stream stream), s, status, s' =>
      if status = HIPRAND_STATUS_SUCCESS then
        s' = { s with streamOf := Function.update s.streamOf gen (stream.handle st.widen) }
      else s' = s
    | .hipStreamSynchronize stream, s, status, s' =>
      (status = hipSuccess → ∀ k ∈ s.pending, k.stream ≠ stream.handle st.widen) ∧ s' = s
    | _, s, _, s' => s' = s
  rely := Device.RunsKernel st

section Handle

variable {st : Streams} {s s' : Device} {gen : Generator} {ptr : DevPtr} {status : Int}

theorem hipMalloc_iff {nbytes : CSize} :
    (streamEnv st).handle (.hipMalloc nbytes) s (status, ptr) s' ↔
      (status = hipSuccess ∧ ptr ∉ s.live ∧ s' = { s with live := ptr :: s.live }) ∨
      (¬ status = hipSuccess ∧ s' = s) :=
  ite_prop_iff_or

theorem hipFree_iff :
    (streamEnv st).handle (.hipFree ptr) s status s' ↔
      (status = hipSuccess ∧ s.pending = [] ∧ s' = { s with live := s.live.filter (· ≠ ptr) }) ∨
      (¬ status = hipSuccess ∧ s' = s) :=
  ite_prop_iff_or

theorem generate_iff {func : GenFunc} {n : CSize} {args : List FloatArg} :
    (streamEnv st).handle (.generate func gen (.device ptr) n args) s status s' ↔
      (status = HIPRAND_STATUS_SUCCESS ∧
        ∃ bytes, s' = s.launch ⟨s.streamOf gen, ptr, n.toNat * func.width, bytes⟩) ∨
      (¬ status = HIPRAND_STATUS_SUCCESS ∧ s' = s) :=
  ite_prop_iff_or

theorem hipMemcpy_iff {dst : Pointer} {nbytes : CSize} {kind : Int} :
    (streamEnv st).handle (.hipMemcpy dst ptr nbytes kind) s status s' ↔
      (status = hipSuccess ∧ (∀ k ∈ s.pending, st.nonBlocking k.stream = true) ∧
        s' = s.memcpy dst ptr nbytes) ∨
      (¬ status = hipSuccess ∧ ∃ host, s' = { s with host := host }) :=
  ite_prop_iff_or

theorem createGenerator_iff {isHost : Bool} {rngtype : CArg} :
    (streamEnv st).handle (.createGenerator isHost rngtype) s (status, gen) s' ↔
      (status = HIPRAND_STATUS_SUCCESS ∧
        s' = { s with streamOf := Function.update s.streamOf gen 0 }) ∨
      (¬ status = HIPRAND_STATUS_SUCCESS ∧ s' = s) :=
  ite_prop_iff_or

theorem setStream_iff {stream : CArg} :
    (streamEnv st).handle (.set gen (.stream stream)) s status s' ↔
      (status = HIPRAND_STATUS_SUCCESS ∧
        s' = { s with streamOf := Function.update s.streamOf gen (stream.handle st.widen) }) ∨
      (¬ status = HIPRAND_STATUS_SUCCESS ∧ s' = s) :=
  ite_prop_iff_or

end Handle

/-! ## What the device keeps by itself -/

section Stability

variable {st : Streams} {gen : Generator} {stream : Pointer} {before : List Kernel} {ptr : DevPtr}
  {len : Nat} {k : Kernel} {host : Int → Byte}

/-- What running a kernel changes. -/
theorem Device.RunsKernel.spec {s s' : Device} (h : s.RunsKernel st s') :
    ∃ x ∈ s.pending, s'.memory = x.run s.memory ∧ s'.host = s.host ∧ s'.live = s.live ∧
      s'.launched = s.launched ∧ s'.streamOf = s.streamOf ∧
      (∀ e ∈ s'.pending, e ∈ s.pending) ∧ ∀ e ∈ s.pending, e = x ∨ e ∈ s'.pending := by
  obtain ⟨front, x, back, hpending, _, rfl⟩ := h
  refine ⟨x, by simp [hpending], rfl, rfl, rfl, rfl, rfl, ?_, ?_⟩
  · intro e he
    rw [hpending]
    simp only [List.mem_append, List.mem_cons] at he ⊢
    tauto
  · intro e he
    rw [hpending] at he
    simp only [List.mem_append, List.mem_cons] at he ⊢
    tauto

theorem stable_sound : Stable (streamEnv st) Device.Sound := by
  intro s s' h hrely
  obtain ⟨x, _, _, _, hlive, _, _, hsub, _⟩ := hrely.spec
  intro e he
  rw [hlive]
  exact h e (hsub e he)

/-- Before the launch of a call: the stream of the generator, and the kernels launched
so far. -/
structure Ready (gen : Generator) (stream : Pointer) (before : List Kernel) (s : Device) :
    Prop where
  sound : s.Sound
  stream : s.streamOf gen = stream
  launched : s.launched = before

theorem stable_ready : Stable (streamEnv st) (Ready gen stream before) := by
  intro s s' h hrely
  obtain ⟨x, _, _, _, _, hlaunched, hstream, _, _⟩ := hrely.spec
  exact ⟨stable_sound s s' h.sound hrely, hstream ▸ h.stream, hlaunched ▸ h.launched⟩

/-- The buffer of the call has been allocated, and no kernel writes to it. -/
structure Reserved (gen : Generator) (stream : Pointer) (before : List Kernel) (ptr : DevPtr)
    (s : Device) : Prop extends Ready gen stream before s where
  live : ptr ∈ s.live
  unused : ∀ e ∈ s.pending, e.ptr ≠ ptr

theorem stable_reserved : Stable (streamEnv st) (Reserved gen stream before ptr) := by
  intro s s' h hrely
  obtain ⟨x, _, _, _, hlive, _, _, hsub, _⟩ := hrely.spec
  exact ⟨stable_ready s s' h.toReady hrely, hlive ▸ h.live, fun e he => h.unused e (hsub e he)⟩

/-- The kernel `k` of the call has been launched; it is pending or has written its bytes. -/
structure Launched (stream : Pointer) (before : List Kernel) (ptr : DevPtr) (len : Nat)
    (k : Kernel) (s : Device) : Prop where
  sound : s.Sound
  launched : s.launched = before ++ [k]
  stream_eq : k.stream = stream
  le_len : len ≤ k.len
  only : ∀ e ∈ s.pending, e.ptr = ptr → e = k
  ran : k ∈ s.pending ∨ ∀ j < len, s.memory ptr j = k.bytes j
  ptr_eq : k.ptr = ptr

theorem stable_launched : Stable (streamEnv st) (Launched stream before ptr len k) := by
  intro s s' h hrely
  obtain ⟨x, hx, hmemory, _, _, hlaunched, _, hsub, hrest⟩ := hrely.spec
  refine ⟨stable_sound s s' h.sound hrely, hlaunched ▸ h.launched, h.stream_eq, h.le_len,
    fun e he => h.only e (hsub e he), ?_, h.ptr_eq⟩
  rw [hmemory]
  by_cases hxk : x = k
  · subst hxk
    right
    intro j hj
    rw [← h.ptr_eq]
    simp [Kernel.run, Nat.lt_of_lt_of_le hj h.le_len]
  · have hother : ptr ≠ x.ptr := fun heq => hxk (h.only x hx heq.symm)
    rcases h.ran with hmem | hran
    · left
      exact (hrest k hmem).resolve_left (Ne.symm hxk)
    · right
      intro j hj
      rw [Kernel.run, Function.update_of_ne hother]
      exact hran j hj

theorem stable_someLaunched :
    Stable (streamEnv st) fun s => ∃ k, Launched stream before ptr len k s :=
  fun s s' ⟨k, hk⟩ hrely => ⟨k, stable_launched s s' hk hrely⟩

/-- The bytes of the kernel are in the array. -/
structure Copied (before : List Kernel) (a : NdArray) (len : Nat) (s : Device) : Prop where
  sound : s.Sound
  kernel : ∃ k, s.launched = before ++ [k] ∧
    ∀ j < len, s.host (a.data.toNat + (j : Nat)) = k.bytes j

theorem stable_copied {a : NdArray} : Stable (streamEnv st) (Copied before a len) := by
  intro s s' h hrely
  obtain ⟨x, _, _, hhost, _, hlaunched, _, _, _⟩ := hrely.spec
  refine ⟨stable_sound s s' h.sound hrely, ?_⟩
  rw [hlaunched, hhost]
  exact h.kernel

/-- What holds if a call succeeded is kept with what holds in any case. -/
theorem stable_soundAnd {φ : Prop} {P : Device → Prop} (hP : Stable (streamEnv st) P) :
    Stable (streamEnv st) fun s => s.Sound ∧ (φ → P s) :=
  fun s s' h hrely => ⟨stable_sound s s' h.1 hrely, fun hφ => hP s s' (h.2 hφ) hrely⟩

end Stability

/-! ## A generating call -/

section GeneratingCall

variable {st : Streams} {gen : Generator} {stream : Pointer} {before : List Kernel}

/-- How a generating call may end: if it returns, one kernel was launched, and the array
starts with `len` of its bytes. -/
def Ends {α : Type} (before : List Kernel) (a : NdArray) (len : Nat) (r : Except PyError α)
    (s : Device) : Prop :=
  s.Sound ∧ ((∃ x, r = .ok x) → Copied before a len s)

theorem Ready.fails {α : Type} {a : NdArray} {len : Nat} {e : PyError} {s : Device}
    (h : s.Sound) : Ends before a len (.error e : Except PyError α) s :=
  ⟨h, nofun⟩

/-- A lookup changes nothing. -/
theorem triple_hipAttr_streams {P : Device → Prop} (hP : Stable (streamEnv st) P) {name : HipFn} :
    Triple (streamEnv st) P (hipAttr name) fun _ s => P s :=
  triple_hipAttr_unchanged hP fun _ _ _ hh => hh

theorem triple_hiprandAttr_streams {P : Device → Prop} (hP : Stable (streamEnv st) P)
    {name : HiprandFn} : Triple (streamEnv st) P (hiprandAttr name) fun _ s => P s :=
  triple_hiprandAttr_unchanged hP fun _ _ _ hh => hh

/-- The memory of the temporary array: no kernel that has not run yet writes to it. -/
theorem triple_memoryPointer_reserved {nbytes : PyNum} :
    Triple (streamEnv st) (Ready gen stream before) (MemoryPointer.init nbytes) fun r s =>
      match r with
      | .ok mem => Reserved gen stream before mem.ptr s
      | .error _ => s.Sound := by
  unfold MemoryPointer.init
  refine .perform_bind (R := fun _ => Ready gen stream before) stable_ready ?_ fun self => ?_
  · intro s ans s' hs hh
    obtain rfl : s' = s := hh
    exact hs
  refine (triple_hipAttr_streams stable_ready).andThen (fun _ s hs => hs.sound) fun _ => ?_
  refine .bind (R := fun _ => Ready gen stream before) (triple_ofExcept stable_ready fun s hs => ?_)
    fun bytes => ?_
  · cases nbytes.cSizeT with
    | ok _ => exact hs
    | error _ => exact hs.sound
  refine .perform_bind (R := fun ans s => s.Sound ∧
    (ans.1 = hipSuccess → Reserved gen stream before ans.2 s)) stable_ready ?_ fun ans => ?_
  · intro s (status, ptr) s' hs hh
    rcases hipMalloc_iff.mp hh with ⟨_, hfresh, rfl⟩ | ⟨hne, rfl⟩
    · have hsound : Device.Sound { s with live := ptr :: s.live } :=
        fun e he => List.mem_cons_of_mem _ (hs.sound e he)
      refine ⟨hsound, fun _ => ⟨⟨hsound, hs.stream, hs.launched⟩, List.mem_cons_self, ?_⟩⟩
      -- a kernel that has not run yet writes to what was live before
      intro e he heq
      have hlive : e.ptr ∈ s.live := hs.sound e he
      rw [heq] at hlive
      exact hfresh hlive
    · exact ⟨hs.sound, fun hok => absurd hok hne⟩
  obtain ⟨status, ptr⟩ := ans
  refine .bind (R := fun _ => Reserved gen stream before ptr)
    (triple_checkHip (stable_soundAnd stable_reserved) (fun hok s hs => hs.2 hok)
      fun _ s hs => hs.1) fun _ => ?_
  refine .perform_bind (R := fun _ => Reserved gen stream before ptr) stable_reserved ?_ fun _ =>
    .ret stable_reserved fun _ hs => hs
  intro s ans s' hs hh
  obtain rfl : s' = s := hh
  exact hs

/-- The temporary array of a call: its buffer is reserved. -/
theorem triple_empty_reserved {v : Int} {dtype : Dtype} :
    Triple (streamEnv st) (Ready gen stream before) (empty (.int v) dtype) fun r s =>
      match r with
      | .ok d => (d.nbytes = (npProd [v]).scale dtype.itemsize) ∧
          Reserved gen stream before (devicePointer d) s
      | .error _ => s.Sound := by
  unfold empty DeviceNDArray.init
  refine .perform_bind (R := fun _ => Ready gen stream before) stable_ready ?_ fun self => ?_
  · intro s ans s' hs hh
    obtain rfl : s' = s := hh
    exact hs
  refine triple_memoryPointer_reserved.andThen (fun _ _ hs => hs) fun mem => ?_
  exact .ret stable_reserved fun s hs => ⟨rfl, hs⟩

/-- The copy waits for the kernel if its stream is not a non-blocking one. -/
theorem triple_copyToHost_copied {d : DeviceNDArray} {a : NdArray} {len : Nat} {k : Kernel}
    {nbytes : CSize} (hstream : len = 0 ∨ st.nonBlocking stream = false)
    (hnbytes : d.nbytes.cSizeT = .ok nbytes) (hlen : len ≤ nbytes.toNat) :
    Triple (streamEnv st) (Launched stream before (devicePointer d) len k) (d.copyToHost (some a))
      (Ends before a len) := by
  have hstable : Stable (streamEnv st) (Launched stream before (devicePointer d) len k) :=
    stable_launched
  unfold DeviceNDArray.copyToHost
  rcases d.copyTarget_cases a with ⟨htarget, _⟩ | ⟨⟨e, htarget⟩, _⟩ <;> rw [htarget]
  case inr => exact .throw hstable fun s hs => Ready.fails hs.sound
  refine (triple_hipAttr_streams hstable).andThen (fun _ s hs => Ready.fails hs.sound) fun _ => ?_
  rw [hnbytes]
  refine .perform_bind
    (R := fun status s => s.Sound ∧ (status = hipSuccess → Copied before a len s))
    hstable ?_ fun status => ?_
  · intro s status s' hs hh
    rcases hipMemcpy_iff.mp hh with ⟨_, hwaited, rfl⟩ | ⟨hne, host, rfl⟩
    · refine ⟨hs.sound, fun _ => ⟨hs.sound, k, hs.launched, ?_⟩⟩
      intro j hj
      -- the copy has waited for the stream of the kernel, so the kernel has run
      have hran : ∀ j < len, s.memory (devicePointer d) j = k.bytes j := by
        refine hs.ran.resolve_left fun hpending => ?_
        have hk := hwaited k hpending
        rw [hs.stream_eq, hstream.resolve_left (by omega)] at hk
        cases hk
      show Strided.write _ _ _ _ _ = _
      rw [Strided.write_of_mem (by omega), ← hran j hj]
      congr 1
      omega
    · exact ⟨hs.sound, fun hok => absurd hok hne⟩
  refine .bind (R := fun _ => Copied before a len)
    (triple_checkHip (stable_soundAnd stable_copied) (fun hok s hs => hs.2 hok)
      fun _ s hs => Ready.fails hs.1) fun _ => ?_
  exact .ret stable_copied fun s hs => ⟨hs.sound, fun _ => hs⟩

/-- The number of elements that a request asks the backend for: its size, as `c_size_t`
passes it. -/
def asked (a : NdArray) (size : Option Int) : Nat :=
  (BitVec.ofInt 64 (size.getD a.size)).toNat

/-- The bytes of so many elements, if the array has them. -/
theorem toNat_askedBytes {a : NdArray} {size : Option Int} (ha : a.WellFormed)
    (hle : asked a size ≤ a.size) :
    (BitVec.ofInt 64 (a.dtype.itemsize * size.getD a.size)).toNat =
      asked a size * a.dtype.itemsize := by
  have hmul : asked a size * a.dtype.itemsize ≤ a.size * a.dtype.itemsize :=
    Nat.mul_le_mul_right _ hle
  have hlt : a.dtype.itemsize * asked a size < 2 ^ 64 := by
    have := ha.2
    rw [Nat.mul_comm]
    omega
  rw [BitVec.ofInt_mul, BitVec.ofInt_natCast, BitVec.toNat_mul, BitVec.toNat_ofNat,
    Nat.mod_mul_mod, Nat.mul_comm (asked a size)]
  exact Nat.mod_eq_of_lt hlt

/-- The temporary array for a NumPy array, and that the result goes there. -/
theorem triple_deviceBuffer_reserved {a : NdArray} {v : Int} :
    Triple (streamEnv st) (Ready gen stream before) (deviceBuffer (.ndarray a) (.int v)) fun r s =>
      match r with
      | .ok p => (p.2 = some a ∧ p.1.nbytes = (npProd [v]).scale a.dtype.itemsize) ∧
          Reserved gen stream before (devicePointer p.1) s
      | .error _ => s.Sound :=
  triple_empty_reserved.andThen (fun _ _ hs => hs) fun _ => .assuming fun hd =>
    .ret stable_reserved fun _ hs => ⟨⟨rfl, hd⟩, hs⟩

/-- A generation function that succeeds launches one kernel, which writes `len` bytes to
the buffer at least. -/
theorem triple_generate_launched {func : GenFunc} {args : List FloatArg} {ptr : DevPtr}
    {n : CSize} {len : Nat} (hlen : len ≤ n.toNat * func.width) :
    Triple (streamEnv st) (Reserved gen stream before ptr)
      (perform (.generate func gen (.device ptr) n args)) fun r s => s.Sound ∧
        (r = .ok HIPRAND_STATUS_SUCCESS → ∃ k, Launched stream before ptr len k s) := by
  refine .perform stable_reserved (fun _ => stable_soundAnd stable_someLaunched) ?_
  intro s status s' hs hh
  rcases generate_iff.mp hh with ⟨_, bytes, rfl⟩ | ⟨hne, rfl⟩
  · have hsound : (s.launch ⟨s.streamOf gen, ptr, n.toNat * func.width, bytes⟩).Sound := by
      intro e he
      rcases List.mem_append.mp he with he | he
      · exact hs.sound e he
      · rw [List.mem_singleton.mp he]
        exact hs.live
    refine ⟨hsound, fun _ => ⟨⟨s.streamOf gen, ptr, n.toNat * func.width, bytes⟩, hsound, ?_,
      hs.stream, hlen, ?_, ?_, rfl⟩⟩
    · show s.launched ++ _ = _
      rw [hs.launched]
    · -- no other kernel writes to a buffer that is reserved
      intro e he hptr
      rcases List.mem_append.mp he with he | he
      · exact absurd hptr (hs.unused e he)
      · exact List.mem_singleton.mp he
    · exact .inl (List.mem_append_right _ (List.mem_singleton_self _))
  · exact ⟨hs.sound, fun hok => absurd (Except.ok.inj hok) hne⟩

/-- Unless it is refused, the request asks for no more elements than the array has, and its
copy waits for its kernel if there is anything to wait for. -/
def Waited (st : Streams) (stream : Pointer) (a : NdArray) (size : Option Int) : Prop :=
  (∀ k ∈ size, k ≤ a.size) →
    asked a size ≤ a.size ∧ (asked a size = 0 ∨ st.nonBlocking stream = false)

theorem triple_generateDevice_copied {rng : RNG} {func : GenFunc} {args : List FloatArg}
    {a : NdArray} {size : Option Int} (hw : func.width = a.dtype.itemsize) (ha : a.WellFormed)
    (hwaited : Waited st stream a size) :
    Triple (streamEnv st) (Ready rng.gen stream before)
      (rng.generateDevice func (.ndarray a) size args)
      (Ends before a (asked a size * a.dtype.itemsize)) := by
  unfold RNG.generateDevice
  cases hreq : requestedSize (.ndarray a) size with
  | error e => exact .throw stable_ready fun s hs => Ready.fails hs.sound
  | ok n =>
    obtain ⟨v, rfl, hle, rfl⟩ := requestedSize_ndarray hreq
    obtain ⟨hasked, hstream⟩ := hwaited fun k hk => by
      rw [Option.mem_def.mp hk] at hle
      exact hle
    have hlen : asked a size * a.dtype.itemsize ≤
        (BitVec.ofInt 64 (size.getD a.size)).toNat * func.width := by rw [hw]; rfl
    have hzero : asked a size * a.dtype.itemsize = 0 ∨ st.nonBlocking stream = false :=
      hstream.imp_left fun h0 => by rw [h0, Nat.zero_mul]
    refine triple_deviceBuffer_reserved.andThen (fun _ _ hs => Ready.fails hs) ?_
    rintro ⟨d, copyTo⟩
    refine .assuming ?_
    rintro ⟨rfl, hnbytes⟩
    refine (triple_generate_launched hlen).andThen (fun _ _ hs => Ready.fails hs.1) fun status => ?_
    refine .bind (R := fun _ s => ∃ k, Launched stream before (devicePointer d)
        (asked a size * a.dtype.itemsize) k s)
      (triple_checkHiprand (stable_soundAnd stable_someLaunched) (fun hok s hs => hs.2 (hok ▸ rfl))
        fun _ s hs => Ready.fails hs.1)
      fun _ => .choosing fun k => ?_
    refine (triple_copyToHost_copied hzero (hnbytes ▸ cSizeT_scale_npProd _ _)
      (toNat_askedBytes ha hasked).ge).andThen
      (fun _ _ hs => Ready.fails hs.1) fun x => .ret ?_ fun s hs => ⟨hs.1, fun _ => hs.2 ⟨x, rfl⟩⟩
    exact stable_soundAnd stable_copied

/-- A call of a device-side generator on a NumPy array. If it returns, one kernel was
launched and the array has its bytes, unless the stream is a non-blocking one. -/
theorem triple_generatingCall {m : GenMethod} {rng : RNG} {a : NdArray} {size : Option Int}
    (hrng : rng.isHost = false) (ha : a.WellFormed)
    (hwaited : m.Supports a.dtype → Waited st stream a size) :
    Triple (streamEnv st) (Ready rng.gen stream before) (m.call rng (.ndarray a) size)
      (Ends before a (asked a size * a.dtype.itemsize)) := by
  cases hdisp : m.dispatch a.dtype with
  | none =>
    rw [GenMethod.call_of_unsupported hdisp]
    exact .throw stable_ready fun s hs => Ready.fails hs.sound
  | some chosen =>
    obtain ⟨func, args⟩ := chosen
    rw [GenMethod.call_of_dispatch hdisp]
    refine (triple_hiprandAttr_streams stable_ready).andThen (fun _ s hs => Ready.fails hs.sound)
      fun _ => ?_
    unfold RNG.generateWith
    rw [hrng]
    exact triple_generateDevice_copied (GenMethod.dispatch_width hdisp) ha
      (hwaited (Option.isSome_of_eq_some hdisp))

end GeneratingCall

/-! ## The rest of the package -/

/-- A generating call on a NumPy array for which `needs_conversion` is true. -/
def PackageCall.NeedsConversion : PackageCall → Prop
  | client (.generating _ rng (.ndarray _) _) => rng.isHost = false
  | _ => False

/-- The device memory that a call generates into, apart from what it allocates. -/
def PackageCall.buffers : PackageCall → List DevPtr
  | client (.generating _ _ (.device dary) _) => [devicePointer dary]
  | _ => []

/-- A call of the backend that launches kernels on `buffers` only, and does not free them. -/
def StaysIn (buffers : List DevPtr) : Op → Prop
  | .generate _ _ (.device ptr) _ _ => ptr ∈ buffers
  | .hipFree ptr => ptr ∉ buffers
  | _ => True

section Background

variable {buffers : List DevPtr}

theorem constructs_staysIn : Constructs (StaysIn buffers) :=
  ⟨trivial, fun _ _ => trivial, fun _ => trivial, fun _ _ => trivial, fun _ _ => trivial,
    fun _ _ => trivial⟩

theorem issues_memoryPointer_staysIn (nbytes : PyNum) :
    Issues (StaysIn buffers) (MemoryPointer.init nbytes) := by
  refine (Issues.perform trivial).bind fun self => (issues_hipAttr trivial).bind fun _ => ?_
  refine (issues_ofExcept _).bind fun bytes => (Issues.perform trivial).bind fun answer => ?_
  exact (issues_checkHip _).bind fun _ => (Issues.perform trivial).bind fun _ => trivial

theorem issues_array_staysIn (shape : ShapeArg) (dtype : Dtype) (data : Option MemoryPointer) :
    Issues (StaysIn buffers) (DeviceNDArray.init shape dtype data) := by
  refine (Issues.perform trivial).bind fun self => ?_
  cases data with
  | none => exact (issues_memoryPointer_staysIn _).bind fun _ => trivial
  | some data => trivial

theorem issues_copyToHost_staysIn (dary : DeviceNDArray) (ary : Option NdArray) :
    Issues (StaysIn buffers) (dary.copyToHost ary) :=
  DeviceNDArray.issues_copyToHost (fun _ _ => trivial) trivial fun _ _ _ => trivial

/-- A generating call that does not need a temporary array. -/
theorem issues_generating_staysIn {m : GenMethod} {rng : RNG} {ary : Ary} {size : Option Int}
    (hhost : ∀ a, ary = .ndarray a → rng.isHost = true)
    (hbuffer : ∀ dary, ary = .device dary → devicePointer dary ∈ buffers) :
    Issues (StaysIn buffers) (m.call rng ary size) := by
  cases hdisp : m.dispatch ary.dtype with
  | none =>
    rw [GenMethod.call_of_unsupported hdisp]
    trivial
  | some chosen =>
    obtain ⟨func, args⟩ := chosen
    rw [GenMethod.call_of_dispatch hdisp]
    refine (issues_hiprandAttr trivial).bind fun _ => ?_
    unfold RNG.generateWith
    split
    · refine (issues_ofExcept _).bind fun n => ?_
      cases ary with
      | ndarray a =>
        exact (issues_ofExcept _).bind fun count => (Issues.perform trivial).bind
          issues_checkHiprand
      | device | other => trivial
    · next hdevice =>
      refine (issues_ofExcept _).bind fun n => ?_
      cases ary with
      | ndarray a => exact absurd (hhost a rfl) hdevice
      | device dary =>
        have hgenerate (count : CSize) : StaysIn buffers
            (.generate func rng.gen (.device (devicePointer dary)) count args) := hbuffer dary rfl
        exact (issues_ofExcept _).bind fun count => (Issues.perform (hgenerate count)).bind
          fun _ => (issues_checkHiprand _).bind fun _ => trivial
      | other => trivial

theorem issues_background {c : PackageCall} (hc : ¬ c.NeedsConversion) :
    Issues (StaysIn c.buffers) c.prog := by
  have hreturn {α : Type} {p : PyProg α} {f : α → List PyObj}
      (hp : Issues (StaysIn c.buffers) p) :
      Issues (StaysIn c.buffers) (p >>= fun a => pure (f a)) := by
    refine hp.bind fun a => ?_
    trivial
  cases c with
  | finalizer r =>
    cases r with
    | generator gen =>
      exact hreturn ((issues_hiprandAttr trivial).bind fun _ => (Issues.perform trivial).bind
        issues_checkHiprand)
    | memory ptr =>
      exact hreturn ((issues_hipAttr trivial).bind fun _ =>
        (Issues.perform (List.not_mem_nil : ptr ∉ [])).bind issues_checkHip)
  | client c =>
    cases c with
    | prng => exact hreturn (constructs_staysIn.issues_PRNG_init ..)
    | qrng => exact hreturn (constructs_staysIn.issues_QRNG_init ..)
    | memory nbytes => exact hreturn (issues_memoryPointer_staysIn nbytes)
    | array shape dtype data => exact hreturn (issues_array_staysIn shape dtype data)
    | setOffset | setStream | setSeed | setNdim => exact hreturn constructs_staysIn.issues_setter
    | generating m rng ary size =>
      refine hreturn (issues_generating_staysIn ?_ ?_)
      · rintro a rfl
        exact Bool.not_eq_false _ |>.mp hc
      · rintro dary rfl
        exact List.mem_singleton_self _
    | copyToHost dary ary => exact hreturn (issues_copyToHost_staysIn dary ary)
    | streamSynchronize =>
      exact hreturn (issues_streamSynchronize trivial fun _ => trivial)
    | getVersion => exact hreturn (issues_getVersion trivial trivial)

/-- The buffers that a call generates into are live. -/
structure Holding (buffers : List DevPtr) (s : Device) : Prop where
  sound : s.Sound
  live : ∀ ptr ∈ buffers, ptr ∈ s.live

theorem stable_holding {st : Streams} : Stable (streamEnv st) (Holding buffers) := by
  intro s s' h hrely
  obtain ⟨x, _, _, _, hlive, _, _, _, _⟩ := hrely.spec
  exact ⟨stable_sound s s' h.sound hrely, hlive ▸ h.live⟩

/-- Only a launch into memory that is not live, or freeing it before its kernels have run,
can make a device unsound. -/
theorem Holding.handle {st : Streams} {op : Op} {s s' : Device} {ans : op.Ans}
    (h : Holding buffers s) (hop : StaysIn buffers op) (hh : (streamEnv st).handle op s ans s') :
    Holding buffers s' := by
  cases op with
  | generate func gen output n args =>
    cases output with
    | host addr =>
      obtain ⟨host, rfl⟩ := hh
      exact ⟨h.sound, h.live⟩
    | device ptr =>
      rcases generate_iff.mp hh with ⟨_, bytes, rfl⟩ | ⟨_, rfl⟩
      · refine ⟨fun e he => ?_, h.live⟩
        rcases List.mem_append.mp he with he | he
        · exact h.sound e he
        · rw [List.mem_singleton.mp he]
          exact h.live ptr hop
      · exact h
  | hipMalloc nbytes =>
    rcases hipMalloc_iff.mp hh with ⟨_, _, rfl⟩ | ⟨_, rfl⟩
    · exact ⟨fun e he => List.mem_cons_of_mem _ (h.sound e he),
        fun ptr hptr => List.mem_cons_of_mem _ (h.live ptr hptr)⟩
    · exact h
  | hipFree ptr =>
    rcases hipFree_iff.mp hh with ⟨_, hidle, rfl⟩ | ⟨_, rfl⟩
    · refine ⟨fun e he => absurd (hidle ▸ he) List.not_mem_nil, fun ptr' hptr' => ?_⟩
      have hne : ptr' ≠ ptr := by
        rintro rfl
        exact hop hptr'
      exact List.mem_filter.mpr ⟨h.live ptr' hptr', by simpa using hne⟩
    · exact h
  | hipMemcpy dst src nbytes kind =>
    rcases hipMemcpy_iff.mp hh with ⟨_, _, rfl⟩ | ⟨_, host, rfl⟩
    · exact ⟨h.sound, h.live⟩
    · exact ⟨h.sound, h.live⟩
  | createGenerator isHost rngtype =>
    rcases createGenerator_iff.mp hh with ⟨_, rfl⟩ | ⟨_, rfl⟩
    · exact ⟨h.sound, h.live⟩
    · exact h
  | set gen setting =>
    cases setting with
    | stream stream =>
      rcases setStream_iff.mp hh with ⟨_, rfl⟩ | ⟨_, rfl⟩
      · exact ⟨h.sound, h.live⟩
      · exact h
    | _ =>
      obtain rfl : s' = s := hh
      exact h
  | hipStreamSynchronize stream =>
    obtain ⟨_, rfl⟩ := hh
    exact h
  | _ =>
    obtain rfl : s' = s := hh
    exact h

theorem triple_background {st : Streams} {c : PackageCall} (hc : ¬ c.NeedsConversion) :
    Triple (streamEnv st) (Holding c.buffers) c.prog fun _ s => s.Sound :=
  ((issues_background hc).triple stable_holding fun _ _ _ _ hop hs hh => hs.handle hop hh).post
    fun _ _ hs => hs.sound

end Background

/-! ## Calls that return -/

section Returning

variable {st : Streams} {m : GenMethod} {rng : RNG} {a : NdArray} {size : Option Int}
  {func : GenFunc} {args : List FloatArg} {ptr : DevPtr} {s s' : Device}

/-- The device after its pending kernels have run, one after another. -/
def Device.drained (s : Device) : Device :=
  { s with pending := [], memory := s.pending.foldl (fun memory k => k.run memory) s.memory }

/-- The device can run the kernels before the next call: the first one waits for none. -/
theorem runs_of_drained {α : Type} {p : PyProg α} {r : Except PyError α}
    (h : Runs (streamEnv st) p s.drained r s') : Runs (streamEnv st) p s r s' := by
  obtain ⟨host, memory, live, pending, launched, streamOf⟩ := s
  induction pending generalizing memory with
  | nil => exact h
  | cons k rest ih =>
    have hkernel : Device.RunsKernel st ⟨host, memory, live, k :: rest, launched, streamOf⟩
        ⟨host, k.run memory, live, rest, launched, streamOf⟩ := ⟨[], k, rest, rfl, nofun, rfl⟩
    exact .rely hkernel (ih _ h)

theorem exists_not_live (s : Device) : ∃ ptr : DevPtr, ptr ∉ s.live := by
  have hinfinite : Infinite DevPtr :=
    .of_injective (fun id => ⟨id, 65536⟩) fun _ _ h => (DevPtr.mk.inj h).1
  obtain ⟨ptr, hptr⟩ := Infinite.exists_notMem_finset s.live.toFinset
  exact ⟨ptr, fun hlive => hptr (List.mem_toFinset.mpr hlive)⟩

/-- The temporary array of a request. -/
def temporary (a : NdArray) (size : Option Int) (ptr : DevPtr) : DeviceNDArray where
  id := 0
  shape := [size.getD a.size]
  dtype := a.dtype
  size := npProd [size.getD a.size]
  nbytes := (npProd [size.getD a.size]).scale a.dtype.itemsize
  data := ⟨0, ptr⟩

/-- The device when the buffer of a call has been allocated and its kernel launched. -/
def Device.requested (s : Device) (k : Kernel) : Device :=
  { s with live := k.ptr :: s.live }.launch k

/-- A call that the backend does not refuse, up to its copy. -/
theorem runs_until_copy (hdisp : m.dispatch a.dtype = some (func, args))
    (hrng : rng.isHost = false) (hle : ∀ v ∈ size, v ≤ a.size) {bytes : Nat → Byte}
    (hfresh : ptr ∉ s.live)
    (h : Runs (streamEnv st) ((temporary a size ptr).copyToHost (some a))
      (s.requested ⟨s.streamOf rng.gen, ptr, asked a size * func.width, bytes⟩) (.ok a) s') :
    Runs (streamEnv st) (m.call rng (.ndarray a) size) s (.ok ()) s' := by
  have hreq : requestedSize (.ndarray a) size = .ok (.int (size.getD a.size)) := by
    cases size with
    | none => rfl
    | some v => exact requestedSize_of_le (hle v rfl)
  have hattr : (streamEnv st).handle (.hiprandAttr func.name) s (.ok ()) s := rfl
  have hhip : (streamEnv st).handle (.hipAttr .hipMalloc) s (.ok ()) s := rfl
  have hnew : (streamEnv st).handle .new s (0 : ObjId) s := rfl
  have hmalloc {nbytes : CSize} : (streamEnv st).handle (.hipMalloc nbytes) s (hipSuccess, ptr)
      { s with live := ptr :: s.live } := hipMalloc_iff.mpr (.inl ⟨rfl, hfresh, rfl⟩)
  have hfinalize {s : Device} : (streamEnv st).handle (.finalize 0 (.memory ptr)) s () s := rfl
  have hgenerate : (streamEnv st).handle (.generate func rng.gen (.device ptr)
      (BitVec.ofInt 64 (size.getD a.size)) args) { s with live := ptr :: s.live }
      HIPRAND_STATUS_SUCCESS
      (s.requested ⟨s.streamOf rng.gen, ptr, asked a size * func.width, bytes⟩) :=
    generate_iff.mpr (.inl ⟨rfl, bytes, rfl⟩)
  have hmemory : Runs (streamEnv st)
      (MemoryPointer.init ((npProd [size.getD a.size]).scale a.dtype.itemsize)) s (.ok ⟨0, ptr⟩)
      { s with live := ptr :: s.live } := by
    unfold MemoryPointer.init
    rw [cSizeT_scale_npProd]
    exact .call hnew (.call hhip (.call hmalloc (.call hfinalize .ret)))
  have hbuffer : Runs (streamEnv st) (deviceBuffer (.ndarray a) (.int (size.getD a.size))) s
      (.ok (temporary a size ptr, some a)) { s with live := ptr :: s.live } :=
    .bind_ok (.call hnew (hmemory.bind_ok .ret)) .ret
  rw [GenMethod.call_of_dispatch hdisp]
  refine .call hattr ?_
  show Runs _ (rng.generateWith func (.ndarray a) size args) s _ s'
  unfold RNG.generateWith RNG.generateDevice
  rw [hrng, hreq]
  exact hbuffer.bind_ok (.call hgenerate (h.bind_ok .ret))

/-- The copy, when it need not wait. -/
theorem runs_copy (hle : ∀ v ∈ size, v ≤ a.size)
    (hidle : ∀ k ∈ s.pending, st.nonBlocking k.stream = true) :
    Runs (streamEnv st) ((temporary a size ptr).copyToHost (some a)) s (.ok a)
      (s.memcpy a.data ptr (BitVec.ofInt 64 (a.dtype.itemsize * size.getD a.size))) := by
  have hsize : (temporary a size ptr).size.value ≤ a.size := by
    show (npProd [size.getD a.size]).value ≤ a.size
    rw [value_npProd_singleton]
    cases size with
    | none => exact le_refl _
    | some v => exact hle v rfl
  have htarget := ((temporary a size ptr).copyTarget_cases a).resolve_right
    fun hno => hno.2 ⟨rfl, hsize⟩
  have hhip : (streamEnv st).handle (.hipAttr .hipMemcpy) s (.ok ()) s := rfl
  have hcopy : (streamEnv st).handle (.hipMemcpy a.data ptr
      (BitVec.ofInt 64 (a.dtype.itemsize * size.getD a.size)) hipMemcpyDeviceToHost) s hipSuccess
      (s.memcpy a.data ptr (BitVec.ofInt 64 (a.dtype.itemsize * size.getD a.size))) :=
    hipMemcpy_iff.mpr (.inl ⟨rfl, hidle, rfl⟩)
  unfold DeviceNDArray.copyToHost
  rw [htarget.1]
  refine .call hhip ?_
  show Runs _ (ofExcept ((npProd [size.getD a.size]).scale a.dtype.itemsize).cSizeT >>= _) s _ _
  rw [cSizeT_scale_npProd]
  exact .call hcopy .ret

/-- Whatever the backend generates, a call that it does not refuse may wait for its kernel. -/
theorem exists_runs_waiting (hdisp : m.dispatch a.dtype = some (func, args))
    (hrng : rng.isHost = false) (ha : a.WellFormed) (hle : ∀ v ∈ size, v ≤ a.size)
    (bytes : Nat → Byte) :
    ∃ k s', Runs (streamEnv st) (m.call rng (.ndarray a) size) s (.ok ()) s' ∧
      s'.launched = s.launched ++ [k] ∧ k.bytes = bytes ∧
      (asked a size ≤ a.size → s'.host =
        Strided.write a.data.toNat (asked a size * a.dtype.itemsize) bytes s.host) := by
  obtain ⟨ptr, hfresh⟩ := exists_not_live s
  let k : Kernel := ⟨s.streamOf rng.gen, ptr, asked a size * func.width, bytes⟩
  let finished : Device :=
    { s.drained.requested k with pending := [], memory := k.run s.drained.memory }
  have hkernel : (s.drained.requested k).RunsKernel st finished := ⟨[], k, [], rfl, nofun, rfl⟩
  refine ⟨k, _, runs_of_drained (runs_until_copy hdisp hrng hle hfresh
    (.rely hkernel (runs_copy hle nofun))), rfl, rfl, fun hasked => ?_⟩
  show Strided.write _ _ (k.run s.drained.memory ptr) _ = _
  rw [toNat_askedBytes ha hasked]
  refine Strided.write_congr fun j hj => ?_
  have hlen : j < k.len := by
    show j < asked a size * func.width
    rwa [GenMethod.dispatch_width hdisp]
  unfold Kernel.run
  rw [Function.update_self, if_pos hlen]

/-- On a non-blocking stream it may also not wait. Then it copies what the buffer held. -/
theorem exists_runs_stale (hdisp : m.dispatch a.dtype = some (func, args))
    (hrng : rng.isHost = false) (ha : a.WellFormed) (hle : ∀ v ∈ size, v ≤ a.size)
    (hasked : asked a size ≤ a.size) (hstream : st.nonBlocking (s.streamOf rng.gen) = true) :
    ∃ stale : Nat → Byte, ∀ bytes, ∃ k s',
      Runs (streamEnv st) (m.call rng (.ndarray a) size) s (.ok ()) s' ∧
      s'.launched = s.launched ++ [k] ∧ k.bytes = bytes ∧ s'.host =
        Strided.write a.data.toNat (asked a size * a.dtype.itemsize) stale s.host := by
  obtain ⟨ptr, hfresh⟩ := exists_not_live s
  refine ⟨s.drained.memory ptr, fun bytes => ?_⟩
  let k : Kernel := ⟨s.streamOf rng.gen, ptr, asked a size * func.width, bytes⟩
  have hidle : ∀ e ∈ (s.drained.requested k).pending, st.nonBlocking e.stream = true := by
    intro e he
    rw [List.mem_singleton.mp he]
    exact hstream
  refine ⟨k, _, runs_of_drained (runs_until_copy hdisp hrng hle hfresh (runs_copy hle hidle)),
    rfl, rfl, ?_⟩
  show Strided.write _ _ _ _ = _
  rw [toNat_askedBytes ha hasked]
  rfl

end Returning

/-! ## Runs -/

/-- A generating call on a NumPy array: the number of elements that it asked the backend
for, the device before and after it, and how it ended. -/
structure CallRecord where
  ary : NdArray
  count : Nat
  before : Device
  result : Except PyError Unit
  after : Device

/-- If the call returned, it launched one kernel, and the array has all the elements that
this kernel generated, with their values. -/
def CallRecord.Delivered (c : CallRecord) : Prop :=
  c.result = .ok () → ∃ k, c.after.launched = c.before.launched ++ [k] ∧ c.count ≤ c.ary.size ∧
    ∀ i < c.count, ∀ b < c.ary.dtype.itemsize,
      c.after.host (c.ary.addr i + (b : Nat)) = k.bytes (i * c.ary.dtype.itemsize + b)

/-- The first `n` elements follow each other from the base pointer on. -/
def NdArray.InPlace (a : NdArray) (n : Nat) : Prop :=
  ∀ i < n, a.addr i = a.data.toNat + i * a.dtype.itemsize

structure StreamState where
  device : Device
  calls : List CallRecord

/-- A step of the client or of the device. -/
inductive StreamLabel
  | call (m : GenMethod) (rng : RNG) (a : NdArray) (size : Option Int)
  | background (c : PackageCall)
  | kernel

/-- Every sequence of calls, and every order in which the device runs their kernels. -/
def streams (st : Streams) : System StreamState StreamLabel where
  init s := s.device.pending = [] ∧ s.device.launched = [] ∧ s.calls = []
  step s label s' :=
    match label with
    | .call m rng a size => rng.isHost = false ∧ a.WellFormed ∧
      ∃ r, Runs (streamEnv st) (m.call rng (.ndarray a) size) s.device r s'.device ∧
        s'.calls = s.calls ++ [⟨a, asked a size, s.device, r, s'.device⟩]
    | .background c => ¬ c.NeedsConversion ∧ (∀ ptr ∈ c.buffers, ptr ∈ s.device.live) ∧
      (∃ r, Runs (streamEnv st) c.prog s.device r s'.device) ∧ s'.calls = s.calls
    | .kernel => s.device.RunsKernel st s'.device ∧ s'.calls = s.calls

/-- A generating call that is not refused asks for no more elements than the array has, which
are where the copy puts them, and its stream is not a non-blocking one, unless it asks for
no elements. -/
def Awaited (st : Streams) (s : StreamState) : StreamLabel → Prop
  | .call m rng a size => m.Supports a.dtype → (∀ k ∈ size, k ≤ a.size) →
    asked a size ≤ a.size ∧ a.InPlace (asked a size) ∧
      (asked a size = 0 ∨ st.nonBlocking (s.device.streamOf rng.gen) = false)
  | _ => True

section Runs

variable {st : Streams} {s s' : StreamState} {m : GenMethod} {rng : RNG} {a : NdArray}
  {size : Option Int}

/-- What is copied to the base pointer are the elements, if they are in place. -/
theorem Copied.delivered {n : Nat} {before after : Device} {r : Except PyError Unit}
    (h : (∃ x, r = .ok x) → Copied before.launched a (n * a.dtype.itemsize) after)
    (hplace : r = .ok () → n ≤ a.size ∧ a.InPlace n) :
    CallRecord.Delivered ⟨a, n, before, r, after⟩ := by
  intro hr
  obtain ⟨k, hlaunched, hbytes⟩ := (h ⟨(), hr⟩).kernel
  obtain ⟨hle, hplace⟩ := hplace hr
  refine ⟨k, hlaunched, hle, fun i (hi : i < n) b (hb : b < a.dtype.itemsize) => ?_⟩
  have hlt : i * a.dtype.itemsize + b < n * a.dtype.itemsize := by
    have hmul := Nat.mul_le_mul_right a.dtype.itemsize (Nat.succ_le_of_lt hi)
    rw [Nat.succ_mul] at hmul
    omega
  have haddr : a.addr i + (b : Nat) = a.data.toNat + (i * a.dtype.itemsize + b : Nat) := by
    rw [hplace i hi]
    push_cast
    ring
  show after.host (a.addr i + (b : Nat)) = _
  rw [haddr, hbytes _ hlt]

/-- A call that returns was not refused. -/
theorem triple_accepted (hrng : rng.isHost = false) :
    Triple (streamEnv st) (fun _ => True) (m.call rng (.ndarray a) size) fun r _ =>
      r = .ok () → m.Supports a.dtype ∧ ∀ k ∈ size, k ≤ a.size := by
  have hstable : Stable (streamEnv st) fun _ => True := fun _ _ _ _ => trivial
  cases hdisp : m.dispatch a.dtype with
  | none =>
    rw [GenMethod.call_of_unsupported hdisp]
    exact .throw hstable nofun
  | some chosen =>
    obtain ⟨func, args⟩ := chosen
    cases hreq : requestedSize (.ndarray a) size with
    | ok n =>
      obtain ⟨v, _, hle, rfl⟩ := requestedSize_ndarray hreq
      refine fun _ _ _ _ _ _ => ⟨Option.isSome_of_eq_some hdisp, fun k hk => ?_⟩
      rwa [Option.mem_def.mp hk] at hle
    | error e =>
      rw [GenMethod.call_of_dispatch hdisp]
      refine (triple_hiprandAttr_streams hstable).andThen (fun _ _ _ => nofun) fun _ => ?_
      unfold RNG.generateWith RNG.generateDevice
      rw [hrng, hreq]
      exact .throw hstable nofun

/-- The invariant of these runs. -/
structure Delivering (s : StreamState) : Prop where
  sound : s.device.Sound
  delivered : ∀ c ∈ s.calls, c.Delivered

theorem Delivering.step {label : StreamLabel} (h : Delivering s) (hawaited : Awaited st s label)
    (hstep : (streams st).step s label s') : Delivering s' := by
  cases label with
  | call m rng a size =>
    obtain ⟨hrng, ha, r, hrun, hcalls⟩ := hstep
    have hwaited (hm : m.Supports a.dtype) :
        Waited st (s.device.streamOf rng.gen) a size := fun hle =>
      ⟨(hawaited hm hle).1, (hawaited hm hle).2.2⟩
    obtain ⟨hsound, hends⟩ := triple_generatingCall hrng ha hwaited s.device r s'.device
      ⟨h.sound, rfl, rfl⟩ hrun
    refine ⟨hsound, ?_⟩
    rw [hcalls]
    intro c hc
    rcases List.mem_append.mp hc with hc | hc
    · exact h.delivered c hc
    · rw [List.mem_singleton.mp hc]
      refine Copied.delivered hends fun hr => ?_
      obtain ⟨hm, hle⟩ := triple_accepted hrng _ _ _ trivial hrun hr
      exact ⟨(hawaited hm hle).1, (hawaited hm hle).2.1⟩
  | background c =>
    obtain ⟨hc, hlive, ⟨r, hrun⟩, hcalls⟩ := hstep
    exact ⟨triple_background hc s.device r s'.device ⟨h.sound, hlive⟩ hrun, hcalls ▸ h.delivered⟩
  | kernel =>
    obtain ⟨hkernel, hcalls⟩ := hstep
    exact ⟨stable_sound s.device s'.device h.sound hkernel, hcalls ▸ h.delivered⟩

theorem Delivering.of_reachable (h : ((streams st).only (Awaited st)).Reachable s) :
    Delivering s := by
  refine h.invariant_only ?_ fun s label s' hs hawaited hstep => hs.step hawaited hstep
  intro s ⟨hpending, _, hcalls⟩
  refine ⟨fun e he => ?_, hcalls ▸ List.forall_mem_nil _⟩
  exact absurd (hpending ▸ he) List.not_mem_nil

/-- A run of a call that returns without the values of its kernel `k`. -/
theorem undelivered_of_run {k : Kernel} {d : Device} (hrng : rng.isHost = false)
    (ha : a.WellFormed)
    (hrun : Runs (streamEnv st) (m.call rng (.ndarray a) size) s.device (.ok ()) d)
    (hlaunched : d.launched = s.device.launched ++ [k])
    (hno : asked a size ≤ a.size → ∃ i < asked a size, ∃ b < a.dtype.itemsize,
      d.host (a.addr i + (b : Nat)) ≠ k.bytes (i * a.dtype.itemsize + b)) :
    ∃ s', (streams st).step s (.call m rng a size) s' ∧ ∃ c ∈ s'.calls,
      c.result = .ok () ∧ ¬ c.Delivered := by
  refine ⟨⟨d, s.calls ++ [⟨a, asked a size, s.device, .ok (), d⟩]⟩, ⟨hrng, ha, _, hrun, rfl⟩, _,
    List.mem_append_right _ (List.mem_singleton_self _), rfl, fun hdelivered => ?_⟩
  obtain ⟨k', hlaunched', hle, hbytes⟩ := hdelivered rfl
  obtain rfl : k = k' := by
    have hsame := hlaunched.symm.trans hlaunched'
    exact (List.cons.inj (List.append_cancel_left hsame)).1
  obtain ⟨i, hi, b, hb, hne⟩ := hno hle
  exact hne (hbytes i hi b hb)

/-- A call that does not meet the condition may return without the values of its kernel. -/
theorem exists_undelivered (hrng : rng.isHost = false) (ha : a.WellFormed)
    (hno : ¬ Awaited st s (.call m rng a size)) :
    ∃ s', (streams st).step s (.call m rng a size) s' ∧ ∃ c ∈ s'.calls,
      c.result = .ok () ∧ ¬ c.Delivered := by
  obtain ⟨hm, hle, hno⟩ : m.Supports a.dtype ∧ (∀ k ∈ size, k ≤ a.size) ∧
      ¬ (asked a size ≤ a.size ∧ a.InPlace (asked a size) ∧
        (asked a size = 0 ∨ st.nonBlocking (s.device.streamOf rng.gen) = false)) := by
    simpa only [Awaited, Classical.not_imp] using hno
  obtain ⟨⟨func, args⟩, hdisp⟩ := Option.isSome_iff_exists.mp hm
  have hw := itemsize_pos hm
  by_cases hasked : asked a size ≤ a.size
  · by_cases hplace : a.InPlace (asked a size)
    · -- the copy need not wait, and the kernel writes something else than the buffer held
      obtain ⟨hpos, hstream⟩ := not_or.mp fun h => hno ⟨hasked, hplace, h⟩
      obtain ⟨stale, hstale⟩ := exists_runs_stale hdisp hrng ha hle hasked
        (Bool.eq_true_of_not_eq_false hstream)
      choose other hother using fun j => exists_ne (stale j)
      obtain ⟨k, d, hrun, hlaunched, hbytes, hhost⟩ := hstale other
      refine undelivered_of_run hrng ha hrun hlaunched fun _ => ?_
      refine ⟨0, Nat.pos_of_ne_zero hpos, 0, hw, ?_⟩
      have hlen : 0 < asked a size * a.dtype.itemsize := Nat.mul_pos (Nat.pos_of_ne_zero hpos) hw
      rw [hplace 0 (Nat.pos_of_ne_zero hpos), hhost, hbytes, Strided.write_of_mem (by omega)]
      simpa using (hother 0).symm
    · -- some element is not where the copy puts it
      obtain ⟨i, hi, haddr⟩ : ∃ i < asked a size,
          a.addr i ≠ a.data.toNat + i * a.dtype.itemsize := by
        simpa [NdArray.InPlace] using hplace
      obtain ⟨bytes, hbytes⟩ : ∃ bytes : Nat → Byte,
          Strided.write a.data.toNat (asked a size * a.dtype.itemsize) bytes s.device.host
            (a.addr i) ≠ bytes (i * a.dtype.itemsize) :=
        Strided.exists_write_ne _ (by exact_mod_cast haddr)
      obtain ⟨k, d, hrun, hlaunched, rfl, hhost⟩ :=
        exists_runs_waiting hdisp hrng ha hle bytes
      refine undelivered_of_run hrng ha hrun hlaunched fun _ => ⟨i, hi, 0, hw, ?_⟩
      rw [hhost hasked]
      simpa using hbytes
  · obtain ⟨k, d, hrun, hlaunched, _, _⟩ :=
      exists_runs_waiting hdisp hrng ha hle fun _ => 0
    exact undelivered_of_run hrng ha hrun hlaunched fun h => absurd h hasked

end Runs

/-- In every run whose generating calls on NumPy arrays meet the condition, each of them that
returned delivered the values of its own kernel. The next one delivers them, in whatever
order the device works, exactly if it meets the condition too. -/
theorem calls_deliver (st : Streams) {s : StreamState}
    (h : ((streams st).only (Awaited st)).Reachable s) :
    (∀ c ∈ s.calls, c.Delivered) ∧
    ∀ (m : GenMethod) (rng : RNG) (a : NdArray) (size : Option Int),
      rng.isHost = false → a.WellFormed →
      ((∀ s', (streams st).step s (.call m rng a size) s' → ∀ c ∈ s'.calls, c.Delivered) ↔
        Awaited st s (.call m rng a size)) := by
  have hdelivering := Delivering.of_reachable h
  refine ⟨hdelivering.delivered, fun m rng a size hrng ha =>
    ⟨fun hall => ?_, fun hawaited s' => ?_⟩⟩
  · by_contra hno
    obtain ⟨s', hstep, c, hc, _, hundelivered⟩ := exists_undelivered hrng ha hno
    exact hundelivered (hall s' hstep c hc)
  · exact fun hstep => (hdelivering.step hawaited hstep).delivered

/-! ## A run on the default stream, and one on a non-blocking stream -/

/-- The stream `8` is a non-blocking one. -/
def oneNonBlocking : Streams where
  nonBlocking p := p == 8
  default_blocking := by decide
  widen v := v.zeroExtend 64

def oneUint32 : NdArray where
  dtype := .uint32
  shape := [1]
  strides := [4]
  data := 4096

/-- A device with nothing to do, with the generator `0` on a stream. -/
def idleDevice (stream : Pointer) : Device where
  host _ := 0
  memory _ _ := 0
  live := []
  pending := []
  launched := []
  streamOf := Function.update (fun _ => 0) 0 stream

theorem oneUint32_wellFormed : oneUint32.WellFormed :=
  ⟨rfl, by decide⟩

/-- On the default stream the copy of a call waits: it may return, and then the values are
there. -/
theorem default_stream_delivers :
    (∃ s, (streams oneNonBlocking).step ⟨idleDevice 0, []⟩
        (.call .generate (someRng false) oneUint32 none) s ∧ ∃ c ∈ s.calls, c.result = .ok ()) ∧
    ∀ s, (streams oneNonBlocking).step ⟨idleDevice 0, []⟩
        (.call .generate (someRng false) oneUint32 none) s → ∀ c ∈ s.calls, c.Delivered := by
  constructor
  · obtain ⟨k, d, hrun, _⟩ : ∃ k s', Runs (streamEnv oneNonBlocking)
        (GenMethod.generate.call (someRng false) (.ndarray oneUint32) none) (idleDevice 0) (.ok ())
        s' ∧ _ := exists_runs_waiting rfl rfl oneUint32_wellFormed
        (fun v hv => absurd hv (Option.not_mem_none v)) fun _ => 1
    exact ⟨⟨d, [⟨oneUint32, 1, idleDevice 0, .ok (), d⟩]⟩,
      ⟨rfl, oneUint32_wellFormed, _, hrun, rfl⟩, _, List.mem_singleton_self _, rfl⟩
  · have hcontiguous : oneUint32.CContiguous := ⟨.inr rfl, trivial⟩
    have hawaited : Awaited oneNonBlocking ⟨idleDevice 0, []⟩
        (.call .generate (someRng false) oneUint32 none) := fun _ _ =>
      ⟨le_of_eq rfl, (hcontiguous.prefixContiguous (le_of_eq rfl)).elements, .inr rfl⟩
    have hinit : ((streams oneNonBlocking).only (Awaited oneNonBlocking)).Reachable
        ⟨idleDevice 0, []⟩ := .init ⟨rfl, rfl, rfl⟩
    exact ((calls_deliver oneNonBlocking hinit).2 .generate (someRng false) oneUint32 none rfl
      oneUint32_wellFormed).mpr hawaited

/-- `rng.stream = s` for a non-blocking stream `s`, and a generating call whose copy comes
before its kernel: it returns, and the array does not have the values. -/
theorem stale_copy :
    (streams oneNonBlocking).init ⟨idleDevice 0, []⟩ ∧
    ∃ s, (streams oneNonBlocking).Run ⟨idleDevice 0, []⟩
        [.background (.client (.setStream (someRng false) (.cVoidP 8))),
          .call .generate (someRng false) oneUint32 none] s ∧
      ∃ c ∈ s.calls, c.result = .ok () ∧ ¬ c.Delivered := by
  have hattr : (streamEnv oneNonBlocking).handle (.hiprandAttr .hiprandSetStream) (idleDevice 0)
      (.ok ()) (idleDevice 0) := rfl
  have hset : (streamEnv oneNonBlocking).handle (.set 0 (.stream (.pointer 8))) (idleDevice 0)
      HIPRAND_STATUS_SUCCESS (idleDevice 8) := by
    refine setStream_iff.mpr (.inl ⟨rfl, ?_⟩)
    simp [idleDevice, CArg.handle]
  have hwrite : (streamEnv oneNonBlocking).handle (.setAttr 1 (.stream (.cVoidP 8))) (idleDevice 8)
      () (idleDevice 8) := rfl
  have hassign : (streams oneNonBlocking).step ⟨idleDevice 0, []⟩
      (.background (.client (.setStream (someRng false) (.cVoidP 8)))) ⟨idleDevice 8, []⟩ :=
    ⟨id, List.forall_mem_nil _, ⟨.ok [], .call hattr (.call hset (.call hwrite .ret))⟩, rfl⟩
  -- the stream is a non-blocking one, and one element is asked for
  have hno : ¬ Awaited oneNonBlocking ⟨idleDevice 8, []⟩
      (.call .generate (someRng false) oneUint32 none) := by
    intro h
    exact absurd (h (by decide) nofun).2.2 (by decide)
  obtain ⟨s, hstep, hstale⟩ := exists_undelivered rfl oneUint32_wellFormed hno
  exact ⟨⟨rfl, rfl, rfl⟩, s, (System.Run.nil.snoc hassign).snoc hstep, hstale⟩

end HipRand.Py
