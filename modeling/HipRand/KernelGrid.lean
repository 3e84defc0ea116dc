import HipRand.KernelSobol
import HipRand.Lib.Threads
import Mathlib.Data.Fintype.Prod

/-!
# Kernels that fill an array with a grid of threads

The kernels of `test_hiprand_kernel.cpp` that generate into an array: each thread
initialises a state of its own, and then takes every `global_size`-th element from its
own index on. Elements past the end are drawn but not stored, so that the bound of the
loop is the size of the array rounded up to whole blocks. The index is an `unsigned int`,
the size is a `size_t`. The threads take their iterations in any order.

Results:
1. `grid_writes_once_iff`: each element is written by exactly one iteration of one thread
   and all threads stop exactly if the rounded size and one round of the grid fit into
   32 bits.
2. `hiprandKernel_output`: a kernel with a subsequence for each thread.
3. `hiprandSobolKernel_output`: a Sobol kernel gives the same array whatever the launch.
4. `blocks_iterate_together`: the threads of a block do the same number of iterations.
-/

namespace HipRand.Kernel

open Threads Transition

/-! ## Launches -/

/-- `<<<gridDim, blockDim>>>` in one dimension; the threads of a launch can be numbered by
an `unsigned int`. -/
structure Launch where
  gridDim : CUInt
  blockDim : CUInt
  gridDim_pos : 0 < gridDim.toNat
  blockDim_pos : 0 < blockDim.toNat
  threads_lt : gridDim.toNat * blockDim.toNat < 2 ^ 32

namespace Launch

/-- `hipBlockIdx_x` and `hipThreadIdx_x` of a thread. -/
structure Thread (l : Launch) where
  blockIdx : Fin l.gridDim.toNat
  threadIdx : Fin l.blockDim.toNat
  deriving DecidableEq

variable (l : Launch)

def stateId (t : l.Thread) : CUInt :=
  BitVec.ofNat 32 t.blockIdx * l.blockDim + BitVec.ofNat 32 t.threadIdx

def globalSize : CUInt :=
  l.gridDim * l.blockDim

def sizeRoundedUp (size : CSize) : CSize :=
  let r := size % l.blockDim.setWidth 64
  if r = 0 then size else size + (l.blockDim.setWidth 64 - r)

/-- The size in whole blocks. -/
def roundUp (size : Nat) : Nat :=
  (size + (l.blockDim.toNat - 1)) / l.blockDim.toNat * l.blockDim.toNat

theorem globalSize_toNat : l.globalSize.toNat = l.gridDim.toNat * l.blockDim.toNat := by
  rw [globalSize, BitVec.toNat_mul, Nat.mod_eq_of_lt l.threads_lt]

theorem globalSize_pos : 0 < l.globalSize.toNat := by
  rw [globalSize_toNat]
  exact Nat.mul_pos l.gridDim_pos l.blockDim_pos

variable {l} in
theorem Thread.id_lt (t : l.Thread) :
    t.blockIdx * l.blockDim.toNat + t.threadIdx < l.gridDim.toNat * l.blockDim.toNat :=
  calc t.blockIdx * l.blockDim.toNat + t.threadIdx
      < t.blockIdx * l.blockDim.toNat + l.blockDim.toNat := Nat.add_lt_add_left t.threadIdx.isLt _
    _ = (t.blockIdx + 1) * l.blockDim.toNat := (Nat.succ_mul ..).symm
    _ ≤ l.gridDim.toNat * l.blockDim.toNat := Nat.mul_le_mul_right _ t.blockIdx.isLt

theorem stateId_toNat (t : l.Thread) :
    (l.stateId t).toNat = t.blockIdx * l.blockDim.toNat + t.threadIdx := by
  have hlt := Nat.lt_trans t.id_lt l.threads_lt
  have hblock := t.blockIdx.isLt
  have hgrid := l.gridDim.isLt
  have hthread := t.threadIdx.isLt
  have hdim := l.blockDim.isLt
  rw [stateId, BitVec.toNat_add, BitVec.toNat_mul, BitVec.toNat_ofNat, BitVec.toNat_ofNat,
    Nat.mod_eq_of_lt (Nat.lt_trans hblock hgrid), Nat.mod_eq_of_lt (Nat.lt_trans hthread hdim),
    Nat.mod_add_mod, Nat.mod_eq_of_lt hlt]

theorem stateId_lt (t : l.Thread) : (l.stateId t).toNat < l.globalSize.toNat := by
  rw [stateId_toNat, globalSize_toNat]
  exact t.id_lt

/-- Each number below the size of the grid is the number of one thread. -/
theorem exists_stateId {n : Nat} (hn : n < l.globalSize.toNat) : ∃ t, (l.stateId t).toNat = n := by
  rw [globalSize_toNat, Nat.mul_comm] at hn
  refine ⟨⟨⟨n / l.blockDim.toNat, Nat.div_lt_of_lt_mul hn⟩,
    ⟨n % l.blockDim.toNat, Nat.mod_lt _ l.blockDim_pos⟩⟩, ?_⟩
  rw [stateId_toNat]
  exact Nat.div_add_mod' ..

theorem stateId_injective {t u : l.Thread} (h : (l.stateId t).toNat = (l.stateId u).toNat) :
    t = u := by
  rw [stateId_toNat, stateId_toNat] at h
  have hdiv (t : l.Thread) :
      (t.blockIdx * l.blockDim.toNat + t.threadIdx) / l.blockDim.toNat = t.blockIdx := by
    rw [Nat.mul_comm, Nat.mul_add_div l.blockDim_pos, Nat.div_eq_of_lt t.threadIdx.isLt,
      Nat.add_zero]
  have hmod (t : l.Thread) :
      (t.blockIdx * l.blockDim.toNat + t.threadIdx) % l.blockDim.toNat = t.threadIdx := by
    rw [Nat.mul_comm, Nat.mul_add_mod, Nat.mod_eq_of_lt t.threadIdx.isLt]
  have hblock : t.blockIdx = u.blockIdx := Fin.ext (by rw [← hdiv t, h, hdiv u])
  have hthread : t.threadIdx = u.threadIdx := Fin.ext (by rw [← hmod t, h, hmod u])
  cases t
  cases u
  cases hblock
  cases hthread
  rfl

theorem roundUp_eq (size : Nat) :
    l.roundUp size =
      if size % l.blockDim.toNat = 0 then size
      else size + (l.blockDim.toNat - size % l.blockDim.toNat) := by
  have hpos := l.blockDim_pos
  have hmod := Nat.mod_lt size hpos
  have hdiv := Nat.div_add_mod size l.blockDim.toNat
  unfold roundUp
  generalize size % l.blockDim.toNat = r at *
  generalize size / l.blockDim.toNat = q at *
  generalize l.blockDim.toNat = d at *
  subst hdiv
  rw [Nat.add_assoc, Nat.mul_add_div hpos]
  split
  · next hr => rw [hr, Nat.div_eq_of_lt (by omega), Nat.add_zero, Nat.add_zero, Nat.mul_comm]
  · next hr =>
    have hone : (r + (d - 1)) / d = 1 := Nat.div_eq_of_lt_le (by omega) (by omega)
    rw [hone, Nat.add_mul, Nat.mul_comm, Nat.one_mul]
    omega

theorem le_roundUp (size : Nat) : size ≤ l.roundUp size := by
  rw [roundUp_eq]
  split <;> omega

/-- The bound of the loop, unless it overflows. -/
theorem sizeRoundedUp_toNat {size : CSize} (h : size.toNat ≤ 2 ^ 32) :
    (l.sizeRoundedUp size).toNat = l.roundUp size.toNat := by
  have hdim := l.blockDim.isLt
  have hmod := Nat.mod_lt size.toNat l.blockDim_pos
  have hwidth : (l.blockDim.setWidth 64).toNat = l.blockDim.toNat :=
    BitVec.toNat_setWidth_of_le (by decide)
  have hr : (size % l.blockDim.setWidth 64).toNat = size.toNat % l.blockDim.toNat := by
    rw [BitVec.toNat_umod, hwidth]
  have hzero : size % l.blockDim.setWidth 64 = 0 ↔ size.toNat % l.blockDim.toNat = 0 := by
    rw [← hr]
    exact BitVec.toNat_inj.symm
  simp only [sizeRoundedUp, roundUp_eq, hzero]
  split
  · rfl
  · have hsub : (l.blockDim.setWidth 64 - size % l.blockDim.setWidth 64).toNat =
        l.blockDim.toNat - size.toNat % l.blockDim.toNat := by
      rw [BitVec.toNat_sub_of_le, hwidth, hr]
      rw [BitVec.le_def, hwidth, hr]
      exact Nat.le_of_lt hmod
    rw [BitVec.toNat_add, hsub, Nat.mod_eq_of_lt (by omega)]

end Launch

/-! ## The loop -/

/-- The index and the generator state of a thread. -/
structure Local (σ : Type) where
  index : CUInt
  state : σ

section Loop

variable {σ V : Type} (l : Launch) (size : CSize)

/-- An iteration of the loop, or its end: `draw` is what the iteration does with the
generator state. -/
def iterate (draw : σ → V × σ) (s : Local σ) : Option (Local σ × Option (CUInt × V)) :=
  if s.index.setWidth 64 < l.sizeRoundedUp size then
    let (value, state) := draw s.state
    some (⟨s.index + l.globalSize, state⟩,
      if s.index.setWidth 64 < size then some (s.index, value) else none)
  else none

/-- The index in the iteration with the number `k`. -/
def Launch.index (t : l.Thread) (k : Nat) : CUInt :=
  l.stateId t + BitVec.ofNat 32 k * l.globalSize

/-- The generator state in the iteration with the number `k`. -/
def drawn (draw : σ → V × σ) (s : σ) : Nat → σ
  | 0 => s
  | k + 1 => (draw (drawn draw s k)).2

end Loop

section Loop

variable {σ V : Type} {l : Launch} {size : CSize} {draw : σ → V × σ} {s : σ} {t : l.Thread}
  {k : Nat}

theorem index_succ (t : l.Thread) (k : Nat) : l.index t (k + 1) = l.index t k + l.globalSize := by
  unfold Launch.index
  rw [BitVec.ofNat_add, BitVec.add_mul, BitVec.add_assoc]
  congr 2
  exact BitVec.one_mul _

/-- What an iteration does. -/
theorem iterate_eq_some_iff {a a' : Local σ} {w : Option (CUInt × V)} :
    iterate l size draw a = some (a', w) ↔
      a.index.setWidth 64 < l.sizeRoundedUp size ∧
        a' = ⟨a.index + l.globalSize, (draw a.state).2⟩ ∧
        w = if a.index.setWidth 64 < size then some (a.index, (draw a.state).1) else none := by
  unfold iterate
  split
  · next hlt =>
    constructor
    · intro h
      obtain ⟨rfl, rfl⟩ := Prod.mk.inj (Option.some.inj h)
      exact ⟨hlt, rfl, rfl⟩
    · rintro ⟨_, rfl, rfl⟩
      rfl
  · next hlt =>
    constructor
    · intro h
      cases h
    · rintro ⟨h, _⟩
      exact absurd h hlt

/-- The iterations that a thread does are those before the first index past the end. -/
theorem after_iff {a : Local σ} :
    after (iterate l size draw) ⟨l.stateId t, s⟩ k = some a ↔
      (∀ j < k, (l.index t j).setWidth 64 < l.sizeRoundedUp size) ∧
        a = ⟨l.index t k, drawn draw s k⟩ := by
  induction k generalizing a with
  | zero =>
    have hzero : l.index t 0 = l.stateId t := by simp [Launch.index]
    rw [hzero]
    constructor
    · intro h
      exact ⟨fun _ hj => absurd hj (Nat.not_lt_zero _), (Option.some.inj h).symm⟩
    · rintro ⟨_, rfl⟩
      rfl
  | succ k ih =>
    rw [index_succ]
    constructor
    · intro h
      obtain ⟨a₁, h₁, hstep⟩ := Option.bind_eq_some_iff.mp h
      obtain ⟨hbefore, rfl⟩ := ih.mp h₁
      obtain ⟨⟨a₂, w⟩, ha₂, rfl⟩ := Option.map_eq_some_iff.mp hstep
      obtain ⟨hlt, rfl, _⟩ := iterate_eq_some_iff.mp ha₂
      refine ⟨fun j hj => ?_, rfl⟩
      rcases Nat.lt_succ_iff_lt_or_eq.mp hj with hj | rfl
      · exact hbefore j hj
      · exact hlt
    · rintro ⟨hbefore, rfl⟩
      have h₁ := ih.mpr ⟨fun j hj => hbefore j (Nat.lt_succ_of_lt hj), rfl⟩
      exact after_succ_of_step h₁
        (iterate_eq_some_iff.mpr ⟨hbefore k (Nat.lt_succ_self k), rfl, rfl⟩)

theorem write_iff {i : CUInt} {v : V} :
    write (iterate l size draw) ⟨l.stateId t, s⟩ k = some (i, v) ↔
      (∀ j ≤ k, (l.index t j).setWidth 64 < l.sizeRoundedUp size) ∧
        l.index t k = i ∧ i.setWidth 64 < size ∧ (draw (drawn draw s k)).1 = v := by
  constructor
  · intro h
    obtain ⟨a₁, h₁, hstep⟩ := Option.bind_eq_some_iff.mp h
    obtain ⟨hbefore, rfl⟩ := after_iff.mp h₁
    obtain ⟨⟨a₂, w⟩, ha₂, hw⟩ := Option.bind_eq_some_iff.mp hstep
    obtain ⟨hlt, _, rfl⟩ := iterate_eq_some_iff.mp ha₂
    obtain ⟨hi, hv⟩ := Option.ite_none_right_eq_some.mp hw
    obtain ⟨rfl, rfl⟩ := Prod.mk.inj (Option.some.inj hv)
    refine ⟨fun j hj => ?_, rfl, hi, rfl⟩
    rcases Nat.lt_or_eq_of_le hj with hj | rfl
    · exact hbefore j hj
    · exact hlt
  · rintro ⟨hall, rfl, hi, rfl⟩
    have h₁ : after (iterate l size draw) ⟨l.stateId t, s⟩ k =
        some ⟨l.index t k, drawn draw s k⟩ :=
      after_iff.mpr ⟨fun j hj => hall j (Nat.le_of_lt hj), rfl⟩
    rw [write_of_step h₁ (iterate_eq_some_iff.mpr ⟨hall k (Nat.le_refl k), rfl, rfl⟩)]
    exact if_pos hi

end Loop

/-! ## Without wrapping -/

section Fits

variable {σ V : Type} {l : Launch} {size : CSize} {draw : σ → V × σ} {s : σ} {t : l.Thread}
  {k : Nat}

/-- The rounded size and one round of the grid fit into an `unsigned int`. -/
def Launch.Fits (l : Launch) (size : CSize) : Prop :=
  l.roundUp size.toNat + l.globalSize.toNat ≤ 2 ^ 32

/-- The number of iterations of a thread when no index wraps. -/
def Launch.iterations (l : Launch) (size : CSize) (t : l.Thread) : Nat :=
  (l.roundUp size.toNat - (l.stateId t).toNat + (l.globalSize.toNat - 1)) / l.globalSize.toNat

theorem lt_iterations_iff :
    k < l.iterations size t ↔
      (l.stateId t).toNat + k * l.globalSize.toNat < l.roundUp size.toNat := by
  have hpos := l.globalSize_pos
  rw [Launch.iterations, ← Nat.succ_le_iff, Nat.le_div_iff_mul_le hpos, Nat.succ_mul]
  generalize k * l.globalSize.toNat = m
  omega

theorem index_toNat :
    (l.index t k).toNat = ((l.stateId t).toNat + k * l.globalSize.toNat) % 2 ^ 32 := by
  rw [Launch.index, BitVec.toNat_add, BitVec.toNat_mul, BitVec.toNat_ofNat, Nat.mod_mul_mod,
    Nat.add_mod_mod]

namespace Launch.Fits

theorem size_le (h : l.Fits size) : size.toNat ≤ 2 ^ 32 :=
  Nat.le_trans (l.le_roundUp _) (Nat.le_trans (Nat.le_add_right ..) h)

theorem index_toNat_of_le (h : l.Fits size) (hk : k ≤ l.iterations size t) :
    (l.index t k).toNat = (l.stateId t).toNat + k * l.globalSize.toNat := by
  rw [index_toNat, Nat.mod_eq_of_lt]
  cases k with
  | zero =>
    rw [Nat.zero_mul]
    exact (l.stateId t).isLt
  | succ k =>
    have hlt := lt_iterations_iff.mp (Nat.lt_of_succ_le hk)
    rw [Nat.succ_mul, ← Nat.add_assoc]
    exact Nat.lt_of_lt_of_le (Nat.add_lt_add_right hlt _) h

/-- The index is before the end exactly in the iterations of the thread. -/
theorem before_end_iff (h : l.Fits size) :
    (∀ j < k, (l.index t j).setWidth 64 < l.sizeRoundedUp size) ↔ k ≤ l.iterations size t := by
  induction k with
  | zero => simp
  | succ k ih =>
    have hstep (hk : k ≤ l.iterations size t) :
        (l.index t k).setWidth 64 < l.sizeRoundedUp size ↔ k < l.iterations size t := by
      rw [BitVec.lt_def, BitVec.toNat_setWidth_of_le (by decide), l.sizeRoundedUp_toNat h.size_le,
        h.index_toNat_of_le hk, lt_iterations_iff]
    constructor
    · intro hall
      have hk := ih.mp fun j hj => hall j (Nat.lt_succ_of_lt hj)
      exact (hstep hk).mp (hall k (Nat.lt_succ_self k))
    · intro hk j hj
      rcases Nat.lt_succ_iff_lt_or_eq.mp hj with hj | rfl
      · exact ih.mpr (Nat.le_of_succ_le hk) j hj
      · exact (hstep (Nat.le_of_succ_le hk)).mpr hk

theorem write_iff (h : l.Fits size) {i : CUInt} {v : V} :
    write (iterate l size draw) ⟨l.stateId t, s⟩ k = some (i, v) ↔
      i.toNat = (l.stateId t).toNat + k * l.globalSize.toNat ∧ i.toNat < size.toNat ∧
        (draw (drawn draw s k)).1 = v := by
  have hsize (i : CUInt) : i.setWidth 64 < size ↔ i.toNat < size.toNat := by
    rw [BitVec.lt_def, BitVec.toNat_setWidth_of_le (by decide)]
  have hbefore : (∀ j ≤ k, (l.index t j).setWidth 64 < l.sizeRoundedUp size) ↔
      k < l.iterations size t := by
    rw [← Nat.succ_le_iff, ← h.before_end_iff]
    simp only [Nat.lt_succ_iff]
  rw [Kernel.write_iff, hbefore, hsize]
  constructor
  · rintro ⟨hk, rfl, hi, hv⟩
    exact ⟨h.index_toNat_of_le (Nat.le_of_lt hk), hi, hv⟩
  · rintro ⟨heq, hi, hv⟩
    have hk : k < l.iterations size t :=
      lt_iterations_iff.mpr (heq ▸ Nat.lt_of_lt_of_le hi (l.le_roundUp _))
    refine ⟨hk, BitVec.eq_of_toNat_eq ?_, hi, hv⟩
    rw [h.index_toNat_of_le (Nat.le_of_lt hk), heq]

theorem stops (h : l.Fits size) (t : l.Thread) (s : σ) :
    Stops (iterate l size draw) ⟨l.stateId t, s⟩ (l.iterations size t) := by
  refine ⟨_, after_iff.mpr ⟨h.before_end_iff.mpr (Nat.le_refl _), rfl⟩, ?_⟩
  refine if_neg fun hlt => ?_
  refine Nat.not_succ_le_self (l.iterations size t) (h.before_end_iff.mp fun j hj => ?_)
  rcases Nat.lt_succ_iff_lt_or_eq.mp hj with hj | rfl
  · exact h.before_end_iff.mpr (Nat.le_refl _) j hj
  · exact hlt

end Launch.Fits

end Fits

/-! ## What a launch writes -/

section Grid

variable {σ V : Type} (l : Launch) (size : CSize) (draw : l.Thread → σ → V × σ)
  (start : l.Thread → σ)

/-- The iteration with the number `k` of the thread `t` writes element `n`. -/
def WritesElement (t : l.Thread) (k n : Nat) : Prop :=
  ∃ (i : CUInt) (v : V), i.toNat = n ∧
    write (iterate l size (draw t)) ⟨l.stateId t, start t⟩ k = some (i, v)

/-- A grid that wraps comes back to the first element. -/
theorem writes_zero_again {l : Launch} {size : CSize} {draw : l.Thread → σ → V × σ}
    {start : l.Thread → σ} (hsize : size.toNat ≤ 2 ^ 32) (hpos : 0 < size.toNat)
    (hwrap : ¬ l.Fits size) :
    ∃ t k, 0 < k ∧ WritesElement l size draw start t k 0 := by
  have hglobal := l.globalSize_pos
  have hglobal_lt := l.globalSize.isLt
  obtain ⟨t, ht⟩ := l.exists_stateId (Nat.mod_lt (2 ^ 32) hglobal)
  have hround := Nat.div_add_mod' (2 ^ 32) l.globalSize.toNat
  refine ⟨t, 2 ^ 32 / l.globalSize.toNat, Nat.div_pos (Nat.le_of_lt hglobal_lt) hglobal, 0, _, rfl,
    write_iff.mpr ⟨fun j hj => ?_, ?_, ?_, rfl⟩⟩
  · rw [BitVec.lt_def, BitVec.toNat_setWidth_of_le (by decide), l.sizeRoundedUp_toNat hsize,
      index_toNat, ht]
    rcases Nat.lt_or_eq_of_le hj with hlt | rfl
    · -- one round before the first wrapped index
      have hle : (j + 1) * l.globalSize.toNat ≤ 2 ^ 32 / l.globalSize.toNat * l.globalSize.toNat :=
        Nat.mul_le_mul_right _ hlt
      rw [Nat.succ_mul] at hle
      unfold Launch.Fits at hwrap
      rw [Nat.mod_eq_of_lt (by omega)]
      omega
    · rw [Nat.add_comm, hround, Nat.mod_self]
      exact Nat.lt_of_lt_of_le hpos (l.le_roundUp _)
  · apply BitVec.eq_of_toNat_eq
    rw [index_toNat, ht, Nat.add_comm, hround, Nat.mod_self]
    rfl
  · rw [BitVec.lt_def]
    exact hpos

/-- The element `n` belongs to the iteration `n / global_size` of the thread
`n % global_size`. -/
theorem Launch.Fits.writes_once {l : Launch} {size : CSize} {draw : l.Thread → σ → V × σ}
    {start : l.Thread → σ} (hfits : l.Fits size) {n : Nat} (hn : n < size.toNat) :
    ∃! w : l.Thread × Nat, WritesElement l size draw start w.1 w.2 n := by
  have hglobal := l.globalSize_pos
  obtain ⟨t, ht⟩ := l.exists_stateId (Nat.mod_lt n hglobal)
  have hn32 : (BitVec.ofNat 32 n).toNat = n := by
    rw [BitVec.toNat_ofNat, Nat.mod_eq_of_lt (Nat.lt_of_lt_of_le hn hfits.size_le)]
  refine ⟨(t, n / l.globalSize.toNat), ⟨BitVec.ofNat 32 n, _, hn32,
    hfits.write_iff.mpr ⟨?_, ?_, rfl⟩⟩, ?_⟩
  · rw [hn32, ht]
    exact (Nat.mod_add_div' ..).symm
  · rw [hn32]
    exact hn
  · rintro ⟨u, k⟩ ⟨i, v, hi, hw⟩
    obtain ⟨heq, _, _⟩ := hfits.write_iff.mp hw
    rw [hi] at heq
    have hk : n / l.globalSize.toNat = k := by
      rw [heq, Nat.add_mul_div_right _ _ hglobal, Nat.div_eq_of_lt (l.stateId_lt u), Nat.zero_add]
    have hu : n % l.globalSize.toNat = (l.stateId u).toNat := by
      rw [heq, Nat.add_mul_mod_self_right, Nat.mod_eq_of_lt (l.stateId_lt u)]
    rw [hk, l.stateId_injective (ht.trans hu)]

/-- Each element is written by exactly one iteration of one thread, and all threads
stop, exactly if the rounded size and one round of the grid fit into 32 bits. -/
theorem grid_writes_once_iff :
    ((∀ n < size.toNat, ∃! w : l.Thread × Nat, WritesElement l size draw start w.1 w.2 n) ∧
      ∀ t, ∃ n, Stops (iterate l size (draw t)) ⟨l.stateId t, start t⟩ n) ↔
    l.roundUp size.toNat + l.globalSize.toNat ≤ 2 ^ 32 := by
  constructor
  · rintro ⟨honce, _⟩
    by_contra hwrap
    have hpos : 0 < size.toNat := by
      refine Nat.pos_of_ne_zero fun hzero => hwrap ?_
      have hbound := l.globalSize.isLt
      rw [hzero, show l.roundUp 0 = 0 by simp [Launch.roundUp_eq]]
      omega
    have hsize : size.toNat ≤ 2 ^ 32 := by
      by_contra hlt
      obtain ⟨_, ⟨i, _, hi, _⟩, _⟩ := honce (2 ^ 32) (Nat.lt_of_not_le hlt)
      exact absurd i.isLt (hi ▸ Nat.lt_irrefl _)
    obtain ⟨t, k, hk, hagain⟩ : ∃ t k, 0 < k ∧ WritesElement l size draw start t k 0 :=
      writes_zero_again hsize hpos hwrap
    obtain ⟨u, hu⟩ := l.exists_stateId l.globalSize_pos
    have hindex : l.index u 0 = 0 := BitVec.eq_of_toNat_eq (by rw [index_toNat, hu]; simp)
    have hfirst : WritesElement l size draw start u 0 0 := by
      refine ⟨0, _, rfl, write_iff.mpr ⟨fun j hj => ?_, hindex, BitVec.lt_def.mpr hpos, rfl⟩⟩
      rw [Nat.le_zero.mp hj, hindex, BitVec.lt_def, l.sizeRoundedUp_toNat hsize]
      exact Nat.lt_of_lt_of_le hpos (l.le_roundUp _)
    have hsame : (t, k) = (u, 0) := (honce 0 hpos).unique hagain hfirst
    rw [(Prod.mk.inj hsame).2] at hk
    exact Nat.lt_irrefl 0 hk
  · intro h
    have hfits : l.Fits size := h
    exact ⟨fun n hn => hfits.writes_once hn, fun t => ⟨_, hfits.stops t (start t)⟩⟩

/-- What all threads of a grid leave in the array, in any order of their iterations. -/
theorem grid_output {l : Launch} {size : CSize} {draw : l.Thread → σ → V × σ}
    {start : l.Thread → σ} (hfits : l.Fits size) {ts : List l.Thread}
    {c₀ c : Config l.Thread (Local σ) CUInt V}
    (hrun : (threads (fun t => iterate l size (draw t))
      (fun t => ⟨l.stateId t, start t⟩)).Run c₀ ts c)
    (h₀ : c₀.locals = fun t => ⟨l.stateId t, start t⟩)
    (hend : Finished (fun t => iterate l size (draw t)) c) (i : CUInt) :
    (i.toNat < size.toNat → ∀ t k, i.toNat = (l.stateId t).toNat + k * l.globalSize.toNat →
      c.mem i = (draw t (drawn (draw t) (start t) k)).1) ∧
    (size.toNat ≤ i.toNat → c.mem i = c₀.mem i) := by
  have honce : WrittenOnce (fun t => iterate l size (draw t))
      (fun t => (⟨l.stateId t, start t⟩ : Local σ)) i := by
    intro t k v t' k' v' h h'
    have hn : i.toNat < size.toNat := (hfits.write_iff.mp h).2.1
    have hsame : (t, k) = (t', k') :=
      (hfits.writes_once hn).unique ⟨i, v, rfl, h⟩ ⟨i, v', rfl, h'⟩
    exact Prod.mk.inj hsame
  obtain ⟨hwritten, hfirst⟩ := run_mem hrun h₀ honce
  constructor
  · intro hi t k heq
    refine hwritten t k _ (hfits.write_iff.mpr ⟨heq, hi, rfl⟩) ?_
    rw [(hfits.stops t (start t)).count_eq hrun h₀ hend, lt_iterations_iff, ← heq]
    exact Nat.lt_of_lt_of_le hi (l.le_roundUp _)
  · intro hi
    refine hfirst fun t k v hw => ?_
    exact absurd (hfits.write_iff.mp hw).2.1 (Nat.not_lt.mpr hi)

end Grid

/-- The threads of a block have their indices in one block of elements. -/
theorem in_block_iff {m a d r : Nat} (hr : r < d) : m * d + r < a * d ↔ m < a := by
  constructor
  · intro h
    by_contra hle
    have hmul : a * d ≤ m * d := Nat.mul_le_mul_right d (Nat.le_of_not_lt hle)
    omega
  · intro h
    have hmul : (m + 1) * d ≤ a * d := Nat.mul_le_mul_right d h
    rw [Nat.succ_mul] at hmul
    omega

/-- A launch whose index does not wrap: the threads of a block do the same number of
iterations, so they draw together. -/
theorem blocks_iterate_together {σ V : Type} {l : Launch} {size : CSize}
    (draw : l.Thread → σ → V × σ) (start : l.Thread → σ)
    (hfits : l.roundUp size.toNat + l.globalSize.toNat ≤ 2 ^ 32)
    (blockIdx : Fin l.gridDim.toNat) :
    ∃ n, ∀ threadIdx, Stops (iterate l size (draw ⟨blockIdx, threadIdx⟩))
      ⟨l.stateId ⟨blockIdx, threadIdx⟩, start ⟨blockIdx, threadIdx⟩⟩ n := by
  have hfits' : l.Fits size := hfits
  -- the first thread of the block, in whole rounds of the grid
  have hlt (threadIdx : Fin l.blockDim.toNat) (k : Nat) :
      k < l.iterations size ⟨blockIdx, threadIdx⟩ ↔
        blockIdx + k * l.gridDim.toNat <
          (size.toNat + (l.blockDim.toNat - 1)) / l.blockDim.toNat := by
    rw [lt_iterations_iff, l.stateId_toNat, l.globalSize_toNat, Launch.roundUp,
      Nat.add_right_comm, ← Nat.mul_assoc, ← Nat.add_mul]
    exact in_block_iff threadIdx.isLt
  refine ⟨l.iterations size ⟨blockIdx, ⟨0, l.blockDim_pos⟩⟩, fun threadIdx => ?_⟩
  have heq : l.iterations size ⟨blockIdx, ⟨0, l.blockDim_pos⟩⟩ =
      l.iterations size ⟨blockIdx, threadIdx⟩ :=
    eq_of_forall_lt_iff fun k => (hlt _ k).trans (hlt _ k).symm
  rw [heq]
  exact hfits'.stops _ _

/-! ## The kernels -/

section Kernels

variable (l : Launch) (size : CSize)

/-- `hiprand_kernel`, and with another generating function in place of `hiprand` the
kernels for the distributions. -/
def hiprandKernel {σ V : Type} (hiprandInit : CULongLong → CULongLong → CULongLong → σ)
    (hiprand : σ → V × σ) : System (Config l.Thread (Local σ) CUInt V) l.Thread :=
  threads (fun _ => iterate l size hiprand)
    fun t => ⟨l.stateId t, hiprandInit 12345 ((l.stateId t).setWidth 64) 0⟩

variable {T : SobolType} (lib : SobolLib)

/-- What an iteration of `hiprand_sobol_kernel` does with the state. -/
def drawAndSkip {V : Type} (hiprand : lib.Base T → V × lib.Base T) (state : lib.Base T) :
    V × lib.Base T :=
  let (value, state) := hiprand state
  (value, lib.skipahead ((l.globalSize - 1).setWidth 64) state)

/-- `hiprand_sobol_kernel`, and the Sobol kernels for the distributions. -/
def hiprandSobolKernel {V : Type} (hiprand : lib.Base T → V × lib.Base T) (args : SobolArgs T) :
    System (Config l.Thread (Local (lib.Base T)) CUInt V) l.Thread :=
  threads (fun _ => iterate l size (drawAndSkip l lib hiprand))
    fun t => ⟨l.stateId t, lib.init args (l.stateId t)⟩

end Kernels

/-- No thread of a kernel is left in its loop. -/
def Completed {σ V : Type} (l : Launch) (size : CSize) (c : Config l.Thread (Local σ) CUInt V) :
    Prop :=
  ∀ t, l.sizeRoundedUp size ≤ (c.locals t).index.setWidth 64

section Kernels

variable {l : Launch} {size : CSize}

theorem finished_iff_completed {σ V : Type} {draw : l.Thread → σ → V × σ}
    {c : Config l.Thread (Local σ) CUInt V} :
    Finished (fun t => iterate l size (draw t)) c ↔ Completed l size c := by
  refine forall_congr' fun t => ?_
  simp [iterate]

instance : Fintype l.Thread :=
  Fintype.ofEquiv (Fin l.gridDim.toNat × Fin l.blockDim.toNat)
    ⟨fun p => ⟨p.1, p.2⟩, fun t => (t.blockIdx, t.threadIdx), fun _ => rfl, fun _ => rfl⟩

/-- The values of a state one after another. -/
def valueAt {σ V : Type} (hiprand : σ → V × σ) (s : σ) (n : Nat) : V :=
  (hiprand (drawn hiprand s n)).1

/-- A kernel with a subsequence for each thread fills the array with them, interleaved:
element `i` is the value `i / global_size` of the subsequence `i % global_size`. The launch
has to be one whose index does not wrap around. -/
theorem hiprandKernel_output {σ V : Type}
    (hiprandInit : CULongLong → CULongLong → CULongLong → σ) (hiprand : σ → V × σ)
    (hfits : l.roundUp size.toNat + l.globalSize.toNat ≤ 2 ^ 32)
    {c₀ c : Config l.Thread (Local σ) CUInt V} {ts : List l.Thread}
    (h₀ : (hiprandKernel l size hiprandInit hiprand).init c₀)
    (hrun : (hiprandKernel l size hiprandInit hiprand).Run c₀ ts c) :
    (∃ ts' c', (hiprandKernel l size hiprandInit hiprand).Run c₀ (ts ++ ts') c' ∧
      Completed l size c') ∧
    (Completed l size c → ∀ i,
      c.mem i =
        if i.toNat < size.toNat then
          valueAt hiprand (hiprandInit 12345 (BitVec.ofNat 64 (i.toNat % l.globalSize.toNat)) 0)
            (i.toNat / l.globalSize.toNat)
        else c₀.mem i) := by
  have hfits' : l.Fits size := hfits
  constructor
  · obtain ⟨ts', c', hrun', hend⟩ := exists_finished (fun t => hfits'.stops t _) hrun h₀
    exact ⟨ts', c', hrun', finished_iff_completed.mp hend⟩
  · intro hcompleted i
    obtain ⟨hwritten, hkept⟩ :=
      grid_output hfits' hrun h₀ (finished_iff_completed.mpr hcompleted) i
    split
    · next hi =>
      obtain ⟨t, ht⟩ := l.exists_stateId (Nat.mod_lt i.toNat l.globalSize_pos)
      have hid : (l.stateId t).setWidth 64 = BitVec.ofNat 64 (i.toNat % l.globalSize.toNat) := by
        rw [← ht]
        exact (BitVec.ofNat_toNat ..).symm
      rw [hwritten hi t (i.toNat / l.globalSize.toNat) (by rw [ht]; exact (Nat.mod_add_div' ..).symm),
        valueAt, hid]
    · next hi => exact hkept (Nat.le_of_not_lt hi)

/-! ## Sobol kernels -/

/-- What the Sobol kernels rely on: skips add up. -/
def SobolLib.SkipsAdd (lib : SobolLib) : Prop :=
  ∀ {t} (n m : CULongLong) (state : lib.Base t),
    lib.skipahead n (lib.skipahead m state) = lib.skipahead (m + n) state

/-- A generating function that takes one value of the sequence. -/
def DrawsOne {V : Type} {T : SobolType} (lib : SobolLib) (hiprand : lib.Base T → V × lib.Base T) :
    Prop :=
  ∀ state, (hiprand state).2 = lib.skipahead 1 state

section Sobol

variable {V : Type} {T : SobolType} {lib : SobolLib} {hiprand : lib.Base T → V × lib.Base T}
  {args : SobolArgs T}

/-- Drawing a value and skipping the values of the other threads moves on by one round. -/
theorem drawn_drawAndSkip (hskips : lib.SkipsAdd) (hdraws : DrawsOne lib hiprand) (m : CULongLong)
    (state : lib.Base T) (k : Nat) :
    drawn (drawAndSkip l lib hiprand) (lib.skipahead m state) k =
      lib.skipahead (m + BitVec.ofNat 64 (k * l.globalSize.toNat)) state := by
  have hround : (1 : CULongLong) + (l.globalSize - 1).setWidth 64 =
      BitVec.ofNat 64 l.globalSize.toNat := by
    have hpos := l.globalSize_pos
    have hone : (1 : CUInt) ≤ l.globalSize := BitVec.le_def.mpr hpos
    apply BitVec.eq_of_toNat_eq
    rw [BitVec.toNat_add, BitVec.toNat_setWidth_of_le (by decide), BitVec.toNat_ofNat,
      BitVec.toNat_sub_of_le hone]
    show (1 + (l.globalSize.toNat - 1)) % 2 ^ 64 = l.globalSize.toNat % 2 ^ 64
    rw [Nat.add_sub_cancel' hpos]
  induction k with
  | zero => simp [drawn]
  | succ k ih =>
    show lib.skipahead ((l.globalSize - 1).setWidth 64) (hiprand (drawn _ _ k)).2 = _
    rw [hdraws, ih, hskips, hskips, hround, BitVec.add_assoc, ← BitVec.ofNat_add, Nat.succ_mul]

/-- A Sobol kernel fills the array with the sequence in order, whatever the launch, if the
index does not wrap around. -/
theorem hiprandSobolKernel_output (hlib : lib.Lawful) (hskips : lib.SkipsAdd)
    (hdraws : DrawsOne lib hiprand)
    (hfits : l.roundUp size.toNat + l.globalSize.toNat ≤ 2 ^ 32)
    {c₀ c : Config l.Thread (Local (lib.Base T)) CUInt V} {ts : List l.Thread}
    (h₀ : (hiprandSobolKernel l size lib hiprand args).init c₀)
    (hrun : (hiprandSobolKernel l size lib hiprand args).Run c₀ ts c) :
    (∃ ts' c', (hiprandSobolKernel l size lib hiprand args).Run c₀ (ts ++ ts') c' ∧
      Completed l size c') ∧
    (Completed l size c → ∀ i,
      c.mem i =
        if i.toNat < size.toNat then
          (hiprand (lib.skipahead (i.setWidth 64) (lib.init args 0))).1
        else c₀.mem i) := by
  have hfits' : l.Fits size := hfits
  constructor
  · obtain ⟨ts', c', hrun', hend⟩ := exists_finished (fun t => hfits'.stops t _) hrun h₀
    exact ⟨ts', c', hrun', finished_iff_completed.mp hend⟩
  · intro hcompleted i
    obtain ⟨hwritten, hkept⟩ :=
      grid_output hfits' hrun h₀ (finished_iff_completed.mpr hcompleted) i
    split
    · next hi =>
      obtain ⟨t, ht⟩ := l.exists_stateId (Nat.mod_lt i.toNat l.globalSize_pos)
      have hindex : (l.stateId t).setWidth 64 +
          BitVec.ofNat 64 (i.toNat / l.globalSize.toNat * l.globalSize.toNat) = i.setWidth 64 := by
        rw [← BitVec.ofNat_toNat, ht, ← BitVec.ofNat_add, Nat.mod_add_div', BitVec.ofNat_toNat]
      rw [hwritten hi t (i.toNat / l.globalSize.toNat) (by rw [ht]; exact (Nat.mod_add_div' ..).symm),
        hlib.init_eq, drawn_drawAndSkip hskips hdraws, hindex]
      rfl
    · next hi => exact hkept (Nat.le_of_not_lt hi)

end Sobol

end Kernels

/-! ## The launch of the tests -/

/-- `<<<dim3(4), dim3(64), 0, 0>>>` -/
def testLaunch : Launch where
  gridDim := 4
  blockDim := 64
  gridDim_pos := by decide
  blockDim_pos := by decide
  threads_lt := by decide

/-- An array of 8200 elements, which is not a multiple of the blocks. -/
theorem blocks_iterate_together_test :
    ∃ n, ∀ threadIdx, Stops
      (iterate testLaunch 8200 fun s : Nat => (s, s + 1))
      ⟨testLaunch.stateId ⟨⟨1, by decide⟩, threadIdx⟩, 0⟩ n :=
  blocks_iterate_together (fun _ s => (s, s + 1)) (fun _ => 0) (by decide) ⟨1, by decide⟩

/-- States that are a subsequence with a counter. -/
def countingInit (_seed subsequence _offset : CULongLong) : CULongLong × Nat :=
  (subsequence, 0)

def countingNext (s : CULongLong × Nat) : (CULongLong × Nat) × (CULongLong × Nat) :=
  (s, s.1, s.2 + 1)

def countingStart : Config testLaunch.Thread (Local (CULongLong × Nat)) CUInt (CULongLong × Nat) where
  locals t := ⟨testLaunch.stateId t, countingInit 12345 ((testLaunch.stateId t).setWidth 64) 0⟩
  mem _ := (0, 0)

/-- Element 300 of the array is the second value of the thread 44. -/
theorem hiprandKernel_output_test :
    ∃ ts c, (hiprandKernel testLaunch 8200 countingInit countingNext).Run countingStart ts c ∧
      Completed testLaunch 8200 c ∧ c.mem 300 = (44, 1) := by
  have hfits : testLaunch.roundUp (8200 : CSize).toNat + testLaunch.globalSize.toNat ≤ 2 ^ 32 := by
    decide
  have hstart : (hiprandKernel testLaunch 8200 countingInit countingNext).init countingStart := rfl
  obtain ⟨ts, c, hrun, hcompleted⟩ :=
    (hiprandKernel_output countingInit countingNext hfits hstart .nil).1
  exact ⟨_, c, hrun, hcompleted,
    (hiprandKernel_output countingInit countingNext hfits hstart hrun).2 hcompleted 300⟩

theorem sobolLib_skipsAdd : sobolLib.SkipsAdd := by
  intro t n m state
  show (state.1, state.2 + m.setWidth t.width + n.setWidth t.width) =
    (state.1, state.2 + (m + n).setWidth t.width)
  rw [BitVec.setWidth_add _ _ (width_bounds t).2, BitVec.add_assoc]

theorem sobolLib_drawsOne (T : SobolType) : DrawsOne (T := T) sobolLib sobolLib.next := by
  intro state
  show (state.1, state.2 + 1) = (state.1, state.2 + (1 : CULongLong).setWidth T.width)
  cases T <;> rfl

def sobolStart :
    Config testLaunch.Thread (Local (sobolLib.Base .sobol64)) CUInt (BitVec SobolType.sobol64.width) where
  locals t := ⟨testLaunch.stateId t, sobolLib.init (.sobol64 firstDimension) (testLaunch.stateId t)⟩
  mem _ := 0

/-- Element 300 of the array is the value 300 of the sequence. -/
theorem hiprandSobolKernel_output_test :
    ∃ ts c, (hiprandSobolKernel testLaunch 8200 sobolLib sobolLib.next
        (.sobol64 firstDimension)).Run sobolStart ts c ∧ Completed testLaunch 8200 c ∧
      c.mem 300 = (sobolLib.next (sobolLib.skipahead 300
        (sobolLib.init (.sobol64 firstDimension) 0))).1 := by
  have hfits : testLaunch.roundUp (8200 : CSize).toNat + testLaunch.globalSize.toNat ≤ 2 ^ 32 := by
    decide
  have hstart : (hiprandSobolKernel testLaunch 8200 sobolLib sobolLib.next
      (.sobol64 firstDimension)).init sobolStart := rfl
  obtain ⟨ts, c, hrun, hcompleted⟩ := (hiprandSobolKernel_output sobolLib_lawful sobolLib_skipsAdd
    (sobolLib_drawsOne .sobol64) hfits hstart .nil).1
  exact ⟨_, c, hrun, hcompleted, (hiprandSobolKernel_output sobolLib_lawful sobolLib_skipsAdd
    (sobolLib_drawsOne .sobol64) hfits hstart hrun).2 hcompleted 300⟩

end HipRand.Kernel
