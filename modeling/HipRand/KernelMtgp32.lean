import HipRand.Basic
import HipRand.Lib.System
import Mathlib.Algebra.Order.BigOperators.Group.Finset

/-!
# Copying an MTGP32 state with a block of threads

`hiprand_mtgp32_block_copy` and `hiprand_mtgp32_set_params` of
`hiprand_kernel_nvcc.h`. The device path of the copy is a program that every thread
of the block runs: a loop over every `blockDim.x`-th word, two assignments for
thread 0, and a barrier. The threads take their assignments in any order.

Results:
1. `start_finishes`: from every state of a copy all threads can reach the end.
2. `run_copies`: at the end the destination has the words, `offset` and `pIdx` of
   the source, and the `k` that it had before.
3. `blockCopy_isCopy_iff`: the device path does what the other path does exactly if
   both states have the same `k` before.
-/

namespace HipRand.Kernel

open Transition

/-! ## The state and its two functions -/

/-- `hiprandStateMtgp32_t`, with `stateSize` for `MTGP32_STATE_SIZE`. -/
@[ext] structure Mtgp32State (stateSize : Nat) where
  s : Fin stateSize → CUInt
  offset : BitVec 32
  pIdx : BitVec 32
  k : Pointer

variable {stateSize blockDim : Nat}

/-- `*dest = *src`, the path of the block copy that is not for the device. -/
def hiprandMtgp32BlockCopyHost (src _dest : Mtgp32State stateSize) : Mtgp32State stateSize :=
  src

def hiprandMtgp32SetParams (state : Mtgp32State stateSize) (params : Pointer) :
    Mtgp32State stateSize :=
  { state with k := params }

/-! ## The device path -/

/-- Where a thread is: in the loop with its `i`, before one of the assignments of
thread 0, at the barrier, or past it. -/
inductive Pc
  | copyWords (i : Nat)
  | copyOffset
  | copyPIdx
  | syncthreads
  | passed
  deriving DecidableEq, Repr

/-- The two states, which do not overlap, and the threads of the block. -/
structure BlockState (stateSize blockDim : Nat) where
  src : Mtgp32State stateSize
  dest : Mtgp32State stateSize
  pc : Fin blockDim → Pc

namespace BlockState

def setPc (b : BlockState stateSize blockDim) (thread : Fin blockDim) (pc : Pc) :
    BlockState stateSize blockDim :=
  { b with pc := Function.update b.pc thread pc }

def copyWord (b : BlockState stateSize blockDim) (i : Fin stateSize) :
    BlockState stateSize blockDim :=
  { b with dest := { b.dest with s := Function.update b.dest.s i (b.src.s i) } }

def copyOffset (b : BlockState stateSize blockDim) : BlockState stateSize blockDim :=
  { b with dest := { b.dest with offset := b.src.offset } }

def copyPIdx (b : BlockState stateSize blockDim) : BlockState stateSize blockDim :=
  { b with dest := { b.dest with pIdx := b.src.pIdx } }

@[simp] theorem setPc_src (b : BlockState stateSize blockDim) (t : Fin blockDim) (pc : Pc) :
    (b.setPc t pc).src = b.src := rfl

@[simp] theorem setPc_dest (b : BlockState stateSize blockDim) (t : Fin blockDim) (pc : Pc) :
    (b.setPc t pc).dest = b.dest := rfl

@[simp] theorem setPc_self (b : BlockState stateSize blockDim) (t : Fin blockDim) (pc : Pc) :
    (b.setPc t pc).pc t = pc := Function.update_self ..

theorem setPc_of_ne (b : BlockState stateSize blockDim) {t u : Fin blockDim} (h : u ≠ t)
    (pc : Pc) : (b.setPc t pc).pc u = b.pc u := Function.update_of_ne h ..

/-- Where a thread is after one of them moved on. -/
theorem setPc_imp (b : BlockState stateSize blockDim) {t u : Fin blockDim} {pc : Pc}
    {P : Pc → Prop} (h : P ((b.setPc t pc).pc u)) : u = t ∧ P pc ∨ P (b.pc u) := by
  by_cases hut : u = t
  · subst hut
    rw [setPc_self] at h
    exact .inl ⟨rfl, h⟩
  · rw [b.setPc_of_ne hut] at h
    exact .inr h

end BlockState

/-- A thread starts the loop at its own index. -/
def blockCopyStart (src dest : Mtgp32State stateSize) : BlockState stateSize blockDim where
  src := src
  dest := dest
  pc thread := .copyWords thread

/-- The thread is at the barrier or past it. -/
def Pc.Arrived (pc : Pc) : Prop :=
  pc = syncthreads ∨ pc = passed

instance (pc : Pc) : Decidable pc.Arrived :=
  inferInstanceAs (Decidable (_ ∨ _))

/-- The next assignment or jump of a thread; at the barrier it waits for all others.
A block has few enough threads for the `int i` not to overflow. -/
def threadStep (b : BlockState stateSize blockDim) (thread : Fin blockDim) :
    Option (BlockState stateSize blockDim) :=
  match b.pc thread with
  | .copyWords i =>
    if h : i < stateSize then
      some ((b.copyWord ⟨i, h⟩).setPc thread (.copyWords (i + blockDim)))
    else if thread.val = 0 then
      some (b.setPc thread .copyOffset)
    else
      some (b.setPc thread .syncthreads)
  | .copyOffset => some (b.copyOffset.setPc thread .copyPIdx)
  | .copyPIdx => some (b.copyPIdx.setPc thread .syncthreads)
  | .syncthreads =>
    if ∀ other, (b.pc other).Arrived then some (b.setPc thread .passed) else none
  | .passed => none

/-- The device path: the threads take their steps in any order. -/
def blockCopy (stateSize blockDim : Nat) : System (BlockState stateSize blockDim) (Fin blockDim) where
  init b := ∃ src dest, b = blockCopyStart src dest
  step b thread b' := threadStep b thread = some b'

/-- What one step of a thread does. -/
theorem threadStep_cases {b b' : BlockState stateSize blockDim} {t : Fin blockDim}
    (h : threadStep b t = some b') :
    (∃ i, b.pc t = .copyWords i.val ∧ b' = (b.copyWord i).setPc t (.copyWords (i + blockDim))) ∨
    (∃ i, stateSize ≤ i ∧ b.pc t = .copyWords i ∧
      b' = b.setPc t (if t.val = 0 then .copyOffset else .syncthreads)) ∨
    (b.pc t = .copyOffset ∧ b' = b.copyOffset.setPc t .copyPIdx) ∨
    (b.pc t = .copyPIdx ∧ b' = b.copyPIdx.setPc t .syncthreads) ∨
    (b.pc t = .syncthreads ∧ b' = b.setPc t .passed) := by
  unfold threadStep at h
  split at h
  case h_1 i hpc =>
    split at h
    · next hi => exact .inl ⟨⟨i, hi⟩, hpc, (Option.some.inj h).symm⟩
    · next hi =>
      refine .inr (.inl ⟨i, Nat.le_of_not_lt hi, hpc, ?_⟩)
      split at h
      · next h0 => rw [if_pos h0, Option.some.inj h]
      · next h0 => rw [if_neg h0, Option.some.inj h]
  case h_2 hpc => exact .inr (.inr (.inl ⟨hpc, (Option.some.inj h).symm⟩))
  case h_3 hpc => exact .inr (.inr (.inr (.inl ⟨hpc, (Option.some.inj h).symm⟩)))
  case h_4 hpc =>
    split at h
    · exact .inr (.inr (.inr (.inr ⟨hpc, (Option.some.inj h).symm⟩)))
    · cases h
  case h_5 => cases h

/-! ## What a run keeps -/

/-- The thread has stored its words up to the index `i`. -/
def Pc.PastWord (i : Nat) : Pc → Prop
  | copyWords j => i < j
  | _ => True

def Pc.PastOffset : Pc → Prop
  | copyWords _ | copyOffset => False
  | _ => True

def Pc.PastPIdx : Pc → Prop
  | copyWords _ | copyOffset | copyPIdx => False
  | _ => True

/-- What holds during a copy of `src` to `dest`: a component that a thread is past has
been copied. -/
structure Copying (src dest : Mtgp32State stateSize) (b : BlockState stateSize blockDim) : Prop where
  src_eq : b.src = src
  k_eq : b.dest.k = dest.k
  inLoop : ∀ t i, b.pc t = .copyWords i → i % blockDim = t.val
  words : ∀ t i, i.val % blockDim = t.val → (b.pc t).PastWord i.val → b.dest.s i = src.s i
  offset : ∀ t, t.val = 0 → (b.pc t).PastOffset → b.dest.offset = src.offset
  pIdx : ∀ t, t.val = 0 → (b.pc t).PastPIdx → b.dest.pIdx = src.pIdx

theorem Copying.start (src dest : Mtgp32State stateSize) :
    Copying src dest (blockCopyStart src dest : BlockState stateSize blockDim) where
  src_eq := rfl
  k_eq := rfl
  inLoop t i h := by
    obtain rfl := Pc.copyWords.inj h
    exact Nat.mod_eq_of_lt t.isLt
  words t i hi hpast := by
    have hlt : i.val < t.val := hpast
    -- the thread would have an index below its own in its residue class
    have hle : t.val ≤ i.val := hi ▸ Nat.mod_le i.val blockDim
    omega
  offset t _ hpast := hpast.elim
  pIdx t _ hpast := hpast.elim

namespace Copying

variable {src dest : Mtgp32State stateSize} {b b' : BlockState stateSize blockDim}

theorem copyWord (h : Copying src dest b) (i : Fin stateSize) : Copying src dest (b.copyWord i) where
  src_eq := h.src_eq
  k_eq := h.k_eq
  inLoop := h.inLoop
  words t j hj hpast := by
    show Function.update b.dest.s i (b.src.s i) j = src.s j
    by_cases hji : j = i
    · rw [hji, Function.update_self, h.src_eq]
    · rw [Function.update_of_ne hji]
      exact h.words t j hj hpast
  offset := h.offset
  pIdx := h.pIdx

theorem copyOffset (h : Copying src dest b) : Copying src dest b.copyOffset where
  src_eq := h.src_eq
  k_eq := h.k_eq
  inLoop := h.inLoop
  words := h.words
  offset _ _ _ := by
    show b.src.offset = src.offset
    rw [h.src_eq]
  pIdx := h.pIdx

theorem copyPIdx (h : Copying src dest b) : Copying src dest b.copyPIdx where
  src_eq := h.src_eq
  k_eq := h.k_eq
  inLoop := h.inLoop
  words := h.words
  offset := h.offset
  pIdx _ _ _ := by
    show b.src.pIdx = src.pIdx
    rw [h.src_eq]

/-- A thread may move on when what it is then past has been copied. -/
theorem setPc (h : Copying src dest b) {t : Fin blockDim} {pc : Pc}
    (hloop : ∀ i, pc = .copyWords i → i % blockDim = t.val)
    (hwords : ∀ i, i.val % blockDim = t.val → pc.PastWord i.val → b.dest.s i = src.s i)
    (hoffset : t.val = 0 → pc.PastOffset → b.dest.offset = src.offset)
    (hpIdx : t.val = 0 → pc.PastPIdx → b.dest.pIdx = src.pIdx) :
    Copying src dest (b.setPc t pc) where
  src_eq := h.src_eq
  k_eq := h.k_eq
  inLoop u i hu := by
    rcases b.setPc_imp (P := (· = .copyWords i)) hu with ⟨rfl, hpc⟩ | hpc
    · exact hloop i hpc
    · exact h.inLoop u i hpc
  words u i hi hpast := by
    rcases b.setPc_imp (P := (·.PastWord i.val)) hpast with ⟨rfl, hpc⟩ | hpc
    · exact hwords i hi hpc
    · exact h.words u i hi hpc
  offset u hu hpast := by
    rcases b.setPc_imp hpast with ⟨rfl, hpc⟩ | hpc
    · exact hoffset hu hpc
    · exact h.offset u hu hpc
  pIdx u hu hpast := by
    rcases b.setPc_imp hpast with ⟨rfl, hpc⟩ | hpc
    · exact hpIdx hu hpc
    · exact h.pIdx u hu hpc

/-- Between two indices of one thread there is none of its other ones. -/
theorem lt_or_eq_of_lt_add {i j : Nat} (hij : i % blockDim = j % blockDim)
    (h : i < j + blockDim) : i < j ∨ i = j := by
  rcases Nat.lt_or_ge i j with hlt | hge
  · exact .inl hlt
  · right
    have hdvd : blockDim ∣ i - j :=
      Nat.dvd_of_mod_eq_zero (Nat.sub_mod_eq_zero_of_mod_eq hij)
    have hzero : i - j = 0 := Nat.eq_zero_of_dvd_of_lt hdvd (by omega)
    omega

theorem step (h : Copying src dest b) {t : Fin blockDim} (hstep : threadStep b t = some b') :
    Copying src dest b' := by
  rcases threadStep_cases hstep with ⟨i, hpc, rfl⟩ | ⟨i, hi, hpc, rfl⟩ | ⟨hpc, rfl⟩ | ⟨hpc, rfl⟩ |
    ⟨hpc, rfl⟩
  · have hmod := h.inLoop t i.val hpc
    refine (h.copyWord i).setPc ?_ ?_ (fun _ hpast => hpast.elim) (fun _ hpast => hpast.elim)
    · intro j hj
      obtain rfl := Pc.copyWords.inj hj
      rw [Nat.add_mod_right]
      exact hmod
    · intro j hj hpast
      show Function.update b.dest.s i (b.src.s i) j = src.s j
      by_cases hji : j = i
      · rw [hji, Function.update_self, h.src_eq]
      · rw [Function.update_of_ne hji]
        have hlt : j.val < i.val :=
          (lt_or_eq_of_lt_add (hj.trans hmod.symm) hpast).resolve_right (mt Fin.ext hji)
        refine h.words t j hj ?_
        rw [hpc]
        exact hlt
  · -- the loop has ended, so all words of the thread are behind it
    have hwords : ∀ j : Fin stateSize, j.val % blockDim = t.val → b.dest.s j = src.s j := by
      intro j hj
      refine h.words t j hj ?_
      rw [hpc]
      exact Nat.lt_of_lt_of_le j.isLt hi
    split
    · exact h.setPc (nofun) (fun j hj _ => hwords j hj) (fun _ hpast => hpast.elim)
        (fun _ hpast => hpast.elim)
    · next h0 =>
      exact h.setPc (nofun) (fun j hj _ => hwords j hj) (fun ht => absurd ht h0)
        (fun ht => absurd ht h0)
  · have hoffset : b.src.offset = src.offset := by rw [h.src_eq]
    refine h.copyOffset.setPc (nofun) (fun j hj _ => h.words t j hj ?_) (fun _ _ => hoffset)
      (fun _ hpast => hpast.elim)
    rw [hpc]
    trivial
  · have hpIdx : b.src.pIdx = src.pIdx := by rw [h.src_eq]
    refine h.copyPIdx.setPc (nofun) (fun j hj _ => h.words t j hj ?_)
      (fun ht _ => h.offset t ht ?_) (fun _ _ => hpIdx)
    all_goals
      rw [hpc]
      trivial
  · refine h.setPc (nofun) (fun j hj _ => h.words t j hj ?_) (fun ht _ => h.offset t ht ?_)
      (fun ht _ => h.pIdx t ht ?_)
    all_goals
      rw [hpc]
      trivial

end Copying

/-- All threads of the block have passed the barrier. -/
def BlockState.AllPassed (b : BlockState stateSize blockDim) : Prop :=
  ∀ t, b.pc t = .passed

/-- What a run of the device path leaves in the two states. -/
theorem run_copies (hblock : 1 ≤ blockDim) {src dest : Mtgp32State stateSize}
    {threads : List (Fin blockDim)} {b : BlockState stateSize blockDim}
    (hrun : (blockCopy stateSize blockDim).Run (blockCopyStart src dest) threads b)
    (hpassed : b.AllPassed) : b.src = src ∧ b.dest = { src with k := dest.k } := by
  have h : Copying src dest b :=
    hrun.preserves (fun _ _ _ hcopy hstep => hcopy.step hstep) (.start src dest)
  let first : Fin blockDim := ⟨0, hblock⟩
  refine ⟨h.src_eq, Mtgp32State.ext ?_ ?_ ?_ h.k_eq⟩
  · funext i
    let owner : Fin blockDim := ⟨i.val % blockDim, Nat.mod_lt i.val hblock⟩
    refine h.words owner i rfl ?_
    rw [hpassed owner]
    trivial
  · refine h.offset first rfl ?_
    rw [hpassed first]
    trivial
  · refine h.pIdx first rfl ?_
    rw [hpassed first]
    trivial

/-! ## Every copy can finish -/

/-- How many steps of a thread are left, at most. -/
def Pc.left (stateSize : Nat) : Pc → Nat
  | copyWords i => stateSize - i + 4
  | copyOffset => 3
  | copyPIdx => 2
  | syncthreads => 1
  | passed => 0

def BlockState.left (b : BlockState stateSize blockDim) : Nat :=
  ∑ t, (b.pc t).left stateSize

theorem left_setPc {b : BlockState stateSize blockDim} {t : Fin blockDim} {pc : Pc}
    (h : pc.left stateSize < (b.pc t).left stateSize) : (b.setPc t pc).left < b.left := by
  refine Finset.sum_lt_sum (fun u _ => ?_) ⟨t, Finset.mem_univ t, ?_⟩
  · by_cases hut : u = t
    · subst hut
      rw [BlockState.setPc_self]
      exact Nat.le_of_lt h
    · rw [b.setPc_of_ne hut]
  · rw [BlockState.setPc_self]
    exact h

/-- Each step of a thread brings the end nearer. -/
theorem left_threadStep (hblock : 1 ≤ blockDim) {b b' : BlockState stateSize blockDim}
    {t : Fin blockDim} (h : threadStep b t = some b') : b'.left < b.left := by
  rcases threadStep_cases h with ⟨i, hpc, rfl⟩ | ⟨i, _, hpc, rfl⟩ | ⟨hpc, rfl⟩ | ⟨hpc, rfl⟩ |
    ⟨hpc, rfl⟩
  · refine left_setPc (b := b.copyWord i) (?_ : _ < (b.pc t).left stateSize)
    rw [hpc]
    have hlt := i.isLt
    show stateSize - (i + blockDim) + 4 < stateSize - i + 4
    omega
  · refine left_setPc ?_
    rw [hpc]
    split
    · exact Nat.lt_of_lt_of_le (by decide : 3 < 4) (Nat.le_add_left 4 _)
    · exact Nat.lt_of_lt_of_le (by decide : 1 < 4) (Nat.le_add_left 4 _)
  · refine left_setPc (b := b.copyOffset) (?_ : _ < (b.pc t).left stateSize)
    rw [hpc]
    exact Nat.lt_succ_self 2
  · refine left_setPc (b := b.copyPIdx) (?_ : _ < (b.pc t).left stateSize)
    rw [hpc]
    exact Nat.lt_succ_self 1
  · refine left_setPc ?_
    rw [hpc]
    exact Nat.zero_lt_one

/-- The block is never stuck before all threads have passed. -/
theorem exists_threadStep {b : BlockState stateSize blockDim} (h : ¬ b.AllPassed) :
    ∃ t b', threadStep b t = some b' := by
  by_cases harrived : ∀ t, (b.pc t).Arrived
  · -- all wait at the barrier or are past it, so one that waits may pass
    obtain ⟨t, ht⟩ := not_forall.mp h
    have hpc : b.pc t = .syncthreads := (harrived t).resolve_right ht
    refine ⟨t, b.setPc t .passed, ?_⟩
    simp only [threadStep, hpc, if_pos harrived]
  · obtain ⟨t, ht⟩ := not_forall.mp harrived
    refine ⟨t, ?_⟩
    cases hpc : b.pc t with
    | copyWords i =>
      simp only [threadStep, hpc]
      split
      · exact ⟨_, rfl⟩
      · split
        · exact ⟨_, rfl⟩
        · exact ⟨_, rfl⟩
    | copyOffset =>
      simp only [threadStep, hpc]
      exact ⟨_, rfl⟩
    | copyPIdx =>
      simp only [threadStep, hpc]
      exact ⟨_, rfl⟩
    | syncthreads => exact absurd (.inl hpc) ht
    | passed => exact absurd (.inr hpc) ht

theorem run_finishes (hblock : 1 ≤ blockDim) {b₀ b : BlockState stateSize blockDim}
    {threads : List (Fin blockDim)} (hrun : (blockCopy stateSize blockDim).Run b₀ threads b) :
    ∃ threads' b', (blockCopy stateSize blockDim).Run b₀ threads' b' ∧ b'.AllPassed := by
  -- the steps left decrease with each step, and only a finished block has no next step
  induction hn : b.left using Nat.strong_induction_on generalizing b threads with
  | _ n ih =>
    by_cases hpassed : b.AllPassed
    · exact ⟨threads, b, hrun, hpassed⟩
    · obtain ⟨t, b', hstep⟩ := exists_threadStep hpassed
      exact ih b'.left (hn ▸ left_threadStep hblock hstep) (hrun.snoc hstep) rfl

/-- From every start all threads can pass the barrier. -/
theorem start_finishes (hblock : 1 ≤ blockDim) (src dest : Mtgp32State stateSize) :
    ∃ threads b, (blockCopy stateSize blockDim).Run (blockCopyStart src dest) threads b ∧
      b.AllPassed :=
  run_finishes hblock .nil

/-! ## When the two paths agree -/

/-- The destination is the one of the other path, the source is unchanged, and so
generating from either gives the same. -/
structure IsCopy (src dest : Mtgp32State stateSize) (b : BlockState stateSize blockDim) : Prop where
  dest_eq : b.dest = hiprandMtgp32BlockCopyHost src dest
  src_eq : b.src = src
  generates : ∀ hiprand : Mtgp32State stateSize → CUInt × Mtgp32State stateSize,
    hiprand b.dest = hiprand src

/-- When all threads have passed the barrier, the device path has done what the other
path does exactly if the destination already had the parameters of the source. -/
theorem blockCopy_isCopy_iff (hblock : 1 ≤ blockDim) {src dest : Mtgp32State stateSize}
    {threads : List (Fin blockDim)} {b : BlockState stateSize blockDim}
    (hrun : (blockCopy stateSize blockDim).Run (blockCopyStart src dest) threads b)
    (hpassed : b.AllPassed) : IsCopy src dest b ↔ dest.k = src.k := by
  obtain ⟨hsrc, hdest⟩ := run_copies hblock hrun hpassed
  constructor
  · intro h
    have hk : b.dest.k = src.k := by rw [h.dest_eq, hiprandMtgp32BlockCopyHost]
    rwa [hdest] at hk
  · intro hk
    have heq : b.dest = src := by rw [hdest, hk]
    exact {
      dest_eq := heq
      src_eq := hsrc
      generates := fun hiprand => congrArg hiprand heq }

/-- A state with the parameters `8` and zeros else. -/
def withParams : Mtgp32State 1024 :=
  hiprandMtgp32SetParams ⟨fun _ => 0, 0, 0, 0⟩ 8

/-- A block of 256 threads makes a copy when the destination got the parameters first. -/
theorem blockCopy_keeps_params :
    ∃ threads b, (blockCopy 1024 256).Run
      (blockCopyStart withParams (hiprandMtgp32SetParams ⟨fun _ => 1, 1, 1, 0⟩ 8)) threads b ∧
      IsCopy withParams (hiprandMtgp32SetParams ⟨fun _ => 1, 1, 1, 0⟩ 8) b := by
  obtain ⟨threads, b, hrun, hpassed⟩ := start_finishes (by decide : 1 ≤ 256) withParams
    (hiprandMtgp32SetParams ⟨fun _ => 1, 1, 1, 0⟩ 8)
  exact ⟨threads, b, hrun, (blockCopy_isCopy_iff (by decide) hrun hpassed).mpr rfl⟩

/-- It makes none when the destination has no parameters. -/
theorem blockCopy_loses_params :
    ∃ threads b, (blockCopy 1024 256).Run
      (blockCopyStart withParams ⟨fun _ => 1, 1, 1, 0⟩) threads b ∧ b.AllPassed ∧
      ¬ IsCopy withParams ⟨fun _ => 1, 1, 1, 0⟩ b := by
  obtain ⟨threads, b, hrun, hpassed⟩ := start_finishes (by decide : 1 ≤ 256) withParams
    ⟨fun _ => 1, 1, 1, 0⟩
  refine ⟨threads, b, hrun, hpassed, ?_⟩
  intro h
  obtain ⟨_, hdest⟩ := run_copies (by decide) hrun hpassed
  have hk : b.dest.k = 8 := by
    rw [h.dest_eq, hiprandMtgp32BlockCopyHost, withParams, hiprandMtgp32SetParams]
  rw [hdest] at hk
  exact absurd hk (by decide)

end HipRand.Kernel
