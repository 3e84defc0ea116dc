import HipRand.KernelMtgp32

/-!
# What a thread may rely on during the copy of an MTGP32 state

The device path of `hiprand_mtgp32_block_copy` at every moment, and in every order of the
threads. A kernel goes on with the destination as soon as its own thread has passed the
barrier, while others may still be at it.

Results:
1. `Synchronized.step`: when one thread is past the barrier, all have arrived at it, and
   then nothing is left to copy.
2. `blockCopy_safe`: what holds in every state of a copy.
-/

namespace HipRand.Kernel

open Transition

variable {stateSize blockDim : Nat} {src dest : Mtgp32State stateSize}
  {b b' : BlockState stateSize blockDim} {t : Fin blockDim}

/-! ## The barrier -/

/-- A thread passes the barrier only when all threads have arrived. -/
theorem arrived_of_passes (h : threadStep b t = some b') (hpc : b.pc t = .syncthreads)
    (u : Fin blockDim) : (b.pc u).Arrived := by
  simp only [threadStep, hpc] at h
  split at h
  · next harrived => exact harrived u
  · cases h

/-- A step moves one thread, and past the barrier only from it. -/
theorem exists_setPc (h : threadStep b t = some b') :
    ∃ b₁ pc, b' = BlockState.setPc b₁ t pc ∧ b₁.pc = b.pc ∧ b.pc t ≠ .passed ∧
      (pc = .passed ↔ b.pc t = .syncthreads) := by
  rcases threadStep_cases h with ⟨i, hpc, rfl⟩ | ⟨i, _, hpc, rfl⟩ | ⟨hpc, rfl⟩ | ⟨hpc, rfl⟩ |
    ⟨hpc, rfl⟩
  · exact ⟨b.copyWord i, _, rfl, rfl, by simp [hpc], by simp [hpc]⟩
  · refine ⟨b, _, rfl, rfl, by simp [hpc], ?_⟩
    split <;> simp [hpc]
  · exact ⟨b.copyOffset, _, rfl, rfl, by simp [hpc], by simp [hpc]⟩
  · exact ⟨b.copyPIdx, _, rfl, rfl, by simp [hpc], by simp [hpc]⟩
  · exact ⟨b, _, rfl, rfl, by simp [hpc], by simp [hpc]⟩

/-- No step takes a thread back from the barrier. -/
theorem arrived_step (h : threadStep b t = some b') {u : Fin blockDim} (hu : (b.pc u).Arrived) :
    (b'.pc u).Arrived := by
  obtain ⟨b₁, pc, rfl, hpcs, hbefore, hpassed⟩ := exists_setPc h
  by_cases hut : u = t
  · subst hut
    rw [BlockState.setPc_self]
    exact .inr (hpassed.mpr (hu.resolve_right hbefore))
  · rw [b₁.setPc_of_ne hut, hpcs]
    exact hu

/-- A thread past the barrier stays there. -/
theorem passed_step (h : threadStep b t = some b') {u : Fin blockDim} (hu : b.pc u = .passed) :
    b'.pc u = .passed := by
  obtain ⟨b₁, pc, rfl, hpcs, hbefore, _⟩ := exists_setPc h
  have hut : u ≠ t := fun hut => hbefore (hut ▸ hu)
  rw [b₁.setPc_of_ne hut, hpcs]
  exact hu

/-! ## What a thread that arrived has done -/

theorem Pc.Arrived.pastWord {pc : Pc} (h : pc.Arrived) {i : Nat} : pc.PastWord i := by
  rcases h with rfl | rfl <;> trivial

theorem Pc.Arrived.pastOffset {pc : Pc} (h : pc.Arrived) : pc.PastOffset := by
  rcases h with rfl | rfl <;> trivial

theorem Pc.Arrived.pastPIdx {pc : Pc} (h : pc.Arrived) : pc.PastPIdx := by
  rcases h with rfl | rfl <;> trivial

/-- When one thread is past the barrier, all have arrived at it. Each component of the
destination is the old one or that of the source. -/
structure Synchronized (src dest : Mtgp32State stateSize) (b : BlockState stateSize blockDim) :
    Prop where
  copying : Copying src dest b
  together : ∀ t, b.pc t = .passed → ∀ u, (b.pc u).Arrived
  s : ∀ i, b.dest.s i = dest.s i ∨ b.dest.s i = src.s i
  offset : b.dest.offset = dest.offset ∨ b.dest.offset = src.offset
  pIdx : b.dest.pIdx = dest.pIdx ∨ b.dest.pIdx = src.pIdx

theorem Synchronized.start (src dest : Mtgp32State stateSize) :
    Synchronized src dest (blockCopyStart src dest : BlockState stateSize blockDim) where
  copying := .start src dest
  together _ h := nomatch h
  s _ := .inl rfl
  offset := .inl rfl
  pIdx := .inl rfl

namespace Synchronized

theorem together_step (h : Synchronized src dest b) (hstep : threadStep b t = some b')
    {u : Fin blockDim} (hu : b'.pc u = .passed) (v : Fin blockDim) : (b'.pc v).Arrived := by
  refine arrived_step hstep ?_
  by_cases hbefore : b.pc u = .passed
  · exact h.together u hbefore v
  · -- the thread passed the barrier in this step
    obtain ⟨b₁, pc, rfl, hpcs, _, hpassed⟩ := exists_setPc hstep
    by_cases hut : u = t
    · subst hut
      rw [BlockState.setPc_self] at hu
      exact arrived_of_passes hstep (hpassed.mp hu) v
    · rw [b₁.setPc_of_ne hut, hpcs] at hu
      exact absurd hu hbefore

theorem step (h : Synchronized src dest b) (hstep : threadStep b t = some b') :
    Synchronized src dest b' := by
  have hsrc := h.copying.src_eq
  refine ⟨h.copying.step hstep, fun u hu => h.together_step hstep hu, ?_, ?_, ?_⟩ <;>
    rcases threadStep_cases hstep with ⟨i, _, rfl⟩ | ⟨i, _, _, rfl⟩ | ⟨_, rfl⟩ | ⟨_, rfl⟩ | ⟨_, rfl⟩
  all_goals
    first
    | exact h.s
    | exact h.offset
    | exact h.pIdx
    | skip
  · intro j
    show Function.update b.dest.s i (b.src.s i) j = _ ∨ Function.update b.dest.s i (b.src.s i) j = _
    by_cases hji : j = i
    · rw [hji, Function.update_self, hsrc]
      exact .inr rfl
    · rw [Function.update_of_ne hji]
      exact h.s j
  · show b.src.offset = dest.offset ∨ b.src.offset = src.offset
    exact .inr (by rw [hsrc])
  · show b.src.pIdx = dest.pIdx ∨ b.src.pIdx = src.pIdx
    exact .inr (by rw [hsrc])

/-- A thread past the barrier finds the whole copy in place. -/
theorem dest_of_passed (hblock : 1 ≤ blockDim) (h : Synchronized src dest b)
    (hpassed : b.pc t = .passed) : b.dest = { src with k := dest.k } := by
  let first : Fin blockDim := ⟨0, hblock⟩
  refine Mtgp32State.ext ?_ ?_ ?_ h.copying.k_eq
  · funext i
    let owner : Fin blockDim := ⟨i.val % blockDim, Nat.mod_lt i.val hblock⟩
    exact h.copying.words owner i rfl (h.together t hpassed owner).pastWord
  · exact h.copying.offset first rfl (h.together t hpassed first).pastOffset
  · exact h.copying.pIdx first rfl (h.together t hpassed first).pastPIdx

end Synchronized

/-! ## How long a copy takes -/

/-- A run of a copy has no more steps than were left at its start. -/
theorem length_add_left_le (hblock : 1 ≤ blockDim) {b₀ : BlockState stateSize blockDim}
    {threads : List (Fin blockDim)} (hrun : (blockCopy stateSize blockDim).Run b₀ threads b) :
    threads.length + b.left ≤ b₀.left := by
  induction hrun with
  | nil => exact Nat.le_of_eq (Nat.zero_add _)
  | snoc _ hstep ih =>
    have hless := left_threadStep hblock hstep
    rw [List.length_append, List.length_singleton]
    omega

/-- At every moment of a copy, whatever order the threads take: the source is as it was
and so is `k` of the destination. No component of the destination is anything but the
old one or the one of the source. A thread past the barrier finds the whole copy, and
nothing changes it afterwards. The copy ends within a number of steps known at its
start, and never before all threads have passed. -/
theorem blockCopy_safe (hblock : 1 ≤ blockDim) {src dest : Mtgp32State stateSize}
    {threads : List (Fin blockDim)} {b : BlockState stateSize blockDim}
    (hrun : (blockCopy stateSize blockDim).Run (blockCopyStart src dest) threads b) :
    b.src = src ∧ b.dest.k = dest.k ∧
    ((∀ i, b.dest.s i = dest.s i ∨ b.dest.s i = src.s i) ∧
      (b.dest.offset = dest.offset ∨ b.dest.offset = src.offset) ∧
      (b.dest.pIdx = dest.pIdx ∨ b.dest.pIdx = src.pIdx)) ∧
    (∀ t, b.pc t = .passed → b.dest = { src with k := dest.k } ∧
      ∀ threads' b', (blockCopy stateSize blockDim).Run b threads' b' → b'.dest = b.dest) ∧
    threads.length + b.left ≤ (blockCopyStart src dest : BlockState stateSize blockDim).left ∧
    (b.AllPassed ∨ ∃ t b', threadStep b t = some b') := by
  have hstep : ∀ b₁ t b₂, Synchronized src dest b₁ →
      (blockCopy stateSize blockDim).step b₁ t b₂ → Synchronized src dest b₂ :=
    fun _ _ _ h hthread => h.step hthread
  have h : Synchronized src dest b := hrun.preserves hstep (.start src dest)
  refine ⟨h.copying.src_eq, h.copying.k_eq, ⟨h.s, h.offset, h.pIdx⟩, ?_,
    length_add_left_le hblock hrun, ?_⟩
  · intro t hpassed
    refine ⟨h.dest_of_passed hblock hpassed, ?_⟩
    intro threads' b' hrun'
    -- the thread is still past the barrier then
    have hlater : Synchronized src dest b' ∧ b'.pc t = .passed := by
      refine hrun'.preserves (I := fun b => Synchronized src dest b ∧ b.pc t = .passed) ?_
        ⟨h, hpassed⟩
      intro b₁ u b₂ hb₁ hthread
      exact ⟨hb₁.1.step hthread, passed_step hthread hb₁.2⟩
    rw [hlater.1.dest_of_passed hblock hlater.2, h.dest_of_passed hblock hpassed]
  · by_cases hall : b.AllPassed
    · exact .inl hall
    · exact .inr (exists_threadStep hall)

/-- A whole copy by a block of 256 threads. -/
theorem blockCopy_safe_withParams :
    ∃ threads b, (blockCopy 1024 256).Run
      (blockCopyStart withParams ⟨fun _ => 1, 1, 1, 0⟩) threads b ∧ b.AllPassed ∧
      b.dest = { withParams with k := 0 } := by
  obtain ⟨threads, b, hrun, hpassed⟩ := start_finishes (by decide : 1 ≤ 256) withParams
    ⟨fun _ => 1, 1, 1, 0⟩
  obtain ⟨_, _, _, hcopy, _⟩ := blockCopy_safe (by decide) hrun
  exact ⟨threads, b, hrun, hpassed, (hcopy 0 (hpassed 0)).1⟩

end HipRand.Kernel
