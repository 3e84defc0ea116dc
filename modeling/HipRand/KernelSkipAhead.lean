import HipRand.Basic
import Mathlib.Data.BitVec
import Mathlib.Data.Nat.ModEq

/-!
# Skipping ahead in the device API

`skipahead_sequence` and `skipahead_subsequence` of `hiprand_kernel_rocm.h` and
`hiprand_kernel_nvcc.h`. The headers wrap the base states of rocRAND and cuRAND,
whose two primitives are parameters here: each moves a state by `n` times some
length of its own. What the tables of `hiprand_kernel_rocm.h` promise depends on
which primitive a wrapper calls.

Results:
1. `Advances.iff_modEq`: a primitive has the lengths of its own that agree modulo
   the period, and no other ones.
2. `tables_hold_iff`: the tables hold exactly for the state types other than
   MRG32k3a, when the one primitive that each header calls has the length they give.
3. `operation_holds_iff`, `mrg32k3a_operations`: when a single operation does what its
   table says. The two distances of MRG32k3a exclude each other, so each header has one of
   its operations wrong.
-/

namespace HipRand.Kernel

/-! ## State types and tables -/

inductive StateType
  | xorwow
  | philox4_32_10
  | mrg32k3a
  | mtgp32
  | sobol32
  | scrambledSobol32
  | sobol64
  | scrambledSobol64
  deriving DecidableEq, Repr

/-- What the `static_assert` of both operations asks of the state type. -/
def StateType.HasSequences (t : StateType) : Prop :=
  t ∉ [mtgp32, sobol32, scrambledSobol32, sobol64, scrambledSobol64]

instance (t : StateType) : Decidable t.HasSequences :=
  inferInstanceAs (Decidable (t ∉ _))

/-- The table of `skipahead_sequence`. -/
def StateType.sequenceSize : (t : StateType) → t.HasSequences → Nat
  | .xorwow, _ => 2 ^ 67
  | .philox4_32_10, _ => 4 * 2 ^ 64
  | .mrg32k3a, _ => 2 ^ 67
  | .mtgp32, h | .sobol32, h | .scrambledSobol32, h | .sobol64, h | .scrambledSobol64, h =>
    (h (by decide)).elim

/-- The table of `skipahead_subsequence`. -/
def StateType.subsequenceSize : (t : StateType) → t.HasSequences → Nat
  | .xorwow, _ => 2 ^ 67
  | .philox4_32_10, _ => 4 * 2 ^ 64
  | .mrg32k3a, _ => 2 ^ 127
  | .mtgp32, h | .sobol32, h | .scrambledSobol32, h | .sobol64, h | .scrambledSobol64, h =>
    (h (by decide)).elim

/-- The two tables differ for MRG32k3a only. -/
theorem sequenceSize_eq_iff (t : StateType) (ht : t.HasSequences) :
    t.sequenceSize ht = t.subsequenceSize ht ↔ t ≠ .mrg32k3a := by
  cases t with
  | xorwow => simp [StateType.sequenceSize, StateType.subsequenceSize]
  | philox4_32_10 => simp [StateType.sequenceSize, StateType.subsequenceSize]
  | mrg32k3a => simp [StateType.sequenceSize, StateType.subsequenceSize]
  | _ => exact absurd ht (by decide)

/-! ## The device libraries and the wrappers -/

/-- A device library: the base state of each state type, where it stands in its
sequence, and the two primitives on it. -/
structure DeviceLib where
  Base : StateType → Type
  position : {t : StateType} → Base t → Nat
  skipaheadSequence : {t : StateType} → CULongLong → Base t → Base t
  skipaheadSubsequence : {t : StateType} → CULongLong → Base t → Base t

/-- `hiprand_kernel_rocm.h`. The cast of the state to `StateType::base` does not
change it, so a state is its base. -/
def Rocm.skipaheadSequence (rocrand : DeviceLib) (t : StateType) (_ : t.HasSequences)
    (n : CULongLong) (state : rocrand.Base t) : rocrand.Base t :=
  rocrand.skipaheadSubsequence n state

def Rocm.skipaheadSubsequence (rocrand : DeviceLib) (t : StateType) (_ : t.HasSequences)
    (n : CULongLong) (state : rocrand.Base t) : rocrand.Base t :=
  rocrand.skipaheadSubsequence n state

/-- `hiprand_kernel_nvcc.h`. -/
def Nvcc.skipaheadSequence (curand : DeviceLib) (t : StateType) (_ : t.HasSequences)
    (n : CULongLong) (state : curand.Base t) : curand.Base t :=
  curand.skipaheadSequence n state

def Nvcc.skipaheadSubsequence (curand : DeviceLib) (t : StateType) (_ : t.HasSequences)
    (n : CULongLong) (state : curand.Base t) : curand.Base t :=
  curand.skipaheadSequence n state

/-! ## Distances -/

section Distance

variable {σ : Type} {position : σ → Nat} {period length length' : Nat}
  {skip : CULongLong → σ → σ}

/-- `skip n` moves the position by `n * length`, modulo the period. -/
def Advances (position : σ → Nat) (period length : Nat) (skip : CULongLong → σ → σ) : Prop :=
  ∀ n s, position (skip n s) ≡ position s + n.toNat * length [MOD period]

theorem Advances.iff_modEq [Nonempty σ] (h : Advances position period length skip) :
    Advances position period length' skip ↔ length ≡ length' [MOD period] := by
  constructor
  · intro h'
    obtain ⟨s⟩ := ‹Nonempty σ›
    -- one step already shows the length
    have hone := (h 1 s).symm.trans (h' 1 s)
    have hcancel := Nat.ModEq.add_left_cancel' _ hone
    simpa using hcancel
  · intro hmod n s
    exact (h n s).trans ((hmod.mul_left n.toNat).add_left (position s))

end Distance

/-- Both primitives advance by fixed lengths. -/
structure DeviceLib.FixedLengths (lib : DeviceLib) (period sequence subsequence : StateType → Nat) :
    Prop where
  nonempty : ∀ t, Nonempty (lib.Base t)
  sequence : ∀ t, Advances (lib.position : lib.Base t → Nat) (period t) (sequence t)
    lib.skipaheadSequence
  subsequence : ∀ t, Advances (lib.position : lib.Base t → Nat) (period t) (subsequence t)
    lib.skipaheadSubsequence

/-- What the tables say about the two operations `seq` and `sub` of one backend: the
distances, and for MRG32k3a that these are different ones. -/
structure TablesHold (lib : DeviceLib) (period : Nat) (t : StateType) (ht : t.HasSequences)
    (seq sub : CULongLong → lib.Base t → lib.Base t) : Prop where
  sequence : Advances lib.position period (t.sequenceSize ht) seq
  subsequence : Advances lib.position period (t.subsequenceSize ht) sub
  sequencesInSubsequence : t = .mrg32k3a → ∀ s,
    lib.position (seq (2 ^ 60) s) ≡ lib.position (sub 1 s) [MOD period]
  different : t = .mrg32k3a → ∀ s,
    ¬ lib.position (seq 1 s) ≡ lib.position (sub 1 s) [MOD period]

/-- The tables hold on both backends, which then do the same. -/
structure BackendsFollowTables (rocrand curand : DeviceLib) (period : StateType → Nat)
    (t : StateType) (ht : t.HasSequences) : Prop where
  rocm : TablesHold rocrand (period t) t ht (Rocm.skipaheadSequence rocrand t ht)
    (Rocm.skipaheadSubsequence rocrand t ht)
  nvcc : TablesHold curand (period t) t ht (Nvcc.skipaheadSequence curand t ht)
    (Nvcc.skipaheadSubsequence curand t ht)
  agreeSequence : ∀ n r c, rocrand.position r ≡ curand.position c [MOD period t] →
    rocrand.position (Rocm.skipaheadSequence rocrand t ht n r) ≡
      curand.position (Nvcc.skipaheadSequence curand t ht n c) [MOD period t]
  agreeSubsequence : ∀ n r c, rocrand.position r ≡ curand.position c [MOD period t] →
    rocrand.position (Rocm.skipaheadSubsequence rocrand t ht n r) ≡
      curand.position (Nvcc.skipaheadSubsequence curand t ht n c) [MOD period t]

/-- Two states at the same position stay so when both advance by the same length. -/
theorem Advances.agree {σ τ : Type} {position : σ → Nat} {position' : τ → Nat}
    {period length : Nat} {skip : CULongLong → σ → σ} {skip' : CULongLong → τ → τ}
    (h : Advances position period length skip) (h' : Advances position' period length skip')
    (n : CULongLong) {s : σ} {s' : τ} (hs : position s ≡ position' s' [MOD period]) :
    position (skip n s) ≡ position' (skip' n s') [MOD period] :=
  calc position (skip n s)
      ≡ position s + n.toNat * length [MOD period] := h n s
    _ ≡ position' s' + n.toNat * length [MOD period] := hs.add_right _
    _ ≡ position' (skip' n s') [MOD period] := (h' n s').symm

/-! ## When the tables hold -/

section Tables

variable {lib : DeviceLib} {period length : Nat} {t : StateType} {ht : t.HasSequences}

/-- Both operations call the same primitive, so the tables hold for the state types
with one length, if it is the length of that primitive. -/
theorem tablesHold_same_iff [Nonempty (lib.Base t)]
    {skip : CULongLong → lib.Base t → lib.Base t} (h : Advances lib.position period length skip) :
    TablesHold lib period t ht skip skip ↔
      t ≠ .mrg32k3a ∧ length ≡ t.sequenceSize ht [MOD period] := by
  constructor
  · intro htab
    refine ⟨?_, h.iff_modEq.mp htab.sequence⟩
    rintro rfl
    obtain ⟨s⟩ := ‹Nonempty (lib.Base .mrg32k3a)›
    exact htab.different rfl s rfl
  · rintro ⟨hne, hlen⟩
    have hsub : t.sequenceSize ht = t.subsequenceSize ht := (sequenceSize_eq_iff t ht).mpr hne
    exact {
      sequence := h.iff_modEq.mpr hlen
      subsequence := h.iff_modEq.mpr (hsub ▸ hlen)
      sequencesInSubsequence := fun heq => absurd heq hne
      different := fun heq => absurd heq hne }

end Tables

/-- Each operation by itself: on rocRAND both have the length of the primitive for
subsequences, on cuRAND both have that of the primitive for sequences. -/
theorem operation_holds_iff {rocrand curand : DeviceLib}
    {period rocSequence rocSubsequence cuSequence cuSubsequence : StateType → Nat}
    (hroc : rocrand.FixedLengths period rocSequence rocSubsequence)
    (hcu : curand.FixedLengths period cuSequence cuSubsequence)
    (t : StateType) (ht : t.HasSequences) :
    (Advances rocrand.position (period t) (t.sequenceSize ht)
        (Rocm.skipaheadSequence rocrand t ht) ↔
      rocSubsequence t ≡ t.sequenceSize ht [MOD period t]) ∧
    (Advances rocrand.position (period t) (t.subsequenceSize ht)
        (Rocm.skipaheadSubsequence rocrand t ht) ↔
      rocSubsequence t ≡ t.subsequenceSize ht [MOD period t]) ∧
    (Advances curand.position (period t) (t.sequenceSize ht)
        (Nvcc.skipaheadSequence curand t ht) ↔
      cuSequence t ≡ t.sequenceSize ht [MOD period t]) ∧
    (Advances curand.position (period t) (t.subsequenceSize ht)
        (Nvcc.skipaheadSubsequence curand t ht) ↔
      cuSequence t ≡ t.subsequenceSize ht [MOD period t]) := by
  have := hroc.nonempty t
  have := hcu.nonempty t
  have hrocm := hroc.subsequence t
  have hnvcc := hcu.sequence t
  exact ⟨hrocm.iff_modEq, hrocm.iff_modEq, hnvcc.iff_modEq, hnvcc.iff_modEq⟩

/-- The tables hold on both backends exactly for the state types other than MRG32k3a,
when rocRAND's primitive for subsequences and cuRAND's for sequences have the length
in the tables. -/
theorem tables_hold_iff {rocrand curand : DeviceLib}
    {period rocSequence rocSubsequence cuSequence cuSubsequence : StateType → Nat}
    (hroc : rocrand.FixedLengths period rocSequence rocSubsequence)
    (hcu : curand.FixedLengths period cuSequence cuSubsequence)
    (t : StateType) (ht : t.HasSequences) :
    BackendsFollowTables rocrand curand period t ht ↔
      t ≠ .mrg32k3a ∧ rocSubsequence t ≡ t.sequenceSize ht [MOD period t] ∧
        cuSequence t ≡ t.sequenceSize ht [MOD period t] := by
  have := hroc.nonempty t
  have := hcu.nonempty t
  have hrocm : TablesHold rocrand (period t) t ht (Rocm.skipaheadSequence rocrand t ht)
      (Rocm.skipaheadSubsequence rocrand t ht) ↔ _ := tablesHold_same_iff (hroc.subsequence t)
  have hnvcc : TablesHold curand (period t) t ht (Nvcc.skipaheadSequence curand t ht)
      (Nvcc.skipaheadSubsequence curand t ht) ↔ _ := tablesHold_same_iff (hcu.sequence t)
  constructor
  · intro h
    have hr := hrocm.mp h.rocm
    exact ⟨hr.1, hr.2, (hnvcc.mp h.nvcc).2⟩
  · rintro ⟨hne, hr, hc⟩
    have htabR := hrocm.mpr ⟨hne, hr⟩
    have htabC := hnvcc.mpr ⟨hne, hc⟩
    exact {
      rocm := htabR
      nvcc := htabC
      agreeSequence := fun n _ _ hpos => htabR.sequence.agree htabC.sequence n hpos
      agreeSubsequence := fun n _ _ hpos => htabR.subsequence.agree htabC.subsequence n hpos }

/-! ## MRG32k3a -/

/-- One function cannot have both distances that the tables give for MRG32k3a. -/
theorem Advances.not_both_mrg32k3a {σ : Type} [Nonempty σ] {position : σ → Nat} {period : Nat}
    {skip : CULongLong → σ → σ} (hperiod : 2 ^ 127 < period)
    (h : Advances position period (StateType.mrg32k3a.sequenceSize (by decide)) skip) :
    ¬ Advances position period (StateType.mrg32k3a.subsequenceSize (by decide)) skip := by
  intro h'
  have hmod : 2 ^ 67 ≡ 2 ^ 127 [MOD period] := h.iff_modEq.mp h'
  have heq : 2 ^ 67 = 2 ^ 127 := hmod.eq_of_lt_of_lt (by omega) hperiod
  exact absurd heq (by decide)

/-- Where the primitives have the lengths of the tables, the header for rocRAND has
`skipahead_subsequence` of MRG32k3a right and `skipahead_sequence` wrong, and the header for
cuRAND the other way round. -/
theorem mrg32k3a_operations {rocrand curand : DeviceLib}
    {period rocSequence rocSubsequence cuSequence cuSubsequence : StateType → Nat}
    (hroc : rocrand.FixedLengths period rocSequence rocSubsequence)
    (hcu : curand.FixedLengths period cuSequence cuSubsequence)
    (hperiod : 2 ^ 127 < period .mrg32k3a) {ht : StateType.mrg32k3a.HasSequences}
    (hsub : rocSubsequence .mrg32k3a = StateType.mrg32k3a.subsequenceSize ht)
    (hseq : cuSequence .mrg32k3a = StateType.mrg32k3a.sequenceSize ht) :
    (Advances rocrand.position (period .mrg32k3a) (StateType.mrg32k3a.subsequenceSize ht)
        (Rocm.skipaheadSubsequence rocrand .mrg32k3a ht) ∧
      ¬ Advances rocrand.position (period .mrg32k3a) (StateType.mrg32k3a.sequenceSize ht)
        (Rocm.skipaheadSequence rocrand .mrg32k3a ht)) ∧
    (Advances curand.position (period .mrg32k3a) (StateType.mrg32k3a.sequenceSize ht)
        (Nvcc.skipaheadSequence curand .mrg32k3a ht) ∧
      ¬ Advances curand.position (period .mrg32k3a) (StateType.mrg32k3a.subsequenceSize ht)
        (Nvcc.skipaheadSubsequence curand .mrg32k3a ht)) := by
  obtain ⟨_, hrocSub, hcuSeq, _⟩ := operation_holds_iff hroc hcu .mrg32k3a ht
  have := hroc.nonempty .mrg32k3a
  have := hcu.nonempty .mrg32k3a
  have hright := hrocSub.mpr (hsub ▸ Nat.ModEq.refl _)
  have hright' := hcuSeq.mpr (hseq ▸ Nat.ModEq.refl _)
  exact ⟨⟨hright, fun hwrong => Advances.not_both_mrg32k3a hperiod hwrong hright⟩,
    hright', fun hwrong => Advances.not_both_mrg32k3a hperiod hright' hwrong⟩

/-- A library whose states are positions and whose primitives have given lengths. -/
def counterLib (sequence subsequence : StateType → Nat) : DeviceLib where
  Base _ := Nat
  position s := s
  skipaheadSequence {t} n s := s + n.toNat * sequence t
  skipaheadSubsequence {t} n s := s + n.toNat * subsequence t

theorem counterLib_fixedLengths (period sequence subsequence : StateType → Nat) :
    (counterLib sequence subsequence).FixedLengths period sequence subsequence where
  nonempty _ := ⟨(0 : Nat)⟩
  sequence _ _ _ := Nat.ModEq.refl _
  subsequence _ _ _ := Nat.ModEq.refl _

/-- The period of MRG32k3a, with `2 ^ 192` in place of the other ones. -/
def periods : StateType → Nat
  | .mrg32k3a => ((2 ^ 32 - 209) ^ 3 - 1) * ((2 ^ 32 - 22853) ^ 3 - 1) / 2
  | _ => 2 ^ 192

/-- Lengths as in the tables, where these give any. -/
def tableSequence (t : StateType) : Nat :=
  if h : t.HasSequences then t.sequenceSize h else 0

def tableSubsequence (t : StateType) : Nat :=
  if h : t.HasSequences then t.subsequenceSize h else 0

/-- Against libraries whose primitives have the lengths of the tables, the tables hold
for XORWOW. -/
theorem tables_hold_for_xorwow :
    BackendsFollowTables (counterLib tableSequence tableSubsequence)
      (counterLib tableSequence tableSubsequence) periods .xorwow (by decide) := by
  have hlib := counterLib_fixedLengths periods tableSequence tableSubsequence
  exact (tables_hold_iff hlib hlib .xorwow (by decide)).mpr
    ⟨by decide, Nat.ModEq.refl _, Nat.ModEq.refl _⟩

/-- Against the same libraries the tables fail for MRG32k3a: one sequence and one
subsequence from the start land at the same position. -/
theorem mrg32k3a_sequence_is_subsequence :
    2 ^ 127 < periods .mrg32k3a ∧
    (counterLib tableSequence tableSubsequence).FixedLengths periods tableSequence
      tableSubsequence ∧
    ¬ BackendsFollowTables (counterLib tableSequence tableSubsequence)
      (counterLib tableSequence tableSubsequence) periods .mrg32k3a (by decide) := by
  refine ⟨by decide, counterLib_fixedLengths _ _ _, fun h => ?_⟩
  exact h.rocm.different rfl (0 : Nat) (Nat.ModEq.refl _)

end HipRand.Kernel
