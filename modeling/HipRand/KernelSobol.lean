import HipRand.Basic
import Mathlib.Data.BitVec

/-!
# Absolute offsets of the Sobol states

The Sobol overloads of `hiprand_init` and `skipahead` in `hiprand_kernel_rocm.h` and
`hiprand_kernel_nvcc.h`. All four overloads take the offset as an `unsigned int`, so a
64-bit offset is converted at the call; `skipahead` takes an `unsigned long long`. The
initialisations and the skip of rocRAND and cuRAND are parameters here, and so is what
a state outputs.

Results:
1. `initAt_eq_iff`: two offsets give the same state exactly if they agree modulo
   `2 ^ 32`, for every state type.
2. `offset_agrees_with_skipahead_iff`: an offset and a skip by it give the same state
   exactly for the 32-bit types, and for the 64-bit types below `2 ^ 32`.
-/

namespace HipRand.Kernel

/-! ## State types and their libraries -/

/-- The Sobol state types. -/
inductive SobolType
  | sobol32
  | scrambledSobol32
  | sobol64
  | scrambledSobol64
  deriving DecidableEq, Repr

/-- The width of the index of a state, of its direction numbers and of its outputs. -/
def SobolType.width : SobolType → Nat
  | sobol32 | scrambledSobol32 => 32
  | sobol64 | scrambledSobol64 => 64

/-- `hiprandDirectionVectors32_t` -/
abbrev DirectionVectors32 := Vector CUInt 32

/-- `hiprandDirectionVectors64_t` -/
abbrev DirectionVectors64 := Vector CULongLong 64

/-- What the overloads of `hiprand_init` get before the offset. -/
inductive SobolArgs : SobolType → Type
  | sobol32 (directionVectors : DirectionVectors32) : SobolArgs .sobol32
  | scrambledSobol32 (directionVectors : DirectionVectors32) (scrambleConstant : CUInt) :
      SobolArgs .scrambledSobol32
  | sobol64 (directionVectors : DirectionVectors64) : SobolArgs .sobol64
  | scrambledSobol64 (directionVectors : DirectionVectors64) (scrambleConstant : CULongLong) :
      SobolArgs .scrambledSobol64

/-- A device library: the base states, `rocrand_init` or `curand_init` for an offset as
hipRAND hands it on, its `skipahead`, and the next output of a state. -/
structure SobolLib where
  Base : SobolType → Type
  init : {t : SobolType} → SobolArgs t → CUInt → Base t
  skipahead : {t : SobolType} → CULongLong → Base t → Base t
  next : {t : SobolType} → Base t → BitVec t.width × Base t

variable {t : SobolType}

/-- The first `n` outputs. -/
def SobolLib.outputs (lib : SobolLib) : Nat → lib.Base t → List (BitVec t.width)
  | 0, _ => []
  | n + 1, state => (lib.next state).1 :: lib.outputs n (lib.next state).2

/-! ## `hiprand_kernel_rocm.h` -/

namespace Rocm

variable (rocrand : SobolLib)

def hiprandInitSobol32 (directionVectors : DirectionVectors32) (offset : CUInt) :
    rocrand.Base .sobol32 :=
  rocrand.init (.sobol32 directionVectors) offset

def hiprandInitScrambledSobol32 (directionVectors : DirectionVectors32) (scrambleConstant : CUInt)
    (offset : CUInt) : rocrand.Base .scrambledSobol32 :=
  rocrand.init (.scrambledSobol32 directionVectors scrambleConstant) offset

def hiprandInitSobol64 (directionVectors : DirectionVectors64) (offset : CUInt) :
    rocrand.Base .sobol64 :=
  rocrand.init (.sobol64 directionVectors) offset

def hiprandInitScrambledSobol64 (directionVectors : DirectionVectors64)
    (scrambleConstant : CULongLong) (offset : CUInt) : rocrand.Base .scrambledSobol64 :=
  rocrand.init (.scrambledSobol64 directionVectors scrambleConstant) offset

/-- A call of the overload with an `unsigned long long` as the offset: the argument is
converted to the type of the parameter. -/
def initAt : SobolArgs t → CULongLong → rocrand.Base t
  | .sobol32 directionVectors, o => hiprandInitSobol32 rocrand directionVectors (o.setWidth 32)
  | .scrambledSobol32 directionVectors scrambleConstant, o =>
    hiprandInitScrambledSobol32 rocrand directionVectors scrambleConstant (o.setWidth 32)
  | .sobol64 directionVectors, o => hiprandInitSobol64 rocrand directionVectors (o.setWidth 32)
  | .scrambledSobol64 directionVectors scrambleConstant, o =>
    hiprandInitScrambledSobol64 rocrand directionVectors scrambleConstant (o.setWidth 32)

/-- The cast of the state to `StateType::base` does not change it, so a state is its base. -/
def skipahead (n : CULongLong) (state : rocrand.Base t) : rocrand.Base t :=
  rocrand.skipahead n state

theorem initAt_eq (args : SobolArgs t) (o : CULongLong) :
    initAt rocrand args o = rocrand.init args (o.setWidth 32) := by
  cases args <;> rfl

end Rocm

/-! ## `hiprand_kernel_nvcc.h` -/

namespace Nvcc

variable (curand : SobolLib)

def hiprandInitSobol32 (directionVectors : DirectionVectors32) (offset : CUInt) :
    curand.Base .sobol32 :=
  curand.init (.sobol32 directionVectors) offset

def hiprandInitScrambledSobol32 (directionVectors : DirectionVectors32) (scrambleConstant : CUInt)
    (offset : CUInt) : curand.Base .scrambledSobol32 :=
  curand.init (.scrambledSobol32 directionVectors scrambleConstant) offset

def hiprandInitSobol64 (directionVectors : DirectionVectors64) (offset : CUInt) :
    curand.Base .sobol64 :=
  curand.init (.sobol64 directionVectors) offset

def hiprandInitScrambledSobol64 (directionVectors : DirectionVectors64)
    (scrambleConstant : CULongLong) (offset : CUInt) : curand.Base .scrambledSobol64 :=
  curand.init (.scrambledSobol64 directionVectors scrambleConstant) offset

/-- A call of the overload with an `unsigned long long` as the offset. -/
def initAt : SobolArgs t → CULongLong → curand.Base t
  | .sobol32 directionVectors, o => hiprandInitSobol32 curand directionVectors (o.setWidth 32)
  | .scrambledSobol32 directionVectors scrambleConstant, o =>
    hiprandInitScrambledSobol32 curand directionVectors scrambleConstant (o.setWidth 32)
  | .sobol64 directionVectors, o => hiprandInitSobol64 curand directionVectors (o.setWidth 32)
  | .scrambledSobol64 directionVectors scrambleConstant, o =>
    hiprandInitScrambledSobol64 curand directionVectors scrambleConstant (o.setWidth 32)

/-- `enable_if` leaves the hipRAND states to this overload; the base states have
cuRAND's own. -/
def skipahead (n : CULongLong) (state : curand.Base t) : curand.Base t :=
  curand.skipahead n state

theorem initAt_eq (args : SobolArgs t) (o : CULongLong) :
    initAt curand args o = curand.init args (o.setWidth 32) := by
  cases args <;> rfl

end Nvcc

/-! ## What is taken from the libraries -/

/-- The offsets that hipRAND hands on agree with a skip, skips from the start depend on
the distance modulo the period only, and within a period they lead to different states. -/
structure SobolLib.Lawful (lib : SobolLib) : Prop where
  init_eq : ∀ {t} (args : SobolArgs t) (offset : CUInt),
    lib.init args offset = lib.skipahead (offset.setWidth 64) (lib.init args 0)
  skipahead_mod : ∀ {t} (args : SobolArgs t) (n : CULongLong),
    lib.skipahead n (lib.init args 0) =
      lib.skipahead (BitVec.ofNat 64 (n.toNat % 2 ^ t.width)) (lib.init args 0)
  different : ∀ {t} (args : SobolArgs t) (n m : CULongLong),
    n.toNat < 2 ^ t.width → m.toNat < 2 ^ t.width →
    lib.skipahead n (lib.init args 0) = lib.skipahead m (lib.init args 0) → n = m

/-- An absolute offset and a skip by it give the same state, and so the same outputs. -/
def OffsetAgrees (lib : SobolLib) (initAt : CULongLong → lib.Base t)
    (skipahead : CULongLong → lib.Base t → lib.Base t) (o : CULongLong) : Prop :=
  initAt o = skipahead o (initAt 0) ∧
  ∀ n, lib.outputs n (initAt o) = lib.outputs n (skipahead o (initAt 0))

/-! ## When the offset is the position -/

section Offset

variable {lib : SobolLib} {args : SobolArgs t} {o o' : CULongLong}

theorem width_cases (t : SobolType) : t.width = 32 ∨ t.width = 64 := by
  cases t <;> simp [SobolType.width]

theorem width_bounds (t : SobolType) : 32 ≤ t.width ∧ t.width ≤ 64 := by
  cases t <;> decide

theorem two_pow_width_bounds (t : SobolType) : 2 ^ 32 ≤ 2 ^ t.width ∧ 2 ^ t.width ≤ 2 ^ 64 :=
  ⟨Nat.pow_le_pow_right (by decide) (width_bounds t).1,
    Nat.pow_le_pow_right (by decide) (width_bounds t).2⟩

/-- A narrowed offset, as the distance of a skip. -/
theorem toNat_narrowed (o : CULongLong) : ((o.setWidth 32).setWidth 64).toNat = o.toNat % 2 ^ 32 := by
  rw [BitVec.toNat_setWidth_of_le (by decide), BitVec.toNat_setWidth]

namespace SobolLib.Lawful

/-- Skips from the start lead to the same state exactly if the distances agree modulo
the period. -/
theorem skipahead_eq_iff (h : lib.Lawful) (n m : CULongLong) :
    lib.skipahead n (lib.init args 0) = lib.skipahead m (lib.init args 0) ↔
      n.toNat % 2 ^ t.width = m.toNat % 2 ^ t.width := by
  have hlt (n : CULongLong) : n.toNat % 2 ^ t.width < 2 ^ t.width := Nat.mod_lt _ (Nat.two_pow_pos _)
  have hmod (n : CULongLong) :
      (BitVec.ofNat 64 (n.toNat % 2 ^ t.width)).toNat = n.toNat % 2 ^ t.width := by
    rw [BitVec.toNat_ofNat,
      Nat.mod_eq_of_lt (Nat.lt_of_lt_of_le (hlt n) (two_pow_width_bounds t).2)]
  constructor
  · intro heq
    rw [h.skipahead_mod args n, h.skipahead_mod args m] at heq
    have hsame := h.different args _ _ ((hmod n).symm ▸ hlt n) ((hmod m).symm ▸ hlt m) heq
    rw [← hmod n, ← hmod m, hsame]
  · intro heq
    rw [h.skipahead_mod args n, h.skipahead_mod args m, heq]

/-- The state at a narrowed offset, and the state at a distance. -/
theorem init_narrowed_eq_iff (h : lib.Lawful) :
    lib.init args (o.setWidth 32) = lib.skipahead o' (lib.init args 0) ↔
      o.toNat % 2 ^ 32 = o'.toNat % 2 ^ t.width := by
  rw [h.init_eq, h.skipahead_eq_iff, toNat_narrowed, Nat.mod_eq_of_lt (Nat.lt_of_lt_of_le
    (Nat.mod_lt _ (by decide)) (two_pow_width_bounds t).1)]

end SobolLib.Lawful

/-- The low half of a 64-bit offset is the whole of it below `2 ^ 32`. -/
theorem mod_eq_mod_width_iff (o : CULongLong) :
    o.toNat % 2 ^ 32 = o.toNat % 2 ^ t.width ↔ t.width = 32 ∨ o.toNat < 2 ^ 32 := by
  rcases width_cases t with hw | hw
  · simp [hw]
  · -- the index of a 64-bit type never wraps at an offset
    rw [hw, Nat.mod_eq_of_lt o.isLt]
    constructor
    · intro heq
      exact .inr (heq ▸ Nat.mod_lt _ (by decide))
    · rintro (h | h)
      · cases h
      · exact Nat.mod_eq_of_lt h

/-- Any wrapper that narrows its offset. -/
theorem offsetAgrees_iff (h : lib.Lawful) {initAt : CULongLong → lib.Base t}
    (hinit : ∀ o, initAt o = lib.init args (o.setWidth 32)) :
    OffsetAgrees lib initAt lib.skipahead o ↔ t.width = 32 ∨ o.toNat < 2 ^ 32 := by
  have hzero : initAt 0 = lib.init args 0 := hinit 0
  have hstate : initAt o = lib.skipahead o (initAt 0) ↔ t.width = 32 ∨ o.toNat < 2 ^ 32 := by
    rw [hzero, hinit o, h.init_narrowed_eq_iff, mod_eq_mod_width_iff]
  constructor
  · intro hagrees
    exact hstate.mp hagrees.1
  · intro hcond
    have heq := hstate.mpr hcond
    exact ⟨heq, fun n => by rw [heq]⟩

end Offset

/-- Two offsets that agree modulo `2 ^ 32` give the same state, also of the 64-bit
types, and no other two do. -/
theorem initAt_eq_iff {rocrand curand : SobolLib} (hroc : rocrand.Lawful) (hcu : curand.Lawful)
    (args : SobolArgs t) (o o' : CULongLong) :
    (Rocm.initAt rocrand args o = Rocm.initAt rocrand args o' ↔
      o.toNat % 2 ^ 32 = o'.toNat % 2 ^ 32) ∧
    (Nvcc.initAt curand args o = Nvcc.initAt curand args o' ↔
      o.toNat % 2 ^ 32 = o'.toNat % 2 ^ 32) := by
  have hlib {lib : SobolLib} (h : lib.Lawful) :
      lib.init args (o.setWidth 32) = lib.init args (o'.setWidth 32) ↔
        o.toNat % 2 ^ 32 = o'.toNat % 2 ^ 32 := by
    rw [h.init_eq args (o'.setWidth 32), h.init_narrowed_eq_iff, toNat_narrowed,
      Nat.mod_eq_of_lt (Nat.lt_of_lt_of_le (Nat.mod_lt _ (by decide)) (two_pow_width_bounds t).1)]
  rw [Rocm.initAt_eq, Rocm.initAt_eq, Nvcc.initAt_eq, Nvcc.initAt_eq]
  exact ⟨hlib hroc, hlib hcu⟩

/-- On both backends an absolute offset gives the state of a skip by it exactly for the
32-bit types, and for the 64-bit types below `2 ^ 32`. -/
theorem offset_agrees_with_skipahead_iff {rocrand curand : SobolLib} (hroc : rocrand.Lawful)
    (hcu : curand.Lawful) (args : SobolArgs t) (o : CULongLong) :
    (OffsetAgrees rocrand (Rocm.initAt rocrand args) (Rocm.skipahead rocrand) o ↔
      t.width = 32 ∨ o.toNat < 2 ^ 32) ∧
    (OffsetAgrees curand (Nvcc.initAt curand args) (Nvcc.skipahead curand) o ↔
      t.width = 32 ∨ o.toNat < 2 ^ 32) :=
  ⟨offsetAgrees_iff hroc (Rocm.initAt_eq rocrand args),
    offsetAgrees_iff hcu (Nvcc.initAt_eq curand args)⟩

/-! ## A Sobol library -/

/-- The direction number with index `k`. -/
def SobolArgs.direction : SobolArgs t → Nat → BitVec t.width
  | .sobol32 directionVectors, k => directionVectors[k]?.getD 0
  | .scrambledSobol32 directionVectors _, k => directionVectors[k]?.getD 0
  | .sobol64 directionVectors, k => directionVectors[k]?.getD 0
  | .scrambledSobol64 directionVectors _, k => directionVectors[k]?.getD 0

def SobolArgs.scramble : SobolArgs t → BitVec t.width
  | .sobol32 _ => (0 : CUInt)
  | .scrambledSobol32 _ scrambleConstant => scrambleConstant
  | .sobol64 _ => (0 : CULongLong)
  | .scrambledSobol64 _ scrambleConstant => scrambleConstant

/-- The value of the sequence at an index: the direction numbers at the bits of its Gray
code. -/
def SobolArgs.value (args : SobolArgs t) (index : BitVec t.width) : BitVec t.width :=
  (List.range t.width).foldl
    (fun acc k =>
      if (index ^^^ (index >>> 1)).getLsbD k then acc ^^^ args.direction k else acc)
    args.scramble

/-- Sobol sequences as both libraries have them: a state is its vectors and its index. -/
def sobolLib : SobolLib where
  Base t := SobolArgs t × BitVec t.width
  init {t} args offset := (args, offset.setWidth t.width)
  skipahead {t} n state := (state.1, state.2 + n.setWidth t.width)
  next state := (state.1.value state.2, state.1, state.2 + 1)

/-- A skip from the start leads to the distance modulo the period. -/
theorem sobolLib_skipahead (args : SobolArgs t) (n : CULongLong) :
    sobolLib.skipahead n (sobolLib.init args 0) = (args, n.setWidth t.width) := by
  show (args, (0 : CUInt).setWidth t.width + n.setWidth t.width) = _
  simp

theorem sobolLib_lawful : sobolLib.Lawful where
  init_eq {t} args offset := by
    rw [sobolLib_skipahead]
    show (args, offset.setWidth t.width) = _
    rw [BitVec.setWidth_setWidth_of_le _ (width_bounds t).2]
  skipahead_mod {t} args n := by
    rw [sobolLib_skipahead, sobolLib_skipahead]
    congr 1
    apply BitVec.eq_of_toNat_eq
    rw [BitVec.toNat_setWidth, BitVec.toNat_setWidth, BitVec.toNat_ofNat, Nat.mod_mod_of_dvd,
      Nat.mod_mod]
    exact Nat.pow_dvd_pow 2 (width_bounds t).2
  different {t} args n m hn hm heq := by
    rw [sobolLib_skipahead, sobolLib_skipahead] at heq
    have hindex : (n.setWidth t.width).toNat = (m.setWidth t.width).toNat :=
      congrArg BitVec.toNat (Prod.mk.inj heq).2
    rw [BitVec.toNat_setWidth, BitVec.toNat_setWidth, Nat.mod_eq_of_lt hn, Nat.mod_eq_of_lt hm]
      at hindex
    exact BitVec.eq_of_toNat_eq hindex

/-- The direction numbers of the first dimension. -/
def firstDimension : DirectionVectors64 :=
  .ofFn fun k => BitVec.twoPow 64 (63 - k)

theorem offset_agrees_below :
    OffsetAgrees sobolLib (Rocm.initAt sobolLib (.sobol64 firstDimension)) (Rocm.skipahead sobolLib)
      (2 ^ 32 - 1) ∧
    OffsetAgrees sobolLib (Nvcc.initAt sobolLib (.sobol64 firstDimension)) (Nvcc.skipahead sobolLib)
      (2 ^ 32 - 1) := by
  have hiff := offset_agrees_with_skipahead_iff sobolLib_lawful sobolLib_lawful
    (.sobol64 firstDimension) (2 ^ 32 - 1)
  exact ⟨hiff.1.mpr (.inr (by decide)), hiff.2.mpr (.inr (by decide))⟩

/-- `hiprand_init(vectors, 1ULL << 32, &state)` leaves a 64-bit state at the start of its
sequence, `skipahead(1ULL << 32, &state)` does not. -/
theorem offset_is_lost :
    sobolLib.Lawful ∧
    Rocm.initAt sobolLib (.sobol64 firstDimension) (2 ^ 32) =
      Rocm.initAt sobolLib (.sobol64 firstDimension) 0 ∧
    ¬ OffsetAgrees sobolLib (Rocm.initAt sobolLib (.sobol64 firstDimension))
      (Rocm.skipahead sobolLib) (2 ^ 32) ∧
    ¬ OffsetAgrees sobolLib (Nvcc.initAt sobolLib (.sobol64 firstDimension))
      (Nvcc.skipahead sobolLib) (2 ^ 32) := by
  have hdiffer : ¬ (0 : CULongLong) = 0 + 2 ^ 32 := by decide
  refine ⟨sobolLib_lawful, rfl, fun hagrees => hdiffer ?_, fun hagrees => hdiffer ?_⟩
  · exact congrArg Prod.snd hagrees.1
  · exact congrArg Prod.snd hagrees.1

end HipRand.Kernel
