import Mathlib.Algebra.BigOperators.Group.List.Basic
import Mathlib.Algebra.Order.Group.Unbundled.Int
import Mathlib.Tactic.Ring
import Mathlib.Tactic.Linarith

/-!
# Strided views of a byte memory

A view lists its elements in C order: the last coordinate varies fastest. Its
element `i` starts at some byte of memory, given by shape and strides, or more
generally by a function `addr`. A device that knows nothing of this writes `n`
elements one after another from a start address.

Results:
1. `CContiguous.offset_eq`: in a C-contiguous view the elements follow each other.
2. `PrefixContiguous.stores`, `PrefixContiguous.of_stores`: writing `n` elements one
   after another stores them as the first `n` elements of the view, whatever their bytes,
   exactly when these elements follow each other from the start address and no other one
   overlaps them.
-/

namespace Strided

/-! ## Shape and strides -/

/-- The distance in bytes of the element with C-order index `i` from the first. -/
def offset : List Nat → List Int → Nat → Int
  | _ :: ds, s :: ss, i => (i / ds.prod : Nat) * s + offset ds ss (i % ds.prod)
  | _, _, _ => 0

/-- The strides are those of a C-contiguous array with elements of `w` bytes; the
stride of a dimension of length one is never used. -/
def CContiguous (w : Nat) : List Nat → List Int → Prop
  | [], [] => True
  | d :: ds, s :: ss => (d = 1 ∨ s = (w * ds.prod : Nat)) ∧ CContiguous w ds ss
  | _, _ => False

theorem CContiguous.offset_eq {w : Nat} {shape : List Nat} {strides : List Int}
    (h : CContiguous w shape strides) {i : Nat} (hi : i < shape.prod) :
    offset shape strides i = i * w := by
  induction shape generalizing strides i with
  | nil =>
    have h0 : i = 0 := by simpa using hi
    simp [offset, h0]
  | cons d ds ih =>
    cases strides with
    | nil => exact h.elim
    | cons s ss =>
      obtain ⟨hs, hrest⟩ := h
      rw [List.prod_cons] at hi
      have hpos : 0 < ds.prod := Nat.pos_of_ne_zero fun h0 => by simp [h0] at hi
      have hrec := ih hrest (Nat.mod_lt i hpos)
      show (i / ds.prod : Nat) * s + offset ds ss (i % ds.prod) = i * w
      rw [hrec]
      rcases hs with rfl | rfl
      · rw [one_mul] at hi
        rw [Nat.div_eq_of_lt hi, Nat.mod_eq_of_lt hi]
        simp
      · have hdiv : ((i / ds.prod : Nat) : Int) * ds.prod + (i % ds.prod : Nat) = i := by
          exact_mod_cast Nat.div_add_mod' i ds.prod
        calc ((i / ds.prod : Nat) : Int) * (w * ds.prod : Nat) + (i % ds.prod : Nat) * w
            = (((i / ds.prod : Nat) : Int) * ds.prod + (i % ds.prod : Nat)) * w := by
              push_cast
              ring
          _ = i * w := by rw [hdiv]

/-! ## Memory -/

variable {B : Type}

/-- Write `len` bytes from the address `a` on. -/
def write (a : Int) (len : Nat) (bytes : Nat → B) (mem : Int → B) : Int → B := fun x =>
  if a ≤ x ∧ x < a + len then bytes (x - a).toNat else mem x

/-- The bytes of elements of width `w` one after another. -/
def flatten (w : Nat) (vals : Nat → Nat → B) (j : Nat) : B :=
  vals (j / w) (j % w)

theorem write_of_mem {a x : Int} {len : Nat} {bytes : Nat → B} {mem : Int → B}
    (h : a ≤ x ∧ x < a + len) : write a len bytes mem x = bytes (x - a).toNat :=
  if_pos h

theorem write_of_not_mem {a x : Int} {len : Nat} {bytes : Nat → B} {mem : Int → B}
    (h : ¬ (a ≤ x ∧ x < a + len)) : write a len bytes mem x = mem x :=
  if_neg h

/-- Only the bytes that are written matter. -/
theorem write_congr {a : Int} {len : Nat} {bytes bytes' : Nat → B} {mem : Int → B}
    (h : ∀ j < len, bytes j = bytes' j) : write a len bytes mem = write a len bytes' mem := by
  funext x
  unfold write
  split
  · next hx => exact h _ (by omega)
  · rfl

/-- A byte of a write can be found where it was written, and nowhere else for all bytes. -/
theorem exists_write_ne [Nontrivial B] {a x : Int} {len j : Nat} (mem : Int → B)
    (hx : x ≠ a + j) : ∃ bytes : Nat → B, write a len bytes mem x ≠ bytes j := by
  by_cases hmem : a ≤ x ∧ x < a + len
  · obtain ⟨u, v, huv⟩ := exists_pair_ne B
    have hne : (x - a).toNat ≠ j := by omega
    refine ⟨fun i => if i = j then u else v, ?_⟩
    rw [write_of_mem hmem]
    simpa [hne] using huv.symm
  · obtain ⟨u, hu⟩ := exists_ne (mem x)
    refine ⟨fun _ => u, ?_⟩
    rw [write_of_not_mem hmem]
    exact hu.symm

/-- `mem'` is `mem` with `vals` stored as the first `n` of the `size` elements at
`addr`, and nothing else changed. -/
structure Stores (w n size : Nat) (addr : Nat → Int) (vals : Nat → Nat → B)
    (mem mem' : Int → B) : Prop where
  stored : ∀ i < n, ∀ b < w, mem' (addr i + (b : Nat)) = vals i b
  otherElements : ∀ k, n ≤ k → k < size → ∀ b < w, mem' (addr k + (b : Nat)) = mem (addr k + b)
  otherBytes : ∀ x, (∀ i < n, ¬ (addr i ≤ x ∧ x < addr i + w)) → mem' x = mem x

/-- Only the bytes of the values matter. -/
theorem Stores.congr {w n size : Nat} {addr : Nat → Int} {vals vals' : Nat → Nat → B}
    {mem mem' : Int → B} (h : Stores w n size addr vals mem mem')
    (hv : ∀ i, ∀ b < w, vals i b = vals' i b) : Stores w n size addr vals' mem mem' where
  stored i hi b hb := (h.stored i hi b hb).trans (hv i b hb)
  otherElements := h.otherElements
  otherBytes := h.otherBytes

/-- The first `n` elements can hold any values while nothing else changes: no two of
the elements that are concerned overlap. -/
def Storable (B : Type) (w n size : Nat) (addr : Nat → Int) : Prop :=
  ∀ (vals : Nat → Nat → B) (mem : Int → B), ∃ mem', Stores w n size addr vals mem mem'

/-- The first `n` elements follow each other from `a` on and do not overlap with
the other ones. -/
structure PrefixContiguous (w n size : Nat) (addr : Nat → Int) (a : Int) : Prop where
  elements : ∀ i < n, addr i = a + i * w
  others : ∀ k, n ≤ k → k < size → ∀ b < w,
    ¬ (a ≤ addr k + (b : Nat) ∧ addr k + b < a + (n * w : Nat))

variable {w n size : Nat} {addr : Nat → Int} {a : Int}

theorem PrefixContiguous.zero : PrefixContiguous w 0 size addr a where
  elements _ hi := absurd hi (Nat.not_lt_zero _)
  others _ _ _ _ _ h := by
    rw [Nat.zero_mul] at h
    omega

/-- The byte `b` of element `i` of a stretch of elements. -/
theorem mem_stretch {i b : Nat} (hi : i < n) (hb : b < w) :
    a ≤ a + i * w + b ∧ a + i * w + b < a + (n * w : Nat) := by
  have hle : (i + 1) * w ≤ n * w := Nat.mul_le_mul_right w hi
  have hlt : i * w + b < n * w := by
    rw [Nat.succ_mul] at hle
    omega
  constructor
  · have : (0 : Int) ≤ (i * w + b : Nat) := Int.natCast_nonneg _
    push_cast at this
    linarith
  · have : ((i * w + b : Nat) : Int) < (n * w : Nat) := by exact_mod_cast hlt
    push_cast at this ⊢
    linarith

theorem flatten_apply {vals : Nat → Nat → B} {i b : Nat} (hb : b < w) :
    flatten w vals (i * w + b) = vals i b := by
  have hw : 0 < w := Nat.zero_lt_of_lt hb
  unfold flatten
  rw [Nat.mul_comm, Nat.mul_add_div hw, Nat.div_eq_of_lt hb, Nat.mul_add_mod, Nat.mod_eq_of_lt hb,
    Nat.add_zero]

theorem flatten_elements (w : Nat) (bytes : Nat → B) :
    flatten w (fun i b => bytes (i * w + b)) = bytes := by
  funext j
  show bytes (j / w * w + j % w) = bytes j
  rw [Nat.div_add_mod']

theorem PrefixContiguous.stores (h : PrefixContiguous w n size addr a) (hw : 0 < w)
    (vals : Nat → Nat → B) (mem : Int → B) :
    Stores w n size addr vals mem (write a (n * w) (flatten w vals) mem) where
  stored i hi b hb := by
    rw [h.elements i hi, write_of_mem (mem_stretch hi hb)]
    have hidx : (a + i * w + b - a).toNat = i * w + b := by
      have : a + i * w + b - a = ((i * w + b : Nat) : Int) := by
        push_cast
        ring
      rw [this, Int.toNat_natCast]
    rw [hidx, flatten_apply hb]
  otherElements k hk hks b hb := write_of_not_mem (h.others k hk hks b hb)
  otherBytes x hx := by
    refine write_of_not_mem fun hmem => ?_
    -- a byte of the stretch is byte `j % w` of element `j / w`
    obtain ⟨j, hj⟩ : ∃ j : Nat, x = a + j := ⟨(x - a).toNat, by omega⟩
    have hjn : j < n * w := by omega
    have hi : j / w < n := (Nat.div_lt_iff_lt_mul hw).mpr hjn
    refine hx (j / w) hi ?_
    rw [h.elements _ hi, hj]
    generalize hq : j / w = q
    have hdiv : q * w + j % w = j := hq ▸ Nat.div_add_mod' j w
    have hmod : j % w < w := Nat.mod_lt j hw
    have hcast : (q : Int) * w + (j % w : Nat) = j := by
      rw [← Nat.cast_mul, ← Nat.cast_add, hdiv]
    constructor <;> omega

theorem PrefixContiguous.storable (h : PrefixContiguous w n size addr a) (hw : 0 < w) :
    Storable B w n size addr :=
  fun vals mem => ⟨_, h.stores hw vals mem⟩

/-- A write that stores every choice of values finds the elements in place. -/
theorem PrefixContiguous.of_stores [Nontrivial B] (hw : 0 < w)
    (h : ∀ (vals : Nat → Nat → B) (mem : Int → B),
      Stores w n size addr vals mem (write a (n * w) (flatten w vals) mem)) :
    PrefixContiguous w n size addr a := by
  constructor
  · intro i hi
    by_contra hne
    obtain ⟨x, _⟩ := exists_pair_ne B
    have hne' : addr i + (0 : Nat) ≠ a + (i * w : Nat) := by
      push_cast
      simpa using hne
    -- the first byte of element `i` is not where it was written
    obtain ⟨bytes, hbytes⟩ : ∃ bytes : Nat → B,
        write a (n * w) bytes (fun _ => x) (addr i + (0 : Nat)) ≠ bytes (i * w) :=
      exists_write_ne _ hne'
    have hstored := (h (fun i b => bytes (i * w + b)) fun _ => x).stored i hi 0 hw
    rw [flatten_elements] at hstored
    exact hbytes hstored
  · intro k hk hks b hb hmem
    obtain ⟨x, y, hxy⟩ := exists_pair_ne B
    have hkeep := (h (fun _ _ => y) fun _ => x).otherElements k hk hks b hb
    rw [write_of_mem hmem] at hkeep
    exact hxy hkeep.symm

/-- A C-contiguous view starts with as many elements as one asks for. -/
theorem CContiguous.prefixContiguous {shape : List Nat} {strides : List Int}
    (h : CContiguous w shape strides) (hn : n ≤ shape.prod) :
    PrefixContiguous w n shape.prod (fun i => a + offset shape strides i) a where
  elements i hi := by rw [h.offset_eq (Nat.lt_of_lt_of_le hi hn)]
  others k hk hks b _ := by
    rw [h.offset_eq hks]
    have hle : n * w ≤ k * w := Nat.mul_le_mul_right w hk
    have hcast : ((n * w : Nat) : Int) ≤ (k : Int) * w := by exact_mod_cast hle
    omega

end Strided
