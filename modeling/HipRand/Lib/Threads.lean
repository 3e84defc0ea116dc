import HipRand.Lib.System
import Mathlib.Algebra.Order.BigOperators.Group.Finset
import Mathlib.Logic.Function.Basic

/-!
# Threads that write to a common memory

Each thread has a state of its own and takes steps by itself, in any order relative to
the other ones; a step may write one cell of a memory that all threads share and none of
them reads. So what a thread does is fixed by where it starts: `after` and `write` say
what its step with a number leads to and what it writes.

Results:
1. `run_locals`: in every run a thread has done the steps that it was scheduled for.
2. `run_mem`: a cell that only one step of one thread writes has its value from then on
   and is as at first before, whatever the schedule.
3. `Stops.count_eq`, `exists_finished`: where no thread can go on, a thread that stops has
   done all of its steps, and every run gets there if all threads stop.
-/

namespace Threads

open Transition

variable {ι σ A V : Type}

/-! ## One thread -/

section Thread

variable (step : σ → Option (σ × Option (A × V)))

/-- The state after `k` steps, if there are as many. -/
def after (s : σ) : Nat → Option σ
  | 0 => some s
  | k + 1 => (after s k).bind fun s' => (step s').map Prod.fst

/-- What the step with the number `k` writes. -/
def write (s : σ) (k : Nat) : Option (A × V) :=
  (after step s k).bind fun s' => (step s').bind Prod.snd

/-- The thread stops after `n` steps. -/
def Stops (s : σ) (n : Nat) : Prop :=
  ∃ s', after step s n = some s' ∧ step s' = none

end Thread

section Thread

variable {step : σ → Option (σ × Option (A × V))} {s s' : σ} {n k : Nat}

theorem after_succ_of_step {s'' : σ} {w : Option (A × V)} (h : after step s k = some s')
    (hstep : step s' = some (s'', w)) : after step s (k + 1) = some s'' := by
  rw [after, h, Option.bind_some, hstep]
  rfl

theorem write_of_step {s'' : σ} {w : Option (A × V)} (h : after step s k = some s')
    (hstep : step s' = some (s'', w)) : write step s k = w := by
  rw [write, h, Option.bind_some, hstep]
  rfl

/-- Nothing happens after the end. -/
theorem Stops.after_eq_none (h : Stops step s n) (hk : n < k) : after step s k = none := by
  obtain ⟨s', hs', hend⟩ := h
  induction hk with
  | refl => rw [after, hs', Option.bind_some, hend, Option.map_none]
  | step _ ih => rw [after, ih, Option.bind_none]

theorem Stops.lt_of_step (h : Stops step s n) (hk : after step s k = some s')
    (hstep : (step s').isSome) : k < n := by
  obtain ⟨e, he, hend⟩ := h
  rcases Nat.lt_trichotomy k n with hlt | rfl | hgt
  · exact hlt
  · rw [he] at hk
    rw [← Option.some.inj hk, hend] at hstep
    cases hstep
  · rw [Stops.after_eq_none ⟨e, he, hend⟩ hgt] at hk
    cases hk

theorem Stops.unique (h : Stops step s n) (h' : Stops step s k) : n = k := by
  obtain ⟨e, he, _⟩ := id h
  obtain ⟨e', he', _⟩ := id h'
  rcases Nat.lt_trichotomy n k with hlt | heq | hgt
  · rw [h.after_eq_none hlt] at he'
    cases he'
  · exact heq
  · rw [h'.after_eq_none hgt] at he
    cases he

end Thread

/-! ## All threads -/

/-- Where each thread is, and the memory. -/
structure Config (ι σ A V : Type) where
  locals : ι → σ
  mem : A → V

variable [DecidableEq ι] [DecidableEq A]

def store (w : Option (A × V)) (mem : A → V) : A → V :=
  match w with
  | some (a, v) => Function.update mem a v
  | none => mem

/-- The threads `ι`, of which the thread `t` takes the steps of `step t`. -/
def threads (step : ι → σ → Option (σ × Option (A × V))) (start : ι → σ) :
    System (Config ι σ A V) ι where
  init c := c.locals = start
  step c t c' := ∃ s w, step t (c.locals t) = some (s, w) ∧
    c' = ⟨Function.update c.locals t s, store w c.mem⟩

/-- No thread can go on. -/
def Finished (step : ι → σ → Option (σ × Option (A × V))) (c : Config ι σ A V) : Prop :=
  ∀ t, step t (c.locals t) = none

variable {step : ι → σ → Option (σ × Option (A × V))} {start : ι → σ} {c c₀ : Config ι σ A V}
  {ts : List ι}

/-- A thread is where its own steps lead. -/
theorem run_locals (hrun : (threads step start).Run c₀ ts c) (h₀ : c₀.locals = start) (t : ι) :
    after (step t) (start t) (ts.count t) = some (c.locals t) := by
  induction hrun with
  | nil =>
    rw [h₀]
    rfl
  | @snoc ts c c' u hrun hstep ih =>
    obtain ⟨s, w, hu, rfl⟩ := hstep
    show after (step t) (start t) ((ts ++ [u]).count t) = some (Function.update c.locals u s t)
    by_cases htu : t = u
    · subst htu
      rw [List.count_append, List.count_singleton_self, Function.update_self]
      exact after_succ_of_step ih hu
    · rw [List.count_append, List.count_singleton, if_neg (by simpa using Ne.symm htu),
        Nat.add_zero, Function.update_of_ne htu]
      exact ih

/-- At most one step of one thread writes the cell. -/
def WrittenOnce (step : ι → σ → Option (σ × Option (A × V))) (start : ι → σ) (a : A) : Prop :=
  ∀ t k v t' k' v', write (step t) (start t) k = some (a, v) →
    write (step t') (start t') k' = some (a, v') → t = t' ∧ k = k'

/-- A cell is as at first until the step that writes it, and has its value from then on. -/
theorem run_mem (hrun : (threads step start).Run c₀ ts c) (h₀ : c₀.locals = start) {a : A}
    (honce : WrittenOnce step start a) :
    (∀ t k v, write (step t) (start t) k = some (a, v) → k < ts.count t → c.mem a = v) ∧
    ((∀ t k v, write (step t) (start t) k = some (a, v) → ts.count t ≤ k) →
      c.mem a = c₀.mem a) := by
  induction hrun with
  | nil => exact ⟨fun _ _ _ _ hlt => absurd hlt (Nat.not_lt_zero _), fun _ => rfl⟩
  | @snoc ts c c' u hrun hstep ih =>
    obtain ⟨s, w, hu, rfl⟩ := hstep
    obtain ⟨ihwritten, ihfirst⟩ := ih
    have hwrite : write (step u) (start u) (ts.count u) = w :=
      write_of_step (run_locals hrun h₀ u) hu
    have hcount (t : ι) : ts.count t ≤ (ts ++ [u]).count t :=
      (List.sublist_append_left ts [u]).count_le t
    have hcount_u : (ts ++ [u]).count u = ts.count u + 1 := by
      rw [List.count_append, List.count_singleton_self]
    -- the last step wrote this cell, or left it alone
    by_cases hw : ∃ v, w = some (a, v)
    · obtain ⟨v, rfl⟩ := hw
      have hmem : (store (some (a, v)) c.mem) a = v := Function.update_self ..
      constructor
      · intro t k v' hk _
        obtain ⟨rfl, rfl⟩ := honce _ _ _ _ _ _ hk hwrite
        rw [hk] at hwrite
        have hv : v' = v := (Prod.mk.inj (Option.some.inj hwrite)).2
        rw [hv]
        exact hmem
      · intro hlater
        have hle := hlater u _ v hwrite
        omega
    · have hmem : (store w c.mem) a = c.mem a := by
        match w, hw with
        | none, _ => rfl
        | some (a', v), hw =>
          refine Function.update_of_ne (fun ha => hw ⟨v, ?_⟩) ..
          rw [ha]
      constructor
      · intro t k v hk hlt
        refine hmem.trans (ihwritten t k v hk ?_)
        by_cases htu : t = u
        · subst htu
          have hne : k ≠ ts.count t := by
            rintro rfl
            exact hw ⟨v, hwrite.symm.trans hk⟩
          omega
        · rw [List.count_append, List.count_singleton, if_neg (by simpa using Ne.symm htu)] at hlt
          exact hlt
      · intro hlater
        exact hmem.trans (ihfirst fun t k v hk => Nat.le_trans (hcount t) (hlater t k v hk))

theorem Stops.count_eq {t : ι} {n : Nat} (h : Stops (step t) (start t) n)
    (hrun : (threads step start).Run c₀ ts c) (h₀ : c₀.locals = start) (hend : Finished step c) :
    ts.count t = n :=
  Stops.unique ⟨c.locals t, run_locals hrun h₀ t, hend t⟩ h

/-- Where all threads stop, every run can go on to the end of all of them. -/
theorem exists_finished [Fintype ι] {n : ι → Nat} (h : ∀ t, Stops (step t) (start t) (n t))
    (hrun : (threads step start).Run c₀ ts c) (h₀ : c₀.locals = start) :
    ∃ ts' c', (threads step start).Run c₀ (ts ++ ts') c' ∧ Finished step c' := by
  -- induction on the number of steps that are left
  generalize hleft : ∑ t, (n t - ts.count t) = left
  induction left using Nat.strong_induction_on generalizing ts c with
  | _ left ih =>
    by_cases hend : Finished step c
    · refine ⟨[], c, ?_, hend⟩
      rw [List.append_nil]
      exact hrun
    · obtain ⟨u, hu⟩ := not_forall.mp hend
      obtain ⟨⟨s, w⟩, hstep⟩ := Option.ne_none_iff_exists'.mp hu
      have hlt : ts.count u < n u :=
        (h u).lt_of_step (run_locals hrun h₀ u) (by rw [hstep]; rfl)
      have hcount (t : ι) : n t - (ts ++ [u]).count t ≤ n t - ts.count t :=
        Nat.sub_le_sub_left ((List.sublist_append_left ts [u]).count_le t) _
      have hcount_u : n u - (ts ++ [u]).count u < n u - ts.count u := by
        rw [List.count_append, List.count_singleton_self]
        omega
      have hless : ∑ t, (n t - (ts ++ [u]).count t) < left :=
        hleft ▸ Finset.sum_lt_sum (fun t _ => hcount t) ⟨u, Finset.mem_univ u, hcount_u⟩
      obtain ⟨ts', c', hrun', hend'⟩ := ih _ hless (hrun.snoc ⟨s, w, hstep, rfl⟩) rfl
      rw [List.append_assoc] at hrun'
      exact ⟨[u] ++ ts', c', hrun', hend'⟩

end Threads
