import Mathlib.Tactic.Common

/-!
# Programs that call an environment

A program `Prog S ε α` issues calls of a signature `S` one after another, may
branch on every answer, and ends by returning a value or by throwing. The
signature fixes which answers a call can get, never which answer it gets, so
one program has one reading for each environment:

* `Traces p t r`: against an unrestricted environment, `p` may issue the calls
  of `t`, get the answers recorded there, and end with `r`;
* `observe f p`: against an environment that answers by a function `f` of the
  call, the end of `p` together with the calls it made.

Results: `traces_bind_iff`, `traces_tryCatch_iff`: traces of composed programs.
-/

namespace Interaction

/-- A signature of calls, with the type of answers each call can get. -/
structure Sig where
  Op : Type
  Ans : Op → Type

/-- A program over the calls of `S` that throws `ε` or returns `α`. -/
inductive Prog (S : Sig) (ε α : Type) : Type
  | ret (a : α) : Prog S ε α
  | throw (e : ε) : Prog S ε α
  | call (op : S.Op) (k : S.Ans op → Prog S ε α) : Prog S ε α

variable {S : Sig} {ε α β σ τ : Type}

namespace Prog

/-- Run `p`, then `f` on its value; a throw of `p` ends both. -/
def bind : Prog S ε α → (α → Prog S ε β) → Prog S ε β
  | ret a, f => f a
  | throw e, _ => throw e
  | call op k, f => call op fun a => (k a).bind f

/-- Run `p`; if it throws `e`, continue with `h e`. -/
def tryCatch : Prog S ε α → (ε → Prog S ε α) → Prog S ε α
  | ret a, _ => ret a
  | throw e, h => h e
  | call op k, h => call op fun a => (k a).tryCatch h

instance : Monad (Prog S ε) where
  pure := ret
  bind := bind

instance : MonadExceptOf ε (Prog S ε) where
  throw := throw
  tryCatch := tryCatch

/-- One call that returns its answer. -/
def perform (op : S.Op) : Prog S ε (S.Ans op) :=
  call op ret

@[simp] theorem pure_eq (a : α) : (pure a : Prog S ε α) = ret a := rfl

@[simp] theorem throw_eq (e : ε) : (MonadExcept.throw e : Prog S ε α) = throw e := rfl

@[simp] theorem throwThe_eq (e : ε) : (throwThe ε e : Prog S ε α) = throw e := rfl

@[simp] theorem bind_eq (p : Prog S ε α) (f : α → Prog S ε β) : p >>= f = p.bind f := rfl

@[simp] theorem tryCatch_eq (p : Prog S ε α) (h : ε → Prog S ε α) :
    MonadExcept.tryCatch p h = p.tryCatch h := rfl

@[simp] theorem tryCatchThe_eq (p : Prog S ε α) (h : ε → Prog S ε α) :
    tryCatchThe ε p h = p.tryCatch h := rfl

@[simp] theorem ret_bind (a : α) (f : α → Prog S ε β) : (ret a).bind f = f a := rfl

@[simp] theorem throw_bind (e : ε) (f : α → Prog S ε β) :
    (throw e : Prog S ε α).bind f = throw e := rfl

@[simp] theorem call_bind (op : S.Op) (k : S.Ans op → Prog S ε α) (f : α → Prog S ε β) :
    (call op k).bind f = call op fun a => (k a).bind f := rfl

@[simp] theorem perform_bind (op : S.Op) (f : S.Ans op → Prog S ε β) :
    (perform op).bind f = call op f := rfl

@[simp] theorem ret_tryCatch (a : α) (h : ε → Prog S ε α) : (ret a).tryCatch h = ret a := rfl

@[simp] theorem throw_tryCatch (e : ε) (h : ε → Prog S ε α) :
    (throw e : Prog S ε α).tryCatch h = h e := rfl

@[simp] theorem call_tryCatch (op : S.Op) (k : S.Ans op → Prog S ε α) (h : ε → Prog S ε α) :
    (call op k).tryCatch h = call op fun a => (k a).tryCatch h := rfl

theorem bind_assoc {γ : Type} (p : Prog S ε α) (f : α → Prog S ε β) (g : β → Prog S ε γ) :
    (p.bind f).bind g = p.bind fun a => (f a).bind g := by
  induction p with
  | ret a => rfl
  | throw e => rfl
  | call op k ih => exact congrArg (call op) (funext ih)

end Prog

/-! ## Traces -/

/-- One call of the signature together with the answer it got. -/
structure Event (S : Sig) where
  op : S.Op
  ans : S.Ans op

/-- `Traces p t r`: `p` may issue the calls of `t` in this order, get the
answers recorded in `t`, and end with `r`. -/
inductive Traces : Prog S ε α → List (Event S) → Except ε α → Prop
  | ret {a : α} : Traces (.ret a) [] (.ok a)
  | throw {e : ε} : Traces (.throw e) [] (.error e)
  | call {op : S.Op} {k : S.Ans op → Prog S ε α} {a : S.Ans op} {t : List (Event S)}
      {r : Except ε α} : Traces (k a) t r → Traces (.call op k) (⟨op, a⟩ :: t) r

@[simp] theorem traces_ret_iff {a : α} {t : List (Event S)} {r : Except ε α} :
    Traces (Prog.ret a) t r ↔ t = [] ∧ r = .ok a := by
  constructor
  · rintro ⟨⟩; exact ⟨rfl, rfl⟩
  · rintro ⟨rfl, rfl⟩; exact .ret

@[simp] theorem traces_throw_iff {e : ε} {t : List (Event S)} {r : Except ε α} :
    Traces (Prog.throw e) t r ↔ t = [] ∧ r = .error e := by
  constructor
  · rintro ⟨⟩; exact ⟨rfl, rfl⟩
  · rintro ⟨rfl, rfl⟩; exact .throw

theorem traces_call_iff {op : S.Op} {k : S.Ans op → Prog S ε α} {t : List (Event S)}
    {r : Except ε α} :
    Traces (.call op k) t r ↔ ∃ a t', t = ⟨op, a⟩ :: t' ∧ Traces (k a) t' r := by
  constructor
  · rintro ⟨⟩; exact ⟨_, _, rfl, ‹_›⟩
  · rintro ⟨a, t', rfl, h⟩; exact .call h

theorem traces_perform_bind_iff {op : S.Op} {f : S.Ans op → Prog S ε α} {t : List (Event S)}
    {r : Except ε α} :
    Traces ((Prog.perform op).bind f) t r ↔ ∃ a t', t = ⟨op, a⟩ :: t' ∧ Traces (f a) t' r :=
  traces_call_iff

/-- A trace of `p` followed by `f` is a trace of `p` that throws, or one that
returns followed by a trace of `f` on the returned value. -/
theorem traces_bind_iff {p : Prog S ε α} {f : α → Prog S ε β} {t : List (Event S)}
    {r : Except ε β} :
    Traces (p.bind f) t r ↔
      (∃ e, r = .error e ∧ Traces p t (.error e)) ∨
      ∃ t₁ t₂ a, t = t₁ ++ t₂ ∧ Traces p t₁ (.ok a) ∧ Traces (f a) t₂ r := by
  induction p generalizing t with
  | ret a =>
    constructor
    · intro h; exact .inr ⟨[], t, a, rfl, .ret, h⟩
    · rintro (⟨e, _, h⟩ | ⟨t₁, t₂, a', rfl, h₁, h₂⟩)
      · cases h
      · cases h₁; exact h₂
  | throw e =>
    constructor
    · intro h; cases h; exact .inl ⟨e, rfl, .throw⟩
    · rintro (⟨e', rfl, h⟩ | ⟨t₁, t₂, a', rfl, h₁, _⟩)
      · cases h; exact .throw
      · cases h₁
  | call op k ih =>
    rw [Prog.call_bind, traces_call_iff]
    constructor
    · rintro ⟨a, t', rfl, h⟩
      rcases (ih a).mp h with ⟨e, he, h'⟩ | ⟨t₁, t₂, a', rfl, h₁, h₂⟩
      · exact .inl ⟨e, he, .call h'⟩
      · exact .inr ⟨⟨op, a⟩ :: t₁, t₂, a', rfl, .call h₁, h₂⟩
    · rintro (⟨e, he, h⟩ | ⟨t₁, t₂, a', rfl, h₁, h₂⟩)
      · obtain ⟨a, t', rfl, h'⟩ := traces_call_iff.mp h
        exact ⟨a, t', rfl, (ih a).mpr (.inl ⟨e, he, h'⟩)⟩
      · obtain ⟨a, t', rfl, h'⟩ := traces_call_iff.mp h₁
        exact ⟨a, t' ++ t₂, rfl, (ih a).mpr (.inr ⟨t', t₂, a', rfl, h', h₂⟩)⟩

/-- A trace of a handled program is a trace that returns, or one that throws
followed by a trace of the handler on what was thrown. -/
theorem traces_tryCatch_iff {p : Prog S ε α} {h : ε → Prog S ε α} {t : List (Event S)}
    {r : Except ε α} :
    Traces (p.tryCatch h) t r ↔
      (∃ a, r = .ok a ∧ Traces p t (.ok a)) ∨
      ∃ t₁ t₂ e, t = t₁ ++ t₂ ∧ Traces p t₁ (.error e) ∧ Traces (h e) t₂ r := by
  induction p generalizing t with
  | ret a =>
    constructor
    · intro h'; cases h'; exact .inl ⟨a, rfl, .ret⟩
    · rintro (⟨a', rfl, h'⟩ | ⟨t₁, t₂, e, rfl, h₁, _⟩)
      · cases h'; exact .ret
      · cases h₁
  | throw e =>
    constructor
    · intro h'; exact .inr ⟨[], t, e, rfl, .throw, h'⟩
    · rintro (⟨a', _, h'⟩ | ⟨t₁, t₂, e', rfl, h₁, h₂⟩)
      · cases h'
      · cases h₁; exact h₂
  | call op k ih =>
    rw [Prog.call_tryCatch, traces_call_iff]
    constructor
    · rintro ⟨a, t', rfl, h'⟩
      rcases (ih a).mp h' with ⟨a', hr, h'⟩ | ⟨t₁, t₂, e, rfl, h₁, h₂⟩
      · exact .inl ⟨a', hr, .call h'⟩
      · exact .inr ⟨⟨op, a⟩ :: t₁, t₂, e, rfl, .call h₁, h₂⟩
    · rintro (⟨a', hr, h'⟩ | ⟨t₁, t₂, e, rfl, h₁, h₂⟩)
      · obtain ⟨a, t', rfl, h''⟩ := traces_call_iff.mp h'
        exact ⟨a, t', rfl, (ih a).mpr (.inl ⟨a', hr, h''⟩)⟩
      · obtain ⟨a, t', rfl, h''⟩ := traces_call_iff.mp h₁
        exact ⟨a, t' ++ t₂, rfl, (ih a).mpr (.inr ⟨t', t₂, e, rfl, h'', h₂⟩)⟩

/-! ## Environments that answer by a function -/

/-- The end of `p` and the calls it made, when every call is answered by `f`. -/
def observe (f : (op : S.Op) → S.Ans op) : Prog S ε α → Except ε α × List (Event S)
  | .ret a => (.ok a, [])
  | .throw e => (.error e, [])
  | .call op k => ((observe f (k (f op))).1, ⟨op, f op⟩ :: (observe f (k (f op))).2)

theorem observe_bind_ok {f : (op : S.Op) → S.Ans op} {p : Prog S ε α} {a : α}
    (h : (observe f p).1 = .ok a) (g : α → Prog S ε β) :
    (observe f (p.bind g)).1 = (observe f (g a)).1 := by
  induction p with
  | ret b => rw [Except.ok.inj h.symm]; rfl
  | throw e => cases h
  | call op k ih => exact ih (f op) h

end Interaction
