import HipRand.Lib.Prog

/-!
# Programs against an environment that has a state

`Env S σ` answers the calls of a program depending on a state, and may also
change that state by itself at any moment: before, between and after the calls.
`Runs E p s r s'` says that `p`, started in `s`, may end with `r` in `s'`.

Results:
1. `runs_bind_iff`: the runs of a program in sequence.
2. `Triple`: preconditions and postconditions, with one rule for each way to build
   a program (`Triple.ret`, `throw`, `call`, `bind`). A condition that is carried
   across a call has to be stable under what the environment does by itself.
3. `Issues.triple`: what every call of a program keeps, the program keeps.
4. `Triple.observe`: a triple for the environment that answers by a function is a
   fact about what `observe` gives.
-/

namespace Interaction

/-- How an environment with states `σ` answers a call, and what it may do by itself. -/
structure Env (S : Sig) (σ : Type) where
  handle : (op : S.Op) → σ → S.Ans op → σ → Prop
  rely : σ → σ → Prop

variable {S : Sig} {ε α β σ : Type} {E : Env S σ}

/-- `Runs E p s r s'`: in the environment `E`, the program `p` may end with `r` and
take the state from `s` to `s'`. -/
inductive Runs (E : Env S σ) : Prog S ε α → σ → Except ε α → σ → Prop
  | ret {a : α} {s : σ} : Runs E (.ret a) s (.ok a) s
  | throw {e : ε} {s : σ} : Runs E (.throw e) s (.error e) s
  | call {op : S.Op} {k : S.Ans op → Prog S ε α} {a : S.Ans op} {s s₁ s' : σ}
      {r : Except ε α} :
      E.handle op s a s₁ → Runs E (k a) s₁ r s' → Runs E (.call op k) s r s'
  | rely {p : Prog S ε α} {s s₁ s' : σ} {r : Except ε α} :
      E.rely s s₁ → Runs E p s₁ r s' → Runs E p s r s'

theorem Runs.bind_ok {p : Prog S ε α} {f : α → Prog S ε β} {a : α} {s s₁ s' : σ}
    {r : Except ε β} (hp : Runs E p s (.ok a) s₁) (hf : Runs E (f a) s₁ r s') :
    Runs E (p.bind f) s r s' := by
  generalize hr : Except.ok a = r₁ at hp
  induction hp with
  | ret =>
    obtain rfl := Except.ok.inj hr
    exact hf
  | throw => cases hr
  | call h _ ih => exact .call h (ih hf hr)
  | rely h _ ih => exact .rely h (ih hf hr)

theorem Runs.bind_error {p : Prog S ε α} {f : α → Prog S ε β} {e : ε} {s s' : σ}
    (hp : Runs E p s (.error e) s') : Runs E (p.bind f) s (.error e) s' := by
  generalize hr : Except.error e = r₁ at hp
  induction hp with
  | ret => cases hr
  | throw =>
    obtain rfl := Except.error.inj hr
    exact .throw
  | call h _ ih => exact .call h (ih hr)
  | rely h _ ih => exact .rely h (ih hr)

/-- A run of `p` followed by `f` is a run of `p` that throws, or one that returns
followed by a run of `f` on the returned value. -/
theorem runs_bind_iff {p : Prog S ε α} {f : α → Prog S ε β} {s s' : σ} {r : Except ε β} :
    Runs E (p.bind f) s r s' ↔
      (∃ e, r = .error e ∧ Runs E p s (.error e) s') ∨
      ∃ a s₁, Runs E p s (.ok a) s₁ ∧ Runs E (f a) s₁ r s' := by
  constructor
  · intro h
    induction p generalizing s with
    | ret a => exact .inr ⟨a, s, .ret, h⟩
    | throw e =>
      rw [Prog.throw_bind] at h
      generalize hq : Prog.throw e = q at h
      induction h with
      | throw =>
        cases hq
        exact .inl ⟨e, rfl, .throw⟩
      | rely hrely _ ih =>
        rcases ih hq with ⟨e', rfl, h'⟩ | ⟨a, s₂, h₁, h₂⟩
        · exact .inl ⟨e', rfl, .rely hrely h'⟩
        · exact .inr ⟨a, s₂, .rely hrely h₁, h₂⟩
      | ret | call => cases hq
    | call op k ih =>
      rw [Prog.call_bind] at h
      generalize hq : Prog.call op (fun a => (k a).bind f) = q at h
      induction h with
      | call hh hrun _ =>
        cases hq
        rcases ih _ hrun with ⟨e, rfl, h'⟩ | ⟨a, s₂, h₁, h₂⟩
        · exact .inl ⟨e, rfl, .call hh h'⟩
        · exact .inr ⟨a, s₂, .call hh h₁, h₂⟩
      | rely hrely _ ih' =>
        rcases ih' ih hq with ⟨e, rfl, h'⟩ | ⟨a, s₂, h₁, h₂⟩
        · exact .inl ⟨e, rfl, .rely hrely h'⟩
        · exact .inr ⟨a, s₂, .rely hrely h₁, h₂⟩
      | ret | throw => cases hq
  · rintro (⟨e, rfl, h⟩ | ⟨a, s₁, h₁, h₂⟩)
    · exact h.bind_error
    · exact h₁.bind_ok h₂

/-! ## Preconditions and postconditions -/

/-- What the environment does by itself keeps `P`. -/
def Stable (E : Env S σ) (P : σ → Prop) : Prop :=
  ∀ s s', P s → E.rely s s' → P s'

/-- Every run of `p` from a state in `P` ends as `Q` says. -/
def Triple (E : Env S σ) (P : σ → Prop) (p : Prog S ε α) (Q : Except ε α → σ → Prop) : Prop :=
  ∀ s r s', P s → Runs E p s r s' → Q r s'

namespace Triple

variable {P P' : σ → Prop} {Q Q' : Except ε α → σ → Prop}

theorem ret {a : α} (hP : Stable E P) (h : ∀ s, P s → Q (.ok a) s) :
    Triple E P (.ret a : Prog S ε α) Q := by
  intro s r s' hs hrun
  generalize hq : (.ret a : Prog S ε α) = q at hrun
  induction hrun with
  | ret =>
    cases hq
    exact h _ hs
  | throw => cases hq
  | call => cases hq
  | rely hrely _ ih => exact ih (hP _ _ hs hrely) hq

theorem throw {e : ε} (hP : Stable E P) (h : ∀ s, P s → Q (.error e) s) :
    Triple E P (.throw e : Prog S ε α) Q := by
  intro s r s' hs hrun
  generalize hq : (.throw e : Prog S ε α) = q at hrun
  induction hrun with
  | ret => cases hq
  | throw =>
    cases hq
    exact h _ hs
  | call => cases hq
  | rely hrely _ ih => exact ih (hP _ _ hs hrely) hq

theorem pre {p : Prog S ε α} (h : Triple E P p Q) (hP : ∀ s, P' s → P s) : Triple E P' p Q :=
  fun s r s' hs hrun => h s r s' (hP s hs) hrun

theorem post {p : Prog S ε α} (h : Triple E P p Q) (hQ : ∀ r s, Q r s → Q' r s) :
    Triple E P p Q' :=
  fun s r s' hs hrun => hQ r s' (h s r s' hs hrun)

/-- A call takes `P` to a condition `R a` on its answer `a`. -/
theorem call {op : S.Op} {k : S.Ans op → Prog S ε α} {R : S.Ans op → σ → Prop}
    (hP : Stable E P) (h : ∀ s a s', P s → E.handle op s a s' → R a s')
    (hk : ∀ a, Triple E (R a) (k a) Q) : Triple E P (.call op k) Q := by
  intro s r s' hs hrun
  generalize hq : Prog.call op k = q at hrun
  induction hrun with
  | ret => cases hq
  | throw => cases hq
  | call hh hrun _ =>
    cases hq
    exact hk _ _ _ _ (h _ _ _ hs hh) hrun
  | rely hrely _ ih => exact ih (hP _ _ hs hrely) hq

/-- A program with a postcondition of its own, and what follows it. -/
theorem andThen {p : Prog S ε β} {f : β → Prog S ε α} {R : Except ε β → σ → Prop}
    (hp : Triple E P p R) (herr : ∀ e s, R (.error e) s → Q (.error e) s)
    (hf : ∀ b, Triple E (R (.ok b)) (f b) Q) : Triple E P (p.bind f) Q := by
  intro s r s' hs hrun
  rcases runs_bind_iff.mp hrun with ⟨e, rfl, h⟩ | ⟨b, s₁, h₁, h₂⟩
  · exact herr e s' (hp _ _ _ hs h)
  · exact hf b _ _ _ (hp _ _ _ hs h₁) h₂

theorem bind {p : Prog S ε β} {f : β → Prog S ε α} {R : β → σ → Prop}
    (hp : Triple E P p fun r s => match r with
      | .ok b => R b s
      | .error e => Q (.error e) s)
    (hf : ∀ b, Triple E (R b) (f b) Q) : Triple E P (p.bind f) Q :=
  hp.andThen (fun _ _ h => h) hf

/-- Where only a result matters, and not how the program may fail. -/
theorem bindOk {p : Prog S ε β} {f : β → Prog S ε α} {R : β → σ → Prop} {T : α → σ → Prop}
    (hp : Triple E P p fun r s => ∀ b, r = .ok b → R b s)
    (hf : ∀ b, Triple E (R b) (f b) fun r s => ∀ a, r = .ok a → T a s) :
    Triple E P (p.bind f) fun r s => ∀ a, r = .ok a → T a s :=
  hp.andThen (fun _ _ _ => nofun) fun b => (hf b).pre fun _ hb => hb b rfl

/-- One call whose answer is returned. -/
theorem perform {op : S.Op} {Q : Except ε (S.Ans op) → σ → Prop} (hP : Stable E P)
    (hQ : ∀ r, Stable E (Q r)) (h : ∀ s a s', P s → E.handle op s a s' → Q (.ok a) s') :
    Triple E P (Prog.perform op) Q :=
  call hP h fun a => ret (hQ (.ok a)) fun _ hs => hs

/-- One call, and what follows it. -/
theorem perform_bind {op : S.Op} {f : S.Ans op → Prog S ε α} {R : S.Ans op → σ → Prop}
    (hP : Stable E P) (h : ∀ s a s', P s → E.handle op s a s' → R a s')
    (hf : ∀ a, Triple E (R a) (f a) Q) : Triple E P ((Prog.perform op).bind f) Q :=
  call hP h hf

/-- A fact in the precondition that is not about the state. -/
theorem assuming {p : Prog S ε α} {φ : Prop} (h : φ → Triple E P p Q) :
    Triple E (fun s => φ ∧ P s) p Q :=
  fun s r s' ⟨hφ, hs⟩ hrun => h hφ s r s' hs hrun

/-- A precondition about some value. -/
theorem choosing {ι : Type} {p : Prog S ε α} {R : ι → σ → Prop} (h : ∀ i, Triple E (R i) p Q) :
    Triple E (fun s => ∃ i, R i s) p Q :=
  fun s r s' ⟨i, hs⟩ hrun => h i s r s' hs hrun

end Triple

/-! ## What a program can call -/

/-- Every call that `p` can issue is one of `A`. -/
def Issues (A : S.Op → Prop) : Prog S ε α → Prop
  | .ret _ => True
  | .throw _ => True
  | .call op k => A op ∧ ∀ a, Issues A (k a)

namespace Issues

variable {A : S.Op → Prop} {P : σ → Prop}

theorem bind {p : Prog S ε α} {f : α → Prog S ε β} (hp : Issues A p) (hf : ∀ a, Issues A (f a)) :
    Issues A (p.bind f) := by
  induction p with
  | ret a => exact hf a
  | throw e => trivial
  | call op k ih => exact ⟨hp.1, fun a => ih a (hp.2 a)⟩

theorem perform {op : S.Op} (h : A op) : Issues A (Prog.perform op : Prog S ε (S.Ans op)) :=
  ⟨h, fun _ => trivial⟩

theorem any (p : Prog S ε α) : Issues (fun _ => True) p := by
  induction p with
  | ret a => trivial
  | throw e => trivial
  | call op k ih => exact ⟨trivial, ih⟩

/-- What each of the calls keeps, the program keeps. -/
theorem triple {p : Prog S ε α} (hp : Issues A p) (hP : Stable E P)
    (h : ∀ op s a s', A op → P s → E.handle op s a s' → P s') :
    Triple E P p fun _ s => P s := by
  induction p with
  | ret a => exact .ret hP fun _ hs => hs
  | throw e => exact .throw hP fun _ hs => hs
  | call op k ih =>
    exact .call hP (fun s a s' hs hh => h op s a s' hp.1 hs hh) fun a => ih a (hp.2 a)

end Issues

/-! ## Environments that answer by a function -/

/-- Where the environment can always give the answers of `f`, the end that is observed
is that of some run. -/
theorem exists_runs_observe {f : (op : S.Op) → S.Ans op}
    (h : ∀ op s, ∃ s', E.handle op s (f op) s') (p : Prog S ε α) (s : σ) :
    ∃ s', Runs E p s (observe f p).1 s' := by
  induction p generalizing s with
  | ret a => exact ⟨s, .ret⟩
  | throw e => exact ⟨s, .throw⟩
  | call op k ih =>
    obtain ⟨s₁, hh⟩ := h op s
    obtain ⟨s', hrun⟩ := ih (f op) s₁
    exact ⟨s', .call hh hrun⟩

/-- Answer by `f` and keep the log of the calls. -/
def Env.answering (f : (op : S.Op) → S.Ans op) : Env S (List (Event S)) where
  handle op log a log' := a = f op ∧ log' = log ++ [⟨op, a⟩]
  rely _ _ := False

theorem stable_answering {f : (op : S.Op) → S.Ans op} (P : List (Event S) → Prop) :
    Stable (.answering f) P :=
  fun _ _ _ h => h.elim

/-- What is observed is a run. -/
theorem runs_observe (f : (op : S.Op) → S.Ans op) (p : Prog S ε α) (log : List (Event S)) :
    Runs (.answering f) p log (observe f p).1 (log ++ (observe f p).2) := by
  induction p generalizing log with
  | ret a =>
    rw [show (observe f (.ret a : Prog S ε α)).2 = [] from rfl, List.append_nil]
    exact .ret
  | throw e =>
    rw [show (observe f (.throw e : Prog S ε α)).2 = [] from rfl, List.append_nil]
    exact .throw
  | call op k ih =>
    have hrun := ih (f op) (log ++ [⟨op, f op⟩])
    rw [List.append_assoc, List.singleton_append] at hrun
    exact .call ⟨rfl, rfl⟩ hrun

/-- A triple against an answering environment is a fact about what is observed. -/
theorem Triple.observe {f : (op : S.Op) → S.Ans op} {p : Prog S ε α}
    {P : List (Event S) → Prop} {Q : Except ε α → List (Event S) → Prop}
    (h : Triple (.answering f) P p Q) (hP : P []) :
    Q (Interaction.observe f p).1 (Interaction.observe f p).2 :=
  h [] _ _ hP (runs_observe f p [])

end Interaction
