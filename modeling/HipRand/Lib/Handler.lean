import HipRand.Lib.Hoare
import Mathlib.Data.List.Forall2

/-!
# Programs whose calls are programs

A handler answers each call of a signature `S` by a program over a signature `T`.
`p.through h f` is the program `p` with `h` in place of its calls; what `p` throws is
thrown as `f` says, what `h` throws ends the run as it is.

Results:
1. `traces_through_iff`: a trace of `p.through h f` is a trace of `p` with each event
   replaced by a trace of the handler that gave the answer, or stops where the handler
   throws.
2. `Issues.through`, `Issues.of_mem`: which calls such a program issues.
3. `Follows.through`: two handlers with corresponding traces make programs with
   corresponding traces of one program.
-/

namespace Interaction

variable {S T U : Sig} {ε ζ α β : Type}

/-! ## Programs over another signature -/

def Prog.through (h : (op : S.Op) → Prog T ζ (S.Ans op)) (f : ε → ζ) : Prog S ε α → Prog T ζ α
  | .ret a => .ret a
  | .throw e => .throw (f e)
  | .call op k => (h op).bind fun a => (k a).through h f

/-- The same program, with what it throws renamed. -/
def Prog.mapError (f : ε → ζ) (p : Prog S ε α) : Prog S ζ α :=
  p.through Prog.perform f

/-- Both signatures side by side. -/
abbrev Sig.sum (S T : Sig) : Sig where
  Op := S.Op ⊕ T.Op
  Ans := Sum.elim S.Ans T.Ans

def Event.inl (e : Event S) : Event (S.sum T) :=
  ⟨.inl e.op, e.ans⟩

def Prog.inl (p : Prog S ε α) : Prog (S.sum T) ε α :=
  p.through (fun op => .perform (S := S.sum T) (.inl op)) id

/-- The handler that leaves the calls of `U` as they are. -/
def beside (h : (op : S.Op) → Prog T ζ (S.Ans op)) (U : Sig) :
    (op : (S.sum U).Op) → Prog (T.sum U) ζ ((S.sum U).Ans op)
  | .inl op => (h op).inl
  | .inr op => .perform (S := T.sum U) (.inr op)

/-! ## The calls that are issued -/

section Issued

variable {A : S.Op → Prop} {B : T.Op → Prop}

theorem Issues.mono {A' : S.Op → Prop} {p : Prog S ε α} (hp : Issues A p)
    (h : ∀ op, A op → A' op) : Issues A' p := by
  induction p with
  | ret a => trivial
  | throw e => trivial
  | call op k ih => exact ⟨h op hp.1, fun a => ih a (hp.2 a)⟩

theorem Issues.tryCatch {p : Prog S ε α} {f : ε → Prog S ε α} (hp : Issues A p)
    (hf : ∀ e, Issues A (f e)) : Issues A (p.tryCatch f) := by
  induction p with
  | ret a => trivial
  | throw e => exact hf e
  | call op k ih => exact ⟨hp.1, fun a => ih a (hp.2 a)⟩

theorem Issues.through {h : (op : S.Op) → Prog T ζ (S.Ans op)} {f : ε → ζ} {p : Prog S ε α}
    (hp : Issues A p) (hh : ∀ op, A op → Issues B (h op)) : Issues B (p.through h f) := by
  induction p with
  | ret a => trivial
  | throw e => trivial
  | call op k ih => exact (hh op hp.1).bind fun a => ih a (hp.2 a)

end Issued

/-! ## Traces -/

/-- The events `ts` are those of `h` while it answers the calls of `es` as recorded. -/
inductive Implements (h : (op : S.Op) → Prog T ζ (S.Ans op)) :
    List (Event S) → List (Event T) → Prop
  | nil : Implements h [] []
  | cons {op : S.Op} {a : S.Ans op} {es : List (Event S)} {t₁ t₂ : List (Event T)} :
      Traces (h op) t₁ (.ok a) → Implements h es t₂ → Implements h (⟨op, a⟩ :: es) (t₁ ++ t₂)

/-- After the events `es`, the next call of the program is `op`. -/
inductive Pending : Prog S ε α → List (Event S) → S.Op → Prop
  | here {op : S.Op} {k : S.Ans op → Prog S ε α} : Pending (.call op k) [] op
  | after {op op' : S.Op} {k : S.Ans op → Prog S ε α} {a : S.Ans op} {es : List (Event S)} :
      Pending (k a) es op' → Pending (.call op k) (⟨op, a⟩ :: es) op'

theorem traces_through_iff {h : (op : S.Op) → Prog T ζ (S.Ans op)} {f : ε → ζ} {p : Prog S ε α}
    {t : List (Event T)} {r : Except ζ α} :
    Traces (p.through h f) t r ↔
      (∃ es r', Implements h es t ∧ Traces p es r' ∧ r = r'.mapError f) ∨
      ∃ es op t₁ t₂ z, t = t₁ ++ t₂ ∧ Implements h es t₁ ∧ Pending p es op ∧
        Traces (h op) t₂ (.error z) ∧ r = .error z := by
  induction p generalizing t with
  | ret a =>
    constructor
    · intro ht
      obtain ⟨rfl, rfl⟩ := traces_ret_iff.mp ht
      exact .inl ⟨[], .ok a, .nil, .ret, rfl⟩
    · rintro (⟨es, r', him, ht, rfl⟩ | ⟨es, op, t₁, t₂, z, _, _, hp, _⟩)
      · obtain ⟨rfl, rfl⟩ := traces_ret_iff.mp ht
        cases him
        exact .ret
      · cases hp
  | throw e =>
    constructor
    · intro ht
      obtain ⟨rfl, rfl⟩ := traces_throw_iff.mp ht
      exact .inl ⟨[], .error e, .nil, .throw, rfl⟩
    · rintro (⟨es, r', him, ht, rfl⟩ | ⟨es, op, t₁, t₂, z, _, _, hp, _⟩)
      · obtain ⟨rfl, rfl⟩ := traces_throw_iff.mp ht
        cases him
        exact .throw
      · cases hp
  | call op k ih =>
    rw [Prog.through, traces_bind_iff]
    constructor
    · rintro (⟨z, rfl, hz⟩ | ⟨t₁, t₂, a, rfl, h₁, h₂⟩)
      · exact .inr ⟨[], op, [], t, z, rfl, .nil, .here, hz, rfl⟩
      · rcases (ih a).mp h₂ with ⟨es, r', him, ht, hr⟩ | ⟨es, op', u₁, u₂, z, rfl, him, hp, hz, hr⟩
        · exact .inl ⟨⟨op, a⟩ :: es, r', .cons h₁ him, .call ht, hr⟩
        · exact .inr ⟨⟨op, a⟩ :: es, op', t₁ ++ u₁, u₂, z, (List.append_assoc ..).symm,
            .cons h₁ him, .after hp, hz, hr⟩
    · rintro (⟨es, r', him, ht, hr⟩ | ⟨es, op', t₁, t₂, z, rfl, him, hp, hz, rfl⟩)
      · obtain ⟨a, es', rfl, ht'⟩ := traces_call_iff.mp ht
        cases him with
        | cons h₁ him' =>
          exact .inr ⟨_, _, a, rfl, h₁, (ih a).mpr (.inl ⟨es', r', him', ht', hr⟩)⟩
      · cases hp with
        | here =>
          cases him
          exact .inl ⟨z, rfl, hz⟩
        | @after _ _ _ a es' hp' =>
          cases him with
          | @cons _ _ _ u₁ u₂ h₁ him' =>
            rw [List.append_assoc]
            exact .inr ⟨u₁, u₂ ++ t₂, a, rfl, h₁,
              (ih a).mpr (.inr ⟨es', op', u₂, t₂, z, rfl, him', hp', hz, rfl⟩)⟩

theorem Issues.of_pending {A : S.Op → Prop} {p : Prog S ε α} (hp : Issues A p)
    {es : List (Event S)} {op : S.Op} (h : Pending p es op) : A op ∧ ∀ e ∈ es, A e.op := by
  induction h with
  | here => exact ⟨hp.1, List.forall_mem_nil _⟩
  | after _ ih =>
    obtain ⟨hop, hes⟩ := ih (hp.2 _)
    exact ⟨hop, List.forall_mem_cons.mpr ⟨hp.1, hes⟩⟩

/-- A fact about the events of the handler that follows from the event it answers. -/
theorem Implements.forall_mem {h : (op : S.Op) → Prog T ζ (S.Ans op)} {P : Event S → Prop}
    {Q : Event T → Prop} (hQ : ∀ op a t, P ⟨op, a⟩ → Traces (h op) t (.ok a) → ∀ e ∈ t, Q e)
    {es : List (Event S)} {t : List (Event T)} (him : Implements h es t) (hes : ∀ e ∈ es, P e) :
    ∀ e ∈ t, Q e := by
  induction him with
  | nil => exact List.forall_mem_nil _
  | cons h₁ _ ih =>
    obtain ⟨he, hes'⟩ := List.forall_mem_cons.mp hes
    intro e hmem
    rcases List.mem_append.mp hmem with h₁' | h₂'
    · exact hQ _ _ _ he h₁ e h₁'
    · exact ih hes' e h₂'

/-- A fact about a call and its answer that the handler ensures. -/
theorem Implements.forall_source {h : (op : S.Op) → Prog T ζ (S.Ans op)} {P : Event S → Prop}
    (hP : ∀ op a t, Traces (h op) t (.ok a) → P ⟨op, a⟩) {es : List (Event S)} {t : List (Event T)}
    (him : Implements h es t) : ∀ e ∈ es, P e := by
  induction him with
  | nil => exact List.forall_mem_nil _
  | cons h₁ _ ih => exact List.forall_mem_cons.mpr ⟨hP _ _ _ h₁, ih⟩

/-- What is collected from the events of the handler, when it is known for each call. -/
theorem Implements.collect {γ : Type} {h : (op : S.Op) → Prog T ζ (S.Ans op)}
    {P : Event S → Prop} {F : Event S → List γ} {G : Event T → List γ}
    (hG : ∀ op a t, P ⟨op, a⟩ → Traces (h op) t (.ok a) → t.flatMap G = F ⟨op, a⟩)
    {es : List (Event S)} {t : List (Event T)} (him : Implements h es t) (hes : ∀ e ∈ es, P e) :
    t.flatMap G = es.flatMap F := by
  induction him with
  | nil => rfl
  | cons h₁ _ ih =>
    obtain ⟨he, hes'⟩ := List.forall_mem_cons.mp hes
    rw [List.flatMap_append, List.flatMap_cons, hG _ _ _ he h₁, ih hes']

/-- A handler that performs one call for each, under an injection of the events. -/
theorem implements_iff_map {g : Event S → Event T} {h : (op : S.Op) → Prog T ζ (S.Ans op)}
    (hg : ∀ op a t, Traces (h op) t (.ok a) ↔ t = [g ⟨op, a⟩]) {es : List (Event S)}
    {t : List (Event T)} : Implements h es t ↔ t = es.map g := by
  constructor
  · intro him
    induction him with
    | nil => rfl
    | cons h₁ _ ih => rw [(hg _ _ _).mp h₁, ih, List.map_cons, List.singleton_append]
  · rintro rfl
    induction es with
    | nil => exact .nil
    | cons e es ih => exact .cons ((hg e.op e.ans _).mpr rfl) ih

theorem traces_perform_iff {op : S.Op} {t : List (Event S)} {r : Except ε (S.Ans op)} :
    Traces (Prog.perform op : Prog S ε (S.Ans op)) t r ↔ ∃ a, t = [⟨op, a⟩] ∧ r = .ok a := by
  constructor
  · intro ht
    obtain ⟨a, t', rfl, ht'⟩ := traces_call_iff.mp ht
    obtain ⟨rfl, rfl⟩ := traces_ret_iff.mp ht'
    exact ⟨a, rfl, rfl⟩
  · rintro ⟨a, rfl, rfl⟩
    exact .call .ret

/-- Where the handler performs one call for each, a trace keeps its events. -/
theorem traces_through_perform_iff {g : Event S → Event T}
    {h : (op : S.Op) → Prog T ζ (S.Ans op)} {f : ε → ζ} {p : Prog S ε α}
    (hg : ∀ op t r, Traces (h op) t r ↔ ∃ a, t = [g ⟨op, a⟩] ∧ r = .ok a) {t : List (Event T)}
    {r : Except ζ α} :
    Traces (p.through h f) t r ↔ ∃ es r', t = es.map g ∧ Traces p es r' ∧ r = r'.mapError f := by
  have hok (op : S.Op) (a : S.Ans op) (t : List (Event T)) :
      Traces (h op) t (.ok a) ↔ t = [g ⟨op, a⟩] := by
    rw [hg]
    constructor
    · rintro ⟨a', rfl, ha⟩
      rw [Except.ok.inj ha]
    · rintro rfl
      exact ⟨a, rfl, rfl⟩
  rw [traces_through_iff]
  constructor
  · rintro (⟨es, r', him, ht, hr⟩ | ⟨es, op, t₁, t₂, z, _, _, _, hz, _⟩)
    · exact ⟨es, r', (implements_iff_map hok).mp him, ht, hr⟩
    · obtain ⟨a, _, ha⟩ := (hg op t₂ _).mp hz
      cases ha
  · rintro ⟨es, r', hes, ht, hr⟩
    exact .inl ⟨es, r', (implements_iff_map hok).mpr hes, ht, hr⟩

theorem traces_mapError_iff {f : ε → ζ} {p : Prog S ε α} {t : List (Event S)} {r : Except ζ α} :
    Traces (p.mapError f) t r ↔ ∃ r', Traces p t r' ∧ r = r'.mapError f := by
  unfold Prog.mapError
  rw [traces_through_perform_iff (g := id) fun op t r => traces_perform_iff]
  simp

theorem traces_inl_iff {p : Prog S ε α} {t : List (Event (S.sum T))} {r : Except ε α} :
    Traces (p.inl : Prog (S.sum T) ε α) t r ↔ ∃ es, t = es.map Event.inl ∧ Traces p es r := by
  have hperform (op : S.Op) (t : List (Event (S.sum T))) (r : Except ε (S.Ans op)) :
      Traces (Prog.perform (S := S.sum T) (.inl op)) t r ↔
        ∃ a, t = [Event.inl ⟨op, a⟩] ∧ r = .ok a := traces_perform_iff
  unfold Prog.inl
  rw [traces_through_perform_iff hperform]
  constructor
  · rintro ⟨es, r', rfl, ht, rfl⟩
    exact ⟨es, rfl, by cases r' <;> exact ht⟩
  · rintro ⟨es, rfl, ht⟩
    exact ⟨es, r, rfl, ht, by cases r <;> rfl⟩

/-- Only calls that a program can issue are in its traces. -/
theorem Issues.of_mem {A : S.Op → Prop} {p : Prog S ε α} (hp : Issues A p) {t : List (Event S)}
    {r : Except ε α} (ht : Traces p t r) : ∀ e ∈ t, A e.op := by
  induction ht with
  | ret => exact List.forall_mem_nil _
  | throw => exact List.forall_mem_nil _
  | call _ ih => exact List.forall_mem_cons.mpr ⟨hp.1, ih (hp.2 _)⟩

/-! ## Programs that follow each other -/

/-- For corresponding events, what `p` can do `q` can do too. -/
def Follows (R : Event S → Event T → Prop) (p : Prog S ε α) (q : Prog T ε α) : Prop :=
  ∀ t t' r, Traces p t r → List.Forall₂ R t t' → Traces q t' r

section Follows

variable {R : Event S → Event T → Prop}

theorem Follows.bind {p : Prog S ε α} {q : Prog T ε α} {f : α → Prog S ε β} {g : α → Prog T ε β}
    (hpq : Follows R p q) (hfg : ∀ a, Follows R (f a) (g a)) :
    Follows R (p.bind f) (q.bind g) := by
  intro t t' r ht hR
  rcases traces_bind_iff.mp ht with ⟨e, rfl, h₁⟩ | ⟨t₁, t₂, a, rfl, h₁, h₂⟩
  · exact traces_bind_iff.mpr (.inl ⟨e, rfl, hpq _ _ _ h₁ hR⟩)
  · -- the corresponding log splits where the log of `p` does
    have hR₁ := List.forall₂_take t₁.length hR
    have hR₂ := List.forall₂_drop t₁.length hR
    rw [List.take_left] at hR₁
    rw [List.drop_left] at hR₂
    exact traces_bind_iff.mpr (.inr ⟨_, _, a, (List.take_append_drop t₁.length t').symm,
      hpq _ _ _ h₁ hR₁, hfg a _ _ _ h₂ hR₂⟩)

theorem Follows.mapError {p : Prog S ε α} {q : Prog T ε α} (h : Follows R p q) (f : ε → ζ) :
    Follows R (p.mapError f) (q.mapError f) := by
  intro t t' r ht hR
  obtain ⟨r', ht', rfl⟩ := traces_mapError_iff.mp ht
  exact traces_mapError_iff.mpr ⟨r', h _ _ _ ht' hR, rfl⟩

theorem Follows.through {h : (op : U.Op) → Prog S ζ (U.Ans op)}
    {h' : (op : U.Op) → Prog T ζ (U.Ans op)} {f : ε → ζ} {A : U.Op → Prop} {p : Prog U ε α}
    (hh : ∀ op, A op → Follows R (h op) (h' op)) (hp : Issues A p) :
    Follows R (p.through h f) (p.through h' f) := by
  induction p with
  | ret a =>
    intro t t' r ht hR
    obtain ⟨rfl, rfl⟩ := traces_ret_iff.mp ht
    cases hR
    exact .ret
  | throw e =>
    intro t t' r ht hR
    obtain ⟨rfl, rfl⟩ := traces_throw_iff.mp ht
    cases hR
    exact .throw
  | call op k ih => exact (hh op hp.1).bind fun a => ih a (hp.2 a)

end Follows

/-! ## Side by side -/

/-- Corresponding events side by side with events that are the same. -/
inductive Beside (R : Event S → Event T → Prop) (U : Sig) :
    Event (S.sum U) → Event (T.sum U) → Prop
  | inl {op : S.Op} {a : S.Ans op} {op' : T.Op} {a' : T.Ans op'} :
      R ⟨op, a⟩ ⟨op', a'⟩ → Beside R U ⟨.inl op, a⟩ ⟨.inl op', a'⟩
  | inr (op : U.Op) (a : U.Ans op) : Beside R U ⟨.inr op, a⟩ ⟨.inr op, a⟩

section Beside

variable {R : Event S → Event T → Prop}

/-- What corresponds to events of the left signature are events of the left signature. -/
theorem forall₂_beside_inl {es : List (Event S)} {t : List (Event (T.sum U))}
    (h : List.Forall₂ (Beside R U) (es.map Event.inl) t) :
    ∃ es', t = es'.map Event.inl ∧ List.Forall₂ R es es' := by
  induction es generalizing t with
  | nil =>
    cases h
    exact ⟨[], rfl, .nil⟩
  | cons e es ih =>
    obtain ⟨x, t', hx, ht', rfl⟩ := List.forall₂_cons_left_iff.mp h
    obtain ⟨es', rfl, hes⟩ := ih ht'
    cases hx with
    | @inl _ _ op' a' hR => exact ⟨⟨op', a'⟩ :: es', rfl, .cons hR hes⟩

theorem Follows.inl {p : Prog S ε α} {q : Prog T ε α} (h : Follows R p q) :
    Follows (Beside R U) p.inl q.inl := by
  intro t t' r ht hR
  obtain ⟨es, rfl, hes⟩ := traces_inl_iff.mp ht
  obtain ⟨es', rfl, hR'⟩ := forall₂_beside_inl hR
  exact traces_inl_iff.mpr ⟨es', rfl, h _ _ _ hes hR'⟩

theorem Follows.inr (op : U.Op) :
    Follows (Beside R U) (.perform (S := S.sum U) (.inr op) : Prog _ ε (U.Ans op))
      (.perform (S := T.sum U) (.inr op)) := by
  intro t t' r ht hR
  obtain ⟨a, rfl, rfl⟩ := traces_perform_iff.mp ht
  obtain ⟨x, t'', hx, ht', rfl⟩ := List.forall₂_cons_left_iff.mp hR
  cases ht'
  cases hx
  exact traces_perform_iff.mpr ⟨a, rfl, rfl⟩

end Beside

end Interaction
