import Mathlib.Logic.Function.Basic
import Mathlib.Tactic.Common

/-!
# Ledgers of acquired and released resources

An event of a log acquires, uses or releases a resource of a type `R`, or does
neither. `Books kind log φ` says that the log is legal and that `φ` is the phase in
which it left every resource: a resource is acquired while it is fresh, used and
released only while it is live, and never touched again.

Results:
1. `Books.releaseCount_eq`: a released resource was released exactly once, any
   other was never released.
2. `Books.untouched_after_release`: after the event that releases `r`, no event
   touches `r`.
3. `Books.uses`: a stretch of uses of one live resource keeps the books.
4. `eventsOn`: the part of a log that touches one resource.
5. `Custody`: holders of live resources, at most one for each resource.
   Custody is preserved when a holder acquires, releases, moves or forgets a
   resource (`Custody.acquire`, `release`, `move`, `forget`).
-/

namespace Ledger

/-- What an event does to the resource it touches. -/
inductive Action (R : Type)
  | acquire (r : R)
  | use (r : R)
  | release (r : R)
  | other
  deriving DecidableEq

/-- Where a resource is in its life. -/
inductive Phase
  | fresh
  | live
  | released
  deriving DecidableEq

variable {E R H : Type}

namespace Action

/-- The action is on the resource `r`. -/
def Touches (r : R) : Action R → Prop
  | acquire r' | use r' | release r' => r' = r
  | other => False

instance [DecidableEq R] (r : R) (a : Action R) : Decidable (a.Touches r) :=
  match a with
  | acquire r' | use r' | release r' => inferInstanceAs (Decidable (r' = r))
  | other => inferInstanceAs (Decidable False)

theorem Touches.unique {a : Action R} {r r' : R} (h : a.Touches r) (h' : a.Touches r') : r = r' := by
  cases a with
  | other => exact h.elim
  | _ => exact h.symm.trans h'

/-- The action is legal in the phases `φ`. -/
def Allowed (φ : R → Phase) : Action R → Prop
  | acquire r => φ r = .fresh
  | use r | release r => φ r = .live
  | other => True

/-- The phases after the action. -/
def after [DecidableEq R] (φ : R → Phase) : Action R → R → Phase
  | acquire r => Function.update φ r .live
  | release r => Function.update φ r .released
  | use _ | other => φ

end Action

section Books

variable [DecidableEq R]

/-- `Books kind log φ`: the log is legal and leaves each resource in the phase
that `φ` gives. -/
inductive Books (kind : E → Action R) : List E → (R → Phase) → Prop
  | nil : Books kind [] fun _ => .fresh
  | snoc {log : List E} {φ : R → Phase} {e : E} :
      Books kind log φ → (kind e).Allowed φ → Books kind (log ++ [e]) ((kind e).after φ)

/-- How often the log releases `r`. -/
def releaseCount (kind : E → Action R) (r : R) (log : List E) : Nat :=
  log.countP fun e => kind e = .release r

/-- Some event of the log acquires `r`. -/
def Acquired (kind : E → Action R) (r : R) (log : List E) : Prop :=
  ∃ e ∈ log, kind e = .acquire r

/-- The events of the log that touch `r`. -/
def eventsOn (kind : E → Action R) (r : R) (log : List E) : List E :=
  log.filter fun e => (kind e).Touches r

variable {kind : E → Action R} {log : List E} {φ : R → Phase}

omit [DecidableEq R] in
theorem acquired_append {r : R} {l₁ l₂ : List E} :
    Acquired kind r (l₁ ++ l₂) ↔ Acquired kind r l₁ ∨ Acquired kind r l₂ := by
  simp only [Acquired, List.mem_append, or_and_right, exists_or]

theorem releaseCount_append {r : R} {l₁ l₂ : List E} :
    releaseCount kind r (l₁ ++ l₂) = releaseCount kind r l₁ + releaseCount kind r l₂ :=
  List.countP_append

theorem eventsOn_append {r : R} {l₁ l₂ : List E} :
    eventsOn kind r (l₁ ++ l₂) = eventsOn kind r l₁ ++ eventsOn kind r l₂ :=
  List.filter_append ..

theorem eventsOn_eq_self {r : R} (h : ∀ e ∈ log, (kind e).Touches r) : eventsOn kind r log = log :=
  List.filter_eq_self.mpr fun e he => decide_eq_true (h e he)

theorem eventsOn_eq_nil {r : R} (h : ∀ e ∈ log, ¬ (kind e).Touches r) : eventsOn kind r log = [] :=
  List.filter_eq_nil_iff.mpr fun e he => by simpa using h e he

/-- Events that all touch one resource are on this one only. -/
theorem eventsOn_of_ne {r r' : R} (h : ∀ e ∈ log, (kind e).Touches r') (hne : r' ≠ r) :
    eventsOn kind r log = [] :=
  eventsOn_eq_nil fun e he hr => hne ((h e he).unique hr)

/-- What a part of the log acquires, the log acquires. -/
theorem Acquired.of_eventsOn {r r' : R} (h : Acquired kind r' (eventsOn kind r log)) :
    Acquired kind r' log := by
  obtain ⟨e, he, hk⟩ := h
  exact ⟨e, (List.mem_filter.mp he).1, hk⟩

/-- One legal action: `r` ends as released when it was, or when the action
releases it, and a legal action never releases what is already released. -/
theorem after_eq_released_iff {a : Action R} (ha : a.Allowed φ) (r : R) :
    a.after φ r = .released ↔ φ r = .released ∨ a = .release r := by
  cases a with
  | other | use => simp [Action.after]
  | acquire r' | release r' =>
    by_cases hr : r = r'
    · subst hr
      simp_all [Action.after, Action.Allowed]
    · simp [Action.after, Function.update_of_ne hr, Ne.symm hr]

/-- One legal action: `r` stops being fresh exactly when it is acquired. -/
theorem after_ne_fresh_iff {a : Action R} (ha : a.Allowed φ) (r : R) :
    a.after φ r ≠ .fresh ↔ φ r ≠ .fresh ∨ a = .acquire r := by
  cases a with
  | other | use => simp [Action.after]
  | acquire r' | release r' =>
    by_cases hr : r = r'
    · subst hr
      simp_all [Action.after, Action.Allowed]
    · simp [Action.after, Function.update_of_ne hr, Ne.symm hr]

omit [DecidableEq R] in
theorem not_touches_of_released {a : Action R} (ha : a.Allowed φ) {r : R}
    (hr : φ r = .released) : ¬ a.Touches r := by
  cases a with
  | other => exact id
  | acquire r' | use r' | release r' =>
    rintro rfl
    simp_all [Action.Allowed]

theorem Books.releaseCount_eq (h : Books kind log φ) (r : R) :
    releaseCount kind r log = if φ r = .released then 1 else 0 := by
  induction h with
  | nil => rfl
  | @snoc log φ e _ ha ih =>
    rw [releaseCount_append, ih]
    have hcount : releaseCount kind r [e] = if kind e = .release r then 1 else 0 := by
      simp [releaseCount, List.countP_singleton]
    have hexcl : ¬ (φ r = .released ∧ kind e = .release r) := by
      rintro ⟨hr, hk⟩
      exact not_touches_of_released ha hr (by rw [hk]; rfl)
    rw [hcount, if_congr (after_eq_released_iff ha r) rfl rfl]
    by_cases h₁ : φ r = .released <;> by_cases h₂ : kind e = .release r <;> simp_all

theorem Books.acquired_iff (h : Books kind log φ) (r : R) :
    Acquired kind r log ↔ φ r ≠ .fresh := by
  induction h with
  | nil => simp [Acquired]
  | @snoc log φ e _ ha ih =>
    rw [after_ne_fresh_iff ha, acquired_append, ih]
    simp [Acquired]

omit [DecidableEq R] in
/-- A legal action on a fresh resource acquires it. -/
theorem eq_acquire_of_touches {a : Action R} (ha : a.Allowed φ) {r : R} (hr : φ r = .fresh)
    (htouches : a.Touches r) : a = .acquire r := by
  cases a with
  | acquire r' => exact congrArg _ htouches
  | use r' | release r' =>
    obtain rfl : r' = r := htouches
    simp_all [Action.Allowed]
  | other => exact htouches.elim

/-- No event touches a resource that is still fresh. -/
theorem Books.eventsOn_fresh (h : Books kind log φ) {r : R} (hr : φ r = .fresh) :
    eventsOn kind r log = [] := by
  induction h with
  | nil => rfl
  | @snoc log φ e _ ha ih =>
    have hbefore : φ r = .fresh ∧ kind e ≠ .acquire r := by
      simpa [hr] using not_congr (after_ne_fresh_iff ha r)
    rw [eventsOn_append, ih hbefore.1, List.nil_append]
    refine eventsOn_eq_nil fun e' he' htouches => hbefore.2 ?_
    rw [List.mem_singleton.mp he'] at htouches
    exact eq_acquire_of_touches ha hbefore.1 htouches

theorem snoc_eq_append_cons {l pre post : List E} {e₁ e : E} (h : l ++ [e₁] = pre ++ e :: post) :
    (post = [] ∧ l = pre ∧ e₁ = e) ∨ ∃ post', post = post' ++ [e₁] ∧ l = pre ++ e :: post' := by
  rcases List.eq_nil_or_concat post with rfl | ⟨post', e₂, rfl⟩
  · obtain ⟨h₁, h₂⟩ := List.append_inj' h rfl
    exact .inl ⟨rfl, h₁, List.singleton_inj.mp h₂⟩
  · rw [List.concat_eq_append, ← List.cons_append, ← List.append_assoc] at h
    obtain ⟨h₁, h₂⟩ := List.append_inj' h rfl
    rw [List.singleton_inj.mp h₂, List.concat_eq_append]
    exact .inr ⟨post', rfl, h₁⟩

/-- Once an event released `r`, it stays released and no later event touches it. -/
theorem Books.untouched_after_release (h : Books kind log φ) {pre post : List E} {e : E} {r : R}
    (hlog : log = pre ++ e :: post) (he : kind e = .release r) :
    φ r = .released ∧ ∀ e' ∈ post, ¬ (kind e').Touches r := by
  induction h generalizing post with
  | nil => simp at hlog
  | snoc _ ha ih =>
    -- the last event of the log is `e` itself, or the last one of `post`
    rcases snoc_eq_append_cons hlog with ⟨rfl, _, rfl⟩ | ⟨post', rfl, hlog'⟩
    · exact ⟨(after_eq_released_iff ha r).mpr (.inr he), fun _ h' => absurd h' List.not_mem_nil⟩
    · obtain ⟨hr, hpost⟩ := ih hlog'
      refine ⟨(after_eq_released_iff ha r).mpr (.inl hr), fun e' he' => ?_⟩
      rcases List.mem_append.mp he' with he' | he'
      · exact hpost e' he'
      · rw [List.mem_singleton.mp he']
        exact not_touches_of_released ha hr

/-- Uses of one live resource keep the books. -/
theorem Books.uses (h : Books kind log φ) {r : R} (hr : φ r = .live) {l : List E}
    (hl : ∀ e ∈ l, kind e = .use r) : Books kind (log ++ l) φ := by
  induction l generalizing log with
  | nil => rw [List.append_nil]; exact h
  | cons e l ih =>
    have hk : kind e = .use r := hl e List.mem_cons_self
    have hstep : Books kind (log ++ [e]) φ := by
      have := h.snoc (e := e) (by rw [hk]; exact hr)
      rwa [hk] at this
    have hnext := ih hstep fun e' he' => hl e' (List.mem_cons_of_mem _ he')
    rwa [List.append_assoc, List.singleton_append] at hnext

theorem Books.acquire (h : Books kind log φ) {e : E} {r : R} (hk : kind e = .acquire r)
    (hr : φ r = .fresh) : Books kind (log ++ [e]) (Function.update φ r .live) := by
  have := h.snoc (e := e) (by rw [hk]; exact hr)
  rwa [hk] at this

theorem Books.release (h : Books kind log φ) {e : E} {r : R} (hk : kind e = .release r)
    (hr : φ r = .live) : Books kind (log ++ [e]) (Function.update φ r .released) := by
  have := h.snoc (e := e) (by rw [hk]; exact hr)
  rwa [hk] at this

theorem Books.other (h : Books kind log φ) {e : E} (hk : kind e = .other) :
    Books kind (log ++ [e]) φ := by
  have := h.snoc (e := e) (by rw [hk]; trivial)
  rwa [hk] at this

end Books

/-! ## Custody -/

/-- The holders `holds` hold live resources only, each of them at one place. -/
structure Custody (holds : H → Option R) (φ : R → Phase) : Prop where
  live : ∀ {h r}, holds h = some r → φ r = .live
  unique : ∀ {h h' r}, holds h = some r → holds h' = some r → h = h'

section Holders

variable {holds : H → Option R} {h h' : H} {r : R}

theorem ne_of_holds (hh : holds h = some r) (hh' : holds h' = none) : h ≠ h' :=
  ne_of_apply_ne holds (by rw [hh, hh']; nofun)

/-- Who holds something after `h'` let go is another one, and held it before. -/
theorem holds_of_forget [DecidableEq H] (hh : Function.update holds h' none h = some r) :
    h ≠ h' ∧ holds h = some r := by
  have hne : h ≠ h' := ne_of_holds hh (Function.update_self ..)
  exact ⟨hne, (Function.update_of_ne hne ..).symm.trans hh⟩

end Holders

namespace Custody

variable {holds : H → Option R} {φ : R → Phase} {h h' : H} {r : R}

/-- Nobody holds a resource that is not live. -/
theorem not_held (hc : Custody holds φ) (hr : φ r ≠ .live) (k : H) : holds k ≠ some r :=
  fun hk => hr (hc.live hk)

variable [DecidableEq H]

/-- A live resource that nobody holds is given to `h`. -/
theorem give (hc : Custody holds φ) (hr : φ r = .live) (hnot : ∀ k, holds k ≠ some r) :
    Custody (Function.update holds h (some r)) φ := by
  constructor
  · intro k r' hk
    by_cases hkh : k = h
    · subst hkh
      rw [Function.update_self] at hk
      exact Option.some.inj hk ▸ hr
    · rw [Function.update_of_ne hkh] at hk
      exact hc.live hk
  · intro k k' r' hk hk'
    by_cases hkh : k = h <;> by_cases hkh' : k' = h
    · rw [hkh, hkh']
    · subst hkh
      rw [Function.update_self] at hk
      rw [Function.update_of_ne hkh', ← hk] at hk'
      exact absurd hk' (hnot k')
    · subst hkh'
      rw [Function.update_self] at hk'
      rw [Function.update_of_ne hkh, ← hk'] at hk
      exact absurd hk (hnot k)
    · rw [Function.update_of_ne hkh] at hk
      rw [Function.update_of_ne hkh'] at hk'
      exact hc.unique hk hk'

/-- A holder lets go of what it holds. -/
theorem forget (hc : Custody holds φ) : Custody (Function.update holds h none) φ where
  live hk := hc.live (holds_of_forget hk).2
  unique hk hk' := hc.unique (holds_of_forget hk).2 (holds_of_forget hk').2

theorem not_held_after_forget (hc : Custody holds φ) (hh : holds h = some r) (k : H) :
    Function.update holds h none k ≠ some r := by
  intro hk
  obtain ⟨hne, hbefore⟩ := holds_of_forget hk
  exact hne (hc.unique hbefore hh)

/-- The resource that `h` holds moves to `h'`. -/
theorem move (hc : Custody holds φ) (hh : holds h = some r) :
    Custody (Function.update (Function.update holds h none) h' (some r)) φ :=
  hc.forget.give (hc.live hh) (hc.not_held_after_forget hh)

variable [DecidableEq R]

omit [DecidableEq H] in
/-- The phase of a resource that nobody holds may change. -/
theorem set_phase (hc : Custody holds φ) (hnot : ∀ k, holds k ≠ some r) (p : Phase) :
    Custody holds (Function.update φ r p) := by
  refine ⟨fun {k r'} hk => ?_, hc.unique⟩
  have hr' : r' ≠ r := fun he => hnot k (he ▸ hk)
  rw [Function.update_of_ne hr']
  exact hc.live hk

/-- `h` acquires a fresh resource. -/
theorem acquire (hc : Custody holds φ) (hr : φ r = .fresh) :
    Custody (Function.update holds h (some r)) (Function.update φ r .live) := by
  have hnot : ∀ k, holds k ≠ some r := hc.not_held (by rw [hr]; nofun)
  exact (hc.set_phase hnot .live).give (Function.update_self ..) hnot

/-- `h` releases what it holds. -/
theorem release (hc : Custody holds φ) (hh : holds h = some r) :
    Custody (Function.update holds h none) (Function.update φ r .released) :=
  hc.forget.set_phase (hc.not_held_after_forget hh) .released

end Custody

end Ledger
