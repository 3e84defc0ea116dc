import HipRand.CppEngine
import HipRand.Lib.System

/-!
# Who owns which generator

A client of the C++ wrapper interleaves constructions, adoptions, member functions
and destructions of any number of engines with calls of the C API on handles that
it keeps in variables of its own. Every hipRAND call may answer any status.

Results:
1. `Owned.step`: each step keeps the books of the calls on every generator, one
   holder for each live generator, and an engine as the holder of each live
   generator that was created for an engine or adopted by one.
2. `generators_owned_and_destroyed_once`: what follows in every reachable state.
-/

namespace HipRand.Cpp

open Interaction Ledger Transition

/-! ## The client and its engines -/

/-- An engine object. -/
structure EngineId where
  cls : EngineClass
  id : Nat
  deriving DecidableEq

/-- Where a handle is kept: as `m_generator` of a live engine, or in a
`hiprandGenerator_t` variable of the client. -/
inductive Slot
  | engine (e : EngineId)
  | variable (v : Nat)
  deriving DecidableEq

/-- The handles that are kept, the calls issued so far, and the generators that
were created for an engine or handed to one. -/
structure World where
  slots : Slot → Option Generator
  log : List (Event apiSig)
  entrusted : Generator → Prop

/-- The generator that a live engine owns. -/
def World.Owns (w : World) (e : EngineId) (g : Generator) : Prop :=
  w.slots (.engine e) = some g

/-- What happens in one step, with the calls it issues and how it ends. -/
inductive Label
  | construct (e : EngineId) (args : CtorArgs) (t : List (Event apiSig)) (r : Except Error Generator)
  | adopt (e : EngineId) (v : Nat) (t : List (Event apiSig))
      (r : Except Error (Generator × Option Generator))
  | member (e : EngineId) (m : Method) (t : List (Event apiSig)) (r : Except Error Unit)
  | destroy (e : EngineId) (t : List (Event apiSig)) (r : Except Error Unit)
  | rawCreate (v : Nat) (type : HiprandRngType) (st : HiprandStatus) (g : Generator)
  | rawUse (v : Nat) (ev : Event apiSig)
  | rawDestroy (v : Nat) (st : HiprandStatus)
  | rawMove (v v' : Nat)
  | rawForget (v : Nat)

/-- A creation that succeeds answers a new generator. -/
def World.Fresh (w : World) (t : List (Event apiSig)) : Prop :=
  ∀ g, Acquired kind g t → ¬ Acquired kind g w.log

def World.constructed (w : World) (e : EngineId) (t : List (Event apiSig))
    (r : Except Error Generator) : World where
  slots := Function.update w.slots (.engine e) r.toOption
  log := w.log ++ t
  entrusted g := w.entrusted g ∨ Acquired kind g t

/-- The adopting constructor writes the referenced variable; if it throws, it
throws before it does. -/
def World.adopted (w : World) (e : EngineId) (v : Nat) (t : List (Event apiSig)) :
    Except Error (Generator × Option Generator) → World
  | .ok (g, rest) =>
    { slots := Function.update (Function.update w.slots (.variable v) rest) (.engine e) (some g)
      log := w.log ++ t
      entrusted := fun g' => w.entrusted g' ∨ g' = g }
  | .error _ => { w with log := w.log ++ t }

/-- The client keeps a raw handle in one variable at a time and drops it when it
destroys the generator itself. An engine object is constructed only where none
lives, and its destructor ends its life even if it throws. -/
inductive Step : World → Label → World → Prop
  | construct {w e args p t r} :
      w.slots (.engine e) = none → e.cls.constructor? args = some p → Traces p t r → w.Fresh t →
      Step w (.construct e args t r) (w.constructed e t r)
  | adopt {w e v t r} :
      w.slots (.engine e) = none → Traces (adopt (w.slots (.variable v))) t r →
      Step w (.adopt e v t r) (w.adopted e v t r)
  | member {w e m g p t r} :
      w.Owns e g → e.cls.method? m g = some p → Traces p t r →
      Step w (.member e m t r) { w with log := w.log ++ t }
  | destroy {w e g t r} :
      w.Owns e g → Traces (destruct g) t r →
      Step w (.destroy e t r)
        { w with slots := Function.update w.slots (.engine e) none, log := w.log ++ t }
  | rawCreate {w v type st g} :
      w.Fresh [⟨.hiprandCreateGenerator type, (st, g)⟩] →
      Step w (.rawCreate v type st g)
        { w with
          slots := if st = .success then Function.update w.slots (.variable v) (some g) else w.slots
          log := w.log ++ [⟨.hiprandCreateGenerator type, (st, g)⟩] }
  | rawUse {w v g ev} :
      w.slots (.variable v) = some g → kind ev = .use g →
      Step w (.rawUse v ev) { w with log := w.log ++ [ev] }
  | rawDestroy {w v g st} :
      w.slots (.variable v) = some g →
      Step w (.rawDestroy v st)
        { w with
          slots := Function.update w.slots (.variable v) none
          log := w.log ++ [⟨.hiprandDestroyGenerator g, st⟩] }
  | rawMove {w v v' g} :
      w.slots (.variable v) = some g →
      Step w (.rawMove v v')
        { w with
          slots :=
            Function.update (Function.update w.slots (.variable v) none) (.variable v') (some g) }
  | rawForget {w v} :
      Step w (.rawForget v) { w with slots := Function.update w.slots (.variable v) none }

def World.initial : World where
  slots _ := none
  log := []
  entrusted _ := False

def wrapper : System World Label where
  init w := w = .initial
  step := Step

/-! ## The invariant -/

/-- The books of the calls, one holder for each live generator, and an engine as
the holder of each live generator that was entrusted to the engines. -/
structure Owned (w : World) (φ : Generator → Phase) : Prop where
  books : Books kind w.log φ
  custody : Custody w.slots φ
  acquired : ∀ {g}, w.entrusted g → φ g ≠ .fresh
  held : ∀ {g}, w.entrusted g → φ g = .live → ∃ e, w.Owns e g

variable {w w' : World} {φ : Generator → Phase} {e : EngineId} {v : Nat} {g : Generator}
  {t : List (Event apiSig)}

theorem World.Fresh.phase (hf : w.Fresh t) (h : Books kind w.log φ) (hg : Acquired kind g t) :
    φ g = .fresh := by
  by_contra hne
  exact hf g hg ((h.acquired_iff g).mpr hne)

theorem Checked.not_acquired {r : Except Error Unit} (h : Checked g t r) (g' : Generator) :
    ¬ Acquired kind g' t := by
  intro ⟨ev, hev, hk⟩
  rw [h.1 ev hev] at hk
  cases hk

/-- A variable of the client is written: no engine is affected. -/
theorem World.Owns.update_variable (h : w.Owns e g) (v : Nat) (x : Option Generator) :
    Function.update w.slots (.variable v) x (.engine e) = some g := by
  rw [Function.update_of_ne (by simp)]
  exact h

namespace Owned

/-- Uses of a generator that is held somewhere. -/
theorem uses (h : Owned w φ) {s : Slot} (hs : w.slots s = some g)
    (ht : ∀ ev ∈ t, kind ev = .use g) : Owned { w with log := w.log ++ t } φ where
  books := h.books.uses (h.custody.live hs) ht
  custody := h.custody
  acquired := h.acquired
  held := h.held

/-- The client drops the handle in a variable, or forgets what it does not hold. -/
theorem forget (h : Owned w φ) :
    Owned { w with slots := Function.update w.slots (.variable v) none } φ where
  books := h.books
  custody := h.custody.forget
  acquired := h.acquired
  held hg hlive := by
    obtain ⟨e, he⟩ := h.held hg hlive
    exact ⟨e, he.update_variable v none⟩

/-- What a client holds in a variable was not entrusted to the engines. -/
theorem ne_of_entrusted (h : Owned w φ) (hv : w.slots (.variable v) = some g) {g' : Generator}
    (hg : w.entrusted g') : g' ≠ g := by
  rintro rfl
  obtain ⟨e, he⟩ := h.held hg (h.custody.live hv)
  cases h.custody.unique hv he

theorem not_held_of_fresh (h : Owned w φ) (hg : φ g = .fresh) (s : Slot) :
    w.slots s ≠ some g :=
  h.custody.not_held (by rw [hg]; nofun) s

/-- Generators other than the one whose phase changed are held as before. -/
theorem held_of_ne (h : Owned w φ) {g' : Generator} {p : Phase} (hne : g' ≠ g)
    (hg : w.entrusted g') (hlive : Function.update φ g p g' = .live) : ∃ e, w.Owns e g' := by
  rw [Function.update_of_ne hne] at hlive
  exact h.held hg hlive

theorem acquired_update (h : Owned w φ) {g' : Generator} {p : Phase} (hp : p ≠ .fresh)
    (hg : w.entrusted g' ∨ g' = g) : Function.update φ g p g' ≠ .fresh := by
  by_cases hne : g' = g
  · rw [hne, Function.update_self]
    exact hp
  · rw [Function.update_of_ne hne]
    exact h.acquired (hg.resolve_right hne)

/-- The generators entrusted by a construction are those it created. -/
theorem acquired_constructed (type : HiprandRngType) {r : Except Error Unit} (g' : Generator)
    {t' : List (Event apiSig)} (hc : Checked g t r) (ht' : ∀ g, ¬ Acquired kind g t') :
    Acquired kind g' (⟨.hiprandCreateGenerator type, (.success, g)⟩ :: (t ++ t')) ↔ g' = g := by
  rw [← List.singleton_append, acquired_append, acquired_append]
  constructor
  · rintro (⟨ev, hev, hk⟩ | hacq | hacq)
    · rw [List.mem_singleton.mp hev] at hk
      exact (Action.acquire.inj hk).symm
    · exact absurd hacq (hc.not_acquired g')
    · exact absurd hacq (ht' g')
  · rintro rfl
    exact .inl ⟨_, List.mem_singleton_self _, rfl⟩

/-- A construction that created the generator `g`, which is in the phase `p` after it. -/
theorem constructed_of_books (h : Owned w φ) {r : Except Error Generator} {p : Phase}
    (he : w.slots (.engine e) = none) (hacq : ∀ g', Acquired kind g' t ↔ g' = g)
    (hbooks : Books kind (w.log ++ t) (Function.update φ g p)) (hp : p ≠ .fresh)
    (hcustody : Custody (w.constructed e t r).slots (Function.update φ g p))
    (hheld : p = .live → (w.constructed e t r).Owns e g) :
    Owned (w.constructed e t r) (Function.update φ g p) where
  books := hbooks
  custody := hcustody
  acquired hg := h.acquired_update hp (hg.imp_right (hacq _).mp)
  held {g'} hg hlive := by
    by_cases hne : g' = g
    · rw [hne, Function.update_self] at hlive
      exact ⟨e, hne ▸ hheld hlive⟩
    · obtain ⟨e', he'⟩ := h.held_of_ne hne (hg.resolve_right (mt (hacq g').mp hne)) hlive
      exact ⟨e', (Function.update_of_ne (ne_of_holds he' he) ..).trans he'⟩

/-- A construction, in each of the three ways in which it can end. -/
theorem constructed (h : Owned w φ) {type : HiprandRngType} {r : Except Error Generator}
    (he : w.slots (.engine e) = none) (hc : Constructed type t r) (hf : w.Fresh t) :
    ∃ φ', Owned (w.constructed e t r) φ' := by
  -- a construction that fails leaves no engine
  have hslots : Function.update w.slots (.engine e) none = w.slots := by
    rw [← he, Function.update_eq_self]
  cases hc with
  | @notCreated st g hst =>
    have hkind : kind ⟨.hiprandCreateGenerator type, (st, g)⟩ = .other := by
      cases st <;> first | rfl | exact absurd rfl hst
    have hnone : ∀ g', ¬ Acquired kind g' [⟨.hiprandCreateGenerator type, (st, g)⟩] := by
      intro g' ⟨ev, hev, hk⟩
      rw [List.mem_singleton.mp hev, hkind] at hk
      cases hk
    refine ⟨φ, h.books.other hkind, ?_, fun hg => ?_, fun hg hlive => ?_⟩
    · show Custody (Function.update w.slots (.engine e) none) φ
      rw [hslots]
      exact h.custody
    · exact h.acquired (hg.resolve_right (hnone _))
    · obtain ⟨e', he'⟩ := h.held (hg.resolve_right (hnone _)) hlive
      exact ⟨e', (congrFun hslots _).trans he'⟩
  | @built g t hcheck =>
    have hacq : ∀ g', Acquired kind g' (⟨.hiprandCreateGenerator type, (.success, g)⟩ :: t) ↔
        g' = g := fun g' => by
      have hnil := acquired_constructed type g' hcheck
        fun _ (⟨_, hev, _⟩ : Acquired kind _ []) => List.not_mem_nil hev
      rwa [List.append_nil] at hnil
    have hfresh : φ g = .fresh := hf.phase h.books ((hacq g).mpr rfl)
    have hbooks := (h.books.acquire (e := ⟨.hiprandCreateGenerator type, (.success, g)⟩) rfl
      hfresh).uses (Function.update_self ..) hcheck.1
    rw [List.append_assoc] at hbooks
    exact ⟨_, h.constructed_of_books he hacq hbooks (by simp) (h.custody.acquire hfresh)
      fun _ => Function.update_self ..⟩
  | @cleanedUp g t err st hcheck =>
    have hacq : ∀ g', Acquired kind g' (⟨.hiprandCreateGenerator type, (.success, g)⟩ ::
        (t ++ [⟨.hiprandDestroyGenerator g, st⟩])) ↔ g' = g := fun g' =>
      acquired_constructed type g' hcheck fun g'' ⟨ev, hev, hk⟩ => by
        rw [List.mem_singleton.mp hev] at hk
        cases hk
    have hfresh : φ g = .fresh := hf.phase h.books ((hacq g).mpr rfl)
    have hbooks := ((h.books.acquire (e := ⟨.hiprandCreateGenerator type, (.success, g)⟩) rfl
      hfresh).uses (Function.update_self ..) hcheck.1).release
        (e := ⟨.hiprandDestroyGenerator g, st⟩) rfl (Function.update_self ..)
    rw [Function.update_idem, List.append_assoc, List.append_assoc] at hbooks
    refine ⟨_, h.constructed_of_books he hacq hbooks (by simp) ?_ nofun⟩
    show Custody (Function.update w.slots (.engine e) none) _
    rw [hslots]
    exact h.custody.set_phase (h.not_held_of_fresh hfresh) .released

/-- The adopting constructor moves a handle from a variable into the engine, or
throws on a `NULL` handle before it does anything. -/
theorem adopted (h : Owned w φ) {r : Except Error (Generator × Option Generator)}
    (he : w.slots (.engine e) = none) (ht : Traces (adopt (w.slots (.variable v))) t r) :
    Owned (w.adopted e v t r) φ := by
  cases hv : w.slots (.variable v) with
  | none =>
    rw [hv] at ht
    obtain ⟨rfl, rfl⟩ := traces_throw_iff.mp ht
    show Owned { w with log := w.log ++ [] } φ
    rw [List.append_nil]
    exact h
  | some g =>
    rw [hv] at ht
    obtain ⟨rfl, rfl⟩ := traces_ret_iff.mp ht
    refine ⟨?_, h.custody.move hv, fun {g'} hg => ?_, fun {g'} hg hlive => ?_⟩
    · show Books kind (w.log ++ []) φ
      rw [List.append_nil]
      exact h.books
    · rcases hg with hg | rfl
      · exact h.acquired hg
      · rw [h.custody.live hv]
        simp
    · rcases hg with hg | rfl
      · obtain ⟨e', he'⟩ := h.held hg hlive
        exact ⟨e', (Function.update_of_ne (ne_of_holds he' he) ..).trans (he'.update_variable v none)⟩
      · exact ⟨e, Function.update_self ..⟩

theorem destroyed (h : Owned w φ) {r : Except Error Unit} (he : w.Owns e g)
    (ht : Traces (destruct g) t r) :
    Owned { w with slots := Function.update w.slots (.engine e) none, log := w.log ++ t }
      (Function.update φ g .released) := by
  obtain ⟨st, rfl⟩ := destruct_traces ht
  refine ⟨h.books.release rfl (h.custody.live he), h.custody.release he,
    fun hg => h.acquired_update (by simp) (.inl hg), fun {g'} hg hlive => ?_⟩
  by_cases hne : g' = g
  · rw [hne, Function.update_self] at hlive
    cases hlive
  · obtain ⟨e', he'⟩ := h.held_of_ne hne hg hlive
    have hee' : Slot.engine e' ≠ .engine e := by
      refine ne_of_apply_ne w.slots fun heq => hne ?_
      exact Option.some.inj (he'.symm.trans (heq.trans he))
    exact ⟨e', (Function.update_of_ne hee' ..).trans he'⟩

/-- A raw creation overwrites a variable of the client with the new handle, if
there is one. -/
theorem rawCreated (h : Owned w φ) {type : HiprandRngType} {st : HiprandStatus}
    (hf : w.Fresh [⟨.hiprandCreateGenerator type, (st, g)⟩]) :
    ∃ φ', Owned
      { w with
        slots := if st = .success then Function.update w.slots (.variable v) (some g) else w.slots
        log := w.log ++ [⟨.hiprandCreateGenerator type, (st, g)⟩] } φ' := by
  by_cases hst : st = .success
  · subst hst
    have hfresh : φ g = .fresh := hf.phase h.books ⟨_, List.mem_singleton_self _, rfl⟩
    rw [if_pos rfl]
    refine ⟨Function.update φ g .live, h.books.acquire rfl hfresh, h.custody.acquire hfresh,
      fun hg => h.acquired_update (by simp) (.inl hg), fun {g'} hg hlive => ?_⟩
    have hne : g' ≠ g := by
      rintro rfl
      exact h.acquired hg hfresh
    obtain ⟨e', he'⟩ := h.held_of_ne hne hg hlive
    exact ⟨e', he'.update_variable v (some g)⟩
  · have hkind : kind ⟨.hiprandCreateGenerator type, (st, g)⟩ = .other := by
      cases st <;> first | rfl | exact absurd rfl hst
    rw [if_neg hst]
    exact ⟨φ, h.books.other hkind, h.custody, h.acquired, h.held⟩

theorem rawDestroyed (h : Owned w φ) {st : HiprandStatus} (hv : w.slots (.variable v) = some g) :
    Owned
      { w with
        slots := Function.update w.slots (.variable v) none
        log := w.log ++ [⟨.hiprandDestroyGenerator g, st⟩] }
      (Function.update φ g .released) := by
  refine ⟨h.books.release rfl (h.custody.live hv), h.custody.release hv,
    fun hg => h.acquired_update (by simp) (.inl hg), fun {g'} hg hlive => ?_⟩
  obtain ⟨e', he'⟩ := h.held_of_ne (h.ne_of_entrusted hv hg) hg hlive
  exact ⟨e', he'.update_variable v none⟩

theorem rawMoved (h : Owned w φ) {v' : Nat} (hv : w.slots (.variable v) = some g) :
    Owned
      { w with
        slots :=
          Function.update (Function.update w.slots (.variable v) none) (.variable v') (some g) }
      φ := by
  refine ⟨h.books, h.custody.move hv, h.acquired, fun hg hlive => ?_⟩
  obtain ⟨e', he'⟩ := h.held hg hlive
  have hmoved : World.Owns { w with slots := Function.update w.slots (.variable v) none } e' _ :=
    he'.update_variable v none
  exact ⟨e', hmoved.update_variable v' (some g)⟩

/-- Every step keeps the invariant. -/
theorem step {l : Label} (h : ∃ φ, Owned w φ) (hs : Step w l w') : ∃ φ', Owned w' φ' := by
  obtain ⟨φ, h⟩ := h
  cases hs with
  | construct he hp ht hf =>
    obtain ⟨type, configure, rfl, hc⟩ := EngineClass.constructor?_eq_construct hp
    exact h.constructed he (construct_traces hc ht) hf
  | adopt he ht => exact ⟨φ, h.adopted he ht⟩
  | member he hm ht => exact ⟨φ, h.uses he (EngineClass.method?_checksOn hm _ _ ht).1⟩
  | destroy he ht => exact ⟨_, h.destroyed he ht⟩
  | rawCreate hf => exact h.rawCreated hf
  | rawUse hv hk => exact ⟨φ, h.uses hv (by simpa using hk)⟩
  | rawDestroy hv => exact ⟨_, h.rawDestroyed hv⟩
  | rawMove hv => exact ⟨φ, h.rawMoved hv⟩
  | rawForget => exact ⟨φ, h.forget⟩

theorem initial : Owned .initial fun _ => .fresh where
  books := .nil
  custody := by constructor <;> (intros; contradiction)
  acquired h := h.elim
  held h := h.elim

theorem of_reachable (h : wrapper.Reachable w) : ∃ φ, Owned w φ := by
  refine h.invariant ?_ fun _ _ _ => step
  rintro _ rfl
  exact ⟨_, initial⟩

end Owned

/-! ## Ownership in every run -/

/-- A generator that was entrusted to the engines was never destroyed while a
live engine owns it, and exactly once when none does. -/
theorem Owned.destroyed_once (h : Owned w φ) (hg : w.entrusted g) :
    (∃ e, w.Owns e g) ∧ releaseCount kind g w.log = 0 ∨
      (∀ e, ¬ w.Owns e g) ∧ releaseCount kind g w.log = 1 := by
  rw [h.books.releaseCount_eq]
  cases hφ : φ g with
  | fresh => exact absurd hφ (h.acquired hg)
  | live => exact .inl ⟨h.held hg hφ, rfl⟩
  | released =>
    exact .inr ⟨fun e => h.custody.not_held (by rw [hφ]; nofun) (.engine e), rfl⟩

/-- What a throwing constructor leaves behind: the calls before the failing one
succeeded, the error is its status, and only the destruction of the generator
that the constructor created comes after it. -/
def ReportsFirstFailure (t : List (Event apiSig)) (err : Error) : Prop :=
  ∃ pre ev post, t = pre ++ ev :: post ∧
    (∀ ev' ∈ pre, status ev' = .success) ∧
    status ev = err.errorCode ∧ err.errorCode ≠ .success ∧
    (post = [] ∨ ∃ g, Acquired kind g pre ∧ post.map kind = [.release g])

theorem Constructed.reportsFirstFailure {type : HiprandRngType} {err : Error}
    (h : Constructed type t (.error err)) : ReportsFirstFailure t err := by
  cases h with
  | @notCreated st g hst => exact ⟨[], _, [], rfl, by simp, rfl, hst, .inl rfl⟩
  | @cleanedUp g t _ st hcheck =>
    obtain ⟨_, pre, ev, rfl, hpre, hst, hne⟩ := hcheck
    refine ⟨⟨.hiprandCreateGenerator type, (.success, g)⟩ :: pre, ev,
      [⟨.hiprandDestroyGenerator g, st⟩], by simp, ?_, hst, hne, .inr ⟨g, ?_, rfl⟩⟩
    · intro ev' hev'
      rcases List.mem_cons.mp hev' with rfl | hev'
      · rfl
      · exact hpre ev' hev'
    · exact ⟨_, List.mem_cons_self, rfl⟩

/-- A value constructor that throws leaves no engine and no generator. -/
theorem Owned.construct_throws (h : Owned w φ) {args : CtorArgs} {err : Error}
    (hs : Step w (.construct e args t (.error err)) w') :
    ReportsFirstFailure t err ∧ w'.slots = w.slots ∧
      ∀ {g}, Acquired kind g t → releaseCount kind g w'.log = 1 ∧ ∀ s, w'.slots s ≠ some g := by
  have hs' := hs
  cases hs with
  | construct he hp ht hf =>
    obtain ⟨type, configure, rfl, hc⟩ := EngineClass.constructor?_eq_construct hp
    have hslots : Function.update w.slots (.engine e) none = w.slots := by
      rw [← he, Function.update_eq_self]
    refine ⟨(construct_traces hc ht).reportsFirstFailure, hslots, fun {g} hg => ?_⟩
    have hnot : ∀ s, Function.update w.slots (.engine e) none s ≠ some g := by
      rw [hslots]
      exact h.not_held_of_fresh (hf.phase h.books hg)
    obtain ⟨φ', h'⟩ := Owned.step ⟨φ, h⟩ hs'
    rcases h'.destroyed_once (.inr hg) with ⟨⟨e', he'⟩, _⟩ | ⟨_, hcount⟩
    · exact absurd he' (hnot _)
    · exact ⟨hcount, hnot⟩

theorem adopt_throws {err : Error} (hs : Step w (.adopt e v t (.error err)) w') :
    w.slots (.variable v) = none ∧ err = ⟨.notInitialized⟩ ∧ t = [] ∧ w' = w := by
  cases hs with
  | adopt he ht =>
    cases hv : w.slots (.variable v) with
    | none =>
      rw [hv] at ht
      obtain ⟨rfl, herr⟩ := traces_throw_iff.mp ht
      refine ⟨rfl, Except.error.inj herr, rfl, ?_⟩
      show { w with log := w.log ++ [] } = w
      rw [List.append_nil]
    | some g =>
      rw [hv] at ht
      cases (traces_ret_iff.mp ht).2

/-- In every reachable state, a generator has at most one owner among the live
engines; one that was created for an engine or adopted was destroyed exactly once
if no live engine owns it and never if one does; and no call after a destruction
is on the destroyed generator. A value constructor that throws leaves no engine
and no generator of its own, and reports the first call that failed; an adopting
constructor only throws on `NULL`, before any call. -/
theorem generators_owned_and_destroyed_once (h : wrapper.Reachable w) :
    (∀ {e e' g}, w.Owns e g → w.Owns e' g → e = e') ∧
    (∀ {g}, w.entrusted g →
      (∃ e, w.Owns e g) ∧ releaseCount kind g w.log = 0 ∨
      (∀ e, ¬ w.Owns e g) ∧ releaseCount kind g w.log = 1) ∧
    (∀ {pre ev post g}, w.log = pre ++ ev :: post → kind ev = .release g →
      ∀ ev' ∈ post, ¬ (kind ev').Touches g) ∧
    (∀ {e args t err w'}, Step w (.construct e args t (.error err)) w' →
      ReportsFirstFailure t err ∧ w'.slots = w.slots ∧
      ∀ {g}, Acquired kind g t → releaseCount kind g w'.log = 1 ∧ ∀ s, w'.slots s ≠ some g) ∧
    (∀ {e v t err w'}, Step w (.adopt e v t (.error err)) w' →
      w.slots (.variable v) = none ∧ err = ⟨.notInitialized⟩ ∧ t = [] ∧ w' = w) := by
  obtain ⟨φ, hφ⟩ := Owned.of_reachable h
  refine ⟨fun he he' => ?_, hφ.destroyed_once, fun hlog hev => ?_, hφ.construct_throws,
    adopt_throws⟩
  · exact Slot.engine.inj (hφ.custody.unique he he')
  · exact (hφ.books.untouched_after_release hlog hev).2

/-- The client creates generator 7 in its variable 0 and an XORWOW engine adopts it. -/
def World.afterAdoption : World :=
  World.adopted
    { World.initial with
      slots := Function.update World.initial.slots (.variable 0) (some 7)
      log := [⟨.hiprandCreateGenerator .pseudoXorwow, (.success, 7)⟩] }
    ⟨.xorwow, 0⟩ 0 [] (.ok (7, none))

theorem World.afterAdoption_reachable : wrapper.Reachable .afterAdoption := by
  have hcreate : Step .initial (.rawCreate 0 .pseudoXorwow .success 7) _ :=
    .rawCreate fun _ _ ⟨_, hev, _⟩ => List.not_mem_nil hev
  have hinit : wrapper.Reachable .initial := .init rfl
  exact (hinit.step hcreate).step (.adopt rfl .ret)

/-- After that adoption, an MT19937 engine that cannot be seeded destroys its
generator 8 before it throws. -/
theorem generators_owned_and_destroyed_once_adopt_then_throw :
    releaseCount kind 7 World.afterAdoption.log = 0 ∧
    ∃ t w', Step .afterAdoption (.construct ⟨.mt19937, 1⟩ (.seed 5) t
        (.error ⟨.allocationFailed⟩)) w' ∧
      ReportsFirstFailure t ⟨.allocationFailed⟩ ∧ releaseCount kind 8 w'.log = 1 := by
  obtain ⟨_, honce, _, hthrow, _⟩ :=
    generators_owned_and_destroyed_once World.afterAdoption_reachable
  have hfresh : World.afterAdoption.Fresh
      [⟨.hiprandCreateGenerator .pseudoMt19937, (.success, 8)⟩,
        ⟨.hiprandSetPseudoRandomGeneratorSeed 8 5, .allocationFailed⟩,
        ⟨.hiprandDestroyGenerator 8, .success⟩] := by
    rintro g ⟨ev, hev, hk⟩ ⟨ev', hev', hk'⟩
    rw [List.mem_singleton.mp hev'] at hk'
    cases hk'
    simp at hev
    rcases hev with rfl | rfl | rfl <;> cases hk
  have htrace : Traces (mt19937Engine 5)
      [⟨.hiprandCreateGenerator .pseudoMt19937, (.success, 8)⟩,
        ⟨.hiprandSetPseudoRandomGeneratorSeed 8 5, .allocationFailed⟩,
        ⟨.hiprandDestroyGenerator 8, .success⟩] (.error ⟨.allocationFailed⟩) :=
    traces_perform_bind_iff.mpr ⟨_, _, rfl, .call (.call .throw)⟩
  have hstep : Step .afterAdoption (.construct ⟨.mt19937, 1⟩ (.seed 5) _ _) _ :=
    .construct rfl rfl htrace hfresh
  refine ⟨?_, _, _, hstep, (hthrow hstep).1, ?_⟩
  · rcases honce (g := 7) (.inr rfl) with ⟨_, h⟩ | ⟨h, _⟩
    · exact h
    · exact absurd rfl (h ⟨.xorwow, 0⟩)
  · exact ((hthrow hstep).2.2 ⟨_, List.mem_cons_self, rfl⟩).1

end HipRand.Cpp
