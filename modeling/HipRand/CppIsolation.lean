import HipRand.CppOwnership

/-!
# No engine is in the way of another

A client may use any number of engines, of one class or of several, and raw handles beside
them. What one generator is asked depends on none of the others.

Results:
1. `Step.accounts`: who makes the calls of a step, and where a handle comes from.
2. `calls_by_owner`: from the moment an engine owns a generator, the calls on it are those
   of the engine.
3. `generator_alone`: what a run does with one generator is a run of its own.
-/

namespace HipRand.Cpp

open Interaction Ledger Transition System

/-! ## The calls of an engine -/

/-- The engine that the client uses in a step. -/
def Label.engine? : Label → Option EngineId
  | construct e .. | adopt e .. | member e .. | destroy e .. => some e
  | _ => none

/-- The calls that an engine makes in a step. -/
def Label.calls (e : EngineId) : Label → List (Event apiSig)
  | construct e' _ t _ | adopt e' _ t _ | member e' _ t _ | destroy e' t _ =>
    if e' = e then t else []
  | _ => []

variable {w w' w₁ w₂ : World} {φ : Generator → Phase} {e : EngineId} {g g' : Generator}
  {t : List (Event apiSig)} {l : Label}

/-- What one step does to the log and to the handles: a handle that is new at a place was
created in the step or was in a variable, and a call is on a generator that the step
creates, that is in a variable, or that the engine of the step owns. -/
structure Accounts (w w' : World) (l : Label) (t : List (Event apiSig)) : Prop where
  log : w'.log = w.log ++ t
  fresh : w.Fresh t
  calls : ∀ e, l.calls e = t ∨ l.calls e = []
  slots : ∀ {s g}, w'.slots s = some g →
    w.slots s = some g ∨ Acquired kind g t ∨ ∃ v, w.slots (.variable v) = some g
  on : ∀ {ev g}, ev ∈ t → (kind ev).Touches g →
    Acquired kind g t ∨ (∃ v, w.slots (.variable v) = some g) ∨ ∃ e, w.Owns e g ∧ l.calls e = t

/-- What is in a place after it was written. -/
theorem slots_of_update {slots : Slot → Option Generator} {s s' : Slot} {x : Option Generator}
    (h : Function.update slots s' x s = some g) : slots s = some g ∨ x = some g := by
  by_cases hs : s = s'
  · subst hs
    rw [Function.update_self] at h
    exact .inr h
  · rw [Function.update_of_ne hs] at h
    exact .inl h

theorem touches_of_use (h : ∀ ev ∈ t, kind ev = .use g) : ∀ ev ∈ t, (kind ev).Touches g := by
  intro ev hev
  rw [h ev hev]
  rfl

/-- The calls of a construction are on the one generator that it creates, if any. -/
theorem Constructed.on_created {type : HiprandRngType} {r : Except Error Generator}
    (h : Constructed type t r) :
    (∃ g, (∀ ev ∈ t, (kind ev).Touches g) ∧ Acquired kind g t ∧ ∀ g', r = .ok g' → g' = g) ∨
    ((∀ ev ∈ t, kind ev = .other) ∧ ∀ g', r ≠ .ok g') := by
  cases h with
  | @notCreated st g hst =>
    refine .inr ⟨fun ev hev => ?_, nofun⟩
    rw [List.mem_singleton.mp hev]
    cases st <;> first | rfl | exact absurd rfl hst
  | @built g t hc =>
    refine .inl ⟨g, ?_, ⟨_, List.mem_cons_self, rfl⟩, fun g' hg' => (Except.ok.inj hg').symm⟩
    exact List.forall_mem_cons.mpr ⟨rfl, touches_of_use hc.1⟩
  | @cleanedUp g t err st hc =>
    refine .inl ⟨g, ?_, ⟨_, List.mem_cons_self, rfl⟩, nofun⟩
    refine List.forall_mem_cons.mpr ⟨rfl, fun ev hev => ?_⟩
    rcases List.mem_append.mp hev with hev | hev
    · exact touches_of_use hc.1 ev hev
    · rw [List.mem_singleton.mp hev]
      rfl

theorem eq_ok_of_toOption {r : Except Error Generator} (h : r.toOption = some g) : r = .ok g := by
  cases r with
  | ok => exact congrArg _ (Option.some.inj h)
  | error => cases h

/-- Calls that are all on `g` create nothing else. -/
theorem eq_of_acquired (h : ∀ ev ∈ t, (kind ev).Touches g) (hg' : Acquired kind g' t) : g' = g := by
  obtain ⟨ev, hev, hk⟩ := hg'
  have htouches : (kind ev).Touches g' := by
    rw [hk]
    rfl
  exact htouches.unique (h ev hev)

theorem not_acquired_of_use (h : ∀ ev ∈ t, kind ev = .use g) (g' : Generator) :
    ¬ Acquired kind g' t := by
  intro ⟨ev, hev, hk⟩
  rw [h ev hev] at hk
  cases hk

theorem not_acquired_destroy {st : HiprandStatus} (g' : Generator) :
    ¬ Acquired kind g' [⟨.hiprandDestroyGenerator g, st⟩] := by
  intro ⟨ev, hev, hk⟩
  rw [List.mem_singleton.mp hev] at hk
  cases hk

/-- The accounts of a step that creates nothing and whose calls are on `g`. -/
theorem Accounts.of_holder {s₀ : Slot} (hs₀ : w.slots s₀ = some g)
    (hlog : w'.log = w.log ++ t) (hnone : ∀ g', ¬ Acquired kind g' t)
    (htouch : ∀ ev ∈ t, (kind ev).Touches g)
    (hcalls : ∀ e, l.calls e = t ∨ l.calls e = [])
    (howner : ∀ e, s₀ = .engine e → l.calls e = t)
    (hslots : ∀ {s g'}, w'.slots s = some g' →
      w.slots s = some g' ∨ ∃ v, w.slots (.variable v) = some g') : Accounts w w' l t where
  log := hlog
  fresh g' hg' := absurd hg' (hnone g')
  calls := hcalls
  slots hs := (hslots hs).imp_right .inr
  on {ev g'} hev hg' := by
    obtain rfl := hg'.unique (htouch ev hev)
    cases s₀ with
    | engine e => exact .inr (.inr ⟨e, hs₀, howner e rfl⟩)
    | «variable» v => exact .inr (.inl ⟨v, hs₀⟩)

theorem touches_destroy {st : HiprandStatus} :
    ∀ ev ∈ [(⟨.hiprandDestroyGenerator g, st⟩ : Event apiSig)], (kind ev).Touches g := by
  intro ev hev
  rw [List.mem_singleton.mp hev]
  rfl

/-- The accounts of a step without calls. -/
theorem Accounts.of_no_calls (hlog : w'.log = w.log)
    (hcalls : ∀ e, l.calls e = [] ∨ l.calls e = [])
    (hslots : ∀ {s g'}, w'.slots s = some g' →
      w.slots s = some g' ∨ ∃ v, w.slots (.variable v) = some g') : Accounts w w' l [] where
  log := hlog.trans (List.append_nil _).symm
  fresh _ hg' := absurd hg' (by rintro ⟨_, hev, _⟩; cases hev)
  calls := hcalls
  slots hs := (hslots hs).imp_right .inr
  on hev := absurd hev List.not_mem_nil

theorem Step.accounts (hs : Step w l w') : ∃ t, Accounts w w' l t := by
  cases hs with
  | @construct e args p t r he hp ht hf =>
    obtain ⟨type, configure, rfl, hc⟩ := EngineClass.constructor?_eq_construct hp
    refine ⟨t, rfl, hf, fun e' => ite_eq_or_eq .., fun {s g} hs => ?_, fun {ev g} hev hg => ?_⟩ <;>
      rcases (construct_traces hc ht).on_created with ⟨g₀, hon, hacq, hr⟩ | ⟨hother, hr⟩
    · refine (slots_of_update hs).imp_right fun hval => .inl ?_
      rw [hr g (eq_ok_of_toOption hval)]
      exact hacq
    · refine (slots_of_update hs).imp_right fun hval => ?_
      exact absurd (eq_ok_of_toOption hval) (hr g)
    · rw [hg.unique (hon ev hev)]
      exact .inl hacq
    · rw [hother ev hev] at hg
      exact hg.elim
  | @adopt e v t r he ht =>
    cases hv : w.slots (.variable v) with
    | none =>
      rw [hv] at ht
      obtain ⟨rfl, rfl⟩ := traces_throw_iff.mp ht
      exact ⟨[], .of_no_calls (List.append_nil _) (fun e' => ite_eq_or_eq ..) .inl⟩
    | some g =>
      rw [hv] at ht
      obtain ⟨rfl, rfl⟩ := traces_ret_iff.mp ht
      refine ⟨[], .of_no_calls (List.append_nil _) (fun e' => ite_eq_or_eq ..) fun {s g'} hs => ?_⟩
      rcases slots_of_update hs with hs | hval
      · exact .inl (Ledger.holds_of_forget hs).2
      · exact .inr ⟨v, hv.trans hval⟩
  | @member e m g p t r he hm ht =>
    have huse := (EngineClass.method?_checksOn hm _ _ ht).1
    refine ⟨t, .of_holder he rfl (not_acquired_of_use huse) (touches_of_use huse)
      (fun e' => ite_eq_or_eq ..) (fun e' he' => ?_) .inl⟩
    cases he'
    exact if_pos rfl
  | @destroy e g t r he ht =>
    obtain ⟨st, rfl⟩ := destruct_traces ht
    refine ⟨_, .of_holder he rfl not_acquired_destroy touches_destroy (fun e' => ite_eq_or_eq ..)
      (fun e' he' => ?_) fun hs => .inl (Ledger.holds_of_forget hs).2⟩
    cases he'
    exact if_pos rfl
  | @rawCreate v type st g hf =>
    refine ⟨_, rfl, hf, fun e' => .inr rfl, fun {s g'} hs => ?_, fun {ev g'} hev hg' => ?_⟩
    · by_cases hst : st = .success
      · rw [if_pos hst] at hs
        refine (slots_of_update hs).imp_right fun hval => .inl ?_
        rw [← Option.some.inj hval, hst]
        exact ⟨_, List.mem_singleton_self _, rfl⟩
      · rw [if_neg hst] at hs
        exact .inl hs
    · obtain rfl := List.mem_singleton.mp hev
      refine .inl ⟨_, hev, ?_⟩
      cases st <;> first | exact hg'.elim | exact congrArg _ hg'
  | @rawUse v g ev hv hk =>
    have huse : ∀ ev' ∈ [ev], kind ev' = .use g := by simpa using hk
    exact ⟨_, .of_holder hv rfl (not_acquired_of_use huse) (touches_of_use huse)
      (fun e' => .inr rfl) nofun .inl⟩
  | @rawDestroy v g st hv =>
    exact ⟨_, .of_holder hv rfl not_acquired_destroy touches_destroy (fun e' => .inr rfl) nofun
      fun hs => .inl (Ledger.holds_of_forget hs).2⟩
  | @rawMove v v' g hv =>
    refine ⟨[], .of_no_calls rfl (fun e' => .inl rfl) fun {s g'} hs => ?_⟩
    rcases slots_of_update hs with hs | hval
    · exact .inl (Ledger.holds_of_forget hs).2
    · exact .inr ⟨v, hv.trans hval⟩
  | @rawForget v =>
    exact ⟨[], .of_no_calls rfl (fun e' => .inl rfl)
      fun hs => .inl (Ledger.holds_of_forget hs).2⟩

/-! ## Only the owner calls -/

/-- Nobody but the engine `e` has the generator `g`. -/
structure HeldOnlyBy (e : EngineId) (g : Generator) (w : World) : Prop where
  created : Acquired kind g w.log
  sole : ∀ {s}, w.slots s = some g → s = .engine e

namespace HeldOnlyBy

theorem of_owns (h : Owned w φ) (he : w.Owns e g) : HeldOnlyBy e g w where
  created := (h.books.acquired_iff g).mpr (by rw [h.custody.live he]; nofun)
  sole hs := h.custody.unique hs he

theorem not_in_variable (h : HeldOnlyBy e g w) (v : Nat) : w.slots (.variable v) ≠ some g := by
  intro hv
  cases h.sole hv

theorem not_acquired (h : HeldOnlyBy e g w) (ha : Accounts w w' l t) : ¬ Acquired kind g t :=
  fun hg => ha.fresh g hg h.created

theorem step (h : HeldOnlyBy e g w) (ha : Accounts w w' l t) : HeldOnlyBy e g w' where
  created := by
    rw [ha.log]
    exact acquired_append.mpr (.inl h.created)
  sole hs := by
    rcases ha.slots hs with hs | hg | ⟨v, hv⟩
    · exact h.sole hs
    · exact absurd hg (h.not_acquired ha)
    · exact absurd hv (h.not_in_variable v)

/-- The calls on `g` in a step are calls of `e`. -/
theorem eventsOn_step (h : HeldOnlyBy e g w) (ha : Accounts w w' l t) :
    eventsOn kind g t = eventsOn kind g (l.calls e) := by
  rcases ha.calls e with hcalls | hcalls
  · rw [hcalls]
  · rw [hcalls]
    refine eventsOn_eq_nil fun ev hev hg => ?_
    rcases ha.on hev hg with hacq | ⟨v, hv⟩ | ⟨e', he', hcalls'⟩
    · exact h.not_acquired ha hacq
    · exact h.not_in_variable v hv
    · -- the engine of the step is `e`, which makes no call in it
      cases h.sole he'
      rw [← hcalls', hcalls] at hev
      cases hev

theorem run (h : HeldOnlyBy e g w₁) {ls : List Label} (hrun : wrapper.Run w₁ ls w₂) :
    HeldOnlyBy e g w₂ ∧
    eventsOn kind g w₂.log =
      eventsOn kind g w₁.log ++ eventsOn kind g (ls.flatMap (Label.calls e)) := by
  induction hrun with
  | nil => exact ⟨h, (List.append_nil _).symm⟩
  | snoc _ hstep ih =>
    obtain ⟨hheld, hlog⟩ := ih
    obtain ⟨t, ha⟩ := Step.accounts hstep
    refine ⟨hheld.step ha, ?_⟩
    rw [ha.log, eventsOn_append, hlog, hheld.eventsOn_step ha, List.flatMap_append,
      List.flatMap_singleton, eventsOn_append, List.append_assoc]

end HeldOnlyBy

/-- A generator that was constructed gets the calls of its constructor first. -/
theorem eventsOn_construct (h : Owned w φ) {args : CtorArgs}
    (hs : Step w (.construct e args t (.ok g)) w') : eventsOn kind g w'.log = t := by
  cases hs with
  | construct he hp ht hf =>
    obtain ⟨type, configure, rfl, hc⟩ := EngineClass.constructor?_eq_construct hp
    rcases (construct_traces hc ht).on_created with ⟨g₀, hon, hacq, hr⟩ | ⟨_, hr⟩
    · obtain rfl := hr g rfl
      show eventsOn kind g (w.log ++ t) = t
      rw [eventsOn_append, h.books.eventsOn_fresh (hf.phase h.books hacq), eventsOn_eq_self hon,
        List.nil_append]
    · exact absurd rfl (hr g)

/-- From the moment an engine owns a generator, the calls on the generator are those that
the engine makes, whatever the client does with other engines and with raw handles. What
was created by a constructor gets the calls of the constructor before these, and no other
ones. -/
theorem calls_by_owner {ls : List Label} (hrun : wrapper.Run w₁ ls w₂) :
    (∀ {e g}, wrapper.Reachable w₁ → w₁.Owns e g →
      eventsOn kind g w₂.log =
        eventsOn kind g w₁.log ++ eventsOn kind g (ls.flatMap (Label.calls e))) ∧
    (∀ {w e args t g}, wrapper.Reachable w → Step w (.construct e args t (.ok g)) w₁ →
      eventsOn kind g w₂.log = t ++ eventsOn kind g (ls.flatMap (Label.calls e))) := by
  refine ⟨fun {e g} h he => ?_, fun {w e args t g} h hs => ?_⟩
  · obtain ⟨φ, hφ⟩ := Owned.of_reachable h
    exact ((HeldOnlyBy.of_owns hφ he).run hrun).2
  · obtain ⟨φ, hφ⟩ := Owned.of_reachable h
    obtain ⟨φ₁, hφ₁⟩ := Owned.step ⟨φ, hφ⟩ hs
    have he : w₁.Owns e g := by
      cases hs
      exact Function.update_self ..
    rw [((HeldOnlyBy.of_owns hφ₁ he).run hrun).2, eventsOn_construct hφ hs]

/-- An MT19937 engine is constructed with generator 8. -/
def mt19937Calls : List (Event apiSig) :=
  [⟨.hiprandCreateGenerator .pseudoMt19937, (.success, 8)⟩,
    ⟨.hiprandSetPseudoRandomGeneratorSeed 8 5, .success⟩]

/-- The XORWOW engine with generator 7, and the MT19937 engine beside it. -/
def World.beside : World :=
  World.afterAdoption.constructed ⟨.mt19937, 1⟩ mt19937Calls (.ok 8)

theorem step_beside :
    Step .afterAdoption (.construct ⟨.mt19937, 1⟩ (.seed 5) mt19937Calls (.ok 8)) .beside := by
  have hfresh : World.afterAdoption.Fresh mt19937Calls := by
    rintro g ⟨ev, hev, hk⟩ ⟨ev', hev', hk'⟩
    rw [List.mem_singleton.mp hev'] at hk'
    cases hk'
    simp only [mt19937Calls, List.mem_cons, List.not_mem_nil, or_false] at hev
    rcases hev with rfl | rfl <;> cases hk
  have hctor : Traces (mt19937Engine 5) mt19937Calls (.ok 8) := .call (.call .ret)
  exact .construct rfl rfl hctor hfresh

/-- The client created generator 7; of the two engines, only its own seeds it. -/
theorem calls_by_owner_beside :
    ∃ ls w, wrapper.Run .afterAdoption ls w ∧
      eventsOn kind 7 w.log =
        [⟨.hiprandCreateGenerator .pseudoXorwow, (.success, 7)⟩,
          ⟨.hiprandSetPseudoRandomGeneratorSeed 7 6, .success⟩] := by
  have hseed : Traces (seed 7 6) [⟨.hiprandSetPseudoRandomGeneratorSeed 7 6, .success⟩] (.ok ()) :=
    .call .ret
  have hmember : Step .beside (.member ⟨.xorwow, 0⟩ (.seed 6) _ _) _ :=
    .member (g := 7) rfl rfl hseed
  have hrun : wrapper.Run .afterAdoption _ _ := (Run.nil.snoc step_beside).snoc hmember
  exact ⟨_, _, hrun, (calls_by_owner hrun).1 (e := ⟨.xorwow, 0⟩) World.afterAdoption_reachable rfl⟩

/-! ## A generator alone -/

/-- What there is of the world when only one generator is looked at. -/
def World.only (g : Generator) (w : World) : World where
  slots := Option.filter (· = g) ∘ w.slots
  log := eventsOn kind g w.log
  entrusted g' := g' = g ∧ w.entrusted g'

theorem World.eq_of {w w' : World} (hslots : w.slots = w'.slots) (hlog : w.log = w'.log)
    (hentrusted : ∀ g, w.entrusted g ↔ w'.entrusted g) : w = w' := by
  obtain ⟨slots, log, entrusted⟩ := w
  obtain ⟨slots', log', entrusted'⟩ := w'
  cases hslots
  cases hlog
  cases funext fun g => propext (hentrusted g)
  rfl

@[simp] theorem World.only_slots_some {s : Slot} {w : World} :
    (w.only g).slots s = some g' ↔ w.slots s = some g' ∧ g' = g := by
  simp [World.only]

theorem World.Owns.only (h : w.Owns e g) : (w.only g).Owns e g :=
  World.only_slots_some.mpr ⟨h, rfl⟩

theorem World.Fresh.only (h : w.Fresh t) : (w.only g).Fresh t :=
  fun g' hg' hacq => h g' hg' hacq.of_eventsOn

/-- A place that does not have `g` is empty for it. -/
theorem World.only_slots_none {s : Slot} (h : w.slots s ≠ some g) : (w.only g).slots s = none := by
  rw [Option.eq_none_iff_forall_ne_some]
  intro g' hg'
  obtain ⟨hs, rfl⟩ := World.only_slots_some.mp hg'
  exact h hs

theorem World.only_update (slots : Slot → Option Generator) (s : Slot) (x : Option Generator) :
    Option.filter (· = g) ∘ Function.update slots s x =
      Function.update (Option.filter (· = g) ∘ slots) s (x.filter (· = g)) :=
  Function.comp_update ..

theorem filter_self : (some g).filter (· = g) = some g :=
  Option.filter_some_pos (decide_eq_true rfl)

theorem filter_of_ne (h : g' ≠ g) : (some g').filter (· = g) = none :=
  Option.filter_some_neg (decide_eq_false h)

/-- Writing something else than `g` to a place without `g` is not seen. -/
theorem filter_update_of_ne {slots : Slot → Option Generator} {s : Slot} {x : Option Generator}
    (hs : slots s ≠ some g) (hx : x ≠ some g) :
    Option.filter (· = g) ∘ Function.update slots s x = Option.filter (· = g) ∘ slots := by
  have hnone {y : Option Generator} (hy : y ≠ some g) : y.filter (· = g) = none := by
    cases y with
    | none => rfl
    | some g' => exact filter_of_ne fun h => hy (congrArg some h)
  rw [World.only_update, hnone hx, ← hnone hs]
  exact Function.update_eq_self ..

/-- The calls of a step on another generator are not seen. -/
theorem eventsOn_log_of_ne (ht : ∀ ev ∈ t, (kind ev).Touches g') (hne : g' ≠ g) :
    eventsOn kind g (w.log ++ t) = eventsOn kind g w.log := by
  rw [eventsOn_append, eventsOn_of_ne ht hne, List.append_nil]

theorem eventsOn_log_self (ht : ∀ ev ∈ t, (kind ev).Touches g) :
    eventsOn kind g (w.log ++ t) = eventsOn kind g w.log ++ t := by
  rw [eventsOn_append, eventsOn_eq_self ht]

theorem Step.congr (hs : Step w l w₁) (hslots : w₁.slots = w₂.slots) (hlog : w₁.log = w₂.log)
    (hentrusted : ∀ g, w₁.entrusted g ↔ w₂.entrusted g) : Step w l w₂ :=
  World.eq_of hslots hlog hentrusted ▸ hs

/-- `w'` is what `w` is, or the same step leads from `w` to `w'`. A step of the client on
its own variables may be another one. -/
def StepsOrStays (w : World) (l : Label) (w' : World) : Prop :=
  w' = w ∨ ∃ l', Step w l' w' ∧ (l'.engine?.isSome → l' = l)

theorem only_construct {args : CtorArgs} {r : Except Error Generator} {p : EngineProg Generator}
    (he : w.slots (.engine e) = none) (hp : e.cls.constructor? args = some p) (ht : Traces p t r)
    (hf : w.Fresh t) :
    StepsOrStays (w.only g) (.construct e args t r) ((w.constructed e t r).only g) := by
  obtain ⟨type, configure, rfl, hc⟩ := EngineClass.constructor?_eq_construct hp
  have hnone : w.slots (.engine e) ≠ some g := by
    rw [he]
    nofun
  -- a construction that does not create `g`
  have hstays (hval : r.toOption ≠ some g) (hcalls : eventsOn kind g t = [])
      (hacq : ¬ Acquired kind g t) : (w.constructed e t r).only g = w.only g := by
    refine World.eq_of (filter_update_of_ne hnone hval) ?_ fun g' => and_congr_right fun hg => ?_
    · show eventsOn kind g (w.log ++ t) = eventsOn kind g w.log
      rw [eventsOn_append, hcalls, List.append_nil]
    · exact or_iff_left (hg ▸ hacq)
  rcases (construct_traces hc ht).on_created with ⟨g₀, hon, hacq, hr⟩ | ⟨hother, hr⟩
  · by_cases hg : g₀ = g
    · subst hg
      have hval : (r.toOption : Option Generator).filter (fun g => g = g₀) = r.toOption := by
        cases r with
        | ok g' =>
          cases hr g' rfl
          exact filter_self
        | error => rfl
      refine .inr ⟨_, (Step.construct (World.only_slots_none hnone) hp ht hf.only).congr ?_
        (eventsOn_log_self hon).symm fun g' => ?_, fun _ => rfl⟩
      · refine Eq.trans ?_ (World.only_update w.slots (.engine e) r.toOption).symm
        rw [hval]
        rfl
      · exact ⟨fun h => h.elim (.imp_right .inl) fun h => ⟨eq_of_acquired hon h, .inr h⟩,
          fun ⟨hg, h⟩ => h.imp_left fun h => ⟨hg, h⟩⟩
    · refine .inl (hstays (fun hval => hg ?_) (eventsOn_of_ne hon hg) fun h => hg ?_)
      · exact (hr g (eq_ok_of_toOption hval)).symm
      · exact (eq_of_acquired hon h).symm
  · refine .inl (hstays (fun hval => hr g (eq_ok_of_toOption hval)) ?_ ?_)
    · refine eventsOn_eq_nil fun ev hev htouches => ?_
      rw [hother ev hev] at htouches
      exact htouches
    · rintro ⟨ev, hev, hk⟩
      rw [hother ev hev] at hk
      cases hk

theorem only_adopt {v : Nat} {r : Except Error (Generator × Option Generator)}
    (he : w.slots (.engine e) = none) (ht : Traces (adopt (w.slots (.variable v))) t r) :
    StepsOrStays (w.only g) (.adopt e v t r) ((w.adopted e v t r).only g) := by
  have hnone : w.slots (.engine e) ≠ some g := by
    rw [he]
    nofun
  cases hv : w.slots (.variable v) with
  | none =>
    rw [hv] at ht
    obtain ⟨rfl, rfl⟩ := traces_throw_iff.mp ht
    exact .inl (World.eq_of rfl (congrArg (eventsOn kind g) (List.append_nil _)) fun _ => .rfl)
  | some g₀ =>
    rw [hv] at ht
    obtain ⟨rfl, rfl⟩ := traces_ret_iff.mp ht
    by_cases hg : g₀ = g
    · subst hg
      have ht' : Traces (adopt ((w.only g₀).slots (.variable v))) [] (.ok (g₀, none)) := by
        rw [World.only_slots_some.mpr ⟨hv, rfl⟩]
        exact .ret
      refine .inr ⟨_, (Step.adopt (World.only_slots_none hnone) ht').congr ?_ ?_ fun g' => ?_,
        fun _ => rfl⟩
      · show _ = Option.filter (· = g₀) ∘ Function.update (Function.update _ _ _) _ _
        rw [World.only_update, World.only_update, filter_self]
        rfl
      · show eventsOn kind g₀ w.log ++ [] = eventsOn kind g₀ (w.log ++ [])
        rw [List.append_nil, List.append_nil]
      · exact ⟨fun h => h.elim (.imp_right .inl) fun h => ⟨h, .inr h⟩,
          fun ⟨hg, _⟩ => .inr hg⟩
    · have hv' : w.slots (.variable v) ≠ some g := by
        rw [hv]
        exact fun h => hg (Option.some.inj h)
      refine .inl (World.eq_of ?_ (congrArg (eventsOn kind g) (List.append_nil _)) fun g' => ?_)
      · show Option.filter (· = g) ∘ Function.update (Function.update _ _ _) _ _ = _
        rw [filter_update_of_ne ?_ fun h => hg (Option.some.inj h), filter_update_of_ne (x := none) hv' nofun]
        · rfl
        · have hne : Slot.engine e ≠ .variable v := nofun
          rw [Function.update_of_ne hne]
          exact hnone
      · refine and_congr_right fun hg' => or_iff_left fun h => hg ?_
        exact h.symm.trans hg'

theorem Step.only (hs : Step w l w') (g : Generator) :
    StepsOrStays (w.only g) l (w'.only g) := by
  cases hs with
  | construct he hp ht hf => exact only_construct he hp ht hf
  | adopt he ht => exact only_adopt he ht
  | @member e m g₀ p t r he hm ht =>
    have hon := touches_of_use (EngineClass.method?_checksOn hm _ _ ht).1
    by_cases hg : g₀ = g
    · subst hg
      exact .inr ⟨_, (Step.member he.only hm ht).congr rfl (eventsOn_log_self hon).symm
        fun _ => .rfl, fun _ => rfl⟩
    · exact .inl (World.eq_of rfl (eventsOn_log_of_ne hon hg) fun _ => .rfl)
  | @destroy e g₀ t r he ht =>
    obtain ⟨st, rfl⟩ := destruct_traces ht
    by_cases hg : g₀ = g
    · subst hg
      exact .inr ⟨_, (Step.destroy he.only ht).congr (World.only_update w.slots (.engine e) none).symm
        (eventsOn_log_self touches_destroy).symm fun _ => .rfl, fun _ => rfl⟩
    · refine .inl (World.eq_of (filter_update_of_ne ?_ nofun)
        (eventsOn_log_of_ne touches_destroy hg) fun _ => .rfl)
      rw [he]
      exact fun h => hg (Option.some.inj h)
  | @rawCreate v type st g₀ hf =>
    by_cases hst : st = .success
    · subst hst
      have hon : ∀ ev ∈ [(⟨.hiprandCreateGenerator type, (.success, g₀)⟩ : Event apiSig)],
          (kind ev).Touches g₀ := by
        intro ev hev
        rw [List.mem_singleton.mp hev]
        rfl
      by_cases hg : g₀ = g
      · subst hg
        refine .inr ⟨_, (Step.rawCreate (v := v) hf.only).congr ?_ (eventsOn_log_self hon).symm
          fun _ => .rfl, fun _ => rfl⟩
        show _ = Option.filter (· = g₀) ∘ Function.update _ _ _
        rw [World.only_update, filter_self]
        rfl
      · -- the client writes another handle over what the variable had
        refine .inr ⟨_, (Step.rawForget (v := v)).congr ?_ (eventsOn_log_of_ne hon hg).symm
          fun _ => .rfl, nofun⟩
        show _ = Option.filter (· = g) ∘ Function.update _ _ _
        rw [World.only_update, filter_of_ne hg]
        rfl
    · have hother : kind ⟨.hiprandCreateGenerator type, (st, g₀)⟩ = .other := by
        cases st <;> first | rfl | exact absurd rfl hst
      refine .inl (World.eq_of ?_ ?_ fun _ => .rfl)
      · show Option.filter (· = g) ∘ (if st = .success then _ else _) = _
        rw [if_neg hst]
        rfl
      · show eventsOn kind g (w.log ++ [_]) = eventsOn kind g w.log
        have hnil : eventsOn kind g [⟨.hiprandCreateGenerator type, (st, g₀)⟩] = [] := by
          refine eventsOn_eq_nil fun ev hev htouches => ?_
          rw [List.mem_singleton.mp hev, hother] at htouches
          exact htouches
        rw [eventsOn_append, hnil, List.append_nil]
  | @rawUse v g₀ ev hv hk =>
    have hon : ∀ ev' ∈ [ev], (kind ev').Touches g₀ := touches_of_use (by simpa using hk)
    by_cases hg : g₀ = g
    · subst hg
      exact .inr ⟨_, (Step.rawUse (World.only_slots_some.mpr ⟨hv, rfl⟩) hk).congr rfl
        (eventsOn_log_self hon).symm fun _ => .rfl, fun _ => rfl⟩
    · exact .inl (World.eq_of rfl (eventsOn_log_of_ne hon hg) fun _ => .rfl)
  | @rawDestroy v g₀ st hv =>
    by_cases hg : g₀ = g
    · subst hg
      exact .inr ⟨_, (Step.rawDestroy (World.only_slots_some.mpr ⟨hv, rfl⟩)).congr
        (World.only_update w.slots (.variable v) none).symm (eventsOn_log_self touches_destroy).symm fun _ => .rfl,
        fun _ => rfl⟩
    · refine .inl (World.eq_of (filter_update_of_ne ?_ nofun)
        (eventsOn_log_of_ne touches_destroy hg) fun _ => .rfl)
      rw [hv]
      exact fun h => hg (Option.some.inj h)
  | @rawMove v v' g₀ hv =>
    by_cases hg : g₀ = g
    · subst hg
      refine .inr ⟨_, (Step.rawMove (World.only_slots_some.mpr ⟨hv, rfl⟩)).congr ?_ rfl
        fun _ => .rfl, fun _ => rfl⟩
      show _ = Option.filter (· = g₀) ∘ Function.update (Function.update _ _ _) _ _
      rw [World.only_update, World.only_update, filter_self]
      rfl
    · refine .inr ⟨_, (Step.rawForget (v := v')).congr ?_ rfl fun _ => .rfl, nofun⟩
      have hv' : w.slots (.variable v) ≠ some g := by
        rw [hv]
        exact fun h => hg (Option.some.inj h)
      show _ = Option.filter (· = g) ∘ Function.update (Function.update _ _ _) _ _
      rw [World.only_update, filter_of_ne hg, filter_update_of_ne (x := none) hv' nofun]
      rfl
  | @rawForget v =>
    exact .inr ⟨_, (Step.rawForget (v := v)).congr
      (World.only_update w.slots (.variable v) none).symm rfl fun _ => .rfl, nofun⟩

/-- What a run does with one generator, it does in a run with no other generator: the
calls on it are the same, in the same order, and so are the places that have it. The
engines do nothing there that they did not do in the run. -/
theorem generator_alone {ls : List Label} (hrun : wrapper.Run .initial ls w) (g : Generator) :
    ∃ ls', wrapper.Run .initial ls' (w.only g) ∧
      (ls'.filter (·.engine?.isSome)).Sublist ls := by
  have hinitial : World.initial.only g = .initial :=
    World.eq_of rfl rfl fun _ => ⟨fun h => h.2, fun h => h.elim⟩
  have hproject : ∃ ls', wrapper.Run (World.initial.only g) ls' (w.only g) ∧
      (ls'.filter (·.engine?.isSome)).Sublist ls := by
    refine hrun.project (World.only g) ?_
    intro w l w' hs
    exact Step.only hs g
  rwa [hinitial] at hproject

/-- The MT19937 engine could have been alone. -/
theorem generator_alone_beside :
    World.beside.Owns ⟨.xorwow, 0⟩ 7 ∧ (World.beside.only 8).log = mt19937Calls ∧
      ∃ ls', wrapper.Run .initial ls' (World.beside.only 8) := by
  obtain ⟨_, ls, rfl, hrun⟩ := World.afterAdoption_reachable.step step_beside
  obtain ⟨ls', hrun', _⟩ := generator_alone hrun 8
  exact ⟨rfl, rfl, ls', hrun'⟩

end HipRand.Cpp
