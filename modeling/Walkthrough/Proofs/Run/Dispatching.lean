import Walkthrough.Browser.Memory
import Walkthrough.Proofs.Assoc
import Walkthrough.Proofs.Basic
import Walkthrough.Run.Dispatch

/-! Dispatching to the first strategy of a type. A registry holds what is left of its strategies when each is
added in turn (`Registry.keep`), and under every type that is the first one that was given. -/

namespace Walkthrough

variable {π η : Type}

/-- A scene in whose log something more is said. -/
def Scene.said (s : Scene π) (more : List LogEntry) : Scene π := { s with log := s.log ++ more }

theorem Scene.said_nil (s : Scene π) : s.said [] = s := by rw [said, List.append_nil]

theorem Scene.said_said (s : Scene π) (more last : List LogEntry) :
    (s.said more).said last = s.said (more ++ last) := by
  rw [said, said, said, List.append_assoc]

/-- The first of some strategies that is for a type. -/
def Strategy.first? (strategies : List (Strategy π η)) (type : ActionType) : Option (Strategy π η) :=
  strategies.find? fun x => x.type = some type

theorem Strategy.first?_cons (x : Strategy π η) (strategies : List (Strategy π η)) (type : ActionType) :
    first? (x :: strategies) type =
      (if x.type = some type then some x else none).or (first? strategies type) := by
  rw [first?, List.find?_cons]
  by_cases own : x.type = some type
  · rw [if_pos own, Option.some_or, decide_eq_true own]
  · rw [if_neg own, Option.none_or, decide_eq_false own, first?]

theorem Strategy.first?_eq_none_iff {strategies : List (Strategy π η)} {type : ActionType} :
    first? strategies type = none ↔ ¬∃ x ∈ strategies, x.type = some type := by
  simp [first?]

namespace Registry

/-- What a registry holds after one more strategy. -/
def keep (kept : List (ActionType × Strategy π η)) (x : Strategy π η) :
    List (ActionType × Strategy π η) :=
  match x.type with
  | none => kept
  | some type => if Assoc.contains type kept then kept else kept ++ [(type, x)]

variable {kept : List (ActionType × Strategy π η)} {x : Strategy π η} {type : ActionType}

theorem keep_of_contains (declared : x.type = some type) (h : Assoc.contains type kept = true) :
    keep kept x = kept := by
  rw [keep, declared]
  exact if_pos h

theorem keep_of_not_contains (declared : x.type = some type) (h : ¬Assoc.contains type kept = true) :
    keep kept x = kept ++ [(type, x)] := by
  rw [keep, declared]
  exact if_neg h

/-- A type that has a strategy keeps it, and another gets the new one if that is of it. -/
theorem get?_keep (kept : List (ActionType × Strategy π η)) (x : Strategy π η) (type : ActionType) :
    Assoc.get? type (keep kept x) =
      (Assoc.get? type kept).or (if x.type = some type then some x else none) := by
  cases declared : x.type with
  | none =>
    rw [keep, declared, if_neg nofun, Option.or_none]
  | some own =>
    by_cases h : Assoc.contains own kept = true
    · rw [keep_of_contains declared h]
      by_cases same : own = type
      · obtain ⟨y, hy⟩ := Option.isSome_iff_exists.mp (same ▸ h)
        rw [hy, Option.some_or]
      · rw [if_neg fun he => same (Option.some.inj he), Option.or_none]
    · have fresh : own ∉ Assoc.keys kept := fun mem => h (Assoc.contains_iff.mpr mem)
      rw [keep_of_not_contains declared h, ← Assoc.put_of_not_mem fresh]
      by_cases same : own = type
      · subst same
        rw [Assoc.get?_put_self, if_pos rfl, Assoc.get?_eq_none_iff.mpr fresh, Option.none_or]
      · rw [Assoc.get?_put_of_ne (Ne.symm same), if_neg fun he => same (Option.some.inj he),
          Option.or_none]

/-- Of the strategies that are added a registry holds the first of each type it had none for. -/
theorem get?_foldl_keep (strategies : List (Strategy π η)) (kept : List (ActionType × Strategy π η))
    (type : ActionType) : Assoc.get? type (strategies.foldl keep kept) =
      (Assoc.get? type kept).or (Strategy.first? strategies type) := by
  induction strategies generalizing kept with
  | nil => exact (Option.or_none).symm
  | cons x strategies ih =>
    rw [List.foldl_cons, ih, get?_keep, Option.or_assoc, Strategy.first?_cons]

/-- Strategies of types that are there already are left out. -/
theorem foldl_keep_of_mem {later : List (Strategy π η)}
    (h : ∀ x ∈ later, ∃ type ∈ Assoc.keys kept, x.type = some type) :
    later.foldl keep kept = kept := by
  induction later with
  | nil => rfl
  | cons x later ih =>
    obtain ⟨⟨type, there, declared⟩, rest⟩ := List.forall_mem_cons.mp h
    rw [List.foldl_cons, keep_of_contains declared (Assoc.contains_iff.mpr there), ih rest]

theorem mem_keys_foldl_keep (strategies : List (Strategy π η)) (type : ActionType) :
    type ∈ Assoc.keys (strategies.foldl keep []) ↔ ∃ x ∈ strategies, x.type = some type := by
  rw [← not_iff_not, ← Assoc.get?_eq_none_iff, get?_foldl_keep, Assoc.get?_nil, Option.none_or,
    Strategy.first?_eq_none_iff]

/-! ## Building -/

/-- Adding strategies stops at the first without a type; nothing but warnings is left behind. -/
theorem addAll_eq (strategies : List (Strategy π η)) (kept : List (ActionType × Strategy π η))
    (s : Scene π) : ∃ said : List LogEntry, (∀ e ∈ said, e.level = .warning) ∧
      addAll kept strategies s =
        (match strategies.find? fun x => x.type.isNone with
          | some x => .error (.registry (x.name ++ " declares no action type"))
          | none => .ok (strategies.foldl keep kept), s.said said) := by
  induction strategies generalizing kept s with
  | nil => exact ⟨[], nofun, by rw [Scene.said_nil]; rfl⟩
  | cons x strategies ih =>
    rw [addAll, List.find?_cons, List.foldl_cons]
    cases declared : x.type with
    | none => exact ⟨[], nofun, by rw [Scene.said_nil]; rfl⟩
    | some type =>
      dsimp only [Option.isNone_some]
      split
      · next known =>
        rw [keep_of_contains declared known]
        let ignored : LogEntry := ⟨.warning, .perform,
          "duplicate strategy for " ++ type.name ++ " ignored: " ++ x.name⟩
        obtain ⟨said, warnings, eq⟩ := ih kept (s.said [ignored])
        rw [Scene.said_said] at eq
        exact ⟨ignored :: said, List.forall_mem_cons.mpr ⟨rfl, warnings⟩, eq⟩
      · next fresh =>
        rw [keep_of_not_contains declared fresh]
        exact ih _ s

/-- Strategies that a registry can be built from: there are some, and each declares its type. -/
def Fit (strategies : List (Strategy π η)) : Prop :=
  strategies ≠ [] ∧ ∀ x ∈ strategies, x.type ≠ none

variable {strategies : List (Strategy π η)}

theorem build_of_fit (h : Fit strategies) (s : Scene π) : ∃ said : List LogEntry,
    (∀ e ∈ said, e.level = .warning) ∧
      build strategies s = (.ok ⟨strategies.foldl keep []⟩, s.said said) := by
  obtain ⟨said, warnings, added⟩ := addAll_eq strategies [] s
  have typed : strategies.find? (fun x => x.type.isNone) = none :=
    List.find?_eq_none.mpr fun x mem none => h.2 x mem (Option.isNone_iff_eq_none.mp none)
  rw [typed] at added
  obtain ⟨x, mem⟩ := List.exists_mem_of_ne_nil strategies h.1
  obtain ⟨type, declared⟩ := Option.ne_none_iff_exists'.mp (h.2 x mem)
  have held := (mem_keys_foldl_keep strategies type).mpr ⟨x, mem, declared⟩
  have some : (strategies.foldl keep []).isEmpty = false :=
    List.isEmpty_eq_false_iff.mpr fun empty => List.not_mem_nil (empty ▸ held)
  refine ⟨said, warnings, ?_⟩
  rw [build, Act.bind_of_ok added, some]
  rfl

theorem build_of_not_fit (h : ¬Fit strategies) (s : Scene π) : ∃ text, ∃ said : List LogEntry,
    (∀ e ∈ said, e.level = .warning) ∧
      build strategies s = (.error (.registry text), s.said said) := by
  obtain ⟨said, warnings, added⟩ := addAll_eq strategies [] s
  cases found : strategies.find? (fun x => x.type.isNone) with
  | some x =>
    rw [found] at added
    exact ⟨_, said, warnings, by rw [build, Act.bind_of_error added]⟩
  | none =>
    have typed : ∀ x ∈ strategies, x.type ≠ none := fun x mem none =>
      List.find?_eq_none.mp found x mem (Option.isNone_iff_eq_none.mpr none)
    obtain rfl : strategies = [] := by_contra fun some => h ⟨some, typed⟩
    rw [found] at added
    refine ⟨"Action strategy registry has no strategies", said, warnings, ?_⟩
    rw [build, Act.bind_of_ok added]
    rfl

/-! ## Dispatching -/

/-- A registry passes actions to the first of some strategies that is for them. -/
structure Dispatches (registry : Registry π η) (strategies : List (Strategy π η)) : Prop where
  performs : ∀ a x, Strategy.first? strategies a.type = some x → ∀ r hook s,
    registry.dispatch r (.action a) hook s = x.perform r a hook
      (s.said [⟨.debug, .perform, "dispatching " ++ a.type.name ++ " via " ++ x.name⟩])
  refuses : ∀ a, Strategy.first? strategies a.type = none → ∀ r hook s,
    registry.dispatch r (.action a) hook s =
      (.error (.noStrategy a.type.name (some (registry.types.map ActionType.name))), s)
  /-- Strategies that never fail for want of a strategy are not taken for missing ones. -/
  refuses_only : ∀ a r hook,
    (∀ x ∈ strategies, ∀ s name known,
      (x.perform r a hook s).1 ≠ .error (.noStrategy name known)) →
    ∀ s name known, (registry.dispatch r (.action a) hook s).1 = .error (.noStrategy name known) →
      Strategy.first? strategies a.type = none
  /-- The types that such a failure lists. -/
  types : ∀ type, type ∈ registry.types ↔ ∃ x ∈ strategies, x.type = some type
  rejects : ∀ value, value.hasOverlong = false → ∀ r hook s, registry.dispatch r (.stray value) hook s =
    (.error (.foreign ⟨.type, "Not an action: " ++ value.display⟩), s)
  /-- A value that cannot be shown is not named as no action; nothing is done about it either. -/
  rejects_unshown : ∀ value, value.hasOverlong = true → ∀ r hook s,
    registry.dispatch r (.stray value) hook s = (.error (.foreign ⟨.value, Number.overlongText⟩), s)

theorem dispatches_foldl_keep (strategies : List (Strategy π η)) :
    Dispatches ⟨strategies.foldl keep []⟩ strategies := by
  have held (type : ActionType) : Assoc.get? type (strategies.foldl keep []) =
      Strategy.first? strategies type := by
    rw [get?_foldl_keep, Assoc.get?_nil, Option.none_or]
  have performs (a : Action) (x : Strategy π η)
      (first : Strategy.first? strategies a.type = some x) (r : Resolver π η) (hook : Hook π η)
      (s : Scene π) : dispatch ⟨strategies.foldl keep []⟩ r (.action a) hook s = x.perform r a hook
        (s.said [⟨.debug, .perform, "dispatching " ++ a.type.name ++ " via " ++ x.name⟩]) := by
    rw [dispatch, Request.action?]
    dsimp only
    rw [held, first]
    rfl
  refine ⟨performs, fun a first r hook s => ?_, fun a r hook own s name known failed => ?_,
    mem_keys_foldl_keep strategies, fun value shown r hook s => ?_, fun value overlong r hook s => ?_⟩
  · rw [dispatch, Request.action?]
    dsimp only
    rw [held, first]
    rfl
  · cases first : Strategy.first? strategies a.type with
    | none => rfl
    | some x =>
      rw [performs a x first] at failed
      exact absurd failed (own x (List.mem_of_find?_eq_some first) _ name known)
  · rw [dispatch, Request.action?, shown]
    rfl
  · rw [dispatch, Request.action?, overlong]
    rfl

/-- A registry cannot be built exactly if there are no strategies or one of them declares no type, wherever it
stands. Else it passes every action to the first strategy of its type, also if strategies of the same types
are given after these. -/
theorem dispatches_build (strategies : List (Strategy π η)) (s : Scene π) :
    ((∃ text t, build strategies s = (.error (.registry text), t)) ↔
      strategies = [] ∨ ∃ x ∈ strategies, x.type = none) ∧
    (¬(strategies = [] ∨ ∃ x ∈ strategies, x.type = none) →
      ∃ registry : Registry π η,
        (∃ said : List LogEntry, (∀ e ∈ said, e.level = .warning) ∧
          build strategies s = (.ok registry, s.said said)) ∧
        registry.Dispatches strategies ∧
        ∀ later : List (Strategy π η), (∀ x ∈ later, ∃ y ∈ strategies, x.type = y.type) →
          ∃ said : List LogEntry, (∀ e ∈ said, e.level = .warning) ∧
            build (strategies ++ later) s = (.ok registry, s.said said)) := by
  have fit : Fit strategies ↔ ¬(strategies = [] ∨ ∃ x ∈ strategies, x.type = none) := by
    rw [Fit, not_or]
    simp
  refine ⟨⟨fun ⟨text, t, failed⟩ => ?_, fun unfit => ?_⟩, fun h => ?_⟩
  · refine not_not.mp (mt fit.mpr fun h => ?_)
    obtain ⟨said, -, built⟩ := build_of_fit h s
    rw [built] at failed
    cases failed
  · obtain ⟨text, said, -, failed⟩ := build_of_not_fit (mt fit.mp (not_not.mpr unfit)) s
    exact ⟨text, _, failed⟩
  · obtain ⟨some, typed⟩ := fit.mpr h
    refine ⟨_, build_of_fit ⟨some, typed⟩ s, dispatches_foldl_keep strategies,
      fun later types => ?_⟩
    have declared : ∀ x ∈ later, ∃ type ∈ Assoc.keys (strategies.foldl keep []),
        x.type = Option.some type := fun x hx => by
      obtain ⟨y, hy, same⟩ := types x hx
      obtain ⟨type, own⟩ := Option.ne_none_iff_exists'.mp (typed y hy)
      exact ⟨type, (mem_keys_foldl_keep strategies type).mpr ⟨y, hy, own⟩, same.trans own⟩
    have both : Fit (strategies ++ later) := by
      refine ⟨List.append_ne_nil_of_left_ne_nil some later, fun x hx none => ?_⟩
      rcases List.mem_append.mp hx with hx | hx
      · exact typed x hx none
      · obtain ⟨type, -, own⟩ := declared x hx
        exact nomatch own.symm.trans none
    have built := build_of_fit both s
    rwa [List.foldl_append, foldl_keep_of_mem declared] at built

/-- Two strategies for entering values, and one for clicking between them. -/
def entering : List (Strategy MemoryPage String) := [.enter { pressEnter := true }, .click, .enter {}]

/-- Of two strategies for entering the first one is kept, also if a third one is given later. There is none that
submits, and a strategy without a type lets no registry be built. -/
theorem dispatches_build_entering :
    let s : Scene MemoryPage := { page := {} }
    let first : Strategy MemoryPage String := .enter { pressEnter := true }
    (∃ text t, build (entering ++ [.typeless "Untyped"]) s = (.error (.registry text), t)) ∧
      ∃ (registry : Registry MemoryPage String) (said more : List LogEntry),
        build entering s = (.ok registry, s.said said) ∧
        build (entering ++ [.enter { scrollIntoView := true }]) s = (.ok registry, s.said more) ∧
        (∀ field value r hook t, registry.dispatch r (.action (.enter field value)) hook t =
          first.perform r (.enter field value) hook
            (t.said [⟨.debug, .perform, "dispatching Enter via EnterStrategy"⟩])) ∧
        (∀ fields r hook t, registry.dispatch r (.action (.submit fields)) hook t =
          (.error (.noStrategy "Submit" (some (registry.types.map ActionType.name))), t)) ∧
        (∀ r hook t, registry.dispatch r (.stray (.int 7)) hook t =
          (.error (.foreign ⟨.type, "Not an action: 7"⟩), t)) ∧
        ∀ r hook t, registry.dispatch r (.stray (.int (Nat.pow 10 Number.digitLimit))) hook t =
          (.error (.foreign ⟨.value, Number.overlongText⟩), t) := by
  intro s first
  have fit : ¬(entering = [] ∨ ∃ x ∈ entering, x.type = none) := by
    simp [entering, Strategy.enter, Strategy.click]
  obtain ⟨registry, ⟨said, -, built⟩, dispatches, same⟩ := (dispatches_build entering s).2 fit
  obtain ⟨more, -, again⟩ := same [.enter { scrollIntoView := true }]
    (List.forall_mem_singleton.mpr ⟨first, List.mem_cons_self, rfl⟩)
  have overlong : (Data.int (Nat.pow 10 Number.digitLimit)).hasOverlong = true := by
    rw [Data.hasOverlong, Number.isOverlong, Int.natAbs_natCast]
    exact decide_eq_true (Nat.le_refl _)
  exact ⟨(dispatches_build _ s).1.mpr (.inr ⟨.typeless "Untyped", by simp, rfl⟩),
    registry, said, more, built, again,
    fun field value => dispatches.performs (.enter field value) first rfl,
    fun fields => dispatches.refuses (.submit fields) rfl,
    dispatches.rejects (.int 7) (by decide +kernel), dispatches.rejects_unshown _ overlong⟩

end Registry

end Walkthrough
