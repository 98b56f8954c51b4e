import Walkthrough.Proofs.Assoc
import Walkthrough.Proofs.Run.Unobserved

/-! Registries of the strategies of the program. Such a registry passes an action to the strategy of its
own type, so that a dispatch either fails for want of a strategy or performs the action
(`Registry.IsStandard.dispatch_cases`). -/

namespace Walkthrough

variable {π η : Type}

/-- Performs an action with the options of its strategy. -/
def Perform.perform (options : EnterOptions) (r : Resolver π η) (hook : Hook π η) :
    Action → Act (Scene π) Outcome
  | .click target => click r hook target
  | .enter field value => enter options r hook field value
  | .submit fields => submit r hook fields

theorem Strategy.IsStandard.perform_eq {s : Strategy π η} (h : s.IsStandard) {a : Action}
    (type : s.type = some a.type) (r : Resolver π η) (hook : Hook π η) :
    ∃ options, s.perform r a hook = Perform.perform options r hook a := by
  obtain ⟨options, h⟩ := h
  simp only [Strategy.standard, List.mem_cons, List.not_mem_nil, or_false] at h
  refine ⟨options, ?_⟩
  obtain rfl | rfl | rfl := h
  · cases a with
    | click => rfl
    | enter | submit => cases type
  · cases a with
    | enter => rfl
    | click | submit => cases type
  · cases a with
    | submit => rfl
    | click | enter => cases type

namespace Registry

/-- What a registry is built from and how each strategy stands in it. -/
theorem mem_of_addAll {strategies : List (Strategy π η)} {kept all : List (ActionType × Strategy π η)}
    {s t : Scene π} (h : addAll kept strategies s = (.ok all, t)) {e : ActionType × Strategy π η}
    (he : e ∈ all) : e ∈ kept ∨ e.2 ∈ strategies ∧ e.2.type = some e.1 := by
  induction strategies generalizing kept s with
  | nil =>
    cases h
    exact .inl he
  | cons strategy strategies ih =>
    unfold addAll at h
    cases declared : strategy.type with
    | none =>
      simp only [declared] at h
      cases h
    | some type =>
      simp only [declared] at h
      split at h
      · obtain ⟨_, _, -, h⟩ := Act.exists_of_bind_eq_ok h
        exact (ih h).imp_right fun ⟨mem, ht⟩ => ⟨List.mem_cons_of_mem _ mem, ht⟩
      · rcases ih h with hk | ⟨mem, ht⟩
        · rcases List.mem_append.mp hk with hk | hk
          · exact .inl hk
          · obtain rfl := List.mem_singleton.mp hk
            exact .inr ⟨List.mem_cons_self, declared⟩
        · exact .inr ⟨List.mem_cons_of_mem _ mem, ht⟩

theorem mem_of_build {strategies : List (Strategy π η)} {registry : Registry π η} {s t : Scene π}
    (h : build strategies s = (.ok registry, t)) {e : ActionType × Strategy π η}
    (he : e ∈ registry.strategies) : e.2 ∈ strategies ∧ e.2.type = some e.1 := by
  obtain ⟨all, s₁, hall, h⟩ := Act.exists_of_bind_eq_ok h
  split at h
  · cases h
  · cases h
    exact (mem_of_addAll hall he).resolve_left List.not_mem_nil

/-- A value that is no action is refused, whether it can be shown or not, and nothing is done about it. -/
theorem dispatch_stray (registry : Registry π η) (r : Resolver π η) (value : Data) (hook : Hook π η) :
    ∃ failure, registry.dispatch r (.stray value) hook = Act.fail (.foreign failure) := by
  obtain ⟨failure, refused⟩ : ∃ failure, (Request.stray value).action? = .error failure := by
    simp only [Request.action?]
    split
    · exact ⟨_, rfl⟩
    · exact ⟨_, rfl⟩
  exact ⟨failure, by rw [dispatch, refused]⟩

/-- A registry that is built from strategies of the program, whichever and in whatever order. -/
def IsStandard (registry : Registry π η) : Prop :=
  ∃ strategies s t, (∀ x ∈ strategies, Strategy.IsStandard x) ∧
    build strategies s = (.ok registry, t)

/-- A dispatch fails for want of a strategy, or it says which strategy there is and performs the
action. -/
theorem IsStandard.dispatch_cases {registry : Registry π η} (h : registry.IsStandard)
    (r : Resolver π η) (a : Action) (hook : Hook π η) :
    registry.dispatch r (.action a) hook =
        Act.fail (.noStrategy a.type.name (some (registry.types.map ActionType.name))) ∨
      ∃ options text, registry.dispatch r (.action a) hook =
        Scene.say .debug .perform text >>= fun _ => Perform.perform options r hook a := by
  obtain ⟨strategies, s, t, standard, built⟩ := h
  cases hg : Assoc.get? a.type registry.strategies with
  | none =>
    refine .inl ?_
    rw [dispatch, Request.action?]
    simp only [hg]
  | some strategy =>
    obtain ⟨mem, type⟩ := mem_of_build built (Assoc.mem_of_get? hg)
    obtain ⟨options, eq⟩ : ∃ options, strategy.perform r a hook = Perform.perform options r hook a :=
      (standard _ mem).perform_eq type r hook
    refine .inr ⟨options, "dispatching " ++ a.type.name ++ " via " ++ strategy.name, ?_⟩
    rw [dispatch, Request.action?]
    simp only [hg, eq]

end Registry

end Walkthrough
