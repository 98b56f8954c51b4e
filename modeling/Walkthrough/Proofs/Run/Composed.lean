import Walkthrough.Proofs.Run.Surfacing
import Walkthrough.Run.Scenario

/-! Steps put together from others. A kind of steps that is closed under putting steps together contains
all that is done with a browser for an action as soon as it contains the calls of the browser, messages and
the hook: finding and reading fields, and performing the action. What steps keep, and what they heed, are
such kinds. -/

namespace Walkthrough

/-- A kind of steps. -/
abbrev Act.Kind (σ : Type) := (α : Type) → Act σ α → Prop

/-- Steps that are put together from steps of the kind are of the kind. -/
structure Act.Kind.Closed {σ : Type} (C : Act.Kind σ) : Prop where
  pure : ∀ {α : Type} {a : α}, C α (Pure.pure a)
  fail : ∀ {α : Type} {fault : Fault}, C α (Act.fail fault)
  bind : ∀ {α β : Type} {act : Act σ α} {next : α → Act σ β}, C α act → (∀ a, C β (next a)) →
    C β (act >>= next)
  attempt : ∀ {α : Type} {act : Act σ α}, C α act → C _ act.attempt
  mapFault : ∀ {α : Type} {act : Act σ α} {f : Fault → Fault}, C α act → C α (act.mapFault f)

variable {π η : Type}

/-- The kind is closed, and messages and the calls of the browser are of the kind. -/
structure Browser.Within (b : Browser π η) (C : Act.Kind (Scene π)) : Prop extends C.Closed where
  say : ∀ level channel text, C Unit (Scene.say level channel text)
  call : ∀ {α : Type} {call : Act (Scene π) α}, b.Calls call → C α call

/-- A hook of the kind; there may be none. -/
def Hook.Within (hook : Hook π η) (C : Act.Kind (Scene π)) : Prop :=
  ∀ call ∈ hook, ∀ element, C Unit (call element)

variable {C : Act.Kind (Scene π)}

/-! ## Fields -/

namespace Resolver

variable {r : Resolver π η} (h : r.browser.Within C)

include h

theorem within_find (l : Locator) : C _ (r.find l) := h.mapFault (h.call (.locate l))

theorem within_tryLookup (field : String) (l : Lookup) : C _ (r.tryLookup field l) := by
  refine h.mapFault ?_
  cases l with
  | labelFor =>
    refine h.bind (h.call (.locate _)) fun label => ?_
    cases label with
    | none => exact h.pure
    | some label =>
      refine h.bind (h.call (.readAttribute _ _)) fun id => ?_
      split
      · exact h.pure
      · exact h.pure
      · exact h.call (.locate _)
  | _ => exact h.call (.locate _)

theorem within_firstOf (field : String) (ls : List Lookup) : C _ (r.firstOf field ls) := by
  induction ls with
  | nil => exact h.bind (h.say _ _ _) fun _ => h.fail
  | cons l ls ih =>
    refine h.bind (within_tryLookup h field l) fun found => ?_
    cases found with
    | some element => exact h.bind (h.say _ _ _) fun _ => h.pure
    | none => exact h.bind (h.say _ _ _) fun _ => ih

theorem within_resolve (field : Option String) : C _ (r.resolve field) := by
  unfold resolve
  split
  · exact h.fail
  · split
    · exact h.fail
    · exact within_firstOf h _ _

theorem within_valueOf (field : String) : C _ (r.valueOf field) :=
  h.bind (within_resolve h _) fun element => h.mapFault (h.call (.readValue element))

end Resolver

theorem Run.within_checkExpected {r : Resolver π η} (h : r.browser.Within C) (es : List Expected) :
    C _ (checkExpected r es) := by
  induction es with
  | nil => exact h.pure
  | cons e es ih =>
    refine h.bind (Resolver.within_valueOf h e.target) fun actual => ?_
    split
    · exact h.bind (h.say _ _ _) fun _ => ih
    · exact h.fail

/-! ## Actions -/

namespace Perform

/-- Preparing a field is of the kind if waiting and scrolling are. -/
theorem within_prepare (closed : C.Closed) (r : Resolver π η) (options : EnterOptions) (field : String)
    {element : η} (wait : ∀ ms, C _ (r.browser.wait element ms))
    (scroll : C _ (r.browser.scroll element)) : C _ (prepare r options field element) := by
  have scrolled : C _ (if options.scrollIntoView then
      interact ("scroll '" ++ field ++ "' into view") (r.browser.scroll element) else pure ()) := by
    split
    · exact closed.mapFault scroll
    · exact closed.pure
  unfold prepare
  dsimp only
  split
  · exact scrolled
  · exact scrolled
  · exact closed.bind (closed.mapFault (wait _)) fun _ => scrolled

variable {r : Resolver π η} {hook : Hook π η} (h : r.browser.Within C) (hh : hook.Within C)

include h

section

include hh

theorem within_callHook (called : Bool) (element : η) : C _ (callHook hook called element) := by
  unfold callHook
  split
  · exact hh _ rfl element
  · exact h.pure

end

theorem within_fill (field : String) (value : Option String) (element : η) :
    C _ (fill r field value element) :=
  h.bind (h.mapFault (h.call (.clear element))) fun _ => h.mapFault (h.call (.type element value))

theorem within_warn (p : Progress η) (text : String) : C _ (warn p text : Act (Scene π) _) :=
  h.bind (h.say _ _ _) fun _ => h.pure

theorem within_tolerate (p : Progress η) (describe : String → String) (fault : Fault) :
    C _ (tolerate p describe fault : Act (Scene π) _) := by
  unfold tolerate
  split
  · exact within_warn h p _
  · exact h.fail

include hh

theorem within_click (target : Option String) : C _ (click r hook target) := by
  have control : C _ (clickTarget r target) := by
    refine h.bind (Resolver.within_find h _) fun found => ?_
    cases found with
    | none => exact h.bind (h.say _ _ _) fun _ => Resolver.within_resolve h target
    | some element => exact h.pure
  refine h.bind control fun element => h.bind (within_callHook h hh false element) fun _ => ?_
  exact h.bind (h.mapFault (h.call (.click element))) fun _ => h.bind (h.say _ _ _) fun _ => h.pure

theorem within_enter (options : EnterOptions) (field value : Option String) :
    C _ (enter options r hook field value) := by
  unfold enter
  split
  · exact h.fail
  · exact h.fail
  · exact h.fail
  · refine h.bind (Resolver.within_resolve h _) fun element => ?_
    refine h.bind (within_prepare h.toClosed r options _ (fun ms => h.call (.wait element ms))
      (h.call (.scroll element))) fun _ => ?_
    refine h.bind (within_callHook h hh false element) fun _ => h.bind (within_fill h _ _ element) fun _ => ?_
    cases options.pressEnter with
    | true =>
      exact h.bind (h.mapFault (h.call (.press element "Enter"))) fun _ => h.bind (h.say _ _ _) fun _ => h.pure
    | false => exact h.bind (h.say _ _ _) fun _ => h.pure

theorem within_fillField (p : Progress η) (name : String) (value : Option String) :
    C _ (fillField r hook p name value) := by
  have skip (q : Progress η) (fault : Fault) : C _
      (if fault.isOwn then warn q ("Skipped field '" ++ name ++ "': " ++ fault.message)
        else Act.fail fault : Act (Scene π) _) := by
    split
    · exact within_warn h q _
    · exact h.fail
  refine h.bind (h.attempt (Resolver.within_resolve h _)) fun outcome => ?_
  cases outcome with
  | error fault => exact skip p fault
  | ok element =>
    refine h.bind (h.attempt (h.bind (within_callHook h hh p.hooked element) fun _ =>
      within_fill h name value element)) fun outcome => ?_
    cases outcome with
    | error fault => exact skip _ fault
    | ok _ => exact h.pure

theorem within_fillFields (p : Progress η) (fields : List (String × Option String)) :
    C _ (fillFields r hook p fields) := by
  induction fields generalizing p with
  | nil => exact h.pure
  | cons f fields ih => exact h.bind (within_fillField h hh p f.1 f.2) fun p => ih p

theorem within_clickSubmit (p : Progress η) : C _ (clickSubmit r hook p) := by
  refine h.bind (h.attempt (Resolver.within_find h _)) fun outcome => ?_
  split
  · exact within_tolerate h p _ _
  · exact within_warn h p _
  · refine h.bind (h.attempt (h.bind (within_callHook h hh p.hooked _) fun _ =>
      h.mapFault (h.call (.click _)))) fun outcome => ?_
    split
    · exact within_tolerate h p _ _
    · exact h.bind (h.say _ _ _) fun _ => h.pure

theorem within_sendForm (count : Nat) (p : Progress η) : C _ (sendForm r hook count p) := by
  unfold sendForm
  split
  · exact within_clickSubmit h hh p
  · refine h.bind (h.attempt (h.mapFault (h.call (.submit _)))) fun outcome => ?_
    split
    · exact h.bind (h.say _ _ _) fun _ => h.pure
    · exact h.bind (within_tolerate h p _ _) fun p => within_clickSubmit h hh p

theorem within_submit (fields : List (String × Option String)) :
    C _ (submit r hook fields) :=
  h.bind (within_fillFields h hh {} fields) fun p => h.bind (within_sendForm h hh _ p) fun _ => h.pure

end Perform

/-- A strategy that is put together from the calls of its browser, messages and its hook. -/
def Strategy.Composed (s : Strategy π η) : Prop :=
  ∀ {C : Act.Kind (Scene π)} {r : Resolver π η} {hook : Hook π η}, r.browser.Within C → hook.Within C →
    ∀ a, C _ (s.perform r a hook)

/-- The strategies of the program are, also if the action is none of their own. -/
theorem Strategy.IsStandard.composed {s : Strategy π η} (hs : s.IsStandard) : s.Composed := by
  intro C r hook h hh a
  obtain ⟨options, hs⟩ := hs
  simp only [Strategy.standard, List.mem_cons, List.not_mem_nil, or_false] at hs
  obtain rfl | rfl | rfl := hs
  · cases a with
    | click target => exact Perform.within_click h hh target
    | _ => exact h.fail
  · cases a with
    | enter field value => exact Perform.within_enter h hh options field value
    | _ => exact h.fail
  · cases a with
    | submit fields => exact Perform.within_submit h hh fields
    | _ => exact h.fail

/-- Strategies of the program are put together so, and those of a registry are if the others are. -/
theorem Registry.composed_of_outside {registry : Registry π η}
    (outside : ∀ e ∈ registry.strategies, ¬ e.2.IsStandard → e.2.Composed) :
    ∀ e ∈ registry.strategies, e.2.Composed := fun e he => by
  by_cases standard : e.2.IsStandard
  · exact standard.composed
  · exact outside e he standard

theorem Registry.within_dispatch {registry : Registry π η} {r : Resolver π η} (h : r.browser.Within C)
    {hook : Hook π η} (hr : ∀ e ∈ registry.strategies, ∀ a, C _ (e.2.perform r a hook))
    (request : Request) : C _ (registry.dispatch r request hook) := by
  unfold dispatch
  split
  · exact h.fail
  · split
    · exact h.fail
    · next strategy hs => exact h.bind (h.say _ _ _) fun _ => hr _ (Assoc.mem_of_get? hs) _

/-- Applying flags with a service of the program is of the kind if changes are that touch neither the page nor
the disk. -/
theorem FlagService.IsStandard.within {f : FlagService π} (h : f.IsStandard) (closed : C.Closed)
    (say : ∀ level channel text, C Unit (Scene.say level channel text))
    (change : ∀ g : Scene π → Scene π, (∀ s, (g s).page = s.page ∧ (g s).disk = s.disk) →
      C Unit (Act.modify g)) (features : List (String × Feature)) : C Unit (f features) := by
  rcases h with rfl | rfl | rfl
  · exact change _ fun _ => ⟨rfl, rfl⟩
  · have announced : C Unit (announce features) := by
      induction features with
      | nil => exact closed.pure
      | cons feature features ih => exact closed.bind (say _ _ _) fun _ => ih
    exact closed.bind announced fun _ => closed.bind (say _ _ _) fun _ => change _ fun _ => ⟨rfl, rfl⟩
  · unfold ignoring
    split
    · exact closed.pure
    · exact say _ _ _

/-- One page of a run is of the kind if arriving, the hook and the strategies are. -/
theorem Run.within_runPage {runner : Runner π η} {r : Resolver π η} (h : r.browser.Within C)
    {host : String} (arrive : C _ (r.browser.navigate host)) {index : Nat} {turn : Turn}
    (hr : ∀ e ∈ runner.registry.strategies, ∀ a,
      C _ (e.2.perform r a (pageHook runner r.browser turn.page index))) :
    C _ (runPage runner r host index turn) :=
  h.bind arrive fun _ => h.bind (within_checkExpected h _) fun _ =>
    runner.registry.within_dispatch h hr _

end Walkthrough
