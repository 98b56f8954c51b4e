import Walkthrough.Proofs.Run.Agreement
import Walkthrough.Run.Dispatch

/-! Actions do not notice their hooks. With hooks that only watch and never fail, whichever they are, the
strategies of clicking, entering and submitting agree on twin pages. -/

namespace Walkthrough

/-- A hook that only watches and never fails; there may be none. -/
def Hook.Quiet (hook : Hook MemoryPage String) : Prop :=
  ∀ call ∈ hook, ∀ element, Succeeds Any (call element)

/-- An action whose texts are proper. -/
def Action.Proper : Action → Prop
  | .click target => ∀ text ∈ target, Text.Proper text
  | .enter field value =>
    (∀ text ∈ field, Text.Proper text) ∧ ∀ text ∈ value, Text.Proper text
  | .submit fields => ∀ f ∈ fields, Text.Proper f.1 ∧ ∀ text ∈ f.2, Text.Proper text

/-- An outcome whose warnings are proper. -/
def Outcome.Proper (o : Outcome) : Prop := ∀ w ∈ o.warnings, Text.Proper w

namespace Perform

variable {n m : String} {lookups : List Lookup} {hook hook' : Hook MemoryPage String}

/-- A submission whose warnings so far are proper. -/
def Progress.Proper (p : Progress String) : Prop := ∀ w ∈ p.warnings, Text.Proper w

theorem proper_shown {text : Option String} (h : ∀ t ∈ text, Text.Proper t) :
    Text.Proper (shown text) := by
  cases text with
  | none => exact .literal rfl
  | some t => exact h t rfl

theorem succeeds_callHook (h : hook.Quiet) (called : Bool) (element : String) :
    Succeeds Any (callHook hook called element) := by
  unfold callHook
  split
  · exact h _ rfl element
  · exact .pure trivial

theorem agree_callHook (h : hook.Quiet) (h' : hook'.Quiet) (called : Bool) (element : String) :
    Agree (Same Any) (callHook hook called element) (callHook hook' called element) :=
  .of_succeeds (succeeds_callHook h called element) (succeeds_callHook h' called element)

theorem agree_interact {act act' : Act (Scene MemoryPage) Unit} {description : String}
    (h : Agree (Same Any) act act') (hd : Text.Proper description) :
    Agree (Same Any) (interact description act) (interact description act') :=
  h.wrap fun _ ht => .append (.append (.append (.literal rfl) hd) (.literal rfl)) ht

theorem agree_touch (element : String) {t : Touch}
    (ht : ∀ text, t = .type (some text) → Text.Proper text) :
    Agree (Same Any) (Scene.onPage (MemoryPage.touch element t))
      (Scene.onPage (MemoryPage.touch element t)) :=
  .onPage (MemoryPage.parallel_touch element ht)

/-- The end of an action without warnings. -/
theorem agree_finish {level : Level} {channel : Channel} {text : String} {type : ActionType} :
    Agree (Same Outcome.Proper)
      (do Scene.say level channel text; return ⟨type, []⟩)
      (do Scene.say level channel text; return ⟨type, []⟩) :=
  .bind .say fun _ _ _ => .pure (.rfl fun _ hw => absurd hw List.not_mem_nil)

theorem agree_click (n m : String) {target : Option String} (ht : ∀ text ∈ target, Text.Proper text)
    (h : hook.Quiet) (h' : hook'.Quiet) :
    Agree (Same Outcome.Proper) (click ⟨memoryBrowser n, lookups⟩ hook target)
      (click ⟨memoryBrowser m, lookups⟩ hook' target) := by
  have control : Agree (Same Any) (clickTarget ⟨memoryBrowser n, lookups⟩ target)
      (clickTarget ⟨memoryBrowser m, lookups⟩ target) := by
    refine (Resolver.agree_find n m lookups _).andThen fun found _ => ?_
    cases found with
    | none => exact .bind .say fun _ _ _ => Resolver.agree_resolve n m ht
    | some element => exact .pure (.rfl trivial)
  refine control.andThen fun element _ => .bind (agree_callHook h h' false element) fun _ _ _ => ?_
  refine .bind (agree_interact (agree_touch element nofun)
    (.around rfl (proper_shown ht) rfl)) fun _ _ _ => ?_
  exact agree_finish

/-! ## Entering a value -/

theorem agree_prepare (n m : String) (options : EnterOptions) {field : String}
    (hf : Text.Proper field) (element : String) :
    Agree (Same Any) (prepare ⟨memoryBrowser n, lookups⟩ options field element)
      (prepare ⟨memoryBrowser m, lookups⟩ options field element) := by
  have scrolled : Agree (Same Any)
      (if options.scrollIntoView then interact ("scroll '" ++ field ++ "' into view")
        ((memoryBrowser n).scroll element) else pure ())
      (if options.scrollIntoView then interact ("scroll '" ++ field ++ "' into view")
        ((memoryBrowser m).scroll element) else pure ()) := by
    cases options.scrollIntoView with
    | true =>
      exact agree_interact (agree_touch element nofun) (.around rfl hf rfl)
    | false => exact .pure (.rfl trivial)
  unfold prepare
  dsimp only
  split
  · exact scrolled
  · exact scrolled
  · exact .bind (agree_interact (agree_touch element nofun) (.around rfl hf rfl))
      fun _ _ _ => scrolled

theorem agree_fill (n m : String) {field : String} (hf : Text.Proper field) {value : Option String}
    (hv : ∀ text ∈ value, Text.Proper text) (element : String) :
    Agree (Same Any) (fill ⟨memoryBrowser n, lookups⟩ field value element)
      (fill ⟨memoryBrowser m, lookups⟩ field value element) := by
  have typed : ∀ text, Touch.type value = .type (some text) → Text.Proper text := fun text h => by
    cases h
    exact hv text rfl
  refine .bind (agree_interact (agree_touch element nofun) (.around rfl hf rfl))
    fun _ _ _ => ?_
  exact agree_interact (agree_touch element typed) (.around rfl hf rfl)

theorem agree_enter (options : EnterOptions) (n m : String) {field value : Option String}
    (hf : ∀ text ∈ field, Text.Proper text) (hv : ∀ text ∈ value, Text.Proper text)
    (h : hook.Quiet) (h' : hook'.Quiet) :
    Agree (Same Outcome.Proper) (enter options ⟨memoryBrowser n, lookups⟩ hook field value)
      (enter options ⟨memoryBrowser m, lookups⟩ hook' field value) := by
  unfold enter
  split
  · exact .fail (.literal rfl)
  · exact .fail (.literal rfl)
  · exact .fail (.around rfl (hf _ rfl) rfl)
  · rename_i field value _
    have hf' := hf field rfl
    refine (Resolver.agree_resolve n m hf).andThen fun element _ => ?_
    refine .bind (agree_prepare n m options hf' element) fun _ _ _ => ?_
    refine .bind (agree_callHook h h' false element) fun _ _ _ => ?_
    refine .bind (agree_fill n m hf' hv element) fun _ _ _ => ?_
    cases options.pressEnter with
    | true =>
      exact .bind (agree_interact (agree_touch element nofun)
        (.around rfl hf' rfl)) fun _ _ _ => agree_finish
    | false => exact agree_finish

/-! ## Submitting a form -/

section Submit

variable {p : Progress String} {text : String}

theorem agree_warn (hp : p.Proper) (ht : Text.Proper text) :
    Agree (Same Progress.Proper) (warn p text) (warn p text) :=
  .bind .say fun _ _ _ => .pure <| .rfl <|
    List.forall_mem_append.mpr ⟨hp, List.forall_mem_singleton.mpr ht⟩

theorem agree_fillField (n m : String) (h : hook.Quiet) (h' : hook'.Quiet) (hp : p.Proper)
    {name : String} (hn : Text.Proper name) {value : Option String}
    (hv : ∀ text ∈ value, Text.Proper text) :
    Agree (Same Progress.Proper) (fillField ⟨memoryBrowser n, lookups⟩ hook p name value)
      (fillField ⟨memoryBrowser m, lookups⟩ hook' p name value) := by
  have skip : ∀ {q : Progress String} {fault : Fault}, q.Proper → Speaks fault →
      Agree (Same Progress.Proper)
        (if fault.isOwn then warn q ("Skipped field '" ++ name ++ "': " ++ fault.message)
          else Act.fail fault)
        (if fault.isOwn then warn q ("Skipped field '" ++ name ++ "': " ++ fault.message)
          else Act.fail fault) := fun {q fault} hq hf => by
    cases fault.isOwn with
    | true => exact agree_warn hq (.append (.around rfl hn rfl) hf)
    | false => exact .fail hf
  have hn' : ∀ text ∈ some name, Text.Proper text := fun _ ht => Option.mem_some.mp ht ▸ hn
  refine (Resolver.agree_resolve n m hn').recover (fun _ hf => skip hp hf) fun element _ => ?_
  refine .recover (.bind (agree_callHook h h' p.hooked element) fun _ _ _ =>
    agree_fill n m hn hv element) (fun _ hf => ?_) fun _ _ => ?_
  · exact skip hp hf
  · exact .pure (.rfl hp)

theorem agree_fillFields (n m : String) (h : hook.Quiet) (h' : hook'.Quiet) (hp : p.Proper)
    {fields : List (String × Option String)}
    (hf : ∀ f ∈ fields, Text.Proper f.1 ∧ ∀ text ∈ f.2, Text.Proper text) :
    Agree (Same Progress.Proper) (fillFields ⟨memoryBrowser n, lookups⟩ hook p fields)
      (fillFields ⟨memoryBrowser m, lookups⟩ hook' p fields) := by
  induction fields generalizing p with
  | nil => exact .pure (.rfl hp)
  | cons f fields ih =>
    have ⟨hn, hv⟩ := hf f List.mem_cons_self
    exact (agree_fillField n m h h' hp hn hv).andThen fun q hq =>
      ih hq fun g hg => hf g (List.mem_cons_of_mem f hg)

theorem agree_tolerate (hp : p.Proper) {fault : Fault} (hf : Speaks fault)
    {describe : String → String} (hd : ∀ text, Text.Proper text → Text.Proper (describe text)) :
    Agree (Same Progress.Proper) (tolerate p describe fault) (tolerate p describe fault) := by
  unfold tolerate
  cases fault.isInteraction with
  | true => exact agree_warn hp (hd _ hf)
  | false => exact .fail hf

theorem agree_clickSubmit (n m : String) (h : hook.Quiet) (h' : hook'.Quiet) (hp : p.Proper) :
    Agree (Same Progress.Proper) (clickSubmit ⟨memoryBrowser n, lookups⟩ hook p)
      (clickSubmit ⟨memoryBrowser m, lookups⟩ hook' p) := by
  refine (Resolver.agree_find n m lookups _).recover
    (fun _ hf => agree_tolerate hp hf fun _ ht => .append (.literal rfl) ht) fun control _ => ?_
  cases control with
  | none => exact agree_warn hp (.literal rfl)
  | some control =>
    refine .recover (.bind (agree_callHook h h' p.hooked control) fun _ _ _ =>
      agree_interact (agree_touch control nofun) (.literal rfl)) (fun _ hf => ?_) fun _ _ => ?_
    · exact agree_tolerate hp hf fun _ ht => .append (.literal rfl) ht
    · exact .bind .say fun _ _ _ => .pure (.rfl hp)

theorem agree_sendForm (n m : String) (h : hook.Quiet) (h' : hook'.Quiet) (count : Nat)
    (hp : p.Proper) :
    Agree (Same Progress.Proper) (sendForm ⟨memoryBrowser n, lookups⟩ hook count p)
      (sendForm ⟨memoryBrowser m, lookups⟩ hook' count p) := by
  unfold sendForm
  cases p.last with
  | none => exact agree_clickSubmit n m h h' hp
  | some element =>
    have sending : Agree (Same Any) (interact "submit form" ((memoryBrowser n).submit element))
        (interact "submit form" ((memoryBrowser m).submit element)) :=
      agree_interact (agree_touch element nofun) (.literal rfl)
    refine sending.recover (fun _ hs => ?_) fun _ _ => ?_
    · exact (agree_tolerate hp hs fun _ ht => .append (.literal rfl) ht).andThen fun q hq =>
        agree_clickSubmit n m h h' hq
    · exact .bind .say fun _ _ _ => .pure (.rfl hp)

theorem agree_submit (n m : String) (h : hook.Quiet) (h' : hook'.Quiet)
    {fields : List (String × Option String)}
    (hf : ∀ f ∈ fields, Text.Proper f.1 ∧ ∀ text ∈ f.2, Text.Proper text) :
    Agree (Same Outcome.Proper) (submit ⟨memoryBrowser n, lookups⟩ hook fields)
      (submit ⟨memoryBrowser m, lookups⟩ hook' fields) := by
  have begun : Progress.Proper {} := fun _ hw => absurd hw List.not_mem_nil
  refine (agree_fillFields n m h h' begun hf).andThen fun p hp => ?_
  exact (agree_sendForm n m h h' fields.length hp).andThen fun q hq => .pure (.rfl hq)

end Submit

end Perform

/-! ## Strategies -/

/-- A strategy that does not notice its hook: on proper actions it agrees with itself, whichever hooks
watch. -/
def Strategy.Blind (s : Strategy MemoryPage String) : Prop :=
  ∀ (n m : String) (lookups : List Lookup) (action : Action) (hook hook' : Hook MemoryPage String),
    action.Proper → hook.Quiet → hook'.Quiet →
      Agree (Same Outcome.Proper) (s.perform ⟨memoryBrowser n, lookups⟩ action hook)
        (s.perform ⟨memoryBrowser m, lookups⟩ action hook')

namespace Strategy

theorem blind_click : Blind click := by
  intro n m lookups action hook hook' ha h h'
  cases action with
  | click target => exact Perform.agree_click n m ha h h'
  | enter field value => exact .fail (.literal rfl)
  | submit fields => exact .fail (.literal rfl)

theorem blind_enter (options : EnterOptions) : Blind (enter options) := by
  intro n m lookups action hook hook' ha h h'
  cases action with
  | click target => exact .fail (.literal rfl)
  | enter field value => exact Perform.agree_enter options n m ha.1 ha.2 h h'
  | submit fields => exact .fail (.literal rfl)

theorem blind_submit : Blind submit := by
  intro n m lookups action hook hook' ha h h'
  cases action with
  | click target => exact .fail (.literal rfl)
  | enter field value => exact .fail (.literal rfl)
  | submit fields => exact Perform.agree_submit n m h h' ha

end Strategy

theorem ActionType.proper_name (t : ActionType) : Text.Proper t.name := by
  cases t <;> exact .literal rfl

theorem speaks_noStrategy (t : ActionType) (available : List String) :
    Speaks (.noStrategy t.name (some available)) :=
  .append (.append (.literal rfl) t.proper_name) (.append (.literal rfl) (.quotedList _))

theorem Registry.agree_dispatch {registry : Registry MemoryPage String}
    (hr : ∀ e ∈ registry.strategies, e.2.Blind) (n m : String) {lookups : List Lookup}
    {action : Action} (ha : action.Proper) {hook hook' : Hook MemoryPage String} (h : hook.Quiet)
    (h' : hook'.Quiet) :
    Agree (Same Outcome.Proper) (registry.dispatch ⟨memoryBrowser n, lookups⟩ (.action action) hook)
      (registry.dispatch ⟨memoryBrowser m, lookups⟩ (.action action) hook') := by
  unfold dispatch
  dsimp only [Request.action?]
  cases hs : Assoc.get? action.type registry.strategies with
  | none => exact .fail (speaks_noStrategy _ _)
  | some strategy =>
    have blind := hr _ (Assoc.mem_of_get? hs)
    exact .bind .say fun _ _ _ => blind n m lookups action hook hook' ha h h'

end Walkthrough
