import Walkthrough.Proofs.Run.FirstTouch
import Walkthrough.Proofs.Run.Heeding

/-! Entering a value into a field in memory is carrying out a plan: the field is waited for and scrolled to,
the hook is called, and the field is cleared, typed into and left by a key. The options say which of these
`Deed`s are planned (`enterPlan`). A deed that fails ends the plan (`Carries`), so what is done is the plan up
to its first failing call, and how the strategy ends, what it notes and what the field shows afterwards can be
read off the plan (`Strategy.enter_plan`). -/

namespace Walkthrough

open MemoryPage

/-! ## Elements, hooks and entries -/

/-- The same calls of both elements fail, and both take notice of the same touches. -/
structure PageElement.SameCalls (el el' : PageElement) : Prop where
  failures : el'.failures = el.failures
  plain : el'.plain = el.plain

namespace PageElement

variable {el el' el'' : PageElement} {t : Touch}

theorem SameCalls.trans (h : el.SameCalls el') (h' : el'.SameCalls el'') : el.SameCalls el'' :=
  ⟨h'.failures.trans h.failures, h'.plain.trans h.plain⟩

theorem SameCalls.ignores_eq (h : el.SameCalls el') (t : Touch) : el'.ignores t = el.ignores t := by
  cases t with
  | scroll | wait => exact h.plain
  | _ => rfl

theorem sameCalls_of_touched (h : el.touched t = .ok el') : el.SameCalls el' := by
  refine ⟨(Touch.leaves_of_touched h).failures, ?_⟩
  cases t with
  | type text =>
    cases text with
    | none => cases h
    | some text =>
      cases h
      rfl
  | _ =>
    cases h
    rfl

end PageElement

namespace JournalEntry

/-- Entries of touches and of hooks. -/
def isOnElement : JournalEntry → Bool
  | touch .. | hook _ => true
  | navigate _ | screenshot _ => false

theorem filter_isOnElement_of_isAside {entries : List JournalEntry} (h : ∀ x ∈ entries, x.IsAside) :
    entries.filter isOnElement = [] := by
  refine List.filter_eq_nil_iff.mpr fun x hx => ?_
  have aside := h x hx
  cases x with
  | touch | hook => cases aside
  | _ => exact Bool.false_ne_true

end JournalEntry

/-- A hook that never fails, leaves the elements of the page as they are and notes nothing in the journal but
asides. It may do anything else. -/
def Onlooks (call : String → Act (Scene MemoryPage) Unit) : Prop :=
  ∀ e s, ∃ t, call e s = (.ok (), t) ∧ t.page.elements = s.page.elements ∧ s.Noted JournalEntry.IsAside t

/-- The hook of a page in memory, which takes a picture of it, is one. -/
theorem onlooks_pageHook {runner : Runner MemoryPage String} {n page : String} {index : Nat}
    {call : String → Act (Scene MemoryPage) Unit}
    (hc : call ∈ Run.pageHook runner (memoryBrowser n) page index) : Onlooks call := by
  intro e s
  obtain ⟨_, called⟩ := Run.unfailing_pageHook hc e s
  obtain ⟨⟨paths, pictured⟩, -, -⟩ :=
    Run.keeps_pageHook (recording_pictured n) (Runner.pictures_anywhere _) page index call hc e s
  refine ⟨(call e s).2, Prod.ext called rfl, ?_, paths.map .screenshot, ?_, ?_⟩
  · rw [pictured]
    rfl
  · exact List.forall_mem_map.mpr fun _ _ => trivial
  · rw [pictured]
    rfl

namespace Perform

/-! ## Deeds -/

/-- One step of an action on its element: a call of the hook, or a touch with the words that messages have
for it. -/
inductive Deed
  | hook
  | touch (words : String) (t : Touch)
  deriving DecidableEq, Repr

namespace Deed

variable (el : PageElement)

/-- The entry of the deed in the journal. -/
def entry (e : String) : Deed → JournalEntry
  | hook => .hook e
  | touch _ t => .touch e t

/-- The fault that the call of the deed is made to raise, if it is. -/
def fault? : Deed → Option Fault
  | hook => none
  | touch _ t => Assoc.get? t.call el.failures

/-- The element takes notice of the deed. -/
def isHeeded : Deed → Bool
  | hook => true
  | touch _ t => !el.ignores t

/-- The deeds of a plan that the element takes notice of. -/
def heeded (plan : List Deed) : List Deed := plan.filter (isHeeded el)

/-- What a field shows after the deed. -/
def shown (value : Option String) : Deed → Option String
  | touch _ .clear => some ""
  | touch _ (.type (some text)) => some (value.getD "" ++ text)
  | _ => value

/-- The deed comes before a field is changed. -/
def Prepares : Deed → Prop
  | hook => True
  | touch _ t => t.Prepares

/-- No element refuses the deed of itself. -/
def Lands : Deed → Prop
  | hook => True
  | touch _ t => ∀ el : PageElement, ∃ el', el.touched t = .ok el'

/-- The deeds of a plan that come before the first one that fails. -/
def done (plan : List Deed) : List Deed := plan.takeWhile fun x => (x.fault? el).isNone

/-- A plan cut after its first deed that fails. -/
def cut : List Deed → List Deed
  | [] => []
  | x :: plan => if (x.fault? el).isNone then x :: cut plan else [x]

variable {el} {x : Deed} {plan : List Deed}

theorem heeded_cons_of_heeds (h : x.isHeeded el = true) : heeded el (x :: plan) = x :: heeded el plan :=
  List.filter_cons_of_pos h

theorem heeded_cons_of_ignores (h : x.isHeeded el = false) : heeded el (x :: plan) = heeded el plan :=
  List.filter_cons_of_neg (Bool.eq_false_iff.mp h)

theorem done_cons_of_none (h : x.fault? el = none) : done el (x :: plan) = x :: done el plan :=
  List.takeWhile_cons_of_pos (Option.isNone_iff_eq_none.mpr h)

theorem done_cons_of_some {cause : Fault} (h : x.fault? el = some cause) : done el (x :: plan) = [] := by
  rw [done, List.takeWhile_cons, h]
  rfl

theorem cut_cons_of_none (h : x.fault? el = none) : cut el (x :: plan) = x :: cut el plan :=
  if_pos (Option.isNone_iff_eq_none.mpr h)

theorem cut_cons_of_some {cause : Fault} (h : x.fault? el = some cause) : cut el (x :: plan) = [x] := by
  rw [cut, h]
  rfl

theorem mem_of_mem_cut (h : x ∈ cut el plan) : x ∈ plan := by
  induction plan with
  | nil => cases h
  | cons y plan ih =>
    rw [cut] at h
    split at h
    · rcases List.mem_cons.mp h with rfl | h
      · exact List.mem_cons_self
      · exact List.mem_cons_of_mem _ (ih h)
    · rw [List.mem_singleton.mp h]
      exact List.mem_cons_self

/-! ## Carrying out a plan -/

/-- What a deed that succeeds comes to on the element `e`. -/
structure Effect (e : String) (x : Deed) (s t : Scene MemoryPage) : Prop where
  journal : ∃ asides, (∀ y ∈ asides, y.IsAside) ∧ t.page.journal = s.page.journal ++ x.entry e :: asides
  calls : (s.page.element e).SameCalls (t.page.element e)
  value : (t.page.element e).attribute? "value" = shown ((s.page.element e).attribute? "value") x
  others : ∀ name key, name ≠ e ∨ key ≠ "value" →
    (t.page.element name).attribute? key = (s.page.element name).attribute? key

/-- From one scene a plan on the element `e`, whose calls fail as those of `el` do, leads to the other and
ends in this way. -/
inductive Carries (el : PageElement) (e : String) :
    List Deed → Scene MemoryPage → Except Fault Unit → Scene MemoryPage → Prop
  | nil {s : Scene MemoryPage} : Carries el e [] s (.ok ()) s
  | ignored {x plan s ended t} (unheeded : x.isHeeded el = false) (rest : Carries el e plan s ended t) :
    Carries el e (x :: plan) s ended t
  | failed {words touch plan s t cause} (heeded : (Deed.touch words touch).isHeeded el = true)
    (fails : (Deed.touch words touch).fault? el = some cause) (page : t.page = s.page.note (.touch e touch)) :
    Carries el e (.touch words touch :: plan) s
      (.error (cause.wrap fun text => "Failed to " ++ words ++ ": " ++ text)) t
  | succeeded {x plan s s₁ ended t} (heeded : x.isHeeded el = true) (succeeds : x.fault? el = none)
    (effect : x.Effect e s s₁) (rest : Carries el e plan s₁ ended t) : Carries el e (x :: plan) s ended t

namespace Carries

variable {e : String} {s t : Scene MemoryPage} {ended : Except Fault Unit}

theorem journal (h : Carries el e plan s ended t) : ∃ entries, t.page.journal = s.page.journal ++ entries ∧
    entries.filter (·.isOnElement) = (cut el (heeded el plan)).map (·.entry e) := by
  induction h with
  | nil => exact ⟨[], (List.append_nil _).symm, rfl⟩
  | ignored unheeded _ ih => rwa [heeded_cons_of_ignores unheeded]
  | @failed words touch plan s t cause noticed fails page =>
    refine ⟨[.touch e touch], by rw [page]; rfl, ?_⟩
    rw [heeded_cons_of_heeds noticed, cut_cons_of_some fails]
    rfl
  | @succeeded x plan s s₁ ended t noticed succeeds effect _ ih =>
    obtain ⟨asides, hasides, journal⟩ := effect.journal
    obtain ⟨entries, journal', onElement⟩ := ih
    refine ⟨x.entry e :: asides ++ entries, by rw [journal', journal, List.append_assoc], ?_⟩
    have own : (x.entry e).isOnElement = true := by cases x <;> rfl
    rw [List.filter_append, List.filter_cons_of_pos own, JournalEntry.filter_isOnElement_of_isAside hasides,
      onElement, heeded_cons_of_heeds noticed, cut_cons_of_none succeeds]
    rfl

/-- A plan is carried out to its end if none of its calls fails. Otherwise it ends with the fault of the
first one that does, as failed interactions report it. -/
theorem ends (h : Carries el e plan s ended t) :
    (ended = .ok () ∧ ∀ x ∈ heeded el plan, x.fault? el = none) ∨
      ∃ words touch cause, (cut el (heeded el plan)).getLast? = some (.touch words touch) ∧
        (Deed.touch words touch).fault? el = some cause ∧
        ended = .error (cause.wrap fun text => "Failed to " ++ words ++ ": " ++ text) := by
  induction h with
  | nil => exact .inl ⟨rfl, nofun⟩
  | ignored unheeded _ ih => rwa [heeded_cons_of_ignores unheeded]
  | failed noticed fails _ =>
    rw [heeded_cons_of_heeds noticed, cut_cons_of_some fails]
    exact .inr ⟨_, _, _, rfl, fails, rfl⟩
  | succeeded noticed succeeds _ _ ih =>
    rw [heeded_cons_of_heeds noticed, cut_cons_of_none succeeds]
    rcases ih with ⟨ok, none⟩ | ⟨words, touch, cause, last, fails, ended⟩
    · exact .inl ⟨ok, List.forall_mem_cons.mpr ⟨succeeds, none⟩⟩
    · refine .inr ⟨words, touch, cause, ?_, fails, ended⟩
      rw [List.getLast?_cons, last]
      rfl

/-- What the field shows is left by the deeds that were done. -/
theorem value (h : Carries el e plan s ended t) : (t.page.element e).attribute? "value" =
    (done el (heeded el plan)).foldl shown ((s.page.element e).attribute? "value") := by
  induction h with
  | nil => rfl
  | ignored unheeded _ ih => rwa [heeded_cons_of_ignores unheeded]
  | failed noticed fails page =>
    rw [heeded_cons_of_heeds noticed, done_cons_of_some fails, page]
    rfl
  | succeeded noticed succeeds effect _ ih =>
    rw [heeded_cons_of_heeds noticed, done_cons_of_none succeeds, ih, effect.value]
    rfl

theorem others (h : Carries el e plan s ended t) {name key : String} (hk : name ≠ e ∨ key ≠ "value") :
    (t.page.element name).attribute? key = (s.page.element name).attribute? key := by
  induction h with
  | nil => rfl
  | ignored _ _ ih => exact ih
  | failed _ _ page =>
    rw [page]
    rfl
  | succeeded _ _ effect _ ih => exact ih.trans (effect.others name key hk)

end Carries

/-! ## One deed after the other -/

/-- Does the deed to an element of a page in memory. -/
def act (call : String → Act (Scene MemoryPage) Unit) (e : String) : Deed → Act (Scene MemoryPage) Unit
  | .hook => noting call e
  | .touch words t => interact words (Scene.onPage (MemoryPage.touch e t))

/-- Does all deeds of a plan in order. -/
def actAll (call : String → Act (Scene MemoryPage) Unit) (e : String) :
    List Deed → Act (Scene MemoryPage) Unit
  | [] => pure ()
  | x :: plan => do
    x.act call e
    actAll call e plan

theorem actAll_append (call : String → Act (Scene MemoryPage) Unit) (e : String) (xs ys : List Deed) :
    actAll call e (xs ++ ys) = actAll call e xs >>= fun _ => actAll call e ys := by
  induction xs with
  | nil => rfl
  | cons x xs ih => rw [List.cons_append, actAll, actAll, ih, Act.bind_assoc]

section Step

variable {call : String → Act (Scene MemoryPage) Unit} {e words : String} {s : Scene MemoryPage} {t : Touch}

theorem effect_hook (h : Onlooks call) (e : String) (s : Scene MemoryPage) :
    ∃ s₁, act call e hook s = (.ok (), s₁) ∧ hook.Effect e s s₁ := by
  obtain ⟨s₁, called, elements, asides, hasides, journal⟩ := h e { s with page := s.page.note (.hook e) }
  have same (name : String) : s₁.page.element name = s.page.element name := by
    rw [element, elements]
    rfl
  refine ⟨s₁, called, ⟨asides, hasides, ?_⟩, ?_, ?_, fun name key _ => ?_⟩
  · rw [journal, note, List.append_assoc]
    rfl
  · rw [same]
    exact ⟨rfl, rfl⟩
  · rw [same]
    rfl
  · rw [same]

theorem shown_of_touched (words : String) {el el' : PageElement} (h : el.touched t = .ok el') :
    el'.attribute? "value" = shown (el.attribute? "value") (touch words t) := by
  cases t with
  | clear =>
    cases h
    exact el.attribute?_withValue_self _
  | type text =>
    cases text with
    | none => cases h
    | some text =>
      cases h
      exact el.attribute?_withValue_self _
  | _ =>
    cases h
    rfl

theorem effect_touch (words : String) (s : Scene MemoryPage) {el' : PageElement}
    (h : (s.page.element e).touched t = .ok el') :
    (touch words t).Effect e s { s with page := (s.page.note (.touch e t)).withElement e el' } := by
  have left := Touch.leaves_of_touched h
  refine ⟨⟨[], nofun, rfl⟩, ?_, ?_, fun name key other => ?_⟩
  · rw [element_withElement_self]
    exact PageElement.sameCalls_of_touched h
  · rw [element_withElement_self]
    exact shown_of_touched words h
  · by_cases hn : name = e
    · subst hn
      rw [element_withElement_self]
      exact left.attributes key (other.resolve_left fun hn => hn rfl)
    · rw [element_withElement_of_ne _ hn]
      rfl

theorem interact_touch_of_ignores (h : (s.page.element e).ignores t = true) :
    act call e (touch words t) s = (.ok (), s) := by
  show ((MemoryPage.touch e t s.page).1.mapError _, { s with page := (MemoryPage.touch e t s.page).2 }) = _
  rw [touch_of_ignores s.page h]
  rfl

theorem interact_touch_of_some {fault : Fault} (heeds : (s.page.element e).ignores t = false)
    (h : Assoc.get? t.call (s.page.element e).failures = some fault) :
    act call e (touch words t) s =
      (.error (fault.wrap fun text => "Failed to " ++ words ++ ": " ++ text),
        { s with page := s.page.note (.touch e t) }) := by
  show ((MemoryPage.touch e t s.page).1.mapError _, { s with page := (MemoryPage.touch e t s.page).2 }) = _
  rw [touch_of_not_ignores s.page heeds, h]
  rfl

theorem interact_touch_of_none {el' : PageElement} (heeds : (s.page.element e).ignores t = false)
    (h : Assoc.get? t.call (s.page.element e).failures = none)
    (landed : (s.page.element e).touched t = .ok el') :
    act call e (touch words t) s =
      (.ok (), { s with page := (s.page.note (.touch e t)).withElement e el' }) := by
  show ((MemoryPage.touch e t s.page).1.mapError _, { s with page := (MemoryPage.touch e t s.page).2 }) = _
  rw [touch_of_not_ignores s.page heeds, h]
  dsimp only
  rw [landed]
  rfl

end Step

/-- One deed goes wrong, and the plan ends, or the rest of the plan is carried out. The calls of the element
fail the same all the time, so this is repeated. -/
theorem carries_actAll {call : String → Act (Scene MemoryPage) Unit} (hook : Onlooks call) (e : String)
    (lands : ∀ x ∈ plan, x.Lands) {s : Scene MemoryPage} (same : el.SameCalls (s.page.element e)) :
    Carries el e plan s (actAll call e plan s).1 (actAll call e plan s).2 := by
  induction plan generalizing s with
  | nil => exact .nil
  | cons x plan ih =>
    obtain ⟨landing, landings⟩ := List.forall_mem_cons.mp lands
    have goesOn {s₁ : Scene MemoryPage} (acted : x.act call e s = (.ok (), s₁)) :
        actAll call e (x :: plan) s = actAll call e plan s₁ := Act.bind_of_ok acted
    cases x with
    | hook =>
      obtain ⟨s₁, acted, effect⟩ := effect_hook hook e s
      rw [goesOn acted]
      exact .succeeded rfl rfl effect (ih landings (same.trans effect.calls))
    | touch words t =>
      cases heeds : el.ignores t with
      | true =>
        rw [goesOn (interact_touch_of_ignores ((same.ignores_eq t).trans heeds))]
        exact .ignored (congrArg (!·) heeds) (ih landings same)
      | false =>
        have heeds' := (same.ignores_eq t).trans heeds
        have fault_eq : Assoc.get? t.call (s.page.element e).failures = (touch words t).fault? el :=
          congrArg (Assoc.get? t.call) same.failures
        cases fails : (touch words t).fault? el with
        | some cause =>
          have acted : act call e (touch words t) s = _ := interact_touch_of_some heeds' (fault_eq.trans fails)
          rw [show actAll call e (touch words t :: plan) s = _ from Act.bind_of_error acted]
          exact .failed (congrArg (!·) heeds) fails rfl
        | none =>
          obtain ⟨el', landed⟩ := landing (s.page.element e)
          have effect := effect_touch words s landed
          rw [goesOn (interact_touch_of_none heeds' (fault_eq.trans fails) landed)]
          exact .succeeded (congrArg (!·) heeds) fails effect (ih landings (same.trans effect.calls))

end Deed

/-! ## Entering -/

/-- How an action waits for a field and scrolls to it. -/
def preparePlan (options : EnterOptions) (field : String) : List Deed :=
  (options.waitMilliseconds.toList.filter (· ≠ 0)).map
    (fun ms => .touch ("wait for '" ++ field ++ "'") (.wait ms)) ++
  if options.scrollIntoView then [.touch ("scroll '" ++ field ++ "' into view") .scroll] else []

/-- How an action replaces what a field shows. -/
def fillPlan (field value : String) : List Deed :=
  [.touch ("clear '" ++ field ++ "'") .clear, .touch ("type into '" ++ field ++ "'") (.type (some value))]

/-- What entering a value into a field does to its element, in order. -/
def enterPlan (options : EnterOptions) (hooked : Bool) (field value : String) : List Deed :=
  preparePlan options field ++ (if hooked then [.hook] else []) ++ fillPlan field value ++
    if options.pressEnter then [.touch ("press Enter in '" ++ field ++ "'") (.press "Enter")] else []

section Plans

variable (n : String) (lookups : List Lookup) (call : String → Act (Scene MemoryPage) Unit)
  (options : EnterOptions) (field value e : String)

theorem actAll_singleton (x : Deed) : Deed.actAll call e [x] = x.act call e := by
  funext s
  rw [Deed.actAll, Act.bind_apply]
  cases x.act call e s with | mk outcome s₁
  cases outcome <;> rfl

theorem actAll_preparePlan :
    Deed.actAll call e (preparePlan options field) = prepare (.onMemory n lookups) options field e := by
  have scrolls : (if options.scrollIntoView then
      interact ("scroll '" ++ field ++ "' into view") ((memoryBrowser n).scroll e) else pure ()) =
      Deed.actAll call e
        (if options.scrollIntoView then [.touch ("scroll '" ++ field ++ "' into view") .scroll] else []) := by
    rw [apply_ite (Deed.actAll call e), actAll_singleton]
    rfl
  show _ = prepare ⟨memoryBrowser n, lookups⟩ options field e
  rw [preparePlan, Deed.actAll_append, prepare]
  dsimp only
  rw [scrolls]
  generalize Deed.actAll call e (if options.scrollIntoView then _ else _) = scrolling
  rcases options.waitMilliseconds with _ | ms
  · rfl
  · by_cases hz : ms = 0
    · subst hz
      rfl
    · have kept : [ms].filter (· ≠ 0) = [ms] := by simp [hz]
      rw [Option.toList_some, kept, List.map_singleton, actAll_singleton]
      split
      · contradiction
      · next eq => exact absurd (Option.some.inj eq) hz
      · next eq =>
        cases eq
        rfl

theorem actAll_fillPlan :
    Deed.actAll call e (fillPlan field value) = fill (.onMemory n lookups) field (some value) e := by
  rw [fillPlan, Deed.actAll, actAll_singleton]
  rfl

theorem actAll_hook (hook? : Option (String → Act (Scene MemoryPage) Unit)) :
    Deed.actAll (hook?.getD fun _ => pure ()) e (if hook?.isSome then [.hook] else []) =
      callHook (hook?.map noting) false e := by
  cases hook? with
  | none => rfl
  | some call => exact actAll_singleton call e .hook

/-- Entering is resolving the field and carrying out the plan. -/
theorem enter_eq (hook? : Option (String → Act (Scene MemoryPage) Unit)) (h : field ≠ "") :
    enter options (.onMemory n lookups) (hook?.map noting) (some field) (some value) = do
      let e ← (Resolver.onMemory n lookups).resolve (some field)
      Deed.actAll (hook?.getD fun _ => pure ()) e (enterPlan options hook?.isSome field value)
      Scene.say .info .perform
        ("entered " ++ toString (Text.length value) ++ " characters into '" ++ field ++ "'")
      return ⟨.enter, []⟩ := by
  unfold enter
  split
  · contradiction
  · next eq => exact absurd (Option.some.inj eq) h
  · contradiction
  · next eq eq' =>
    cases eq
    cases eq'
    congr
    funext e
    rw [enterPlan, Deed.actAll_append, Deed.actAll_append, Deed.actAll_append,
      actAll_preparePlan n lookups, actAll_fillPlan n lookups, actAll_hook]
    simp only [Act.bind_assoc]
    cases options.pressEnter with
    | true =>
      rw [if_pos rfl, if_pos rfl, actAll_singleton]
      rfl
    | false => rfl

/-- The deeds that come before the field is cleared. -/
theorem prepares_of_mem (hooked : Bool) {x : Deed}
    (h : x ∈ preparePlan options field ++ if hooked then [.hook] else []) : x.Prepares := by
  simp only [preparePlan, List.mem_append, List.mem_map] at h
  rcases h with (⟨ms, -, rfl⟩ | h) | h
  · trivial
  · split at h
    · rw [List.mem_singleton.mp h]
      trivial
    · cases h
  · split at h
    · rw [List.mem_singleton.mp h]
      trivial
    · cases h

theorem Deed.Prepares.lands {x : Deed} (h : x.Prepares) : x.Lands := by
  cases x with
  | hook => trivial
  | touch words t =>
    cases t with
    | scroll | wait => exact fun el => ⟨el, rfl⟩
    | _ => cases h

theorem lands_of_mem_enterPlan (hooked : Bool) {x : Deed} (h : x ∈ enterPlan options hooked field value) :
    x.Lands := by
  rw [enterPlan, List.mem_append, List.mem_append] at h
  rcases h with (h | h) | h
  · exact (prepares_of_mem options field hooked h).lands
  · rcases List.mem_pair.mp h with rfl | rfl
    · exact fun el => ⟨_, rfl⟩
    · exact fun el => ⟨_, rfl⟩
  · split at h
    · rw [List.mem_singleton.mp h]
      exact fun el => ⟨el, rfl⟩
    · cases h

end Plans

theorem Deed.foldl_shown_of_forall {plan : List Deed} {v : Option String}
    (h : ∀ x ∈ plan, ∀ v, shown v x = v) : plan.foldl shown v = v := by
  induction plan with
  | nil => rfl
  | cons x plan ih =>
    obtain ⟨first, rest⟩ := List.forall_mem_cons.mp h
    rw [List.foldl_cons, first, ih rest]

/-- No element ignores that it is cleared and typed into. -/
theorem heeded_enterPlan (el : PageElement) (options : EnterOptions) (hooked : Bool) (field value : String) :
    Deed.heeded el (enterPlan options hooked field value) =
      Deed.heeded el (preparePlan options field ++ if hooked then [.hook] else []) ++
        .touch ("clear '" ++ field ++ "'") .clear ::
        .touch ("type into '" ++ field ++ "'") (.type (some value)) ::
        if options.pressEnter then [.touch ("press Enter in '" ++ field ++ "'") (.press "Enter")] else [] := by
  rw [enterPlan, Deed.heeded, List.append_assoc, List.filter_append]
  refine congrArg _ ?_
  cases options.pressEnter <;> rfl

theorem shown_of_mem_press {press : Bool} {words key : String} {x : Deed} {v : Option String}
    (h : x ∈ if press then [.touch words (.press key)] else []) : Deed.shown v x = v := by
  split at h
  · rw [List.mem_singleton.mp h]
    rfl
  · cases h

/-- A value that is typed after the field was cleared is all that the field shows, whatever it showed
before. -/
theorem Deed.foldl_shown_done {el : PageElement} {before after : List Deed}
    {words words' words'' value : String}
    (h : ∀ x ∈ before, x.Prepares) (h' : ∀ x ∈ after, ∀ v, shown v x = v) (old : Option String)
    (typed : touch words'' (.type (some value)) ∈
      done el (before ++ touch words .clear :: touch words' (.type (some value)) :: after)) :
    (done el (before ++ touch words .clear :: touch words' (.type (some value)) :: after)).foldl shown old =
      some value := by
  induction before generalizing old with
  | nil =>
    rw [List.nil_append] at typed ⊢
    cases clears : (touch words .clear).fault? el with
    | some cause =>
      rw [done_cons_of_some clears] at typed
      cases typed
    | none =>
      rw [done_cons_of_none clears] at typed ⊢
      cases types : (touch words' (.type (some value))).fault? el with
      | some cause =>
        rw [done_cons_of_some types] at typed
        cases List.mem_singleton.mp typed
      | none =>
        have last (v : Option String) : (done el after).foldl shown v = v :=
          foldl_shown_of_forall fun x hx => h' x ((List.takeWhile_sublist _).mem hx)
        rw [done_cons_of_none types, List.foldl_cons, List.foldl_cons, last]
        exact congrArg some String.empty_append
  | cons x before ih =>
    obtain ⟨prepares, h⟩ := List.forall_mem_cons.mp h
    rw [List.cons_append] at typed ⊢
    cases fails : x.fault? el with
    | some cause =>
      rw [done_cons_of_some fails] at typed
      cases typed
    | none =>
      rw [done_cons_of_none fails] at typed ⊢
      rcases List.mem_cons.mp typed with rfl | typed
      · cases prepares
      · exact ih h _ typed

/-! ## The whole of an entry -/

/-- What entering a value into a field comes to that is the element `e`: its deeds are those of the plan, up
to the first one that fails, and only what the element shows changes. -/
structure Entered (plan : List Deed) (e value : String) (s : Scene MemoryPage) (ended : Except Fault Outcome)
    (t : Scene MemoryPage) : Prop where
  journal : ∃ entries, t.page.journal = s.page.journal ++ entries ∧
    entries.filter (·.isOnElement) = (Deed.cut (s.page.element e) plan).map (·.entry e)
  fails_iff : (∃ fault, ended = .error fault) ↔ ∃ x ∈ plan, x.fault? (s.page.element e) ≠ none
  fails : ∀ fault, ended = .error fault → ∃ words touch cause,
    (Deed.cut (s.page.element e) plan).getLast? = some (.touch words touch) ∧
      (Deed.touch words touch).fault? (s.page.element e) = some cause ∧
      (cause.isOwn = true ∧ fault = cause ∨ ∃ failure, cause = .foreign failure ∧
        fault = .interaction ("Failed to " ++ words ++ ": " ++ failure.message) (some failure))
  returns : ∀ outcome, ended = .ok outcome → outcome = ⟨.enter, []⟩
  typed : ∀ words, .touch words (.type (some value)) ∈ Deed.done (s.page.element e) plan →
    (t.page.element e).attribute? "value" = some value
  others : ∀ name key, name ≠ e ∨ key ≠ "value" →
    (t.page.element name).attribute? key = (s.page.element name).attribute? key

/-- How an entry ends is how its plan does, and nothing is done to the page but what the plan says. -/
theorem exists_carries_enter (options : EnterOptions) (n : String) (lookups : List Lookup)
    {hook? : Option (String → Act (Scene MemoryPage) Unit)} (quiet : ∀ call ∈ hook?, Onlooks call)
    (field value : String) {s : Scene MemoryPage} {e : String}
    (resolved : ((Resolver.onMemory n lookups).resolve (some field) s).1 = .ok e) :
    ∃ s₁ ended t, s₁.page.journal = s.page.journal ∧ s₁.page.elements = s.page.elements ∧
      Deed.Carries (s.page.element e) e (enterPlan options hook?.isSome field value) s₁ ended t ∧
      ∃ t', t'.page = t.page ∧
        enter options (.onMemory n lookups) (hook?.map noting) (some field) (some value) s =
          (ended.map fun _ => ⟨.enter, []⟩, t') := by
  have named : field ≠ "" := by
    rintro rfl
    cases resolved
  obtain ⟨asked, said, -, scene⟩ := (Resolver.enquires_resolve n lookups (some field)).asks s
  have resolve : (Resolver.onMemory n lookups).resolve (some field) s = (.ok e, s.after asked said) :=
    Prod.ext resolved scene
  have watching : Onlooks (hook?.getD fun _ => pure ()) := by
    cases hook? with
    | none => exact fun e s => ⟨s, rfl, rfl, .of_eq rfl⟩
    | some call => exact quiet call rfl
  have same : (s.page.element e).SameCalls ((s.after asked said).page.element e) := ⟨rfl, rfl⟩
  have carried := Deed.carries_actAll watching e
    (fun x hx => lands_of_mem_enterPlan options field value hook?.isSome hx) same
  rw [enter_eq n lookups options field value hook? named, Act.bind_of_ok resolve]
  cases run : Deed.actAll (hook?.getD fun _ => pure ()) e (enterPlan options hook?.isSome field value)
    (s.after asked said) with | mk ended t
  rw [run] at carried
  refine ⟨s.after asked said, ended, t, rfl, rfl, carried, ?_⟩
  cases ended with
  | error fault => exact ⟨t, rfl, Act.bind_of_error run⟩
  | ok _ =>
    rw [Act.bind_of_ok run, Act.bind_of_ok (Scene.say_apply ..)]
    refine ⟨_, ?_, rfl⟩
    exact t.page.withQueries_nil

end Perform

open Perform in
/-- Entering a value is carrying out the plan of it as far as the calls of the element that the field is
resolved to do not fail. -/
theorem Strategy.enter_plan (options : EnterOptions) (n : String) (lookups : List Lookup)
    (hook? : Option (String → Act (Scene MemoryPage) Unit)) (quiet : ∀ call ∈ hook?, Onlooks call)
    (field value : String) (s : Scene MemoryPage) {e : String}
    (resolved : ((Resolver.onMemory n lookups).resolve (some field) s).1 = .ok e) :
    Entered (Deed.heeded (s.page.element e) (enterPlan options hook?.isSome field value)) e value s
      ((Strategy.enter options).perform (.onMemory n lookups) (.enter (some field) (some value))
        (hook?.map noting) s).1
      ((Strategy.enter options).perform (.onMemory n lookups) (.enter (some field) (some value))
        (hook?.map noting) s).2 := by
  obtain ⟨s₁, ended, t, journal, elements, carried, t', page, performed⟩ :=
    exists_carries_enter options n lookups quiet field value resolved
  have same (name : String) : s₁.page.element name = s.page.element name := by
    rw [element, elements]
    rfl
  show Entered _ e value s (Perform.enter options _ _ (some field) (some value) s).1
    (Perform.enter options _ _ (some field) (some value) s).2
  rw [performed]
  refine { journal := ?_, fails_iff := ?_, fails := ?_, returns := ?_, typed := ?_, others := ?_ }
  · rw [page, ← journal]
    exact carried.journal
  · rcases carried.ends with ⟨rfl, none⟩ | ⟨words, touch, cause, last, fails, rfl⟩
    · constructor
      · rintro ⟨fault, raised⟩
        cases raised
      · rintro ⟨x, hx, fails⟩
        exact absurd (none x hx) fails
    · refine ⟨fun _ => ⟨_, Deed.mem_of_mem_cut (List.mem_of_getLast? last), ?_⟩, fun _ => ⟨_, rfl⟩⟩
      rw [fails]
      exact Option.some_ne_none cause
  · intro fault raised
    rcases carried.ends with ⟨rfl, -⟩ | ⟨words, touch, cause, last, fails, rfl⟩
    · cases raised
    · cases raised
      refine ⟨words, touch, cause, last, fails, ?_⟩
      cases cause with
      | foreign failure => exact .inr ⟨failure, rfl, rfl⟩
      | _ => exact .inl ⟨rfl, rfl⟩
  · intro outcome returned
    cases ended with
    | error fault => cases returned
    | ok _ =>
      cases returned
      rfl
  · intro words typed
    rw [page, carried.value, same]
    rw [heeded_enterPlan] at typed ⊢
    exact Deed.foldl_shown_done (fun x hx => prepares_of_mem options field _ (List.mem_filter.mp hx).1)
      (fun x hx v => shown_of_mem_press hx) _ typed
  · intro name key other
    rw [page, carried.others other, same]

/-- A page with a field that shows something, neither waits nor scrolls, and takes no keys. -/
def keylessForm : MemoryPage where
  elements := [("mail",
    { attributes := [("value", some "old")], failures := [(.press, .foreign ⟨.runtime, "no keys"⟩)],
      plain := true })]
  places := [(.byAttribute "title" "Mail" [] false, "mail")]

/-- The last call of the plan fails, after the value was typed over the old one. -/
theorem Strategy.enter_plan_keylessForm :
    let options : EnterOptions := ⟨some 500, true, true⟩
    let hook? : Option (String → Act (Scene MemoryPage) Unit) := some (Scene.say .info .perform)
    let done := (Strategy.enter options).perform (.onMemory "FakeDriver" Lookup.all)
      (.enter (some "Mail") (some "new")) (hook?.map noting) { page := keylessForm }
    (∀ call ∈ hook?, Onlooks call) ∧
      ((Resolver.onMemory "FakeDriver" Lookup.all).resolve (some "Mail") { page := keylessForm }).1 =
        .ok "mail" ∧
      done.1 = .error (.interaction "Failed to press Enter in 'Mail': no keys" (some ⟨.runtime, "no keys"⟩)) ∧
      done.2.page.journal = [.hook "mail", .touch "mail" .clear, .touch "mail" (.type (some "new")),
        .touch "mail" (.press "Enter")] ∧
      Perform.Entered (Perform.Deed.heeded (keylessForm.element "mail")
        (Perform.enterPlan options true "Mail" "new")) "mail" "new" { page := keylessForm } done.1 done.2 := by
  have quiet : ∀ call ∈ some (Scene.say .info .perform), Onlooks call := by
    rintro _ ⟨⟩ e s
    exact ⟨_, rfl, rfl, .of_eq rfl⟩
  have resolved : ((Resolver.onMemory "FakeDriver" Lookup.all).resolve (some "Mail")
      { page := keylessForm }).1 = .ok "mail" := by
    decide +kernel
  refine ⟨quiet, resolved, ?_, ?_, Strategy.enter_plan _ _ _ _ quiet _ _ _ resolved⟩
  · decide +kernel
  · decide +kernel

end Walkthrough
