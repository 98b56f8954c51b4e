import Walkthrough.Proofs.Run.Enquiries

/-! Filling the fields of a form in memory. Each field has its turn: it is resolved on the page that stands
there, cleared and typed into, or skipped with a warning. The hook is called for the first field that is
resolved, so the later ones are resolved on the page that it leaves. `Fills` says what a number of turns
come to, and `exists_fillFields` that filling the fields is their turns one after the other. -/

namespace Walkthrough

open MemoryPage

/-- A hook that never fails and leaves the calls and look-ups that fail as they are. It may do anything
else; there may be none. -/
def Hook.Harmless (hook : Hook MemoryPage String) : Prop :=
  ∀ call ∈ hook, ∀ e s, ∃ s', call e s = (.ok (), s') ∧ s.page.SameFailures s'.page

namespace Perform

variable {n : String} {lookups : List Lookup} {hook : Hook MemoryPage String}

/-- A field of a form, with the page on which it is looked up. -/
structure Turn where
  name : String
  value : Option String
  page : MemoryPage

namespace Turn

variable (r : Resolver MemoryPage String) (t : Turn)

/-- The element that the field resolves to. -/
def target : Except Fault String := (r.resolve (some t.name) { page := t.page }).1

/-- How clearing an element and typing into it ends. -/
def filling (e : String) : Except Fault Unit := (fill r t.name t.value e { page := t.page }).1

/-- The element that is filled, or why there is none: resolving, clearing or typing failed. -/
def outcome : Except Fault String := do
  let e ← t.target r
  t.filling r e
  return e

/-- The element that is filled, if there is one. -/
def filled? : Option String := (t.outcome r).toOption

variable {r t} in
theorem outcome_of_target {e : String} (h : t.target r = .ok e) :
    t.outcome r = (t.filling r e).map fun _ => e := by
  rw [outcome, h]
  change (t.filling r e >>= fun _ => Except.ok e) = _
  cases t.filling r e <;> rfl

/-- The warning that the field is skipped, if it is. -/
def warning? : Option String :=
  match t.outcome r with
  | .ok _ => none
  | .error fault => some ("Skipped field '" ++ t.name ++ "': " ++ fault.message)

end Turn

/-- The turns of the fields of a form: up to the first field that is resolved on the page `p`, they have
this page, and from then on the page `q`. -/
def turns (r : Resolver MemoryPage String) (p q : MemoryPage) :
    List (String × Option String) → List Turn
  | [] => []
  | (name, value) :: rest =>
    ⟨name, value, p⟩ :: match Turn.target r ⟨name, value, p⟩ with
      | .ok _ => rest.map fun f => ⟨f.1, f.2, q⟩
      | .error _ => turns r p q rest

theorem turns_cons_of_ok {r : Resolver MemoryPage String} {p q : MemoryPage} {name e : String}
    {value : Option String} (h : Turn.target r ⟨name, value, p⟩ = .ok e)
    (rest : List (String × Option String)) :
    turns r p q ((name, value) :: rest) =
      ⟨name, value, p⟩ :: rest.map fun f => ⟨f.1, f.2, q⟩ := by
  rw [turns, h]

theorem turns_cons_of_error {r : Resolver MemoryPage String} {p q : MemoryPage} {name : String}
    {value : Option String} {fault : Fault} (h : Turn.target r ⟨name, value, p⟩ = .error fault)
    (rest : List (String × Option String)) :
    turns r p q ((name, value) :: rest) = ⟨name, value, p⟩ :: turns r p q rest := by
  rw [turns, h]

/-! ## One element -/

/-- How a touch ends when it is described for its fault. -/
def described (description : String) (ended : Except Fault Unit) : Except Fault Unit :=
  ended.mapError (Fault.wrap fun text => "Failed to " ++ description ++ ": " ++ text)

theorem interact_touch (description e : String) (t : Touch) (s : Scene MemoryPage) :
    interact description (Scene.onPage (touch e t)) s =
      (described description (touch e t s.page).1, { s with page := (touch e t s.page).2 }) := rfl

theorem described_eq_ok_iff {description : String} {ended : Except Fault Unit} :
    described description ended = .ok () ↔ ended = .ok () := Except.mapError_eq_ok_iff

theorem isOwn_wrap (describe : String → String) (fault : Fault) :
    (fault.wrap describe).isOwn = true := by
  cases fault <;> rfl

theorem isOwn_of_described {description : String} {ended : Except Fault Unit} {fault : Fault}
    (h : described description ended = .error fault) : fault.isOwn = true := by
  cases ended with
  | ok _ => cases h
  | error cause =>
    cases h
    exact isOwn_wrap _ cause

theorem fill_eq (name : String) (value : Option String) (e : String) :
    fill (.onMemory n lookups) name value e =
      interact ("clear '" ++ name ++ "'") (Scene.onPage (touch e .clear)) >>= fun _ =>
        interact ("type into '" ++ name ++ "'") (Scene.onPage (touch e (.type value))) := rfl

theorem fill_of_clear_error (name : String) (value : Option String) {e : String}
    {s : Scene MemoryPage} {fault : Fault} {p : MemoryPage}
    (h : touch e .clear s.page = (.error fault, p)) :
    fill (.onMemory n lookups) name value e s =
      (described ("clear '" ++ name ++ "'") (.error fault), { s with page := p }) := by
  rw [fill_eq, Act.bind_apply, interact_touch, h]
  rfl

theorem fill_of_clear_ok (name : String) (value : Option String) {e : String}
    {s : Scene MemoryPage} {p : MemoryPage} (h : touch e .clear s.page = (.ok (), p)) :
    fill (.onMemory n lookups) name value e s =
      (described ("type into '" ++ name ++ "'") (touch e (.type value) p).1,
        { s with page := (touch e (.type value) p).2 }) := by
  rw [fill_eq, Act.bind_apply, interact_touch, h]
  exact interact_touch _ _ _ _

/-- How filling ends depends on the calls that fail. -/
theorem fill_outcome (name : String) (value : Option String) (e : String) {s t : Scene MemoryPage}
    (h : s.page.SameFailures t.page) :
    (fill (.onMemory n lookups) name value e t).1 = (fill (.onMemory n lookups) name value e s).1 := by
  have cleared : (touch e .clear t.page).1 = (touch e .clear s.page).1 :=
    touch_outcome h fun _ => rfl
  have hs := (did_touch s.page e (t := .clear) fun _ => rfl).ways.toSameFailures
  have ht := (did_touch t.page e (t := .clear) fun _ => rfl).ways.toSameFailures
  have typed : (touch e (.type value) (touch e .clear t.page).2).1 =
      (touch e (.type value) (touch e .clear s.page).2).1 :=
    touch_outcome ((hs.symm.trans h).trans ht) fun _ => rfl
  cases hcs : touch e .clear s.page with | mk x p
  cases hct : touch e .clear t.page with | mk y q
  rw [hcs, hct] at cleared typed
  cases cleared
  cases x with
  | error fault => rw [fill_of_clear_error _ _ hcs, fill_of_clear_error _ _ hct]
  | ok _ =>
    rw [fill_of_clear_ok _ _ hcs, fill_of_clear_ok _ _ hct]
    exact congrArg (described _) typed

/-- What filling an element comes to. -/
structure FillsElement (value : Option String) (e : String) (p : MemoryPage)
    (calls : List (String × Touch)) (ended : Except Fault Unit) (p' : MemoryPage) : Prop where
  did : p.Did calls [] p'
  edits : ∀ c ∈ calls, c.1 = e ∧ c.2.Edits
  own : ∀ fault, ended = .error fault → fault.isOwn = true
  shows : ended = .ok () → ∀ v ∈ value, (p'.element e).attribute? "value" = some v

theorem exists_fillsElement (n : String) (lookups : List Lookup) (name : String)
    (value : Option String) (e : String) (s : Scene MemoryPage) :
    ∃ calls, FillsElement value e s.page calls (fill (.onMemory n lookups) name value e s).1
      (fill (.onMemory n lookups) name value e s).2.page := by
  have clear := did_touch s.page e (t := .clear) fun _ => rfl
  rcases touch_cases s.page e (t := .clear) fun _ => rfl with ⟨e₁, -, cleared, eq⟩ | ⟨fault, eq⟩
  case inr =>
    rw [eq] at clear
    rw [fill_of_clear_error _ _ eq]
    dsimp only
    have edits : ∀ c ∈ [(e, Touch.clear)], c.1 = e ∧ c.2.Edits :=
      List.forall_mem_singleton.mpr ⟨rfl, trivial⟩
    exact ⟨_, clear, edits, fun _ h => isOwn_of_described h, nofun⟩
  cases cleared
  rw [eq] at clear
  rw [fill_of_clear_ok _ _ eq]
  have type := did_touch ((s.page.note (.touch e .clear)).withElement e
    ((s.page.element e).withValue "")) e (t := .type value) fun _ => rfl
  have edits : ∀ c ∈ [(e, Touch.clear)] ++ [(e, Touch.type value)], c.1 = e ∧ c.2.Edits :=
    List.forall_mem_cons.mpr ⟨⟨rfl, trivial⟩, List.forall_mem_singleton.mpr ⟨rfl, trivial⟩⟩
  refine ⟨_, clear.trans type, edits, fun _ h => isOwn_of_described h, ?_⟩
  rintro done v hv
  cases hv
  rcases touch_cases ((s.page.note (.touch e .clear)).withElement e
    ((s.page.element e).withValue "")) e (t := .type (some v)) fun _ => rfl
    with ⟨e₂, -, typed, eq'⟩ | ⟨fault, eq'⟩
  · rw [eq']
    cases typed
    dsimp only
    rw [element_withElement_self, element_withElement_self, PageElement.attribute?_withValue_self,
      PageElement.attribute?_withValue_self]
    exact congrArg some String.empty_append
  · rw [eq'] at done
    cases done

/-! ## Turns -/

/-- What the turns of some fields come to: the progress and the page before and after, and what is done in
between. -/
structure Fills (r : Resolver MemoryPage String) (ts : List Turn) (before : Progress String)
    (p : MemoryPage) (calls : List (String × Touch)) (asked : List Locator)
    (after : Progress String) (p' : MemoryPage) : Prop where
  did : p.Did calls asked p'
  asks : ∀ l ∈ asked, ForField l
  edits : ∀ c ∈ calls, c.2.Edits ∧ ∃ t ∈ ts, t.target r = .ok c.1
  warnings : after.warnings = before.warnings ++ ts.filterMap (·.warning? r)
  last : after.last = (ts.filterMap (·.filled? r)).getLast?.or before.last
  shows : ∀ e, ∀ t ∈ (ts.filter fun t => (t.target r).toOption = some e).getLast?,
    t.filled? r = some e → ∀ v ∈ t.value, (p'.element e).attribute? "value" = some v

section Fills

variable {r : Resolver MemoryPage String} {ts us : List Turn} {pr pr₁ pr' : Progress String}
  {p p₁ p' : MemoryPage} {calls calls' : List (String × Touch)} {asked asked' : List Locator}

/-- No turn yet, but some look-ups. -/
theorem Fills.looked (asks : ∀ l ∈ asked, ForField l) (pr : Progress String) (p : MemoryPage) :
    Fills r [] pr p [] asked pr (p.withQueries asked) where
  did := .withQueries p asked
  asks := asks
  edits := nofun
  warnings := (List.append_nil _).symm
  last := rfl
  shows := nofun

theorem Fills.nil : Fills r [] pr p [] [] pr p := by
  have looked := Fills.looked (r := r) (List.forall_mem_nil _) pr p
  rwa [p.withQueries_nil] at looked

/-- Turns one after the other. What the first ones leave in a field that none of the others resolves to
stays there. -/
theorem Fills.append (h : Fills r ts pr p calls asked pr₁ p₁)
    (h' : Fills r us pr₁ p₁ calls' asked' pr' p') :
    Fills r (ts ++ us) pr p (calls ++ calls') (asked ++ asked') pr' p' where
  did := h.did.trans h'.did
  asks := List.forall_mem_append.mpr ⟨h.asks, h'.asks⟩
  edits := List.forall_mem_append.mpr
    ⟨fun c hc => (h.edits c hc).imp_right fun ⟨t, ht, eq⟩ => ⟨t, List.mem_append_left _ ht, eq⟩,
      fun c hc => (h'.edits c hc).imp_right fun ⟨t, ht, eq⟩ => ⟨t, List.mem_append_right _ ht, eq⟩⟩
  warnings := by rw [h'.warnings, h.warnings, List.filterMap_append, List.append_assoc]
  last := by rw [h'.last, h.last, List.filterMap_append, List.getLast?_append, Option.or_assoc]
  shows := by
    intro e t ht filled v hv
    rw [List.filter_append, List.getLast?_append] at ht
    rcases Option.or_eq_some_iff.mp ht with ht | ⟨none, ht⟩
    · exact h'.shows e t ht filled v hv
    · -- No turn in `us` resolves to `e`, so what they touch is other elements.
      rw [← h.shows e t ht filled v hv]
      refine h'.did.values e fun touch hc => ?_
      obtain ⟨-, u, hu, eq⟩ := h'.edits _ hc
      have : u ∈ us.filter fun t => (t.target r).toOption = some e :=
        List.mem_filter.mpr ⟨hu, by rw [eq]; exact decide_eq_true rfl⟩
      rw [List.getLast?_eq_none_iff.mp none] at this
      cases this

/-- The turn of a field that is not resolved. -/
theorem Fills.unresolved {t : Turn} {fault : Fault} (h : t.target r = .error fault)
    (asks : ∀ l ∈ asked, ForField l) (pr : Progress String) (p : MemoryPage) :
    Fills r [t] pr p [] asked
      { pr with warnings := pr.warnings ++ ["Skipped field '" ++ t.name ++ "': " ++ fault.message] }
      (p.withQueries asked) := by
  have outcome : t.outcome r = .error fault := by
    rw [Turn.outcome, h]
    rfl
  exact {
    did := .withQueries p asked
    asks := asks
    edits := nofun
    warnings := by
      rw [List.filterMap_cons, Turn.warning?, outcome]
      rfl
    last := by
      rw [List.filterMap_cons, Turn.filled?, outcome]
      rfl
    shows := fun e t' ht' filled => by
      rw [List.filter_cons, h] at ht'
      cases ht' }

end Fills

/-! ## The hook -/

/-- The page before and after the hook. It is the same page if there is no hook, or if nothing is touched
afterwards. -/
inductive Called (hook : Hook MemoryPage String) (calls : List (String × Touch)) :
    MemoryPage → MemoryPage → Prop
  | never {p : MemoryPage} (h : hook = none ∨ calls = []) : Called hook calls p p
  | once {call : String → Act (Scene MemoryPage) Unit} {e : String} {s s' : Scene MemoryPage}
    (h : hook = some call) (called : call e s = (.ok (), s')) : Called hook calls s.page s'.page

theorem exists_callHook (h : hook.Harmless) (e : String) (s : Scene MemoryPage) :
    ∃ s', callHook hook false e s = (.ok (), s') ∧ s.page.SameFailures s'.page ∧
      ∀ calls, Called hook calls s.page s'.page := by
  cases hook with
  | none => exact ⟨s, rfl, .rfl, fun _ => .never (.inl rfl)⟩
  | some call =>
    obtain ⟨s', called, failures⟩ := h call rfl e s
    exact ⟨s', called, failures, fun _ => .once rfl called⟩

theorem callHook_called (hook : Hook MemoryPage String) (e : String) (s : Scene MemoryPage) :
    callHook hook true e s = (.ok (), s) := by
  cases hook <;> rfl

/-! ## One field -/

theorem isOwn_of_firstOf (field : String) (ls : List Lookup) {s : Scene MemoryPage} {fault : Fault}
    (h : ((Resolver.onMemory n lookups).firstOf field ls s).1 = .error fault) :
    fault.isOwn = true := by
  induction ls generalizing s with
  | nil =>
    cases h
    rfl
  | cons l ls ih =>
    cases hx : l.run (memoryBrowser n) field s with | mk found s₁
    rw [Resolver.firstOf, Act.bind_apply, Resolver.tryLookup, Act.mapFault, hx] at h
    cases found with
    | error cause =>
      cases h
      exact isOwn_wrap _ cause
    | ok found =>
      cases found with
      | none => exact ih h
      | some e => cases h

/-- A name that shows something either leads to an element or to a fault of the program's own. -/
theorem isOwn_of_target {t : Turn} (hn : Text.isBlankText t.name = false) {fault : Fault}
    (h : t.target (.onMemory n lookups) = .error fault) : fault.isOwn = true := by
  rw [Turn.target, Resolver.resolve, hn, if_neg Bool.false_ne_true] at h
  exact isOwn_of_firstOf _ _ h

/-- On a page like that of its turn, a field is resolved as in its turn. -/
theorem exists_resolve (n : String) (lookups : List Lookup) {t : Turn} {s : Scene MemoryPage}
    (ways : t.page.SameWays s.page) :
    ∃ asked s', (∀ l ∈ asked, ForField l) ∧ s'.page = s.page.withQueries asked ∧
      (Resolver.onMemory n lookups).resolve (some t.name) s =
        (t.target (.onMemory n lookups), s') := by
  have resolve := Resolver.enquires_resolve n lookups (some t.name)
  obtain ⟨asked, said, asks, scene⟩ := resolve.asks s
  have same := resolve.outcome { page := t.page } s ways
  exact ⟨asked, s.after asked said, asks, rfl, Prod.ext same scene⟩

section Field

variable {t : Turn} {s s₁ s₂ s₃ : Scene MemoryPage} {pr : Progress String} {fault : Fault}
  {e : String}

/-- The progress with the warning that a field is skipped. -/
def Progress.skip (pr : Progress String) (name : String) (fault : Fault) : Progress String :=
  { pr with warnings := pr.warnings ++ ["Skipped field '" ++ name ++ "': " ++ fault.message] }

theorem warn_apply (pr : Progress String) (text : String) (s : Scene MemoryPage) :
    warn pr text s = (.ok { pr with warnings := pr.warnings ++ [text] },
      { s with log := s.log ++ [⟨.warning, .perform, text⟩] }) := rfl

theorem fillField_unresolved {r : Resolver MemoryPage String} {name : String} {value : Option String}
    (h : r.resolve (some name) s = (.error fault, s₁)) (own : fault.isOwn = true) :
    ∃ s', s'.page = s₁.page ∧ fillField r hook pr name value s = (.ok (pr.skip name fault), s') := by
  have attempted : (r.resolve (some name)).attempt s = (.ok (.error fault), s₁) := by
    rw [Act.attempt_apply, h]
  unfold fillField
  dsimp only
  rw [Act.bind_of_ok attempted]
  dsimp only
  rw [if_pos own, warn_apply]
  refine ⟨_, ?_, rfl⟩
  rfl

theorem fillField_skipped {r : Resolver MemoryPage String} {name : String} {value : Option String}
    (h : r.resolve (some name) s = (.ok e, s₁)) (called : callHook hook pr.hooked e s₁ = (.ok (), s₂))
    (failed : fill r name value e s₂ = (.error fault, s₃)) (own : fault.isOwn = true) :
    ∃ s', s'.page = s₃.page ∧ fillField r hook pr name value s =
      (.ok (Progress.skip { pr with hooked := true } name fault), s') := by
  have attempted : (r.resolve (some name)).attempt s = (.ok (.ok e), s₁) := by
    rw [Act.attempt_apply, h]
  have touched : (callHook hook pr.hooked e >>= fun _ => fill r name value e).attempt s₁ =
      (.ok (.error fault), s₃) := by
    rw [Act.attempt_apply, Act.bind_of_ok called, failed]
  unfold fillField
  dsimp only
  rw [Act.bind_of_ok attempted]
  dsimp only
  rw [Act.bind_of_ok touched]
  dsimp only
  rw [if_pos own, warn_apply]
  refine ⟨_, ?_, rfl⟩
  rfl

theorem fillField_filled {r : Resolver MemoryPage String} {name : String} {value : Option String}
    (h : r.resolve (some name) s = (.ok e, s₁)) (called : callHook hook pr.hooked e s₁ = (.ok (), s₂))
    (filled : fill r name value e s₂ = (.ok (), s₃)) :
    fillField r hook pr name value s = (.ok { pr with hooked := true, last := some e }, s₃) := by
  have attempted : (r.resolve (some name)).attempt s = (.ok (.ok e), s₁) := by
    rw [Act.attempt_apply, h]
  have touched : (callHook hook pr.hooked e >>= fun _ => fill r name value e).attempt s₁ =
      (.ok (.ok ()), s₃) := by
    rw [Act.attempt_apply, Act.bind_of_ok called, filled]
  unfold fillField
  dsimp only
  rw [Act.bind_of_ok attempted]
  dsimp only
  rw [Act.bind_of_ok touched]
  rfl

/-- A turn whose field is resolved, from the page on which the hook was called. -/
theorem exists_fillField_resolved (ways : t.page.SameWays s.page)
    (h : t.target (.onMemory n lookups) = .ok e)
    (resolved : (Resolver.onMemory n lookups).resolve (some t.name) s = (.ok e, s₁))
    (called : callHook hook pr.hooked e s₁ = (.ok (), s₂)) (failures : s.page.SameFailures s₂.page) :
    ∃ pr' s' calls, fillField (.onMemory n lookups) hook pr t.name t.value s = (.ok pr', s') ∧
      pr'.hooked = true ∧ Fills (.onMemory n lookups) [t] pr s₂.page calls [] pr' s'.page := by
  obtain ⟨calls, fills⟩ := exists_fillsElement n lookups t.name t.value e s₂
  have same : (fill (.onMemory n lookups) t.name t.value e s₂).1 =
      t.filling (.onMemory n lookups) e :=
    fill_outcome t.name t.value e (s := { page := t.page }) (ways.toSameFailures.trans failures)
  have edits : ∀ c ∈ calls, c.2.Edits ∧ ∃ u ∈ [t], u.target (.onMemory n lookups) = .ok c.1 :=
    fun c hc => ⟨(fills.edits c hc).2, t, List.mem_cons_self, (fills.edits c hc).1 ▸ h⟩
  cases hf : fill (.onMemory n lookups) t.name t.value e s₂ with | mk ended s₃
  rw [hf] at fills same
  have outcome := Turn.outcome_of_target h
  rw [← same] at outcome
  cases ended with
  | error fault =>
    obtain ⟨s', page, eq⟩ := fillField_skipped resolved called hf (fills.own fault rfl)
    refine ⟨_, s', calls, eq, rfl, ?_⟩
    exact {
      did := page ▸ fills.did
      asks := nofun
      edits := edits
      warnings := by
        rw [List.filterMap_cons, Turn.warning?, outcome]
        rfl
      last := by
        rw [List.filterMap_cons, Turn.filled?, outcome]
        rfl
      shows := fun e' t' ht' filled => by
        have := List.mem_of_mem_filter (List.mem_of_getLast? ht')
        rw [List.mem_singleton.mp this, Turn.filled?, outcome] at filled
        cases filled }
  | ok _ =>
    refine ⟨_, s₃, calls, fillField_filled resolved called hf, rfl, ?_⟩
    exact {
      did := fills.did
      asks := nofun
      edits := edits
      warnings := by
        rw [List.filterMap_cons, Turn.warning?, outcome]
        exact (List.append_nil _).symm
      last := by
        rw [List.filterMap_cons, Turn.filled?, outcome]
        rfl
      shows := fun e' t' ht' filled => by
        have := List.mem_of_mem_filter (List.mem_of_getLast? ht')
        rw [List.mem_singleton.mp this, Turn.filled?, outcome] at filled
        rw [List.mem_singleton.mp this]
        cases filled
        exact fills.shows rfl }

end Field

/-! ## All fields -/

section Fields

variable {fields : List (String × Option String)} {p : MemoryPage} {s : Scene MemoryPage}
  {pr : Progress String}

theorem fillFields_cons {r : Resolver MemoryPage String} {name : String} {value : Option String}
    {pr' : Progress String} {s' : Scene MemoryPage}
    (h : fillField r hook pr name value s = (.ok pr', s')) :
    fillFields r hook pr ((name, value) :: fields) s = fillFields r hook pr' fields s' := by
  rw [fillFields, Act.bind_of_ok h]

/-- After the hook, every field has its turn on the same page. -/
theorem exists_fillFields_hooked (n : String) (lookups : List Lookup) (hook : Hook MemoryPage String)
    (hn : ∀ f ∈ fields, Text.isBlankText f.1 = false)
    (hp : pr.hooked = true) {q : MemoryPage} (ways : q.SameWays s.page) :
    ∃ pr' s' calls asked, fillFields (.onMemory n lookups) hook pr fields s = (.ok pr', s') ∧
      pr'.hooked = true ∧
      Fills (.onMemory n lookups) (fields.map fun f => ⟨f.1, f.2, q⟩) pr s.page calls asked pr'
        s'.page := by
  induction fields generalizing pr s with
  | nil => exact ⟨pr, s, [], [], rfl, hp, .nil⟩
  | cons f fields ih =>
    obtain ⟨name, value⟩ := f
    obtain ⟨hf, hfields⟩ := List.forall_mem_cons.mp hn
    obtain ⟨asked, s₁, asks, page, resolved⟩ :=
      exists_resolve n lookups (t := ⟨name, value, q⟩) ways
    have first : ∃ pr₁ s₂ calls, fillField (.onMemory n lookups) hook pr name value s = (.ok pr₁, s₂) ∧
        pr₁.hooked = true ∧
        Fills (.onMemory n lookups) [⟨name, value, q⟩] pr s.page calls asked pr₁ s₂.page := by
      cases ht : Turn.target (.onMemory n lookups) ⟨name, value, q⟩ with
      | error fault =>
        rw [ht] at resolved
        obtain ⟨s₂, page', eq⟩ := fillField_unresolved resolved (isOwn_of_target hf ht)
        exact ⟨_, s₂, [], eq, hp, page' ▸ page ▸ .unresolved ht asks pr s.page⟩
      | ok e =>
        rw [ht] at resolved
        have called : callHook hook pr.hooked e s₁ = (.ok (), s₁) := hp ▸ callHook_called hook e s₁
        obtain ⟨pr₁, s₂, calls, eq, hp₁, fills⟩ :=
          exists_fillField_resolved ways ht resolved called (page ▸ ⟨rfl, fun _ => rfl⟩)
        have looked := Fills.looked (r := .onMemory n lookups) asks pr s.page
        refine ⟨pr₁, s₂, calls, eq, hp₁, ?_⟩
        rw [← List.append_nil asked]
        exact looked.append (page ▸ fills)
    obtain ⟨pr₁, s₂, calls, eq, hp₁, fills⟩ := first
    obtain ⟨pr', s', calls', asked', eq', hp', fills'⟩ :=
      ih hfields hp₁ (ways.trans fills.did.ways)
    exact ⟨pr', s', _, _, (fillFields_cons eq).trans eq', hp', fills.append fills'⟩

/-- Filling the fields is their turns one after the other. Either no field is resolved, and neither is the
hook called nor anything touched, or the hook is called for the first one that is. -/
theorem exists_fillFields (n : String) (lookups : List Lookup) (hh : hook.Harmless)
    (hn : ∀ f ∈ fields, Text.isBlankText f.1 = false) (hp : pr.hooked = false) (ways : p.SameWays s.page) :
    ∃ pr' s' looked, fillFields (.onMemory n lookups) hook pr fields s = (.ok pr', s') ∧
      (∀ l ∈ looked, ForField l) ∧
      ((pr'.hooked = false ∧ pr'.last = pr.last ∧ s'.page = s.page.withQueries looked ∧
        ∀ q, Fills (.onMemory n lookups) (turns (.onMemory n lookups) p q fields) pr q [] [] pr' q) ∨
      (pr'.hooked = true ∧ ∃ q calls asked, s.page.SameFailures q ∧
        (∀ calls, Called hook calls (s.page.withQueries looked) q) ∧
        Fills (.onMemory n lookups) (turns (.onMemory n lookups) p q fields) pr q calls asked pr'
          s'.page)) := by
  -- As long as no field is resolved the page is `p` up to look-ups, and the hook is still to come. After the
  -- first one that is, the others have their turns on the page that the hook left.
  induction fields generalizing pr s with
  | nil =>
    exact ⟨pr, s, [], rfl, nofun, .inl ⟨hp, rfl, s.page.withQueries_nil.symm, fun q => .nil⟩⟩
  | cons f fields ih =>
    obtain ⟨name, value⟩ := f
    obtain ⟨hf, hfields⟩ := List.forall_mem_cons.mp hn
    obtain ⟨asked, s₁, asks, page, resolved⟩ :=
      exists_resolve n lookups (t := ⟨name, value, p⟩) ways
    cases ht : Turn.target (.onMemory n lookups) ⟨name, value, p⟩ with
    | error fault =>
      rw [ht] at resolved
      obtain ⟨s₂, page', eq⟩ := fillField_unresolved resolved (isOwn_of_target hf ht)
      rw [page] at page'
      have ways₂ : p.SameWays s₂.page := page' ▸ ways.trans (Did.withQueries s.page asked).ways
      have skipped (q : MemoryPage) := Fills.unresolved ht (List.forall_mem_nil _) pr q
      obtain ⟨pr', s', looked, eq', asks', result⟩ :=
        ih hfields (show (pr.skip name fault).hooked = false from hp) ways₂
      refine ⟨pr', s', asked ++ looked, (fillFields_cons eq).trans eq',
        List.forall_mem_append.mpr ⟨asks, asks'⟩, ?_⟩
      rcases result with ⟨hp', last, at_end, fills⟩ | ⟨hp', q, calls, more, failures, called, fills⟩
      · refine .inl ⟨hp', last, ?_, fun q => ?_⟩
        · rw [at_end, page', withQueries_append]
        · rw [turns_cons_of_error ht]
          exact (q.withQueries_nil ▸ skipped q).append (fills q)
      · refine .inr ⟨hp', q, calls, more, ?_, ?_, ?_⟩
        · exact (page' ▸ (Did.withQueries s.page asked).ways.toSameFailures).trans failures
        · rwa [page', withQueries_append] at called
        · rw [turns_cons_of_error ht]
          exact (q.withQueries_nil ▸ skipped q).append fills
    | ok e =>
      rw [ht] at resolved
      obtain ⟨s₂, called, failures, before⟩ := exists_callHook hh e s₁
      have failures₂ : s.page.SameFailures s₂.page :=
        (page ▸ (Did.withQueries s.page asked).ways.toSameFailures).trans failures
      obtain ⟨pr₁, s₃, calls, eq, hp₁, fills⟩ :=
        exists_fillField_resolved ways ht resolved (hp ▸ called) failures₂
      obtain ⟨pr', s', calls', asked', eq', hp', fills'⟩ :=
        exists_fillFields_hooked n lookups hook hfields hp₁ fills.did.ways
      refine ⟨pr', s', asked, (fillFields_cons eq).trans eq', asks,
        .inr ⟨hp', s₂.page, calls ++ calls', asked', failures₂, page ▸ before, ?_⟩⟩
      rw [turns_cons_of_ok ht]
      exact fills.append fills'

end Fields

end Perform

end Walkthrough
