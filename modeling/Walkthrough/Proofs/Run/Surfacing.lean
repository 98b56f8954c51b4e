import Walkthrough.Proofs.Run.Registries
import Walkthrough.Proofs.Scenario.FrontEnds

/-! How failures of the browser surface. A step `EndsBy` a relation if it returns after calls of the browser
none of which failed, or ends by that relation after such calls. So a step that `Surfaces` ends at the first
call that fails, with that call's own fault or with a failed interaction that has the failure as its
cause. All this is said of every browser, the one in memory among them; as a browser may count its failed
calls in its page, no failure is passed over (`Surfaces.counted`). -/

namespace Walkthrough

variable {π η α β : Type}

namespace Browser

/-- The look-ups of a browser and its calls of elements. -/
inductive Calls (b : Browser π η) : {α : Type} → Act (Scene π) α → Prop
  | locate (l : Locator) : Calls b (b.locate l)
  | readAttribute (e : η) (key : String) : Calls b (b.readAttribute e key)
  | readText (e : η) : Calls b (b.readText e)
  | readValue (e : η) : Calls b (b.readValue e)
  | click (e : η) : Calls b (b.click e)
  | clear (e : η) : Calls b (b.clear e)
  | type (e : η) (text : Option String) : Calls b (b.type e text)
  | submit (e : η) : Calls b (b.submit e)
  | press (e : η) (key : String) : Calls b (b.press e key)
  | scroll (e : η) : Calls b (b.scroll e)
  | wait (e : η) (milliseconds : Int) : Calls b (b.wait e milliseconds)

/-- Calls that do not fail, and messages, lead from one scene to the other. -/
inductive Proceeds (b : Browser π η) (s : Scene π) : Scene π → Prop
  | refl : Proceeds b s s
  | said {t : Scene π} (h : Proceeds b s t) (entry : LogEntry) :
    Proceeds b s { t with log := t.log ++ [entry] }
  | called {t u : Scene π} {α : Type} {call : Act (Scene π) α} {a : α} (h : Proceeds b s t)
    (calls : b.Calls call) (ok : call t = (.ok a, u)) : Proceeds b s u

/-- A call fails. -/
inductive Raises (b : Browser π η) (s : Scene π) (e : Fault) (t : Scene π) : Prop
  | intro {α : Type} {call : Act (Scene π) α} (calls : b.Calls call) (failed : call s = (.error e, t))

variable {b : Browser π η} {s t u : Scene π}

theorem Proceeds.trans (h : b.Proceeds s t) (h' : b.Proceeds t u) : b.Proceeds s u := by
  induction h' with
  | refl => exact h
  | said _ entry ih => exact ih.said entry
  | called _ calls ok ih => exact ih.called calls ok

end Browser

/-- The fault in which a fault of the browser is reported: its own, or a failed interaction that it
caused. -/
inductive Reports : Fault → Fault → Prop
  | own {e : Fault} (h : e.isOwn = true) : Reports e e
  | foreign (x : Foreign) (before : String) :
    Reports (.foreign x) (.interaction (before ++ x.message) (some x))

/-- The faults in which no call failed. -/
inductive Finding : Fault → Prop
  | fieldNotFound (field : String) : Finding (.fieldNotFound field)
  | mismatch (target expected : String) (actual : Option String) :
    Finding (.mismatch target expected actual)
  | noStrategy (type : String) (available : Option (List String)) :
    Finding (.noStrategy type available)

/-- The step returns after calls that do not fail, or ends by `P` after such calls. -/
structure EndsBy (b : Browser π η) (P : Scene π → Fault → Scene π → Prop) (act : Act (Scene π) α) :
    Prop where
  returns : ∀ s a t, act s = (.ok a, t) → b.Proceeds s t
  fails : ∀ s fault t, act s = (.error fault, t) → ∃ u, b.Proceeds s u ∧ P u fault t

/-- A step ends with a finding, or a call fails and is reported. -/
inductive Surfacing (b : Browser π η) (s : Scene π) : Fault → Scene π → Prop
  | finding {fault : Fault} (h : Finding fault) : Surfacing b s fault s
  | raised {e fault : Fault} {t : Scene π} (h : b.Raises s e t) (reports : Reports e fault) :
    Surfacing b s fault t

/-- Failures of the browser surface. -/
abbrev Surfaces (b : Browser π η) (act : Act (Scene π) α) : Prop := EndsBy b (Surfacing b) act

namespace EndsBy

variable {b : Browser π η} {P : Scene π → Fault → Scene π → Prop} {act : Act (Scene π) α}
  {next : α → Act (Scene π) β}

theorem pure {a : α} : EndsBy b P (Pure.pure a) where
  returns := by
    rintro s _ _ ⟨⟩
    exact .refl
  fails := nofun

theorem say {level : Level} {channel : Channel} {text : String} :
    EndsBy b P (Scene.say level channel text) where
  returns := by
    rintro s _ _ ⟨⟩
    exact .said .refl _
  fails := nofun

theorem bind (h : EndsBy b P act) (h' : ∀ a, EndsBy b P (next a)) : EndsBy b P (act >>= next) where
  returns := fun s c t hs => by
    obtain ⟨a, u, ha, hn⟩ := Act.exists_of_bind_eq_ok hs
    exact (h.returns s a u ha).trans ((h' a).returns u c t hn)
  fails := fun s fault t hs => by
    rcases Act.cases_of_bind_eq_error hs with first | ⟨a, u, ha, rest⟩
    · exact h.fails s fault t first
    · obtain ⟨v, proceeds, ends⟩ := (h' a).fails u fault t rest
      exact ⟨v, (h.returns s a u ha).trans proceeds, ends⟩

/-- A single call. -/
theorem call (calls : b.Calls act) : EndsBy b b.Raises act where
  returns := fun _ _ _ ok => .called .refl calls ok
  fails := fun s _ _ failed => ⟨s, .refl, calls, failed⟩

theorem finding {fault : Fault} (h : Finding fault) : Surfaces b (Act.fail fault : Act (Scene π) α) where
  returns := nofun
  fails := by
    rintro s _ _ ⟨⟩
    exact ⟨s, .refl, .finding h⟩

theorem reports_wrap (e : Fault) (before : String) :
    Reports e (e.wrap fun text => before ++ text) := by
  cases e with
  | foreign x => exact .foreign x before
  | _ => exact .own rfl

/-- Calls whose failures are described. -/
theorem wrap (h : EndsBy b b.Raises act) (before : String) :
    Surfaces b (act.mapFault (Fault.wrap fun text => before ++ text)) where
  returns := fun s a t hs => by
    cases ha : act s with | mk outcome u
    rw [Act.mapFault, ha] at hs
    cases outcome with
    | error e => cases hs
    | ok a =>
      cases hs
      exact h.returns s _ _ ha
  fails := fun s fault t hs => by
    cases ha : act s with | mk outcome u
    rw [Act.mapFault, ha] at hs
    cases outcome with
    | error e =>
      cases hs
      obtain ⟨v, proceeds, raised⟩ := h.fails s _ _ ha
      exact ⟨v, proceeds, .raised raised (reports_wrap e before)⟩
    | ok a => cases hs

end EndsBy

/-- Whatever surfaces is a fault of the program's own. -/
theorem Surfaces.isOwn {b : Browser π η} {act : Act (Scene π) α} (h : Surfaces b act) {s : Scene π}
    {fault : Fault} (hf : (act s).1 = .error fault) : fault.isOwn = true := by
  obtain ⟨u, -, ends⟩ := h.fails s fault (act s).2 (Prod.ext hf rfl)
  cases ends with
  | finding h => cases h <;> rfl
  | raised _ reports =>
    cases reports with
    | own h => exact h
    | foreign => rfl

/-- A browser whose page counts the calls that failed. -/
structure Browser.Counts (b : Browser π η) (failed : π → Nat) : Prop where
  ok : ∀ {α : Type} {call : Act (Scene π) α}, b.Calls call → ∀ {s a t}, call s = (.ok a, t) →
    failed t.page = failed s.page
  error : ∀ {α : Type} {call : Act (Scene π) α}, b.Calls call → ∀ {s e t}, call s = (.error e, t) →
    failed t.page = failed s.page + 1

/-- No failure is passed over: the count shows a failed call exactly if the step ends with its report. -/
theorem Surfaces.counted {b : Browser π η} {failed : π → Nat} (counts : b.Counts failed)
    {act : Act (Scene π) α} (h : Surfaces b act) (s : Scene π) :
    (∀ a t, act s = (.ok a, t) → failed t.page = failed s.page) ∧
      ∀ fault t, act s = (.error fault, t) → failed t.page = failed s.page ∧ Finding fault ∨
        failed t.page = failed s.page + 1 ∧ ∃ u e, b.Raises u e t ∧ Reports e fault := by
  have kept {t u : Scene π} (h : b.Proceeds t u) : failed u.page = failed t.page := by
    induction h with
    | refl => rfl
    | said _ _ ih => exact ih
    | called _ calls ok ih => rw [counts.ok calls ok, ih]
  refine ⟨fun a t hs => kept (h.returns s a t hs), fun fault t hs => ?_⟩
  obtain ⟨u, proceeds, ends⟩ := h.fails s fault t hs
  cases ends with
  | finding hv => exact .inl ⟨kept proceeds, hv⟩
  | @raised e _ _ raised reports =>
    obtain ⟨calls, failure⟩ := raised
    exact .inr ⟨by rw [counts.error calls failure, kept proceeds], u, e, ⟨calls, failure⟩, reports⟩

/-! ## Resolving and comparing -/

namespace Resolver

variable (r : Resolver π η)

theorem surfaces_find (l : Locator) : Surfaces r.browser (r.find l) := .wrap (.call (.locate l)) _

theorem endsBy_run (b : Browser π η) (field : String) (l : Lookup) :
    EndsBy b b.Raises (l.run b field) := by
  cases l with
  | labelFor =>
    refine .bind (.call (.locate _)) fun label => ?_
    cases label with
    | none => exact .pure
    | some label =>
      refine .bind (.call (.readAttribute _ _)) fun id => ?_
      split
      · exact .pure
      · exact .pure
      · exact .call (.locate _)
  | _ => exact .call (.locate _)

theorem surfaces_firstOf (field : String) (ls : List Lookup) :
    Surfaces r.browser (r.firstOf field ls) := by
  induction ls with
  | nil => exact .bind .say fun _ => .finding (.fieldNotFound field)
  | cons l ls ih =>
    refine .bind (.wrap (endsBy_run r.browser field l) _) fun found => ?_
    cases found with
    | some element => exact .bind .say fun _ => .pure
    | none => exact .bind .say fun _ => ih

/-- A name that shows something is never refused. -/
theorem surfaces_resolve {field : String} (shown : Text.isBlankText field = false) :
    Surfaces r.browser (r.resolve (some field)) := by
  rw [resolve, shown]
  exact r.surfaces_firstOf field _

theorem surfaces_valueOf {field : String} (shown : Text.isBlankText field = false) :
    Surfaces r.browser (r.valueOf field) :=
  .bind (r.surfaces_resolve shown) fun element => .wrap (.call (.readValue element)) _

end Resolver

theorem Run.surfaces_checkExpected (r : Resolver π η) {es : List Expected}
    (shown : ∀ e ∈ es, Text.isBlankText e.target = false) :
    Surfaces r.browser (checkExpected r es) := by
  induction es with
  | nil => exact .pure
  | cons e es ih =>
    obtain ⟨he, hes⟩ := List.forall_mem_cons.mp shown
    refine .bind (r.surfaces_valueOf he) fun actual => ?_
    split
    · exact .bind .say fun _ => ih hes
    · exact .finding (.mismatch _ _ _)

/-! ## Clicks and entries -/

namespace Perform

variable (r : Resolver π η)

theorem surfaces_interact {b : Browser π η} {step : Act (Scene π) Unit} (calls : b.Calls step)
    (description : String) : Surfaces b (interact description step) := .wrap (.call calls) _

theorem surfaces_click {target : String} (shown : Text.isBlankText target = false) :
    Surfaces r.browser (click r none (some target)) := by
  have found : Surfaces r.browser (clickTarget r (some target)) := by
    refine .bind (r.surfaces_find _) fun control => ?_
    cases control with
    | some element => exact .pure
    | none => exact .bind .say fun _ => r.surfaces_resolve shown
  refine .bind found fun element => .bind .pure fun _ => ?_
  exact .bind (surfaces_interact (.click element) _) fun _ => .bind .say fun _ => .pure

theorem surfaces_prepare (options : EnterOptions) (field : String) (element : η) :
    Surfaces r.browser (prepare r options field element) := by
  have scrolled : Surfaces r.browser (if options.scrollIntoView then
      interact ("scroll '" ++ field ++ "' into view") (r.browser.scroll element) else pure ()) := by
    split
    · exact surfaces_interact (.scroll element) _
    · exact .pure
  unfold prepare
  dsimp only
  split
  · exact scrolled
  · exact scrolled
  · exact .bind (surfaces_interact (.wait element _) _) fun _ => scrolled

theorem surfaces_fill (field : String) (value : Option String) (element : η) :
    Surfaces r.browser (fill r field value element) :=
  .bind (surfaces_interact (.clear element) _) fun _ => surfaces_interact (.type element value) _

/-- A field that shows something and a value are all that is asked for. -/
theorem surfaces_enter (options : EnterOptions) {field : String} (value : String)
    (shown : Text.isBlankText field = false) :
    Surfaces r.browser (enter options r none (some field) (some value)) := by
  have named : field ≠ "" := by
    rintro rfl
    cases shown
  unfold enter
  split
  · next h => cases h
  · next h => exact absurd (Option.some.inj h) named
  · next h => cases h
  · next h h' =>
    cases h
    cases h'
    refine .bind (r.surfaces_resolve shown) fun element => ?_
    refine .bind (surfaces_prepare r options field element) fun _ => .bind .pure fun _ => ?_
    refine .bind (surfaces_fill r field _ element) fun _ => ?_
    cases options.pressEnter with
    | true => exact .bind (surfaces_interact (.press element "Enter") _) fun _ => .bind .say fun _ => .pure
    | false => exact .bind .say fun _ => .pure

/-! ## Submissions -/

/-- The fields of a form, tried one after the other, and their warnings. A field is filled by calls that
do not fail, or it is skipped with a warning that holds the message of the fault it ended with. -/
inductive Tried (b : Browser π η) :
    List (String × Option String) → List String → Scene π → Scene π → Prop
  | nil {s t : Scene π} (h : b.Proceeds s t) : Tried b [] [] s t
  | filled {name value rest warnings} {s t u : Scene π} (h : b.Proceeds s u)
    (more : Tried b rest warnings u t) : Tried b ((name, value) :: rest) warnings s t
  | skipped {name value rest warnings fault} {s t u v : Scene π} (h : b.Proceeds s u)
    (ends : Surfacing b u fault v) (more : Tried b rest warnings { v with
      log := v.log ++ [⟨.warning, .perform, "Skipped field '" ++ name ++ "': " ++ fault.message⟩] } t) :
    Tried b ((name, value) :: rest)
      (("Skipped field '" ++ name ++ "': " ++ fault.message) :: warnings) s t

variable {r}

/-- A field never ends the submission: it is filled, or it is skipped with a warning. -/
theorem exists_fillField {name : String} (shown : Text.isBlankText name = false)
    (value : Option String) (p : Progress η) (s : Scene π) :
    ∃ q t, fillField r none p name value s = (.ok q, t) ∧
      ((r.browser.Proceeds s t ∧ q.warnings = p.warnings) ∨
        ∃ u v fault, r.browser.Proceeds s u ∧ Surfacing r.browser u fault v ∧
          t = { v with log := v.log ++
            [⟨.warning, .perform, "Skipped field '" ++ name ++ "': " ++ fault.message⟩] } ∧
          q.warnings = p.warnings ++ ["Skipped field '" ++ name ++ "': " ++ fault.message]) := by
  have resolve := r.surfaces_resolve shown
  cases hr : r.resolve (some name) s with | mk found s₁
  have resolved : (r.resolve (some name)).attempt s = (.ok found, s₁) := by
    rw [Act.attempt_apply, hr]
  unfold fillField
  dsimp only
  rw [Act.bind_of_ok resolved]
  cases found with
  | error fault =>
    have own : fault.isOwn = true := resolve.isOwn (congrArg Prod.fst hr)
    obtain ⟨u, proceeds, ends⟩ := resolve.fails _ _ _ hr
    dsimp only
    rw [if_pos own]
    exact ⟨_, _, rfl, .inr ⟨u, s₁, fault, proceeds, ends, rfl, rfl⟩⟩
  | ok element =>
    have fill_surfaces := surfaces_fill r name value element
    have proceeds := resolve.returns _ _ _ hr
    cases hf : fill r name value element s₁ with | mk done s₂
    -- Without a hook all that can fail here is the filling itself.
    have filled : (callHook none p.hooked element >>= fun _ => fill r name value element).attempt s₁ =
        (.ok done, s₂) := by
      rw [Act.attempt_apply]
      show (Except.ok (fill r name value element s₁).1, (fill r name value element s₁).2) = _
      rw [hf]
    dsimp only
    rw [Act.bind_of_ok filled]
    cases done with
    | error fault =>
      have own : fault.isOwn = true := fill_surfaces.isOwn (congrArg Prod.fst hf)
      obtain ⟨u, proceeds', ends⟩ := fill_surfaces.fails _ _ _ hf
      dsimp only
      rw [if_pos own]
      exact ⟨_, _, rfl, .inr ⟨u, s₂, fault, proceeds.trans proceeds', ends, rfl, rfl⟩⟩
    | ok _ => exact ⟨_, _, rfl, .inl ⟨proceeds.trans (fill_surfaces.returns _ _ _ hf), rfl⟩⟩

theorem exists_tried {fields : List (String × Option String)}
    (shown : ∀ f ∈ fields, Text.isBlankText f.1 = false) (p : Progress η) (s : Scene π) :
    ∃ q t warnings, fillFields r none p fields s = (.ok q, t) ∧
      q.warnings = p.warnings ++ warnings ∧ Tried r.browser fields warnings s t := by
  -- The warnings are those of the fields still to come, whatever the progress had before.
  induction fields generalizing p s with
  | nil => exact ⟨p, s, [], rfl, (List.append_nil _).symm, .nil .refl⟩
  | cons f fields ih =>
    obtain ⟨name, value⟩ := f
    obtain ⟨hf, hfields⟩ := List.forall_mem_cons.mp shown
    obtain ⟨p₁, s₁, first, result⟩ := exists_fillField (r := r) hf value p s
    obtain ⟨q, t, warnings, others, hw, tried⟩ := ih hfields p₁ s₁
    have all : fillFields r none p ((name, value) :: fields) s = (.ok q, t) := by
      rw [fillFields, Act.bind_of_ok first, others]
    rcases result with ⟨proceeds, hp⟩ | ⟨u, v, fault, proceeds, ends, rfl, hp⟩
    · exact ⟨q, t, warnings, all, hp ▸ hw, .filled proceeds tried⟩
    · refine ⟨q, t, _, all, ?_, .skipped proceeds ends tried⟩
      rw [hw, hp, List.append_assoc, List.singleton_append]

/-- The rest of a submission: the warnings stay, and it fails with faults of the program's own only. -/
structure CarriesOn (p : Progress η) (act : Act (Scene π) (Progress η)) : Prop where
  warnings : ∀ s q t, act s = (.ok q, t) → p.warnings <+: q.warnings
  own : ∀ s fault t, act s = (.error fault, t) → fault.isOwn = true

namespace CarriesOn

variable {p : Progress η}

theorem warn (text : String) : CarriesOn p (Perform.warn p text : Act (Scene π) _) where
  warnings := by
    rintro s _ _ ⟨⟩
    exact List.prefix_append _ _
  own := nofun

theorem tolerate (describe : String → String) {fault : Fault} (own : fault.isOwn = true) :
    CarriesOn p (Perform.tolerate p describe fault : Act (Scene π) _) := by
  unfold Perform.tolerate
  split
  · exact .warn _
  · exact ⟨nofun, by rintro s _ _ ⟨⟩; exact own⟩

theorem bind {act : Act (Scene π) (Progress η)} {next : Progress η → Act (Scene π) (Progress η)}
    (h : CarriesOn p act) (h' : ∀ q, CarriesOn q (next q)) : CarriesOn p (act >>= next) where
  warnings := fun s q t hs => by
    obtain ⟨q₁, s₁, first, rest⟩ := Act.exists_of_bind_eq_ok hs
    exact (h.warnings s q₁ s₁ first).trans ((h' q₁).warnings s₁ q t rest)
  own := fun s fault t hs => by
    rcases Act.cases_of_bind_eq_error hs with first | ⟨q, s₁, -, rest⟩
    · exact h.own s fault t first
    · exact (h' q).own s₁ fault t rest

/-- A step that surfaces is tried, and what follows depends on how it ended. -/
theorem attempt {b : Browser π η} {act : Act (Scene π) α}
    {next : Except Fault α → Act (Scene π) (Progress η)} (h : Surfaces b act)
    (ok : ∀ a, CarriesOn p (next (.ok a)))
    (error : ∀ fault, fault.isOwn = true → CarriesOn p (next (.error fault))) :
    CarriesOn p (act.attempt >>= next) := by
  have either (s : Scene π) : CarriesOn p (next (act s).1) := by
    cases ho : (act s).1 with
    | ok a => exact ok a
    | error fault => exact error fault (h.isOwn ho)
  exact ⟨fun s => (either s).warnings (act s).2, fun s => (either s).own (act s).2⟩

theorem say {level : Level} {channel : Channel} {text : String} :
    CarriesOn p (Scene.say level channel text >>= fun _ => Pure.pure p : Act (Scene π) _) where
  warnings := by
    rintro s _ _ ⟨⟩
    exact List.prefix_rfl
  own := nofun

end CarriesOn

theorem carriesOn_clickSubmit (p : Progress η) : CarriesOn p (clickSubmit r none p) := by
  refine .attempt (r.surfaces_find _) (fun control => ?_) fun fault own => .tolerate _ own
  cases control with
  | none => exact .warn _
  | some control =>
    have clicked : Surfaces r.browser (callHook none p.hooked control >>= fun _ =>
        interact "click submit control" (r.browser.click control)) :=
      .bind .pure fun _ => surfaces_interact (.click control) _
    exact .attempt clicked (fun _ => .say) fun fault own => .tolerate _ own

theorem carriesOn_sendForm (count : Nat) (p : Progress η) :
    CarriesOn p (sendForm r none count p) := by
  unfold sendForm
  split
  · exact carriesOn_clickSubmit p
  · next element _ =>
    refine .attempt (surfaces_interact (.submit element) _) (fun _ => .say) fun fault own => ?_
    exact .bind (.tolerate _ own) fun q => carriesOn_clickSubmit q

/-- The warnings of the fields are the first of the submission. -/
theorem exists_warnings {fields : List (String × Option String)} {s t : Scene π} {outcome : Outcome}
    (h : submit r none fields s = (.ok outcome, t)) : ∃ p s₁,
      fillFields r none {} fields s = (.ok p, s₁) ∧ p.warnings <+: outcome.warnings := by
  obtain ⟨p, s₁, filled, rest⟩ := Act.exists_of_bind_eq_ok h
  obtain ⟨q, s₂, sent, last⟩ := Act.exists_of_bind_eq_ok rest
  cases last
  exact ⟨p, s₁, filled, (carriesOn_sendForm _ p).warnings s₁ q _ sent⟩

theorem isOwn_of_submit {fields : List (String × Option String)}
    (shown : ∀ f ∈ fields, Text.isBlankText f.1 = false) {s : Scene π} {fault : Fault}
    (h : (submit r none fields s).1 = .error fault) : fault.isOwn = true := by
  obtain ⟨p, s₁, -, filled, -⟩ := exists_tried (r := r) shown {} s
  rw [submit, Act.bind_of_ok filled, Act.bind_apply] at h
  cases hs : sendForm r none fields.length p s₁ with | mk outcome s₂
  rw [hs] at h
  cases outcome with
  | ok q => cases h
  | error e =>
    cases h
    exact (carriesOn_sendForm _ p).own s₁ _ _ hs

/-! ## Actions -/

theorem surfaces_perform {a : Action} (h : a.Regular) (type : a.type ≠ .submit)
    (options : EnterOptions) : Surfaces r.browser (perform options r none a) := by
  cases h with
  | click shown => exact surfaces_click r shown
  | enter shown => exact surfaces_enter r options _ shown
  | submit => exact absurd rfl type

theorem shown_of_regular {fields : List (String × Option String)}
    (h : (Action.submit fields).Regular) : ∀ f ∈ fields, Text.isBlankText f.1 = false := by
  cases h with
  | submit shown =>
    intro f hf
    obtain ⟨e, he, rfl⟩ := List.mem_map.mp hf
    exact shown e he

theorem isOwn_of_perform {a : Action} (h : a.Regular) (options : EnterOptions) {s : Scene π}
    {fault : Fault} (hf : (perform options r none a s).1 = .error fault) : fault.isOwn = true := by
  by_cases type : a.type = .submit
  · cases a with
    | submit fields => exact isOwn_of_submit (shown_of_regular h) hf
    | click | enter => cases type
  · exact (surfaces_perform h type options).isOwn hf

end Perform

/-! ## Pages of scenarios -/

/-- A scenario that a front-end accepts. -/
def Scenario.Accepted [StackRoom] (s : Scenario) : Prop :=
  (∃ format text source, Scenario.ofText format text source = .ok s) ∨ ∃ d, Scenario.ofData d = .ok s

theorem Scenario.Accepted.regular [StackRoom] {s : Scenario} (h : s.Accepted) : s.Regular := by
  have ofData {d : Data} (h : Scenario.ofData d = .ok s) : s.Regular :=
    (Document.regular_of_scenarioOf (ofData_eq_ok_iff.mp h)).1
  rcases h with ⟨format, text, source, h⟩ | ⟨d, h⟩
  · cases format with
    | script => exact (Script.writable_of_parse (ofText_script_eq_ok_iff.mp h)).regular
    | json =>
      have h := Except.mapError_eq_ok_iff.mp h
      unfold ofJson at h
      split at h
      · cases h
      · exact ofData h
    | yaml =>
      have h := Except.mapError_eq_ok_iff.mp h
      unfold ofYaml at h
      split at h
      · cases h
      · exact ofData h
  · exact ofData h

/-- How failures of the browser surface when a page is checked and acted on without a hook. -/
structure SurfacesOn (r : Resolver π η) (registry : Registry π η) (page : Page) : Prop where
  own : ∀ s fault, (Run.checkExpected r page.expected s).1 = .error fault ∨
    (registry.dispatch r (.action page.action) none s).1 = .error fault → fault.isOwn = true
  expected : Surfaces r.browser (Run.checkExpected r page.expected)
  action : page.action.type ≠ .submit →
    Surfaces r.browser (registry.dispatch r (.action page.action) none)
  fields : ∀ fields, page.action = .submit fields → ∀ s, ∃ p t,
    Perform.fillFields r none {} fields s = (.ok p, t) ∧
      Perform.Tried r.browser fields p.warnings s t
  warnings : ∀ fields, page.action = .submit fields → ∀ s outcome t,
    registry.dispatch r (.action page.action) none s = (.ok outcome, t) → ∃ s₁ p s₂,
      r.browser.Proceeds s s₁ ∧ Perform.fillFields r none {} fields s₁ = (.ok p, s₂) ∧
        p.warnings <+: outcome.warnings

/-- On the pages of accepted scenarios failures of the browser never come out raw. -/
theorem Registry.surfacesOn [StackRoom] {scenario : Scenario} (accepted : scenario.Accepted) {page : Page}
    (hp : page ∈ scenario.pages) {registry : Registry π η} (standard : registry.IsStandard)
    (r : Resolver π η) : SurfacesOn r registry page := by
  obtain ⟨-, expected, action⟩ := accepted.regular.pages page hp
  have checked := Run.surfaces_checkExpected r expected
  have dispatched := standard.dispatch_cases r page.action none
  have own (s : Scene π) (fault : Fault)
      (h : (registry.dispatch r (.action page.action) none s).1 = .error fault) :
      fault.isOwn = true := by
    rcases dispatched with eq | ⟨options, text, eq⟩
    · rw [eq] at h
      cases h
      rfl
    · rw [eq] at h
      exact Perform.isOwn_of_perform action options h
  refine ⟨fun s fault h => h.elim checked.isOwn (own s fault), checked, fun type => ?_,
    fun fields is_submit s => ?_, fun fields is_submit s outcome t h => ?_⟩
  · rcases dispatched with eq | ⟨options, text, eq⟩
    · rw [eq]
      exact .finding (.noStrategy _ _)
    · rw [eq]
      exact .bind .say fun _ => Perform.surfaces_perform action type options
  · obtain ⟨p, t, warnings, filled, hw, tried⟩ :=
      Perform.exists_tried (r := r) (Perform.shown_of_regular (is_submit ▸ action)) {} s
    rw [List.nil_append] at hw
    exact ⟨p, t, filled, hw ▸ tried⟩
  · rcases dispatched with eq | ⟨options, text, eq⟩
    · rw [eq] at h
      cases h
    · rw [eq, is_submit] at h
      obtain ⟨_, s₁, said, performed⟩ := Act.exists_of_bind_eq_ok h
      cases said
      obtain ⟨p, s₂, filled, hw⟩ := Perform.exists_warnings performed
      exact ⟨_, p, s₂, .said .refl _, filled, hw⟩

/-- A click that the browser fails. -/
theorem Registry.surfacesOn_failing_click :
    let page : Page := ⟨"p", .click (some "Go"), []⟩
    let boom : Foreign := ⟨.runtime, "boom"⟩
    let button : PageElement := { failures := [(.click, .foreign boom)] }
    let s : Scene MemoryPage :=
      { page := { elements := [("go", button)], places := [(.clickable (some "Go"), "go")] } }
    let r : Resolver MemoryPage String := { browser := memoryBrowser "FakeDriver" }
    let registry : Registry MemoryPage String :=
      ⟨[(.click, .click), (.enter, .enter {}), (.submit, .submit)]⟩
    let fault : Fault := .interaction "Failed to click 'Go': boom" (some boom)
    Scenario.Accepted ⟨"h", [], [page]⟩ ∧ registry.IsStandard ∧
      (registry.dispatch r (.action page.action) none s).1 = .error fault ∧ fault.isOwn = true ∧
      ∃ u e t, r.browser.Raises u e t ∧ Reports e fault := by
  have read : Scenario.ofText .script "Host: h\nPage p\naction:\ntype: Click\ntarget: Go" none =
    .ok ⟨"h", [], [⟨"p", .click (some "Go"), []⟩]⟩ := rfl
  intro page boom button s r registry fault
  have accepted : Scenario.Accepted ⟨"h", [], [page]⟩ := .inl ⟨_, _, _, read⟩
  have standard : registry.IsStandard :=
    ⟨Strategy.standard {}, s, s, fun x hx => ⟨{}, hx⟩, rfl⟩
  have surfaces := registry.surfacesOn accepted List.mem_cons_self standard r
  have failed : (registry.dispatch r (.action page.action) none s).1 = .error fault := rfl
  obtain ⟨u, -, ends⟩ := (surfaces.action nofun).fails s fault _ (Prod.ext failed rfl)
  refine ⟨accepted, standard, failed, surfaces.own s fault (.inr failed), ?_⟩
  have interaction (text : String) (cause : Option Foreign) : ¬Finding (.interaction text cause) :=
    nofun
  cases ends with
  | finding h => exact absurd h (interaction _ _)
  | raised h reports => exact ⟨u, _, _, h, reports⟩

end Walkthrough
