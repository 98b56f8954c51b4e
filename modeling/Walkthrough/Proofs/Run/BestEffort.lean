import Walkthrough.Proofs.Run.Surfacing
import Walkthrough.Proofs.Scenario.Parts

/-! How far submitting a form is best effort. Each field is filled or skipped with a warning (`Tried`).
Then the form is sent (`Sending`), and whatever fails there as an interaction, or as something that is not
the program's own, is a warning. The other faults of the program's own are tolerated while a field is
filled, but not while the form is sent: a browser that raises one there ends the submission with it. -/

namespace Walkthrough

variable {π η : Type}

namespace Fault

variable {e : Fault}

/-- The program's own, but no failed interaction. -/
def IsStray (e : Fault) : Prop := e.isOwn = true ∧ e.isInteraction = false

instance (e : Fault) : Decidable e.IsStray := inferInstanceAs (Decidable (_ ∧ _))

theorem IsStray.wrap_eq (h : e.IsStray) (describe : String → String) : e.wrap describe = e := by
  cases e with
  | foreign => cases h.1
  | _ => rfl

theorem isInteraction_wrap (h : ¬e.IsStray) (describe : String → String) :
    (e.wrap describe).isInteraction = true := by
  cases e with
  | interaction | timeout | foreign => rfl
  | _ => exact absurd ⟨rfl, rfl⟩ h

end Fault

/-- A call that sends a form fails. -/
inductive Browser.SendFails (b : Browser π η) (s : Scene π) (e : Fault) (t : Scene π) : Prop
  | locate (failed : b.locate .submitControl s = (.error e, t))
  | click {control : η} (failed : b.click control s = (.error e, t))
  | submit {element : η} (failed : b.submit element s = (.error e, t))

namespace Perform

/-- What becomes of a fault of the browser: a warning that tells of the failed interaction, or the end of
the submission. -/
inductive Tolerated (described told : String) (e : Fault) : List String → Except Fault Unit → Prop
  | warned (h : ¬e.IsStray) :
    Tolerated described told e [told ++ (e.wrap fun text => described ++ text).message] (.ok ())
  | stray (h : e.IsStray) : Tolerated described told e [] (.error e)

/-- The submit control is looked up and clicked: the warnings of it and how it ends. -/
inductive Control (b : Browser π η) (s : Scene π) : List String → Except Fault Unit → Prop
  | clicked {control : η} {t u : Scene π} (found : b.locate .submitControl s = (.ok (some control), t))
    (done : b.click control t = (.ok (), u)) : Control b s [] (.ok ())
  | absent {t : Scene π} (found : b.locate .submitControl s = (.ok none, t)) :
    Control b s ["No submit control found on page"] (.ok ())
  | unfound {e : Fault} {t : Scene π} {warnings : List String} {ended : Except Fault Unit}
    (failed : b.locate .submitControl s = (.error e, t))
    (tolerated : Tolerated ("Lookup of " ++ Locator.submitControl.kind ++ " failed: ")
      "Submit control lookup failed: " e warnings ended) : Control b s warnings ended
  | unclicked {control : η} {e : Fault} {t u : Scene π} {warnings : List String}
    {ended : Except Fault Unit} (found : b.locate .submitControl s = (.ok (some control), t))
    (failed : b.click control t = (.error e, u))
    (tolerated : Tolerated "Failed to click submit control: " "Submit control click failed: " e warnings
      ended) : Control b s warnings ended

/-- The scene after a warning. -/
def warned (s : Scene π) (text : String) : Scene π :=
  { s with log := s.log ++ [⟨.warning, .perform, text⟩] }

/-- A form is sent from the field that was filled last, if there is one: the warnings of it and how it
ends. -/
inductive Sending (b : Browser π η) (s : Scene π) :
    Option η → List String → Except Fault Unit → Prop
  | control {warnings : List String} {ended : Except Fault Unit} (h : Control b s warnings ended) :
    Sending b s none warnings ended
  | submitted {element : η} {t : Scene π} (done : b.submit element s = (.ok (), t)) :
    Sending b s (some element) [] (.ok ())
  | stray {element : η} {e : Fault} {t : Scene π} (failed : b.submit element s = (.error e, t))
    (h : e.IsStray) : Sending b s (some element) [] (.error e)
  | again {element : η} {e : Fault} {t : Scene π} {warning : String} {warnings : List String}
    {ended : Except Fault Unit} (failed : b.submit element s = (.error e, t)) (h : ¬e.IsStray)
    (told : warning = "Form submit failed, trying a submit control: " ++
      (e.wrap fun text => "Failed to submit form: " ++ text).message)
    (control : Control b (warned t warning) warnings ended) :
    Sending b s (some element) (warning :: warnings) ended

/-- What a submission comes to: a try of every field, then of sending the form. It ends with a fault only
if a call that sends the form fails with a stray one. -/
structure Effort (r : Resolver π η) (fields : List (String × Option String)) (s : Scene π)
    (result : Except Fault Outcome) : Prop where
  tries : ∃ p s₁ warnings ended, fillFields r none {} fields s = (.ok p, s₁) ∧
    Tried r.browser fields p.warnings s s₁ ∧ Sending r.browser s₁ p.last warnings ended ∧
    result = ended.map fun _ => ⟨.submit, p.warnings ++ warnings⟩
  ends : ∀ e, result = .error e → e.IsStray ∧ ∃ t u, r.browser.SendFails t e u

/-! ## Where a stray fault comes from -/

section

variable {b : Browser π η} {s : Scene π} {e : Fault} {warnings : List String}

theorem Tolerated.of_error {described told : String} {e' : Fault}
    (h : Tolerated described told e' warnings (.error e)) : e = e' ∧ e.IsStray := by
  cases h with
  | stray h => exact ⟨rfl, h⟩

theorem Control.of_error (h : Control b s warnings (.error e)) :
    e.IsStray ∧ ∃ t u, b.SendFails t e u := by
  cases h with
  | unfound failed tolerated =>
    obtain ⟨rfl, stray⟩ := tolerated.of_error
    exact ⟨stray, _, _, .locate failed⟩
  | unclicked _ failed tolerated =>
    obtain ⟨rfl, stray⟩ := tolerated.of_error
    exact ⟨stray, _, _, .click failed⟩

theorem Sending.of_error {last : Option η} (h : Sending b s last warnings (.error e)) :
    e.IsStray ∧ ∃ t u, b.SendFails t e u := by
  cases h with
  | control h => exact h.of_error
  | stray failed h => exact ⟨h, _, _, .submit failed⟩
  | again _ _ _ control => exact control.of_error

end

/-! ## Sending a form -/

variable {r : Resolver π η} {p : Progress η} {s t : Scene π} {e : Fault}

theorem tolerate_wrap_of_not_isStray (h : ¬e.IsStray) (describe told : String → String) :
    (tolerate p told (e.wrap describe) : Act (Scene π) _) =
      warn p (told (e.wrap describe).message) :=
  if_pos (Fault.isInteraction_wrap h describe)

theorem tolerate_wrap_of_isStray (h : e.IsStray) (describe told : String → String) :
    (tolerate p told (e.wrap describe) : Act (Scene π) _) = Act.fail e := by
  rw [h.wrap_eq, tolerate, if_neg (Bool.eq_false_iff.mp h.2)]

theorem exists_tolerated (p : Progress η) (e : Fault) (described told : String) (s : Scene π) :
    ∃ warnings ended, Tolerated described told e warnings ended ∧
      (tolerate p (fun text => told ++ text) (e.wrap fun text => described ++ text) s).1 =
        ended.map fun _ => { p with warnings := p.warnings ++ warnings } := by
  by_cases h : e.IsStray
  · exact ⟨[], .error e, .stray h, by rw [tolerate_wrap_of_isStray h]; rfl⟩
  · exact ⟨_, .ok (), .warned h, by rw [tolerate_wrap_of_not_isStray h]; rfl⟩

theorem attempt_interact_eq {description : String} {step : Act (Scene π) Unit}
    {outcome : Except Fault Unit} (h : step s = (outcome, t)) :
    (interact description step).attempt s = (.ok (outcome.mapError <| Fault.wrap fun text =>
      "Failed to " ++ description ++ ": " ++ text), t) := by
  rw [Act.attempt_apply, interact, Act.mapFault, h]

theorem attempt_find_eq {outcome : Except Fault (Option η)}
    (h : r.browser.locate .submitControl s = (outcome, t)) :
    (r.find .submitControl).attempt s = (.ok (outcome.mapError <| Fault.wrap fun text =>
      "Lookup of " ++ Locator.submitControl.kind ++ " failed: " ++ text), t) := by
  rw [Act.attempt_apply, Resolver.find, Act.mapFault, h]

theorem exists_control (r : Resolver π η) (p : Progress η) (s : Scene π) :
    ∃ warnings ended, Control r.browser s warnings ended ∧
      (clickSubmit r none p s).1 =
        ended.map fun _ => { p with warnings := p.warnings ++ warnings } := by
  cases hl : r.browser.locate .submitControl s with | mk found t
  unfold clickSubmit
  rw [Act.bind_of_ok (attempt_find_eq hl)]
  match found with
  | .error e =>
    obtain ⟨warnings, ended, tolerated, eq⟩ := exists_tolerated p e _ _ t
    exact ⟨warnings, ended, .unfound hl tolerated, eq⟩
  | .ok none => exact ⟨_, .ok (), .absent hl, rfl⟩
  | .ok (some control) =>
    cases hc : r.browser.click control t with | mk done u
    -- Without a hook all that is tried is the click itself.
    have tried : (callHook none p.hooked control >>= fun _ =>
        interact "click submit control" (r.browser.click control)).attempt t = _ :=
      attempt_interact_eq hc
    dsimp only [Except.mapError]
    rw [Act.bind_of_ok tried]
    cases done with
    | ok =>
      refine ⟨[], .ok (), .clicked hl hc, ?_⟩
      rw [List.append_nil]
      rfl
    | error e =>
      obtain ⟨warnings, ended, tolerated, eq⟩ := exists_tolerated p e _ _ u
      exact ⟨warnings, ended, .unclicked hl hc tolerated, eq⟩

theorem exists_sending (r : Resolver π η) (count : Nat) (p : Progress η) (s : Scene π) :
    ∃ warnings ended, Sending r.browser s p.last warnings ended ∧
      (sendForm r none count p s).1 =
        ended.map fun _ => { p with warnings := p.warnings ++ warnings } := by
  obtain ⟨hooked, told, last⟩ := p
  cases last with
  | none =>
    obtain ⟨warnings, ended, control, eq⟩ := exists_control r ⟨hooked, told, none⟩ s
    exact ⟨warnings, ended, .control control, eq⟩
  | some element =>
    cases hs : r.browser.submit element s with | mk done t
    unfold sendForm
    dsimp only
    rw [Act.bind_of_ok (attempt_interact_eq hs)]
    cases done with
    | ok =>
      refine ⟨[], .ok (), .submitted hs, ?_⟩
      rw [List.append_nil]
      rfl
    | error e =>
      dsimp only [Except.mapError]
      by_cases h : e.IsStray
      · refine ⟨[], .error e, .stray hs h, ?_⟩
        rw [tolerate_wrap_of_isStray h]
        rfl
      · -- The submit control is tried on the scene that the warning leaves.
        rw [tolerate_wrap_of_not_isStray h]
        obtain ⟨warnings, ended, control, eq⟩ := exists_control r _ _
        refine ⟨_, ended, .again hs h rfl control, ?_⟩
        rw [List.append_cons]
        exact eq

end Perform

/-- Submitting is best effort: it returns with a warning for all that failed, unless the browser raises
a fault of the program's own that is no failed interaction while the form is sent. -/
theorem Strategy.submit_effort {type : Data} {entries : List (Data × Data)}
    {fields : List (String × Option String)} (built : Action.build type entries = .ok (.submit fields))
    (r : Resolver π η) (s : Scene π) :
    Perform.Effort r fields s (submit.perform r (.submit fields) none s).1 := by
  have shown : ∀ f ∈ fields, Text.isBlankText f.1 = false := by
    cases Action.build_eq_ok_iff.mp built with
    | bare => exact nofun
    | submit _ _ shown =>
      intro f hf
      obtain ⟨e, he, rfl⟩ := List.mem_map.mp hf
      exact shown e he
  obtain ⟨p, s₁, warnings, filled, hw, tried⟩ := Perform.exists_tried (r := r) shown {} s
  obtain rfl : p.warnings = warnings := hw
  obtain ⟨sent, ended, sending, eq⟩ := Perform.exists_sending r fields.length p s₁
  have result : (submit.perform r (.submit fields) none s).1 =
      ended.map fun _ => ⟨.submit, p.warnings ++ sent⟩ := by
    show (Perform.submit r none fields s).1 = _
    rw [Perform.submit, Act.bind_of_ok filled, Act.bind_apply]
    cases hs : Perform.sendForm r none fields.length p s₁ with | mk outcome s₂
    rw [hs] at eq
    obtain rfl : outcome = _ := eq
    cases ended <;> rfl
  refine ⟨⟨p, s₁, sent, ended, filled, tried, sending, result⟩, fun e he => ?_⟩
  rw [result] at he
  cases ended with
  | ok => cases he
  | error e' =>
    cases he
    exact sending.of_error

/-- A form in which one field is found, and neither the form nor its submit control takes anything. -/
def brokenSending : MemoryPage where
  elements := [("mail", { failures := [(.submit, .foreign ⟨.runtime, "stuck"⟩)] }),
    ("send", { failures := [(.click, .timeout "too late" 50 none)] })]
  places := [(.byAttribute "title" "Mail" [] false, "mail"), (.submitControl, "send")]

/-- The first field, the form and its submit control fail: three warnings and no fault. -/
theorem Strategy.submit_effort_brokenSending :
    let fields := [("Name", some "Ann"), ("Mail", some "a@b")]
    let s : Scene MemoryPage := { page := brokenSending }
    let r : Resolver MemoryPage String := { browser := memoryBrowser "FakeDriver" }
    let result := (submit.perform r (.submit fields) none s).1
    Action.build (.text "Submit") [(.text "fields", textEntries [("Name", "Ann"), ("Mail", "a@b")])] =
        .ok (.submit fields) ∧
      result = .ok ⟨.submit, ["Skipped field 'Name': Field not found: 'Name'",
        "Form submit failed, trying a submit control: Failed to submit form: stuck",
        "Submit control click failed: too late"]⟩ ∧
      Perform.Effort r fields s result := by
  intro fields s r result
  have built : Action.build (.text "Submit")
      [(.text "fields", textEntries [("Name", "Ann"), ("Mail", "a@b")])] = .ok (.submit fields) := rfl
  exact ⟨built, by decide +kernel, submit_effort built r s⟩

/-- A fault of the program's own ends a submission if looking for the submit control raises it. -/
theorem Strategy.submit_effort_stray :
    let s : Scene MemoryPage :=
      { page := { lookupFailures := [(.submitControl, .general "boom")] } }
    let r : Resolver MemoryPage String := { browser := memoryBrowser "FakeDriver" }
    Action.build (.text "Submit") [] = .ok (.submit []) ∧
      (submit.perform r (.submit []) none s).1 = .error (.general "boom") :=
  ⟨rfl, rfl⟩

end Walkthrough
