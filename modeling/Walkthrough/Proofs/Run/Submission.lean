import Walkthrough.Proofs.Run.Filling

/-! Submitting a form in memory. `Account` says all that a submission does itself, apart from its hook: which
fields it fills and which it skips, when it submits the form, looks the submit control up and clicks it, and
what the fields show in the end. `exists_account` gives the account of every submission that returns. -/

namespace Walkthrough

open MemoryPage

/-- The submit control that is found on a page. -/
def MemoryPage.control (p : MemoryPage) : Except Fault (Option String) := (p.locate .submitControl).1

theorem MemoryPage.SameWays.control {p q : MemoryPage} (h : p.SameWays q) : q.control = p.control := by
  simp only [MemoryPage.control, locate, h.lookups, h.places]
  split <;> rfl

namespace Perform

variable {n : String} {lookups : List Lookup} {hook : Hook MemoryPage String}
  {pr pr' : Progress String} {s s' : Scene MemoryPage}

/-- The beginning of a warning that a field is skipped. -/
def TellsOfSkip (warning : String) : Prop := "Skipped field".toList <+: warning.toList

theorem not_tellsOfSkip {warning : String} {c : Char} (h : warning.toList[1]? = some c)
    (hc : c ≠ 'k') : ¬ TellsOfSkip warning := by
  rintro ⟨rest, eq⟩
  rw [← eq] at h
  cases h
  exact hc rfl

theorem not_tellsOfSkip_append {text rest : String} {c : Char} (h : text.toList[1]? = some c)
    (hc : c ≠ 'k') : ¬ TellsOfSkip (text ++ rest) := by
  refine not_tellsOfSkip ?_ hc
  rw [String.toList_append]
  obtain ⟨hl, rfl⟩ := List.getElem?_eq_some_iff.mp h
  exact List.getElem?_append_left hl ▸ h

/-- Nothing fails in sending the form: in submitting it with the field that was filled last or, if there is
none, in finding the submit control and clicking it. -/
def Sends (p : MemoryPage) : Option String → Prop
  | none => ∃ c, p.control = .ok (some c) ∧ ¬ p.Fails c .click
  | some e => ¬ p.Fails e .submit

/-- What is done for a form once its fields are filled: the touches, the look-ups and the warnings. -/
structure Ending (last : Option String) (p : MemoryPage) (calls : List (String × Touch))
    (asked : List Locator) (warnings : List String) : Prop where
  plain : ∀ c ∈ calls, ¬ c.2.Edits
  submits : calls.filter (·.2 = .submit) = last.toList.map (·, .submit)
  asks : .submitControl ∈ asked ↔ last = none ∨ ∃ e ∈ last, p.Fails e .submit
  clicks : (calls.filter (·.2 = .click)).length ≤ 1
  control : ∀ c ∈ calls, c.2 = .click → p.control = .ok (some c.1)
  once : (calls.filter fun c => (c.2 = .submit ∨ c.2 = .click) ∧ ¬ p.Fails c.1 c.2.call).length ≤ 1
  others : ∀ w ∈ warnings, ¬ TellsOfSkip w
  clean : warnings = [] ↔ Sends p last

/-! ## The submit control -/

theorem attempt_find (n : String) (lookups : List Lookup) (s : Scene MemoryPage) :
    ∃ s₁ describe, s₁.page = s.page.withQueries [.submitControl] ∧
      ((Resolver.onMemory n lookups).find .submitControl).attempt s =
        (.ok (s.page.control.mapError (Fault.wrap describe)), s₁) := by
  refine ⟨_, _, ?_, rfl⟩
  change (s.page.locate .submitControl).2 = _
  unfold locate
  dsimp only
  split <;> rfl

/-- An attempt to touch an element after the hook. -/
theorem attempt_touch (description : String) {e : String} {t : Touch} {called : Bool}
    {s₁ s₂ : Scene MemoryPage} (h : callHook hook called e s₁ = (.ok (), s₂)) :
    (callHook hook called e >>= fun _ =>
        interact description (Scene.onPage (touch e t))).attempt s₁ =
      (.ok (described description (touch e t s₂.page).1),
        { s₂ with page := (touch e t s₂.page).2 }) := by
  rw [Act.attempt_apply, Act.bind_of_ok h, interact_touch]

theorem tolerate_eq_ok {describe : String → String} {fault : Fault}
    (h : tolerate pr describe fault s = (.ok pr', s')) :
    pr' = { pr with warnings := pr.warnings ++ [describe fault.message] } ∧ s'.page = s.page := by
  unfold tolerate at h
  split at h
  · rw [warn_apply] at h
    cases h
    exact ⟨rfl, rfl⟩
  · cases h

theorem ending_unclicked {p : MemoryPage} {warning : String} (hw : ¬ TellsOfSkip warning)
    (h : ∀ c, p.control ≠ .ok (some c)) : Ending none p [] [.submitControl] [warning] where
  plain := nofun
  submits := rfl
  asks := ⟨fun _ => .inl rfl, fun _ => List.mem_cons_self⟩
  clicks := Nat.zero_le 1
  control := nofun
  once := Nat.zero_le 1
  others := List.forall_mem_singleton.mpr hw
  clean := ⟨nofun, fun ⟨c, hc, _⟩ => (h c hc).elim⟩

theorem ending_clicked {p : MemoryPage} {c : String} {warnings : List String}
    (h : p.control = .ok (some c)) (hw : ∀ w ∈ warnings, ¬ TellsOfSkip w)
    (clean : warnings = [] ↔ ¬ p.Fails c .click) :
    Ending none p [(c, .click)] [.submitControl] warnings where
  plain := List.forall_mem_singleton.mpr id
  submits := rfl
  asks := ⟨fun _ => .inl rfl, fun _ => List.mem_cons_self⟩
  clicks := Nat.le_refl 1
  control := by
    rintro _ hc -
    rw [List.mem_singleton.mp hc, h]
  once := List.length_filter_le _ _
  others := hw
  clean := clean.trans ⟨fun hf => ⟨c, h, hf⟩, fun ⟨c', hc, hf⟩ => by
    rw [h] at hc
    cases hc
    exact hf⟩

/-- What looking for the submit control and clicking it comes to. The click is on the page that the hook
leaves, if it is called only now. -/
theorem exists_clickSubmit (hh : hook.Harmless)
    (h : clickSubmit (.onMemory n lookups) hook pr s = (.ok pr', s')) :
    ∃ q calls rest, pr' = { pr with warnings := pr.warnings ++ rest } ∧
      Ending none s.page calls [.submitControl] rest ∧
      (pr.hooked = true → q = s.page.withQueries [.submitControl]) ∧
      (pr.hooked = false → Called hook calls (s.page.withQueries [.submitControl]) q) ∧
      s.page.SameFailures q ∧ q.Did calls [] s'.page := by
  obtain ⟨s₁, describe, page₁, found⟩ := attempt_find n lookups s
  have asked : s.page.SameFailures s₁.page :=
    page₁ ▸ (Did.withQueries s.page [.submitControl]).ways.toSameFailures
  rw [← page₁]
  unfold clickSubmit at h
  rw [Act.bind_of_ok found] at h
  cases hc : s.page.control with
  | error fault =>
    rw [hc] at h
    obtain ⟨rfl, page⟩ := tolerate_eq_ok h
    refine ⟨_, [], _, rfl, ending_unclicked (not_tellsOfSkip_append rfl (by decide)) ?_,
      fun _ => rfl, fun _ => .never (.inr rfl), asked, page ▸ .rfl⟩
    rw [hc]
    exact nofun
  | ok control =>
    rw [hc] at h
    cases control with
    | none =>
      cases h
      refine ⟨_, [], _, rfl, ending_unclicked (not_tellsOfSkip rfl (by decide)) ?_,
        fun _ => rfl, fun _ => .never (.inr rfl), asked, .rfl⟩
      rw [hc]
      exact nofun
    | some c =>
      obtain ⟨s₂, called, failures, before, after⟩ : ∃ s₂, callHook hook pr.hooked c s₁ = (.ok (), s₂) ∧
          s₁.page.SameFailures s₂.page ∧ (pr.hooked = true → s₂.page = s₁.page) ∧
          (pr.hooked = false → ∀ calls, Called hook calls s₁.page s₂.page) := by
        cases pr.hooked with
        | true => exact ⟨s₁, callHook_called hook c s₁, .rfl, fun _ => rfl, nofun⟩
        | false =>
          obtain ⟨s₂, called, failures, h⟩ := exists_callHook hh c s₁
          exact ⟨s₂, called, failures, nofun, fun _ => h⟩
      have did := did_touch s₂.page c (t := .click) fun _ => rfl
      have ends : (touch c .click s₂.page).1 = .ok () ↔ ¬ s.page.Fails c .click := by
        rw [touch_ok_iff (fun _ => rfl) fun e => ⟨e, rfl⟩, ← (asked.trans failures).fails_iff]
        rfl
      have touched : (callHook hook pr.hooked c >>= fun _ => interact "click submit control"
          ((Resolver.onMemory n lookups).browser.click c)).attempt s₁ = _ :=
        attempt_touch "click submit control" (t := .click) called
      dsimp only [Except.mapError] at h
      rw [Act.bind_of_ok touched] at h
      cases ht : (touch c .click s₂.page).1 with
      | ok _ =>
        rw [ht] at h
        cases h
        refine ⟨s₂.page, [(c, .click)], [], ?_, ending_clicked hc nofun ?_, before,
          fun hf => after hf _, asked.trans failures, did⟩
        · rw [List.append_nil]
        · exact ⟨fun _ => ends.mp ht, fun _ => rfl⟩
      | error fault =>
        rw [ht] at h
        obtain ⟨rfl, page⟩ := tolerate_eq_ok h
        refine ⟨s₂.page, [(c, .click)], _, rfl, ending_clicked hc
          (List.forall_mem_singleton.mpr (not_tellsOfSkip_append rfl (by decide))) ?_, before,
          fun hf => after hf _, asked.trans failures, page ▸ did⟩
        rw [← ends, ht]
        exact ⟨nofun, nofun⟩

/-! ## Sending the form -/

/-- The form of the field that was filled last is submitted. -/
theorem ending_submitted {p : MemoryPage} {e : String} (h : ¬ p.Fails e .submit) :
    Ending (some e) p [(e, .submit)] [] [] where
  plain := List.forall_mem_singleton.mpr id
  submits := rfl
  asks := ⟨nofun, fun h' => by
    rcases h' with h' | ⟨e', he, hf⟩
    · cases h'
    · cases he
      exact (h hf).elim⟩
  clicks := Nat.zero_le 1
  control := by
    rintro _ hc hclick
    rw [List.mem_singleton.mp hc] at hclick
    cases hclick
  once := List.length_filter_le _ _
  others := nofun
  clean := ⟨fun _ => h, fun _ => rfl⟩

/-- If submitting the form fails, the submit control is what is left. -/
theorem Ending.afterSubmit {p q : MemoryPage} {e warning : String}
    {calls : List (String × Touch)} {warnings : List String}
    (h : Ending none q calls [.submitControl] warnings) (ways : p.SameWays q) (hf : p.Fails e .submit)
    (hw : ¬ TellsOfSkip warning) :
    Ending (some e) p ((e, .submit) :: calls) [.submitControl] (warning :: warnings) where
  plain := List.forall_mem_cons.mpr ⟨id, h.plain⟩
  submits := by
    rw [List.filter_cons_of_pos (by simp), h.submits]
    rfl
  asks := ⟨fun _ => .inr ⟨e, rfl, hf⟩, fun _ => List.mem_cons_self⟩
  clicks := by
    rw [List.filter_cons_of_neg (by simp)]
    exact h.clicks
  control := by
    rintro c hc hclick
    rcases List.mem_cons.mp hc with rfl | hc
    · cases hclick
    · rw [← ways.control]
      exact h.control c hc hclick
  once := by
    have failed : p.Fails e (Touch.call .submit) := hf
    rw [List.filter_cons_of_neg (by simpa using failed)]
    simpa only [ways.fails_iff] using h.once
  others := List.forall_mem_cons.mpr ⟨hw, h.others⟩
  clean := ⟨nofun, fun hn => (hn hf).elim⟩

/-- What sending the form comes to: all of it if the hook was called before, and only a click on the submit
control otherwise. -/
theorem exists_sendForm (hh : hook.Harmless) {count : Nat} (last : pr.last ≠ none → pr.hooked = true)
    (h : sendForm (.onMemory n lookups) hook count pr s = (.ok pr', s')) :
    ∃ calls asked rest, pr'.warnings = pr.warnings ++ rest ∧ Ending pr.last s.page calls asked rest ∧
      (pr.hooked = true → s.page.Did calls asked s'.page) ∧
      (pr.hooked = false → ∃ q, Called hook calls (s.page.withQueries asked) q ∧
        s.page.SameFailures q ∧ q.Did calls [] s'.page) := by
  unfold sendForm at h
  cases hl : pr.last with
  | none =>
    rw [hl] at h
    obtain ⟨q, calls, rest, rfl, ending, hooked, fresh, failures, did⟩ := exists_clickSubmit hh h
    refine ⟨calls, [.submitControl], rest, rfl, ending, fun hp => ?_, fun hp =>
      ⟨q, fresh hp, failures, did⟩⟩
    rw [hooked hp] at did
    exact (Did.withQueries s.page [.submitControl]).trans did
  | some e =>
    have hp := last (by rw [hl]; nofun)
    have did := did_touch s.page e (t := .submit) fun _ => rfl
    have ends : (touch e .submit s.page).1 = .ok () ↔ ¬ s.page.Fails e .submit :=
      touch_ok_iff (fun _ => rfl) fun e => ⟨e, rfl⟩
    have touched : (interact "submit form" ((Resolver.onMemory n lookups).browser.submit e)).attempt s =
        (.ok (described "submit form" (touch e .submit s.page).1),
          { s with page := (touch e .submit s.page).2 }) := rfl
    rw [hl] at h
    dsimp only at h
    rw [Act.bind_of_ok touched] at h
    cases ht : (touch e .submit s.page).1 with
    | ok _ =>
      rw [ht] at h
      cases h
      refine ⟨_, [], [], (List.append_nil _).symm, ending_submitted (ends.mp ht), fun _ => did,
        fun hp' => ?_⟩
      rw [hp] at hp'
      cases hp'
    | error fault =>
      rw [ht] at h
      obtain ⟨pr₁, s₁, tolerated, clicked⟩ := Act.exists_of_bind_eq_ok h
      obtain ⟨rfl, page⟩ := tolerate_eq_ok tolerated
      have failed : s.page.Fails e .submit := by
        by_contra hf
        rw [ends.mpr hf] at ht
        cases ht
      obtain ⟨q, calls, rest, rfl, ending, hooked, -, -, more⟩ := exists_clickSubmit hh clicked
      rw [page] at ending hooked
      have warned (text : String) :
          ¬ TellsOfSkip ("Form submit failed, trying a submit control: " ++ text) :=
        not_tellsOfSkip_append rfl (by decide)
      refine ⟨_, [.submitControl], _ :: rest, List.append_assoc _ [_] rest,
        ending.afterSubmit did.ways failed (warned _), fun _ => ?_, fun hp' => ?_⟩
      · rw [hooked hp] at more
        exact did.trans ((Did.withQueries _ [.submitControl]).trans more)
      · rw [hp] at hp'
        cases hp'

/-! ## The account -/

/-- The element of the field that is filled last. -/
def lastFilled (r : Resolver MemoryPage String) (ts : List Turn) : Option String :=
  (ts.filterMap (·.filled? r)).getLast?

/-- What a submission does itself between the pages `p` and `p'`: the look-ups `before` up to its hook, and
from the page `q` that the hook leaves, the look-ups `after` and the touches `calls`. The fields that are
filled or skipped are those of their turns. -/
structure Account (r : Resolver MemoryPage String) (hook : Hook MemoryPage String)
    (fields : List (String × Option String)) (p : MemoryPage) (warnings : List String)
    (p' : MemoryPage) (before : List Locator) (q : MemoryPage) (after : List Locator)
    (calls : List (String × Touch)) : Prop where
  hooked : Called hook calls (p.withQueries before) q
  journal : p'.journal = q.journal ++ calls.map fun c => .touch c.1 c.2
  queries : p'.queries = q.queries ++ after
  /-- A warning for each field that is not resolved, cleared and typed into comes before all others. -/
  skipped : ∃ rest, warnings = (turns r p q fields).filterMap (·.warning? r) ++ rest ∧
    ∀ w ∈ rest, ¬ TellsOfSkip w
  /-- The form is submitted once if a field is filled, and with the last one. -/
  submits : calls.filter (·.2 = .submit) =
    (lastFilled r (turns r p q fields)).toList.map (·, .submit)
  /-- The submit control is looked up if there is no field, none is filled or the form is not sent. -/
  asks : .submitControl ∈ before ++ after ↔ fields = [] ∨ lastFilled r (turns r p q fields) = none ∨
    ∃ e ∈ lastFilled r (turns r p q fields), p.Fails e .submit
  clicks : (calls.filter (·.2 = .click)).length ≤ 1
  control : ∀ c ∈ calls, c.2 = .click → p.control = .ok (some c.1) ∨ q.control = .ok (some c.1)
  once : (calls.filter fun c => (c.2 = .submit ∨ c.2 = .click) ∧ ¬ p.Fails c.1 c.2.call).length ≤ 1
  clean : warnings = [] ↔
    (fields = [] ∧ ∃ c, p.control = .ok (some c) ∧ ¬ p.Fails c .click) ∨
      (fields ≠ [] ∧ (∀ t ∈ turns r p q fields, t.filled? r ≠ none) ∧
        ∃ e ∈ lastFilled r (turns r p q fields), ¬ p.Fails e .submit)
  /-- An element that can be filled holds the value of the last field that resolves to it. -/
  shows : ∀ e, ¬ p.Fails e .clear → ¬ p.Fails e .type →
    ∀ t ∈ ((turns r p q fields).filter fun t => (t.target r).toOption = some e).getLast?,
      ∀ v ∈ t.value, (p'.element e).attribute? "value" = some v

section Turns

variable {r : Resolver MemoryPage String} {p q : MemoryPage} {t : Turn} {e v : String}
  {fields : List (String × Option String)}

theorem page_of_mem_turns (h : t ∈ turns r p q fields) : t.page = p ∨ t.page = q := by
  induction fields with
  | nil => cases h
  | cons f fields ih =>
    obtain ⟨name, value⟩ := f
    cases ht : Turn.target r ⟨name, value, p⟩ with
    | ok e =>
      rw [turns_cons_of_ok ht] at h
      rcases List.mem_cons.mp h with rfl | h
      · exact .inl rfl
      · obtain ⟨f, -, rfl⟩ := List.mem_map.mp h
        exact .inr rfl
    | error fault =>
      rw [turns_cons_of_error ht] at h
      rcases List.mem_cons.mp h with rfl | h
      · exact .inl rfl
      · exact ih h

theorem turns_eq_nil_iff : turns r p q fields = [] ↔ fields = [] := by
  cases fields with
  | nil => exact ⟨fun _ => rfl, fun _ => rfl⟩
  | cons f fields => exact ⟨nofun, nofun⟩

theorem Turn.warning?_eq_none_iff : t.warning? r = none ↔ t.filled? r ≠ none := by
  rw [warning?, filled?]
  cases t.outcome r with
  | ok e => exact ⟨fun _ => Option.some_ne_none e, fun _ => rfl⟩
  | error fault => exact ⟨fun h => absurd h (Option.some_ne_none _), fun h => (h rfl).elim⟩

/-- Clearing an element and typing into it succeeds unless one of the calls fails. -/
theorem Turn.filled?_of_target (h : (t.target (.onMemory n lookups)).toOption = some e)
    (hv : t.value = some v) (clear : ¬ t.page.Fails e .clear) (type : ¬ t.page.Fails e .type) :
    t.filled? (.onMemory n lookups) = some e := by
  have cleared : (touch e .clear t.page).1 = .ok () :=
    (touch_ok_iff (fun _ => rfl) fun _ => ⟨_, rfl⟩).mpr clear
  have did := did_touch t.page e (t := .clear) fun _ => rfl
  have typed : (touch e (.type (some v)) (touch e .clear t.page).2).1 = .ok () :=
    (touch_ok_iff (fun _ => rfl) fun _ => ⟨_, rfl⟩).mpr
      (mt did.ways.toSameFailures.fails_iff.mp type)
  have filling : t.filling (.onMemory n lookups) e = .ok () := by
    rw [Turn.filling, hv, fill_of_clear_ok t.name (some v) (Prod.ext cleared rfl)]
    exact described_eq_ok_iff.mpr typed
  have target : t.target (.onMemory n lookups) = .ok e := by
    cases ht : t.target (.onMemory n lookups) with
    | error fault =>
      rw [ht] at h
      cases h
    | ok e' =>
      rw [ht] at h
      cases h
      rfl
  rw [Turn.filled?, Turn.outcome_of_target target, filling]
  rfl

theorem lastFilled_ne_none {ts : List Turn} (h : ∀ t ∈ ts, t.filled? r ≠ none) (hts : ts ≠ []) :
    lastFilled r ts ≠ none := by
  obtain ⟨t, ts, rfl⟩ := List.exists_cons_of_ne_nil hts
  intro hl
  rw [lastFilled, List.getLast?_eq_none_iff, List.filterMap_eq_nil_iff] at hl
  exact h t List.mem_cons_self (hl t List.mem_cons_self)

/-- An element is filled at each turn that resolves to it, unless clearing it or typing into it fails. -/
theorem filled?_of_mem_turns (ht : t ∈ turns (.onMemory n lookups) p q fields)
    (failures : p.SameFailures q) (target : (t.target (.onMemory n lookups)).toOption = some e)
    (hv : t.value = some v) (clear : ¬ p.Fails e .clear) (type : ¬ p.Fails e .type) :
    t.filled? (.onMemory n lookups) = some e := by
  have page {call : ElementCall} (h : ¬ p.Fails e call) : ¬ t.page.Fails e call := by
    rcases page_of_mem_turns ht with eq | eq
    · rwa [eq]
    · rwa [eq, failures.fails_iff]
  exact Turn.filled?_of_target target hv (page clear) (page type)

/-- All fields are filled and the form is sent: with the submit control if there is no field, and with the
field that was filled last otherwise. -/
theorem filled_and_sends_iff {p₂ : MemoryPage} (failures : p.SameFailures p₂)
    (control : fields = [] → p₂.control = p.control) :
    ((∀ t ∈ turns r p q fields, t.filled? r ≠ none) ∧ Sends p₂ (lastFilled r (turns r p q fields))) ↔
      (fields = [] ∧ ∃ c, p.control = .ok (some c) ∧ ¬ p.Fails c .click) ∨
        (fields ≠ [] ∧ (∀ t ∈ turns r p q fields, t.filled? r ≠ none) ∧
          ∃ e ∈ lastFilled r (turns r p q fields), ¬ p.Fails e .submit) := by
  by_cases hf : fields = []
  · subst hf
    have none : lastFilled r (turns r p q []) = none := rfl
    rw [none, Sends, control rfl]
    simp only [failures.fails_iff]
    exact ⟨fun h => .inl ⟨trivial, h.2⟩, fun h => ⟨nofun, (h.resolve_right fun h => h.1 rfl).2⟩⟩
  · cases hl : lastFilled r (turns r p q fields) with
    | none =>
      have some (h : ∀ t ∈ turns r p q fields, t.filled? r ≠ none) : False :=
        lastFilled_ne_none h (mt turns_eq_nil_iff.mp hf) hl
      exact ⟨fun h => (some h.1).elim, fun h => h.elim (fun h => (hf h.1).elim)
        fun h => (some h.2.1).elim⟩
    | some e =>
      simp only [Sends, failures.fails_iff]
      exact ⟨fun h => .inr ⟨hf, h.1, e, rfl, h.2⟩, fun h => h.elim (fun h => (hf h.1).elim)
        fun ⟨_, h, _, he, hn⟩ => ⟨h, Option.mem_some.mp he ▸ hn⟩⟩

end Turns

/-- The account of a submission, put together from the turns of its fields, which end on the page `p₁` of
the hook's side, and from the ending that follows on the page `p₂`. -/
theorem account_of {r : Resolver MemoryPage String} {fields : List (String × Option String)}
    {p q p₁ p₂ p' : MemoryPage} {before after sent ended : List Locator}
    {calls more : List (String × Touch)} {rest : List String} (hr : r = .onMemory n lookups)
    (hooked : Called hook (calls ++ more) (p.withQueries before) q)
    (fills : Fills r (turns r p q fields) {} q calls after pr p₁)
    (ending : Ending pr.last p₂ more ended rest) (did : p₁.Did more sent p')
    (asked : .submitControl ∈ before ++ (after ++ sent) ↔ .submitControl ∈ ended)
    (failures : p.SameFailures q) (failures₂ : p.SameFailures p₂)
    (control : p₂.control = p.control ∨ fields ≠ [] ∧ p₂.control = q.control) :
    Account r hook fields p (pr.warnings ++ rest) p' before q (after ++ sent) (calls ++ more) := by
  have last : pr.last = lastFilled r (turns r p q fields) := by
    rw [fills.last, lastFilled]
    exact Option.or_none
  have warnings : pr.warnings = (turns r p q fields).filterMap (·.warning? r) := fills.warnings
  have all := fills.did.trans did
  have plain {P : String × Touch → Prop} [DecidablePred P] (hP : ∀ c, P c → ¬ c.2.Edits) :
      (calls ++ more).filter (P ·) = more.filter (P ·) := by
    have none : calls.filter (P ·) = [] :=
      List.filter_eq_nil_iff.mpr fun c hc hp => hP c (of_decide_eq_true hp) (fills.edits c hc).1
    rw [List.filter_append, none, List.nil_append]
  have submit : ∀ c : String × Touch, c.2 = .submit → ¬ c.2.Edits := fun c h => h ▸ id
  have click : ∀ c : String × Touch, c.2 = .click → ¬ c.2.Edits := fun c h => h ▸ id
  rw [last] at ending
  exact {
    hooked := hooked
    journal := all.journal
    queries := all.queries
    skipped := ⟨rest, by rw [warnings], ending.others⟩
    submits := by rw [plain submit, ending.submits]
    asks := by
      simp only [asked, ending.asks, failures₂.fails_iff]
      refine ⟨.inr, fun h => h.elim (fun hf => .inl ?_) id⟩
      rw [hf]
      rfl
    clicks := by
      rw [plain click]
      exact ending.clicks
    control := fun c hc hclick => by
      rcases List.mem_append.mp hc with hc | hc
      · exact (click c hclick (fills.edits c hc).1).elim
      · have found := ending.control c hc hclick
        rcases control with eq | ⟨-, eq⟩
        · exact .inl (eq ▸ found)
        · exact .inr (eq ▸ found)
    once := by
      rw [plain fun c h => h.1.elim (submit c) (click c)]
      simpa only [failures₂.fails_iff] using ending.once
    clean := by
      rw [List.append_eq_nil_iff, warnings, List.filterMap_eq_nil_iff, ending.clean]
      simp only [Turn.warning?_eq_none_iff]
      exact filled_and_sends_iff failures₂ fun none => control.resolve_right fun h => h.1 none
    shows := fun e clear type t ht v hv => by
      obtain ⟨mem, target⟩ := List.mem_filter.mp (List.mem_of_getLast? ht)
      subst hr
      have filled := filled?_of_mem_turns mem failures (of_decide_eq_true target) hv clear type
      rw [did.values e fun touch hc => ending.plain _ hc]
      exact fills.shows e t ht filled v hv }

/-- Whenever a submission returns, this is its account: every field that cannot be filled is skipped with a
warning, the form is submitted at most once, and the submit control is only what is left. -/
theorem exists_account (hh : hook.Harmless) {fields : List (String × Option String)}
    (hn : ∀ f ∈ fields, Text.isBlankText f.1 = false) {o : Outcome}
    (h : (submit (.onMemory n lookups) hook fields s).1 = .ok o) :
    ∃ before q after calls, Account (.onMemory n lookups) hook fields s.page o.warnings
      (submit (.onMemory n lookups) hook fields s).2.page before q after calls := by
  cases hs : submit (.onMemory n lookups) hook fields s with | mk outcome s'
  rw [hs] at h
  cases h
  rename' hs => h
  obtain ⟨pr₁, s₁, filling, h⟩ := Act.exists_of_bind_eq_ok h
  obtain ⟨pr₂, s₂, sending, h⟩ := Act.exists_of_bind_eq_ok h
  cases h
  obtain ⟨pr, s₀, looked, eq, asks, filled⟩ := exists_fillFields n lookups hh hn
    (show ({} : Progress String).hooked = false from rfl) (s := s) .rfl
  rw [filling] at eq
  cases eq
  have unasked : .submitControl ∉ looked := fun hl => asks _ hl rfl
  rcases filled with ⟨idle, last, page, fills⟩ | ⟨hooked, q, calls, asked, failures, called, fills⟩
  · obtain ⟨more, ended, rest, warnings, ending, -, fresh⟩ :=
      exists_sendForm hh (fun hl => (hl last).elim) sending
    obtain ⟨q, called, failures, did⟩ := fresh idle
    have ways : s.page.SameWays s₁.page := page ▸ (Did.withQueries s.page looked).ways
    rw [page, withQueries_append] at called
    refine ⟨looked ++ ended, q, [], more, warnings ▸ account_of rfl called (fills q) ending did ?_
      (ways.toSameFailures.trans failures) ways.toSameFailures (.inl ways.control)⟩
    rw [List.append_nil, List.append_nil, List.mem_append]
    exact ⟨fun h => h.resolve_left unasked, .inr⟩
  · obtain ⟨more, ended, rest, warnings, ending, did, -⟩ :=
      exists_sendForm hh (fun _ => hooked) sending
    have ways := fills.did.ways
    refine ⟨looked, q, asked ++ ended, calls ++ more, warnings ▸ account_of rfl (called _) fills ending
      (did hooked) ?_ failures (failures.trans ways.toSameFailures) ?_⟩
    · rw [List.mem_append, List.mem_append]
      exact ⟨fun h => (h.resolve_left unasked).resolve_left fun h => fills.asks _ h rfl,
        fun h => .inr (.inr h)⟩
    · refine .inr ⟨?_, ways.control⟩
      rintro rfl
      cases filling
      cases hooked

/-- A page with a field whose form cannot be submitted, and with a submit control. -/
def brokenForm : MemoryPage where
  elements := [("mail", { failures := [(.submit, .foreign ⟨.runtime, "no form"⟩)] })]
  places := [(.byAttribute "title" "Mail" [] false, "mail"), (.submitControl, "go")]

/-- A hook that writes to the log. -/
def announce : Hook MemoryPage String := some fun e => Scene.say .info .perform e

/-- One field is filled and one is not found, the form cannot be submitted, and the submit control is
clicked. -/
theorem exists_account_brokenForm :
    let done := submit (.onMemory "FakeDriver" Lookup.all) announce
      [("Mail", some "a@b"), ("Phone", some "1")] { page := brokenForm }
    let warnings := ["Skipped field 'Phone': Field not found: 'Phone'",
      "Form submit failed, trying a submit control: Failed to submit form: no form"]
    done.1 = .ok ⟨.submit, warnings⟩ ∧ ∃ before q after calls,
      Account (.onMemory "FakeDriver" Lookup.all) announce [("Mail", some "a@b"), ("Phone", some "1")]
        brokenForm warnings done.2.page before q after calls := by
  have harmless : announce.Harmless := by
    rintro _ ⟨⟩ e s
    exact ⟨_, rfl, .rfl⟩
  have names : ∀ f ∈ [("Mail", some "a@b"), ("Phone", some "1")], Text.isBlankText f.1 = false := by
    decide
  have returned : (submit (.onMemory "FakeDriver" Lookup.all) announce
      [("Mail", some "a@b"), ("Phone", some "1")] { page := brokenForm }).1 =
      .ok ⟨.submit, ["Skipped field 'Phone': Field not found: 'Phone'",
        "Form submit failed, trying a submit control: Failed to submit form: no form"]⟩ := by
    decide +kernel
  exact ⟨returned, exists_account harmless names returned⟩

end Perform

end Walkthrough
