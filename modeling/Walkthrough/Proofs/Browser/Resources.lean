import Mathlib.Data.List.Sublists
import Walkthrough.Browser.Session
import Walkthrough.Proofs.Basic

/-! What a session acquires and releases. Opening makes the calls of `Session.resources` up to the first one
that fails (`Session.acquireAll_apply`), and closing gives back what is held, last first
(`Session.exists_closes`). -/

namespace Walkthrough

/-- What a session acquires. -/
inductive Session.Resource
  | engine
  | browser
  | context
  | trace
  | page
  deriving DecidableEq, Repr

namespace Session

/-- Where a trace is kept. -/
def tracePath (o : SessionOptions) : String :=
  String.ofList (Path.join (o.directory.getD "").toList "trace.zip".toList)

namespace Resource

/-- The call that acquires it. -/
def acquisition (o : SessionOptions) : Resource → SessionCall
  | engine => .start
  | browser => .launch o.settings.headless
  | context => .newContext o.settings.viewportWidth o.settings.viewportHeight o.settings.locale
  | trace => .startTrace
  | page => .newPage

/-- The call that releases it. A page goes with its context. -/
def release? (o : SessionOptions) : Resource → Option SessionCall
  | engine => some .stop
  | browser => some .closeBrowser
  | context => some .closeContext
  | trace => some (.stopTrace (tracePath o))
  | page => none

end Resource

/-- What a session is to acquire, in this order. -/
def resources (o : SessionOptions) : List Resource :=
  [.engine, .browser, .context] ++ (if (traceDirectory o).isSome then [.trace] else []) ++ [.page]

/-- Whether a session holds a resource. -/
def holds (p : Session) : Resource → Bool
  | .engine => p.engine
  | .browser => p.browser
  | .context => p.context
  | .trace => p.tracing
  | .page => p.page.isSome

/-- A session that holds nothing. -/
def IsClosed (p : Session) : Prop := ∀ r, p.holds r = false

/-- A session that holds all that it is to acquire. -/
def IsOpen (o : SessionOptions) (p : Session) : Prop := ∀ r, p.holds r = true ↔ r ∈ resources o

/-- How the call fails that acquires a resource, if it does. -/
def fault? (o : SessionOptions) (p : Session) (r : Resource) : Option Fault :=
  Assoc.get? (r.acquisition o).step p.failures

/-- The session after further calls. -/
def called (p : Session) (cs : List SessionCall) : Session := { p with journal := p.journal ++ cs }

/-- The session once it has a resource. -/
def gain (p : Session) : Resource → Session
  | .engine => { p with engine := true }
  | .browser => { p with browser := true }
  | .context => { p with context := true }
  | .trace => { p with tracing := true }
  | .page => p

/-- The session once it has all of the resources. -/
def gainAll (p : Session) (rs : List Resource) : Session := rs.foldl gain p

variable {o : SessionOptions} {p q : Session} {r : Resource} {s t : Scene Session}

@[simp] theorem called_nil (p : Session) : p.called [] = p := by simp [called]

@[simp] theorem called_called (p : Session) (cs ds : List SessionCall) :
    (p.called cs).called ds = p.called (cs ++ ds) := by simp [called]

@[simp] theorem fault?_called (p : Session) (cs : List SessionCall) (r : Resource) :
    (p.called cs).fault? o r = p.fault? o r := rfl

@[simp] theorem fault?_gain (p : Session) (r q : Resource) : (p.gain r).fault? o q = p.fault? o q := by
  cases r <;> rfl

theorem gain_called (p : Session) (cs : List SessionCall) (r : Resource) :
    (p.called cs).gain r = (p.gain r).called cs := by cases r <;> rfl

theorem holds_called (p : Session) (cs : List SessionCall) (r : Resource) :
    (p.called cs).holds r = p.holds r := by cases r <;> rfl

theorem gainAll_called (p : Session) (cs : List SessionCall) (rs : List Resource) :
    (p.called cs).gainAll rs = (p.gainAll rs).called cs := by
  induction rs generalizing p with
  | nil => rfl
  | cons r rs ih =>
    simp only [gainAll, List.foldl_cons] at ih ⊢
    rw [gain_called, ih]

/-- A page is not gained as the others are: a session has it once it is open. -/
theorem holds_gainAll (p : Session) (rs : List Resource) (r : Resource) :
    (p.gainAll rs).holds r = true ↔ p.holds r = true ∨ r ∈ rs ∧ r ≠ .page := by
  induction rs generalizing p with
  | nil => simp [gainAll]
  | cons q rs ih =>
    have first : (p.gain q).holds r = true ↔ p.holds r = true ∨ r = q ∧ r ≠ .page := by
      cases q <;> cases r <;> simp [gain, holds]
    simp only [gainAll, List.foldl_cons] at ih ⊢
    rw [ih, first, List.mem_cons]
    grind

/-- What every change of one resource keeps, changes of several keep. -/
theorem foldl_eq {α : Type} {change : Session → Resource → Session} (read : Session → α)
    (keeps : ∀ p r, read (change p r) = read p) (p : Session) (rs : List Resource) :
    read (rs.foldl change p) = read p := by
  induction rs generalizing p with
  | nil => rfl
  | cons r rs ih => exact (ih (change p r)).trans (keeps p r)

theorem gainAll_journal (p : Session) (rs : List Resource) : (p.gainAll rs).journal = p.journal :=
  foldl_eq journal (fun _ r => by cases r <;> rfl) p rs

theorem gainAll_failures (p : Session) (rs : List Resource) : (p.gainAll rs).failures = p.failures :=
  foldl_eq failures (fun _ r => by cases r <;> rfl) p rs

/-! ## Steps on the session -/

theorem call_of_fault {c : SessionCall} {fault : Fault}
    (fails : Assoc.get? c.step s.page.failures = some fault) :
    call c s = (.error fault, { s with page := s.page.called [c] }) := by
  simp only [call, Scene.onPage, called, fails]

theorem call_of_none {c : SessionCall} (works : Assoc.get? c.step s.page.failures = none) :
    call c s = (.ok (), { s with page := s.page.called [c] }) := by
  simp only [call, Scene.onPage, called, works]

theorem call_page (c : SessionCall) (s : Scene Session) : (call c s).2.page = s.page.called [c] := by
  cases h : Assoc.get? c.step s.page.failures with
  | none => rw [call_of_none h]
  | some fault => rw [call_of_fault h]

theorem hold_apply (change : Session → Session) (s : Scene Session) :
    hold change s = (.ok (), { s with page := change s.page }) := rfl

/-! ## Acquiring -/

/-- Acquires resources one after the other. -/
def acquireAll (o : SessionOptions) : List Resource → Act (Scene Session) Unit
  | [] => pure ()
  | r :: rest => do
    call (r.acquisition o)
    hold fun p => p.gain r
    acquireAll o rest

theorem acquireAll_page (o : SessionOptions) : acquireAll o [.page] = call .newPage := by
  funext s
  change (call .newPage >>= fun _ => hold (fun p => p) >>= fun _ => pure ()) s = _
  cases h : Assoc.get? SessionCall.newPage.step s.page.failures with
  | none =>
    rw [Act.bind_of_ok (call_of_none h), call_of_none h]
    rfl
  | some fault => rw [Act.bind_of_error (call_of_fault h), call_of_fault h]

theorem acquire_eq (o : SessionOptions) : acquire o = acquireAll o (resources o) := by
  unfold acquire resources
  rw [← acquireAll_page o]
  cases (traceDirectory o).isSome <;> rfl

/-- What becomes of acquiring resources: some are acquired, and one may fail to be. -/
structure Stay where
  acquired : List Resource
  failed : Option Resource
  deriving DecidableEq, Repr

namespace Stay

/-- The stay in which another resource is acquired first. -/
def after (r : Resource) (y : Stay) : Stay := ⟨r :: y.acquired, y.failed⟩

/-- The calls that acquire, the failing one with them. -/
def calls (o : SessionOptions) (y : Stay) : List SessionCall :=
  (y.acquired ++ y.failed.toList).map (·.acquisition o)

/-- What acquiring comes to: the failure of its own step, if one fails. -/
def outcome (o : SessionOptions) (p : Session) (y : Stay) : Except Fault Unit :=
  match y.failed.bind (p.fault? o) with
  | some fault => .error fault
  | none => .ok ()

end Stay

/-- The stay in which a session acquires resources up to the first that fails. -/
def stay (o : SessionOptions) (p : Session) : List Resource → Stay
  | [] => ⟨[], none⟩
  | r :: rest =>
    match p.fault? o r with
    | some _ => ⟨[], some r⟩
    | none => (stay o p rest).after r

theorem stay_of_fault?_eq (same : q.fault? o = p.fault? o) (rs : List Resource) :
    q.stay o rs = p.stay o rs := by
  induction rs with
  | nil => rfl
  | cons r rs ih => simp only [stay, ih, same]

theorem acquireAll_apply (o : SessionOptions) (rs : List Resource) (s : Scene Session) :
    acquireAll o rs s = ((s.page.stay o rs).outcome o s.page,
      { s with page := (s.page.gainAll (s.page.stay o rs).acquired).called ((s.page.stay o rs).calls o) }) := by
  induction rs generalizing s with
  | nil => simp [acquireAll, stay, Stay.outcome, Stay.calls, gainAll]
  | cons r rs ih =>
    cases fails : s.page.fault? o r with
    | some fault =>
      rw [acquireAll, Act.bind_of_error (call_of_fault fails)]
      simp [stay, fails, Stay.outcome, Stay.calls, gainAll]
    | none =>
      have same : fault? o ((s.page.called [r.acquisition o]).gain r) = s.page.fault? o := by
        funext q
        simp
      rw [acquireAll, Act.bind_of_ok (call_of_none fails), Act.bind_of_ok (hold_apply ..), ih]
      simp only [stay_of_fault?_eq same, stay, fails, Stay.outcome, same, Stay.after, Stay.calls]
      rw [gain_called, gainAll_called, called_called]
      rfl

/-! ## Releasing -/

/-- The session without a resource. -/
def lose (p : Session) : Resource → Session
  | .engine => { p with engine := false }
  | .browser => { p with browser := false }
  | .context => { p with context := false }
  | .trace => { p with tracing := false }
  | .page => { p with page := none }

/-- The session without all of the resources. -/
def loseAll (p : Session) (rs : List Resource) : Session := rs.foldl lose p

theorem lose_called (p : Session) (cs : List SessionCall) (r : Resource) :
    (p.called cs).lose r = (p.lose r).called cs := by cases r <;> rfl

theorem loseAll_called (p : Session) (cs : List SessionCall) (rs : List Resource) :
    (p.called cs).loseAll rs = (p.loseAll rs).called cs := by
  induction rs generalizing p with
  | nil => rfl
  | cons r rs ih =>
    simp only [loseAll, List.foldl_cons] at ih ⊢
    rw [lose_called, ih]

theorem holds_lose (p : Session) (q r : Resource) :
    (p.lose q).holds r = true ↔ p.holds r = true ∧ r ≠ q := by
  cases q <;> cases r <;> simp [lose, holds]

theorem holds_loseAll (p : Session) (rs : List Resource) (r : Resource) :
    (p.loseAll rs).holds r = true ↔ p.holds r = true ∧ r ∉ rs := by
  induction rs generalizing p with
  | nil => simp [loseAll]
  | cons q rs ih =>
    simp only [loseAll, List.foldl_cons] at ih ⊢
    rw [ih, holds_lose, List.mem_cons, not_or, and_assoc]

theorem lose_failures (p : Session) (r : Resource) : (p.lose r).failures = p.failures := by
  cases r <;> rfl

theorem lose_journal (p : Session) (r : Resource) : (p.lose r).journal = p.journal := by
  cases r <;> rfl

theorem loseAll_failures (p : Session) (rs : List Resource) : (p.loseAll rs).failures = p.failures :=
  foldl_eq failures lose_failures p rs

theorem loseAll_journal (p : Session) (rs : List Resource) : (p.loseAll rs).journal = p.journal :=
  foldl_eq journal lose_journal p rs

theorem lose_of_not_holds (h : p.holds r = false) : p.lose r = p := by
  cases p
  cases r <;> simp_all [lose, holds]

/-- Releases a resource. Only that the engine does not stop is a failure. -/
def release (o : SessionOptions) : Resource → Act (Scene Session) Unit
  | .engine => call .stop
  | .browser => tolerate ("error closing browser of session " ++ o.id) (call .closeBrowser)
  | .context => tolerate ("error closing context of session " ++ o.id) (call .closeContext)
  | .trace => tolerate ("could not save trace for session " ++ o.id) (saveTrace (o.directory.getD ""))
  | .page => pure ()

/-- Releases those resources that are held, and then takes a last step. -/
def releaseAll (o : SessionOptions) (last : Act (Scene Session) Unit) :
    List Resource → Act (Scene Session) Unit
  | [] => last
  | r :: rest => do
    if (← Act.get).page.holds r then
      release o r
      hold fun p => p.lose r
    releaseAll o last rest

/-- Forgets the page, which went with its context. -/
def leave (o : SessionOptions) : Act (Scene Session) Unit := do
  hold fun p => p.lose .page
  Scene.say .debug .session ("browser session " ++ o.id ++ " closed")

theorem close_eq (o : SessionOptions) :
    close o = releaseAll o (leave o) [.trace, .context, .browser, .engine] := rfl

/-- Which of the resources are released, and how the session is left: those that are held are released,
though the trace may not be kept. -/
inductive Releases (o : SessionOptions) : Session → List Resource → List Resource → Session → Prop
  | nil {p : Session} : Releases o p [] [] p
  | free {p q : Session} {r : Resource} {rs given : List Resource} (free : p.holds r = false)
    (rest : Releases o p rs given q) : Releases o p (r :: rs) given q
  | released {p q : Session} {r : Resource} {rs given : List Resource} (held : p.holds r = true)
    (rest : Releases o ((p.called (r.release? o).toList).lose r) rs given q) :
    Releases o p (r :: rs) (r :: given) q
  | unsaved {p q : Session} {rs given : List Resource} (held : p.holds .trace = true)
    (rest : Releases o (p.lose .trace) rs given q) : Releases o p (.trace :: rs) given q

namespace Releases

variable {rs given : List Resource}

theorem eq_loseAll (h : Releases o p rs given q) :
    q = (p.loseAll rs).called (given.filterMap (·.release? o)) := by
  induction h with
  | nil => simp [loseAll]
  | free free _ ih =>
    rw [ih, loseAll, loseAll, List.foldl_cons, lose_of_not_holds free]
  | @released p q r rs given held _ ih =>
    rw [ih, lose_called, loseAll_called, called_called]
    cases release : r.release? o <;> simp [loseAll, release]
  | unsaved _ _ ih => exact ih

/-- What is released was held, and is released once and in this order. -/
theorem sublist (h : Releases o p rs given q) : List.Sublist given (rs.filter p.holds) := by
  induction h with
  | nil => exact List.Sublist.refl _
  | free free _ ih => rwa [List.filter_cons_of_neg (by simp [free])]
  | released held _ ih =>
    rw [List.filter_cons_of_pos held]
    refine (ih.trans ?_).cons_cons _
    exact List.monotone_filter_right _ fun r h => ((holds_lose ..).mp h).1
  | unsaved held _ ih =>
    rw [List.filter_cons_of_pos held]
    refine (ih.trans ?_).cons _
    exact List.monotone_filter_right _ fun r h => ((holds_lose ..).mp h).1

/-- All that is held is released, apart from the trace. -/
theorem mem (h : Releases o p rs given q) (hr : r ∈ rs) (held : p.holds r = true) (saved : r ≠ .trace) :
    r ∈ given := by
  induction h with
  | nil => exact hr
  | free free _ ih =>
    rcases List.mem_cons.mp hr with rfl | hr
    · exact absurd held (by simp [free])
    · exact ih hr held
  | @released p q first rs given _ _ ih =>
    by_cases eq : r = first
    · exact eq ▸ List.mem_cons_self
    · have hr := List.mem_of_ne_of_mem eq hr
      exact List.mem_cons_of_mem _ (ih hr ((holds_lose ..).mpr ⟨held, eq⟩))
  | unsaved _ _ ih =>
    exact ih (List.mem_of_ne_of_mem saved hr) ((holds_lose ..).mpr ⟨held, saved⟩)

theorem append {rs' given' : List Resource} {q' : Session} (h : Releases o p rs given q)
    (h' : Releases o q rs' given' q') : Releases o p (rs ++ rs') (given ++ given') q' := by
  induction h with
  | nil => exact h'
  | free free _ ih => exact .free free (ih h')
  | released held _ ih => exact .released held (ih h')
  | unsaved held _ ih => exact .unsaved held (ih h')

end Releases

theorem tolerate_apply (warning : String) (step : Act (Scene Session) Unit) (s : Scene Session) :
    ∃ t, tolerate warning step s = (.ok (), t) ∧ t.page = (step s).2.page := by
  rw [tolerate, Act.bind_of_ok (Act.attempt_apply step s)]
  cases (step s).1 with
  | ok => exact ⟨_, rfl, rfl⟩
  | error fault => exact ⟨_, rfl, rfl⟩

theorem ensureDirectory_page (path : String) (s : Scene Session) :
    (Scene.ensureDirectory path s).2.page = s.page := by
  simp only [Scene.ensureDirectory]
  split <;> rfl

theorem saveTrace_page (directory : String) (s : Scene Session) :
    (saveTrace directory s).2.page = s.page ∨ (saveTrace directory s).2.page =
      s.page.called [.stopTrace (String.ofList (Path.join directory.toList "trace.zip".toList))] := by
  have made := ensureDirectory_page directory s
  cases h : Scene.ensureDirectory directory s with | mk outcome t
  rw [h] at made
  cases outcome with
  | error fault =>
    rw [saveTrace, Act.bind_of_error h]
    exact .inl made
  | ok =>
    rw [saveTrace, Act.bind_of_ok h, call_page, made]
    exact .inr rfl

/-- What is held is released, and it does not matter how, unless it is the engine. -/
theorem release_apply (o : SessionOptions) {r : Resource} (h : r ≠ .engine) (s : Scene Session) :
    ∃ t, release o r s = (.ok (), t) ∧
      (t.page = s.page.called (r.release? o).toList ∨ r = .trace ∧ t.page = s.page) := by
  cases r with
  | engine => exact absurd rfl h
  | page => exact ⟨s, rfl, .inl (by simp [Resource.release?])⟩
  | browser | context =>
    obtain ⟨t, eq, ht⟩ := tolerate_apply _ (call _) s
    exact ⟨t, eq, .inl (ht.trans (call_page ..))⟩
  | trace =>
    obtain ⟨t, eq, ht⟩ := tolerate_apply _ (saveTrace _) s
    refine ⟨t, eq, ?_⟩
    rcases saveTrace_page (o.directory.getD "") s with unsaved | saved
    · exact .inr ⟨rfl, ht.trans unsaved⟩
    · exact .inl (ht.trans saved)

theorem releaseAll_of_free (last : Act (Scene Session) Unit) (rs : List Resource)
    (free : s.page.holds r = false) : releaseAll o last (r :: rs) s = releaseAll o last rs s := by
  rw [releaseAll, Act.get_bind_apply, if_neg (by simp [free])]

theorem releaseAll_of_held (last : Act (Scene Session) Unit) (rs : List Resource)
    (held : s.page.holds r = true) (released : release o r s = (.ok (), t)) :
    releaseAll o last (r :: rs) s = releaseAll o last rs { t with page := t.page.lose r } := by
  rw [releaseAll, Act.get_bind_apply, if_pos held]
  rw [Act.bind_of_ok released, Act.bind_of_ok (hold_apply ..)]

theorem releaseAll_of_failed (last : Act (Scene Session) Unit) (rs : List Resource) {fault : Fault}
    (held : s.page.holds r = true) (failed : release o r s = (.error fault, t)) :
    releaseAll o last (r :: rs) s = (.error fault, t) := by
  rw [releaseAll, Act.get_bind_apply, if_pos held]
  exact Act.bind_of_error failed

/-- All that is held is released, and the last step is taken. -/
theorem exists_releases (last : Act (Scene Session) Unit) {rs : List Resource} (h : .engine ∉ rs)
    (s : Scene Session) :
    ∃ (given : List Resource) (t : Scene Session),
      Releases o s.page rs given t.page ∧ releaseAll o last rs s = last t := by
  induction rs generalizing s with
  | nil => exact ⟨[], s, .nil, rfl⟩
  | cons r rs ih =>
    obtain ⟨other, h⟩ := not_or.mp fun hr => h (List.mem_cons.mpr hr)
    cases held : s.page.holds r with
    | false =>
      obtain ⟨given, t, releases, eq⟩ := ih h s
      exact ⟨given, t, .free held releases, (releaseAll_of_free last rs held).trans eq⟩
    | true =>
      obtain ⟨t, released, left⟩ := release_apply o (Ne.symm other) s
      obtain ⟨given, t', releases, eq⟩ := ih h { t with page := t.page.lose r }
      rw [← releaseAll_of_held last rs held released] at eq
      rcases left with left | ⟨rfl, left⟩
      · exact ⟨r :: given, t', .released held (left ▸ releases), eq⟩
      · exact ⟨given, t', .unsaved held (left ▸ releases), eq⟩

/-- How closing fails, if it does: the engine does not stop. -/
def unstopped (p : Session) : Option Fault :=
  if p.holds .engine then Assoc.get? SessionCall.stop.step p.failures else none

theorem Releases.unstopped_eq {rs given : List Resource} (h : Releases o p rs given q)
    (other : .engine ∉ rs) : q.unstopped = p.unstopped := by
  have held : (p.loseAll rs).holds .engine = p.holds .engine :=
    Bool.eq_iff_iff.mpr ((holds_loseAll p rs _).trans (and_iff_left other))
  have failures := loseAll_failures p rs
  rw [h.eq_loseAll]
  change (if (p.loseAll rs).holds .engine then Assoc.get? _ (p.loseAll rs).failures else none) = _
  rw [held, failures, unstopped]

theorem close_of_stopped (works : s.page.unstopped = none) :
    ∃ (given : List Resource) (q : Session) (t : Scene Session),
      Releases o s.page [.trace, .context, .browser, .engine] given q ∧
        close o s = (.ok (), t) ∧ t.page = q.lose .page := by
  have others : .engine ∉ [Resource.trace, .context, .browser] := by decide
  obtain ⟨given, t, releases, eq⟩ := exists_releases (o := o) (releaseAll o (leave o) [.engine]) others s
  rw [← releases.unstopped_eq (by decide)] at works
  change close o s = _ at eq
  rw [eq]
  cases held : t.page.holds .engine with
  | false =>
    rw [releaseAll_of_free _ _ held]
    exact ⟨_, _, _, releases.append (.free held .nil), rfl, rfl⟩
  | true =>
    have stops : Assoc.get? SessionCall.stop.step t.page.failures = none := by
      rwa [unstopped, if_pos held] at works
    rw [releaseAll_of_held _ _ held (call_of_none stops)]
    exact ⟨_, _, _, releases.append (.released held .nil), rfl, rfl⟩

theorem close_of_unstopped {fault : Fault} (fails : s.page.unstopped = some fault) :
    ∃ (given : List Resource) (q : Session) (t : Scene Session),
      Releases o s.page [.trace, .context, .browser] given q ∧ q.engine = true ∧
        close o s = (.error fault, t) ∧ t.page = q.called [.stop] := by
  have others : .engine ∉ [Resource.trace, .context, .browser] := by decide
  obtain ⟨given, t, releases, eq⟩ := exists_releases (o := o) (releaseAll o (leave o) [.engine]) others s
  rw [← releases.unstopped_eq (by decide)] at fails
  change close o s = _ at eq
  rw [eq]
  cases held : t.page.holds .engine with
  | false => simp [unstopped, held] at fails
  | true =>
    rw [unstopped, if_pos held] at fails
    rw [releaseAll_of_failed _ _ held (call_of_fault fails)]
    exact ⟨_, _, _, releases, held, rfl, rfl⟩

/-- What closing a session comes to, and how it leaves the session. -/
inductive Closes (o : SessionOptions) (p : Session) : Except Fault Unit → Session → Prop
  /-- What was held is released, each once and last first. The trace alone may not be kept. -/
  | closed {released : List Resource} {q : Session} (stops : p.unstopped = none)
    (inOrder : List.Sublist released ([.trace, .context, .browser, .engine].filter p.holds))
    (all : ∀ r, p.holds r = true → r ≠ .trace → r ≠ .page → r ∈ released)
    (journal : q.journal = p.journal ++ released.filterMap (·.release? o)) (closed : q.IsClosed) :
    Closes o p (.ok ()) q
  /-- An engine that does not stop is still held, and the page is not forgotten. -/
  | unstopped {released : List Resource} {fault : Fault} {q : Session} (fails : p.unstopped = some fault)
    (inOrder : List.Sublist released ([.trace, .context, .browser].filter p.holds))
    (all : ∀ r, p.holds r = true → r ∈ [Resource.context, Resource.browser] → r ∈ released)
    (journal : q.journal = p.journal ++ released.filterMap (·.release? o) ++ [.stop])
    (left : ∀ r, q.holds r = true ↔ p.holds r = true ∧ r ∈ [Resource.engine, Resource.page])
    (fails' : q.unstopped = some fault) : Closes o p (.error fault) q

theorem exists_closes (o : SessionOptions) (s : Scene Session) :
    ∃ outcome t, close o s = (outcome, t) ∧ Closes o s.page outcome t.page := by
  cases fails : s.page.unstopped with
  | none =>
    obtain ⟨given, q, t, releases, eq, left⟩ := close_of_stopped (o := o) fails
    refine ⟨_, t, eq, .closed fails releases.sublist ?_ ?_ fun r => ?_⟩
    · intro r held saved other
      exact releases.mem (by cases r <;> simp_all) held saved
    · rw [left, lose_journal, releases.eq_loseAll, ← loseAll_journal s.page]
      rfl
    · rw [left, releases.eq_loseAll, ← Bool.not_eq_true, holds_lose, holds_called, holds_loseAll]
      cases r <;> simp
  | some fault =>
    obtain ⟨given, q, t, releases, -, eq, left⟩ := close_of_unstopped (o := o) fails
    refine ⟨_, t, eq, .unstopped fails releases.sublist ?_ ?_ (fun r => ?_) ?_⟩
    · intro r held hr
      exact releases.mem (by cases r <;> simp_all) held (by rintro rfl; simp at hr)
    · rw [left, releases.eq_loseAll, ← loseAll_journal s.page]
      rfl
    · rw [left, releases.eq_loseAll, holds_called, holds_called, holds_loseAll]
      cases r <;> simp
    · have := releases.unstopped_eq (by decide)
      rw [fails] at this
      rw [left]
      exact this

end Session

end Walkthrough
