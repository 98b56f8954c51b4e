import Walkthrough.Proofs.Browser.Resources

/-! What a session releases. `Session.Life` are the scenes that a session comes to when it is opened while it
is closed, and closed whenever, with whatever calls failing on its way but that of stopping the engine. The
calls that it has made are then a `Session.Ledger` of its stays: what a stay acquired was released once, last
first, and nothing else was (`Session.Life.released_once`). -/

namespace Walkthrough

namespace Session

variable {o : SessionOptions} {p q : Session} {s t : Scene Session} {r : Resource} {y : Stay}
  {stays : List Stay} {calls : List SessionCall}

/-- The calls of stays that are over. -/
inductive Ledger (o : SessionOptions) : List Stay → List SessionCall → Prop
  | nil : Ledger o [] []
  /-- What was acquired is released in the opposite order, each at most once, and the trace alone may not be
  kept. A page goes with its context. -/
  | snoc {stays : List Stay} {calls : List SessionCall} {y : Stay} {released : List Resource}
    (past : Ledger o stays calls) (acquired : y.acquired <+: resources o)
    (inOrder : List.Sublist released y.acquired.reverse)
    (all : ∀ r ∈ y.acquired, r ≠ .trace → r ≠ .page → r ∈ released) :
    Ledger o (stays ++ [y]) (calls ++ (y.calls o ++ released.filterMap (·.release? o)))

/-- A session that holds nothing, and whose calls are those of stays that are over. -/
structure Settled (o : SessionOptions) (stays : List Stay) (p : Session) : Prop where
  closed : p.IsClosed
  ledger : Ledger o stays p.journal

/-- A session in a stay: it holds what the stay acquired. -/
structure Staying (o : SessionOptions) (stays : List Stay) (y : Stay) (p : Session) : Prop where
  acquired : y.acquired <+: resources o
  held : ∀ r, r ≠ .page → (p.holds r = true ↔ r ∈ y.acquired)
  ledger : ∃ calls, Ledger o stays calls ∧ p.journal = calls ++ y.calls o

/-! ## Closing -/

theorem unstopped_eq_none (stops : Assoc.get? SessionCall.stop.step p.failures = none) :
    p.unstopped = none := by
  rw [unstopped, stops, ite_self]

theorem close_of_isClosed (closed : s.page.IsClosed) :
    ∃ t, close o s = (.ok (), t) ∧ t.page = s.page := by
  rw [close_eq, releaseAll_of_free _ _ (closed _), releaseAll_of_free _ _ (closed _),
    releaseAll_of_free _ _ (closed _), releaseAll_of_free _ _ (closed _)]
  exact ⟨_, rfl, lose_of_not_holds (closed .page)⟩

theorem nodup_resources (o : SessionOptions) : (resources o).Nodup := by
  rw [resources]
  cases (traceDirectory o).isSome <;> decide

theorem filter_resources_sublist (o : SessionOptions) :
    List.Sublist ([.trace, .context, .browser, .engine].filter (· ∈ resources o)) (resources o).reverse := by
  rw [resources]
  cases (traceDirectory o).isSome <;> decide

/-- What is acquired is released last first. -/
theorem filter_holds_sublist {rs : List Resource} (acquired : rs <+: resources o)
    (held : ∀ r, r ≠ .page → (p.holds r = true ↔ r ∈ rs)) :
    List.Sublist ([.trace, .context, .browser, .engine].filter p.holds) rs.reverse := by
  have same : [.trace, .context, .browser, .engine].filter p.holds =
      ([.trace, .context, .browser, .engine].filter (· ∈ resources o)).filter (· ∈ rs) := by
    rw [List.filter_filter]
    refine List.filter_congr fun r hr => ?_
    have := held r (by rintro rfl; simp at hr)
    have := acquired.subset (a := r)
    grind
  have kept : (resources o).filter (· ∈ rs) = rs := by
    rw [List.prefix_iff_eq_take.mp acquired]
    simpa using ((nodup_resources o).take_eq_filter_mem (n := rs.length)).symm
  have := (filter_resources_sublist o).filter (· ∈ rs)
  rwa [← same, List.filter_reverse, kept] at this

/-- Closing a session ends its stay. -/
theorem Staying.close (h : s.page.Staying o stays y) (stops : s.page.unstopped = none) :
    ∃ t, close o s = (.ok (), t) ∧ t.page.Settled o (stays ++ [y]) := by
  obtain ⟨outcome, t, eq, closes⟩ := exists_closes o s
  cases closes with
  | unstopped fails => simp [stops] at fails
  | @closed released _ _ inOrder all journal closed =>
    obtain ⟨calls, past, before⟩ := h.ledger
    refine ⟨t, eq, closed, ?_⟩
    rw [journal, before, List.append_assoc]
    refine .snoc past h.acquired (inOrder.trans (filter_holds_sublist h.acquired h.held)) ?_
    exact fun r hr saved other => all r ((h.held r other).mpr hr) saved other

/-! ## Opening -/

theorem acquired_stay (p : Session) (rs : List Resource) : (p.stay o rs).acquired <+: rs := by
  induction rs with
  | nil => exact List.nil_prefix
  | cons r rs ih =>
    rw [stay]
    split
    · exact List.nil_prefix
    · exact (List.prefix_cons_inj r).mpr ih

/-- What is acquired while a session is opened. -/
theorem holds_acquired (closed : p.IsClosed) (y : Stay) (cs : List SessionCall) {r : Resource}
    (other : r ≠ .page) : ((p.gainAll y.acquired).called cs).holds r = true ↔ r ∈ y.acquired := by
  rw [holds_called, holds_gainAll, closed]
  simp [other]

theorem acquire_apply (o : SessionOptions) (s : Scene Session) (hy : s.page.stay o (resources o) = y) :
    ∃ t, acquire o s = (y.outcome o s.page, t) ∧ t.page = (s.page.gainAll y.acquired).called (y.calls o) := by
  rw [acquire_eq, acquireAll_apply, hy]
  exact ⟨_, rfl, rfl⟩

/-- Opening acquires, and what this comes to decides what follows. -/
theorem openPage_cases (o : SessionOptions) (s : Scene Session) (hy : s.page.stay o (resources o) = y) :
    ∃ t, t.page = (s.page.gainAll y.acquired).called (y.calls o) ∧
      (y.outcome o s.page = .ok () →
        openPage o s = hold (fun p => { p with page := some o.settings.navigationTimeout }) t) ∧
      ∀ fault, y.outcome o s.page = .error fault →
        openPage o s = (Session.close o >>= fun _ => Act.fail fault) t := by
  obtain ⟨log, said⟩ : ∃ log, Scene.say .debug .session ("opening browser session " ++ o.id) s =
    (.ok (), { s with log := log }) := ⟨_, rfl⟩
  obtain ⟨t, acquired, left⟩ := acquire_apply o { s with log := log } hy
  refine ⟨t, left, fun works => ?_, fun fault fails => ?_⟩
  · rw [openPage, Act.bind_of_ok said, Act.bind_of_ok (Act.attempt_apply ..), acquired, works]
  · rw [openPage, Act.bind_of_ok said, Act.bind_of_ok (Act.attempt_apply ..), acquired, fails]

/-- If nothing fails, all is acquired. -/
theorem stay_of_failed_eq_none {rs : List Resource} (h : (p.stay o rs).failed = none) :
    p.stay o rs = ⟨rs, none⟩ := by
  induction rs with
  | nil => rfl
  | cons r rs ih =>
    rw [stay] at h ⊢
    cases fails : p.fault? o r with
    | none =>
      simp only [fails, Stay.after] at h ⊢
      rw [ih h]
    | some fault => simp [fails] at h

/-- What fails to be acquired fails by the fault of its own step. -/
theorem exists_fault {rs : List Resource} (h : (p.stay o rs).failed = some r) :
    ∃ fault, p.fault? o r = some fault := by
  induction rs with
  | nil => cases h
  | cons q rs ih =>
    rw [stay] at h
    cases fails : p.fault? o q with
    | none =>
      simp only [fails, Stay.after] at h
      exact ih h
    | some fault =>
      simp only [fails, Option.some.injEq] at h
      exact ⟨fault, h ▸ fails⟩

/-- A session is opened once it holds all that it is to acquire. -/
theorem openPage_of_ok (closed : s.page.IsClosed) (works : (s.page.stay o (resources o)).failed = none) :
    ∃ t, openPage o s = (.ok (), t) ∧ t.page.IsOpen o ∧
      t.page.journal = s.page.journal ++ (Stay.mk (resources o) none).calls o ∧
      t.page.failures = s.page.failures := by
  obtain ⟨t, left, eq, -⟩ := openPage_cases o s (stay_of_failed_eq_none works)
  have held {r} (other : r ≠ .page) : t.page.holds r = true ↔ r ∈ resources o :=
    left ▸ holds_acquired closed ⟨resources o, none⟩ _ other
  refine ⟨_, eq rfl, fun r => ?_, ?_, ?_⟩
  · cases r with
    | page => simp [holds, resources]
    | engine => exact held (r := .engine) (by decide)
    | browser => exact held (r := .browser) (by decide)
    | context => exact held (r := .context) (by decide)
    | trace => exact held (r := .trace) (by decide)
  · change t.page.journal = _
    rw [left, ← gainAll_journal s.page (resources o)]
    rfl
  · change t.page.failures = _
    rw [left, ← gainAll_failures s.page (resources o)]
    rfl

/-- An opening that fails closes the session, which holds what was acquired, and fails as its own step did. -/
theorem openPage_of_failed (closed : s.page.IsClosed) (fails : (s.page.stay o (resources o)).failed = some r) :
    ∃ fault t, s.page.fault? o r = some fault ∧
      openPage o s = (Session.close o >>= fun _ => Act.fail fault) t ∧
      (∀ q, q ≠ .page → (t.page.holds q = true ↔ q ∈ (s.page.stay o (resources o)).acquired)) ∧
      t.page.journal = s.page.journal ++ (s.page.stay o (resources o)).calls o ∧
      t.page.failures = s.page.failures := by
  obtain ⟨fault, own⟩ := exists_fault fails
  obtain ⟨t, left, -, eq⟩ := openPage_cases o s rfl
  refine ⟨fault, t, own, eq fault (by simp [Stay.outcome, fails, own]), fun q other => ?_, ?_, ?_⟩
  · exact left ▸ holds_acquired closed _ _ other
  · rw [left, ← gainAll_journal s.page]
    rfl
  · rw [left, ← gainAll_failures s.page]
    rfl

/-- What a failed opening acquired is released again. -/
theorem openPage_of_error (settled : s.page.Settled o stays)
    (stops : Assoc.get? SessionCall.stop.step s.page.failures = none)
    (fails : (s.page.stay o (resources o)).failed = some r) :
    ∃ fault t, s.page.fault? o r = some fault ∧ openPage o s = (.error fault, t) ∧
      t.page.Settled o (stays ++ [s.page.stay o (resources o)]) := by
  obtain ⟨fault, t, own, eq, held, journal, failures⟩ := openPage_of_failed settled.closed fails
  have staying : t.page.Staying o stays (s.page.stay o (resources o)) :=
    ⟨acquired_stay .., held, s.page.journal, settled.ledger, journal⟩
  obtain ⟨t', closed, settled'⟩ := staying.close (unstopped_eq_none (failures ▸ stops))
  refine ⟨fault, t', own, ?_, settled'⟩
  rw [eq, Act.bind_of_ok closed]
  rfl

/-! ## Sessions that are opened and closed -/

/-- The scenes of sessions that are opened while they are closed, and closed at any time, with the stays that
were begun. Any calls fail, other ones at every time, only the engine always stops. -/
inductive Life (o : SessionOptions) : List Stay → Scene Session → Prop
  | fresh {s : Scene Session} (closed : s.page.IsClosed) (none : s.page.journal = []) : Life o [] s
  | meanwhile {stays : List Stay} {s t : Scene Session} (life : Life o stays s)
    (same : t.page = { s.page with failures := t.page.failures }) : Life o stays t
  | opened {stays : List Stay} {s : Scene Session} (life : Life o stays s) (closed : s.page.IsClosed)
    (stops : Assoc.get? SessionCall.stop.step s.page.failures = none) :
    Life o (stays ++ [s.page.stay o (resources o)]) (openPage o s).2
  | closed {stays : List Stay} {s : Scene Session} (life : Life o stays s)
    (stops : Assoc.get? SessionCall.stop.step s.page.failures = none) : Life o stays (Session.close o s).2

/-- A session in its life holds nothing or all that it is to acquire. -/
inductive Standing (o : SessionOptions) : List Stay → Session → Prop
  | settled {stays : List Stay} {p : Session} (settled : p.Settled o stays) : Standing o stays p
  | staying {stays : List Stay} {p : Session} (staying : p.Staying o stays ⟨resources o, none⟩) :
    Standing o (stays ++ [⟨resources o, none⟩]) p

namespace Standing

theorem close (h : s.page.Standing o stays) (stops : Assoc.get? SessionCall.stop.step s.page.failures = none) :
    ∃ t, Session.close o s = (.ok (), t) ∧ t.page.Settled o stays := by
  cases h with
  | settled settled =>
    obtain ⟨t, eq, left⟩ := close_of_isClosed (o := o) settled.closed
    exact ⟨t, eq, left ▸ settled⟩
  | staying staying => exact staying.close (unstopped_eq_none stops)

theorem settled_of_isClosed (h : p.Standing o stays) (closed : p.IsClosed) : p.Settled o stays := by
  cases h with
  | settled settled => exact settled
  | staying staying =>
    have held := (staying.held .engine nofun).mpr (by simp [resources])
    rw [closed] at held
    cases held

theorem of_failures (h : p.Standing o stays) (same : q = { p with failures := q.failures }) :
    q.Standing o stays := by
  have held (r) : q.holds r = p.holds r := by rw [same]; cases r <;> rfl
  have journal : q.journal = p.journal := by rw [same]
  cases h with
  | settled h => exact .settled ⟨fun r => (held r).trans (h.closed r), journal ▸ h.ledger⟩
  | staying h => exact .staying ⟨h.acquired, fun r other => held r ▸ h.held r other, journal ▸ h.ledger⟩

end Standing

theorem Life.standing (h : Life o stays s) : s.page.Standing o stays := by
  induction h with
  | fresh closed none => exact .settled ⟨closed, none ▸ .nil⟩
  | meanwhile _ same ih => exact ih.of_failures same
  | closed _ stops ih =>
    obtain ⟨t, eq, settled⟩ := ih.close stops
    exact eq ▸ .settled settled
  | @opened stays s _ closed stops ih =>
    have settled := ih.settled_of_isClosed closed
    cases failed : (s.page.stay o (resources o)).failed with
    | none =>
      obtain ⟨t, eq, opened, journal, -⟩ := openPage_of_ok closed failed
      rw [eq, stay_of_failed_eq_none failed]
      exact .staying ⟨List.prefix_rfl, fun r _ => opened r, _, settled.ledger, journal⟩
    | some r =>
      obtain ⟨fault, t, -, eq, settled⟩ := openPage_of_error settled stops failed
      exact eq ▸ .settled settled

/-- A session releases what it acquired, once and in order. Closing never fails, and leaves nothing. Opening
acquires all, or fails as its own step did and leaves nothing. -/
theorem Life.released_once (h : Life o stays s)
    (stops : Assoc.get? SessionCall.stop.step s.page.failures = none) :
    ((Session.close o s).1 = .ok () ∧ (Session.close o s).2.page.Settled o stays) ∧
      (s.page.IsClosed →
        match (s.page.stay o (resources o)).failed with
        | none => (openPage o s).1 = .ok () ∧ (openPage o s).2.page.IsOpen o
        | some r => (∃ fault, s.page.fault? o r = some fault ∧ (openPage o s).1 = .error fault) ∧
            (openPage o s).2.page.Settled o (stays ++ [s.page.stay o (resources o)])) := by
  refine ⟨?_, fun closed => ?_⟩
  · obtain ⟨t, eq, settled⟩ := h.standing.close stops
    rw [eq]
    exact ⟨rfl, settled⟩
  · have settled := h.standing.settled_of_isClosed closed
    cases failed : (s.page.stay o (resources o)).failed with
    | none =>
      obtain ⟨t, eq, opened, -⟩ := openPage_of_ok closed failed
      rw [eq]
      exact ⟨rfl, opened⟩
    | some r =>
      obtain ⟨fault, t, fails, eq, settled⟩ := openPage_of_error settled stops failed
      rw [eq]
      exact ⟨⟨fault, fails, rfl⟩, settled⟩

/-- A session that is opened in vain, opened again, and closed though its context does not close. -/
theorem Life.released_once_reopened :
    ∃ (o : SessionOptions) (s : Scene Session),
      Life o [⟨[.engine, .browser, .context, .trace], some .page⟩, ⟨resources o, none⟩] s ∧
        SessionStep.closeContext ∈ s.page.failures.map (·.1) ∧
        (Session.close o s).1 = .ok () ∧ (Session.close o s).2.page.Settled o
          [⟨[.engine, .browser, .context, .trace], some .page⟩, ⟨resources o, none⟩] := by
  let o : SessionOptions := { id := "s", settings := { trace := true }, directory := some "run" }
  let boom : Fault := .foreign ⟨.runtime, "boom"⟩
  let s : Scene Session := { page := { failures := [(.newPage, boom)] } }
  have unopened : Life o [] s := .fresh (fun r => by cases r <;> rfl) rfl
  obtain ⟨_, t, -, failed, settled⟩ :=
    openPage_of_error (o := o) (r := .page) ⟨fun r => by cases r <;> rfl, .nil⟩ (s := s) rfl rfl
  have once := Life.opened unopened (fun r => by cases r <;> rfl) rfl
  rw [failed] at once
  let s' : Scene Session := { t with page := { t.page with failures := [] } }
  have twice := Life.opened (Life.meanwhile once (t := s') rfl)
    (fun r => (by cases r <;> rfl : _ = t.page.holds r).trans (settled.closed r)) rfl
  let s'' : Scene Session := { (openPage o s').2 with
    page := { (openPage o s').2.page with failures := [(.closeContext, boom)] } }
  have life := Life.meanwhile twice (t := s'') rfl
  exact ⟨o, s'', life, List.mem_singleton_self _, (life.released_once rfl).1⟩

end Session

end Walkthrough
