import Walkthrough.Proofs.Browser.Stays

/-! What a block comes to that is run within a session. It is to come to the failure of the step that the
opening fails in, or else to what its body comes to, and closing the session is not to change this. Closing
does change it if the engine does not stop, and nothing else does (`Session.within_outcome`). -/

namespace Walkthrough

namespace Session

variable {α : Type} {o : SessionOptions} {p q : Session} {s t : Scene Session} {fault : Fault}

/-- What a block within a session is to come to, and the scene in which its session is closed. -/
inductive Wanted (o : SessionOptions) (s : Scene Session) (body : Act (Scene Session) α) :
    Except Fault α → Scene Session → Prop
  /-- A step of the opening fails. What was acquired before it is held. -/
  | unopened {r : Resource} {fault : Fault} {t : Scene Session}
    (failed : (s.page.stay o (resources o)).failed = some r) (own : s.page.fault? o r = some fault)
    (held : ∀ q, q ≠ .page → (t.page.holds q = true ↔ q ∈ (s.page.stay o (resources o)).acquired))
    (same : t.page.failures = s.page.failures) : Wanted o s body (.error fault) t
  | ran {t : Scene Session} (works : (s.page.stay o (resources o)).failed = none)
    (opened : t.page.IsOpen o) (same : t.page.failures = s.page.failures) :
    Wanted o s body (body t).1 (body t).2

/-- The calls with which a session is closed that has just been closed. -/
def retried : Except Fault Unit → List SessionCall
  | .ok () => []
  | .error _ => [.stop]

/-- Closing again what was closed releases nothing again, and comes to the same. -/
theorem Closes.again {outcome : Except Fault Unit} (h : Closes o p outcome s.page) :
    (close o s).1 = outcome ∧ (close o s).2.page.journal = s.page.journal ++ retried outcome := by
  cases h with
  | closed _ _ _ _ closed =>
    obtain ⟨t, eq, left⟩ := close_of_isClosed (o := o) closed
    rw [eq]
    exact ⟨rfl, by rw [left, retried, List.append_nil]⟩
  | unstopped _ _ _ _ left fails =>
    obtain ⟨outcome', t, eq, again⟩ := exists_closes o s
    rw [eq]
    cases again with
    | closed stops => simp [stops] at fails
    | @unstopped released _ _ fails' inOrder _ journal =>
      have free : [.trace, .context, .browser].filter s.page.holds = [] := by
        refine List.filter_eq_nil_iff.mpr fun r hr => ?_
        rw [left]
        cases r <;> simp at hr ⊢
      obtain rfl : released = [] := List.sublist_nil.mp (free ▸ inOrder)
      obtain rfl := Option.some.inj (fails.symm.trans fails')
      exact ⟨rfl, by simpa [retried] using journal⟩

/-- The close that ends a block decides whether the block comes to what it is to come to. -/
theorem exists_within (o : SessionOptions) (s : Scene Session) (closed : s.page.IsClosed)
    (body : Act (Scene Session) α) :
    ∃ wanted t, Wanted o s body wanted t ∧
      within o body s = ((close o t).1.bind fun _ => wanted, (close o t).2) := by
  cases failed : (s.page.stay o (resources o)).failed with
  | none =>
    obtain ⟨t, eq, opened, -, same⟩ := openPage_of_ok closed failed
    refine ⟨_, _, .ran failed opened same, ?_⟩
    rw [within, Act.bind_of_ok eq, Act.bind_of_ok (Act.attempt_apply ..), Act.bind_apply]
    rcases close o (body t).2 with ⟨_ | _, t'⟩ <;> rfl
  | some r =>
    obtain ⟨fault, t, own, eq, held, -, same⟩ := openPage_of_failed closed failed
    refine ⟨_, _, .unopened failed own held same, ?_⟩
    have failed : openPage o s = ((close o t).1.bind fun _ => .error fault, (close o t).2) := by
      rw [eq, Act.bind_apply]
      rcases close o t with ⟨_ | _, t'⟩ <;> rfl
    rw [within, Act.bind_apply, failed]
    rcases close o t with ⟨_ | _, t'⟩ <;> rfl

/-- Closing fails if the engine does not stop, and only this replaces what a block within a session is to come
to. What was closed is not released again. -/
theorem within_outcome (o : SessionOptions) (s : Scene Session) (closed : s.page.IsClosed)
    (body : Act (Scene Session) α) :
    (∀ t : Scene Session, Closes o t.page (close o t).1 (close o t).2.page ∧
      (close o (close o t).2).1 = (close o t).1 ∧
      (close o (close o t).2).2.page.journal = (close o t).2.page.journal ++ retried (close o t).1) ∧
    ∃ wanted t, Wanted o s body wanted t ∧ (within o body s).2 = (close o t).2 ∧
      (within o body s).1 = (close o t).1.bind fun _ => wanted := by
  refine ⟨fun t => ?_, ?_⟩
  · obtain ⟨outcome, t', eq, closes⟩ := exists_closes o t
    rw [eq]
    exact ⟨closes, closes.again⟩
  · obtain ⟨wanted, t, h, eq⟩ := exists_within o s closed body
    exact ⟨wanted, t, h, by rw [eq], by rw [eq]⟩

/-- A page that cannot be opened, in a context that does not close: the block fails as the page did. -/
theorem within_outcome_unopened :
    ∃ (o : SessionOptions) (s : Scene Session), s.page.IsClosed ∧
      SessionStep.closeContext ∈ s.page.failures.map (·.1) ∧
      (within o (pure ()) s).1 = .error (.foreign ⟨.runtime, "no page"⟩) ∧
      (within o (pure ()) s).2.page.IsClosed := by
  let o : SessionOptions := { id := "s" }
  let s : Scene Session := { page := { failures :=
    [(.newPage, .foreign ⟨.runtime, "no page"⟩), (.closeContext, .foreign ⟨.runtime, "boom"⟩)] } }
  have closed : s.page.IsClosed := fun r => by cases r <;> rfl
  obtain ⟨closing, wanted, t, h, left, eq⟩ := within_outcome o s closed (pure ())
  obtain ⟨closes, -⟩ := closing t
  rw [← left] at closes
  refine ⟨o, s, closed, by simp [s], ?_⟩
  cases h with
  | ran works => cases works
  | unopened failed own held same =>
    obtain rfl : Resource.page = _ := Option.some.inj failed
    have stops : t.page.unstopped = none := unstopped_eq_none (same ▸ rfl)
    generalize (close o t).1 = outcome at closes eq
    cases closes with
    | closed _ _ _ _ empty => exact ⟨eq.trans (congrArg _ (Option.some.inj own).symm), empty⟩
    | unstopped fails => simp [stops] at fails

/-- A block whose body ends well, in a session whose engine does not stop: the block fails, the session still
holds the engine and the page, and closing it again makes another call. -/
theorem within_outcome_unstoppable :
    ∃ (o : SessionOptions) (s : Scene Session) (fault : Fault), s.page.IsClosed ∧
      (within o (pure ()) s).1 = .error fault ∧
      (within o (pure ()) s).2.page.engine = true ∧ (within o (pure ()) s).2.page.page.isSome ∧
      (close o (within o (pure ()) s).2).1 = .error fault ∧
      (close o (within o (pure ()) s).2).2.page.journal = (within o (pure ()) s).2.page.journal ++ [.stop] := by
  refine ⟨{ id := "s" }, { page := { failures := [(.stop, .foreign ⟨.runtime, "boom"⟩)] } },
    .foreign ⟨.runtime, "boom"⟩, fun r => by cases r <;> rfl, rfl, rfl, rfl, rfl, rfl⟩

end Session

end Walkthrough
