import Walkthrough.Proofs.Run.Progress

/-! What runs heed. If the calls of a browser heed nothing but how its page looks, then so does the run of a
scenario, whatever stands on the disk and in the log: it goes as far, with the same warnings, and comes to the
same, as long as its pages can be recorded (`Runner.Reaches.same`). Then it passes exactly if its flags are
applied and its pages pass one after the other (`Runner.Reaches.passes_iff`). -/

namespace Walkthrough

variable {π η β : Type}

/-- The steps that heed nothing of a scene but how its page looks: that decides what they come to and how the
page looks afterwards. -/
def Act.heeding (look : π → β) : Act.Kind (Scene π) := fun _ act =>
  ∀ s t, look s.page = look t.page →
    (act s).1 = (act t).1 ∧ look (act s).2.page = look (act t).2.page

namespace Act

variable {look : π → β} {α : Type} {act : Act (Scene π) α}

theorem closed_heeding (look : π → β) : (heeding look).Closed where
  pure _ _ same := ⟨rfl, same⟩
  fail _ _ same := ⟨rfl, same⟩
  bind {_ _ act next} h h' s t same := by
    obtain ⟨outcomes, pages⟩ := h s t same
    rw [bind_apply, bind_apply]
    cases hs : act s with | mk outcome s₁
    cases ht : act t with | mk outcome' t₁
    rw [hs, ht] at outcomes pages
    cases outcomes
    cases outcome with
    | error fault => exact ⟨rfl, pages⟩
    | ok a => exact h' a s₁ t₁ pages
  attempt h s t same := ⟨congrArg Except.ok (h s t same).1, (h s t same).2⟩
  mapFault h s t same := ⟨congrArg (Except.mapError _) (h s t same).1, (h s t same).2⟩

/-- Steps that always come to the same and keep the looks of the page heed nothing. -/
theorem heeding_of_keeps (outcome : Except Fault α) (h : ∀ s, (act s).1 = outcome)
    (keeps : Act.Keeps (Scene.Same look) act) : heeding look α act := fun s t same =>
  ⟨(h s).trans (h t).symm, (keeps s).trans (same.trans (keeps t).symm)⟩

end Act

/-- The step never fails. -/
def Act.Unfailing {σ α : Type} (act : Act σ α) : Prop := ∀ s, ∃ a, (act s).1 = .ok a

namespace Act.Unfailing

variable {σ α β : Type} {act : Act σ α} {next : α → Act σ β}

theorem pure {a : α} : Unfailing (Pure.pure a : Act σ α) := fun _ => ⟨a, rfl⟩

theorem bind (h : act.Unfailing) (h' : ∀ a, (next a).Unfailing) : (act >>= next).Unfailing := by
  intro s
  obtain ⟨a, first⟩ := h s
  rw [bind_of_ok (Prod.ext first rfl)]
  exact h' a _

theorem attempt : act.attempt.Unfailing := fun s => ⟨(act s).1, rfl⟩

theorem say {level : Level} {channel : Channel} {text : String} :
    Unfailing (Scene.say level channel text : Act (Scene π) Unit) := fun _ => ⟨(), rfl⟩

end Act.Unfailing

/-- The calls of the browser heed nothing but how its page looks, and recording a page does not change how
it looks. -/
structure Browser.Heeds (b : Browser π η) (look : π → β) : Prop where
  navigate : ∀ url, Act.heeding look _ (b.navigate url)
  call : ∀ {α : Type} {call : Act (Scene π) α}, b.Calls call → Act.heeding look _ call
  recording : b.Recording (Scene.Same look) fun _ => True

/-- The flags are applied without heeding more than how the page looks, and the strategies are put together
from the calls of the browser. -/
structure Runner.Heeds (runner : Runner π η) (look : π → β) : Prop where
  flags : ∀ features, Act.heeding look _ (runner.flags features)
  strategies : ∀ e ∈ runner.registry.strategies, ¬ e.2.IsStandard → e.2.Composed

variable {look : π → β}

theorem Browser.Heeds.within {b : Browser π η} (h : b.Heeds look) : b.Within (Act.heeding look) where
  toClosed := Act.closed_heeding look
  say _ _ _ := Act.heeding_of_keeps _ (fun _ => rfl) (h.recording.say _ _ _)
  call := h.call

/-! ## Pages in memory -/

/-- How a page in memory behaves: all of it but what was done to it. -/
def MemoryPage.looks (p : MemoryPage) : MemoryPage := { p with journal := [], queries := [] }

theorem heeding_onPage {α : Type} {call : MemoryPage → Except Fault α × MemoryPage}
    (h : ∀ p, (call p).1 = (call p.looks).1 ∧ (call p).2.looks = (call p.looks).2.looks) :
    Act.heeding MemoryPage.looks α (Scene.onPage call) := by
  intro s t same
  obtain ⟨outcome, page⟩ := h s.page
  obtain ⟨outcome', page'⟩ := h t.page
  rw [same] at outcome page
  exact ⟨outcome.trans outcome'.symm, page.trans page'.symm⟩

theorem heeds_memoryBrowser (n : String) : (memoryBrowser n).Heeds MemoryPage.looks where
  navigate url := heeding_onPage fun p => by
    simp only [MemoryPage.navigate, MemoryPage.check, MemoryPage.note, MemoryPage.looks]
    split <;> exact ⟨rfl, rfl⟩
  call calls := by
    have entry (e key : String) :
        Act.heeding MemoryPage.looks _ ((memoryBrowser n).readAttribute e key) :=
      heeding_onPage fun p => by
        simp only [MemoryPage.readAttribute, MemoryPage.element, MemoryPage.looks]
        split <;> exact ⟨rfl, rfl⟩
    have text (e : String) : Act.heeding MemoryPage.looks _ ((memoryBrowser n).readText e) :=
      heeding_onPage fun p => by
        simp only [MemoryPage.readText, MemoryPage.element, MemoryPage.looks]
        split <;> exact ⟨rfl, rfl⟩
    have touch (e : String) (t : Touch) :
        Act.heeding MemoryPage.looks _ (Scene.onPage (MemoryPage.touch e t)) :=
      heeding_onPage fun p => by
        have element : p.looks.element e = p.element e := rfl
        unfold MemoryPage.touch
        dsimp only
        rw [element]
        cases (p.element e).ignores t with
        | true => exact ⟨rfl, rfl⟩
        | false =>
          simp only [Bool.false_eq_true, if_false]
          cases Assoc.get? t.call (p.element e).failures with
          | some fault => exact ⟨rfl, rfl⟩
          | none => cases (p.element e).touched t <;> exact ⟨rfl, rfl⟩
    cases calls with
    | locate l =>
      refine heeding_onPage fun p => ?_
      simp only [MemoryPage.locate, MemoryPage.looks]
      split <;> exact ⟨rfl, rfl⟩
    | readAttribute e key => exact entry e key
    | readText e => exact text e
    | readValue e =>
      refine (Act.closed_heeding _).bind (entry e "value") fun value => ?_
      cases value with
      | none => exact text e
      | some value => exact (Act.closed_heeding _).pure
    | _ => exact touch _ _
  recording := (recording_pictured n).mono fun _ _ h => by
    obtain ⟨paths, pictured⟩ := h.page
    show MemoryPage.looks _ = MemoryPage.looks _
    rw [pictured]
    rfl

theorem FlagService.IsStandard.heeding {f : FlagService π} (h : f.IsStandard) (look : π → β)
    (features : List (String × Feature)) : Act.heeding look _ (f features) :=
  h.within (Act.closed_heeding look) (fun _ _ _ => Act.heeding_of_keeps _ (fun _ => rfl) fun _ => rfl)
    (fun _ hg => Act.heeding_of_keeps _ (fun _ => rfl) fun s => congrArg look (hg s).1) features

theorem FlagService.IsStandard.same {f : FlagService π} (h : f.IsStandard) (look : π → β)
    (features : List (String × Feature)) : Act.Keeps (Scene.Same look) (f features) :=
  h.within (C := Act.keeping (Scene.Same look)) Act.closed_keeping (fun _ _ _ _ => rfl)
    (fun _ hg s => congrArg look (hg s).1) features

/-! ## Pages of runs -/

/-- A screenshot that cannot be taken fails nothing. -/
theorem Photographer.unfailing_takeAt (time : Clock) (cwd : String) (b : Browser π η) (name : String)
    (page : Int) (directory : String) : (takeAt time cwd b name page directory).Unfailing := by
  refine .bind .attempt fun outcome => ?_
  split
  · exact .bind .say fun _ => .pure
  · exact .bind .say fun _ => .pure
  · exact .bind .say fun _ => .pure

namespace Run

variable {runner : Runner π η} {b : Browser π η}

theorem unfailing_pageHook {call : η → Act (Scene π) Unit} {page : String} {index : Nat}
    (hc : call ∈ pageHook runner b page index) (element : η) : (call element).Unfailing := by
  obtain ⟨p, -, rfl⟩ := Option.map_eq_some_iff.mp hc
  have taken : (p.take b (page ++ "-On_Page") index runner.settings.screenshotFolder).Unfailing := fun s =>
    Photographer.unfailing_takeAt (p.clock s.moment) s.disk.workingDirectory b _ _ _ s
  exact .bind taken fun _ => .pure

theorem heeds_pageHook (h : b.Heeds look) (runner : Runner π η) (page : String) (index : Nat) :
    (pageHook runner b page index).Within (Act.heeding look) := by
  intro call hc element
  have keeps := keeps_pageHook h.recording runner.pictures_anywhere page index call hc element
  refine Act.heeding_of_keeps (.ok ()) (fun s => ?_) keeps
  obtain ⟨_, called⟩ := unfailing_pageHook hc element s
  exact called

theorem heeds_runPage (h : b.Heeds look) (hr : runner.Heeds look) (host : String) (index : Nat)
    (turn : Turn) : Act.heeding look _ (runPage runner ⟨b, Lookup.all⟩ host index turn) :=
  within_runPage h.within (h.navigate host) fun e he a =>
    Registry.composed_of_outside hr.strategies e he h.within (heeds_pageHook h runner _ _) a

/-- Pages that pass one after the other, each begun where the one before it ended. -/
def Pass (runner : Runner π η) (r : Resolver π η) (host : String) : Nat → Scene π → List Turn → Prop
  | _, _, [] => True
  | index, s, turn :: rest => ∃ outcome s₁, runPage runner r host index turn s = (.ok outcome, s₁) ∧
    Pass runner r host (index + 1) s₁ rest

variable {host name name' : String} {directory directory' : Option String} {turns : List Turn}
  {index k k' : Nat} {s s' t t' : Scene π} {warnings warnings' : List String} {kept : Bool}
  {ended ended' : Except Fault Unit}

/-- Pages pass or not on scenes whose pages look the same. -/
theorem Pass.congr (pass : Pass runner ⟨b, Lookup.all⟩ host index s turns) (h : b.Heeds look)
    (hr : runner.Heeds look) (same : look s.page = look t.page) :
    Pass runner ⟨b, Lookup.all⟩ host index t turns := by
  induction turns generalizing index s t with
  | nil => trivial
  | cons turn rest ih =>
    obtain ⟨outcome, s₁, passed, next⟩ := pass
    obtain ⟨outcomes, pages⟩ := heeds_runPage h hr host index turn s t same
    rw [passed] at outcomes pages
    exact ⟨outcome, (runPage runner ⟨b, Lookup.all⟩ host index turn t).2, Prod.ext outcomes.symm rfl,
      ih next pages⟩

theorem same_of_logStep (h : b.Heeds look) {entry : StepEntry} {outcome : Except Fault Unit}
    (logged : logStep directory entry s = (outcome, s')) : look s'.page = look s.page :=
  (keeps_logStep h.recording.toFiling (fun _ _ _ _ => trivial) entry).of_eq logged

/-- Pages that are recorded come to their end exactly if they pass. -/
theorem Reaches.pass_iff (h : b.Heeds look) (hr : runner.Heeds look)
    (reaches : Reaches runner ⟨b, Lookup.all⟩ host name directory index s turns k warnings true ended s') :
    ended = .ok () ↔ Pass runner ⟨b, Lookup.all⟩ host index s turns := by
  generalize recorded : true = kept at reaches
  induction reaches with
  | done => exact iff_of_true rfl trivial
  | failed failed =>
    refine iff_of_false nofun fun ⟨_, _, eq, _⟩ => ?_
    cases failed.symm.trans eq
  | unrecorded | unlogged => cases recorded
  | passed passed logged _ ih =>
    have same := same_of_logStep h logged
    rw [ih recorded]
    constructor
    · exact fun next => ⟨_, _, passed, next.congr h hr same⟩
    · rintro ⟨_, _, eq, next⟩
      cases passed.symm.trans eq
      exact next.congr h hr same.symm

/-- Pages that look the same and are recorded go as far and come to the same. -/
theorem Reaches.same (h : b.Heeds look) (hr : runner.Heeds look) (same : look s.page = look t.page)
    (one : Reaches runner ⟨b, Lookup.all⟩ host name directory index s turns k warnings true ended s')
    (other : Reaches runner ⟨b, Lookup.all⟩ host name' directory' index t turns k' warnings' true ended' t') :
    k = k' ∧ warnings = warnings' ∧ ended = ended' := by
  generalize recorded : true = kept at one
  induction one generalizing t k' warnings' with
  | done =>
    cases other
    exact ⟨rfl, rfl, rfl⟩
  | unrecorded | unlogged => cases recorded
  | @failed index _ _ _ turn _ _ failed =>
    obtain ⟨outcomes, -⟩ := heeds_runPage h hr host index turn _ _ same
    cases other with
    | failed failed' =>
      rw [failed, failed'] at outcomes
      cases outcomes
      exact ⟨rfl, rfl, rfl⟩
    | passed passed' =>
      rw [failed, passed'] at outcomes
      cases outcomes
  | @passed index _ _ _ _ _ turn _ _ _ _ _ _ passed logged _ ih =>
    obtain ⟨outcomes, pages⟩ := heeds_runPage h hr host index turn _ _ same
    cases other with
    | failed failed' =>
      rw [passed, failed'] at outcomes
      cases outcomes
    | passed passed' logged' next =>
      rw [passed, passed'] at outcomes pages
      cases outcomes
      have same := (same_of_logStep h logged).trans (pages.trans (same_of_logStep h logged').symm)
      obtain ⟨rfl, rfl, rfl⟩ := ih (by exact same) next recorded
      exact ⟨rfl, rfl, rfl⟩

end Run

/-! ## Whole runs -/

namespace Runner

variable {runner : Runner π η} {scenario : Scenario} {b : Browser π η} {name : String}
  {directory directory' : Option String} {k k' : Nat} {s s' t t' : Scene π}
  {warnings warnings' : List String} {ended ended' : Except Fault Unit}

/-- The flags of a scenario are applied and its pages pass one after the other. -/
def Passes (runner : Runner π η) (scenario : Scenario) (b : Browser π η) (name : String) (s : Scene π) :
    Prop :=
  ∃ begun, runner.begin scenario name s = (.ok (), begun) ∧
    Run.Pass runner ⟨b, Lookup.all⟩ scenario.host 1 begun (scenario.pages.map Page.turn)

theorem heeds_begin (h : b.Heeds look) (hr : runner.Heeds look) (scenario : Scenario) (name : String) :
    Act.heeding look _ (runner.begin scenario name) :=
  (Act.closed_heeding look).bind (h.within.say _ _ _) fun _ => hr.flags _

theorem Passes.congr (passes : runner.Passes scenario b name s) (h : b.Heeds look)
    (hr : runner.Heeds look) (same : look s.page = look t.page) : runner.Passes scenario b name t := by
  obtain ⟨begun, flagged, pass⟩ := passes
  obtain ⟨outcomes, pages⟩ := heeds_begin h hr scenario name s t same
  rw [flagged] at outcomes pages
  exact ⟨(runner.begin scenario name t).2, Prod.ext outcomes.symm rfl, pass.congr h hr pages⟩

/-- A run whose pages are recorded comes to its end exactly if its flags are applied and its pages pass. -/
theorem Reaches.passes_iff (h : b.Heeds look) (hr : runner.Heeds look)
    (reaches : runner.Reaches scenario b name directory s k warnings true ended s') :
    ended = .ok () ↔ runner.Passes scenario b name s := by
  cases reaches with
  | unflagged failed =>
    refine iff_of_false nofun fun ⟨_, eq, _⟩ => ?_
    cases failed.symm.trans eq
  | flagged flagged pages =>
    rw [pages.pass_iff h hr]
    constructor
    · exact fun pass => ⟨_, flagged, pass⟩
    · rintro ⟨_, eq, pass⟩
      cases flagged.symm.trans eq
      exact pass

/-- Runs on pages that look the same go as far and come to the same if their pages are recorded, whatever
stands on the disk and in the log. -/
theorem Reaches.same (h : b.Heeds look) (hr : runner.Heeds look) (same : look s.page = look t.page)
    (one : runner.Reaches scenario b name directory s k warnings true ended s')
    (other : runner.Reaches scenario b name directory' t k' warnings' true ended' t') :
    k = k' ∧ warnings = warnings' ∧ ended = ended' := by
  obtain ⟨outcomes, pages⟩ := heeds_begin h hr scenario name s t same
  cases one with
  | unflagged failed =>
    cases other with
    | unflagged failed' =>
      rw [failed, failed'] at outcomes
      cases outcomes
      exact ⟨rfl, rfl, rfl⟩
    | flagged flagged' =>
      rw [failed, flagged'] at outcomes
      cases outcomes
  | flagged flagged one =>
    cases other with
    | unflagged failed' =>
      rw [flagged, failed'] at outcomes
      cases outcomes
    | flagged flagged' other =>
      rw [flagged, flagged'] at pages
      exact one.same h hr pages other

end Runner

end Walkthrough
