import Walkthrough.Proofs.Run.Collecting
import Walkthrough.Proofs.Run.Progress

/-! Why a page is not recorded. That the system fails to write the log of a run, or the evidence of a page that
failed, is said and fails nothing. So a page is not recorded only if a text that is to be told of it holds a lone
surrogate: its name, a warning, the text of its fault or a part of its evidence (`Run.Reaches.untold`). -/

namespace Walkthrough

open Text

variable {π η : Type} {directory : String} {s t : Scene π} {fault : Fault}

/-! ## Writing -/

/-- Writing at the end of a file fails as something that is not of the system if the text cannot be written. -/
theorem Scene.unwritable_of_appendText {path text : String} (h0 : '\x00' ∉ path.toList)
    (h : appendText path text s = (.error fault, t)) (other : fault.isSystem = false) :
    ∃ u, Utf8.encodeText text = .error u ∧ fault = .foreign ⟨.encoding, u.message⟩ := by
  have all : ∃ bytes u, Utf8.encodeTexts [text] = (bytes, u) ∧
      ∀ v ∈ u, Utf8.encodeText text = .error v := by
    rw [Utf8.encodeTexts]
    cases Utf8.encodeText text with
    | error u => exact ⟨[], some u, rfl, fun v hv => congrArg _ (Option.some.inj hv)⟩
    | ok bytes => exact ⟨_, none, rfl, fun v hv => by cases hv⟩
  obtain ⟨bytes, u, encoded, cause⟩ := all
  rw [appendText, encoded] at h
  rcases Act.cases_of_bind_eq_error h with refused | ⟨_, s₁, -, unwritable⟩
  · unfold onDisk at refused
    split at refused
    · cases refused
    · next refusal eq =>
      cases refused
      have named : refusal ≠ .nullByte := fun null => Disk.append_ne_nullByte h0 (null ▸ eq)
      cases other.symm.trans (Disk.Refusal.isSystem_about named path)
  · cases u with
    | none => cases unwritable
    | some u =>
      cases unwritable
      exact ⟨u, cause u rfl, rfl⟩

namespace Run

/-- An entry is not written only if a text in it cannot be. -/
theorem unwritable_of_logStep {entry : StepEntry} (h0 : '\x00' ∉ directory.toList)
    (h : logStep (some directory) entry s = (.error fault, t)) :
    ¬ProperEntry entry ∧ ∃ u : Utf8.Unwritable, fault = .foreign ⟨.encoding, u.message⟩ := by
  have other := copes_logStep _ _ _ _ _ h
  unfold logStep at h
  cases named : namedDirectory (some directory) with
  | none =>
    rw [named] at h
    cases h
  | some d =>
    obtain rfl : d = directory := (Option.some.inj (mem_of_namedDirectory named)).symm
    rw [named] at h
    rcases Act.cases_of_bind_eq_error h with failed | ⟨outcome, s₁, tried, rest⟩
    · cases failed
    · cases outcome with
      | ok _ => cases rest
      | error fault' =>
        have writing := Act.eq_of_attempt tried
        dsimp only at rest
        split at rest
        · cases rest
        · cases rest
          rcases Act.cases_of_bind_eq_error writing with unmade | ⟨_, s₂, -, unwritten⟩
          · cases other.symm.trans (Evidence.isSystem_of_ensureDirectory h0 unmade)
          · obtain ⟨u, encoded, eq⟩ :=
              Scene.unwritable_of_appendText (Path.not_mem_joinPath h0 (by decide)) unwritten other
            refine ⟨fun proper => ?_, u, eq⟩
            have text := Text.Proper.append (Json.proper_write proper.toData) (.literal rfl : Text.Proper "\n")
            obtain ⟨bytes, written⟩ := text.encodeText
            cases encoded.symm.trans written

end Run

/-- Evidence is not collected only if a text that is to be listed cannot be written. -/
theorem Evidence.unlisted_of_collect {b : Browser π η} {page : FailedPage} (h0 : '\x00' ∉ directory.toList)
    (h : collect b directory page s = (.error fault, t)) :
    ∃ parts v w, Scene.ensureDirectory directory s = (.ok (), v) ∧
      collectParts b directory page.index v = (.ok parts, w) ∧ ¬(page.Proper ∧ parts.Proper) ∧
      ∃ u : Utf8.Unwritable, fault = .foreign ⟨.encoding, u.message⟩ := by
  have other := copes_collect _ _ _ _ _ _ h
  cases made : Scene.ensureDirectory directory s with | mk outcome s₁
  cases outcome with
  | error refused =>
    have told : collect b directory page s = _ :=
      Act.bind_of_ok (systemPart_of_isSystem made (isSystem_of_ensureDirectory h0 made))
    cases told.symm.trans h
  | ok _ =>
    obtain ⟨parts, s₂, collected⟩ := exists_collectParts b directory page.index s₁
    rw [collect_of_made made collected] at h
    refine ⟨parts, s₁, s₂, rfl, collected, ?_⟩
    cases writing : Scene.writeTexts (joinPath directory "failure_context.json")
      (Json.indentedParts (asData (contextEntries page parts))) s₂ with | mk outcome s₃
    cases outcome with
    | ok _ => cases ((Act.bind_of_ok (systemPart_of_ok writing)).symm.trans h)
    | error fault' =>
      cases system : fault'.isSystem with
      | true => cases ((Act.bind_of_ok (systemPart_of_isSystem writing system)).symm.trans h)
      | false =>
        cases (Act.bind_of_error (systemPart_of_not_isSystem writing system)).symm.trans h
        obtain ⟨u, unwritable, eq⟩ :=
          unwritable_of_writeTexts (Path.not_mem_joinPath h0 (by decide)) writing other
        refine ⟨fun ⟨hp, hc⟩ => ?_, u, eq⟩
        have list := Json.proper_indentedParts ((proper_pageEntries hp).append (proper_partEntries hc)).asData
        cases unwritable.symm.trans (Text.Proper.encodeTexts list)

namespace Run

section Pages

variable (runner : Runner π η) (r : Resolver π η) (host directory : String)

/-- Something that is to be told of page number `index`, which begins in the scene, cannot be written. -/
inductive Untold (index : Nat) (turn : Turn) (s : Scene π) : Prop
  | name (improper : ¬Text.Proper turn.page)
  | warnings {outcome : Outcome} {t : Scene π} (passed : runPage runner r host index turn s = (.ok outcome, t))
      (improper : ¬outcome.Proper)
  | fault {fault : Fault} {t : Scene π} (failed : runPage runner r host index turn s = (.error fault, t))
      (improper : ¬Speaks fault)
  /-- What the browser tells of the page once it has failed, or the paths of its evidence. -/
  | evidence {fault : Fault} {parts : Collected} {t v w : Scene π} {said : List LogEntry}
      (failed : runPage runner r host index turn s = (.error fault, t))
      (made : Scene.ensureDirectory directory { t with log := t.log ++ said } = (.ok (), v))
      (collected : Evidence.collectParts r.browser directory index v = (.ok parts, w))
      (improper : ¬parts.Proper)

/-- Of the pages of a run from number `index` on, where the first one begins in the scene `s`, number `i` is the
turn and begins in the scene `t`. -/
inductive Begins : Nat → Scene π → List Turn → Nat → Turn → Scene π → Prop
  | here {index : Nat} {s : Scene π} {turn : Turn} {rest : List Turn} :
      Begins index s (turn :: rest) index turn s
  | later {index i : Nat} {s s₁ s₂ t : Scene π} {turn turn' : Turn} {rest : List Turn} {outcome : Outcome}
      {said : List LogEntry} (passed : runPage runner r host index turn s = (.ok outcome, s₁))
      (logged : logStep (some directory)
        ⟨index, turn.page, true, runner.stopwatch.took s s₁, outcome.warnings, none⟩ s₁ = (.ok (), s₂))
      (next : Begins (index + 1) { s₂ with log := s₂.log ++ said } rest i turn' t) :
      Begins index s (turn :: rest) i turn' t

end Pages

variable {runner : Runner π η} {r : Resolver π η} {host name : String} {index k : Nat} {turn : Turn}
  {turns : List Turn} {warnings : List String} {ended : Except Fault Unit} {s' : Scene π}

theorem untold_of_recordFailure {fault' : Fault} {s₁ : Scene π} {took : Scene π → UInt64}
    (h0 : '\x00' ∉ directory.toList) (failed : runPage runner r host index turn s = (.error fault, s₁))
    (h : recordFailure took r.browser name (some directory) index turn.page fault s₁ = (.error fault', t)) :
    Untold runner r host directory index turn s ∧
      ∃ u : Utf8.Unwritable, fault' = .foreign ⟨.encoding, u.message⟩ := by
  have logged {v : Scene π} (h : (do
      logStep (some directory) ⟨index, turn.page, false, took (← Act.get), [], some fault.message⟩ :
      Act (Scene π) Unit) v = (.error fault', t)) : Untold runner r host directory index turn s ∧
      ∃ u : Utf8.Unwritable, fault' = .foreign ⟨.encoding, u.message⟩ := by
    rw [Act.get_bind_apply] at h
    obtain ⟨improper, encoding⟩ := unwritable_of_logStep h0 h
    refine ⟨?_, encoding⟩
    by_cases named : Text.Proper turn.page
    · exact .fault failed fun speaks => improper ⟨named, nofun, fun _ h => Option.mem_some.mp h ▸ speaks⟩
    · exact .name named
  unfold recordFailure at h
  rcases Act.cases_of_bind_eq_error h with said | ⟨_, s₂, spoken, rest⟩
  · cases said
  · cases spoken
    cases named : namedDirectory (some directory) with
    | none =>
      rw [named] at rest
      exact logged rest
    | some d =>
      obtain rfl : d = directory := (Option.some.inj (mem_of_namedDirectory named)).symm
      rw [named] at rest
      rcases Act.cases_of_bind_eq_error rest with lost | ⟨_, s₃, -, rest⟩
      · obtain ⟨parts, v, w, made, collected, improper, encoding⟩ := Evidence.unlisted_of_collect h0 lost
        refine ⟨?_, encoding⟩
        by_cases named : Text.Proper turn.page
        · by_cases speaks : Speaks fault
          · have page : FailedPage.Proper ⟨index, turn.page, some fault⟩ :=
              ⟨named, fun _ h => Option.mem_some.mp h ▸ speaks⟩
            exact .evidence failed made collected fun parts => improper ⟨page, parts⟩
          · exact .fault failed speaks
        · exact .name named
      · exact logged rest

/-- A page that is begun and not recorded is the last one, something that is to be told of it cannot be written,
and the fault of that comes out. -/
theorem Reaches.untold (h0 : '\x00' ∉ directory.toList)
    (h : Reaches runner r host name (some directory) index s turns k warnings false ended s') :
    ∃ i turn t, k = i + 1 ∧ Begins runner r host directory index s turns (index + i) turn t ∧
      Untold runner r host directory (index + i) turn t ∧
      ∃ u : Utf8.Unwritable, ended = .error (.foreign ⟨.encoding, u.message⟩) := by
  generalize lost : false = kept at h
  induction h with
  | done | failed => cases lost
  | @unrecorded _ s _ _ turn _ _ _ failed recorded =>
    obtain ⟨untold, u, rfl⟩ := untold_of_recordFailure h0 failed recorded
    exact ⟨0, turn, s, rfl, .here, untold, u, rfl⟩
  | @unlogged index s _ _ turn _ outcome _ passed logged =>
    obtain ⟨improper, u, rfl⟩ := unwritable_of_logStep h0 logged
    refine ⟨0, turn, s, rfl, .here, ?_, u, rfl⟩
    by_cases named : Text.Proper turn.page
    · exact .warnings passed fun warnings => improper ⟨named, warnings, nofun⟩
    · exact .name named
  | @passed index k _ _ _ _ _ _ _ _ _ _ _ passed logged _ ih =>
    obtain ⟨i, turn, t, rfl, begins, untold, encoding⟩ := ih lost
    rw [Nat.add_right_comm] at begins untold
    exact ⟨i + 1, turn, t, rfl, .later passed logged begins, untold, encoding⟩

end Run

/-- Page number `k` of a run is begun, something that is to be told of it cannot be written, and the fault of that
comes out of the run. -/
def Runner.LosesPage (runner : Runner π η) (scenario : Scenario) (b : Browser π η) (name directory : String)
    (s : Scene π) (k : Nat) (ended : Except Fault Unit) : Prop :=
  ∃ begun turn t, runner.begin scenario name s = (.ok (), begun) ∧
    Run.Begins runner ⟨b, Lookup.all⟩ scenario.host directory 1 begun (scenario.pages.map Page.turn) k turn t ∧
    Run.Untold runner ⟨b, Lookup.all⟩ scenario.host directory k turn t ∧
    ∃ u : Utf8.Unwritable, ended = .error (.foreign ⟨.encoding, u.message⟩)

theorem Runner.Reaches.losesPage {runner : Runner π η} {scenario : Scenario} {b : Browser π η} {name : String}
    {s' : Scene π} {k : Nat} {warnings : List String} {ended : Except Fault Unit} (h0 : '\x00' ∉ directory.toList)
    (h : runner.Reaches scenario b name (some directory) s k warnings false ended s') :
    runner.LosesPage scenario b name directory s k ended := by
  cases h with
  | @flagged _ _ _ _ begun _ _ flagged pages =>
    obtain ⟨i, turn, t, rfl, begins, untold, encoding⟩ := pages.untold h0
    rw [Nat.add_comm] at begins untold
    exact ⟨begun, turn, t, flagged, begins, untold, encoding⟩

end Walkthrough
