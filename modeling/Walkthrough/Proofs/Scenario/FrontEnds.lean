import Walkthrough.Proofs.Scenario.Summary
import Walkthrough.Proofs.Script.Image

/-! Summaries of scenarios that were read. The document form undoes the summary of every scenario that
comes from a document, and of one that comes from a script if its names are whole. -/

namespace Walkthrough

open Text

theorem Script.WritableAction.regular {a : Action} (h : Script.WritableAction a) : a.Regular := by
  cases h with
  | click shown => exact .click (isBlankText_eq_false_iff.mpr shown)
  | enter shown => exact .enter (isBlankText_eq_false_iff.mpr shown)
  | submit names once => exact .submit (fun e he => (names e he).1.isBlankText) once

/-- A scenario that can be written as a script is regular. -/
theorem Script.Writable.regular {s : Scenario} (h : Script.Writable s) : s.Regular := by
  refine ⟨h.host.isBlankText, fun e he => ?_, h.once, fun p hp => ?_⟩
  · obtain ⟨hn, hf⟩ := h.features e he
    refine ⟨hn, hf.once, fun k hk => ?_⟩
    obtain ⟨e', he', rfl⟩ := List.mem_map.mp hk
    exact (hf.entries e' he').unreserved
  · have hp := h.pages p hp
    exact ⟨hp.label.isBlankText, fun e he => (hp.expected e he).1.isBlankText, hp.action.regular⟩

namespace Scenario

variable {s : Scenario}

theorem ofText_script_eq_ok_iff [StackRoom] {text : String} {source : Option String} :
    ofText .script text source = .ok s ↔ Script.parse text.toList = .ok s :=
  Except.mapError_eq_ok_iff

theorem ofData_eq_ok_iff {d : Data} : ofData d = .ok s ↔ Document.scenarioOf d = .ok s :=
  Except.mapError_eq_ok_iff

/-- The summary of a scenario from a script is read back exactly if its host, the names of its pages and
its expected targets are whole; that of a scenario from a document is always read back. -/
theorem ofData_summary [StackRoom] (s : Scenario) :
    ((∃ text source, ofText .script text source = .ok s) → (ofData s.summary = .ok s ↔ s.Whole)) ∧
      ((∃ d, ofData d = .ok s) → ofData s.summary = .ok s) := by
  constructor
  · rintro ⟨text, source, h⟩
    rw [ofText_script_eq_ok_iff] at h
    rw [ofData_eq_ok_iff, Document.scenarioOf_summary (Script.writable_of_parse h).regular]
  · rintro ⟨d, h⟩
    rw [ofData_eq_ok_iff] at h ⊢
    obtain ⟨hr, hw⟩ := Document.regular_of_scenarioOf h
    exact (Document.scenarioOf_summary hr).mpr hw

/-- A script with a click and the document that it is summarised as. -/
theorem ofData_summary_click :
    let s : Scenario := ⟨"h", [], [⟨"p", .click (some "t"), []⟩]⟩
    ofText .script "Host: h\nPage p\naction:\ntype: Click\ntarget: t" none = .ok s ∧ s.Whole ∧
      ofData s.summary = .ok s ∧ ofData s.summary = .ok s := by
  intro s
  have hs : ofText .script "Host: h\nPage p\naction:\ntype: Click\ntarget: t" none = .ok s := rfl
  have hw : s.Whole := by
    refine ⟨by decide, fun p hp => ?_⟩
    rw [List.mem_singleton.mp hp]
    exact ⟨by decide, nofun⟩
  have hd := ((ofData_summary s).1 ⟨_, _, hs⟩).mpr hw
  exact ⟨hs, hw, hd, (ofData_summary s).2 ⟨_, hd⟩⟩

/-- A host that is a lone surrogate is read from a script, but not from a document. -/
theorem ofData_summary_lone_surrogate :
    let s : Scenario := ⟨CodePoints.text [0xD800], [], []⟩
    ofText .script (CodePoints.text [0x48, 0x6F, 0x73, 0x74, 0x3A, 0x20, 0xD800]) none = .ok s ∧
      ofData s.summary ≠ .ok s := by
  exact ⟨rfl, nofun⟩

end Scenario

end Walkthrough
