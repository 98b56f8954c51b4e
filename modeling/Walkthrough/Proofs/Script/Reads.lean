import Walkthrough.Proofs.Script.Drafts

/-! From runs to trees. `Reads` is the invariant of a run: the lines that were read spell the blocks that
the machine holds, the last of them as far as it goes. Every step keeps it (`Reads.step`), and a
scenario at the end is what the blocks say (`Reads.finish`). -/

namespace Walkthrough.Script

theorem Outline.Spells.prologue {bs : List Block} {ls : List (List Char)}
    (h : Sequence Block.Spells bs ls) : Outline.Spells ⟨bs, []⟩ ls := by
  have := Outline.Spells.mk h .nil
  rwa [List.append_nil] at this

theorem Outline.Spells.concat {o : Outline} {b : PageBlock} {ls rest : List (List Char)}
    (h : o.Spells ls) (hb : b.Spells rest) :
    Outline.Spells ⟨o.prologue, o.pages ++ [b]⟩ (ls ++ rest) := by
  cases h with
  | mk blocks pages =>
    rw [List.append_assoc]
    exact .mk blocks (pages.concat hb)

namespace Machine

variable {m m' : Machine} {line : Line} {ls : List (List Char)}

theorem Holds.no_pages {bs : List Block} (h : m.Holds ⟨bs, []⟩) : m.pages = [] :=
  List.forall₂_nil_left_iff.mp h.pages

theorem closePage_of_none (h : m.page = none) : m.closePage = .ok m := by rw [closePage, h]

theorem closePage_eq_ok {d : PageDraft} {b : PageBlock} (h : m.page = some d) (hd : d.Holds b) :
    m.closePage = .ok m' ↔ d.actionLine ≠ none ∧
      ∃ p, b.Says p ∧ m' = { m with page := none, pages := m.pages ++ [p] } := by
  simp only [closePage, h]
  cases hc : d.close with
  | error stop =>
    refine ⟨nofun, fun ⟨ha, p, hp, _⟩ => ?_⟩
    rw [hd.close_eq_ok_iff.mpr ⟨ha, hp⟩] at hc
    cases hc
  | ok p =>
    obtain ⟨ha, hp⟩ := hd.close_eq_ok_iff.mp hc
    constructor
    · rintro ⟨⟩
      exact ⟨ha, p, hp, rfl⟩
    · rintro ⟨-, p', hp', rfl⟩
      rw [hd.close_eq_ok_iff.mpr ⟨ha, hp'⟩] at hc
      cases hc
      rfl

/-- The lines that a machine in a given mode has read. -/
inductive Reads (m : Machine) : Mode → List (List Char) → Prop
  | top {bs front} (blocks : Sequence Block.Spells bs front) (holds : m.Holds ⟨bs, []⟩)
      (page : m.page = none) : Reads m .top front
  | block {bs gs front body} (blocks : Sequence Block.Spells bs front)
      (groups : Sequence Group.Spells gs body) (holds : m.Holds ⟨bs ++ [.features gs], []⟩)
      (page : m.page = none) (feature : m.feature = none) :
      Reads m .features (front ++ featuresLine :: body)
  | group {bs gs g front body back} (blocks : Sequence Block.Spells bs front)
      (groups : Sequence Group.Spells gs body) (group : Group.Spells g back)
      (holds : m.Holds ⟨bs ++ [.features (gs ++ [g])], []⟩) (page : m.page = none)
      (feature : m.feature = some g.draft) :
      Reads m .features (front ++ featuresLine :: (body ++ back))
  | page {o front name head d} (outline : Outline.Spells o front) (holds : m.Holds o)
      (page : m.page = some d) (word : PageLine name head) (shown : name ≠ "")
      (draft : d.Holds ⟨name, none, []⟩) (early : d.actionLine = none) :
      Reads m .page (front ++ [head])
  | expected {o front name head items body d} (outline : Outline.Spells o front) (holds : m.Holds o)
      (page : m.page = some d) (word : PageLine name head) (shown : name ≠ "")
      (values : Sequence ItemSpells items body) (draft : d.Holds ⟨name, some items, []⟩)
      (early : d.actionLine = none) : Reads m .expected (front ++ head :: expectedLine :: body)
  | action {o front b back d} (outline : Outline.Spells o front) (holds : m.Holds o)
      (page : m.page = some d) (block : PageBlock.Spells b back) (draft : d.Holds b)
      (begun : d.actionLine ≠ none) : Reads m .action (front ++ back)
  | fields {o front b back items body d} (outline : Outline.Spells o front) (holds : m.Holds o)
      (page : m.page = some d) (block : PageBlock.Spells b back)
      (values : Sequence ItemSpells items body) (draft : d.Holds (b.add (.fields items)))
      (begun : d.actionLine ≠ none) : Reads m .fields (front ++ (back ++ fieldsLine :: body))

theorem Reads.of_mode {mode : Mode} (hm : m.mode = mode) (h : m.Reads mode ls) :
    m.Reads m.mode ls := hm ▸ h

theorem Reads.prologue (h : m.Reads m.mode ls) (early : m.pastPrologue = false) :
    ∃ bs, Sequence Block.Spells bs ls ∧ m.Holds ⟨bs, []⟩ ∧ m.page = none := by
  generalize hm : m.mode = mode at h
  cases h with
  | top blocks holds page => exact ⟨_, blocks, holds, page⟩
  | block blocks groups holds page => exact ⟨_, blocks.concat (.features groups), holds, page⟩
  | group blocks groups group holds page =>
    exact ⟨_, blocks.concat (.features (groups.concat group)), holds, page⟩
  | page | expected | action | fields =>
    rw [pastPrologue, hm] at early
    cases early

/-- Once its drafts are closed the machine holds all that was read. -/
theorem Reads.closed {m₁ m₂ : Machine} (h : m.Reads m.mode ls) (hf : m.closeFeature = .ok m₁)
    (hp : m₁.closePage = .ok m₂) :
    ∃ o, Outline.Spells o ls ∧ m₂.Holds o ∧ m₂.feature = none := by
  by_cases early : m.pastPrologue = false
  · obtain ⟨bs, blocks, holds, page⟩ := h.prologue early
    rw [holds.closeFeature] at hf
    cases hf
    rw [closePage_of_none (m := m.flush) page] at hp
    cases hp
    exact ⟨_, .prologue blocks, holds.flush, rfl⟩
  have hclose {o d b front back} (outline : Outline.Spells o front) (holds : m.Holds o)
      (page : m.page = some d) (block : PageBlock.Spells b back) (draft : d.Holds b) :
      ∃ o, Outline.Spells o (front ++ back) ∧ m₂.Holds o ∧ m₂.feature = none := by
    rw [holds.closeFeature] at hf
    cases hf
    obtain ⟨-, p, hs, rfl⟩ := (closePage_eq_ok (m := m.flush) page draft).mp hp
    exact ⟨_, outline.concat block, holds.flush.addPage hs none, rfl⟩
  have hopen {o d b} (holds : m.Holds o) (page : m.page = some d) (draft : d.Holds b)
      (none : d.actionLine = none) : False := by
    rw [holds.closeFeature] at hf
    cases hf
    exact ((closePage_eq_ok (m := m.flush) page draft).mp hp).1 none
  generalize hm : m.mode = mode at h
  cases h with
  | top _ holds | block _ _ holds | group _ _ _ holds =>
    rw [pastPrologue, hm, holds.no_pages] at early
    exact absurd rfl early
  | page _ holds page _ _ draft none => exact (hopen holds page draft none).elim
  | expected _ holds page _ _ _ draft none => exact (hopen holds page draft none).elim
  | action outline holds page block draft => exact hclose outline holds page block draft
  | fields outline holds page block values draft =>
    exact hclose outline holds page (block.add (.fields values)) draft

/-- A step keeps the invariant. -/
theorem Reads.step (h : m.Reads m.mode ls) (hm : m.Moves line m') :
    m'.Reads m'.mode (ls ++ [line.text]) := by
  cases hm with
  | host head shown early first closed =>
    obtain ⟨bs, blocks, holds, page⟩ := h.prologue early
    rw [holds.closeFeature] at closed
    cases closed
    exact .top (blocks.concat (.host head shown)) (holds.flush.putHost first _) page
  | features head early closed =>
    obtain ⟨bs, blocks, holds, page⟩ := h.prologue early
    rw [holds.closeFeature] at closed
    cases closed
    rw [head]
    exact .block blocks .nil holds.flush.beginBlock page rfl
  | page head shown host closed done =>
    obtain ⟨o, outline, holds, -⟩ := h.closed closed done
    exact .page outline (holds.withPage _ _) rfl head shown (.begin head shown _) rfl
  | header mode head fresh other closed =>
    rw [mode] at h
    have hn := not_mem_closed_iff.mpr ⟨fresh, other⟩
    have hstart := Group.Spells.mk head .nil
    cases h with
    | block blocks groups holds page =>
      rw [holds.closeFeature] at closed
      cases closed
      rw [List.append_assoc, List.cons_append]
      exact .of_mode mode (.group blocks groups hstart (holds.beginGroup hn) page rfl)
    | group blocks groups group holds page =>
      rw [holds.closeFeature] at closed
      cases closed
      rw [List.append_assoc, List.cons_append]
      exact .of_mode mode (.group blocks (groups.concat group) hstart (holds.beginGroup hn) page rfl)
  | setting mode draft head =>
    rw [mode] at h
    cases h with
    | block _ _ _ _ feature =>
      rw [feature] at draft
      cases draft
    | group blocks groups group holds page feature =>
      rw [feature] at draft
      cases draft
      rw [List.append_assoc, List.cons_append, List.append_assoc]
      refine .of_mode mode
        (.group blocks groups (group.add head) (holds.addSetting feature head) page ?_)
      rw [draft_add]
  | expected mode draft head =>
    rw [mode] at h
    cases h with
    | page outline holds page word shown held early =>
      rw [head, List.append_assoc]
      exact .expected outline (holds.withPage _ _) page word shown .nil held.beginExpected early
  | action mode draft head first =>
    have hbegin {o b d' front back} (outline : Outline.Spells o front) (holds : m.Holds o)
        (page : m.page = some d') (block : PageBlock.Spells b (back ++ [actionLine]))
        (held : d'.Holds b) :
        Reads { m with page := some { d' with actionLine := some line.number }, mode := .action }
          .action (front ++ back ++ [actionLine]) := by
      rw [List.append_assoc]
      exact .action outline (holds.withPage _ _) rfl block (held.withAction _) nofun
    rw [head]
    generalize hm : m.mode = mode' at h
    rw [hm] at mode
    cases h with
    | top | block | group => cases mode
    | page outline holds page word shown held =>
      rw [page] at draft
      cases draft
      exact hbegin outline holds page (.mk word shown .none .nil) held
    | expected outline holds page word shown values held =>
      rw [page] at draft
      cases draft
      exact hbegin outline holds page (.mk word shown (.some values) .nil) held
    | action _ _ page _ _ begun | fields _ _ page _ _ _ begun =>
      rw [page] at draft
      cases draft
      exact absurd first begun
  | item mode draft head =>
    rw [mode] at h
    cases h with
    | expected outline holds page word shown values held early =>
      rw [page] at draft
      cases draft
      rw [List.append_assoc, List.cons_append, List.cons_append]
      exact .of_mode mode (.expected outline (holds.withPage _ _) rfl word shown
        (values.concat (.mk head)) (held.item _ _) early)
  | fields mode draft head =>
    rw [head]
    generalize hm : m.mode = mode' at h
    rw [hm] at mode
    cases h with
    | top | block | group | page | expected => rcases mode with mode | mode <;> cases mode
    | action outline holds page block held begun =>
      rw [List.append_assoc]
      exact .fields outline (holds.withPage _ _) page block .nil held.beginFields begun
    | fields outline holds page block values held begun =>
      rw [List.append_assoc]
      exact .fields outline (holds.withPage _ _) page (block.add (.fields values)) .nil
        held.beginFields begun
  | property mode draft head fresh =>
    generalize hm : m.mode = mode' at h
    rw [hm] at mode
    cases h with
    | top | block | group | page | expected => rcases mode with mode | mode <;> cases mode
    | action outline holds page block held begun =>
      rw [page] at draft
      cases draft
      rw [List.append_assoc]
      exact .action outline (holds.withPage _ _) rfl (block.add (.property head))
        (held.property fresh _) begun
    | fields outline holds page block values held begun =>
      rw [page] at draft
      cases draft
      rw [List.append_assoc]
      exact .action outline (holds.withPage _ _) rfl
        ((block.add (.fields values)).add (.property head)) (held.property fresh _) begun
  | field mode draft head =>
    rw [mode] at h
    cases h with
    | fields outline holds page block values held begun =>
      rw [page] at draft
      cases draft
      rw [List.append_assoc, List.append_assoc, List.cons_append]
      obtain ⟨rest, raw, hl, pair, written⟩ := id head
      exact .of_mode mode (.fields outline (holds.withPage _ _) rfl block (values.concat (.mk head))
        (held.field pair.isBlankText _) begun)

/-- The invariant over a run. -/
theorem Reads.run {lines : List Line} (ht : ∀ l ∈ lines, Text.Tight l.text) (h : m.Reads m.mode ls)
    (hr : m.run lines = .ok m') : m'.Reads m'.mode (ls ++ lines.map Line.text) := by
  induction lines generalizing m ls with
  | nil =>
    cases hr
    rwa [List.map_nil, List.append_nil]
  | cons line lines ih =>
    rw [Machine.run] at hr
    split at hr
    · cases hr
    · next m₁ hs =>
      have h₁ := h.step (moves_of_step (ht line List.mem_cons_self) hs)
      rw [List.map_cons, List.append_cons]
      exact ih (fun l hl => ht l (List.mem_cons_of_mem _ hl)) h₁ hr

theorem Holds.start : ({} : Machine).Holds {} := ⟨rfl, .nil, rfl, nofun, .nil⟩

theorem Holds.features_eq {o : Outline} (h : m.Holds o) (hf : m.feature = none) :
    m.features = o.groups.map Group.feature := by
  rw [← h.features, Machine.closed, hf]
  exact (List.append_nil _).symm

theorem create_eq_ok {o : Outline} {host : String} {s : Scenario} (h : m.Holds o)
    (hf : m.feature = none) : Scenario.create (some host) m.features m.pages = .ok s ↔
      Text.isBlankText host = false ∧ s = ⟨host, m.features, m.pages⟩ := by
  refine Scenario.create_eq_ok_iff fun e he => ?_
  rw [h.features_eq hf] at he
  obtain ⟨g, -, rfl⟩ := List.mem_map.mp he
  rfl

/-- At the end of a text that can be read, its lines spell an outline of the scenario. -/
theorem Reads.finish {s : Scenario} (h : m.Reads m.mode ls) (hf : m.finish = .ok s) :
    ∃ o, Outline.Spells o ls ∧ Outline.Says o s := by
  obtain ⟨m₁, h₁, hf⟩ := Except.bind_eq_ok_iff.mp hf
  obtain ⟨m₂, h₂, hf⟩ := Except.bind_eq_ok_iff.mp hf
  obtain ⟨o, ho, holds, feature⟩ := h.closed h₁ h₂
  split at hf
  · cases hf
  · next host hh =>
    split at hf
    · cases hf
    · next s' hc =>
      cases hf
      obtain ⟨-, rfl⟩ := (create_eq_ok holds feature).mp hc
      refine ⟨o, ho, ?_, holds.once, holds.features_eq feature, holds.pages⟩
      rw [holds.host, hh]
      rfl

end Machine

end Walkthrough.Script
