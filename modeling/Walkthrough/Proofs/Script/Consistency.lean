import Walkthrough.Proofs.Scenario.FrontEnds

/-! What holds of a machine between two lines. `Consistent` ties the mode of a machine to its drafts and
to what is finished. Every move keeps it (`Consistent.move`), and it leaves no way for reading to end
but with a scenario or a fault of the text (`clean_step`, `clean_finish`). -/

namespace Walkthrough.Script

open Text

/-- A context that redefines none of the names of a feature's own settings. -/
def Unreserved (context : List (String × String)) : Prop :=
  ∀ k ∈ Assoc.keys context, k ∉ reservedKeys

theorem Setting.name_apply (s : Setting) (d : FeatureDraft) : (s.apply d).name = d.name := by
  cases s <;> rfl

theorem Setting.Spells.unreserved_apply {s : Setting} {ls : List (List Char)} (hs : s.Spells ls)
    {d : FeatureDraft} (h : Unreserved d.context) : Unreserved (s.apply d).context := by
  cases hs with
  | enable | on => exact h
  | entry free pair unreserved =>
    intro k hk
    rcases Assoc.mem_keys_put.mp hk with rfl | hk
    · exact unreserved
    · exact h k hk

namespace Machine

variable {m m' : Machine} {line : Line}

/-- The mode, the drafts and the finished parts of a machine fit together. -/
structure Consistent (m : Machine) : Prop where
  page : m.mode.inPage = true ↔ m.page ≠ none
  host : m.page ≠ none → m.host ≠ none
  pages : m.pages ≠ [] → m.page ≠ none
  feature : ∀ d ∈ m.feature, m.mode = .features ∧ d.name ∉ Assoc.keys m.features
  action : ∀ d ∈ m.page, d.actionLine ≠ none ↔ m.mode = .action ∨ m.mode = .fields
  own : ∀ e ∈ m.features, e.1 = e.2.name
  finished : ∀ e ∈ m.features, Unreserved e.2.context
  draft : ∀ d ∈ m.feature, Unreserved d.context

/-- The host and the name of the open page show something. -/
structure Shown (m : Machine) : Prop where
  host : ∀ host ∈ m.host, isBlankText host = false
  page : ∀ d ∈ m.page, isBlankText d.name = false

/-- The machine has read some of the first lines of a text, each without a fault. -/
def Reached (text : List Char) (m : Machine) : Prop :=
  ∃ front, front <+: significantLines text ∧ ({} : Machine).run front = .ok m

theorem Consistent.start : ({} : Machine).Consistent where
  page := ⟨nofun, fun h => absurd rfl h⟩
  host := fun h => absurd rfl h
  pages := fun h => absurd rfl h
  feature := nofun
  action := nofun
  own := nofun
  finished := nofun
  draft := nofun

theorem Shown.start : ({} : Machine).Shown := ⟨nofun, nofun⟩

/-! ## Closing the drafts -/

theorem Consistent.closeFeature (h : m.Consistent) : m.closeFeature = .ok m.flush :=
  closeFeature_eq_flush (fun d hd => (h.feature d hd).2) h.draft

theorem Consistent.mem_closed (h : m.Consistent) {e : String × Feature} (he : e ∈ m.closed) :
    e.1 = e.2.name ∧ Unreserved e.2.context := by
  rcases List.mem_append.mp he with he | he
  · exact ⟨h.own e he, h.finished e he⟩
  · obtain ⟨d, hd, rfl⟩ := Option.map_eq_some_iff.mp (Option.mem_toList.mp he)
    exact ⟨rfl, h.draft d hd⟩

theorem Consistent.flush (h : m.Consistent) : m.flush.Consistent where
  page := h.page
  host := h.host
  pages := h.pages
  feature := nofun
  action := h.action
  own := fun _ he => (h.mem_closed he).1
  finished := fun _ he => (h.mem_closed he).2
  draft := nofun

/-- While a page is open, no feature is. -/
theorem Consistent.feature_eq_none (h : m.Consistent) (hm : m.mode.inPage = true) :
    m.feature = none := by
  cases hf : m.feature with
  | none => rfl
  | some d =>
    rw [(h.feature d hf).1] at hm
    cases hm

/-- In the prologue no page is open. -/
theorem Consistent.page_eq_none (h : m.Consistent) (early : m.pastPrologue = false) :
    m.page = none := by
  by_contra hp
  have hm : m.mode.inPage = true := h.page.mpr hp
  rw [pastPrologue, hm] at early
  cases early

/-- What closing a page leaves as it is. -/
theorem kept_of_closePage (h : m.closePage = .ok m') :
    m'.host = m.host ∧ m'.feature = m.feature ∧ m'.features = m.features := by
  unfold closePage at h
  split at h
  · cases h
    exact ⟨rfl, rfl, rfl⟩
  · split at h
    · cases h
    · cases h
      exact ⟨rfl, rfl, rfl⟩

/-! ## Moves -/

/-- The prologue goes on in another mode. -/
theorem Consistent.goOn (h : m.Consistent) (early : m.pastPrologue = false) (host : Option String)
    {mode : Mode} (hmode : mode.inPage = false) :
    ({ m.flush with host, mode } : Machine).Consistent := by
  have hp := h.page_eq_none early
  have none_open : m.page ≠ none → False := fun hn => hn hp
  refine { h.flush with
    page := ⟨fun ht => ?_, fun hn => (none_open hn).elim⟩
    host := fun hn => (none_open hn).elim
    feature := nofun
    action := fun d hd => (none_open fun hn => ?_).elim }
  · rw [hmode] at ht
    cases ht
  · rw [show m.page = some d from hd] at hn
    cases hn

/-- The open page goes on with another draft or in another mode. -/
theorem Consistent.turn (h : m.Consistent) (hm : m.mode.inPage = true) (d : PageDraft) (mode : Mode)
    (hmode : mode.inPage = true) (ha : d.actionLine ≠ none ↔ mode = .action ∨ mode = .fields) :
    ({ m with page := some d, mode } : Machine).Consistent where
  page := ⟨fun _ => nofun, fun _ => hmode⟩
  host := fun _ => h.host (h.page.mp hm)
  pages := fun _ => nofun
  feature := fun f hf => by
    have hf : m.feature = some f := hf
    rw [h.feature_eq_none hm] at hf
    cases hf
  action := by
    rintro d' ⟨⟩
    exact ha
  own := h.own
  finished := h.finished
  draft := h.draft

/-- A move keeps what fits together. -/
theorem Consistent.move (h : m.Consistent) (hm : m.Moves line m') : m'.Consistent := by
  cases hm with
  | host head shown early first closed =>
    rw [h.closeFeature] at closed
    cases closed
    exact h.goOn early _ rfl
  | features head early closed =>
    rw [h.closeFeature] at closed
    cases closed
    exact h.goOn early m.host rfl
  | page head shown host closed done =>
    rw [h.closeFeature] at closed
    cases closed
    obtain ⟨hh, hf, hfs⟩ := kept_of_closePage done
    have none_begun : (none : Option Nat) ≠ none ↔ Mode.page = .action ∨ Mode.page = .fields := by
      decide
    exact {
      page := ⟨fun _ => nofun, fun _ => rfl⟩
      host := fun _ => hh ▸ host
      pages := fun _ => nofun
      feature := fun d hd => by
        rw [show _ = some d from hd] at hf
        cases hf
      action := by
        rintro d ⟨⟩
        exact none_begun
      own := hfs ▸ h.flush.own
      finished := hfs ▸ h.flush.finished
      draft := fun d hd => by
        rw [show _ = some d from hd] at hf
        cases hf }
  | header mode head fresh other closed =>
    rw [h.closeFeature] at closed
    cases closed
    refine { h.flush with feature := ?_, draft := ?_ }
    · rintro d ⟨⟩
      exact ⟨mode, not_mem_closed_iff.mpr ⟨fresh, other⟩⟩
    · rintro d ⟨⟩
      exact nofun
  | @setting s d mode draft head =>
    refine { h with feature := ?_, draft := ?_ }
    · rintro d' ⟨⟩
      rw [Setting.name_apply]
      exact h.feature d draft
    · rintro d' ⟨⟩
      exact head.unreserved_apply (h.draft d draft)
  | @expected d mode draft head =>
    -- No action has begun: the mode is that of the page itself.
    have ha := h.action d draft
    rw [mode] at ha
    have := h.turn (by rw [mode]; rfl) d .expected rfl (by rw [ha]; decide)
    rwa [← draft] at this
  | action mode draft head first =>
    exact h.turn mode _ _ rfl ⟨fun _ => .inl rfl, fun _ => nofun⟩
  | @item d target value mode draft head =>
    exact h.turn (by rw [mode]; rfl) _ m.mode (by rw [mode]; rfl) (h.action d draft)
  | @fields d mode draft head =>
    have begun : d.actionLine ≠ none := (h.action d draft).mpr mode
    have := h.turn (by rcases mode with hm | hm <;> rw [hm] <;> rfl) d .fields rfl
      ⟨fun _ => .inr rfl, fun _ => begun⟩
    rwa [← draft] at this
  | @property d p value mode draft head fresh =>
    have begun : d.actionLine ≠ none := (h.action d draft).mpr mode
    exact h.turn (by rcases mode with hm | hm <;> rw [hm] <;> rfl) _ _ rfl
      ⟨fun _ => .inl rfl, fun _ => begun⟩
  | @field d name value mode draft head =>
    exact h.turn (by rw [mode]; rfl) _ m.mode (by rw [mode]; rfl) (h.action d draft)

theorem Shown.move (hs : m.Shown) (h : m.Consistent) (hm : m.Moves line m') : m'.Shown := by
  cases hm with
  | host head shown early first closed =>
    rw [h.closeFeature] at closed
    cases closed
    refine ⟨?_, hs.page⟩
    rintro _ ⟨⟩
    exact head.isBlankText shown
  | features head early closed =>
    rw [h.closeFeature] at closed
    cases closed
    exact ⟨hs.host, hs.page⟩
  | page head shown host closed done =>
    rw [h.closeFeature] at closed
    cases closed
    refine ⟨(kept_of_closePage done).1 ▸ hs.host, ?_⟩
    rintro _ ⟨⟩
    obtain ⟨c, rest, -, -, rfl⟩ := head
    exact isBlankText_trim shown
  | header mode head fresh other closed =>
    rw [h.closeFeature] at closed
    cases closed
    exact ⟨hs.host, hs.page⟩
  | setting | expected | fields => exact ⟨hs.host, hs.page⟩
  | action mode draft | item mode draft | property mode draft | field mode draft =>
    have shown := hs.page _ draft
    refine ⟨hs.host, ?_⟩
    rintro _ ⟨⟩
    exact shown

/-! ## Faults -/

/-- A step of reading that ends with a fault of the text if it does not succeed. -/
def Clean {α : Type} (x : Except Stop α) : Prop :=
  ∀ stop, x = .error stop → ∃ cause n, stop = .fault cause n

namespace Clean

variable {α β : Type}

theorem ok (a : α) : Clean (.ok a) := nofun

theorem fault (cause : LineFault) (n : Option Nat) : Clean (.error (.fault cause n) : Except Stop α) :=
  Except.FailsBy.error ⟨cause, n, rfl⟩

theorem bind {x : Except Stop α} {f : α → Except Stop β} (h : Clean x)
    (h' : ∀ a, x = .ok a → Clean (f a)) : Clean (x >>= f) :=
  Except.FailsBy.bind_of_ok h h'

end Clean

theorem clean_pairAt (kind : PairKind) (n : Nat) (text : List Char) : Clean (pairAt kind n text) := by
  unfold pairAt
  split
  · exact .ok _
  · exact .fault _ _

theorem clean_set (d : FeatureDraft) (n : Nat) (key value : List Char) : Clean (d.set n key value) := by
  unfold FeatureDraft.set
  split
  · split
    · exact .ok _
    · exact .fault _ _
  · split
    · exact .ok _
    · split
      · exact .fault _ _
      · exact .ok _

theorem clean_close {d : PageDraft} (h : isBlankText d.name = false) : Clean d.close := by
  unfold PageDraft.close
  split
  · exact .fault _ _
  · split
    · exact .fault _ _
    · next action _ =>
      have created : Page.create (some d.name) (some action) d.expected =
          .ok ⟨d.name, action, d.expected⟩ := by
        rw [Page.create, h]
        rfl
      rw [created]
      exact .ok _

theorem clean_closePage (hs : m.Shown) : Clean m.closePage := by
  unfold closePage
  split
  · exact .ok _
  · next d hd =>
    split
    · next stop hc =>
      rintro _ ⟨⟩
      exact clean_close (hs.page d hd) stop hc
    · exact .ok _

section Open

theorem clean_openHost (h : m.Consistent) (n : Nat) (value : List Char) :
    Clean (m.openHost n value) := by
  unfold openHost
  rw [h.closeFeature]
  split
  · exact .fault _ _
  · split
    · exact .fault _ _
    · split
      · exact .fault _ _
      · exact .ok _

theorem clean_openFeatures (h : m.Consistent) (n : Nat) : Clean (m.openFeatures n) := by
  unfold openFeatures
  rw [h.closeFeature]
  split
  · exact .fault _ _
  · exact .ok _

theorem clean_openPage (h : m.Consistent) (hs : m.Shown) (n : Nat) (name : List Char) :
    Clean (m.openPage n name) := by
  unfold openPage
  rw [h.closeFeature]
  split
  · exact .fault _ _
  · split
    · exact .fault _ _
    · exact (clean_closePage (m := m.flush) ⟨hs.host, hs.page⟩).bind fun _ _ => .ok _

theorem clean_inFeatures (h : m.Consistent) (line : Line) : Clean (m.inFeatures line) := by
  unfold inFeatures
  split
  · unfold openFeature
    rw [h.closeFeature]
    split
    · exact .fault _ _
    · dsimp only
      split
      · exact .fault _ _
      · exact .ok _
  · split
    · exact .fault _ _
    · exact (clean_pairAt _ _ _).bind fun _ _ => (clean_set _ _ _ _).bind fun _ _ => .ok _

end Open

section Page

variable (m : Machine) (line : Line) (d : PageDraft)

theorem clean_openAction (n : Nat) : Clean (m.openAction n d) := by
  unfold openAction
  split
  · exact .fault _ _
  · exact .ok _

theorem clean_inPage : Clean (m.inPage line d) := by
  unfold inPage
  split
  · exact .ok _
  · split
    · exact clean_openAction m d _
    · exact .fault _ _

theorem clean_inExpected : Clean (m.inExpected line d) := by
  unfold inExpected
  split
  · exact clean_openAction m d _
  · split
    · exact .fault _ _
    · refine (clean_pairAt _ _ _).bind fun sides hp => ?_
      simp only [create_target (pair?_eq_some_iff.mp (pairAt_eq_ok.mp hp))]
      exact .ok _

theorem clean_inAction : Clean (m.inAction line d) := by
  unfold inAction
  split
  · exact clean_openAction m d _
  · split
    · split
      · exact .ok _
      · exact .fault _ _
    · refine (clean_pairAt _ _ _).bind fun _ _ => ?_
      dsimp only
      split
      · exact .fault _ _
      · split
        · exact .fault _ _
        · exact .ok _

theorem clean_inFields : Clean (m.inFields line d) := by
  unfold inFields
  split
  · exact clean_inAction _ line d
  · exact (clean_pairAt _ _ _).bind fun _ _ => .ok _

end Page

/-- A handler for lines of a page finds the page. -/
theorem clean_withPage (h : m.Consistent) (hm : m.mode.inPage = true)
    {handle : PageDraft → Except Stop Machine} (hh : ∀ d, Clean (handle d)) :
    Clean (m.withPage handle) := by
  unfold withPage
  split
  · next hp => exact absurd hp (h.page.mp hm)
  · exact hh _

theorem clean_step (h : m.Consistent) (hs : m.Shown) (line : Line) : Clean (m.step line) := by
  unfold step
  split
  · exact clean_openHost h _ _
  · exact clean_openFeatures h _
  · exact clean_openPage h hs _ _
  · split
    · exact .fault _ _
    · exact clean_inFeatures h line
    · next hm => exact clean_withPage h (by rw [hm]; rfl) (clean_inPage m line)
    · next hm => exact clean_withPage h (by rw [hm]; rfl) (clean_inExpected m line)
    · next hm => exact clean_withPage h (by rw [hm]; rfl) (clean_inAction m line)
    · next hm => exact clean_withPage h (by rw [hm]; rfl) (clean_inFields m line)

/-- At the end of the text every part is accepted by the scenario it belongs to. -/
theorem clean_finish (h : m.Consistent) (hs : m.Shown) : Clean m.finish := by
  unfold finish
  rw [h.closeFeature]
  refine (clean_closePage (m := m.flush) ⟨hs.host, hs.page⟩).bind fun m' hm => ?_
  obtain ⟨hh, -, hfs⟩ := kept_of_closePage hm
  split
  · exact .fault _ _
  · next host hhost =>
    have shown : isBlankText host = false := hs.host host (hh.symm.trans hhost)
    have own : ∀ e ∈ m'.features, e.1 = e.2.name := hfs ▸ h.flush.own
    rw [(Scenario.create_eq_ok_iff own).mpr ⟨shown, rfl⟩]
    exact .ok _

/-! ## Runs -/

/-- The invariant over a run. -/
theorem Consistent.run (h : m.Consistent) (hs : m.Shown) {lines : List Line}
    (ht : ∀ l ∈ lines, Tight l.text) (hr : m.run lines = .ok m') : m'.Consistent ∧ m'.Shown := by
  induction lines generalizing m with
  | nil =>
    cases hr
    exact ⟨h, hs⟩
  | cons line lines ih =>
    rw [Machine.run] at hr
    split at hr
    · cases hr
    · next m₁ hstep =>
      have hm := moves_of_step (ht line List.mem_cons_self) hstep
      exact ih (h.move hm) (hs.move h hm) (fun l hl => ht l (List.mem_cons_of_mem _ hl)) hr

theorem clean_run (h : m.Consistent) (hs : m.Shown) {lines : List Line}
    (ht : ∀ l ∈ lines, Tight l.text) : Clean (m.run lines) := by
  induction lines generalizing m with
  | nil => exact .ok m
  | cons line lines ih =>
    rw [Machine.run]
    split
    · next stop hstep =>
      rintro _ ⟨⟩
      exact clean_step h hs line stop hstep
    · next m₁ hstep =>
      have hm := moves_of_step (ht line List.mem_cons_self) hstep
      exact ih (h.move hm) (hs.move h hm) fun l hl => ht l (List.mem_cons_of_mem _ hl)

end Machine

variable {text : List Char}

theorem tight_of_mem_significantLines {l : Line} (h : l ∈ significantLines text) : Tight l.text :=
  tight_of_mem_countedLines (text_significantLines text ▸ List.mem_map_of_mem h)

theorem clean_parse (text : List Char) : Machine.Clean (parse text) := by
  have ht : ∀ l ∈ significantLines text, Tight l.text := fun l => tight_of_mem_significantLines
  refine (Machine.clean_run .start .start ht).bind fun m hm => ?_
  obtain ⟨h, hs⟩ := Machine.Consistent.start.run .start ht hm
  exact Machine.clean_finish h hs

/-- Whatever the text, the machine is consistent after every line that was read without a fault, and in
the end there is a scenario that satisfies all its checks, or a fault of the text. -/
theorem consistent_and_clean_parse (text : List Char) :
    (∀ m, Machine.Reached text m → m.Consistent) ∧
      ((∃ s, parse text = .ok s ∧ s.Regular) ∨
        ∃ cause n, parse text = .error (.fault cause n)) := by
  constructor
  · rintro m ⟨front, hf, hr⟩
    exact (Machine.Consistent.start.run .start
      (fun l hl => tight_of_mem_significantLines (hf.subset hl)) hr).1
  · cases h : parse text with
    | ok s => exact .inl ⟨s, rfl, (writable_of_parse h).regular⟩
    | error stop =>
      obtain ⟨cause, n, rfl⟩ := clean_parse text stop h
      exact .inr ⟨cause, n, rfl⟩

end Walkthrough.Script
