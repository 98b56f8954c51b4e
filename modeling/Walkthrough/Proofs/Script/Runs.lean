import Walkthrough.Proofs.Script.Reads

/-! From trees to runs. `Runs` says that lines can be read, and what is true of the machine after them.
Each kind of tree is read along its structure: settings, groups and blocks (`run_prologue`), then items,
parts and pages (`run_pages`). -/

namespace Walkthrough.Script

open Text

namespace Machine

variable {m : Machine} {ls rest : List (List Char)} {Q Q' : Machine → Prop}

/-- Every way to number the lines can be read, and leads to a machine with the given property. -/
def Runs (m : Machine) (ls : List (List Char)) (Q : Machine → Prop) : Prop :=
  ∀ lines : List Line, lines.map Line.text = ls → ∃ m', m.run lines = .ok m' ∧ Q m'

theorem Runs.nil (h : Q m) : Runs m [] Q := by
  intro lines hl
  rw [List.map_eq_nil_iff.mp hl]
  exact ⟨m, rfl, h⟩

theorem run_append {lines more : List Line} {m' : Machine} (h : m.run lines = .ok m') :
    m.run (lines ++ more) = m'.run more := by
  induction lines generalizing m with
  | nil =>
    cases h
    rfl
  | cons line lines ih =>
    rw [run] at h
    rw [List.cons_append, run]
    split at h
    · cases h
    · exact ih h

theorem Runs.append (h : Runs m ls Q) (h' : ∀ m', Q m' → Runs m' rest Q') :
    Runs m (ls ++ rest) Q' := by
  intro lines hl
  obtain ⟨front, back, rfl, hf, hb⟩ := List.map_eq_append_iff.mp hl
  obtain ⟨m₁, h₁, hq⟩ := h front hf
  obtain ⟨m₂, h₂, hq'⟩ := h' m₁ hq back hb
  exact ⟨m₂, (run_append h₁).trans h₂, hq'⟩

theorem Runs.move {l : List Char}
    (h : ∀ line : Line, line.text = l → ∃ m', m.Moves line m' ∧ Q m') : Runs m [l] Q := by
  intro lines hl
  obtain ⟨line, rfl, ht⟩ := List.map_eq_singleton_iff.mp hl
  obtain ⟨m', hm, hq⟩ := h line ht
  refine ⟨m', ?_, hq⟩
  rw [run, step_of_moves hm]
  rfl

theorem Runs.cons {l : List Char}
    (h : ∀ line : Line, line.text = l → ∃ m', m.Moves line m' ∧ Q m')
    (h' : ∀ m', Q m' → Runs m' rest Q') : Runs m (l :: rest) Q' :=
  (Runs.move h).append h'

theorem Runs.mono (h : Runs m ls Q) (hq : ∀ m', Q m' → Q' m') : Runs m ls Q' := by
  intro lines hl
  obtain ⟨m', hm, hm'⟩ := h lines hl
  exact ⟨m', hm, hq m' hm'⟩

/-! ## The prologue -/

section Prologue

variable {bs bs' : List Block} {gs gs' : List Group} {g : Group}

/-- A machine that has read the blocks of a prologue. -/
structure InPrologue (m : Machine) (bs : List Block) : Prop where
  mode : m.mode.inPage = false
  holds : m.Holds ⟨bs, []⟩
  page : m.page = none

/-- A machine in a block of features, with the groups read so far. -/
structure InBlock (m : Machine) (bs : List Block) (gs : List Group) : Prop where
  mode : m.mode = .features
  holds : m.Holds ⟨bs ++ [.features gs], []⟩
  page : m.page = none

/-- A machine in a group of settings. -/
structure InGroup (m : Machine) (bs : List Block) (gs : List Group) (g : Group) : Prop
    extends InBlock m bs (gs ++ [g]) where
  feature : m.feature = some g.draft

theorem InBlock.prologue (h : m.InBlock bs gs) : m.InPrologue (bs ++ [.features gs]) :=
  ⟨by rw [h.mode]; rfl, h.holds, h.page⟩

theorem InPrologue.early (h : m.InPrologue bs) : m.pastPrologue = false := by
  rw [pastPrologue, h.mode, List.forall₂_nil_left_iff.mp h.holds.pages]
  rfl

theorem run_settings {name : String} {ss before : List Setting} (hs : Sequence Setting.Spells ss ls)
    (h : m.InGroup bs gs ⟨name, before⟩) : Runs m ls (InGroup · bs gs ⟨name, before ++ ss⟩) := by
  induction hs generalizing m before with
  | nil => exact .nil (by rwa [List.append_nil])
  | @cons s ss l rest head tail ih =>
    obtain ⟨l, rfl⟩ : ∃ l', l = [l'] := by cases head <;> exact ⟨_, rfl⟩
    rw [List.append_cons]
    refine Runs.append (.move fun line hl => ?_) fun m' h' => ih h'
    refine ⟨_, .setting h.mode h.feature (hl ▸ head), ⟨h.mode, ?_, h.page⟩, ?_⟩
    · exact h.holds.addSetting h.feature head
    · exact congrArg some (draft_add ⟨name, before⟩ s).symm

/-- At the end of its lines the group is open. -/
theorem run_group (hg : g.Spells ls) (h : m.InBlock bs gs)
    (once : ((bs.flatMap Block.groups ++ (gs ++ g :: gs')).map Group.name).Nodup) :
    Runs m ls (InGroup · bs gs g) := by
  cases hg with
  | @mk name head settings body header rest =>
    have fresh : name ∉ Assoc.keys m.closed := by
      rw [h.holds.keys, groups_features]
      rw [← List.append_assoc, List.map_append, List.nodup_append] at once
      exact fun hm => once.2.2 _ hm _ List.mem_cons_self rfl
    obtain ⟨hf, ho⟩ := not_mem_closed_iff.mp fresh
    refine Runs.cons (Q := (InGroup · bs gs ⟨name, []⟩)) (fun line hl => ?_) fun m' h' => ?_
    · refine ⟨_, .header h.mode (hl ▸ header) hf ho h.holds.closeFeature, ⟨h.mode, ?_, h.page⟩, rfl⟩
      exact h.holds.beginGroup fresh
    · exact run_settings rest h'

theorem run_groups (hs : Sequence Group.Spells gs' ls) (h : m.InBlock bs gs)
    (once : ((bs.flatMap Block.groups ++ (gs ++ gs')).map Group.name).Nodup) :
    Runs m ls (InBlock · bs (gs ++ gs')) := by
  induction hs generalizing m gs with
  | nil => exact .nil (by rwa [List.append_nil])
  | @cons g gs' l rest head tail ih =>
    refine (run_group head h once).append fun m' h' => ?_
    rw [List.append_cons] at once ⊢
    exact ih h'.toInBlock once

theorem run_features (h : m.InPrologue bs) : Runs m [featuresLine] (InBlock · bs []) := by
  refine .move fun line hl => ?_
  exact ⟨_, .features hl h.early h.holds.closeFeature, rfl, h.holds.flush.beginBlock, h.page⟩

/-- A prologue in which no feature stands twice, and one host at most. -/
structure Unrepeated (bs : List Block) : Prop where
  names : ((bs.flatMap Block.groups).map Group.name).Nodup
  hosts : (bs.filterMap Block.host?).length ≤ 1

theorem Unrepeated.front (h : Unrepeated (bs ++ bs')) : Unrepeated bs := by
  obtain ⟨names, hosts⟩ := h
  rw [List.flatMap_append, List.map_append] at names
  rw [List.filterMap_append, List.length_append] at hosts
  exact ⟨names.of_append_left, Nat.le_trans (Nat.le_add_right _ _) hosts⟩

theorem Unrepeated.groups {groups : List Group} (h : Unrepeated (bs ++ [.features groups])) :
    ((bs.flatMap Block.groups ++ ([] ++ groups)).map Group.name).Nodup := by
  have names := h.names
  rwa [List.flatMap_append, List.flatMap_singleton] at names

theorem run_block {block : Block} (hb : block.Spells ls) (h : m.InPrologue bs)
    (once : Unrepeated (bs ++ [block])) : Runs m ls (InPrologue · (bs ++ [block])) := by
  cases hb with
  | @host value line head shown =>
    have hosts := once.hosts
    have hn : m.host = none := by
      rw [List.filterMap_append, h.holds.host] at hosts
      cases hh : m.host with
      | none => rfl
      | some v => simp [hh, Block.host?] at hosts
    refine .move fun line hl => ?_
    refine ⟨_, .host (hl ▸ head) shown h.early hn h.holds.closeFeature, rfl, ?_, h.page⟩
    exact h.holds.flush.putHost hn value
  | @features groups body rest =>
    refine (run_features h).append fun m' h' => ?_
    exact (run_groups rest h' once.groups).mono fun _ h => h.prologue

theorem run_prologue (hs : Sequence Block.Spells bs' ls) (h : m.InPrologue bs)
    (once : Unrepeated (bs ++ bs')) : Runs m ls (InPrologue · (bs ++ bs')) := by
  induction hs generalizing m bs with
  | nil => exact .nil (by rwa [List.append_nil])
  | @cons block bs' l rest head tail ih =>
    rw [List.append_cons] at once ⊢
    exact (run_block head h once.front).append fun m' h' => ih h' once

end Prologue

/-! ## Pages -/

section Pages

variable {o : Outline} {b : PageBlock} {name : String} {expected : Option (List (String × String))}

/-- A machine with an open page; `begun` says whether the action of the page was. -/
structure InPage (m : Machine) (modes : List Mode) (o : Outline) (b : PageBlock) (begun : Bool) :
    Prop where
  mode : m.mode ∈ modes
  holds : m.Holds o
  page : ∃ d, m.page = some d ∧ d.Holds b ∧ d.actionLine.isSome = begun

/-- A machine that holds an outline once its drafts are closed. -/
structure Ready (m : Machine) (o : Outline) : Prop where
  feature : m.closeFeature = .ok m.flush
  page : ∃ m', m.flush.closePage = .ok m' ∧ m'.Holds o ∧ m'.feature = none ∧ m'.host = m.host

theorem InPrologue.ready {bs : List Block} (h : m.InPrologue bs) : m.Ready ⟨bs, []⟩ where
  feature := h.holds.closeFeature
  page := ⟨m.flush, closePage_of_none (m := m.flush) h.page, h.holds.flush, rfl, rfl⟩

theorem InPage.ready {modes : List Mode} {p : Page} (h : m.InPage modes o b true) (hp : b.Says p) :
    m.Ready ⟨o.prologue, o.pages ++ [b]⟩ := by
  obtain ⟨-, holds, d, page, draft, begun⟩ := h
  rw [Option.isSome_iff_ne_none] at begun
  refine ⟨holds.closeFeature, _, ?_, holds.flush.addPage hp none, rfl, rfl⟩
  exact (closePage_eq_ok (m := m.flush) page draft).mpr ⟨begun, p, hp, rfl⟩

theorem InPage.mono {modes modes' : List Mode} {begun : Bool} (h : m.InPage modes o b begun)
    (hs : modes ⊆ modes') : m.InPage modes' o b begun :=
  ⟨hs h.mode, h.holds, h.page⟩

theorem run_items {items before : List (String × String)} (hs : Sequence ItemSpells items ls)
    (h : m.InPage [.expected] o ⟨name, some before, []⟩ false) :
    Runs m ls (InPage · [.expected] o ⟨name, some (before ++ items), []⟩ false) := by
  induction hs generalizing m before with
  | nil => exact .nil (by rwa [List.append_nil])
  | @cons item items l rest head tail ih =>
    rw [List.append_cons]
    obtain ⟨mode, holds, d, page, draft, begun⟩ := h
    cases head with
    | mk head =>
      refine Runs.cons (fun line hl => ?_) fun m' h' => ih h'
      exact ⟨_, .item (List.mem_singleton.mp mode) page (hl ▸ head), mode, holds.withPage _ _, _, rfl,
        draft.item _ _, begun⟩

theorem run_fields {items before : List (String × String)} (hs : Sequence ItemSpells items ls)
    (h : m.InPage [.fields] o (b.add (.fields before)) true) :
    Runs m ls (InPage · [.fields] o (b.add (.fields (before ++ items))) true) := by
  induction hs generalizing m before with
  | nil => exact .nil (by rwa [List.append_nil])
  | @cons item items l rest head tail ih =>
    rw [List.append_cons]
    obtain ⟨mode, holds, d, page, draft, begun⟩ := h
    cases head with
    | mk head =>
      obtain ⟨_, _, _, pair, _⟩ := id head
      refine Runs.cons (fun line hl => ?_) fun m' h' => ih h'
      exact ⟨_, .field (List.mem_singleton.mp mode) page (hl ▸ head), mode, holds.withPage _ _, _, rfl,
        draft.field pair.isBlankText _, begun⟩

theorem run_part {part : Part} (hp : part.Spells ls) (h : m.InPage [.action, .fields] o b true)
    (once : (Assoc.keys (b.add part).properties).Nodup) :
    Runs m ls (InPage · [.action, .fields] o (b.add part) true) := by
  obtain ⟨mode, holds, d, page, draft, begun⟩ := h
  have mode : m.mode = .action ∨ m.mode = .fields := by simpa using mode
  cases hp with
  | @property p value line head =>
    have fresh : p ∉ Assoc.keys d.properties := by
      rw [draft.properties]
      rw [PageDraft.properties_add, Assoc.keys_append, List.nodup_append] at once
      exact fun hk => once.2.2 p hk p (List.mem_singleton.mpr rfl) rfl
    refine .move fun line hl => ?_
    exact ⟨_, .property mode page (hl ▸ head) fresh, List.mem_cons_self, holds.withPage _ _, _, rfl,
      draft.property fresh _, begun⟩
  | @fields items body rest =>
    refine Runs.cons (Q := (InPage · [.fields] o (b.add (.fields [])) true)) (fun line hl => ?_)
      fun m' h' => (run_fields rest h').mono fun _ h => h.mono (List.subset_cons_self _ _)
    exact ⟨_, .fields mode page hl, List.mem_cons_self, holds.withPage _ _, d, page, draft.beginFields,
      begun⟩

theorem run_parts {parts before : List Part} (hs : Sequence Part.Spells parts ls)
    (h : m.InPage [.action, .fields] o ⟨name, expected, before⟩ true)
    (once : (Assoc.keys (PageBlock.mk name expected (before ++ parts)).properties).Nodup) :
    Runs m ls (InPage · [.action, .fields] o ⟨name, expected, before ++ parts⟩ true) := by
  induction hs generalizing m before with
  | nil => exact .nil (by rwa [List.append_nil])
  | @cons part parts l rest head tail ih =>
    rw [List.append_cons] at once ⊢
    refine (run_part head h ?_).append fun m' h' => ih h' once
    rw [PageBlock.properties, List.filterMap_append, Assoc.keys_append] at once
    exact once.of_append_left

theorem run_expected {front : List (List Char)} (hs : ExpectedSpells expected front)
    (h : m.InPage [.page] o ⟨name, none, []⟩ false) :
    Runs m front (InPage · [.page, .expected] o ⟨name, expected, []⟩ false) := by
  cases hs with
  | none => exact .nil (h.mono (List.cons_subset_cons _ (List.nil_subset _)))
  | @some items body rest =>
    obtain ⟨mode, holds, d, page, draft, begun⟩ := h
    refine Runs.cons (Q := (InPage · [.expected] o ⟨name, some [], []⟩ false)) (fun line hl => ?_)
      fun m' h' => (run_items rest h').mono fun _ h => h.mono (List.subset_cons_self _ _)
    exact ⟨_, .expected (List.mem_singleton.mp mode) page hl, List.mem_cons_self, holds.withPage _ _, d,
      page, draft.beginExpected, begun⟩

theorem run_heading {host : String} {head : List Char} (h : m.Ready o)
    (hh : o.prologue.filterMap Block.host? = [host]) (word : PageLine name head) (shown : name ≠ "") :
    Runs m [head] (InPage · [.page] o ⟨name, none, []⟩ false) := by
  obtain ⟨feature, m', page, holds, -, hhost⟩ := h
  have hn : m.host ≠ none := by
    intro hn
    have hl := holds.host
    rw [hh, hhost, hn] at hl
    cases hl
  refine .move fun line hl => ?_
  exact ⟨_, .page (hl ▸ word) shown hn feature page, List.mem_cons_self, holds.withPage _ _, _, rfl,
    .begin word shown _, rfl⟩

theorem run_action (h : m.InPage [.page, .expected] o b false) :
    Runs m [actionLine] (InPage · [.action, .fields] o b true) := by
  obtain ⟨mode, holds, d, page, draft, begun⟩ := h
  have mode : m.mode.inPage := by
    rcases List.mem_pair.mp mode with h | h <;> rw [h] <;> rfl
  refine .move fun line hl => ?_
  refine ⟨_, .action mode page hl ?_, List.mem_cons_self, holds.withPage _ _, _, rfl,
    draft.withAction _, rfl⟩
  rwa [← Option.not_isSome_iff_eq_none, Bool.not_eq_true]

/-- At the end of its lines the page is open. -/
theorem run_page {host : String} (hb : b.Spells ls) (once : (Assoc.keys b.properties).Nodup)
    (h : m.Ready o) (hh : o.prologue.filterMap Block.host? = [host]) :
    Runs m ls (InPage · [.action, .fields] o b true) := by
  cases hb with
  | mk word shown values parts =>
    change Runs m ([_] ++ (_ ++ ([actionLine] ++ _))) _
    refine (run_heading h hh word shown).append fun m₁ h₁ => ?_
    refine (run_expected values h₁).append fun m₂ h₂ => ?_
    refine (run_action h₂).append fun m₃ h₃ => ?_
    exact run_parts parts h₃ once

theorem run_pages {host : String} {bs : List PageBlock} {ps : List Page}
    (hs : Sequence PageBlock.Spells bs ls) (hp : List.Forall₂ PageBlock.Says bs ps) (h : m.Ready o)
    (hh : o.prologue.filterMap Block.host? = [host]) :
    Runs m ls (Ready · ⟨o.prologue, o.pages ++ bs⟩) := by
  induction hs generalizing m o ps with
  | nil => exact .nil (by rwa [List.append_nil])
  | @cons b bs l rest head tail ih =>
    cases hp with
    | cons hb hp =>
      rw [List.append_cons]
      exact (run_page head hb.once h hh).append fun m' h' => ih hp (h'.ready hb) hh

end Pages

end Machine

end Walkthrough.Script
