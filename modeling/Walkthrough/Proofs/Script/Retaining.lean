import Walkthrough.Proofs.Script.Consistency

/-! What the drafts of a script keep of its lines. A group or a page of an outline is `Drafted` if the
machine comes to hold a draft of all its lines, from which the feature or the page of the scenario is
made. Of the settings of a feature with one key, and of the fields of a page with one name, such a draft
keeps the last and drops the others without a fault; it keeps all that comes once, and every expected
value and every property (`parse_retains`). -/

namespace Walkthrough.Script

/-! ## Drafts -/

def Setting.enable? : Setting → Option Bool
  | .enable b => some b
  | .on | .entry .. => none

/-- The truth values that a feature is given. -/
def Group.switches (g : Group) : List Bool := g.settings.filterMap Setting.enable?

/-- The items of all the fields of a page. -/
def PageBlock.items (b : PageBlock) : List (String × String) := b.parts.flatMap Part.items

/-- A map holds the last of the entries with one key, and all the entries if each has its own. -/
structure Keeps (kept entries : List (String × String)) : Prop where
  once : (Assoc.keys kept).Nodup
  latest : ∀ key value, (key, value) ∈ kept ↔ Assoc.Latest key value entries
  whole : (Assoc.keys entries).Nodup → kept = entries

/-- The draft of a feature after all the settings of a group. -/
structure FeatureDraft.Retains (d : FeatureDraft) (g : Group) : Prop where
  name : d.name = g.name
  enabled : d.enabled = g.switches.getLast?.getD false
  context : Keeps d.context g.entries

/-- The draft of a page after all the lines of a block. -/
structure PageDraft.Retains (d : PageDraft) (b : PageBlock) : Prop where
  name : d.name = b.name
  expected : d.expected = b.values
  properties : d.properties = b.properties
  once : (Assoc.keys b.properties).Nodup
  fields : Keeps d.fields b.items

theorem keeps_ofPairs (es : List (String × String)) : Keeps (Assoc.ofPairs es) es where
  once := Assoc.nodup_keys_ofPairs es
  latest _ _ := Assoc.mem_ofPairs_iff
  whole := Assoc.ofPairs_of_nodup

theorem Group.enabled_draft (g : Group) : g.draft.enabled = g.switches.getLast?.getD false := by
  obtain ⟨name, settings⟩ := g
  induction settings using List.reverseRecOn with
  | nil => rfl
  | append_singleton ss s ih =>
    rw [draft_concat, switches, List.filterMap_append]
    cases s with
    | enable b => simp [Setting.apply, Setting.enable?]
    | on | entry => exact ih.trans (congrArg (·.getLast?.getD false) (List.append_nil _).symm)

theorem Group.retains_draft (g : Group) : g.draft.Retains g where
  name := Machine.draft_name g
  enabled := g.enabled_draft
  context := g.context_draft ▸ keeps_ofPairs g.entries

theorem PageDraft.Holds.retains {d : PageDraft} {b : PageBlock} (h : d.Holds b) : d.Retains b where
  name := h.name
  expected := h.expected
  properties := h.properties
  once := h.once
  fields := h.fields ▸ keeps_ofPairs b.items

/-! ## Passing through a state -/

namespace Machine

variable {m : Machine} {ls rest : List (List Char)} {Q Q' : Machine → Prop}

/-- Every way to number the lines can be read up to a machine with the given property. -/
def Passes (m : Machine) (ls : List (List Char)) (Q : Machine → Prop) : Prop :=
  ∀ lines : List Line, lines.map Line.text = ls → ∃ front, front <+: lines ∧
    ∃ m', m.run front = .ok m' ∧ Q m'

theorem Passes.append (h : Passes m ls Q) : Passes m (ls ++ rest) Q := by
  intro lines hl
  obtain ⟨front, back, rfl, hf, -⟩ := List.map_eq_append_iff.mp hl
  obtain ⟨part, hp, m', hr, hq⟩ := h front hf
  exact ⟨part, hp.trans (List.prefix_append _ _), m', hr, hq⟩

theorem Runs.passes (h : Runs m ls Q) : Passes m ls Q := by
  intro lines hl
  obtain ⟨m', hr, hq⟩ := h lines hl
  exact ⟨lines, List.prefix_rfl, m', hr, hq⟩

theorem Runs.append_passes (h : Runs m ls Q) (h' : ∀ m', Q m' → Passes m' rest Q') :
    Passes m (ls ++ rest) Q' := by
  intro lines hl
  obtain ⟨front, back, rfl, hf, hb⟩ := List.map_eq_append_iff.mp hl
  obtain ⟨m₁, hr, hq⟩ := h front hf
  obtain ⟨part, ⟨more, rfl⟩, m₂, hr', hq'⟩ := h' m₁ hq back hb
  refine ⟨front ++ part, ⟨more, List.append_assoc ..⟩, m₂, ?_, hq'⟩
  rw [run_append hr, hr']

theorem Passes.reached {text : List Char} (h : Passes {} (countedLines text) Q) :
    ∃ m, Reached text m ∧ Q m := by
  obtain ⟨front, hf, m, hr, hq⟩ := h _ (text_significantLines text)
  exact ⟨m, ⟨front, hf, hr⟩, hq⟩

section Prologue

variable {bs : List Block} {gs gs' : List Group} {g : Group}

/-- Each group is open at the end of its lines. -/
theorem passes_groups (hs : Sequence Group.Spells gs' ls) (h : m.InBlock bs gs)
    (once : ((bs.flatMap Block.groups ++ (gs ++ gs')).map Group.name).Nodup) (hg : g ∈ gs') :
    Passes m ls (·.feature = some g.draft) := by
  induction hs generalizing m gs with
  | nil => cases hg
  | @cons head gs' l rest spelled tail ih =>
    have first := run_group spelled h once
    rcases List.mem_cons.mp hg with rfl | hg
    · exact (first.mono fun _ h => h.feature).passes.append
    · rw [List.append_cons] at once
      exact first.append_passes fun m' h' => ih h'.toInBlock once hg

theorem passes_prologue {bs' : List Block} (hs : Sequence Block.Spells bs' ls) (h : m.InPrologue bs)
    (once : Unrepeated (bs ++ bs')) (hg : g ∈ bs'.flatMap Block.groups) :
    Passes m ls (·.feature = some g.draft) := by
  induction hs generalizing m bs with
  | nil => cases hg
  | @cons block bs' l rest spelled tail ih =>
    rw [List.append_cons] at once
    rw [List.flatMap_cons] at hg
    rcases List.mem_append.mp hg with hg | hg
    · cases spelled with
      | host => cases hg
      | @features groups body inner =>
        have here := (run_features h).append_passes fun m' h' =>
          passes_groups inner h' once.front.groups hg
        exact here.append
    · exact (run_block spelled h once.front).append_passes fun m' h' => ih h' once hg

end Prologue

section Pages

variable {o : Outline} {bs : List PageBlock} {b : PageBlock}

/-- Each page is open at the end of its lines. -/
theorem passes_pages {host : String} {ps : List Page} (hs : Sequence PageBlock.Spells bs ls)
    (hp : List.Forall₂ PageBlock.Says bs ps) (h : m.Ready o)
    (hh : o.prologue.filterMap Block.host? = [host]) (hb : b ∈ bs) :
    Passes m ls fun m' => ∃ o', InPage m' [.action, .fields] o' b true := by
  induction hs generalizing m o ps with
  | nil => cases hb
  | @cons head bs l rest spelled tail ih =>
    cases hp with
    | cons told hp =>
      have first := run_page spelled told.once h hh
      rcases List.mem_cons.mp hb with rfl | hb
      · exact (first.mono fun _ h => ⟨o, h⟩).passes.append
      · exact first.append_passes fun m' h' => ih hp (h'.ready told) hh hb

end Pages

end Machine

/-! ## Scripts -/

variable {text : List Char} {s : Scenario}

/-- Reading the text leads to a draft of all the lines of the group, which is that of the feature. -/
def Group.Drafted (text : List Char) (g : Group) (e : String × Feature) : Prop :=
  ∃ m d, Machine.Reached text m ∧ m.feature = some d ∧ d.Retains g ∧
    e = (d.name, ⟨d.name, d.enabled, d.context⟩)

/-- Reading the text leads to a draft of all the lines of the block, which is closed to the page. -/
def PageBlock.Drafted (text : List Char) (b : PageBlock) (p : Page) : Prop :=
  ∃ m d, Machine.Reached text m ∧ m.page = some d ∧ d.Retains b ∧ d.close = .ok p

section Outline

variable {o : Outline} {ls : List (List Char)}

theorem Outline.Spells.passes_group (h : o.Spells ls) (hs : o.Says s) {g : Group} (hg : g ∈ o.groups) :
    ({} : Machine).Passes ls (·.feature = some g.draft) := by
  cases h with
  | mk blocks pages =>
    exact (Machine.passes_prologue blocks ⟨rfl, .start, rfl⟩ hs.unrepeated hg).append

theorem Outline.Spells.passes_page (h : o.Spells ls) (hs : o.Says s) {b : PageBlock}
    (hb : b ∈ o.pages) :
    ({} : Machine).Passes ls fun m => ∃ o', m.InPage [.action, .fields] o' b true := by
  cases h with
  | mk blocks pages =>
    have prologue := Machine.run_prologue blocks ⟨rfl, .start, rfl⟩ hs.unrepeated
    exact prologue.append_passes fun m hm => Machine.passes_pages pages hs.pages hm.ready hs.host hb

theorem Outline.Spells.drafted_group (h : o.Spells (countedLines text)) (hs : o.Says s) {g : Group}
    (hg : g ∈ o.groups) : g.Drafted text g.feature := by
  obtain ⟨m, hm, hd⟩ := (h.passes_group hs hg).reached
  refine ⟨m, g.draft, hm, hd, g.retains_draft, ?_⟩
  rw [Group.feature, g.retains_draft.name]

theorem Outline.Spells.drafted_page (h : o.Spells (countedLines text)) (hs : o.Says s)
    {b : PageBlock} (hb : b ∈ o.pages) {p : Page} (hp : b.Says p) : b.Drafted text p := by
  obtain ⟨m, hm, o', -, -, d, hd, holds, begun⟩ := (h.passes_page hs hb).reached
  have begun := Option.isSome_iff_ne_none.mp begun
  exact ⟨m, d, hm, hd, holds.retains, holds.close_eq_ok_iff.mpr ⟨begun, hp⟩⟩

end Outline

/-- A text in which no feature and no property of a page stands twice, and whose drafts the scenario is
made of. -/
structure Outline.Kept (o : Outline) (text : List Char) (s : Scenario) : Prop where
  spells : o.Spells (countedLines text)
  host : o.prologue.filterMap Block.host? = [s.host]
  once : (o.groups.map Group.name).Nodup
  features : List.Forall₂ (Group.Drafted text) o.groups s.features
  pages : List.Forall₂ (PageBlock.Drafted text) o.pages s.pages

/-- A script that is read is kept in its drafts: every expected value and every property, of the settings
of one feature with one key the last, and of the fields of one page with one name the last. So nothing is
lost where no key comes again. -/
theorem parse_retains (h : parse text = .ok s) : ∃ o : Outline, o.Kept text s := by
  obtain ⟨o, spells, told⟩ := outline_of_parse h
  refine ⟨o, spells, told.host, told.once, ?_, ?_⟩
  · rw [told.features, List.forall₂_map_right_iff, List.forall₂_same]
    exact fun g hg => spells.drafted_group told hg
  · have pages := (List.forall₂_and_left _ _).mpr ⟨fun b hb => hb, told.pages⟩
    exact pages.imp fun b p hb => spells.drafted_page told hb.1 hb.2

/-! ### Settings and fields that come again -/

def repeatedText : List Char :=
  ("Host: http://h\nFeatures:\n- F:\nenable: true\ncolor: red\nenable: false\ncolor: blue\n" ++
    "Page P\naction:\ntype: Submit\nfields:\n- A: 1\n- A: 2\n").toList

/-- The outline that the text spells. -/
def repeatedOutline : Outline where
  prologue := [.host "http://h", .features [⟨"F",
    [.enable true, .entry "color" "red", .enable false, .entry "color" "blue"]⟩]]
  pages := [⟨"P", none, [.property .type "Submit", .fields [("A", "1"), ("A", "2")]]⟩]

/-- The scenario that is read from the text. -/
def repeatedScenario : Scenario where
  host := "http://h"
  features := [("F", ⟨"F", false, [("color", "blue")]⟩)]
  pages := [⟨"P", .submit [("A", some "2")], []⟩]

theorem parse_repeatedText : parse repeatedText = .ok repeatedScenario := by decide +kernel

theorem parse_retains_repeated : parse repeatedText = .ok repeatedScenario ∧
    ∃ o : Outline, o.Kept repeatedText repeatedScenario :=
  ⟨parse_repeatedText, parse_retains parse_repeatedText⟩

theorem countedLines_repeatedText : countedLines repeatedText =
    "Host: http://h".toList :: featuresLine :: "- F:".toList :: "enable: true".toList ::
      "color: red".toList :: "enable: false".toList :: "color: blue".toList :: "Page P".toList ::
      actionLine :: "type: Submit".toList :: fieldsLine :: "- A: 1".toList :: ["- A: 2".toList] := by
  decide +kernel

theorem repeatedOutline_spells : repeatedOutline.Spells (countedLines repeatedText) := by
  have enable (b : Bool) : (Setting.enable b).Spells ["enable: ".toList ++ truthWord b] := by
    have free : Free ("enable: ".toList ++ truthWord b) := free_of_head rfl (by decide)
    have pair : PairLine "enable" (.ofList (truthWord b)) ("enable: ".toList ++ truthWord b) := by
      rw [pairLine_iff]
      cases b <;> decide
    refine .enable free pair ?_
    rw [TruthValue]
    cases b <;> decide
  have color {value : String} (h : value = "red" ∨ value = "blue") :
      (Setting.entry "color" value).Spells ["color: ".toList ++ value.toList] := by
    refine .entry (free_of_head rfl (by decide)) (pairLine_iff.mpr ?_) (by decide) fun on => ?_
    · rcases h with rfl | rfl <;> decide
    · exact absurd on.1 (by decide)
  have item {value : String} (h : value = "1" ∨ value = "2") :
      ItemSpells ("A", value) ["- A: ".toList ++ value.toList] := by
    refine .mk ⟨_, value, rfl, pairLine_iff.mpr ?_, written_iff.mpr ?_⟩ <;>
      rcases h with rfl | rfl <;> decide
  have group : (Group.mk "F" [.enable true, .entry "color" "red", .enable false,
      .entry "color" "blue"]).Spells ("- F:".toList :: ["enable: true".toList, "color: red".toList,
      "enable: false".toList, "color: blue".toList]) := by
    refine .mk ⟨_, ['F'], rfl, by decide, by decide, by decide⟩ ?_
    exact .cons (enable true) (.cons (color (.inl rfl)) (.cons (enable false)
      (.single (color (.inr rfl)))))
  have fields : (Part.fields [("A", "1"), ("A", "2")]).Spells
      (fieldsLine :: ["- A: 1".toList, "- A: 2".toList]) :=
    .fields (.cons (item (.inl rfl)) (.single (item (.inr rfl))))
  have type : (Part.property .type "Submit").Spells ["type: Submit".toList] :=
    .property ⟨"Submit", pairLine_iff.mpr (by decide), written_iff.mpr (by decide)⟩
  have page : PageBlock.Spells ⟨"P", none, [.property .type "Submit", .fields [("A", "1"), ("A", "2")]]⟩
      ("Page P".toList :: ([] ++ actionLine :: ("type: Submit".toList :: fieldsLine ::
        ["- A: 1".toList, "- A: 2".toList]))) :=
    .mk ⟨' ', ['P'], rfl, by decide, by decide⟩ (by decide) .none (.cons type (.single fields))
  rw [countedLines_repeatedText]
  refine .mk (.cons (.host ⟨_, rfl, ?_⟩ ?_) (.single (.features (.single group)))) (.single page) <;>
    decide

/-- A script in which settings and a field come again is read, and what was written first is lost. -/
theorem parse_drops_repeated :
    parse repeatedText = .ok repeatedScenario ∧ repeatedOutline.Spells (countedLines repeatedText) ∧
      (∃ g ∈ repeatedOutline.groups, g.switches = [true, false] ∧
        g.entries = [("color", "red"), ("color", "blue")] ∧
        (g.name, ⟨g.name, false, [("color", "blue")]⟩) ∈ repeatedScenario.features) ∧
      ∃ b ∈ repeatedOutline.pages, b.items = [("A", "1"), ("A", "2")] ∧
        ⟨b.name, .submit [("A", some "2")], []⟩ ∈ repeatedScenario.pages :=
  ⟨parse_repeatedText, repeatedOutline_spells, ⟨_, List.mem_singleton.mpr rfl, rfl, rfl,
    List.mem_singleton.mpr rfl⟩, _, List.mem_singleton.mpr rfl, rfl, List.mem_singleton.mpr rfl⟩

end Walkthrough.Script
