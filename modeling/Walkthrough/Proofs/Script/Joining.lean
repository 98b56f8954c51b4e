import Walkthrough.Proofs.Script.Faults

/-! Pages one after the other. Reading a page goes the same way whatever was read before it: a machine with
the host, the features and the pages of another (`Machine.onto`) makes the same steps as without them
(`Machine.run_onto`). So what stands after a text that is accepted adds its pages to those of the text
(`Scenario.ofText_joined`). -/

namespace Walkthrough

open Text

/-! ## Lines of joined texts -/

/-- The lines of a text with a line feed and more after it; the line feed may end an empty line of its
own. -/
theorem Text.exists_linesFrom_append (current front : List Char) :
    ∃ ls, (ls = linesFrom current front ∨ ls = linesFrom current front ++ [[]]) ∧
      ∀ back, linesFrom current (front ++ '\n' :: back) = ls ++ linesFrom [] back := by
  fun_induction linesFrom current front with
  | case1 current none =>
    rw [List.isEmpty_iff] at none
    exact ⟨[[]], .inr rfl, fun back => by rw [none, List.nil_append, linesFrom_break]; rfl⟩
  | case2 current some => exact ⟨_, .inl rfl, fun back => by rw [List.nil_append, linesFrom_break]; rfl⟩
  | case3 current rest ih =>
    obtain ⟨ls, same, joined⟩ := ih
    refine ⟨current.reverse :: ls, ?_, fun back => ?_⟩
    · rcases same with rfl | rfl
      · exact .inl rfl
      · exact .inr rfl
    · rw [List.cons_append, List.cons_append, linesFrom, joined]
      rfl
  | case4 current c rest pair breaks ih =>
    by_cases last : c = '\r' ∧ rest = []
    · obtain ⟨rfl, rfl⟩ := last
      exact ⟨[current.reverse], .inl rfl, fun back => rfl⟩
    · obtain ⟨ls, same, joined⟩ := ih
      refine ⟨current.reverse :: ls, ?_, fun back => ?_⟩
      · rcases same with rfl | rfl
        · exact .inl rfl
        · exact .inr rfl
      · rw [List.cons_append, linesFrom, if_pos breaks, joined]
        · rfl
        · rintro more rfl eq
          cases rest with
          | nil => exact last ⟨rfl, rfl⟩
          | cons d rest =>
            cases eq
            exact pair rest rfl rfl
  | case5 current c rest pair breaks ih =>
    obtain ⟨ls, same, joined⟩ := ih
    refine ⟨ls, same, fun back => ?_⟩
    rw [List.cons_append, linesFrom, if_neg breaks, joined]
    rintro _ rfl
    exact absurd rfl breaks

theorem Text.lines_of_unbroken {cs : List Char} (unbroken : Unbroken cs) (some : cs ≠ []) :
    lines cs = [cs] := by
  obtain ⟨ls, same, joined⟩ := exists_linesFrom_append [] cs
  have whole : ls ++ [] = [cs] := (joined []).symm.trans (linesFrom_unbroken unbroken [])
  rw [List.append_nil] at whole
  rcases same with rfl | rfl
  · exact whole
  · have last := congrArg List.getLast? whole
    rw [List.getLast?_concat] at last
    exact absurd (Option.some.inj last).symm some

namespace Script

theorem linesFrom_renumber (n k : Nat) (raws : List (List Char)) :
    linesFrom (n + k) raws = (linesFrom n raws).map (·.renumber (· + k)) := by
  induction raws generalizing n with
  | nil => rfl
  | cons raw raws ih =>
    rw [linesFrom, linesFrom, Nat.add_right_comm, ih]
    split <;> rfl

/-- The lines that count of the second of two texts follow those of the first. -/
theorem exists_significantLines_append (front back : List Char) :
    ∃ k, significantLines (front ++ '\n' :: back) = significantLines front ++
      (linesFrom 0 (Text.lines back)).map (·.renumber (· + k)) := by
  obtain ⟨ls, same, joined⟩ := Text.exists_linesFrom_append [] front
  have here : linesFrom 1 ls = significantLines front := by
    rcases same with rfl | rfl
    · rfl
    · rw [linesFrom_append]
      exact List.append_nil _
  refine ⟨1 + ls.length, ?_⟩
  rw [significantLines, Text.lines, joined, linesFrom_append, here, ← linesFrom_renumber, Nat.zero_add]
  rfl

namespace Machine

/-! ## A machine on top of another -/

/-- The machine with the host, the features and the pages of another before its own. -/
def onto (m base : Machine) : Machine :=
  { m with host := base.host, features := base.features, pages := base.pages ++ m.pages }

/-- The machine reads a page. -/
structure Paging (m : Machine) : Prop where
  mode : m.mode.inPage = true
  host : m.host ≠ none
  feature : m.feature = none

variable {m m' base : Machine}

theorem Paging.pastPrologue (h : m.Paging) : m.pastPrologue = true := by
  rw [Machine.pastPrologue, h.mode]
  rfl

theorem Paging.closeFeature (h : m.Paging) : m.closeFeature = .ok m := by
  rw [Machine.closeFeature, h.feature]

/-- A machine that reads a page goes on with it or with another. -/
theorem Paging.move {line : Line} (h : m.Paging) (hm : m.Moves line m') : m'.Paging := by
  have later {early : Prop} (hp : m.pastPrologue = false) : early := by
    rw [h.pastPrologue] at hp
    cases hp
  have notFeatures (hm : m.mode = .features) : False := by
    have mode := h.mode
    rw [hm] at mode
    cases mode
  cases hm with
  | host _ _ early | features _ early => exact later early
  | page _ _ host closed done =>
    rw [h.closeFeature] at closed
    cases closed
    obtain ⟨hh, hf, -⟩ := kept_of_closePage done
    exact ⟨rfl, hh ▸ host, hf ▸ h.feature⟩
  | header mode | setting mode => exact (notFeatures mode).elim
  | expected | action | fields | property => exact ⟨rfl, h.host, h.feature⟩
  | item | field => exact ⟨h.mode, h.host, h.feature⟩

section

variable (m) (line : Line) (d : PageDraft)

theorem closePage_onto : (m.onto base).closePage = m.closePage.map (·.onto base) := by
  obtain ⟨mode, host, features, pages, feature, page⟩ := m
  cases page with
  | none => rfl
  | some d =>
    simp only [closePage, onto]
    cases d.close with
    | error stop => rfl
    | ok page => simp only [Except.map, List.append_assoc]

theorem openPage_onto (hb : base.host ≠ none) (h : m.Paging) (n : Nat) (name : List Char) :
    (m.onto base).openPage n name = (m.openPage n name).map (·.onto base) := by
  have known : (m.onto base).host.isNone = m.host.isNone := by
    rw [Bool.eq_false_iff.mpr fun none => h.host (Option.isNone_iff_eq_none.mp none)]
    exact Bool.eq_false_iff.mpr fun none => hb (Option.isNone_iff_eq_none.mp none)
  have closed : (m.onto base).closeFeature = .ok (m.onto base) := by
    rw [closeFeature, show (m.onto base).feature = none from h.feature]
  unfold openPage
  rw [known, closed, h.closeFeature]
  split
  · rfl
  split
  · rfl
  refine Except.bind_eq_map_bind (x := .ok m) (g := (·.onto base)) rfl fun m => ?_
  exact Except.bind_eq_map_bind m.closePage_onto fun _ => rfl

theorem openAction_onto (n : Nat) :
    (m.onto base).openAction n d = (m.openAction n d).map (·.onto base) := by
  unfold openAction
  split
  · rfl
  · rfl

theorem inPage_onto : (m.onto base).inPage line d = (m.inPage line d).map (·.onto base) := by
  unfold inPage
  split
  · rfl
  split
  · exact m.openAction_onto d _
  · rfl

theorem inExpected_onto :
    (m.onto base).inExpected line d = (m.inExpected line d).map (·.onto base) := by
  unfold inExpected
  split
  · exact m.openAction_onto d _
  split
  · rfl
  refine Except.bind_eq_map_bind (congrFun Except.map_id _).symm fun sides => ?_
  dsimp only [id]
  split
  · rfl
  · rfl

theorem inAction_onto : (m.onto base).inAction line d = (m.inAction line d).map (·.onto base) := by
  unfold inAction
  split
  · exact m.openAction_onto d _
  split
  · split
    · rfl
    · rfl
  refine Except.bind_eq_map_bind (congrFun Except.map_id _).symm fun sides => ?_
  dsimp only [id]
  split
  · rfl
  split
  · rfl
  · rfl

theorem inFields_onto : (m.onto base).inFields line d = (m.inFields line d).map (·.onto base) := by
  unfold inFields
  split
  · rw [← inAction_onto]
    rfl
  · exact Except.bind_eq_map_bind (congrFun Except.map_id _).symm fun _ => rfl

theorem withPage_onto {handle handle' : PageDraft → Except Stop Machine}
    (h : ∀ d, handle' d = (handle d).map (·.onto base)) :
    (m.onto base).withPage handle' = (m.withPage handle).map (·.onto base) := by
  obtain ⟨mode, host, features, pages, feature, page⟩ := m
  cases page with
  | none => rfl
  | some d => exact h d

/-- What is read before a page does not change how the page is read. -/
theorem step_onto (hb : base.host ≠ none) (h : m.Paging) :
    (m.onto base).step line = (m.step line).map (·.onto base) := by
  have early : (m.onto base).pastPrologue = m.pastPrologue := by
    rw [h.pastPrologue, Machine.pastPrologue, show (m.onto base).mode.inPage = true from h.mode]
    rfl
  have mode : (m.onto base).mode = m.mode := rfl
  unfold step
  rw [mode]
  split
  · rw [openHost, openHost, early, h.pastPrologue]
    rfl
  · rw [openFeatures, openFeatures, early, h.pastPrologue]
    rfl
  · exact m.openPage_onto hb h _ _
  split
  · rfl
  · next hm =>
    have := h.mode
    rw [hm] at this
    cases this
  · exact m.withPage_onto (m.inPage_onto line)
  · exact m.withPage_onto (m.inExpected_onto line)
  · exact m.withPage_onto (m.inAction_onto line)
  · exact m.withPage_onto (m.inFields_onto line)

theorem run_onto (hb : base.host ≠ none) (h : m.Paging) {lines : List Line}
    (tight : ∀ l ∈ lines, Tight l.text) :
    (m.onto base).run lines = (m.run lines).map (·.onto base) := by
  induction lines generalizing m with
  | nil => rfl
  | cons line lines ih =>
    obtain ⟨ht, tight⟩ := List.forall_mem_cons.mp tight
    rw [run, run, m.step_onto line hb h]
    cases hs : m.step line with
    | error stop => rfl
    | ok m' => exact ih m' (h.move (moves_of_step ht hs)) tight

end

theorem Paging.run (h : m.Paging) {lines : List Line} (tight : ∀ l ∈ lines, Tight l.text)
    (hr : m.run lines = .ok m') : m'.Paging := by
  induction lines generalizing m with
  | nil =>
    cases hr
    exact h
  | cons line lines ih =>
    obtain ⟨ht, tight⟩ := List.forall_mem_cons.mp tight
    rw [Machine.run] at hr
    split at hr
    · cases hr
    · next m₁ hs => exact ih (h.move (moves_of_step ht hs)) tight hr

/-- What a machine that has closed its drafts gives for the scenario. -/
structure Gives (base : Machine) (s : Scenario) : Prop where
  host : base.host = some s.host
  features : base.features = s.features
  pages : base.pages = s.pages
  feature : base.feature = none
  shown : isBlankText s.host = false
  own : ∀ e ∈ s.features, e.1 = e.2.name

theorem exists_gives {s : Scenario} (h : m.Consistent) (hs : m.Shown) (hf : m.finish = .ok s) :
    ∃ base, m.flush.closePage = .ok base ∧ base.Gives s := by
  rw [finish, h.closeFeature] at hf
  obtain ⟨_, ⟨⟩, hf⟩ := Except.bind_eq_ok_iff.mp hf
  obtain ⟨base, closed, hf⟩ := Except.bind_eq_ok_iff.mp hf
  obtain ⟨hh, feature, hfs⟩ := kept_of_closePage closed
  have own : ∀ e ∈ base.features, e.1 = e.2.name := hfs ▸ h.flush.own
  refine ⟨base, closed, ?_⟩
  split at hf
  · cases hf
  · next host known =>
    have shown : isBlankText host = false := hs.host host (hh.symm.trans known)
    rw [(Scenario.create_eq_ok_iff own).mpr ⟨shown, rfl⟩] at hf
    cases hf
    exact ⟨known, rfl, rfl, feature, shown, own⟩

theorem finish_onto {s : Scenario} (hb : base.Gives s) (h : m.Paging) : (m.onto base).finish =
    m.closePage.map fun m => ⟨s.host, s.features, s.pages ++ m.pages⟩ := by
  have open_none : (m.onto base).closeFeature = .ok (m.onto base) := by
    rw [closeFeature, show (m.onto base).feature = none from h.feature]
  rw [finish, open_none]
  show (m.onto base).closePage >>= _ = _
  rw [closePage_onto]
  cases m.closePage with
  | error stop => rfl
  | ok m' =>
    have created : Scenario.create (some s.host) s.features (s.pages ++ m'.pages) =
        .ok ⟨s.host, s.features, s.pages ++ m'.pages⟩ :=
      (Scenario.create_eq_ok_iff hb.own).mpr ⟨hb.shown, rfl⟩
    simp only [Except.map, Except.bind, bind, onto, hb.host, hb.features, hb.pages, created]

end Machine

/-- The pages in lines that stand after a host. -/
def readPages (lines : List Line) : Except Stop (List Page) := do
  let m ← (← ({ host := some "" } : Machine).run lines).closePage
  return m.pages

theorem readPages_renumber {f : Nat → Nat} (lines : List Line) :
    readPages (lines.map (·.renumber f)) = renumbered f id (readPages lines) := by
  refine renumbered_bind (Machine.run_renumber { host := some "" } lines) fun m => ?_
  exact renumbered_bind m.closePage_renumber fun _ => rfl

/-- The lines begin with that of a page, which may lack its name. -/
def BeginsPage (texts : List (List Char)) : Prop :=
  ∃ line ∈ texts.head?, line = pageWord ∨ ∃ name, PageLine name line

theorem BeginsPage.exists_opening {line : List Char} {texts : List (List Char)}
    (h : BeginsPage (line :: texts)) : ∃ name, opening? line = some (.page name) := by
  obtain ⟨_, ⟨⟩, bare | ⟨_, c, rest, head, blank, -⟩⟩ := h
  · exact ⟨[], opening?_eq_some_page.mpr (.inl ⟨bare, rfl⟩)⟩
  · exact ⟨_, opening?_eq_some_page.mpr (.inr ⟨c, rest, head, blank, rfl⟩)⟩

/-- Lines that begin with that of a page add their pages to what a machine has read. -/
theorem Machine.run_pages_onto {m : Machine} {s : Scenario} {lines : List Line} (h : m.Consistent)
    (hs : m.Shown) (hf : m.finish = .ok s) (begins : BeginsPage (lines.map Line.text))
    (tight : ∀ l ∈ lines, Tight l.text) : m.run lines >>= finish =
      (readPages lines).map fun pages => ⟨s.host, s.features, s.pages ++ pages⟩ := by
  cases lines with
  | nil =>
    obtain ⟨_, ⟨⟩, -⟩ := begins
  | cons line lines =>
    obtain ⟨ht, tight⟩ := List.forall_mem_cons.mp tight
    obtain ⟨base, closed, gives⟩ := exists_gives h hs hf
    have known : m.host = some s.host := (kept_of_closePage closed).1 ▸ gives.host
    obtain ⟨name, opens⟩ := begins.exists_opening
    have step (m : Machine) : m.step line = m.openPage line.number name := by
      rw [Machine.step, opens]
    by_cases named : name = []
    · have stops (m : Machine) (known : m.host.isNone = false) :
          m.step line = .error (.fault .emptyPageName (some line.number)) := by
        rw [step, openPage, known, named]
        rfl
      rw [run, stops m (by rw [known]; rfl), readPages, run, stops { host := some "" } rfl]
      rfl
    · let first : Machine :=
        { mode := .page, host := some "", page := some { name := .ofList name, line := line.number } }
      have start : ({ host := some "" } : Machine).step line = .ok first := by
        rw [step]
        exact openPage_eq_ok.mpr ⟨Option.some_ne_none _, named, _, _, rfl, rfl, rfl⟩
      have here : m.step line = .ok (first.onto base) := by
        rw [step]
        refine openPage_eq_ok.mpr ⟨?_, named, _, base, h.closeFeature, closed, ?_⟩
        · rw [known]
          exact Option.some_ne_none _
        · simp only [first, onto, List.append_nil, gives.feature]
      have paging : first.Paging := ⟨rfl, Option.some_ne_none _, rfl⟩
      have declared : base.host ≠ none := by
        rw [gives.host]
        exact Option.some_ne_none _
      have goOn {m m' : Machine} (h : m.step line = .ok m') : m.run (line :: lines) = m'.run lines := by
        rw [run, h]
      rw [readPages, goOn here, goOn start, first.run_onto declared paging tight]
      cases hr : first.run lines with
      | error stop => rfl
      | ok m' =>
        refine (finish_onto gives (paging.run tight hr)).trans ?_
        show _ = Except.map _ (m'.closePage >>= _)
        cases m'.closePage with
        | error stop => rfl
        | ok => rfl

variable {front back : List Char} {s : Scenario}

/-- Behind a text that is accepted, pages are read in one and the same way, and they come after its own. -/
theorem parse_joined (accepted : parse front = .ok s) (begins : BeginsPage (countedLines back)) :
    ∃ k, parse (front ++ '\n' :: back) =
      renumbered (· + k) (fun pages => ⟨s.host, s.features, s.pages ++ pages⟩)
        (readPages (linesFrom 0 (Text.lines back))) := by
  obtain ⟨k, split⟩ := exists_significantLines_append front back
  obtain ⟨m, run, finish⟩ := Except.bind_eq_ok_iff.mp accepted
  have tight {l : Line} {text : List Char} : l ∈ significantLines text → Tight l.text :=
    tight_of_mem_significantLines
  obtain ⟨consistent, shown⟩ := Machine.Consistent.start.run .start (fun _ => tight) run
  have texts (ls : List Line) : (ls.map (·.renumber (· + k))).map Line.text = ls.map Line.text := by
    rw [List.map_map]
    rfl
  refine ⟨k, ?_⟩
  rw [parse, split, Machine.run_append run, Machine.run_pages_onto consistent shown finish,
    readPages_renumber]
  · cases readPages (linesFrom 0 (Text.lines back)) with
    | error stop => rfl
    | ok pages => rfl
  · rwa [texts, text_linesFrom]
  · intro l hl
    exact tight (split ▸ List.mem_append_right _ hl)

/-- A line that declares a host is a script of its own. -/
theorem parse_host {x : List Char} (unbroken : Unbroken x) (shown : ¬AllBlank x) :
    parse (['H', 'o', 's', 't', ':'] ++ ' ' :: x) = .ok ⟨.ofList (trim x), [], []⟩ := by
  obtain ⟨a, b, hx, ha, hb, tight⟩ := exists_trim x
  have some : trim x ≠ [] := mt trim_eq_nil_iff.mp shown
  let line : List Char := ['H', 'o', 's', 't', ':'] ++ (' ' :: a ++ trim x)
  have trimmed : trim (['H', 'o', 's', 't', ':'] ++ ' ' :: x) = line := by
    have whole : Tight line := by
      refine .append (by decide) (by simp) (by decide) ?_
      rw [List.getLast?_append_of_ne_nil _ some]
      exact tight.2
    have rest : ' ' :: a ++ trim x ++ b = ' ' :: x := by
      rw [List.cons_append, List.cons_append, ← hx]
    have := trim_append (List.forall_mem_nil _) hb whole
    rwa [List.nil_append, List.append_assoc, rest] at this
  have counts : Counts line := by
    refine ⟨List.cons_ne_nil _ _, ?_⟩
    rintro ⟨_, h⟩
    exact absurd (List.cons.inj h).1 (by decide)
  have counted : countedLines (['H', 'o', 's', 't', ':'] ++ ' ' :: x) = [line] := by
    have whole : Unbroken (['H', 'o', 's', 't', ':'] ++ ' ' :: x) :=
      .append (by decide) (List.forall_mem_cons.mpr ⟨by decide, unbroken⟩)
    rw [countedLines, lines_of_unbroken whole (List.cons_ne_nil _ _), Script.counted,
      List.map_singleton, trimmed]
    exact List.filter_cons_of_pos (decide_eq_true counts)
  have head : HostLine (.ofList (trim x)) line := by
    refine ⟨_, rfl, ?_⟩
    have blank : AllBlank (' ' :: a) := List.forall_mem_cons.mpr ⟨by decide, ha⟩
    have := trim_append blank (List.forall_mem_nil _) tight
    rw [List.append_nil] at this
    rw [this]
  have named : String.ofList (trim x) ≠ "" := fun h => some (String.ofList_inj.mp h)
  have spells : (⟨[.host (.ofList (trim x))], []⟩ : Outline).Spells [line] :=
    .mk (.single (.host head named)) .nil
  have meaning : (⟨[.host (.ofList (trim x))], []⟩ : Outline).Says ⟨.ofList (trim x), [], []⟩ :=
    ⟨rfl, .nil, rfl, .nil⟩
  exact parse_of_outline (counted ▸ spells) meaning

end Script

namespace Scenario

open Script

/-- A text after one that is accepted is read as it is after the line of a host, if it begins with a
page: its pages follow those of the first text, whose host and features stay as they are. -/
theorem ofText_joined [StackRoom] {t b x : String} {s : Scenario} {source source' source'' : Option String}
    (accepted : ofText .script t source = .ok s) (begins : BeginsPage (countedLines b.toList))
    (unbroken : Unbroken x.toList) (shown : isBlankText x = false) (s' : Scenario) :
    ofText .script (t ++ "\n" ++ b) source' = .ok s' ↔
      ∃ r, ofText .script ("Host: " ++ x ++ "\n" ++ b) source'' = .ok r ∧
        s' = ⟨s.host, s.features, s.pages ++ r.pages⟩ := by
  rw [ofText_script_eq_ok_iff] at accepted
  have host := parse_host unbroken (isBlankText_eq_false_iff.mp shown)
  obtain ⟨k, joined⟩ := parse_joined accepted begins
  obtain ⟨k', alone⟩ := parse_joined host begins
  have text : (t ++ "\n" ++ b).toList = t.toList ++ '\n' :: b.toList := by
    simp
  have text' : ("Host: " ++ x ++ "\n" ++ b).toList =
      ['H', 'o', 's', 't', ':'] ++ ' ' :: x.toList ++ '\n' :: b.toList := by
    simp
  simp only [ofText_script_eq_ok_iff, text, text', joined, alone]
  cases readPages (linesFrom 0 (Text.lines b.toList)) with
  | error stop => exact ⟨nofun, nofun⟩
  | ok pages =>
    constructor
    · rintro ⟨⟩
      exact ⟨_, rfl, rfl⟩
    · rintro ⟨_, ⟨⟩, rfl⟩
      rfl

/-- A text that ends among the fields of a page, and another page behind a comment. -/
theorem ofText_joined_fields :
    let t := "Host: h\nPage p\naction:\ntype: Submit\nfields:\n- a: 1"
    let b := "// more\nPage q\naction:\ntype: Click\ntarget: ok"
    let p : Page := ⟨"p", .submit [("a", some "1")], []⟩
    let q : Page := ⟨"q", .click (some "ok"), []⟩
    ofText .script t none = .ok ⟨"h", [], [p]⟩ ∧ BeginsPage (countedLines b.toList) ∧
      ofText .script ("Host: x\n" ++ b) none = .ok ⟨"x", [], [q]⟩ ∧
        ofText .script (t ++ "\n" ++ b) none = .ok ⟨"h", [], [p, q]⟩ := by
  have accepted : ofText .script "Host: h\nPage p\naction:\ntype: Submit\nfields:\n- a: 1" none =
    .ok ⟨"h", [], [⟨"p", .submit [("a", some "1")], []⟩]⟩ := rfl
  have alone : ofText .script "Host: x\n// more\nPage q\naction:\ntype: Click\ntarget: ok" none =
    .ok ⟨"x", [], [⟨"q", .click (some "ok"), []⟩]⟩ := rfl
  intro t b p q
  have begins : BeginsPage (countedLines b.toList) :=
    ⟨pageWord ++ [' ', 'q'], by decide, .inr ⟨"q", ' ', ['q'], rfl, rfl, rfl⟩⟩
  refine ⟨accepted, begins, alone, ?_⟩
  exact (ofText_joined (x := "x") accepted begins (by decide) (by decide) _).mpr ⟨_, alone, rfl⟩

end Scenario

end Walkthrough
