import Walkthrough.Proofs.Script.Layout

/-! Where the faults of a script point. Reading stops at a line or at the end of the text (`Stops`). What
it then reports names this line, or it names the page that is closed there, by its heading or by its
`action:` (`Blames`). Only the missing host has no line, and what stands after the line at which reading
stopped is never looked at (`ofText_stops`). -/

namespace Walkthrough

open Text

namespace Script

/-! ## The line of a fault -/

/-- A fault that is found when a page is closed. -/
def LineFault.ofPage : LineFault → Bool
  | .noAction _ | .action _ => true
  | _ => false

/-- A fault, if it is one of the text, is on line `n` and is none of a page that is closed. -/
def Stop.On (n : Nat) (stop : Stop) : Prop :=
  ∀ cause place, stop = .fault cause place → place = some n ∧ cause.ofPage = false

theorem Stop.On.fault {n : Nat} {cause : LineFault} (h : cause.ofPage = false) :
    (Stop.fault cause (some n)).On n := by
  rintro _ _ ⟨⟩
  exact ⟨rfl, h⟩

theorem Stop.On.refused (n : Nat) (cause : Misuse) : (Stop.refused cause).On n := nofun

/-- What closing a page without a valid action reports. -/
inductive PageDraft.Faulty (d : PageDraft) : Stop → Prop
  | noAction (none : d.actionLine = none) : Faulty d (.fault (.noAction d.name) (some d.line))
  | action {n fault} (begun : d.actionLine = some n)
      (invalid : Action.build d.type d.entries = .error fault) :
      Faulty d (.fault (.action fault) (some n))

theorem faulty_close {d : PageDraft} (h : isBlankText d.name = false) :
    Except.FailsBy d.Faulty d.close := by
  unfold PageDraft.close
  split
  · next none => exact .error (.noAction none)
  · next n begun =>
    split
    · next fault invalid => exact .error (.action begun invalid)
    · next action _ =>
      have created : Page.create (some d.name) (some action) d.expected =
          .ok ⟨d.name, action, d.expected⟩ := by
        rw [Page.create, h]
        rfl
      rw [created]
      exact .ok _

theorem on_pairAt (kind : PairKind) (n : Nat) (text : List Char) :
    Except.FailsBy (Stop.On n) (pairAt kind n text) := by
  unfold pairAt
  split
  · exact .ok _
  · exact .error (.fault rfl)

theorem on_set (d : FeatureDraft) (n : Nat) (key value : List Char) :
    Except.FailsBy (Stop.On n) (d.set n key value) := by
  unfold FeatureDraft.set
  split
  · split
    · exact .ok _
    · exact .error (.fault rfl)
  · split
    · exact .ok _
    · split
      · exact .error (.fault rfl)
      · exact .ok _

namespace Machine

variable {m m' : Machine} {line : Line} {lines front read : List Line} {stop : Stop} {n : Nat}

theorem on_closeFeature (m : Machine) (n : Nat) : Except.FailsBy (Stop.On n) m.closeFeature := by
  unfold closeFeature
  split
  · exact .ok _
  · split
    · exact .error (.refused _ _)
    · exact .ok _

theorem on_openHost (m : Machine) (n : Nat) (value : List Char) :
    Except.FailsBy (Stop.On n) (m.openHost n value) := by
  unfold openHost
  exact .ite (.error (.fault rfl)) <| .ite (.error (.fault rfl)) <| .ite (.error (.fault rfl)) <|
    (m.on_closeFeature n).bind fun _ => .pure

theorem on_openFeatures (m : Machine) (n : Nat) :
    Except.FailsBy (Stop.On n) (m.openFeatures n) := by
  unfold openFeatures
  exact .ite (.error (.fault rfl)) <| (m.on_closeFeature n).bind fun _ => .pure

theorem on_inFeatures (m : Machine) (line : Line) :
    Except.FailsBy (Stop.On line.number) (m.inFeatures line) := by
  unfold inFeatures
  split
  · unfold openFeature
    split
    · exact .error (.fault rfl)
    · exact .ite (.error (.fault rfl)) <| (m.on_closeFeature _).bind fun _ => .pure
  · split
    · exact .error (.fault rfl)
    · exact (on_pairAt _ _ _).bind fun _ => (on_set _ _ _ _).bind fun _ => .pure

section Page

variable (m : Machine) (line : Line) (d : PageDraft)

theorem on_openAction (n : Nat) : Except.FailsBy (Stop.On n) (m.openAction n d) := by
  unfold openAction
  exact .ite (.error (.fault rfl)) (.ok _)

theorem on_inPage : Except.FailsBy (Stop.On line.number) (m.inPage line d) := by
  unfold inPage
  exact .ite (.ok _) <| .ite (m.on_openAction d _) (.error (.fault rfl))

theorem on_inExpected : Except.FailsBy (Stop.On line.number) (m.inExpected line d) := by
  unfold inExpected
  refine .ite (m.on_openAction d _) ?_
  split
  · exact .error (.fault rfl)
  · refine (on_pairAt _ _ _).bind fun _ => ?_
    dsimp only
    split
    · exact .error (.refused _ _)
    · exact .ok _

theorem on_inAction : Except.FailsBy (Stop.On line.number) (m.inAction line d) := by
  unfold inAction
  refine .ite (m.on_openAction d _) ?_
  split
  · exact .ite (.ok _) (.error (.fault rfl))
  · refine (on_pairAt _ _ _).bind fun _ => ?_
    dsimp only
    split
    · exact .error (.fault rfl)
    · exact .ite (.error (.fault rfl)) (.ok _)

theorem on_inFields : Except.FailsBy (Stop.On line.number) (m.inFields line d) := by
  unfold inFields
  split
  · exact on_inAction _ line d
  · exact (on_pairAt _ _ _).bind fun _ => .pure

end Page

theorem on_withPage {handle : PageDraft → Except Stop Machine}
    (h : ∀ d, Except.FailsBy (Stop.On n) (handle d)) :
    Except.FailsBy (Stop.On n) (m.withPage handle) := by
  unfold withPage
  split
  · exact .error nofun
  · exact h _

/-- Closing the open page, whatever has become of the open feature. -/
theorem faulty_closePage (hs : m.Shown) :
    Except.FailsBy (fun stop => ∃ d ∈ m.page, d.Faulty stop) m.closePage := by
  unfold closePage
  split
  · exact .ok _
  · next d hd =>
    split
    · next stop hc => exact .error ⟨d, hd, faulty_close (hs.page d hd) stop hc⟩
    · exact .ok _

/-- A step fails by a fault of the line, or it would have opened a page and the page before has none
that is valid. -/
theorem faulty_step (h : m.Consistent) (hs : m.Shown) (line : Line) :
    Except.FailsBy (fun stop => stop.On line.number ∨
      (∃ name, PageLine name line.text) ∧ ∃ d ∈ m.page, d.Faulty stop) (m.step line) := by
  have own {x : Except Stop Machine} (hx : x.FailsBy (Stop.On line.number)) :
      x.FailsBy fun stop => stop.On line.number ∨
        (∃ name, PageLine name line.text) ∧ ∃ d ∈ m.page, d.Faulty stop :=
    fun stop hstop => .inl (hx stop hstop)
  unfold step
  split
  · exact own (m.on_openHost _ _)
  · exact own (m.on_openFeatures _)
  · next name opens =>
    unfold openPage
    split
    · exact .error (.inl (.fault rfl))
    split
    · exact .error (.inl (.fault rfl))
    · next named =>
      obtain ⟨-, rfl⟩ | ⟨c, rest, hl, hc, rfl⟩ := opening?_eq_some_page.mp opens
      · exact absurd rfl named
      rw [h.closeFeature]
      refine Except.FailsBy.bind (x := m.flush.closePage)
        (fun stop hstop => .inr ⟨⟨_, c, rest, hl, hc, rfl⟩, ?_⟩) fun _ => .pure
      exact faulty_closePage (m := m.flush) ⟨hs.host, hs.page⟩ stop hstop
  · split
    · exact .error (.inl (.fault rfl))
    · exact own (m.on_inFeatures line)
    · exact own (on_withPage (m.on_inPage line))
    · exact own (on_withPage (m.on_inExpected line))
    · exact own (on_withPage (m.on_inAction line))
    · exact own (on_withPage (m.on_inFields line))

/-- The end of the text fails by the last page or by the host. -/
theorem faulty_finish (h : m.Consistent) (hs : m.Shown) (hf : m.finish = .error stop) :
    (m.host = none ∧ stop = .fault .noHost none) ∨ ∃ d ∈ m.page, d.Faulty stop := by
  have only : m.finish.FailsBy fun stop => (m.host = none ∧ stop = .fault .noHost none) ∨
      (∃ d ∈ m.page, d.Faulty stop) ∨ ∃ misuse, stop = .refused misuse := by
    unfold finish
    rw [h.closeFeature]
    refine Except.FailsBy.bind_of_ok (x := m.flush.closePage) (fun stop hstop => .inr (.inl ?_))
      fun m' hm => ?_
    · exact faulty_closePage (m := m.flush) ⟨hs.host, hs.page⟩ stop hstop
    · split
      · next none => exact .error (.inl ⟨(kept_of_closePage hm).1.symm.trans none, rfl⟩)
      · split
        · exact .error (.inr (.inr ⟨_, rfl⟩))
        · exact .ok _
  obtain none | page | ⟨misuse, rfl⟩ := only stop hf
  · exact .inl none
  · exact .inr page
  · obtain ⟨_, _, refused⟩ := clean_finish h hs _ hf
    cases refused

/-! ## The host -/

/-- A line that is read leaves the host as it is unless it declares it. -/
theorem host_of_move (h : m.Consistent) (hm : m.Moves line m') :
    (∃ value, HostLine value line.text ∧ m'.host = some value) ∨ m'.host = m.host := by
  cases hm with
  | host head => exact .inl ⟨_, head, rfl⟩
  | features head early closed | header mode head fresh other closed =>
    rw [h.closeFeature] at closed
    cases closed
    exact .inr rfl
  | page head shown host closed done =>
    rw [h.closeFeature] at closed
    cases closed
    exact .inr (kept_of_closePage done).1
  | setting | expected | action | item | fields | property | field => exact .inr rfl

theorem host_of_step {value : String} (head : HostLine value line.text)
    (h : m.step line = .ok m') : m'.host ≠ none := by
  obtain ⟨rest, hl, rfl⟩ := head
  rw [step, opening?_eq_some_host.mpr ⟨rest, hl, rfl⟩] at h
  obtain ⟨-, -, -, m₁, -, rfl⟩ := openHost_eq_ok.mp h
  intro none
  cases none

/-- There is no host as long as no line has declared one. -/
theorem host_eq_none_of_run (h : m.Consistent) (hs : m.Shown) (ht : ∀ l ∈ lines, Tight l.text)
    (hr : m.run lines = .ok m') :
    m'.host = none ↔ m.host = none ∧ ∀ l ∈ lines, ∀ value, ¬HostLine value l.text := by
  induction lines generalizing m with
  | nil =>
    cases hr
    simp
  | cons line lines ih =>
    rw [run] at hr
    split at hr
    · cases hr
    · next m₁ hstep =>
      have hm := moves_of_step (ht line List.mem_cons_self) hstep
      rw [ih (h.move hm) (hs.move h hm) (fun l hl => ht l (List.mem_cons_of_mem _ hl)) hr,
        List.forall_mem_cons, ← and_assoc]
      refine and_congr_left' ⟨fun absent => ?_, fun before => ?_⟩
      · have undeclared : ∀ value, ¬HostLine value line.text :=
          fun value head => host_of_step head hstep absent
        obtain ⟨value, head, -⟩ | same := host_of_move h hm
        · exact absurd head (undeclared value)
        · exact ⟨same.symm.trans absent, undeclared⟩
      · obtain ⟨absent, other⟩ := before
        obtain ⟨value, head, -⟩ | same := host_of_move h hm
        · exact absurd head (other value)
        · exact same.trans absent

end Machine

/-! ## Where the open page stands -/

/-- The last page that the lines open has this name and this heading, and the lines of the block stand
under it. -/
structure LastPage (read : List Line) (name : String) (heading : Line) (block : List Line) : Prop where
  split : ∃ before, read = before ++ heading :: block
  head : PageLine name heading.text
  last : ∀ l ∈ block, ∀ name, ¬PageLine name l.text

theorem LastPage.more {read block : List Line} {name : String} {heading line : Line}
    (h : LastPage read name heading block) (other : ∀ name, ¬PageLine name line.text) :
    LastPage (read ++ [line]) name heading (block ++ [line]) where
  split := by
    obtain ⟨before, rfl⟩ := h.split
    exact ⟨before, by simp⟩
  head := h.head
  last l hl := by
    obtain hl | hl := List.mem_append.mp hl
    · exact h.last l hl
    · rw [List.mem_singleton.mp hl]
      exact other

/-- The page is the last one that the lines open. Its `action:` has come if the page says on which line,
and it has come once. -/
def PageDraft.StandsIn (d : PageDraft) (read : List Line) : Prop :=
  ∃ heading block, LastPage read d.name heading block ∧ heading.number = d.line ∧
    (block.filter (·.text = Script.actionLine)).map Line.number = d.actionLine.toList

theorem PageDraft.StandsIn.more {d d' : PageDraft} {read : List Line} {line : Line}
    (h : d.StandsIn read) (name : d'.name = d.name) (number : d'.line = d.line)
    (other : ∀ name, ¬PageLine name line.text)
    (action : (if line.text = Script.actionLine then d.actionLine.toList ++ [line.number]
      else d.actionLine.toList) = d'.actionLine.toList) : d'.StandsIn (read ++ [line]) := by
  obtain ⟨heading, block, page, hn, begun⟩ := h
  refine ⟨heading, block ++ [line], name ▸ page.more other, hn.trans number.symm, ?_⟩
  rw [List.filter_append, List.map_append, begun, ← action]
  split <;> simp_all

namespace Machine

variable {m m' : Machine} {line : Line} {lines front read : List Line} {stop : Stop} {n : Nat}

/-- The open page, if there is one, stands among the lines that were read. -/
def Located (m : Machine) (read : List Line) : Prop := ∀ d ∈ m.page, d.StandsIn read

theorem Located.start : ({} : Machine).Located [] := by
  rintro _ ⟨⟩

theorem Located.move (hl : m.Located read) (h : m.Consistent) (hm : m.Moves line m') :
    m'.Located (read ++ [line]) := by
  -- In the prologue there is no page to speak of.
  have absent {m' : Machine} (none : m.page = none) (same : m'.page = m.page) :
      m'.Located (read ++ [line]) := by
    intro d hd
    rw [same, none] at hd
    cases hd
  have prologue (hm : m.mode = .features) : m.page = none := by
    by_contra hp
    have := h.page.mpr hp
    rw [hm] at this
    cases this
  have unopened {l : List Char} (free : Free l) (name : String) : ¬PageLine name l :=
    fun head => free.1 (.inr (.inr (.inr ⟨name, head⟩)))
  cases hm with
  | host head shown early first closed | features head early closed =>
    rw [h.closeFeature] at closed
    cases closed
    exact absent (h.page_eq_none early) rfl
  | header mode head fresh other closed =>
    rw [h.closeFeature] at closed
    cases closed
    exact absent (prologue mode) rfl
  | setting mode => exact absent (prologue mode) rfl
  | page head shown host closed done =>
    rintro _ ⟨⟩
    exact ⟨line, [], ⟨⟨read, rfl⟩, head, nofun⟩, rfl, rfl⟩
  | expected mode draft head =>
    intro d hd
    refine (hl d hd).more rfl rfl (unopened (free_of_head (c := 'e') head (by decide))) ?_
    rw [if_neg (by rw [head]; decide)]
  | fields mode draft head =>
    intro d hd
    refine (hl d hd).more rfl rfl (unopened (free_of_head (c := 'f') head (by decide))) ?_
    rw [if_neg (by rw [head]; decide)]
  | action mode draft head first =>
    rintro _ ⟨⟩
    refine (hl _ draft).more rfl rfl (unopened (free_of_head (c := 'a') head (by decide))) ?_
    rw [if_pos head, first]
    rfl
  | item mode draft head | field mode draft head =>
    obtain ⟨rest, _, _, hr, -⟩ := itemLine_iff.mp head
    rintro _ ⟨⟩
    refine (hl _ draft).more rfl rfl
      (fun name page => not_keyword_of_item hr (.inr (.inr (.inr ⟨name, page⟩)))) ?_
    rw [if_neg (by rw [itemRest?_eq_some_iff.mp hr]; nofun)]
  | property mode draft head fresh =>
    rintro _ ⟨⟩
    refine (hl _ draft).more rfl rfl (unopened head.free) (if_neg fun action => ?_)
    obtain ⟨_, _, hp, hn, -⟩ := propertyLine_iff.mp head
    rw [action] at hp
    cases hp
    cases hn

theorem Located.run (hl : m.Located read) (h : m.Consistent) (hs : m.Shown)
    (ht : ∀ l ∈ lines, Tight l.text) (hr : m.run lines = .ok m') : m'.Located (read ++ lines) := by
  induction lines generalizing m read with
  | nil =>
    cases hr
    rwa [List.append_nil]
  | cons line lines ih =>
    rw [Machine.run] at hr
    split at hr
    · cases hr
    · next m₁ hstep =>
      have hm := moves_of_step (ht line List.mem_cons_self) hstep
      have := ih (hl.move h hm) (h.move hm) (hs.move h hm)
        (fun l hl => ht l (List.mem_cons_of_mem _ hl)) hr
      rwa [List.append_assoc] at this

end Machine

/-! ## Where reading stops -/

variable {text : List Char} {lines read : List Line} {last : Option Line} {stop : Stop}
  {cause : LineFault} {place : Option Nat} {n i : Nat}

/-- Reading stops after the lines `read`: at the next line, or because there is none. -/
inductive Stops (lines read : List Line) (stop : Stop) : Option Line → Prop
  | line {line back m} (split : lines = read ++ line :: back)
      (run : ({} : Machine).run read = .ok m) (fails : m.step line = .error stop) :
      Stops lines read stop (some line)
  | finish {m} (all : lines = read) (run : ({} : Machine).run read = .ok m)
      (fails : m.finish = .error stop) : Stops lines read stop none

/-- The line that a fault names. It is the one at which reading stopped, unless this closes a page whose
action is missing or not valid: then it is the heading of the page, or its `action:`. -/
inductive Blames (read : List Line) (last : Option Line) : LineFault → Nat → Prop
  | last {line cause} (stopped : last = some line) (own : cause.ofPage = false) :
      Blames read last cause line.number
  | heading {name heading block} (page : LastPage read name heading block)
      (closed : ∀ line ∈ last, ∃ name, PageLine name line.text)
      (absent : ∀ l ∈ block, l.text ≠ actionLine) : Blames read last (.noAction name) heading.number
  | action {name heading block line fault} (page : LastPage read name heading block)
      (closed : ∀ line ∈ last, ∃ name, PageLine name line.text)
      (only : block.filter (·.text = actionLine) = [line]) : Blames read last (.action fault) line.number

/-- The line was read, or reading stopped at it. -/
theorem Blames.exists_line (h : Blames read last cause n) : ∃ l ∈ read ++ last.toList, l.number = n := by
  cases h with
  | last stopped own => exact ⟨_, by rw [stopped]; simp, rfl⟩
  | heading page closed absent =>
    obtain ⟨before, rfl⟩ := page.split
    exact ⟨_, by simp, rfl⟩
  | @action name heading block line fault page closed only =>
    obtain ⟨before, rfl⟩ := page.split
    have : line ∈ block := List.mem_of_mem_filter (only ▸ List.mem_singleton_self line)
    exact ⟨line, by simp [this], rfl⟩

theorem PageDraft.Faulty.blames {d : PageDraft} (h : d.Faulty (.fault cause place))
    (hd : d.StandsIn read) (closed : ∀ line ∈ last, ∃ name, PageLine name line.text) :
    ∃ n, place = some n ∧ Blames read last cause n := by
  obtain ⟨heading, block, page, number, begun⟩ := hd
  cases h with
  | noAction absent =>
    rw [absent] at begun
    rw [← number]
    refine ⟨_, rfl, .heading page closed fun l hl action => ?_⟩
    have : l.number ∈ (block.filter (·.text = Script.actionLine)).map Line.number :=
      List.mem_map_of_mem (List.mem_filter.mpr ⟨hl, decide_eq_true action⟩)
    rw [begun] at this
    cases this
  | action begins invalid =>
    rw [begins] at begun
    obtain ⟨line, only, rfl⟩ := List.map_eq_singleton_iff.mp begun
    exact ⟨_, rfl, .action page closed only⟩

theorem Machine.exists_of_run_eq_error {m : Machine} (h : m.run lines = .error stop) :
    ∃ front line back m', lines = front ++ line :: back ∧ m.run front = .ok m' ∧
      m'.step line = .error stop := by
  induction lines generalizing m with
  | nil => cases h
  | cons line lines ih =>
    rw [run] at h
    split at h
    · next hstep =>
      cases h
      exact ⟨[], line, lines, m, rfl, rfl, hstep⟩
    · next m₁ hstep =>
      obtain ⟨front, last, back, m', rfl, hrun, hlast⟩ := ih h
      refine ⟨line :: front, last, back, m', rfl, ?_, hlast⟩
      rw [run, hstep]
      exact hrun

theorem exists_stops (h : parse text = .error stop) :
    ∃ read last, Stops (significantLines text) read stop last := by
  rw [parse] at h
  cases hr : ({} : Machine).run (significantLines text) with
  | error stop' =>
    rw [hr] at h
    cases h
    obtain ⟨front, line, back, m, split, run, fails⟩ := Machine.exists_of_run_eq_error hr
    exact ⟨front, some line, .line split run fails⟩
  | ok m =>
    rw [hr] at h
    exact ⟨_, none, .finish rfl hr h⟩

namespace Stops

theorem starts (h : Stops lines read stop last) : read ++ last.toList <+: lines := by
  cases h with
  | line split => exact ⟨_, by rw [split]; simp; rfl⟩
  | finish all => simp [all]

/-- A fault has a line, which it blames, or there was no host although every line was read. -/
theorem blames (h : Stops lines read (.fault cause place) last) (ht : ∀ l ∈ lines, Tight l.text) :
    (∃ n, place = some n ∧ Blames read last cause n) ∨
      place = none ∧ last = none ∧ ∀ l ∈ lines, ∀ value, ¬HostLine value l.text := by
  have located {m : Machine} (hr : ({} : Machine).run read = .ok m) :
      (m.Consistent ∧ m.Shown) ∧ m.Located read :=
    have ht : ∀ l ∈ read, Tight l.text := fun l hl => ht l (h.starts.subset (by simp [hl]))
    ⟨Machine.Consistent.start.run .start ht hr, Machine.Located.start.run .start .start ht hr⟩
  cases h with
  | line split run fails =>
    obtain ⟨⟨consistent, shown⟩, stands⟩ := located run
    refine .inl ?_
    obtain on | ⟨page, d, hd, faulty⟩ := Machine.faulty_step consistent shown _ _ fails
    · obtain ⟨rfl, own⟩ := on cause place rfl
      exact ⟨_, rfl, .last rfl own⟩
    · refine faulty.blames (stands d hd) ?_
      rintro _ ⟨⟩
      exact page
  | finish all run fails =>
    obtain ⟨⟨consistent, shown⟩, stands⟩ := located run
    obtain ⟨absent, noHost⟩ | ⟨d, hd, faulty⟩ := Machine.faulty_finish consistent shown fails
    · cases noHost
      subst all
      exact .inr ⟨rfl, rfl, ((Machine.host_eq_none_of_run .start .start ht run).mp absent).2⟩
    · exact .inl (faulty.blames (stands d hd) nofun)

/-- A fault has no line if and only if every line was read and none declares the host. -/
theorem place_eq_none_iff (h : Stops lines read (.fault cause place) last)
    (ht : ∀ l ∈ lines, Tight l.text) :
    place = none ↔ (∀ l ∈ lines, ∀ value, ¬HostLine value l.text) ∧
      ∃ m, ({} : Machine).run lines = .ok m := by
  constructor
  · rintro rfl
    obtain ⟨_, ⟨⟩, -⟩ | ⟨-, rfl, absent⟩ := h.blames ht
    cases h with
    | finish all run => exact ⟨absent, _, all ▸ run⟩
  · rintro ⟨absent, m, hm⟩
    cases h with
    | line split run fails =>
      rw [split, Machine.run_append run, Machine.run, fails] at hm
      cases hm
    | finish all run fails =>
      subst all
      obtain ⟨consistent, shown⟩ := Machine.Consistent.start.run .start ht run
      have host := (Machine.host_eq_none_of_run .start .start ht run).mpr ⟨rfl, absent⟩
      obtain ⟨-, noHost⟩ | ⟨d, hd, -⟩ := Machine.faulty_finish consistent shown fails
      · cases noHost
        rfl
      · refine absurd host (consistent.host fun none => ?_)
        rw [none] at hd
        cases hd

/-- Lines that begin with those that were looked at stop reading in the same way. -/
theorem of_starts {line : Line} {lines' : List Line} (h : Stops lines read stop (some line))
    (starts : read ++ [line] <+: lines') : ({} : Machine).run lines' = .error stop := by
  obtain ⟨back, rfl⟩ := starts
  cases h with
  | line split run fails =>
    rw [List.append_assoc, Machine.run_append run, List.singleton_append, Machine.run, fails]

end Stops

/-! ## Lines of the text -/

theorem linesFrom_append (n : Nat) (front back : List (List Char)) :
    linesFrom n (front ++ back) = linesFrom n front ++ linesFrom (n + front.length) back := by
  induction front generalizing n with
  | nil => rfl
  | cons raw front ih =>
    have later : n + (raw :: front).length = n + 1 + front.length := by
      rw [List.length_cons]
      omega
    rw [List.cons_append, linesFrom, linesFrom, ih, later]
    split <;> rfl

theorem exists_countsAt {l : Line} (h : l ∈ significantLines text) :
    ∃ i, CountsAt text i l.number := by
  obtain ⟨i, hi⟩ := List.mem_iff_getElem?.mp h
  obtain ⟨front, raw, back, hlines, hn, hc, hi⟩ := exists_of_linesFrom hi
  exact ⟨i, front, raw, back, hlines, by omega, hc, hi⟩

theorem CountsAt.bounds (h : CountsAt text i n) : 1 ≤ n ∧ n ≤ (Text.lines text).length := by
  obtain ⟨front, raw, back, hlines, rfl, -⟩ := h
  rw [hlines, List.length_append, List.length_cons]
  omega

/-- A text that has the lines of another one up to line `l` has the same lines that count up to it. -/
theorem starts_of_take {text' : List Char} {front back : List Line} {l : Line}
    (h : significantLines text = front ++ l :: back)
    (same : (Text.lines text).take l.number <+: Text.lines text') :
    front ++ [l] <+: significantLines text' := by
  obtain ⟨above, raw, below, lines_eq, number, counts, before⟩ :=
    exists_of_linesFrom (n := 1) (i := front.length) (l := l)
      (by rw [← significantLines, h, List.getElem?_append_right le_rfl]; simp)
  have looked_at : linesFrom 1 (above ++ [raw]) = front ++ [l] := by
    have whole : linesFrom 1 (above ++ [raw]) ++ linesFrom (1 + (above ++ [raw]).length) below =
        front ++ [l] ++ back := by
      rw [← linesFrom_append, List.append_assoc, List.singleton_append, ← lines_eq,
        ← significantLines, h, List.append_assoc, List.singleton_append]
    refine List.append_inj_left whole ?_
    rw [← List.length_map, text_linesFrom, counted_append, List.length_append, before]
    simp [counted, counts]
  have upTo : (Text.lines text).take l.number = above ++ [raw] := by
    rw [lines_eq, number, List.append_cons, List.take_left' (by simp; omega)]
  obtain ⟨rest, hrest⟩ := same
  rw [upTo] at hrest
  rw [significantLines, ← hrest, linesFrom_append, looked_at]
  exact List.prefix_append _ _

end Script

namespace Scenario

open Script

/-- A script is refused for a fault of one of its lines that count, which is on the line at which reading
stopped or on the heading or the `action:` of the page that is closed there; only a text whose lines are
all legal and declare no host is refused without a line. A text with the same lines up to the one at
which reading stopped is refused likewise, whatever follows them. -/
theorem ofText_stops [StackRoom] {text : String} {source : Option String} {fault : Fault}
    (h : ofText .script text source = .error fault) :
    ∃ cause place read last,
      fault = .format cause.message
        { line := place.map Int.ofNat, source := some (sourceName .script source) } ∧
      Stops (significantLines text.toList) read (.fault cause place) last ∧
      (place = none ↔ (∀ l ∈ significantLines text.toList, ∀ value, ¬HostLine value l.text) ∧
        ∃ m, ({} : Machine).run (significantLines text.toList) = .ok m) ∧
      (∀ n ∈ place, 1 ≤ n ∧ n ≤ (lines text.toList).length ∧ (∃ i, CountsAt text.toList i n) ∧
        Blames read last cause n) ∧
      ∀ line ∈ last, ∀ (text' : String) (source' : Option String),
        (lines text.toList).take line.number <+: lines text'.toList →
          ofText .script text' source' = .error (.format cause.message
            { line := place.map Int.ofNat, source := some (sourceName .script source') }) := by
  cases hp : parse text.toList with
  | ok scenario =>
    rw [ofText, hp] at h
    cases h
  | error stop =>
    obtain ⟨cause, place, rfl⟩ := clean_parse _ _ hp
    rw [ofText, hp] at h
    cases h
    obtain ⟨read, last, stops⟩ := exists_stops hp
    have ht : ∀ l ∈ significantLines text.toList, Tight l.text :=
      fun l => tight_of_mem_significantLines
    refine ⟨cause, place, read, last, rfl, stops, stops.place_eq_none_iff ht, ?_, ?_⟩
    · rintro n rfl
      obtain ⟨_, ⟨⟩, blames⟩ | ⟨⟨⟩, -⟩ := stops.blames ht
      obtain ⟨l, hl, rfl⟩ := blames.exists_line
      obtain ⟨i, hi⟩ := exists_countsAt (stops.starts.subset hl)
      exact ⟨hi.bounds.1, hi.bounds.2, ⟨i, hi⟩, blames⟩
    · rintro line rfl text' source' same
      have starts : read ++ [line] <+: significantLines text'.toList := by
        cases stops with
        | line split => exact starts_of_take split same
      have hrun := stops.of_starts starts
      rw [ofText, parse, hrun]
      rfl

/-- The heading of a second page closes the first page, whose action, begun on line 4, has no target. -/
theorem ofText_stops_missingTarget :
    let text := "Host: h\nPage p\n// clicks\naction:\ntype: Click\n\nPage q\naction:"
    ∃ cause read last, cause.message = "Click action requires 'target'" ∧
      Stops (significantLines text.toList) read (.fault cause (some 4)) last ∧
      Blames read last cause 4 := by
  intro text
  have parsed : parse text.toList =
      .error (.fault (.action (.missing .click "target")) (some 4)) := by decide +kernel
  have refused : ofText .script text none = .error (.format "Click action requires 'target'"
      { line := some 4, source := some "<dsl>" }) := by
    rw [ofText, parsed]
    rfl
  obtain ⟨cause, place, read, last, fault, stops, -, blames, -⟩ := ofText_stops refused
  injection fault with message position
  injection position with line
  obtain ⟨n, rfl, number⟩ := Option.map_eq_some_iff.mp line.symm
  obtain rfl : n = 4 := Int.ofNat.inj number
  exact ⟨cause, read, last, message.symm, stops, (blames 4 rfl).2.2.2⟩

end Scenario

end Walkthrough
