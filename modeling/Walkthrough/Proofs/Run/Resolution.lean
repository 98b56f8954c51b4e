import Walkthrough.Proofs.Run.Enquiries

/-! How a field is resolved on a page in memory. `Lookup.Goes` says what one look-up asks the page and how it
ends, and `Resolved` how a list of look-ups does: the first that does not miss decides, and no look-up after
it asks anything. `resolve_apply` ties the resolver to it: the queries are those of the look-ups that were
made, nothing else changes but the log, and a page that gives the same answers is resolved alike. -/

namespace Walkthrough

/-- What a page answers to a query. -/
def MemoryPage.answer (p : MemoryPage) (l : Locator) : Except Fault (Option String) := (p.locate l).1

/-- What an element of a page is the label for. -/
def MemoryPage.labelled (p : MemoryPage) (e : String) : Except Fault (Option String) :=
  (p.readAttribute e "for").1

theorem MemoryPage.answer_withQueries (p : MemoryPage) (ls : List Locator) (l : Locator) :
    (p.withQueries ls).answer l = p.answer l := by
  simp only [answer, locate, withQueries]
  split <;> rfl

theorem MemoryPage.labelled_withQueries (p : MemoryPage) (ls : List Locator) (e : String) :
    (p.withQueries ls).labelled e = p.labelled e := by
  simp only [labelled, readAttribute, element, withQueries]
  split <;> rfl

/-- The other page gives the same answers to the queries, and the label that the first of them may find is
for the same. -/
structure MemoryPage.Answers (p q : MemoryPage) (field : String) (asked : List Locator) : Prop where
  queries : ∀ l ∈ asked, q.answer l = p.answer l
  labels : ∀ e, p.answer (.byLabel field true) = .ok (some e) → q.labelled e = p.labelled e

theorem MemoryPage.Answers.withQueries (p : MemoryPage) (ls : List Locator) (field : String)
    (asked : List Locator) : p.Answers (p.withQueries ls) field asked :=
  ⟨fun _ _ => p.answer_withQueries ls _, fun _ _ => p.labelled_withQueries ls _⟩

namespace Lookup

/-- The one query of a look-up that does not follow a label. -/
def query? (field : String) : Lookup → Option Locator
  | .labelFor => none
  | .placeholderNameId =>
    -- names and ids are told apart by neither case nor spaces, placeholders by both
    let key := String.ofList ((Text.lower field).toList.filter (· ≠ ' '))
    some (.anyOf [.byAttribute "placeholder" field ["input", "textarea"] false,
      .byAttribute "name" key ["input", "textarea"] true,
      .byAttribute "id" key ["input", "textarea"] true])
  | .adjacentLabel => some (.afterLabel field ["input", "textarea"])
  | .title => some (.byAttribute "title" field [] false)
  | .ariaLabel => some (.byAttribute "aria-label" field [] false)

/-- The queries of a look-up and its end. A label is followed if its `for` is read and is not empty. -/
inductive Goes (p : MemoryPage) (field : String) :
    Lookup → List Locator → Except Fault (Option String) → Prop
  | labelFails {fault} (label : p.answer (.byLabel field true) = .error fault) :
      Goes p field .labelFor [.byLabel field true] (.error fault)
  | noLabel (label : p.answer (.byLabel field true) = .ok none) :
      Goes p field .labelFor [.byLabel field true] (.ok none)
  | forFails {e fault} (label : p.answer (.byLabel field true) = .ok (some e))
      (meant : p.labelled e = .error fault) : Goes p field .labelFor [.byLabel field true] (.error fault)
  | forNothing {e id} (label : p.answer (.byLabel field true) = .ok (some e))
      (meant : p.labelled e = .ok id) (nothing : id = none ∨ id = some "") :
      Goes p field .labelFor [.byLabel field true] (.ok none)
  | follows {e id} (label : p.answer (.byLabel field true) = .ok (some e))
      (meant : p.labelled e = .ok (some id)) (something : id ≠ "") :
      Goes p field .labelFor [.byLabel field true, .byId id] (p.answer (.byId id))
  | asks {l k} (query : l.query? field = some k) : Goes p field l [k] (p.answer k)

/-- What the end of a look-up is to the field. Faults of the program's own are passed on, others are the
cause of a failed interaction; a look-up that ends with no element decides nothing. -/
inductive Decides (field : String) (l : Lookup) : Except Fault (Option String) → Except Fault String → Prop
  | found (e) : Decides field l (.ok (some e)) (.ok e)
  | own {fault : Fault} (h : fault.isOwn = true) : Decides field l (.error fault) (.error fault)
  | foreign (f : Foreign) : Decides field l (.error (.foreign f))
      (.error (.interaction (l.name ++ " lookup for field '" ++ field ++ "' failed: " ++ f.message) (some f)))

/-- The look-ups end with no element, and these are all their queries. -/
inductive Missed (p : MemoryPage) (field : String) : List Lookup → List Locator → Prop
  | nil : Missed p field [] []
  | cons {l ls asked more} (head : l.Goes p field asked (.ok none)) (tail : Missed p field ls more) :
      Missed p field (l :: ls) (asked ++ more)

/-- The queries of look-ups that are tried in order, and what comes of it. -/
inductive Resolved (p : MemoryPage) (field : String) (ls : List Lookup) :
    List Locator → Except Fault String → Prop
  | decided {before l after earlier asked ends outcome} (split : ls = before ++ l :: after)
      (missed : Missed p field before earlier) (goes : l.Goes p field asked ends)
      (decides : l.Decides field ends outcome) : Resolved p field ls (earlier ++ asked) outcome
  | missed {asked} (all : Missed p field ls asked) :
      Resolved p field ls asked (.error (.fieldNotFound field))

variable {p q : MemoryPage} {field n : String} {l : Lookup} {ls before : List Lookup}
  {asked earlier : List Locator} {ends : Except Fault (Option String)} {outcome : Except Fault String}
  {s : Scene MemoryPage}

/-! ## One look-up -/

theorem locate_apply (n : String) (k : Locator) (s : Scene MemoryPage) :
    (memoryBrowser n).locate k s = (s.page.answer k, s.after [k] []) := by
  have page : (s.page.locate k).2 = s.page.withQueries [k] := by
    unfold MemoryPage.locate
    dsimp only
    split <;> rfl
  show ((s.page.locate k).1, { s with page := (s.page.locate k).2 }) = _
  rw [page, Scene.after, List.append_nil]
  rfl

theorem readAttribute_apply (n e : String) (s : Scene MemoryPage) :
    (memoryBrowser n).readAttribute e "for" s = (s.page.labelled e, s) := by
  have page : (s.page.readAttribute e "for").2 = s.page := by
    unfold MemoryPage.readAttribute
    dsimp only
    split <;> rfl
  show ((s.page.readAttribute e "for").1, { s with page := (s.page.readAttribute e "for").2 }) = _
  rw [page]
  rfl

theorem exists_goes (p : MemoryPage) (field : String) (l : Lookup) :
    ∃ asked ends, l.Goes p field asked ends := by
  cases l with
  | labelFor =>
    cases label : p.answer (.byLabel field true) with
    | error fault => exact ⟨_, _, .labelFails label⟩
    | ok found =>
      cases found with
      | none => exact ⟨_, _, .noLabel label⟩
      | some e =>
        cases meant : p.labelled e with
        | error fault => exact ⟨_, _, .forFails label meant⟩
        | ok id =>
          by_cases nothing : id = none ∨ id = some ""
          · exact ⟨_, _, .forNothing label meant nothing⟩
          · rw [not_or] at nothing
            obtain ⟨id, rfl⟩ := Option.ne_none_iff_exists'.mp nothing.1
            exact ⟨_, _, .follows label meant fun empty => nothing.2 (congrArg some empty)⟩
  | _ => exact ⟨_, _, .asks rfl⟩

theorem Goes.run_apply (h : l.Goes s.page field asked ends) :
    l.run (memoryBrowser n) field s = (ends, s.after asked []) := by
  have labelled (e : String) : (s.after [.byLabel field true] []).page.labelled e = s.page.labelled e :=
    s.page.labelled_withQueries _ e
  cases h with
  | labelFails label => rw [run, Act.bind_apply, locate_apply, label]
  | noLabel label =>
    rw [run, Act.bind_apply, locate_apply, label]
    rfl
  | forFails label meant =>
    rw [run, Act.bind_apply, locate_apply, label]
    dsimp only
    rw [Act.bind_apply, readAttribute_apply, labelled, meant]
  | forNothing label meant nothing =>
    rw [run, Act.bind_apply, locate_apply, label]
    dsimp only
    rw [Act.bind_apply, readAttribute_apply, labelled, meant]
    obtain rfl | rfl := nothing <;> rfl
  | @follows e id label meant something =>
    rw [run, Act.bind_apply, locate_apply, label]
    dsimp only
    rw [Act.bind_apply, readAttribute_apply, labelled, meant]
    dsimp only
    generalize found : some id = id'
    split
    · cases found
    · cases found
      exact absurd rfl something
    · cases found
      rw [locate_apply, Scene.after_append, Scene.after, MemoryPage.answer_withQueries]
      rfl
  | asks query =>
    cases l with
    | labelFor => cases query
    | _ =>
      cases query
      exact locate_apply _ _ _

/-- A look-up goes in one way only. -/
theorem Goes.unique {asked' : List Locator} {ends' : Except Fault (Option String)}
    (h : l.Goes p field asked ends) (h' : l.Goes p field asked' ends') : ends = ends' := by
  have same := (h.run_apply (s := { page := p }) (n := "")).symm.trans h'.run_apply
  exact congrArg Prod.fst same

/-- It goes the same on a page that gives the same answers. -/
theorem Goes.answers (h : l.Goes p field asked ends) (same : p.Answers q field asked) :
    l.Goes q field asked ends := by
  have first {k : Locator} {more : List Locator} (same : p.Answers q field (k :: more)) :
      q.answer k = p.answer k := same.queries k List.mem_cons_self
  cases h with
  | labelFails label => exact .labelFails ((first same).trans label)
  | noLabel label => exact .noLabel ((first same).trans label)
  | forFails label meant =>
    exact .forFails ((first same).trans label) ((same.labels _ label).trans meant)
  | forNothing label meant nothing =>
    exact .forNothing ((first same).trans label) ((same.labels _ label).trans meant) nothing
  | @follows e id label meant something =>
    have followed : q.answer (.byId id) = p.answer (.byId id) := same.queries _ (by simp)
    rw [← followed]
    exact .follows ((first same).trans label) ((same.labels _ label).trans meant) something
  | asks query =>
    rw [← first same]
    exact .asks query

/-- The look-up that asks a query. -/
def ofLocator : Locator → Lookup
  | .byLabel .. | .byId _ => .labelFor
  | .afterLabel .. => .adjacentLabel
  | .byAttribute name .. => if name = "title" then .title else .ariaLabel
  | _ => .placeholderNameId

theorem Goes.ofLocator (h : l.Goes p field asked ends) : ∀ k ∈ asked, ofLocator k = l := by
  cases h with
  | asks query =>
    intro k hk
    rw [List.mem_singleton.mp hk]
    cases l with
    | labelFor => cases query
    | _ =>
      cases query
      rfl
  | follows =>
    intro k hk
    rcases List.mem_pair.mp hk with rfl | rfl <;> rfl
  | _ =>
    intro k hk
    rw [List.mem_singleton.mp hk]
    rfl

theorem Goes.nodup (h : l.Goes p field asked ends) : asked.Nodup := by
  cases h with
  | follows => simp
  | _ => exact List.nodup_singleton _

/-! ## Look-ups in order -/

theorem Missed.ofLocator (h : Missed p field ls asked) : ∀ k ∈ asked, ofLocator k ∈ ls := by
  induction h with
  | nil => exact nofun
  | cons head tail ih =>
    refine List.forall_mem_append.mpr ⟨fun k hk => ?_, fun k hk => List.mem_cons_of_mem _ (ih k hk)⟩
    rw [head.ofLocator k hk]
    exact List.mem_cons_self

theorem Missed.goes (h : Missed p field ls asked) (hl : l ∈ ls) :
    ∃ asked, l.Goes p field asked (.ok none) := by
  induction h with
  | nil => cases hl
  | cons head tail ih =>
    obtain rfl | hl := List.mem_cons.mp hl
    · exact ⟨_, head⟩
    · exact ih hl

theorem Missed.nodup (h : Missed p field ls asked) (once : ls.Nodup) : asked.Nodup := by
  induction h with
  | nil => exact .nil
  | cons head tail ih =>
    obtain ⟨fresh, once⟩ := List.nodup_cons.mp once
    refine List.nodup_append'.mpr ⟨head.nodup, ih once, fun k hk hk' => fresh ?_⟩
    rw [← head.ofLocator k hk]
    exact tail.ofLocator k hk'

theorem Missed.answers (h : Missed p field ls asked) (same : p.Answers q field asked) :
    Missed q field ls asked := by
  induction h with
  | nil => exact .nil
  | cons head tail ih =>
    obtain ⟨first, rest⟩ := List.forall_mem_append.mp same.queries
    exact .cons (head.answers ⟨first, same.labels⟩) (ih ⟨rest, same.labels⟩)

/-- Each query is asked once. -/
theorem Resolved.nodup (h : Resolved p field ls asked outcome) (once : ls.Nodup) : asked.Nodup := by
  cases h with
  | missed all => exact all.nodup once
  | decided split missed goes decides =>
    subst split
    obtain ⟨before, after, other⟩ := List.nodup_append'.mp once
    refine List.nodup_append'.mpr ⟨missed.nodup before, goes.nodup, fun k hk hk' => ?_⟩
    refine other (missed.ofLocator k hk) ?_
    rw [goes.ofLocator k hk']
    exact List.mem_cons_self

theorem Resolved.answers (h : Resolved p field ls asked outcome) (same : p.Answers q field asked) :
    Resolved q field ls asked outcome := by
  cases h with
  | missed all => exact .missed (all.answers same)
  | decided split missed goes decides =>
    obtain ⟨first, rest⟩ := List.forall_mem_append.mp same.queries
    exact .decided split (missed.answers ⟨first, same.labels⟩) (goes.answers ⟨rest, same.labels⟩) decides

/-- The field is found missing if and only if all look-ups miss, apart from a look-up that says so. -/
theorem Resolved.fieldNotFound_iff (h : Resolved p field ls asked outcome) :
    (∀ l ∈ ls, ∃ asked, l.Goes p field asked (.ok none)) ↔
      outcome = .error (.fieldNotFound field) ∧
        ∀ l ∈ ls, ∀ asked, ¬l.Goes p field asked (.error (.fieldNotFound field)) := by
  constructor
  · intro all
    refine ⟨?_, fun l hl _ fails => ?_⟩
    · cases h with
      | missed => rfl
      | @decided before l after _ _ ends _ split missed goes decides =>
        obtain ⟨_, misses⟩ := all l (by simp [split])
        cases goes.unique misses
        cases decides
    · obtain ⟨_, misses⟩ := all l hl
      cases fails.unique misses
  · rintro ⟨rfl, none⟩
    cases h with
    | missed all => exact fun l => all.goes
    | @decided before l after _ _ ends _ split missed goes decides =>
      cases decides
      exact absurd goes (none l (by simp [split]) _)

theorem exists_resolved (p : MemoryPage) (field : String) (ls : List Lookup) :
    ∃ asked outcome, Resolved p field ls asked outcome := by
  induction ls with
  | nil => exact ⟨_, _, .missed .nil⟩
  | cons l ls ih =>
    obtain ⟨asked, ends, goes⟩ := exists_goes p field l
    have here {outcome} (decides : l.Decides field ends outcome) :
        Resolved p field (l :: ls) ([] ++ asked) outcome :=
      .decided (List.nil_append (l :: ls)).symm .nil goes decides
    cases ends with
    | error fault =>
      cases fault with
      | foreign f => exact ⟨_, _, here (.foreign f)⟩
      | _ => exact ⟨_, _, here (.own rfl)⟩
    | ok found =>
      cases found with
      | some e => exact ⟨_, _, here (.found e)⟩
      | none =>
        obtain ⟨more, outcome, later⟩ := ih
        refine ⟨asked ++ more, outcome, ?_⟩
        cases later with
        | missed all => exact .missed (.cons goes all)
        | decided split missed goes' decides =>
          rw [← List.append_assoc]
          exact .decided (congrArg (l :: ·) split) (.cons goes missed) goes' decides

end Lookup

namespace Resolver

open Lookup

variable {n : String} {lookups ls before : List Lookup} {field : String} {l : Lookup} {s : Scene MemoryPage}
  {asked earlier : List Locator} {ends : Except Fault (Option String)} {outcome : Except Fault String}

theorem tryLookup_apply (goes : l.Goes s.page field asked ends) :
    (onMemory n lookups).tryLookup field l s = (ends.mapError
      (Fault.wrap fun text => l.name ++ " lookup for field '" ++ field ++ "' failed: " ++ text),
      s.after asked []) := by
  rw [tryLookup, Act.mapFault, goes.run_apply]

/-- The look-up that decides is the last. -/
theorem firstOf_decided (n : String) (lookups : List Lookup) (goes : l.Goes s.page field asked ends)
    (decides : l.Decides field ends outcome) (ls : List Lookup) :
    ∃ said, (onMemory n lookups).firstOf field (l :: ls) s = (outcome, s.after asked said) := by
  cases decides with
  | found e =>
    refine ⟨[⟨.debug, .lookup, "resolved field '" ++ field ++ "' using " ++ l.name ++ " lookup"⟩], ?_⟩
    rw [firstOf, Act.bind_of_ok (tryLookup_apply goes)]
    dsimp only
    rw [Act.bind_apply, Scene.say_apply, Scene.after_append, List.append_nil]
    rfl
  | @own fault own =>
    refine ⟨[], ?_⟩
    rw [firstOf, Act.bind_of_error (tryLookup_apply goes)]
    cases fault with
    | foreign f => cases own
    | _ => rfl
  | foreign f =>
    refine ⟨[], ?_⟩
    rw [firstOf, Act.bind_of_error (tryLookup_apply goes)]
    rfl

/-- Look-ups that miss leave the field to those after them. -/
theorem firstOf_append (n : String) (lookups : List Lookup) (h : Missed s.page field before earlier)
    (ls : List Lookup) :
    ∃ said, (onMemory n lookups).firstOf field (before ++ ls) s =
      (onMemory n lookups).firstOf field ls (s.after earlier said) := by
  induction before generalizing s earlier with
  | nil =>
    cases h
    exact ⟨[], by rw [Scene.after_nil, List.nil_append]⟩
  | cons l before ih =>
    cases h with
    | @cons _ _ asked more head tail =>
      let said : List LogEntry :=
        [⟨.debug, .lookup, "field '" ++ field ++ "' not matched by " ++ l.name ++ " lookup"⟩]
      obtain ⟨further, run⟩ := ih (s := s.after asked said) (tail.answers (.withQueries _ _ _ _))
      refine ⟨said ++ further, ?_⟩
      rw [List.cons_append, firstOf, Act.bind_of_ok (tryLookup_apply head)]
      dsimp only
      rw [Act.bind_apply, Scene.say_apply, Scene.after_append, List.append_nil]
      exact run.trans (by rw [Scene.after_append])

theorem firstOf_missed (n : String) (lookups : List Lookup) (h : Missed s.page field ls asked) :
    ∃ said, (onMemory n lookups).firstOf field ls s =
      (.error (.fieldNotFound field), s.after asked said) := by
  obtain ⟨said, run⟩ := firstOf_append n lookups h []
  rw [List.append_nil] at run
  rw [run, firstOf, Act.bind_apply, Scene.say_apply, Scene.after_append, List.append_nil]
  exact ⟨_, rfl⟩

theorem firstOf_resolved (n : String) (lookups : List Lookup) (h : Resolved s.page field ls asked outcome) :
    ∃ said, (onMemory n lookups).firstOf field ls s = (outcome, s.after asked said) := by
  cases h with
  | missed all => exact firstOf_missed n lookups all
  | @decided before l after earlier asked ends outcome split missed goes decides =>
    subst split
    obtain ⟨said, run⟩ := firstOf_append n lookups missed (l :: after)
    have goes : l.Goes (s.after earlier said).page field asked ends :=
      goes.answers (.withQueries _ _ _ _)
    obtain ⟨further, decided⟩ := firstOf_decided n lookups goes decides after
    rw [run, decided, Scene.after_append]
    exact ⟨_, rfl⟩

/-- A field whose name shows something is resolved by the first of the look-ups that does not miss. Its
element is the outcome or its fault is, and if all miss the field is not found. The page gets the queries
of the look-ups that were made, each once, and the log some messages; nothing else changes. A page that
gives the same answers to these queries is asked the same, with the same outcome. -/
theorem resolve_apply (n : String) (s : Scene MemoryPage) (shown : Text.isBlankText field = false) :
    let lookups : List Lookup := [.labelFor, .placeholderNameId, .adjacentLabel, .title, .ariaLabel]
    let resolver (n : String) : Resolver MemoryPage String := { browser := memoryBrowser n }
    ∃ asked said outcome,
      (resolver n).resolve (some field) s = (outcome, s.after asked said) ∧
      Resolved s.page field lookups asked outcome ∧ asked.Nodup ∧
      ((∀ l ∈ lookups, ∃ asked, l.Goes s.page field asked (.ok none)) ↔
        outcome = .error (.fieldNotFound field) ∧
          ∀ l ∈ lookups, ∀ asked, ¬l.Goes s.page field asked (.error (.fieldNotFound field))) ∧
      ∀ (n' : String) (t : Scene MemoryPage), s.page.Answers t.page field asked →
        ∃ said', (resolver n').resolve (some field) t = (outcome, t.after asked said') := by
  intro lookups resolver
  have first (n : String) (s : Scene MemoryPage) :
      (resolver n).resolve (some field) s = (onMemory n lookups).firstOf field lookups s := by
    rw [resolve, shown]
    rfl
  obtain ⟨asked, outcome, resolved⟩ := exists_resolved s.page field lookups
  obtain ⟨said, run⟩ := firstOf_resolved n lookups resolved
  refine ⟨asked, said, outcome, (first n s).trans run, resolved, resolved.nodup (by decide),
    resolved.fieldNotFound_iff, fun n' t same => ?_⟩
  obtain ⟨said', run'⟩ := firstOf_resolved n' lookups (resolved.answers same)
  exact ⟨said', (first n' t).trans run'⟩

/-- The label is for nothing and no placeholder, name or id is that of the field, but it stands after a
label. That the look-up of titles would fail is of no matter. Where it stands after none and nothing fails,
all five look-ups are made, and the last one finds it. -/
theorem resolve_apply_afterLabel :
    let lookups : List Lookup := [.labelFor, .placeholderNameId, .adjacentLabel, .title, .ariaLabel]
    let label : Locator := .byLabel "My City" true
    let attributes : Locator := .anyOf [.byAttribute "placeholder" "My City" ["input", "textarea"] false,
      .byAttribute "name" "mycity" ["input", "textarea"] true,
      .byAttribute "id" "mycity" ["input", "textarea"] true]
    let after : Locator := .afterLabel "My City" ["input", "textarea"]
    let title : Locator := .byAttribute "title" "My City" [] false
    let aria : Locator := .byAttribute "aria-label" "My City" [] false
    let page : MemoryPage :=
      { elements := [("label", { attributes := [("for", some "")] })]
        places := [(label, "label"), (after, "box"), (aria, "box")]
        lookupFailures := [(title, .general "gone")] }
    let apart : MemoryPage := { page with places := [(label, "label"), (aria, "box")], lookupFailures := [] }
    (Resolved page "My City" lookups [label, attributes, after] (.ok "box") ∧
        [label, attributes, after].Nodup) ∧
      Resolved apart "My City" lookups [label, attributes, after, title, aria] (.ok "box") := by
  intro lookups label attributes after title aria page apart
  have shown : Text.isBlankText "My City" = false := by decide
  constructor
  · obtain ⟨asked, said, outcome, run, resolved, once, -⟩ := resolve_apply "FakeDriver" { page } shown
    obtain rfl : outcome = .ok "box" := (congrArg Prod.fst run).symm.trans rfl
    obtain rfl : [label, attributes, after] = asked := Eq.trans (by rfl) (congrArg (·.2.page.queries) run)
    exact ⟨resolved, once⟩
  · obtain ⟨asked, said, outcome, run, resolved, -⟩ := resolve_apply "FakeDriver" { page := apart } shown
    obtain rfl : outcome = .ok "box" := (congrArg Prod.fst run).symm.trans rfl
    obtain rfl : [label, attributes, after, title, aria] = asked :=
      Eq.trans (by rfl) (congrArg (·.2.page.queries) run)
    exact resolved

end Resolver

end Walkthrough
