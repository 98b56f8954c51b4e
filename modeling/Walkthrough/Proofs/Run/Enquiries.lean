import Walkthrough.Proofs.Basic
import Walkthrough.Proofs.Browser.Calls
import Walkthrough.Run.Perform

/-! Steps that only enquire: all they do is to look locators up on a page in memory and to write to the
log. `Enquires R P` also says that such a step ends the same on pages that `R` relates, so that how it ends
can be said of the page alone. Resolving a field is of this kind, and so is reading what it shows. -/

namespace Walkthrough

/-- Pages that stay related whatever is looked up on them. -/
def Stable (R : MemoryPage → MemoryPage → Prop) : Prop :=
  ∀ p q, R p q → ∀ ls more, R (p.withQueries ls) (q.withQueries more)

/-- The scene after locators were looked up and messages written. -/
def Scene.after (s : Scene MemoryPage) (asked : List Locator) (said : List LogEntry) :
    Scene MemoryPage :=
  { s with page := s.page.withQueries asked, log := s.log ++ said }

namespace Scene

theorem after_nil (s : Scene MemoryPage) : s.after [] [] = s := by
  rw [after, MemoryPage.withQueries_nil, List.append_nil]

theorem after_append (s : Scene MemoryPage) (asked more : List Locator) (said further : List LogEntry) :
    (s.after asked said).after more further = s.after (asked ++ more) (said ++ further) := by
  rw [after, after, after, MemoryPage.withQueries_append, List.append_assoc]

theorem say_apply (level : Level) (channel : Channel) (text : String) (s : Scene MemoryPage) :
    say level channel text s = (.ok (), s.after [] [⟨level, channel, text⟩]) := by
  rw [after, MemoryPage.withQueries_nil]
  rfl

end Scene

/-- All that the step does is to look up locators of which `P` holds and to write messages, and it ends
the same on related pages. -/
structure Enquires (R : MemoryPage → MemoryPage → Prop) (P : Locator → Prop) {α : Type}
    (act : Act (Scene MemoryPage) α) : Prop where
  asks : ∀ s, ∃ asked said, (∀ l ∈ asked, P l) ∧ (act s).2 = s.after asked said
  outcome : ∀ s t, R s.page t.page → (act t).1 = (act s).1

theorem MemoryPage.stable_sameWays : Stable SameWays := fun _ _ h => h.withQueries

namespace Enquires

variable {α β : Type} {R : MemoryPage → MemoryPage → Prop} {P : Locator → Prop}
  {act : Act (Scene MemoryPage) α}

/-- A step that does nothing but write and always ends in one way. -/
theorem of_const {outcome : Except Fault α} {said : List LogEntry}
    (h : ∀ s, act s = (outcome, s.after [] said)) : Enquires R P act where
  asks := fun s => ⟨[], said, nofun, congrArg Prod.snd (h s)⟩
  outcome := fun s t _ => (congrArg Prod.fst (h t)).trans (congrArg Prod.fst (h s)).symm

theorem pure {a : α} : Enquires R P (Pure.pure a) :=
  .of_const fun s => congrArg _ s.after_nil.symm

theorem fail {fault : Fault} : Enquires R P (Act.fail fault : Act (Scene MemoryPage) α) :=
  .of_const fun s => congrArg _ s.after_nil.symm

theorem say {level : Level} {channel : Channel} {text : String} :
    Enquires R P (Scene.say level channel text) :=
  .of_const (Scene.say_apply level channel text)

theorem bind {next : α → Act (Scene MemoryPage) β} (hR : Stable R) (h : Enquires R P act)
    (h' : ∀ a, Enquires R P (next a)) : Enquires R P (act >>= next) where
  asks := fun s => by
    obtain ⟨asked, said, ha, hs'⟩ := h.asks s
    rw [Act.bind_apply]
    cases hs : act s with | mk outcome s₁
    rw [hs] at hs'
    obtain rfl : s₁ = s.after asked said := hs'
    cases outcome with
    | error fault => exact ⟨asked, said, ha, rfl⟩
    | ok a =>
      obtain ⟨more, further, hm, hs''⟩ := (h' a).asks (s.after asked said)
      refine ⟨asked ++ more, said ++ further, List.forall_mem_append.mpr ⟨ha, hm⟩, ?_⟩
      rw [hs'', Scene.after_append]
  outcome := fun s t hst => by
    have same := h.outcome s t hst
    obtain ⟨_, _, -, hp⟩ := h.asks s
    obtain ⟨_, _, -, hp'⟩ := h.asks t
    rw [Act.bind_apply, Act.bind_apply]
    cases hs : act s with | mk x s₁
    cases ht : act t with | mk y t₁
    rw [hs, ht] at same
    rw [hs] at hp
    rw [ht] at hp'
    cases same
    cases x with
    | error fault => rfl
    | ok a =>
      subst hp hp'
      exact (h' a).outcome _ _ (hR _ _ hst _ _)

theorem mapFault {f : Fault → Fault} (h : Enquires R P act) : Enquires R P (act.mapFault f) where
  asks := h.asks
  outcome := fun s t hst => congrArg (·.mapError f) (h.outcome s t hst)

/-- On fewer pairs of pages. -/
theorem mono {R' : MemoryPage → MemoryPage → Prop} (h : Enquires R P act)
    (hR : ∀ p q, R' p q → R p q) : Enquires R' P act where
  asks := h.asks
  outcome := fun s t hst => h.outcome s t (hR _ _ hst)

theorem onPage (step : MemoryPage → Except Fault α × MemoryPage)
    (asks : ∀ p, ∃ asked, (∀ l ∈ asked, P l) ∧ (step p).2 = p.withQueries asked)
    (outcome : ∀ p q, R p q → (step q).1 = (step p).1) : Enquires R P (Scene.onPage step) where
  asks := fun s => by
    obtain ⟨asked, ha, hp⟩ := asks s.page
    refine ⟨asked, [], ha, ?_⟩
    rw [Scene.after, List.append_nil, ← hp]
    rfl
  outcome := fun s t hst => outcome s.page t.page hst

/-- Where a look-up ends is the same if the look-ups that fail and the places are. -/
theorem locate {n : String} {l : Locator}
    (hR : ∀ p q : MemoryPage, R p q → q.lookupFailures = p.lookupFailures ∧ q.places = p.places)
    (h : P l) : Enquires R P ((memoryBrowser n).locate l) := by
  refine onPage (MemoryPage.locate l)
    (fun p => ⟨[l], List.forall_mem_singleton.mpr h, ?_⟩) fun p q hpq => ?_
  · unfold MemoryPage.locate
    dsimp only
    split <;> rfl
  · obtain ⟨failures, places⟩ := hR p q hpq
    simp only [MemoryPage.locate, failures, places]
    split <;> rfl

theorem read (call : ElementCall) {name : String} (f : PageElement → α)
    (hR : ∀ p q : MemoryPage, R p q → (q.element name).failures = (p.element name).failures ∧
      f (q.element name) = f (p.element name)) :
    Enquires R P (Scene.onPage fun p =>
      match Assoc.get? call (p.element name).failures with
      | some fault => (.error fault, p)
      | none => (.ok (f (p.element name)), p)) := by
  refine .onPage _ (fun p => ⟨[], nofun, ?_⟩) fun p q hpq => ?_
  · split <;> exact p.withQueries_nil.symm
  · obtain ⟨failures, same⟩ := hR p q hpq
    rw [failures, same]
    split <;> rfl

theorem readAttribute {n name key : String}
    (hR : ∀ p q : MemoryPage, R p q → (q.element name).failures = (p.element name).failures ∧
      (q.element name).attribute? key = (p.element name).attribute? key) :
    Enquires R P ((memoryBrowser n).readAttribute name key) :=
  read .readAttribute (·.attribute? key) hR

theorem readText {n name : String}
    (hR : ∀ p q : MemoryPage, R p q → q.element name = p.element name) :
    Enquires R P ((memoryBrowser n).readText name) :=
  read .readText (·.text) fun p q h => ⟨congrArg _ (hR p q h), congrArg _ (hR p q h)⟩

end Enquires

/-- Look-ups of the locators of which a name can be the text. -/
abbrev ForField (l : Locator) : Prop := l ≠ .submitControl

theorem Lookup.enquires_run (l : Lookup) (n field : String) :
    Enquires MemoryPage.SameWays ForField (l.run (memoryBrowser n) field) := by
  have locate (k : Locator) (hk : ForField k) :
      Enquires MemoryPage.SameWays ForField ((memoryBrowser n).locate k) :=
    .locate (fun _ _ h => ⟨h.lookups, h.places⟩) hk
  cases l with
  | labelFor =>
    refine .bind MemoryPage.stable_sameWays (locate _ nofun) fun label => ?_
    cases label with
    | none => exact .pure
    | some label =>
      refine .bind MemoryPage.stable_sameWays
        (.readAttribute fun _ _ h => ⟨h.calls label, h.labels label⟩) fun id => ?_
      split
      · exact .pure
      · exact .pure
      · exact locate _ nofun
  | _ => exact locate _ nofun

namespace Resolver

/-- The resolver on a page in memory. -/
abbrev onMemory (n : String) (lookups : List Lookup) : Resolver MemoryPage String :=
  ⟨memoryBrowser n, lookups⟩

theorem enquires_find (n : String) (lookups : List Lookup) (l : Locator) :
    Enquires MemoryPage.SameWays (· = l) ((onMemory n lookups).find l) :=
  .mapFault (.locate (fun _ _ h => ⟨h.lookups, h.places⟩) rfl)

theorem enquires_firstOf (n : String) (lookups : List Lookup) (field : String) (ls : List Lookup) :
    Enquires MemoryPage.SameWays ForField ((onMemory n lookups).firstOf field ls) := by
  induction ls with
  | nil => exact .bind MemoryPage.stable_sameWays .say fun _ => .fail
  | cons l ls ih =>
    refine .bind MemoryPage.stable_sameWays (l.enquires_run n field).mapFault fun found => ?_
    cases found with
    | none => exact .bind MemoryPage.stable_sameWays .say fun _ => ih
    | some element => exact .bind MemoryPage.stable_sameWays .say fun _ => .pure

theorem enquires_resolve (n : String) (lookups : List Lookup) (field : Option String) :
    Enquires MemoryPage.SameWays ForField ((onMemory n lookups).resolve field) := by
  unfold resolve
  split
  · exact .fail
  · split
    · exact .fail
    · exact enquires_firstOf n lookups _ _

end Resolver

/-! ## What fields show -/

/-- The page without its queries. -/
def MemoryPage.unasked (p : MemoryPage) : MemoryPage := { p with queries := [] }

namespace MemoryPage

theorem stable_unasked : Stable fun p q => p.unasked = q.unasked := fun _ _ h _ _ => h

theorem element_of_unasked {p q : MemoryPage} (h : p.unasked = q.unasked) (name : String) :
    q.element name = p.element name := by
  show q.unasked.element name = p.unasked.element name
  rw [h]

theorem sameWays_of_unasked {p q : MemoryPage} (h : p.unasked = q.unasked) : p.SameWays q where
  lookups := show q.unasked.lookupFailures = p.unasked.lookupFailures by rw [h]
  calls := fun name => by rw [element_of_unasked h]
  places := show q.unasked.places = p.unasked.places by rw [h]
  labels := fun name => by rw [element_of_unasked h]

end MemoryPage

namespace Resolver

theorem enquires_valueOf (n : String) (lookups : List Lookup) (field : String) :
    Enquires (fun p q => p.unasked = q.unasked) ForField ((onMemory n lookups).valueOf field) := by
  have resolve := (enquires_resolve n lookups (some field)).mono fun p q => p.sameWays_of_unasked
  refine .bind MemoryPage.stable_unasked resolve fun element => .mapFault ?_
  have same {p q : MemoryPage} (h : p.unasked = q.unasked) := MemoryPage.element_of_unasked h element
  refine .bind MemoryPage.stable_unasked (.readAttribute (n := n) fun p q h => ?_) fun value => ?_
  · exact ⟨congrArg _ (same h), congrArg (·.attribute? "value") (same h)⟩
  · cases value with
    | none => exact .readText (n := n) fun p q => same
    | some value => exact .pure

end Resolver

end Walkthrough
