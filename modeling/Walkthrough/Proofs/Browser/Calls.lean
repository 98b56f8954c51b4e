import Walkthrough.Browser.Memory
import Walkthrough.Proofs.Assoc

/-! What look-ups and touches do to a page in memory. Which calls fail, and where look-ups lead, is the
same before and after; a touch is noted in the journal, a look-up among the queries, and what a field
shows changes by clearing it and typing into it alone. `Did` collects this over any number of calls. -/

namespace Walkthrough

namespace PageElement

theorem attribute?_withValue_self (e : PageElement) (value : String) :
    (e.withValue value).attribute? "value" = some value := by
  rw [attribute?, withValue, Assoc.get?_put_self]
  rfl

theorem attribute?_withValue_of_ne (e : PageElement) (value : String) {key : String}
    (h : key ≠ "value") : (e.withValue value).attribute? key = e.attribute? key := by
  rw [attribute?, withValue, Assoc.get?_put_of_ne h]
  rfl

end PageElement

namespace Touch

/-- The touches that every element takes notice of. -/
def Heeded (t : Touch) : Prop := ∀ e : PageElement, e.ignores t = false

/-- The touches that change what a field shows. -/
def Edits : Touch → Prop
  | .clear | .type _ => True
  | _ => False

/-- Whether a touch that is not made to fail succeeds does not depend on the element. -/
theorem exists_touched (t : Touch) :
    (∃ fault, ∀ e : PageElement, e.touched t = .error fault) ∨
      ∀ e : PageElement, ∃ e', e.touched t = .ok e' := by
  cases t with
  | type text =>
    cases text with
    | none => exact .inl ⟨_, fun _ => rfl⟩
    | some text => exact .inr fun _ => ⟨_, rfl⟩
  | _ => exact .inr fun _ => ⟨_, rfl⟩

/-- What a touch leaves of an element. -/
structure Leaves (t : Touch) (e e' : PageElement) : Prop where
  failures : e'.failures = e.failures
  attributes : ∀ key ≠ "value", e'.attribute? key = e.attribute? key
  same : ¬ t.Edits → e' = e

theorem leaves_of_touched {t : Touch} {e e' : PageElement} (h : e.touched t = .ok e') :
    t.Leaves e e' := by
  cases t with
  | clear =>
    cases h
    exact ⟨rfl, fun _ hk => e.attribute?_withValue_of_ne _ hk, fun hn => (hn trivial).elim⟩
  | type text =>
    cases text with
    | none => cases h
    | some text =>
      cases h
      exact ⟨rfl, fun _ hk => e.attribute?_withValue_of_ne _ hk, fun hn => (hn trivial).elim⟩
  | _ =>
    cases h
    exact ⟨rfl, fun _ _ => rfl, fun _ => rfl⟩

end Touch

namespace MemoryPage

variable {p p' p'' q : MemoryPage} {name : String} {t : Touch}

/-- The page with further look-ups among its queries. -/
def withQueries (p : MemoryPage) (ls : List Locator) : MemoryPage :=
  { p with queries := p.queries ++ ls }

theorem withQueries_nil (p : MemoryPage) : p.withQueries [] = p := by
  rw [withQueries, List.append_nil]

theorem withQueries_append (p : MemoryPage) (ls more : List Locator) :
    (p.withQueries ls).withQueries more = p.withQueries (ls ++ more) := by
  rw [withQueries, withQueries, withQueries, List.append_assoc]

/-- Whether a call of an element is made to fail. -/
def Fails (p : MemoryPage) (name : String) (call : ElementCall) : Prop :=
  (Assoc.get? call (p.element name).failures).isSome = true

instance (p : MemoryPage) (name : String) (call : ElementCall) : Decidable (p.Fails name call) :=
  inferInstanceAs (Decidable (_ = true))

/-- The same look-ups and the same calls of elements fail. -/
structure SameFailures (p q : MemoryPage) : Prop where
  lookups : q.lookupFailures = p.lookupFailures
  calls : ∀ name, (q.element name).failures = (p.element name).failures

/-- Look-ups end the same, and labels are for the same elements. -/
structure SameWays (p q : MemoryPage) : Prop extends SameFailures p q where
  places : q.places = p.places
  labels : ∀ name, (q.element name).attribute? "for" = (p.element name).attribute? "for"

theorem SameFailures.rfl : p.SameFailures p := ⟨Eq.refl _, fun _ => Eq.refl _⟩

theorem SameFailures.symm (h : p.SameFailures q) : q.SameFailures p :=
  ⟨h.lookups.symm, fun name => (h.calls name).symm⟩

theorem SameFailures.trans (h : p.SameFailures p') (h' : p'.SameFailures p'') :
    p.SameFailures p'' :=
  ⟨h'.lookups.trans h.lookups, fun name => (h'.calls name).trans (h.calls name)⟩

theorem SameFailures.fails_iff (h : p.SameFailures q) {call : ElementCall} :
    q.Fails name call ↔ p.Fails name call := by
  rw [Fails, Fails, h.calls]

theorem SameWays.rfl : p.SameWays p := ⟨.rfl, Eq.refl _, fun _ => Eq.refl _⟩

theorem SameWays.trans (h : p.SameWays p') (h' : p'.SameWays p'') : p.SameWays p'' :=
  ⟨h.toSameFailures.trans h'.toSameFailures, h'.places.trans h.places,
    fun name => (h'.labels name).trans (h.labels name)⟩

theorem SameWays.withQueries (h : p.SameWays q) (ls more : List Locator) :
    (p.withQueries ls).SameWays (q.withQueries more) :=
  ⟨⟨h.lookups, h.calls⟩, h.places, h.labels⟩

/-! ## Touches -/

/-- The page with an element put in the place of its namesake. -/
def withElement (p : MemoryPage) (name : String) (e : PageElement) : MemoryPage :=
  { p with elements := Assoc.put name e p.elements }

theorem element_withElement_self (p : MemoryPage) (name : String) (e : PageElement) :
    (p.withElement name e).element name = e := by
  rw [element, withElement, Assoc.get?_put_self]
  rfl

theorem element_withElement_of_ne (p : MemoryPage) {name other : String} (h : other ≠ name)
    (e : PageElement) : (p.withElement name e).element other = p.element other := by
  rw [element, withElement, Assoc.get?_put_of_ne h]
  rfl

/-- What is the same of an element and of the one that takes its place is the same all over the page. -/
theorem element_withElement {α : Type} (p : MemoryPage) {name : String} {e : PageElement}
    (f : PageElement → α) (h : f e = f (p.element name)) (other : String) :
    f ((p.withElement name e).element other) = f (p.element other) := by
  by_cases ho : other = name
  · subst ho
    rw [element_withElement_self, h]
  · rw [element_withElement_of_ne p ho]

theorem touch_of_not_ignores (p : MemoryPage) (ht : (p.element name).ignores t = false) :
    touch name t p = match Assoc.get? t.call (p.element name).failures with
      | some fault => (.error fault, p.note (.touch name t))
      | none =>
        match (p.element name).touched t with
        | .error fault => (.error fault, p.note (.touch name t))
        | .ok e => (.ok (), (p.note (.touch name t)).withElement name e) := by
  rw [touch, ht, if_neg Bool.false_ne_true]
  rfl

theorem touch_of_heeded (p : MemoryPage) (name : String) (ht : t.Heeded) :
    touch name t p = match Assoc.get? t.call (p.element name).failures with
      | some fault => (.error fault, p.note (.touch name t))
      | none =>
        match (p.element name).touched t with
        | .error fault => (.error fault, p.note (.touch name t))
        | .ok e => (.ok (), (p.note (.touch name t)).withElement name e) :=
  touch_of_not_ignores p (ht _)

theorem touch_of_ignores (p : MemoryPage) (ht : (p.element name).ignores t = true) :
    touch name t p = (.ok (), p) := if_pos ht

/-- How a touch ends depends on the calls that fail. -/
theorem touch_outcome (h : p.SameFailures q) (ht : t.Heeded) :
    (touch name t q).1 = (touch name t p).1 := by
  rw [touch_of_heeded p name ht, touch_of_heeded q name ht, h.calls name]
  cases Assoc.get? t.call (p.element name).failures with
  | some fault => rfl
  | none =>
    rcases t.exists_touched with ⟨fault, failed⟩ | done
    · rw [failed, failed]
    · obtain ⟨_, hq⟩ := done (q.element name)
      obtain ⟨_, hp⟩ := done (p.element name)
      rw [hq, hp]

/-- A touch that succeeds is not made to fail. -/
theorem touch_ok_iff (ht : t.Heeded) (hd : ∀ e : PageElement, ∃ e', e.touched t = .ok e') :
    (touch name t p).1 = .ok () ↔ ¬ p.Fails name t.call := by
  rw [touch_of_heeded p name ht, Fails]
  cases Assoc.get? t.call (p.element name).failures with
  | some fault => simp
  | none =>
    obtain ⟨_, hp⟩ := hd (p.element name)
    simp [hp]

/-- What a touch may change of a page: besides the journal, only its own element. -/
theorem touch_cases (p : MemoryPage) (name : String) (ht : t.Heeded) :
    (∃ e', t.Leaves (p.element name) e' ∧ (p.element name).touched t = .ok e' ∧
      touch name t p = (.ok (), (p.note (.touch name t)).withElement name e')) ∨
      ∃ fault, touch name t p = (.error fault, p.note (.touch name t)) := by
  rw [touch_of_heeded p name ht]
  cases Assoc.get? t.call (p.element name).failures with
  | some fault => exact .inr ⟨fault, rfl⟩
  | none =>
    cases he : (p.element name).touched t with
    | error fault => exact .inr ⟨fault, rfl⟩
    | ok e' => exact .inl ⟨e', t.leaves_of_touched he, rfl, rfl⟩

/-! ## Any number of calls -/

/-- From the first page to the last by touching elements and looking up locators, in these orders. -/
structure Did (p : MemoryPage) (calls : List (String × Touch)) (asked : List Locator)
    (p' : MemoryPage) : Prop where
  journal : p'.journal = p.journal ++ calls.map fun c => .touch c.1 c.2
  queries : p'.queries = p.queries ++ asked
  ways : p.SameWays p'
  values : ∀ name, (∀ t, (name, t) ∈ calls → ¬ t.Edits) →
    (p'.element name).attribute? "value" = (p.element name).attribute? "value"

theorem Did.rfl : p.Did [] [] p where
  journal := (List.append_nil _).symm
  queries := (List.append_nil _).symm
  ways := .rfl
  values := fun _ _ => Eq.refl _

theorem Did.trans {calls calls' : List (String × Touch)} {asked asked' : List Locator}
    (h : p.Did calls asked p') (h' : p'.Did calls' asked' p'') :
    p.Did (calls ++ calls') (asked ++ asked') p'' where
  journal := by rw [h'.journal, h.journal, List.append_assoc, List.map_append]
  queries := by rw [h'.queries, h.queries, List.append_assoc]
  ways := h.ways.trans h'.ways
  values := fun name untouched =>
    (h'.values name fun t ht => untouched t (List.mem_append_right _ ht)).trans
      (h.values name fun t ht => untouched t (List.mem_append_left _ ht))

theorem Did.withQueries (p : MemoryPage) (ls : List Locator) : p.Did [] ls (p.withQueries ls) where
  journal := (List.append_nil _).symm
  queries := Eq.refl _
  ways := ⟨⟨Eq.refl _, fun _ => Eq.refl _⟩, Eq.refl _, fun _ => Eq.refl _⟩
  values := fun _ _ => Eq.refl _

theorem did_touch (p : MemoryPage) (name : String) (ht : t.Heeded) :
    p.Did [(name, t)] [] (touch name t p).2 := by
  rcases touch_cases p name ht with ⟨e', left, -, eq⟩ | ⟨fault, eq⟩
  · rw [eq]
    have element {α : Type} (f : PageElement → α) (h : f e' = f (p.element name)) (other : String) :
        f (((p.note (.touch name t)).withElement name e').element other) = f (p.element other) :=
      element_withElement _ f h other
    refine ⟨Eq.refl _, (List.append_nil _).symm, ⟨⟨Eq.refl _, element _ left.failures⟩, Eq.refl _,
      element (·.attribute? "for") (left.attributes "for" (by decide))⟩, fun other untouched => ?_⟩
    by_cases h : other = name
    · subst h
      rw [element_withElement_self, left.same (untouched t List.mem_cons_self)]
    · exact congrArg (·.attribute? "value") (element_withElement_of_ne _ h e')
  · rw [eq]
    exact ⟨Eq.refl _, (List.append_nil _).symm, ⟨⟨Eq.refl _, fun _ => Eq.refl _⟩, Eq.refl _,
      fun _ => Eq.refl _⟩, fun _ _ => Eq.refl _⟩

end MemoryPage

end Walkthrough
