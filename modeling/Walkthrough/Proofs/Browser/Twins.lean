import Walkthrough.Browser.Memory
import Walkthrough.Proofs.Assoc
import Walkthrough.Proofs.Text.Proper

/-! Pages in memory that cannot be told apart by what a scenario does to them. `Alike` pages have the same
elements, find and fail the same, and were made to do the same; what was recorded of them, and how
recording them fails, may differ. Twins are alike and proper, and each call that a scenario makes of a page
ends the same on twins and leaves twins. -/

namespace Walkthrough

/-- Navigations and touches: what a page is made to do. -/
def JournalEntry.isDeed : JournalEntry → Bool
  | .navigate _ | .touch .. => true
  | .screenshot _ | .hook _ => false

/-- An element whose texts are proper. -/
structure PageElement.Proper (e : PageElement) : Prop where
  attributes : ∀ a ∈ e.attributes, ∀ value ∈ a.2, Text.Proper value
  text : Text.Proper e.text
  failures : ∀ f ∈ e.failures, Text.Proper f.2.message

namespace MemoryPage

/-- The navigations and touches in their order. -/
def deeds (p : MemoryPage) : List JournalEntry := p.journal.filter JournalEntry.isDeed

/-- A page whose texts are proper. -/
structure Proper (p : MemoryPage) : Prop where
  elements : ∀ e ∈ p.elements, e.2.Proper
  lookupFailures : ∀ f ∈ p.lookupFailures, Text.Proper f.2.message
  failures : ∀ f ∈ p.failures, Text.Proper f.2.message
  html : Text.Proper p.html
  url : ∀ url ∈ p.url, Text.Proper url

/-- Pages that differ at most in what is recorded of them and how that fails: in pictures, source,
address and queries. -/
structure Alike (p q : MemoryPage) : Prop where
  elements : p.elements = q.elements
  places : p.places = q.places
  lookupFailures : p.lookupFailures = q.lookupFailures
  navigation : Assoc.get? .navigate p.failures = Assoc.get? .navigate q.failures
  deeds : p.deeds = q.deeds

structure Twins (p q : MemoryPage) : Prop extends Alike p q where
  left : p.Proper
  right : q.Proper

end MemoryPage

/-- Outcomes that are the same fault or related values. What the fault says is proper. -/
inductive Outcomes {α β : Type} (R : α → β → Prop) : Except Fault α → Except Fault β → Prop
  | ok {a : α} {b : β} (h : R a b) : Outcomes R (.ok a) (.ok b)
  | error {fault : Fault} (h : Text.Proper fault.message) : Outcomes R (.error fault) (.error fault)

/-- The same value, with a property. -/
def Same {α : Type} (P : α → Prop) (a b : α) : Prop := a = b ∧ P a

theorem Same.rfl {α : Type} {P : α → Prop} {a : α} (h : P a) : Same P a a := ⟨Eq.refl a, h⟩

namespace PageElement

variable {e : PageElement} {value : String}

theorem Proper.attribute? (h : e.Proper) {key : String} (hv : e.attribute? key = some value) :
    Text.Proper value := by
  have hv : (Assoc.get? key e.attributes).join = some value := hv
  rw [Option.join_eq_some_iff] at hv
  exact h.attributes _ (Assoc.mem_of_get? hv) value rfl

theorem Proper.withValue (h : e.Proper) (hv : Text.Proper value) : (e.withValue value).Proper where
  attributes := fun a ha v hav => by
    rcases Assoc.mem_of_mem_put ha with rfl | ha
    · cases hav
      exact hv
    · exact h.attributes a ha v hav
  text := h.text
  failures := h.failures

theorem Proper.touched (h : e.Proper) {t : Touch}
    (ht : ∀ text, t = .type (some text) → Text.Proper text) :
    Outcomes (Same Proper) (e.touched t) (e.touched t) := by
  cases t with
  | clear => exact .ok (.rfl (h.withValue (.literal rfl)))
  | type text =>
    cases text with
    | none => exact .error (.literal rfl)
    | some text =>
      refine .ok (.rfl (h.withValue (.append ?_ (ht text rfl))))
      cases hv : e.attribute? "value" with
      | none => exact .literal rfl
      | some value => exact h.attribute? hv
  | _ => exact .ok (.rfl h)

end PageElement

namespace MemoryPage

variable {p q : MemoryPage}

theorem Proper.element (h : p.Proper) (name : String) : (p.element name).Proper := by
  unfold MemoryPage.element
  cases he : Assoc.get? name p.elements with
  | none =>
    exact ⟨fun _ h => absurd h List.not_mem_nil, .literal rfl, fun _ h => absurd h List.not_mem_nil⟩
  | some e => exact h.elements _ (Assoc.mem_of_get? he)

theorem Proper.putElement (h : p.Proper) {name : String} {e : PageElement} (he : e.Proper) :
    ({ p with elements := Assoc.put name e p.elements } : MemoryPage).Proper where
  elements := fun f hf => by
    rcases Assoc.mem_of_mem_put hf with rfl | hf
    · exact he
    · exact h.elements f hf
  lookupFailures := h.lookupFailures
  failures := h.failures
  html := h.html
  url := h.url

theorem Twins.element (h : p.Twins q) (name : String) : p.element name = q.element name := by
  rw [MemoryPage.element, h.elements]
  rfl

@[simp] theorem deeds_note (p : MemoryPage) (entry : JournalEntry) :
    (p.note entry).deeds = p.deeds ++ [entry].filter JournalEntry.isDeed :=
  List.filter_append ..

theorem Proper.note (h : p.Proper) (entry : JournalEntry) : (p.note entry).Proper := { h with }

theorem Twins.note (h : p.Twins q) (entry : JournalEntry) : (p.note entry).Twins (q.note entry) where
  toAlike := { h.toAlike with deeds := by rw [deeds_note, deeds_note, h.deeds] }
  left := h.left.note entry
  right := h.right.note entry

/-- A call of a page, of which it is known how it ends on twins. -/
def Parallel {α : Type} (P : α → Prop) (call : MemoryPage → Except Fault α × MemoryPage) : Prop :=
  ∀ p q : MemoryPage, p.Twins q →
    Outcomes (Same P) (call p).1 (call q).1 ∧ (call p).2.Twins (call q).2

theorem parallel_navigate {url : String} (hu : Text.Proper url) :
    Parallel (fun _ => True) (navigate url) := by
  intro p q h
  have hn := h.note (.navigate url)
  simp only [navigate, check, hn.navigation]
  cases hf : Assoc.get? .navigate (q.note (.navigate url)).failures with
  | some fault => exact ⟨.error (hn.right.failures _ (Assoc.mem_of_get? hf)), hn⟩
  | none =>
    have address : ∀ u ∈ some url, Text.Proper u := fun u hu' => by cases hu'; exact hu
    exact ⟨.ok (.rfl trivial), { hn.toAlike with },
      { hn.left with url := address }, { hn.right with url := address }⟩

theorem parallel_locate (l : Locator) : Parallel (fun _ => True) (locate l) := by
  intro p q h
  have hq : ({ p with queries := p.queries ++ [l] } : MemoryPage).Twins
      { q with queries := q.queries ++ [l] } :=
    ⟨{ h.toAlike with }, { h.left with }, { h.right with }⟩
  have hl : find? l p.lookupFailures = find? l q.lookupFailures := by rw [h.lookupFailures]
  have hp : l.alternatives.findSome? (fun part => find? part p.places) =
      l.alternatives.findSome? (fun part => find? part q.places) := by rw [h.places]
  simp only [locate, hl, hp]
  cases hf : find? l q.lookupFailures with
  | some fault =>
    obtain ⟨entry, he, rfl⟩ := Option.map_eq_some_iff.mp hf
    exact ⟨.error (h.right.lookupFailures _ (List.mem_of_find?_eq_some he)), hq⟩
  | none => exact ⟨.ok (.rfl trivial), hq⟩

/-- Reading an element changes nothing. -/
theorem parallel_read {α : Type} {P : α → Prop} (name : String) (call : ElementCall)
    (read : PageElement → α) (hr : ∀ e : PageElement, e.Proper → P (read e)) :
    Parallel P fun p =>
      match Assoc.get? call (p.element name).failures with
      | some fault => (.error fault, p)
      | none => (.ok (read (p.element name)), p) := by
  intro p q h
  have he := h.right.element name
  simp only [h.element name]
  cases hf : Assoc.get? call (q.element name).failures with
  | some fault => exact ⟨.error (he.failures _ (Assoc.mem_of_get? hf)), h⟩
  | none => exact ⟨.ok (.rfl (hr _ he)), h⟩

theorem parallel_readAttribute (name key : String) :
    Parallel (fun value => ∀ text ∈ value, Text.Proper text) (readAttribute name key) :=
  parallel_read name .readAttribute (·.attribute? key) fun _ he _ hv => he.attribute? hv

theorem parallel_readText (name : String) : Parallel Text.Proper (readText name) :=
  parallel_read name .readText (·.text) fun _ he => he.text

theorem parallel_touch (name : String) {t : Touch}
    (ht : ∀ text, t = .type (some text) → Text.Proper text) :
    Parallel (fun _ => True) (touch name t) := by
  intro p q h
  have hn := h.note (.touch name t)
  have he := h.right.element name
  simp only [touch, h.element name]
  split
  · exact ⟨.ok (.rfl trivial), h⟩
  · cases hf : Assoc.get? t.call (q.element name).failures with
    | some fault => exact ⟨.error (he.failures _ (Assoc.mem_of_get? hf)), hn⟩
    | none =>
      have hd := he.touched ht
      cases hx : (q.element name).touched t with
      | error fault =>
        rw [hx] at hd
        cases hd with
        | error hd => exact ⟨.error hd, hn⟩
      | ok e =>
        rw [hx] at hd
        cases hd with
        | ok hd =>
          refine ⟨.ok (.rfl trivial), ?_, hn.left.putElement hd.2, hn.right.putElement hd.2⟩
          exact { hn.toAlike with elements := congrArg (Assoc.put name e) hn.elements }

end MemoryPage

end Walkthrough
