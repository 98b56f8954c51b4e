import Mathlib.Data.List.Basic
import Walkthrough.Proofs.Run.Registries
import Walkthrough.Proofs.Run.Staying

/-! The first touch of an action. A hook is called at most once. Before it elements are only waited for and
scrolled to, and what follows it, if it returns, is that its element is clicked or cleared. Each step of an
action `Passes` from awaiting the hook to the time after it (`InOrder`), whatever fails on the way. -/

namespace Walkthrough

namespace Touch

variable {t : Touch}

/-- Waiting and scrolling: what may be done to an element before the hook. -/
def Prepares : Touch → Prop
  | .scroll | .wait _ => True
  | _ => False

/-- Clicking and clearing: the touches with which an action begins. -/
def Begins : Touch → Prop
  | .click | .clear => True
  | _ => False

theorem Begins.heeded (h : t.Begins) : t.Heeded := by
  cases t with
  | click | clear => exact fun _ => rfl
  | _ => cases h

end Touch

namespace JournalEntry

/-- Entries of touches of a kind. -/
def Touches (P : Touch → Prop) : JournalEntry → Prop
  | .touch _ t => P t
  | _ => False

/-- Entries in which neither a touch nor a hook is noted. -/
def IsAside : JournalEntry → Prop
  | .navigate _ | .screenshot _ => True
  | _ => False

end JournalEntry

namespace Scene

/-- From one scene to the other the journal grows by entries of one kind. -/
def Noted (P : JournalEntry → Prop) (s t : Scene MemoryPage) : Prop :=
  ∃ entries, (∀ x ∈ entries, P x) ∧ t.page.journal = s.page.journal ++ entries

/-- From one scene to the other the journal grows by touches of one kind. -/
abbrev Touched (P : Touch → Prop) : Scene MemoryPage → Scene MemoryPage → Prop :=
  Noted (JournalEntry.Touches P)

/-- From one scene to the other the journal grows by touches, the first of which begins an action on the
element. -/
def Begun (element : String) (s t : Scene MemoryPage) : Prop :=
  ∃ touch entries, touch.Begins ∧ (∀ x ∈ entries, JournalEntry.Touches Any x) ∧
    t.page.journal = s.page.journal ++ .touch element touch :: entries

variable {P Q : JournalEntry → Prop} {s t u : Scene MemoryPage} {element : String}

theorem Noted.of_eq (h : t.page.journal = s.page.journal) : s.Noted P t :=
  ⟨[], nofun, h.trans (List.append_nil _).symm⟩

theorem Noted.mono (h : s.Noted P t) (hPQ : ∀ x, P x → Q x) : s.Noted Q t := by
  obtain ⟨entries, hP, journal⟩ := h
  exact ⟨entries, fun x hx => hPQ x (hP x hx), journal⟩

instance : IsPreorder (Scene MemoryPage) (Noted P) where
  refl _ := .of_eq rfl
  trans _ _ _ := by
    rintro ⟨entries, h, journal⟩ ⟨more, h', journal'⟩
    refine ⟨entries ++ more, List.forall_mem_append.mpr ⟨h, h'⟩, ?_⟩
    rw [journal', journal, List.append_assoc]

theorem Touched.any {P : Touch → Prop} (h : s.Touched P t) : s.Touched Any t :=
  h.mono fun x hx => by
    cases x with
    | touch => trivial
    | _ => cases hx

theorem Begun.touched (h : s.Begun element t) : s.Touched Any t := by
  obtain ⟨touch, entries, -, touches, journal⟩ := h
  have first : JournalEntry.Touches Any (.touch element touch) := trivial
  exact ⟨_, List.forall_mem_cons.mpr ⟨first, touches⟩, journal⟩

theorem Begun.trans (h : s.Begun element t) (h' : t.Touched Any u) : s.Begun element u := by
  obtain ⟨touch, entries, begins, touches, journal⟩ := h
  obtain ⟨more, touches', journal'⟩ := h'
  refine ⟨touch, entries ++ more, begins, List.forall_mem_append.mpr ⟨touches, touches'⟩, ?_⟩
  rw [journal', journal, List.append_assoc, List.cons_append]

end Scene

/-! ## What steps note -/

section Steps

variable {α β : Type} {act : Act (Scene MemoryPage) α} {next : α → Act (Scene MemoryPage) β}
  {P : Touch → Prop} {element : String}

/-- The step notes touches of a kind and nothing else, whatever it comes to. -/
abbrev Touches (P : Touch → Prop) (act : Act (Scene MemoryPage) α) : Prop :=
  Act.Keeps (Scene.Touched P) act

/-- The step begins by clicking or clearing the element. -/
abbrev Begins (element : String) (act : Act (Scene MemoryPage) α) : Prop :=
  Act.Keeps (Scene.Begun element) act

namespace Scene.Touched

theorem say {level : Level} {channel : Channel} {text : String} :
    Touches P (Scene.say level channel text) := fun _ => .of_eq rfl

theorem enquires {R : MemoryPage → MemoryPage → Prop} {L : Locator → Prop} (h : Enquires R L act) :
    Touches P act := by
  intro s
  obtain ⟨asked, said, -, eq⟩ := h.asks s
  rw [eq]
  exact .of_eq rfl

/-- A touch is noted even if it fails, but an element may take no notice of it. -/
theorem touch {t : Touch} (h : P t) : Touches P (Scene.onPage (MemoryPage.touch element t)) := by
  intro s
  have noted (p : MemoryPage) (hp : p.journal = s.page.journal ++ [.touch element t]) :
      s.Touched P { s with page := p } := ⟨[.touch element t], List.forall_mem_singleton.mpr h, hp⟩
  show s.Touched P { s with page := (MemoryPage.touch element t s.page).2 }
  unfold MemoryPage.touch
  dsimp only
  split
  · exact .of_eq rfl
  · split
    · exact noted _ rfl
    · split
      · exact noted _ rfl
      · exact noted _ rfl

end Scene.Touched

namespace Scene.Begun

theorem touch {t : Touch} (h : t.Begins) : Begins element (Scene.onPage (MemoryPage.touch element t)) :=
  fun s => ⟨t, [], h, nofun, (MemoryPage.did_touch s.page element h.heeded).journal⟩

theorem andThen (h : Begins element act) (h' : ∀ a, Touches Any (next a)) :
    Begins element (act >>= next) := by
  intro s
  have first := h s
  rcases Act.bind_cases act next s with ⟨fault, s₁, hs, eq⟩ | ⟨a, s₁, hs, eq⟩
  · rw [hs] at first
    rw [eq]
    exact first
  · rw [hs] at first
    rw [eq]
    exact first.trans (h' a s₁)

end Scene.Begun

end Steps

/-! ## The order of an action -/

/-- A call of a hook is noted in the journal, before anything that the hook does. -/
def noting (call : String → Act (Scene MemoryPage) Unit) (element : String) :
    Act (Scene MemoryPage) Unit := do
  Scene.onPage fun p => (.ok (), p.note (.hook element))
  call element

/-- The hook is called, after elements were prepared at most. If it returns, its element is the one that
is touched next. -/
structure HookedAt (call : String → Act (Scene MemoryPage) Unit) (element : String)
    (outcome : Except Fault Unit) (s s₁ s₂ t : Scene MemoryPage) : Prop where
  before : s.Touched Touch.Prepares s₁
  called : noting call element s₁ = (outcome, s₂)
  after : s₂.Touched Any t
  next : outcome = .ok () → s₂.Begun element t

/-- What an action does around its first touch: either it prepares elements at most, or it calls its
hook. -/
inductive FirstTouch (call : String → Act (Scene MemoryPage) Unit) (s t : Scene MemoryPage) : Prop
  | none (before : s.Touched Touch.Prepares t)
  | hooked {element : String} {outcome : Except Fault Unit} {s₁ s₂ : Scene MemoryPage}
    (h : HookedAt call element outcome s s₁ s₂ t)

/-- A step leads from one scene to another, while the hook is awaited or after it was called. -/
inductive Passes (call : String → Act (Scene MemoryPage) Unit) :
    Bool → Scene MemoryPage → Bool → Scene MemoryPage → Prop
  | awaiting {s t : Scene MemoryPage} (h : s.Touched Touch.Prepares t) : Passes call false s false t
  | hooked {element outcome} {s s₁ s₂ t : Scene MemoryPage}
    (h : HookedAt call element outcome s s₁ s₂ t) : Passes call false s true t
  | after {s t : Scene MemoryPage} (h : s.Touched Any t) : Passes call true s true t

namespace Passes

variable {call : String → Act (Scene MemoryPage) Unit} {b b' c : Bool} {s t u : Scene MemoryPage}

theorem refl : Passes call b s b s := by
  cases b with
  | false => exact .awaiting (.of_eq rfl)
  | true => exact .after (.of_eq rfl)

theorem trans (h : Passes call b s b' t) (h' : Passes call b' t c u) : Passes call b s c u := by
  cases h with
  | awaiting before =>
    cases h' with
    | awaiting more => exact .awaiting (trans_of _ before more)
    | hooked more => exact .hooked { more with before := trans_of _ before more.before }
  | hooked hooked =>
    cases h' with
    | after more =>
      refine .hooked { hooked with after := trans_of _ hooked.after more, next := fun ok => ?_ }
      exact (hooked.next ok).trans more
  | after after =>
    cases h' with
    | after more => exact .after (trans_of _ after more)

end Passes

theorem FirstTouch.of_passes {call : String → Act (Scene MemoryPage) Unit} {b : Bool}
    {s t : Scene MemoryPage} (h : Passes call false s b t) : FirstTouch call s t := by
  cases h with
  | awaiting before => exact .none before
  | hooked h => exact .hooked h

/-- Whatever it comes to, the step passes from the one time to the other. -/
def Leads (call : String → Act (Scene MemoryPage) Unit) (b b' : Bool) {α : Type}
    (act : Act (Scene MemoryPage) α) : Prop := ∀ s, Passes call b s b' (act s).2

/-- The step passes from the one time to some other, and `Q` holds of this and of what it returns. -/
def InOrder (call : String → Act (Scene MemoryPage) Unit) (b : Bool) {α : Type}
    (Q : Bool → α → Prop) (act : Act (Scene MemoryPage) α) : Prop :=
  ∀ s, ∃ b', Passes call b s b' (act s).2 ∧ ∀ a, (act s).1 = .ok a → Q b' a

section Order

variable {call : String → Act (Scene MemoryPage) Unit} {b b' : Bool} {α β : Type}
  {act : Act (Scene MemoryPage) α} {next : α → Act (Scene MemoryPage) β} {Q : Bool → α → Prop}
  {Q' : Bool → β → Prop}

namespace InOrder

theorem pure {a : α} (h : Q b a) : InOrder call b Q (Pure.pure a) := fun _ =>
  ⟨b, .refl, fun _ eq => by cases eq; exact h⟩

theorem fail {fault : Fault} : InOrder call b Q (Act.fail fault : Act (Scene MemoryPage) α) :=
  fun _ => ⟨b, .refl, nofun⟩

theorem bind (h : InOrder call b Q act) (h' : ∀ b' a, Q b' a → InOrder call b' Q' (next a)) :
    InOrder call b Q' (act >>= next) := by
  intro s
  obtain ⟨b', first, hQ⟩ := h s
  rcases Act.bind_cases act next s with ⟨fault, s₁, hs, eq⟩ | ⟨a, s₁, hs, eq⟩
  · rw [hs] at first
    rw [eq]
    exact ⟨b', first, nofun⟩
  · rw [hs] at first hQ
    rw [eq]
    obtain ⟨c, second, hQ'⟩ := h' b' a (hQ a rfl) s₁
    exact ⟨c, first.trans second, hQ'⟩

end InOrder

namespace Leads

theorem attempt (h : Leads call b b' act) : Leads call b b' act.attempt := h

theorem still (h : Touches Touch.Prepares act) : Leads call b b act := by
  intro s
  cases b with
  | false => exact .awaiting (h s)
  | true => exact .after (h s).any

theorem after (h : Touches Any act) : Leads call true true act := fun s => .after (h s)

theorem inOrder (h : Leads call b b' act) (hQ : ∀ a, Q b' a) : InOrder call b Q act := fun s =>
  ⟨b', h s, fun a _ => hQ a⟩

theorem andThen (h : Leads call b b' act) (h' : ∀ a, InOrder call b' Q' (next a)) :
    InOrder call b Q' (act >>= next) := by
  have here : InOrder call b (fun c _ => c = b') act := h.inOrder fun _ => rfl
  refine here.bind fun c a eq => ?_
  rw [eq]
  exact h' a

/-- Calling the hook, unless it was called before, and then beginning. -/
theorem callHook (b : Bool) {element : String} (h : Begins element act) :
    Leads call b true (Perform.callHook (some (noting call)) b element >>= fun _ => act) := by
  intro s
  cases b with
  | true => exact .after (h s).touched
  | false =>
    show Passes call false s true ((noting call element >>= fun _ => act) s).2
    rcases Act.bind_cases (noting call element) (fun _ => act) s with
      ⟨fault, s₂, called, eq⟩ | ⟨_, s₂, called, eq⟩
    · rw [eq]
      exact .hooked
        { before := .of_eq rfl, called := called, after := .of_eq rfl, next := fun ok => nomatch ok }
    · rw [eq]
      exact .hooked
        { before := .of_eq rfl, called := called, after := (h s₂).touched, next := fun _ => h s₂ }

end Leads

theorem InOrder.say {level : Level} {channel : Channel} {text : String} {a : α} (h : Q b a) :
    InOrder call b Q (Scene.say level channel text >>= fun _ => Pure.pure a) :=
  (Leads.still .say).andThen fun _ => .pure h

end Order

/-! ## Clicks and entries -/

namespace Perform

variable (n : String) (lookups : List Lookup) (call : String → Act (Scene MemoryPage) Unit)

theorem inOrder_click (target : Option String) :
    InOrder call false (fun _ _ => True) (click (.onMemory n lookups) (some (noting call)) target) := by
  have found : Touches Touch.Prepares (clickTarget (.onMemory n lookups) target) := by
    refine .bind (.enquires (Resolver.enquires_find n lookups _)) fun control => ?_
    cases control with
    | some element => exact .pure
    | none => exact .bind .say fun _ => .enquires (Resolver.enquires_resolve n lookups target)
  refine (Leads.still found).andThen fun element => ?_
  refine (Leads.callHook false (.andThen ?_ fun _ => ?_)).inOrder fun _ => trivial
  · exact .mapFault (.touch (t := .click) trivial)
  · exact .bind .say fun _ => .pure

theorem begins_fill (field : String) (value : Option String) (element : String) :
    Begins element (fill (.onMemory n lookups) field value element) :=
  .andThen (.mapFault (.touch (t := .clear) trivial)) fun _ =>
    .mapFault (.touch (t := .type value) trivial)

theorem inOrder_enter (options : EnterOptions) (field value : Option String) :
    InOrder call false (fun _ _ => True)
      (enter options (.onMemory n lookups) (some (noting call)) field value) := by
  unfold enter
  split
  · exact .fail
  · exact .fail
  · exact .fail
  · next field value _ =>
    have resolve := Resolver.enquires_resolve n lookups (some field)
    refine (Leads.still (.enquires resolve)).andThen fun element => ?_
    have prepared : Touches Touch.Prepares (prepare (.onMemory n lookups) options field element) :=
      within_prepare Act.closed_keeping _ options field (fun ms => .touch (t := .wait ms) trivial)
        (.touch (t := .scroll) trivial)
    refine (Leads.still prepared).andThen fun _ => ?_
    have begun := begins_fill n lookups field (some value) element
    refine (Leads.callHook false (.andThen begun fun _ => ?_)).inOrder fun _ => trivial
    cases options.pressEnter with
    | true =>
      exact .bind (.mapFault (.touch (t := .press "Enter") trivial)) fun _ => .bind .say fun _ => .pure
    | false => exact .bind .say fun _ => .pure

/-! ## Submissions -/

/-- The progress tells whether the hook was called, and it was if a field was filled. -/
structure Tells (b : Bool) (p : Progress String) : Prop where
  hooked : p.hooked = b
  last : p.last ≠ none → b = true

variable {n lookups call} {b : Bool} {p : Progress String}

theorem inOrder_warn (h : Tells b p) (text : String) : InOrder call b Tells (warn p text) :=
  .say ⟨h.hooked, h.last⟩

theorem inOrder_tolerate (h : Tells b p) (describe : String → String) (fault : Fault) :
    InOrder call b Tells (tolerate p describe fault) := by
  unfold tolerate
  split
  · exact inOrder_warn h _
  · exact .fail

theorem inOrder_fillField (h : Tells b p) (name : String) (value : Option String) :
    InOrder call b Tells (fillField (.onMemory n lookups) (some (noting call)) p name value) := by
  have skip {b : Bool} {q : Progress String} (hq : Tells b q) (fault : Fault) : InOrder call b Tells
      (if fault.isOwn then warn q ("Skipped field '" ++ name ++ "': " ++ fault.message)
        else Act.fail fault) := by
    split
    · exact inOrder_warn hq _
    · exact .fail
  have resolve := Resolver.enquires_resolve n lookups (some name)
  refine (Leads.still (.enquires resolve)).attempt.andThen fun outcome => ?_
  cases outcome with
  | error fault => exact skip h fault
  | ok element =>
    obtain rfl := h.hooked
    refine (Leads.callHook p.hooked (begins_fill n lookups name value element)).attempt.andThen
      fun outcome => ?_
    have called : Tells true { p with hooked := true } := ⟨rfl, fun _ => rfl⟩
    cases outcome with
    | error fault => exact skip called fault
    | ok _ => exact .pure ⟨rfl, fun _ => rfl⟩

theorem inOrder_fillFields (h : Tells b p) (fields : List (String × Option String)) :
    InOrder call b Tells (fillFields (.onMemory n lookups) (some (noting call)) p fields) := by
  induction fields generalizing b p with
  | nil => exact .pure h
  | cons f fields ih => exact (inOrder_fillField h f.1 f.2).bind fun _ _ hq => ih hq

theorem inOrder_clickSubmit (h : Tells b p) : InOrder call b (fun _ _ => True)
    (clickSubmit (.onMemory n lookups) (some (noting call)) p) := by
  have tolerated {b : Bool} (describe : String → String) (fault : Fault) :
      InOrder call b (fun _ _ => True) (tolerate p describe fault) := by
    unfold tolerate
    split
    · exact .say trivial
    · exact .fail
  have found := Resolver.enquires_find n lookups .submitControl
  refine (Leads.still (.enquires found)).attempt.andThen fun outcome => ?_
  split
  · exact tolerated _ _
  · exact .say trivial
  · next control =>
    obtain rfl := h.hooked
    have clicked : Begins control (interact "click submit control" ((memoryBrowser n).click control)) :=
      .mapFault (.touch (t := .click) trivial)
    refine (Leads.callHook p.hooked clicked).attempt.andThen fun outcome => ?_
    split
    · exact tolerated _ _
    · exact .say trivial

theorem inOrder_sendForm (h : Tells b p) (count : Nat) : InOrder call b (fun _ _ => True)
    (sendForm (.onMemory n lookups) (some (noting call)) count p) := by
  unfold sendForm
  split
  · exact inOrder_clickSubmit h
  · next element filled =>
    obtain rfl := h.last (filled ▸ Option.some_ne_none element)
    have submitted : Touches Any (interact "submit form" ((memoryBrowser n).submit element)) :=
      .mapFault (.touch (t := .submit) trivial)
    refine (Leads.after submitted).attempt.andThen fun outcome => ?_
    split
    · exact .say trivial
    · exact (inOrder_tolerate h _ _).bind fun _ _ hq => inOrder_clickSubmit hq

theorem inOrder_perform (options : EnterOptions) (a : Action) : InOrder call false (fun _ _ => True)
    (perform options (.onMemory n lookups) (some (noting call)) a) := by
  cases a with
  | click target => exact inOrder_click n lookups call target
  | enter field value => exact inOrder_enter n lookups call options field value
  | submit fields =>
    have begun : Tells false ({} : Progress String) := ⟨rfl, nofun⟩
    refine (inOrder_fillFields begun fields).bind fun _ _ h => ?_
    exact (inOrder_sendForm h _).bind fun _ _ _ => .pure trivial

end Perform

/-! ## Journals -/

/-- The order of the entries of an action. Besides touches and the hook there may be asides, which are
entries of what the hook does. -/
structure HookFirst (returns : String → Prop) (entries : List JournalEntry) : Prop where
  once : ∀ before element after, entries = before ++ .hook element :: after →
    ∀ other, .hook other ∉ before ∧ .hook other ∉ after
  before : ∀ before element after, entries = before ++ .hook element :: after →
    ∀ x ∈ before, x.Touches Touch.Prepares
  after : ∀ before element touch after, entries = before ++ .touch element touch :: after →
    ¬touch.Prepares → ∃ hooked, .hook hooked ∈ before
  next : ∀ before element after, entries = before ++ .hook element :: after → returns element →
    ∃ asides touch rest, after = asides ++ .touch element touch :: rest ∧
      (∀ x ∈ asides, x.IsAside) ∧ touch.Begins

namespace HookFirst

variable {returns : String → Prop} {entries before after : List JournalEntry} {element : String}

theorem not_mem_of_touches {P : Touch → Prop} (h : ∀ x ∈ entries, x.Touches P) (other : String) :
    .hook other ∉ entries := fun mem => h _ mem

/-- Without the hook there are preparations only. -/
theorem of_prepares (h : ∀ x ∈ entries, x.Touches Touch.Prepares) : HookFirst returns entries := by
  have none {before after : List JournalEntry} {element : String}
      (eq : entries = before ++ .hook element :: after) : False :=
    not_mem_of_touches h element (eq ▸ List.mem_append_right _ List.mem_cons_self)
  refine ⟨fun _ _ _ eq => (none eq).elim, fun _ _ _ eq => (none eq).elim, ?_,
    fun _ _ _ eq => (none eq).elim⟩
  intro before element touch after eq unprepared
  exact (unprepared (h (.touch element touch) (eq ▸ List.mem_append_right _ List.mem_cons_self))).elim

/-- The hook stands in one place, and the order is seen from there. -/
theorem of_hook (prepares : ∀ x ∈ before, x.Touches Touch.Prepares)
    (single : ∀ other, .hook other ∉ after)
    (next : returns element → ∃ asides touch rest, after = asides ++ .touch element touch :: rest ∧
      (∀ x ∈ asides, x.IsAside) ∧ touch.Begins) :
    HookFirst returns (before ++ .hook element :: after) := by
  have place {before' after' : List JournalEntry} {element' : String}
      (eq : before ++ .hook element :: after = before' ++ .hook element' :: after') :
      before = before' ∧ element = element' ∧ after = after' := by
    have hook := (List.append_cons_inj_of_notMem (not_mem_of_touches prepares element')
      (single element')).mp eq
    exact ⟨hook.1, JournalEntry.hook.inj hook.2.1, hook.2.2⟩
  constructor
  · intro before' element' after' eq other
    obtain ⟨rfl, rfl, rfl⟩ := place eq
    exact ⟨not_mem_of_touches prepares other, single other⟩
  · intro before' element' after' eq
    obtain ⟨rfl, rfl, rfl⟩ := place eq
    exact prepares
  · intro before' element' touch after' eq unprepared
    -- The touch stands before the hook, where it would prepare, or after it.
    rcases List.append_eq_append_iff.mp eq with ⟨between, rfl, rest⟩ | ⟨between, rfl, rest⟩
    · cases between with
      | nil => cases rest
      | cons x between =>
        cases rest
        exact ⟨element, List.mem_append_right _ List.mem_cons_self⟩
    · cases between with
      | nil => cases rest
      | cons x between =>
        cases rest
        exact (unprepared (prepares (.touch _ touch) (List.mem_append_right _ List.mem_cons_self))).elim
  · intro before' element' after' eq
    obtain ⟨rfl, rfl, rfl⟩ := place eq
    exact next

end HookFirst

/-- The hook notes nothing in the journal but asides. -/
def Unobtrusive (call : String → Act (Scene MemoryPage) Unit) : Prop :=
  ∀ element, Act.Keeps (Scene.Noted JournalEntry.IsAside) (call element)

theorem FirstTouch.exists_hookFirst {call : String → Act (Scene MemoryPage) Unit}
    (unobtrusive : Unobtrusive call) {s t : Scene MemoryPage} (h : FirstTouch call s t) :
    ∃ entries, t.page.journal = s.page.journal ++ entries ∧
      HookFirst (fun element => ∀ s, (call element s).1 = .ok ()) entries := by
  cases h with
  | none before =>
    obtain ⟨entries, prepares, journal⟩ := before
    exact ⟨entries, journal, .of_prepares prepares⟩
  | @hooked element outcome s₁ s₂ h =>
    obtain ⟨⟨before, prepares, journal⟩, called, ⟨after, touches, journal'⟩, next⟩ := h
    obtain ⟨asides, aside, noted⟩ :=
      unobtrusive element { s₁ with page := s₁.page.note (.hook element) }
    have ended : s₂ = (call element { s₁ with page := s₁.page.note (.hook element) }).2 :=
      (congrArg Prod.snd called).symm
    rw [← ended] at noted
    have whole : t.page.journal = s.page.journal ++ (before ++ .hook element :: (asides ++ after)) := by
      rw [journal', noted]
      show s₁.page.journal ++ [_] ++ _ ++ _ = _
      rw [journal]
      simp only [List.append_assoc, List.cons_append, List.nil_append]
    refine ⟨_, whole, .of_hook prepares (fun other mem => ?_) fun returns => ?_⟩
    · rcases List.mem_append.mp mem with mem | mem
      · exact aside _ mem
      · exact touches _ mem
    · have ok : outcome = .ok () := (congrArg Prod.fst called).symm.trans (returns _)
      obtain ⟨touch, rest, begins, -, begun⟩ := next ok
      have first : after = .touch element touch :: rest :=
        List.append_cancel_left (journal'.symm.trans begun)
      exact ⟨asides, touch, rest, congrArg _ first, aside, begins⟩

/-- Whatever fails in an action, its hook is called at most once, and right before the first touch. If the
hook notes nothing but asides, this is seen from the journal alone. -/
theorem Registry.firstTouch {registry : Registry MemoryPage String} (standard : registry.IsStandard)
    (n : String) (lookups : List Lookup) (a : Action)
    (call : String → Act (Scene MemoryPage) Unit) (s : Scene MemoryPage) :
    let t := (registry.dispatch (.onMemory n lookups) (.action a) (some (noting call)) s).2
    FirstTouch call s t ∧ (Unobtrusive call → ∃ entries,
      t.page.journal = s.page.journal ++ entries ∧
        HookFirst (fun element => ∀ s, (call element s).1 = .ok ()) entries) := by
  intro t
  have firstTouch : FirstTouch call s t := by
    rcases standard.dispatch_cases (.onMemory n lookups) a (some (noting call)) with
      eq | ⟨options, text, eq⟩
    · exact .none (.of_eq (by rw [show t = s from congrArg Prod.snd (congrFun eq s)]))
    · have inOrder : InOrder call false (fun _ _ => True)
          (registry.dispatch (.onMemory n lookups) (.action a) (some (noting call))) := by
        rw [eq]
        exact (Leads.still .say).andThen fun _ => Perform.inOrder_perform options a
      obtain ⟨b, passes, -⟩ := inOrder s
      exact .of_passes passes
  exact ⟨firstTouch, fun unobtrusive => firstTouch.exists_hookFirst unobtrusive⟩

/-- A page on which typing into its field fails. -/
def stuckForm : MemoryPage where
  elements := [("mail", { failures := [(.type, .foreign ⟨.runtime, "stuck"⟩)] }), ("send", {})]
  places := [(.byAttribute "title" "Mail" [] false, "mail"), (.submitControl, "send")]

/-- A registry with a strategy for each type of action. -/
def Registry.complete : Registry MemoryPage String :=
  ⟨[(.click, .click), (.enter, .enter {}), (.submit, .submit)]⟩

theorem Registry.isStandard_complete : complete.IsStandard :=
  ⟨Strategy.standard {}, { page := stuckForm }, { page := stuckForm }, fun _ hx => ⟨{}, hx⟩, rfl⟩

/-- The first field of a form is not found, and typing into the second one fails. -/
theorem Registry.firstTouch_stuckForm :
    let call : String → Act (Scene MemoryPage) Unit := Scene.say .info .perform
    let t := (complete.dispatch (.onMemory "FakeDriver" Lookup.all)
      (.action (.submit [("Name", some "Ann"), ("Mail", some "a@b")])) (some (noting call))
      { page := stuckForm }).2
    let journal : List JournalEntry :=
      [.hook "mail", .touch "mail" .clear, .touch "mail" (.type (some "a@b")), .touch "send" .click]
    complete.IsStandard ∧ Unobtrusive call ∧ t.page.journal = journal ∧
      HookFirst (fun element => ∀ s, (call element s).1 = .ok ()) journal := by
  have unobtrusive : Unobtrusive (Scene.say .info .perform) := fun _ _ => .of_eq rfl
  have noted : (complete.dispatch (.onMemory "FakeDriver" Lookup.all)
      (.action (.submit [("Name", some "Ann"), ("Mail", some "a@b")]))
      (some (noting (Scene.say .info .perform))) { page := stuckForm }).2.page.journal =
      [.hook "mail", .touch "mail" .clear, .touch "mail" (.type (some "a@b")),
        .touch "send" .click] := by
    decide +kernel
  obtain ⟨-, seen⟩ := complete.firstTouch isStandard_complete "FakeDriver" Lookup.all
    (.submit [("Name", some "Ann"), ("Mail", some "a@b")]) (Scene.say .info .perform)
    { page := stuckForm }
  obtain ⟨entries, grown, first⟩ := seen unobtrusive
  rw [noted] at grown
  obtain rfl := grown
  exact ⟨isStandard_complete, unobtrusive, noted, first⟩

end Walkthrough
