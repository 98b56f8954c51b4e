import Walkthrough.Proofs.Run.Watching
import Walkthrough.Run.Lookup

/-! Pairs of steps that agree: from scenes with twin pages they end with the same fault or with related
values, and leave twin pages. Disk, log and flags of the two scenes have nothing to do with each other, so
steps that only watch may stand on either side. Finding and reading fields agrees on any two scenes with
twin pages. -/

namespace Walkthrough

/-- From scenes with twin pages the steps end alike, and leave twin pages. -/
def Agree {α β : Type} (R : α → β → Prop) (act : Act (Scene MemoryPage) α)
    (act' : Act (Scene MemoryPage) β) : Prop :=
  ∀ s t, s.page.Twins t.page →
    Outcomes R (act s).1 (act' t).1 ∧ (act s).2.page.Twins (act' t).2.page

/-- What is known of an outcome, given what is known of a value. -/
abbrev Sound {α : Type} (P : α → Prop) : Except Fault α → Prop := Holds P Speaks

/-- Nothing is known of a value. -/
abbrev Any {α : Type} : α → Prop := fun _ => True

theorem Outcomes.same {α : Type} {P : α → Prop} {x y : Except Fault α}
    (h : Outcomes (Same P) x y) : Same (Sound P) x y := by
  cases h with
  | ok h => exact ⟨congrArg _ h.1, h.2⟩
  | error h => exact ⟨rfl, h⟩

theorem Outcomes.mapError {α β : Type} {R : α → β → Prop} {x : Except Fault α} {y : Except Fault β}
    {f : Fault → Fault} (h : Outcomes R x y) (hf : ∀ fault, Speaks fault → Speaks (f fault)) :
    Outcomes R (x.mapError f) (y.mapError f) := by
  cases h with
  | ok h => exact .ok h
  | error h => exact .error (hf _ h)

theorem Holds.exists_ok {ε α : Type} {P : α → Prop} {x : Except ε α}
    (h : Holds P (fun _ => False) x) : ∃ a, x = .ok a := by
  cases x with
  | ok a => exact ⟨a, rfl⟩
  | error e => exact h.elim

namespace Agree

variable {α α' β β' : Type} {P : α → Prop} {R : α → α' → Prop} {S : β → β' → Prop}
  {act : Act (Scene MemoryPage) α} {act' : Act (Scene MemoryPage) α'}
  {act₁ act₂ : Act (Scene MemoryPage) α}

theorem pure {a : α} {a' : α'} (h : R a a') : Agree R (Pure.pure a) (Pure.pure a') :=
  fun _ _ hp => ⟨.ok h, hp⟩

theorem fail {fault : Fault} (h : Speaks fault) :
    Agree R (Act.fail fault : Act _ α) (Act.fail fault : Act _ α') :=
  fun _ _ hp => ⟨.error h, hp⟩

theorem bind {next : α → Act (Scene MemoryPage) β} {next' : α' → Act (Scene MemoryPage) β'}
    (h : Agree R act act') (h' : ∀ a a', R a a' → Agree S (next a) (next' a')) :
    Agree S (act >>= next) (act' >>= next') := by
  intro s t hp
  have ⟨ho, hp'⟩ := h s t hp
  rw [Act.bind_apply, Act.bind_apply]
  cases hs : act s with | mk x s₁
  cases ht : act' t with | mk y t₁
  rw [hs, ht] at ho hp'
  cases ho with
  | ok hr => exact h' _ _ hr s₁ t₁ hp'
  | error hf => exact ⟨.error hf, hp'⟩

/-- The steps that follow the same value. -/
theorem andThen {next : α → Act (Scene MemoryPage) β} {next' : α → Act (Scene MemoryPage) β'}
    (h : Agree (Same P) act₁ act₂) (h' : ∀ a, P a → Agree S (next a) (next' a)) :
    Agree S (act₁ >>= next) (act₂ >>= next') :=
  h.bind fun a _ ⟨ha, hp⟩ => ha ▸ h' a hp

theorem attempt (h : Agree (Same P) act₁ act₂) :
    Agree (Same (Sound P)) act₁.attempt act₂.attempt := fun s t hp =>
  ⟨.ok (h s t hp).1.same, (h s t hp).2⟩

/-- The steps that follow an attempt: some after a fault and some after a value. -/
theorem recover {next : Except Fault α → Act (Scene MemoryPage) β}
    {next' : Except Fault α → Act (Scene MemoryPage) β'} (h : Agree (Same P) act₁ act₂)
    (failed : ∀ fault, Speaks fault → Agree S (next (.error fault)) (next' (.error fault)))
    (done : ∀ a, P a → Agree S (next (.ok a)) (next' (.ok a))) :
    Agree S (act₁.attempt >>= next) (act₂.attempt >>= next') := by
  refine h.attempt.andThen fun outcome ho => ?_
  cases outcome with
  | error fault => exact failed fault ho
  | ok a => exact done a ho

theorem mapFault {f : Fault → Fault} (h : Agree R act act')
    (hf : ∀ fault, Speaks fault → Speaks (f fault)) : Agree R (act.mapFault f) (act'.mapFault f) :=
  fun s t hp => (h s t hp).imp_left (·.mapError hf)

/-- Steps that only watch and never fail agree, whichever they are. -/
theorem of_succeeds {act act' : Act (Scene MemoryPage) Unit} (h : Succeeds Any act)
    (h' : Succeeds Any act') : Agree (Same Any) act act' := by
  intro s t hp
  have ⟨ho, paths, hq⟩ := h s hp.left
  have ⟨ho', paths', hq'⟩ := h' t hp.right
  obtain ⟨_, ho⟩ := ho.exists_ok
  obtain ⟨_, ho'⟩ := ho'.exists_ok
  rw [ho, ho', hq, hq']
  exact ⟨.ok (.rfl trivial), hp.withPictures paths paths'⟩

/-- What a step looks at does not matter if it agrees whatever it sees. -/
theorem get {next : Scene MemoryPage → Act (Scene MemoryPage) α}
    {next' : Scene MemoryPage → Act (Scene MemoryPage) α'} (h : ∀ s t, Agree R (next s) (next' t)) :
    Agree R (Act.get >>= next) (Act.get >>= next') := fun s t => h s t s t

theorem say {level level' : Level} {channel channel' : Channel} {text text' : String} :
    Agree (Same Any) (Scene.say level channel text) (Scene.say level' channel' text') :=
  of_succeeds .say .say

theorem onPage {call : MemoryPage → Except Fault α × MemoryPage}
    (h : MemoryPage.Parallel P call) : Agree (Same P) (Scene.onPage call) (Scene.onPage call) :=
  fun s t hp => h s.page t.page hp

/-- A failed call is described by what failed. -/
theorem wrap {describe : String → String} (h : Agree R act act')
    (hd : ∀ text, Text.Proper text → Text.Proper (describe text)) :
    Agree R (act.mapFault (Fault.wrap describe)) (act'.mapFault (Fault.wrap describe)) :=
  h.mapFault fun fault hf => by
    cases fault with
    | foreign f => exact hd _ hf
    | _ => exact hf

end Agree

/-! ## Look-ups -/

theorem Lookup.agree_run (n m : String) {field : String} (l : Lookup) :
    Agree (Same Any) (l.run (memoryBrowser n) field) (l.run (memoryBrowser m) field) := by
  have locate : ∀ l : Locator,
      Agree (Same Any) ((memoryBrowser n).locate l) ((memoryBrowser m).locate l) :=
    fun l => .onPage (MemoryPage.parallel_locate l)
  cases l with
  | labelFor =>
    refine (locate _).andThen fun label _ => ?_
    cases label with
    | none => exact .pure (.rfl trivial)
    | some label =>
      refine Agree.andThen (.onPage (MemoryPage.parallel_readAttribute label "for")) fun id _ => ?_
      split
      · exact .pure (.rfl trivial)
      · exact .pure (.rfl trivial)
      · exact locate _
  | _ => exact locate _

theorem Lookup.proper_name (l : Lookup) : Text.Proper l.name := by
  cases l <;> exact .literal rfl

theorem Locator.proper_kind (l : Locator) : Text.Proper l.kind := by
  cases l <;> simp only [Locator.kind] <;> exact .literal rfl

namespace Resolver

variable {n m field : String} {lookups : List Lookup}

theorem agree_find (n m : String) (lookups : List Lookup) (l : Locator) :
    Agree (Same Any) (find ⟨memoryBrowser n, lookups⟩ l) (find ⟨memoryBrowser m, lookups⟩ l) :=
  Agree.wrap (.onPage (MemoryPage.parallel_locate l)) fun _ ht =>
    .append (.append (.append (.literal rfl) l.proper_kind) (.literal rfl)) ht

theorem agree_firstOf (n m : String) (hf : Text.Proper field) (ls : List Lookup) :
    Agree (Same Any) (firstOf ⟨memoryBrowser n, lookups⟩ field ls)
      (firstOf ⟨memoryBrowser m, lookups⟩ field ls) := by
  induction ls with
  | nil => exact .bind .say fun _ _ _ => .fail (.append (.append (.literal rfl) hf) (.literal rfl))
  | cons l ls ih =>
    have tried : Agree (Same Any) (tryLookup ⟨memoryBrowser n, lookups⟩ field l)
        (tryLookup ⟨memoryBrowser m, lookups⟩ field l) :=
      (l.agree_run n m).wrap fun _ ht =>
        .append (.append (.append (.append l.proper_name (.literal rfl)) hf) (.literal rfl)) ht
    refine tried.andThen fun found _ => ?_
    cases found with
    | none => exact .bind .say fun _ _ _ => ih
    | some element => exact .bind .say fun _ _ _ => .pure (.rfl trivial)

theorem agree_resolve (n m : String) {field : Option String} (hf : ∀ f ∈ field, Text.Proper f) :
    Agree (Same Any) (resolve ⟨memoryBrowser n, lookups⟩ field)
      (resolve ⟨memoryBrowser m, lookups⟩ field) := by
  cases field with
  | none => exact .fail (.literal rfl)
  | some f =>
    unfold resolve
    by_cases hb : Text.isBlankText f
    · simp only [hb, if_true]
      exact .fail (.literal rfl)
    · simp only [hb]
      exact agree_firstOf n m (hf f rfl) lookups

theorem agree_valueOf (n m : String) (hf : Text.Proper field) :
    Agree (Same Text.Proper) (valueOf ⟨memoryBrowser n, lookups⟩ field)
      (valueOf ⟨memoryBrowser m, lookups⟩ field) := by
  have hf' : ∀ f ∈ some field, Text.Proper f := fun f h => Option.mem_some.mp h ▸ hf
  refine (agree_resolve n m hf').andThen fun element _ => Agree.wrap ?_ fun _ ht =>
    .append (.append (.append (.literal rfl) hf) (.literal rfl)) ht
  refine Agree.andThen (.onPage (MemoryPage.parallel_readAttribute element "value"))
    fun value hv => ?_
  cases value with
  | none => exact .onPage (MemoryPage.parallel_readText element)
  | some value => exact .pure (.rfl (hv value rfl))

end Resolver

end Walkthrough
