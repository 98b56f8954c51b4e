import Mathlib.Data.List.Forall2
import Mathlib.Order.Defs.Unbundled
import Walkthrough.Act

/-! Steps that may fail and what they keep, lists that are related item by item, and properties of all
characters of a text. -/

namespace Except

variable {ε α β : Type}

theorem bind_eq_ok_iff {x : Except ε α} {f : α → Except ε β} {b : β} :
    x >>= f = .ok b ↔ ∃ a, x = .ok a ∧ f a = .ok b := by
  cases x with
  | error e => exact ⟨nofun, nofun⟩
  | ok a => exact ⟨fun h => ⟨a, rfl, h⟩, fun ⟨_, h, h'⟩ => by cases h; exact h'⟩

theorem bind_eq_error_iff {x : Except ε α} {f : α → Except ε β} {e : ε} :
    x >>= f = .error e ↔ x = .error e ∨ ∃ a, x = .ok a ∧ f a = .error e := by
  cases x with
  | error e' =>
    constructor
    · intro h
      cases h
      exact .inl rfl
    · rintro (h | ⟨a, h, -⟩)
      · cases h
        rfl
      · cases h
  | ok a =>
    constructor
    · intro h
      exact .inr ⟨a, rfl, h⟩
    · rintro (h | ⟨a', h, h'⟩)
      · cases h
      · cases h
        exact h'

theorem map_eq_ok_iff {x : Except ε α} {f : α → β} {b : β} :
    x.map f = .ok b ↔ ∃ a, x = .ok a ∧ f a = b := by
  cases x with
  | error e => exact ⟨nofun, nofun⟩
  | ok a => exact ⟨fun h => ⟨a, rfl, by cases h; rfl⟩, fun ⟨_, h, h'⟩ => by cases h; rw [← h']; rfl⟩

theorem map_eq_error_iff {x : Except ε α} {f : α → β} {e : ε} : x.map f = .error e ↔ x = .error e := by
  cases x with
  | error e' => simp [Except.map]
  | ok a => simp [Except.map]

theorem mapError_eq_ok_iff {ε' : Type} {x : Except ε α} {f : ε → ε'} {a : α} :
    x.mapError f = .ok a ↔ x = .ok a := by
  cases x with
  | error e => exact ⟨nofun, nofun⟩
  | ok b => exact ⟨fun h => by cases h; rfl, fun h => by cases h; rfl⟩

theorem bind_eq_map_bind {γ δ : Type} {x : Except ε α} {x' : Except ε β} {k : α → Except ε γ}
    {k' : β → Except ε δ} {g : α → β} {g' : γ → δ} (hx : x' = x.map g)
    (hk : ∀ a, k' (g a) = (k a).map g') : x' >>= k' = (x >>= k).map g' := by
  subst hx
  cases x with
  | error e => rfl
  | ok a => exact hk a

/-- What is no value is an error of which `P` holds. -/
def FailsBy (P : ε → Prop) (x : Except ε α) : Prop := ∀ e, x = .error e → P e

namespace FailsBy

variable {P : ε → Prop} {x y : Except ε α} {next : α → Except ε β}

theorem ok (a : α) : FailsBy P (.ok a : Except ε α) := nofun

theorem pure {a : α} : FailsBy P (Pure.pure a : Except ε α) := nofun

theorem error {e : ε} (h : P e) : FailsBy P (.error e : Except ε α) := by
  rintro _ ⟨⟩
  exact h

/-- An error that is passed on. -/
theorem rethrow {e : ε} (h : FailsBy P x) (eq : x = .error e) :
    FailsBy P (.error e : Except ε β) := error (h e eq)

theorem bind_of_ok (h : FailsBy P x) (h' : ∀ a, x = .ok a → FailsBy P (next a)) :
    FailsBy P (x >>= next) := by
  cases x with
  | ok a => exact h' a rfl
  | error e => exact h.rethrow rfl

theorem bind (h : FailsBy P x) (h' : ∀ a, FailsBy P (next a)) : FailsBy P (x >>= next) :=
  h.bind_of_ok fun a _ => h' a

theorem map {f : α → β} (h : FailsBy P x) : FailsBy P (x.map f) := h.bind fun _ => ok _

theorem ite {p : Prop} [Decidable p] (h : FailsBy P x) (h' : FailsBy P y) :
    FailsBy P (if p then x else y) := by
  split
  · exact h
  · exact h'

theorem mapM {f : α → Except ε β} (h : ∀ a, FailsBy P (f a)) (as : List α) :
    FailsBy P (as.mapM f) := by
  induction as with
  | nil => exact pure
  | cons a as ih =>
    rw [List.mapM_cons]
    exact (h a).bind fun _ => ih.bind fun _ => pure

end FailsBy

end Except

namespace Walkthrough.Act

variable {σ α β : Type} {act : Act σ α} {next : α → Act σ β} {s s' : σ}

theorem bind_of_ok {a : α} (h : act s = (.ok a, s')) : (act >>= next) s = next a s' := by
  rw [bind_apply, h]

theorem bind_of_error {fault : Fault} (h : act s = (.error fault, s')) :
    (act >>= next) s = (.error fault, s') := by
  rw [bind_apply, h]

/-- Steps one after the other succeed if each of them does. -/
theorem exists_of_bind_eq_ok {b : β} (h : (act >>= next) s = (.ok b, s')) :
    ∃ a s₁, act s = (.ok a, s₁) ∧ next a s₁ = (.ok b, s') := by
  rw [bind_apply] at h
  cases hs : act s with | mk outcome s₁
  rw [hs] at h
  cases outcome with
  | error fault => cases h
  | ok a => exact ⟨a, s₁, rfl, h⟩

theorem bind_assoc {γ : Type} (act : Act σ α) (next : α → Act σ β) (last : β → Act σ γ) :
    act >>= next >>= last = act >>= fun a => next a >>= last := by
  funext s
  rw [bind_apply, bind_apply, bind_apply]
  cases act s with | mk outcome s₁
  cases outcome with
  | error fault => rfl
  | ok a => rfl

/-- Of steps one after the other the first fails, or the rest decides. -/
theorem bind_cases (act : Act σ α) (next : α → Act σ β) (s : σ) :
    (∃ fault s₁, act s = (.error fault, s₁) ∧ (act >>= next) s = (.error fault, s₁)) ∨
      ∃ a s₁, act s = (.ok a, s₁) ∧ (act >>= next) s = next a s₁ := by
  rw [bind_apply]
  cases act s with | mk outcome s₁
  cases outcome with
  | error fault => exact .inl ⟨fault, s₁, rfl, rfl⟩
  | ok a => exact .inr ⟨a, s₁, rfl, rfl⟩

/-- Steps one after the other fail if the first or the rest does. -/
theorem cases_of_bind_eq_error {fault : Fault} (h : (act >>= next) s = (.error fault, s')) :
    act s = (.error fault, s') ∨ ∃ a s₁, act s = (.ok a, s₁) ∧ next a s₁ = (.error fault, s') := by
  rcases bind_cases act next s with ⟨fault', s₁, hs, eq⟩ | ⟨a, s₁, hs, eq⟩
  · obtain ⟨rfl, rfl⟩ : fault' = fault ∧ s₁ = s' := by
      cases eq.symm.trans h
      exact ⟨rfl, rfl⟩
    exact .inl hs
  · exact .inr ⟨a, s₁, hs, eq.symm.trans h⟩

theorem eq_of_attempt {outcome : Except Fault α} (h : act.attempt s = (.ok outcome, s')) :
    act s = (outcome, s') := by
  rw [attempt_apply] at h
  cases h
  rfl

/-! ## What steps keep -/

/-- Whatever the step comes to, the state before and the one after are related. -/
def Keeps (R : σ → σ → Prop) (act : Act σ α) : Prop := ∀ s, R s (act s).2

namespace Keeps

variable {R R' : σ → σ → Prop} {fault : Fault}

theorem mono (h : Keeps R act) (hR : ∀ s t, R s t → R' s t) : Keeps R' act := fun s =>
  hR _ _ (h s)

theorem of_eq (h : Keeps R act) {done : Except Fault α × σ} (eq : act s = done) : R s done.2 :=
  eq ▸ h s

theorem of_apply (h : Keeps R act) {outcome : Except Fault α} (eq : act s = (outcome, s')) : R s s' :=
  h.of_eq eq

theorem attempt (h : Keeps R act) : Keeps R act.attempt := h

theorem mapFault {f : Fault → Fault} (h : Keeps R act) : Keeps R (act.mapFault f) := h

variable [IsPreorder σ R]

theorem pure {a : α} : Keeps R (Pure.pure a) := fun s => refl_of R s

theorem fail : Keeps R (Act.fail fault : Act σ α) := fun s => refl_of R s

theorem get : Keeps R Act.get := fun s => refl_of R s

theorem bind (h : Keeps R act) (h' : ∀ a, Keeps R (next a)) : Keeps R (act >>= next) := by
  intro s
  have first := h s
  rcases bind_cases act next s with ⟨fault, s₁, hs, eq⟩ | ⟨a, s₁, hs, eq⟩
  · rw [hs] at first
    rw [eq]
    exact first
  · rw [hs] at first
    rw [eq]
    exact trans_of R first (h' a s₁)

end Keeps

end Walkthrough.Act

namespace List.Forall₂

variable {α β : Type} {R : α → β → Prop} {as : List α} {bs : List β}

theorem exists_of_mem (h : Forall₂ R as bs) {b : β} (hb : b ∈ bs) : ∃ a ∈ as, R a b := by
  induction h with
  | nil => cases hb
  | cons hr _ ih =>
    rcases mem_cons.mp hb with rfl | hb
    · exact ⟨_, mem_cons_self, hr⟩
    · obtain ⟨a, ha, hr⟩ := ih hb
      exact ⟨a, mem_cons_of_mem _ ha, hr⟩

theorem exists_of_getElem? (h : Forall₂ R as bs) {i : Nat} {b : β} (hb : bs[i]? = some b) :
    ∃ a, as[i]? = some a ∧ R a b := by
  induction h generalizing i with
  | nil => cases hb
  | cons hr _ ih =>
    cases i with
    | zero =>
      cases hb
      exact ⟨_, rfl, hr⟩
    | succ i => exact ih hb

/-- Lists that are related through a list between them are related item by item. -/
theorem exists_iff {γ : Type} {S : β → γ → Prop} {cs : List γ} :
    (∃ bs, Forall₂ R as bs ∧ Forall₂ S bs cs) ↔ Forall₂ (fun a c => ∃ b, R a b ∧ S b c) as cs := by
  constructor
  · rintro ⟨bs, h, h'⟩
    induction h generalizing cs with
    | nil =>
      cases h'
      exact .nil
    | cons hr _ ih =>
      cases h' with
      | cons hs h' => exact .cons ⟨_, hr, hs⟩ (ih h')
  · intro h
    induction h with
    | nil => exact ⟨[], .nil, .nil⟩
    | cons hb _ ih =>
      obtain ⟨b, hr, hs⟩ := hb
      obtain ⟨bs, h, h'⟩ := ih
      exact ⟨b :: bs, .cons hr h, .cons hs h'⟩

/-- A relation may be replaced by one that agrees with it on the items of the first list. -/
theorem congr_left {S : α → β → Prop} (h : ∀ a ∈ as, ∀ b, R a b ↔ S a b) :
    Forall₂ R as bs ↔ Forall₂ S as bs := by
  constructor
  · intro hr
    exact ((forall₂_and_left as bs).mpr ⟨h, hr⟩).imp fun a b ⟨hab, hr⟩ => (hab b).mp hr
  · intro hs
    exact ((forall₂_and_left as bs).mpr ⟨h, hs⟩).imp fun a b ⟨hab, hs⟩ => (hab b).mpr hs

end List.Forall₂

namespace Walkthrough.Text

variable {p : Char → Prop} [DecidablePred p]

/-- What is said of the characters of a text is decided along the text, not along all characters. -/
instance (priority := high) decidableForallMem (cs : List Char) : Decidable (∀ c ∈ cs, p c) :=
  List.decidableBAll p cs

instance (priority := high) decidableForallMemOption (o : Option Char) :
    Decidable (∀ c ∈ o, p c) :=
  Option.decidableForallMem o

end Walkthrough.Text
