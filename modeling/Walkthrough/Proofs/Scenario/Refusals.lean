import Walkthrough.Proofs.Scenario.Schema

/-! Refusals. A value none of whose integers is too long to be written (`Data.Short`), a JSON value among
them, is refused with a fault of the format if it is not of the form of documents: its parts are looked at
without an overlong integer (`Settles`), and what passes the form is accepted by the parts of the scenario,
but for its actions. -/

namespace Walkthrough

open Text

/-! ## Values without overlong integers -/

namespace Data

/-- No integer in the value is too long to be written. -/
inductive Short : Data → Prop
  | null : Short .null
  | bool (b : Bool) : Short (.bool b)
  | int {n : Int} (h : Number.isOverlong n = false) : Short (.int n)
  | float (x : Binary64) : Short (.float x)
  | text (s : String) : Short (.text s)
  | bytes (bs : List UInt8) : Short (.bytes bs)
  | date (d : Date) : Short (.date d)
  | moment (m : Moment) : Short (.moment m)
  | list {items : List Data} (h : ∀ d ∈ items, Short d) : Short (.list items)
  | group {items : List Data} (h : ∀ d ∈ items, Short d) : Short (.group items)
  | pair {first second : Data} (h : Short first) (h' : Short second) : Short (.pair first second)
  | map {es : List (Data × Data)} (keys : ∀ e ∈ es, Short e.1) (values : ∀ e ∈ es, Short e.2) :
    Short (.map es)

theorem IsJson.short {p : String → Prop} {d : Data} (h : d.IsJson p) : d.Short := by
  induction h with
  | null => exact .null
  | bool b => exact .bool b
  | int short => exact .int short
  | float x => exact .float x
  | text => exact .text _
  | list _ ih => exact .list ih
  | object _ _ _ ih =>
    refine .map (fun e he => ?_) fun e he => ?_
    · obtain ⟨f, -, rfl⟩ := List.mem_map.mp he
      exact .text _
    · obtain ⟨f, hf, rfl⟩ := List.mem_map.mp he
      exact ih f hf

theorem Short.lookup {key : String} {es : List (Data × Data)} {d : Data} (h : Short (.map es))
    (hd : Data.lookup key es = some d) : Short d := by
  cases h with
  | map _ values => exact values _ (mem_of_lookup hd)

end Data

/-! ## Looks at a value -/

namespace Checked

variable {α β : Type} {a : Checked α} {b : Checked β}

/-- The look at a part that meets no overlong integer. -/
abbrev Settled (a : Checked α) : Prop := a.FailsBy (· ≠ .overlong)

theorem settled_fail (cause : SchemaFault) : Settled (Checked.fail cause : Checked α) := .error nofun

theorem Settled.under {step : PathStep} (h : Settled a) : Settled (under step a) := by
  unfold Checked.under
  split
  · exact .ok _
  · exact .error nofun
  · exact absurd rfl (h _ rfl)

theorem Settled.both (ha : Settled a) (hb : Settled b) : Settled (both a b) := by
  unfold Checked.both
  split
  · exact .ok _
  · exact absurd rfl (ha _ rfl)
  · exact absurd rfl (hb _ rfl)
  · exact .error nofun
  · exact .error nofun

end Checked

namespace Document

open Checked

variable {d : Data} {es : List (Data × Data)} {key : String}

/-- A decoder that meets an overlong integer only if there is one in the value. -/
def Settles {α : Type} (decode : Data → Checked α) : Prop := ∀ d, d.Short → Settled (decode d)

namespace Settles

section

variable {α : Type} {decode : Data → Checked α}

theorem text : Settles text := by
  intro d hd
  cases hd with
  | int short =>
    rw [Document.text, short]
    exact .ok _
  | text | float => exact .ok _
  | bytes bs =>
    unfold Document.text
    dsimp only
    split
    · exact .ok _
    · exact settled_fail _
  | _ => exact settled_fail _

theorem visibleText (what : String) : Settles (visibleText what) := by
  intro d hd
  refine (text d hd).bind fun s => ?_
  split
  · exact settled_fail _
  split
  · exact settled_fail _
  split
  · exact settled_fail _
  · exact .ok _

theorem truth : Settles truth := by
  intro d _
  unfold Document.truth
  split
  · exact .ok _
  · exact settled_fail _

theorem mapOf (h : Settles decode) : Settles (mapOf decode) := by
  intro d hd
  cases hd with
  | @map es keys values =>
    refine .map ?_
    induction es with
    | nil => exact .ok _
    | cons e es ih =>
      obtain ⟨k, v⟩ := e
      obtain ⟨hk, keys⟩ := List.forall_mem_cons.mp keys
      obtain ⟨hv, values⟩ := List.forall_mem_cons.mp values
      have entry : Settled (both (under (keyStep k) (under (.key "[key]") (Document.text k)))
          (under (keyStep k) (decode v))) := (text k hk).under.under.both (h v hv).under
      exact (entry.both (ih keys values)).bind fun _ => .ok _
  | _ => exact settled_fail _

theorem texts : Settles texts := text.mapOf

theorem listOf (h : Settles decode) : Settles (listOf decode) := by
  have items {is : List Data} (his : ∀ i ∈ is, i.Short) (n : Nat) :
      Settled (itemsFrom decode n is) := by
    induction is generalizing n with
    | nil => exact .ok _
    | cons i is ih =>
      obtain ⟨hi, his⟩ := List.forall_mem_cons.mp his
      exact ((h i hi).under.both (ih his (n + 1))).bind fun _ => .ok _
  intro d hd
  cases hd with
  | list his | group his => exact items his 0
  | _ => exact settled_fail _

theorem optional (h : Settles decode) : Settles (optional decode) := by
  intro d hd
  unfold Document.optional
  split
  · exact .ok _
  · exact (h d hd).map

theorem nullable {empty : α} (h : Settles decode) : Settles (nullable empty decode) := by
  intro d hd
  unfold Document.nullable
  split
  · exact .ok _
  · exact h d hd

theorem object {type : String} {next : List (Data × Data) → Checked α}
    (h : ∀ es, (Data.map es).Short → Settled (next es)) :
    Settles fun d => Document.object type d >>= next := by
  intro d hd
  cases d with
  | map es => exact h es hd
  | _ => exact settled_fail _

variable (hes : (Data.map es).Short)

include hes

theorem required (h : Settles decode) : Settled (required key decode es) := by
  unfold Document.required
  split
  · exact (settled_fail _).under
  · next d hl => exact (h d (hes.lookup hl)).under

theorem withDefault {default : α} (h : Settles decode) :
    Settled (withDefault key default decode es) := by
  unfold Document.withDefault
  split
  · exact .ok _
  · next d hl => exact (h d (hes.lookup hl)).under

end

theorem context : Settles context := by
  intro d hd
  refine (texts.nullable d hd).bind fun entries => ?_
  split
  · exact .ok _
  · exact settled_fail _

theorem feature : Settles feature :=
  object fun _ hes => ((truth.required hes).both (context.withDefault hes)).bind fun _ => .ok _

theorem expected : Settles expected :=
  object fun _ hes =>
    (((visibleText _).required hes).both (text.required hes)).bind fun _ => .ok _

theorem action : Settles action := by
  refine object fun es hes => .bind ?_ fun _ => .ok _
  exact (text.required hes).both <| (text.optional.withDefault hes).both <|
    (text.optional.withDefault hes).both <| (text.optional.withDefault hes).both <|
    texts.optional.withDefault hes

theorem page : Settles page := by
  refine object fun es hes => .bind ?_ fun _ => .ok _
  exact ((visibleText _).required hes).both <| (expected.listOf.nullable.withDefault hes).both <|
    action.required hes

theorem ofEntries (hes : (Data.map es).Short) : Settled (ofEntries es) := by
  refine .bind ?_ fun _ => .ok _
  exact ((visibleText _).required hes).both <| (feature.mapOf.nullable.withDefault hes).both <|
    page.listOf.nullable.withDefault hes

end Settles

theorem toPages_eq_error {n : Nat} {ps : List PageEntry} {r : Refusal}
    (shown : ∀ p ∈ ps, isBlankText p.name = false ∧ ∀ e ∈ p.expected, isBlankText e.target = false)
    (h : toPages n ps = .error r) : ∃ k cause, r = .action k cause := by
  induction ps generalizing n with
  | nil => cases h
  | cons p ps ih =>
    obtain ⟨hn, he⟩ := shown p List.mem_cons_self
    have created : ∀ a es, accept (Page.create (some p.name) (some a) es) = .ok ⟨p.name, a, es⟩ := by
      intro a es
      rw [Page.create, hn]
      rfl
    rw [toPages] at h
    split at h
    · next cause _ =>
      cases h
      exact ⟨n, cause, rfl⟩
    · next a _ =>
      simp only [toExpected_eq he, created] at h
      cases hr : toPages (n + 1) ps with
      | ok qs =>
        rw [hr] at h
        cases h
      | error r' =>
        rw [hr] at h
        cases h
        exact ih (fun p hp => shown p (List.mem_cons_of_mem _ hp)) hr

/-- A document that passes the form is refused for an action only. -/
theorem Sound.toScenario_eq_error {doc : Document} {r : Refusal} (hd : doc.Sound)
    (h : doc.toScenario = .error r) : ∃ k cause, r = .action k cause := by
  have shown : ∀ p ∈ doc.pages,
      isBlankText p.name = false ∧ ∀ e ∈ p.expected, isBlankText e.target = false :=
    fun p hp => ⟨(hd.pages p hp).1.2, fun e he => ((hd.pages p hp).2.1 e he).2⟩
  cases hp : toPages 0 doc.pages with
  | error r' =>
    rw [Document.toScenario, toFeatures_eq fun e he => (hd.features e he).2, hp] at h
    cases h
    exact toPages_eq_error shown hp
  | ok ps =>
    have given := hd.toScenario_eq_ok_iff (s := ⟨doc.host, _, ps⟩) |>.mpr
      ⟨rfl, rfl, (toPages_eq_ok_iff shown).mp hp⟩
    rw [given] at h
    cases h

/-- A value that is no document is refused with a fault of the format, or for an integer in it that is
too long to be written. -/
theorem format_or_overlong_of_refused {r : Refusal} (h : scenarioOf d = .error r) :
    (∃ message path, r.toFault = .format message { path := some (renderPath path) }) ∨
      r = .overlong ∧ ¬d.Short := by
  unfold scenarioOf at h
  split at h
  · next es =>
    split at h
    · next flaw _ =>
      cases h
      exact .inl ⟨_, flaw.path, rfl⟩
    · next overlong =>
      cases h
      exact .inr ⟨rfl, fun short => Settles.ofEntries short _ overlong rfl⟩
    · next doc hdoc =>
      obtain ⟨k, cause, rfl⟩ := (ofEntries_sound hdoc).toScenario_eq_error h
      exact .inl ⟨_, [.key "pages", .index k, .key "action"], rfl⟩
  · cases h
    exact .inl ⟨_, [], rfl⟩

/-- A JSON value that is no document is refused with a fault of the format. -/
theorem exists_format_of_refused {p : String → Prop} {r : Refusal} (hd : d.IsJson p)
    (h : scenarioOf d = .error r) :
    ∃ message path, r.toFault = .format message { path := some (renderPath path) } :=
  (format_or_overlong_of_refused h).resolve_right fun ⟨_, long⟩ => long hd.short

end Document

namespace Scenario

open Document

/-- A JSON value without lone surrogates is read as a scenario exactly if it is an object of the
form, and any other is refused with a fault of the format. Integers that are too long to be written are left
out, as no JSON text is read as a value with one (`Data.IsJson.int`). -/
theorem ofData_form {d : Data} (hd : d.IsWholeJson) :
    (∀ s, ofData d = .ok s ↔ Object ScenarioForm d s) ∧
      ((∀ s, ¬Object ScenarioForm d s) →
        ∃ message path, ofData d = .error (.format message { path := some (renderPath path) })) := by
  have form : ∀ s, ofData d = .ok s ↔ Object ScenarioForm d s := fun s => by
    rw [ofData_eq_ok_iff, scenarioOf_eq_ok_iff_form hd]
  refine ⟨form, fun none => ?_⟩
  cases h : scenarioOf d with
  | ok s => exact absurd ((form s).mp (ofData_eq_ok_iff.mpr h)) (none s)
  | error r =>
    obtain ⟨message, path, hr⟩ := exists_format_of_refused hd h
    refine ⟨message, path, ?_⟩
    rw [ofData, h, ← hr]
    rfl

/-- A page that submits, and one whose click has no target. -/
theorem ofData_form_submit :
    let document (action : List (String × Data)) : Data := .object [("host", .text "h"),
      ("pages", .list [.object [("name", .text "p"), ("action", .object action)]])]
    let d := document [("actionType", .text "Submit"), ("fields", .null)]
    let d' := document [("actionType", .text "Click")]
    (d.IsWholeJson ∧ Object ScenarioForm d ⟨"h", [], [⟨"p", .submit [], []⟩]⟩) ∧
      d'.IsWholeJson ∧ ∀ s, ¬Object ScenarioForm d' s := by
  intro document d d'
  have whole {action : List (String × Data)} (h : (Data.object action).IsWholeJson) :
      (document action).IsWholeJson := by
    have names : ["name", "action"].Nodup ∧ ["host", "pages"].Nodup := by decide
    have p : (Data.text "p").IsWholeJson := .text (by decide)
    have page : (Data.object [("name", .text "p"), ("action", .object action)]).IsWholeJson :=
      .object names.1 (by simp; decide) (by simp [h, p])
    have host : (Data.text "h").IsWholeJson := .text (by decide)
    have pages := Data.IsJson.list (List.forall_mem_singleton.mpr page)
    exact .object names.2 (by simp; decide) (by simp [host, pages])
  have hd : d.IsWholeJson := by
    have type : (Data.text "Submit").IsWholeJson := .text (by decide)
    exact whole (.object (by decide) (by simp; decide) (by simp [type, Data.IsJson.null]))
  have hd' : d'.IsWholeJson := by
    have type : (Data.text "Click").IsWholeJson := .text (by decide)
    exact whole (.object (by decide) (by simp; decide) (by simp [type]))
  refine ⟨⟨hd, ((ofData_form hd).1 _).mp rfl⟩, hd', fun s hs => ?_⟩
  cases ((ofData_form hd').1 s).mpr hs

end Scenario

end Walkthrough
