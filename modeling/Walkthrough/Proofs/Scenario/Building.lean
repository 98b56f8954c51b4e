import Walkthrough.Proofs.Scenario.Locations

/-! Which types and entries make an action, and what is wrong with all others. `Action.Asked` says what asks
for an action and `Action.Faulty` what is found wrong first with what asks for none; building follows the two
(`Action.build_eq_ok_iff`, `Action.build_eq_error_iff`) and looks at no entry under another key
(`Action.build_congr`). At a place, a type that JSON writes is refused with a fault of the format at that
place and with no other (`Action.buildAt_accepts`). Scripts and documents build their actions this way, each
at places of its own. -/

namespace Walkthrough

open Text

/-! ## Values that can be shown -/

namespace Data

theorem anyOverlong_eq_false_iff {items : List Data} :
    anyOverlong items = false ↔ ∀ d ∈ items, d.hasOverlong = false := by
  induction items with
  | nil => simp [anyOverlong]
  | cons d items ih => simp [anyOverlong, ih]

theorem anyEntryOverlong_eq_false_iff {es : List (Data × Data)} :
    anyEntryOverlong es = false ↔ ∀ e ∈ es, e.1.hasOverlong = false ∧ e.2.hasOverlong = false := by
  induction es with
  | nil => simp [anyEntryOverlong]
  | cons e es ih => simp [anyEntryOverlong, ih, and_assoc]

theorem Short.hasOverlong_eq_false {d : Data} (h : d.Short) : d.hasOverlong = false := by
  induction h with
  | int short => exact short
  | list _ ih | group _ ih => exact anyOverlong_eq_false_iff.mpr ih
  | pair _ _ ih ih' => simp [hasOverlong, ih, ih']
  | map _ _ keys values => exact anyEntryOverlong_eq_false_iff.mpr fun e he => ⟨keys e he, values e he⟩
  | _ => rfl

end Data

/-- The keys under which the entries for an action of a type are looked up. -/
def ActionType.keys : ActionType → List String
  | .click => ["target"]
  | .enter => ["targetField", "value"]
  | .submit => ["fields"]

/-! ## What is found wrong -/

namespace Action

/-- What is wrong with a value that names no type. -/
inductive BadType (type : Data) : ActionFault → Prop
  | missing (none : type = .null ∨ ∃ s, type = .text s ∧ isBlankText s = true) : BadType type .noType
  | unknown (null : type ≠ .null) (shown : ∀ s, type = .text s → isBlankText s = false)
      (unknown : ∀ t : ActionType, type ≠ .text t.name) : BadType type (.unknownType type.plain)

/-- What is wrong with the entry that must hold a text under a key. -/
inductive BadText (t : ActionType) (key : String) (allowBlank : Bool) (entries : List (Data × Data)) :
    ActionFault → Prop
  | missing (none : Data.lookup key entries = none ∨ Data.lookup key entries = some .null) :
      BadText t key allowBlank entries (.missing t key)
  | notText {d} (there : Data.lookup key entries = some d) (null : d ≠ .null)
      (text : ∀ s, d ≠ .text s) : BadText t key allowBlank entries (.notText t key)
  | blank {s} (there : Data.lookup key entries = some (.text s)) (blank : isBlankText s = true)
      (refused : allowBlank = false) : BadText t key allowBlank entries (.blank t key)

/-- The first thing that is wrong with the fields of a submission: those before it have texts under names
that are not blank. -/
inductive BadFields : List (Data × Data) → ActionFault → Prop
  | name {name value rest} (bad : ∀ s, name = .text s → isBlankText s = true) :
      BadFields ((name, value) :: rest) .blankFieldName
  | value {name value rest} (shown : isBlankText name = false) (bad : ∀ s, value ≠ .text s) :
      BadFields ((.text name, value) :: rest) (.fieldNotText name)
  | later {name text rest cause} (shown : isBlankText name = false) (bad : BadFields rest cause) :
      BadFields ((.text name, .text text) :: rest) cause

/-- The first thing that is wrong with the entries for an action of a type. -/
inductive BadEntries (entries : List (Data × Data)) : ActionType → ActionFault → Prop
  | target {cause} (bad : BadText .click "target" false entries cause) : BadEntries entries .click cause
  | field {cause} (bad : BadText .enter "targetField" false entries cause) : BadEntries entries .enter cause
  | value {field cause} (prop : Data.lookup "targetField" entries = some (.text field))
      (shown : isBlankText field = false) (bad : BadText .enter "value" true entries cause) :
      BadEntries entries .enter cause
  | notMap {d} (there : Data.lookup "fields" entries = some d) (null : d ≠ .null)
      (map : ∀ fields, d ≠ .map fields) : BadEntries entries .submit .fieldsNotMap
  | fields {fields cause} (map : Data.lookup "fields" entries = some (.map fields))
      (bad : BadFields fields cause) : BadEntries entries .submit cause

/-- What is found wrong first with a type and entries that ask for no action. -/
inductive Faulty (type : Data) (entries : List (Data × Data)) : ActionFault → Prop
  | type {cause} (bad : BadType type cause) : Faulty type entries cause
  | entries {t : ActionType} {cause} (kind : type = .text t.name) (bad : BadEntries entries t cause) :
      Faulty type entries cause

variable {type : Data} {entries entries' fields : List (Data × Data)} {t : ActionType} {key : String}
  {allowBlank : Bool} {cause : ActionFault}

theorem typeOf_eq_error_iff : typeOf type = .error cause ↔ BadType type cause := by
  constructor
  · intro h
    unfold typeOf at h
    split at h
    · cases h
      exact .missing (.inl rfl)
    · next s =>
      split at h
      · next blank =>
        cases h
        exact .missing (.inr ⟨s, rfl, blank⟩)
      · next shown =>
        split at h
        · cases h
        · next none =>
          cases h
          refine .unknown nofun ?_ ?_
          · rintro _ ⟨⟩
            exact Bool.eq_false_iff.mpr shown
          · intro t named
            rw [ofName?_eq_some_iff.mpr (Data.text.inj named)] at none
            cases none
    · next null text =>
      cases h
      exact .unknown null (fun s eq => absurd eq (text s)) fun t => text t.name
  · intro h
    cases h with
    | missing none =>
      rcases none with rfl | ⟨s, rfl, blank⟩
      · rfl
      · rw [typeOf, if_pos blank]
    | unknown null shown unknown =>
      unfold typeOf
      split
      · exact absurd rfl null
      · next s =>
        rw [if_neg (Bool.eq_false_iff.mp (shown s rfl))]
        split
        · next t named => exact absurd (congrArg Data.text (ofName?_eq_some_iff.mp named)) (unknown t)
        · rfl
      · rfl

theorem requiredText_eq_error_iff :
    requiredText t key allowBlank entries = .error cause ↔ BadText t key allowBlank entries cause := by
  constructor
  · intro h
    unfold requiredText at h
    split at h
    · next none =>
      cases h
      exact .missing (.inl none)
    · next null =>
      cases h
      exact .missing (.inr null)
    · next s there =>
      split at h
      · next blank =>
        simp only [Bool.and_eq_true, Bool.not_eq_true'] at blank
        cases h
        exact .blank there blank.2 blank.1
      · cases h
    · next d null text there =>
      cases h
      exact .notText there null text
  · intro h
    cases h with
    | missing none =>
      rcases none with none | null
      · rw [requiredText, none]
      · rw [requiredText, null]
    | notText there => simp only [requiredText, there]
    | blank there blank refused => simp [requiredText, there, blank, refused]

theorem submitFields_of_blank {name value : Data} (blank : ∀ s, name = .text s → isBlankText s = true) :
    submitFields ((name, value) :: fields) = .error .blankFieldName := by
  cases name with
  | text s => exact if_pos (blank s rfl)
  | _ => rfl

theorem submitFields_of_notText {name : String} {value : Data} (shown : isBlankText name = false)
    (bad : ∀ s, value ≠ .text s) :
    submitFields ((.text name, value) :: fields) = .error (.fieldNotText name) := by
  cases value with
  | text s => exact absurd rfl (bad s)
  | _ => exact if_neg (Bool.eq_false_iff.mp shown)

theorem submitFields_of_text {name s : String} (shown : isBlankText name = false) :
    submitFields ((.text name, .text s) :: fields) = (submitFields fields).map ((name, some s) :: ·) :=
  if_neg (Bool.eq_false_iff.mp shown)

theorem submitFields_eq_error_iff : submitFields fields = .error cause ↔ BadFields fields cause := by
  constructor
  · intro h
    induction fields with
    | nil => cases h
    | cons e fields ih =>
      obtain ⟨name, value⟩ := e
      by_cases blank : ∀ s, name = .text s → isBlankText s = true
      · rw [submitFields_of_blank blank] at h
        cases h
        exact .name blank
      · simp only [not_forall, Bool.not_eq_true] at blank
        obtain ⟨name, rfl, shown⟩ := blank
        by_cases bad : ∀ s, value ≠ .text s
        · rw [submitFields_of_notText shown bad] at h
          cases h
          exact .value shown bad
        · simp only [not_forall, not_not] at bad
          obtain ⟨s, rfl⟩ := bad
          rw [submitFields_of_text shown] at h
          exact .later shown (ih (Except.map_eq_error_iff.mp h))
  · intro h
    induction h with
    | name blank => exact submitFields_of_blank blank
    | value shown bad => exact submitFields_of_notText shown bad
    | later shown _ ih =>
      rw [submitFields_of_text shown]
      exact Except.map_eq_error_iff.mpr ih

theorem ofType_eq_error_iff : ofType t entries = .error cause ↔ BadEntries entries t cause := by
  cases t with
  | click =>
    rw [ofType, Except.bind_eq_error_iff, requiredText_eq_error_iff]
    constructor
    · rintro (bad | ⟨target, -, h⟩)
      · exact .target bad
      · cases h
    · intro h
      cases h with
      | target bad => exact .inl bad
  | enter =>
    rw [ofType, Except.bind_eq_error_iff, requiredText_eq_error_iff]
    simp only [Except.bind_eq_error_iff, requiredText_eq_error_iff, requiredText_eq_ok_iff]
    constructor
    · rintro (bad | ⟨field, ⟨prop, shown⟩, bad | ⟨value, -, h⟩⟩)
      · exact .field bad
      · exact .value prop (shown.resolve_left Bool.false_ne_true) bad
      · cases h
    · intro h
      cases h with
      | field bad => exact .inl bad
      | value prop shown bad => exact .inr ⟨_, ⟨prop, .inr shown⟩, .inl bad⟩
  | submit =>
    constructor
    · intro h
      simp only [ofType] at h
      split at h
      · cases h
      · cases h
      · next map => exact .fields map (submitFields_eq_error_iff.mp (Except.map_eq_error_iff.mp h))
      · next d null map there =>
        cases h
        exact .notMap there null map
    · intro h
      cases h with
      | notMap there => simp only [ofType, there]
      | fields map bad =>
        simp only [ofType, map]
        exact Except.map_eq_error_iff.mpr (submitFields_eq_error_iff.mpr bad)

/-- Building reports what is found wrong first. -/
theorem build_eq_error_iff : build type entries = .error cause ↔ Faulty type entries cause := by
  rw [build, Except.bind_eq_error_iff, typeOf_eq_error_iff]
  simp only [typeOf_eq_ok_iff, ofType_eq_error_iff]
  constructor
  · rintro (bad | ⟨t, kind, bad⟩)
    · exact .type bad
    · exact .entries kind bad
  · intro h
    cases h with
    | type bad => exact .inl bad
    | entries kind bad => exact .inr ⟨_, kind, bad⟩

/-! ## What is looked at -/

theorem ofType_congr (same : ∀ key ∈ t.keys, Data.lookup key entries' = Data.lookup key entries) :
    ofType t entries' = ofType t entries := by
  cases t with
  | click =>
    have target := same "target" (by simp [ActionType.keys])
    simp only [ofType, requiredText, target]
  | enter =>
    have field := same "targetField" (by simp [ActionType.keys])
    have value := same "value" (by simp [ActionType.keys])
    simp only [ofType, requiredText, field, value]
  | submit =>
    have fields := same "fields" (by simp [ActionType.keys])
    simp only [ofType, fields]

/-- A type that names none is refused whatever the entries are. -/
theorem build_congr (same : ∀ t : ActionType, type = .text t.name →
      ∀ key ∈ t.keys, Data.lookup key entries' = Data.lookup key entries) :
    build type entries' = build type entries := by
  rw [build, build]
  cases named : typeOf type with
  | error cause => rfl
  | ok t => exact ofType_congr (same t (typeOf_eq_ok_iff.mp named))

/-! ## Building at a place -/

variable {place : Place} {action : Action} {fault : Fault}

/-- A type that can be shown only fails by what `build` finds wrong. -/
theorem buildAt_of_short (short : type.hasOverlong = false) : buildAt place type entries =
    (build type entries).mapError fun cause => .format cause.message place := by
  unfold buildAt
  rw [short]
  cases build type entries <;> rfl

theorem buildAt_eq_ok_iff : buildAt place type entries = .ok action ↔ Asked type entries action := by
  rw [← build_eq_ok_iff, buildAt]
  cases build type entries with
  | ok built => simp
  | error cause =>
    dsimp only
    split <;> simp

theorem buildAt_eq_error_iff (short : type.hasOverlong = false) :
    buildAt place type entries = .error fault ↔
      ∃ cause, Faulty type entries cause ∧ fault = .format cause.message place := by
  simp only [← build_eq_error_iff, buildAt_of_short short]
  cases build type entries with
  | ok built => simp [Except.mapError]
  | error cause => simp [Except.mapError, eq_comm]

/-- A type and entries make an action exactly if they ask for it, and its texts are those they hold. All others
are refused at the place for what is wrong first. No entry counts but those that the type asks for. -/
theorem buildAt_accepts (place : Place) (entries : List (Data × Data)) {type : Data}
    (json : type.IsJson fun _ => True) :
    (∀ action, buildAt place type entries = .ok action ↔ Asked type entries action) ∧
      (∀ fault, buildAt place type entries = .error fault ↔
        ∃ cause, Faulty type entries cause ∧ fault = .format cause.message place) ∧
      ((∀ action, ¬Asked type entries action) → ∃ cause, Faulty type entries cause ∧
        buildAt place type entries = .error (.format cause.message place)) ∧
      ∀ entries', (∀ t : ActionType, type = .text t.name →
          ∀ key ∈ t.keys, Data.lookup key entries' = Data.lookup key entries) →
        buildAt place type entries' = buildAt place type entries := by
  have short : type.hasOverlong = false := json.short.hasOverlong_eq_false
  refine ⟨fun action => buildAt_eq_ok_iff, fun fault => buildAt_eq_error_iff short, ?_, ?_⟩
  · intro unasked
    cases built : buildAt place type entries with
    | ok action => exact absurd (buildAt_eq_ok_iff.mp built) (unasked action)
    | error fault =>
      obtain ⟨cause, faulty, rfl⟩ := (buildAt_eq_error_iff short).mp built
      exact ⟨cause, faulty, rfl⟩
  · intro entries' same
    rw [buildAt, buildAt, build_congr same]

/-- Nothing at all may be entered. A list is no type, even if it holds the name of one. -/
theorem buildAt_accepts_emptyValue :
    let place : Place := ⟨some 7, some "$.pages[0].action", some "t.json"⟩
    let listed : Data := .list [.text "Enter"]
    ((Data.text "Enter").IsJson fun _ => True) ∧ (listed.IsJson fun _ => True) ∧
      buildAt place (.text "Enter") [(.text "targetField", .text "Search"), (.text "value", .text "")] =
        .ok (.enter (some "Search") (some "")) ∧
      ∀ entries, buildAt place listed entries = .error
        (.format "Unknown action type '['Enter']'. Supported types: Click, Enter, Submit" place) := by
  intro place listed
  have enter : (Data.text "Enter").IsJson fun _ => True := .text trivial
  have list : listed.IsJson fun _ => True := .list (by simpa using enter)
  refine ⟨enter, list, ?_, ?_⟩
  · have accepts := (buildAt_accepts place [(.text "targetField", .text "Search"), (.text "value", .text "")]
      enter).1
    exact (accepts _).mpr (.enter rfl rfl rfl rfl)
  · intro entries
    have refuses := (buildAt_accepts place entries list).2.1
    have unnamed : Faulty listed entries (.unknownType listed.plain) := .type (.unknown nofun nofun nofun)
    exact (refuses _).mpr ⟨_, unnamed, congrArg (Fault.format · place) (by decide +kernel)⟩

end Action

/-! ## The places of scripts and documents -/

theorem Script.PageDraft.hasOverlong_type (d : PageDraft) : d.type.hasOverlong = false := by
  unfold PageDraft.type
  cases Assoc.get? .type d.properties <;> rfl

/-- A script builds the action of a page at the line of its `action:`. -/
theorem Script.PageDraft.mapError_close {d : PageDraft} {n : Nat} (source : String)
    (begun : d.actionLine = some n) :
    d.close.mapError (Stop.toFault source) = (do
      let action ← Action.buildAt { line := some n, source := some source } d.type d.entries
      (Page.create (some d.name) (some action) d.expected).mapError Fault.misuse) := by
  rw [PageDraft.close, begun, Action.buildAt_of_short d.hasOverlong_type]
  cases Action.build d.type d.entries with
  | error cause => rfl
  | ok action =>
    show _ = (Page.create (some d.name) (some action) d.expected).mapError Fault.misuse
    dsimp only
    cases Page.create (some d.name) (some action) d.expected <;> rfl

/-- A document builds the action of a page at the path to it. -/
theorem Document.mapError_toPages (n : Nat) (p : PageEntry) (ps : List PageEntry) :
    (toPages n (p :: ps)).mapError Refusal.toFault = (do
      let action ← Action.buildAt { path := some (renderPath (actionPath n)) } (.text p.action.type)
        p.action.entries
      let expected ← (toExpected p.expected).mapError Refusal.toFault
      let page ← (Page.create (some p.name) (some action) expected).mapError Fault.misuse
      let pages ← (toPages (n + 1) ps).mapError Refusal.toFault
      return page :: pages) := by
  rw [toPages, Action.buildAt_of_short rfl]
  cases Action.build (.text p.action.type) p.action.entries with
  | error cause => rfl
  | ok action =>
    cases toExpected p.expected with
    | error r => rfl
    | ok expected =>
      show (accept (Page.create (some p.name) (some action) expected) >>= _).mapError _ =
        (Page.create (some p.name) (some action) expected).mapError Fault.misuse >>= _
      cases Page.create (some p.name) (some action) expected with
      | error misuse => rfl
      | ok page => cases toPages (n + 1) ps <;> rfl

end Walkthrough
