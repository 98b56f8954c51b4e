import Walkthrough.Proofs.Script.Consistency

/-! Layout. Reading never looks at the number of a line: with other numbers it goes the same way, and only
the line that a fault names differs (`Machine.step_renumber`, `Machine.run_renumber`). So texts with the
same lines that count are read alike, whatever stands around these lines. -/

namespace Walkthrough

open Text

namespace Script

/-! ## Other line numbers -/

variable {α β γ δ : Type} (f : Nat → Nat)

def Line.renumber (l : Line) : Line := { l with number := f l.number }

def PageDraft.renumber (d : PageDraft) : PageDraft :=
  { d with line := f d.line, actionLine := d.actionLine.map f }

def Machine.renumber (m : Machine) : Machine := { m with page := m.page.map (·.renumber f) }

def Stop.renumber : Stop → Stop
  | .fault cause line => .fault cause (line.map f)
  | .refused cause => .refused cause
  | .noDraft => .noDraft

/-- What reading comes to when the lines have other numbers, `g` renumbering what it gives. -/
def renumbered (g : α → β) : Except Stop α → Except Stop β
  | .ok a => .ok (g a)
  | .error stop => .error (stop.renumber f)

variable {f}

theorem renumbered_bind {x : Except Stop α} {x' : Except Stop β} {k : α → Except Stop γ}
    {k' : β → Except Stop δ} {g : α → β} {g' : γ → δ} (hx : x' = renumbered f g x)
    (hk : ∀ a, k' (g a) = renumbered f g' (k a)) : x' >>= k' = renumbered f g' (x >>= k) := by
  subst hx
  cases x with
  | error stop => rfl
  | ok a => exact hk a

theorem pairAt_renumber (kind : PairKind) (n : Nat) (text : List Char) :
    pairAt kind (f n) text = renumbered f id (pairAt kind n text) := by
  unfold pairAt
  split <;> rfl

theorem FeatureDraft.set_renumber (d : FeatureDraft) (n : Nat) (key value : List Char) :
    d.set (f n) key value = renumbered f id (d.set n key value) := by
  unfold set
  split
  · split <;> rfl
  · split
    · rfl
    · split <;> rfl

theorem PageDraft.close_renumber (d : PageDraft) :
    (d.renumber f).close = renumbered f id d.close := by
  have type : (d.renumber f).type = d.type := rfl
  have entries : (d.renumber f).entries = d.entries := rfl
  unfold close
  rw [type, entries]
  cases h : d.actionLine with
  | none =>
    rw [renumber, h]
    rfl
  | some n =>
    simp only [renumber, h, Option.map_some]
    split
    · rfl
    · split <;> rfl

namespace Machine

section

variable (m : Machine) (line : Line) (d : PageDraft)

theorem closeFeature_renumber :
    (m.renumber f).closeFeature = renumbered f (Machine.renumber f) m.closeFeature := by
  obtain ⟨mode, host, features, pages, feature, page⟩ := m
  cases feature with
  | none => rfl
  | some d =>
    simp only [closeFeature, renumber]
    split <;> rfl

theorem closePage_renumber :
    (m.renumber f).closePage = renumbered f (Machine.renumber f) m.closePage := by
  obtain ⟨mode, host, features, pages, feature, page⟩ := m
  cases page with
  | none => rfl
  | some d =>
    simp only [closePage, renumber, Option.map_some, d.close_renumber]
    cases d.close <;> rfl

theorem openHost_renumber (n : Nat) (value : List Char) :
    (m.renumber f).openHost (f n) value =
      renumbered f (Machine.renumber f) (m.openHost n value) := by
  have early : (m.renumber f).pastPrologue = m.pastPrologue := rfl
  have host : (m.renumber f).host = m.host := rfl
  unfold openHost
  rw [early, host]
  split
  · rfl
  split
  · rfl
  split
  · rfl
  exact renumbered_bind m.closeFeature_renumber fun _ => rfl

theorem openFeatures_renumber (n : Nat) :
    (m.renumber f).openFeatures (f n) =
      renumbered f (Machine.renumber f) (m.openFeatures n) := by
  have early : (m.renumber f).pastPrologue = m.pastPrologue := rfl
  unfold openFeatures
  rw [early]
  split
  · rfl
  exact renumbered_bind m.closeFeature_renumber fun _ => rfl

theorem openPage_renumber (n : Nat) (name : List Char) :
    (m.renumber f).openPage (f n) name =
      renumbered f (Machine.renumber f) (m.openPage n name) := by
  have host : (m.renumber f).host = m.host := rfl
  unfold openPage
  rw [host]
  split
  · rfl
  split
  · rfl
  refine renumbered_bind m.closeFeature_renumber fun m => ?_
  exact renumbered_bind m.closePage_renumber fun _ => rfl

theorem openFeature_renumber (rest : List Char) :
    (m.renumber f).openFeature (line.renumber f) rest =
      renumbered f (Machine.renumber f) (m.openFeature line rest) := by
  have features : (m.renumber f).features = m.features := rfl
  have feature : (m.renumber f).feature = m.feature := rfl
  unfold openFeature
  rw [features, feature]
  split
  · rfl
  dsimp only
  split
  · rfl
  exact renumbered_bind m.closeFeature_renumber fun _ => rfl

theorem inFeatures_renumber :
    (m.renumber f).inFeatures (line.renumber f) =
      renumbered f (Machine.renumber f) (m.inFeatures line) := by
  have text : (line.renumber f).text = line.text := rfl
  have feature : (m.renumber f).feature = m.feature := rfl
  unfold inFeatures
  rw [text, feature]
  split
  · exact m.openFeature_renumber line _
  split
  · rfl
  refine renumbered_bind (pairAt_renumber _ _ _) fun sides => ?_
  exact renumbered_bind (FeatureDraft.set_renumber _ _ _ _) fun _ => rfl

theorem openAction_renumber (n : Nat) :
    (m.renumber f).openAction (f n) (d.renumber f) =
      renumbered f (Machine.renumber f) (m.openAction n d) := by
  have begun : (d.renumber f).actionLine.isSome = d.actionLine.isSome := Option.isSome_map
  unfold openAction
  rw [begun]
  split
  · rfl
  · rfl

theorem inPage_renumber :
    (m.renumber f).inPage (line.renumber f) (d.renumber f) =
      renumbered f (Machine.renumber f) (m.inPage line d) := by
  have text : (line.renumber f).text = line.text := rfl
  unfold inPage
  rw [text]
  split
  · rfl
  split
  · exact m.openAction_renumber d _
  · rfl

theorem inExpected_renumber :
    (m.renumber f).inExpected (line.renumber f) (d.renumber f) =
      renumbered f (Machine.renumber f) (m.inExpected line d) := by
  have text : (line.renumber f).text = line.text := rfl
  unfold inExpected
  rw [text]
  split
  · exact m.openAction_renumber d _
  split
  · rfl
  refine renumbered_bind (pairAt_renumber _ _ _) fun sides => ?_
  dsimp only [id]
  split
  · rfl
  · rfl

theorem inAction_renumber :
    (m.renumber f).inAction (line.renumber f) (d.renumber f) =
      renumbered f (Machine.renumber f) (m.inAction line d) := by
  have text : (line.renumber f).text = line.text := rfl
  have properties : (d.renumber f).properties = d.properties := rfl
  unfold inAction
  rw [text]
  split
  · exact m.openAction_renumber d _
  split
  · split
    · rfl
    · rfl
  refine renumbered_bind (pairAt_renumber _ _ _) fun sides => ?_
  dsimp only [id]
  rw [properties]
  split
  · rfl
  split
  · rfl
  · rfl

theorem inFields_renumber :
    (m.renumber f).inFields (line.renumber f) (d.renumber f) =
      renumbered f (Machine.renumber f) (m.inFields line d) := by
  have text : (line.renumber f).text = line.text := rfl
  unfold inFields
  rw [text]
  split
  · exact ({ m with mode := .action } : Machine).inAction_renumber line d
  · exact renumbered_bind (pairAt_renumber _ _ _) fun _ => rfl

theorem withPage_renumber {handle handle' : PageDraft → Except Stop Machine}
    (h : ∀ d, handle' (d.renumber f) = renumbered f (Machine.renumber f) (handle d)) :
    (m.renumber f).withPage handle' = renumbered f (Machine.renumber f) (m.withPage handle) := by
  obtain ⟨mode, host, features, pages, feature, page⟩ := m
  cases page with
  | none => rfl
  | some d => exact h d

theorem step_renumber :
    (m.renumber f).step (line.renumber f) = renumbered f (Machine.renumber f) (m.step line) := by
  have text : (line.renumber f).text = line.text := rfl
  have mode : (m.renumber f).mode = m.mode := rfl
  unfold step
  rw [text, mode]
  split
  · exact m.openHost_renumber _ _
  · exact m.openFeatures_renumber _
  · exact m.openPage_renumber _ _
  split
  · rfl
  · exact m.inFeatures_renumber line
  · exact m.withPage_renumber (m.inPage_renumber line)
  · exact m.withPage_renumber (m.inExpected_renumber line)
  · exact m.withPage_renumber (m.inAction_renumber line)
  · exact m.withPage_renumber (m.inFields_renumber line)

theorem run_renumber (lines : List Line) :
    (m.renumber f).run (lines.map (·.renumber f)) =
      renumbered f (Machine.renumber f) (m.run lines) := by
  induction lines generalizing m with
  | nil => rfl
  | cons line lines ih =>
    rw [List.map_cons, run, run, step_renumber]
    cases m.step line with
    | error stop => rfl
    | ok m => exact ih m

theorem finish_renumber : (m.renumber f).finish = renumbered f id m.finish := by
  refine renumbered_bind m.closeFeature_renumber fun m => ?_
  refine renumbered_bind m.closePage_renumber fun m => ?_
  have host : (m.renumber f).host = m.host := rfl
  have features : (m.renumber f).features = m.features := rfl
  have pages : (m.renumber f).pages = m.pages := rfl
  rw [host, features, pages]
  split
  · rfl
  split
  · rfl
  · rfl

end

end Machine

/-! ## Lines that count -/

/-- What the given lines are read as. -/
def readLines (lines : List Line) : Except Stop Scenario := do
  (← ({} : Machine).run lines).finish

theorem readLines_renumber (lines : List Line) :
    readLines (lines.map (·.renumber f)) = renumbered f id (readLines lines) :=
  renumbered_bind (Machine.run_renumber {} lines) fun m => m.finish_renumber

/-- Lines with the given texts, each numbered by how many stand before it. -/
def numbered (ts : List (List Char)) : List Line := ts.mapIdx fun i t => ⟨i, t⟩

variable {ts : List (List Char)} {text : List Char} {i n : Nat} {cause : LineFault}

/-- A line that a fault names was among those read. -/
theorem lt_of_readLines (h : readLines (numbered ts) = .error (.fault cause (some i))) :
    i < ts.length := by
  -- Numbers that no line has may be changed without any change to the lines.
  let g : Nat → Nat := fun j => if j < ts.length then j else j + 1
  have same : (numbered ts).map (·.renumber g) = numbered ts := by
    refine List.ext_getElem (by simp [numbered]) fun j hj _ => ?_
    have hj : j < ts.length := by simpa [numbered] using hj
    simp [numbered, Line.renumber, g, hj]
  have hg := readLines_renumber (f := g) (numbered ts)
  rw [same, h] at hg
  have fixed : i = g i := by simpa [renumbered, Stop.renumber] using hg
  by_contra hi
  have moved : g i = i + 1 := if_neg hi
  omega

/-- Line `n` of the text counts, and `i` of the lines before it do. -/
def CountsAt (text : List Char) (i n : Nat) : Prop :=
  ∃ front raw back, Text.lines text = front ++ raw :: back ∧ n = front.length + 1 ∧
    Counts (trim raw) ∧ (counted front).length = i

/-- Both lines are absent, or they are the places of the same one of the lines that count. -/
inductive SamePlace (text text' : List Char) : Option Int → Option Int → Prop
  | absent : SamePlace text text' none none
  | counted {i n n' : Nat} :
      CountsAt text i n → CountsAt text' i n' → SamePlace text text' (some n) (some n')

theorem exists_of_linesFrom {raws : List (List Char)} {l : Line}
    (h : (linesFrom n raws)[i]? = some l) :
    ∃ front raw back, raws = front ++ raw :: back ∧ l.number = n + front.length ∧
      Counts (trim raw) ∧ (counted front).length = i := by
  induction raws generalizing n i with
  | nil => simp [linesFrom] at h
  | cons raw raws ih =>
    rw [linesFrom] at h
    split at h
    · next hc =>
      cases i with
      | zero =>
        obtain rfl : ⟨n, trim raw⟩ = l := by simpa using h
        exact ⟨[], raw, raws, rfl, rfl, counts_iff.mp hc, rfl⟩
      | succ i =>
        obtain ⟨front, raw', back, rfl, hn, hc', hi⟩ := ih (by simpa using h)
        refine ⟨raw :: front, raw', back, rfl, ?_, hc', ?_⟩
        · rw [hn, List.length_cons]
          omega
        · rw [← List.singleton_append, counted_append, List.length_append, hi]
          simp [counted, counts_iff.mp hc]
          omega
    · next hc =>
      obtain ⟨front, raw', back, rfl, hn, hc', hi⟩ := ih h
      refine ⟨raw :: front, raw', back, rfl, ?_, hc', ?_⟩
      · rw [hn, List.length_cons]
        omega
      · rw [← List.singleton_append, counted_append, List.length_append, hi]
        simp [counted, mt counts_iff.mpr hc]

/-- The number in the text of the `i`-th line that counts. -/
def numberOf (text : List Char) (i : Nat) : Nat :=
  ((significantLines text)[i]?.map Line.number).getD 0

theorem length_significantLines (text : List Char) :
    (significantLines text).length = (countedLines text).length := by
  rw [← text_significantLines, List.length_map]

theorem countsAt_numberOf (h : i < (countedLines text).length) :
    CountsAt text i (numberOf text i) := by
  rw [← length_significantLines] at h
  have hl : (significantLines text)[i]? = some (significantLines text)[i] :=
    List.getElem?_eq_getElem h
  obtain ⟨front, raw, back, hlines, hn, hc, hi⟩ := exists_of_linesFrom hl
  refine ⟨front, raw, back, hlines, ?_, hc, hi⟩
  rw [numberOf, hl, Option.map_some, Option.getD_some, hn, Nat.add_comm]

theorem significantLines_eq (text : List Char) :
    significantLines text = (numbered (countedLines text)).map (·.renumber (numberOf text)) := by
  refine List.ext_getElem (by simp [numbered, length_significantLines]) fun i hi _ => ?_
  have ht : (countedLines text)[i]? = some (significantLines text)[i].text := by
    rw [← text_significantLines, List.getElem?_map, List.getElem?_eq_getElem hi]
    rfl
  obtain ⟨_, ht⟩ := List.getElem?_eq_some_iff.mp ht
  simp [numbered, Line.renumber, numberOf, hi, ht]

/-- A text is read as the lines that count are, but for the number of the line that a fault names. -/
theorem parse_eq_renumbered (text : List Char) :
    parse text = renumbered (numberOf text) id (readLines (numbered (countedLines text))) := by
  rw [← readLines_renumber, ← significantLines_eq]
  rfl

end Script

namespace Scenario

open Script

/-- Two texts with the same lines that count are read as the same scenario, or both are refused with the
same message, for the same one of these lines or for no line. -/
theorem ofText_layout [StackRoom] {text text' : String} (source source' : Option String)
    (h : countedLines text.toList = countedLines text'.toList) :
    (∃ s, ofText .script text source = .ok s ∧ ofText .script text' source' = .ok s) ∨
      ∃ message line line',
        ofText .script text source =
            .error (.format message { line, source := some (sourceName .script source) }) ∧
          ofText .script text' source' =
            .error (.format message { line := line', source := some (sourceName .script source') }) ∧
          SamePlace text.toList text'.toList line line' := by
  have left := parse_eq_renumbered text.toList
  have right := parse_eq_renumbered text'.toList
  rw [← h] at right
  cases hr : readLines (numbered (countedLines text.toList)) with
  | ok s =>
    rw [hr] at left right
    refine .inl ⟨s, ?_, ?_⟩
    · rw [ofText, left]
      rfl
    · rw [ofText, right]
      rfl
  | error stop =>
    rw [hr] at left right
    obtain ⟨cause, _, hs⟩ := clean_parse _ _ left
    cases stop with
    | refused | noDraft => cases hs
    | fault cause place =>
      refine .inr ⟨cause.message, (place.map (numberOf text.toList)).map Int.ofNat,
        (place.map (numberOf text'.toList)).map Int.ofNat, ?_, ?_, ?_⟩
      · rw [ofText, left]
        rfl
      · rw [ofText, right]
        rfl
      · cases place with
        | none => exact .absent
        | some i =>
          have hi := lt_of_readLines hr
          exact .counted (countsAt_numberOf hi) (countsAt_numberOf (h ▸ hi))

/-- A page without an action is on line 2 of the one text and on line 4 of the other. -/
theorem ofText_layout_noAction :
    let text := "Host: h\nPage p"
    let text' := "\tHost: h\r\n\n// page\n   Page p \n"
    countedLines text.toList = countedLines text'.toList ∧
      SamePlace text.toList text'.toList (some 2) (some 4) := by
  have left : ofText .script "Host: h\nPage p" none =
    .error (.format "Page 'p' has no action" { line := some 2, source := some "<dsl>" }) := rfl
  have right : ofText .script "\tHost: h\r\n\n// page\n   Page p \n" none =
    .error (.format "Page 'p' has no action" { line := some 4, source := some "<dsl>" }) := rfl
  intro text text'
  have same : countedLines text.toList = countedLines text'.toList := by decide
  refine ⟨same, ?_⟩
  obtain ⟨s, hs, -⟩ | ⟨message, line, line', h, h', place⟩ := ofText_layout none none same
  · cases left.symm.trans hs
  · cases left.symm.trans h
    cases right.symm.trans h'
    exact place

end Scenario

end Walkthrough
