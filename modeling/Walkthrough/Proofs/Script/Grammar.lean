import Walkthrough.Proofs.Script.Runs

/-! Scripts and outlines. A text is read as a scenario exactly if the lines that count spell an outline
which says that scenario. -/

namespace Walkthrough.Script

variable {o : Outline} {s : Scenario} {text : List Char} {ls : List (List Char)}

/-- A trimmed line counts if it is not blank and does not begin with two slashes. -/
def Counts (l : List Char) : Prop := l ≠ [] ∧ ¬['/', '/'] <+: l

instance (l : List Char) : Decidable (Counts l) := inferInstanceAs (Decidable (_ ∧ _))

/-- Those of the given lines that count, trimmed. -/
def counted (ls : List (List Char)) : List (List Char) := (ls.map Text.trim).filter (Counts ·)

/-- The lines of a text that count. -/
def countedLines (text : List Char) : List (List Char) := counted (Text.lines text)

theorem counts_iff {l : List Char} : counts l = true ↔ Counts l := by
  simp [counts, Counts, ← List.isPrefixOf_iff_prefix]

theorem counted_append (ls rest : List (List Char)) :
    counted (ls ++ rest) = counted ls ++ counted rest := by
  rw [counted, List.map_append, List.filter_append]
  rfl

theorem text_linesFrom (n : Nat) (raw : List (List Char)) :
    (linesFrom n raw).map Line.text = counted raw := by
  induction raw generalizing n with
  | nil => rfl
  | cons l raw ih =>
    rw [linesFrom, counted, List.map_cons, List.filter_cons]
    by_cases h : counts (Text.trim l) = true
    · rw [if_pos h, if_pos (decide_eq_true (counts_iff.mp h)), List.map_cons, ih]
      rfl
    · rw [if_neg h, if_neg fun hd => h (counts_iff.mpr (of_decide_eq_true hd)), ih]
      rfl

theorem text_significantLines (text : List Char) :
    (significantLines text).map Line.text = countedLines text := text_linesFrom 1 _

theorem tight_of_mem_countedLines {l : List Char} (h : l ∈ countedLines text) : Text.Tight l := by
  obtain ⟨raw, -, rfl⟩ := List.mem_map.mp (List.mem_filter.mp h).1
  exact Text.tight_trim raw

theorem HostLine.isBlankText {value : String} {line : List Char} (h : HostLine value line)
    (hv : value ≠ "") : Text.isBlankText value = false := by
  obtain ⟨rest, -, rfl⟩ := h
  exact Text.isBlankText_trim hv

/-- The host of a spelled outline shows something. -/
theorem Outline.Spells.isBlankText_host (ho : o.Spells ls) (hs : o.Says s) :
    Text.isBlankText s.host = false := by
  cases ho with
  | mk blocks =>
    have hm := List.mem_singleton.mpr (rfl : s.host = s.host)
    rw [← hs.host] at hm
    obtain ⟨block, hb, hv⟩ := List.mem_filterMap.mp hm
    obtain ⟨l, hl, -⟩ := blocks.exists_of_mem hb
    cases hl with
    | host head shown =>
      cases hv
      exact head.isBlankText shown
    | features => cases hv

/-! ## What an outline says is determined -/

theorem PageBlock.Acts.unique {b : PageBlock} {a a' : Action}
    (once : (Assoc.keys b.properties).Nodup) (h : b.Acts a) (h' : b.Acts a') : a = a' := by
  cases h with
  | click type prop =>
    cases h' with
    | click type' prop' => rw [Assoc.eq_of_mem once prop prop']
    | enter type' | submit type' => exact absurd (Assoc.eq_of_mem once type type') (by decide)
  | enter type prop shown text =>
    cases h' with
    | enter type' prop' shown' text' =>
      rw [Assoc.eq_of_mem once prop prop', Assoc.eq_of_mem once text text']
    | click type' | submit type' => exact absurd (Assoc.eq_of_mem once type type') (by decide)
  | submit type =>
    cases h' with
    | submit => rfl
    | click type' | enter type' => exact absurd (Assoc.eq_of_mem once type type') (by decide)

theorem PageBlock.Says.unique {b : PageBlock} {p p' : Page} (h : b.Says p) (h' : b.Says p') :
    p = p' := by
  have ha := h.action.unique h.once h'.action
  obtain ⟨name, action, expected⟩ := p
  obtain ⟨name', action', expected'⟩ := p'
  obtain ⟨rfl, rfl, -, -⟩ := h
  obtain ⟨rfl, rfl, -, -⟩ := h'
  cases ha
  rfl

theorem pages_unique {bs : List PageBlock} {ps ps' : List Page}
    (h : List.Forall₂ PageBlock.Says bs ps) (h' : List.Forall₂ PageBlock.Says bs ps') : ps = ps' := by
  induction h generalizing ps' with
  | nil =>
    cases h'
    rfl
  | cons hb _ ih =>
    cases h' with
    | cons hb' hbs' => rw [hb.unique hb', ih hbs']

/-! ## Reading -/

theorem Machine.Ready.finish {m : Machine} (h : m.Ready o) (hs : o.Says s)
    (hb : Text.isBlankText s.host = false) : m.finish = .ok s := by
  obtain ⟨hf, m', hp, holds, feature, -⟩ := h
  have hh : m'.host = some s.host := by
    have := holds.host
    rw [hs.host] at this
    exact Option.toList_eq_singleton_iff.mp this.symm
  rw [Machine.finish, hf]
  refine Except.bind_eq_ok_iff.mpr ⟨_, rfl, Except.bind_eq_ok_iff.mpr ⟨_, hp, ?_⟩⟩
  simp only [hh, (create_eq_ok holds feature).mpr ⟨hb, rfl⟩]
  rw [holds.features_eq feature, ← hs.features, ← pages_unique hs.pages holds.pages]

/-- What is read from a text is said by an outline that its lines spell. -/
theorem outline_of_parse (h : parse text = .ok s) :
    ∃ o : Outline, o.Spells (countedLines text) ∧ o.Says s := by
  obtain ⟨m, hr, hf⟩ := Except.bind_eq_ok_iff.mp h
  have ht : ∀ l ∈ significantLines text, Text.Tight l.text := fun l hl =>
    tight_of_mem_countedLines (text_significantLines text ▸ List.mem_map_of_mem hl)
  have hstart : ({} : Machine).Reads .top [] := .top .nil .start rfl
  have := hstart.run ht hr
  rw [List.nil_append, text_significantLines] at this
  exact this.finish hf

theorem Outline.Says.unrepeated (hs : o.Says s) : Machine.Unrepeated o.prologue :=
  ⟨hs.once, hs.host ▸ Nat.le_refl 1⟩

/-- Lines that spell an outline are read as the scenario it says. -/
theorem parse_of_outline (h : o.Spells (countedLines text)) (hs : o.Says s) : parse text = .ok s := by
  have hb := h.isBlankText_host hs
  rw [← text_significantLines] at h
  generalize hl : (significantLines text).map Line.text = ls at h
  cases h with
  | @mk bs front ps back blocks pages =>
    have hstart : ({} : Machine).InPrologue [] := ⟨rfl, .start, rfl⟩
    have hrun : ({} : Machine).Runs (front ++ back) (Machine.Ready · ⟨bs, ps⟩) :=
      (Machine.run_prologue blocks hstart hs.unrepeated).append fun m hm =>
        Machine.run_pages pages hs.pages hm.ready hs.host
    obtain ⟨m, hr, hm⟩ := hrun _ hl
    exact Except.bind_eq_ok_iff.mpr ⟨m, hr, hm.finish hs hb⟩

/-- A script is read exactly if the lines that count are the blocks of the grammar, and what is read is
what these blocks say. -/
theorem parse_eq_ok_iff :
    parse text = .ok s ↔ ∃ o : Outline, o.Spells (countedLines text) ∧ o.Says s :=
  ⟨outline_of_parse, fun ⟨_, ho, hs⟩ => parse_of_outline ho hs⟩

end Walkthrough.Script
