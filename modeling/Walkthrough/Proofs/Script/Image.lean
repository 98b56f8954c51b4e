import Walkthrough.Proofs.Basic
import Walkthrough.Proofs.Script.RoundTrip
import Mathlib.Tactic.TFAE

/-! Every scenario that is read from a text can be written. What a line that counts can hold is passed on
from the lines to the trees that they spell, and from these to the scenario (`writable_of_parse`). -/

namespace Walkthrough.Script

open Text

variable {name key value : String} {line : List Char} {ls : List (List Char)}

/-- A line of a text that counts. -/
structure Stands (line : List Char) : Prop where
  tight : Tight line
  unbroken : Unbroken line
  counts : Counts line

theorem stands_of_mem {text : List Char} (h : line ∈ countedLines text) : Stands line := by
  obtain ⟨hm, hc⟩ := List.mem_filter.mp h
  obtain ⟨raw, hr, rfl⟩ := List.mem_map.mp hm
  exact ⟨tight_trim raw, (unbroken_of_mem_lines hr).trim, of_decide_eq_true hc⟩

/-! ## Lines -/

theorem label_trim {cs : List Char} (h : Unbroken cs) (hne : String.ofList (trim cs) ≠ "") :
    Label (.ofList (trim cs)) := by
  refine ⟨hne, ?_, ?_⟩ <;> rw [String.toList_ofList]
  · exact tight_trim cs
  · exact h.trim

theorem HostLine.label (h : HostLine value line) (hl : Stands line) (hne : value ≠ "") :
    Label value := by
  obtain ⟨rest, rfl, rfl⟩ := h
  exact label_trim (hl.unbroken.of_subset (List.subset_append_right _ _)) hne

theorem PageLine.label (h : PageLine name line) (hl : Stands line) (hne : name ≠ "") : Label name := by
  obtain ⟨c, rest, rfl, -, rfl⟩ := h
  refine label_trim (hl.unbroken.of_subset ?_) hne
  exact List.Subset.trans (List.subset_cons_self c rest) (List.subset_append_right _ _)

theorem HeaderLine.label (h : HeaderLine name line) (hl : Stands line) : Label name := by
  obtain ⟨rest, front, rfl, hr, rfl, hne⟩ := h
  refine label_trim (hl.unbroken.of_subset fun c hc => ?_) hne
  exact List.mem_cons_of_mem _ (mem_of_mem_trim (hr ▸ List.mem_append_left _ hc))

theorem PairLine.named (h : PairLine key value line) (hl : Unbroken line) :
    Name key ∧ Tight value.toList ∧ Unbroken value.toList := by
  have ht := h.tight
  obtain ⟨front, back, rfl, hc, rfl, rfl, hne⟩ := h
  have hf : Unbroken front := hl.of_subset (List.subset_append_left _ _)
  have hb : Unbroken back := hl.of_subset
    (List.Subset.trans (List.subset_cons_self _ _) (List.subset_append_right _ _))
  refine ⟨⟨label_trim hf hne, ?_⟩, ht.2, ?_⟩
  · rw [String.toList_ofList]
    exact fun hm => hc (mem_of_mem_trim hm)
  · rw [String.toList_ofList]
    exact hb.trim

theorem Written.unbroken {raw : String} (h : Written value raw) (hr : Unbroken raw.toList) :
    Unbroken value.toList := by
  cases h with
  | quoted v =>
    rw [String.toList_ofList] at hr ⊢
    exact hr.of_subset (List.Subset.trans (List.subset_append_left _ _) (List.subset_cons_self _ _))
  | bare => exact hr

theorem ItemLine.named (h : ItemLine name value line) (hl : Stands line) :
    Name name ∧ Unbroken value.toList := by
  obtain ⟨rest, raw, rfl, pair, written⟩ := h
  obtain ⟨hn, -, hr⟩ := pair.named (hl.unbroken.of_subset (List.subset_cons_self _ _))
  exact ⟨hn, written.unbroken hr⟩

theorem PropertyLine.unbroken {p : Property} (h : PropertyLine p value line) (hl : Stands line) :
    Unbroken value.toList := by
  obtain ⟨raw, pair, written⟩ := h
  exact written.unbroken (pair.named hl.unbroken).2.2

/-- A line that counts begins with the name of its pair. -/
theorem PairLine.name_prefix (h : PairLine key value line) (hl : Tight line) : key.toList <+: line := by
  obtain ⟨front, back, rfl, -, rfl, -, hne⟩ := h
  obtain ⟨a, b, hf, ha, -, -⟩ := exists_trim front
  rw [String.toList_ofList]
  cases a with
  | nil =>
    refine ⟨b ++ ':' :: back, ?_⟩
    rw [← List.append_assoc, ← List.nil_append (trim front), ← hf]
  | cons c a =>
    have hc := ha c List.mem_cons_self
    rw [hl.1 c (by rw [hf]; rfl)] at hc
    cases hc

theorem entry_of_spells (h : (Setting.entry key value).Spells [line]) (hl : Stands line) :
    Entry key value := by
  cases h with
  | entry free pair unreserved notOn =>
    obtain ⟨hn, ht, hu⟩ := pair.named hl.unbroken
    have hp := pair.name_prefix hl.tight
    refine ⟨hn, unreserved, fun h => ?_, fun h => hl.counts.2 (h.trans hp), fun c hc h => ?_, notOn,
      ht, hu⟩
    · obtain ⟨rest, hr⟩ := h.trans hp
      have := itemRest?_eq_some_iff.mpr hr.symm
      rw [free.2] at this
      cases this
    · obtain ⟨rest, hr⟩ := h.trans hp
      rw [List.append_assoc] at hr
      exact free.1 (.inr (.inr (.inr ⟨_, c, rest, hr.symm, hc, rfl⟩)))

/-! ## Trees -/

theorem Group.draft_concat (name : String) (ss : List Setting) (s : Setting) :
    (Group.mk name (ss ++ [s])).draft = s.apply (Group.mk name ss).draft :=
  Machine.draft_add ⟨name, ss⟩ s

theorem Group.context_draft (g : Group) : g.draft.context = Assoc.ofPairs g.entries := by
  obtain ⟨name, settings⟩ := g
  induction settings using List.reverseRecOn with
  | nil => rfl
  | append_singleton ss s ih =>
    rw [draft_concat, entries, List.filterMap_append]
    cases s with
    | enable | on => exact ih.trans (congrArg _ (List.append_nil _).symm)
    | entry key value => exact (congrArg _ ih).trans (Assoc.ofPairs_concat _ (key, value)).symm

theorem mem_context_draft {g : Group} {e : String × String} (h : e ∈ g.draft.context) :
    .entry e.1 e.2 ∈ g.settings := by
  rw [g.context_draft] at h
  obtain ⟨s, hs, he⟩ := List.mem_filterMap.mp (Assoc.mem_of_mem_ofPairs h)
  cases s with
  | enable | on => cases he
  | entry key value =>
    cases he
    exact hs

theorem nodup_context_draft (g : Group) : (Assoc.keys g.draft.context).Nodup :=
  g.context_draft ▸ Assoc.nodup_keys_ofPairs g.entries

theorem Group.Spells.writable {g : Group} (h : g.Spells ls) (hl : ∀ l ∈ ls, Stands l) :
    WritableFeature g.feature.2 := by
  cases h with
  | @mk name head settings body header rest =>
    refine ⟨header.label (hl _ List.mem_cons_self), fun e he => ?_, nodup_context_draft _⟩
    obtain ⟨l, hs, hsub⟩ := rest.exists_of_mem (mem_context_draft he)
    obtain ⟨l, rfl⟩ : ∃ l', l = [l'] := by cases hs; exact ⟨_, rfl⟩
    exact entry_of_spells hs (hl _ (List.mem_cons_of_mem _ (hsub List.mem_cons_self)))

theorem ItemSpells.named {item : String × String} (h : ItemSpells item ls) (hl : ∀ l ∈ ls, Stands l) :
    Name item.1 ∧ Unbroken item.2.toList := by
  cases h with
  | mk item => exact item.named (hl _ List.mem_cons_self)

theorem PageBlock.Spells.label {b : PageBlock} (h : b.Spells ls) (hl : ∀ l ∈ ls, Stands l) :
    Label b.name := by
  cases h with
  | mk word shown => exact word.label (hl _ List.mem_cons_self) shown

theorem PageBlock.Spells.expected {b : PageBlock} (h : b.Spells ls) (hl : ∀ l ∈ ls, Stands l) :
    ∀ e ∈ b.values, Name e.target ∧ Unbroken e.value.toList := by
  intro e he
  obtain ⟨item, hi, rfl⟩ := List.mem_map.mp he
  cases h with
  | mk word shown values rest =>
    cases values with
    | none => cases hi
    | some items =>
      obtain ⟨l, hs, hsub⟩ := items.exists_of_mem hi
      exact hs.named fun l' hl' => hl l' <| List.mem_cons_of_mem _ <|
        List.mem_append_left _ <| List.mem_cons_of_mem _ (hsub hl')

theorem PageBlock.Spells.part {b : PageBlock} {part : Part} (h : b.Spells ls) (hp : part ∈ b.parts) :
    ∃ l, part.Spells l ∧ l ⊆ ls := by
  cases h with
  | mk word shown values rest =>
    obtain ⟨l, hs, hsub⟩ := rest.exists_of_mem hp
    exact ⟨l, hs, fun x hx => List.mem_cons_of_mem _ <| List.mem_append_right _ <|
      List.mem_cons_of_mem _ (hsub hx)⟩

theorem PageBlock.Spells.property {b : PageBlock} {e : Property × String} (h : b.Spells ls)
    (hl : ∀ l ∈ ls, Stands l) (he : e ∈ b.properties) : Unbroken e.2.toList := by
  obtain ⟨part, hp, he⟩ := List.mem_filterMap.mp he
  obtain ⟨l, hs, hsub⟩ := h.part hp
  cases hs with
  | property head =>
    cases he
    exact head.unbroken (hl _ (hsub List.mem_cons_self))
  | fields => cases he

theorem PageBlock.Spells.fields {b : PageBlock} {e : String × String} (h : b.Spells ls)
    (hl : ∀ l ∈ ls, Stands l) (he : e ∈ b.fields) : Name e.1 ∧ Unbroken e.2.toList := by
  obtain ⟨part, hp, he⟩ := List.mem_flatMap.mp (Assoc.mem_of_mem_ofPairs he)
  obtain ⟨l, hs, hsub⟩ := h.part hp
  cases hs with
  | property => cases he
  | fields rest =>
    obtain ⟨l', hs', hsub'⟩ := rest.exists_of_mem he
    exact hs'.named fun x hx => hl x (hsub (List.mem_cons_of_mem _ (hsub' hx)))

theorem PageBlock.Spells.writable {b : PageBlock} {p : Page} (h : b.Spells ls)
    (hl : ∀ l ∈ ls, Stands l) (hs : b.Says p) : WritablePage p := by
  obtain ⟨name, action, expected⟩ := p
  obtain ⟨rfl, rfl, once, acts⟩ := hs
  refine ⟨h.label hl, h.expected hl, ?_⟩
  cases acts with
  | click type prop shown => exact .click shown (h.property hl prop)
  | enter type prop shown text => exact .enter shown (h.property hl prop) (h.property hl text)
  | submit => exact .submit (fun e he => h.fields hl he) (Assoc.nodup_keys_ofPairs _)

theorem Outline.Spells.writable {o : Outline} {s : Scenario} (h : o.Spells ls)
    (hl : ∀ l ∈ ls, Stands l) (hs : o.Says s) : Writable s := by
  cases h with
  | @mk bs front ps back blocks pages =>
    have hfront : ∀ l ∈ front, Stands l := fun l h => hl l (List.mem_append_left _ h)
    have hback : ∀ l ∈ back, Stands l := fun l h => hl l (List.mem_append_right _ h)
    refine ⟨?_, fun e he => ?_, ?_, fun p hp => ?_⟩
    · have hm := List.mem_singleton.mpr (rfl : s.host = s.host)
      rw [← hs.host] at hm
      obtain ⟨block, hb, hv⟩ := List.mem_filterMap.mp hm
      obtain ⟨l, hsp, hsub⟩ := blocks.exists_of_mem hb
      cases hsp with
      | host head shown =>
        cases hv
        exact head.label (hfront _ (hsub List.mem_cons_self)) shown
      | features => cases hv
    · rw [hs.features] at he
      obtain ⟨g, hg, rfl⟩ := List.mem_map.mp he
      obtain ⟨block, hb, hg⟩ := List.mem_flatMap.mp hg
      obtain ⟨l, hsp, hsub⟩ := blocks.exists_of_mem hb
      cases hsp with
      | host => cases hg
      | features rest =>
        obtain ⟨l', hsp', hsub'⟩ := rest.exists_of_mem hg
        exact ⟨rfl, hsp'.writable fun x hx => hfront x (hsub (List.mem_cons_of_mem _ (hsub' hx)))⟩
    · have := hs.once
      rw [hs.features, Assoc.keys, List.map_map]
      exact this
    · obtain ⟨b, hb, hbp⟩ := hs.pages.exists_of_mem hp
      obtain ⟨l, hsp, hsub⟩ := pages.exists_of_mem hb
      exact hsp.writable (fun x hx => hback x (hsub hx)) hbp

/-- What is read from a text can be written. -/
theorem writable_of_parse {text : List Char} {s : Scenario} (h : parse text = .ok s) : Writable s := by
  obtain ⟨o, ho, hs⟩ := outline_of_parse h
  exact ho.writable (fun l hl => stands_of_mem hl) hs

/-- Reading is inverse to writing on the scenarios that can be read from a text at all, and these are
those that can be written. -/
theorem parse_write_tfae (s : Scenario) :
    [Writable s, parse (write s) = .ok s, ∃ text, parse text = .ok s].TFAE := by
  tfae_have 1 → 2 := parse_write
  tfae_have 2 → 3 := fun h => ⟨_, h⟩
  tfae_have 3 → 1 := fun ⟨_, h⟩ => writable_of_parse h
  tfae_finish

end Walkthrough.Script
