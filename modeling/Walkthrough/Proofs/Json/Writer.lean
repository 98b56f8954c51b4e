import Walkthrough.Json.Writer
import Walkthrough.Proofs.Text.Proper

/-! What is written of a proper value, one whose texts are proper, is proper text. -/

namespace Walkthrough

/-- Plain values whose texts are proper, the keys of maps being texts. -/
inductive Data.Proper : Data → Prop
  | null : Proper .null
  | int (n : Int) : Proper (.int n)
  | text {s : String} (h : Text.Proper s) : Proper (.text s)
  | list {items : List Data} (h : ∀ d ∈ items, Proper d) : Proper (.list items)
  | map {entries : List (Data × Data)} (keys : ∀ e ∈ entries, ∃ k, e.1 = .text k ∧ Text.Proper k)
    (values : ∀ e ∈ entries, Proper e.2) : Proper (.map entries)

namespace Json

open Text

theorem isOrdinary_of_mem_escapeChar {c d : Char} (hc : isOrdinary c = true)
    (h : d ∈ escapeChar c) : isOrdinary d = true := by
  unfold escapeChar at h
  split at h
  · exact (by decide : ∀ d ∈ ['\\', '"'], isOrdinary d = true) d h
  repeat' split at h
  · exact (by decide : ∀ d ∈ ['\\', '\\'], isOrdinary d = true) d h
  · exact (by decide : ∀ d ∈ ['\\', 'n'], isOrdinary d = true) d h
  · exact (by decide : ∀ d ∈ ['\\', 'r'], isOrdinary d = true) d h
  · exact (by decide : ∀ d ∈ ['\\', 't'], isOrdinary d = true) d h
  · exact (by decide : ∀ d ∈ ['\\', 'b'], isOrdinary d = true) d h
  · exact (by decide : ∀ d ∈ ['\\', 'f'], isOrdinary d = true) d h
  · rcases List.mem_cons.mp h with rfl | h
    · decide
    · rcases List.mem_cons.mp h with rfl | h
      · decide
      · exact isOrdinary_of_mem_hexPadded h
  · rwa [List.mem_singleton.mp h]

/-- A character that needs a mark stays as it is, and so does its mark. -/
theorem flatMap_escapeChar_holdPoint {c : Char} (h : isOrdinary c = false) :
    (holdPoint c.toNat).flatMap escapeChar = holdPoint c.toNat := by
  have hc : 0x10F000 ≤ c.toNat := by
    by_contra hc
    rw [isOrdinary_of_toNat_lt (by omega)] at h
    cases h
  have high : ∀ d : Char, 0x10F000 ≤ d.toNat → escapeChar d = [d] := fun d hd => by
    have apart : ∀ e : Char, e.toNat < 0x80 → (d == e) = false := fun e he =>
      beq_false_of_ne fun h => by subst h; omega
    unfold escapeChar
    rw [apart _ (by decide), apart _ (by decide), apart _ (by decide), apart _ (by decide),
      apart _ (by decide), if_neg Bool.false_ne_true, if_neg Bool.false_ne_true,
      if_neg Bool.false_ne_true, if_neg Bool.false_ne_true, if_neg Bool.false_ne_true]
    simp only [beq_iff_eq]
    rw [if_neg (by omega), if_neg (by omega), if_neg (by omega)]
  have hs : (isStandIn c || isMark c) = true := by rwa [isOrdinary, Bool.not_eq_false'] at h
  rw [holdPoint, isSurrogate_toNat, if_neg Bool.false_ne_true, Char.ofNat_toNat,
    if_pos hs, List.flatMap_cons, List.flatMap_cons, high _ (by decide),
    high c hc]
  rfl

theorem proper_writeText {s : String} (h : Text.Proper s) : Text.Proper (writeText s) := by
  obtain ⟨cs, rfl⟩ := h
  have body : Text.Proper (String.ofList ((CodePoints.ofChars cs).held.flatMap escapeChar)) := by
    induction cs with
    | nil => exact .literal rfl
    | cons c cs ih =>
      rw [← List.singleton_append, held_ofChars_append, List.flatMap_append, String.ofList_append]
      refine .append ?_ ih
      have single : (CodePoints.ofChars [c]).held = holdPoint c.toNat := by
        rw [CodePoints.ofChars, CodePoints.held, List.map_cons, List.map_nil, List.flatMap_cons,
          List.flatMap_nil, List.append_nil]
      rw [single]
      cases hc : isOrdinary c with
      | true =>
        rw [holdPoint_of_isOrdinary hc, List.flatMap_singleton]
        exact .of_isOrdinary fun _ => isOrdinary_of_mem_escapeChar hc
      | false =>
        rw [flatMap_escapeChar_holdPoint hc, ← single]
        exact ⟨[c], rfl⟩
  rw [writeText, escape, ofChars, CodePoints.text, String.toList_ofList, ← List.singleton_append,
    String.ofList_append, String.ofList_append]
  exact .append (.literal rfl) (.append body (.literal rfl))

theorem proper_writeKey {d : Data} (h : ∃ k, d = .text k ∧ Text.Proper k) :
    Text.Proper (writeKey d) := by
  obtain ⟨k, rfl, hk⟩ := h
  exact proper_writeText hk

section OneLine

variable {sep : Separators}

theorem proper_writeItems (hs : Text.Proper sep.item) {items : List Data}
    (h : ∀ d ∈ items, Text.Proper (writeWith sep d)) : Text.Proper (writeItems sep items) := by
  induction items with
  | nil => exact (.literal rfl : Text.Proper "")
  | cons d items ih =>
    have hd := h d List.mem_cons_self
    have ih := ih fun e he => h e (List.mem_cons_of_mem d he)
    cases items with
    | nil => exact hd
    | cons e items => exact .append (.append hd hs) ih

theorem proper_writeEntries (hs : Text.Proper sep.item) (hk : Text.Proper sep.key)
    {entries : List (Data × Data)} (keys : ∀ e ∈ entries, ∃ k, e.1 = .text k ∧ Text.Proper k)
    (values : ∀ e ∈ entries, Text.Proper (writeWith sep e.2)) :
    Text.Proper (writeEntries sep entries) := by
  induction entries with
  | nil => exact (.literal rfl : Text.Proper "")
  | cons e entries ih =>
    have he : Text.Proper (writeKey e.1 ++ sep.key ++ writeWith sep e.2) :=
      .append (.append (proper_writeKey (keys e List.mem_cons_self)) hk)
        (values e List.mem_cons_self)
    have ih := ih (fun e' he => keys e' (List.mem_cons_of_mem e he))
      fun e' he => values e' (List.mem_cons_of_mem e he)
    cases entries with
    | nil => exact he
    | cons e' entries => exact .append (.append he hs) ih

theorem proper_writeWith (hs : Text.Proper sep.item) (hk : Text.Proper sep.key) {d : Data}
    (h : d.Proper) : Text.Proper (writeWith sep d) := by
  induction h with
  | null => exact (.literal rfl : Text.Proper "null")
  | int n => exact .int n
  | text h => exact proper_writeText h
  | list _ ih => exact .append (.append (.literal rfl) (proper_writeItems hs ih)) (.literal rfl)
  | map keys _ ih =>
    exact .append (.append (.literal rfl) (proper_writeEntries hs hk keys ih)) (.literal rfl)

end OneLine

theorem proper_write {d : Data} (h : d.Proper) : Text.Proper (write d) :=
  proper_writeWith (.literal rfl) (.literal rfl) h

/-! ## Several lines -/

theorem proper_newline (depth : Nat) : Text.Proper (newline depth) :=
  .append (.literal rfl) <| .of_isOrdinary fun c hc => by
    rw [List.eq_of_mem_replicate hc]
    decide

/-- Every piece is proper. -/
abbrev ProperPieces (ps : List String) : Prop := ∀ p ∈ ps, Text.Proper p

theorem proper_indentedItems {items : List Data} {depth : Nat} {lead : String}
    (hl : Text.Proper lead) (h : ∀ d ∈ items, ∀ depth, ProperPieces (indentedAt depth d)) :
    ProperPieces (indentedItems depth lead items) := by
  induction items generalizing lead with
  | nil => exact fun p hp => absurd hp List.not_mem_nil
  | cons d items ih =>
    have hd := h d List.mem_cons_self depth
    have hl := hl.append (proper_newline depth)
    refine List.forall_mem_append.mpr
      ⟨?_, ih (.literal rfl) fun e he => h e (List.mem_cons_of_mem d he)⟩
    split
    · exact List.forall_mem_singleton.mpr (hl.append (.join hd))
    · exact List.forall_mem_cons.mpr ⟨hl, hd⟩

theorem proper_indentedEntries {entries : List (Data × Data)} {depth : Nat}
    (keys : ∀ e ∈ entries, ∃ k, e.1 = .text k ∧ Text.Proper k)
    (values : ∀ e ∈ entries, ∀ depth, ProperPieces (indentedAt depth e.2)) :
    ProperPieces (indentedEntries depth entries) := by
  induction entries with
  | nil => exact fun p hp => absurd hp List.not_mem_nil
  | cons e entries ih =>
    have he : ProperPieces (writeKey e.1 :: ": " :: indentedAt depth e.2) :=
      List.forall_mem_cons.mpr ⟨proper_writeKey (keys e List.mem_cons_self),
        List.forall_mem_cons.mpr ⟨.literal rfl, values e List.mem_cons_self depth⟩⟩
    have ih := ih (fun e' he => keys e' (List.mem_cons_of_mem e he))
      fun e' he => values e' (List.mem_cons_of_mem e he)
    cases entries with
    | nil => exact he
    | cons e' entries =>
      exact List.forall_mem_append.mpr ⟨he,
        List.forall_mem_cons.mpr ⟨.append (.literal rfl) (proper_newline depth), ih⟩⟩

theorem proper_indentedAt {d : Data} (h : d.Proper) (depth : Nat) :
    ProperPieces (indentedAt depth d) := by
  induction h generalizing depth with
  | null => exact List.forall_mem_singleton.mpr (.literal rfl)
  | int n => exact List.forall_mem_singleton.mpr (.int n)
  | text h => exact List.forall_mem_singleton.mpr (proper_writeText h)
  | @list items _ ih =>
    cases items with
    | nil => exact List.forall_mem_singleton.mpr (.literal rfl)
    | cons d items =>
      refine List.forall_mem_append.mpr ⟨proper_indentedItems (.literal rfl) ih, ?_⟩
      exact List.forall_mem_cons.mpr
        ⟨proper_newline depth, List.forall_mem_singleton.mpr (.literal rfl)⟩
  | @map entries keys _ ih =>
    cases entries with
    | nil => exact List.forall_mem_singleton.mpr (.literal rfl)
    | cons e entries =>
      refine List.forall_mem_cons.mpr ⟨.literal rfl, List.forall_mem_cons.mpr
        ⟨proper_newline _, List.forall_mem_append.mpr ⟨proper_indentedEntries keys ih, ?_⟩⟩⟩
      exact List.forall_mem_cons.mpr
        ⟨proper_newline depth, List.forall_mem_singleton.mpr (.literal rfl)⟩

theorem proper_indentedParts {d : Data} (h : d.Proper) : ProperPieces (indentedParts d) :=
  proper_indentedAt h 0

end Json

end Walkthrough
