import Mathlib.Algebra.Group.Nat.Defs
import Mathlib.Data.List.TakeWhile
import Walkthrough.Json.Reader
import Walkthrough.Number.Read
import Walkthrough.Proofs.Assoc
import Walkthrough.Proofs.Basic

/-! The values that JSON texts write. `Json.isJson_of_read` says that reading gives no others: no object
has a key twice, and no integer is longer than what reading converts. -/

namespace Walkthrough

/-- The entries of an object, its keys being texts. -/
def Data.members (fs : List (String × Data)) : List (Data × Data) :=
  fs.map fun e => (.text e.1, e.2)

def Data.object (fs : List (String × Data)) : Data := .map (members fs)

/-- Values that JSON writes, `p` holding of all their texts. -/
inductive Data.IsJson (p : String → Prop) : Data → Prop
  | null : IsJson p .null
  | bool (b : Bool) : IsJson p (.bool b)
  | int {n : Int} (short : Number.isOverlong n = false) : IsJson p (.int n)
  | float (x : Binary64) : IsJson p (.float x)
  | text {s : String} (h : p s) : IsJson p (.text s)
  | list {items : List Data} (h : ∀ d ∈ items, IsJson p d) : IsJson p (.list items)
  | object {fs : List (String × Data)} (once : (Assoc.keys fs).Nodup) (keys : ∀ e ∈ fs, p e.1)
      (values : ∀ e ∈ fs, IsJson p e.2) : IsJson p (.object fs)

namespace Data

variable {p : String → Prop} {fs gs : List (String × Data)}

theorem object_inj (h : object fs = object gs) : fs = gs := by
  rw [object, object, map.injEq, members, members, List.map_inj_right] at h
  · exact h
  · rintro ⟨k, v⟩ ⟨k', v'⟩ heq
    cases heq
    rfl

theorem putBy_text (k : String) (d : Data) (fs : List (String × Data)) :
    Assoc.putBy sameKey (.text k) d (members fs) = members (Assoc.put k d fs) := by
  induction fs with
  | nil => rfl
  | cons e fs ih =>
    have same : sameKey (.text e.1) (.text k) = (e.1 == k) := rfl
    rw [members, List.map_cons, Assoc.putBy, Assoc.put, same]
    by_cases hk : e.1 = k
    · rw [if_pos (beq_iff_eq.mpr hk), if_pos hk]
      rfl
    · rw [if_neg (mt beq_iff_eq.mp hk), if_neg hk]
      exact congrArg _ ih

/-- Of members with one key the last value counts. -/
theorem mapOf_texts (fs : List (String × Data)) :
    mapOf (members fs) = object (Assoc.ofPairs fs) := by
  rw [mapOf, object, map.injEq]
  induction fs using List.reverseRecOn with
  | nil => rfl
  | append_singleton fs e ih =>
    rw [members, List.map_append, List.foldl_append, ← members, ih, Assoc.ofPairs_concat]
    exact putBy_text e.1 e.2 _

theorem IsJson.mapOf (h : ∀ e ∈ fs, IsJson p e.2) (keys : ∀ e ∈ fs, p e.1) :
    IsJson p (mapOf (members fs)) := by
  rw [mapOf_texts]
  exact .object (Assoc.nodup_keys_ofPairs fs) (fun e he => keys e (Assoc.mem_of_mem_ofPairs he))
    fun e he => h e (Assoc.mem_of_mem_ofPairs he)

theorem isJson_object_iff : IsJson p (Data.object fs) ↔
    (Assoc.keys fs).Nodup ∧ (∀ e ∈ fs, p e.1) ∧ ∀ e ∈ fs, IsJson p e.2 := by
  constructor
  · intro h
    generalize ho : Data.object fs = o at h
    cases h with
    | object once keys values =>
      rw [object_inj ho]
      exact ⟨once, keys, values⟩
    | _ => cases ho
  · rintro ⟨once, keys, values⟩
    exact .object once keys values

theorem mem_of_lookup {key : String} {es : List (Data × Data)} {d : Data}
    (h : lookup key es = some d) : (.text key, d) ∈ es := by
  induction es with
  | nil => cases h
  | cons e es ih =>
    unfold lookup at h
    split at h
    · next heq => cases heq
    · next heq =>
      cases heq
      split at h
      · next hk =>
        cases h
        rw [beq_iff_eq.mp hk]
        exact List.mem_cons_self
      · exact List.mem_cons_of_mem _ (ih h)
    · next heq =>
      cases heq
      exact List.mem_cons_of_mem _ (ih h)

/-- What a key of an object stands for. -/
theorem IsJson.lookup {key : String} {d : Data} {es : List (Data × Data)} (h : IsJson p (.map es))
    (hd : Data.lookup key es = some d) : IsJson p d := by
  cases h with
  | object _ _ values =>
    obtain ⟨e, he, ⟨⟩⟩ := List.mem_map.mp (mem_of_lookup hd)
    exact values e he

end Data

namespace Json

open Text

/-! ## Numbers -/

theorem ofDigits_lt {ds : List Nat} (h : ∀ d ∈ ds, d < 10) : ofDigits 10 ds < 10 ^ ds.length := by
  rw [ofDigits]
  induction ds using List.reverseRecOn with
  | nil => decide
  | append_singleton ds d ih =>
    have hd := h d (by simp)
    have ih := ih fun d hd => h d (by simp [hd])
    rw [List.foldl_append, List.length_append, Nat.pow_add]
    simp only [List.foldl_cons, List.foldl_nil, List.length_singleton]
    omega

theorem ofDecimal_lt {cs : List Char} {n : Nat} (h : ∀ c ∈ cs, isDigit c = true)
    (hn : cs.length ≤ n) : ofDecimal cs < 10 ^ n := by
  have digits : ∀ d ∈ cs.map fun c => c.toNat - 48, d < 10 := by
    intro d hd
    obtain ⟨c, hc, rfl⟩ := List.mem_map.mp hd
    have hc : c ≤ '9' := of_decide_eq_true (Bool.and_eq_true_iff.mp (h c hc)).2
    have hc : c.toNat ≤ 57 := hc
    omega
  have lt := ofDigits_lt digits
  rw [List.length_map] at lt
  exact Nat.lt_of_lt_of_le lt (Nat.pow_le_pow_right (by decide) hn)

theorem isOverlong_ofDecimal {cs : List Char} (h : ∀ c ∈ cs, isDigit c = true)
    (short : cs.length ≤ digitLimit) (negative : Bool) :
    Number.isOverlong (if negative then -(ofDecimal cs : Int) else ofDecimal cs) = false := by
  have bound : ofDecimal cs < 10 ^ Number.digitLimit := ofDecimal_lt h short
  have abs : (if negative then -(ofDecimal cs : Int) else ofDecimal cs).natAbs = ofDecimal cs := by
    split <;> omega
  rw [Number.isOverlong, abs]
  generalize Number.digitLimit = n at bound ⊢
  exact decide_eq_false (Nat.not_le.mpr bound)

variable {d : Data} {rest cs : List Char}

theorem isJson_of_readNumber {start : List Char} {negative : Bool}
    (h : readNumber start negative cs = .ok (d, rest)) : d.IsJson fun _ => True := by
  unfold readNumber at h
  extract_lets whole at h
  have digits : ∀ c ∈ whole, isDigit c = true := by
    dsimp only [whole]
    split
    · decide
    · exact fun c hc => List.mem_takeWhile_imp hc
  clear_value whole
  split at h
  · cases h
  dsimp only at h
  split at h
  · split at h
    · cases h
    · next hlen =>
      cases h
      exact .int (isOverlong_ofDecimal digits (Nat.not_lt.mp hlen) negative)
  · cases h
    exact .float _

theorem isJson_of_readWord (h : readWord cs = some (d, rest)) : d.IsJson fun _ => True := by
  obtain ⟨⟨word, value⟩, hm, hw⟩ := List.exists_of_findSome?_eq_some h
  obtain ⟨_, -, ⟨⟩⟩ := Option.map_eq_some_iff.mp hw
  simp only [List.mem_cons, Prod.mk.injEq, List.not_mem_nil, or_false] at hm
  obtain ⟨-, rfl⟩ | ⟨-, rfl⟩ | ⟨-, rfl⟩ | ⟨-, rfl⟩ | ⟨-, rfl⟩ | ⟨-, rfl⟩ := hm
  · exact .null
  · exact .bool _
  · exact .bool _
  · exact .float _
  · exact .float _
  · exact .float _

/-! ## Values -/

/-- With so much fuel the readers of values, items and members give JSON values. -/
structure ReadsJson (fuel : Nat) : Prop where
  value : ∀ {depth cs d rest}, readValue depth fuel cs = .ok (d, rest) → d.IsJson fun _ => True
  items : ∀ {depth cs d rest} (is : List Data), (∀ i ∈ is, Data.IsJson (fun _ => True) i) →
    readItems depth fuel is cs = .ok (d, rest) → d.IsJson fun _ => True
  members : ∀ {depth cs d rest} (fs : List (String × Data)),
    (∀ e ∈ fs, Data.IsJson (fun _ => True) e.2) →
      readMembers depth fuel (Data.members fs) cs = .ok (d, rest) → d.IsJson fun _ => True

namespace ReadsJson

variable {fuel depth : Nat}

theorem value_succ (ih : ReadsJson fuel) (h : readValue depth (fuel + 1) cs = .ok (d, rest)) :
    d.IsJson fun _ => True := by
  unfold readValue at h
  split at h
  · obtain ⟨_, -, ⟨⟩⟩ := Except.map_eq_ok_iff.mp h
    exact .text trivial
  · split at h
    · cases h
    · cases h
      show (Data.object []).IsJson _
      exact Data.isJson_object_iff.mpr ⟨List.nodup_nil, nofun, nofun⟩
    · exact ih.members [] nofun h
  · split at h
    · cases h
    · cases h
      exact .list nofun
    · exact ih.items [] nofun h
  · split at h
    · next found hw =>
      cases h
      exact isJson_of_readWord hw
    · split at h
      · exact isJson_of_readNumber h
      · exact isJson_of_readNumber h

theorem items_succ (ih : ReadsJson fuel) (is : List Data)
    (read : ∀ i ∈ is, Data.IsJson (fun _ => True) i)
    (h : readItems depth (fuel + 1) is cs = .ok (d, rest)) : d.IsJson fun _ => True := by
  unfold readItems at h
  split at h
  · cases h
  · next item rest' hv =>
    have more : ∀ i ∈ item :: is, Data.IsJson (fun _ => True) i :=
      List.forall_mem_cons.mpr ⟨ih.value hv, read⟩
    split at h
    · cases h
      exact .list fun i hi => more i (List.mem_reverse.mp hi)
    · exact ih.items (item :: is) more h
    · cases h

theorem members_succ (ih : ReadsJson fuel) (fs : List (String × Data))
    (read : ∀ e ∈ fs, Data.IsJson (fun _ => True) e.2)
    (h : readMembers depth (fuel + 1) (Data.members fs) cs = .ok (d, rest)) :
    d.IsJson fun _ => True := by
  unfold readMembers at h
  split at h
  on_goal 2 => cases h
  split at h
  · cases h
  next key _ _ =>
  split at h
  on_goal 2 => cases h
  split at h
  · cases h
  next v _ hv =>
  have more : ∀ e ∈ (key, v) :: fs, Data.IsJson (fun _ => True) e.2 :=
    List.forall_mem_cons.mpr ⟨ih.value hv, read⟩
  dsimp only at h
  split at h
  · cases h
    have reversed : ∀ e ∈ ((key, v) :: fs).reverse, e.2.IsJson fun _ => True :=
      fun e he => more e (List.mem_reverse.mp he)
    have := Data.IsJson.mapOf reversed fun _ _ => trivial
    rwa [Data.members, List.map_reverse] at this
  · exact ih.members ((key, v) :: fs) more h
  · cases h

end ReadsJson

/-- The fuel is the same for the three readers, which call each other with less. -/
theorem readsJson (fuel : Nat) : ReadsJson fuel := by
  induction fuel with
  | zero => exact ⟨nofun, fun _ _ => nofun, fun _ _ => nofun⟩
  | succ fuel ih => exact ⟨ih.value_succ, ih.items_succ, ih.members_succ⟩

/-- What is read from a JSON text is a JSON value. -/
theorem isJson_of_read [StackRoom] (h : read cs = .ok d) : d.IsJson fun _ => True := by
  unfold read at h
  split at h
  · cases h
  · split at h
    · cases h
    · next hv =>
      split at h
      · cases h
        exact (readsJson _).value hv
      · cases h

end Json

end Walkthrough
