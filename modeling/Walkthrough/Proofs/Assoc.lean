import Walkthrough.Assoc
import Mathlib.Data.List.Induction
import Mathlib.Data.List.Nodup

/-! Maps in insertion order: what `put` does to the keys and to the values found under them, and
`ofPairs` as the fold of `put`, in which the last entry of a key stays. A list whose keys are pairwise
different is its own map. -/

namespace Walkthrough.Assoc

variable {κ α β : Type}

/-- The keys of a map in their order. -/
def keys (es : List (κ × α)) : List κ := es.map Prod.fst

@[simp] theorem keys_nil : keys ([] : List (κ × α)) = [] := rfl

@[simp] theorem keys_cons (e : κ × α) (es : List (κ × α)) : keys (e :: es) = e.1 :: keys es := rfl

@[simp] theorem keys_append (es fs : List (κ × α)) : keys (es ++ fs) = keys es ++ keys fs :=
  List.map_append

/-- An entry after which the key does not come again. -/
def Latest (k : κ) (a : α) (es : List (κ × α)) : Prop :=
  ∃ before after, es = before ++ (k, a) :: after ∧ k ∉ keys after

theorem latest_concat {k : κ} {a : α} {es : List (κ × α)} {e : κ × α} :
    Latest k a (es ++ [e]) ↔ e = (k, a) ∨ e.1 ≠ k ∧ Latest k a es := by
  constructor
  · rintro ⟨before, after, h, hk⟩
    rcases List.eq_nil_or_concat after with rfl | ⟨after, f, rfl⟩
    · exact .inl (List.cons.inj (List.append_inj' h rfl).2).1
    · rw [List.concat_eq_append] at h hk
      rw [← List.cons_append, ← List.append_assoc] at h
      obtain ⟨rfl, hf⟩ := List.append_inj' h rfl
      cases hf
      rw [keys_append, List.mem_append, not_or] at hk
      exact .inr ⟨fun he => hk.2 (List.mem_singleton.mpr he.symm), before, after, rfl, hk.1⟩
  · rintro (rfl | ⟨hne, before, after, rfl, hk⟩)
    · exact ⟨es, [], rfl, nofun⟩
    · refine ⟨before, after ++ [e], by rw [List.append_assoc, List.cons_append], ?_⟩
      rw [keys_append, List.mem_append, not_or]
      exact ⟨hk, fun he => hne (List.mem_singleton.mp he).symm⟩

variable [DecidableEq κ]

@[simp] theorem get?_nil (k : κ) : get? k ([] : List (κ × α)) = none := rfl

theorem get?_cons (k : κ) (e : κ × α) (es : List (κ × α)) :
    get? k (e :: es) = if e.1 = k then some e.2 else get? k es := rfl

theorem get?_eq_none_iff {k : κ} {es : List (κ × α)} : get? k es = none ↔ k ∉ keys es := by
  induction es with
  | nil => simp
  | cons e es ih =>
    rw [get?_cons, keys_cons, List.mem_cons, not_or]
    by_cases h : e.1 = k
    · simp [h]
    · simp [h, ih, Ne.symm h]

theorem contains_iff {k : κ} {es : List (κ × α)} : contains k es = true ↔ k ∈ keys es := by
  rw [contains, Option.isSome_iff_ne_none, Ne, get?_eq_none_iff, not_not]

theorem mem_of_get? {k : κ} {a : α} {es : List (κ × α)} (h : get? k es = some a) :
    (k, a) ∈ es := by
  induction es with
  | nil => cases h
  | cons e es ih =>
    rw [get?_cons] at h
    split at h
    case isTrue hk => cases hk; cases h; exact List.mem_cons_self
    case isFalse => exact List.mem_cons_of_mem _ (ih h)

/-- In a map with pairwise different keys an entry is what is found under its key. -/
theorem get?_eq_some_iff {k : κ} {a : α} {es : List (κ × α)} (hn : (keys es).Nodup) :
    get? k es = some a ↔ (k, a) ∈ es := by
  refine ⟨mem_of_get?, fun h => ?_⟩
  induction es with
  | nil => cases h
  | cons e es ih =>
    rw [keys_cons, List.nodup_cons] at hn
    rcases List.mem_cons.mp h with rfl | h
    · simp [get?_cons]
    · have hk : e.1 ≠ k := fun hk => hn.1 (hk ▸ List.mem_map_of_mem h)
      rw [get?_cons, if_neg hk, ih hn.2 h]

theorem eq_of_mem {k : κ} {a b : α} {es : List (κ × α)} (hn : (keys es).Nodup) (ha : (k, a) ∈ es)
    (hb : (k, b) ∈ es) : a = b := by
  rw [← get?_eq_some_iff hn] at ha hb
  rw [ha] at hb
  exact Option.some.inj hb

/-- In a map with pairwise different keys the order of the entries decides nothing. -/
theorem get?_perm {es fs : List (κ × α)} (hn : (keys es).Nodup) (h : fs.Perm es) (k : κ) :
    get? k fs = get? k es := by
  have hn' : (keys fs).Nodup := (h.map Prod.fst).nodup_iff.mpr hn
  refine Option.ext fun a => ?_
  rw [get?_eq_some_iff hn', get?_eq_some_iff hn, h.mem_iff]

/-! ## Putting an entry -/

theorem put_of_not_mem {k : κ} {es : List (κ × α)} (h : k ∉ keys es) (a : α) :
    put k a es = es ++ [(k, a)] := by
  induction es with
  | nil => rfl
  | cons e es ih =>
    rw [keys_cons, List.mem_cons, not_or] at h
    rw [put, if_neg (Ne.symm h.1), ih h.2]
    rfl

theorem keys_put_of_mem {k : κ} {es : List (κ × α)} (h : k ∈ keys es) (a : α) :
    keys (put k a es) = keys es := by
  induction es with
  | nil => cases h
  | cons e es ih =>
    rw [put]
    split
    · rfl
    · next hk =>
      rw [keys_cons, keys_cons, ih]
      exact (List.mem_cons.mp h).resolve_left (Ne.symm hk)

theorem mem_keys_put {k j : κ} {a : α} {es : List (κ × α)} :
    j ∈ keys (put k a es) ↔ j = k ∨ j ∈ keys es := by
  by_cases h : k ∈ keys es
  · rw [keys_put_of_mem h]
    exact ⟨.inr, fun hj => hj.elim (fun e => e ▸ h) id⟩
  · rw [put_of_not_mem h, keys_append, List.mem_append, keys_cons, keys_nil, List.mem_singleton,
      or_comm]

theorem mem_of_mem_put {k : κ} {a : α} {e : κ × α} {es : List (κ × α)} (h : e ∈ put k a es) :
    e = (k, a) ∨ e ∈ es := by
  induction es with
  | nil => exact .inl (List.mem_singleton.mp h)
  | cons f es ih =>
    rw [put] at h
    split at h
    · next hk =>
      rcases List.mem_cons.mp h with rfl | h
      · exact .inl (by rw [hk])
      · exact .inr (List.mem_cons_of_mem _ h)
    · rcases List.mem_cons.mp h with rfl | h
      · exact .inr List.mem_cons_self
      · exact (ih h).imp_right (List.mem_cons_of_mem _)

theorem get?_put_self (k : κ) (a : α) (es : List (κ × α)) : get? k (put k a es) = some a := by
  induction es with
  | nil => rw [put, get?_cons, if_pos rfl]
  | cons e es ih =>
    rw [put]
    split
    · next h => rw [get?_cons, if_pos h]
    · next h => rw [get?_cons, if_neg h, ih]

theorem get?_put_of_ne {k j : κ} (h : j ≠ k) (a : α) (es : List (κ × α)) :
    get? j (put k a es) = get? j es := by
  induction es with
  | nil => rw [put, get?_cons, if_neg h.symm]
  | cons e es ih =>
    rw [put]
    split
    · next hk => rw [get?_cons, get?_cons, if_neg (hk ▸ h.symm), if_neg (hk ▸ h.symm)]
    · rw [get?_cons, get?_cons, ih]

theorem nodup_keys_put {k : κ} {es : List (κ × α)} (h : (keys es).Nodup) (a : α) :
    (keys (put k a es)).Nodup := by
  by_cases hk : k ∈ keys es
  · rwa [keys_put_of_mem hk]
  · rw [put_of_not_mem hk, keys_append]
    exact h.append (List.nodup_singleton k) (by simpa using hk)

/-! ## The map of a list of pairs -/

theorem ofPairs_concat (es : List (κ × α)) (e : κ × α) :
    ofPairs (es ++ [e]) = put e.1 e.2 (ofPairs es) := by
  rw [ofPairs, ofPairs, List.foldl_append]
  rfl

theorem mem_of_mem_ofPairs {e : κ × α} {es : List (κ × α)} (h : e ∈ ofPairs es) : e ∈ es := by
  induction es using List.reverseRecOn with
  | nil => cases h
  | append_singleton es f ih =>
    rw [ofPairs_concat] at h
    rcases mem_of_mem_put h with rfl | h
    · simp
    · exact List.mem_append_left _ (ih h)

theorem nodup_keys_ofPairs (es : List (κ × α)) : (keys (ofPairs es)).Nodup := by
  induction es using List.reverseRecOn with
  | nil => exact List.nodup_nil
  | append_singleton es e ih => rw [ofPairs_concat]; exact nodup_keys_put ih e.2

/-- Of the entries with one key the last stays. -/
theorem mem_ofPairs_iff {k : κ} {a : α} {es : List (κ × α)} :
    (k, a) ∈ ofPairs es ↔ Latest k a es := by
  induction es using List.reverseRecOn with
  | nil =>
    refine ⟨nofun, ?_⟩
    rintro ⟨before, after, h, -⟩
    cases before <;> cases h
  | append_singleton es e ih =>
    rw [latest_concat, ofPairs_concat,
      ← get?_eq_some_iff (nodup_keys_put (nodup_keys_ofPairs es) e.2)]
    by_cases he : e.1 = k
    · rw [he, get?_put_self]
      simp [Prod.ext_iff, he]
    · rw [get?_put_of_ne (Ne.symm he), get?_eq_some_iff (nodup_keys_ofPairs es), ih]
      simp [Prod.ext_iff, he]

theorem ofPairs_of_nodup {es : List (κ × α)} (h : (keys es).Nodup) : ofPairs es = es := by
  induction es using List.reverseRecOn with
  | nil => rfl
  | append_singleton es e ih =>
    rw [keys_append, List.nodup_append] at h
    rw [ofPairs_concat, ih h.1, put_of_not_mem]
    exact fun hk => h.2.2 _ hk e.1 List.mem_cons_self rfl

end Walkthrough.Assoc
