import Walkthrough.Proofs.Json.Limits

/-! The fuel of the readers of JSON. Each bracket, brace and comma takes a character from the input, and two
units of fuel for each of its characters are enough to read a value (`readValue_add`). -/

namespace Walkthrough.Json

open Text

variable {c : Char} {cs rest : List Char}

theorem length_skipSpace_lt (h : skipSpace cs = c :: rest) : (skipSpace rest).length < cs.length := by
  have all := (skipSpace_suffix cs).length_le
  have less := (skipSpace_suffix rest).length_le
  rw [h, List.length_cons] at all
  omega

/-- So much fuel is no less than any more of it, for inputs that are not longer than half of it. -/
structure Settled (fuel : Nat) : Prop where
  value : ∀ depth cs, 2 * cs.length < fuel → readValue depth (fuel + 1) cs = readValue depth fuel cs
  items : ∀ depth items cs, 2 * cs.length + 1 < fuel →
    readItems depth (fuel + 1) items cs = readItems depth fuel items cs
  members : ∀ depth members cs, 2 * cs.length + 1 < fuel →
    readMembers depth (fuel + 1) members cs = readMembers depth fuel members cs

namespace Settled

variable {fuel : Nat}

theorem value_succ (ih : Settled fuel) (depth : Nat) (cs : List Char) (h : 2 * cs.length < fuel + 1) :
    readValue depth (fuel + 1 + 1) cs = readValue depth (fuel + 1) cs := by
  have inside {c : Char} {rest : List Char} (eq : cs = c :: rest) :
      2 * (skipSpace rest).length + 1 < fuel := by
    have := (skipSpace_suffix rest).length_le
    rw [eq, List.length_cons] at h
    omega
  unfold readValue
  split
  · rfl
  · next rest =>
    split
    · rfl
    · rfl
    · exact ih.members _ _ _ (inside rfl)
  · next rest =>
    split
    · rfl
    · rfl
    · exact ih.items _ _ _ (inside rfl)
  · rfl

theorem items_succ (ih : Settled fuel) (depth : Nat) (items : List Data) (cs : List Char)
    (h : 2 * cs.length + 1 < fuel + 1) :
    readItems depth (fuel + 1 + 1) items cs = readItems depth (fuel + 1) items cs := by
  rw [readItems, readItems, ih.value depth cs (by omega)]
  have ends := (limited fuel).value depth cs
  generalize readValue depth fuel cs = r at ends ⊢
  cases ends with
  | error => rfl
  | @ok item rest ends =>
  dsimp only
  split
  · rfl
  · next rest' comma =>
    refine ih.items _ _ _ ?_
    have := ends.length_le
    have := length_skipSpace_lt comma
    omega
  · rfl

theorem members_succ (ih : Settled fuel) (depth : Nat) (members : List (Data × Data)) (cs : List Char)
    (h : 2 * cs.length + 1 < fuel + 1) :
    readMembers depth (fuel + 1 + 1) members cs = readMembers depth (fuel + 1) members cs := by
  unfold readMembers
  split
  on_goal 2 => rfl
  next rest =>
  have ends := within_readText depth ('"' :: rest) [] rest
  generalize readText ('"' :: rest) [] rest = r at ends ⊢
  cases ends with
  | error => rfl
  | @ok key rest₁ ends =>
  dsimp only
  split
  on_goal 2 => rfl
  next rest₂ colon =>
  have name := ends.length_le
  have behind := length_skipSpace_lt colon
  rw [List.length_cons] at h
  rw [ih.value depth (skipSpace rest₂) (by omega)]
  have ends := (limited fuel).value depth (skipSpace rest₂)
  generalize readValue depth fuel (skipSpace rest₂) = r at ends ⊢
  cases ends with
  | error => rfl
  | @ok d rest₃ ends =>
  dsimp only
  split
  · rfl
  · next rest₄ comma =>
    refine ih.members _ _ _ ?_
    have := ends.length_le
    have := length_skipSpace_lt comma
    omega
  · rfl

end Settled

theorem settled (fuel : Nat) : Settled fuel := by
  induction fuel with
  | zero => exact ⟨nofun, nofun, nofun⟩
  | succ fuel ih => exact ⟨ih.value_succ, ih.items_succ, ih.members_succ⟩

/-- More fuel than two units for each character changes nothing. -/
theorem readValue_add {depth fuel : Nat} (h : 2 * cs.length < fuel) (more : Nat) :
    readValue depth (fuel + more) cs = readValue depth fuel cs := by
  induction more with
  | zero => rfl
  | succ more ih =>
    exact ((settled _).value depth cs (Nat.lt_of_lt_of_le h (Nat.le_add_right _ _))).trans ih

end Walkthrough.Json
