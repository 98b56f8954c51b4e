/-!
Texts as code points. Escapes can name a surrogate on its own, which is no character, and such a text
is held in characters all the same: characters for private use near the end of the last plane stand in
for the surrogates, and where one of these is meant itself, a mark goes before it. `points_held` says
that nothing is lost by this.
-/

namespace Walkthrough.Text

/-- A sequence of Unicode code points, lone surrogates included. -/
abbrev CodePoints := List Nat

def isHighSurrogate (n : Nat) : Bool := 0xD800 ≤ n && n ≤ 0xDBFF

def isLowSurrogate (n : Nat) : Bool := 0xDC00 ≤ n && n ≤ 0xDFFF

def isSurrogate (n : Nat) : Bool := 0xD800 ≤ n && n ≤ 0xDFFF

/-- The code point that a pair of surrogates stands for. -/
def joinSurrogates (high low : Nat) : Nat := 0x10000 + (high - 0xD800) * 0x400 + (low - 0xDC00)

/-- The distance of the surrogates from the characters that stand in for them. -/
def standInDistance : Nat := 0x10F000 - 0xD800

/-- Whether a character stands in for a surrogate. -/
def isStandIn (c : Char) : Bool := 0x10F000 ≤ c.toNat && c.toNat ≤ 0x10F7FF

/-- The mark before a stand-in, or a mark, that is meant itself. -/
def isMark (c : Char) : Bool := c.toNat == 0x10F800

/-- The characters that hold a code point. -/
def holdPoint (n : Nat) : List Char :=
  if isSurrogate n then [Char.ofNat (n + standInDistance)]
  else
    let c := Char.ofNat n
    if isStandIn c || isMark c then [Char.ofNat 0x10F800, c] else [c]

/-- The code point that a character without a mark holds. -/
def pointOf (c : Char) : Nat := if isStandIn c then c.toNat - standInDistance else c.toNat

/-- The code points that characters hold. -/
def points : List Char → CodePoints
  | [] => []
  | [c] => [pointOf c]
  | c :: d :: rest =>
    if isMark c && (isStandIn d || isMark d) then d.toNat :: points rest
    else pointOf c :: points (d :: rest)

/-- The count of the code points of a text. -/
def length (s : String) : Nat := (points s.toList).length

/-- Whether every code point of a text is a character. -/
def isWhole (s : String) : Bool := !(points s.toList).any isSurrogate

namespace CodePoints

def ofChars (cs : List Char) : CodePoints := cs.map Char.toNat

/-- The characters that hold code points. -/
def held (ns : CodePoints) : List Char := ns.flatMap holdPoint

/-- The text that code points make. -/
def text (ns : CodePoints) : String := String.ofList ns.held

/-- The characters, if every code point is one. -/
def toChars? : CodePoints → Option (List Char)
  | [] => some []
  | n :: rest => if n.isValidChar then (toChars? rest).map (Char.ofNat n :: ·) else none

end CodePoints

/-- The text that characters make. -/
def ofChars (cs : List Char) : String := (CodePoints.ofChars cs).text

private theorem exists_char {n : Nat} (h : n.isValidChar) :
    ∃ c : Char, Char.ofNat n = c ∧ c.toNat = n :=
  ⟨Char.ofNat n, rfl, by rw [Char.ofNat, dif_pos h]; rfl⟩

private theorem points_cons {c : Char} (h : isMark c = false) (cs : List Char) :
    points (c :: cs) = pointOf c :: points cs := by
  cases cs <;> simp [points, h]

private theorem points_holdPoint {n : Nat} (h : n.isValidChar ∨ isSurrogate n) (cs : List Char) :
    points (holdPoint n ++ cs) = n :: points cs := by
  unfold holdPoint
  by_cases hs : isSurrogate n
  · have hn : 0xD800 ≤ n ∧ n ≤ 0xDFFF := by simpa [isSurrogate] using hs
    obtain ⟨c, hc, hv⟩ := exists_char (n := n + standInDistance) (Or.inr (by
      unfold standInDistance; omega))
    have hm : isMark c = false := by
      unfold isMark; rw [hv]; unfold standInDistance; exact beq_false_of_ne (by omega)
    have hi : isStandIn c = true := by
      unfold isStandIn; rw [hv]; unfold standInDistance
      exact Bool.and_eq_true_iff.2 ⟨decide_eq_true (by omega), decide_eq_true (by omega)⟩
    rw [if_pos hs, hc, List.singleton_append, points_cons hm, pointOf, if_pos hi, hv,
      Nat.add_sub_cancel]
  · obtain ⟨c, hc, hv⟩ := exists_char (h.resolve_right hs)
    rw [if_neg hs]
    simp only [hc]
    by_cases hr : isStandIn c || isMark c
    · have hm : isMark (Char.ofNat 0x10F800) = true := by
        obtain ⟨m, hm, hv⟩ := exists_char (n := 0x10F800) (Or.inr (by omega))
        rw [hm, isMark, hv]
        exact beq_self_eq_true _
      rw [if_pos hr]
      simp only [List.cons_append, List.nil_append]
      rw [points, hm, hr, hv]
      simp
    · simp only [Bool.or_eq_true, not_or, Bool.not_eq_true] at hr
      rw [if_neg (by simp [hr]), List.singleton_append, points_cons hr.2, pointOf,
        if_neg (by simp [hr]), hv]

/-- What is held in characters is read from them again. -/
theorem points_held {ns : CodePoints} (h : ∀ n ∈ ns, n.isValidChar ∨ isSurrogate n) :
    points ns.held = ns := by
  induction ns with
  | nil => rfl
  | cons n rest ih =>
    have := points_holdPoint (h n (by simp)) (CodePoints.held rest)
    rw [ih fun m hm => h m (by simp [hm])] at this
    simpa [CodePoints.held] using this

end Walkthrough.Text
