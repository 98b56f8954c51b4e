import Walkthrough.Browser.Memory
import Walkthrough.Proofs.Browser.Literals
import Walkthrough.Proofs.Text.LetterCase
import Walkthrough.Run.Lookup

/-! What expressions select that compare attributes. `read` reads such an expression, and `Step.selects` says
what it selects: both follow XPath 1.0, as far as these expressions use it. The expression that looks a field
up by its placeholder, name or id is read as six steps (`Lookup.read_attributeLocator`). Four of them compare
names and ids with the key of the field in small letters, but they only make ASCII letters small
(`Lookup.any_fieldSteps_iff`). So a name that the key is the lower case of is found exactly if it has no other
letters with a lower case (`Lookup.attributeLocator_ignores_case_iff`). -/

namespace Walkthrough.XPath

/-! ## What steps select -/

/-- A character translated from one alphabet to another. It stays as it is if the first alphabet does not have
it, and is left out if the second one is too short. -/
def translateChar (capitals smalls : List Char) (c : Char) : Option Char :=
  match capitals.idxOf? c with
  | none => some c
  | some i => smalls[i]?

def translate (capitals smalls cs : List Char) : List Char := cs.filterMap (translateChar capitals smalls)

/-- What a predicate compares with a text: an attribute, which may be translated from one alphabet to another
first. -/
structure Operand where
  name : String
  alphabets : Option (List Char × List Char)
  deriving DecidableEq, Repr

/-- All elements of a tag for which the operand is the text. -/
structure Step where
  tag : String
  operand : Operand
  text : List Char
  deriving DecidableEq, Repr

/-- Whether an attribute, given if it is there, is the text. To translate an attribute that is not there is to
translate the empty text. -/
def Operand.holds (o : Operand) (shown : Option String) (text : List Char) : Bool :=
  match o.alphabets with
  | none => shown.map String.toList == some text
  | some (capitals, smalls) => translate capitals smalls (shown.getD "").toList == text

def Step.selects (s : Step) (tag : String) (el : PageElement) : Bool :=
  s.tag == tag && s.operand.holds (el.attribute? s.operand.name) s.text

/-! ## Reading -/

/-- Code as tokens. -/
def plain (code : String) : List Token := code.toList.map .plain

/-- The tokens after some code, if they begin with it. -/
def skip (code : String) (ts : List Token) : Option (List Token) := ts.dropPrefix? (plain code)

def isNameChar (c : Char) : Bool := c.isAlphanum || c == '-' || c == '_'

/-- The characters of a name at the front, and the tokens after them. -/
def takeName : List Token → List Char × List Token
  | .plain c :: ts =>
    if isNameChar c then
      let (name, rest) := takeName ts
      (c :: name, rest)
    else ([], .plain c :: ts)
  | ts => ([], ts)

def readName (ts : List Token) : Option (String × List Token) :=
  match takeName ts with
  | ([], _) => none
  | (name, rest) => some (String.ofList name, rest)

/-- The last arguments of `concat`. -/
def readArguments : List Token → Option (List Char × List Token)
  | .literal content :: .plain ')' :: rest => some (content, rest)
  | .literal content :: .plain ',' :: .plain ' ' :: ts => do
    let (more, rest) ← readArguments ts
    return (content ++ more, rest)
  | _ => none

/-- A text: a literal, or a `concat` of at least two. -/
def readText : List Token → Option (List Char × List Token)
  | .literal content :: rest => some (content, rest)
  | ts => do
    match ← skip "concat(" ts with
    | .literal content :: .plain ',' :: .plain ' ' :: ts =>
      let (more, rest) ← readArguments ts
      return (content ++ more, rest)
    | _ => none

def readOperand (ts : List Token) : Option (Operand × List Token) :=
  match skip "translate(@" ts with
  | none => do
    let (name, rest) ← readName (← skip "@" ts)
    return (⟨name, none⟩, rest)
  | some ts => do
    let (name, ts) ← readName ts
    let (capitals, ts) ← readText (← skip ", " ts)
    let (smalls, ts) ← readText (← skip ", " ts)
    let rest ← skip ")" ts
    return (⟨name, some (capitals, smalls)⟩, rest)

def readStep (ts : List Token) : Option (Step × List Token) := do
  let (tag, ts) ← readName (← skip "//" ts)
  let (operand, ts) ← readOperand (← skip "[" ts)
  let (text, ts) ← readText (← skip "=" ts)
  let rest ← skip "]" ts
  return (⟨tag, operand, text⟩, rest)

/-- Steps with bars between them, at most as many as the fuel. -/
def readSteps : Nat → List Token → Option (List Step)
  | 0, _ => none
  | fuel + 1, ts => do
    let (step, ts) ← readStep ts
    if ts.isEmpty then return [step]
    else
      let more ← readSteps fuel (← skip " | " ts)
      return step :: more

/-- The steps of which an expression is the union. There are no more of them than tokens. -/
def read (cs : List Char) : Option (List Step) := do
  let ts ← scan cs
  readSteps (ts.length + 1) ts

/-! ## What is read -/

section Read

variable {ts rest : List Token}

theorem skip_plain (code : String) (ts : List Token) : skip code (plain code ++ ts) = some ts :=
  List.dropPrefix?_append_of_beq ts BEq.rfl

theorem plain_concat : plain "concat(" = concatHead := by decide

/-- A name of a tag or an attribute. -/
structure IsName (name : String) : Prop where
  nonempty : name.toList ≠ []
  chars : ∀ c ∈ name.toList, isNameChar c = true

/-- The tokens do not go on with a name. -/
def Stops (ts : List Token) : Prop := ∀ c, ts.head? = some (.plain c) → isNameChar c = false

theorem takeName_append {name : List Char} (h : ∀ c ∈ name, isNameChar c = true) (hs : Stops ts) :
    takeName (name.map .plain ++ ts) = (name, ts) := by
  induction name with
  | nil =>
    cases ts with
    | nil => rfl
    | cons t ts =>
      cases t with
      | literal => rfl
      | plain c =>
        rw [List.map_nil, List.nil_append, takeName, if_neg (Bool.eq_false_iff.mp (hs c rfl))]
  | cons c name ih =>
    obtain ⟨hc, hname⟩ := List.forall_mem_cons.mp h
    rw [List.map_cons, List.cons_append, takeName, if_pos hc, ih hname]

theorem readName_append {name : String} (h : IsName name) (hs : Stops ts) :
    readName (plain name ++ ts) = some (name, ts) := by
  rw [readName, plain, takeName_append h.chars hs]
  split
  · next eq => exact absurd (congrArg Prod.fst eq) h.nonempty
  · next eq =>
    cases eq
    rw [String.ofList_toList]

/-- Literals with commas between them. -/
def literals (contents : List (List Char)) : List Token :=
  comma.intercalate (contents.map fun content => [.literal content])

theorem literals_cons_cons (content next : List Char) (contents : List (List Char)) :
    literals (content :: next :: contents) =
      .literal content :: .plain ',' :: .plain ' ' :: literals (next :: contents) := by
  rw [literals, List.map_cons, List.map_cons, List.intercalate_cons_cons]
  rfl

theorem readArguments_append (content : List Char) (contents : List (List Char)) (rest : List Token) :
    readArguments (literals (content :: contents) ++ .plain ')' :: rest) =
      some ((content :: contents).flatten, rest) := by
  induction contents generalizing content with
  | nil =>
    rw [List.flatten_singleton]
    rfl
  | cons next contents ih =>
    rw [literals_cons_cons, List.cons_append, List.cons_append, List.cons_append, readArguments, ih]
    rfl

/-- Tokens that denote a text are read as this text. -/
theorem readText_append {text : List Char} (h : Denotes ts text) (rest : List Token) :
    readText (ts ++ rest) = some (text, rest) := by
  cases h with
  | literal => rfl
  | @concat contents several =>
    obtain ⟨first, second, more, rfl⟩ : ∃ first second more, contents = first :: second :: more := by
      match contents, several with
      | first :: second :: more, _ => exact ⟨first, second, more, rfl⟩
    have head : readText (concatHead ++ (literals (first :: second :: more) ++ .plain ')' :: rest)) =
        some ((first :: second :: more).flatten, rest) := by
      rw [readText, ← plain_concat, skip_plain]
      · rw [literals_cons_cons, List.cons_append, List.cons_append, List.cons_append]
        show (readArguments (literals (second :: more) ++ .plain ')' :: rest)).bind _ = _
        rw [readArguments_append]
        rfl
      · nofun
    rwa [List.append_assoc, List.append_assoc]

/-- Whatever stands behind the tokens, they are read as the step. -/
def Spells (ts : List Token) (step : Step) : Prop := ∀ rest, readStep (ts ++ rest) = some (step, rest)

/-- Steps with bars between them are read one after the other. -/
theorem readSteps_intercalate {tss : List (List Token)} {steps : List Step}
    (h : List.Forall₂ Spells tss steps) (some_step : steps ≠ []) {fuel : Nat} (enough : steps.length ≤ fuel) :
    readSteps fuel ((plain " | ").intercalate tss) = some steps := by
  induction h generalizing fuel with
  | nil => exact absurd rfl some_step
  | @cons ts step tss steps spells h ih =>
    obtain ⟨fuel, rfl⟩ : ∃ n, fuel = n + 1 := ⟨fuel - 1, by simp at enough; omega⟩
    cases h with
    | nil =>
      have read := spells []
      rw [List.append_nil] at read
      rw [List.intercalate_singleton, readSteps, read]
      rfl
    | @cons next _ tss steps spells' h =>
      rw [List.intercalate_cons_cons, List.append_assoc, readSteps, spells]
      dsimp only [Option.bind_eq_bind, Option.bind_some]
      rw [if_neg (by simp [plain]), skip_plain]
      dsimp only [Option.bind_some]
      rw [ih (List.cons_ne_nil _ _) (by simpa using enough)]
      rfl

/-- The parts are read as the step. -/
def Writes (ps : List Part) (step : Step) : Prop := ∃ ts, scan (render ps) = some ts ∧ Spells ts step

theorem length_le_intercalate {sep : List Token} (tss : List (List Token)) (h : sep ≠ []) :
    tss.length ≤ (sep.intercalate tss).length + 1 := by
  induction tss with
  | nil => exact Nat.zero_le _
  | cons ts tss ih =>
    cases tss with
    | nil => simp
    | cons next tss =>
      have := List.length_pos_iff.mpr h
      rw [List.intercalate_cons_cons]
      simp only [List.length_append, List.length_cons] at ih ⊢
      omega

theorem render_union (pss : List (List Part)) :
    render (union pss) = " | ".toList.intercalate (pss.map render) := by
  induction pss with
  | nil => rfl
  | cons ps pss ih =>
    cases pss with
    | nil => rw [union, List.intercalate_singleton, List.map_singleton, List.intercalate_singleton]
    | cons qs pss =>
      rw [union] at ih ⊢
      rw [List.map_cons, List.map_cons, List.intercalate_cons_cons, List.intercalate_cons_cons,
        ← List.map_cons, ← ih]
      simp [render, Part.render]

/-- A union of steps is read as these steps. -/
theorem read_union {pss : List (List Part)} {steps : List Step} (h : List.Forall₂ Writes pss steps)
    (some_step : steps ≠ []) : read (render (union pss)) = some steps := by
  obtain ⟨tss, scans, spells⟩ := List.Forall₂.exists_iff.mpr h
  have scanned : scan (render (union pss)) = some ((plain " | ").intercalate tss) := by
    rw [render_union]
    exact scan_intercalate (scan_plain (by decide)) (List.forall₂_map_left_iff.mpr scans)
  rw [read, scanned]
  refine readSteps_intercalate spells some_step ?_
  rw [← spells.length_eq]
  exact length_le_intercalate tss (by decide)

/-! ## Attributes -/

/-- The letters that are translated to ignore case. -/
def capitals : List Char := "ABCDEFGHIJKLMNOPQRSTUVWXYZ".toList

def smalls : List Char := "abcdefghijklmnopqrstuvwxyz".toList

/-- The attribute as a predicate compares it, with or without ignoring case. -/
def compared (name : String) (ignoreCase : Bool) : Operand :=
  ⟨name, if ignoreCase then some (capitals, smalls) else none⟩

theorem isQuote_of_isNameChar {c : Char} (h : isNameChar c = true) : isQuote c = false := by
  by_contra quote
  rw [Bool.not_eq_false, isQuote, Bool.or_eq_true, beq_iff_eq, beq_iff_eq] at quote
  rcases quote with rfl | rfl
  · exact absurd h (by decide)
  · exact absurd h (by decide)

theorem scan_name {name : String} (h : IsName name) : scan name.toList = some (plain name) :=
  scan_plain fun c hc => isQuote_of_isNameChar (h.chars c hc)

theorem stops_plain {code : String} {c : Char} (hc : code.toList.head? = some c) (h : isNameChar c = false)
    (ts : List Token) : Stops (plain code ++ ts) := by
  obtain ⟨cs, eq⟩ := List.head?_eq_some_iff.mp hc
  rw [plain, eq]
  rintro _ ⟨⟩
  exact h

/-- The tokens of an attribute in a predicate. -/
def comparedTokens (name : String) (ignoreCase : Bool) : List Token :=
  if ignoreCase then
    plain "translate(" ++ (plain "@" ++ plain name) ++
      (plain ", " ++ .literal capitals :: plain ", " ++ .literal smalls :: plain ")")
  else plain "@" ++ plain name

theorem scan_compared {name : String} (h : IsName name) (ignoreCase : Bool) :
    scan (if ignoreCase then lowered ("@" ++ name) else "@" ++ name).toList =
      some (comparedTokens name ignoreCase) := by
  have bare : scan ("@" ++ name).toList = some (plain "@" ++ plain name) := by
    rw [String.toList_append]
    exact scan_append (scan_plain (by decide)) (scan_name h)
  cases ignoreCase with
  | false => exact bare
  | true =>
    show scan (lowered ("@" ++ name)).toList = _
    rw [lowered, String.toList_append, String.toList_append]
    exact scan_append (scan_append (scan_plain (by decide)) bare) rfl

theorem readOperand_append {name : String} (h : IsName name) (ignoreCase : Bool) {rest : List Token}
    (hs : Stops rest) :
    readOperand (comparedTokens name ignoreCase ++ rest) = some (compared name ignoreCase, rest) := by
  cases ignoreCase with
  | false =>
    have other : skip "translate(@" (plain "@" ++ (plain name ++ rest)) = none := rfl
    show readOperand (plain "@" ++ plain name ++ rest) = _
    rw [readOperand, List.append_assoc, other]
    dsimp only
    rw [skip_plain]
    dsimp only [Option.bind_eq_bind, Option.bind_some]
    rw [readName_append h hs]
    rfl
  | true =>
    have code : comparedTokens name true ++ rest = plain "translate(@" ++ (plain name ++ (plain ", " ++
        .literal capitals :: (plain ", " ++ .literal smalls :: (plain ")" ++ rest)))) := by
      simp only [comparedTokens, if_true, List.append_assoc, List.cons_append]
      rfl
    rw [code, readOperand, skip_plain]
    dsimp only
    rw [readName_append h (stops_plain rfl (by decide) _)]
    simp only [Option.bind_eq_bind, Option.bind_some, skip_plain, readText]
    rfl

/-- How it is written that an attribute is compared: as code around the text. -/
def attributeParts (tag name text : String) (ignoreCase : Bool) : List Part :=
  [.code ("//" ++ tag ++ "[" ++ (if ignoreCase then lowered ("@" ++ name) else "@" ++ name) ++ "="),
    .value text, .code "]"]

theorem writes_attribute {tag name : String} (ht : IsName tag) (hn : IsName name) (text : String)
    (ignoreCase : Bool) :
    Writes (attributeParts tag name text ignoreCase) ⟨tag, compared name ignoreCase, text.toList⟩ := by
  obtain ⟨ts, scanned, denotes⟩ := scan_literal text.toList
  have head : scan ("//" ++ tag ++ "[" ++ (if ignoreCase then lowered ("@" ++ name) else "@" ++ name) ++
      "=").toList =
        some (plain "//" ++ plain tag ++ plain "[" ++ comparedTokens name ignoreCase ++ plain "=") := by
    simp only [String.toList_append]
    exact scan_append (scan_append (scan_append (scan_append (scan_plain (by decide)) (scan_name ht))
      (scan_plain (by decide))) (scan_compared hn ignoreCase)) (scan_plain (by decide))
  have last : scan (render [.value text, .code "]"]) = some (ts ++ plain "]") := by
    show scan (literal text.toList ++ ("]".toList ++ [])) = _
    exact scan_append scanned (scan_plain (by decide))
  refine ⟨_, scan_append head last, fun rest => ?_⟩
  simp only [List.append_assoc]
  have afterTag : Stops (plain "[" ++ (comparedTokens name ignoreCase ++
      (plain "=" ++ (ts ++ (plain "]" ++ rest))))) := stops_plain rfl (by decide) _
  have afterOperand : Stops (plain "=" ++ (ts ++ (plain "]" ++ rest))) := stops_plain rfl (by decide) _
  simp only [readStep, Option.bind_eq_bind, Option.bind_some, skip_plain, readName_append ht afterTag,
    readOperand_append hn ignoreCase afterOperand, readText_append denotes]
  rfl

end Read

/-! ## Letters -/

theorem translateChar_capitals (c : Char) : translateChar capitals smalls c = some c.toLower := by
  by_cases hc : c.toNat < 0x80
  · have all : ∀ n < 0x80, translateChar capitals smalls (Char.ofNat n) = some (Char.ofNat n).toLower := by
      decide +kernel
    have := all c.toNat hc
    rwa [Char.ofNat_toNat] at this
  · have absent : c ∉ capitals := by
      intro h
      have ascii : ∀ d ∈ capitals, d.toNat < 0x80 := by decide
      exact hc (ascii c h)
    rw [translateChar, List.idxOf?_eq_none_iff.mpr absent, Text.toLower_of_le (by omega)]

/-- The two alphabets make ASCII letters small. -/
theorem translate_capitals (cs : List Char) : translate capitals smalls cs = cs.map Char.toLower := by
  rw [translate, List.filterMap_congr fun c _ => translateChar_capitals c]
  exact congrFun List.filterMap_eq_map' cs

end Walkthrough.XPath

namespace Walkthrough.Lookup

open XPath

/-- The elements that a field is looked up as by an attribute, ignoring case or not. -/
def attributeSteps (name text : String) (ignoreCase : Bool) : List Step :=
  inputTags.map fun tag => ⟨tag, compared name ignoreCase, text.toList⟩

/-- The steps of the expression that looks a field up by its placeholder, name or id. -/
def fieldSteps (field : String) : List Step :=
  attributeSteps "placeholder" field false ++ attributeSteps "name" (attributeKey field) true ++
    attributeSteps "id" (attributeKey field) true

/-- Steps for each of the tags, with any name and text. -/
theorem writes_attributeSteps {name : String} (hn : IsName name) (text : String) (ignoreCase : Bool) :
    List.Forall₂ Writes (inputTags.map fun tag => attributeParts tag name text ignoreCase)
      (attributeSteps name text ignoreCase) := by
  refine .cons (writes_attribute ⟨?_, ?_⟩ hn ..) (.cons (writes_attribute ⟨?_, ?_⟩ hn ..) .nil)
  all_goals decide

theorem read_attributeLocator (field : String) :
    ∃ x, (attributeLocator field).xpath = .ok x ∧ read x.toList = some (fieldSteps field) := by
  have placeholder : IsName "placeholder" := ⟨by decide, by decide⟩
  have name : IsName "name" := ⟨by decide, by decide⟩
  have id : IsName "id" := ⟨by decide, by decide⟩
  have written := List.rel_append (List.rel_append
    (writes_attributeSteps placeholder field false)
    (writes_attributeSteps name (attributeKey field) true))
    (writes_attributeSteps id (attributeKey field) true)
  have parts : (attributeLocator field).parts = .ok (union
      ((inputTags.map fun tag => attributeParts tag "placeholder" field false) ++
        (inputTags.map fun tag => attributeParts tag "name" (attributeKey field) true) ++
        inputTags.map fun tag => attributeParts tag "id" (attributeKey field) true)) := rfl
  rw [Locator.xpath, parts]
  refine ⟨_, rfl, ?_⟩
  rw [String.toList_ofList]
  exact read_union written (List.cons_ne_nil _ _)

theorem holds_compared_iff {name text : String} {shown : Option String} :
    (compared name false).holds shown text.toList = true ↔ shown = some text := by
  cases shown with
  | none => exact iff_of_false Bool.false_ne_true nofun
  | some shown =>
    rw [Operand.holds, compared, if_neg Bool.false_ne_true, Option.map_some, beq_iff_eq, Option.some_inj,
      String.toList_inj, Option.some_inj]

theorem holds_compared_ignoring_iff {name text : String} {shown : Option String} :
    (compared name true).holds shown text.toList = true ↔
      (shown.getD "").toList.map Char.toLower = text.toList := by
  rw [Operand.holds, compared, if_pos rfl, beq_iff_eq, translate_capitals]

theorem any_attributeSteps_iff {name text tag : String} {ignoreCase : Bool} {el : PageElement} :
    (attributeSteps name text ignoreCase).any (·.selects tag el) = true ↔
      tag ∈ inputTags ∧ (compared name ignoreCase).holds (el.attribute? name) text.toList = true := by
  rw [attributeSteps, List.any_map, List.any_eq_true]
  constructor
  · rintro ⟨t, ht, selects⟩
    obtain ⟨same, holds⟩ := Bool.and_eq_true_iff.mp selects
    obtain rfl := beq_iff_eq.mp same
    exact ⟨ht, holds⟩
  · rintro ⟨ht, holds⟩
    exact ⟨tag, ht, Bool.and_eq_true_iff.mpr ⟨BEq.rfl, holds⟩⟩

/-- What the look-up of a field by its attributes finds, among the elements that text is typed into: those
with the field as their placeholder, and those with a name or an id that is the key of the field, in any
mixture of small and capital ASCII letters. -/
theorem any_fieldSteps_iff (field tag : String) (el : PageElement) :
    (fieldSteps field).any (·.selects tag el) = true ↔ tag ∈ inputTags ∧
      (el.attribute? "placeholder" = some field ∨
        ((el.attribute? "name").getD "").toList.map Char.toLower = (attributeKey field).toList ∨
        ((el.attribute? "id").getD "").toList.map Char.toLower = (attributeKey field).toList) := by
  rw [fieldSteps, List.any_append, List.any_append, Bool.or_eq_true, Bool.or_eq_true, any_attributeSteps_iff,
    any_attributeSteps_iff, any_attributeSteps_iff, holds_compared_iff, holds_compared_ignoring_iff,
    holds_compared_ignoring_iff, ← and_or_left, ← and_or_left, or_assoc]

/-- A name or an id whose lower case is the key of a field fulfils the predicate of the field's expression
for it iff no character of it beyond ASCII has a lower case. -/
theorem attributeLocator_ignores_case_iff {field tag name shown : String} {el : PageElement}
    (ht : tag ∈ inputTags) (hn : name ∈ ["name", "id"]) (shows : el.attribute? name = some shown)
    (key : Text.lower shown = attributeKey field) :
    ∃ x steps, (attributeLocator field).xpath = .ok x ∧ read x.toList = some steps ∧
      ((steps.filter (·.operand.name = name)).any (·.selects tag el) = true ↔
        ∀ c ∈ shown.toList, Text.IsCaseless c) := by
  obtain ⟨x, xpath, steps⟩ := read_attributeLocator field
  refine ⟨x, _, xpath, steps, ?_⟩
  have own : (fieldSteps field).filter (·.operand.name = name) =
      attributeSteps name (attributeKey field) true := by
    rcases List.mem_pair.mp hn with rfl | rfl <;> rfl
  rw [own, any_attributeSteps_iff, and_iff_right ht, holds_compared_ignoring_iff, shows, Option.getD_some,
    ← Text.lower_eq_map_toLower_iff, key, ← String.toList_inj, String.toList_ofList]
  exact eq_comm

/-- The name of a field in capitals, with no letters but those of ASCII. -/
theorem attributeLocator_ignores_case_capitals :
    let el : PageElement := { attributes := [("name", some "FIRSTName-2")] }
    Text.lower "FIRSTName-2" = attributeKey "First Name-2" ∧
      ∃ x steps, (attributeLocator "First Name-2").xpath = .ok x ∧ read x.toList = some steps ∧
        (steps.filter (·.operand.name = "name")).any (·.selects "input" el) = true := by
  have key : Text.lower "FIRSTName-2" = attributeKey "First Name-2" := by decide +kernel
  let el : PageElement := { attributes := [("name", some "FIRSTName-2")] }
  have tag : "input" ∈ inputTags := List.mem_cons_self
  have shows : el.attribute? "name" = some "FIRSTName-2" := rfl
  obtain ⟨x, steps, xpath, read, selects⟩ :=
    attributeLocator_ignores_case_iff tag List.mem_cons_self shows key
  exact ⟨key, x, steps, xpath, read, selects.mpr (by decide)⟩

/-- A field whose name in the page is its own name, with an accent, is not found by it. -/
theorem attributeLocator_misses_accent :
    let el : PageElement := { attributes := [("name", some "É")] }
    Text.isBlankText "É" = false ∧ Text.lower "É" = attributeKey "É" ∧
      ∃ x steps, (attributeLocator "É").xpath = .ok x ∧ read x.toList = some steps ∧
        steps.any (·.selects "input" el) = false := by
  have key : Text.lower "É" = attributeKey "É" := by decide +kernel
  obtain ⟨x, xpath, steps⟩ := read_attributeLocator "É"
  refine ⟨by decide +kernel, key, x, _, xpath, steps, ?_⟩
  decide +kernel

end Walkthrough.Lookup
