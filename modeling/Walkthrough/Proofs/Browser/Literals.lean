import Walkthrough.Browser.Locator
import Walkthrough.Proofs.Basic
import Walkthrough.Proofs.Text.Splitting

/-! Texts in expressions. `scan` reads an expression by the rule of XPath 1.0 for literals: a quote
opens a literal, the next quote of the same kind ends it, and nothing escapes a quote. `literal` writes
every text as tokens that denote it (`scan_literal`), so the code around the texts is read in the same
way whatever the texts are (`Locator.exists_frame`). -/

namespace Walkthrough.XPath

/-- A character outside of all literals, or a whole literal. -/
inductive Token
  | plain (c : Char)
  | literal (content : List Char)
  deriving DecidableEq, Repr

def isQuote (c : Char) : Bool := c == '\'' || c == '"'

/-- The tokens of an expression, given the mark of the literal that is open and what it holds so far.
There are none if a literal stays open. -/
def scanFrom : Option (Char × List Char) → List Char → Option (List Token)
  | none, [] => some []
  | some _, [] => none
  | none, c :: rest =>
    if isQuote c then scanFrom (some (c, [])) rest else (scanFrom none rest).map (.plain c :: ·)
  | some (mark, content), c :: rest =>
    if c = mark then (scanFrom none rest).map (.literal content :: ·)
    else scanFrom (some (mark, content ++ [c])) rest

/-- The tokens of a whole expression. -/
def scan (cs : List Char) : Option (List Token) := scanFrom none cs

/-- The tokens of a comma between arguments. -/
def comma : List Token := [.plain ',', .plain ' ']

/-- The tokens of the name of a function and its bracket. -/
def concatHead : List Token := ['c', 'o', 'n', 'c', 'a', 't', '('].map .plain

/-- Tokens that denote a text: one literal with this text, or a `concat` of at least two literals that
make it up. -/
inductive Denotes : List Token → List Char → Prop
  | literal (content : List Char) : Denotes [.literal content] content
  | concat {contents : List (List Char)} (several : 2 ≤ contents.length) :
    Denotes (concatHead ++ comma.intercalate (contents.map fun content => [.literal content]) ++
      [.plain ')']) contents.flatten

/-! ## Scanning -/

section Scan

variable {xs ys : List Char} {ts us : List Token}

theorem scanFrom_append {opened : Option (Char × List Char)} (h : scanFrom opened xs = some ts) :
    scanFrom opened (xs ++ ys) = (scan ys).map (ts ++ ·) := by
  induction xs generalizing opened ts with
  | nil =>
    cases opened with
    | none =>
      cases h
      exact (Option.map_id' (x := scan ys)).symm
    | some opened => cases h
  | cons c xs ih =>
    cases opened with
    | none =>
      rw [scanFrom] at h
      rw [List.cons_append, scanFrom]
      split at h
      · next hc => rw [if_pos hc, ih h]
      · next hc =>
        obtain ⟨us, hus, rfl⟩ := Option.map_eq_some_iff.mp h
        rw [if_neg hc, ih hus, Option.map_map]
        rfl
    | some opened =>
      rw [scanFrom] at h
      rw [List.cons_append, scanFrom]
      split at h
      · next hc =>
        obtain ⟨us, hus, rfl⟩ := Option.map_eq_some_iff.mp h
        rw [if_pos hc, ih hus, Option.map_map]
        rfl
      · next hc => rw [if_neg hc, ih h]

theorem scan_append (hx : scan xs = some ts) (hy : scan ys = some us) :
    scan (xs ++ ys) = some (ts ++ us) := by
  rw [scan, scanFrom_append hx, hy]
  rfl

theorem scan_flatten {xss : List (List Char)} {tss : List (List Token)}
    (h : List.Forall₂ (fun xs ts => scan xs = some ts) xss tss) :
    scan xss.flatten = some tss.flatten := by
  induction h with
  | nil => rfl
  | cons hx _ ih => exact scan_append hx ih

theorem scan_intercalate {xss : List (List Char)} {tss : List (List Token)} (hs : scan xs = some ts)
    (h : List.Forall₂ (fun xs ts => scan xs = some ts) xss tss) :
    scan (xs.intercalate xss) = some (ts.intercalate tss) := by
  induction h with
  | nil => rfl
  | cons hx hxs ih =>
    cases hxs with
    | nil =>
      rw [List.intercalate_singleton, List.intercalate_singleton]
      exact hx
    | cons _ _ =>
      rw [List.intercalate_cons_cons, List.intercalate_cons_cons]
      exact scan_append (scan_append hx hs) ih

theorem scan_plain (h : ∀ c ∈ xs, isQuote c = false) : scan xs = some (xs.map .plain) := by
  induction xs with
  | nil => rfl
  | cons c xs ih =>
    have hc : ¬ isQuote c = true := by simp [h c List.mem_cons_self]
    have hxs := ih fun d hd => h d (List.mem_cons_of_mem _ hd)
    rw [scan] at hxs ⊢
    rw [scanFrom, if_neg hc, hxs]
    rfl

theorem scanFrom_content {mark : Char} {content : List Char} (h : mark ∉ xs) :
    scanFrom (some (mark, content)) (xs ++ [mark]) = some [.literal (content ++ xs)] := by
  induction xs generalizing content with
  | nil =>
    rw [List.nil_append, scanFrom, if_pos rfl, List.append_nil]
    rfl
  | cons c xs ih =>
    obtain ⟨hc, hxs⟩ := List.ne_and_not_mem_of_not_mem_cons h
    rw [List.cons_append, scanFrom, if_neg (Ne.symm hc), ih hxs, List.append_assoc]
    rfl

theorem scan_quoteWith {mark : Char} (hm : isQuote mark = true) (h : mark ∉ xs) :
    scan (quoteWith mark xs) = some [.literal xs] := by
  rw [scan, quoteWith, scanFrom, if_pos hm, scanFrom_content h]
  rfl

end Scan

/-! ## Literals -/

/-- Quoted pieces, the content of each without one of the two quotes. -/
def Quotes (piece content : List Char) : Prop :=
  scan piece = some [.literal content] ∧ ('\'' ∉ content ∨ '"' ∉ content)

theorem quotes_part {part : List Char} (h : '\'' ∉ part) : Quotes (quoteWith '\'' part) part :=
  ⟨scan_quoteWith rfl h, .inl h⟩

theorem quotes_mark : Quotes (quoteWith '"' ['\'']) ['\''] :=
  ⟨scan_quoteWith rfl (by decide), .inr (by decide)⟩

/-- The pieces make up the parts with the single quotes between them. -/
theorem exists_contents {parts : List (List Char)} (h : ∀ part ∈ parts, '\'' ∉ part) :
    ∃ contents, List.Forall₂ Quotes (pieces parts) contents ∧
      contents.flatten = ['\''].intercalate parts := by
  have first (part : List Char) (hp : '\'' ∉ part) : ∃ contents,
      List.Forall₂ Quotes (if part.isEmpty then [] else [quoteWith '\'' part]) contents ∧
        contents.flatten = part := by
    cases part with
    | nil => exact ⟨[], .nil, rfl⟩
    | cons c part => exact ⟨[c :: part], .cons (quotes_part hp) .nil, List.append_nil _⟩
  induction parts with
  | nil => exact ⟨[], .nil, rfl⟩
  | cons part parts ih =>
    obtain ⟨front, hfront, eq⟩ := first part (h part List.mem_cons_self)
    cases parts with
    | nil =>
      rw [List.intercalate_singleton]
      exact ⟨front, hfront, eq⟩
    | cons next parts =>
      obtain ⟨back, hback, eq'⟩ := ih fun p hp => h p (List.mem_cons_of_mem _ hp)
      refine ⟨front ++ ['\''] :: back, List.rel_append hfront (.cons quotes_mark hback), ?_⟩
      rw [List.flatten_append, List.flatten_cons, eq, eq', List.intercalate_cons_cons,
        List.append_assoc]

/-- Every text is written as tokens that denote it. -/
theorem scan_literal (cs : List Char) : ∃ ts, scan (literal cs) = some ts ∧ Denotes ts cs := by
  by_cases hs : '\'' ∈ cs
  case neg =>
    rw [literal, if_pos (by simpa using hs)]
    exact ⟨_, scan_quoteWith rfl hs, .literal cs⟩
  by_cases hd : '"' ∈ cs
  case neg =>
    rw [literal, if_neg (by simpa using hs), if_pos (by simpa using hd)]
    exact ⟨_, scan_quoteWith rfl hd, .literal cs⟩
  rw [literal, if_neg (by simpa using hs), if_neg (by simpa using hd)]
  obtain ⟨contents, quotes, eq⟩ := exists_contents (Text.not_mem_splitOnChar '\'' cs)
  rw [Text.intercalate_splitOnChar] at eq
  -- No single piece holds both quotes.
  have several : 2 ≤ contents.length := by
    rcases contents with _ | ⟨content, _ | ⟨_, _⟩⟩
    · rw [← eq] at hs
      cases hs
    · obtain ⟨_, -, -, free⟩ := quotes.exists_of_mem List.mem_cons_self
      rw [List.flatten_singleton] at eq
      subst eq
      rcases free with free | free
      · exact absurd hs free
      · exact absurd hd free
    · simp
  have args : List.Forall₂ (fun xs ts => scan xs = some ts)
      (pieces (Text.splitOnChar '\'' cs)) (contents.map fun content => [.literal content]) :=
    List.forall₂_map_right_iff.mpr (quotes.imp fun _ _ h => h.1)
  refine ⟨_, scan_append (scan_append (scan_plain (by decide))
    (scan_intercalate (scan_plain (by decide)) args)) (scan_plain (by decide)), ?_⟩
  exact eq ▸ .concat several

example : scan (literal ['\'', 'a', '"']) = some (concatHead ++
    [.literal ['\''], .plain ',', .plain ' ', .literal ['a', '"'], .plain ')']) := by
  decide

/-! ## Parts -/

/-- A part with its text blanked out. -/
def Part.blank : Part → Part
  | .code s => .code s
  | .value _ => .value ""

/-- The texts of the parts. -/
def values (ps : List Part) : List String :=
  ps.flatMap fun
    | .code _ => []
    | .value s => [s]

/-- Code that leaves no literal open. -/
def Closed (s : String) : Prop := ∃ ts, scan s.toList = some ts

/-- Parts whose code leaves no literal open. -/
def AllClosed (ps : List Part) : Prop := ∀ s, .code s ∈ ps → Closed s

/-- The tokens that an expression has at one of its parts. At a text, they denote the text. -/
structure Part.ReadAs (p : Part) (ts : List Token) : Prop where
  scan : scan p.render = some ts
  denotes : ∀ text, p = .value text → Denotes ts text.toList

theorem Part.exists_readAs {p : Part} (h : ∀ s, p = .code s → Closed s) : ∃ ts, p.ReadAs ts := by
  cases p with
  | code s =>
    obtain ⟨ts, hts⟩ := h s rfl
    exact ⟨ts, hts, nofun⟩
  | value text =>
    obtain ⟨ts, hts, denotes⟩ := scan_literal text.toList
    refine ⟨ts, hts, ?_⟩
    rintro _ ⟨⟩
    exact denotes

theorem exists_forall₂_readAs {ps : List Part} (h : AllClosed ps) :
    ∃ tss, List.Forall₂ Part.ReadAs ps tss := by
  induction ps with
  | nil => exact ⟨[], .nil⟩
  | cons p ps ih =>
    obtain ⟨tss, htss⟩ := ih fun s hs => h s (List.mem_cons_of_mem _ hs)
    obtain ⟨ts, hts⟩ := p.exists_readAs fun s hs => h s (hs ▸ List.mem_cons_self)
    exact ⟨ts :: tss, .cons hts htss⟩

/-- A whole expression is read part by part. -/
theorem scan_render {ps : List Part} {tss : List (List Token)} (h : List.Forall₂ Part.ReadAs ps tss) :
    scan (render ps) = some tss.flatten := by
  rw [render, List.flatMap_def]
  exact scan_flatten (List.forall₂_map_left_iff.mpr (h.imp fun _ _ h => h.scan))

theorem closed_append {s t : String} (hs : Closed s) (ht : Closed t) : Closed (s ++ t) := by
  obtain ⟨ts, hts⟩ := hs
  obtain ⟨us, hus⟩ := ht
  exact ⟨ts ++ us, by rw [String.toList_append]; exact scan_append hts hus⟩

theorem closed_of_unquoted {s : String} (h : ∀ c ∈ s.toList, isQuote c = false) : Closed s :=
  ⟨_, scan_plain h⟩

theorem closed_lowered {s : String} (hs : Closed s) : Closed (lowered s) :=
  closed_append (closed_append ⟨_, rfl⟩ hs) ⟨_, rfl⟩

theorem allClosed_nil : AllClosed [] := nofun

theorem allClosed_code {s : String} {ps : List Part} (hs : Closed s) (h : AllClosed ps) :
    AllClosed (.code s :: ps) := by
  intro t ht
  rcases List.mem_cons.mp ht with ht | ht
  · cases ht
    exact hs
  · exact h t ht

theorem allClosed_value {text : String} {ps : List Part} (h : AllClosed ps) :
    AllClosed (.value text :: ps) := by
  intro t ht
  rcases List.mem_cons.mp ht with ht | ht
  · cases ht
  · exact h t ht

theorem allClosed_append {ps qs : List Part} (hp : AllClosed ps) (hq : AllClosed qs) :
    AllClosed (ps ++ qs) :=
  fun s hs => (List.mem_append.mp hs).elim (hp s) (hq s)

section Union

variable (alternatives : List (List Part))

theorem values_union : values (union alternatives) = alternatives.flatMap values := by
  induction alternatives with
  | nil => rfl
  | cons ps rest ih =>
    cases rest with
    | nil => rw [union, List.intercalate_singleton, List.flatMap_singleton]
    | cons qs rest =>
      rw [union] at ih ⊢
      rw [List.intercalate_cons_cons, List.flatMap_cons, ← ih, values, List.flatMap_append,
        List.flatMap_append]
      exact congrArg (· ++ _) (List.append_nil _)

theorem map_blank_union :
    (union alternatives).map Part.blank = union (alternatives.map (List.map Part.blank)) := by
  induction alternatives with
  | nil => rfl
  | cons ps rest ih =>
    cases rest with
    | nil => rw [union, List.intercalate_singleton, List.map_singleton, union,
        List.intercalate_singleton]
    | cons qs rest =>
      rw [union, List.map_cons, union] at ih ⊢
      rw [List.map_cons, List.intercalate_cons_cons, List.intercalate_cons_cons, List.map_append,
        List.map_append, ih]
      rfl

variable {alternatives}

theorem allClosed_union (h : ∀ ps ∈ alternatives, AllClosed ps) : AllClosed (union alternatives) := by
  induction alternatives with
  | nil => nofun
  | cons ps rest ih =>
    obtain ⟨hps, hrest⟩ := List.forall_mem_cons.mp h
    cases rest with
    | nil => rwa [union, List.intercalate_singleton]
    | cons qs rest =>
      rw [union, List.intercalate_cons_cons]
      exact allClosed_append (allClosed_append hps (allClosed_code ⟨_, rfl⟩ allClosed_nil)) (ih hrest)

end Union

end Walkthrough.XPath

namespace Walkthrough.Locator

open XPath

/-- A name without quotes. -/
def Unquoted (name : String) : Prop := ∀ c ∈ name.toList, isQuote c = false

/-- Locators that say something, with names of tags and attributes that hold no quote. -/
inductive Plain : Locator → Prop
  | byId (id : String) : Plain (.byId id)
  | byLabel (text : String) (exact : Bool) : Plain (.byLabel text exact)
  | byAttribute {name : String} {tags : List String} (value : String) (ignoreCase : Bool)
    (hn : Unquoted name) (ht : ∀ tag ∈ tags, Unquoted tag) :
    Plain (.byAttribute name value tags ignoreCase)
  | afterLabel {tags : List String} (text : String) (ht : ∀ tag ∈ tags, Unquoted tag) :
    Plain (.afterLabel text tags)
  | clickable (text : String) : Plain (.clickable (some text))
  | submitControl : Plain .submitControl
  | anyOf {ls : List Locator} (h : ∀ l ∈ ls, Plain l) : Plain (.anyOf ls)

mutual

/-- The locator with all its texts blanked out. -/
def blank : Locator → Locator
  | byId _ => byId ""
  | byLabel _ exact => byLabel "" exact
  | byAttribute name _ tags ignoreCase => byAttribute name "" tags ignoreCase
  | afterLabel _ tags => afterLabel "" tags
  | clickable text => clickable (text.map fun _ => "")
  | submitControl => submitControl
  | anyOf ls => anyOf (blankAll ls)
  | unspecific => unspecific

def blankAll : List Locator → List Locator
  | [] => []
  | l :: ls => blank l :: blankAll ls

end

mutual

/-- The texts of a locator, each as often as it is asked for: once for every tag, or once for each of
the four kinds of buttons and links. -/
def texts : Locator → List String
  | byId id => [id]
  | byLabel text _ => [text]
  | byAttribute _ value tags _ => if tags.isEmpty then [value] else tags.map fun _ => value
  | afterLabel text tags => tags.map fun _ => text
  | clickable none => []
  | clickable (some text) => [text, text, text, text]
  | submitControl => []
  | anyOf ls => textsAll ls
  | unspecific => []

def textsAll : List Locator → List String
  | [] => []
  | l :: ls => texts l ++ textsAll ls

end

/-- The parts of a locator hold its texts, their code is closed, and it is the same for all texts. -/
structure Shape (l : Locator) (ps : List Part) : Prop where
  parts : l.parts = .ok ps
  texts : values ps = l.texts
  blank : l.blank.parts = .ok (ps.map Part.blank)
  closed : AllClosed ps

theorem shape_byAttribute {name : String} {tags : List String} (value : String) (ignoreCase : Bool)
    (hn : Unquoted name) (ht : ∀ tag ∈ tags, Unquoted tag) :
    ∃ ps, (byAttribute name value tags ignoreCase).Shape ps := by
  have plain : Closed ("@" ++ name) := closed_append ⟨_, rfl⟩ (closed_of_unquoted hn)
  have shown : Closed (if ignoreCase then lowered ("@" ++ name) else "@" ++ name) := by
    split
    · exact closed_lowered plain
    · exact plain
  have on {tag : String} (h : Closed tag) : AllClosed [.code ("//" ++ tag ++ "[" ++
      (if ignoreCase then lowered ("@" ++ name) else "@" ++ name) ++ "="), .value value,
      .code "]"] := by
    refine allClosed_code ?_ (allClosed_value (allClosed_code ⟨_, rfl⟩ allClosed_nil))
    exact closed_append (closed_append (closed_append (closed_append ⟨_, rfl⟩ h) ⟨_, rfl⟩) shown)
      ⟨_, rfl⟩
  cases tags with
  | nil => exact ⟨_, rfl, rfl, rfl, on ⟨_, rfl⟩⟩
  | cons tag tags =>
    refine ⟨union ((tag :: tags).map _), rfl, ?_, ?_, allClosed_union ?_⟩
    · rw [values_union, List.flatMap_map]
      exact (List.map_eq_flatMap (f := fun _ => value) (l := tag :: tags)).symm
    · rw [map_blank_union, List.map_map]
      rfl
    · rw [List.forall_mem_map]
      exact fun tag h => on (closed_of_unquoted (ht tag h))

theorem shape_afterLabel {tags : List String} (text : String) (ht : ∀ tag ∈ tags, Unquoted tag) :
    ∃ ps, (afterLabel text tags).Shape ps := by
  refine ⟨_, rfl, ?_, ?_, allClosed_union ?_⟩
  · rw [values_union, List.flatMap_map]
    exact (List.map_eq_flatMap (f := fun _ => text) (l := tags)).symm
  · rw [map_blank_union, List.map_map]
    rfl
  · rw [List.forall_mem_map]
    intro tag h
    have last : Closed ("/following-sibling::" ++ tag ++ "[1]") :=
      closed_append (closed_append ⟨_, rfl⟩ (closed_of_unquoted (ht tag h))) ⟨_, rfl⟩
    exact allClosed_code ⟨_, rfl⟩ (allClosed_value (allClosed_code ⟨_, rfl⟩
      (allClosed_code last allClosed_nil)))

/-- The parts of a union are those of its members. -/
theorem shape_anyOf {ls : List Locator} (h : ∀ l ∈ ls, ∃ ps, l.Shape ps) :
    ∃ ps, (anyOf ls).Shape ps := by
  have members : ∃ pss, allParts ls = .ok pss ∧ pss.flatMap values = textsAll ls ∧
      allParts (blankAll ls) = .ok (pss.map (List.map Part.blank)) ∧
      ∀ ps ∈ pss, AllClosed ps := by
    induction ls with
    | nil => exact ⟨[], rfl, rfl, rfl, nofun⟩
    | cons l ls ih =>
      obtain ⟨hl, hls⟩ := List.forall_mem_cons.mp h
      obtain ⟨ps, hps⟩ := hl
      obtain ⟨pss, parts, texts, blank, closed⟩ := ih hls
      refine ⟨ps :: pss, ?_, ?_, ?_, List.forall_mem_cons.mpr ⟨hps.closed, closed⟩⟩
      · rw [allParts, hps.parts, parts]
        rfl
      · rw [List.flatMap_cons, hps.texts, texts, textsAll]
      · rw [blankAll, allParts, hps.blank, blank]
        rfl
  obtain ⟨pss, parts, texts, blank, closed⟩ := members
  refine ⟨union pss, ?_, ?_, ?_, allClosed_union closed⟩
  · rw [Locator.parts, parts]
    rfl
  · rw [values_union, texts, Locator.texts]
  · rw [Locator.blank, Locator.parts, blank, map_blank_union]
    rfl

theorem Plain.shape {l : Locator} (h : l.Plain) : ∃ ps, l.Shape ps := by
  induction h with
  | byId id =>
    exact ⟨_, rfl, rfl, rfl,
      allClosed_code ⟨_, rfl⟩ (allClosed_value (allClosed_code ⟨_, rfl⟩ allClosed_nil))⟩
  | byLabel text exact =>
    cases exact <;> exact ⟨_, rfl, rfl, rfl,
      allClosed_code ⟨_, rfl⟩ (allClosed_value (allClosed_code ⟨_, rfl⟩ allClosed_nil))⟩
  | byAttribute value ignoreCase hn ht => exact shape_byAttribute value ignoreCase hn ht
  | afterLabel text ht => exact shape_afterLabel text ht
  | clickable text =>
    exact ⟨_, rfl, rfl, rfl,
      allClosed_code ⟨_, rfl⟩ <| allClosed_value <| allClosed_code ⟨_, rfl⟩ <| allClosed_value <|
      allClosed_code ⟨_, rfl⟩ <| allClosed_value <| allClosed_code ⟨_, rfl⟩ <| allClosed_value <|
      allClosed_code ⟨_, rfl⟩ allClosed_nil⟩
  | submitControl =>
    have code {a b c : String} (ha : Closed a) (hb : Closed b) (hc : Closed c) :=
      closed_append (closed_append ha (closed_lowered hb)) hc
    exact ⟨_, rfl, rfl, rfl, allClosed_code
      (code (code (code ⟨_, rfl⟩ ⟨_, rfl⟩ ⟨_, rfl⟩) ⟨_, rfl⟩ ⟨_, rfl⟩) ⟨_, rfl⟩ ⟨_, rfl⟩)
      allClosed_nil⟩
  | anyOf h ih => exact shape_anyOf ih

theorem blankAll_eq_map (ls : List Locator) : blankAll ls = ls.map blank := by
  induction ls with
  | nil => rfl
  | cons l ls ih => rw [blankAll, ih, List.map_cons]

theorem Plain.of_blank_eq {l m : Locator} (h : l.Plain) (eq : m.blank = l.blank) : m.Plain := by
  -- Names of tags and attributes are not blanked out, so `m` has those of `l`.
  induction h generalizing m with
  | byAttribute value ignoreCase hn ht =>
    cases m <;> cases eq
    exact .byAttribute _ _ hn ht
  | afterLabel text ht =>
    cases m <;> cases eq
    exact .afterLabel _ ht
  | clickable text =>
    cases m with
    | clickable text' =>
      cases text' with
      | none => cases eq
      | some text' => exact .clickable text'
    | _ => cases eq
  | @anyOf ls h ih =>
    cases m with
    | anyOf ms =>
      have eq : ms.map blank = ls.map blank := by
        rw [← blankAll_eq_map, ← blankAll_eq_map]
        exact anyOf.inj eq
      refine .anyOf fun m hm => ?_
      have hm : m.blank ∈ ls.map blank := eq ▸ List.mem_map_of_mem hm
      obtain ⟨l, hl, eq⟩ := List.mem_map.mp hm
      exact ih l hl eq.symm
    | _ => cases eq
  | _ =>
    cases m <;> cases eq
    constructor

/-- The expression of a locator is put together from parts that hold its texts. It is read part by part
as the given tokens, and no literal is left open. -/
structure Reading (l : Locator) (ps : List Part) (tss : List (List Token)) : Prop where
  xpath : l.xpath = .ok (String.ofList (render ps))
  texts : values ps = l.texts
  parts : List.Forall₂ Part.ReadAs ps tss
  whole : scan (render ps) = some tss.flatten

theorem Shape.reading {l : Locator} {ps : List Part} (h : l.Shape ps) : ∃ tss, l.Reading ps tss := by
  obtain ⟨tss, reads⟩ := exists_forall₂_readAs h.closed
  exact ⟨tss, by rw [Locator.xpath, h.parts]; rfl, h.texts, reads, scan_render reads⟩

/-- No text changes what an expression asks for: locators that differ in nothing but their texts have
the same code around these, and the tokens at the place of a text denote this text. -/
theorem exists_frame {shape : Locator} (h : shape.Plain) :
    ∃ frame : List Part, ∀ l : Locator, l.blank = shape.blank →
      ∃ ps tss, l.Reading ps tss ∧ ps.map Part.blank = frame := by
  obtain ⟨frame, hframe⟩ := h.shape
  refine ⟨frame.map Part.blank, fun l eq => ?_⟩
  obtain ⟨ps, hps⟩ := (h.of_blank_eq eq).shape
  obtain ⟨tss, reading⟩ := hps.reading
  refine ⟨ps, tss, reading, ?_⟩
  have same := hps.blank
  rw [eq, hframe.blank] at same
  exact (Except.ok.inj same).symm

/-- Texts with both kinds of quotes and with code of their own, in a union inside of a union. -/
theorem exists_frame_nested :
    (anyOf [byId "", submitControl, anyOf [byAttribute "name" "" ["input", "a"] true,
      afterLabel "" inputTags, clickable (some "")]]).Plain ∧
    ∃ frame ps tss, (anyOf [byId "it's \"it\"", submitControl,
        anyOf [byAttribute "name" "']|//*['" ["input", "a"] true, afterLabel "\"'\"" inputTags,
          clickable (some "'")]]).Reading ps tss ∧
      ps.map Part.blank = frame := by
  have name : Unquoted "name" := by
    unfold Unquoted
    decide
  have tags : ∀ tag ∈ ["input", "a"], Unquoted tag := by
    unfold Unquoted
    decide
  have inputs : ∀ tag ∈ inputTags, Unquoted tag := by
    unfold Unquoted
    decide
  have inner : (anyOf [byAttribute "name" "" ["input", "a"] true, afterLabel "" inputTags,
      clickable (some "")]).Plain :=
    .anyOf (List.forall_mem_cons.mpr ⟨.byAttribute _ _ name tags,
      List.forall_mem_cons.mpr ⟨.afterLabel _ inputs, List.forall_mem_singleton.mpr (.clickable _)⟩⟩)
  have plain : (anyOf [byId "", submitControl, anyOf [byAttribute "name" "" ["input", "a"] true,
      afterLabel "" inputTags, clickable (some "")]]).Plain :=
    .anyOf (List.forall_mem_cons.mpr ⟨.byId _,
      List.forall_mem_cons.mpr ⟨.submitControl, List.forall_mem_singleton.mpr inner⟩⟩)
  obtain ⟨frame, all⟩ := exists_frame plain
  exact ⟨plain, frame, all _ rfl⟩

end Walkthrough.Locator
