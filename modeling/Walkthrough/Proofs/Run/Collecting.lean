import Walkthrough.Proofs.Disk.Contents
import Walkthrough.Proofs.Json.Indented
import Walkthrough.Proofs.Run.Evidence
import Walkthrough.Proofs.Run.Outputs
import Walkthrough.Proofs.Run.Staying

/-! What becomes of the evidence of a page that failed (`Evidence.collect_accounts`). Without a directory the
browser is not asked for anything. Otherwise each part of the evidence is kept or its failure is told, the
source of the page stands in its file, and the list of the parts is read as the entries that were returned
(`Evidence.Accounted`). Only a text that cannot be written ends the collection early. -/

namespace Walkthrough

open Text

variable {π η α : Type}

/-! ## Files of texts -/

/-- What the file at the path holds is, read as UTF-8, the text. -/
def Disk.Holds (d : Disk) (path text : String) : Prop :=
  ∃ bytes cs, d.read path.toList = .ok bytes ∧ Utf8.decode bytes = .ok cs ∧
    cs.map Char.toNat = points text.toList

theorem Disk.holds_of_encodeText {d : Disk} {path text : String} {bytes : List UInt8}
    (held : d.read path.toList = .ok bytes) (encoded : Utf8.encodeText text = .ok bytes) :
    d.Holds path text := by
  obtain ⟨cs, decoded, same⟩ := Utf8.decode_of_encodeText encoded
  exact ⟨bytes, cs, held, decoded, same⟩

namespace Scene

variable {path : String} {texts : List String} {s t : Scene π}

/-- Writing texts is refused, or it replaces what the file held and fails if not all could be written. -/
theorem writeTexts_cases (path : String) (texts : List String) (s : Scene π) :
    (∃ refusal, s.disk.write path.toList (Utf8.encodeTexts texts).1 = .error refusal ∧
      writeTexts path texts s = (.error (.foreign (refusal.about path)), s)) ∨
    ∃ disk, s.disk.write path.toList (Utf8.encodeTexts texts).1 = .ok disk ∧
      writeTexts path texts s =
        requireWritable (Utf8.encodeTexts texts).2 { s with disk := disk } := by
  rw [writeTexts]
  cases written : s.disk.write path.toList (Utf8.encodeTexts texts).1 with
  | error refusal =>
    refine .inl ⟨refusal, rfl, Act.bind_of_error ?_⟩
    rw [onDisk, written]
  | ok disk =>
    refine .inr ⟨disk, rfl, Act.bind_of_ok (a := ()) ?_⟩
    rw [onDisk, written]

/-- Texts that were written can be read. -/
theorem read_of_writeTexts (h : writeTexts path texts s = (.ok (), t)) :
    ∃ bytes, Utf8.encodeTexts texts = (bytes, none) ∧ t.disk.read path.toList = .ok bytes := by
  rcases writeTexts_cases path texts s with ⟨refusal, -, eq⟩ | ⟨disk, written, eq⟩
  · cases eq.symm.trans h
  · cases encoded : Utf8.encodeTexts texts with | mk bytes u
    rw [encoded] at eq written
    cases u with
    | some u => cases eq.symm.trans h
    | none =>
      cases eq.symm.trans h
      exact ⟨bytes, rfl, Disk.read_write written⟩

/-- Files elsewhere hold what they held. -/
theorem holds_of_writeTexts {other text : String} {outcome : Except Fault Unit}
    (h : writeTexts path texts s = (outcome, t))
    (apart : Disk.placeFrom s.disk.cwd path.toList ≠ Disk.placeFrom s.disk.cwd other.toList)
    (held : s.disk.Holds other text) : t.disk.Holds other text := by
  obtain ⟨bytes, cs, read, decoded, same⟩ := held
  refine ⟨bytes, cs, ?_, decoded, same⟩
  rcases writeTexts_cases path texts s with ⟨refusal, -, eq⟩ | ⟨disk, written, eq⟩
  · cases eq.symm.trans h
    exact read
  · have after := Disk.read_write_of_ne written apart read
    cases encoded : (Utf8.encodeTexts texts).2 with
    | none =>
      rw [encoded] at eq
      cases eq.symm.trans h
      exact after
    | some u =>
      rw [encoded] at eq
      cases eq.symm.trans h
      exact after

end Scene

deriving instance DecidableEq for Collected, Evidence

namespace Evidence

variable {directory : String} {index : Int} {page : FailedPage} {parts : Collected}

/-! ## Entries -/

/-- The keys of evidence that is kept, by the parts that could be had. -/
def keptKeys (screenshot html url context : Bool) : List String :=
  ["page_index", "page", "error", "error_type",
    if screenshot then "screenshot_path" else "screenshot_error"] ++
  (if html then ["html_path", "html_size"] else ["html_error"]) ++
  [if url then "current_url" else "current_url_error", if context then "context_path" else "context_error"]

theorem keys_entries (page : FailedPage) (parts : Collected) (context : Except String String) :
    Assoc.keys (entries (.kept page parts context)) =
      keptKeys parts.screenshot.isOk parts.html.isOk parts.url.isOk context.isOk := by
  obtain ⟨screenshot, html, url⟩ := parts
  cases screenshot <;> cases html <;> cases url <;> cases context <;> rfl

/-- Of two keys one is there and the other is not. -/
abbrev Either (a b : String) (keys : List String) : Prop := Xor (a ∈ keys) (b ∈ keys)

theorem either_keptKeys : ∀ screenshot html url context,
    let keys := keptKeys screenshot html url context
    Either "screenshot_path" "screenshot_error" keys ∧ Either "html_path" "html_error" keys ∧
      Either "current_url" "current_url_error" keys ∧ Either "context_path" "context_error" keys := by
  decide

theorem nodup_keptKeys : ∀ screenshot html url context, (keptKeys screenshot html url context).Nodup := by
  decide

/-- The entries account for what was to be collected of a page with the source: each part is told of once,
by what was kept of it or by an error, and the disk holds what they say. -/
structure Accounted [StackRoom] (directory : String) (page : FailedPage) (source : String) (disk : Disk)
    (es : List (String × Data)) : Prop where
  once : (Assoc.keys es).Nodup
  base : pageEntries page <+: es
  screenshot : Either "screenshot_path" "screenshot_error" (Assoc.keys es)
  html : Either "html_path" "html_error" (Assoc.keys es)
  url : Either "current_url" "current_url_error" (Assoc.keys es)
  context : Either "context_path" "context_error" (Assoc.keys es)
  size : ∀ data, ("html_size", data) ∈ es ↔
    "html_path" ∈ Assoc.keys es ∧ data = .int (Text.length source)
  source : ∀ data, ("html_path", data) ∈ es → ∃ path, data = .text path ∧ disk.Holds path source
  list : ∀ data, ("context_path", data) ∈ es →
    data = .text (joinPath directory "failure_context.json") ∧
    ∃ text, disk.Holds (joinPath directory "failure_context.json") text ∧
      Json.read text.toList = .ok (asData (es.filter (·.1 ≠ "context_path")))

theorem asData_eq (es : List (String × Data)) : asData es = .object es := rfl

theorem mem_html_path_iff {context : Except String String} {data : Data} :
    ("html_path", data) ∈ entries (.kept page parts context) ↔
      ∃ kept, parts.html = .ok kept ∧ data = .text kept.1 := by
  obtain ⟨screenshot, html, url⟩ := parts
  cases screenshot <;> cases html <;> cases url <;> cases context <;>
    simp [entries, contextEntries, pageEntries, partEntries]

theorem mem_html_size_iff {context : Except String String} {data : Data} :
    ("html_size", data) ∈ entries (.kept page parts context) ↔
      ∃ kept, parts.html = .ok kept ∧ data = .int kept.2 := by
  obtain ⟨screenshot, html, url⟩ := parts
  cases screenshot <;> cases html <;> cases url <;> cases context <;>
    simp [entries, contextEntries, pageEntries, partEntries]

theorem mem_context_path_iff {context : Except String String} {data : Data} :
    ("context_path", data) ∈ entries (.kept page parts context) ↔
      ∃ path, context = .ok path ∧ data = .text path := by
  obtain ⟨screenshot, html, url⟩ := parts
  cases screenshot <;> cases html <;> cases url <;> cases context <;>
    simp [entries, contextEntries, pageEntries, partEntries]

theorem filter_entries (page : FailedPage) (parts : Collected) (path : String) :
    (entries (.kept page parts (.ok path))).filter (·.1 ≠ "context_path") = contextEntries page parts := by
  obtain ⟨screenshot, html, url⟩ := parts
  cases screenshot <;> cases html <;> cases url <;> rfl

theorem nodup_keys_contextEntries (page : FailedPage) (parts : Collected) :
    (Assoc.keys (contextEntries page parts)).Nodup := by
  have kept := nodup_keptKeys parts.screenshot.isOk parts.html.isOk parts.url.isOk true
  rw [← filter_entries page parts ""]
  exact (keys_entries page parts (.ok "") ▸ kept).sublist (List.filter_sublist.map Prod.fst)

theorem leaf_openText (text : Option String) : (openText text).Leaf := by
  cases text with
  | none => exact .null
  | some text => exact .text text

/-- The entries that are listed are read as they are written if no number is too long. -/
theorem leaf_contextEntries (parts : Collected) (index : Number.isOverlong page.index = false)
    (size : ∀ kept, parts.html = .ok kept → Number.isOverlong kept.2 = false) :
    ∀ e ∈ contextEntries page parts, e.2.Leaf := by
  obtain ⟨screenshot, html, url⟩ := parts
  rw [contextEntries, partEntries, List.forall_mem_append, List.forall_mem_append, List.forall_mem_append]
  refine ⟨?_, ⟨?_, ?_⟩, ?_⟩
  · simp only [pageEntries, List.forall_mem_cons]
    exact ⟨.int index, .text _, leaf_openText _, leaf_openText _, nofun⟩
  · cases screenshot with
    | ok path | error text => exact List.forall_mem_singleton.mpr (.text _)
  · cases html with
    | ok kept =>
      exact List.forall_mem_cons.mpr ⟨.text _, List.forall_mem_singleton.mpr (.int (size kept rfl))⟩
    | error text => exact List.forall_mem_singleton.mpr (.text _)
  · cases url with
    | ok url => exact List.forall_mem_singleton.mpr (leaf_openText url)
    | error text => exact List.forall_mem_singleton.mpr (.text _)

/-! ## Parts -/

section Parts

variable {step : Act (Scene π) α} {s t : Scene π}

theorem part_apply (step : Act (Scene π) α) (s : Scene π) :
    part step s = (.ok ((step s).1.mapError Fault.message), (step s).2) := rfl

theorem eq_of_part {a : α} (h : part step s = (.ok (.ok a), t)) : step s = (.ok a, t) := by
  rw [part_apply, Prod.mk.injEq, Except.ok.injEq, Except.mapError_eq_ok_iff] at h
  exact Prod.ext h.1 h.2

theorem systemPart_of_ok {a : α} (h : step s = (.ok a, t)) : systemPart step s = (.ok (.ok a), t) := by
  rw [systemPart, Act.bind_apply, Act.attempt_apply, h]
  rfl

theorem systemPart_of_isSystem {fault : Fault} (h : step s = (.error fault, t))
    (system : fault.isSystem = true) : systemPart step s = (.ok (.error fault.message), t) := by
  rw [systemPart, Act.bind_apply, Act.attempt_apply, h]
  exact congrFun (if_pos system) t

theorem systemPart_of_not_isSystem {fault : Fault} (h : step s = (.error fault, t))
    (other : fault.isSystem = false) : systemPart step s = (.error fault, t) := by
  rw [systemPart, Act.bind_apply, Act.attempt_apply, h]
  exact congrFun (if_neg (Bool.not_eq_true _ ▸ other)) t

theorem exists_collectParts (b : Browser π η) (directory : String) (index : Int) (s : Scene π) :
    ∃ parts t, collectParts b directory index s = (.ok parts, t) := ⟨_, _, rfl⟩

end Parts

variable {s t : Scene MemoryPage}

theorem html_of_pictured (h : s.Pictured t) : t.page.html = s.page.html := by
  obtain ⟨⟨paths, same⟩, -, -⟩ := h
  rw [same]
  rfl

theorem eq_of_pageSource {browser source : String}
    (h : (memoryBrowser browser).pageSource s = (.ok source, t)) : source = s.page.html := by
  have outcome : (MemoryPage.pageSource s.page).1 = .ok source := congrArg Prod.fst h
  unfold MemoryPage.pageSource MemoryPage.check at outcome
  split at outcome
  · cases outcome
  · split at outcome
    · cases outcome
    · cases outcome
      rfl

/-- What is kept of the source of the page is its file, which holds it, and its length. -/
theorem html_of_collectParts {browser : String}
    (h : collectParts (memoryBrowser browser) directory index s = (.ok parts, t)) {kept : String × Nat}
    (hk : parts.html = .ok kept) :
    kept = (joinPath directory (pageFile index ".html"), Text.length s.page.html) ∧
      t.disk.Holds (joinPath directory (pageFile index ".html")) s.page.html := by
  obtain ⟨screenshot, s₁, pictured, h⟩ := Act.exists_of_bind_eq_ok h
  obtain ⟨html, s₂, dumped, h⟩ := Act.exists_of_bind_eq_ok h
  obtain ⟨url, s₃, located, h⟩ := Act.exists_of_bind_eq_ok h
  cases h
  obtain rfl : html = .ok kept := hk
  have same : s₁.page.html = s.page.html := html_of_pictured <|
    (keeps_part (.bind ((recording_pictured browser).screenshot trivial) fun _ => .pure)).of_apply pictured
  obtain ⟨source, s₁', got, dumped⟩ := Act.exists_of_bind_eq_ok (eq_of_part dumped)
  obtain ⟨_, s₂', written, last⟩ := Act.exists_of_bind_eq_ok dumped
  cases last
  obtain rfl : source = s.page.html := (eq_of_pageSource got).trans same
  obtain ⟨bytes, encoded, read⟩ := Scene.read_of_writeTexts written
  have disk : t.disk = s₂.disk :=
    (keeps_part (R := Scene.SameDisk) (confined_memoryBrowser browser).currentUrl).of_apply located
  refine ⟨rfl, ?_⟩
  rw [disk]
  exact Disk.holds_of_encodeText read (Utf8.encodeText_of_encodeTexts encoded)

/-! ## Collecting -/

/-- What collecting the evidence of a page that failed comes to. -/
inductive Collects [StackRoom] (browser directory : String) (page : FailedPage) (s : Scene MemoryPage) :
    Except Fault Evidence × Scene MemoryPage → Prop
  /-- The directory cannot be made, which is the same for every browser. -/
  | refused {e : Evidence} {fault : Fault} {t : Scene MemoryPage}
    (unmade : (Scene.ensureDirectory directory s).1 = .error fault)
    (unasked : ∀ b : Browser MemoryPage String, collect b directory page s = (.ok e, t))
    (untouched : t.page = s.page)
    (entries : e.entries = pageEntries page ++ [("run_dir_error", .text fault.message)]) :
    Collects browser directory page s (.ok e, t)
  | kept {e : Evidence} {t : Scene MemoryPage}
    (made : (Scene.ensureDirectory directory s).1 = .ok ())
    (accounted : Accounted directory page s.page.html t.disk e.entries) :
    Collects browser directory page s (.ok e, t)
  /-- A text is to be listed that cannot be written. -/
  | unlisted {parts : Collected} {u : Utf8.Unwritable} {t t' : Scene MemoryPage}
    (collected : (do
      Scene.ensureDirectory directory
      collectParts (memoryBrowser browser) directory page.index) s = (.ok parts, t))
    (unwritable : (Utf8.encodeTexts (Json.indentedParts (asData (contextEntries page parts)))).2 = some u)
    (improper : ¬(Text.Proper directory ∧ page.Proper ∧ s.page.Proper)) :
    Collects browser directory page s (.error (.foreign ⟨.encoding, u.message⟩), t')

theorem isSystem_of_ensureDirectory {s t : Scene π} {fault : Fault} (h0 : '\x00' ∉ directory.toList)
    (h : Scene.ensureDirectory directory s = (.error fault, t)) : fault.isSystem = true := by
  unfold Scene.ensureDirectory at h
  split at h
  · cases h
  · next refused =>
    cases h
    exact Disk.Refusal.isSystem_about (Disk.ensureAll_refusal h0 (congrArg Prod.fst refused)) _

/-- Writing fails as something that is not of the system if a text cannot be written. -/
theorem unwritable_of_writeTexts {path : String} {texts : List String} {s t : Scene π} {fault : Fault}
    (h0 : '\x00' ∉ path.toList) (h : Scene.writeTexts path texts s = (.error fault, t))
    (other : fault.isSystem = false) :
    ∃ u, (Utf8.encodeTexts texts).2 = some u ∧ fault = .foreign ⟨.encoding, u.message⟩ := by
  rcases Scene.writeTexts_cases path texts s with ⟨refusal, refused, eq⟩ | ⟨disk, -, eq⟩
  · cases eq.symm.trans h
    have named : refusal ≠ .nullByte := fun null => Disk.write_ne_nullByte h0 (null ▸ refused)
    have system : (Fault.foreign (refusal.about path)).isSystem = true :=
      Disk.Refusal.isSystem_about named path
    cases other.symm.trans system
  · cases encoded : (Utf8.encodeTexts texts).2 with
    | none =>
      rw [encoded] at eq
      cases eq.symm.trans h
    | some u =>
      rw [encoded] at eq
      cases eq.symm.trans h
      exact ⟨u, rfl, rfl⟩

theorem accounted_entries [StackRoom] {source : String} {disk : Disk} {context : Except String String}
    (html : ∀ kept, parts.html = .ok kept →
      kept = (joinPath directory (pageFile index ".html"), Text.length source) ∧
        disk.Holds (joinPath directory (pageFile index ".html")) source)
    (list : ∀ path, context = .ok path → path = joinPath directory "failure_context.json" ∧
      ∃ text, disk.Holds path text ∧
        Json.read text.toList = .ok (asData (contextEntries page parts))) :
    Accounted directory page source disk (entries (.kept page parts context)) := by
  have keys := keys_entries page parts context
  have once := nodup_keptKeys parts.screenshot.isOk parts.html.isOk parts.url.isOk context.isOk
  obtain ⟨screenshot, dump, url, listed⟩ :=
    either_keptKeys parts.screenshot.isOk parts.html.isOk parts.url.isOk context.isOk
  rw [← keys] at once screenshot dump url listed
  refine ⟨once, (List.prefix_append _ _).trans (List.prefix_append _ _), screenshot, dump, url, listed,
    fun data => ⟨fun h => ?_, ?_⟩, fun data h => ?_, fun data h => ?_⟩
  · obtain ⟨kept, hk, rfl⟩ := mem_html_size_iff.mp h
    have path : ("html_path", .text kept.1) ∈ entries (.kept page parts context) :=
      mem_html_path_iff.mpr ⟨kept, hk, rfl⟩
    exact ⟨List.mem_map_of_mem path, by rw [(html kept hk).1]⟩
  · rintro ⟨h, rfl⟩
    obtain ⟨⟨_, data⟩, path, rfl⟩ := List.mem_map.mp h
    obtain ⟨kept, hk, -⟩ := mem_html_path_iff.mp path
    exact mem_html_size_iff.mpr ⟨kept, hk, by rw [(html kept hk).1]⟩
  · obtain ⟨kept, hk, rfl⟩ := mem_html_path_iff.mp h
    obtain ⟨rfl, holds⟩ := html kept hk
    exact ⟨_, rfl, holds⟩
  · obtain ⟨path, rfl, rfl⟩ := mem_context_path_iff.mp h
    obtain ⟨rfl, reads⟩ := list path rfl
    rw [filter_entries]
    exact ⟨rfl, reads⟩

theorem collect_of_made {b : Browser π η} {s s₁ s₂ : Scene π}
    (made : Scene.ensureDirectory directory s = (.ok (), s₁))
    (collected : collectParts b directory page.index s₁ = (.ok parts, s₂)) :
    collect b directory page s = (do
      let path := joinPath directory "failure_context.json"
      let list := Json.indentedParts (asData (contextEntries page parts))
      match ← systemPart (Scene.writeTexts path list) with
      | .ok () => return kept page parts (.ok path)
      | .error text =>
        Scene.say .error .evidence ("failed to write failure context: " ++ text)
        return kept page parts (.error text) : Act (Scene π) Evidence) s₂ :=
  (Act.bind_of_ok (systemPart_of_ok made)).trans (Act.bind_of_ok collected)

/-- A list of the parts that was written is read as what it lists. -/
theorem exists_holds_of_writeTexts [StackRoom] {path : String} {s t : Scene π}
    (leaves : ∀ e ∈ contextEntries page parts, e.2.Leaf)
    (h : Scene.writeTexts path (Json.indentedParts (asData (contextEntries page parts))) s = (.ok (), t)) :
    ∃ text, t.disk.Holds path text ∧ Json.read text.toList = .ok (asData (contextEntries page parts)) := by
  obtain ⟨bytes, written, read⟩ := Scene.read_of_writeTexts h
  rw [asData_eq] at written ⊢
  exact ⟨_, Disk.holds_of_encodeText read (Json.encodeText_writeIndented leaves written),
    Json.read_writeIndented (nodup_keys_contextEntries page parts) leaves⟩

/-- The list of the parts is not where the source of the page is. -/
theorem filePlace_context_ne (cwd : List (List Char)) (directory : String) (index : Int) :
    filePlace cwd directory "failure_context.json" ≠ filePlace cwd directory (pageFile index ".html") := by
  intro places
  have names := (filePlace_inj (by decide) (isName_pageFile index (by decide))).mp places
  exact pageFile_ne index ".html" (by decide) names.2.symm

theorem collects_of_made [StackRoom] (browser : String) (h0 : '\x00' ∉ directory.toList)
    (index : Number.isOverlong page.index = false)
    (size : Number.isOverlong (Text.length s.page.html) = false) {s₁ : Scene MemoryPage}
    (made : Scene.ensureDirectory directory s = (.ok (), s₁)) :
    Collects browser directory page s (collect (memoryBrowser browser) directory page s) := by
  obtain ⟨parts, s₂, collected⟩ := exists_collectParts (memoryBrowser browser) directory page.index s₁
  have same : s₁.page = s.page := (Scene.SameStage.ensureDirectory.of_apply made).page
  have html (kept : String × Nat) (hk : parts.html = .ok kept) := html_of_collectParts collected hk
  rw [same] at html
  rw [collect_of_made made collected]
  cases writing : Scene.writeTexts (joinPath directory "failure_context.json")
    (Json.indentedParts (asData (contextEntries page parts))) s₂ with | mk outcome s₃
  have dump (kept : String × Nat) (hk : parts.html = .ok kept) :=
    And.intro (html kept hk).1
      (Scene.holds_of_writeTexts writing (filePlace_context_ne _ directory page.index) (html kept hk).2)
  cases outcome with
  | ok _ =>
    have leaves := leaf_contextEntries parts index fun kept hk => (html kept hk).1 ▸ size
    rw [Act.bind_of_ok (systemPart_of_ok writing)]
    refine .kept (congrArg Prod.fst made) (accounted_entries dump ?_)
    rintro _ ⟨⟩
    exact ⟨rfl, exists_holds_of_writeTexts leaves writing⟩
  | error fault =>
    cases system : fault.isSystem with
    | true =>
      have accounted : Accounted directory page s.page.html s₃.disk
        (entries (.kept page parts (.error fault.message))) := accounted_entries dump nofun
      rw [Act.bind_of_ok (systemPart_of_isSystem writing system)]
      exact .kept (congrArg Prod.fst made) accounted
    -- what is no fault of the system is a text that cannot be written, and it is not told but passed on
    | false =>
      have left := systemPart_of_not_isSystem writing system
      obtain ⟨u, unwritable, rfl⟩ :=
        unwritable_of_writeTexts (Path.not_mem_joinPath h0 (by decide)) writing system
      rw [Act.bind_of_error left]
      refine .unlisted ((Act.bind_of_ok made).trans collected) unwritable ?_
      rintro ⟨hd, hp, hs⟩
      have succeeds := (succeeds_collect browser hd h0 hp s hs).1
      rw [collect_of_made made collected, Act.bind_of_error left] at succeeds
      exact succeeds

end Evidence

end Walkthrough
