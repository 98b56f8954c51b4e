import Walkthrough.Proofs.Json.Writer
import Walkthrough.Proofs.Run.Watching
import Walkthrough.Run.Scenario

/-! Screenshots, the evidence of a failed page and the log of a run only watch, and none of them fails,
whatever stands on the disk and however the calls fail that record the page. -/

namespace Walkthrough

/-! ## Screenshots -/

theorem Photographer.succeeds_takeAt (time : Clock) (cwd browser name directory : String) (page : Int) :
    Succeeds (fun _ => True) (takeAt time cwd (memoryBrowser browser) name page directory) := by
  have taking : Watches (fun _ => True) (fun _ => True) (do
      Scene.ensureDirectory directory
      (memoryBrowser browser).screenshot (path time name page (joinPath cwd directory))) :=
    .bind (.ensureDirectory fun _ _ _ _ => trivial) fun _ _ =>
      (Watches.screenshot browser _).mono (fun _ h => h) fun _ _ => trivial
  refine .bind taking.attempt fun outcome _ => ?_
  split
  · exact .bind .say fun _ _ => .pure trivial
  · exact .bind .say fun _ _ => .pure trivial
  · exact .bind .say fun _ _ => .pure trivial

theorem Photographer.succeeds_take (p : Photographer) (browser name directory : String) (page : Int) :
    Succeeds (fun _ => True) (p.take (memoryBrowser browser) name page directory) := fun s =>
  succeeds_takeAt (p.clock s.moment) s.disk.workingDirectory browser name directory page s

/-! ## Evidence of a failed page -/

theorem Path.not_mem_joinPath {directory name : String} (hd : '\x00' ∉ directory.toList)
    (hn : '\x00' ∉ name.toList) : '\x00' ∉ (joinPath directory name).toList := by
  rw [joinPath, String.toList_ofList]
  intro h
  rcases Path.mem_of_mem_join h with h | h | h
  · exact hd h
  · exact absurd h (by decide)
  · exact hn h

theorem proper_joinPath {directory name : String} (hd : Text.Proper directory)
    (hn : Text.Proper name) : Text.Proper (joinPath directory name) := by
  unfold joinPath Path.join
  split
  · rwa [String.ofList_toList]
  · split
    · rw [String.ofList_append, String.ofList_toList, String.ofList_toList]
      exact .append hd hn
    · rw [← List.singleton_append, String.ofList_append, String.ofList_append,
        String.ofList_toList, String.ofList_toList]
      exact .append hd (.append (.literal rfl) hn)

theorem ForeignKind.proper_name (k : ForeignKind) : Text.Proper k.name := by
  cases k <;> exact .literal rfl

theorem Fault.proper_typeName (fault : Fault) : Text.Proper fault.typeName := by
  cases fault with
  | foreign f => exact f.kind.proper_name
  | _ => simp only [Fault.typeName]; exact .literal rfl

theorem proper_openText {text : Option String} (h : ∀ t ∈ text, Text.Proper t) :
    (openText text).Proper := by
  cases text with
  | none => exact .null
  | some t => exact .text (h t rfl)

structure FailedPage.Proper (p : FailedPage) : Prop where
  page : Text.Proper p.page
  fault : ∀ fault ∈ p.fault, Speaks fault

structure Collected.Proper (c : Collected) : Prop where
  screenshot : Holds Text.Proper Text.Proper c.screenshot
  html : Holds (fun kept => Text.Proper kept.1) Text.Proper c.html
  url : Holds (fun url => ∀ text ∈ url, Text.Proper text) Text.Proper c.url

namespace Evidence

variable {α : Type} {P : α → Prop} {step : Act (Scene MemoryPage) α} {directory : String}

/-- Entries that can be listed. -/
def ProperEntries (es : List (String × Data)) : Prop := ∀ e ∈ es, Text.Proper e.1 ∧ e.2.Proper

namespace ProperEntries

variable {es fs : List (String × Data)} {key : String} {value : Data}

theorem nil : ProperEntries [] := fun _ h => absurd h List.not_mem_nil

theorem cons (hk : Text.Proper key) (hv : value.Proper) (h : ProperEntries es) :
    ProperEntries ((key, value) :: es) :=
  List.forall_mem_cons.mpr ⟨⟨hk, hv⟩, h⟩

theorem append (h : ProperEntries es) (h' : ProperEntries fs) : ProperEntries (es ++ fs) :=
  List.forall_mem_append.mpr ⟨h, h'⟩

theorem asData (h : ProperEntries es) : (asData es).Proper := by
  refine .map (fun e he => ?_) fun e he => ?_
  · obtain ⟨⟨k, v⟩, hm, rfl⟩ := List.mem_map.mp he
    exact ⟨k, rfl, (h _ hm).1⟩
  · obtain ⟨⟨k, v⟩, hm, rfl⟩ := List.mem_map.mp he
    exact (h _ hm).2

end ProperEntries

theorem proper_pageEntries {p : FailedPage} (h : p.Proper) : ProperEntries (pageEntries p) := by
  have message : ∀ t ∈ p.fault.map Fault.message, Text.Proper t := fun t ht => by
    obtain ⟨fault, hf, rfl⟩ := Option.map_eq_some_iff.mp ht
    exact h.fault fault hf
  have type : ∀ t ∈ p.fault.map Fault.typeName, Text.Proper t := fun t ht => by
    obtain ⟨fault, hf, rfl⟩ := Option.map_eq_some_iff.mp ht
    exact fault.proper_typeName
  exact .cons (.literal rfl) (.int _) <| .cons (.literal rfl) (.text h.page) <|
    .cons (.literal rfl) (proper_openText message) <| .cons (.literal rfl) (proper_openText type) .nil

theorem proper_partEntries {c : Collected} (h : c.Proper) : ProperEntries (partEntries c) := by
  obtain ⟨screenshot, html, url⟩ := c
  have ⟨hs, hh, hu⟩ := h
  refine .append (.append ?_ ?_) ?_
  · cases screenshot with
    | ok path => exact .cons (.literal rfl) (.text hs) .nil
    | error text => exact .cons (.literal rfl) (.text hs) .nil
  · cases html with
    | ok kept => exact .cons (.literal rfl) (.text hh) <| .cons (.literal rfl) (.int _) .nil
    | error text => exact .cons (.literal rfl) (.text hh) .nil
  · cases url with
    | ok url => exact .cons (.literal rfl) (proper_openText hu) .nil
    | error text => exact .cons (.literal rfl) (.text hu) .nil

theorem succeeds_part (h : Watches P Speaks step) :
    Succeeds (Holds P Text.Proper) (part step) := by
  refine .bind h.attempt fun outcome ho => .pure ?_
  cases outcome with
  | ok a => exact ho
  | error fault => exact ho

theorem succeeds_systemPart (h : Watches P OfSystem step) :
    Succeeds (Holds P Text.Proper) (systemPart step) := by
  refine .bind h.attempt fun outcome ho => ?_
  cases outcome with
  | ok a => exact .pure ho
  | error fault =>
    simp only [ho.1, if_true]
    exact .pure ho.2

theorem proper_pageFile (index : Int) {extension : String} (h : Text.Proper extension) :
    Text.Proper (pageFile index extension) :=
  .append (.append (.literal rfl) (.of_isOrdinary fun _ => Text.isOrdinary_of_mem_signedPadded)) h

theorem succeeds_collectParts (browser : String) (hd : Text.Proper directory) (index : Int) :
    Succeeds Collected.Proper (collectParts (memoryBrowser browser) directory index) := by
  have picture := proper_joinPath hd (proper_pageFile index (.literal rfl : Text.Proper ".png"))
  have path := proper_joinPath hd (proper_pageFile index (.literal rfl : Text.Proper ".html"))
  refine .bind (succeeds_part (P := Text.Proper) ?_) fun screenshot hs => ?_
  · exact .bind (.screenshot browser _) fun _ _ => .pure picture
  refine .bind (succeeds_part (P := fun kept => Text.Proper kept.1) ?_) fun html hh => ?_
  · refine .bind (.pageSource browser) fun source hs => ?_
    have write := Watches.writeTexts (E := Speaks) (List.forall_mem_singleton.mpr hs)
      fun r _ => r.proper_about (joinPath directory (pageFile index ".html"))
    exact .bind write fun _ _ => .pure path
  exact .bind (succeeds_part (.currentUrl browser)) fun url hu => .pure ⟨hs, hh, hu⟩

/-- On a path that can be a directory, evidence is collected without a failure. -/
theorem succeeds_collect (browser : String) (hd : Text.Proper directory)
    (h0 : '\x00' ∉ directory.toList) {page : FailedPage} (hp : page.Proper) :
    Succeeds (fun _ => True) (collect (memoryBrowser browser) directory page) := by
  refine .bind (succeeds_systemPart (.ensureDirectory_ofSystem h0)) fun outcome ho => ?_
  cases outcome with
  | error text => exact .bind .say fun _ _ => .pure trivial
  | ok _ =>
    refine .bind (succeeds_collectParts browser hd page.index) fun parts hc => ?_
    have list : Json.ProperPieces (Json.indentedParts (asData (contextEntries page parts))) :=
      Json.proper_indentedParts <|
        ((proper_pageEntries hp).append (proper_partEntries hc)).asData
    have context : '\x00' ∉ (joinPath directory "failure_context.json").toList :=
      Path.not_mem_joinPath h0 (by decide)
    refine .bind (succeeds_systemPart (.writeTexts list fun r hr => ?_)) fun outcome _ => ?_
    · exact Watches.ofSystem_about (fun hn => context (hr hn)) _
    · cases outcome with
      | ok _ => exact .pure trivial
      | error text => exact .bind .say fun _ _ => .pure trivial

end Evidence

/-! ## The log of a run -/

namespace Run

/-- An entry that can be written. -/
structure ProperEntry (e : StepEntry) : Prop where
  page : Text.Proper e.page
  warnings : ∀ w ∈ e.warnings, Text.Proper w
  error : ∀ text ∈ e.error, Text.Proper text

theorem ProperEntry.toData {e : StepEntry} (h : ProperEntry e) : e.toData.Proper := by
  have warnings : (Data.list (e.warnings.map .text)).Proper := .list fun d hd => by
    obtain ⟨w, hw, rfl⟩ := List.mem_map.mp hd
    exact .text (h.warnings w hw)
  have error : Evidence.ProperEntries (e.error.map fun text => ("error", Data.text text)).toList := by
    cases he : e.error with
    | none => exact .nil
    | some text => exact .cons (.literal rfl) (.text (h.error text he)) .nil
  have status : Text.Proper (if e.passed then "PASSED" else "FAILED") := by
    split
    · exact .literal rfl
    · exact .literal rfl
  have all : Evidence.ProperEntries ([("i", .int e.index), ("page", .text e.page),
      ("status", .text (if e.passed then "PASSED" else "FAILED")),
      ("duration_ms", .int e.milliseconds.toNat), ("warnings", .list (e.warnings.map .text))] ++
      (e.error.map fun text => ("error", Data.text text)).toList) :=
    .append (.cons (.literal rfl) (.int _) <| .cons (.literal rfl) (.text h.page) <|
      .cons (.literal rfl) (.text status) <| .cons (.literal rfl) (.int _) <|
      .cons (.literal rfl) warnings .nil) error
  rw [StepEntry.toData]
  cases he : e.error with
  | none =>
    rw [he] at all
    exact all.asData
  | some text =>
    rw [he] at all
    exact all.asData

/-- A run directory, if there is one, has a name that can be a path. -/
def Nameable (directory : Option String) : Prop :=
  ∀ d ∈ directory, Text.Proper d ∧ '\x00' ∉ d.toList

theorem mem_of_namedDirectory {directory : Option String} {d : String}
    (h : namedDirectory directory = some d) : d ∈ directory := by
  unfold namedDirectory at h
  split at h
  · cases h
  · cases h
  · exact h

theorem succeeds_logStep {directory : Option String} (hd : Nameable directory) {entry : StepEntry}
    (he : ProperEntry entry) :
    Succeeds (fun _ => True) (logStep directory entry : Act (Scene MemoryPage) Unit) := by
  unfold logStep
  cases hn : namedDirectory directory with
  | none => exact .pure trivial
  | some d =>
    have h0 := (hd d (mem_of_namedDirectory hn)).2
    have writing : Watches (fun _ => True) OfSystem (do
        Scene.ensureDirectory d
        Scene.appendText (joinPath d stepLogName) (Json.write entry.toData ++ "\n")) :=
      .bind (.ensureDirectory_ofSystem h0) fun _ _ =>
        .appendText_ofSystem (.append (Json.proper_write he.toData) (.literal rfl))
          (Path.not_mem_joinPath h0 (by decide))
    refine .bind writing.attempt fun outcome ho => ?_
    cases outcome with
    | ok _ => exact .pure trivial
    | error fault =>
      simp only [ho.1, if_true]
      exact .say

end Run

end Walkthrough
