import Walkthrough.Proofs.Browser.Twins
import Walkthrough.Proofs.Disk.Refusal

/-! Steps that only watch: all they do to a proper page is to take pictures of it. Writing to the log and
to the disk is of this kind, and so are the calls that record a page. -/

namespace Walkthrough

/-- The page with further pictures in its journal. -/
def MemoryPage.withPictures (p : MemoryPage) (paths : List String) : MemoryPage :=
  { p with journal := p.journal ++ paths.map .screenshot }

namespace MemoryPage

variable {p q : MemoryPage} {paths : List String}

theorem withPictures_append (p : MemoryPage) (paths more : List String) :
    (p.withPictures paths).withPictures more = p.withPictures (paths ++ more) := by
  simp [withPictures]

theorem withPictures_nil (p : MemoryPage) : p.withPictures [] = p := by
  simp [withPictures]

theorem Proper.withPictures (h : p.Proper) (paths : List String) : (p.withPictures paths).Proper :=
  { h with }

theorem deeds_withPictures (p : MemoryPage) (paths : List String) :
    (p.withPictures paths).deeds = p.deeds := by
  have : (paths.map JournalEntry.screenshot).filter JournalEntry.isDeed = [] := by
    simp [JournalEntry.isDeed]
  rw [deeds, MemoryPage.withPictures, List.filter_append, this, List.append_nil]
  rfl

theorem Twins.withPictures (h : p.Twins q) (paths paths' : List String) :
    (p.withPictures paths).Twins (q.withPictures paths') where
  toAlike := { h.toAlike with
    deeds := by rw [deeds_withPictures, deeds_withPictures, h.deeds] }
  left := h.left.withPictures paths
  right := h.right.withPictures paths'

end MemoryPage

/-- What is known of a value, and what of a fault. -/
def Holds {ε α : Type} (P : α → Prop) (E : ε → Prop) : Except ε α → Prop
  | .ok a => P a
  | .error e => E e

theorem Holds.mono {ε α : Type} {P P' : α → Prop} {E E' : ε → Prop} {x : Except ε α}
    (h : Holds P E x) (hP : ∀ a, P a → P' a) (hE : ∀ e, E e → E' e) : Holds P' E' x := by
  cases x with
  | ok a => exact hP a h
  | error e => exact hE e h

/-- The step does nothing to a proper page but take pictures of it. -/
def Watches {α : Type} (P : α → Prop) (E : Fault → Prop) (act : Act (Scene MemoryPage) α) : Prop :=
  ∀ s, s.page.Proper → Holds P E (act s).1 ∧ ∃ paths, (act s).2.page = s.page.withPictures paths

/-- A step that never fails. -/
abbrev Succeeds {α : Type} (P : α → Prop) (act : Act (Scene MemoryPage) α) : Prop :=
  Watches P (fun _ => False) act

/-- Faults whose message is proper. -/
def Speaks (fault : Fault) : Prop := Text.Proper fault.message

/-- Faults of the system whose message is proper. -/
def OfSystem (fault : Fault) : Prop := fault.isSystem = true ∧ Text.Proper fault.message

namespace Watches

variable {α β : Type} {P : α → Prop} {Q : β → Prop} {E E' : Fault → Prop}
  {act : Act (Scene MemoryPage) α} {path : String}

theorem pure {a : α} (h : P a) : Watches P E (Pure.pure a) := fun s _ =>
  ⟨h, [], s.page.withPictures_nil.symm⟩

theorem bind {next : α → Act (Scene MemoryPage) β} (h : Watches P E act)
    (h' : ∀ a, P a → Watches Q E (next a)) : Watches Q E (act >>= next) := by
  intro s hs
  have ⟨ho, paths, hp⟩ := h s hs
  rw [Act.bind_apply]
  cases hx : act s with | mk outcome s₁
  rw [hx] at ho hp
  cases outcome with
  | error fault => exact ⟨ho, paths, hp⟩
  | ok a =>
    have hs₁ : s₁.page.Proper := hp ▸ hs.withPictures paths
    have ⟨ho', more, hp'⟩ := h' a ho s₁ hs₁
    exact ⟨ho', paths ++ more, by rw [hp', hp, MemoryPage.withPictures_append]⟩

theorem mono {P' : α → Prop} (h : Watches P E act) (hP : ∀ a, P a → P' a)
    (hE : ∀ fault, E fault → E' fault) : Watches P' E' act := fun s hs =>
  (h s hs).imp_left (·.mono hP hE)

theorem attempt (h : Watches P E act) : Succeeds (Holds P E) act.attempt := h

theorem say {level : Level} {channel : Channel} {text : String} :
    Watches (fun _ => True) E (Scene.say level channel text) := fun s _ =>
  ⟨trivial, [], s.page.withPictures_nil.symm⟩

/-! ## The disk -/

theorem onDisk {change : Disk → Except Disk.Refusal Disk}
    (h : ∀ (d : Disk) (r : Disk.Refusal), change d = .error r → E (.foreign (r.about path))) :
    Watches (fun _ => True) E (Scene.onDisk path change) := by
  intro s _
  unfold Scene.onDisk
  cases hc : change s.disk with
  | ok d => exact ⟨trivial, [], s.page.withPictures_nil.symm⟩
  | error r => exact ⟨h _ r hc, [], s.page.withPictures_nil.symm⟩

theorem ensureDirectory
    (h : ∀ (d : Disk) (r : Disk.Refusal) (place : List Char),
      (d.ensureAll (path.length + 1) path.toList).1 = .error (r, place) →
        E (.foreign (r.about (String.ofList place)))) :
    Watches (fun _ => True) E (Scene.ensureDirectory path) := by
  intro s _
  unfold Scene.ensureDirectory
  cases hc : s.disk.ensureAll (path.length + 1) path.toList with | mk outcome d
  cases outcome with
  | ok _ => exact ⟨trivial, [], s.page.withPictures_nil.symm⟩
  | error e => exact ⟨h _ e.1 e.2 (congrArg Prod.fst hc), [], s.page.withPictures_nil.symm⟩

theorem ofSystem_about {r : Disk.Refusal} (h : r ≠ .nullByte) (path : String) :
    OfSystem (.foreign (r.about path)) :=
  ⟨r.isSystem_about h path, r.proper_about path⟩

/-- Directories on a path without the character zero. -/
theorem ensureDirectory_ofSystem (h : '\x00' ∉ path.toList) :
    Watches (fun _ => True) OfSystem (Scene.ensureDirectory path) :=
  .ensureDirectory fun _ _ _ he => ofSystem_about (Disk.ensureAll_refusal h he) _

theorem requireWritable {u : Option Text.Utf8.Unwritable} (h : u = none) :
    Watches (fun _ => True) E (Scene.requireWritable u) := by
  rw [h]
  exact .pure trivial

theorem writeTexts {texts : List String} (h : ∀ text ∈ texts, Text.Proper text)
    (hr : ∀ r : Disk.Refusal, (r = .nullByte → '\x00' ∈ path.toList) →
      E (.foreign (r.about path))) :
    Watches (fun _ => True) E (Scene.writeTexts path texts) := by
  refine .bind (.onDisk fun d r hd => hr r fun hn => ?_) fun _ _ =>
    .requireWritable (Text.Proper.encodeTexts h)
  by_contra hp
  exact Disk.write_ne_nullByte hp (hn ▸ hd)

theorem appendText_ofSystem {text : String} (h : Text.Proper text) (hp : '\x00' ∉ path.toList) :
    Watches (fun _ => True) OfSystem (Scene.appendText path text) := by
  refine .bind (.onDisk fun d r hd => ofSystem_about (fun hn => ?_) path) fun _ _ =>
    .requireWritable (Text.Proper.encodeTexts (List.forall_mem_singleton.mpr h))
  exact Disk.append_ne_nullByte hp (hn ▸ hd)

end Watches

/-! ## The page -/

namespace Watches

variable {α : Type} {P : α → Prop} {E : Fault → Prop}

theorem onPage {call : MemoryPage → Except Fault α × MemoryPage}
    (h : ∀ p : MemoryPage, p.Proper →
      Holds P E (call p).1 ∧ ∃ paths, (call p).2 = p.withPictures paths) :
    Watches P E (Scene.onPage call) := fun s hs => h s.page hs

theorem check {p : MemoryPage} (hp : p.Proper) (call : PageCall) {a : α} (ha : P a) :
    Holds P Speaks (p.check call a p).1 ∧ (p.check call a p).2 = p := by
  unfold MemoryPage.check
  cases hf : Assoc.get? call p.failures with
  | some fault => exact ⟨hp.failures _ (Assoc.mem_of_get? hf), rfl⟩
  | none => exact ⟨ha, rfl⟩

theorem speaks_unsupported (p : MemoryPage) {text : String} (h : Text.Proper text) :
    Holds P Speaks (p.unsupported text : Except Fault α × MemoryPage).1 := by
  have hn : Text.Proper p.browserName := by
    unfold MemoryPage.browserName
    split
    · exact .literal rfl
    · exact .literal rfl
  exact .append (.append hn (.literal rfl)) h

theorem screenshot (name path : String) :
    Watches (fun _ => True) Speaks ((memoryBrowser name).screenshot path) := by
  refine .bind (P := fun _ => True) (.onPage fun p hp => ?_) fun _ _ =>
    .onDisk fun _ r _ => r.proper_about path
  unfold MemoryPage.beforePicture
  split
  · exact ⟨speaks_unsupported p (.literal rfl), [], p.withPictures_nil.symm⟩
  · have hc := check (P := fun _ => True) (hp.note (.screenshot path)) .screenshot (a := ()) trivial
    exact ⟨hc.1, [path], hc.2⟩

theorem pageSource (name : String) :
    Watches Text.Proper Speaks (memoryBrowser name).pageSource := by
  refine .onPage fun p hp => ?_
  unfold MemoryPage.pageSource
  split
  · exact ⟨speaks_unsupported p (.literal rfl), [], p.withPictures_nil.symm⟩
  · have hc := check hp .pageSource hp.html
    exact ⟨hc.1, [], hc.2.trans p.withPictures_nil.symm⟩

theorem currentUrl (name : String) :
    Watches (fun url => ∀ text ∈ url, Text.Proper text) Speaks (memoryBrowser name).currentUrl := by
  refine .onPage fun p hp => ?_
  unfold MemoryPage.currentUrl
  split
  · exact ⟨nofun, [], p.withPictures_nil.symm⟩
  · have hc := check (P := fun url => ∀ text ∈ url, Text.Proper text) hp .currentUrl hp.url
    exact ⟨hc.1, [], hc.2.trans p.withPictures_nil.symm⟩

end Watches

end Walkthrough
