import Mathlib.Data.List.Nodup
import Walkthrough.Log.Setup
import Walkthrough.Proofs.Basic

/-! Setting up the log any number of times. `SetUp` says everything that one call can do: it is refused before
it does anything, it breaks off with some of its sinks added, or it adds all of them and is the last one that
does anything. What a call adds before it breaks off stays, so every such call leaves one more console
(`Logging.Goes.account`); without them there is at most one sink of each kind. -/

namespace Walkthrough.Logging

/-! ## One call -/

/-- The word for the level that a call asks for. -/
def levelWord (settings : Settings) : Option String → String
  | none | some "" => settings.logLevel
  | some word => word

/-- From one state to the other the sinks, the level and whether a set-up succeeded are the same. -/
structure Apart (s t : Logging) : Prop where
  level : t.level = s.level
  sinks : t.sinks = s.sinks
  configured : t.configured = s.configured

theorem Apart.trans {s t u : Logging} (h : Apart s t) (h' : Apart t u) : Apart s u :=
  ⟨h'.level.trans h.level, h'.sinks.trans h.sinks, h'.configured.trans h.configured⟩

/-- From one state to the other sinks were added, and nothing else was set up. -/
structure Adds (sinks : List Sink) (s t : Logging) : Prop where
  level : t.level = s.level
  sinks : t.sinks = s.sinks ++ sinks
  configured : t.configured = s.configured

/-- What adding the sinks of a directory comes to: all of them, or those before a failure. -/
inductive AddsFiles (s : Logging) : Except Fault Unit → Logging → Prop
  | unmade {fault t} (h : Adds [] s t) : AddsFiles s (.error fault) t
  | unwarned {fault path t} (h : Adds [.daily path] s t) : AddsFiles s (.error fault) t
  | added {path path' t} (h : Adds [.daily path, .warnings path'] s t) : AddsFiles s (.ok ()) t

/-- What a call comes to. -/
inductive SetUp (settings : Settings) (level directory : Option String) (s : Logging) :
    Except Fault Unit → Logging → Prop
  | again (h : s.configured = true) : SetUp settings level directory s (.ok ()) s
  | refused {failure} (h : s.configured = false)
    (word : Level.ofWord (levelWord settings level) = .error failure) :
    SetUp settings level directory s (.error (.foreign failure)) s
  | broken {fault l left t} (h : s.configured = false)
    (word : Level.ofWord (levelWord settings level) = .ok l)
    (hleft : left = [] ∨ ∃ path, left = [.daily path]) (sinks : t.sinks = s.sinks ++ .console :: left)
    (level_eq : t.level = l) (configured : t.configured = false) :
    SetUp settings level directory s (.error fault) t
  | done {l added t} (h : s.configured = false) (word : Level.ofWord (levelWord settings level) = .ok l)
    (hadded : added = [] ∨ ∃ path path', added = [.daily path, .warnings path'])
    (sinks : t.sinks = s.sinks ++ .console :: added) (level_eq : t.level = l)
    (configured : t.configured = true) : SetUp settings level directory s (.ok ()) t

variable {settings : Settings} {level directory : Option String} {s t u : Logging}

theorem apart_ensureDirectory (directory : String) (s : Logging) :
    Apart s (ensureDirectory directory s).2 := by
  unfold ensureDirectory
  split
  · exact ⟨rfl, rfl, rfl⟩
  · exact ⟨rfl, rfl, rfl⟩

theorem apart_openFile (path : String) (s : Logging) : Apart s (openFile path s).2 := by
  unfold openFile
  split
  · exact ⟨rfl, rfl, rfl⟩
  · exact ⟨rfl, rfl, rfl⟩

/-- The state with one more sink. -/
def withSink (s : Logging) (sink : Sink) : Logging := { s with sinks := s.sinks ++ [sink] }

theorem addSink_apply (sink : Sink) (s : Logging) : addSink sink s = (.ok (), s.withSink sink) := rfl

theorem addsFiles (directory : String) (s : Logging) :
    AddsFiles s (addFiles directory s).1 (addFiles directory s).2 := by
  have apart := apart_ensureDirectory directory s
  unfold addFiles
  cases made : ensureDirectory directory s with | mk outcome s₁
  rw [made] at apart
  cases outcome with
  | error fault =>
    rw [Act.bind_of_error made]
    exact .unmade ⟨apart.level, apart.sinks.trans (List.append_nil _).symm, apart.configured⟩
  | ok _ =>
    rw [Act.bind_of_ok made, Act.get_bind_apply]
    let daily := filePath s₁.disk.workingDirectory directory "log.log"
    have apart₁ := apart_openFile daily s₁
    cases opened : openFile daily s₁ with | mk outcome s₂
    rw [opened] at apart₁
    replace apart := apart.trans apart₁
    cases outcome with
    | error fault =>
      dsimp only
      rw [Act.bind_of_error opened]
      exact .unmade ⟨apart.level, apart.sinks.trans (List.append_nil _).symm, apart.configured⟩
    | ok _ =>
      dsimp only
      rw [Act.bind_of_ok opened, Act.bind_of_ok (addSink_apply _ s₂), Act.get_bind_apply]
      let warnings := filePath (s₂.withSink (.daily daily)).disk.workingDirectory directory "error.log"
      have apart₂ := apart_openFile warnings (s₂.withSink (.daily daily))
      cases opened' : openFile warnings (s₂.withSink (.daily daily)) with | mk outcome s₃
      rw [opened'] at apart₂
      have level : s₃.level = s.level := apart₂.level.trans apart.level
      have sinks : s₃.sinks = s.sinks ++ [.daily daily] :=
        apart₂.sinks.trans (congrArg (· ++ _) apart.sinks)
      have configured : s₃.configured = s.configured := apart₂.configured.trans apart.configured
      cases outcome with
      | error fault =>
        rw [Act.bind_of_error opened']
        exact .unwarned ⟨level, sinks, configured⟩
      | ok _ =>
        rw [Act.bind_of_ok opened']
        refine @AddsFiles.added s daily warnings _ ⟨level, ?_, configured⟩
        exact (congrArg (· ++ [_]) sinks).trans (List.append_assoc ..)

theorem setUp (settings : Settings) (level directory : Option String) (s : Logging) :
    SetUp settings level directory s (configure settings level directory s).1
      (configure settings level directory s).2 := by
  unfold configure
  rw [Act.get_bind_apply]
  cases h : s.configured with
  | true => exact .again h
  | false =>
    dsimp only
    rw [if_neg Bool.false_ne_true]
    change SetUp settings level directory s
      ((Act.lift ((Level.ofWord (levelWord settings level)).mapError Fault.foreign) >>= _) s).1
      ((Act.lift ((Level.ofWord (levelWord settings level)).mapError Fault.foreign) >>= _) s).2
    cases word : Level.ofWord (levelWord settings level) with
    | error failure => exact .refused h word
    | ok l =>
      let s₀ : Logging := { s with level := l, sinks := s.sinks ++ [.console] }
      have sinks {t : Logging} {added : List Sink} (h : Adds added s₀ t) :
          t.sinks = s.sinks ++ .console :: added := h.sinks.trans (List.append_assoc ..)
      rw [Act.bind_of_ok (show Act.lift ((Except.ok l).mapError Fault.foreign) s = (.ok l, s) from rfl),
        Act.bind_of_ok (show Act.modify _ s = (.ok (), { s with level := l }) from rfl),
        Act.bind_of_ok (show addSink .console { s with level := l } = (.ok (), s₀) from rfl)]
      split
      · have files := addsFiles (directory.getD settings.logDirectory) s₀
        cases added : addFiles (directory.getD settings.logDirectory) s₀ with | mk outcome s₁
        rw [added] at files
        cases files with
        | unmade adds =>
          rw [Act.bind_of_error added]
          exact .broken h word (.inl rfl) (sinks adds) adds.level (adds.configured.trans h)
        | unwarned adds =>
          rw [Act.bind_of_error added]
          exact .broken h word (.inr ⟨_, rfl⟩) (sinks adds) adds.level (adds.configured.trans h)
        | added adds =>
          have all := sinks adds
          rw [Act.bind_of_ok added]
          exact .done h word (.inr ⟨_, _, rfl⟩) all adds.level rfl
      · exact .done h word (.inl rfl) rfl rfl rfl

/-! ## Any number of calls -/

/-- The call fails after its level was accepted. -/
def BreaksOff (settings : Settings) (level directory : Option String) (s : Logging) : Prop :=
  (∃ l, Level.ofWord (levelWord settings level) = .ok l) ∧
    ∃ fault, (configure settings level directory s).1 = .error fault

/-- Such a call leaves a console, and may leave a daily file. -/
theorem BreaksOff.leaves (h : BreaksOff settings level directory s) :
    s.configured = false ∧ (configure settings level directory s).2.configured = false ∧
      ∃ left, (left = [] ∨ ∃ path, left = [.daily path]) ∧
        (configure settings level directory s).2.sinks = s.sinks ++ .console :: left := by
  obtain ⟨⟨l, accepted⟩, fault, failed⟩ := h
  have called := setUp settings level directory s
  rw [failed] at called
  generalize (configure settings level directory s).2 = t at called ⊢
  cases called with
  | refused _ word =>
    rw [accepted] at word
    cases word
  | broken unconfigured _ hleft sinks _ configured => exact ⟨unconfigured, configured, _, hleft, sinks⟩

/-- From one state to another by calls, of which the given number break off. Between the calls the disk may
change, and messages may be written. -/
inductive Goes (settings : Settings) (s : Logging) : Nat → Logging → Prop
  | start : Goes settings s 0 s
  | apart {n t u} (h : Goes settings s n t) (apart : Apart t u) : Goes settings s n u
  | whole {n t} (h : Goes settings s n t) (level directory : Option String)
    (whole : ¬ BreaksOff settings level directory t) :
    Goes settings s n (configure settings level directory t).2
  | broken {n t} (h : Goes settings s n t) (level directory : Option String)
    (breaks : BreaksOff settings level directory t) :
    Goes settings s (n + 1) (configure settings level directory t).2

/-- How many sinks are of a kind. -/
def number (s : Logging) (kind : String) : Nat := (s.sinks.map Sink.kind).count kind

/-- How many sinks there are after set-ups, of which the given number broke off. -/
structure Account (n : Nat) (s : Logging) : Prop where
  consoles : s.number "StreamHandler" = n + s.configured.toNat
  dailies : s.number "TimedRotatingFileHandler" ≤ n + s.configured.toNat
  warnings : s.number "FileHandler" ≤ s.configured.toNat

theorem number_of_append {added : List Sink} (h : t.sinks = s.sinks ++ added) (kind : String) :
    t.number kind = s.number kind + (added.map Sink.kind).count kind := by
  rw [number, h, List.map_append, List.count_append]
  rfl

/-- The account after sinks were added. -/
theorem Account.grow {n m : Nat} {added : List Sink} (h : Account n s) (sinks : t.sinks = s.sinks ++ added)
    (consoles : n + s.configured.toNat + (added.map Sink.kind).count "StreamHandler" = m + t.configured.toNat)
    (dailies : n + s.configured.toNat + (added.map Sink.kind).count "TimedRotatingFileHandler" ≤
      m + t.configured.toNat)
    (warnings : s.configured.toNat + (added.map Sink.kind).count "FileHandler" ≤ t.configured.toNat) :
    Account m t where
  consoles := by rw [number_of_append sinks, h.consoles, consoles]
  dailies := by
    rw [number_of_append sinks]
    exact Nat.le_trans (Nat.add_le_add_right h.dailies _) dailies
  warnings := by
    rw [number_of_append sinks]
    exact Nat.le_trans (Nat.add_le_add_right h.warnings _) warnings

theorem Account.of_apart {n : Nat} (h : Account n s) (apart : Apart s t) : Account n t := by
  refine h.grow (apart.sinks.trans (List.append_nil _).symm) ?_ ?_ ?_ <;> simp [apart.configured]

theorem Account.broken {n : Nat} (h : Account n s) (breaks : BreaksOff settings level directory s) :
    Account (n + 1) (configure settings level directory s).2 := by
  obtain ⟨unconfigured, configured, left, hleft, sinks⟩ := breaks.leaves
  rcases hleft with rfl | ⟨path, rfl⟩
  · refine h.grow sinks ?_ ?_ ?_ <;> simp [unconfigured, configured, Sink.kind]
  · refine h.grow sinks ?_ ?_ ?_ <;> simp [unconfigured, configured, Sink.kind]

/-- Any other call leaves the sinks as they are or is the one that succeeds. -/
theorem Account.whole {n : Nat} (h : Account n s) (whole : ¬ BreaksOff settings level directory s) :
    Account n (configure settings level directory s).2 := by
  have called := setUp settings level directory s
  cases run : configure settings level directory s with | mk outcome t
  rw [run] at called
  change SetUp settings level directory s outcome t at called
  cases called with
  | again => exact h
  | refused => exact h
  | broken _ word => exact absurd ⟨⟨_, word⟩, _, congrArg Prod.fst run⟩ whole
  | done unconfigured _ hadded sinks _ configured =>
    rcases hadded with rfl | ⟨path, path', rfl⟩
    · refine h.grow sinks ?_ ?_ ?_ <;> simp [unconfigured, configured, Sink.kind]
    · refine h.grow sinks ?_ ?_ ?_ <;> simp [unconfigured, configured, Sink.kind]

theorem Goes.account {n : Nat} (sinks : s.sinks = []) (unconfigured : s.configured = false)
    (h : Goes settings s n t) : Account n t := by
  induction h with
  | start =>
    have none (kind : String) : s.number kind = 0 := by rw [number, sinks]; rfl
    refine ⟨?_, ?_, ?_⟩ <;> simp [none, unconfigured]
  | apart _ apart ih => exact ih.of_apart apart
  | whole _ level directory whole ih => exact ih.whole whole
  | broken _ level directory breaks ih => exact ih.broken breaks

/-- After a set-up has succeeded, nothing is set up any more. -/
theorem Goes.settled {n : Nat} (configured : s.configured = true) (h : Goes settings s n t) :
    n = 0 ∧ Apart s t := by
  have again {t : Logging} (apart : Apart s t) (level directory : Option String) :
      configure settings level directory t = (.ok (), t) := by
    have called := setUp settings level directory t
    have configured := apart.configured.trans configured
    cases run : configure settings level directory t with | mk outcome u
    rw [run] at called
    cases called with
    | again => rfl
    | refused unconfigured | broken unconfigured | done unconfigured =>
      rw [configured] at unconfigured
      cases unconfigured
  induction h with
  | start => exact ⟨rfl, rfl, rfl, rfl⟩
  | apart _ apart ih => exact ⟨ih.1, ih.2.trans apart⟩
  | whole _ level directory _ ih =>
    rw [again ih.2]
    exact ih
  | broken _ level directory breaks ih =>
    obtain ⟨-, fault, failed⟩ := breaks
    rw [again ih.2] at failed
    cases failed

/-- If no set-up broke off, no two sinks are of the same kind. -/
theorem Account.nodup (h : Account 0 s) : (s.sinks.map Sink.kind).Nodup := by
  refine List.nodup_iff_count_le_one.mpr fun kind => ?_
  have one : s.configured.toNat ≤ 1 := Bool.toNat_le s.configured
  obtain ⟨consoles, dailies, warnings⟩ := h
  rw [number] at consoles dailies warnings
  by_cases present : kind ∈ s.sinks.map Sink.kind
  · obtain ⟨sink, -, rfl⟩ := List.mem_map.mp present
    cases sink with
    | console =>
      show List.count "StreamHandler" _ ≤ 1
      omega
    | daily =>
      show List.count "TimedRotatingFileHandler" _ ≤ 1
      omega
    | warnings => exact Nat.le_trans warnings one
  · rw [List.count_eq_zero_of_not_mem present]
    exact Nat.zero_le 1

/-- What a process comes to by setting up its log any number of times, of which the given number break off.
There is never a second file of warnings, and no second sink of any kind if no call breaks off. One that does
leaves a console more; every other call that fails leaves everything as it was. After a call that succeeds
neither sinks nor level change. -/
structure Life (settings : Settings) (n : Nat) (s : Logging) : Prop extends Account n s where
  nodup : n = 0 → (s.sinks.map Sink.kind).Nodup
  breaks : ∀ level directory, BreaksOff settings level directory s →
    ∃ left, (left = [] ∨ ∃ path, left = [.daily path]) ∧
      (configure settings level directory s).2.sinks = s.sinks ++ .console :: left
  fails : ∀ level directory fault, (configure settings level directory s).1 = .error fault →
    ¬ BreaksOff settings level directory s → (configure settings level directory s).2 = s
  settled : ∀ level directory m t, (configure settings level directory s).1 = .ok () →
    Goes settings (configure settings level directory s).2 m t →
      t.sinks = (configure settings level directory s).2.sinks ∧
        t.level = (configure settings level directory s).2.level

theorem Goes.life {n : Nat} (sinks : s.sinks = []) (unconfigured : s.configured = false)
    (h : Goes settings s n t) : Life settings n t := by
  have account := h.account sinks unconfigured
  refine { account with nodup := ?_, breaks := ?_, fails := ?_, settled := ?_ }
  · rintro rfl
    exact account.nodup
  · intro level directory breaks
    exact breaks.leaves.2.2
  · intro level directory fault failed whole
    have called := setUp settings level directory t
    rw [failed] at called
    generalize (configure settings level directory t).2 = u at called
    cases called with
    | refused => rfl
    | broken _ word => exact absurd ⟨⟨_, word⟩, _, failed⟩ whole
  · intro level directory m u succeeded goes
    have called := setUp settings level directory t
    rw [succeeded] at called
    have configured : (configure settings level directory t).2.configured = true := by
      generalize (configure settings level directory t).2 = u at called
      cases called with
      | again configured => exact configured
      | done _ _ _ _ _ configured => exact configured
    obtain ⟨-, apart⟩ := goes.settled configured
    exact ⟨apart.sinks, apart.level⟩

/-! ## A directory that cannot be made -/

/-- A call whose directory cannot be made has set the level and left a console. -/
theorem configure_of_unmade {l : Level} {path place : List Char} {refusal : Disk.Refusal} {disk : Disk}
    (h : s.configured = false) (word : Level.ofWord (levelWord settings level) = .ok l) (hp : path ≠ [])
    (unmade : s.disk.ensureAll (path.length + 1) path = (.error (refusal, place), disk)) :
    configure settings level (some (String.ofList path)) s =
      (.error (.foreign (refusal.about (String.ofList place))),
        { s with level := l, sinks := s.sinks ++ [.console], disk := disk }) := by
  let s₀ : Logging := { s with level := l, sinks := s.sinks ++ [.console] }
  have ensured : ensureDirectory (String.ofList path) s₀ =
      (.error (.foreign (refusal.about (String.ofList place))), { s₀ with disk := disk }) := by
    rw [ensureDirectory, String.toList_ofList, String.length_ofList, show s₀.disk = s.disk from rfl, unmade]
  have files : addFiles (String.ofList path) s₀ =
      (.error (.foreign (refusal.about (String.ofList place))), { s₀ with disk := disk }) :=
    Act.bind_of_error ensured
  have given : (some (String.ofList path)).getD settings.logDirectory ≠ "" := by
    rw [Option.getD_some]
    exact fun empty => hp (String.ofList_eq_empty_iff.mp empty)
  unfold configure
  rw [Act.get_bind_apply]
  dsimp only
  rw [if_neg (by rw [h]; exact Bool.false_ne_true)]
  change (Act.lift ((Level.ofWord (levelWord settings level)).mapError Fault.foreign) >>= _) s = _
  rw [word, Act.bind_of_ok (show Act.lift ((Except.ok l).mapError Fault.foreign) s = (.ok l, s) from rfl),
    Act.bind_of_ok (show Act.modify _ s = (.ok (), { s with level := l }) from rfl),
    Act.bind_of_ok (show addSink .console { s with level := l } = (.ok (), s₀) from rfl)]
  rw [if_pos given, Option.getD_some]
  exact Act.bind_of_error files

/-- A directory with a name that is too long to be made. -/
def endless : String := String.ofList ('/' :: List.replicate 256 'x')

theorem configure_endless_apply {s : Logging} (h : s.configured = false) (hd : s.disk = {}) :
    configure {} (some "info") (some endless) s =
      (.error (.foreign (Disk.Refusal.nameTooLong.about endless)),
        { s with level := 20, sinks := s.sinks ++ [.console] }) := by
  have unmade : s.disk.ensureAll (('/' :: List.replicate 256 'x').length + 1) ('/' :: List.replicate 256 'x') =
      (.error (.nameTooLong, '/' :: List.replicate 256 'x'), s.disk) := by
    rw [hd]
    decide +kernel
  exact configure_of_unmade h rfl (List.cons_ne_nil _ _) unmade

/-- A call that cannot make its directory and one that succeeds leave two consoles. -/
theorem Goes.life_endless :
    let first := (configure {} (some "info") (some endless) {}).2
    let second := (configure {} none (some "") first).2
    BreaksOff {} (some "info") (some endless) {} ∧ Goes {} {} 1 second ∧
      second.sinks = [.console, .console] ∧ Life {} 1 second := by
  rw [configure_endless_apply rfl rfl]
  have breaks : BreaksOff {} (some "info") (some endless) {} :=
    ⟨⟨20, rfl⟩, _, congrArg Prod.fst (configure_endless_apply rfl rfl)⟩
  have goes := (Goes.start.broken _ _ breaks).whole none (some "") fun ⟨_, _, failed⟩ => by
    rw [configure_endless_apply rfl rfl] at failed
    cases failed
  rw [configure_endless_apply rfl rfl] at goes
  exact ⟨breaks, goes, rfl, Goes.life rfl rfl goes⟩

/-- Two calls that cannot make their directory. Each of them fails and leaves a console. -/
theorem configure_endless :
    let first := configure {} (some "info") (some endless) {}
    let second := configure {} (some "info") (some endless) first.2
    first.1.isOk = false ∧ first.2.sinks = [.console] ∧ second.1.isOk = false ∧
      second.2.sinks = [.console, .console] := by
  dsimp only
  rw [configure_endless_apply rfl rfl, configure_endless_apply rfl rfl]
  exact ⟨rfl, rfl, rfl, rfl⟩

end Walkthrough.Logging
