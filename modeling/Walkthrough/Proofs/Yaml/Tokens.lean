import Walkthrough.Proofs.Yaml.Misfit

/-! The tokens of a YAML text end with known faults at most: of the scanners only those of escapes and of
version numbers convert what they read. -/

namespace Walkthrough.Yaml

open Text

theorem sound_fail {α : Type} {c : Cursor} {cause : Problem} : Sound (c.fail cause : Except Fault α) :=
  .error trivial

/-! ## Scalars -/

theorem sound_codePoint (n : Nat) : Sound (codePoint n) := by
  unfold codePoint
  split
  · exact .ok _
  · split
    · exact .error .codePoint
    · exact .error .bigCodePoint

theorem sound_quotedBreaks (fuel : Nat) (acc : List Char) (c : Cursor) :
    Sound (quotedBreaks fuel acc c) := by
  induction fuel generalizing acc c with
  | zero => exact .ok _
  | succ fuel ih =>
    unfold quotedBreaks
    split
    · exact sound_fail
    · dsimp only
      split
      · exact ih _ _
      · exact .ok _

theorem sound_scanEscape (c : Cursor) : Sound (scanEscape c) := by
  unfold scanEscape
  dsimp only
  split
  · exact .ok _
  · split
    · split
      · exact sound_fail
      · exact .bind (sound_codePoint _) fun _ => .pure
    · split
      · exact .bind (sound_quotedBreaks _ _ _) fun _ => .pure
      · exact sound_fail

theorem sound_quotedRun (double : Bool) (fuel : Nat) (acc : CodePoints) (c : Cursor) :
    Sound (quotedRun double fuel acc c) := by
  induction fuel generalizing acc c with
  | zero => exact .ok _
  | succ fuel ih =>
    unfold quotedRun
    dsimp only
    split
    · exact ih _ _
    · split
      · exact ih _ _
      · split
        · split
          · next h => exact .rethrow (sound_scanEscape _) h
          · exact ih _ _
        · exact .ok _

theorem sound_quotedGap (c : Cursor) : Sound (quotedGap c) := by
  unfold quotedGap
  dsimp only
  split
  · exact .bind (sound_quotedBreaks _ _ _) fun _ => .pure
  · split
    · exact sound_fail
    · exact .ok _

theorem sound_quotedFrom (double : Bool) (fuel : Nat) (acc : CodePoints) (c : Cursor) :
    Sound (quotedFrom double fuel acc c) := by
  induction fuel generalizing acc c with
  | zero => exact .ok _
  | succ fuel ih =>
    unfold quotedFrom
    split
    · next h => exact .rethrow (sound_quotedRun _ _ _ _) h
    · refine .ite (.ok _) ?_
      split
      · next h => exact .rethrow (sound_quotedGap _) h
      · exact ih _ _

theorem sound_scanQuoted (double : Bool) (c : Cursor) : Sound (scanQuoted double c) :=
  sound_quotedFrom double _ _ _

theorem sound_scanIncrement (c : Cursor) : Sound (scanIncrement c) := by
  unfold scanIncrement
  split
  · split
    · exact sound_fail
    · exact .ok _
  · exact .ok _

theorem sound_scanIndicators (c : Cursor) : Sound (scanIndicators c) := by
  unfold scanIndicators
  refine .bind ?_ fun (chomping, increment, c) => ?_
  · split
    · exact .bind (sound_scanIncrement _) fun _ => .pure
    · refine .bind (sound_scanIncrement _) fun (increment, c) => ?_
      dsimp only
      split
      · exact .pure
      · exact .pure
  · dsimp only
    split
    · exact .pure
    · exact sound_fail

theorem sound_skipLineEnd (c : Cursor) : Sound (skipLineEnd c) := by
  unfold skipLineEnd
  dsimp only
  split
  · exact .ok _
  · exact sound_fail

theorem sound_scanBlock (folded : Bool) (parent : Int) (c : Cursor) :
    Sound (scanBlock folded parent c) := by
  unfold scanBlock
  exact .bind (sound_scanIndicators _) fun _ => .bind (sound_skipLineEnd _) fun _ => .pure

/-! ## Names, tags and directives -/

theorem sound_scanName (c : Cursor) : Sound (scanName c) := by
  unfold scanName
  dsimp only
  split
  · exact sound_fail
  · split
    · exact .ok _
    · exact sound_fail

theorem sound_scanHandle (c : Cursor) : Sound (scanHandle c) := by
  unfold scanHandle
  dsimp only
  split
  · exact sound_fail
  · split
    · exact .ok _
    · split
      · exact .ok _
      · exact sound_fail

theorem sound_uriBytes (fuel : Nat) (acc : List UInt8) (c : Cursor) : Sound (uriBytes fuel acc c) := by
  induction fuel generalizing acc c with
  | zero => exact .ok _
  | succ fuel ih =>
    unfold uriBytes
    split
    · dsimp only
      split
      · exact sound_fail
      · exact ih _ _
    · exact .ok _

theorem sound_uriFrom (fuel : Nat) (acc : List Char) (c : Cursor) : Sound (uriFrom fuel acc c) := by
  induction fuel generalizing acc c with
  | zero => exact .ok _
  | succ fuel ih =>
    unfold uriFrom
    dsimp only
    split
    · split
      · next h => exact .rethrow (sound_uriBytes _ _ _) h
      · split
        · exact sound_fail
        · exact ih _ _
    · exact .ok _

theorem sound_scanUri (c : Cursor) : Sound (scanUri c) := by
  unfold scanUri
  split
  · next h => exact .rethrow (sound_uriFrom _ _ _) h
  · split
    · exact sound_fail
    · exact .ok _

theorem sound_scanTag (c : Cursor) : Sound (scanTag c) := by
  unfold scanTag
  refine .bind ?_ fun (kind, c) => ?_
  · split
    · refine .bind (sound_scanUri _) fun (uri, c) => ?_
      dsimp only
      split
      · exact .pure
      · exact sound_fail
    · split
      · exact .pure
      · refine .bind ?_ fun _ => .bind (sound_scanUri _) fun _ => .pure
        split
        · exact sound_scanHandle _
        · exact .ok _
  · dsimp only
    split
    · exact .pure
    · exact sound_fail

theorem sound_scanVersionNumber (c : Cursor) : Sound (scanVersionNumber c) := by
  unfold scanVersionNumber
  dsimp only
  split
  · exact sound_fail
  · split
    · next long => exact .error (.digits long)
    · exact .ok _

theorem sound_scanVersion (c : Cursor) : Sound (scanVersion c) := by
  unfold scanVersion
  refine .bind (sound_scanVersionNumber _) fun (major, c) => ?_
  dsimp only
  split
  · exact sound_fail
  · refine .bind (sound_scanVersionNumber _) fun (_, c) => ?_
    dsimp only
    split
    · exact .pure
    · exact sound_fail

theorem sound_scanHandleDirective (c : Cursor) : Sound (scanHandleDirective c) := by
  unfold scanHandleDirective
  refine .bind (sound_scanHandle _) fun (handle, c) => ?_
  dsimp only
  split
  · exact sound_fail
  · refine .bind (sound_scanUri _) fun (start, c) => ?_
    dsimp only
    split
    · exact .pure
    · exact sound_fail

theorem sound_scanDirective (c : Cursor) : Sound (scanDirective c) := by
  unfold scanDirective
  dsimp only
  split
  · exact sound_fail
  · refine .bind ?_ fun _ => .bind (sound_skipLineEnd _) fun _ => .pure
    split
    · exact sound_scanVersion _
    · split
      · exact sound_scanHandleDirective _
      · exact .pure

/-! ## The tokens of a text -/

namespace Lexer

theorem sound_dropStale (s : Lexer) : Sound s.dropStale := by
  unfold dropStale
  dsimp only
  split
  · exact sound_fail
  · exact .ok _

theorem sound_dropPending (s : Lexer) : Sound s.dropPending := by
  unfold dropPending
  split
  · exact .ok _
  · split
    · exact sound_fail
    · exact .ok _

theorem sound_markKey (s : Lexer) : Sound s.markKey := by
  unfold markKey
  split
  · exact .bind (sound_dropPending s) fun _ => .pure
  · exact .ok _

theorem sound_fetchEnd (s : Lexer) : Sound s.fetchEnd :=
  .bind (sound_dropPending _) fun _ => .pure

theorem sound_fetchMarker (s : Lexer) (kind : TokenKind) : Sound (s.fetchMarker kind) :=
  .bind (sound_dropPending _) fun _ => .pure

theorem sound_fetchFlowStart (s : Lexer) (kind : TokenKind) : Sound (s.fetchFlowStart kind) :=
  .bind (sound_markKey s) fun _ => .pure

theorem sound_fetchFlowEnd (s : Lexer) (kind : TokenKind) : Sound (s.fetchFlowEnd kind) :=
  .bind (sound_dropPending s) fun _ => .pure

theorem sound_fetchFlowEntry (s : Lexer) : Sound s.fetchFlowEntry :=
  .bind (sound_dropPending s) fun _ => .pure

theorem sound_fetchPlain (s : Lexer) : Sound s.fetchPlain :=
  .bind (sound_markKey s) fun _ => .pure

theorem sound_fetchDirective (s : Lexer) : Sound s.fetchDirective :=
  .bind (sound_dropPending _) fun _ => .bind (sound_scanDirective _) fun _ => .pure

theorem sound_fetchBlockEntry (s : Lexer) : Sound s.fetchBlockEntry := by
  unfold fetchBlockEntry
  split
  · exact sound_fail
  · exact .bind (sound_dropPending _) fun _ => .pure

theorem sound_fetchKey (s : Lexer) : Sound s.fetchKey := by
  unfold fetchKey
  split
  · exact sound_fail
  · exact .bind (sound_dropPending _) fun _ => .pure

theorem sound_fetchValue (s : Lexer) : Sound s.fetchValue := by
  unfold fetchValue
  split
  · exact .ok _
  · split
    · exact sound_fail
    · exact .bind (sound_dropPending _) fun _ => .pure

theorem sound_fetchWith (s : Lexer) {scan : Cursor → Except Fault (TokenKind × Cursor)}
    (h : ∀ c, Sound (scan c)) : Sound (s.fetchWith scan) :=
  .bind (sound_markKey s) fun _ => .bind (h _) fun _ => .pure

theorem sound_fetchBlock (s : Lexer) (folded : Bool) : Sound (s.fetchBlock folded) :=
  .bind (sound_dropPending s) fun _ => .bind (sound_scanBlock _ _ _) fun _ => .pure

/-- Whatever the next character is, what it begins ends with a known fault at most. -/
theorem sound_fetchHere (s : Lexer) : Sound s.fetchHere := by
  unfold fetchHere
  dsimp only
  refine .ite (sound_fetchEnd s) ?_
  refine .ite (sound_fetchDirective s) ?_
  refine .ite (sound_fetchMarker s _) (.ite (sound_fetchMarker s _) ?_)
  refine .ite (sound_fetchFlowStart s _) (.ite (sound_fetchFlowStart s _) ?_)
  refine .ite (sound_fetchFlowEnd s _) (.ite (sound_fetchFlowEnd s _) ?_)
  refine .ite (sound_fetchFlowEntry s) ?_
  refine .ite (sound_fetchBlockEntry s) (.ite (sound_fetchKey s) (.ite (sound_fetchValue s) ?_))
  -- references and anchors
  refine .ite (sound_fetchWith s fun c => .bind (sound_scanName c) fun _ => .pure) ?_
  refine .ite (sound_fetchWith s fun c => .bind (sound_scanName c) fun _ => .pure) ?_
  refine .ite (sound_fetchWith s sound_scanTag) ?_
  refine .ite (sound_fetchBlock s false) (.ite (sound_fetchBlock s true) ?_)
  refine .ite (sound_fetchWith s fun c => .bind (sound_scanQuoted _ c) fun _ => .pure) ?_
  exact .ite (sound_fetchPlain s) sound_fail

theorem sound_fetch (fuel : Nat) (s : Lexer) : Sound (s.fetch fuel) := by
  unfold fetch
  refine .bind (sound_dropStale _) fun _ => .bind (sound_fetchHere _) fun _ => ?_
  split
  · exact .pure
  · exact sound_dropStale _

theorem known_of_run (fuel : Nat) (s : Lexer) : ∀ fault ∈ (run fuel s).2, fault.Known := by
  induction fuel generalizing s with
  | zero => exact nofun
  | succ fuel ih =>
    unfold run
    split
    · exact nofun
    · split
      · next fault h =>
        rintro _ ⟨⟩
        exact sound_fetch _ _ fault h
      · exact ih _

end Lexer

/-- The fault that stands behind the tokens is known. -/
theorem known_of_tokensOf (text : List Char) : ∀ fault ∈ (tokensOf text).2, fault.Known := by
  unfold tokensOf
  exact Lexer.known_of_run _ _

end Walkthrough.Yaml
