import Walkthrough.Proofs.Yaml.Tokens

/-! The nodes of a document and its values end with known faults at most, and so does reading a YAML text
(`sound_read`). Steps that build and that visit carry a state; of that state nothing matters but that
the fault that waits behind the tokens is known. -/

namespace Walkthrough.Yaml

/-- From a state in which `I` holds the step ends with a known fault at most, and `I` holds after it. -/
def Guards {σ α : Type} (I : σ → Prop) (m : StateT σ (Except Fault) α) : Prop :=
  ∀ s, I s → Sound (m.run s) ∧ ∀ a s', m.run s = .ok (a, s') → I s'

namespace Guards

variable {σ α β : Type} {I : σ → Prop}

theorem pure {a : α} : Guards I (Pure.pure a) := by
  intro s hs
  refine ⟨.pure, ?_⟩
  rintro _ _ ⟨⟩
  exact hs

theorem bind {m : StateT σ (Except Fault) α} {next : α → StateT σ (Except Fault) β}
    (h : Guards I m) (h' : ∀ a, Guards I (next a)) : Guards I (m >>= next) := by
  intro s hs
  rw [StateT.run_bind]
  obtain ⟨sound, kept⟩ := h s hs
  cases hm : m.run s with
  | error fault => exact ⟨.rethrow sound hm, nofun⟩
  | ok r => exact h' r.1 r.2 (kept r.1 r.2 hm)

/-- What follows knows of the state that it is given that `I` holds. -/
theorem bind_get {next : σ → StateT σ (Except Fault) β} (h : ∀ s, I s → Guards I (next s)) :
    Guards I (get >>= next) := fun s hs => h s hs s hs

theorem set {s : σ} (h : I s) : Guards I (MonadStateOf.set s : StateT σ (Except Fault) PUnit) := by
  intro _ _
  refine ⟨.pure, ?_⟩
  rintro _ _ ⟨⟩
  exact h

theorem modifyGet {f : σ → α × σ} (h : ∀ s, I s → I (f s).2) :
    Guards I (MonadStateOf.modifyGet f : StateT σ (Except Fault) α) := by
  intro s hs
  refine ⟨.pure, fun a s' eq => ?_⟩
  have eq : f s = (a, s') := Except.ok.inj eq
  have kept := h s hs
  rw [eq] at kept
  exact kept

theorem modify {f : σ → σ} (h : ∀ s, I s → I (f s)) :
    Guards I (modify f : StateT σ (Except Fault) PUnit) := modifyGet h

theorem throw {fault : Fault} (h : fault.Known) :
    Guards I (MonadExcept.throw fault : StateT σ (Except Fault) α) := by
  intro s hs
  refine ⟨?_, nofun⟩
  rintro _ ⟨⟩
  exact h

theorem lift {x : Except Fault α} (h : Sound x) : Guards I (liftM x : StateT σ (Except Fault) α) := by
  intro s hs
  cases x with
  | ok a =>
    refine ⟨.pure, ?_⟩
    rintro _ _ ⟨⟩
    exact hs
  | error fault =>
    refine ⟨?_, nofun⟩
    rintro _ ⟨⟩
    exact h _ rfl

theorem ite {p : Prop} [Decidable p] {m m' : StateT σ (Except Fault) α} (h : Guards I m)
    (h' : Guards I m') : Guards I (if p then m else m') := by
  split
  · exact h
  · exact h'

theorem forM {f : α → StateT σ (Except Fault) PUnit} (h : ∀ a, Guards I (f a)) (as : List α) :
    Guards I (as.forM f) := by
  induction as with
  | nil => exact pure
  | cons a as ih => exact (h a).bind fun _ => ih

theorem forIn {f : α → StateT σ (Except Fault) (ForInStep PUnit)} (h : ∀ a, Guards I (f a))
    (as : List α) : Guards I (forIn as PUnit.unit fun a _ => f a) := by
  induction as with
  | nil => exact pure
  | cons a as ih =>
    rw [List.forIn_cons]
    refine (h a).bind fun step => ?_
    split
    · exact pure
    · exact ih

end Guards

/-! ## Nodes -/

namespace Build

/-- The fault behind the tokens is known. -/
def Waits (b : Builder) : Prop := ∀ fault ∈ b.ending, fault.Known

variable {α : Type}

theorem guards_peek : Guards Waits peek := by
  unfold peek
  refine .bind_get fun b hb => ?_
  split
  · exact .pure
  · next fault _ h => exact .throw (hb fault h)
  · exact .pure

theorem guards_skip : Guards Waits skip := .modify fun _ h => h

theorem guards_fail {cause : Problem} {line : Nat} : Guards Waits (fail cause line : Build α) :=
  .throw trivial

theorem guards_unexpected {cause : String → Problem} : Guards Waits (unexpected cause : Build α) :=
  .bind guards_peek fun _ => guards_fail

theorem guards_peekKind : Guards Waits peekKind := .bind guards_peek fun _ => .pure

theorem guards_add {n : Node} : Guards Waits (add n) := .modifyGet fun _ h => h

theorem guards_setContent {id : Nat} {content : Content} : Guards Waits (setContent id content) :=
  .modify fun _ h => h

theorem guards_emptyScalar {line : Nat} : Guards Waits (emptyScalar line) := guards_add

theorem guards_inside [StackRoom] {content : Build α} (h : Guards Waits content) :
    Guards Waits (inside content) := by
  unfold inside
  refine .bind_get fun b hb => ?_
  extract_lets rest
  have guarded (u : Unit) : Guards Waits (rest u) :=
    .bind (.set hb) fun _ => .bind h fun _ => .bind (.modify fun _ h => h) fun _ => .pure
  exact .ite (.bind (.throw .depth) guarded) (guarded ())

theorem guards_fullTag {handle : Option String} {suffix : String} {line : Nat} :
    Guards Waits (fullTag handle suffix line) := by
  unfold fullTag
  split
  · exact .pure
  · refine .bind_get fun b _ => ?_
    split
    · exact .pure
    · exact guards_fail

theorem guards_properties : Guards Waits properties := by
  unfold properties
  refine .bind guards_peek fun first => ?_
  split
  · refine .bind guards_skip fun _ => .bind guards_peek fun second => ?_
    split
    · exact .bind guards_skip fun _ => .bind guards_fullTag fun _ => .pure
    · exact .pure
  · refine .bind guards_skip fun _ => .bind guards_peek fun second => ?_
    split
    · exact .bind guards_skip fun _ => .bind guards_fullTag fun _ => .pure
    · exact .bind guards_fullTag fun _ => .pure
  · exact .pure

theorem guards_resolve {name : String} {line : Nat} : Guards Waits (resolve name line) := by
  unfold resolve
  refine .bind_get fun b _ => ?_
  split
  · exact .pure
  · exact guards_fail

theorem guards_addNode {p : Properties} {tag : String} {content : Content} :
    Guards Waits (addNode p tag content) := by
  unfold addNode
  extract_lets rest
  have guarded (u : Unit) : Guards Waits (rest u) := by
    refine .bind guards_add fun id => ?_
    extract_lets last
    split
    · exact .bind (.modify fun _ h => h) fun _ => .pure
    · exact .pure
  split
  · exact .bind_get fun _ _ => .ite (.bind guards_fail guarded) (guarded ())
  · exact guarded ()

/-- What is guarded while nodes are read with so much fuel. -/
structure Guarded [StackRoom] (fuel : Nat) : Prop where
  node (block indentless : Bool) : Guards Waits (node block indentless fuel)
  blockItems (id : Nat) (items : List Nat) : Guards Waits (blockItems id items fuel)
  indentlessItems (id : Nat) (items : List Nat) : Guards Waits (indentlessItems id items fuel)
  blockPairs (id : Nat) (entries : List (Nat × Nat)) : Guards Waits (blockPairs id entries fuel)
  blockValue : Guards Waits (blockValue fuel)
  flowItems (id : Nat) (items : List Nat) (first : Bool) : Guards Waits (flowItems id items first fuel)
  flowPairs (id : Nat) (entries : List (Nat × Nat)) (first : Bool) :
    Guards Waits (flowPairs id entries first fuel)
  flowValue (closing : TokenKind) : Guards Waits (flowValue closing fuel)

variable {fuel : Nat} {block indentless first : Bool} {id line : Nat} {items : List Nat}
  {entries : List (Nat × Nat)} {closing : TokenKind}

namespace Guarded

variable [StackRoom]

theorem node_succ (h : Guarded fuel) : Guards Waits (Build.node block indentless (fuel + 1)) := by
  unfold Build.node
  refine .bind guards_peek fun first => ?_
  split
  · exact .bind guards_skip fun _ => guards_resolve
  · refine .bind guards_properties fun p => .bind guards_peek fun token => ?_
    split
    · exact .bind guards_addNode fun id => guards_inside (h.indentlessItems id [])
    · exact .bind guards_skip fun _ => guards_addNode
    · exact .bind guards_addNode fun id => .bind guards_skip fun _ => guards_inside (h.flowItems id [] true)
    · exact .bind guards_addNode fun id => .bind guards_skip fun _ => guards_inside (h.flowPairs id [] true)
    · exact .bind guards_addNode fun id => .bind guards_skip fun _ => guards_inside (h.blockItems id [])
    · exact .bind guards_addNode fun id => .bind guards_skip fun _ => guards_inside (h.blockPairs id [])
    · exact .ite guards_addNode guards_fail

theorem blockItems_succ (h : Guarded fuel) : Guards Waits (Build.blockItems id items (fuel + 1)) := by
  unfold Build.blockItems
  refine .bind guards_peek fun token => ?_
  split
  · exact .bind guards_skip fun _ => .bind guards_peekKind fun _ =>
      .bind (.ite guards_emptyScalar (h.node true false)) fun item => h.blockItems id (item :: items)
  · exact .bind guards_skip fun _ => .bind guards_setContent fun _ => .pure
  · exact guards_unexpected

theorem indentlessItems_succ (h : Guarded fuel) :
    Guards Waits (Build.indentlessItems id items (fuel + 1)) := by
  unfold Build.indentlessItems
  refine .bind guards_peek fun token => ?_
  split
  · exact .bind guards_skip fun _ => .bind guards_peekKind fun _ =>
      .bind (.ite guards_emptyScalar (h.node true false)) fun item =>
        h.indentlessItems id (item :: items)
  · exact .bind guards_setContent fun _ => .pure

theorem blockPairs_succ (h : Guarded fuel) : Guards Waits (Build.blockPairs id entries (fuel + 1)) := by
  unfold Build.blockPairs
  refine .bind guards_peek fun token => ?_
  split
  · exact .bind guards_skip fun _ => .bind guards_peekKind fun _ =>
      .bind (.ite guards_emptyScalar (h.node true true)) fun key => .bind h.blockValue fun value =>
        h.blockPairs id ((key, value) :: entries)
  · exact .bind guards_skip fun _ => .bind guards_setContent fun _ => .pure
  · exact guards_unexpected

theorem blockValue_succ (h : Guarded fuel) : Guards Waits (Build.blockValue (fuel + 1)) := by
  unfold Build.blockValue
  refine .bind guards_peek fun token => ?_
  split
  · exact .bind guards_skip fun _ => .bind guards_peekKind fun _ =>
      .ite guards_emptyScalar (h.node true true)
  · exact guards_emptyScalar

theorem flowItems_succ (h : Guarded fuel) : Guards Waits (Build.flowItems id items first (fuel + 1)) := by
  unfold Build.flowItems
  refine .bind guards_peekKind fun kind => ?_
  extract_lets rest
  have guarded (u : Unit) : Guards Waits (rest u) := by
    refine .bind guards_peek fun token => ?_
    split
    · exact .bind guards_skip fun _ => .bind guards_setContent fun _ => .pure
    · refine .bind guards_add fun pair => .bind guards_skip fun _ => .bind guards_peekKind fun _ =>
        .bind ?_ fun key => .bind (h.flowValue _) fun value => .bind guards_setContent fun _ =>
          h.flowItems id (pair :: items) false
      split
      · exact guards_emptyScalar
      · exact guards_emptyScalar
      · exact guards_emptyScalar
      · exact h.node false false
    · exact .bind (h.node false false) fun item => h.flowItems id (item :: items) false
  split
  · exact guarded ()
  · exact .ite (guarded ()) (.bind guards_skip guarded)
  · exact .ite (guarded ()) (.bind guards_unexpected guarded)

theorem flowPairs_succ (h : Guarded fuel) :
    Guards Waits (Build.flowPairs id entries first (fuel + 1)) := by
  unfold Build.flowPairs
  refine .bind guards_peekKind fun kind => ?_
  extract_lets rest
  have guarded (u : Unit) : Guards Waits (rest u) := by
    refine .bind guards_peek fun token => ?_
    split
    · exact .bind guards_skip fun _ => .bind guards_setContent fun _ => .pure
    · refine .bind guards_skip fun _ => .bind guards_peekKind fun _ =>
        .bind ?_ fun key => .bind (h.flowValue _) fun value => h.flowPairs id ((key, value) :: entries) false
      split
      · exact guards_emptyScalar
      · exact guards_emptyScalar
      · exact guards_emptyScalar
      · exact h.node false false
    · exact .bind (h.node false false) fun key => .bind guards_peek fun _ =>
        .bind guards_emptyScalar fun value => h.flowPairs id ((key, value) :: entries) false
  split
  · exact guarded ()
  · exact .ite (guarded ()) (.bind guards_skip guarded)
  · exact .ite (guarded ()) (.bind guards_unexpected guarded)

theorem flowValue_succ (h : Guarded fuel) : Guards Waits (Build.flowValue closing (fuel + 1)) := by
  unfold Build.flowValue
  refine .bind guards_peek fun token => ?_
  split
  · exact .bind guards_skip fun _ => .bind guards_peekKind fun _ =>
      .ite guards_emptyScalar (h.node false false)
  · exact guards_emptyScalar

end Guarded

theorem guarded [StackRoom] (fuel : Nat) : Guarded fuel := by
  induction fuel with
  | zero =>
    exact ⟨fun _ _ => guards_unexpected, fun _ _ => guards_unexpected, fun _ _ => guards_unexpected,
      fun _ _ => guards_unexpected, guards_unexpected, fun _ _ _ => guards_unexpected,
      fun _ _ _ => guards_unexpected, fun _ => guards_unexpected⟩
  | succ fuel h =>
    exact ⟨fun _ _ => h.node_succ, fun _ _ => h.blockItems_succ, fun _ _ => h.indentlessItems_succ,
      fun _ _ => h.blockPairs_succ, h.blockValue_succ, fun _ _ _ => h.flowItems_succ,
      fun _ _ _ => h.flowPairs_succ, fun _ => h.flowValue_succ⟩

theorem guards_directives (version : Bool) (handles : List (String × String)) (fuel : Nat) :
    Guards Waits (directives version handles fuel) := by
  induction fuel generalizing version handles with
  | zero => exact .pure
  | succ fuel ih =>
    unfold directives
    refine .bind guards_peek fun token => ?_
    split
    · exact .bind guards_skip fun _ => .ite guards_fail (.ite guards_fail (ih _ _))
    · exact .bind guards_skip fun _ => .ite guards_fail (ih _ _)
    · exact .bind guards_skip fun _ => ih _ _
    · exact .modify fun _ h => h

theorem guards_skipDocumentEnds (fuel : Nat) : Guards Waits (skipDocumentEnds fuel) := by
  induction fuel with
  | zero => exact .pure
  | succ fuel ih =>
    unfold skipDocumentEnds
    refine .bind guards_peekKind fun kind => ?_
    split
    · exact .bind guards_skip fun _ => ih
    · exact .pure

theorem guards_documentStart : Guards Waits (documentStart fuel) := by
  unfold documentStart
  refine .bind (guards_skipDocumentEnds fuel) fun _ => .bind guards_peek fun token => ?_
  split
  · exact .pure
  · refine .bind (guards_directives _ _ _) fun _ => .bind guards_peekKind fun kind => ?_
    split
    · exact .bind guards_skip fun _ => .pure
    · exact guards_unexpected

theorem guards_documentEnd : Guards Waits (documentEnd fuel) := by
  unfold documentEnd
  refine .bind guards_peekKind fun kind => ?_
  extract_lets rest
  have guarded (u : Unit) : Guards Waits (rest u) := by
    refine .bind guards_documentStart fun start => ?_
    split
    · exact guards_fail
    · exact .pure
  split
  · exact .bind guards_skip guarded
  · exact guarded ()

theorem guards_content [StackRoom] : Guards Waits (content fuel) := by
  unfold content
  refine .bind guards_peek fun token => ?_
  split
  · exact guards_emptyScalar
  · exact guards_emptyScalar
  · exact guards_emptyScalar
  · exact guards_emptyScalar
  · exact (guarded fuel).node true false

theorem guards_document [StackRoom] : Guards Waits (document fuel) := by
  unfold document
  refine .bind guards_peekKind fun kind => ?_
  split
  case h_1 | h_2 | h_3 =>
    refine .bind guards_documentStart fun start => ?_
    split
    · exact .pure
    · exact .bind guards_content fun _ => .bind guards_documentEnd fun _ => .pure
  case h_4 =>
    exact .bind (.modify fun _ h => h) fun _ => .bind ((guarded fuel).node true false) fun _ =>
      .bind guards_documentEnd fun _ => .pure

end Build

theorem sound_nodesOf [StackRoom] {tokens : List Token} {ending : Option Fault}
    (h : ∀ fault ∈ ending, fault.Known) : Sound (nodesOf tokens ending) :=
  .bind (Build.guards_document { tokens := tokens, ending := ending } h).1 fun _ => .pure

/-! ## Values -/

namespace Visiting

variable {α : Type} {id : Nat}

/-- Nothing has to hold of a visit. -/
def Any (_ : Visit) : Prop := True

theorem guards_fail {cause : Problem} {line : Nat} : Guards Any (fail cause line : Visiting α) :=
  .throw trivial

theorem guards_modify {f : Visit → Visit} : Guards Any (modify f : Visiting PUnit) :=
  .modify fun _ _ => trivial

theorem guards_nodeAt : Guards Any (nodeAt id) := .bind_get fun _ _ => .pure

theorem guards_setEntries {entries : List (Nat × Nat)} : Guards Any (setEntries id entries) :=
  guards_modify

theorem guards_scalarText (id fuel : Nat) : Guards Any (scalarText id fuel) := by
  induction fuel generalizing id with
  | zero => exact .bind guards_nodeAt fun _ => guards_fail
  | succ fuel ih =>
    unfold scalarText
    refine .bind guards_nodeAt fun n => ?_
    split
    · exact .pure
    · refine .bind_get fun v _ => ?_
      dsimp only
      split
      · exact ih _
      · exact guards_fail
    · exact guards_fail

theorem guards_scalarValue : Guards Any (scalarValue id) := by
  unfold scalarValue
  refine .bind guards_nodeAt fun n => .bind_get fun v _ => ?_
  extract_lets text
  have guarded : Guards Any text := guards_scalarText _ _
  refine .ite (.bind guarded fun _ => .pure) ?_
  refine .ite (.bind guarded fun units => .lift (sound_truthValue units)) ?_
  refine .ite (.bind guarded fun units => .lift (sound_integerValue units)) ?_
  refine .ite (.bind guarded fun units => .lift (sound_decimalValue units)) ?_
  refine .ite (.bind guarded fun units => .lift (sound_bytesValue _ units)) ?_
  refine .ite (.bind guarded fun units => ?_) ?_
  · split
    · exact .lift (sound_stampValue units)
    · exact .throw .stampMapping
  · exact .ite (.bind guarded fun _ => .pure) guards_fail

/-- What is guarded while merge keys are replaced with so much fuel. -/
structure Guarded (fuel : Nat) : Prop where
  flatten (id : Nat) : Guards Any (flatten id fuel)
  mergeFrom (id i : Nat) (merged : List (Nat × Nat)) : Guards Any (mergeFrom id i merged fuel)
  broughtBy (id value : Nat) : Guards Any (broughtBy id value fuel)
  broughtByAll (id : Nat) (items : List Nat) (later : List (Nat × Nat)) :
    Guards Any (broughtByAll id items later fuel)

namespace Guarded

variable {fuel i value : Nat} {merged later : List (Nat × Nat)} {items : List Nat}

theorem flatten_succ (h : Guarded fuel) : Guards Any (Visiting.flatten id (fuel + 1)) := by
  unfold Visiting.flatten
  refine .bind (h.mergeFrom id 0 []) fun merged => .bind guards_nodeAt fun n => ?_
  split
  · exact .ite .pure guards_setEntries
  · exact .pure

theorem mergeFrom_succ (h : Guarded fuel) : Guards Any (Visiting.mergeFrom id i merged (fuel + 1)) := by
  unfold Visiting.mergeFrom
  refine .bind guards_nodeAt fun n => ?_
  split
  · split
    · exact .pure
    · refine .bind guards_nodeAt fun key => .ite ?_ ?_
      · exact .bind guards_setEntries fun _ => .bind (h.broughtBy _ _) fun _ => h.mergeFrom _ _ _
      · exact .ite (.bind guards_modify fun _ => h.mergeFrom _ _ _) (h.mergeFrom _ _ _)
  · exact .pure

theorem broughtBy_succ (h : Guarded fuel) : Guards Any (Visiting.broughtBy id value (fuel + 1)) := by
  unfold Visiting.broughtBy
  refine .bind guards_nodeAt fun v => ?_
  split
  · refine .bind (h.flatten value) fun _ => .bind guards_nodeAt fun n => ?_
    split
    · exact .pure
    · exact .pure
  · exact h.broughtByAll _ _ _
  · exact guards_fail

theorem broughtByAll_succ (h : Guarded fuel) :
    Guards Any (Visiting.broughtByAll id items later (fuel + 1)) := by
  unfold Visiting.broughtByAll
  split
  · exact .pure
  · refine .bind guards_nodeAt fun n => ?_
    split
    · refine .bind (h.flatten _) fun _ => .bind guards_nodeAt fun n => ?_
      split
      · exact h.broughtByAll _ _ _
      · exact .pure
    · exact guards_fail

end Guarded

theorem guarded (fuel : Nat) : Guarded fuel := by
  induction fuel with
  | zero => exact ⟨fun _ => .pure, fun _ _ _ => .pure, fun _ _ => .pure, fun _ _ _ => .pure⟩
  | succ fuel h =>
    exact ⟨fun _ => h.flatten_succ, fun _ _ _ => h.mergeFrom_succ, fun _ _ => h.broughtBy_succ,
      fun _ _ _ => h.broughtByAll_succ⟩

theorem guards_node : Guards Any (node id) := by
  unfold node
  refine .bind_get fun v _ => .ite .pure (.bind guards_nodeAt fun n => ?_)
  extract_lets rest
  have guarded (u : Unit) : Guards Any (rest u) := guards_modify
  split
  · exact .bind guards_modify guarded
  · exact .bind guards_scalarValue fun _ => .bind guards_modify guarded

theorem guards_entries (es : List (Nat × Nat)) : Guards Any (entries es) := by
  induction es with
  | nil => exact .pure
  | cons e es ih =>
    unfold entries
    refine .bind guards_nodeAt fun key => ?_
    extract_lets rest
    have guarded (u : Unit) : Guards Any (rest u) :=
      .bind guards_node fun _ => .bind guards_node fun _ => ih
    exact .ite (.bind guards_fail guarded) (guarded ())

theorem guards_pairs (items : List Nat) : Guards Any (pairs items) := by
  induction items with
  | nil => exact .pure
  | cons item items ih =>
    unfold pairs
    refine .bind guards_nodeAt fun n => ?_
    extract_lets rest
    have guarded (u : Unit) : Guards Any (rest u) := ih
    split
    · exact .bind guards_node fun _ => .bind guards_node guarded
    · exact .bind guards_fail guarded
    · exact .bind guards_fail guarded

theorem guards_items (shape : Shape) (id : Nat) : Guards Any (items shape id) := by
  unfold items
  refine .bind guards_nodeAt fun n => ?_
  split
  case h_1 => exact .forM (fun _ => guards_node) _
  -- the entries of mappings, after their merge keys are replaced
  case h_3 | h_4 =>
    refine .bind_get fun v _ => .bind ((guarded _).flatten id) fun _ => .bind guards_nodeAt fun n => ?_
    split
    · exact guards_entries _
    · exact .pure
  case h_7 => exact guards_pairs _
  all_goals exact guards_fail

theorem guards_levels (fuel : Nat) : Guards Any (levels fuel) := by
  induction fuel with
  | zero => exact .pure
  | succ fuel ih =>
    unfold levels
    refine .bind_get fun v _ => .ite .pure (.bind (.set trivial) fun _ => ?_)
    extract_lets table
    refine .bind (.forIn (fun id => ?_) _) fun _ => ih
    split
    · exact .bind (guards_items _ _) fun _ => .pure
    · exact .pure

end Visiting

theorem sound_read [StackRoom] (text : Text.CodePoints) : Sound (read text) := by
  unfold read
  extract_lets ok
  split
  · exact .error trivial
  · refine .bind (sound_nodesOf (known_of_tokensOf _)) fun (root, table) => ?_
    dsimp only
    split
    · exact .pure
    · have guarded (root : Nat) : Guards Visiting.Any (do
          Visiting.node root
          Visiting.levels (table.size + 1)) :=
        .bind Visiting.guards_node fun _ => Visiting.guards_levels _
      exact .bind (guarded _ _ trivial).1 fun _ => .pure

end Walkthrough.Yaml
