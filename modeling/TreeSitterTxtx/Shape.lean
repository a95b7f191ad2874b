import TreeSitterTxtx.Soundness

/-!
# The shape of an accepted tree

Soundness (`accepts_root`) makes every node of an accepted tree, comments erased, a node of a
clean derivation of the grammar the tables implement, apart from the root and the
end-of-input leaf. What a consumer of the tree relies on then holds node by node
(`nodeShapeOk_of_clean`):

* every field of `ts_field_map_entries` names a child of the kind the grammar puts there
  (`FieldsOk`); a function call's `name` is its identifier, every other `name` a string;
* the visible children of a block are its braces with attributes between them (`BlockOk`);
* the visible children of a reference are segments separated by `.` (`ReferenceOk`);
* a binary expression has an expression, an operator and an expression (`BinaryOk`).

The repetition helpers `block_repeat1` and `reference_repeat1` are hidden, so the visible
children of a block or a reference are read through their derivations
(`repeat_visibleChildren`).
-/

namespace TreeSitterTxtx

/-! ## Subtrees of a clean tree -/

/-- Every subtree of a clean tree is clean. -/
theorem Clean.subtree : ∀ {t : Subtree}, Clean t → ∀ s ∈ t.subtrees, Clean s
  | .leaf tok e, h, s, hs => by
    simp only [Subtree.subtrees, List.mem_singleton] at hs
    subst hs; exact h
  | .node A pid e cs, h, s, hs => by
    simp only [Subtree.subtrees, List.mem_cons, mem_subtreesList] at hs
    rcases hs with rfl | ⟨c, hc, hs⟩
    · exact h
    · exact Clean.subtree (h.children c hc) s hs

/-- A clean tree is a leaf of a token or a node whose children are not extra and spell a
production of its symbol. -/
theorem Clean.cases {t : Subtree} (h : Clean t) :
    (∃ tok, t = .leaf tok false ∧ tok.symbol.isToken = true) ∨
      ∃ A pid cs, t = .node A pid false cs ∧ nonExtra cs = cs ∧
        IsProduction true A pid (cs.map Subtree.symbol) = true ∧ ∀ c ∈ cs, Clean c := by
  obtain ⟨hd, hx⟩ := h
  cases t with
  | leaf tok e =>
    have : e = false := hx (.leaf tok e) (by simp [Subtree.subtrees])
    exact .inl ⟨tok, by rw [this], hd⟩
  | node A pid e cs =>
    have he : e = false := hx (.node A pid e cs) (by simp [Subtree.subtrees])
    subst he
    refine .inr ⟨A, pid, cs, rfl, ?_, ?_, (Clean.children ⟨hd, hx⟩)⟩
    · refine List.filter_eq_self.2 fun c hc => ?_
      have := (Clean.children ⟨hd, hx⟩ c hc).2 c (by cases c <;> simp [Subtree.subtrees])
      simp [this]
    · simp only [Derives, Bool.and_eq_true] at hd
      exact hd.1

/-! ## Fields -/

/-- The child a field entry names: the child at its index among those that are not extra
(`ts_node_child_by_field_id` counts structural children). -/
def fieldChild (t : Subtree) (f : FieldMapEntry) : Option Subtree :=
  (nonExtra t.children)[f.childIndex]?

/-- The kind of child the grammar gives a field of a node of symbol `parent`. -/
def fieldKind (parent : Symbol) : Field → Symbol → Bool
  | .network, X | .type, X | .path, X => X == .symString
  | .name, X => X == if parent == .symFunctionCall then .symIdentifier else .symString
  | .config, X => X == .symBlock
  | .key, X => X == .symString || X == .symIdentifier
  | .value, X => X == .symExpression
  | .arguments, X => X == .symExpression || X == .auxSymArrayRepeat1

/-- Every field of a node names a child of the kind the grammar gives it. -/
def FieldsOk (t : Subtree) : Bool :=
  (tsFieldMap t.productionId).all fun f =>
    match fieldChild t f with
    | some c => fieldKind t.symbol f.field c.symbol
    | none => false

/-- The check of one production: each field of its production id names a position of its
right-hand side, of the kind the grammar gives the field. -/
def productionFieldsOk (A : Symbol) (p : Nat × List Symbol) : Bool :=
  (tsFieldMap p.1).all fun f =>
    match p.2[f.childIndex]? with
    | some X => fieldKind A f.field X
    | none => false

theorem productionFieldsOk_all (A : Symbol) :
    ∀ p ∈ productionsOf true A, productionFieldsOk A p = true := by
  cases A <;> decide

/-- The fields of a clean node are those of its production. -/
theorem fieldsOk_of_clean {t : Subtree} (h : Clean t) : FieldsOk t = true := by
  rcases h.cases with ⟨tok, rfl, -⟩ | ⟨A, pid, cs, rfl, hne, hprod, -⟩
  · rfl
  · have hp := productionFieldsOk_all A _ (isProduction_iff.1 hprod)
    simp only [productionFieldsOk, List.all_eq_true] at hp
    simp only [FieldsOk, List.all_eq_true, Subtree.productionId, Subtree.symbol]
    intro f hf
    have := hp f hf
    simp only [fieldChild, Subtree.children, hne]
    cases hc : cs[f.childIndex]? with
    | none => simp [hc] at this
    | some c => simpa [hc] using this

/-! ## Visible children -/

theorem visibleList_of_visible {cs : List Subtree}
    (h : ∀ c ∈ cs, (tsSymbolMetadata c.symbol).visible = true) : visibleList cs = cs := by
  induction cs with
  | nil => rfl
  | cons c cs ih =>
    simp [visibleList, h c (List.mem_cons_self _ _),
      ih fun c' hc' => h c' (List.mem_cons_of_mem _ hc')]

/-- Children whose symbols are all visible are their own visible nodes. -/
theorem visibleList_of_symbols {cs : List Subtree} {xs : List Symbol}
    (h : cs.map Subtree.symbol = xs) (hv : ∀ X ∈ xs, (tsSymbolMetadata X).visible = true) :
    visibleList cs = cs :=
  visibleList_of_visible fun _ hc => hv _ (h ▸ List.mem_map_of_mem _ hc)

/-- **The visible children of a repetition helper**: for a hidden nonterminal `R` whose
productions are `R R` and productions whose visible children satisfy `P`, and a `P` closed
under concatenation. -/
theorem repeat_visibleChildren {R : Symbol} {P : List Symbol → Prop}
    (hR : (tsSymbolMetadata R).visible = false) (hRt : R.isToken = false)
    (happ : ∀ a b, P a → P b → P (a ++ b))
    (hbase : ∀ pid cs, (pid, cs.map Subtree.symbol) ∈ productionsOf true R →
      cs.map Subtree.symbol ≠ [R, R] → (∀ c ∈ cs, Clean c) →
      P ((visibleList cs).map Subtree.symbol)) :
    ∀ t : Subtree, t.symbol = R → Clean t → P (t.visibleChildren.map Subtree.symbol) := by
  intro t
  induction t with
  | leaf tok e =>
    intro hs h
    rcases h.cases with ⟨tok', h', htok⟩ | ⟨_, _, _, h', -⟩ <;> cases h'
    simp only [Subtree.symbol] at hs
    rw [hs, hRt] at htok
    cases htok
  | node A pid e cs ih =>
    intro hs h
    simp only [Subtree.symbol] at hs
    subst hs
    rcases h.cases with ⟨tok', h', -⟩ | ⟨_, _, _, h', -, hprod, hcs⟩ <;> cases h'
    by_cases hRR : cs.map Subtree.symbol = [A, A]
    · obtain ⟨c1, cs1, rfl, hc1, hcs1⟩ := List.map_eq_cons_iff.1 hRR
      obtain ⟨c2, cs2, rfl, hc2, hnil⟩ := List.map_eq_cons_iff.1 hcs1
      obtain rfl := List.map_eq_nil_iff.1 hnil
      have h1 := ih c1 (by simp) hc1 (hcs c1 (by simp))
      have h2 := ih c2 (by simp) hc2 (hcs c2 (by simp))
      simpa [Subtree.visibleChildren, visibleList, hc1, hc2, hR] using happ _ _ h1 h2
    · exact hbase _ _ (isProduction_iff.1 hprod) hRR hcs

/-! ## Blocks and references -/

/-- The visible children of a block: its braces with attributes between them. -/
def BlockOk (t : Subtree) : Prop :=
  t.symbol = .symBlock → ∃ attrs, t.visibleChildren.map Subtree.symbol =
    .anonSymLbrace :: attrs ++ [.anonSymRbrace] ∧ ∀ X ∈ attrs, X = .symAttribute

/-- A segment of a reference: an identifier or an index access. -/
def Symbol.isSegment (X : Symbol) : Bool := X == .symIdentifier || X == .symIndexAccess

/-- Pairs of the separator `sep` and an element satisfying `p`. -/
def SepPairs (sep : Symbol) (p : Symbol → Bool) : List Symbol → Bool
  | [] => true
  | X :: Y :: rest => X == sep && p Y && SepPairs sep p rest
  | [_] => false

theorem sepPairs_append {sep : Symbol} {p : Symbol → Bool} :
    ∀ {xs ys : List Symbol}, SepPairs sep p xs = true → SepPairs sep p ys = true →
      SepPairs sep p (xs ++ ys) = true
  | [], _, _, h => h
  | X :: Y :: rest, ys, h, h' => by
    simp only [SepPairs, Bool.and_eq_true] at h
    show (X == sep && p Y && SepPairs sep p (rest ++ ys)) = true
    rw [h.1.1, h.1.2, sepPairs_append h.2 h']; rfl

/-- The visible children of a reference: one or more segments separated by `.`. -/
def ReferenceOk (t : Subtree) : Prop :=
  t.symbol = .symReference → ∃ X rest, t.visibleChildren.map Subtree.symbol = X :: rest ∧
    X.isSegment = true ∧ SepPairs .anonSymDot Symbol.isSegment rest = true

/-- The visible children of a block are its braces and the attributes of its
`block_repeat1`. -/
theorem blockOk_of_clean {t : Subtree} (h : Clean t) : BlockOk t := by
  intro hs
  rcases h.cases with ⟨tok, rfl, htok⟩ | ⟨A, pid, cs, rfl, -, hprod, hcs⟩
  · simp only [Subtree.symbol] at hs
    rw [hs] at htok; cases htok
  simp only [Subtree.symbol] at hs
  subst hs
  have hattrs := repeat_visibleChildren (R := .auxSymBlockRepeat1)
    (P := fun xs => ∀ X ∈ xs, X = .symAttribute)
    rfl rfl (fun a b ha hb X hX => (List.mem_append.1 hX).elim (ha X) (hb X)) (by
      intro pid cs hp hne _
      simp only [productionsOf, List.mem_cons, Prod.mk.injEq, List.mem_singleton,
        List.not_mem_nil, or_false] at hp
      rcases hp with ⟨-, hcs'⟩ | ⟨-, hcs'⟩
      · rw [visibleList_of_symbols hcs' (by decide), hcs']; simp
      · exact absurd hcs' hne)
  have hmem := isProduction_iff.1 hprod
  simp only [productionsOf, List.mem_cons, Prod.mk.injEq, List.mem_singleton,
    List.not_mem_nil, or_false] at hmem
  rcases hmem with ⟨-, hcs'⟩ | ⟨-, hcs'⟩
  · refine ⟨[], ?_, by simp⟩
    rw [Subtree.visibleChildren, visibleList_of_symbols hcs' (by decide), hcs']
    rfl
  · obtain ⟨c1, cs1, rfl, hc1, hcs1⟩ := List.map_eq_cons_iff.1 hcs'
    obtain ⟨c2, cs2, rfl, hc2, hcs2⟩ := List.map_eq_cons_iff.1 hcs1
    obtain ⟨c3, cs3, rfl, hc3, hnil⟩ := List.map_eq_cons_iff.1 hcs2
    obtain rfl := List.map_eq_nil_iff.1 hnil
    refine ⟨c2.visibleChildren.map Subtree.symbol, ?_, hattrs c2 hc2 (hcs c2 (by simp))⟩
    simp [Subtree.visibleChildren, visibleList, hc1, hc2, hc3, tsSymbolMetadata]

/-- The visible children of a reference are a segment, then the pairs of `.` and a segment
of its `reference_repeat1`. -/
theorem referenceOk_of_clean {t : Subtree} (h : Clean t) : ReferenceOk t := by
  intro hs
  rcases h.cases with ⟨tok, rfl, htok⟩ | ⟨A, pid, cs, rfl, -, hprod, hcs⟩
  · simp only [Subtree.symbol] at hs
    rw [hs] at htok; cases htok
  simp only [Subtree.symbol] at hs
  subst hs
  have hrep := repeat_visibleChildren (R := .auxSymReferenceRepeat1)
    (P := fun xs => SepPairs .anonSymDot Symbol.isSegment xs = true) rfl rfl
    (fun _ _ => sepPairs_append) (by
      intro pid cs hp hne _
      simp only [productionsOf, List.mem_cons, Prod.mk.injEq, List.mem_singleton,
        List.not_mem_nil, or_false] at hp
      rcases hp with ⟨-, hcs'⟩ | ⟨-, hcs'⟩ | ⟨-, hcs'⟩
      · rw [visibleList_of_symbols hcs' (by decide), hcs']; rfl
      · rw [visibleList_of_symbols hcs' (by decide), hcs']; rfl
      · exact absurd hcs' hne)
  -- a segment alone, or followed by the repetition
  have single : ∀ X, X.isSegment = true → (tsSymbolMetadata X).visible = true →
      cs.map Subtree.symbol = [X] → ∃ Y rest,
        (Subtree.node .symReference pid false cs).visibleChildren.map Subtree.symbol = Y :: rest ∧
        Y.isSegment = true ∧ SepPairs .anonSymDot Symbol.isSegment rest = true := by
    intro X hX hv hcs'
    refine ⟨X, [], ?_, hX, rfl⟩
    rw [Subtree.visibleChildren, visibleList_of_symbols hcs' (by simpa using hv), hcs']
  have pair : ∀ X, X.isSegment = true → (tsSymbolMetadata X).visible = true →
      cs.map Subtree.symbol = [X, .auxSymReferenceRepeat1] → ∃ Y rest,
        (Subtree.node .symReference pid false cs).visibleChildren.map Subtree.symbol = Y :: rest ∧
        Y.isSegment = true ∧ SepPairs .anonSymDot Symbol.isSegment rest = true := by
    intro X hX hv hcs'
    obtain ⟨c1, cs1, rfl, hc1, hcs1⟩ := List.map_eq_cons_iff.1 hcs'
    obtain ⟨c2, cs2, rfl, hc2, hnil⟩ := List.map_eq_cons_iff.1 hcs1
    obtain rfl := List.map_eq_nil_iff.1 hnil
    refine ⟨X, c2.visibleChildren.map Subtree.symbol, ?_, hX, hrep c2 hc2 (hcs c2 (by simp))⟩
    have hvR : (tsSymbolMetadata .auxSymReferenceRepeat1).visible = false := rfl
    simp [Subtree.visibleChildren, visibleList, hc1, hc2, hv, hvR]
  have hmem := isProduction_iff.1 hprod
  simp only [productionsOf, List.mem_cons, Prod.mk.injEq, List.mem_singleton,
    List.not_mem_nil, or_false] at hmem
  rcases hmem with ⟨-, hcs'⟩ | ⟨-, hcs'⟩ | ⟨-, hcs'⟩ | ⟨-, hcs'⟩
  · exact single .symIdentifier rfl rfl hcs'
  · exact pair .symIdentifier rfl rfl hcs'
  · exact single .symIndexAccess rfl rfl hcs'
  · exact pair .symIndexAccess rfl rfl hcs'

/-! ## Binary expressions -/

/-- A binary expression: an expression, an operator and an expression. -/
def BinaryOk (t : Subtree) : Prop :=
  t.symbol = .symBinaryExpression → ∃ op, t.children.map Subtree.symbol =
    [.symExpression, op, .symExpression] ∧
    op ∈ [.anonSymStar, .anonSymSlash, .anonSymPlus, .anonSymDash]

theorem binaryOk_of_clean {t : Subtree} (h : Clean t) : BinaryOk t := by
  intro hs
  rcases h.cases with ⟨tok, rfl, htok⟩ | ⟨A, pid, cs, rfl, -, hprod, -⟩
  · simp only [Subtree.symbol] at hs
    rw [hs] at htok; cases htok
  simp only [Subtree.symbol] at hs
  subst hs
  have hmem := isProduction_iff.1 hprod
  simp only [productionsOf, List.mem_cons, Prod.mk.injEq, List.mem_singleton,
    List.not_mem_nil, or_false] at hmem
  rcases hmem with ⟨-, hcs'⟩ | ⟨-, hcs'⟩ | ⟨-, hcs'⟩ | ⟨-, hcs'⟩ <;>
    exact ⟨_, hcs', by simp⟩

/-! ## Accepted trees -/

/-- What a consumer of the tree relies on at one node. -/
structure NodeShapeOk (t : Subtree) : Prop where
  fields : FieldsOk t = true
  block : BlockOk t
  reference : ReferenceOk t
  binary : BinaryOk t

theorem nodeShapeOk_of_clean {t : Subtree} (h : Clean t) : NodeShapeOk t :=
  ⟨fieldsOk_of_clean h, blockOk_of_clean h, referenceOk_of_clean h, binaryOk_of_clean h⟩

/-- A node whose symbol is none of those the shape speaks of, and whose production id has
no fields, has the shape. -/
theorem nodeShapeOk_of_symbol {t : Subtree} (hf : tsFieldMap t.productionId = [])
    (hs : t.symbol ≠ .symBlock ∧ t.symbol ≠ .symReference ∧ t.symbol ≠ .symBinaryExpression) :
    NodeShapeOk t :=
  ⟨by simp [FieldsOk, hf], fun h => absurd h hs.1, fun h => absurd h hs.2.1,
    fun h => absurd h hs.2.2⟩

/-- Every node of an accepted tree, comments erased, is the root or the end-of-input leaf,
both of production id `0`, or a clean tree. -/
theorem accepts_subtrees {input : List Char} {t : Subtree} (h : Accepts input t) :
    ∀ s ∈ t.eraseComments.subtrees,
      (s.productionId = 0 ∧ (s.symbol = .symRunbook ∨ s.symbol = .tsBuiltinSymEnd)) ∨ Clean s := by
  obtain ⟨pid, cs, tok, heq, hend, hprod, hcs⟩ := accepts_root h
  have hpid : pid = 0 := by
    have := isProduction_iff.1 hprod
    simp only [productionsOf, List.mem_cons, Prod.mk.injEq, List.mem_singleton,
      List.not_mem_nil, or_false] at this
    rcases this with ⟨h0, -⟩ | ⟨h0, -⟩ <;> exact h0
  subst hpid
  rw [heq]
  intro s hs
  simp only [Subtree.subtrees, List.mem_cons, mem_subtreesList, List.mem_append,
    List.mem_singleton, List.not_mem_nil, or_false] at hs
  rcases hs with rfl | ⟨c, hc | rfl, hs⟩
  · exact .inl ⟨rfl, .inl rfl⟩
  · exact .inr ((hcs c hc).subtree s hs)
  · simp only [Subtree.subtrees, List.mem_singleton] at hs
    subst hs
    exact .inl ⟨rfl, .inr hend⟩

/-- **The shape of an accepted tree.** With its comments erased, the tree the driver accepts
is a document tree of the grammar the tables implement, and every node has the shape a
consumer relies on: typed fields, blocks of attributes, dotted references and binary
expressions of three children. -/
theorem accepts_shape {input : List Char} {t : Subtree} (h : Accepts input t) :
    IsDocumentTree true t.eraseComments = true ∧ ∀ s ∈ t.eraseComments.subtrees, NodeShapeOk s := by
  refine ⟨accepts_isDocumentTree h, fun s hs => ?_⟩
  rcases accepts_subtrees h s hs with ⟨hpid, hsym⟩ | hc
  · refine nodeShapeOk_of_symbol (by rw [hpid]; rfl) ?_
    rcases hsym with hsym | hsym <;> simp [hsym]
  · exact nodeShapeOk_of_clean hc

/-- The call `f(a, b)` of `input "k" = f(a, b)`: its arguments sit in the hidden helper
`array_repeat1` after the first. -/
def callNode : Subtree :=
  .node .symFunctionCall 9 false [
    .leaf ⟨.symIdentifier, 12, 13⟩ false,
    .leaf ⟨.anonSymLparen, 13, 14⟩ false,
    .node .symExpression 0 false [
      .node .symReference 0 false [.leaf ⟨.symIdentifier, 14, 15⟩ false]],
    .node .auxSymArrayRepeat1 0 false [
      .leaf ⟨.anonSymComma, 15, 16⟩ false,
      .node .symExpression 0 false [
        .node .symReference 0 false [.leaf ⟨.symIdentifier, 17, 18⟩ false]]],
    .leaf ⟨.anonSymRparen, 18, 19⟩ false]

/-- The tree the driver accepts on `input "k" = f(a, b)`. -/
def callDocument : Subtree :=
  .node .symRunbook 0 false [
    .node .auxSymRunbookRepeat1 0 false [
      .node .symStatement 0 false [
        .node .symInputDeclaration 5 false [
          .leaf ⟨.anonSymInput, 0, 5⟩ false,
          .node .symString 0 false [
            .leaf ⟨.anonSymDquote, 6, 7⟩ false,
            .leaf ⟨.auxSymStringToken1, 7, 8⟩ false,
            .leaf ⟨.anonSymDquote, 8, 9⟩ false],
          .leaf ⟨.anonSymEq, 10, 11⟩ false,
          .node .symExpression 0 false [callNode]]]],
    .leaf ⟨.tsBuiltinSymEnd, 19, 19⟩ true]

theorem callDocument_accepted : Accepts "input \"k\" = f(a, b)".toList callDocument :=
  ⟨36, rfl⟩

theorem callDocument_shape :
    Accepts "input \"k\" = f(a, b)".toList callDocument ∧
      IsDocumentTree true callDocument.eraseComments = true ∧
      ∀ s ∈ callDocument.eraseComments.subtrees, NodeShapeOk s :=
  ⟨callDocument_accepted, accepts_shape callDocument_accepted⟩

/-- The input `input "k" = f([,])` is accepted. Its array is a lone comma, which the grammar
without `loneComma` does not derive, and the `name` field of its function call is an
identifier, not a string. -/
theorem loneComma_accepted :
    ∃ t, Accepts "input \"k\" = f([,])".toList t ∧ IsDocumentTree false t.eraseComments = false ∧
      ∃ s ∈ t.eraseComments.subtrees, s.symbol = .symFunctionCall ∧
        ∃ f ∈ tsFieldMap s.productionId, f.field = .name ∧
          (fieldChild s f).map Subtree.symbol = some .symIdentifier :=
  ⟨(.node .symRunbook 0 false [
      .node .auxSymRunbookRepeat1 0 false [
        .node .symStatement 0 false [
          .node .symInputDeclaration 5 false [
            .leaf ⟨.anonSymInput, 0, 5⟩ false,
            .node .symString 0 false [
              .leaf ⟨.anonSymDquote, 6, 7⟩ false,
              .leaf ⟨.auxSymStringToken1, 7, 8⟩ false,
              .leaf ⟨.anonSymDquote, 8, 9⟩ false],
            .leaf ⟨.anonSymEq, 10, 11⟩ false,
            .node .symExpression 0 false [
              .node .symFunctionCall 8 false [
                .leaf ⟨.symIdentifier, 12, 13⟩ false,
                .leaf ⟨.anonSymLparen, 13, 14⟩ false,
                .node .symExpression 0 false [
                  .node .symArray 0 false [
                    .leaf ⟨.anonSymLbrack, 14, 15⟩ false,
                    .leaf ⟨.anonSymComma, 15, 16⟩ false,
                    .leaf ⟨.anonSymRbrack, 16, 17⟩ false]],
                .leaf ⟨.anonSymRparen, 17, 18⟩ false]]]]],
      .leaf ⟨.tsBuiltinSymEnd, 18, 18⟩ true]),
    ⟨33, rfl⟩, by decide, by decide⟩

/-- The visible nodes a subtree stands for: itself if it is visible, else the visible nodes
below it, through hidden nodes only. -/
def Subtree.visibleNodes (t : Subtree) : List Subtree :=
  if (tsSymbolMetadata t.symbol).visible then [t] else t.visibleChildren

/-- The nodes that carry field `f` of a node, by tree-sitter's rule: an entry of the node's
field map names a structural child, and its field applies to the visible nodes that child
stands for. -/
def fieldNodes (t : Subtree) (f : Field) : List Subtree :=
  (tsFieldMap t.productionId).flatMap fun e =>
    if e.field = f then ((fieldChild t e).map Subtree.visibleNodes).getD [] else []

/-- The kinds of an expression: the right-hand sides of `_expression`. -/
def Symbol.isExpressionKind (X : Symbol) : Bool :=
  (productionsOf true .symExpression).any fun p => p.2 == [X]

/-- An expression node stands for one visible node, of an expression kind. -/
theorem expression_visibleNodes {e : Subtree} (h : Clean e) (hs : e.symbol = .symExpression) :
    ∃ x, e.visibleNodes = [x] ∧ x.symbol.isExpressionKind = true := by
  rcases h.cases with ⟨tok, rfl, htok⟩ | ⟨A, pid, cs, rfl, -, hprod, -⟩
  · simp only [Subtree.symbol] at hs
    rw [hs] at htok; cases htok
  simp only [Subtree.symbol] at hs
  subst hs
  have hmem := isProduction_iff.1 hprod
  obtain ⟨x, rfl, hx⟩ : ∃ x, cs = [x] ∧ x.symbol.isExpressionKind = true := by
    simp only [productionsOf, List.mem_cons, Prod.mk.injEq, List.mem_singleton,
      List.not_mem_nil, or_false] at hmem
    rcases hmem with ⟨-, hcs⟩ | ⟨-, hcs⟩ | ⟨-, hcs⟩ | ⟨-, hcs⟩ | ⟨-, hcs⟩ | ⟨-, hcs⟩ | ⟨-, hcs⟩ |
        ⟨-, hcs⟩ | ⟨-, hcs⟩ <;>
      obtain ⟨x, cs', rfl, hx, hnil⟩ := List.map_eq_cons_iff.1 hcs <;>
      obtain rfl := List.map_eq_nil_iff.1 hnil <;>
      exact ⟨x, rfl, by rw [hx]; rfl⟩
  have hv : (tsSymbolMetadata x.symbol).visible = true := by
    revert hx; generalize x.symbol = X; cases X <;> decide
  have hE : (Subtree.node .symExpression pid false [x]).visibleNodes = visibleList [x] := rfl
  refine ⟨x, ?_, hx⟩
  simp [hE, visibleList, hv]

/-- Arguments: nothing, or expressions separated by commas. -/
def IsArgumentList (xs : List Symbol) : Prop :=
  xs = [] ∨ ∃ X rest, xs = X :: rest ∧ X.isExpressionKind = true ∧
    SepPairs .anonSymComma Symbol.isExpressionKind rest = true

theorem visibleList_cons (t : Subtree) (ts : List Subtree) :
    visibleList (t :: ts) = t.visibleNodes ++ visibleList ts := rfl

/-- A visible subtree stands for itself. -/
theorem visibleNodes_of_visible {t : Subtree} (h : (tsSymbolMetadata t.symbol).visible = true) :
    t.visibleNodes = [t] := by
  simp [Subtree.visibleNodes, h]

/-- The visible children of a function call, and the nodes that carry its fields, as
tree-sitter's field rule gives them: between the parentheses stand the arguments separated
by commas, and these nodes, the commas included, carry `arguments`; the identifier alone
carries `name`. -/
def CallFieldsOk (s : Subtree) : Prop :=
  ∃ f lp args rp, s.visibleChildren = f :: lp :: args ++ [rp] ∧
    f.symbol = .symIdentifier ∧ lp.symbol = .anonSymLparen ∧ rp.symbol = .anonSymRparen ∧
    IsArgumentList (args.map Subtree.symbol) ∧
    fieldNodes s .arguments = args ∧ fieldNodes s .name = [f]

/-- **The fields of a function call.** Its visible children are the identifier, `(`, the
arguments separated by commas, and `)`. The nodes carrying `arguments` are those between the
parentheses, the commas between arguments included, and the identifier alone carries
`name`. -/
theorem callFields_of_clean {s : Subtree} (h : Clean s) (hs : s.symbol = .symFunctionCall) :
    CallFieldsOk s := by
  unfold CallFieldsOk
  rcases h.cases with ⟨tok, rfl, htok⟩ | ⟨A, pid, cs, rfl, hne, hprod, hcs⟩
  · simp only [Subtree.symbol] at hs
    rw [hs] at htok; cases htok
  simp only [Subtree.symbol] at hs
  subst hs
  -- the arguments after the first: pairs of a comma and an expression
  have hrep := repeat_visibleChildren (R := .auxSymArrayRepeat1)
    (P := fun xs => SepPairs .anonSymComma Symbol.isExpressionKind xs = true) rfl rfl
    (fun _ _ => sepPairs_append) (by
      intro pid cs hp hne hcs
      simp only [productionsOf, List.mem_cons, Prod.mk.injEq, List.mem_singleton,
        List.not_mem_nil, or_false] at hp
      rcases hp with ⟨-, hcs'⟩ | ⟨-, hcs'⟩
      · obtain ⟨c1, cs1, rfl, hc1, hcs1⟩ := List.map_eq_cons_iff.1 hcs'
        obtain ⟨c2, cs2, rfl, hc2, hnil⟩ := List.map_eq_cons_iff.1 hcs1
        obtain rfl := List.map_eq_nil_iff.1 hnil
        obtain ⟨x, hx, hk⟩ := expression_visibleNodes (hcs c2 (by simp)) hc2
        rw [visibleList_cons, visibleList_cons, visibleNodes_of_visible (by rw [hc1]; rfl), hx]
        simp [SepPairs, hc1, hk]
      · exact absurd hcs' hne)
  have hvis : ∀ {c : Subtree} {X : Symbol}, c.symbol = X → (tsSymbolMetadata X).visible = true →
      c.visibleNodes = [c] := fun hc hX => visibleNodes_of_visible (by rw [hc]; exact hX)
  have hmem := isProduction_iff.1 hprod
  simp only [productionsOf, List.mem_cons, Prod.mk.injEq, List.mem_singleton,
    List.not_mem_nil, or_false] at hmem
  rcases hmem with ⟨rfl, hcs'⟩ | ⟨rfl, hcs'⟩ | ⟨rfl, hcs'⟩
  · -- `f()`
    obtain ⟨c1, cs1, rfl, hc1, hcs1⟩ := List.map_eq_cons_iff.1 hcs'
    obtain ⟨c2, cs2, rfl, hc2, hcs2⟩ := List.map_eq_cons_iff.1 hcs1
    obtain ⟨c3, cs3, rfl, hc3, hnil⟩ := List.map_eq_cons_iff.1 hcs2
    obtain rfl := List.map_eq_nil_iff.1 hnil
    have hmap : tsFieldMap 7 = [⟨.name, 0⟩] := rfl
    refine ⟨c1, c2, [], c3, ?_, hc1, hc2, hc3, .inl rfl, ?_, ?_⟩
    · simp [Subtree.visibleChildren, visibleList_cons, hvis hc1 rfl, hvis hc2 rfl, hvis hc3 rfl,
        visibleList_nil]
    · simp [fieldNodes, hmap, Subtree.productionId]
    · simp [fieldNodes, hmap, Subtree.productionId, fieldChild, Subtree.children, hne,
        hvis hc1 rfl]
  · -- `f(e)`
    obtain ⟨c1, cs1, rfl, hc1, hcs1⟩ := List.map_eq_cons_iff.1 hcs'
    obtain ⟨c2, cs2, rfl, hc2, hcs2⟩ := List.map_eq_cons_iff.1 hcs1
    obtain ⟨c3, cs3, rfl, hc3, hcs3⟩ := List.map_eq_cons_iff.1 hcs2
    obtain ⟨c4, cs4, rfl, hc4, hnil⟩ := List.map_eq_cons_iff.1 hcs3
    obtain rfl := List.map_eq_nil_iff.1 hnil
    obtain ⟨x, hx, hk⟩ := expression_visibleNodes (hcs c3 (by simp)) hc3
    have hmap : tsFieldMap 8 = [⟨.arguments, 2⟩, ⟨.name, 0⟩] := rfl
    refine ⟨c1, c2, [x], c4, ?_, hc1, hc2, hc4, .inr ⟨_, [], rfl, hk, rfl⟩, ?_, ?_⟩
    · simp [Subtree.visibleChildren, visibleList_cons, hvis hc1 rfl, hvis hc2 rfl, hx,
        hvis hc4 rfl, visibleList_nil]
    · simp [fieldNodes, hmap, Subtree.productionId, fieldChild, Subtree.children, hne, hx]
    · simp [fieldNodes, hmap, Subtree.productionId, fieldChild, Subtree.children, hne,
        hvis hc1 rfl]
  · -- `f(e, ...)`
    obtain ⟨c1, cs1, rfl, hc1, hcs1⟩ := List.map_eq_cons_iff.1 hcs'
    obtain ⟨c2, cs2, rfl, hc2, hcs2⟩ := List.map_eq_cons_iff.1 hcs1
    obtain ⟨c3, cs3, rfl, hc3, hcs3⟩ := List.map_eq_cons_iff.1 hcs2
    obtain ⟨c4, cs4, rfl, hc4, hcs4⟩ := List.map_eq_cons_iff.1 hcs3
    obtain ⟨c5, cs5, rfl, hc5, hnil⟩ := List.map_eq_cons_iff.1 hcs4
    obtain rfl := List.map_eq_nil_iff.1 hnil
    obtain ⟨x, hx, hk⟩ := expression_visibleNodes (hcs c3 (by simp)) hc3
    have hr : c4.visibleNodes = c4.visibleChildren := by
      simp [Subtree.visibleNodes, hc4, tsSymbolMetadata]
    have hmap : tsFieldMap 9 = [⟨.arguments, 2⟩, ⟨.arguments, 3⟩, ⟨.name, 0⟩] := rfl
    refine ⟨c1, c2, x :: c4.visibleChildren, c5, ?_, hc1, hc2, hc5,
      .inr ⟨_, _, rfl, hk, hrep c4 hc4 (hcs c4 (by simp))⟩, ?_, ?_⟩
    · simp [Subtree.visibleChildren, visibleList_cons, hvis hc1 rfl, hvis hc2 rfl, hx, hr,
        hvis hc5 rfl, visibleList_nil]
    · simp [fieldNodes, hmap, Subtree.productionId, fieldChild, Subtree.children, hne, hx, hr]
    · simp [fieldNodes, hmap, Subtree.productionId, fieldChild, Subtree.children, hne,
        hvis hc1 rfl]

end TreeSitterTxtx
