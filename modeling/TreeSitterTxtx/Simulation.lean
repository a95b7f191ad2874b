import Mathlib.Data.List.Forall2
import TreeSitterTxtx.Cover

/-!
# Two runs that keep step

Comments are extras: tree-sitter parses a comment wherever it is read and leaves its node on
the stack without changing the state, and `ts_parser__reduce` takes extra entries along into
whichever node it builds. So two runs whose stacks differ only in their extra entries, and in
their tokens' positions, go on alike. This module makes that precise.

Two runs are compared by `Sim`: their stacks hold the same entries that are not extra, in the
same states, with trees equal once their comments are erased up to a relation `R` on tokens
(`Subtree.Rel`); the lookahead of the second run is that of the first moved by `d`; and the
second run may still have whitespace to skip before it reaches the input of the first, in a
lex mode that skips whitespace (`0`, `1`, `2`, `6` and `46`, the modes of every parse state
outside strings and comments). `Sim` is kept by every step (`step_sim`), whatever the step
does, failures included, so the two runs end alike for every bound on their steps
(`run_sim`), and accept alike (`RunSim.accepts`).
-/

namespace TreeSitterTxtx

/-! ## Trees that differ in their tokens -/

mutual
/-- Two trees of one shape, node for node, whose leaves are related by `R`. -/
def Subtree.Rel (R : Token → Token → Prop) : Subtree → Subtree → Prop
  | .leaf tok e, .leaf tok' e' => R tok tok' ∧ e = e'
  | .node A pid e cs, .node A' pid' e' cs' => A = A' ∧ pid = pid' ∧ e = e' ∧ RelList R cs cs'
  | _, _ => False

/-- Two lists of trees related one by one. -/
def RelList (R : Token → Token → Prop) : List Subtree → List Subtree → Prop
  | [], [] => True
  | t :: ts, t' :: ts' => Subtree.Rel R t t' ∧ RelList R ts ts'
  | _, _ => False
end

section Rel
variable {R : Token → Token → Prop}

theorem relList_iff : ∀ {ts ts' : List Subtree},
    RelList R ts ts' ↔ List.Forall₂ (Subtree.Rel R) ts ts'
  | [], [] => by simp [RelList]
  | [], _ :: _ => by simp [RelList]
  | _ :: _, [] => by simp [RelList]
  | t :: ts, t' :: ts' => by rw [RelList, List.forall₂_cons, relList_iff]

theorem Subtree.rel_leaf {tok tok' : Token} {e : Bool} :
    Subtree.Rel R (.leaf tok e) (.leaf tok' e) ↔ R tok tok' := by
  simp [Subtree.Rel]

theorem Subtree.rel_node {A : Symbol} {pid : Nat} {e : Bool} {cs cs' : List Subtree} :
    Subtree.Rel R (.node A pid e cs) (.node A pid e cs') ↔ List.Forall₂ (Subtree.Rel R) cs cs' := by
  simp [Subtree.Rel, relList_iff]

/-- Related trees agree in their symbols, production ids and shapes, when `R` keeps symbols. -/
theorem Subtree.Rel.parts (hsym : ∀ tok tok', R tok tok' → tok'.symbol = tok.symbol)
    {t t' : Subtree} (h : Subtree.Rel R t t') :
    t'.symbol = t.symbol ∧ t'.productionId = t.productionId ∧
      List.Forall₂ (Subtree.Rel R) t.children t'.children := by
  cases t <;> cases t' <;> simp only [Subtree.Rel] at h
  · exact ⟨hsym _ _ h.1, rfl, .nil⟩
  · obtain ⟨rfl, rfl, -, h⟩ := h
    exact ⟨rfl, rfl, relList_iff.1 h⟩

/-- A tree with its comments erased is related to itself when `R` relates each of its tokens
to itself. -/
theorem Subtree.rel_eraseComments_self :
    ∀ t : Subtree, (∀ tok ∈ t.leaves, R tok tok) → Subtree.Rel R t.eraseComments t.eraseComments
  | .leaf tok e, h => Subtree.rel_leaf.2 (h tok (List.mem_singleton_self _))
  | .node A pid e cs, h => by
    rw [Subtree.eraseComments, Subtree.rel_node, List.forall₂_same]
    intro s hs
    obtain ⟨t, ht, rfl⟩ := mem_eraseCommentsList hs
    exact Subtree.rel_eraseComments_self t fun tok htok =>
      h tok (mem_leavesList.2 ⟨t, ht, htok⟩)

end Rel

/-! ## Stacks that hold the same entries -/

/-- The entries of a stack that are not extra, top first. -/
def nonExtraEntries (σ : List StackEntry) : List StackEntry := σ.filter fun e => !e.tree.extra

theorem nonExtraEntries_cons (e : StackEntry) (σ : List StackEntry) :
    nonExtraEntries (e :: σ) = if e.tree.extra then nonExtraEntries σ else e :: nonExtraEntries σ := by
  cases h : e.tree.extra <;> simp [nonExtraEntries, h]

theorem nonExtraEntries_append (σ σ' : List StackEntry) :
    nonExtraEntries (σ ++ σ') = nonExtraEntries σ ++ nonExtraEntries σ' := by
  simp [nonExtraEntries, List.filter_append]

theorem nonExtra_map_tree (σ : List StackEntry) :
    nonExtra (σ.map (·.tree)) = (nonExtraEntries σ).map (·.tree) := by
  simp [nonExtra, nonExtraEntries, List.filter_map, Function.comp_def]

/-- On a stack the invariant holds of, the top state is the state of the topmost entry that
is not extra: an extra entry repeats the state below it. -/
theorem topState_nonExtraEntries : ∀ {σ : List StackEntry}, StackOk σ →
    topState σ = topState (nonExtraEntries σ)
  | [], _ => rfl
  | e :: σ, ⟨hσ, he⟩ => by
    unfold EntryOk at he
    rw [nonExtraEntries_cons]
    split at he
    · next hx => rw [if_pos hx, ← topState_nonExtraEntries hσ, topState, he]
    · next hx => rw [if_neg hx]; rfl

/-- The entries `ts_stack_pop_count` takes off: the first `n` that are not extra, with the
extra ones among and above them. -/
theorem popCount_nonExtraEntries : ∀ {n : Nat} {σ : List StackEntry} {ts : List Subtree}
    {σ₀ : List StackEntry}, popCount n σ = some (ts, σ₀) →
      nonExtra ts = ((nonExtraEntries σ).take n).reverse.map (·.tree) ∧
        nonExtraEntries σ₀ = (nonExtraEntries σ).drop n
  | 0, σ, ts, σ₀, h => by
    simp only [popCount, Option.some.injEq, Prod.mk.injEq] at h
    obtain ⟨rfl, rfl⟩ := h
    simp
  | _ + 1, [], _, _, h => by simp [popCount] at h
  | n + 1, e :: σ, ts, σ₀, h => by
    unfold popCount at h
    rw [nonExtraEntries_cons]
    split at h
    · next hx =>
      obtain ⟨r, hr, hts⟩ := Option.map_eq_some'.1 h
      cases hts
      obtain ⟨h1, h2⟩ := popCount_nonExtraEntries hr
      rw [if_pos hx, nonExtra_append, nonExtra_singleton, if_pos hx, List.append_nil, h1]
      exact ⟨rfl, h2⟩
    · next hx =>
      obtain ⟨r, hr, hts⟩ := Option.map_eq_some'.1 h
      cases hts
      obtain ⟨h1, h2⟩ := popCount_nonExtraEntries hr
      rw [if_neg hx, nonExtra_append, nonExtra_singleton, if_neg hx, h1]
      simp [h2]

/-- `ts_stack_pop_count` fails exactly when the stack has fewer than `n` entries that are not
extra. -/
theorem popCount_eq_none : ∀ {n : Nat} {σ : List StackEntry},
    popCount n σ = none ↔ (nonExtraEntries σ).length < n
  | 0, σ => by simp [popCount]
  | _ + 1, [] => by simp [popCount, nonExtraEntries]
  | n + 1, e :: σ => by
    unfold popCount
    rw [nonExtraEntries_cons]
    split
    · rw [Option.map_eq_none', popCount_eq_none]
    · simp [popCount_eq_none]

/-- Entries in the same state whose trees are related once their comments are erased. -/
def EntryRel (R : Token → Token → Prop) (e e' : StackEntry) : Prop :=
  e.state = e'.state ∧ Subtree.Rel R e.tree.eraseComments e'.tree.eraseComments

/-- Stacks whose entries that are not extra are related one by one. -/
def StackRel (R : Token → Token → Prop) (σ σ' : List StackEntry) : Prop :=
  List.Forall₂ (EntryRel R) (nonExtraEntries σ) (nonExtraEntries σ')

section StackRel
variable {R : Token → Token → Prop} {σ σ' : List StackEntry}

theorem StackRel.topState_eq (hσ : StackOk σ) (hσ' : StackOk σ') (h : StackRel R σ σ') :
    topState σ' = topState σ := by
  have hhead : ∀ {l l' : List StackEntry}, List.Forall₂ (EntryRel R) l l' →
      topState l' = topState l := by
    intro l l' h
    cases h with
    | nil => rfl
    | cons he _ => exact he.1.symm
  rw [topState_nonExtraEntries hσ, topState_nonExtraEntries hσ']
  exact hhead h

/-- Erasing the comments of the children a reduction keeps leaves the subtrees it counts. -/
theorem eraseCommentsList_splitTrailingExtras {ts : List Subtree}
    (h : ∀ t ∈ ts, t.isComment = t.extra) :
    eraseCommentsList (splitTrailingExtras ts).1 = (nonExtra ts).map Subtree.eraseComments := by
  have hsplit := splitTrailingExtras_append ts
  have hextra : nonExtra (splitTrailingExtras ts).2 = [] := by
    simpa [nonExtra] using @splitTrailingExtras_extra ts
  rw [eraseCommentsList_eq fun t ht => h t (hsplit ▸ List.mem_append_left _ ht)]
  conv_rhs => rw [← hsplit, nonExtra_append, hextra, List.append_nil]

/-- The entries a reduction leaves that are not extra: the parent, unless it is extra, on
the stack below the popped entries. -/
theorem reduce_nonExtraEntries {A : Symbol} {n pid : Nat} {x : Bool} {ts : List Subtree}
    {σ₀ : List StackEntry} (hp : popCount n σ = some (ts, σ₀)) :
    (reduce σ A n pid x).map nonExtraEntries = some (nonExtraEntries
      (⟨tsLanguageNextState (topState σ₀) A, .node A pid
        (x && tsLanguageNextState (topState σ₀) A == topState σ₀) (splitTrailingExtras ts).1⟩ :: σ₀)) := by
  have hextra : nonExtraEntries ((splitTrailingExtras ts).2.reverse.map
      (⟨tsLanguageNextState (topState σ₀) A, ·⟩)) = [] := by
    simp only [nonExtraEntries, List.filter_eq_nil_iff, List.mem_map, List.mem_reverse]
    rintro _ ⟨t, ht, rfl⟩
    simp [splitTrailingExtras_extra t ht]
  simp only [reduce, hp, Option.map_some', nonExtraEntries_append, hextra, List.nil_append]

/-- The trees a reduction pops are trees of the stack: their comments are their extras. -/
theorem popCount_isComment {n : Nat} {ts : List Subtree} {σ₀ : List StackEntry}
    (ht : ∀ e ∈ σ, TreeOk e.tree) (hp : popCount n σ = some (ts, σ₀)) :
    ∀ t ∈ ts, t.isComment = t.extra := by
  intro t htm
  obtain ⟨pre, rfl, rfl⟩ := popCount_split hp
  obtain ⟨e, he, rfl⟩ := List.mem_map.1 htm
  exact (ht e (List.mem_append_left _ (List.mem_reverse.1 he))).isComment

/-- **Related stacks reduce alike**: both reductions fail, or both succeed with related
stacks. -/
theorem reduce_stackRel (hσ : StackOk σ) (hσ' : StackOk σ')
    (ht : ∀ e ∈ σ, TreeOk e.tree) (ht' : ∀ e ∈ σ', TreeOk e.tree) (h : StackRel R σ σ')
    (A : Symbol) (n pid : Nat) (x : Bool) :
    Option.Rel (StackRel R) (reduce σ A n pid x) (reduce σ' A n pid x) := by
  have hlen := h.length_eq
  cases hp : popCount n σ with
  | none =>
    have hp' : popCount n σ' = none := popCount_eq_none.2 (hlen ▸ popCount_eq_none.1 hp)
    simp only [reduce, hp, hp', Option.map_none']
    exact .none
  | some r =>
    obtain ⟨ts, σ₀⟩ := r
    have hne : popCount n σ' ≠ none := fun hn => by
      rw [popCount_eq_none, ← hlen, ← popCount_eq_none, hp] at hn
      cases hn
    obtain ⟨⟨ts', σ₀'⟩, hp'⟩ := Option.ne_none_iff_exists'.1 hne
    obtain ⟨hts, hσ₀⟩ := popCount_nonExtraEntries hp
    obtain ⟨hts', hσ₀'⟩ := popCount_nonExtraEntries hp'
    have htop : topState σ₀' = topState σ₀ :=
      StackRel.topState_eq (popCount_path hσ hp).1 (popCount_path hσ' hp').1
        (by rw [StackRel, hσ₀, hσ₀']; exact List.forall₂_drop n h)
    have hchildren : List.Forall₂ (Subtree.Rel R)
        (eraseCommentsList (splitTrailingExtras ts).1) (eraseCommentsList (splitTrailingExtras ts').1) := by
      rw [eraseCommentsList_splitTrailingExtras (popCount_isComment ht hp),
        eraseCommentsList_splitTrailingExtras (popCount_isComment ht' hp'), hts, hts', List.map_map, List.map_map,
        List.forall₂_map_left_iff, List.forall₂_map_right_iff, List.forall₂_reverse_iff]
      exact (List.forall₂_take n h).imp fun _ _ he => he.2
    have hr : (reduce σ A n pid x).map nonExtraEntries = _ := reduce_nonExtraEntries hp
    have hr' : (reduce σ' A n pid x).map nonExtraEntries = _ := reduce_nonExtraEntries hp'
    obtain ⟨τ, hτ, -⟩ := Option.map_eq_some'.1 hr
    obtain ⟨τ', hτ', -⟩ := Option.map_eq_some'.1 hr'
    rw [hτ] at hr ⊢
    rw [hτ'] at hr' ⊢
    refine .some ?_
    simp only [Option.map_some', Option.some.injEq] at hr hr'
    rw [StackRel, hr, hr', htop, nonExtraEntries_cons, nonExtraEntries_cons, hσ₀, hσ₀']
    simp only [Subtree.extra]
    split
    · exact List.forall₂_drop n h
    · refine .cons ⟨rfl, ?_⟩ (List.forall₂_drop n h)
      simpa only [Subtree.eraseComments, Subtree.rel_node] using hchildren

end StackRel

/-! ## The root `ts_parser__accept` builds -/

/-- With every comment extra, the root `acceptRoot` builds is, comments erased, the topmost
subtree that is not extra with the erased subtrees below it before its children and those
collected above it after them. -/
theorem acceptRoot_eraseComments : ∀ {ts : List Subtree} (after : List Subtree),
    (∀ t ∈ ts, t.isComment = t.extra) →
    (acceptRoot ts after).map Subtree.eraseComments =
      match nonExtra ts with
      | [] => none
      | T :: rest => some (.node T.symbol T.productionId false
          ((rest.map Subtree.eraseComments).reverse ++ T.eraseComments.children ++
            eraseCommentsList after))
  | [], _, _ => rfl
  | t :: ts, after, h => by
    have ht := h t (List.mem_cons_self _ _)
    have hts : ∀ t ∈ ts, t.isComment = t.extra := fun t' h' => h t' (List.mem_cons_of_mem _ h')
    rw [acceptRoot, show t :: ts = [t] ++ ts from rfl, nonExtra_append, nonExtra_singleton]
    cases hx : t.extra
    · rw [if_neg Bool.false_ne_true, if_neg Bool.false_ne_true, List.singleton_append,
        Option.map_some']
      simp only [Subtree.eraseComments, eraseCommentsList_append, Subtree.eraseComments_children,
        eraseCommentsList_eq fun t' h' => hts t' (List.mem_reverse.1 h'), nonExtra_reverse,
        List.map_reverse]
    · rw [if_pos rfl, if_pos rfl, List.nil_append, acceptRoot_eraseComments (t :: after) hts,
        eraseCommentsList_cons, ht, hx, if_pos rfl]

section AcceptRel
variable {R : Token → Token → Prop} {σ σ' : List StackEntry}

/-- **Related stacks accept alike**: for related end-of-input leaves, both roots are missing,
or both are built and related once their comments are erased. -/
theorem acceptRoot_rel (hsym : ∀ tok tok', R tok tok' → tok'.symbol = tok.symbol)
    (ht : ∀ e ∈ σ, TreeOk e.tree) (ht' : ∀ e ∈ σ', TreeOk e.tree) (h : StackRel R σ σ')
    {tok tok' : Token} (htok : R tok tok') :
    Option.Rel (fun r r' => Subtree.Rel R r.eraseComments r'.eraseComments)
      (acceptRoot (.leaf tok true :: σ.map (·.tree)) [])
      (acceptRoot (.leaf tok' true :: σ'.map (·.tree)) []) := by
  have key : ∀ {σ : List StackEntry} (tok : Token), (∀ e ∈ σ, TreeOk e.tree) →
      (acceptRoot (.leaf tok true :: σ.map (·.tree)) []).map Subtree.eraseComments =
        match (nonExtraEntries σ).map (·.tree) with
        | [] => none
        | T :: rest => some (.node T.symbol T.productionId false
            ((rest.map Subtree.eraseComments).reverse ++ T.eraseComments.children ++
              eraseCommentsList [.leaf tok true])) := by
    intro σ tok ht
    rw [← nonExtra_map_tree]
    exact acceptRoot_eraseComments [.leaf tok true] fun t htm => by
      obtain ⟨e, he, rfl⟩ := List.mem_map.1 htm
      exact (ht e he).isComment
  have e1 := key tok ht
  have e2 := key tok' ht'
  rw [StackRel] at h
  generalize nonExtraEntries σ = l at h e1
  generalize nonExtraEntries σ' = l' at h e2
  cases h with
  | nil =>
    rw [Option.map_eq_none'.1 e1, Option.map_eq_none'.1 e2]
    exact .none
  | @cons a a' rest rest' ha hrest =>
    obtain ⟨r, hr, hre⟩ := Option.map_eq_some'.1 e1
    obtain ⟨r', hr', hre'⟩ := Option.map_eq_some'.1 e2
    rw [hr, hr']
    refine .some ?_
    obtain ⟨hs, hpid, hcs⟩ := ha.2.parts hsym
    simp only [Subtree.eraseComments_symbol, Subtree.eraseComments_productionId] at hs hpid
    dsimp only at hre hre'
    rw [hre, hre', hs, hpid, Subtree.rel_node]
    have hleaf : List.Forall₂ (Subtree.Rel R) (eraseCommentsList [.leaf tok true])
        (eraseCommentsList [.leaf tok' true]) := by
      simp only [eraseCommentsList_cons, Subtree.isComment, Subtree.symbol_leaf, hsym _ _ htok]
      split
      · exact .nil
      · exact .cons (Subtree.rel_leaf.2 htok) .nil
    refine List.rel_append (List.rel_append ?_ hcs) hleaf
    rw [List.forall₂_reverse_iff, List.map_map, List.map_map, List.forall₂_map_left_iff,
      List.forall₂_map_right_iff]
    exact hrest.imp fun _ _ he => he.2

end AcceptRel

/-! ## Whitespace before a token -/

/-- The modes that skip whitespace accept nothing of their own and skip each whitespace
character in place. -/
theorem skipState_skips : ∀ m ∈ [0, 1, 2, 6, 46], tsLexAccept m = none ∧
    ∀ x ∈ ['\t', '\n', '\r', ' '], tsLexMove m false x = .skip m := by
  decide

theorem isSkipState_mem {m : Nat} (h : isSkipState m = true) : m ∈ [0, 1, 2, 6, 46] := by
  simp only [isSkipState, Bool.or_eq_true, beq_iff_eq] at h
  simp only [List.mem_cons, List.mem_singleton, List.not_mem_nil, or_false]
  omega

theorem isSkipSpace_mem {x : Char} (h : isSkipSpace x = true) : x ∈ ['\t', '\n', '\r', ' '] := by
  simpa [isSkipSpace] using h

/-- In a mode that skips whitespace, the lexer reads past it as if it started after it. -/
theorem tsLex_skipSpaces {m : Nat} (hm : isSkipState m = true) :
    ∀ {ws : List Char} (pos : Nat) (input : List Char), ws.all isSkipSpace = true →
      tsLex m pos (ws ++ input) = tsLex m (pos + ws.length) input
  | [], _, _, _ => rfl
  | x :: ws, pos, input, h => by
    simp only [List.all_cons, Bool.and_eq_true] at h
    obtain ⟨hacc, hskip⟩ := skipState_skips m (isSkipState_mem hm)
    rw [List.cons_append, tsLex, tsLexRun, hskip x (isSkipSpace_mem h.1)]
    simp only [acceptAt, hacc]
    rw [← tsLex, tsLex_skipSpaces hm (pos + 1) input h.2, List.length_cons, Nat.add_assoc,
      Nat.add_comm 1]

/-- The lexer of a run that has whitespace `ws` left to skip, `d` positions behind. -/
theorem tsLex_pending {m pos pos' d : Nat} {ws input : List Char}
    (hws : ws.all isSkipSpace = true) (hm : ws ≠ [] → isSkipState m = true)
    (hpos : pos' + ws.length = pos + d) :
    tsLex m pos' (ws ++ input) = (tsLex m pos input).map (Lexeme.shift d) := by
  rw [← tsLex_shift, ← hpos]
  by_cases h : ws = []
  · subst h; rfl
  · exact tsLex_skipSpaces (hm h) pos' input hws

/-! ## Two runs that keep step -/

/-- What two configurations that keep step share. The stacks are related by `StackRel`; the
second lookahead is the first moved `d` to the right, and both start from `p` on; and
without lookahead the second run is at the first's input with whitespace `ws` still to
skip, in a mode that skips it, `d` positions further right once it is skipped. -/
structure SimCore (R : Token → Token → Prop) (p d : Nat) (c c' : Config) : Prop where
  stack : StackRel R c.stack c'.stack
  lookahead : c'.lookahead = c.lookahead.map (Lexeme.shift d)
  lookahead_span : ∀ la ∈ c.lookahead, p ≤ la.1.start ∧ la.1.start ≤ la.1.stop
  le_pos : p ≤ c.pos
  pending : c.lookahead = none → ∃ ws, c'.input = ws ++ c.input ∧ ws.all isSkipSpace = true ∧
    c'.pos + ws.length = c.pos + d ∧ (ws ≠ [] → isSkipState (tsLexModes (topState c.stack)) = true)

/-- Two configurations that keep step, both keeping the driver's invariant. -/
structure Sim (R : Token → Token → Prop) (p d : Nat) (c c' : Config) extends
    SimCore R p d c c' : Prop where
  ok : ConfigOk c
  ok' : ConfigOk c'

/-- The outcomes of a step of two runs that keep step. -/
def OutcomeSim (R : Token → Token → Prop) (p d : Nat) : Outcome → Outcome → Prop
  | .next c, .next c' => Sim R p d c c'
  | .accepted t, .accepted t' => Subtree.Rel R t.eraseComments t'.eraseComments
  | .failed, .failed => True
  | _, _ => False

/-- The results of two runs that keep step: both accept, with trees related once their
comments are erased, both fail, or both run out of steps. -/
def RunSim (R : Token → Token → Prop) : RunResult → RunResult → Prop
  | .accepted t, .accepted t' => Subtree.Rel R t.eraseComments t'.eraseComments
  | .failed, .failed => True
  | .outOfFuel, .outOfFuel => True
  | _, _ => False

section Sim
variable {R : Token → Token → Prop} {p d : Nat} {c c' : Config}

theorem Sim.topState_eq (hs : Sim R p d c c') : topState c'.stack = topState c.stack :=
  hs.stack.topState_eq hs.ok.stack hs.ok'.stack

/-- Two steps that go on keep step once their configurations share what `SimCore` asks:
the invariant comes with the step. -/
theorem Sim.next {c₁ c₁' : Config} (hs : Sim R p d c c') (h : step c = .next c₁)
    (h' : step c' = .next c₁') (hcore : SimCore R p d c₁ c₁') :
    OutcomeSim R p d (step c) (step c') := by
  rw [h, h']
  exact { hcore with ok := step_configOk hs.ok h, ok' := step_configOk hs.ok' h' }

/-- A reduction of two runs that keep step, for the lookahead or at the end of a comment:
both fail, or both go on with related stacks. -/
theorem Sim.reduce (hs : Sim R p d c c') (sym : Symbol) (n pid : Nat) (x : Bool)
    (h : step c = (TreeSitterTxtx.reduce c.stack sym n pid x).elim .failed
      fun τ => .next { c with stack := τ })
    (h' : step c' = (TreeSitterTxtx.reduce c'.stack sym n pid x).elim .failed
      fun τ => .next { c' with stack := τ })
    (hpending : c.lookahead = none → c'.input = c.input ∧ c'.pos = c.pos + d) :
    OutcomeSim R p d (step c) (step c') := by
  have hrel := reduce_stackRel hs.ok.stack hs.ok'.stack hs.ok.trees hs.ok'.trees hs.stack sym n pid x
  cases hr : TreeSitterTxtx.reduce c.stack sym n pid x <;>
    cases hr' : TreeSitterTxtx.reduce c'.stack sym n pid x <;>
    simp only [hr, hr', Option.elim_some, Option.elim_none] at hrel h h' <;> cases hrel
  · rw [h, h']; trivial
  · next τ τ' hτ =>
    refine hs.next h h' ⟨hτ, hs.lookahead, hs.lookahead_span, hs.le_pos, fun hl => ?_⟩
    obtain ⟨hin, hpos⟩ := hpending hl
    exact ⟨[], by simpa using hin, rfl, by simpa using hpos, fun hne => absurd rfl hne⟩

/-- **A step with a lookahead keeps step**: the two lookaheads have one symbol and the two
top states agree, so both runs take the same action on related stacks. -/
theorem Sim.step_lookahead (hR : ∀ tok : Token, p ≤ tok.start → R tok (tok.shift d))
    (hsym : ∀ tok tok', R tok tok' → tok'.symbol = tok.symbol) (hs : Sim R p d c c')
    {tok : Token} {rest : List Char} (hl : c.lookahead = some (tok, rest)) :
    OutcomeSim R p d (step c) (step c') := by
  have hl' : c'.lookahead = some (tok.shift d, rest) := by rw [hs.lookahead, hl]; rfl
  obtain ⟨hstart, hstop⟩ := hs.lookahead_span _ hl
  have hstep : step c = actionStep c tok rest := by simp [step, hl]
  have hstep' : step c' = actionStep c' (tok.shift d) rest := by simp [step, hl']
  have ha' : effectiveAction (tsLanguageActions (topState c'.stack) (tok.shift d).symbol) =
      effectiveAction (tsLanguageActions (topState c.stack) tok.symbol) := by
    rw [hs.topState_eq, Token.shift_symbol]
  rcases ha : effectiveAction (tsLanguageActions (topState c.stack) tok.symbol) with
    _ | ⟨s | s | ⟨sym, n, pid⟩ | _ | _⟩ <;> rw [ha] at ha'
  case some.shift =>
    -- both push the lookahead's leaf
    refine hs.next (step_shift hl ha) (step_shift hl' ha') ⟨?_, rfl, by simp, Nat.le_trans hstart hstop,
      fun _ => ⟨[], rfl, rfl, by simp, fun h => absurd rfl h⟩⟩
    rw [StackRel, nonExtraEntries_cons, nonExtraEntries_cons]
    exact .cons ⟨rfl, Subtree.rel_leaf.2 (hR tok hstart)⟩ hs.stack
  case some.reduce =>
    exact hs.reduce sym n pid false
      (by cases hr : TreeSitterTxtx.reduce c.stack sym n pid false <;>
        simp only [hstep, actionStep, ha, hr, Option.elim_some, Option.elim_none])
      (by cases hr : TreeSitterTxtx.reduce c'.stack sym n pid false <;>
        simp only [hstep', actionStep, ha', hr, Option.elim_some, Option.elim_none])
      fun h => by rw [hl] at h; cases h
  case some.accept =>
    -- both build their roots from related stacks
    have hrel := acceptRoot_rel hsym hs.ok.trees hs.ok'.trees hs.stack (hR tok hstart)
    cases hr : acceptRoot (.leaf tok true :: c.stack.map (·.tree)) [] <;>
      cases hr' : acceptRoot (.leaf (tok.shift d) true :: c'.stack.map (·.tree)) [] <;>
      rw [hr, hr'] at hrel <;> cases hrel <;>
      simp only [hstep, hstep', actionStep, ha, ha', hr, hr', OutcomeSim]
    assumption
  all_goals simp only [hstep, hstep', actionStep, ha, ha', OutcomeSim]

/-- **The end of a comment keeps step**: with nothing left to skip, both runs take the
end-of-input reduction of one state on related stacks. -/
theorem Sim.step_endOfExtra (hs : Sim R p d c c') (hl : c.lookahead = none)
    (hno : tsLexModes (topState c.stack) = noLexState) :
    OutcomeSim R p d (step c) (step c') := by
  have hl' : c'.lookahead = none := by rw [hs.lookahead, hl]; rfl
  obtain ⟨ws, hin, -, hpos, hmode⟩ := hs.pending hl
  have hws : ws = [] := by
    by_contra hne
    have := hmode hne
    rw [hno] at this
    exact absurd this (by decide)
  subst hws
  have htop := hs.topState_eq
  have hstep : step c = endOfExtraStep c := by simp [step, hl, hno]
  have hstep' : step c' = endOfExtraStep c' := by simp [step, hl', htop, hno]
  rcases ha : effectiveAction (tsLanguageActions (topState c.stack) .tsBuiltinSymEnd) with
    _ | ⟨s | s | ⟨sym, n, pid⟩ | _ | _⟩
  case some.reduce =>
    exact hs.reduce sym n pid true
      (by cases hr : TreeSitterTxtx.reduce c.stack sym n pid true <;>
        simp only [hstep, endOfExtraStep, ha, hr, Option.elim_some, Option.elim_none])
      (by cases hr : TreeSitterTxtx.reduce c'.stack sym n pid true <;>
        simp only [hstep', endOfExtraStep, htop, ha, hr, Option.elim_some, Option.elim_none])
      fun _ => ⟨by simpa using hin, by simpa using hpos⟩
  all_goals simp only [hstep, hstep', endOfExtraStep, htop, ha, OutcomeSim]

/-- **Lexing keeps step**: the second run skips the whitespace it has left and lexes the
first run's token, moved by `d`. -/
theorem Sim.step_lex (hs : Sim R p d c c') (hl : c.lookahead = none)
    (hno : tsLexModes (topState c.stack) ≠ noLexState) :
    OutcomeSim R p d (step c) (step c') := by
  have hl' : c'.lookahead = none := by rw [hs.lookahead, hl]; rfl
  obtain ⟨ws, hin, hws, hpos, hmode⟩ := hs.pending hl
  have htop := hs.topState_eq
  have hno' : tsLexModes (topState c'.stack) ≠ noLexState := htop ▸ hno
  have hx : tsLex (tsLexModes (topState c'.stack)) c'.pos c'.input =
      (tsLex (tsLexModes (topState c.stack)) c.pos c.input).map (Lexeme.shift d) := by
    rw [hin, htop]
    exact tsLex_pending hws hmode hpos
  cases hlex : tsLex (tsLexModes (topState c.stack)) c.pos c.input with
  | none =>
    rw [hlex, Option.map_none'] at hx
    simp only [step, hl, hl', hno, hno', if_false, hlex, hx, OutcomeSim]
  | some la =>
    rw [hlex, Option.map_some'] at hx
    obtain ⟨hstart, hss, -⟩ := tsLex_span hlex
    refine hs.next (TreeSitterTxtx.step_lex hl hno hlex) (TreeSitterTxtx.step_lex hl' hno' hx)
      ⟨hs.stack, rfl, fun la' h => ?_, hs.le_pos, fun h => by cases h⟩
    cases Option.some.inj h
    exact ⟨Nat.le_trans hs.le_pos hstart, hss⟩

section
variable (hR : ∀ tok : Token, p ≤ tok.start → R tok (tok.shift d))
  (hsym : ∀ tok tok', R tok tok' → tok'.symbol = tok.symbol)
include hR hsym

/-- **Every step keeps step.** -/
theorem step_sim (hs : Sim R p d c c') : OutcomeSim R p d (step c) (step c') := by
  cases hl : c.lookahead with
  | none =>
    by_cases hno : tsLexModes (topState c.stack) = noLexState
    · exact hs.step_endOfExtra hl hno
    · exact hs.step_lex hl hno
  | some la => exact hs.step_lookahead hR hsym hl

/-- **Two runs that keep step end alike**, for every bound on their steps. -/
theorem run_sim : ∀ (n : Nat) {c c' : Config}, Sim R p d c c' → RunSim R (run n c) (run n c')
  | 0, _, _, _ => trivial
  | n + 1, c, c', hs => by
    have h := step_sim hR hsym hs
    rw [run, run]
    generalize step c = o at h
    generalize step c' = o' at h
    cases o <;> cases o' <;> simp only [OutcomeSim, RunSim] at h ⊢
    · exact run_sim n h
    · exact h

end

end Sim

/-! ## Related runs and stacks -/

/-- A stack is related to itself when `R` relates each of its tokens to itself. -/
theorem stackRel_self {R : Token → Token → Prop} {σ : List StackEntry}
    (h : ∀ tok ∈ stackLeaves σ, R tok tok) : StackRel R σ σ :=
  List.forall₂_same.2 fun _ he =>
    ⟨rfl, Subtree.rel_eraseComments_self _ fun tok htok =>
      h tok (mem_stackLeaves (List.mem_of_mem_filter he) htok)⟩

/-- An extra entry on top of a stack does not change what it is related to. -/
theorem stackRel_cons_extra {R : Token → Token → Prop} {σ σ' : List StackEntry} {e : StackEntry}
    (he : e.tree.extra = true) : StackRel R σ (e :: σ') ↔ StackRel R σ σ' := by
  rw [StackRel, StackRel, nonExtraEntries_cons, if_pos he]

/-- The tokens a run has shifted end by its position. -/
theorem CoverOk.stop_le {x : List Char} {c : Config} (h : CoverOk x c) :
    ∀ tok ∈ stackLeaves c.stack, tok.stop ≤ c.pos := by
  intro tok htok
  have := h.covers.stop_le tok htok
  rw [List.length_take] at this
  omega

/-- Two runs that keep step, the second `k` steps behind, accept alike. -/
theorem RunSim.accepts {R : Token → Token → Prop} {c c' : Config} {k : Nat}
    (h : ∀ n, RunSim R (run n c) (run (n + k) c')) :
    (∀ t, (∃ n, run n c = .accepted t) →
      ∃ t', (∃ n, run n c' = .accepted t') ∧ Subtree.Rel R t.eraseComments t'.eraseComments) ∧
    (∀ t', (∃ n, run n c' = .accepted t') →
      ∃ t, (∃ n, run n c = .accepted t) ∧ Subtree.Rel R t.eraseComments t'.eraseComments) := by
  constructor
  · rintro t ⟨n, hn⟩
    have := h n
    rw [hn] at this
    cases hr : run (n + k) c' <;> rw [hr] at this <;> simp only [RunSim] at this
    exact ⟨_, ⟨_, hr⟩, this⟩
  · rintro t' ⟨n, hn⟩
    have := h n
    rw [run_mono hn (by simp) k] at this
    cases hr : run n c <;> rw [hr] at this <;> simp only [RunSim] at this
    exact ⟨_, ⟨_, hr⟩, this⟩

end TreeSitterTxtx
