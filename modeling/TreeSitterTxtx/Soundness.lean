import Mathlib.Data.List.Basic
import TreeSitterTxtx.Stack
import TreeSitterTxtx.Run

/-!
# Soundness of the tables

Every tree the driver accepts is, with its comments erased, a derivation tree of the
grammar `productionsOf true` (`accepts_isDocumentTree`). The proof is an invariant of the
driver's configurations (`ConfigOk`): the stack agrees with the automaton (`StackOk`); each
extra subtree on it is a comment and every other one is, with its comments erased, a
derivation tree; and a lookahead is a token, held only in a state that lexes. A shift
pushes a leaf along an edge; a reduction builds a node whose children spell a production
(`reduce_certified`); the end of a comment builds a comment node and, since a comment's
goto is the state it started in, marks it extra; and `ACCEPT_INPUT` happens only in state
`142`, above a stack whose only entry that is not extra is the runbook.
-/

namespace TreeSitterTxtx

/-! ## Facts of the tables -/

theorem actionsAt_of_ge {index : Nat} (h : 384 ≤ index) : actionsAt index = [] := by
  obtain ⟨k, hk⟩ : ∃ k, index / 32 = k + 12 := ⟨index / 32 - 12, by omega⟩
  simp [actionsAt, hk]

/-- The check of an entry of `ts_parse_actions`: a shift is its only action, and leads to a
state other than `0`. -/
def shiftOnly (index : Nat) : Bool :=
  match effectiveAction (actionsAt index) with
  | some (.shift s) => actionsAt index == [.shift s] && s != 0
  | _ => true

theorem shift_only {index s : Nat} (h : effectiveAction (actionsAt index) = some (.shift s)) :
    actionsAt index = [.shift s] ∧ s ≠ 0 := by
  have hall : ∀ i < 384, shiftOnly i = true := by
    set_option maxRecDepth 8000 in decide
  rcases Nat.lt_or_ge index 384 with hi | hi
  · have := hall index hi
    simp only [shiftOnly, h, Bool.and_eq_true, beq_iff_eq, bne_iff_ne, ne_eq] at this
    exact this
  · rw [actionsAt_of_ge hi] at h; cases h

/-- A shift of the tables follows an edge of the automaton. -/
theorem shift_edge {t s : Nat} {X : Symbol} (hX : X.isToken = true) (ht : t ≠ 0)
    (h : effectiveAction (tsLanguageActions t X) = some (.shift s)) : Edge t X s := by
  obtain ⟨hacts, hs⟩ := shift_only h
  refine ⟨?_, ht, hs, ?_⟩
  · rintro rfl; cases hX
  · simp [tsLanguageNextState, hX, tsLanguageActions, hacts]

/-- The check of a row: `ACCEPT_INPUT` is only found in state `142`, for the end of the
input. -/
def acceptOnlyAt142 (t : Nat) : Bool :=
  (tableRow t).all fun e =>
    (t == 142 && e.1 == .tsBuiltinSymEnd) || effectiveAction (actionsAt e.2) != some .accept

theorem accept_state {t : Nat} {X : Symbol}
    (h : effectiveAction (tsLanguageActions t X) = some .accept) :
    t = 142 ∧ X = .tsBuiltinSymEnd := by
  have hall : ∀ t < 153, acceptOnlyAt142 t = true := by
    set_option maxRecDepth 8000 in decide
  have hl : tsLanguageLookup t X ≠ 0 := by
    intro h0; rw [tsLanguageActions, h0, effectiveAction_actionsAt_zero] at h; cases h
  have hmem := tsLanguageLookup_mem hl
  rcases Nat.lt_or_ge t 153 with hlt | hge
  · have := List.all_eq_true.1 (hall t hlt) _ hmem
    rw [← tsLanguageActions, h] at this
    simpa using this
  · rw [tableRow_of_ge hge] at hmem; cases hmem

/-- The reductions that end a comment: `comment → # content` in state `152`, and
`comment → // body /` or `/* body /` in state `151`. -/
theorem endOfComment_action {t : Nat} {A : Symbol} {n pid : Nat} (ht : t = 151 ∨ t = 152)
    (h : effectiveAction (tsLanguageActions t .tsBuiltinSymEnd) = some (.reduce A n pid)) :
    A = .symComment ∧ (t = 151 ∧ n = 3 ∨ t = 152 ∧ n = 2) := by
  rcases ht with rfl | rfl
  · have h' : effectiveAction (tsLanguageActions 151 .tsBuiltinSymEnd) =
        some (.reduce .symComment 3 0) := rfl
    rw [h'] at h; cases h; exact ⟨rfl, .inl ⟨rfl, rfl⟩⟩
  · have h' : effectiveAction (tsLanguageActions 152 .tsBuiltinSymEnd) =
        some (.reduce .symComment 2 0) := rfl
    rw [h'] at h; cases h; exact ⟨rfl, .inr ⟨rfl, rfl⟩⟩

/-- Every symbol the lexer accepts is a token. -/
theorem tsLexAccept_isToken {state : Nat} {X : Symbol} (h : tsLexAccept state = some X) :
    X.isToken = true := by
  have hall : ∀ s < 160, (tsLexAccept s).all Symbol.isToken = true := by
    set_option maxRecDepth 8000 in decide
  rcases Nat.lt_or_ge state 160 with hs | hs
  · simpa [h] using hall state hs
  · have : tsLexAccept state = none := by
      simp [tsLexAccept, List.getD_eq_getElem?_getD,
        List.getElem?_eq_none (show tsLexAcceptTable.length ≤ state from hs)]
    rw [this] at h; cases h

theorem acceptAt_isToken {state pos start : Nat} {rest : List Char} {acc : Option Lexeme}
    (hacc : ∀ la ∈ acc, la.1.symbol.isToken = true) :
    ∀ la ∈ acceptAt state pos start rest acc, la.1.symbol.isToken = true := by
  unfold acceptAt
  split
  · next h => rintro la ⟨⟩; exact tsLexAccept_isToken h
  · exact hacc

theorem tsLexRun_isToken :
    ∀ {input : List Char} {state pos start : Nat} {acc : Option Lexeme},
      (∀ la ∈ acc, la.1.symbol.isToken = true) →
      ∀ la ∈ tsLexRun state pos start acc input, la.1.symbol.isToken = true
  | [], state, pos, start, acc, hacc => by
    have h1 := @acceptAt_isToken state pos start [] acc hacc
    unfold tsLexRun
    split
    all_goals first | exact h1 | exact acceptAt_isToken h1
  | c :: rest, state, pos, start, acc, hacc => by
    have h1 := @acceptAt_isToken state pos start (c :: rest) acc hacc
    unfold tsLexRun
    split
    all_goals first | exact h1 | exact tsLexRun_isToken h1

/-- **The lexer only returns tokens.** -/
theorem tsLex_isToken {mode pos : Nat} {input : List Char} {la : Lexeme}
    (h : tsLex mode pos input = some la) : la.1.symbol.isToken = true :=
  tsLexRun_isToken (by simp) la h

/-- The parse states that lex nothing are the two that end a comment. -/
theorem noLexState_states {t : Nat} (h : tsLexModes t = noLexState) : t = 151 ∨ t = 152 := by
  have hall : ∀ s < 153, tsLexModes s = noLexState → s = 151 ∨ s = 152 := by decide
  rcases Nat.lt_or_ge t 153 with ht | ht
  · exact hall t ht h
  · have : tsLexModes t = 0 := by
      simp [tsLexModes, List.getD_eq_getElem?_getD,
        List.getElem?_eq_none (show tsLexModesTable.length ≤ t from ht)]
    rw [this] at h; cases h

/-! ## Trees on the stack -/

/-- A derivation tree of the grammar the tables implement in which no node is extra. -/
def Clean (t : Subtree) : Prop := Derives true t = true ∧ ∀ s ∈ t.subtrees, s.extra = false

/-- A node that is not extra over clean children that spell a production is clean. -/
theorem clean_node {A : Symbol} {pid : Nat} {cs : List Subtree}
    (hprod : IsProduction true A pid (cs.map Subtree.symbol) = true) (hcs : ∀ c ∈ cs, Clean c) :
    Clean (.node A pid false cs) := by
  refine ⟨?_, ?_⟩
  · simp only [Derives, hprod, Bool.true_and]
    exact derivesAll_iff.2 fun c hc => (hcs c hc).1
  · intro s hs
    simp only [Subtree.subtrees, List.mem_cons, mem_subtreesList] at hs
    rcases hs with rfl | ⟨c, hc, hs⟩
    · rfl
    · exact (hcs c hc).2 s hs

/-- The children of a clean node are clean. -/
theorem Clean.children {A : Symbol} {pid : Nat} {e : Bool} {cs : List Subtree}
    (h : Clean (.node A pid e cs)) : ∀ c ∈ cs, Clean c := by
  intro c hc
  have hd := h.1
  simp only [Derives, Bool.and_eq_true] at hd
  refine ⟨derivesAll_iff.1 hd.2 c hc, fun s hs => h.2 s ?_⟩
  simp only [Subtree.subtrees, List.mem_cons, mem_subtreesList]
  exact .inr ⟨c, hc, hs⟩

/-- A subtree the stack may hold: an extra one is a comment; any other is no comment and,
with its comments erased, a clean derivation tree. -/
def TreeOk (t : Subtree) : Prop :=
  if t.extra then t.isComment = true
  else t.isComment = false ∧ Clean t.eraseComments

theorem TreeOk.isComment {t : Subtree} (h : TreeOk t) : t.isComment = t.extra := by
  unfold TreeOk at h
  split at h
  · next he => rw [h, he]
  · next he => rw [h.1]; simpa using he

/-- The invariant of the driver's configurations. -/
structure ConfigOk (c : Config) : Prop where
  stack : StackOk c.stack
  trees : ∀ e ∈ c.stack, TreeOk e.tree
  lookahead : ∀ la, c.lookahead = some la →
    la.1.symbol.isToken = true ∧ tsLexModes (topState c.stack) ≠ noLexState

theorem configOk_init (input : List Char) : ConfigOk (Config.init input) :=
  ⟨trivial, by simp [Config.init], by simp [Config.init]⟩

theorem splitTrailingExtras_append (ts : List Subtree) :
    (splitTrailingExtras ts).1 ++ (splitTrailingExtras ts).2 = ts := by
  unfold splitTrailingExtras
  rw [← List.reverse_append, List.takeWhile_append_dropWhile, List.reverse_reverse]

theorem splitTrailingExtras_extra {ts : List Subtree} :
    ∀ t ∈ (splitTrailingExtras ts).2, t.extra = true := by
  intro t ht
  unfold splitTrailingExtras at ht
  simpa using List.mem_takeWhile_imp (List.mem_reverse.1 ht)

/-- With every comment extra, erasing the comments of a list keeps its subtrees that are
not extra, each erased. -/
theorem eraseCommentsList_eq {ts : List Subtree} (h : ∀ t ∈ ts, t.isComment = t.extra) :
    eraseCommentsList ts = (nonExtra ts).map Subtree.eraseComments := by
  induction ts with
  | nil => rfl
  | cons t ts ih =>
    have ih := ih (fun t' ht' => h t' (List.mem_cons_of_mem _ ht'))
    have ht := h t (List.mem_cons_self _ _)
    rw [eraseCommentsList_cons, ht, show t :: ts = [t] ++ ts from rfl, nonExtra_append,
      nonExtra_singleton, ih]
    cases t.extra <;> rfl

/-- The number of entries of a stack that are not extra. -/
def entryCount (σ : List StackEntry) : Nat := (nonExtra (σ.map (·.tree))).length

theorem entryCount_append (σ σ' : List StackEntry) :
    entryCount (σ ++ σ') = entryCount σ + entryCount σ' := by
  simp [entryCount, nonExtra_append]

theorem nonExtra_reverse (ts : List Subtree) : nonExtra ts.reverse = (nonExtra ts).reverse := by
  simp [nonExtra, List.filter_reverse]

/-- Extra subtrees pushed above an entry, in the entry's state, keep the invariant and add
no entry that counts. -/
theorem pushExtras_ok {g : Nat} {p : Subtree} {σ : List StackEntry}
    (hσ : StackOk (⟨g, p⟩ :: σ)) (htrees : ∀ x ∈ ⟨g, p⟩ :: σ, TreeOk x.tree) :
    ∀ {xs : List Subtree}, (∀ t ∈ xs, TreeOk t ∧ t.extra = true) →
      StackOk (xs.map (⟨g, ·⟩) ++ ⟨g, p⟩ :: σ) ∧
      (∀ x ∈ xs.map (⟨g, ·⟩) ++ ⟨g, p⟩ :: σ, TreeOk x.tree) ∧
      topState (xs.map (⟨g, ·⟩) ++ ⟨g, p⟩ :: σ) = g ∧
      entryCount (xs.map (⟨g, ·⟩) ++ ⟨g, p⟩ :: σ) = entryCount (⟨g, p⟩ :: σ)
  | [], _ => ⟨hσ, htrees, rfl, rfl⟩
  | t :: xs, hxs => by
    obtain ⟨ht, hext⟩ := hxs t (List.mem_cons_self _ _)
    obtain ⟨h1, h2, h3, h4⟩ := @pushExtras_ok _ _ _ hσ htrees xs
      (fun t' ht' => hxs t' (List.mem_cons_of_mem _ ht'))
    refine ⟨⟨h1, ?_⟩, ?_, rfl, ?_⟩
    · simp only [EntryOk, hext, if_true]
      exact h3.symm
    · rintro x (_ | ⟨_, hx⟩)
      exacts [ht, h2 x hx]
    · rw [← h4]
      simp [entryCount, nonExtra, hext]

/-- **What a reduction does to the stack.** It pops entries that spell a path into the top
state and whose non-extra subtrees are the `n` children; it pushes the parent in the goto
state of the state left on top, and above it, in the same state, the extra subtrees that
ended the children. -/
theorem reduce_cases {σ σ'' : List StackEntry} {A : Symbol} {n pid : Nat} {endOfExtra : Bool}
    (hσ : StackOk σ) (hr : reduce σ A n pid endOfExtra = some σ'') :
    ∃ ts σ', StackOk σ' ∧ (nonExtra ts).length = n ∧
      EdgePath (topState σ') ((nonExtra ts).map Subtree.symbol) (topState σ) ∧
      (∀ t ∈ ts, ∃ x ∈ σ, x.tree = t) ∧ (∀ x ∈ σ', x ∈ σ) ∧ entryCount σ = n + entryCount σ' ∧
      σ'' = (splitTrailingExtras ts).2.reverse.map (⟨tsLanguageNextState (topState σ') A, ·⟩) ++
        ⟨tsLanguageNextState (topState σ') A, .node A pid
          (endOfExtra && tsLanguageNextState (topState σ') A == topState σ')
          (splitTrailingExtras ts).1⟩ :: σ' := by
  obtain ⟨⟨ts, σ'⟩, hp, rfl⟩ := Option.map_eq_some'.1 hr
  obtain ⟨hσ', hlen, hpath⟩ := popCount_path hσ hp
  obtain ⟨pre, rfl, hpre⟩ := popCount_split hp
  refine ⟨ts, σ', hσ', hlen, hpath, ?_, fun x hx => List.mem_append_right _ hx, ?_, rfl⟩
  · intro t ht
    rw [← hpre] at ht
    obtain ⟨x, hx, rfl⟩ := List.mem_map.1 ht
    exact ⟨x, List.mem_append_left _ (List.mem_reverse.1 hx), rfl⟩
  · rw [entryCount_append, ← hlen, ← hpre, entryCount, List.map_reverse, nonExtra_reverse,
      List.length_reverse]

/-- The trailing extras of a reduction's children are well formed extra subtrees. -/
theorem trailingExtras_ok {ts : List Subtree} (hts : ∀ t ∈ ts, TreeOk t) :
    ∀ t ∈ (splitTrailingExtras ts).2.reverse, TreeOk t ∧ t.extra = true := by
  intro t ht
  have ht := List.mem_reverse.1 ht
  refine ⟨hts t ?_, splitTrailingExtras_extra t ht⟩
  rw [← splitTrailingExtras_append ts]
  exact List.mem_append_right _ ht

/-- **A reduction the tables certify keeps the invariant of the stack and its trees**, and
lowers the potential: the rank of the top state drops by more than `3` for each entry it
removes beyond the first. -/
theorem reduce_ok {σ σ'' : List StackEntry} {A : Symbol} {n pid : Nat}
    (hσ : StackOk σ) (htrees : ∀ e ∈ σ, TreeOk e.tree)
    (hcomm : topState σ ∉ commentStates) (hcert : reduceCertificate (topState σ) A n pid = true)
    (hr : reduce σ A n pid false = some σ'') :
    StackOk σ'' ∧ (∀ e ∈ σ'', TreeOk e.tree) ∧ tsLexModes (topState σ'') ≠ noLexState ∧
      rank (topState σ'') + 3 < rank (topState σ) + 3 * n ∧
      entryCount σ'' + n = entryCount σ + 1 := by
  obtain ⟨ts, σ', hσ', hlen, hpath, hts, hσσ', hcount, rfl⟩ := reduce_cases hσ hr
  simp only [Bool.false_and]
  have hmem := edgePath_mem_backPaths hpath hcomm
  rw [List.length_map, hlen] at hmem
  have hc := List.all_eq_true.1 hcert _ hmem
  simp only [Bool.and_eq_true, bne_iff_ne, ne_eq, decide_eq_true_eq] at hc
  obtain ⟨⟨hprod, hg⟩, hrank⟩ := hc
  have hts : ∀ t ∈ ts, TreeOk t := fun t ht => by
    obtain ⟨x, hx, rfl⟩ := hts t ht
    exact htrees x hx
  have hsplit := splitTrailingExtras_append ts
  -- the children of the parent are those of the reduction, up to trailing extras
  have hkids : nonExtra (splitTrailingExtras ts).1 = nonExtra ts := by
    have hnil : nonExtra (splitTrailingExtras ts).2 = [] := by
      simp only [nonExtra, List.filter_eq_nil_iff]
      intro t ht; simp [splitTrailingExtras_extra t ht]
    conv => rhs; rw [← hsplit]
    rw [nonExtra_append, hnil, List.append_nil]
  have hA : A ≠ .symComment := by
    rintro rfl; simp [IsProduction, productionsOf] at hprod
  have hparent : TreeOk (.node A pid false (splitTrailingExtras ts).1) := by
    have hk : ∀ t ∈ (splitTrailingExtras ts).1, t.isComment = t.extra := fun t ht =>
      (hts t (by rw [← hsplit]; exact List.mem_append_left _ ht)).isComment
    refine ⟨by simpa [Subtree.isComment] using hA, ?_⟩
    rw [Subtree.eraseComments, eraseCommentsList_eq hk, hkids]
    refine clean_node (by simpa [Function.comp_def] using hprod) fun t ht => ?_
    obtain ⟨k, hk', rfl⟩ := List.mem_map.1 ht
    have hkx : k.extra = false := by simpa [nonExtra] using (List.mem_filter.1 hk').2
    have := hts k (List.mem_filter.1 hk').1
    rw [TreeOk, hkx, if_neg Bool.false_ne_true] at this
    exact this.2
  have hentry : StackOk (⟨tsLanguageNextState (topState σ') A, .node A pid false
      (splitTrailingExtras ts).1⟩ :: σ') :=
    ⟨hσ', by
      unfold EntryOk
      simp only [Subtree.extra, Bool.false_eq_true, if_false, Subtree.symbol]
      exact ⟨hA, topState_ne_zero hσ', hg, rfl⟩⟩
  obtain ⟨hok, htr, htop, hcnt⟩ := pushExtras_ok hentry
    (by rintro x (_ | ⟨_, hx⟩); exacts [hparent, htrees x (hσσ' x hx)]) (trailingExtras_ok hts)
  refine ⟨hok, htr, fun hm => ?_, by rw [htop]; exact hrank, ?_⟩
  · -- the goto state lexes: no nonterminal leads to the end of a comment
    rw [htop] at hm
    rcases edge_into_end hentry.2 (noLexState_states hm) with rfl | rfl <;>
      simp [IsProduction, productionsOf] at hprod
  · rw [hcnt, hcount]
    simp [entryCount, nonExtra, Subtree.extra]
    omega

/-- **The reduction that ends a comment keeps the invariant.** The comment was started from a
state with an edge on its first token; the goto of a comment from there is that state, so
the comment node is extra and repeats it. The reduction removes the comment's `n` entries
and adds none that counts. -/
theorem commentReduce_ok {σ σ'' : List StackEntry} {n pid : Nat}
    (hσ : StackOk σ) (htrees : ∀ e ∈ σ, TreeOk e.tree)
    (ht : topState σ = 151 ∧ n = 3 ∨ topState σ = 152 ∧ n = 2)
    (hr : reduce σ .symComment n pid true = some σ'') :
    StackOk σ'' ∧ (∀ e ∈ σ'', TreeOk e.tree) ∧ rank (topState σ'') < rank (topState σ) + 3 * n ∧
      entryCount σ'' + n = entryCount σ := by
  obtain ⟨ts, σ', hσ', hlen, hpath, hts, hσσ', hcount, rfl⟩ := reduce_cases hσ hr
  obtain ⟨X, v, hX, hedge⟩ := commentPath_start hpath (by simpa [hlen] using ht)
  simp only [commentGoto_of_edge hedge hX, beq_self_eq_true, Bool.and_self]
  have hts : ∀ t ∈ ts, TreeOk t := fun t ht => by
    obtain ⟨x, hx, rfl⟩ := hts t ht
    exact htrees x hx
  have hentry : StackOk (⟨topState σ', .node .symComment pid true (splitTrailingExtras ts).1⟩ ::
      σ') := ⟨hσ', by simp [EntryOk, Subtree.extra]⟩
  have hparent : TreeOk (.node .symComment pid true (splitTrailingExtras ts).1) := by
    simp [TreeOk, Subtree.extra, Subtree.isComment, Subtree.symbol]
  obtain ⟨hok, htr, htop, hcnt⟩ := pushExtras_ok hentry
    (by rintro x (_ | ⟨_, hx⟩); exacts [hparent, htrees x (hσσ' x hx)]) (trailingExtras_ok hts)
  refine ⟨hok, htr, ?_, ?_⟩
  · rw [htop]
    have := rank_le (topState σ')
    rcases ht with ⟨-, rfl⟩ | ⟨-, rfl⟩ <;> omega
  · rw [hcnt, hcount]
    simp [entryCount, nonExtra, Subtree.extra]
    omega

/-! ## Every step keeps the invariant -/

/-- **Every step keeps the invariant.** Lexing gives a token in a state that lexes; a shift
follows an edge on a token; a reduction for a token is certified by the tables; the
end-of-input reduction of a state that lexes nothing ends a comment. -/
theorem step_configOk {c c' : Config} (hc : ConfigOk c) (h : step c = .next c') :
    ConfigOk c' := by
  rcases step_cases h with ⟨-, hm, la, hx, rfl⟩ | ⟨tok, rest, s, hl, ha, rfl⟩ |
    ⟨tok, rest, A, n, pid, σ'', hl, ha, hr, rfl⟩ | ⟨A, n, pid, σ'', hl, hm, ha, hr, rfl⟩
  · -- lex
    refine ⟨hc.stack, hc.trees, ?_⟩
    rintro _ ⟨⟩
    exact ⟨tsLex_isToken hx, hm⟩
  · -- shift
    have htok := (hc.lookahead _ hl).1
    refine ⟨⟨hc.stack, ?_⟩, ?_, by simp⟩
    · simpa [EntryOk, Subtree.extra, Subtree.symbol] using
        shift_edge htok (topState_ne_zero hc.stack) ha
    · rintro e (_ | ⟨_, he⟩)
      · have hc' : tok.symbol ≠ .symComment := by rintro h; rw [h] at htok; cases htok
        simp [TreeOk, Clean, Subtree.extra, Subtree.isComment, Subtree.symbol,
          Subtree.eraseComments, Subtree.subtrees, Derives, hc', htok]
      · exact hc.trees e he
  · -- reduce for the lookahead
    obtain ⟨htok, hm⟩ := hc.lookahead _ hl
    have h151 : topState c.stack ≠ 151 := fun h => hm (by rw [h]; rfl)
    have h152 : topState c.stack ≠ 152 := fun h => hm (by rw [h]; rfl)
    obtain ⟨hcomm, hcert⟩ := reduce_certified htok ha h151 h152
    obtain ⟨hok, htr, hm', -⟩ := reduce_ok hc.stack hc.trees hcomm hcert hr
    refine ⟨hok, htr, ?_⟩
    rintro _ h'
    rw [hl] at h'
    cases h'
    exact ⟨htok, hm'⟩
  · -- end of a comment
    obtain ⟨rfl, ht⟩ := endOfComment_action (noLexState_states hm) ha
    obtain ⟨hok, htr, -⟩ := commentReduce_ok hc.stack hc.trees ht hr
    refine ⟨hok, htr, fun _ h => ?_⟩
    rw [hl] at h
    cases h

/-! ## The accepted tree -/

/-- No edge leads into the start state `1`, and only `runbook` from `1` into the accepting
state `142`. -/
theorem edge_into_start {v w : Nat} {X : Symbol} (h : Edge v X w) :
    w ≠ 1 ∧ (w = 142 → v = 1 ∧ X = .symRunbook) := by
  cases hX : X.isCommentStart
  · obtain ⟨g, hg, hgX, hvg⟩ := mem_predsOf (preds_complete h hX)
    have h1 : tsPreds.getD 1 [] = [] := rfl
    have h142 : tsPreds.getD 142 [] = [(.symRunbook, [1])] := rfl
    refine ⟨?_, ?_⟩ <;> rintro rfl
    · rw [h1] at hg; cases hg
    · rw [h142, List.mem_singleton] at hg
      subst hg
      exact ⟨List.mem_singleton.1 hvg, hgX.symm⟩
  · have := edge_commentStart h hX
    constructor <;> rintro rfl <;> split at this <;> simp at this

/-- Every entry of a stack whose top state is `1` is extra. -/
theorem extra_of_topState_one : ∀ {σ : List StackEntry}, StackOk σ → topState σ = 1 →
    ∀ e ∈ σ, e.tree.extra = true
  | [], _, _ => by simp
  | e :: σ, ⟨hσ, he⟩, h1 => by
    unfold EntryOk at he
    split at he
    · next hx =>
      rintro x (_ | ⟨_, hx'⟩)
      exacts [hx, extra_of_topState_one hσ (by rw [← he]; exact h1) x hx']
    · exact absurd h1 (edge_into_start he).1

/-- A stack that does not stand in state `1` has a topmost entry that is not extra, with
only extra entries above it. -/
theorem topmost_nonExtra : ∀ {σ : List StackEntry}, StackOk σ → topState σ ≠ 1 →
    ∃ top e rest, σ = top ++ e :: rest ∧ (∀ x ∈ top, x.tree.extra = true) ∧ StackOk rest ∧
      e.tree.extra = false ∧ Edge (topState rest) e.tree.symbol (topState σ)
  | [], _, h => absurd rfl h
  | e :: σ, ⟨hσ, he⟩, h1 => by
    unfold EntryOk at he
    split at he
    · next hx =>
      obtain ⟨top, e', rest, rfl, htop, hrest, hx', hedge⟩ :=
        topmost_nonExtra hσ (by rw [← he]; exact h1)
      refine ⟨e :: top, e', rest, rfl, ?_, hrest, hx', by rw [topState, he]; exact hedge⟩
      rintro x (_ | ⟨_, hx''⟩)
      exacts [hx, htop x hx'']
    · next hx => exact ⟨[], e, σ, rfl, by simp, hσ, by simpa using hx, he⟩

/-- `ts_parser__accept` over extra subtrees on top of the root: they follow its children. -/
theorem acceptRoot_extras {R : Subtree} {below : List Subtree} (hR : R.extra = false) :
    ∀ {ts after : List Subtree}, (∀ t ∈ ts, t.extra = true) →
      acceptRoot (ts ++ R :: below) after =
        some (.node R.symbol R.productionId false (below.reverse ++ R.children ++ ts.reverse ++ after))
  | [], after, _ => by simp [acceptRoot, hR]
  | t :: ts, after, hts => by
    rw [List.cons_append, acceptRoot, if_pos (hts t (List.mem_cons_self _ _)),
      acceptRoot_extras hR (fun t' ht' => hts t' (List.mem_cons_of_mem _ ht'))]
    simp

/-- Comments erase to nothing. -/
theorem eraseCommentsList_of_comments {ts : List Subtree} (h : ∀ t ∈ ts, t.isComment = true) :
    eraseCommentsList ts = [] := by
  induction ts with
  | nil => rfl
  | cons t ts ih =>
    rw [eraseCommentsList_cons, if_pos (h t (List.mem_cons_self _ _))]
    exact ih fun t' ht' => h t' (List.mem_cons_of_mem _ ht')

/-- **The root `ts_parser__accept` builds in state `142`.** Below the topmost entry that is
not extra, a `runbook`, the stack holds only comments; so do the entries above it. With its
comments erased, the root is a `runbook` node whose children are clean derivation trees that
spell a production of `runbook`, followed by the end-of-input leaf. -/
theorem acceptRoot_eq {σ : List StackEntry} {tok : Token} {root : Subtree}
    (hσ : StackOk σ) (htrees : ∀ e ∈ σ, TreeOk e.tree) (h142 : topState σ = 142)
    (hr : acceptRoot (.leaf tok true :: σ.map (·.tree)) [] = some root)
    (hend : tok.symbol = .tsBuiltinSymEnd) :
    ∃ pid cs, root.eraseComments = .node .symRunbook pid false (cs ++ [.leaf tok true]) ∧
      IsProduction true .symRunbook pid (cs.map Subtree.symbol) = true ∧ ∀ c ∈ cs, Clean c := by
  obtain ⟨top, R, rest, rfl, htop, hrest, hRx, hedge⟩ := topmost_nonExtra hσ (by omega)
  obtain ⟨h1, hRs⟩ := (edge_into_start hedge).2 h142
  -- every other entry holds a comment
  have hcomments : ∀ xs ⊆ top ++ rest, eraseCommentsList (xs.map (·.tree)).reverse = [] := by
    intro xs hxs
    refine eraseCommentsList_of_comments fun t ht => ?_
    obtain ⟨e, he, rfl⟩ := List.mem_map.1 (List.mem_reverse.1 ht)
    have hx : e.tree.extra = true := by
      rcases List.mem_append.1 (hxs he) with he | he
      exacts [htop e he, extra_of_topState_one hrest h1 e he]
    have hmem : e ∈ top ++ R :: rest := by
      rcases List.mem_append.1 (hxs he) with h | h <;> simp [h]
    rw [(htrees e hmem).isComment, hx]
  have hR := htrees R (by simp)
  rw [TreeOk, hRx, if_neg Bool.false_ne_true] at hR
  rw [show Subtree.leaf tok true :: (top ++ R :: rest).map (·.tree) =
      (Subtree.leaf tok true :: top.map (·.tree)) ++ R.tree :: rest.map (·.tree) by simp,
    acceptRoot_extras hRx (by
      rintro t (_ | ⟨_, ht⟩)
      · rfl
      · obtain ⟨e, he, rfl⟩ := List.mem_map.1 ht
        exact htop e he)] at hr
  cases hr
  have hleaf : (Subtree.leaf tok true).isComment = false := by
    simp [Subtree.isComment, Subtree.symbol, hend]
  cases hT : R.tree with
  | leaf tok' e =>
    rw [hT] at hRs hR
    have := hR.2.1
    simp only [Subtree.symbol] at hRs
    rw [Subtree.eraseComments, Derives, hRs] at this
    cases this
  | node A pid e cs =>
    rw [hT] at hRs hR
    cases hRs
    obtain ⟨-, hclean⟩ := hR
    refine ⟨pid, eraseCommentsList cs, ?_, ?_, hclean.children⟩
    · simp only [Subtree.eraseComments, List.reverse_cons, List.append_nil,
        eraseCommentsList_append, hcomments rest (List.subset_append_right _ _),
        hcomments top (List.subset_append_left _ _), eraseCommentsList_cons, hleaf,
        eraseCommentsList_nil, List.nil_append, Subtree.symbol, Subtree.productionId,
        Subtree.children, if_false, Bool.false_eq_true]
    · have hd := hclean.1
      simp only [Subtree.eraseComments, Derives, Bool.and_eq_true] at hd
      exact hd.1

/-- **Soundness of the parser.** A tree the driver accepts is, with its comments erased, a
`runbook` node whose children are derivation trees of the grammar the tables implement, with
no extra node, that spell a production of `runbook`, followed by the end-of-input leaf. Every
configuration a run reaches keeps the invariant (`step_configOk`), and `ACCEPT_INPUT` is only
taken in state `142` on the end of the input. -/
theorem accepts_root {input : List Char} {t : Subtree} (h : Accepts input t) :
    ∃ pid cs tok, t.eraseComments = .node .symRunbook pid false (cs ++ [.leaf tok true]) ∧
      tok.symbol = .tsBuiltinSymEnd ∧
      IsProduction true .symRunbook pid (cs.map Subtree.symbol) = true ∧ ∀ c ∈ cs, Clean c := by
  obtain ⟨c, hreach, hstep⟩ := h.exists_reaches
  have hc := hreach.invariant (fun _ _ => step_configOk) (configOk_init input)
  obtain ⟨tok, rest, -, ha, hr⟩ := step_accepted hstep
  obtain ⟨h142, hend⟩ := accept_state ha
  obtain ⟨pid, cs, heq, hprod, hcs⟩ := acceptRoot_eq hc.stack hc.trees h142 hr hend
  exact ⟨pid, cs, tok, heq, hend, hprod, hcs⟩

/-- A tree the driver accepts is, with its comments erased, a document tree of the grammar
the tables implement. -/
theorem accepts_isDocumentTree {input : List Char} {t : Subtree} (h : Accepts input t) :
    IsDocumentTree true t.eraseComments = true := by
  obtain ⟨pid, cs, tok, heq, hend, hprod, hcs⟩ := accepts_root h
  rw [heq]
  simp [IsDocumentTree, hend, Derives, hprod, derivesAll_iff.2 fun c hc => (hcs c hc).1]

end TreeSitterTxtx
