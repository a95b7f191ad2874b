import TreeSitterTxtx.Automaton

/-!
# The stack and the reductions

`StackOk` is the invariant the driver keeps on its stack: read from the bottom, each entry
that is not extra follows an edge of the automaton from the state below it, and each extra
entry repeats the state below it. The entries a reduction pops then spell a path into the
state on top (`popCount_path`), and away from the comment states every such path is one of
the finitely many `backPaths` (`edgePath_mem_backPaths`).

`reduceCertificate` is checked for every reduction of the tables (`reduce_certified`): along
each path below it, the children spell a production of the grammar `productionsOf true`,
the goto of the state below exists, and the potential `rank` of the state reached is lower
than the one of the state left, by more than `3` for each child taken off beyond the first.
From it a reduction keeps the invariant (`reduce_stackOk`).
-/

namespace TreeSitterTxtx

/-! ## The invariant -/

/-- An entry `e` above state `s`: an extra entry repeats `s`, any other follows an edge from
`s` on the symbol of its tree. -/
def EntryOk (s : Nat) (e : StackEntry) : Prop :=
  if e.tree.extra then e.state = s else Edge s e.tree.symbol e.state

/-- The stack agrees with the automaton, entry by entry from the bottom. -/
def StackOk : List StackEntry → Prop
  | [] => True
  | e :: σ => StackOk σ ∧ EntryOk (topState σ) e

@[simp] theorem stackOk_nil : StackOk [] := trivial

@[simp] theorem stackOk_cons {e : StackEntry} {σ : List StackEntry} :
    StackOk (e :: σ) ↔ StackOk σ ∧ EntryOk (topState σ) e := Iff.rfl

/-- No state on a stack the invariant holds of is `0`. -/
theorem topState_ne_zero : ∀ {σ : List StackEntry}, StackOk σ → topState σ ≠ 0
  | [], _ => by simp [topState]
  | e :: σ, ⟨hσ, he⟩ => by
    unfold EntryOk at he
    split at he
    · rw [topState, he]; exact topState_ne_zero hσ
    · exact he.2.2.1

/-- The subtrees a reduction counts: those that are not extra. -/
def nonExtra (ts : List Subtree) : List Subtree := ts.filter fun t => !t.extra

@[simp] theorem nonExtra_nil : nonExtra [] = [] := rfl

theorem nonExtra_append (ts us : List Subtree) :
    nonExtra (ts ++ us) = nonExtra ts ++ nonExtra us := by
  simp [nonExtra, List.filter_append]

theorem nonExtra_singleton (t : Subtree) :
    nonExtra [t] = if t.extra then [] else [t] := by
  cases h : t.extra <;> simp [nonExtra, h]

/-- **The entries a reduction pops spell a path into the top state**, from the state left
on top below them; the count of those that are not extra is the count asked for. -/
theorem popCount_path :
    ∀ {σ : List StackEntry} {n : Nat} {ts : List Subtree} {σ' : List StackEntry},
      StackOk σ → popCount n σ = some (ts, σ') →
      StackOk σ' ∧ (nonExtra ts).length = n ∧
        EdgePath (topState σ') ((nonExtra ts).map Subtree.symbol) (topState σ)
  | σ, 0, ts, σ', hσ, h => by
    simp only [popCount, Option.some.injEq, Prod.mk.injEq] at h
    obtain ⟨rfl, rfl⟩ := h
    exact ⟨hσ, rfl, .nil _⟩
  | [], n + 1, ts, σ', _, h => by simp [popCount] at h
  | e :: σ, n + 1, ts, σ', ⟨hσ, he⟩, h => by
    unfold popCount at h
    unfold EntryOk at he
    split at h
    · next hex =>
      rw [if_pos hex] at he
      obtain ⟨r, hr, hts⟩ := Option.map_eq_some'.1 h
      cases hts
      obtain ⟨h1, h2, h3⟩ := popCount_path hσ hr
      refine ⟨h1, ?_, ?_⟩ <;> simp only [nonExtra_append, nonExtra_singleton, hex, if_true,
        List.append_nil]
      · exact h2
      · rw [topState, he]; exact h3
    · next hex =>
      rw [if_neg hex] at he
      obtain ⟨r, hr, hts⟩ := Option.map_eq_some'.1 h
      cases hts
      obtain ⟨h1, h2, h3⟩ := popCount_path hσ hr
      refine ⟨h1, ?_, ?_⟩ <;> simp only [nonExtra_append, nonExtra_singleton, hex, if_false,
        Bool.false_eq_true, List.length_append, List.length_singleton, List.map_append,
        List.map_singleton]
      · omega
      · exact .snoc h3 he

/-- `popCount` takes entries off the top: the stack is the entries taken, on the stack it
leaves, and the subtrees it returns are theirs, from the bottom up. -/
theorem popCount_split :
    ∀ {σ : List StackEntry} {n : Nat} {ts : List Subtree} {σ' : List StackEntry},
      popCount n σ = some (ts, σ') → ∃ pre, σ = pre ++ σ' ∧ pre.reverse.map (·.tree) = ts
  | σ, 0, ts, σ', h => by
    simp only [popCount, Option.some.injEq, Prod.mk.injEq] at h
    obtain ⟨rfl, rfl⟩ := h
    exact ⟨[], rfl, rfl⟩
  | [], n + 1, ts, σ', h => by simp [popCount] at h
  | e :: σ, n + 1, ts, σ', h => by
    unfold popCount at h
    split at h
    all_goals
      obtain ⟨r, hr, hts⟩ := Option.map_eq_some'.1 h
      cases hts
      obtain ⟨pre, rfl, hpre⟩ := popCount_split hr
      exact ⟨e :: pre, rfl, by simp [hpre]⟩

/-! ## Paths into a state -/

/-- The paths of length `n` into `t` that the predecessor table gives: each with the state
it starts from and the symbols it spells. -/
def backPaths : Nat → Nat → List (Nat × List Symbol)
  | 0, t => [(t, [])]
  | n + 1, t => (tsPreds.getD t []).flatMap fun g =>
      g.2.flatMap fun u => (backPaths n u).map fun p => (p.1, p.2 ++ [g.1])

theorem mem_backPaths_succ {n t u v : Nat} {xs : List Symbol} {X : Symbol}
    (hp : (u, xs) ∈ backPaths n v) (hv : v ∈ predsOf t X) :
    (u, xs ++ [X]) ∈ backPaths (n + 1) t := by
  obtain ⟨g, hg, rfl, hvg⟩ := mem_predsOf hv
  exact List.mem_flatMap.2 ⟨g, hg, List.mem_flatMap.2 ⟨v, hvg, List.mem_map.2 ⟨_, hp, rfl⟩⟩⟩

set_option maxRecDepth 4000 in
/-- No edge leaves the comment states. -/
theorem edge_commentStates {u v : Nat} {X : Symbol} (h : Edge u X v) (hu : u ∈ commentStates) :
    v ∈ commentStates := by
  have hall : ∀ u ∈ commentStates, (tableRow u).all (fun e =>
      e.1 == .symComment || valueTarget e.1 e.2 == 0 || commentStates.contains (valueTarget e.1 e.2)) := by
    decide
  obtain ⟨hc, -, hv, rfl⟩ := h
  have := List.all_eq_true.1 (hall u hu) _ (nextState_mem hv)
  simpa [hc, hv, ← tsLanguageNextState_eq] using this

/-- **Away from the comment states, every path into a state is a back path.** -/
theorem edgePath_mem_backPaths {u t : Nat} {xs : List Symbol} (h : EdgePath u xs t)
    (ht : t ∉ commentStates) : (u, xs) ∈ backPaths xs.length t := by
  induction h with
  | nil => simp [backPaths]
  | @snoc v w xs X _ hedge ih =>
    have hv : v ∉ commentStates := fun hv => ht (edge_commentStates hedge hv)
    have hX : X.isCommentStart = false := by
      cases hX : X.isCommentStart
      · rfl
      · have := edge_commentStart hedge hX
        split at this <;> subst this <;> simp [commentStates] at ht
    simpa using mem_backPaths_succ (ih hv) (preds_complete hedge hX)

theorem EdgePath.nil_eq {u w : Nat} {xs : List Symbol} (h : EdgePath u xs w) (hxs : xs = []) :
    u = w := by
  cases h with
  | nil => rfl
  | snoc _ _ => simp at hxs

theorem EdgePath.last {u w : Nat} {ys : List Symbol} (h : EdgePath u ys w) :
    ∀ {xs : List Symbol} {X : Symbol}, ys = xs ++ [X] → ∃ v, EdgePath u xs v ∧ Edge v X w := by
  cases h with
  | nil => intro xs X h; simp at h
  | snoc hp he =>
    intro xs X h
    obtain ⟨rfl, hX⟩ := List.append_inj' h rfl
    cases List.singleton_inj.1 hX
    exact ⟨_, hp, he⟩

/-- The edges into the states of a comment, other than on a comment start: `152` is only
entered from `143` on a line comment's content, `151` from `139` on `/`, `139` from `145`
on a block comment's body; `143` and `145` are only entered on comment starts. -/
theorem edge_into_comment {v w : Nat} {X : Symbol} (h : Edge v X w)
    (hX : X.isCommentStart = false) :
    (w = 152 → v = 143 ∧ X = .auxSymCommentToken1) ∧ (w = 151 → v = 139 ∧ X = .anonSymSlash) ∧
      (w = 139 → v = 145) ∧ w ≠ 143 ∧ w ≠ 145 := by
  obtain ⟨g, hg, hgX, hvg⟩ := mem_predsOf (preds_complete h hX)
  refine ⟨?_, ?_, ?_, ?_, ?_⟩ <;> rintro rfl <;> simp [tsPreds] at hg <;> subst hg <;>
    simp_all

/-- Only `/` and a line comment's content lead into the two states that end a comment. -/
theorem edge_into_end {v w : Nat} {X : Symbol} (h : Edge v X w) (hw : w = 151 ∨ w = 152) :
    X = .anonSymSlash ∨ X = .auxSymCommentToken1 := by
  cases hX : X.isCommentStart
  · have := edge_into_comment h hX
    rcases hw with rfl | rfl
    · exact .inl (this.2.1 rfl).2
    · exact .inr (this.1 rfl).2
  · have := edge_commentStart h hX
    rcases hw with rfl | rfl <;> split at this <;> simp at this

/-- **A comment that ends was started from a state with an edge on a comment start.** -/
theorem commentPath_start {u t : Nat} {xs : List Symbol} (h : EdgePath u xs t)
    (ht : t = 151 ∧ xs.length = 3 ∨ t = 152 ∧ xs.length = 2) :
    ∃ X v, X.isCommentStart = true ∧ Edge u X v := by
  -- the edge into a state entered only on a comment start
  have start : ∀ {w : Nat} {a : Symbol}, EdgePath u [a] w → (w = 143 ∨ w = 145) →
      ∃ X v, X.isCommentStart = true ∧ Edge u X v := by
    intro w a hp hw
    obtain ⟨w', hp', he⟩ := hp.last (show [a] = [] ++ [a] from rfl)
    cases hp'.nil_eq rfl
    cases ha : a.isCommentStart
    · have := edge_into_comment he ha
      rcases hw with rfl | rfl <;> simp at this
    · exact ⟨a, w, ha, he⟩
  rcases ht with ⟨rfl, hlen⟩ | ⟨rfl, hlen⟩
  · match xs, hlen with
    | [a, b, c], _ =>
      obtain ⟨v, hp, he⟩ := h.last (show [a, b, c] = [a, b] ++ [c] from rfl)
      have hc : c.isCommentStart = false := by
        cases hc : c.isCommentStart
        · rfl
        · have := edge_commentStart he hc; split at this <;> simp at this
      obtain ⟨rfl, -⟩ := (edge_into_comment he hc).2.1 rfl
      obtain ⟨v', hp', he'⟩ := hp.last (show [a, b] = [a] ++ [b] from rfl)
      have hb : b.isCommentStart = false := by
        cases hb : b.isCommentStart
        · rfl
        · have := edge_commentStart he' hb; split at this <;> simp at this
      cases (edge_into_comment he' hb).2.2.1 rfl
      exact start hp' (.inr rfl)
  · match xs, hlen with
    | [a, b], _ =>
      obtain ⟨v, hp, he⟩ := h.last (show [a, b] = [a] ++ [b] from rfl)
      have hb : b.isCommentStart = false := by
        cases hb : b.isCommentStart
        · rfl
        · have := edge_commentStart he hb; split at this <;> simp at this
      obtain ⟨rfl, -⟩ := (edge_into_comment he hb).1 rfl
      exact start hp (.inl rfl)

/-! ## The reductions of the tables -/

/-- A potential on parse states: every reduction lowers it (with `3` for each stack entry it
removes), and so does every shift of a token that takes no input. -/
def stateRank : List Nat :=
  [5, 5, 5, 5, 5, 5, 5, 5, 5, 5, 5, 5, 5, 5, 5, 5,
   5, 5, 5, 5, 5, 5, 5, 5, 5, 5, 5, 5, 3, 3, 5, 5,
   4, 5, 5, 5, 5, 5, 5, 5, 5, 3, 5, 3, 5, 5, 3, 5,
   4, 5, 5, 5, 5, 5, 5, 5, 5, 5, 5, 5, 5, 5, 5, 5,
   3, 5, 5, 3, 5, 5, 3, 3, 5, 3, 5, 5, 5, 3, 5, 5,
   3, 5, 5, 3, 3, 5, 5, 5, 5, 5, 5, 5, 5, 4, 5, 3,
   3, 5, 5, 5, 5, 5, 5, 4, 4, 5, 5, 5, 5, 5, 5, 5,
   5, 5, 5, 5, 5, 5, 5, 5, 5, 5, 5, 5, 5, 5, 5, 5,
   5, 0, 0, 5, 5, 5, 5, 5, 5, 5, 5, 5, 5, 0, 1, 5,
   5, 5, 5, 5, 0, 5, 5, 5, 0]

/-- The potential of a parse state. -/
def rank (state : Nat) : Nat := stateRank.getD state 0

theorem rank_le (state : Nat) : rank state ≤ 5 := by
  have hall : ∀ s < 153, rank s ≤ 5 := by decide
  rcases Nat.lt_or_ge state 153 with h | h
  · exact hall state h
  · simp [rank, List.getD_eq_getElem?_getD, List.getElem?_eq_none (show stateRank.length ≤ state from h)]

/-- What a reduction by `A` of `n` children under production id `pid` needs of each path
below state `t`: the children spell a production of `A`, the goto from the state the path
starts in exists, and the rank drops by more than `3` for each child beyond the first. -/
def reduceCertificate (t : Nat) (A : Symbol) (n pid : Nat) : Bool :=
  (backPaths n t).all fun p =>
    IsProduction true A pid p.2 && tsLanguageNextState p.1 A != 0 &&
      decide (rank (tsLanguageNextState p.1 A) + 3 < rank t + 3 * n)

/-- The check of the row of `t`: each reduction it holds for a token is certified, and lies
outside the comment states. -/
def rowReducesOk (t : Nat) : Bool :=
  (tableRow t).all fun e =>
    !e.1.isToken || match effectiveAction (actionsAt e.2) with
      | some (.reduce A n pid) => !commentStates.contains t && reduceCertificate t A n pid
      | _ => true

set_option maxRecDepth 8000 in
theorem rowReducesOk_all : ∀ t < 153, t ≠ 151 → t ≠ 152 → rowReducesOk t = true := by decide

theorem effectiveAction_actionsAt_zero : effectiveAction (actionsAt 0) = none := rfl

/-- **Every reduction the tables hold for a token is certified**, apart from the two
end-of-comment states. -/
theorem reduce_certified {t : Nat} {X A : Symbol} {n pid : Nat} (hX : X.isToken = true)
    (ha : effectiveAction (tsLanguageActions t X) = some (.reduce A n pid))
    (h151 : t ≠ 151) (h152 : t ≠ 152) :
    t ∉ commentStates ∧ reduceCertificate t A n pid = true := by
  have hl : tsLanguageLookup t X ≠ 0 := by
    intro h0
    rw [tsLanguageActions, h0, effectiveAction_actionsAt_zero] at ha
    cases ha
  have hmem := tsLanguageLookup_mem hl
  have hlt : t < 153 := by
    rcases Nat.lt_or_ge t 153 with h | h
    · exact h
    · rw [tableRow_of_ge h] at hmem; cases hmem
  have := List.all_eq_true.1 (rowReducesOk_all t hlt h151 h152) _ hmem
  rw [tsLanguageActions] at ha
  simp only [hX, Bool.not_true, Bool.false_or, ha, Bool.and_eq_true, Bool.not_eq_true'] at this
  exact ⟨by simpa using this.1, this.2⟩

end TreeSitterTxtx
