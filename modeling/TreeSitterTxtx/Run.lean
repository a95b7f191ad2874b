import TreeSitterTxtx.Driver

/-!
# Runs of the driver

`Reaches c c'`: the driver goes from `c` to `c'` in zero or more steps. A run that reaches a
configuration whose step accepts has accepted its input (`Accepts`), whatever bound on the
number of steps is then taken; `run` is monotone in that bound (`run_mono`). The lemmas
`step_lex`, `step_shift`, `step_reduce`, `step_endOfExtra` and `step_accept` are the five
ways one step can go on, each under the table entry that selects it; later modules cite
them and never unfold `step`. `Reaches.lex`, `Reaches.lex_shift`, `Reaches.shift` and
`Reaches.reduce` are the same steps on a stack whose top entries are written out.
-/

namespace TreeSitterTxtx

@[simp] theorem topState_cons (e : StackEntry) (σ : List StackEntry) :
    topState (e :: σ) = e.state := rfl

/-- The driver goes from `c` to `c'` in zero or more steps. -/
inductive Reaches : Config → Config → Prop
  | refl (c : Config) : Reaches c c
  | head {c c' c'' : Config} : step c = .next c' → Reaches c' c'' → Reaches c c''

/-- The driver accepts `input` with the tree `t`. -/
def Accepts (input : List Char) (t : Subtree) : Prop :=
  ∃ fuel, parse fuel input = .accepted t

namespace Reaches

theorem trans {c c' c'' : Config} (h : Reaches c c') (h' : Reaches c' c'') : Reaches c c'' := by
  induction h with
  | refl => exact h'
  | head hs _ ih => exact .head hs (ih h')

theorem single {c c' : Config} (h : TreeSitterTxtx.step c = .next c') : Reaches c c' :=
  .head h (.refl _)

/-- A run from `c` does what the run from a configuration it reaches does, given the fuel
for the steps in between. -/
theorem run_eq {c c' : Config} (h : Reaches c c') :
    ∃ k, ∀ fuel, run (fuel + k) c = run fuel c' := by
  induction h with
  | refl => exact ⟨0, fun _ => rfl⟩
  | @head c c₁ _ hs _ ih =>
    obtain ⟨k, hk⟩ := ih
    exact ⟨k + 1, fun fuel => by rw [← Nat.add_assoc, run, hs]; exact hk fuel⟩

end Reaches

/-- A step that goes on costs the run one unit of fuel. -/
theorem run_succ_of_next {c c' : Config} {n : Nat} (h : step c = .next c') :
    run (n + 1) c = run n c' := by
  rw [run, h]

/-- Once a run has stopped, more fuel does not change its result. -/
theorem run_mono {fuel : Nat} {c : Config} {r : RunResult} (h : run fuel c = r)
    (hr : r ≠ .outOfFuel) (k : Nat) : run (fuel + k) c = r := by
  induction fuel generalizing c with
  | zero => subst h; exact absurd rfl hr
  | succ n ih =>
    rw [Nat.add_right_comm, run]
    rw [run] at h
    cases hs : step c with
    | next c' => rw [hs] at h; exact ih h
    | accepted t => rw [hs] at h; exact h
    | failed => rw [hs] at h; exact h

/-- A parse that fails accepts nothing, whatever the bound on its steps. -/
theorem not_accepts_of_parse_failed (fuel : Nat) {input : List Char}
    (h : parse fuel input = .failed) (t : Subtree) : ¬ Accepts input t := by
  rintro ⟨fuel', h'⟩
  have h1 := run_mono h (by simp) fuel'
  have h2 := run_mono h' (by simp) fuel
  rw [Nat.add_comm] at h2
  rw [h1] at h2
  cases h2

/-- The driver is deterministic: an input is accepted with one tree at most. -/
theorem Accepts.unique {input : List Char} {t t' : Subtree} (h : Accepts input t)
    (h' : Accepts input t') : t = t' := by
  obtain ⟨fuel, hf⟩ := h
  obtain ⟨fuel', hf'⟩ := h'
  have h1 := run_mono hf (by simp) fuel'
  have h2 := run_mono hf' (by simp) fuel
  rw [Nat.add_comm, h1] at h2
  exact RunResult.accepted.inj h2

/-- The configuration `n` steps after `c`, if each of them goes on. -/
def stepN : Nat → Config → Option Config
  | 0, c => some c
  | n + 1, c =>
    match step c with
    | .next c' => stepN n c'
    | _ => none

/-- The steps `stepN` takes are steps of a run. -/
theorem Reaches.of_stepN : ∀ (n : Nat) {c c' : Config}, stepN n c = some c' → Reaches c c'
  | 0, c, c', h => by cases h; exact .refl c
  | n + 1, c, c', h => by
    unfold stepN at h
    split at h
    · next c₁ hs => exact .head hs (Reaches.of_stepN n h)
    · cases h

/-- A run from the start that reaches a configuration whose step accepts, accepts. -/
theorem accepts_of_reaches {input : List Char} {c : Config} {t : Subtree}
    (h : Reaches (Config.init input) c) (ht : step c = .accepted t) : Accepts input t := by
  obtain ⟨k, hk⟩ := h.run_eq
  exact ⟨1 + k, by rw [parse, hk, run, ht]⟩

/-! ## The five ways a step goes on -/

section
variable {c : Config}

/-- Without lookahead, in a state that lexes, a step runs the lexer in its mode. -/
theorem step_lex {la : Lexeme} (hl : c.lookahead = none)
    (hm : tsLexModes (topState c.stack) ≠ noLexState)
    (hx : tsLex (tsLexModes (topState c.stack)) c.pos c.input = some la) :
    step c = .next { c with lookahead := some la } := by
  simp [step, hl, hm, hx]

/-- A `SHIFT(s)` for the lookahead pushes its leaf in state `s`. -/
theorem step_shift {tok : Token} {rest : List Char} {s : Nat}
    (hl : c.lookahead = some (tok, rest))
    (ha : effectiveAction (tsLanguageActions (topState c.stack) tok.symbol) = some (.shift s)) :
    step c = .next ⟨⟨s, .leaf tok false⟩ :: c.stack, tok.stop, rest, none⟩ := by
  simp [step, hl, actionStep, ha]

/-- A `REDUCE` for the lookahead replaces the stack by the reduced one. -/
theorem step_reduce {tok : Token} {rest : List Char} {sym : Symbol} {n pid : Nat}
    {stack : List StackEntry} (hl : c.lookahead = some (tok, rest))
    (ha : effectiveAction (tsLanguageActions (topState c.stack) tok.symbol) =
      some (.reduce sym n pid))
    (hr : reduce c.stack sym n pid false = some stack) :
    step c = .next { c with stack := stack } := by
  simp [step, hl, actionStep, ha, hr]

/-- In a state of lex mode `(TSStateId)(-1)`, a step takes the end-of-input reduction. -/
theorem step_endOfExtra {sym : Symbol} {n pid : Nat} {stack : List StackEntry}
    (hl : c.lookahead = none) (hm : tsLexModes (topState c.stack) = noLexState)
    (ha : effectiveAction (tsLanguageActions (topState c.stack) .tsBuiltinSymEnd) =
      some (.reduce sym n pid))
    (hr : reduce c.stack sym n pid true = some stack) :
    step c = .next { c with stack := stack } := by
  simp [step, hl, hm, endOfExtraStep, ha, hr]

/-- `ACCEPT_INPUT` for the lookahead accepts the root built from the stack. -/
theorem step_accept {tok : Token} {rest : List Char} {root : Subtree}
    (hl : c.lookahead = some (tok, rest))
    (ha : effectiveAction (tsLanguageActions (topState c.stack) tok.symbol) = some .accept)
    (hr : acceptRoot (.leaf tok true :: c.stack.map (·.tree)) [] = some root) :
    step c = .accepted root := by
  simp [step, hl, actionStep, ha, hr]

/-- **What a step that goes on can do**: lex, shift, reduce for the lookahead, or take the
end-of-input reduction of a state that lexes nothing. -/
theorem step_cases {c' : Config} (h : step c = .next c') :
    (c.lookahead = none ∧ tsLexModes (topState c.stack) ≠ noLexState ∧
      ∃ la, tsLex (tsLexModes (topState c.stack)) c.pos c.input = some la ∧
        c' = { c with lookahead := some la }) ∨
    (∃ tok rest s, c.lookahead = some (tok, rest) ∧
      effectiveAction (tsLanguageActions (topState c.stack) tok.symbol) = some (.shift s) ∧
      c' = ⟨⟨s, .leaf tok false⟩ :: c.stack, tok.stop, rest, none⟩) ∨
    (∃ tok rest sym n pid stack, c.lookahead = some (tok, rest) ∧
      effectiveAction (tsLanguageActions (topState c.stack) tok.symbol) =
        some (.reduce sym n pid) ∧
      reduce c.stack sym n pid false = some stack ∧ c' = { c with stack := stack }) ∨
    (∃ sym n pid stack, c.lookahead = none ∧ tsLexModes (topState c.stack) = noLexState ∧
      effectiveAction (tsLanguageActions (topState c.stack) .tsBuiltinSymEnd) =
        some (.reduce sym n pid) ∧
      reduce c.stack sym n pid true = some stack ∧ c' = { c with stack := stack }) := by
  unfold step at h
  split at h
  · next tok rest hl =>
    unfold actionStep at h
    split at h
    · next s ha => cases h; exact .inr (.inl ⟨tok, rest, s, hl, ha, rfl⟩)
    · next sym n pid ha =>
      split at h
      · next stack hr =>
        cases h; exact .inr (.inr (.inl ⟨tok, rest, sym, n, pid, stack, hl, ha, hr, rfl⟩))
      · cases h
    · split at h <;> cases h
    · cases h
  · next hl =>
    split at h
    · next hm =>
      unfold endOfExtraStep at h
      split at h
      · next sym n pid ha =>
        split at h
        · next stack hr =>
          cases h; exact .inr (.inr (.inr ⟨sym, n, pid, stack, hl, hm, ha, hr, rfl⟩))
        · cases h
      · cases h
    · next hm =>
      split at h
      · next la hx => cases h; exact .inl ⟨hl, hm, la, hx, rfl⟩
      · cases h

/-- A step that accepts does so on `ACCEPT_INPUT` for the lookahead. -/
theorem step_accepted {t : Subtree} (h : step c = .accepted t) :
    ∃ tok rest, c.lookahead = some (tok, rest) ∧
      effectiveAction (tsLanguageActions (topState c.stack) tok.symbol) = some .accept ∧
      acceptRoot (.leaf tok true :: c.stack.map (·.tree)) [] = some t := by
  unfold step at h
  split at h
  · next tok rest hl =>
    unfold actionStep at h
    split at h
    · cases h
    · split at h <;> cases h
    · next ha =>
      split at h
      · next root hr => cases h; exact ⟨tok, rest, hl, ha, hr⟩
      · cases h
    · cases h
  · split at h
    · unfold endOfExtraStep at h
      split at h
      · split at h <;> cases h
      · cases h
    · split at h <;> cases h

end

/-- **An invariant of every step is one of every run.** -/
theorem Reaches.invariant {P : Config → Prop} (hstep : ∀ c c', P c → step c = .next c' → P c')
    {c c' : Config} (h : Reaches c c') (hc : P c) : P c' := by
  induction h with
  | refl => exact hc
  | head hs _ ih => exact ih (hstep _ _ hc hs)

/-- A tree the driver accepts comes from a configuration the run reaches whose step
accepts it. -/
theorem Accepts.exists_reaches {input : List Char} {t : Subtree} (h : Accepts input t) :
    ∃ c, Reaches (Config.init input) c ∧ step c = .accepted t := by
  obtain ⟨fuel, h⟩ := h
  unfold parse at h
  generalize Config.init input = c0 at h
  induction fuel generalizing c0 with
  | zero => cases h
  | succ n ih =>
    unfold run at h
    split at h
    · next c' hs =>
      obtain ⟨c, hr, hc⟩ := ih c' h
      exact ⟨c, .head hs hr, hc⟩
    · next t' hs => cases h; exact ⟨c0, .refl _, hs⟩
    · cases h

/-! ## Runs over explicit stacks

The steps of a run stated on a stack whose top entries are written out, with the states and
tokens as they appear in the tables; chained with `Reaches.trans`, they follow a concrete
run for inputs that are only partly known. -/

/-- Lexing the lookahead in the mode of the top state. -/
theorem Reaches.lex {s₀ pos m : Nat} {t₀ : Subtree} {stack : List StackEntry}
    {input : List Char} {la : Lexeme} (hmode : tsLexModes s₀ = m) (hm : m ≠ noLexState)
    (hx : tsLex m pos input = some la) :
    Reaches ⟨⟨s₀, t₀⟩ :: stack, pos, input, none⟩ ⟨⟨s₀, t₀⟩ :: stack, pos, input, some la⟩ := by
  subst hmode
  exact .single (step_lex rfl hm hx)

/-- Lexing a token in the mode of the top state and shifting it. -/
theorem Reaches.lex_shift {s₀ pos m s : Nat} {t₀ : Subtree} {stack : List StackEntry}
    {input rest : List Char} {tok : Token} (hmode : tsLexModes s₀ = m) (hm : m ≠ noLexState)
    (hx : tsLex m pos input = some (tok, rest))
    (ha : effectiveAction (tsLanguageActions s₀ tok.symbol) = some (.shift s)) :
    Reaches ⟨⟨s₀, t₀⟩ :: stack, pos, input, none⟩
      ⟨⟨s, .leaf tok false⟩ :: ⟨s₀, t₀⟩ :: stack, tok.stop, rest, none⟩ :=
  (Reaches.lex hmode hm hx).trans (.single (step_shift rfl ha))

/-- The run's first token, lexed in the mode of the start state and shifted. -/
theorem Reaches.lex_shift_init {s : Nat} {input rest : List Char} {tok : Token}
    (hx : tsLex (tsLexModes 1) 0 input = some (tok, rest))
    (ha : effectiveAction (tsLanguageActions 1 tok.symbol) = some (.shift s)) :
    Reaches (Config.init input) ⟨[⟨s, .leaf tok false⟩], tok.stop, rest, none⟩ :=
  .head (step_lex rfl (show tsLexModes (topState []) ≠ noLexState by decide) hx)
    (.single (step_shift rfl ha))

/-- Shifting the lookahead. -/
theorem Reaches.shift {s₀ pos s a b : Nat} {t₀ : Subtree} {stack : List StackEntry}
    {input rest : List Char} {X : Symbol}
    (ha : effectiveAction (tsLanguageActions s₀ X) = some (.shift s)) :
    Reaches ⟨⟨s₀, t₀⟩ :: stack, pos, input, some (⟨X, a, b⟩, rest)⟩
      ⟨⟨s, .leaf ⟨X, a, b⟩ false⟩ :: ⟨s₀, t₀⟩ :: stack, b, rest, none⟩ :=
  .single (step_shift rfl ha)

theorem popCount_nonExtra (base : List StackEntry) : ∀ ts : List StackEntry,
    (ts.all fun e => !e.tree.extra) = true →
    popCount ts.length (ts ++ base) = some (ts.reverse.map (·.tree), base)
  | [], _ => by cases base <;> rfl
  | e :: ts, h => by
    simp only [List.all_cons, Bool.and_eq_true, Bool.not_eq_true'] at h
    rw [List.length_cons, List.cons_append, popCount, if_neg (by simp [h.1]),
      popCount_nonExtra base ts h.2]
    simp

theorem splitTrailingExtras_nonExtra {ts : List Subtree} (h : ∀ t ∈ ts, t.extra = false) :
    splitTrailingExtras ts = (ts, []) := by
  unfold splitTrailingExtras
  cases hr : ts.reverse with
  | nil => simp [List.reverse_eq_nil_iff.1 hr]
  | cons t rest =>
    have ht : t.extra = false :=
      h t (List.mem_reverse.1 (by rw [hr]; exact List.mem_cons_self _ _))
    rw [List.dropWhile_cons_of_neg (by simp [ht]), List.takeWhile_cons_of_neg (by simp [ht]), ← hr,
      List.reverse_reverse]
    rfl

/-- **Reducing entries that are not extra** pushes their node in the goto state of the state
below them. -/
theorem reduce_nonExtra (A : Symbol) (pid : Nat) (base ts : List StackEntry)
    (h : (ts.all fun e => !e.tree.extra) = true) :
    reduce (ts ++ base) A ts.length pid false =
      some (⟨tsLanguageNextState (topState base) A, .node A pid false (ts.reverse.map (·.tree))⟩ ::
        base) := by
  rw [reduce, popCount_nonExtra base ts h]
  simp only [Option.map_some', Bool.false_and]
  rw [splitTrailingExtras_nonExtra (fun t ht => ?_)]
  · rfl
  · simp only [List.mem_map, List.mem_reverse] at ht
    obtain ⟨e, he, rfl⟩ := ht
    simpa using (List.all_eq_true.1 h) e he

/-- Reducing one entry that is not extra. -/
theorem reduce_one {s : Nat} {t : Subtree} {base : List StackEntry} {A : Symbol} {pid : Nat}
    (ht : t.extra = false) :
    reduce (⟨s, t⟩ :: base) A 1 pid false =
      some (⟨tsLanguageNextState (topState base) A, .node A pid false [t]⟩ :: base) :=
  reduce_nonExtra A pid base [⟨s, t⟩] (by simp [ht])

/-- Reducing two entries that are not extra. -/
theorem reduce_two {s₁ s₂ : Nat} {t₁ t₂ : Subtree} {base : List StackEntry} {A : Symbol}
    {pid : Nat} (h₁ : t₁.extra = false) (h₂ : t₂.extra = false) :
    reduce (⟨s₁, t₁⟩ :: ⟨s₂, t₂⟩ :: base) A 2 pid false =
      some (⟨tsLanguageNextState (topState base) A, .node A pid false [t₂, t₁]⟩ :: base) :=
  reduce_nonExtra A pid base [⟨s₁, t₁⟩, ⟨s₂, t₂⟩] (by simp [h₁, h₂])

/-- Reducing the top entry and the entries `ts` under it. -/
theorem Reaches.reduce (ts : List StackEntry) {pos a b pid s₀ : Nat} {t₀ : Subtree}
    {base : List StackEntry} {input rest : List Char} {A X : Symbol}
    (ha : effectiveAction (tsLanguageActions s₀ X) = some (.reduce A (ts.length + 1) pid))
    (hts : ((⟨s₀, t₀⟩ :: ts).all fun e => !e.tree.extra) = true) :
    Reaches ⟨⟨s₀, t₀⟩ :: ts ++ base, pos, input, some (⟨X, a, b⟩, rest)⟩
      ⟨⟨tsLanguageNextState (topState base) A,
          .node A pid false ((⟨s₀, t₀⟩ :: ts).reverse.map (·.tree))⟩ :: base,
        pos, input, some (⟨X, a, b⟩, rest)⟩ :=
  .single (step_reduce rfl ha (reduce_nonExtra A pid base (⟨s₀, t₀⟩ :: ts) hts))

/-- `Reaches.reduce`, with the state the goto table gives named. -/
theorem Reaches.reduce_to (ts : List StackEntry) {pos a b pid s₀ s : Nat} {t₀ : Subtree}
    {base : List StackEntry} {input rest : List Char} {A X : Symbol}
    (ha : effectiveAction (tsLanguageActions s₀ X) = some (.reduce A (ts.length + 1) pid))
    (hts : ((⟨s₀, t₀⟩ :: ts).all fun e => !e.tree.extra) = true)
    (hg : tsLanguageNextState (topState base) A = s) :
    Reaches ⟨⟨s₀, t₀⟩ :: ts ++ base, pos, input, some (⟨X, a, b⟩, rest)⟩
      ⟨⟨s, .node A pid false ((⟨s₀, t₀⟩ :: ts).reverse.map (·.tree))⟩ :: base,
        pos, input, some (⟨X, a, b⟩, rest)⟩ :=
  hg ▸ Reaches.reduce ts ha hts

/-- Accepting builds the root from the stack and the end-of-input leaf. -/
theorem step_accept_top {s₀ pos a b : Nat} {t₀ root : Subtree} {stack : List StackEntry}
    {input rest : List Char} {X : Symbol}
    (ha : effectiveAction (tsLanguageActions s₀ X) = some .accept)
    (hr : acceptRoot (.leaf ⟨X, a, b⟩ true :: t₀ :: stack.map (·.tree)) [] = some root) :
    step ⟨⟨s₀, t₀⟩ :: stack, pos, input, some (⟨X, a, b⟩, rest)⟩ = .accepted root :=
  step_accept rfl ha hr

end TreeSitterTxtx
