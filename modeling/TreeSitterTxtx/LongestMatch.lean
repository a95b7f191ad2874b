import TreeSitterTxtx.Content

/-!
# The longest token

`ts_lex` runs its automaton from the lex mode until a state has no move; each state that
accepts a token marks the token's end there (`ACCEPT_TOKEN` calls `mark_end`), and the token
returned is the one marked last. The automaton's own language is read off the moves:
`tsLexPath` follows the advances over a text, and `lexAccepts` is the token the state at the
end of the path accepts, if any.

Over a set of lex states that the moves never leave and in which nothing is skipped
(`LexClosed`), the loop returns the longest prefix of its input that the automaton accepts
(`tsLexRun_longest`), which is unique (`LongestAccepted.unique`), and keeps the token it had
before when no prefix is accepted.
-/

namespace TreeSitterTxtx

/-! ## The automaton's language -/

/-- The lex state the advances over `u` lead to from `state`, if each character of `u` is
advanced over. -/
def tsLexPath (state : Nat) : List Char → Option Nat
  | [] => some state
  | c :: u =>
    match tsLexMove state false c with
    | .advance s => tsLexPath s u
    | _ => none

/-- The kind of token the lexer's automaton accepts the text `u` as, read from `state`. -/
def lexAccepts (state : Nat) (u : List Char) : Option Symbol :=
  (tsLexPath state u).bind tsLexAccept

@[simp] theorem lexAccepts_nil (state : Nat) : lexAccepts state [] = tsLexAccept state := rfl

theorem lexAccepts_cons_advance {state s : Nat} {c : Char}
    (h : tsLexMove state false c = .advance s) (u : List Char) :
    lexAccepts state (c :: u) = lexAccepts s u := by
  simp [lexAccepts, tsLexPath, h]

theorem lexAccepts_cons_stop {state : Nat} {c : Char} (h : tsLexMove state false c = .stop)
    (u : List Char) : lexAccepts state (c :: u) = none := by
  simp [lexAccepts, tsLexPath, h]

/-- A set of lex states that stop at the end of the input and that each character either
stops or advances within: no move skips or leaves the set. -/
def LexClosed (S : List Nat) : Prop :=
  ∀ s ∈ S, tsLexMove s true '\x00' = .stop ∧
    ∀ c, tsLexMove s false c = .stop ∨ ∃ t ∈ S, tsLexMove s false c = .advance t

/-- `u` is the longest prefix of `input` that `state` accepts, as a token of kind `k`, and
`rest` is the input after it. -/
structure LongestAccepted (state : Nat) (input u rest : List Char) (k : Symbol) : Prop where
  decomp : input = u ++ rest
  accepts : lexAccepts state u = some k
  longest : ∀ u', u' <+: input → u.length < u'.length → lexAccepts state u' = none

/-- The longest accepted prefix is unique. -/
theorem LongestAccepted.unique {s : Nat} {input u rest u' rest' : List Char} {k k' : Symbol}
    (h : LongestAccepted s input u rest k) (h' : LongestAccepted s input u' rest' k') :
    u = u' ∧ rest = rest' ∧ k = k' := by
  have hp : u <+: input := ⟨rest, h.decomp.symm⟩
  have hp' : u' <+: input := ⟨rest', h'.decomp.symm⟩
  have hlen : u.length = u'.length := by
    rcases Nat.lt_trichotomy u.length u'.length with hlt | heq | hlt
    · exact absurd (h.longest u' hp' hlt) (by rw [h'.accepts]; simp)
    · exact heq
    · exact absurd (h'.longest u hp hlt) (by rw [h.accepts]; simp)
  have hu : u = u' := List.prefix_of_prefix_length_le hp hp' (Nat.le_of_eq hlen) |>.eq_of_length hlen
  subst hu
  refine ⟨rfl, List.append_cancel_left (h.decomp.symm.trans h'.decomp), ?_⟩
  exact Option.some.inj (h.accepts.symm.trans h'.accepts)

/-! ## The loop returns the longest accepted prefix -/

section
variable {S : List Nat} (hS : LexClosed S) (start : Nat)

/-- When no nonempty prefix of the input is accepted, the result is what the state itself
accepts, or the token accepted before. -/
theorem longest_of_only_nil {s pos : Nat} {input : List Char} {acc res : Option Lexeme}
    (hres : res = acceptAt s pos start input acc)
    (hnone : ∀ u, u <+: input → u ≠ [] → lexAccepts s u = none) :
    (res = acc ∧ ∀ u, u <+: input → lexAccepts s u = none) ∨
      ∃ u rest k, LongestAccepted s input u rest k ∧
        res = some (⟨k, start, pos + u.length⟩, rest) := by
  cases hk : tsLexAccept s with
  | none =>
    refine .inl ⟨by simp [hres, acceptAt, hk], fun u hu => ?_⟩
    by_cases h0 : u = []
    · subst h0; exact hk
    · exact hnone u hu h0
  | some k =>
    refine .inr ⟨[], input, k, ⟨rfl, hk, fun u hu hlen => hnone u hu ?_⟩, ?_⟩
    · rintro rfl; simp at hlen
    · simp [hres, acceptAt, hk]

/-- A state that advances on `c` to `t` passes on what the run from `t` returns: the longest
prefix `t` accepts after `c`, or, when `t` accepts none, what the state itself accepts. -/
theorem longest_cons_advance {s t pos : Nat} {c : Char} {rest : List Char}
    {acc res : Option Lexeme} (hadv : tsLexMove s false c = .advance t)
    (ih : (res = acceptAt s pos start (c :: rest) acc ∧ ∀ u, u <+: rest → lexAccepts t u = none) ∨
      ∃ u r k, LongestAccepted t rest u r k ∧ res = some (⟨k, start, pos + 1 + u.length⟩, r)) :
    (res = acc ∧ ∀ u, u <+: c :: rest → lexAccepts s u = none) ∨
      ∃ u r k, LongestAccepted s (c :: rest) u r k ∧ res = some (⟨k, start, pos + u.length⟩, r) := by
  rcases ih with ⟨hr, hnone⟩ | ⟨u, r, k, hl, hr⟩
  · refine longest_of_only_nil start hr fun u hu h0 => ?_
    obtain ⟨u', rfl, hu'⟩ := (List.prefix_cons_iff.1 hu).resolve_left h0
    rw [lexAccepts_cons_advance hadv]
    exact hnone u' hu'
  · refine .inr ⟨c :: u, r, k, ⟨by rw [hl.decomp]; rfl, ?_, fun u' hu' hlen => ?_⟩, ?_⟩
    · rw [lexAccepts_cons_advance hadv]; exact hl.accepts
    · obtain ⟨u'', rfl, hu''⟩ := (List.prefix_cons_iff.1 hu').resolve_left
        (by rintro rfl; simp at hlen)
      rw [lexAccepts_cons_advance hadv]
      exact hl.longest u'' hu'' (by simpa using hlen)
    · rw [hr, List.length_cons, Nat.add_assoc, Nat.add_comm 1]

include hS in
/-- **`ts_lex` returns the longest token its automaton accepts.** From a state of a closed
set, the loop either accepts no prefix of the input and keeps the token accepted before, or
returns the longest prefix accepted, from `start` to its end, with the input after it. -/
theorem tsLexRun_longest : ∀ (input : List Char) {s : Nat}, s ∈ S → ∀ (pos : Nat)
    (acc : Option Lexeme),
    (tsLexRun s pos start acc input = acc ∧ ∀ u, u <+: input → lexAccepts s u = none) ∨
      ∃ u rest k, LongestAccepted s input u rest k ∧
        tsLexRun s pos start acc input = some (⟨k, start, pos + u.length⟩, rest)
  | [], s, hs, pos, acc =>
    longest_of_only_nil start (by simp [tsLexRun, (hS s hs).1])
      (fun u hu h0 => absurd (List.prefix_nil.1 hu) h0)
  | c :: rest, s, hs, pos, acc => by
    rcases (hS s hs).2 c with hstop | ⟨t, ht, hadv⟩
    · -- the state stops on `c`: only the empty prefix can be accepted
      refine longest_of_only_nil start (tsLexRun_cons_stop hstop) fun u hu h0 => ?_
      obtain ⟨u', rfl, -⟩ := (List.prefix_cons_iff.1 hu).resolve_left h0
      exact lexAccepts_cons_stop hstop u'
    · -- the state advances on `c` to `t`: the run goes on from `t`
      rw [tsLexRun_cons_advance hadv]
      exact longest_cons_advance start hadv (tsLexRun_longest rest ht (pos + 1) _)

include hS in
/-- The loop from a state of a closed set returns the longest accepted prefix. -/
theorem tsLexRun_eq_of_longest {s pos : Nat} (hs : s ∈ S) (acc : Option Lexeme)
    {input u rest : List Char} {k : Symbol} (h : LongestAccepted s input u rest k) :
    tsLexRun s pos start acc input = some (⟨k, start, pos + u.length⟩, rest) := by
  rcases tsLexRun_longest hS start input hs pos acc with ⟨-, hnone⟩ | ⟨u', r, k', hl, hr⟩
  · exact absurd (hnone u ⟨rest, h.decomp.symm⟩) (by rw [h.accepts]; simp)
  · obtain ⟨rfl, rfl, rfl⟩ := h.unique hl
    exact hr

end

end TreeSitterTxtx
