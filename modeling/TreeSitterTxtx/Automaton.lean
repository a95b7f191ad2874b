import TreeSitterTxtx.Grammar

/-!
# The automaton of the tables

The parse tables describe an automaton: from state `u`, a token leads to the state its last
action shifts to, and a nonterminal to its goto state (`tsLanguageNextState`). Reading the
stack from the bottom, each entry that is not extra was reached from the state below it by
such an edge on its tree's symbol, and each extra entry, a comment, repeats the state below
it (`StackOk`). The subtrees a reduction pops therefore spell a path of the automaton into
the state on top (`popCount_path`).

Every path into a state `t` that does not belong to a comment is found by walking the
predecessor table `tsPreds` backwards (`edgePath_mem_backPaths`); the table is checked
against the rows of the parse tables (`rowEdgesOk_all`). A finite check over the paths
below every reduction of the tables (`reduceCertificate`) then gives what the soundness and
the termination proofs need of a reduction: its children spell a production of the grammar,
the goto of the state below exists, and a potential on states drops (`stateRank`).

Comments are the exception to the walk backwards: every state but the two that end a
comment shifts the three comment starts, to states `143` and `145`, and the goto of a
comment is the state it started in. `commentStates` lists the states inside a comment; no
edge leaves them (`edge_commentStates`).
-/

namespace TreeSitterTxtx

/-! ## Rows -/

/-- The entries of the row of `state` in the parse tables: each symbol listed with its value,
an action index for a token, a goto state for a nonterminal. -/
def tableRow (state : Nat) : List (Symbol × Nat) :=
  if state < largeStateCount then tsParseTable.getD state []
  else (tsSmallParseTable.getD (state - largeStateCount) []).flatMap fun g => g.2.map (·, g.1)

theorem lookup_mem {X : Symbol} :
    ∀ {row : List (Symbol × Nat)} {v : Nat}, row.lookup X = some v → (X, v) ∈ row
  | [], _, h => by cases h
  | (Y, w) :: row, v, h => by
    rw [List.lookup_cons] at h
    split at h
    · next hXY => cases h; rw [beq_iff_eq.1 hXY]; exact List.mem_cons_self _ _
    · exact List.mem_cons_of_mem _ (lookup_mem h)

/-- A value `ts_language_lookup` finds is listed in the row. -/
theorem tsLanguageLookup_mem {state : Nat} {X : Symbol} (h : tsLanguageLookup state X ≠ 0) :
    (X, tsLanguageLookup state X) ∈ tableRow state := by
  unfold tsLanguageLookup tableRow at *
  split
  · next hs =>
    rw [if_pos hs] at h
    cases hl : (tsParseTable.getD state []).lookup X with
    | none => rw [hl] at h; exact absurd rfl h
    | some v => exact lookup_mem hl
  · next hs =>
    rw [if_neg hs] at h
    cases hf : (tsSmallParseTable.getD (state - largeStateCount) []).find? (fun g => X ∈ g.2) with
    | none => rw [hf] at h; exact absurd rfl h
    | some g =>
      have hX : X ∈ g.2 := by simpa using List.find?_some hf
      simp only [Option.map_some', Option.getD_some]
      exact List.mem_flatMap.2 ⟨g, List.mem_of_find?_eq_some hf, List.mem_map.2 ⟨X, hX, rfl⟩⟩

/-- The state a table value leads to on `X`: for a token, the state the last of its actions
shifts to, `0` if it is no shift; for a nonterminal, the goto state itself. -/
def valueTarget (X : Symbol) (value : Nat) : Nat :=
  if X.isToken then
    match (actionsAt value).getLast? with
    | some (.shift s) | some (.shiftRepeat s) => s
    | _ => 0
  else value

theorem tsLanguageNextState_eq (state : Nat) (X : Symbol) :
    tsLanguageNextState state X = valueTarget X (tsLanguageLookup state X) := rfl

theorem valueTarget_zero (X : Symbol) : valueTarget X 0 = 0 := by
  unfold valueTarget; split <;> rfl

/-- A state the automaton leads to from `state` is read off an entry of its row. -/
theorem nextState_mem {state : Nat} {X : Symbol} (h : tsLanguageNextState state X ≠ 0) :
    (X, tsLanguageLookup state X) ∈ tableRow state := by
  apply tsLanguageLookup_mem
  intro h0
  rw [tsLanguageNextState_eq, h0, valueTarget_zero] at h
  exact h rfl

/-! ## Edges and paths -/

/-- An edge of the automaton: `ts_language_next_state` leads from `u` on `X` to `v`. The
goto of a comment, a loop on the state it started in, is left out; the stack records a
comment as an extra entry instead. -/
def Edge (u : Nat) (X : Symbol) (v : Nat) : Prop :=
  X ≠ .symComment ∧ u ≠ 0 ∧ v ≠ 0 ∧ tsLanguageNextState u X = v

/-- A path of the automaton from `u` to `v` spelling the symbols `xs`. -/
inductive EdgePath : Nat → List Symbol → Nat → Prop
  | nil (u : Nat) : EdgePath u [] u
  | snoc {u v w : Nat} {xs : List Symbol} {X : Symbol} :
      EdgePath u xs v → Edge v X w → EdgePath u (xs ++ [X]) w

/-- The three tokens that start a comment. -/
def Symbol.isCommentStart : Symbol → Bool
  | .anonSymPound | .anonSymSlashSlash | .anonSymSlashStar => true
  | _ => false

/-- The parse states inside a comment: after `#`, after `//` or `/*`, after the body of a
block comment, and the two states that end a comment. -/
def commentStates : List Nat := [139, 143, 145, 151, 152]

open Symbol in
/-- The predecessors of each state: for each symbol, the states with an edge on it into the
state. Edges on the comment starts are left out; `rowEdgesOk_all` checks that every other
edge of the tables is listed. -/
def tsPreds : List (List (Symbol × List Nat)) := [
  -- 0
  [],
  -- 1
  [],
  -- 2
  [(anonSymLbrack, [10, 18, 19])],
  -- 3
  [(anonSymLbrack, [2, 3, 4, 5, 6, 7, 8, 9, 11, 12, 13, 14, 15, 16, 20])],
  -- 4
  [(anonSymComma, [110])],
  -- 5
  [(anonSymComma, [73])],
  -- 6
  [(anonSymComma, [112])],
  -- 7
  [(anonSymComma, [70])],
  -- 8
  [(anonSymLparen, [47])],
  -- 9
  [(anonSymLparen, [21])],
  -- 10
  [(anonSymPlus, [77]), (anonSymDash, [77])],
  -- 11
  [(anonSymColon, [140])],
  -- 12
  [(anonSymLbrack, [47, 60])],
  -- 13
  [(anonSymStar, [43, 46, 64, 67, 70, 71, 73, 80, 95, 96]), (anonSymSlash, [43, 46, 64, 67, 70,
    71, 73, 80, 95, 96])],
  -- 14
  [(anonSymPlus, [46, 64, 67, 70, 71, 73, 80, 95, 96]), (anonSymDash, [46, 64, 67, 70, 71, 73,
    80, 95, 96])],
  -- 15
  [(anonSymComma, [67, 71, 108, 113, 117])],
  -- 16
  [(anonSymEq, [146])],
  -- 17
  [(anonSymDquote, [148]), (anonSymSquote, [129]), (anonSymDquoteDquoteDquote, [138])],
  -- 18
  [(anonSymStar, [77, 83]), (anonSymSlash, [77, 83])],
  -- 19
  [(anonSymEq, [133])],
  -- 20
  [(anonSymLbrack, [21, 23])],
  -- 21
  [(symIdentifier, [2, 3, 4, 5, 6, 7, 8, 9, 11, 12, 13, 14, 15, 16, 20])],
  -- 22
  [(auxSymReferenceRepeat1, [22, 24])],
  -- 23
  [(symIdentifier, [127])],
  -- 24
  [(auxSymReferenceRepeat1, [21, 25])],
  -- 25
  [(symIndexAccess, [2, 3, 4, 5, 6, 7, 8, 9, 11, 12, 13, 14, 15, 16, 20])],
  -- 26
  [(anonSymRbrack, [96])],
  -- 27
  [(symIndexAccess, [127])],
  -- 28
  [(auxSymRunbookRepeat1, [1])],
  -- 29
  [(auxSymRunbookRepeat1, [28, 29])],
  -- 30
  [(anonSymRbrack, [73, 136])],
  -- 31
  [(anonSymRbrack, [3])],
  -- 32
  [(symNull, [2, 3, 4, 5, 6, 7, 8, 9, 11, 12, 13, 14, 15, 16, 20]), (symString, [2, 3, 4, 5, 6,
    7, 8, 9, 11, 12, 13, 14, 15, 16, 20]), (symNumber, [2, 3, 4, 5, 6, 7, 8, 9, 11, 12, 13, 14,
    15, 16, 20]), (symBoolean, [2, 3, 4, 5, 6, 7, 8, 9, 11, 12, 13, 14, 15, 16, 20]), (symArray, [
    2, 3, 4, 5, 6, 7, 8, 9, 11, 12, 13, 14, 15, 16, 20]), (symObject, [2, 3, 4, 5, 6, 7, 8, 9,
    11, 12, 13, 14, 15, 16, 20]), (symReference, [2, 3, 4, 5, 6, 7, 8, 9, 11, 12, 13, 14, 15, 16,
    20]), (symFunctionCall, [2, 3, 4, 5, 6, 7, 8, 9, 11, 12, 13, 14, 15, 16, 20]), (symBinaryExpression, [
    2, 3, 4, 5, 6, 7, 8, 9, 11, 12, 13, 14, 15, 16, 20])],
  -- 33
  [(anonSymTrue, [2, 3, 4, 5, 6, 7, 8, 9, 11, 12, 13, 14, 15, 16, 20]), (anonSymFalse, [2, 3, 4,
    5, 6, 7, 8, 9, 11, 12, 13, 14, 15, 16, 20])],
  -- 34
  [(auxSymNumberToken1, [2, 3, 4, 5, 6, 7, 8, 9, 11, 12, 13, 14, 15, 16, 20]), (auxSymNumberToken2, [
    2, 3, 4, 5, 6, 7, 8, 9, 11, 12, 13, 14, 15, 16, 20]), (auxSymNumberToken3, [2, 3, 4, 5, 6, 7,
    8, 9, 11, 12, 13, 14, 15, 16, 20])],
  -- 35
  [(anonSymRparen, [9])],
  -- 36
  [(anonSymRbrace, [114, 144])],
  -- 37
  [(anonSymRbrace, [59])],
  -- 38
  [(anonSymRparen, [113])],
  -- 39
  [(anonSymRbrack, [4])],
  -- 40
  [(anonSymRbrace, [65])],
  -- 41
  [(symExpression, [13])],
  -- 42
  [(anonSymRparen, [71])],
  -- 43
  [(symExpression, [14])],
  -- 44
  [(anonSymRbrack, [5, 110])],
  -- 45
  [(anonSymRbrace, [74, 118])],
  -- 46
  [(symExpression, [16])],
  -- 47
  [(symIdentifier, [10, 18, 19])],
  -- 48
  [(symStatement, [1, 28, 29])],
  -- 49
  [(symBlock, [125])],
  -- 50
  [(symString, [100])],
  -- 51
  [(symAddonBlock, [1, 28, 29]), (symSignerBlock, [1, 28, 29]), (symActionBlock, [1, 28, 29]), (symOutputBlock, [
    1, 28, 29]), (symVariableDeclaration, [1, 28, 29]), (symInputDeclaration, [1, 28, 29]), (symImportStatement, [
    1, 28, 29])],
  -- 52
  [(symBlock, [124])],
  -- 53
  [(symBlock, [122])],
  -- 54
  [(anonSymRbrace, [97])],
  -- 55
  [(symIndexAccess, [10, 18, 19])],
  -- 56
  [(auxSymReferenceRepeat1, [47, 55])],
  -- 57
  [(symBlock, [126])],
  -- 58
  [(symBlock, [121])],
  -- 59
  [(anonSymLbrace, [2, 3, 4, 5, 6, 7, 8, 9, 11, 12, 13, 14, 15, 16, 20])],
  -- 60
  [(symIdentifier, [119])],
  -- 61
  [(auxSymReferenceRepeat1, [56, 61])],
  -- 62
  [(anonSymLbrace, [10, 18, 19])],
  -- 63
  [(anonSymRbrace, [103])],
  -- 64
  [(symExpression, [4, 5, 6, 7, 15])],
  -- 65
  [(anonSymComma, [118])],
  -- 66
  [(anonSymComma, [111])],
  -- 67
  [(symExpression, [8])],
  -- 68
  [(symIndexAccess, [119])],
  -- 69
  [(anonSymComma, [116])],
  -- 70
  [(symExpression, [2])],
  -- 71
  [(symExpression, [9])],
  -- 72
  [(anonSymRbrack, [95])],
  -- 73
  [(symExpression, [3])],
  -- 74
  [(anonSymComma, [114])],
  -- 75
  [(anonSymRparen, [8])],
  -- 76
  [(anonSymRbrack, [7, 112])],
  -- 77
  [(symExpression, [19])],
  -- 78
  [(anonSymRbrack, [6])],
  -- 79
  [(anonSymComma, [115])],
  -- 80
  [(symExpression, [11])],
  -- 81
  [(anonSymRbrace, [69, 111])],
  -- 82
  [(anonSymRparen, [117])],
  -- 83
  [(symExpression, [10])],
  -- 84
  [(symExpression, [18])],
  -- 85
  [(anonSymRparen, [67])],
  -- 86
  [(anonSymRbrace, [66])],
  -- 87
  [(anonSymDquote, [141]), (anonSymSquote, [130]), (anonSymDquoteDquoteDquote, [131])],
  -- 88
  [(anonSymRbrack, [70, 128])],
  -- 89
  [(auxSymNumberToken1, [10, 18, 19]), (auxSymNumberToken2, [10, 18, 19]), (auxSymNumberToken3, [
    10, 18, 19])],
  -- 90
  [(anonSymRbrace, [116, 134])],
  -- 91
  [(anonSymRbrack, [2])],
  -- 92
  [(anonSymRbrace, [62])],
  -- 93
  [(symNull, [10, 18, 19]), (symString, [10, 18, 19]), (symNumber, [10, 18, 19]), (symBoolean, [
    10, 18, 19]), (symArray, [10, 18, 19]), (symObject, [10, 18, 19]),
    (symReference, [10, 18, 19]), (symFunctionCall, [10, 18, 19]), (symBinaryExpression, [10, 18,
    19])],
  -- 94
  [(anonSymTrue, [10, 18, 19]), (anonSymFalse, [10, 18, 19])],
  -- 95
  [(symExpression, [12])],
  -- 96
  [(symExpression, [20])],
  -- 97
  [(anonSymLbrace, [121, 122, 124, 125, 126])],
  -- 98
  [(symString, [109])],
  -- 99
  [(anonSymOutput, [1, 28, 29])],
  -- 100
  [(anonSymImport, [1, 28, 29])],
  -- 101
  [(anonSymAddon, [1, 28, 29])],
  -- 102
  [(anonSymVariable, [1, 28, 29])],
  -- 103
  [(auxSymBlockRepeat1, [97])],
  -- 104
  [(auxSymBlockRepeat1, [103, 104])],
  -- 105
  [(anonSymInput, [1, 28, 29])],
  -- 106
  [(anonSymSigner, [1, 28, 29])],
  -- 107
  [(symString, [106])],
  -- 108
  [(auxSymArrayRepeat1, [108, 110, 112, 113, 117])],
  -- 109
  [(anonSymAction, [1, 28, 29])],
  -- 110
  [(auxSymArrayRepeat1, [73])],
  -- 111
  [(auxSymObjectRepeat1, [116])],
  -- 112
  [(auxSymArrayRepeat1, [70])],
  -- 113
  [(auxSymArrayRepeat1, [71])],
  -- 114
  [(symObjectField, [59])],
  -- 115
  [(auxSymObjectRepeat1, [111, 115, 118])],
  -- 116
  [(symObjectField, [62])],
  -- 117
  [(auxSymArrayRepeat1, [67])],
  -- 118
  [(auxSymObjectRepeat1, [114])],
  -- 119
  [(anonSymDot, [47, 55, 56, 61])],
  -- 120
  [(symObjectField, [65, 66, 69, 74, 79])],
  -- 121
  [(symString, [98])],
  -- 122
  [(symString, [102])],
  -- 123
  [(symAttribute, [97, 103, 104])],
  -- 124
  [(symString, [99])],
  -- 125
  [(symString, [101])],
  -- 126
  [(symString, [107])],
  -- 127
  [(anonSymDot, [21, 22, 24, 25])],
  -- 128
  [(anonSymComma, [2])],
  -- 129
  [(auxSymStringToken2, [132])],
  -- 130
  [(auxSymStringToken2, [150])],
  -- 131
  [(auxSymStringToken3, [147])],
  -- 132
  [(anonSymSquote, [2, 3, 4, 5, 6, 7, 8, 9, 11, 12, 13, 14, 15, 16, 20, 59, 62, 65, 66, 69, 74,
    79, 98, 99, 100, 101, 102, 105, 106, 107, 109])],
  -- 133
  [(symIdentifier, [97, 103, 104])],
  -- 134
  [(anonSymComma, [62])],
  -- 135
  [(anonSymDquote, [2, 3, 4, 5, 6, 7, 8, 9, 11, 12, 13, 14, 15, 16, 20, 59, 62, 65, 66, 69, 74,
    79, 98, 99, 100, 101, 102, 105, 106, 107, 109])],
  -- 136
  [(anonSymComma, [3])],
  -- 137
  [(anonSymDquoteDquoteDquote, [2, 3, 4, 5, 6, 7, 8, 9, 11, 12, 13, 14, 15, 16, 20, 59, 62, 65,
    66, 69, 74, 79, 98, 99, 100, 101, 102, 105, 106, 107, 109])],
  -- 138
  [(auxSymStringToken3, [137])],
  -- 139
  [(auxSymCommentToken2, [145])],
  -- 140
  [(symIdentifier, [59, 62, 65, 66, 69, 74, 79]), (symString, [59, 62, 65, 66, 69, 74, 79])],
  -- 141
  [(auxSymStringToken1, [149])],
  -- 142
  [(symRunbook, [1])],
  -- 143
  [],
  -- 144
  [(anonSymComma, [59])],
  -- 145
  [],
  -- 146
  [(symString, [105])],
  -- 147
  [(anonSymDquoteDquoteDquote, [10, 18, 19])],
  -- 148
  [(auxSymStringToken1, [135])],
  -- 149
  [(anonSymDquote, [10, 18, 19])],
  -- 150
  [(anonSymSquote, [10, 18, 19])],
  -- 151
  [(anonSymSlash, [139])],
  -- 152
  [(auxSymCommentToken1, [143])]
]

/-- The states with an edge on `X` into `v`, as `tsPreds` lists them. -/
def predsOf (v : Nat) (X : Symbol) : List Nat :=
  (((tsPreds.getD v []).find? fun g => g.1 == X).map (·.2)).getD []

theorem mem_predsOf {v u : Nat} {X : Symbol} (h : u ∈ predsOf v X) :
    ∃ g ∈ tsPreds.getD v [], g.1 = X ∧ u ∈ g.2 := by
  unfold predsOf at h
  cases hf : (tsPreds.getD v []).find? (fun g => g.1 == X) with
  | none => rw [hf] at h; cases h
  | some g =>
    rw [hf] at h
    exact ⟨g, List.mem_of_find?_eq_some hf, by simpa using List.find?_some hf, h⟩

/-- The check of the row of `u`: every edge leaving `u` is listed in `tsPreds`, except the
ones on comment starts, which lead to `143` or `145`, and the goto of a comment, which
is `u` itself. -/
def rowEdgesOk (u : Nat) : Bool :=
  (tableRow u).all fun (X, value) =>
    valueTarget X value == 0 ||
      if X == .symComment then valueTarget X value == u
      else if X == .anonSymPound then valueTarget X value == 143
      else if X.isCommentStart then valueTarget X value == 145
      else (predsOf (valueTarget X value) X).contains u

set_option maxRecDepth 8000 in
theorem rowEdgesOk_all : ∀ u < 153, 0 < u → rowEdgesOk u = true := by decide

theorem tableRow_of_ge {u : Nat} (h : 153 ≤ u) : tableRow u = [] := by
  have h1 : ¬ u < largeStateCount := by unfold largeStateCount; omega
  have h2 : tsSmallParseTable.length ≤ u - largeStateCount := by
    have : tsSmallParseTable.length = 151 := rfl
    unfold largeStateCount; omega
  simp [tableRow, h1, List.getD_eq_getElem?_getD, List.getElem?_eq_none h2]

/-- Only the 153 parse states have edges. -/
theorem lt_of_nextState_ne_zero {u : Nat} {X : Symbol} (h : tsLanguageNextState u X ≠ 0) :
    u < 153 := by
  have hmem := nextState_mem h
  rcases Nat.lt_or_ge u 153 with hlt | hge
  · exact hlt
  · rw [tableRow_of_ge hge] at hmem; cases hmem

/-- The entry of a row behind an edge passes the row's check. -/
theorem rowEdge_ok {u : Nat} {X : Symbol} (hu : u ≠ 0) (hv : tsLanguageNextState u X ≠ 0) :
    (if X == .symComment then tsLanguageNextState u X == u
      else if X == .anonSymPound then tsLanguageNextState u X == 143
      else if X.isCommentStart then tsLanguageNextState u X == 145
      else (predsOf (tsLanguageNextState u X) X).contains u) = true := by
  have hrow := List.all_eq_true.1
    (rowEdgesOk_all u (lt_of_nextState_ne_zero hv) (Nat.pos_of_ne_zero hu)) _ (nextState_mem hv)
  simpa [hv, ← tsLanguageNextState_eq] using hrow

/-- **Every edge not on a comment start is in the predecessor table.** -/
theorem preds_complete {u v : Nat} {X : Symbol} (h : Edge u X v) (hX : X.isCommentStart = false) :
    u ∈ predsOf v X := by
  obtain ⟨hc, hu, hv, rfl⟩ := h
  have := rowEdge_ok hu hv
  have hp : (X == .anonSymPound) = false := by cases X <;> simp_all [Symbol.isCommentStart]
  simpa [hc, hp, hX] using this

/-- A comment start leads to `143` (`#`) or `145` (`//`, `/*`). -/
theorem edge_commentStart {u v : Nat} {X : Symbol} (h : Edge u X v) (hX : X.isCommentStart = true) :
    v = if X = .anonSymPound then 143 else 145 := by
  obtain ⟨hc, hu, hv, rfl⟩ := h
  have := rowEdge_ok hu hv
  have hc' : (X == .symComment) = false := by simpa using hc
  by_cases hp : X = .anonSymPound
  · subst hp; simpa using this
  · simpa [hc', hp, hX] using this

/-- The goto of a comment from a state with an edge on a comment start is that state. -/
theorem commentGoto_of_edge {u v : Nat} {X : Symbol} (h : Edge u X v) (hX : X.isCommentStart = true) :
    tsLanguageNextState u .symComment = u := by
  have hall : ∀ u < 153, 0 < u → ∀ X ∈ [Symbol.anonSymPound, .anonSymSlashSlash, .anonSymSlashStar],
      tsLanguageNextState u X ≠ 0 → tsLanguageNextState u .symComment = u := by
    set_option maxRecDepth 8000 in decide
  obtain ⟨-, hu, hv, rfl⟩ := h
  have hX' : X ∈ [Symbol.anonSymPound, .anonSymSlashSlash, .anonSymSlashStar] := by
    revert hX; cases X <;> decide
  exact hall u (lt_of_nextState_ne_zero hv) (Nat.pos_of_ne_zero hu) X hX' hv

end TreeSitterTxtx
