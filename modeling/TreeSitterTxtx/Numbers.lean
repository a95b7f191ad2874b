import TreeSitterTxtx.LongestMatch
import TreeSitterTxtx.Identifiers

/-!
# Numbers

The lex modes `0` and `2` start a number on a decimal digit: `0` leads to state `81` and the
other digits to `82`, both accepting `number_token3`. A `.` leads on to `44` and a digit after
it to `80`, which accepts `number_token2`; after `0`, an `x` leads to `45` and a hexadecimal
digit after it to `79`, which accepts `number_token1`. These six states are closed
(`numberStates_closed`), and what the automaton accepts from the mode is the regex
`0x[0-9a-fA-F]+ | [0-9]+(\.[0-9]+)?` with the kind of each alternative (`lexAccepts_number`,
against `NumberMatch`).

So, by the longest-match theorem of the lexer's loop (`tsLexRun_longest`), the lexer reads
the longest prefix that is a number, of the kind of the alternative it matches
(`tsLex_number_longest`): a `0x` without a hexadecimal digit after it is the integer `0`
(`tsLex_zeroX`), and digits and a `.` without a digit after it are an integer, the `.` left
for the next token (`tsLex_digitsDot`).
-/

namespace TreeSitterTxtx

/-! ## Digits -/

theorem isDigit_iff_toNat (c : Char) : c.isDigit = true ↔ 48 ≤ c.toNat ∧ c.toNat ≤ 57 := by
  simp only [Char.isDigit, Bool.and_eq_true, decide_eq_true_eq, ge_iff_le, UInt32.le_def,
    BitVec.le_def, Char.toNat, UInt32.toNat]
  simp

theorem isDigit_iff (c : Char) : c.isDigit = true ↔ '0' ≤ c ∧ c ≤ '9' := by
  rw [isDigit_iff_toNat, char_le_iff, char_le_iff]
  rfl

/-- A hexadecimal digit, `[0-9a-fA-F]`. -/
def isHexDigit (c : Char) : Bool := c.isDigit || ('A' ≤ c && c ≤ 'F') || ('a' ≤ c && c ≤ 'f')

theorem isHexDigit_iff (c : Char) : isHexDigit c = true ↔
    ('0' ≤ c ∧ c ≤ '9') ∨ ('A' ≤ c ∧ c ≤ 'F') ∨ ('a' ≤ c ∧ c ≤ 'f') := by
  simp only [isHexDigit, Bool.or_eq_true, Bool.and_eq_true, decide_eq_true_eq, isDigit_iff,
    or_assoc]

/-! ## The number literals -/

/-- The decimal numbers `[0-9]+(\.[0-9]+)?`, each with the token it is lexed as: digits alone
are `number_token3`, digits with a fractional part `number_token2`. -/
inductive DecimalMatch : List Char → Symbol → Prop
  | integer {d : List Char} : d ≠ [] → d.all Char.isDigit = true →
      DecimalMatch d .auxSymNumberToken3
  | fraction {d f : List Char} : d ≠ [] → d.all Char.isDigit = true → f ≠ [] →
      f.all Char.isDigit = true → DecimalMatch (d ++ '.' :: f) .auxSymNumberToken2

/-- The number literals `0x[0-9a-fA-F]+ | [0-9]+(\.[0-9]+)?`, each with the token it is lexed
as: the hexadecimal ones are `number_token1`. -/
inductive NumberMatch : List Char → Symbol → Prop
  | hex {h : List Char} : h ≠ [] → h.all isHexDigit = true →
      NumberMatch ('0' :: 'x' :: h) .auxSymNumberToken1
  | decimal {u : List Char} {k : Symbol} : DecimalMatch u k → NumberMatch u k

/-- A digit before a decimal number gives a decimal number of the same kind. -/
theorem DecimalMatch.cons {c : Char} (hc : c.isDigit = true) {u : List Char} {k : Symbol}
    (h : DecimalMatch u k) : DecimalMatch (c :: u) k := by
  cases h with
  | integer hd hall => exact .integer (List.cons_ne_nil _ _) (by simp [hc, hall])
  | @fraction d f _ hdall hf hfall =>
    exact @DecimalMatch.fraction (c :: d) f (List.cons_ne_nil _ _) (by simp [hc, hdall]) hf hfall

/-! ## The number states -/

/-- The lex states of a number after its first digit: `81` after `0`, `82` in the digits of an
integer, `44` after its `.` and `80` in the fraction, `45` after `0x` and `79` in the
hexadecimal digits. Reference: `ts_lex`, `case 44`, `case 45` and `case 79` to `case 82`. -/
def numberStates : List Nat := [79, 80, 81, 82, 44, 45]

theorem move_80 (c : Char) :
    tsLexMove 80 false c = if c.isDigit then .advance 80 else .stop := by
  dsimp only [tsLexMove, Nat.reduceDiv, tsLexStates5]
  simp only [isDigit_iff]

theorem move_79 (c : Char) :
    tsLexMove 79 false c = if isHexDigit c then .advance 79 else .stop := by
  dsimp only [tsLexMove, Nat.reduceDiv, tsLexStates4]
  simp only [isHexDigit_iff]

/-- After `.` the moves are those of the fraction, after `0x` those of the hexadecimal
digits. -/
theorem move_44 (c : Char) : tsLexMove 44 false c = tsLexMove 80 false c := rfl

theorem move_45 (c : Char) : tsLexMove 45 false c = tsLexMove 79 false c := rfl

theorem move_82 (c : Char) : tsLexMove 82 false c =
    if c = '.' then .advance 44 else if c.isDigit then .advance 82 else .stop := by
  dsimp only [tsLexMove, Nat.reduceDiv, tsLexStates5]
  simp only [isDigit_iff]

theorem move_81 (c : Char) : tsLexMove 81 false c =
    if c = '.' then .advance 44 else if c = 'x' then .advance 45
    else if c.isDigit then .advance 82 else .stop := by
  dsimp only [tsLexMove, Nat.reduceDiv, tsLexStates5]
  simp only [isDigit_iff]

/-- The number states stop at the end of the input and never leave the set. -/
theorem numberStates_closed : LexClosed numberStates := by
  intro s hs
  simp only [numberStates, List.mem_cons, List.not_mem_nil, or_false] at hs
  refine ⟨by rcases hs with rfl | rfl | rfl | rfl | rfl | rfl <;> rfl, fun c => ?_⟩
  rcases hs with rfl | rfl | rfl | rfl | rfl | rfl <;>
    simp only [move_44, move_45, move_79, move_80, move_81, move_82] <;>
    split_ifs <;> simp [numberStates]

theorem numberStart_ascii : ∀ m ∈ [0, 2], ∀ n < 58, 49 ≤ n →
    tsLexMove m false (Char.ofNat n) = .advance 82 := by
  decide

/-- The modes `0` and `2` advance to `81` on `0` and to `82` on the other digits.
Reference: `ts_lex`, `case 0` and `case 2`. -/
theorem numberStart_zero {m : Nat} (hm : m = 0 ∨ m = 2) : tsLexMove m false '0' = .advance 81 := by
  rcases hm with rfl | rfl <;> rfl

theorem numberStart_nonzero {m : Nat} (hm : m = 0 ∨ m = 2) {c : Char} (hc : c.isDigit = true)
    (h0 : c ≠ '0') : tsLexMove m false c = .advance 82 := by
  rw [isDigit_iff_toNat] at hc
  rw [Ne, char_eq_iff] at h0
  rw [← Char.ofNat_toNat c]
  exact numberStart_ascii m (by simpa using hm) c.toNat (by omega) (by simp at h0; omega)

/-! ## What the number states accept -/

section
variable {s : Nat} {p : Char → Bool}
  (hmove : ∀ c, tsLexMove s false c = if p c then .advance s else .stop)

include hmove in
/-- A state that loops on the characters `p` and stops on the others accepts what it accepts
itself after any run of them, and nothing else. -/
theorem lexAccepts_loop (u : List Char) {k : Symbol} :
    lexAccepts s u = some k ↔ tsLexAccept s = some k ∧ u.all p = true := by
  induction u with
  | nil => simp
  | cons c u ih =>
    cases hc : p c
    · rw [lexAccepts_cons_stop (by rw [hmove, hc]; rfl)]; simp [hc]
    · rw [lexAccepts_cons_advance (by rw [hmove, hc]; rfl), ih]; simp [hc]

include hmove in
/-- A state that moves as the loop `s` and accepts nothing itself accepts the nonempty runs
of `p`. -/
theorem lexAccepts_entry {s' : Nat} (hs' : ∀ c, tsLexMove s' false c = tsLexMove s false c)
    (hacc : tsLexAccept s' = none) (u : List Char) {k : Symbol} :
    lexAccepts s' u = some k ↔ tsLexAccept s = some k ∧ u ≠ [] ∧ u.all p = true := by
  cases u with
  | nil => simp [hacc]
  | cons c u =>
    have h : lexAccepts s' (c :: u) = lexAccepts s (c :: u) := by
      simp only [lexAccepts, tsLexPath, hs']
    rw [h, lexAccepts_loop hmove]
    simp
end

theorem lexAccepts_44 (u : List Char) {k : Symbol} : lexAccepts 44 u = some k ↔
    k = .auxSymNumberToken2 ∧ u ≠ [] ∧ u.all Char.isDigit = true := by
  rw [lexAccepts_entry move_80 move_44 rfl, show tsLexAccept 80 = some .auxSymNumberToken2 from rfl,
    Option.some_inj, eq_comm]

theorem lexAccepts_45 (u : List Char) {k : Symbol} : lexAccepts 45 u = some k ↔
    k = .auxSymNumberToken1 ∧ u ≠ [] ∧ u.all isHexDigit = true := by
  rw [lexAccepts_entry move_79 move_45 rfl, show tsLexAccept 79 = some .auxSymNumberToken1 from rfl,
    Option.some_inj, eq_comm]

theorem move_82_digit {c : Char} (hc : c.isDigit = true) : tsLexMove 82 false c = .advance 82 := by
  rw [move_82, if_neg (by rintro rfl; cases hc), if_pos hc]

/-- State `82` reads over digits. -/
theorem lexAccepts_82_digits {d : List Char} (hd : d.all Char.isDigit = true) (r : List Char) :
    lexAccepts 82 (d ++ r) = lexAccepts 82 r := by
  induction d with
  | nil => rfl
  | cons c d ih =>
    simp only [List.all_cons, Bool.and_eq_true] at hd
    rw [List.cons_append, lexAccepts_cons_advance (move_82_digit hd.1), ih hd.2]

theorem lexAccepts_82_dot (r : List Char) : lexAccepts 82 ('.' :: r) = lexAccepts 44 r :=
  lexAccepts_cons_advance (by rw [move_82, if_pos rfl]) r

/-- **After a digit, state `82` accepts the rest of a decimal number**, with its kind. -/
theorem decimalMatch_of_lexAccepts_82 : ∀ (u : List Char) {c : Char}, c.isDigit = true →
    ∀ {k : Symbol}, lexAccepts 82 u = some k → DecimalMatch (c :: u) k
  | [], c, hc, k, h => by
    obtain rfl : k = .auxSymNumberToken3 := (Option.some.inj h).symm
    exact .integer (List.cons_ne_nil _ _) (by simp [hc])
  | e :: u, c, hc, k, h => by
    by_cases hdot : e = '.'
    · subst hdot
      rw [lexAccepts_82_dot, lexAccepts_44] at h
      obtain ⟨rfl, hne, hall⟩ := h
      exact @DecimalMatch.fraction [c] u (List.cons_ne_nil _ _) (by simp [hc]) hne hall
    · by_cases he : e.isDigit = true
      · rw [lexAccepts_cons_advance (move_82_digit he)] at h
        exact (decimalMatch_of_lexAccepts_82 u he h).cons hc
      · rw [lexAccepts_cons_stop (by rw [move_82, if_neg hdot, if_neg he])] at h
        cases h

theorem lexAccepts_82_of_decimalMatch {c : Char} {u : List Char} {k : Symbol}
    (h : DecimalMatch (c :: u) k) : lexAccepts 82 u = some k := by
  generalize hv : c :: u = v at h
  cases h with
  | integer _ hall =>
    subst hv
    simp only [List.all_cons, Bool.and_eq_true] at hall
    rw [← List.append_nil u, lexAccepts_82_digits hall.2]
    rfl
  | @fraction d f hd hdall hf hfall =>
    cases d with
    | nil => exact absurd rfl hd
    | cons c' d =>
      simp only [List.cons_append, List.cons.injEq] at hv
      obtain ⟨rfl, rfl⟩ := hv
      simp only [List.all_cons, Bool.and_eq_true] at hdall
      rw [lexAccepts_82_digits hdall.2, lexAccepts_82_dot, lexAccepts_44]
      exact ⟨rfl, hf, hfall⟩

/-- **After a digit `c`, state `82` accepts the rest of a decimal number**, with its kind. -/
theorem lexAccepts_82_iff {c : Char} (hc : c.isDigit = true) (u : List Char) {k : Symbol} :
    lexAccepts 82 u = some k ↔ DecimalMatch (c :: u) k :=
  ⟨decimalMatch_of_lexAccepts_82 u hc, lexAccepts_82_of_decimalMatch⟩

/-- A number that does not start with `0x` is decimal. -/
theorem NumberMatch.decimal_of_ne {u : List Char} {k : Symbol} (h : NumberMatch u k)
    (hu : ∀ h, u ≠ '0' :: 'x' :: h) : DecimalMatch u k := by
  cases h with
  | hex => exact absurd rfl (hu _)
  | decimal h => exact h

/-- After `0`, state `81` moves as `82` on all but `x`. -/
theorem lexAccepts_81_eq {u : List Char} (hu : ∀ h, u ≠ 'x' :: h) :
    lexAccepts 81 u = lexAccepts 82 u := by
  cases u with
  | nil => rfl
  | cons e u =>
    have he : e ≠ 'x' := by rintro rfl; exact hu u rfl
    simp only [lexAccepts, tsLexPath, move_81, move_82, if_neg he]

/-- **After `0`, state `81` accepts the rest of a number**, with its kind. -/
theorem lexAccepts_81 (u : List Char) {k : Symbol} :
    lexAccepts 81 u = some k ↔ NumberMatch ('0' :: u) k := by
  by_cases hx : ∃ h, u = 'x' :: h
  · -- `0x` and the hexadecimal digits
    obtain ⟨h, rfl⟩ := hx
    rw [lexAccepts_cons_advance (by rw [move_81]; rfl), lexAccepts_45]
    constructor
    · rintro ⟨rfl, hne, hall⟩
      exact .hex hne hall
    · intro hm
      cases hm with
      | hex hne hall => exact ⟨rfl, hne, hall⟩
      | decimal hd =>
        have h82 := (lexAccepts_82_iff (c := '0') rfl _).2 hd
        rw [lexAccepts_cons_stop (by rw [move_82]; rfl)] at h82
        cases h82
  · -- `0` and the rest of a decimal number
    have hu : ∀ h, u ≠ 'x' :: h := fun h hu => hx ⟨h, hu⟩
    rw [lexAccepts_81_eq hu, lexAccepts_82_iff (c := '0') rfl]
    exact ⟨.decimal, fun hm => hm.decimal_of_ne fun h he => hu h (List.cons.inj he).2⟩

/-- **From the modes `0` and `2`, the automaton accepts exactly the numbers that start with a
digit**, each as the token of its alternative. -/
theorem lexAccepts_number {m : Nat} (hm : m = 0 ∨ m = 2) {c : Char} (hc : c.isDigit = true)
    (u : List Char) {k : Symbol} : lexAccepts m (c :: u) = some k ↔ NumberMatch (c :: u) k := by
  by_cases h0 : c = '0'
  · subst h0
    rw [lexAccepts_cons_advance (numberStart_zero hm), lexAccepts_81]
  · rw [lexAccepts_cons_advance (numberStart_nonzero hm hc h0), lexAccepts_82_iff hc]
    exact ⟨.decimal, fun h => h.decimal_of_ne fun _ he => h0 (List.cons.inj he).1⟩

/-! ## The lexer reads the longest number -/

/-- The state the modes `0` and `2` lead to on the first digit `c`. -/
theorem numberStart_move {m : Nat} (hm : m = 0 ∨ m = 2) {c : Char} (hc : c.isDigit = true) :
    ∃ t ∈ numberStates, tsLexMove m false c = .advance t := by
  by_cases h0 : c = '0'
  · subst h0; exact ⟨81, by decide, numberStart_zero hm⟩
  · exact ⟨82, by decide, numberStart_nonzero hm hc h0⟩

/-- The modes `0` and `2` accept nothing before the first character. -/
theorem tsLex_numberStart {m : Nat} (hm : m = 0 ∨ m = 2) (pos : Nat) {c : Char} {t : Nat}
    (hmove : tsLexMove m false c = .advance t) (w : List Char) :
    tsLex m pos (c :: w) = tsLexRun t (pos + 1) pos none w := by
  rw [tsLex, tsLexRun_cons_advance hmove]
  rcases hm with rfl | rfl <;> rfl

theorem lexAccepts_numberStart {m : Nat} (hm : m = 0 ∨ m = 2) {c : Char} (hc : c.isDigit = true)
    {t : Nat} (hmove : tsLexMove m false c = .advance t) (u : List Char) {k : Symbol} :
    lexAccepts t u = some k ↔ NumberMatch (c :: u) k := by
  rw [← lexAccepts_cons_advance hmove, lexAccepts_number hm hc]

/-- **The lexer reads the longest number.** In the modes `0` and `2`, on an input that starts
with a decimal digit, `ts_lex` returns the longest prefix `u` that is a number, as the token
of the one alternative `u` matches, and the input after it. -/
theorem tsLex_number_longest {m : Nat} (hm : m = 0 ∨ m = 2) (pos : Nat) {c : Char}
    (hc : c.isDigit = true) (w : List Char) :
    ∃ u rest k, c :: w = u ++ rest ∧
      tsLex m pos (c :: w) = some (⟨k, pos, pos + u.length⟩, rest) ∧
      NumberMatch u k ∧ (∀ k', NumberMatch u k' → k' = k) ∧
      ∀ u', u' <+: c :: w → u.length < u'.length → ∀ k', ¬ NumberMatch u' k' := by
  obtain ⟨t, ht, hmove⟩ := numberStart_move hm hc
  have hlang := lexAccepts_numberStart hm hc hmove
  rw [tsLex_numberStart hm pos hmove]
  rcases tsLexRun_longest numberStates_closed pos w ht (pos + 1) none with
    ⟨-, hnone⟩ | ⟨u, r, k, hl, hr⟩
  · -- the first digit alone is a number
    have h1 := (hlang [] (k := .auxSymNumberToken3)).2
      (.decimal (.integer (List.cons_ne_nil _ _) (by simp [hc])))
    rw [hnone [] List.nil_prefix] at h1
    cases h1
  · refine ⟨c :: u, r, k, by rw [hl.decomp]; rfl, ?_, (hlang u).1 hl.accepts,
      fun k' hk' => Option.some.inj (((hlang u).2 hk').symm.trans hl.accepts), ?_⟩
    · rw [hr, List.length_cons, Nat.add_comm u.length, ← Nat.add_assoc]
    · intro u' hu' hlen k' hk'
      obtain ⟨u'', rfl, hu''⟩ := (List.prefix_cons_iff.1 hu').resolve_left
        (by rintro rfl; simp at hlen)
      have h := hl.longest u'' hu'' (by simpa using hlen)
      rw [(hlang u'').2 hk'] at h
      cases h

example : tsLex 0 0 "0x1F.5".toList = some (⟨.auxSymNumberToken1, 0, 4⟩, ".5".toList) := by
  decide

example : tsLex 2 0 "12.x".toList = some (⟨.auxSymNumberToken3, 0, 2⟩, ".x".toList) := by
  decide

/-- Every prefix of `p ++ y :: r` longer than `p` is `p`, `y` and a prefix of `r`. -/
theorem prefix_append_cons_of_lt (p : List Char) {u r : List Char} {y : Char}
    (hu : u <+: p ++ y :: r) (hlt : p.length < u.length) : ∃ t, u = p ++ y :: t ∧ t <+: r := by
  obtain ⟨v, rfl⟩ := List.prefix_of_prefix_length_le (List.prefix_append p (y :: r)) hu
    (Nat.le_of_lt hlt)
  rw [List.prefix_append_right_inj] at hu
  rcases List.prefix_cons_iff.1 hu with rfl | ⟨t, rfl, ht⟩
  · simp at hlt
  · exact ⟨t, rfl, ht⟩

/-- A state that accepts only nonempty runs of `p` accepts no prefix of a text that does not
start with `p`. -/
theorem lexAccepts_prefix_none {s : Nat} {p : Char → Bool}
    (hs : ∀ t k, lexAccepts s t = some k → t ≠ [] ∧ t.all p = true) {r t : List Char}
    (hr : ∀ e ∈ r.head?, p e = false) (ht : t <+: r) : lexAccepts s t = none := by
  cases h : lexAccepts s t with
  | none => rfl
  | some k =>
    obtain ⟨hne, hall⟩ := hs t k h
    obtain ⟨e, t', rfl⟩ := List.exists_cons_of_ne_nil hne
    obtain ⟨v, rfl⟩ := ht
    simp only [List.all_cons, Bool.and_eq_true] at hall
    simp [hr e (by simp)] at hall

/-- A `0x` without a hexadecimal digit after it is lexed as the integer `0`, and the `x` is
left for the next token. -/
theorem tsLex_zeroX {m : Nat} (hm : m = 0 ∨ m = 2) (pos : Nat) (r : List Char)
    (hr : ∀ e ∈ r.head?, isHexDigit e = false) :
    tsLex m pos ('0' :: 'x' :: r) = some (⟨.auxSymNumberToken3, pos, pos + 1⟩, 'x' :: r) := by
  rw [tsLex_numberStart hm pos (numberStart_zero hm)]
  refine tsLexRun_eq_of_longest numberStates_closed pos (show 81 ∈ numberStates by decide) none
    (show LongestAccepted 81 ('x' :: r) [] ('x' :: r) .auxSymNumberToken3 from
      ⟨rfl, rfl, fun u hu hlen => ?_⟩)
  obtain ⟨t, rfl, ht⟩ := prefix_append_cons_of_lt [] hu hlen
  rw [List.nil_append, lexAccepts_cons_advance (by rw [move_81]; rfl)]
  exact lexAccepts_prefix_none (fun t k h => ((lexAccepts_45 t).1 h).2) hr ht

/-- After digits, a `.` leads to state `44`. -/
theorem lexAccepts_digits_dot {m : Nat} (hm : m = 0 ∨ m = 2) {c : Char} (hc : c.isDigit = true)
    {d : List Char} (hd : d.all Char.isDigit = true) (x : List Char) :
    lexAccepts m (c :: (d ++ '.' :: x)) = lexAccepts 44 x := by
  have h82 : lexAccepts 82 (d ++ '.' :: x) = lexAccepts 44 x := by
    rw [lexAccepts_82_digits hd, lexAccepts_82_dot]
  by_cases h0 : c = '0'
  · subst h0
    rw [lexAccepts_cons_advance (numberStart_zero hm), lexAccepts_81_eq, h82]
    cases d with
    | nil => simp
    | cons e d =>
      simp only [List.all_cons, Bool.and_eq_true] at hd
      rintro _ ⟨⟩
      cases hd.1
  · rw [lexAccepts_cons_advance (numberStart_nonzero hm hc h0), h82]

/-- Digits and a `.` without a digit after it are lexed as an integer, and the `.` is left
for the next token. -/
theorem tsLex_digitsDot {m : Nat} (hm : m = 0 ∨ m = 2) (pos : Nat) {d : List Char}
    (hd : d ≠ []) (hdig : d.all Char.isDigit = true) (r : List Char)
    (hr : ∀ e ∈ r.head?, e.isDigit = false) :
    tsLex m pos (d ++ '.' :: r) =
      some (⟨.auxSymNumberToken3, pos, pos + d.length⟩, '.' :: r) := by
  obtain ⟨c, d, rfl⟩ := List.exists_cons_of_ne_nil hd
  have ⟨hc, hd'⟩ : c.isDigit = true ∧ d.all Char.isDigit = true := by simpa using hdig
  obtain ⟨t, ht, hmove⟩ := numberStart_move hm hc
  rw [List.cons_append, tsLex_numberStart hm pos hmove, List.length_cons, Nat.add_comm d.length,
    ← Nat.add_assoc]
  refine tsLexRun_eq_of_longest numberStates_closed pos ht none
    ⟨rfl, (lexAccepts_numberStart hm hc hmove d).2 (.decimal (.integer (List.cons_ne_nil _ _) hdig)),
      fun u hu hlen => ?_⟩
  obtain ⟨x, rfl, hx⟩ := prefix_append_cons_of_lt d hu hlen
  rw [← lexAccepts_cons_advance hmove, lexAccepts_digits_dot hm hc hd']
  exact lexAccepts_prefix_none (fun t k h => ((lexAccepts_44 t).1 h).2) hr hx

/-- **The modes that start a number read the longest number.** In the lex modes `0` and `2`,
on an input that starts with a decimal digit, `ts_lex` returns the longest prefix that is a
number `0x[0-9a-fA-F]+ | [0-9]+(\.[0-9]+)?`, as the token of the one alternative it matches:
`number_token1` for the hexadecimal numbers, `number_token2` for those with a fractional part
and `number_token3` for the integers. So a `0x` without a hexadecimal digit after it is the
integer `0`, and digits and a `.` without a digit after it are an integer, the `.` left for
the next token. -/
theorem lex_longestNumber {m : Nat} (hm : m = 0 ∨ m = 2) (pos : Nat) :
    (∀ (c : Char) (w : List Char), c.isDigit = true →
      ∃ u rest k, c :: w = u ++ rest ∧
        tsLex m pos (c :: w) = some (⟨k, pos, pos + u.length⟩, rest) ∧
        NumberMatch u k ∧ (∀ k', NumberMatch u k' → k' = k) ∧
        ∀ u', u' <+: c :: w → u.length < u'.length → ∀ k', ¬ NumberMatch u' k') ∧
    (∀ r : List Char, (∀ e ∈ r.head?, isHexDigit e = false) →
      tsLex m pos ('0' :: 'x' :: r) = some (⟨.auxSymNumberToken3, pos, pos + 1⟩, 'x' :: r)) ∧
    (∀ d r : List Char, d ≠ [] → d.all Char.isDigit = true → (∀ e ∈ r.head?, e.isDigit = false) →
      tsLex m pos (d ++ '.' :: r) =
        some (⟨.auxSymNumberToken3, pos, pos + d.length⟩, '.' :: r)) :=
  ⟨fun _ w hc => tsLex_number_longest hm pos hc w, tsLex_zeroX hm pos,
    fun _ r hd hdig hr => tsLex_digitsDot hm pos hd hdig r hr⟩

/-- In mode `0`, at position `0`. -/
theorem lex_longestNumber_modeZero : (0 = 0 ∨ 0 = 2) ∧
    (∀ (c : Char) (w : List Char), c.isDigit = true →
      ∃ u rest k, c :: w = u ++ rest ∧
        tsLex 0 0 (c :: w) = some (⟨k, 0, 0 + u.length⟩, rest) ∧
        NumberMatch u k ∧ (∀ k', NumberMatch u k' → k' = k) ∧
        ∀ u', u' <+: c :: w → u.length < u'.length → ∀ k', ¬ NumberMatch u' k') ∧
    (∀ r : List Char, (∀ e ∈ r.head?, isHexDigit e = false) →
      tsLex 0 0 ('0' :: 'x' :: r) = some (⟨.auxSymNumberToken3, 0, 0 + 1⟩, 'x' :: r)) ∧
    (∀ d r : List Char, d ≠ [] → d.all Char.isDigit = true → (∀ e ∈ r.head?, e.isDigit = false) →
      tsLex 0 0 (d ++ '.' :: r) =
        some (⟨.auxSymNumberToken3, 0, 0 + d.length⟩, '.' :: r)) :=
  ⟨.inl rfl, lex_longestNumber (.inl rfl) 0⟩

end TreeSitterTxtx
