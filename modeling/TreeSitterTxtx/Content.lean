import TreeSitterTxtx.LexerFacts
import TreeSitterTxtx.Run

/-!
# Content tokens

Three lex modes read a content up to a delimiter: mode `67` the content of a `"` string,
mode `71` that of a `'` string, and mode `146` that of a line comment, up to the newline.
They share one shape (`ContentMode`): the start state loops on whitespace, and on `#`, `/`,
`//` and `/*` the run passes through states that accept the comment marker, since comments
are extras that every mode lexes; any further character but the delimiter and NUL leads
into the body, which accepts the content token again.

So a content lexes as one token up to the delimiter (`ContentMode.lex_content`), unless it
is whitespace followed by exactly `#`, `//` or `/*`, when the marker is the longest token
(`markerContent`).
-/

namespace TreeSitterTxtx

/-! ## Moves of the lexer -/

theorem tsLexRun_cons_advance {state s pos start : Nat} {acc : Option Lexeme} {c : Char}
    {rest : List Char} (h : tsLexMove state false c = .advance s) :
    tsLexRun state pos start acc (c :: rest) =
      tsLexRun s (pos + 1) start (acceptAt state pos start (c :: rest) acc) rest := by
  simp [tsLexRun, h]

theorem tsLexRun_cons_stop {state pos start : Nat} {acc : Option Lexeme} {c : Char}
    {rest : List Char} (h : tsLexMove state false c = .stop) :
    tsLexRun state pos start acc (c :: rest) = acceptAt state pos start (c :: rest) acc := by
  simp [tsLexRun, h]

theorem acceptAt_of_accept {state pos start : Nat} {rest : List Char} {acc : Option Lexeme}
    {sym : Symbol} (h : tsLexAccept state = some sym) :
    acceptAt state pos start rest acc = some (⟨sym, start, pos⟩, rest) := by
  simp [acceptAt, h]

/-! ## The shape of a content mode -/

/-- The lex states of a mode that reads a content up to the delimiter `d`. -/
structure ContentMode where
  /-- The delimiter that ends the content. -/
  d : Char
  /-- The whitespace the start state loops on. -/
  isWs : Char → Bool
  /-- The content token. -/
  token : Symbol
  /-- The start state: the lex mode. -/
  s0 : Nat
  /-- After `/`. -/
  sSlash : Nat
  /-- The body of the content. -/
  sBody : Nat
  /-- After `#`: accepts `#`. -/
  sPound : Nat
  /-- After `//`: accepts `//`. -/
  sSlashSlash : Nat
  /-- After `/*`: accepts `/*`. -/
  sSlashStar : Nat

namespace ContentMode

variable (m : ContentMode)

/-- A state that moves to the body on every character but `d` and NUL, and stops on `d`. -/
def IntoBody (s : Nat) : Prop :=
  (∀ x, x ≠ '\x00' → x ≠ m.d → tsLexMove s false x = .advance m.sBody) ∧
    tsLexMove s false m.d = .stop

/-- The moves and accepts of a content mode. -/
structure Valid : Prop where
  accept_s0 : tsLexAccept m.s0 = some m.token
  accept_slash : tsLexAccept m.sSlash = some m.token
  accept_body : tsLexAccept m.sBody = some m.token
  accept_pound : tsLexAccept m.sPound = some .anonSymPound
  accept_slashSlash : tsLexAccept m.sSlashSlash = some .anonSymSlashSlash
  accept_slashStar : tsLexAccept m.sSlashStar = some .anonSymSlashStar
  s0_pound : tsLexMove m.s0 false '#' = .advance m.sPound
  s0_slash : tsLexMove m.s0 false '/' = .advance m.sSlash
  s0_ws : ∀ x, m.isWs x = true → tsLexMove m.s0 false x = .advance m.s0
  s0_body : ∀ x, x ≠ '#' → x ≠ '/' → m.isWs x = false → x ≠ '\x00' → x ≠ m.d →
    tsLexMove m.s0 false x = .advance m.sBody
  s0_d : tsLexMove m.s0 false m.d = .stop
  slash_star : tsLexMove m.sSlash false '*' = .advance m.sSlashStar
  slash_slash : tsLexMove m.sSlash false '/' = .advance m.sSlashSlash
  slash_body : ∀ x, x ≠ '*' → x ≠ '/' → x ≠ '\x00' → x ≠ m.d →
    tsLexMove m.sSlash false x = .advance m.sBody
  slash_d : tsLexMove m.sSlash false m.d = .stop
  body : m.IntoBody m.sBody
  pound : m.IntoBody m.sPound
  slashSlash : m.IntoBody m.sSlashSlash
  slashStar : m.IntoBody m.sSlashStar
  ws_pound : m.isWs '#' = false
  ws_slash : m.isWs '/' = false

/-- A content that lexes as a comment marker: whitespace, then exactly `#`, `//` or `/*`. -/
def markerContent (c : List Char) : Bool :=
  match c.dropWhile m.isWs with
  | ['#'] | ['/', '/'] | ['/', '*'] => true
  | _ => false

/-- A content: no NUL and no delimiter. -/
def IsContent (c : List Char) : Prop := ∀ x ∈ c, x ≠ '\x00' ∧ x ≠ m.d

variable {m}

theorem markerContent_cons_ws {x : Char} {c : List Char} (h : m.isWs x = true) :
    m.markerContent (x :: c) = m.markerContent c := by
  simp [markerContent, List.dropWhile_cons, h]

theorem markerContent_cons {x : Char} {c : List Char} (h : m.isWs x = false) :
    m.markerContent (x :: c) = match x :: c with
      | ['#'] | ['/', '/'] | ['/', '*'] => true
      | _ => false := by
  simp [markerContent, List.dropWhile_cons, h]

theorem IsContent.tail {x : Char} {c : List Char} (h : m.IsContent (x :: c)) : m.IsContent c :=
  fun y hy => h y (List.mem_cons_of_mem _ hy)

theorem IsContent.head {x : Char} {c : List Char} (h : m.IsContent (x :: c)) :
    x ≠ '\x00' ∧ x ≠ m.d :=
  h x (List.mem_cons_self _ _)

/-- A state whose move is the body's on every character but `d` and NUL moves into the
body. -/
theorem intoBody_of_move {s : Nat}
    (h : ∀ x, tsLexMove s false x = if x ≠ '\x00' ∧ x ≠ m.d then .advance m.sBody else .stop) :
    m.IntoBody s :=
  ⟨fun x h1 h2 => by rw [h, if_pos ⟨h1, h2⟩], by rw [h, if_neg fun h' => h'.2 rfl]⟩

section
variable (hm : m.Valid)
include hm

/-- The body reads the whole content. -/
theorem run_body {c : List Char} (hc : m.IsContent c) (pos start : Nat) (acc : Option Lexeme)
    (rest : List Char) :
    tsLexRun m.sBody pos start acc (c ++ m.d :: rest) =
      some (⟨m.token, start, pos + c.length⟩, m.d :: rest) := by
  induction c generalizing pos acc with
  | nil => rw [List.nil_append, tsLexRun_cons_stop hm.body.2, acceptAt_of_accept hm.accept_body]; rfl
  | cons x c ih =>
    obtain ⟨h0, hd⟩ := hc.head
    rw [List.cons_append, tsLexRun_cons_advance (hm.body.1 x h0 hd), ih hc.tail]
    simp [Nat.add_assoc, Nat.add_comm 1]

/-- A state that moves into the body reads a content that is not empty. -/
theorem run_intoBody {s : Nat} (hs : m.IntoBody s) {c : List Char} (hc : m.IsContent c)
    (hne : c ≠ []) (pos start : Nat) (acc : Option Lexeme) (rest : List Char) :
    tsLexRun s pos start acc (c ++ m.d :: rest) =
      some (⟨m.token, start, pos + c.length⟩, m.d :: rest) := by
  obtain ⟨x, c, rfl⟩ := List.exists_cons_of_ne_nil hne
  obtain ⟨h0, hd⟩ := hc.head
  rw [List.cons_append, tsLexRun_cons_advance (hs.1 x h0 hd), run_body hm hc.tail]
  simp [Nat.add_assoc, Nat.add_comm 1]

/-- After `/`, a content other than `/` and `*` alone. -/
theorem run_slash {c : List Char} (hc : m.IsContent c) (h1 : c ≠ ['/']) (h2 : c ≠ ['*'])
    (pos start : Nat) (acc : Option Lexeme) (rest : List Char) :
    tsLexRun m.sSlash pos start acc (c ++ m.d :: rest) =
      some (⟨m.token, start, pos + c.length⟩, m.d :: rest) := by
  cases c with
  | nil =>
    rw [List.nil_append, tsLexRun_cons_stop hm.slash_d, acceptAt_of_accept hm.accept_slash]; rfl
  | cons x c =>
    obtain ⟨h0, hd⟩ := hc.head
    have hlen : pos + (x :: c).length = pos + 1 + c.length := by simp; omega
    rw [List.cons_append, hlen]
    by_cases hstar : x = '*'
    · subst hstar
      rw [tsLexRun_cons_advance hm.slash_star,
        run_intoBody hm hm.slashStar hc.tail (by rintro rfl; exact h2 rfl)]
    by_cases hsl : x = '/'
    · subst hsl
      rw [tsLexRun_cons_advance hm.slash_slash,
        run_intoBody hm hm.slashSlash hc.tail (by rintro rfl; exact h1 rfl)]
    · rw [tsLexRun_cons_advance (hm.slash_body x hstar hsl h0 hd), run_body hm hc.tail]

/-- The run from the start state over a content. -/
theorem run_start {c : List Char} (hc : m.IsContent c) (hmark : m.markerContent c = false)
    (pos start : Nat) (acc : Option Lexeme) (rest : List Char) :
    tsLexRun m.s0 pos start acc (c ++ m.d :: rest) =
      some (⟨m.token, start, pos + c.length⟩, m.d :: rest) := by
  induction c generalizing pos acc with
  | nil => rw [List.nil_append, tsLexRun_cons_stop hm.s0_d, acceptAt_of_accept hm.accept_s0]; rfl
  | cons x c ih =>
    obtain ⟨h0, hd⟩ := hc.head
    have hlen : pos + (x :: c).length = pos + 1 + c.length := by simp; omega
    rw [List.cons_append, hlen]
    by_cases hp : x = '#'
    · subst hp
      rw [markerContent_cons hm.ws_pound] at hmark
      rw [tsLexRun_cons_advance hm.s0_pound,
        run_intoBody hm hm.pound hc.tail (by rintro rfl; simp at hmark)]
    by_cases hsl : x = '/'
    · subst hsl
      rw [markerContent_cons hm.ws_slash] at hmark
      rw [tsLexRun_cons_advance hm.s0_slash,
        run_slash hm hc.tail (by rintro rfl; simp at hmark) (by rintro rfl; simp at hmark)]
    cases hws : m.isWs x
    · rw [tsLexRun_cons_advance (hm.s0_body x hp hsl hws h0 hd), run_body hm hc.tail]
    · rw [markerContent_cons_ws hws] at hmark
      rw [tsLexRun_cons_advance (hm.s0_ws x hws), ih hc.tail hmark]

/-- **A content lexes as one token up to its delimiter**, unless it is whitespace followed
by exactly a comment marker. -/
theorem lex_content {c : List Char} (hc : m.IsContent c) (hmark : m.markerContent c = false)
    (pos : Nat) (rest : List Char) :
    tsLex m.s0 pos (c ++ m.d :: rest) = some (⟨m.token, pos, pos + c.length⟩, m.d :: rest) :=
  run_start hm hc hmark pos pos none rest

end

end ContentMode

/-! ## The three content modes -/

/-- The whitespace the content of a string starts with: tab, newline, carriage return and
space. -/
def isStringSpace (x : Char) : Bool := x == '\t' || x == '\n' || x == '\r' || x == ' '

/-- The whitespace the content of a line comment starts with: tab, carriage return and
space. -/
def isCommentSpace (x : Char) : Bool := x == '\t' || x == '\r' || x == ' '

/-- Lex mode `67`: the content of a `"` string, `aux_sym_string_token1`. -/
def dquoteContent : ContentMode :=
  ⟨'"', isStringSpace, .auxSymStringToken1, 67, 68, 69, 144, 152, 157⟩

/-- Lex mode `71`: the content of a `'` string, `aux_sym_string_token2`. -/
def squoteContent : ContentMode :=
  ⟨'\'', isStringSpace, .auxSymStringToken2, 71, 72, 73, 145, 153, 158⟩

/-- Lex mode `146`: the content of a line comment, `aux_sym_comment_token1`. -/
def lineCommentContent : ContentMode :=
  ⟨'\n', isCommentSpace, .auxSymCommentToken1, 146, 147, 148, 143, 151, 156⟩

theorem dquoteContent_valid : dquoteContent.Valid where
  accept_s0 := rfl
  accept_slash := rfl
  accept_body := rfl
  accept_pound := rfl
  accept_slashSlash := rfl
  accept_slashStar := rfl
  s0_pound := rfl
  s0_slash := rfl
  s0_ws := by
    intro x hx
    simp only [dquoteContent, isStringSpace, Bool.or_eq_true, beq_iff_eq] at hx
    rcases hx with ((rfl | rfl) | rfl) | rfl <;> rfl
  s0_body := by
    intro x h1 h2 h3 h4 h5
    simp only [dquoteContent, isStringSpace, Bool.or_eq_false_iff, beq_eq_false_iff_ne] at h3 h5
    simp [tsLexMove, tsLexStates4, dquoteContent, h1, h2, h3, h4, h5]
  s0_d := rfl
  slash_star := rfl
  slash_slash := rfl
  slash_body := by
    intro x h1 h2 h3 h4
    simp only [dquoteContent] at h4
    simp [tsLexMove, tsLexStates4, dquoteContent, h1, h2, h3, h4]
  slash_d := rfl
  body := ContentMode.intoBody_of_move fun _ => rfl
  pound := ContentMode.intoBody_of_move fun _ => rfl
  slashSlash := ContentMode.intoBody_of_move fun _ => rfl
  slashStar := ContentMode.intoBody_of_move fun _ => rfl
  ws_pound := rfl
  ws_slash := rfl

/-- The content `a b` of a `"` string lexes as one token. -/
theorem lex_content_dquote :
    dquoteContent.Valid ∧ dquoteContent.IsContent ['a', ' ', 'b'] ∧
      dquoteContent.markerContent ['a', ' ', 'b'] = false ∧
      tsLex 67 7 ['a', ' ', 'b', '"'] = some (⟨.auxSymStringToken1, 7, 10⟩, ['"']) :=
  have hc : dquoteContent.IsContent ['a', ' ', 'b'] := by unfold ContentMode.IsContent; decide
  ⟨dquoteContent_valid, hc, rfl, ContentMode.lex_content dquoteContent_valid hc rfl 7 []⟩

theorem squoteContent_valid : squoteContent.Valid where
  accept_s0 := rfl
  accept_slash := rfl
  accept_body := rfl
  accept_pound := rfl
  accept_slashSlash := rfl
  accept_slashStar := rfl
  s0_pound := rfl
  s0_slash := rfl
  s0_ws := by
    intro x hx
    simp only [squoteContent, isStringSpace, Bool.or_eq_true, beq_iff_eq] at hx
    rcases hx with ((rfl | rfl) | rfl) | rfl <;> rfl
  s0_body := by
    intro x h1 h2 h3 h4 h5
    simp only [squoteContent, isStringSpace, Bool.or_eq_false_iff, beq_eq_false_iff_ne] at h3 h5
    simp [tsLexMove, tsLexStates4, squoteContent, h1, h2, h3, h4, h5]
  s0_d := rfl
  slash_star := rfl
  slash_slash := rfl
  slash_body := by
    intro x h1 h2 h3 h4
    simp only [squoteContent] at h4
    simp [tsLexMove, tsLexStates4, squoteContent, h1, h2, h3, h4]
  slash_d := rfl
  body := ContentMode.intoBody_of_move fun _ => rfl
  pound := ContentMode.intoBody_of_move fun _ => rfl
  slashSlash := ContentMode.intoBody_of_move fun _ => rfl
  slashStar := ContentMode.intoBody_of_move fun _ => rfl
  ws_pound := rfl
  ws_slash := rfl

theorem lineCommentContent_valid : lineCommentContent.Valid where
  accept_s0 := rfl
  accept_slash := rfl
  accept_body := rfl
  accept_pound := rfl
  accept_slashSlash := rfl
  accept_slashStar := rfl
  s0_pound := rfl
  s0_slash := rfl
  s0_ws := by
    intro x hx
    simp only [lineCommentContent, isCommentSpace, Bool.or_eq_true, beq_iff_eq] at hx
    rcases hx with (rfl | rfl) | rfl <;> rfl
  s0_body := by
    intro x h1 h2 h3 h4 h5
    simp only [lineCommentContent, isCommentSpace, Bool.or_eq_false_iff,
      beq_eq_false_iff_ne] at h3 h5
    simp [tsLexMove, tsLexStates9, lineCommentContent, h1, h2, h3, h4, h5]
  s0_d := rfl
  slash_star := rfl
  slash_slash := rfl
  slash_body := by
    intro x h1 h2 h3 h4
    simp only [lineCommentContent] at h4
    simp [tsLexMove, tsLexStates9, lineCommentContent, h1, h2, h3, h4]
  slash_d := rfl
  body := ContentMode.intoBody_of_move fun _ => rfl
  pound := ContentMode.intoBody_of_move fun _ => rfl
  slashSlash := ContentMode.intoBody_of_move fun _ => rfl
  slashStar := ContentMode.intoBody_of_move fun _ => rfl
  ws_pound := rfl
  ws_slash := rfl

/-- The content `#` is a marker content: in `input "k" = "#"` it lexes as `#`, which starts a
comment inside the string, and the input is rejected. -/
theorem poundContent_rejected :
    dquoteContent.markerContent ['#'] = true ∧
      ∀ t, ¬ Accepts "input \"k\" = \"#\"".toList t :=
  ⟨rfl, not_accepts_of_parse_failed 21 rfl⟩

/-! ## Triple-quoted strings -/

/-- Lex mode `4`, the mode of state `137` after `"""`, takes one character as the content
token `aux_sym_string_token3`: in `input "k" = """ab"""` the content `ab` is cut after
`a`, and the input is rejected. -/
theorem tripleQuoted_content_cut :
    tsLexModes 137 = 4 ∧
      tsLex 4 15 "ab\"\"\"".toList = some (⟨.auxSymStringToken3, 15, 16⟩, "b\"\"\"".toList) ∧
      ∀ t, ¬ Accepts "input \"k\" = \"\"\"ab\"\"\"".toList t :=
  ⟨rfl, by decide, not_accepts_of_parse_failed 17 rfl⟩

end TreeSitterTxtx
