import TreeSitterTxtx.Symbol

/-!
# The lexer `ts_lex`

`ts_lex` is the generated lexical automaton of `parser.c`: a `switch` over 160 lex states,
each of which may first `ACCEPT_TOKEN` (record a symbol and `mark_end` at the current
position) and then moves on the lookahead character, by `ADVANCE` (consume it) or `SKIP`
(consume it and move the token's start past it), or stops (`END_STATE`). A call returns the
last token accepted, that is the longest match, with the input left after it; it fails when
no state on the way accepted. `ts_lex_modes` gives the lex state a parse state starts the
lexer in; `(TSStateId)(-1)` marks the two parse states that end a comment and lex nothing.

The lexer reads code points, as tree-sitter's lexer decodes the UTF-8 buffer before it calls
`ts_lex`; positions count code points. At the end of the input the lookahead is `0` and
`eof` holds.
-/

namespace TreeSitterTxtx

/-- What a lex state does with the lookahead: `ADVANCE`, `SKIP` or `END_STATE`. -/
inductive LexMove where
  | advance (state : Nat)
  | skip (state : Nat)
  | stop
  deriving DecidableEq, Repr

open Symbol in
/-- The `ACCEPT_TOKEN` at the head of each lex state of `ts_lex`, if it has one, for the lex
states `0` to `159` in order. -/
def tsLexAcceptTable : List (Option Symbol) :=
  [none, none, none, none, none, none, none, none, none, none, none, none, none, none,
   none, none, none, none, none, none, none, none, none, none, none, none, none, none,
   none, none, none, none, none, none, none, none, none, none, none, none, none, none,
   none, none, none, none, none, some tsBuiltinSymEnd, some anonSymAddon,
   some anonSymAddon, some anonSymSigner, some anonSymSigner, some anonSymAction,
   some anonSymAction, some anonSymOutput, some anonSymOutput, some anonSymVariable,
   some anonSymVariable, some anonSymInput, some anonSymInput, some anonSymEq,
   some anonSymImport, some anonSymImport, some anonSymLbrace, some anonSymRbrace,
   some anonSymDquote, some anonSymDquote, some auxSymStringToken1,
   some auxSymStringToken1, some auxSymStringToken1, some anonSymSquote,
   some auxSymStringToken2, some auxSymStringToken2, some auxSymStringToken2,
   some anonSymDquoteDquoteDquote, some auxSymStringToken3, some auxSymStringToken3,
   some auxSymStringToken3, some auxSymStringToken3, some auxSymNumberToken1,
   some auxSymNumberToken2, some auxSymNumberToken3, some auxSymNumberToken3,
   some anonSymTrue, some anonSymFalse, some symNull, some anonSymLbrack,
   some anonSymComma, some anonSymRbrack, some anonSymColon, some anonSymDot,
   some anonSymLparen, some anonSymRparen, some anonSymStar, some anonSymSlash,
   some anonSymPlus, some anonSymDash, some symIdentifier, some symIdentifier,
   some symIdentifier, some symIdentifier, some symIdentifier, some symIdentifier,
   some symIdentifier, some symIdentifier, some symIdentifier, some symIdentifier,
   some symIdentifier, some symIdentifier, some symIdentifier, some symIdentifier,
   some symIdentifier, some symIdentifier, some symIdentifier, some symIdentifier,
   some symIdentifier, some symIdentifier, some symIdentifier, some symIdentifier,
   some symIdentifier, some symIdentifier, some symIdentifier, some symIdentifier,
   some symIdentifier, some symIdentifier, some symIdentifier, some symIdentifier,
   some symIdentifier, some symIdentifier, some symIdentifier, some symIdentifier,
   some symIdentifier, some symIdentifier, some symIdentifier, some symIdentifier,
   some symIdentifier, some symIdentifier, some symIdentifier, some symIdentifier,
   some symIdentifier, some symIdentifier, some anonSymPound, some anonSymPound,
   some anonSymPound, some anonSymPound, some anonSymPound, some auxSymCommentToken1,
   some auxSymCommentToken1, some auxSymCommentToken1, some anonSymSlashSlash,
   some anonSymSlashSlash, some anonSymSlashSlash, some anonSymSlashSlash,
   some anonSymSlashSlash, some anonSymSlashStar, some anonSymSlashStar,
   some anonSymSlashStar, some anonSymSlashStar, some anonSymSlashStar,
   some auxSymCommentToken2]

/-- The token lex state `state` accepts on entering it. -/
def tsLexAccept (state : Nat) : Option Symbol := tsLexAcceptTable.getD state none

/-- The moves of the lex states of `ts_lex` on the lookahead `c`, tested in the source's
order; `eof` is `lexer->eof(lexer)`. The states are split in blocks of sixteen, each one a
function of its own, so that finding a state's case takes a division and a short match. -/
def tsLexStates0 (state : Nat) (eof : Bool) (c : Char) : LexMove :=
  match state with
  | 0 =>
    if eof then .advance 47
    else if c = '"' then .advance 66
    else if c = '#' then .advance 141
    else if c = '\'' then .advance 70
    else if c = '(' then .advance 91
    else if c = ')' then .advance 92
    else if c = '*' then .advance 93
    else if c = '+' then .advance 95
    else if c = ',' then .advance 87
    else if c = '-' then .advance 96
    else if c = '.' then .advance 90
    else if c = '/' then .advance 94
    else if c = '0' then .advance 81
    else if c = ':' then .advance 89
    else if c = '=' then .advance 60
    else if c = '[' then .advance 86
    else if c = ']' then .advance 88
    else if c = 'a' then .advance 101
    else if c = 'f' then .advance 97
    else if c = 'i' then .advance 115
    else if c = 'n' then .advance 137
    else if c = 'o' then .advance 136
    else if c = 's' then .advance 108
    else if c = 't' then .advance 126
    else if c = 'v' then .advance 99
    else if c = '{' then .advance 63
    else if c = '}' then .advance 64
    else if c = '\t' ∨ c = '\n' ∨ c = '\r' ∨ c = ' ' then .skip 0
    else if ('1' ≤ c ∧ c ≤ '9') then .advance 82
    else if ('A' ≤ c ∧ c ≤ 'Z') ∨ c = '_' ∨ ('b' ≤ c ∧ c ≤ 'z') then .advance 140
    else .stop
  | 1 =>
    if c = '"' then .advance 66
    else if c = '#' then .advance 141
    else if c = '\'' then .advance 70
    else if c = '(' then .advance 91
    else if c = '*' then .advance 93
    else if c = '+' then .advance 95
    else if c = ',' then .advance 87
    else if c = '-' then .advance 96
    else if c = '.' then .advance 90
    else if c = '/' then .advance 94
    else if c = '[' then .advance 86
    else if c = '}' then .advance 64
    else if c = '\t' ∨ c = '\n' ∨ c = '\r' ∨ c = ' ' then .skip 1
    else if ('A' ≤ c ∧ c ≤ 'Z') ∨ c = '_' ∨ ('a' ≤ c ∧ c ≤ 'z') then .advance 140
    else .stop
  | 2 =>
    if c = '"' then .advance 66
    else if c = '#' then .advance 141
    else if c = '\'' then .advance 70
    else if c = ')' then .advance 92
    else if c = ',' then .advance 87
    else if c = '/' then .advance 8
    else if c = '0' then .advance 81
    else if c = '[' then .advance 86
    else if c = ']' then .advance 88
    else if c = 'f' then .advance 97
    else if c = 'n' then .advance 137
    else if c = 't' then .advance 126
    else if c = '{' then .advance 63
    else if c = '\t' ∨ c = '\n' ∨ c = '\r' ∨ c = ' ' then .skip 2
    else if ('1' ≤ c ∧ c ≤ '9') then .advance 82
    else if ('A' ≤ c ∧ c ≤ 'Z') ∨ c = '_' ∨ ('a' ≤ c ∧ c ≤ 'z') then .advance 140
    else .stop
  | 3 =>
    if c = '"' then .advance 74
    else .stop
  | 4 =>
    if c = '"' then .advance 5
    else if c = '#' then .advance 141
    else if c = '/' then .advance 77
    else if c = '\t' ∨ c = '\n' ∨ c = '\r' ∨ c = ' ' then .advance 76
    else if c ≠ '\x00' then .advance 75
    else .stop
  | 5 =>
    if c = '"' then .advance 78
    else if c ≠ '\x00' then .advance 75
    else .stop
  | 6 =>
    if c = '"' then .advance 65
    else if c = '#' then .advance 141
    else if c = '/' then .advance 8
    else if c = '\t' ∨ c = '\n' ∨ c = '\r' ∨ c = ' ' then .skip 6
    else .stop
  | 7 =>
    if c = '#' then .advance 142
    else if c = '*' then .advance 159
    else if c = '/' then .advance 10
    else if c = '\t' ∨ c = '\n' ∨ c = '\r' ∨ c = ' ' then .advance 7
    else if c ≠ '\x00' then .advance 9
    else .stop
  | 8 =>
    if c = '*' then .advance 154
    else if c = '/' then .advance 149
    else .stop
  | 9 =>
    if c = '*' then .advance 159
    else if c ≠ '\x00' then .advance 9
    else .stop
  | 10 =>
    if c = '*' then .advance 155
    else if c = '/' then .advance 150
    else if c ≠ '\x00' then .advance 9
    else .stop
  | 11 =>
    if c = 'a' then .advance 34
    else .stop
  | 12 =>
    if c = 'a' then .advance 13
    else .stop
  | 13 =>
    if c = 'b' then .advance 22
    else .stop
  | 14 =>
    if c = 'c' then .advance 39
    else if c = 'd' then .advance 15
    else .stop
  | 15 =>
    if c = 'd' then .advance 28
    else .stop
  | _ => .stop

/-- The lex states 16 to 31 of `ts_lex`. -/
def tsLexStates1 (state : Nat) (_ : Bool) (c : Char) : LexMove :=
  match state with
  | 16 =>
    if c = 'e' then .advance 56
    else .stop
  | 17 =>
    if c = 'e' then .advance 33
    else .stop
  | 18 =>
    if c = 'g' then .advance 24
    else .stop
  | 19 =>
    if c = 'i' then .advance 18
    else .stop
  | 20 =>
    if c = 'i' then .advance 12
    else .stop
  | 21 =>
    if c = 'i' then .advance 29
    else .stop
  | 22 =>
    if c = 'l' then .advance 16
    else .stop
  | 23 =>
    if c = 'm' then .advance 30
    else if c = 'n' then .advance 31
    else .stop
  | 24 =>
    if c = 'n' then .advance 17
    else .stop
  | 25 =>
    if c = 'n' then .advance 48
    else .stop
  | 26 =>
    if c = 'n' then .advance 52
    else .stop
  | 27 =>
    if c = 'o' then .advance 35
    else .stop
  | 28 =>
    if c = 'o' then .advance 25
    else .stop
  | 29 =>
    if c = 'o' then .advance 26
    else .stop
  | 30 =>
    if c = 'p' then .advance 27
    else .stop
  | 31 =>
    if c = 'p' then .advance 42
    else .stop
  | _ => .stop

/-- The lex states 32 to 47 of `ts_lex`. -/
def tsLexStates2 (state : Nat) (eof : Bool) (c : Char) : LexMove :=
  match state with
  | 32 =>
    if c = 'p' then .advance 43
    else .stop
  | 33 =>
    if c = 'r' then .advance 50
    else .stop
  | 34 =>
    if c = 'r' then .advance 20
    else .stop
  | 35 =>
    if c = 'r' then .advance 37
    else .stop
  | 36 =>
    if c = 't' then .advance 58
    else .stop
  | 37 =>
    if c = 't' then .advance 61
    else .stop
  | 38 =>
    if c = 't' then .advance 54
    else .stop
  | 39 =>
    if c = 't' then .advance 21
    else .stop
  | 40 =>
    if c = 't' then .advance 32
    else .stop
  | 41 =>
    if c = 'u' then .advance 40
    else .stop
  | 42 =>
    if c = 'u' then .advance 36
    else .stop
  | 43 =>
    if c = 'u' then .advance 38
    else .stop
  | 44 =>
    if ('0' ≤ c ∧ c ≤ '9') then .advance 80
    else .stop
  | 45 =>
    if ('0' ≤ c ∧ c ≤ '9') ∨ ('A' ≤ c ∧ c ≤ 'F') ∨ ('a' ≤ c ∧ c ≤ 'f') then .advance 79
    else .stop
  | 46 =>
    if eof then .advance 47
    else if c = '"' then .advance 66
    else if c = '#' then .advance 141
    else if c = '\'' then .advance 70
    else if c = '(' then .advance 91
    else if c = ')' then .advance 92
    else if c = '*' then .advance 93
    else if c = '+' then .advance 95
    else if c = ',' then .advance 87
    else if c = '-' then .advance 96
    else if c = '.' then .advance 90
    else if c = '/' then .advance 94
    else if c = ':' then .advance 89
    else if c = '=' then .advance 60
    else if c = '[' then .advance 86
    else if c = ']' then .advance 88
    else if c = 'a' then .advance 14
    else if c = 'i' then .advance 23
    else if c = 'o' then .advance 41
    else if c = 's' then .advance 19
    else if c = 'v' then .advance 11
    else if c = '{' then .advance 63
    else if c = '}' then .advance 64
    else if c = '\t' ∨ c = '\n' ∨ c = '\r' ∨ c = ' ' then .skip 46
    else .stop
  | 47 => .stop
  | _ => .stop

/-- The lex states 48 to 63 of `ts_lex`. -/
def tsLexStates3 (state : Nat) (_ : Bool) (c : Char) : LexMove :=
  match state with
  | 48 => .stop
  | 49 =>
    if ('0' ≤ c ∧ c ≤ '9') ∨ ('A' ≤ c ∧ c ≤ 'Z') ∨ c = '_' ∨ ('a' ≤ c ∧ c ≤ 'z') then .advance 140
    else .stop
  | 50 => .stop
  | 51 =>
    if ('0' ≤ c ∧ c ≤ '9') ∨ ('A' ≤ c ∧ c ≤ 'Z') ∨ c = '_' ∨ ('a' ≤ c ∧ c ≤ 'z') then .advance 140
    else .stop
  | 52 => .stop
  | 53 =>
    if ('0' ≤ c ∧ c ≤ '9') ∨ ('A' ≤ c ∧ c ≤ 'Z') ∨ c = '_' ∨ ('a' ≤ c ∧ c ≤ 'z') then .advance 140
    else .stop
  | 54 => .stop
  | 55 =>
    if ('0' ≤ c ∧ c ≤ '9') ∨ ('A' ≤ c ∧ c ≤ 'Z') ∨ c = '_' ∨ ('a' ≤ c ∧ c ≤ 'z') then .advance 140
    else .stop
  | 56 => .stop
  | 57 =>
    if ('0' ≤ c ∧ c ≤ '9') ∨ ('A' ≤ c ∧ c ≤ 'Z') ∨ c = '_' ∨ ('a' ≤ c ∧ c ≤ 'z') then .advance 140
    else .stop
  | 58 => .stop
  | 59 =>
    if ('0' ≤ c ∧ c ≤ '9') ∨ ('A' ≤ c ∧ c ≤ 'Z') ∨ c = '_' ∨ ('a' ≤ c ∧ c ≤ 'z') then .advance 140
    else .stop
  | 60 => .stop
  | 61 => .stop
  | 62 =>
    if ('0' ≤ c ∧ c ≤ '9') ∨ ('A' ≤ c ∧ c ≤ 'Z') ∨ c = '_' ∨ ('a' ≤ c ∧ c ≤ 'z') then .advance 140
    else .stop
  | 63 => .stop
  | _ => .stop

/-- The lex states 64 to 79 of `ts_lex`. -/
def tsLexStates4 (state : Nat) (_ : Bool) (c : Char) : LexMove :=
  match state with
  | 64 => .stop
  | 65 => .stop
  | 66 =>
    if c = '"' then .advance 3
    else .stop
  | 67 =>
    if c = '#' then .advance 144
    else if c = '/' then .advance 68
    else if c = '\t' ∨ c = '\n' ∨ c = '\r' ∨ c = ' ' then .advance 67
    else if c ≠ '\x00' ∧ c ≠ '"' then .advance 69
    else .stop
  | 68 =>
    if c = '*' then .advance 157
    else if c = '/' then .advance 152
    else if c ≠ '\x00' ∧ c ≠ '"' then .advance 69
    else .stop
  | 69 =>
    if c ≠ '\x00' ∧ c ≠ '"' then .advance 69
    else .stop
  | 70 => .stop
  | 71 =>
    if c = '#' then .advance 145
    else if c = '/' then .advance 72
    else if c = '\t' ∨ c = '\n' ∨ c = '\r' ∨ c = ' ' then .advance 71
    else if c ≠ '\x00' ∧ c ≠ '\'' then .advance 73
    else .stop
  | 72 =>
    if c = '*' then .advance 158
    else if c = '/' then .advance 153
    else if c ≠ '\x00' ∧ c ≠ '\'' then .advance 73
    else .stop
  | 73 =>
    if c ≠ '\x00' ∧ c ≠ '\'' then .advance 73
    else .stop
  | 74 => .stop
  | 75 => .stop
  | 76 =>
    if c = '"' then .advance 5
    else if c = '#' then .advance 141
    else if c = '/' then .advance 77
    else if c = '\t' ∨ c = '\n' ∨ c = '\r' ∨ c = ' ' then .advance 76
    else if c ≠ '\x00' then .advance 75
    else .stop
  | 77 =>
    if c = '*' then .advance 154
    else if c = '/' then .advance 149
    else .stop
  | 78 =>
    if c ≠ '\x00' ∧ c ≠ '"' then .advance 78
    else .stop
  | 79 =>
    if ('0' ≤ c ∧ c ≤ '9') ∨ ('A' ≤ c ∧ c ≤ 'F') ∨ ('a' ≤ c ∧ c ≤ 'f') then .advance 79
    else .stop
  | _ => .stop

/-- The lex states 80 to 95 of `ts_lex`. -/
def tsLexStates5 (state : Nat) (_ : Bool) (c : Char) : LexMove :=
  match state with
  | 80 =>
    if ('0' ≤ c ∧ c ≤ '9') then .advance 80
    else .stop
  | 81 =>
    if c = '.' then .advance 44
    else if c = 'x' then .advance 45
    else if ('0' ≤ c ∧ c ≤ '9') then .advance 82
    else .stop
  | 82 =>
    if c = '.' then .advance 44
    else if ('0' ≤ c ∧ c ≤ '9') then .advance 82
    else .stop
  | 83 =>
    if ('0' ≤ c ∧ c ≤ '9') ∨ ('A' ≤ c ∧ c ≤ 'Z') ∨ c = '_' ∨ ('a' ≤ c ∧ c ≤ 'z') then .advance 140
    else .stop
  | 84 =>
    if ('0' ≤ c ∧ c ≤ '9') ∨ ('A' ≤ c ∧ c ≤ 'Z') ∨ c = '_' ∨ ('a' ≤ c ∧ c ≤ 'z') then .advance 140
    else .stop
  | 85 =>
    if ('0' ≤ c ∧ c ≤ '9') ∨ ('A' ≤ c ∧ c ≤ 'Z') ∨ c = '_' ∨ ('a' ≤ c ∧ c ≤ 'z') then .advance 140
    else .stop
  | 86 => .stop
  | 87 => .stop
  | 88 => .stop
  | 89 => .stop
  | 90 => .stop
  | 91 => .stop
  | 92 => .stop
  | 93 => .stop
  | 94 =>
    if c = '*' then .advance 154
    else if c = '/' then .advance 149
    else .stop
  | 95 => .stop
  | _ => .stop

/-- The lex states 96 to 111 of `ts_lex`. -/
def tsLexStates6 (state : Nat) (_ : Bool) (c : Char) : LexMove :=
  match state with
  | 96 => .stop
  | 97 =>
    if c = 'a' then .advance 111
    else if ('0' ≤ c ∧ c ≤ '9') ∨ ('A' ≤ c ∧ c ≤ 'Z') ∨ c = '_' ∨ ('b' ≤ c ∧ c ≤ 'z') then .advance 140
    else .stop
  | 98 =>
    if c = 'a' then .advance 100
    else if ('0' ≤ c ∧ c ≤ '9') ∨ ('A' ≤ c ∧ c ≤ 'Z') ∨ c = '_' ∨ ('b' ≤ c ∧ c ≤ 'z') then .advance 140
    else .stop
  | 99 =>
    if c = 'a' then .advance 127
    else if ('0' ≤ c ∧ c ≤ '9') ∨ ('A' ≤ c ∧ c ≤ 'Z') ∨ c = '_' ∨ ('b' ≤ c ∧ c ≤ 'z') then .advance 140
    else .stop
  | 100 =>
    if c = 'b' then .advance 114
    else if ('0' ≤ c ∧ c ≤ '9') ∨ ('A' ≤ c ∧ c ≤ 'Z') ∨ c = '_' ∨ ('a' ≤ c ∧ c ≤ 'z') then .advance 140
    else .stop
  | 101 =>
    if c = 'c' then .advance 133
    else if c = 'd' then .advance 102
    else if ('0' ≤ c ∧ c ≤ '9') ∨ ('A' ≤ c ∧ c ≤ 'Z') ∨ c = '_' ∨ ('a' ≤ c ∧ c ≤ 'z') then .advance 140
    else .stop
  | 102 =>
    if c = 'd' then .advance 119
    else if ('0' ≤ c ∧ c ≤ '9') ∨ ('A' ≤ c ∧ c ≤ 'Z') ∨ c = '_' ∨ ('a' ≤ c ∧ c ≤ 'z') then .advance 140
    else .stop
  | 103 =>
    if c = 'e' then .advance 83
    else if ('0' ≤ c ∧ c ≤ '9') ∨ ('A' ≤ c ∧ c ≤ 'Z') ∨ c = '_' ∨ ('a' ≤ c ∧ c ≤ 'z') then .advance 140
    else .stop
  | 104 =>
    if c = 'e' then .advance 84
    else if ('0' ≤ c ∧ c ≤ '9') ∨ ('A' ≤ c ∧ c ≤ 'Z') ∨ c = '_' ∨ ('a' ≤ c ∧ c ≤ 'z') then .advance 140
    else .stop
  | 105 =>
    if c = 'e' then .advance 57
    else if ('0' ≤ c ∧ c ≤ '9') ∨ ('A' ≤ c ∧ c ≤ 'Z') ∨ c = '_' ∨ ('a' ≤ c ∧ c ≤ 'z') then .advance 140
    else .stop
  | 106 =>
    if c = 'e' then .advance 125
    else if ('0' ≤ c ∧ c ≤ '9') ∨ ('A' ≤ c ∧ c ≤ 'Z') ∨ c = '_' ∨ ('a' ≤ c ∧ c ≤ 'z') then .advance 140
    else .stop
  | 107 =>
    if c = 'g' then .advance 118
    else if ('0' ≤ c ∧ c ≤ '9') ∨ ('A' ≤ c ∧ c ≤ 'Z') ∨ c = '_' ∨ ('a' ≤ c ∧ c ≤ 'z') then .advance 140
    else .stop
  | 108 =>
    if c = 'i' then .advance 107
    else if ('0' ≤ c ∧ c ≤ '9') ∨ ('A' ≤ c ∧ c ≤ 'Z') ∨ c = '_' ∨ ('a' ≤ c ∧ c ≤ 'z') then .advance 140
    else .stop
  | 109 =>
    if c = 'i' then .advance 98
    else if ('0' ≤ c ∧ c ≤ '9') ∨ ('A' ≤ c ∧ c ≤ 'Z') ∨ c = '_' ∨ ('a' ≤ c ∧ c ≤ 'z') then .advance 140
    else .stop
  | 110 =>
    if c = 'i' then .advance 121
    else if ('0' ≤ c ∧ c ≤ '9') ∨ ('A' ≤ c ∧ c ≤ 'Z') ∨ c = '_' ∨ ('a' ≤ c ∧ c ≤ 'z') then .advance 140
    else .stop
  | 111 =>
    if c = 'l' then .advance 129
    else if ('0' ≤ c ∧ c ≤ '9') ∨ ('A' ≤ c ∧ c ≤ 'Z') ∨ c = '_' ∨ ('a' ≤ c ∧ c ≤ 'z') then .advance 140
    else .stop
  | _ => .stop

/-- The lex states 112 to 127 of `ts_lex`. -/
def tsLexStates7 (state : Nat) (_ : Bool) (c : Char) : LexMove :=
  match state with
  | 112 =>
    if c = 'l' then .advance 85
    else if ('0' ≤ c ∧ c ≤ '9') ∨ ('A' ≤ c ∧ c ≤ 'Z') ∨ c = '_' ∨ ('a' ≤ c ∧ c ≤ 'z') then .advance 140
    else .stop
  | 113 =>
    if c = 'l' then .advance 112
    else if ('0' ≤ c ∧ c ≤ '9') ∨ ('A' ≤ c ∧ c ≤ 'Z') ∨ c = '_' ∨ ('a' ≤ c ∧ c ≤ 'z') then .advance 140
    else .stop
  | 114 =>
    if c = 'l' then .advance 105
    else if ('0' ≤ c ∧ c ≤ '9') ∨ ('A' ≤ c ∧ c ≤ 'Z') ∨ c = '_' ∨ ('a' ≤ c ∧ c ≤ 'z') then .advance 140
    else .stop
  | 115 =>
    if c = 'm' then .advance 122
    else if c = 'n' then .advance 123
    else if ('0' ≤ c ∧ c ≤ '9') ∨ ('A' ≤ c ∧ c ≤ 'Z') ∨ c = '_' ∨ ('a' ≤ c ∧ c ≤ 'z') then .advance 140
    else .stop
  | 116 =>
    if c = 'n' then .advance 49
    else if ('0' ≤ c ∧ c ≤ '9') ∨ ('A' ≤ c ∧ c ≤ 'Z') ∨ c = '_' ∨ ('a' ≤ c ∧ c ≤ 'z') then .advance 140
    else .stop
  | 117 =>
    if c = 'n' then .advance 53
    else if ('0' ≤ c ∧ c ≤ '9') ∨ ('A' ≤ c ∧ c ≤ 'Z') ∨ c = '_' ∨ ('a' ≤ c ∧ c ≤ 'z') then .advance 140
    else .stop
  | 118 =>
    if c = 'n' then .advance 106
    else if ('0' ≤ c ∧ c ≤ '9') ∨ ('A' ≤ c ∧ c ≤ 'Z') ∨ c = '_' ∨ ('a' ≤ c ∧ c ≤ 'z') then .advance 140
    else .stop
  | 119 =>
    if c = 'o' then .advance 116
    else if ('0' ≤ c ∧ c ≤ '9') ∨ ('A' ≤ c ∧ c ≤ 'Z') ∨ c = '_' ∨ ('a' ≤ c ∧ c ≤ 'z') then .advance 140
    else .stop
  | 120 =>
    if c = 'o' then .advance 128
    else if ('0' ≤ c ∧ c ≤ '9') ∨ ('A' ≤ c ∧ c ≤ 'Z') ∨ c = '_' ∨ ('a' ≤ c ∧ c ≤ 'z') then .advance 140
    else .stop
  | 121 =>
    if c = 'o' then .advance 117
    else if ('0' ≤ c ∧ c ≤ '9') ∨ ('A' ≤ c ∧ c ≤ 'Z') ∨ c = '_' ∨ ('a' ≤ c ∧ c ≤ 'z') then .advance 140
    else .stop
  | 122 =>
    if c = 'p' then .advance 120
    else if ('0' ≤ c ∧ c ≤ '9') ∨ ('A' ≤ c ∧ c ≤ 'Z') ∨ c = '_' ∨ ('a' ≤ c ∧ c ≤ 'z') then .advance 140
    else .stop
  | 123 =>
    if c = 'p' then .advance 138
    else if ('0' ≤ c ∧ c ≤ '9') ∨ ('A' ≤ c ∧ c ≤ 'Z') ∨ c = '_' ∨ ('a' ≤ c ∧ c ≤ 'z') then .advance 140
    else .stop
  | 124 =>
    if c = 'p' then .advance 139
    else if ('0' ≤ c ∧ c ≤ '9') ∨ ('A' ≤ c ∧ c ≤ 'Z') ∨ c = '_' ∨ ('a' ≤ c ∧ c ≤ 'z') then .advance 140
    else .stop
  | 125 =>
    if c = 'r' then .advance 51
    else if ('0' ≤ c ∧ c ≤ '9') ∨ ('A' ≤ c ∧ c ≤ 'Z') ∨ c = '_' ∨ ('a' ≤ c ∧ c ≤ 'z') then .advance 140
    else .stop
  | 126 =>
    if c = 'r' then .advance 135
    else if ('0' ≤ c ∧ c ≤ '9') ∨ ('A' ≤ c ∧ c ≤ 'Z') ∨ c = '_' ∨ ('a' ≤ c ∧ c ≤ 'z') then .advance 140
    else .stop
  | 127 =>
    if c = 'r' then .advance 109
    else if ('0' ≤ c ∧ c ≤ '9') ∨ ('A' ≤ c ∧ c ≤ 'Z') ∨ c = '_' ∨ ('a' ≤ c ∧ c ≤ 'z') then .advance 140
    else .stop
  | _ => .stop

/-- The lex states 128 to 143 of `ts_lex`. -/
def tsLexStates8 (state : Nat) (_ : Bool) (c : Char) : LexMove :=
  match state with
  | 128 =>
    if c = 'r' then .advance 131
    else if ('0' ≤ c ∧ c ≤ '9') ∨ ('A' ≤ c ∧ c ≤ 'Z') ∨ c = '_' ∨ ('a' ≤ c ∧ c ≤ 'z') then .advance 140
    else .stop
  | 129 =>
    if c = 's' then .advance 104
    else if ('0' ≤ c ∧ c ≤ '9') ∨ ('A' ≤ c ∧ c ≤ 'Z') ∨ c = '_' ∨ ('a' ≤ c ∧ c ≤ 'z') then .advance 140
    else .stop
  | 130 =>
    if c = 't' then .advance 59
    else if ('0' ≤ c ∧ c ≤ '9') ∨ ('A' ≤ c ∧ c ≤ 'Z') ∨ c = '_' ∨ ('a' ≤ c ∧ c ≤ 'z') then .advance 140
    else .stop
  | 131 =>
    if c = 't' then .advance 62
    else if ('0' ≤ c ∧ c ≤ '9') ∨ ('A' ≤ c ∧ c ≤ 'Z') ∨ c = '_' ∨ ('a' ≤ c ∧ c ≤ 'z') then .advance 140
    else .stop
  | 132 =>
    if c = 't' then .advance 55
    else if ('0' ≤ c ∧ c ≤ '9') ∨ ('A' ≤ c ∧ c ≤ 'Z') ∨ c = '_' ∨ ('a' ≤ c ∧ c ≤ 'z') then .advance 140
    else .stop
  | 133 =>
    if c = 't' then .advance 110
    else if ('0' ≤ c ∧ c ≤ '9') ∨ ('A' ≤ c ∧ c ≤ 'Z') ∨ c = '_' ∨ ('a' ≤ c ∧ c ≤ 'z') then .advance 140
    else .stop
  | 134 =>
    if c = 't' then .advance 124
    else if ('0' ≤ c ∧ c ≤ '9') ∨ ('A' ≤ c ∧ c ≤ 'Z') ∨ c = '_' ∨ ('a' ≤ c ∧ c ≤ 'z') then .advance 140
    else .stop
  | 135 =>
    if c = 'u' then .advance 103
    else if ('0' ≤ c ∧ c ≤ '9') ∨ ('A' ≤ c ∧ c ≤ 'Z') ∨ c = '_' ∨ ('a' ≤ c ∧ c ≤ 'z') then .advance 140
    else .stop
  | 136 =>
    if c = 'u' then .advance 134
    else if ('0' ≤ c ∧ c ≤ '9') ∨ ('A' ≤ c ∧ c ≤ 'Z') ∨ c = '_' ∨ ('a' ≤ c ∧ c ≤ 'z') then .advance 140
    else .stop
  | 137 =>
    if c = 'u' then .advance 113
    else if ('0' ≤ c ∧ c ≤ '9') ∨ ('A' ≤ c ∧ c ≤ 'Z') ∨ c = '_' ∨ ('a' ≤ c ∧ c ≤ 'z') then .advance 140
    else .stop
  | 138 =>
    if c = 'u' then .advance 130
    else if ('0' ≤ c ∧ c ≤ '9') ∨ ('A' ≤ c ∧ c ≤ 'Z') ∨ c = '_' ∨ ('a' ≤ c ∧ c ≤ 'z') then .advance 140
    else .stop
  | 139 =>
    if c = 'u' then .advance 132
    else if ('0' ≤ c ∧ c ≤ '9') ∨ ('A' ≤ c ∧ c ≤ 'Z') ∨ c = '_' ∨ ('a' ≤ c ∧ c ≤ 'z') then .advance 140
    else .stop
  | 140 =>
    if ('0' ≤ c ∧ c ≤ '9') ∨ ('A' ≤ c ∧ c ≤ 'Z') ∨ c = '_' ∨ ('a' ≤ c ∧ c ≤ 'z') then .advance 140
    else .stop
  | 141 => .stop
  | 142 =>
    if c = '*' then .advance 159
    else if c ≠ '\x00' then .advance 9
    else .stop
  | 143 =>
    if c ≠ '\x00' ∧ c ≠ '\n' then .advance 148
    else .stop
  | _ => .stop

/-- The lex states 144 to 159 of `ts_lex`. -/
def tsLexStates9 (state : Nat) (_ : Bool) (c : Char) : LexMove :=
  match state with
  | 144 =>
    if c ≠ '\x00' ∧ c ≠ '"' then .advance 69
    else .stop
  | 145 =>
    if c ≠ '\x00' ∧ c ≠ '\'' then .advance 73
    else .stop
  | 146 =>
    if c = '#' then .advance 143
    else if c = '/' then .advance 147
    else if c = '\t' ∨ c = '\r' ∨ c = ' ' then .advance 146
    else if c ≠ '\x00' ∧ c ≠ '\n' then .advance 148
    else .stop
  | 147 =>
    if c = '*' then .advance 156
    else if c = '/' then .advance 151
    else if c ≠ '\x00' ∧ c ≠ '\n' then .advance 148
    else .stop
  | 148 =>
    if c ≠ '\x00' ∧ c ≠ '\n' then .advance 148
    else .stop
  | 149 => .stop
  | 150 =>
    if c = '*' then .advance 159
    else if c ≠ '\x00' then .advance 9
    else .stop
  | 151 =>
    if c ≠ '\x00' ∧ c ≠ '\n' then .advance 148
    else .stop
  | 152 =>
    if c ≠ '\x00' ∧ c ≠ '"' then .advance 69
    else .stop
  | 153 =>
    if c ≠ '\x00' ∧ c ≠ '\'' then .advance 73
    else .stop
  | 154 => .stop
  | 155 =>
    if c = '*' then .advance 159
    else if c ≠ '\x00' ∧ c ≠ '/' then .advance 9
    else .stop
  | 156 =>
    if c ≠ '\x00' ∧ c ≠ '\n' then .advance 148
    else .stop
  | 157 =>
    if c ≠ '\x00' ∧ c ≠ '"' then .advance 69
    else .stop
  | 158 =>
    if c ≠ '\x00' ∧ c ≠ '\'' then .advance 73
    else .stop
  | 159 =>
    if c = '*' then .advance 159
    else if c ≠ '\x00' ∧ c ≠ '/' then .advance 9
    else .stop
  | _ => .stop

/-- The move of lex state `state` on the lookahead `c`: the case of `ts_lex`'s `switch` for
the state; a state past the last one stops (`default: return false`). -/
def tsLexMove (state : Nat) (eof : Bool) (c : Char) : LexMove :=
  match state / 16 with
  | 0 => tsLexStates0 state eof c
  | 1 => tsLexStates1 state eof c
  | 2 => tsLexStates2 state eof c
  | 3 => tsLexStates3 state eof c
  | 4 => tsLexStates4 state eof c
  | 5 => tsLexStates5 state eof c
  | 6 => tsLexStates6 state eof c
  | 7 => tsLexStates7 state eof c
  | 8 => tsLexStates8 state eof c
  | 9 => tsLexStates9 state eof c
  | _ => .stop

/-- `(TSStateId)(-1)`, the lex mode of a parse state in which the parser lexes nothing. -/
def noLexState : Nat := 65535

/-- `ts_lex_modes`: the lex state each of the 153 parse states starts the lexer in. -/
def tsLexModesTable : List Nat :=
  [0, 46, 2, 2, 2, 2, 2, 2, 2, 2, 2, 2, 2, 2, 2, 2,
   2, 46, 2, 2, 2, 46, 46, 46, 46, 46, 46, 46, 46, 46, 46, 46,
   46, 46, 46, 46, 46, 46, 46, 46, 46, 46, 46, 46, 46, 46, 46, 1,
   46, 46, 46, 46, 46, 46, 46, 1, 1, 46, 46, 1, 1, 1, 1, 46,
   0, 1, 1, 0, 1, 1, 0, 0, 1, 0, 1, 1, 1, 1, 1, 1,
   0, 1, 1, 1, 1, 1, 1, 1, 1, 1, 1, 1, 1, 1, 1, 0,
   0, 1, 0, 0, 0, 0, 0, 1, 1, 0, 0, 0, 0, 0, 0, 0,
   0, 0, 0, 0, 0, 0, 0, 1, 0, 0, 0, 1, 0, 0, 0, 1,
   0, 0, 0, 0, 71, 0, 0, 67, 0, 4, 0, 0, 0, 6, 0, 146,
   0, 7, 0, 4, 6, 67, 71, 65535, 65535]

/-- The lex mode of a parse state, `ts_lex_modes[state].lex_state`. -/
def tsLexModes (state : Nat) : Nat := tsLexModesTable.getD state 0

/-! ## Running the automaton -/

/-- A token as the lexer hands it to the parser: its symbol and its span `[start, stop)`. -/
structure Token where
  symbol : Symbol
  start : Nat
  stop : Nat
  deriving DecidableEq, Repr

/-- A token with the input left after it. -/
abbrev Lexeme := Token × List Char

/-- `ACCEPT_TOKEN` on entering `state` at `pos`: the token runs from `start` to `pos`, and
replaces the one accepted before. -/
def acceptAt (state pos start : Nat) (rest : List Char) (acc : Option Lexeme) :
    Option Lexeme :=
  match tsLexAccept state with
  | some sym => some (⟨sym, start, pos⟩, rest)
  | none => acc

/-- The loop of `ts_lex` from lex state `state` at position `pos` over the input `input`:
`start` is the token's start and `acc` the last token accepted. At the end of the input the
lookahead is `0` and `eof` holds; the advance there does not move, and the one state it
reaches (`47`, see `tsLexMove_eof_target`) accepts and stops. -/
def tsLexRun (state pos start : Nat) (acc : Option Lexeme) : List Char → Option Lexeme
  | [] =>
    let acc := acceptAt state pos start [] acc
    match tsLexMove state true '\x00' with
    | .advance s | .skip s => acceptAt s pos start [] acc
    | .stop => acc
  | c :: rest =>
    let acc := acceptAt state pos start (c :: rest) acc
    match tsLexMove state false c with
    | .advance s => tsLexRun s (pos + 1) start acc rest
    | .skip s => tsLexRun s (pos + 1) (pos + 1) acc rest
    | .stop => acc

/-- A call `ts_lex(lexer, mode)` at position `pos` with the input `input` left: the longest
token it accepts and the input after it, or `none` when it returns `false`. -/
def tsLex (mode pos : Nat) (input : List Char) : Option Lexeme :=
  tsLexRun mode pos pos none input

end TreeSitterTxtx
