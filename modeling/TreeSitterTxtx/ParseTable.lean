import TreeSitterTxtx.Lexer

/-!
# The parse tables of `parser.c`

The LR automaton tree-sitter generated for the txtx grammar, as data: `ts_parse_actions`
(each entry a list of actions under a header that counts them), the two large states of
`ts_parse_table` and the 151 small states of `ts_small_parse_table`, which map symbols to
action indices (tokens) or goto states (nonterminals), and the field maps of the nine
production ids. The lookup functions follow tree-sitter's `ts_language_lookup`,
`ts_language_actions` and `ts_language_next_state`.
-/

namespace TreeSitterTxtx

/-- A `TSParseAction`: `SHIFT(state)`, `SHIFT_REPEAT(state)`, `REDUCE(symbol, child_count,
.production_id)`, `ACCEPT_INPUT()` and `RECOVER()`. -/
inductive ParseAction where
  | shift (state : Nat)
  | shiftRepeat (state : Nat)
  | reduce (symbol : Symbol) (childCount productionId : Nat)
  | accept
  | recover
  deriving DecidableEq, Repr

open ParseAction Symbol in
/-- The actions at each index of `ts_parse_actions` that holds an entry header, in the
source's order; the header's `count` is their number (its `reusable` flag, which only
incremental reuse reads, is left out). The indices are split in blocks of thirty-two, each
one a function of its own, so that finding an index's entry takes a division and a short
match. -/
def tsParseActions0 (index : Nat) : List ParseAction :=
  match index with
  | 0 => []
  | 1 => [recover]
  | 3 => [shift 143]
  | 5 => [shift 145]
  | 7 => [reduce symRunbook 0 0]
  | 9 => [shift 101]
  | 11 => [shift 106]
  | 13 => [shift 109]
  | 15 => [shift 99]
  | 17 => [shift 102]
  | 19 => [shift 105]
  | 21 => [shift 100]
  | 23 => [shift 59]
  | 25 => [shift 135]
  | 27 => [shift 132]
  | 29 => [shift 137]
  | 31 => [shift 34]
  | _ => []

open ParseAction Symbol in
/-- The entries at the indices 32 to 63 of `ts_parse_actions`. -/
def tsParseActions1 (index : Nat) : List ParseAction :=
  match index with
  | 33 => [shift 34]
  | 35 => [shift 33]
  | 37 => [shift 32]
  | 39 => [shift 3]
  | 41 => [shift 128]
  | 43 => [shift 91]
  | 45 => [shift 21]
  | 47 => [shift 136]
  | 49 => [shift 31]
  | 51 => [shift 39]
  | 53 => [shift 44]
  | 55 => [shift 78]
  | 57 => [shift 76]
  | 59 => [shift 75]
  | 61 => [shift 35]
  | 63 => [shift 62]
  | _ => []

open ParseAction Symbol in
/-- The entries at the indices 64 to 95 of `ts_parse_actions`. -/
def tsParseActions2 (index : Nat) : List ParseAction :=
  match index with
  | 65 => [shift 149]
  | 67 => [shift 150]
  | 69 => [shift 147]
  | 71 => [shift 89]
  | 73 => [shift 89]
  | 75 => [shift 94]
  | 77 => [shift 93]
  | 79 => [shift 2]
  | 81 => [shift 47]
  | 83 => [reduce symString 3 0]
  | 85 => [reduce symString 3 0]
  | 87 => [reduce symReference 1 0]
  | 89 => [shift 20]
  | 91 => [shift 127]
  | 93 => [shift 9]
  | 95 => [reduce symReference 1 0]
  | _ => []

open ParseAction Symbol in
/-- The entries at the indices 96 to 127 of `ts_parse_actions`. -/
def tsParseActions3 (index : Nat) : List ParseAction :=
  match index with
  | 97 => [reduce auxSymReferenceRepeat1 2 0]
  | 99 => [reduce auxSymReferenceRepeat1 2 0, shiftRepeat 127]
  | 102 => [reduce auxSymReferenceRepeat1 2 0]
  | 104 => [reduce symReference 2 0]
  | 106 => [reduce symReference 2 0]
  | 108 => [reduce symIndexAccess 4 0]
  | 110 => [reduce symIndexAccess 4 0]
  | 112 => [reduce symRunbook 1 0]
  | 114 => [reduce auxSymRunbookRepeat1 2 0]
  | 116 => [reduce auxSymRunbookRepeat1 2 0, shiftRepeat 101]
  | 119 => [reduce auxSymRunbookRepeat1 2 0, shiftRepeat 106]
  | 122 => [reduce auxSymRunbookRepeat1 2 0, shiftRepeat 109]
  | 125 => [reduce auxSymRunbookRepeat1 2 0, shiftRepeat 99]
  | _ => []

open ParseAction Symbol in
/-- The entries at the indices 128 to 159 of `ts_parse_actions`. -/
def tsParseActions4 (index : Nat) : List ParseAction :=
  match index with
  | 128 => [reduce auxSymRunbookRepeat1 2 0, shiftRepeat 102]
  | 131 => [reduce auxSymRunbookRepeat1 2 0, shiftRepeat 105]
  | 134 => [reduce auxSymRunbookRepeat1 2 0, shiftRepeat 100]
  | 137 => [reduce symArray 3 0]
  | 139 => [reduce symArray 3 0]
  | 141 => [reduce symArray 2 0]
  | 143 => [reduce symArray 2 0]
  | 145 => [reduce symExpression 1 0]
  | 147 => [reduce symExpression 1 0]
  | 149 => [reduce symBoolean 1 0]
  | 151 => [reduce symBoolean 1 0]
  | 153 => [reduce symNumber 1 0]
  | 155 => [reduce symNumber 1 0]
  | 157 => [reduce symFunctionCall 3 7]
  | 159 => [reduce symFunctionCall 3 7]
  | _ => []

open ParseAction Symbol in
/-- The entries at the indices 160 to 191 of `ts_parse_actions`. -/
def tsParseActions5 (index : Nat) : List ParseAction :=
  match index with
  | 161 => [reduce symObject 3 0]
  | 163 => [reduce symObject 3 0]
  | 165 => [reduce symObject 2 0]
  | 167 => [reduce symObject 2 0]
  | 169 => [reduce symFunctionCall 5 9]
  | 171 => [reduce symFunctionCall 5 9]
  | 173 => [reduce symArray 5 0]
  | 175 => [reduce symArray 5 0]
  | 177 => [reduce symObject 5 0]
  | 179 => [reduce symObject 5 0]
  | 181 => [reduce symBinaryExpression 3 0]
  | 183 => [reduce symBinaryExpression 3 0]
  | 185 => [reduce symFunctionCall 4 8]
  | 187 => [reduce symFunctionCall 4 8]
  | 189 => [shift 13]
  | 191 => [shift 13]
  | _ => []

open ParseAction Symbol in
/-- The entries at the indices 192 to 223 of `ts_parse_actions`. -/
def tsParseActions6 (index : Nat) : List ParseAction :=
  match index with
  | 193 => [reduce symArray 4 0]
  | 195 => [reduce symArray 4 0]
  | 197 => [reduce symObject 4 0]
  | 199 => [reduce symObject 4 0]
  | 201 => [reduce symInputDeclaration 4 5]
  | 203 => [shift 14]
  | 205 => [shift 12]
  | 207 => [shift 119]
  | 209 => [shift 8]
  | 211 => [reduce auxSymRunbookRepeat1 1 0]
  | 213 => [reduce symAddonBlock 3 2]
  | 215 => [reduce symImportStatement 2 1]
  | 217 => [reduce symStatement 1 0]
  | 219 => [reduce symOutputBlock 3 3]
  | 221 => [reduce symVariableDeclaration 3 3]
  | 223 => [reduce symBlock 2 0]
  | _ => []

open ParseAction Symbol in
/-- The entries at the indices 224 to 255 of `ts_parse_actions`. -/
def tsParseActions7 (index : Nat) : List ParseAction :=
  match index with
  | 225 => [reduce symSignerBlock 4 4]
  | 227 => [reduce symActionBlock 4 4]
  | 229 => [shift 37]
  | 231 => [shift 144]
  | 233 => [shift 140]
  | 235 => [reduce auxSymReferenceRepeat1 2 0, shiftRepeat 119]
  | 238 => [shift 92]
  | 240 => [shift 134]
  | 242 => [reduce symBlock 3 0]
  | 244 => [reduce auxSymArrayRepeat1 2 0]
  | 246 => [shift 40]
  | 248 => [shift 86]
  | 250 => [shift 15]
  | 252 => [shift 85]
  | 254 => [shift 81]
  | _ => []

open ParseAction Symbol in
/-- The entries at the indices 256 to 287 of `ts_parse_actions`. -/
def tsParseActions8 (index : Nat) : List ParseAction :=
  match index with
  | 256 => [shift 7]
  | 258 => [shift 88]
  | 260 => [shift 42]
  | 262 => [shift 5]
  | 264 => [shift 30]
  | 266 => [shift 45]
  | 268 => [reduce symAttribute 3 6]
  | 270 => [shift 18]
  | 272 => [shift 18]
  | 274 => [shift 10]
  | 276 => [reduce symObjectField 3 6]
  | 278 => [shift 72]
  | 280 => [shift 26]
  | 282 => [shift 54]
  | 284 => [shift 133]
  | 286 => [shift 63]
  | _ => []

open ParseAction Symbol in
/-- The entries at the indices 288 to 319 of `ts_parse_actions`. -/
def tsParseActions9 (index : Nat) : List ParseAction :=
  match index with
  | 288 => [reduce auxSymBlockRepeat1 2 0]
  | 290 => [reduce auxSymBlockRepeat1 2 0, shiftRepeat 133]
  | 293 => [reduce auxSymArrayRepeat1 2 0, shiftRepeat 15]
  | 296 => [shift 4]
  | 298 => [shift 66]
  | 300 => [shift 6]
  | 302 => [shift 38]
  | 304 => [shift 36]
  | 306 => [shift 74]
  | 308 => [reduce auxSymObjectRepeat1 2 0]
  | 310 => [reduce auxSymObjectRepeat1 2 0, shiftRepeat 79]
  | 313 => [shift 90]
  | 315 => [shift 69]
  | 317 => [shift 82]
  | 319 => [shift 65]
  | _ => []

open ParseAction Symbol in
/-- The entries at the indices 320 to 351 of `ts_parse_actions`. -/
def tsParseActions10 (index : Nat) : List ParseAction :=
  match index with
  | 321 => [shift 60]
  | 323 => [shift 97]
  | 325 => [reduce auxSymBlockRepeat1 1 0]
  | 327 => [shift 23]
  | 329 => [shift 17]
  | 331 => [shift 87]
  | 333 => [shift 129]
  | 335 => [shift 143]
  | 337 => [shift 145]
  | 339 => [shift 19]
  | 341 => [shift 148]
  | 343 => [shift 138]
  | 345 => [shift 151]
  | 347 => [shift 11]
  | 349 => [accept]
  | 351 => [shift 152]
  | _ => []

open ParseAction Symbol in
/-- The entries at the indices 352 to 383 of `ts_parse_actions`. -/
def tsParseActions11 (index : Nat) : List ParseAction :=
  match index with
  | 353 => [shift 139]
  | 355 => [shift 16]
  | 357 => [shift 131]
  | 359 => [shift 141]
  | 361 => [shift 130]
  | 363 => [reduce symComment 3 0]
  | 365 => [reduce symComment 2 0]
  | _ => []

/-- `ts_parse_actions[index]`: the actions under the entry header at `index`; an index that
holds no header has none. -/
def actionsAt (index : Nat) : List ParseAction :=
  match index / 32 with
  | 0 => tsParseActions0 index
  | 1 => tsParseActions1 index
  | 2 => tsParseActions2 index
  | 3 => tsParseActions3 index
  | 4 => tsParseActions4 index
  | 5 => tsParseActions5 index
  | 6 => tsParseActions6 index
  | 7 => tsParseActions7 index
  | 8 => tsParseActions8 index
  | 9 => tsParseActions9 index
  | 10 => tsParseActions10 index
  | 11 => tsParseActions11 index
  | _ => []

/-- `LARGE_STATE_COUNT`: the states below it have a full row in `ts_parse_table`. -/
def largeStateCount : Nat := 2

open Symbol in
/-- `ts_parse_table`, the rows of the two large states `0` and `1`: for each symbol listed, its
action index (`ACTIONS`) or goto state (`STATE`); an unlisted symbol holds `0`. -/
def tsParseTable : List (List (Symbol × Nat)) := [
  -- 0
  [(symComment, 0), (tsBuiltinSymEnd, 1), (anonSymAddon, 1), (anonSymSigner, 1),
   (anonSymAction, 1), (anonSymOutput, 1), (anonSymVariable, 1), (anonSymInput, 1),
   (anonSymEq, 1), (anonSymImport, 1), (anonSymLbrace, 1), (anonSymRbrace, 1),
   (anonSymDquote, 1), (anonSymSquote, 1), (anonSymDquoteDquoteDquote, 1),
   (auxSymNumberToken1, 1), (auxSymNumberToken2, 1), (auxSymNumberToken3, 1),
   (anonSymTrue, 1), (anonSymFalse, 1), (symNull, 1), (anonSymLbrack, 1),
   (anonSymComma, 1), (anonSymRbrack, 1), (anonSymColon, 1), (anonSymDot, 1),
   (anonSymLparen, 1), (anonSymRparen, 1), (anonSymStar, 1), (anonSymSlash, 1),
   (anonSymPlus, 1), (anonSymDash, 1), (symIdentifier, 1), (anonSymPound, 3),
   (anonSymSlashSlash, 5), (anonSymSlashStar, 5)],
  -- 1
  [(symRunbook, 142), (symStatement, 48), (symAddonBlock, 51), (symSignerBlock, 51),
   (symActionBlock, 51), (symOutputBlock, 51), (symVariableDeclaration, 51),
   (symInputDeclaration, 51), (symImportStatement, 51), (symComment, 1),
   (auxSymRunbookRepeat1, 28), (tsBuiltinSymEnd, 7), (anonSymAddon, 9),
   (anonSymSigner, 11), (anonSymAction, 13), (anonSymOutput, 15), (anonSymVariable, 17),
   (anonSymInput, 19), (anonSymImport, 21), (anonSymPound, 3), (anonSymSlashSlash, 5),
   (anonSymSlashStar, 5)]]

open Symbol in
/-- `ts_small_parse_table`, state by state from state `2` (the offsets of
`ts_small_parse_table_map` resolved): each group is a value, an action index for tokens
(`ACTIONS`) or a goto state for nonterminals (`STATE`), followed by the symbols that map to
it, in the source's order. -/
def tsSmallParseTable : List (List (Nat × List Symbol)) := [
  -- 2
  [(3, [anonSymPound]), (23, [anonSymLbrace]), (25, [anonSymDquote]),
   (27, [anonSymSquote]), (29, [anonSymDquoteDquoteDquote]), (33, [auxSymNumberToken3]),
   (37, [symNull]), (39, [anonSymLbrack]), (41, [anonSymComma]), (43, [anonSymRbrack]),
   (45, [symIdentifier]), (2, [symComment]), (25, [symIndexAccess]),
   (70, [symExpression]), (5, [anonSymSlashSlash, anonSymSlashStar]),
   (31, [auxSymNumberToken1, auxSymNumberToken2]), (35, [anonSymTrue, anonSymFalse]),
   (32, [symString, symNumber, symBoolean, symArray,
     symObject, symReference, symFunctionCall, symBinaryExpression])],
  -- 3
  [(3, [anonSymPound]), (23, [anonSymLbrace]), (25, [anonSymDquote]),
   (27, [anonSymSquote]), (29, [anonSymDquoteDquoteDquote]), (33, [auxSymNumberToken3]),
   (37, [symNull]), (39, [anonSymLbrack]), (45, [symIdentifier]), (47, [anonSymComma]),
   (49, [anonSymRbrack]), (3, [symComment]), (25, [symIndexAccess]),
   (73, [symExpression]), (5, [anonSymSlashSlash, anonSymSlashStar]),
   (31, [auxSymNumberToken1, auxSymNumberToken2]), (35, [anonSymTrue, anonSymFalse]),
   (32, [symString, symNumber, symBoolean, symArray,
     symObject, symReference, symFunctionCall, symBinaryExpression])],
  -- 4
  [(3, [anonSymPound]), (23, [anonSymLbrace]), (25, [anonSymDquote]),
   (27, [anonSymSquote]), (29, [anonSymDquoteDquoteDquote]), (33, [auxSymNumberToken3]),
   (37, [symNull]), (39, [anonSymLbrack]), (45, [symIdentifier]), (51, [anonSymRbrack]),
   (4, [symComment]), (25, [symIndexAccess]), (64, [symExpression]),
   (5, [anonSymSlashSlash, anonSymSlashStar]),
   (31, [auxSymNumberToken1, auxSymNumberToken2]), (35, [anonSymTrue, anonSymFalse]),
   (32, [symString, symNumber, symBoolean, symArray,
     symObject, symReference, symFunctionCall, symBinaryExpression])],
  -- 5
  [(3, [anonSymPound]), (23, [anonSymLbrace]), (25, [anonSymDquote]),
   (27, [anonSymSquote]), (29, [anonSymDquoteDquoteDquote]), (33, [auxSymNumberToken3]),
   (37, [symNull]), (39, [anonSymLbrack]), (45, [symIdentifier]), (53, [anonSymRbrack]),
   (5, [symComment]), (25, [symIndexAccess]), (64, [symExpression]),
   (5, [anonSymSlashSlash, anonSymSlashStar]),
   (31, [auxSymNumberToken1, auxSymNumberToken2]), (35, [anonSymTrue, anonSymFalse]),
   (32, [symString, symNumber, symBoolean, symArray,
     symObject, symReference, symFunctionCall, symBinaryExpression])],
  -- 6
  [(3, [anonSymPound]), (23, [anonSymLbrace]), (25, [anonSymDquote]),
   (27, [anonSymSquote]), (29, [anonSymDquoteDquoteDquote]), (33, [auxSymNumberToken3]),
   (37, [symNull]), (39, [anonSymLbrack]), (45, [symIdentifier]), (55, [anonSymRbrack]),
   (6, [symComment]), (25, [symIndexAccess]), (64, [symExpression]),
   (5, [anonSymSlashSlash, anonSymSlashStar]),
   (31, [auxSymNumberToken1, auxSymNumberToken2]), (35, [anonSymTrue, anonSymFalse]),
   (32, [symString, symNumber, symBoolean, symArray,
     symObject, symReference, symFunctionCall, symBinaryExpression])],
  -- 7
  [(3, [anonSymPound]), (23, [anonSymLbrace]), (25, [anonSymDquote]),
   (27, [anonSymSquote]), (29, [anonSymDquoteDquoteDquote]), (33, [auxSymNumberToken3]),
   (37, [symNull]), (39, [anonSymLbrack]), (45, [symIdentifier]), (57, [anonSymRbrack]),
   (7, [symComment]), (25, [symIndexAccess]), (64, [symExpression]),
   (5, [anonSymSlashSlash, anonSymSlashStar]),
   (31, [auxSymNumberToken1, auxSymNumberToken2]), (35, [anonSymTrue, anonSymFalse]),
   (32, [symString, symNumber, symBoolean, symArray,
     symObject, symReference, symFunctionCall, symBinaryExpression])],
  -- 8
  [(3, [anonSymPound]), (23, [anonSymLbrace]), (25, [anonSymDquote]),
   (27, [anonSymSquote]), (29, [anonSymDquoteDquoteDquote]), (33, [auxSymNumberToken3]),
   (37, [symNull]), (39, [anonSymLbrack]), (45, [symIdentifier]), (59, [anonSymRparen]),
   (8, [symComment]), (25, [symIndexAccess]), (67, [symExpression]),
   (5, [anonSymSlashSlash, anonSymSlashStar]),
   (31, [auxSymNumberToken1, auxSymNumberToken2]), (35, [anonSymTrue, anonSymFalse]),
   (32, [symString, symNumber, symBoolean, symArray,
     symObject, symReference, symFunctionCall, symBinaryExpression])],
  -- 9
  [(3, [anonSymPound]), (23, [anonSymLbrace]), (25, [anonSymDquote]),
   (27, [anonSymSquote]), (29, [anonSymDquoteDquoteDquote]), (33, [auxSymNumberToken3]),
   (37, [symNull]), (39, [anonSymLbrack]), (45, [symIdentifier]), (61, [anonSymRparen]),
   (9, [symComment]), (25, [symIndexAccess]), (71, [symExpression]),
   (5, [anonSymSlashSlash, anonSymSlashStar]),
   (31, [auxSymNumberToken1, auxSymNumberToken2]), (35, [anonSymTrue, anonSymFalse]),
   (32, [symString, symNumber, symBoolean, symArray,
     symObject, symReference, symFunctionCall, symBinaryExpression])],
  -- 10
  [(3, [anonSymPound]), (63, [anonSymLbrace]), (65, [anonSymDquote]),
   (67, [anonSymSquote]), (69, [anonSymDquoteDquoteDquote]), (73, [auxSymNumberToken3]),
   (77, [symNull]), (79, [anonSymLbrack]), (81, [symIdentifier]), (10, [symComment]),
   (55, [symIndexAccess]), (83, [symExpression]),
   (5, [anonSymSlashSlash, anonSymSlashStar]),
   (71, [auxSymNumberToken1, auxSymNumberToken2]), (75, [anonSymTrue, anonSymFalse]),
   (93, [symString, symNumber, symBoolean, symArray,
     symObject, symReference, symFunctionCall, symBinaryExpression])],
  -- 11
  [(3, [anonSymPound]), (23, [anonSymLbrace]), (25, [anonSymDquote]),
   (27, [anonSymSquote]), (29, [anonSymDquoteDquoteDquote]), (33, [auxSymNumberToken3]),
   (37, [symNull]), (39, [anonSymLbrack]), (45, [symIdentifier]), (11, [symComment]),
   (25, [symIndexAccess]), (80, [symExpression]),
   (5, [anonSymSlashSlash, anonSymSlashStar]),
   (31, [auxSymNumberToken1, auxSymNumberToken2]), (35, [anonSymTrue, anonSymFalse]),
   (32, [symString, symNumber, symBoolean, symArray,
     symObject, symReference, symFunctionCall, symBinaryExpression])],
  -- 12
  [(3, [anonSymPound]), (23, [anonSymLbrace]), (25, [anonSymDquote]),
   (27, [anonSymSquote]), (29, [anonSymDquoteDquoteDquote]), (33, [auxSymNumberToken3]),
   (37, [symNull]), (39, [anonSymLbrack]), (45, [symIdentifier]), (12, [symComment]),
   (25, [symIndexAccess]), (95, [symExpression]),
   (5, [anonSymSlashSlash, anonSymSlashStar]),
   (31, [auxSymNumberToken1, auxSymNumberToken2]), (35, [anonSymTrue, anonSymFalse]),
   (32, [symString, symNumber, symBoolean, symArray,
     symObject, symReference, symFunctionCall, symBinaryExpression])],
  -- 13
  [(3, [anonSymPound]), (23, [anonSymLbrace]), (25, [anonSymDquote]),
   (27, [anonSymSquote]), (29, [anonSymDquoteDquoteDquote]), (33, [auxSymNumberToken3]),
   (37, [symNull]), (39, [anonSymLbrack]), (45, [symIdentifier]), (13, [symComment]),
   (25, [symIndexAccess]), (41, [symExpression]),
   (5, [anonSymSlashSlash, anonSymSlashStar]),
   (31, [auxSymNumberToken1, auxSymNumberToken2]), (35, [anonSymTrue, anonSymFalse]),
   (32, [symString, symNumber, symBoolean, symArray,
     symObject, symReference, symFunctionCall, symBinaryExpression])],
  -- 14
  [(3, [anonSymPound]), (23, [anonSymLbrace]), (25, [anonSymDquote]),
   (27, [anonSymSquote]), (29, [anonSymDquoteDquoteDquote]), (33, [auxSymNumberToken3]),
   (37, [symNull]), (39, [anonSymLbrack]), (45, [symIdentifier]), (14, [symComment]),
   (25, [symIndexAccess]), (43, [symExpression]),
   (5, [anonSymSlashSlash, anonSymSlashStar]),
   (31, [auxSymNumberToken1, auxSymNumberToken2]), (35, [anonSymTrue, anonSymFalse]),
   (32, [symString, symNumber, symBoolean, symArray,
     symObject, symReference, symFunctionCall, symBinaryExpression])],
  -- 15
  [(3, [anonSymPound]), (23, [anonSymLbrace]), (25, [anonSymDquote]),
   (27, [anonSymSquote]), (29, [anonSymDquoteDquoteDquote]), (33, [auxSymNumberToken3]),
   (37, [symNull]), (39, [anonSymLbrack]), (45, [symIdentifier]), (15, [symComment]),
   (25, [symIndexAccess]), (64, [symExpression]),
   (5, [anonSymSlashSlash, anonSymSlashStar]),
   (31, [auxSymNumberToken1, auxSymNumberToken2]), (35, [anonSymTrue, anonSymFalse]),
   (32, [symString, symNumber, symBoolean, symArray,
     symObject, symReference, symFunctionCall, symBinaryExpression])],
  -- 16
  [(3, [anonSymPound]), (23, [anonSymLbrace]), (25, [anonSymDquote]),
   (27, [anonSymSquote]), (29, [anonSymDquoteDquoteDquote]), (33, [auxSymNumberToken3]),
   (37, [symNull]), (39, [anonSymLbrack]), (45, [symIdentifier]), (16, [symComment]),
   (25, [symIndexAccess]), (46, [symExpression]),
   (5, [anonSymSlashSlash, anonSymSlashStar]),
   (31, [auxSymNumberToken1, auxSymNumberToken2]), (35, [anonSymTrue, anonSymFalse]),
   (32, [symString, symNumber, symBoolean, symArray,
     symObject, symReference, symFunctionCall, symBinaryExpression])],
  -- 17
  [(3, [anonSymPound]), (17, [symComment]), (5, [anonSymSlashSlash, anonSymSlashStar]),
   (85, [anonSymDquote, anonSymSlash]),
   (83, [tsBuiltinSymEnd, anonSymAddon, anonSymSigner, anonSymAction, anonSymOutput, anonSymVariable, anonSymInput, anonSymEq, anonSymImport, anonSymLbrace,
     anonSymRbrace, anonSymSquote, anonSymDquoteDquoteDquote, anonSymComma, anonSymRbrack, anonSymColon, anonSymRparen, anonSymStar, anonSymPlus, anonSymDash])],
  -- 18
  [(3, [anonSymPound]), (63, [anonSymLbrace]), (65, [anonSymDquote]),
   (67, [anonSymSquote]), (69, [anonSymDquoteDquoteDquote]), (73, [auxSymNumberToken3]),
   (77, [symNull]), (79, [anonSymLbrack]), (81, [symIdentifier]), (18, [symComment]),
   (55, [symIndexAccess]), (84, [symExpression]),
   (5, [anonSymSlashSlash, anonSymSlashStar]),
   (71, [auxSymNumberToken1, auxSymNumberToken2]), (75, [anonSymTrue, anonSymFalse]),
   (93, [symString, symNumber, symBoolean, symArray,
     symObject, symReference, symFunctionCall, symBinaryExpression])],
  -- 19
  [(3, [anonSymPound]), (63, [anonSymLbrace]), (65, [anonSymDquote]),
   (67, [anonSymSquote]), (69, [anonSymDquoteDquoteDquote]), (73, [auxSymNumberToken3]),
   (77, [symNull]), (79, [anonSymLbrack]), (81, [symIdentifier]), (19, [symComment]),
   (55, [symIndexAccess]), (77, [symExpression]),
   (5, [anonSymSlashSlash, anonSymSlashStar]),
   (71, [auxSymNumberToken1, auxSymNumberToken2]), (75, [anonSymTrue, anonSymFalse]),
   (93, [symString, symNumber, symBoolean, symArray,
     symObject, symReference, symFunctionCall, symBinaryExpression])],
  -- 20
  [(3, [anonSymPound]), (23, [anonSymLbrace]), (25, [anonSymDquote]),
   (27, [anonSymSquote]), (29, [anonSymDquoteDquoteDquote]), (33, [auxSymNumberToken3]),
   (37, [symNull]), (39, [anonSymLbrack]), (45, [symIdentifier]), (20, [symComment]),
   (25, [symIndexAccess]), (96, [symExpression]),
   (5, [anonSymSlashSlash, anonSymSlashStar]),
   (31, [auxSymNumberToken1, auxSymNumberToken2]), (35, [anonSymTrue, anonSymFalse]),
   (32, [symString, symNumber, symBoolean, symArray,
     symObject, symReference, symFunctionCall, symBinaryExpression])],
  -- 21
  [(3, [anonSymPound]), (89, [anonSymLbrack]), (91, [anonSymDot]),
   (93, [anonSymLparen]), (95, [anonSymSlash]), (21, [symComment]),
   (24, [auxSymReferenceRepeat1]), (5, [anonSymSlashSlash, anonSymSlashStar]),
   (87, [tsBuiltinSymEnd, anonSymAddon, anonSymSigner, anonSymAction, anonSymOutput, anonSymVariable, anonSymInput,
     anonSymImport, anonSymRbrace, anonSymComma, anonSymRbrack, anonSymRparen, anonSymStar, anonSymPlus, anonSymDash])],
  -- 22
  [(3, [anonSymPound]), (99, [anonSymDot]), (102, [anonSymSlash]),
   (5, [anonSymSlashSlash, anonSymSlashStar]),
   (22, [symComment, auxSymReferenceRepeat1]),
   (97, [tsBuiltinSymEnd, anonSymAddon, anonSymSigner, anonSymAction, anonSymOutput, anonSymVariable, anonSymInput,
     anonSymImport, anonSymRbrace, anonSymComma, anonSymRbrack, anonSymRparen, anonSymStar, anonSymPlus, anonSymDash])],
  -- 23
  [(3, [anonSymPound]), (89, [anonSymLbrack]), (102, [anonSymSlash]),
   (23, [symComment]), (5, [anonSymSlashSlash, anonSymSlashStar]),
   (97, [tsBuiltinSymEnd, anonSymAddon, anonSymSigner, anonSymAction, anonSymOutput, anonSymVariable, anonSymInput, anonSymImport,
     anonSymRbrace, anonSymComma, anonSymRbrack, anonSymDot, anonSymRparen, anonSymStar, anonSymPlus, anonSymDash])],
  -- 24
  [(3, [anonSymPound]), (91, [anonSymDot]), (106, [anonSymSlash]),
   (22, [auxSymReferenceRepeat1]), (24, [symComment]),
   (5, [anonSymSlashSlash, anonSymSlashStar]),
   (104, [tsBuiltinSymEnd, anonSymAddon, anonSymSigner, anonSymAction, anonSymOutput, anonSymVariable, anonSymInput,
     anonSymImport, anonSymRbrace, anonSymComma, anonSymRbrack, anonSymRparen, anonSymStar, anonSymPlus, anonSymDash])],
  -- 25
  [(3, [anonSymPound]), (91, [anonSymDot]), (95, [anonSymSlash]),
   (24, [auxSymReferenceRepeat1]), (25, [symComment]),
   (5, [anonSymSlashSlash, anonSymSlashStar]),
   (87, [tsBuiltinSymEnd, anonSymAddon, anonSymSigner, anonSymAction, anonSymOutput, anonSymVariable, anonSymInput,
     anonSymImport, anonSymRbrace, anonSymComma, anonSymRbrack, anonSymRparen, anonSymStar, anonSymPlus, anonSymDash])],
  -- 26
  [(3, [anonSymPound]), (110, [anonSymSlash]), (26, [symComment]),
   (5, [anonSymSlashSlash, anonSymSlashStar]),
   (108, [tsBuiltinSymEnd, anonSymAddon, anonSymSigner, anonSymAction, anonSymOutput, anonSymVariable, anonSymInput, anonSymImport,
     anonSymRbrace, anonSymComma, anonSymRbrack, anonSymDot, anonSymRparen, anonSymStar, anonSymPlus, anonSymDash])],
  -- 27
  [(3, [anonSymPound]), (102, [anonSymSlash]), (27, [symComment]),
   (5, [anonSymSlashSlash, anonSymSlashStar]),
   (97, [tsBuiltinSymEnd, anonSymAddon, anonSymSigner, anonSymAction, anonSymOutput, anonSymVariable, anonSymInput, anonSymImport,
     anonSymRbrace, anonSymComma, anonSymRbrack, anonSymDot, anonSymRparen, anonSymStar, anonSymPlus, anonSymDash])],
  -- 28
  [(3, [anonSymPound]), (9, [anonSymAddon]), (11, [anonSymSigner]),
   (13, [anonSymAction]), (15, [anonSymOutput]), (17, [anonSymVariable]),
   (19, [anonSymInput]), (21, [anonSymImport]), (112, [tsBuiltinSymEnd]),
   (28, [symComment]), (29, [auxSymRunbookRepeat1]), (48, [symStatement]),
   (5, [anonSymSlashSlash, anonSymSlashStar]),
   (51, [symAddonBlock, symSignerBlock, symActionBlock,
     symOutputBlock, symVariableDeclaration, symInputDeclaration, symImportStatement])],
  -- 29
  [(3, [anonSymPound]), (114, [tsBuiltinSymEnd]), (116, [anonSymAddon]),
   (119, [anonSymSigner]), (122, [anonSymAction]), (125, [anonSymOutput]),
   (128, [anonSymVariable]), (131, [anonSymInput]), (134, [anonSymImport]),
   (48, [symStatement]), (5, [anonSymSlashSlash, anonSymSlashStar]),
   (29, [symComment, auxSymRunbookRepeat1]),
   (51, [symAddonBlock, symSignerBlock, symActionBlock,
     symOutputBlock, symVariableDeclaration, symInputDeclaration, symImportStatement])],
  -- 30
  [(3, [anonSymPound]), (139, [anonSymSlash]), (30, [symComment]),
   (5, [anonSymSlashSlash, anonSymSlashStar]),
   (137, [tsBuiltinSymEnd, anonSymAddon, anonSymSigner, anonSymAction, anonSymOutput, anonSymVariable, anonSymInput,
     anonSymImport, anonSymRbrace, anonSymComma, anonSymRbrack, anonSymRparen, anonSymStar, anonSymPlus, anonSymDash])],
  -- 31
  [(3, [anonSymPound]), (143, [anonSymSlash]), (31, [symComment]),
   (5, [anonSymSlashSlash, anonSymSlashStar]),
   (141, [tsBuiltinSymEnd, anonSymAddon, anonSymSigner, anonSymAction, anonSymOutput, anonSymVariable, anonSymInput,
     anonSymImport, anonSymRbrace, anonSymComma, anonSymRbrack, anonSymRparen, anonSymStar, anonSymPlus, anonSymDash])],
  -- 32
  [(3, [anonSymPound]), (147, [anonSymSlash]), (32, [symComment]),
   (5, [anonSymSlashSlash, anonSymSlashStar]),
   (145, [tsBuiltinSymEnd, anonSymAddon, anonSymSigner, anonSymAction, anonSymOutput, anonSymVariable, anonSymInput,
     anonSymImport, anonSymRbrace, anonSymComma, anonSymRbrack, anonSymRparen, anonSymStar, anonSymPlus, anonSymDash])],
  -- 33
  [(3, [anonSymPound]), (151, [anonSymSlash]), (33, [symComment]),
   (5, [anonSymSlashSlash, anonSymSlashStar]),
   (149, [tsBuiltinSymEnd, anonSymAddon, anonSymSigner, anonSymAction, anonSymOutput, anonSymVariable, anonSymInput,
     anonSymImport, anonSymRbrace, anonSymComma, anonSymRbrack, anonSymRparen, anonSymStar, anonSymPlus, anonSymDash])],
  -- 34
  [(3, [anonSymPound]), (155, [anonSymSlash]), (34, [symComment]),
   (5, [anonSymSlashSlash, anonSymSlashStar]),
   (153, [tsBuiltinSymEnd, anonSymAddon, anonSymSigner, anonSymAction, anonSymOutput, anonSymVariable, anonSymInput,
     anonSymImport, anonSymRbrace, anonSymComma, anonSymRbrack, anonSymRparen, anonSymStar, anonSymPlus, anonSymDash])],
  -- 35
  [(3, [anonSymPound]), (159, [anonSymSlash]), (35, [symComment]),
   (5, [anonSymSlashSlash, anonSymSlashStar]),
   (157, [tsBuiltinSymEnd, anonSymAddon, anonSymSigner, anonSymAction, anonSymOutput, anonSymVariable, anonSymInput,
     anonSymImport, anonSymRbrace, anonSymComma, anonSymRbrack, anonSymRparen, anonSymStar, anonSymPlus, anonSymDash])],
  -- 36
  [(3, [anonSymPound]), (163, [anonSymSlash]), (36, [symComment]),
   (5, [anonSymSlashSlash, anonSymSlashStar]),
   (161, [tsBuiltinSymEnd, anonSymAddon, anonSymSigner, anonSymAction, anonSymOutput, anonSymVariable, anonSymInput,
     anonSymImport, anonSymRbrace, anonSymComma, anonSymRbrack, anonSymRparen, anonSymStar, anonSymPlus, anonSymDash])],
  -- 37
  [(3, [anonSymPound]), (167, [anonSymSlash]), (37, [symComment]),
   (5, [anonSymSlashSlash, anonSymSlashStar]),
   (165, [tsBuiltinSymEnd, anonSymAddon, anonSymSigner, anonSymAction, anonSymOutput, anonSymVariable, anonSymInput,
     anonSymImport, anonSymRbrace, anonSymComma, anonSymRbrack, anonSymRparen, anonSymStar, anonSymPlus, anonSymDash])],
  -- 38
  [(3, [anonSymPound]), (171, [anonSymSlash]), (38, [symComment]),
   (5, [anonSymSlashSlash, anonSymSlashStar]),
   (169, [tsBuiltinSymEnd, anonSymAddon, anonSymSigner, anonSymAction, anonSymOutput, anonSymVariable, anonSymInput,
     anonSymImport, anonSymRbrace, anonSymComma, anonSymRbrack, anonSymRparen, anonSymStar, anonSymPlus, anonSymDash])],
  -- 39
  [(3, [anonSymPound]), (175, [anonSymSlash]), (39, [symComment]),
   (5, [anonSymSlashSlash, anonSymSlashStar]),
   (173, [tsBuiltinSymEnd, anonSymAddon, anonSymSigner, anonSymAction, anonSymOutput, anonSymVariable, anonSymInput,
     anonSymImport, anonSymRbrace, anonSymComma, anonSymRbrack, anonSymRparen, anonSymStar, anonSymPlus, anonSymDash])],
  -- 40
  [(3, [anonSymPound]), (179, [anonSymSlash]), (40, [symComment]),
   (5, [anonSymSlashSlash, anonSymSlashStar]),
   (177, [tsBuiltinSymEnd, anonSymAddon, anonSymSigner, anonSymAction, anonSymOutput, anonSymVariable, anonSymInput,
     anonSymImport, anonSymRbrace, anonSymComma, anonSymRbrack, anonSymRparen, anonSymStar, anonSymPlus, anonSymDash])],
  -- 41
  [(3, [anonSymPound]), (183, [anonSymSlash]), (41, [symComment]),
   (5, [anonSymSlashSlash, anonSymSlashStar]),
   (181, [tsBuiltinSymEnd, anonSymAddon, anonSymSigner, anonSymAction, anonSymOutput, anonSymVariable, anonSymInput,
     anonSymImport, anonSymRbrace, anonSymComma, anonSymRbrack, anonSymRparen, anonSymStar, anonSymPlus, anonSymDash])],
  -- 42
  [(3, [anonSymPound]), (187, [anonSymSlash]), (42, [symComment]),
   (5, [anonSymSlashSlash, anonSymSlashStar]),
   (185, [tsBuiltinSymEnd, anonSymAddon, anonSymSigner, anonSymAction, anonSymOutput, anonSymVariable, anonSymInput,
     anonSymImport, anonSymRbrace, anonSymComma, anonSymRbrack, anonSymRparen, anonSymStar, anonSymPlus, anonSymDash])],
  -- 43
  [(3, [anonSymPound]), (189, [anonSymStar]), (191, [anonSymSlash]), (43, [symComment]),
   (5, [anonSymSlashSlash, anonSymSlashStar]),
   (181, [tsBuiltinSymEnd, anonSymAddon, anonSymSigner, anonSymAction, anonSymOutput, anonSymVariable, anonSymInput,
     anonSymImport, anonSymRbrace, anonSymComma, anonSymRbrack, anonSymRparen, anonSymPlus, anonSymDash])],
  -- 44
  [(3, [anonSymPound]), (195, [anonSymSlash]), (44, [symComment]),
   (5, [anonSymSlashSlash, anonSymSlashStar]),
   (193, [tsBuiltinSymEnd, anonSymAddon, anonSymSigner, anonSymAction, anonSymOutput, anonSymVariable, anonSymInput,
     anonSymImport, anonSymRbrace, anonSymComma, anonSymRbrack, anonSymRparen, anonSymStar, anonSymPlus, anonSymDash])],
  -- 45
  [(3, [anonSymPound]), (199, [anonSymSlash]), (45, [symComment]),
   (5, [anonSymSlashSlash, anonSymSlashStar]),
   (197, [tsBuiltinSymEnd, anonSymAddon, anonSymSigner, anonSymAction, anonSymOutput, anonSymVariable, anonSymInput,
     anonSymImport, anonSymRbrace, anonSymComma, anonSymRbrack, anonSymRparen, anonSymStar, anonSymPlus, anonSymDash])],
  -- 46
  [(3, [anonSymPound]), (189, [anonSymStar]), (191, [anonSymSlash]), (46, [symComment]),
   (5, [anonSymSlashSlash, anonSymSlashStar]), (203, [anonSymPlus, anonSymDash]),
   (201, [tsBuiltinSymEnd, anonSymAddon, anonSymSigner, anonSymAction,
     anonSymOutput, anonSymVariable, anonSymInput, anonSymImport])],
  -- 47
  [(3, [anonSymPound]), (95, [anonSymSlash]), (205, [anonSymLbrack]),
   (207, [anonSymDot]), (209, [anonSymLparen]), (47, [symComment]),
   (56, [auxSymReferenceRepeat1]), (5, [anonSymSlashSlash, anonSymSlashStar]),
   (87, [anonSymRbrace, anonSymStar, anonSymPlus, anonSymDash, symIdentifier])],
  -- 48
  [(3, [anonSymPound]), (48, [symComment]), (5, [anonSymSlashSlash, anonSymSlashStar]),
   (211, [tsBuiltinSymEnd, anonSymAddon, anonSymSigner, anonSymAction,
     anonSymOutput, anonSymVariable, anonSymInput, anonSymImport])],
  -- 49
  [(3, [anonSymPound]), (49, [symComment]), (5, [anonSymSlashSlash, anonSymSlashStar]),
   (213, [tsBuiltinSymEnd, anonSymAddon, anonSymSigner, anonSymAction,
     anonSymOutput, anonSymVariable, anonSymInput, anonSymImport])],
  -- 50
  [(3, [anonSymPound]), (50, [symComment]), (5, [anonSymSlashSlash, anonSymSlashStar]),
   (215, [tsBuiltinSymEnd, anonSymAddon, anonSymSigner, anonSymAction,
     anonSymOutput, anonSymVariable, anonSymInput, anonSymImport])],
  -- 51
  [(3, [anonSymPound]), (51, [symComment]), (5, [anonSymSlashSlash, anonSymSlashStar]),
   (217, [tsBuiltinSymEnd, anonSymAddon, anonSymSigner, anonSymAction,
     anonSymOutput, anonSymVariable, anonSymInput, anonSymImport])],
  -- 52
  [(3, [anonSymPound]), (52, [symComment]), (5, [anonSymSlashSlash, anonSymSlashStar]),
   (219, [tsBuiltinSymEnd, anonSymAddon, anonSymSigner, anonSymAction,
     anonSymOutput, anonSymVariable, anonSymInput, anonSymImport])],
  -- 53
  [(3, [anonSymPound]), (53, [symComment]), (5, [anonSymSlashSlash, anonSymSlashStar]),
   (221, [tsBuiltinSymEnd, anonSymAddon, anonSymSigner, anonSymAction,
     anonSymOutput, anonSymVariable, anonSymInput, anonSymImport])],
  -- 54
  [(3, [anonSymPound]), (54, [symComment]), (5, [anonSymSlashSlash, anonSymSlashStar]),
   (223, [tsBuiltinSymEnd, anonSymAddon, anonSymSigner, anonSymAction,
     anonSymOutput, anonSymVariable, anonSymInput, anonSymImport])],
  -- 55
  [(3, [anonSymPound]), (95, [anonSymSlash]), (207, [anonSymDot]), (55, [symComment]),
   (56, [auxSymReferenceRepeat1]), (5, [anonSymSlashSlash, anonSymSlashStar]),
   (87, [anonSymRbrace, anonSymStar, anonSymPlus, anonSymDash, symIdentifier])],
  -- 56
  [(3, [anonSymPound]), (106, [anonSymSlash]), (207, [anonSymDot]), (56, [symComment]),
   (61, [auxSymReferenceRepeat1]), (5, [anonSymSlashSlash, anonSymSlashStar]),
   (104, [anonSymRbrace, anonSymStar, anonSymPlus, anonSymDash, symIdentifier])],
  -- 57
  [(3, [anonSymPound]), (57, [symComment]), (5, [anonSymSlashSlash, anonSymSlashStar]),
   (225, [tsBuiltinSymEnd, anonSymAddon, anonSymSigner, anonSymAction,
     anonSymOutput, anonSymVariable, anonSymInput, anonSymImport])],
  -- 58
  [(3, [anonSymPound]), (58, [symComment]), (5, [anonSymSlashSlash, anonSymSlashStar]),
   (227, [tsBuiltinSymEnd, anonSymAddon, anonSymSigner, anonSymAction,
     anonSymOutput, anonSymVariable, anonSymInput, anonSymImport])],
  -- 59
  [(3, [anonSymPound]), (25, [anonSymDquote]), (27, [anonSymSquote]),
   (29, [anonSymDquoteDquoteDquote]), (229, [anonSymRbrace]), (231, [anonSymComma]),
   (233, [symIdentifier]), (59, [symComment]), (114, [symObjectField]),
   (140, [symString]), (5, [anonSymSlashSlash, anonSymSlashStar])],
  -- 60
  [(3, [anonSymPound]), (102, [anonSymSlash]), (205, [anonSymLbrack]),
   (60, [symComment]), (5, [anonSymSlashSlash, anonSymSlashStar]),
   (97, [anonSymRbrace, anonSymDot, anonSymStar,
     anonSymPlus, anonSymDash, symIdentifier])],
  -- 61
  [(3, [anonSymPound]), (102, [anonSymSlash]), (235, [anonSymDot]),
   (5, [anonSymSlashSlash, anonSymSlashStar]),
   (61, [symComment, auxSymReferenceRepeat1]),
   (97, [anonSymRbrace, anonSymStar, anonSymPlus, anonSymDash, symIdentifier])],
  -- 62
  [(3, [anonSymPound]), (25, [anonSymDquote]), (27, [anonSymSquote]),
   (29, [anonSymDquoteDquoteDquote]), (233, [symIdentifier]), (238, [anonSymRbrace]),
   (240, [anonSymComma]), (62, [symComment]), (116, [symObjectField]),
   (140, [symString]), (5, [anonSymSlashSlash, anonSymSlashStar])],
  -- 63
  [(3, [anonSymPound]), (63, [symComment]), (5, [anonSymSlashSlash, anonSymSlashStar]),
   (242, [tsBuiltinSymEnd, anonSymAddon, anonSymSigner, anonSymAction,
     anonSymOutput, anonSymVariable, anonSymInput, anonSymImport])],
  -- 64
  [(3, [anonSymPound]), (189, [anonSymStar]), (191, [anonSymSlash]), (64, [symComment]),
   (5, [anonSymSlashSlash, anonSymSlashStar]), (203, [anonSymPlus, anonSymDash]),
   (244, [anonSymComma, anonSymRbrack, anonSymRparen])],
  -- 65
  [(3, [anonSymPound]), (25, [anonSymDquote]), (27, [anonSymSquote]),
   (29, [anonSymDquoteDquoteDquote]), (233, [symIdentifier]), (246, [anonSymRbrace]),
   (65, [symComment]), (120, [symObjectField]), (140, [symString]),
   (5, [anonSymSlashSlash, anonSymSlashStar])],
  -- 66
  [(3, [anonSymPound]), (25, [anonSymDquote]), (27, [anonSymSquote]),
   (29, [anonSymDquoteDquoteDquote]), (233, [symIdentifier]), (248, [anonSymRbrace]),
   (66, [symComment]), (120, [symObjectField]), (140, [symString]),
   (5, [anonSymSlashSlash, anonSymSlashStar])],
  -- 67
  [(3, [anonSymPound]), (189, [anonSymStar]), (191, [anonSymSlash]),
   (250, [anonSymComma]), (252, [anonSymRparen]), (67, [symComment]),
   (117, [auxSymArrayRepeat1]), (5, [anonSymSlashSlash, anonSymSlashStar]),
   (203, [anonSymPlus, anonSymDash])],
  -- 68
  [(3, [anonSymPound]), (102, [anonSymSlash]), (68, [symComment]),
   (5, [anonSymSlashSlash, anonSymSlashStar]),
   (97, [anonSymRbrace, anonSymDot, anonSymStar,
     anonSymPlus, anonSymDash, symIdentifier])],
  -- 69
  [(3, [anonSymPound]), (25, [anonSymDquote]), (27, [anonSymSquote]),
   (29, [anonSymDquoteDquoteDquote]), (233, [symIdentifier]), (254, [anonSymRbrace]),
   (69, [symComment]), (120, [symObjectField]), (140, [symString]),
   (5, [anonSymSlashSlash, anonSymSlashStar])],
  -- 70
  [(3, [anonSymPound]), (189, [anonSymStar]), (191, [anonSymSlash]),
   (256, [anonSymComma]), (258, [anonSymRbrack]), (70, [symComment]),
   (112, [auxSymArrayRepeat1]), (5, [anonSymSlashSlash, anonSymSlashStar]),
   (203, [anonSymPlus, anonSymDash])],
  -- 71
  [(3, [anonSymPound]), (189, [anonSymStar]), (191, [anonSymSlash]),
   (250, [anonSymComma]), (260, [anonSymRparen]), (71, [symComment]),
   (113, [auxSymArrayRepeat1]), (5, [anonSymSlashSlash, anonSymSlashStar]),
   (203, [anonSymPlus, anonSymDash])],
  -- 72
  [(3, [anonSymPound]), (110, [anonSymSlash]), (72, [symComment]),
   (5, [anonSymSlashSlash, anonSymSlashStar]),
   (108, [anonSymRbrace, anonSymDot, anonSymStar,
     anonSymPlus, anonSymDash, symIdentifier])],
  -- 73
  [(3, [anonSymPound]), (189, [anonSymStar]), (191, [anonSymSlash]),
   (262, [anonSymComma]), (264, [anonSymRbrack]), (73, [symComment]),
   (110, [auxSymArrayRepeat1]), (5, [anonSymSlashSlash, anonSymSlashStar]),
   (203, [anonSymPlus, anonSymDash])],
  -- 74
  [(3, [anonSymPound]), (25, [anonSymDquote]), (27, [anonSymSquote]),
   (29, [anonSymDquoteDquoteDquote]), (233, [symIdentifier]), (266, [anonSymRbrace]),
   (74, [symComment]), (120, [symObjectField]), (140, [symString]),
   (5, [anonSymSlashSlash, anonSymSlashStar])],
  -- 75
  [(3, [anonSymPound]), (159, [anonSymSlash]), (75, [symComment]),
   (5, [anonSymSlashSlash, anonSymSlashStar]),
   (157, [anonSymRbrace, anonSymStar, anonSymPlus, anonSymDash, symIdentifier])],
  -- 76
  [(3, [anonSymPound]), (195, [anonSymSlash]), (76, [symComment]),
   (5, [anonSymSlashSlash, anonSymSlashStar]),
   (193, [anonSymRbrace, anonSymStar, anonSymPlus, anonSymDash, symIdentifier])],
  -- 77
  [(3, [anonSymPound]), (270, [anonSymStar]), (272, [anonSymSlash]), (77, [symComment]),
   (5, [anonSymSlashSlash, anonSymSlashStar]), (268, [anonSymRbrace, symIdentifier]),
   (274, [anonSymPlus, anonSymDash])],
  -- 78
  [(3, [anonSymPound]), (175, [anonSymSlash]), (78, [symComment]),
   (5, [anonSymSlashSlash, anonSymSlashStar]),
   (173, [anonSymRbrace, anonSymStar, anonSymPlus, anonSymDash, symIdentifier])],
  -- 79
  [(3, [anonSymPound]), (25, [anonSymDquote]), (27, [anonSymSquote]),
   (29, [anonSymDquoteDquoteDquote]), (233, [symIdentifier]), (79, [symComment]),
   (120, [symObjectField]), (140, [symString]),
   (5, [anonSymSlashSlash, anonSymSlashStar])],
  -- 80
  [(3, [anonSymPound]), (189, [anonSymStar]), (191, [anonSymSlash]), (80, [symComment]),
   (5, [anonSymSlashSlash, anonSymSlashStar]), (203, [anonSymPlus, anonSymDash]),
   (276, [anonSymRbrace, anonSymComma])],
  -- 81
  [(3, [anonSymPound]), (199, [anonSymSlash]), (81, [symComment]),
   (5, [anonSymSlashSlash, anonSymSlashStar]),
   (197, [anonSymRbrace, anonSymStar, anonSymPlus, anonSymDash, symIdentifier])],
  -- 82
  [(3, [anonSymPound]), (171, [anonSymSlash]), (82, [symComment]),
   (5, [anonSymSlashSlash, anonSymSlashStar]),
   (169, [anonSymRbrace, anonSymStar, anonSymPlus, anonSymDash, symIdentifier])],
  -- 83
  [(3, [anonSymPound]), (270, [anonSymStar]), (272, [anonSymSlash]), (83, [symComment]),
   (5, [anonSymSlashSlash, anonSymSlashStar]),
   (181, [anonSymRbrace, anonSymPlus, anonSymDash, symIdentifier])],
  -- 84
  [(3, [anonSymPound]), (183, [anonSymSlash]), (84, [symComment]),
   (5, [anonSymSlashSlash, anonSymSlashStar]),
   (181, [anonSymRbrace, anonSymStar, anonSymPlus, anonSymDash, symIdentifier])],
  -- 85
  [(3, [anonSymPound]), (187, [anonSymSlash]), (85, [symComment]),
   (5, [anonSymSlashSlash, anonSymSlashStar]),
   (185, [anonSymRbrace, anonSymStar, anonSymPlus, anonSymDash, symIdentifier])],
  -- 86
  [(3, [anonSymPound]), (179, [anonSymSlash]), (86, [symComment]),
   (5, [anonSymSlashSlash, anonSymSlashStar]),
   (177, [anonSymRbrace, anonSymStar, anonSymPlus, anonSymDash, symIdentifier])],
  -- 87
  [(3, [anonSymPound]), (85, [anonSymSlash]), (87, [symComment]),
   (5, [anonSymSlashSlash, anonSymSlashStar]),
   (83, [anonSymRbrace, anonSymStar, anonSymPlus, anonSymDash, symIdentifier])],
  -- 88
  [(3, [anonSymPound]), (139, [anonSymSlash]), (88, [symComment]),
   (5, [anonSymSlashSlash, anonSymSlashStar]),
   (137, [anonSymRbrace, anonSymStar, anonSymPlus, anonSymDash, symIdentifier])],
  -- 89
  [(3, [anonSymPound]), (155, [anonSymSlash]), (89, [symComment]),
   (5, [anonSymSlashSlash, anonSymSlashStar]),
   (153, [anonSymRbrace, anonSymStar, anonSymPlus, anonSymDash, symIdentifier])],
  -- 90
  [(3, [anonSymPound]), (163, [anonSymSlash]), (90, [symComment]),
   (5, [anonSymSlashSlash, anonSymSlashStar]),
   (161, [anonSymRbrace, anonSymStar, anonSymPlus, anonSymDash, symIdentifier])],
  -- 91
  [(3, [anonSymPound]), (143, [anonSymSlash]), (91, [symComment]),
   (5, [anonSymSlashSlash, anonSymSlashStar]),
   (141, [anonSymRbrace, anonSymStar, anonSymPlus, anonSymDash, symIdentifier])],
  -- 92
  [(3, [anonSymPound]), (167, [anonSymSlash]), (92, [symComment]),
   (5, [anonSymSlashSlash, anonSymSlashStar]),
   (165, [anonSymRbrace, anonSymStar, anonSymPlus, anonSymDash, symIdentifier])],
  -- 93
  [(3, [anonSymPound]), (147, [anonSymSlash]), (93, [symComment]),
   (5, [anonSymSlashSlash, anonSymSlashStar]),
   (145, [anonSymRbrace, anonSymStar, anonSymPlus, anonSymDash, symIdentifier])],
  -- 94
  [(3, [anonSymPound]), (151, [anonSymSlash]), (94, [symComment]),
   (5, [anonSymSlashSlash, anonSymSlashStar]),
   (149, [anonSymRbrace, anonSymStar, anonSymPlus, anonSymDash, symIdentifier])],
  -- 95
  [(3, [anonSymPound]), (189, [anonSymStar]), (191, [anonSymSlash]),
   (278, [anonSymRbrack]), (95, [symComment]),
   (5, [anonSymSlashSlash, anonSymSlashStar]), (203, [anonSymPlus, anonSymDash])],
  -- 96
  [(3, [anonSymPound]), (189, [anonSymStar]), (191, [anonSymSlash]),
   (280, [anonSymRbrack]), (96, [symComment]),
   (5, [anonSymSlashSlash, anonSymSlashStar]), (203, [anonSymPlus, anonSymDash])],
  -- 97
  [(3, [anonSymPound]), (282, [anonSymRbrace]), (284, [symIdentifier]),
   (97, [symComment]), (103, [auxSymBlockRepeat1]), (123, [symAttribute]),
   (5, [anonSymSlashSlash, anonSymSlashStar])],
  -- 98
  [(3, [anonSymPound]), (25, [anonSymDquote]), (27, [anonSymSquote]),
   (29, [anonSymDquoteDquoteDquote]), (98, [symComment]), (121, [symString]),
   (5, [anonSymSlashSlash, anonSymSlashStar])],
  -- 99
  [(3, [anonSymPound]), (25, [anonSymDquote]), (27, [anonSymSquote]),
   (29, [anonSymDquoteDquoteDquote]), (99, [symComment]), (124, [symString]),
   (5, [anonSymSlashSlash, anonSymSlashStar])],
  -- 100
  [(3, [anonSymPound]), (25, [anonSymDquote]), (27, [anonSymSquote]),
   (29, [anonSymDquoteDquoteDquote]), (50, [symString]), (100, [symComment]),
   (5, [anonSymSlashSlash, anonSymSlashStar])],
  -- 101
  [(3, [anonSymPound]), (25, [anonSymDquote]), (27, [anonSymSquote]),
   (29, [anonSymDquoteDquoteDquote]), (101, [symComment]), (125, [symString]),
   (5, [anonSymSlashSlash, anonSymSlashStar])],
  -- 102
  [(3, [anonSymPound]), (25, [anonSymDquote]), (27, [anonSymSquote]),
   (29, [anonSymDquoteDquoteDquote]), (102, [symComment]), (122, [symString]),
   (5, [anonSymSlashSlash, anonSymSlashStar])],
  -- 103
  [(3, [anonSymPound]), (284, [symIdentifier]), (286, [anonSymRbrace]),
   (103, [symComment]), (104, [auxSymBlockRepeat1]), (123, [symAttribute]),
   (5, [anonSymSlashSlash, anonSymSlashStar])],
  -- 104
  [(3, [anonSymPound]), (288, [anonSymRbrace]), (290, [symIdentifier]),
   (123, [symAttribute]), (5, [anonSymSlashSlash, anonSymSlashStar]),
   (104, [symComment, auxSymBlockRepeat1])],
  -- 105
  [(3, [anonSymPound]), (25, [anonSymDquote]), (27, [anonSymSquote]),
   (29, [anonSymDquoteDquoteDquote]), (105, [symComment]), (146, [symString]),
   (5, [anonSymSlashSlash, anonSymSlashStar])],
  -- 106
  [(3, [anonSymPound]), (25, [anonSymDquote]), (27, [anonSymSquote]),
   (29, [anonSymDquoteDquoteDquote]), (106, [symComment]), (107, [symString]),
   (5, [anonSymSlashSlash, anonSymSlashStar])],
  -- 107
  [(3, [anonSymPound]), (25, [anonSymDquote]), (27, [anonSymSquote]),
   (29, [anonSymDquoteDquoteDquote]), (107, [symComment]), (126, [symString]),
   (5, [anonSymSlashSlash, anonSymSlashStar])],
  -- 108
  [(3, [anonSymPound]), (293, [anonSymComma]),
   (5, [anonSymSlashSlash, anonSymSlashStar]), (244, [anonSymRbrack, anonSymRparen]),
   (108, [symComment, auxSymArrayRepeat1])],
  -- 109
  [(3, [anonSymPound]), (25, [anonSymDquote]), (27, [anonSymSquote]),
   (29, [anonSymDquoteDquoteDquote]), (98, [symString]), (109, [symComment]),
   (5, [anonSymSlashSlash, anonSymSlashStar])],
  -- 110
  [(3, [anonSymPound]), (53, [anonSymRbrack]), (296, [anonSymComma]),
   (108, [auxSymArrayRepeat1]), (110, [symComment]),
   (5, [anonSymSlashSlash, anonSymSlashStar])],
  -- 111
  [(3, [anonSymPound]), (254, [anonSymRbrace]), (298, [anonSymComma]),
   (111, [symComment]), (115, [auxSymObjectRepeat1]),
   (5, [anonSymSlashSlash, anonSymSlashStar])],
  -- 112
  [(3, [anonSymPound]), (57, [anonSymRbrack]), (300, [anonSymComma]),
   (108, [auxSymArrayRepeat1]), (112, [symComment]),
   (5, [anonSymSlashSlash, anonSymSlashStar])],
  -- 113
  [(3, [anonSymPound]), (250, [anonSymComma]), (302, [anonSymRparen]),
   (108, [auxSymArrayRepeat1]), (113, [symComment]),
   (5, [anonSymSlashSlash, anonSymSlashStar])],
  -- 114
  [(3, [anonSymPound]), (304, [anonSymRbrace]), (306, [anonSymComma]),
   (114, [symComment]), (118, [auxSymObjectRepeat1]),
   (5, [anonSymSlashSlash, anonSymSlashStar])],
  -- 115
  [(3, [anonSymPound]), (308, [anonSymRbrace]), (310, [anonSymComma]),
   (5, [anonSymSlashSlash, anonSymSlashStar]), (115, [symComment, auxSymObjectRepeat1])],
  -- 116
  [(3, [anonSymPound]), (313, [anonSymRbrace]), (315, [anonSymComma]),
   (111, [auxSymObjectRepeat1]), (116, [symComment]),
   (5, [anonSymSlashSlash, anonSymSlashStar])],
  -- 117
  [(3, [anonSymPound]), (250, [anonSymComma]), (317, [anonSymRparen]),
   (108, [auxSymArrayRepeat1]), (117, [symComment]),
   (5, [anonSymSlashSlash, anonSymSlashStar])],
  -- 118
  [(3, [anonSymPound]), (266, [anonSymRbrace]), (319, [anonSymComma]),
   (115, [auxSymObjectRepeat1]), (118, [symComment]),
   (5, [anonSymSlashSlash, anonSymSlashStar])],
  -- 119
  [(3, [anonSymPound]), (321, [symIdentifier]), (68, [symIndexAccess]),
   (119, [symComment]), (5, [anonSymSlashSlash, anonSymSlashStar])],
  -- 120
  [(3, [anonSymPound]), (120, [symComment]), (5, [anonSymSlashSlash, anonSymSlashStar]),
   (308, [anonSymRbrace, anonSymComma])],
  -- 121
  [(3, [anonSymPound]), (323, [anonSymLbrace]), (58, [symBlock]), (121, [symComment]),
   (5, [anonSymSlashSlash, anonSymSlashStar])],
  -- 122
  [(3, [anonSymPound]), (323, [anonSymLbrace]), (53, [symBlock]), (122, [symComment]),
   (5, [anonSymSlashSlash, anonSymSlashStar])],
  -- 123
  [(3, [anonSymPound]), (123, [symComment]), (5, [anonSymSlashSlash, anonSymSlashStar]),
   (325, [anonSymRbrace, symIdentifier])],
  -- 124
  [(3, [anonSymPound]), (323, [anonSymLbrace]), (52, [symBlock]), (124, [symComment]),
   (5, [anonSymSlashSlash, anonSymSlashStar])],
  -- 125
  [(3, [anonSymPound]), (323, [anonSymLbrace]), (49, [symBlock]), (125, [symComment]),
   (5, [anonSymSlashSlash, anonSymSlashStar])],
  -- 126
  [(3, [anonSymPound]), (323, [anonSymLbrace]), (57, [symBlock]), (126, [symComment]),
   (5, [anonSymSlashSlash, anonSymSlashStar])],
  -- 127
  [(3, [anonSymPound]), (327, [symIdentifier]), (27, [symIndexAccess]),
   (127, [symComment]), (5, [anonSymSlashSlash, anonSymSlashStar])],
  -- 128
  [(3, [anonSymPound]), (258, [anonSymRbrack]), (128, [symComment]),
   (5, [anonSymSlashSlash, anonSymSlashStar])],
  -- 129
  [(3, [anonSymPound]), (329, [anonSymSquote]), (129, [symComment]),
   (5, [anonSymSlashSlash, anonSymSlashStar])],
  -- 130
  [(3, [anonSymPound]), (331, [anonSymSquote]), (130, [symComment]),
   (5, [anonSymSlashSlash, anonSymSlashStar])],
  -- 131
  [(3, [anonSymPound]), (331, [anonSymDquoteDquoteDquote]), (131, [symComment]),
   (5, [anonSymSlashSlash, anonSymSlashStar])],
  -- 132
  [(333, [auxSymStringToken2]), (335, [anonSymPound]), (132, [symComment]),
   (337, [anonSymSlashSlash, anonSymSlashStar])],
  -- 133
  [(3, [anonSymPound]), (339, [anonSymEq]), (133, [symComment]),
   (5, [anonSymSlashSlash, anonSymSlashStar])],
  -- 134
  [(3, [anonSymPound]), (313, [anonSymRbrace]), (134, [symComment]),
   (5, [anonSymSlashSlash, anonSymSlashStar])],
  -- 135
  [(335, [anonSymPound]), (341, [auxSymStringToken1]), (135, [symComment]),
   (337, [anonSymSlashSlash, anonSymSlashStar])],
  -- 136
  [(3, [anonSymPound]), (264, [anonSymRbrack]), (136, [symComment]),
   (5, [anonSymSlashSlash, anonSymSlashStar])],
  -- 137
  [(335, [anonSymPound]), (343, [auxSymStringToken3]), (137, [symComment]),
   (337, [anonSymSlashSlash, anonSymSlashStar])],
  -- 138
  [(3, [anonSymPound]), (329, [anonSymDquoteDquoteDquote]), (138, [symComment]),
   (5, [anonSymSlashSlash, anonSymSlashStar])],
  -- 139
  [(3, [anonSymPound]), (345, [anonSymSlash]), (139, [symComment]),
   (5, [anonSymSlashSlash, anonSymSlashStar])],
  -- 140
  [(3, [anonSymPound]), (347, [anonSymColon]), (140, [symComment]),
   (5, [anonSymSlashSlash, anonSymSlashStar])],
  -- 141
  [(3, [anonSymPound]), (331, [anonSymDquote]), (141, [symComment]),
   (5, [anonSymSlashSlash, anonSymSlashStar])],
  -- 142
  [(3, [anonSymPound]), (349, [tsBuiltinSymEnd]), (142, [symComment]),
   (5, [anonSymSlashSlash, anonSymSlashStar])],
  -- 143
  [(335, [anonSymPound]), (351, [auxSymCommentToken1]), (143, [symComment]),
   (337, [anonSymSlashSlash, anonSymSlashStar])],
  -- 144
  [(3, [anonSymPound]), (304, [anonSymRbrace]), (144, [symComment]),
   (5, [anonSymSlashSlash, anonSymSlashStar])],
  -- 145
  [(335, [anonSymPound]), (353, [auxSymCommentToken2]), (145, [symComment]),
   (337, [anonSymSlashSlash, anonSymSlashStar])],
  -- 146
  [(3, [anonSymPound]), (355, [anonSymEq]), (146, [symComment]),
   (5, [anonSymSlashSlash, anonSymSlashStar])],
  -- 147
  [(335, [anonSymPound]), (357, [auxSymStringToken3]), (147, [symComment]),
   (337, [anonSymSlashSlash, anonSymSlashStar])],
  -- 148
  [(3, [anonSymPound]), (329, [anonSymDquote]), (148, [symComment]),
   (5, [anonSymSlashSlash, anonSymSlashStar])],
  -- 149
  [(335, [anonSymPound]), (359, [auxSymStringToken1]), (149, [symComment]),
   (337, [anonSymSlashSlash, anonSymSlashStar])],
  -- 150
  [(335, [anonSymPound]), (361, [auxSymStringToken2]), (150, [symComment]),
   (337, [anonSymSlashSlash, anonSymSlashStar])],
  -- 151
  [(363, [tsBuiltinSymEnd])],
  -- 152
  [(365, [tsBuiltinSymEnd])]]

/-- A `TSFieldMapEntry`: a field and the index of the child it names (none of this grammar's
entries is inherited). -/
structure FieldMapEntry where
  field : Field
  childIndex : Nat
  deriving DecidableEq, Repr

/-- `ts_field_map_slices`: for each production id, the index and length of its slice of
`ts_field_map_entries`. -/
def tsFieldMapSlices : Nat → Nat × Nat
  | 1 => (0, 1)
  | 2 => (1, 2)
  | 3 => (3, 2)
  | 4 => (5, 3)
  | 5 => (8, 2)
  | 6 => (10, 2)
  | 7 => (12, 1)
  | 8 => (13, 2)
  | 9 => (15, 3)
  | _ => (0, 0)

/-- `ts_field_map_entries`, in order. -/
def tsFieldMapEntries : List FieldMapEntry :=
  [⟨.path, 1⟩, ⟨.config, 2⟩, ⟨.network, 1⟩, ⟨.config, 2⟩,
   ⟨.name, 1⟩, ⟨.config, 3⟩, ⟨.name, 1⟩, ⟨.type, 2⟩,
   ⟨.name, 1⟩, ⟨.value, 3⟩, ⟨.key, 0⟩, ⟨.value, 2⟩,
   ⟨.name, 0⟩, ⟨.arguments, 2⟩, ⟨.name, 0⟩, ⟨.arguments, 2⟩,
   ⟨.arguments, 3⟩, ⟨.name, 0⟩]
/-- The field map of a production id: its slice of `ts_field_map_entries`. -/
def tsFieldMap (productionId : Nat) : List FieldMapEntry :=
  (tsFieldMapEntries.drop (tsFieldMapSlices productionId).1).take
    (tsFieldMapSlices productionId).2

/-! ## Lookups -/

/-- `ts_language_lookup`: the value a state holds for a symbol, from the full row of a large
state or from the groups of a small one; `0` when the symbol is not listed. -/
def tsLanguageLookup (state : Nat) (symbol : Symbol) : Nat :=
  if state < largeStateCount then (((tsParseTable.getD state []).lookup symbol)).getD 0
  else
    (((tsSmallParseTable.getD (state - largeStateCount) []).find? fun g => symbol ∈ g.2).map
      (·.1)).getD 0

/-- `ts_language_actions`: the actions of a state on a token. -/
def tsLanguageActions (state : Nat) (symbol : Symbol) : List ParseAction :=
  actionsAt (tsLanguageLookup state symbol)

/-- `ts_language_next_state`: for a token, the state its last action shifts to (`0` if that
action is not a shift); for a nonterminal, its goto state. -/
def tsLanguageNextState (state : Nat) (symbol : Symbol) : Nat :=
  if symbol.isToken then
    match (tsLanguageActions state symbol).getLast? with
    | some (.shift s) | some (.shiftRepeat s) => s
    | _ => 0
  else tsLanguageLookup state symbol

end TreeSitterTxtx
