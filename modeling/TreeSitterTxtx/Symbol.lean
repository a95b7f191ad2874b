import Mathlib.Logic.Basic

/-!
# Symbols, fields and symbol metadata of the txtx grammar

The closed set of grammar symbols that `parser.c` numbers in its leading `enum`
(`ts_builtin_sym_end` is 0, the tokens run up to `aux_sym_comment_token2` = 39, the
nonterminals from `sym_runbook` = 40 to `aux_sym_reference_repeat1` = 67), the eight field
names, and `ts_symbol_metadata`, which says which symbols appear as visible nodes of a
syntax tree. Hidden symbols (`sym__statement`, `sym__expression`, the `aux_sym_*_repeat1`
helpers and the content tokens of strings, numbers and comments) are present in the tree
the driver builds but are skipped when a consumer walks its visible nodes.
-/

namespace TreeSitterTxtx

/-- The symbols of the grammar, in the order and numbering of the `enum` of `parser.c`. -/
inductive Symbol where
  | tsBuiltinSymEnd
  | anonSymAddon
  | anonSymSigner
  | anonSymAction
  | anonSymOutput
  | anonSymVariable
  | anonSymInput
  | anonSymEq
  | anonSymImport
  | anonSymLbrace
  | anonSymRbrace
  | anonSymDquote
  | auxSymStringToken1
  | anonSymSquote
  | auxSymStringToken2
  | anonSymDquoteDquoteDquote
  | auxSymStringToken3
  | auxSymNumberToken1
  | auxSymNumberToken2
  | auxSymNumberToken3
  | anonSymTrue
  | anonSymFalse
  | symNull
  | anonSymLbrack
  | anonSymComma
  | anonSymRbrack
  | anonSymColon
  | anonSymDot
  | anonSymLparen
  | anonSymRparen
  | anonSymStar
  | anonSymSlash
  | anonSymPlus
  | anonSymDash
  | symIdentifier
  | anonSymPound
  | auxSymCommentToken1
  | anonSymSlashSlash
  | anonSymSlashStar
  | auxSymCommentToken2
  | symRunbook
  | symStatement
  | symAddonBlock
  | symSignerBlock
  | symActionBlock
  | symOutputBlock
  | symVariableDeclaration
  | symInputDeclaration
  | symImportStatement
  | symBlock
  | symAttribute
  | symExpression
  | symString
  | symNumber
  | symBoolean
  | symArray
  | symObject
  | symObjectField
  | symReference
  | symIndexAccess
  | symFunctionCall
  | symBinaryExpression
  | symComment
  | auxSymRunbookRepeat1
  | auxSymBlockRepeat1
  | auxSymArrayRepeat1
  | auxSymObjectRepeat1
  | auxSymReferenceRepeat1
  deriving DecidableEq, Repr

/-- The number `parser.c` gives a symbol: its position in the `enum`. -/
def Symbol.toNat (s : Symbol) : Nat := s.toCtorIdx

/-- `TOKEN_COUNT`: the symbols numbered below it are tokens, the rest nonterminals. -/
def tokenCount : Nat := 40

/-- A symbol the lexer produces, as opposed to a nonterminal the parser reduces to. -/
def Symbol.isToken (s : Symbol) : Bool := s.toNat < tokenCount

/-- An entry of `ts_symbol_metadata`. -/
structure SymbolMetadata where
  visible : Bool
  named : Bool
  deriving DecidableEq, Repr

/-- `ts_symbol_metadata`: whether each symbol is visible in the tree and whether it is a
named node. -/
def tsSymbolMetadata : Symbol → SymbolMetadata
  | .tsBuiltinSymEnd => ⟨false, true⟩
  | .anonSymAddon => ⟨true, false⟩
  | .anonSymSigner => ⟨true, false⟩
  | .anonSymAction => ⟨true, false⟩
  | .anonSymOutput => ⟨true, false⟩
  | .anonSymVariable => ⟨true, false⟩
  | .anonSymInput => ⟨true, false⟩
  | .anonSymEq => ⟨true, false⟩
  | .anonSymImport => ⟨true, false⟩
  | .anonSymLbrace => ⟨true, false⟩
  | .anonSymRbrace => ⟨true, false⟩
  | .anonSymDquote => ⟨true, false⟩
  | .auxSymStringToken1 => ⟨false, false⟩
  | .anonSymSquote => ⟨true, false⟩
  | .auxSymStringToken2 => ⟨false, false⟩
  | .anonSymDquoteDquoteDquote => ⟨true, false⟩
  | .auxSymStringToken3 => ⟨false, false⟩
  | .auxSymNumberToken1 => ⟨false, false⟩
  | .auxSymNumberToken2 => ⟨false, false⟩
  | .auxSymNumberToken3 => ⟨false, false⟩
  | .anonSymTrue => ⟨true, false⟩
  | .anonSymFalse => ⟨true, false⟩
  | .symNull => ⟨true, true⟩
  | .anonSymLbrack => ⟨true, false⟩
  | .anonSymComma => ⟨true, false⟩
  | .anonSymRbrack => ⟨true, false⟩
  | .anonSymColon => ⟨true, false⟩
  | .anonSymDot => ⟨true, false⟩
  | .anonSymLparen => ⟨true, false⟩
  | .anonSymRparen => ⟨true, false⟩
  | .anonSymStar => ⟨true, false⟩
  | .anonSymSlash => ⟨true, false⟩
  | .anonSymPlus => ⟨true, false⟩
  | .anonSymDash => ⟨true, false⟩
  | .symIdentifier => ⟨true, true⟩
  | .anonSymPound => ⟨true, false⟩
  | .auxSymCommentToken1 => ⟨false, false⟩
  | .anonSymSlashSlash => ⟨true, false⟩
  | .anonSymSlashStar => ⟨true, false⟩
  | .auxSymCommentToken2 => ⟨false, false⟩
  | .symRunbook => ⟨true, true⟩
  | .symStatement => ⟨false, true⟩
  | .symAddonBlock => ⟨true, true⟩
  | .symSignerBlock => ⟨true, true⟩
  | .symActionBlock => ⟨true, true⟩
  | .symOutputBlock => ⟨true, true⟩
  | .symVariableDeclaration => ⟨true, true⟩
  | .symInputDeclaration => ⟨true, true⟩
  | .symImportStatement => ⟨true, true⟩
  | .symBlock => ⟨true, true⟩
  | .symAttribute => ⟨true, true⟩
  | .symExpression => ⟨false, true⟩
  | .symString => ⟨true, true⟩
  | .symNumber => ⟨true, true⟩
  | .symBoolean => ⟨true, true⟩
  | .symArray => ⟨true, true⟩
  | .symObject => ⟨true, true⟩
  | .symObjectField => ⟨true, true⟩
  | .symReference => ⟨true, true⟩
  | .symIndexAccess => ⟨true, true⟩
  | .symFunctionCall => ⟨true, true⟩
  | .symBinaryExpression => ⟨true, true⟩
  | .symComment => ⟨true, true⟩
  | .auxSymRunbookRepeat1 => ⟨false, false⟩
  | .auxSymBlockRepeat1 => ⟨false, false⟩
  | .auxSymArrayRepeat1 => ⟨false, false⟩
  | .auxSymObjectRepeat1 => ⟨false, false⟩
  | .auxSymReferenceRepeat1 => ⟨false, false⟩

/-- The field names of `ts_field_names`, numbered from 1 as `field_arguments` to
`field_value`. -/
inductive Field where
  | arguments | config | key | name | network | path | type | value
  deriving DecidableEq, Repr

end TreeSitterTxtx
