import TreeSitterTxtx.Tree

/-!
# The grammar

The grammar `G` of a runbook, at the level of the trees tree-sitter builds: hidden rules
(`_statement`, `_expression`) and the helper rules of repetitions (`runbook_repeat1` and the
like, each either one element or two repetitions side by side) are nodes of their own, and
each production carries the production id that selects its fields in
`ts_field_map_slices`. Statement names are string literals, as in the tables.

`G` allows one trailing comma after the last element of a non-empty array or object. The
parameter `loneComma` adds the two productions `[ , ]` and `{ , }`, an array and an object
with a comma and no element; `productionsOf true` is the grammar the tables implement
(`Soundness`), `productionsOf false` the grammar of the claims. A derivation tree
(`Derives`) is a leaf of a token, or a node whose children spell a production of its
symbol under that production's id, each child a derivation tree in turn.
-/

namespace TreeSitterTxtx

open Symbol in
/-- The productions of a nonterminal: production id and right-hand side. `loneComma` adds
`[ , ]` and `{ , }`. Comments are extras and have no production here. -/
def productionsOf (loneComma : Bool) : Symbol → List (Nat × List Symbol)
  | symRunbook => [(0, []), (0, [auxSymRunbookRepeat1])]
  | auxSymRunbookRepeat1 =>
    [(0, [symStatement]), (0, [auxSymRunbookRepeat1, auxSymRunbookRepeat1])]
  | symStatement =>
    [(0, [symAddonBlock]), (0, [symSignerBlock]), (0, [symActionBlock]), (0, [symOutputBlock]),
     (0, [symVariableDeclaration]), (0, [symInputDeclaration]), (0, [symImportStatement])]
  | symAddonBlock => [(2, [anonSymAddon, symString, symBlock])]
  | symSignerBlock => [(4, [anonSymSigner, symString, symString, symBlock])]
  | symActionBlock => [(4, [anonSymAction, symString, symString, symBlock])]
  | symOutputBlock => [(3, [anonSymOutput, symString, symBlock])]
  | symVariableDeclaration => [(3, [anonSymVariable, symString, symBlock])]
  | symInputDeclaration => [(5, [anonSymInput, symString, anonSymEq, symExpression])]
  | symImportStatement => [(1, [anonSymImport, symString])]
  | symBlock => [(0, [anonSymLbrace, anonSymRbrace]), (0, [anonSymLbrace, auxSymBlockRepeat1, anonSymRbrace])]
  | auxSymBlockRepeat1 => [(0, [symAttribute]), (0, [auxSymBlockRepeat1, auxSymBlockRepeat1])]
  | symAttribute => [(6, [symIdentifier, anonSymEq, symExpression])]
  | symExpression =>
    [(0, [symString]), (0, [symNumber]), (0, [symBoolean]), (0, [symNull]), (0, [symArray]),
     (0, [symObject]), (0, [symReference]), (0, [symFunctionCall]), (0, [symBinaryExpression])]
  | symString =>
    [(0, [anonSymDquote, auxSymStringToken1, anonSymDquote]),
     (0, [anonSymSquote, auxSymStringToken2, anonSymSquote]),
     (0, [anonSymDquoteDquoteDquote, auxSymStringToken3, anonSymDquoteDquoteDquote])]
  | symNumber => [(0, [auxSymNumberToken1]), (0, [auxSymNumberToken2]), (0, [auxSymNumberToken3])]
  | symBoolean => [(0, [anonSymTrue]), (0, [anonSymFalse])]
  | symArray =>
    [(0, [anonSymLbrack, anonSymRbrack]),
     (0, [anonSymLbrack, symExpression, anonSymRbrack]),
     (0, [anonSymLbrack, symExpression, anonSymComma, anonSymRbrack]),
     (0, [anonSymLbrack, symExpression, auxSymArrayRepeat1, anonSymRbrack]),
     (0, [anonSymLbrack, symExpression, auxSymArrayRepeat1, anonSymComma, anonSymRbrack])] ++
    if loneComma then [(0, [anonSymLbrack, anonSymComma, anonSymRbrack])] else []
  | auxSymArrayRepeat1 =>
    [(0, [anonSymComma, symExpression]), (0, [auxSymArrayRepeat1, auxSymArrayRepeat1])]
  | symObject =>
    [(0, [anonSymLbrace, anonSymRbrace]),
     (0, [anonSymLbrace, symObjectField, anonSymRbrace]),
     (0, [anonSymLbrace, symObjectField, anonSymComma, anonSymRbrace]),
     (0, [anonSymLbrace, symObjectField, auxSymObjectRepeat1, anonSymRbrace]),
     (0, [anonSymLbrace, symObjectField, auxSymObjectRepeat1, anonSymComma, anonSymRbrace])] ++
    if loneComma then [(0, [anonSymLbrace, anonSymComma, anonSymRbrace])] else []
  | auxSymObjectRepeat1 =>
    [(0, [anonSymComma, symObjectField]), (0, [auxSymObjectRepeat1, auxSymObjectRepeat1])]
  | symObjectField =>
    [(6, [symString, anonSymColon, symExpression]), (6, [symIdentifier, anonSymColon, symExpression])]
  | symReference =>
    [(0, [symIdentifier]), (0, [symIdentifier, auxSymReferenceRepeat1]),
     (0, [symIndexAccess]), (0, [symIndexAccess, auxSymReferenceRepeat1])]
  | auxSymReferenceRepeat1 =>
    [(0, [anonSymDot, symIdentifier]), (0, [anonSymDot, symIndexAccess]),
     (0, [auxSymReferenceRepeat1, auxSymReferenceRepeat1])]
  | symIndexAccess => [(0, [symIdentifier, anonSymLbrack, symExpression, anonSymRbrack])]
  | symFunctionCall =>
    [(7, [symIdentifier, anonSymLparen, anonSymRparen]),
     (8, [symIdentifier, anonSymLparen, symExpression, anonSymRparen]),
     (9, [symIdentifier, anonSymLparen, symExpression, auxSymArrayRepeat1, anonSymRparen])]
  | symBinaryExpression =>
    [(0, [symExpression, anonSymStar, symExpression]), (0, [symExpression, anonSymSlash, symExpression]),
     (0, [symExpression, anonSymPlus, symExpression]), (0, [symExpression, anonSymDash, symExpression])]
  | _ => []

/-- Whether `(pid, xs)` is a production of `A`. -/
def IsProduction (loneComma : Bool) (A : Symbol) (pid : Nat) (xs : List Symbol) : Bool :=
  (productionsOf loneComma A).contains (pid, xs)

theorem isProduction_iff {loneComma : Bool} {A : Symbol} {pid : Nat} {xs : List Symbol} :
    IsProduction loneComma A pid xs = true ↔ (pid, xs) ∈ productionsOf loneComma A := by
  simp [IsProduction]

mutual
/-- `t` is a derivation tree of the grammar. -/
def Derives (loneComma : Bool) : Subtree → Bool
  | .leaf tok _ => tok.symbol.isToken
  | .node A pid _ cs => IsProduction loneComma A pid (cs.map Subtree.symbol) && DerivesAll loneComma cs

/-- Every tree of a list is a derivation tree. -/
def DerivesAll (loneComma : Bool) : List Subtree → Bool
  | [] => true
  | t :: ts => Derives loneComma t && DerivesAll loneComma ts
end

theorem derivesAll_iff {loneComma : Bool} {ts : List Subtree} :
    DerivesAll loneComma ts = true ↔ ∀ t ∈ ts, Derives loneComma t = true := by
  induction ts with
  | nil => simp [DerivesAll]
  | cons t ts ih => simp [DerivesAll, ih]

/-- The tree of a whole document: the `runbook` node, whose children are a derivation of
`runbook` followed by the end-of-input leaf that `ts_parser__accept` appends. -/
def IsDocumentTree (loneComma : Bool) : Subtree → Bool
  | .node .symRunbook pid _ cs =>
    (match cs.getLast? with
      | some (.leaf tok _) => tok.symbol == .tsBuiltinSymEnd
      | _ => false) &&
    Derives loneComma (.node .symRunbook pid false cs.dropLast)
  | _ => false

end TreeSitterTxtx
