import TreeSitterTxtx.ParseTable

/-!
# The LR driver

tree-sitter's parse loop (`ts_parser__advance`, with `ts_parser__lex`, `ts_parser__reduce`
and `ts_parser__accept`) restricted to one stack version and to no error recovery, run over
the tables of `parser.c`. A configuration holds the stack above the base state `1`, the
position after the last token shifted with the input left there, and the lookahead token,
which is lexed in the lex mode of the top state and kept across reductions.

One `step` either lexes, or performs the action the tables give for the lookahead:

* `SHIFT(s)` pushes the token as a leaf in state `s` and clears the lookahead;
* `SHIFT_REPEAT` is skipped (the loop of `ts_parser__advance` breaks out of it), so an
  entry `REDUCE, SHIFT_REPEAT` reduces;
* `REDUCE(A, n, id)` pops `n` non-extra subtrees (`ts_stack_pop_count`, which takes the extra
  subtrees between them along), builds the node, pushes it in the goto state and re-pushes
  the extra subtrees that were on top;
* in a state whose lex mode is `(TSStateId)(-1)` the parser lexes nothing and takes the
  end-of-input entry, the reduction that ends a comment; the comment node is marked extra
  when its goto state is the state it started in, and the lexer runs again afterwards;
* `ACCEPT_INPUT` builds the root from the stack (`ts_parser__accept`);
* a missing action, `RECOVER`, or a lexer that accepts nothing stop the run with an error.
-/

namespace TreeSitterTxtx

/-- A node of the syntax tree: a token's leaf, or a node built by a reduction with its
production id. `extra` marks the subtrees that are not counted when a reduction pops its
children: comments, and the end-of-input leaf. -/
inductive Subtree where
  | leaf (token : Token) (extra : Bool)
  | node (symbol : Symbol) (productionId : Nat) (extra : Bool) (children : List Subtree)
  deriving Repr

namespace Subtree

/-- The symbol of a subtree. -/
def symbol : Subtree → Symbol
  | leaf t _ => t.symbol
  | node s _ _ _ => s

/-- Whether a subtree is extra (`ts_subtree_extra`). -/
def extra : Subtree → Bool
  | leaf _ e => e
  | node _ _ e _ => e

/-- The children of a subtree; a leaf has none. -/
def children : Subtree → List Subtree
  | leaf _ _ => []
  | node _ _ _ cs => cs

/-- The production id of a subtree; a leaf has `0`. -/
def productionId : Subtree → Nat
  | leaf _ _ => 0
  | node _ p _ _ => p

end Subtree

/-- An entry of the parse stack: the state reached and the subtree that led to it. -/
structure StackEntry where
  state : Nat
  tree : Subtree
  deriving Repr

/-- The state on top of a stack; the base of every stack is state `1`. -/
def topState : List StackEntry → Nat
  | [] => 1
  | e :: _ => e.state

/-- A configuration of the driver. `stack` lists the entries above the base, top first;
`input` is the text from `pos` on; `lookahead` is the token lexed for the current state,
with the text after it. -/
structure Config where
  stack : List StackEntry
  pos : Nat
  input : List Char
  lookahead : Option Lexeme
  deriving Repr

/-- The configuration a parse of `input` starts in. -/
def Config.init (input : List Char) : Config := ⟨[], 0, input, none⟩

/-! ## Reduction -/

/-- `ts_stack_pop_count`: pop entries from the top until `count` non-extra subtrees have been
taken. Returns the subtrees popped, in source order, and the stack below them; `none` when
the stack runs out first. -/
def popCount : Nat → List StackEntry → Option (List Subtree × List StackEntry)
  | 0, stack => some ([], stack)
  | _ + 1, [] => none
  | n + 1, e :: stack =>
    if e.tree.extra then (popCount (n + 1) stack).map fun r => (r.1 ++ [e.tree], r.2)
    else (popCount n stack).map fun r => (r.1 ++ [e.tree], r.2)

/-- `ts_subtree_array_remove_trailing_extras`: the children without the extra subtrees at
their end, and those extra subtrees in order. -/
def splitTrailingExtras (ts : List Subtree) : List Subtree × List Subtree :=
  ((ts.reverse.dropWhile (·.extra)).reverse, (ts.reverse.takeWhile (·.extra)).reverse)

/-- `ts_parser__reduce` on one stack version: pop `count` children, build the parent,
push it in the goto state of the state below, then push back the trailing extras.
`endOfExtra` is a reduction taken without lookahead, at the end of a comment: its node is
extra when the goto state is the state it started from. -/
def reduce (stack : List StackEntry) (symbol : Symbol) (count productionId : Nat)
    (endOfExtra : Bool) : Option (List StackEntry) :=
  (popCount count stack).map fun r =>
    let state := topState r.2
    let next := tsLanguageNextState state symbol
    let parent :=
      Subtree.node symbol productionId (endOfExtra && next == state) (splitTrailingExtras r.1).1
    (splitTrailingExtras r.1).2.reverse.map (⟨next, ·⟩) ++ ⟨next, parent⟩ :: r.2

/-- `ts_parser__accept`: push the end-of-input leaf, then make the last non-extra subtree the
root, with the extra subtrees before and after it spliced around its children. `after`
collects, in source order, the subtrees above the one examined. -/
def acceptRoot : List Subtree → List Subtree → Option Subtree
  | [], _ => none
  | t :: below, after =>
    if t.extra then acceptRoot below (t :: after)
    else some (.node t.symbol t.productionId false (below.reverse ++ t.children ++ after))

/-! ## One step -/

/-- A `SHIFT_REPEAT` action. -/
def ParseAction.isRepetition : ParseAction → Bool
  | .shiftRepeat _ => true
  | _ => false

/-- The actions `ts_parser__advance` performs for a table entry: `SHIFT_REPEAT` is skipped.
Every entry of the tables has at most one other action (`effectiveActions_length`). -/
def effectiveAction (actions : List ParseAction) : Option ParseAction :=
  (actions.filter fun a => !a.isRepetition).head?

/-- The outcome of one step. -/
inductive Outcome where
  | next (c : Config)
  | accepted (tree : Subtree)
  | failed
  deriving Repr

/-- The end of a comment: in a state of lex mode `(TSStateId)(-1)` the end-of-input entry's
reduction is taken without lookahead. -/
def endOfExtraStep (c : Config) : Outcome :=
  match effectiveAction (tsLanguageActions (topState c.stack) .tsBuiltinSymEnd) with
  | some (.reduce sym n pid) =>
    match reduce c.stack sym n pid true with
    | some stack => .next { c with stack := stack }
    | none => .failed
  | _ => .failed

/-- The action of the current state on the lookahead token `tok`, with `rest` the input
after it. -/
def actionStep (c : Config) (tok : Token) (rest : List Char) : Outcome :=
  match effectiveAction (tsLanguageActions (topState c.stack) tok.symbol) with
  | some (.shift s) => .next ⟨⟨s, .leaf tok false⟩ :: c.stack, tok.stop, rest, none⟩
  | some (.reduce sym n pid) =>
    match reduce c.stack sym n pid false with
    | some stack => .next { c with stack := stack }
    | none => .failed
  | some .accept =>
    match acceptRoot (.leaf tok true :: c.stack.map (·.tree)) [] with
    | some root => .accepted root
    | none => .failed
  | _ => .failed

/-- One step of the driver: lex when there is no lookahead, act on it otherwise. -/
def step (c : Config) : Outcome :=
  match c.lookahead with
  | some (tok, rest) => actionStep c tok rest
  | none =>
    if tsLexModes (topState c.stack) = noLexState then endOfExtraStep c
    else match tsLex (tsLexModes (topState c.stack)) c.pos c.input with
      | some la => .next { c with lookahead := some la }
      | none => .failed

/-- The result of running the driver with a bound on the number of steps. -/
inductive RunResult where
  | accepted (tree : Subtree)
  | failed
  | outOfFuel
  deriving Repr

/-- Run the driver for at most `fuel` steps. -/
def run : Nat → Config → RunResult
  | 0, _ => .outOfFuel
  | fuel + 1, c =>
    match step c with
    | .next c' => run fuel c'
    | .accepted t => .accepted t
    | .failed => .failed

/-- The parse of a whole input, with a bound on the number of steps. -/
def parse (fuel : Nat) (input : List Char) : RunResult := run fuel (Config.init input)

end TreeSitterTxtx
