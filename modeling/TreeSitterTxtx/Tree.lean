import TreeSitterTxtx.Driver

/-!
# Syntax trees

Queries over the trees the driver builds. Comments are extras: a reduction leaves them
where they were read, inside whichever node spans them, so a comment can sit between any
two children of a node. `eraseComments` removes every comment node, at every depth; it is
how the trees of two inputs that differ only in their comments are compared. A token's
text is the part of the input its span covers (`Token.text`).
-/

namespace TreeSitterTxtx

/-- Induction over trees, with a hypothesis for every child of a node. -/
@[induction_eliminator]
theorem Subtree.induction {motive : Subtree → Prop}
    (leaf : ∀ token extra, motive (.leaf token extra))
    (node : ∀ symbol productionId extra children, (∀ c ∈ children, motive c) →
      motive (.node symbol productionId extra children)) :
    ∀ t, motive t :=
  @Subtree.rec motive (fun cs => ∀ c ∈ cs, motive c) leaf node (by simp)
    (fun _ _ hc hcs => by simpa [hc] using hcs)

/-- Whether a subtree is a comment node. -/
def Subtree.isComment (t : Subtree) : Bool := t.symbol == .symComment

mutual
/-- The tree without its comment nodes, at every depth. -/
def Subtree.eraseComments : Subtree → Subtree
  | .leaf tok e => .leaf tok e
  | .node A pid e cs => .node A pid e (eraseCommentsList cs)

/-- A list of subtrees without the comment nodes among them and inside them. -/
def eraseCommentsList : List Subtree → List Subtree
  | [] => []
  | t :: ts => if t.isComment then eraseCommentsList ts else t.eraseComments :: eraseCommentsList ts
end

@[simp] theorem eraseCommentsList_nil : eraseCommentsList [] = [] := rfl

theorem eraseCommentsList_cons (t : Subtree) (ts : List Subtree) :
    eraseCommentsList (t :: ts) =
      if t.isComment then eraseCommentsList ts else t.eraseComments :: eraseCommentsList ts := rfl

theorem eraseCommentsList_append (ts us : List Subtree) :
    eraseCommentsList (ts ++ us) = eraseCommentsList ts ++ eraseCommentsList us := by
  induction ts with
  | nil => rfl
  | cons t ts ih => simp only [List.cons_append, eraseCommentsList_cons, ih]; split <;> rfl

@[simp] theorem Subtree.eraseComments_symbol (t : Subtree) : t.eraseComments.symbol = t.symbol := by
  cases t <;> rfl

@[simp] theorem Subtree.eraseComments_productionId (t : Subtree) :
    t.eraseComments.productionId = t.productionId := by
  cases t <;> rfl

theorem Subtree.eraseComments_children (t : Subtree) :
    t.eraseComments.children = eraseCommentsList t.children := by
  cases t <;> rfl

theorem mem_eraseCommentsList {s : Subtree} {ts : List Subtree} (h : s ∈ eraseCommentsList ts) :
    ∃ t ∈ ts, s = t.eraseComments := by
  induction ts with
  | nil => cases h
  | cons t ts ih =>
    rw [eraseCommentsList_cons] at h
    split at h
    · obtain ⟨t', ht', rfl⟩ := ih h
      exact ⟨t', List.mem_cons_of_mem _ ht', rfl⟩
    · rcases List.mem_cons.1 h with rfl | h
      · exact ⟨t, List.mem_cons_self _ _, rfl⟩
      · obtain ⟨t', ht', rfl⟩ := ih h
        exact ⟨t', List.mem_cons_of_mem _ ht', rfl⟩

mutual
/-- The number of comment nodes in a tree, nested ones included. -/
def Subtree.commentCount : Subtree → Nat
  | .leaf _ _ => 0
  | .node A _ _ cs => (if A == .symComment then 1 else 0) + commentCountList cs

/-- The number of comment nodes in a list of subtrees. -/
def commentCountList : List Subtree → Nat
  | [] => 0
  | t :: ts => t.commentCount + commentCountList ts
end

mutual
/-- Whether a node of symbol `A` occurs in a tree. -/
def Subtree.hasSymbol (A : Symbol) : Subtree → Bool
  | .leaf tok _ => tok.symbol == A
  | .node B _ _ cs => B == A || hasSymbolList A cs

/-- Whether a node of symbol `A` occurs in a list of subtrees. -/
def hasSymbolList (A : Symbol) : List Subtree → Bool
  | [] => false
  | t :: ts => t.hasSymbol A || hasSymbolList A ts
end

mutual
/-- The tokens of a tree's leaves, in order. -/
def Subtree.leaves : Subtree → List Token
  | .leaf tok _ => [tok]
  | .node _ _ _ cs => leavesList cs

/-- The tokens of the leaves of a list of subtrees, in order. -/
def leavesList : List Subtree → List Token
  | [] => []
  | t :: ts => t.leaves ++ leavesList ts
end

@[simp] theorem leavesList_nil : leavesList [] = [] := rfl

theorem leavesList_cons (t : Subtree) (ts : List Subtree) :
    leavesList (t :: ts) = t.leaves ++ leavesList ts := rfl

theorem mem_leavesList {tok : Token} {ts : List Subtree} :
    tok ∈ leavesList ts ↔ ∃ t ∈ ts, tok ∈ t.leaves := by
  induction ts with
  | nil => simp
  | cons t ts ih => simp [leavesList_cons, ih]

theorem leavesList_append (ts us : List Subtree) :
    leavesList (ts ++ us) = leavesList ts ++ leavesList us := by
  induction ts with
  | nil => rfl
  | cons t ts ih => rw [List.cons_append, leavesList_cons, leavesList_cons, ih, List.append_assoc]

mutual
/-- A tree and all its subtrees, in preorder. -/
def Subtree.subtrees : Subtree → List Subtree
  | .leaf tok e => [.leaf tok e]
  | .node A pid e cs => .node A pid e cs :: subtreesList cs

/-- The subtrees of a list of trees, in order. -/
def subtreesList : List Subtree → List Subtree
  | [] => []
  | t :: ts => t.subtrees ++ subtreesList ts
end

@[simp] theorem subtreesList_nil : subtreesList [] = [] := rfl

theorem subtreesList_cons (t : Subtree) (ts : List Subtree) :
    subtreesList (t :: ts) = t.subtrees ++ subtreesList ts := rfl

theorem Subtree.subtrees_leaf (tok : Token) (e : Bool) :
    (Subtree.leaf tok e).subtrees = [.leaf tok e] := rfl

theorem Subtree.subtrees_node (A : Symbol) (pid : Nat) (e : Bool) (cs : List Subtree) :
    (Subtree.node A pid e cs).subtrees = .node A pid e cs :: subtreesList cs := rfl

theorem Subtree.symbol_leaf (tok : Token) (e : Bool) : (Subtree.leaf tok e).symbol = tok.symbol := rfl

theorem Subtree.symbol_node (A : Symbol) (pid : Nat) (e : Bool) (cs : List Subtree) :
    (Subtree.node A pid e cs).symbol = A := rfl

theorem mem_subtreesList {s : Subtree} {ts : List Subtree} :
    s ∈ subtreesList ts ↔ ∃ t ∈ ts, s ∈ t.subtrees := by
  induction ts with
  | nil => simp [subtreesList]
  | cons t ts ih => simp [subtreesList, ih]

mutual
/-- The visible children of a node, as a consumer of the tree sees them: a hidden child
(`ts_symbol_metadata` not visible) is replaced by its own visible children. -/
def Subtree.visibleChildren : Subtree → List Subtree
  | .leaf _ _ => []
  | .node _ _ _ cs => visibleList cs

/-- The visible nodes of a list of subtrees, hidden ones replaced by their visible
children. -/
def visibleList : List Subtree → List Subtree
  | [] => []
  | t :: ts =>
    (if (tsSymbolMetadata t.symbol).visible then [t] else t.visibleChildren) ++ visibleList ts
end

@[simp] theorem visibleList_nil : visibleList [] = [] := rfl

theorem visibleList_append (ts us : List Subtree) :
    visibleList (ts ++ us) = visibleList ts ++ visibleList us := by
  induction ts with
  | nil => rfl
  | cons t ts ih => simp [visibleList, ih]

/-- The text of the input `input` that a token spans. -/
def Token.text (input : List Char) (tok : Token) : List Char :=
  (input.drop tok.start).take (tok.stop - tok.start)

/-- The result of a run as a tree, if it accepted. -/
def RunResult.tree? : RunResult → Option Subtree
  | .accepted t => some t
  | _ => none

end TreeSitterTxtx
