import Pjsip.Base.LinkedTree

/-!
# The red-black tree (`pj_rbtree`)

The tree of `pj/rbtree.c`: the links and colours are functions of the node, and `tree->null` is a
node like any other, so that what is written to it is seen. Every routine that the source has twice,
for the left and the right side, is one definition here with the side as a parameter. Loops carry a
fuel argument that bounds their rounds; `none` is a loop that has not ended. `user_data` and the key
of the null node are not read by any routine.
-/

namespace Pjsip.Pjlib.Rbtree

open Pjsip.Base.LinkedTree

inductive Color where
  | black
  | red
  deriving DecidableEq, Repr

structure PjRbtree (α κ : Type) where
  links : Links α
  color : Ref α → Color
  key : α → κ
  size : Nat

variable {α κ : Type} [DecidableEq α]

def PjRbtree.setColor (tree : PjRbtree α κ) (node : Ref α) (color : Color) : PjRbtree α κ :=
  { tree with color := Function.update tree.color node color }

/-- The caller sets the key of a node. -/
def PjRbtree.setKey (tree : PjRbtree α κ) (element : α) (key : κ) : PjRbtree α κ :=
  { tree with key := Function.update tree.key element key }

def PjRbtree.withLinks (tree : PjRbtree α κ) (links : Links α) : PjRbtree α κ :=
  { tree with links := links }

/-! ## Rotations -/

/-- `left_rotate` (`d = left`) and `right_rotate` (`d = right`). -/
def rotate (d : Side) (L : Links α) (node : Ref α) : Links α :=
  let rnode := L.child d.opp node
  if rnode = .null then L
  else
    let inner := L.child d rnode
    let parent := L.parent node
    let L := L.setChild d.opp node inner
    let L := if inner ≠ .null then L.setParent inner node else L
    let L := L.setParent rnode parent
    let L := L.relink parent node rnode
    let L := L.setChild d rnode node
    L.setParent node rnode

def leftRotate (L : Links α) (node : Ref α) : Links α := rotate .left L node

def rightRotate (L : Links α) (node : Ref α) : Links α := rotate .right L node

def PjRbtree.rotate (tree : PjRbtree α κ) (d : Side) (node : Ref α) : PjRbtree α κ :=
  tree.withLinks (Rbtree.rotate d tree.links node)

/-! ## Fixing up after an insertion -/

/-- The side of its own parent on which `node` hangs, as the source tests it. -/
def sideOf (L : Links α) (node : Ref α) : Side :=
  if node = L.child .left (L.parent node) then .left else .right

/-- One round of `insert_fixup`; answers the node to go on with. -/
def insertFixupRound (tree : PjRbtree α κ) (node : Ref α) : PjRbtree α κ × Ref α :=
  let parent := tree.links.parent node
  let d := sideOf tree.links parent
  let temp := tree.links.child d.opp (tree.links.parent parent)
  if tree.color temp = .red then
    let tree := tree.setColor temp .black
    let tree := tree.setColor parent .black
    let node := tree.links.parent parent
    (tree.setColor node .red, node)
  else
    let (tree, node) :=
      if node = tree.links.child d.opp parent then (tree.rotate d parent, parent)
      else (tree, node)
    let temp := tree.links.parent node
    let tree := tree.setColor temp .black
    let temp := tree.links.parent temp
    let tree := tree.setColor temp .red
    (tree.rotate d.opp temp, node)

def insertFixup : Nat → PjRbtree α κ → Ref α → Option (PjRbtree α κ)
  | fuel, tree, node =>
    if node ≠ tree.links.root ∧ tree.color (tree.links.parent node) = .red then
      match fuel with
      | 0 => none
      | fuel + 1 =>
        let (tree, node) := insertFixupRound tree node
        insertFixup fuel tree node
    else some (tree.setColor tree.links.root .black)

/-! ## Fixing up after a removal -/

/-- The first case of `delete_fixup`: a red sibling goes over the parent. Answers
the sibling to go on with. -/
def settleSibling (d : Side) (tree : PjRbtree α κ) (node : Ref α) : PjRbtree α κ × Ref α :=
  let parent := tree.links.parent node
  let temp := tree.links.child d.opp parent
  if tree.color temp = .red then
    let tree := tree.setColor temp .black
    let tree := tree.setColor parent .red
    let tree := tree.rotate d parent
    (tree, tree.links.child d.opp (tree.links.parent node))
  else (tree, temp)

/-- The last two cases of `delete_fixup`, with a red child of the sibling. -/
def settleParent (d : Side) (tree : PjRbtree α κ) (node temp : Ref α) : PjRbtree α κ :=
  let (tree, temp) :=
    if tree.color (tree.links.child d.opp temp) = .black then
      let tree := tree.setColor (tree.links.child d temp) .black
      let tree := tree.setColor temp .red
      let tree := tree.rotate d.opp temp
      (tree, tree.links.child d.opp (tree.links.parent node))
    else (tree, temp)
  let tree := tree.setColor temp (tree.color (tree.links.parent node))
  -- the source writes the two blacks in another order on the right side
  let tree := tree.setColor (tree.links.child d.opp temp) .black
  let tree := tree.setColor (tree.links.parent node) .black
  tree.rotate d (tree.links.parent node)

/-- One round of `delete_fixup`; answers the node to go on with. -/
def deleteFixupRound (tree : PjRbtree α κ) (node : Ref α) : PjRbtree α κ × Ref α :=
  let d : Side := if tree.links.child .left (tree.links.parent node) = node then .left else .right
  let (tree, temp) := settleSibling d tree node
  if tree.color (tree.links.child d temp) = .black ∧
      tree.color (tree.links.child d.opp temp) = .black then
    (tree.setColor temp .red, tree.links.parent node)
  else
    let tree := settleParent d tree node temp
    (tree, tree.links.root)

def deleteFixup : Nat → PjRbtree α κ → Ref α → Option (PjRbtree α κ)
  | fuel, tree, node =>
    if node ≠ tree.links.root ∧ tree.color node = .black then
      match fuel with
      | 0 => none
      | fuel + 1 =>
        let (tree, node) := deleteFixupRound tree node
        deleteFixup fuel tree node
    else some (tree.setColor node .black)

/-! ## The operations -/

/-- `pj_rbtree_init`; the nodes of the caller are wherever they are, in `memory`. -/
def pjRbtreeInit (memory : PjRbtree α κ) : PjRbtree α κ :=
  { memory with
    links :=
      { parent := fun x => if x = .null then .null else memory.links.parent x
        child := fun d x => if x = .null then .null else memory.links.child d x
        root := .null }
    color := Function.update memory.color .null .black
    size := 0 }

/-- `NULL` for the null node. -/
def toNode : Ref α → Option α
  | .null => none
  | .elem a => some a

/-- The loop down one side that ends at the outermost node. -/
def extreme (d : Side) (L : Links α) : Nat → Ref α → Option (Ref α)
  | fuel, node =>
    if L.child d node ≠ .null then
      match fuel with
      | 0 => none
      | fuel + 1 => extreme d L fuel (L.child d node)
    else some node

/-- The loop up from `node` as long as it hangs on side `d`. -/
def climb (d : Side) (L : Links α) : Nat → Ref α → Ref α → Option (Ref α)
  | fuel, node, temp =>
    if temp ≠ .null ∧ L.child d temp = node then
      match fuel with
      | 0 => none
      | fuel + 1 => climb d L fuel temp (L.parent temp)
    else some temp

/-- `pj_rbtree_first` (`d = left`) and `pj_rbtree_last` (`d = right`). -/
def outermost (d : Side) (tree : PjRbtree α κ) : Option (Option α) :=
  (extreme d tree.links tree.size tree.links.root).map toNode

/-- `pj_rbtree_next` (`d = right`) and `pj_rbtree_prev` (`d = left`). -/
def neighbour (d : Side) (tree : PjRbtree α κ) (node : Ref α) : Option (Option α) :=
  if tree.links.child d node ≠ .null then
    (extreme d.opp tree.links tree.size (tree.links.child d node)).map toNode
  else (climb d tree.links tree.size node (tree.links.parent node)).map toNode

def pjRbtreeFirst (tree : PjRbtree α κ) : Option (Option α) := outermost .left tree

def pjRbtreeLast (tree : PjRbtree α κ) : Option (Option α) := outermost .right tree

def pjRbtreeNext (tree : PjRbtree α κ) (node : Ref α) : Option (Option α) :=
  neighbour .right tree node

def pjRbtreePrev (tree : PjRbtree α κ) (node : Ref α) : Option (Option α) :=
  neighbour .left tree node

/-- The loop of a caller: one node, and then neighbour after neighbour to the end. -/
def enumerate (d : Side) (tree : PjRbtree α κ) : Nat → Option α → Option (List α)
  | _, none => some []
  | 0, some _ => none
  | fuel + 1, some a =>
    (neighbour d tree (.elem a)).bind fun it => (enumerate d tree fuel it).map (a :: ·)

/-- Where the search of `pj_rbtree_insert` ends: at an equal key, or at the
parent and the last comparison. -/
inductive Place (α : Type) where
  | taken
  | free (parent : Ref α) (rv : Int)

/-- The search loop of `pj_rbtree_insert`. -/
def findPlace (comp : κ → κ → Int) (tree : PjRbtree α κ) (key : κ) :
    Nat → Ref α → Ref α → Int → Option (Place α)
  | _, .null, parent, rv => some (.free parent rv)
  | fuel, .elem a, _, _ =>
    let rv := comp key (tree.key a)
    if rv = 0 then some .taken
    else
      match fuel with
      | 0 => none
      | fuel + 1 =>
        findPlace comp tree key fuel (if rv < 0 then tree.links.child .left (.elem a)
            else tree.links.child .right (.elem a)) (.elem a) rv

/-- What `pj_rbtree_insert` writes to a new node: red, without children. -/
def clearNode (tree : PjRbtree α κ) (node : Ref α) : PjRbtree α κ :=
  (tree.setColor node .red).withLinks
    ((tree.links.setChild .right node .null).setChild .left node .null)

/-- The new node below the parent that the search ended at. -/
def hangBelow (tree : PjRbtree α κ) (node parent : Ref α) (rv : Int) : PjRbtree α κ :=
  let links := tree.links.setParent node parent
  tree.withLinks
    (if rv < 0 then links.setChild .left parent node else links.setChild .right parent node)

/-- The new node as the root of an empty tree. -/
def plant (tree : PjRbtree α κ) (node : Ref α) : PjRbtree α κ :=
  (tree.withLinks ((tree.links.setRoot node).setParent node .null)).setColor node .black

def pjRbtreeInsert (comp : κ → κ → Int) (tree : PjRbtree α κ) (element : α) :
    Option (PjRbtree α κ × Int) :=
  match findPlace comp tree (tree.key element) tree.size tree.links.root .null 0 with
  | none => none
  | some .taken => some (tree, -1)
  | some (.free parent rv) =>
    let node : Ref α := .elem element
    let tree := clearNode tree node
    let next :=
      if parent ≠ .null then insertFixup (tree.size + 1) (hangBelow tree node parent rv) node
      else some (plant tree node)
    next.map fun tree => ({ tree with size := tree.size + 1 }, 0)

/-- The loop of `pj_rbtree_find`. -/
def findLoop (comp : κ → κ → Int) (tree : PjRbtree α κ) (key : κ) : Nat → Ref α → Option (Option α)
  | _, .null => some none
  | fuel, .elem a =>
    let rv := comp key (tree.key a)
    if rv = 0 then some (some a)
    else
      match fuel with
      | 0 => none
      | fuel + 1 =>
        findLoop comp tree key fuel (if rv < 0 then tree.links.child .left (.elem a)
            else tree.links.child .right (.elem a))

def pjRbtreeFind (comp : κ → κ → Int) (tree : PjRbtree α κ) (key : κ) : Option (Option α) :=
  findLoop comp tree key tree.size tree.links.root

/-- The node that `pj_rbtree_erase` unlinks: `node` itself, or its successor. -/
def spliced (tree : PjRbtree α κ) (node : Ref α) : Option (Ref α) :=
  if tree.links.child .left node = .null ∨ tree.links.child .right node = .null then some node
  else extreme .left tree.links tree.size (tree.links.child .right node)

/-- The child that takes the place of the node unlinked. -/
def spliceChild (L : Links α) (succ : Ref α) : Ref α :=
  if L.child .left succ ≠ .null then L.child .left succ else L.child .right succ

/-- The child of `succ` takes its place. -/
def splice (L : Links α) (succ : Ref α) : Links α :=
  let child := spliceChild L succ
  let parent := L.parent succ
  (L.setParent child parent).relink parent succ child

/-- `succ` gets the links of `node`, and its parent's link. -/
def takePlace (L : Links α) (node succ : Ref α) : Links α :=
  let parent := L.parent node
  let L := ((L.setParent succ parent).setChild .left succ (L.child .left node)).setChild .right succ
    (L.child .right node)
  if parent ≠ .null then L.relinkChild parent node succ else L

/-- The children of `node` become those of `succ`. -/
def adoptChildren (L : Links α) (node succ : Ref α) : Links α :=
  let L := if L.child .left node ≠ .null then L.setParent (L.child .left node) succ else L
  if L.child .right node ≠ .null then L.setParent (L.child .right node) succ else L

/-- `succ` takes the place of `node`. -/
def replace (L : Links α) (node succ : Ref α) : Links α :=
  let L := adoptChildren (takePlace L node succ) node succ
  if L.root = node then L.setRoot succ else L

/-- `node` out of the tree, with `succ` in its place if that is another node. -/
def unlink (tree : PjRbtree α κ) (node succ : Ref α) : PjRbtree α κ :=
  let tree := tree.withLinks (splice tree.links succ)
  if succ ≠ node then
    (tree.withLinks (replace tree.links node succ)).setColor succ (tree.color node)
  else tree

/-- The end of `pj_rbtree_erase`; the colour tested is the one `succ` has just been
given. -/
def fixErased (tree : PjRbtree α κ) (succ child : Ref α) : Option (PjRbtree α κ) :=
  if tree.color succ = .black then
    let fixed := if child ≠ .null then deleteFixup (tree.size + 1) tree child else some tree
    fixed.map fun tree => tree.setColor .null .black
  else some tree

def pjRbtreeErase (tree : PjRbtree α κ) (node : Ref α) : Option (PjRbtree α κ) :=
  match spliced tree node with
  | none => none
  | some succ =>
    let child := spliceChild tree.links succ
    (fixErased (unlink tree node succ) succ child).map fun tree =>
      { tree with size := tree.size - 1 }

/-! ## One call -/

inductive Op (α κ : Type) where
  | insert (element : α) (key : κ)
  | erase (node : α)
  | find (key : κ)
  deriving DecidableEq

inductive Answer (α : Type) where
  | rv (rv : Int)
  | node (node : Option α)
  deriving DecidableEq

/-- One call; the caller sets the key of an element before inserting it. -/
def step (comp : κ → κ → Int) (tree : PjRbtree α κ) : Op α κ → Option (PjRbtree α κ × Answer α)
  | .insert element key =>
    (pjRbtreeInsert comp (tree.setKey element key) element).map fun next => (next.1, .rv next.2)
  | .erase node =>
    (pjRbtreeErase tree (.elem node)).map fun tree => (tree, .node (some node))
  | .find key => (pjRbtreeFind comp tree key).map fun found => (tree, .node found)

end Pjsip.Pjlib.Rbtree
