import CodeAtlas.Module.Tree

/-!
# Walks of a tree

Two orders in which the nodes of a tree are visited: `Node.walk` goes level by level, and
`Node.calls` lists the calls of a tree with every call before those inside it.
-/

namespace CodeAtlas.Module

/-! ## Level by level -/

/-- The size of the largest node. -/
noncomputable def largest (ns : List Node) : Nat := (ns.map sizeOf).foldr max 0

theorem sizeOf_le_largest {n : Node} {ns : List Node} (h : n ∈ ns) : sizeOf n ≤ largest ns := by
  induction ns with
  | nil => simp at h
  | cons m rest ih =>
    simp only [largest, List.map_cons, List.foldr_cons] at ih ⊢
    rcases List.mem_cons.mp h with rfl | h
    · exact Nat.le_max_left ..
    · exact Nat.le_trans (ih h) (Nat.le_max_right ..)

theorem largest_lt {k : Nat} {ns : List Node} (hk : 0 < k) (h : ∀ n ∈ ns, sizeOf n < k) :
    largest ns < k := by
  induction ns with
  | nil => simpa [largest] using hk
  | cons m rest ih =>
    simp only [largest, List.map_cons, List.foldr_cons] at ih ⊢
    exact Nat.max_lt.mpr ⟨h m List.mem_cons_self, ih fun n hn => h n (List.mem_cons_of_mem _ hn)⟩

theorem Node.sizeOf_pos (n : Node) : 0 < sizeOf n := by
  cases n <;> exact Nat.lt_add_right _ Nat.one_pos

/-- The nodes one level down. -/
def below (ns : List Node) : List Node := ns.flatMap Node.children

theorem largest_below_lt {ns : List Node} (h : ns ≠ []) : largest (below ns) < largest ns := by
  obtain ⟨n, rest, rfl⟩ := List.exists_cons_of_ne_nil h
  refine largest_lt ?_ fun c hc => ?_
  · exact Nat.lt_of_lt_of_le n.sizeOf_pos (sizeOf_le_largest List.mem_cons_self)
  · obtain ⟨m, hm, hc⟩ := List.mem_flatMap.mp hc
    exact Nat.lt_of_lt_of_le (Node.sizeOf_lt hc) (sizeOf_le_largest hm)

/-- Some nodes, then what is below them, level by level. -/
def walkFrom (ns : List Node) : List Node :=
  if _h : ns = [] then [] else ns ++ walkFrom (below ns)
termination_by largest ns
decreasing_by exact largest_below_lt _h

/-- A node and all below it, level by level. -/
def Node.walk (n : Node) : List Node := walkFrom [n]

/-! ## Calls -/

structure Call where
  line : Nat
  func : Expr
  args : List Expr
  keywords : List Keyword

def Call.argCount (c : Call) : Nat := c.args.length + c.keywords.length

/-- Does the expression ask for the overridden declarations of the enclosing class? -/
def Expr.isSuperCall : Expr → Bool
  | .call _ (.name "super" _) _ _ => true
  | _ => false

/-- Does the call only pick where a look-up starts? -/
def Call.startsAtSuper (c : Call) : Bool :=
  match c.func with
  | .attribute value _ => value.isSuperCall
  | _ => false

namespace Node

/-- The call that a node is. -/
def call? : Node → Option Call
  | expr (.call line func args keywords) => some ⟨line, func, args, keywords⟩
  | _ => none

/-- The nodes below which further calls are looked for. -/
def searched (n : Node) : List Node :=
  match n.call? with
  | some c => if c.startsAtSuper then n.children.drop 1 else n.children
  | none => n.children

theorem mem_children_of_mem_searched {n c : Node} (h : c ∈ n.searched) : c ∈ n.children := by
  unfold searched at h
  split at h
  · split at h
    · exact List.mem_of_mem_drop h
    · exact h
  · exact h

/-- The calls of a tree, each before those inside it. -/
def calls (n : Node) : List Call :=
  n.call?.toList ++ n.searched.attach.flatMap fun c => calls c.1
termination_by sizeOf n
decreasing_by exact sizeOf_lt (mem_children_of_mem_searched c.2)

end Node

end CodeAtlas.Module
