import SourceAtlas.Proofs.VisitTrace
import SourceAtlas.Tree.Table

/-!
The loop against the recursion. The loop makes the visits of the recursion in the same order, with
the same arguments and the same answers, and needs one turn for each of them. Nodes may come from a
table in which several rows name the same child.
-/

namespace SourceAtlas.Tree

variable {State : Type}

/-- The loop on a stack that grows at its end. Children are pushed last to first, so the first one
is popped next. A budget of turns that runs out before the stack does gives nothing. -/
def stackRun (visit : Visit State) : Nat → State → List (Node × Nat) → Option State
  | 0, state, stack => if stack.isEmpty then some state else none
  | budget + 1, state, stack =>
    match stack.getLast? with
    | none => some state
    | some (node, depth) =>
      match visit state node depth with
      | (.descend, next) =>
        stackRun visit budget next (stack.dropLast ++ node.children.reverse.map (·, depth))
      | (.enter, next) =>
        stackRun visit budget next (stack.dropLast ++ node.children.reverse.map (·, depth + 1))
      | (.skip, next) => stackRun visit budget next stack.dropLast

theorem expect_cons (node : Node) (others : List Node) (depth : Nat) (rest : Pending) :
    expect (node :: others) depth rest = (node, depth) :: expect others depth rest :=
  rfl

-- The end of the stack is the front of what is pending, so one list is the other reversed.
theorem stack_run_pop (visit : Visit State) (budget : Nat) (state : State) (node : Node)
    (depth : Nat) (rest : Pending) :
    stackRun visit (budget + 1) state ((node, depth) :: rest).reverse =
      if (visit state node depth).1 = .skip then
        stackRun visit budget (visit state node depth).2 rest.reverse
      else
        stackRun visit budget (visit state node depth).2
          (expect node.children ((visit state node depth).1.childDepth depth) rest).reverse := by
  rw [stackRun]
  simp only [List.reverse_cons, List.getLast?_concat, List.dropLast_concat]
  rcases visit state node depth with ⟨step, next⟩
  cases step <;> simp [expect, Step.childDepth]

theorem stack_run_all (visit : Visit State) (depth index : Nat) (nodes : List Node)
    (turns : ∀ node ∈ nodes, ∀ budget state rest,
      stackRun visit ((trace visit state depth node).length + budget) state
          ((node, depth) :: rest).reverse =
        stackRun visit budget (recurse visit state depth node) rest.reverse)
    (budget : Nat) (state : State) (rest : Pending) :
    stackRun visit ((traceAll visit state depth index nodes).length + budget) state
        (expect nodes depth rest).reverse =
      stackRun visit budget (recurseAll visit state depth nodes) rest.reverse := by
  induction nodes generalizing index state with
  | nil => simp [traceAll, recurseAll, expect]
  | cons node others ih =>
      have tail := ih (index + 1)
        (fun later member => turns later (List.mem_cons_of_mem node member))
        (recurse visit state depth node)
      rw [traceAll, List.length_append, List.length_map, Nat.add_assoc, expect_cons,
        turns node List.mem_cons_self, tail, recurseAll]

/-- Popping a node leads, after one turn for each visit below it, to the stack without it. -/
theorem stack_run_node (visit : Visit State) (depth : Nat) (node : Node) (budget : Nat)
    (state : State) (rest : Pending) :
    stackRun visit ((trace visit state depth node).length + budget) state
        ((node, depth) :: rest).reverse =
      stackRun visit budget (recurse visit state depth node) rest.reverse := by
  induction node using Node.child_induction generalizing depth budget state rest with
  | step node ih =>
      have turn : (trace visit state depth node).length + budget =
          ((traceBelow visit state depth node).length + budget) + 1 := by
        rw [trace_eq, List.length_cons]
        omega
      rw [turn, stack_run_pop, recurse_below]
      by_cases skipped : (visit state node depth).1 = .skip
      · simp [skipped, traceBelow]
      · have inner := stack_run_all visit ((visit state node depth).1.childDepth depth) 0
          node.children (fun child member => ih child member _) budget
          (visit state node depth).2 rest
        simpa only [skipped, ↓reduceIte, below_kept visit state depth node skipped] using inner

theorem stack_run_short_all (visit : Visit State) (depth index : Nat) (nodes : List Node)
    (short : ∀ node ∈ nodes, ∀ budget state rest,
      budget < (trace visit state depth node).length →
        stackRun visit budget state ((node, depth) :: rest).reverse = none)
    (budget : Nat) (state : State) (rest : Pending)
    (less : budget < (traceAll visit state depth index nodes).length) :
    stackRun visit budget state (expect nodes depth rest).reverse = none := by
  induction nodes generalizing index state budget with
  | nil => simp [traceAll] at less
  | cons node others ih =>
      rw [expect_cons]
      by_cases inFirst : budget < (trace visit state depth node).length
      · exact short node List.mem_cons_self budget state _ inFirst
      · obtain ⟨left, split⟩ := Nat.exists_eq_add_of_le (Nat.le_of_not_lt inFirst)
        subst split
        rw [stack_run_node]
        apply ih (index + 1) (fun later member => short later (List.mem_cons_of_mem node member))
        simp only [traceAll, List.length_append, List.length_map] at less
        omega

theorem stack_run_short (visit : Visit State) (depth : Nat) (node : Node) (budget : Nat)
    (state : State) (rest : Pending) (less : budget < (trace visit state depth node).length) :
    stackRun visit budget state ((node, depth) :: rest).reverse = none := by
  induction node using Node.child_induction generalizing depth budget state rest with
  | step node ih =>
      cases budget with
      | zero => simp [stackRun]
      | succ budget =>
          rw [trace_eq, List.length_cons] at less
          by_cases skipped : (visit state node depth).1 = .skip
          · simp [traceBelow, skipped] at less
          · rw [below_kept visit state depth node skipped] at less
            rw [stack_run_pop]
            simp only [skipped, ↓reduceIte]
            exact stack_run_short_all visit _ 0 node.children
              (fun child member budget state rest => ih child member _ budget state rest)
              budget _ rest (by omega)

theorem stack_run_exact (visit : Visit State) (state : State) (root : Node) (budget : Nat) :
    stackRun visit budget state [(root, 0)] =
      if (trace visit state 0 root).length ≤ budget then some (recurse visit state 0 root)
      else none := by
  have single : [(root, 0)] = ((root, 0) :: ([] : Pending)).reverse := rfl
  by_cases enough : (trace visit state 0 root).length ≤ budget
  · obtain ⟨left, split⟩ := Nat.exists_eq_add_of_le enough
    subst split
    rw [single, stack_run_node]
    cases left <;> simp [stackRun]
  · rw [single, stack_run_short visit 0 root budget state [] (Nat.lt_of_not_le enough)]
    simp [enough]

namespace Table

def node? (rows : List Row) (id : Nat) : Option Node :=
  (nodes 0 rows)[id]?

/-- Every row names as children only later rows of the table. -/
def Sound (rows : List Row) : Prop :=
  ∀ (id : Nat) (row : Row), rows[id]? = some row →
    ∀ child ∈ row.children, mayName rows.length id child = true

/-- `node` is the tree of row `id`: a child is the tree of the row it names, wherever else that row
may be named. -/
structure Unfolds (rows : List Row) (id : Nat) (row : Row) (node : Node) : Prop where
  mark : node.mark = id
  kind : node.kind = row.kind
  text : node.text = row.text
  position : node.position = row.position
  fields : node.fields = row.fields.filterMap fun entry =>
    (if id < entry.2 then node? rows entry.2 else none).map (entry.1, ·)
  children : node.children.map some = row.children.map (node? rows)

theorem nodes_length (first : Nat) (rows : List Row) : (nodes first rows).length = rows.length := by
  induction rows generalizing first with
  | nil => rfl
  | cons row rest ih => simp [nodes, ih]

/-- The node that row `id` means by `target`, in a table whose first row has number `first`. -/
def named? (first : Nat) (rows : List Row) (id target : Nat) : Option Node :=
  if id < target then (nodes first rows)[target - first]? else none

-- Rows name only later rows, so the row in front of a table is never looked up.
theorem named_tail (first : Nat) (head : Row) (rest : List Row) (id : Nat) (later : first ≤ id) :
    named? first (head :: rest) id = fun target =>
      if id < target then (nodes (first + 1) rest)[target - (first + 1)]? else none := by
  funext target
  by_cases named : id < target
  · have split : target - first = (target - (first + 1)) + 1 := by omega
    simp only [named?, named, ↓reduceIte]
    rw [split, nodes, List.getElem?_cons_succ]
  · simp [named?, named]

theorem nodes_get (first : Nat) (rows : List Row) (offset : Nat) (row : Row)
    (found : rows[offset]? = some row) :
    (nodes first rows)[offset]? = some
      { mark := first + offset, kind := row.kind, text := row.text, position := row.position
        fields := row.fields.filterMap fun entry =>
          (named? first rows (first + offset) entry.2).map (entry.1, ·)
        children := row.children.filterMap (named? first rows (first + offset)) } := by
  induction rows generalizing first offset with
  | nil => simp at found
  | cons head rest ih =>
      rw [named_tail first head rest (first + offset) (by omega)]
      cases offset with
      | zero =>
          have same : head = row := by simpa using found
          subst same
          rw [nodes, List.getElem?_cons_zero]
          rfl
      | succ offset =>
          have inner := ih (first + 1) offset (by simpa using found)
          have order : first + 1 + offset = first + (offset + 1) := by omega
          rw [nodes, List.getElem?_cons_succ, inner, order]
          rfl

theorem filter_map_total {Item Target : Type} (pick : Item → Option Target) (items : List Item)
    (total : ∀ item ∈ items, (pick item).isSome) :
    (items.filterMap pick).map some = items.map pick := by
  induction items with
  | nil => rfl
  | cons item rest ih =>
      obtain ⟨target, picked⟩ := Option.isSome_iff_exists.mp (total item List.mem_cons_self)
      have tail := ih (fun later member => total later (List.mem_cons_of_mem item member))
      simp [picked, tail]

theorem sound_unfolds (rows : List Row) (sound : Sound rows) (id : Nat) (row : Row)
    (found : rows[id]? = some row) :
    ∃ node, node? rows id = some node ∧ Unfolds rows id row node := by
  have entry := nodes_get 0 rows id row found
  rw [Nat.zero_add] at entry
  refine ⟨_, entry, rfl, rfl, rfl, rfl, rfl, ?_⟩
  have later : ∀ child ∈ row.children, id < child ∧ child < rows.length := by
    intro child member
    simpa [mayName] using sound id row found child member
  rw [filter_map_total]
  · apply List.map_congr_left
    intro child member
    simp [named?, later child member, node?]
  · intro child member
    have bound : child < (nodes 0 rows).length := by
      rw [nodes_length]
      exact (later child member).2
    simp [named?, later child member, bound]

end Table

/-- What makes the loop the recursion, for one visitor, one starting state and one tree. -/
structure Refines (visit : Visit State) (state : State) (root : Node) : Prop where
  final : walk visit state root = recurse visit state 0 root
  visits : walk (logged visit) (state, []) root =
    (recurse visit state 0 root, (trace visit state 0 root).map Call.seen)
  halts : ∀ budget, stackRun visit budget state [(root, 0)] =
    if (trace visit state 0 root).length ≤ budget then some (walk visit state root) else none
  located : ∀ call ∈ trace visit state 0 root, root.at? call.path = some call.node
  once : ((trace visit state 0 root).map Call.path).Nodup
  depth : ∀ call ∈ trace visit state 0 root,
    call.depth = enteredAbove (trace visit state 0 root) call.path
  ancestors : ∀ call ∈ trace visit state 0 root, ∀ path, path <+: call.path → path ≠ call.path →
    ∃ upper ∈ trace visit state 0 root, upper.path = path ∧ upper.step ≠ .skip

theorem loop_refines (visit : Visit State) (state : State) (root : Node) :
    Refines visit state root where
  final := walk_exact visit state root
  visits := by
    rw [walk_exact, logged_exact, List.nil_append]
  halts budget := by
    rw [stack_run_exact, walk_exact]
  located := trace_located visit state 0 root
  once := trace_nodup visit state 0 root
  depth call member := by
    rw [trace_depth visit state 0 root call member, Nat.zero_add]
  ancestors call member path reaches proper := by
    have higher := (above_iff path call.path).mpr ⟨reaches, proper⟩
    obtain ⟨upper, upperMember, samePath⟩ :=
      trace_ancestors visit state 0 root call member path higher
    subst samePath
    refine ⟨upper, upperMember, rfl, ?_⟩
    exact trace_pruned visit state 0 root upper call upperMember member higher

theorem walk_refines_recursion (visit : Visit State) (state : State) :
    (∀ root, Refines visit state root) ∧
      ∀ rows : List Row, rows ≠ [] → Table.Sound rows →
        (∃ root, Table.root? rows = some root ∧ Table.node? rows 0 = some root ∧
          Refines visit state root) ∧
        ∀ (id : Nat) (row : Row), rows[id]? = some row →
          ∃ node, Table.node? rows id = some node ∧ Table.Unfolds rows id row node := by
  refine ⟨loop_refines visit state, ?_⟩
  intro rows nonempty sound
  refine ⟨?_, Table.sound_unfolds rows sound⟩
  obtain ⟨row, rest, split⟩ := List.exists_cons_of_ne_nil nonempty
  obtain ⟨root, found, _⟩ := Table.sound_unfolds rows sound 0 row (by rw [split]; rfl)
  refine ⟨root, ?_, found, loop_refines visit state root⟩
  rw [Table.root?, List.head?_eq_getElem?]
  exact found

/-- A root whose last child is also the only child of its first one. -/
def sharedRows : List Row :=
  [⟨.classDecl, "", .start, [], [1, 2]⟩, ⟨.other, "", .start, [], [2]⟩,
    ⟨.functionDecl, "", .start, [], []⟩]

theorem walk_refines_recursion_shared :
    Table.Sound sharedRows ∧ ∃ root, Table.root? sharedRows = some root ∧
      Refines (fun (count : Nat) _ _ => (.enter, count + 1)) 0 root := by
  have sound : Table.Sound sharedRows := by
    intro id row found child member
    match id with
    | 0 | 1 | 2 =>
        simp only [sharedRows, List.getElem?_cons_zero, List.getElem?_cons_succ,
          Option.some.injEq] at found
        subst found
        revert child
        decide
    | _ + 3 => simp [sharedRows] at found
  obtain ⟨root, found, _, refined⟩ :=
    ((walk_refines_recursion (fun (count : Nat) _ _ => (.enter, count + 1)) 0).2 sharedRows
      (by decide) sound).1
  exact ⟨sound, root, found, refined⟩

end SourceAtlas.Tree
