import Mathlib.Data.List.Nodup
import SourceAtlas.Proofs.Recursion

/-!
The visits that a traversal makes. `trace` lists them for the recursion, each with the path of its
node below the root, so that two visits of one shared node stay apart. The depth of a visit counts
the visits above it that entered, and a skip leaves nothing below it.
-/

namespace SourceAtlas.Tree

variable {State : Type}

/-- One visit: the child numbers that lead to its node, what the visitor was given, and what it
asked for. -/
structure Call (State : Type) where
  path : List Nat
  before : State
  node : Node
  depth : Nat
  step : Step

namespace Call

def under (index : Nat) (call : Call State) : Call State :=
  { call with path := index :: call.path }

/-- What an observer of the visitor sees of a visit, who does not know the path. -/
def seen (call : Call State) : State × Node × Nat × Step :=
  (call.before, call.node, call.depth, call.step)

end Call

mutual

def trace (visit : Visit State) (state : State) (depth : Nat) : Node → List (Call State)
  | node@⟨_, _, _, _, _, children⟩ =>
    match visit state node depth with
    | (.descend, next) =>
      ⟨[], state, node, depth, .descend⟩ :: traceAll visit next depth 0 children
    | (.enter, next) =>
      ⟨[], state, node, depth, .enter⟩ :: traceAll visit next (depth + 1) 0 children
    | (.skip, _) => [⟨[], state, node, depth, .skip⟩]

def traceAll (visit : Visit State) (state : State) (depth index : Nat) :
    List Node → List (Call State)
  | [] => []
  | node :: rest =>
    (trace visit state depth node).map (Call.under index) ++
      traceAll visit (recurse visit state depth node) depth (index + 1) rest

end

def Step.childDepth (step : Step) (depth : Nat) : Nat :=
  if step = .enter then depth + 1 else depth

/-- What a visit leads to below its node. -/
def traceBelow (visit : Visit State) (state : State) (depth : Nat) (node : Node) :
    List (Call State) :=
  let (step, next) := visit state node depth
  if step = .skip then [] else traceAll visit next (step.childDepth depth) 0 node.children

theorem trace_eq (visit : Visit State) (state : State) (depth : Nat) (node : Node) :
    trace visit state depth node =
      ⟨[], state, node, depth, (visit state node depth).1⟩ ::
        traceBelow visit state depth node := by
  cases node with
  | mk mark kind text position fields children =>
      rw [trace]
      simp only [traceBelow]
      rcases visit state ⟨mark, kind, text, position, fields, children⟩ depth with ⟨step, next⟩
      cases step <;> simp [Step.childDepth]

theorem recurse_below (visit : Visit State) (state : State) (depth : Nat) (node : Node) :
    recurse visit state depth node =
      let (step, next) := visit state node depth
      if step = .skip then next
      else recurseAll visit next (step.childDepth depth) node.children := by
  rw [recurse_eq]
  rcases visit state node depth with ⟨step, next⟩
  cases step <;> simp [Step.childDepth]

/-- A visitor that behaves as `visit` does and writes down every visit. -/
def logged (visit : Visit State) : Visit (State × List (State × Node × Nat × Step)) :=
  fun (state, log) node depth =>
    let (step, next) := visit state node depth
    (step, next, log ++ [(state, node, depth, step)])

theorem logged_all (visit : Visit State) (depth index : Nat) (nodes : List Node)
    (exact : ∀ node ∈ nodes, ∀ state log, recurse (logged visit) (state, log) depth node =
      (recurse visit state depth node, log ++ (trace visit state depth node).map Call.seen))
    (state : State) (log : List (State × Node × Nat × Step)) :
    recurseAll (logged visit) (state, log) depth nodes =
      (recurseAll visit state depth nodes,
        log ++ (traceAll visit state depth index nodes).map Call.seen) := by
  induction nodes generalizing index state log with
  | nil => simp [recurseAll, traceAll]
  | cons node rest ih =>
      have first := exact node List.mem_cons_self state log
      have others := ih (index + 1)
        (fun later member => exact later (List.mem_cons_of_mem node member))
      have unseen : (Call.seen ∘ Call.under index : Call State → _) = Call.seen := rfl
      simp only [recurseAll, traceAll, first, others, List.map_append, List.map_map, unseen,
        List.append_assoc]

theorem logged_exact (visit : Visit State) (state : State) (depth : Nat) (node : Node)
    (log : List (State × Node × Nat × Step)) :
    recurse (logged visit) (state, log) depth node =
      (recurse visit state depth node, log ++ (trace visit state depth node).map Call.seen) := by
  induction node using Node.child_induction generalizing state depth log with
  | step node ih =>
      have inner := fun depth => logged_all visit depth 0 node.children
        (fun child member state log => ih child member state depth log)
      rw [recurse_below, recurse_below, trace_eq]
      simp only [logged, traceBelow]
      by_cases skipped : (visit state node depth).1 = .skip
      · simp [skipped, Call.seen]
      · simp [skipped, inner, Call.seen]

/-! Paths. A visit below a node carries the number of the child it lies in, so no visit in one
child is above a visit in another. -/

/-- Whether one path leads to a proper ancestor of where the other leads. -/
def above : List Nat → List Nat → Bool
  | _, [] => false
  | [], _ :: _ => true
  | first :: path, second :: target => first == second && above path target

theorem above_iff (path target : List Nat) :
    above path target = true ↔ path <+: target ∧ path ≠ target := by
  induction path generalizing target with
  | nil => cases target <;> simp [above]
  | cons first path ih =>
      cases target with
      | nil => simp [above]
      | cons second target =>
          by_cases same : first = second
          · simp [above, same, ih, List.cons_prefix_cons]
          · simp [above, same, List.cons_prefix_cons]

theorem above_nil (path : List Nat) : above path [] = false := by
  cases path <;> rfl

def Node.at? : List Nat → Node → Option Node
  | [], node => some node
  | index :: path, node => node.children[index]?.bind (at? path)

theorem trace_all_member (visit : Visit State) (depth index : Nat) (nodes : List Node)
    (state : State) (call : Call State)
    (member : call ∈ traceAll visit state depth index nodes) :
    ∃ offset child entry inner, nodes[offset]? = some child ∧
      inner ∈ trace visit entry depth child ∧ call = inner.under (index + offset) ∧
      entry = recurseAll visit state depth (nodes.take offset) := by
  induction nodes generalizing index state with
  | nil => simp [traceAll] at member
  | cons node rest ih =>
      rw [traceAll] at member
      rcases List.mem_append.mp member with first | later
      · obtain ⟨inner, innerMember, same⟩ := List.mem_map.mp first
        exact ⟨0, node, state, inner, rfl, innerMember, same.symm, by simp [recurseAll]⟩
      · obtain ⟨offset, child, entry, inner, found, innerMember, same, reached⟩ := ih _ _ later
        refine ⟨offset + 1, child, entry, inner, by simpa using found, innerMember, ?_, ?_⟩
        · rw [same]
          congr 1
          omega
        · simpa [recurseAll] using reached

theorem member_trace_all (visit : Visit State) (depth index : Nat) (nodes : List Node)
    (state : State) (offset : Nat) (child : Node) (found : nodes[offset]? = some child)
    (inner : Call State)
    (member : inner ∈
      trace visit (recurseAll visit state depth (nodes.take offset)) depth child) :
    inner.under (index + offset) ∈ traceAll visit state depth index nodes := by
  induction nodes generalizing index state offset with
  | nil => simp at found
  | cons node rest ih =>
      rw [traceAll, List.mem_append]
      cases offset with
      | zero =>
          have same : node = child := by simpa using found
          subst same
          exact Or.inl (List.mem_map.mpr ⟨inner, by simpa [recurseAll] using member, rfl⟩)
      | succ offset =>
          have later := ih (index + 1) (recurse visit state depth node) offset
            (by simpa using found) (by simpa [recurseAll] using member)
          have shifted : index + 1 + offset = index + (offset + 1) := by omega
          rw [shifted] at later
          exact Or.inr later

theorem below_member (visit : Visit State) (state : State) (depth : Nat) (node : Node)
    (call : Call State) (member : call ∈ traceBelow visit state depth node) :
    (visit state node depth).1 ≠ .skip ∧
      call ∈ traceAll visit (visit state node depth).2
        ((visit state node depth).1.childDepth depth) 0 node.children := by
  simp only [traceBelow] at member
  split at member
  · simp at member
  · rename_i kept
    exact ⟨kept, member⟩

theorem below_kept (visit : Visit State) (state : State) (depth : Nat) (node : Node)
    (kept : (visit state node depth).1 ≠ .skip) :
    traceBelow visit state depth node =
      traceAll visit (visit state node depth).2
        ((visit state node depth).1.childDepth depth) 0 node.children := by
  simp [traceBelow, kept]

theorem trace_located (visit : Visit State) (state : State) (depth : Nat) (node : Node)
    (call : Call State) (member : call ∈ trace visit state depth node) :
    node.at? call.path = some call.node := by
  induction node using Node.child_induction generalizing state depth call with
  | step node ih =>
      rw [trace_eq] at member
      rcases List.mem_cons.mp member with same | below
      · subst same
        rfl
      · obtain ⟨_, inside⟩ := below_member visit state depth node call below
        obtain ⟨offset, child, entry, inner, found, innerMember, same, _⟩ :=
          trace_all_member visit _ 0 node.children _ call inside
        have reached := ih child (List.mem_of_getElem? found) entry _ inner innerMember
        subst same
        simpa [Call.under, Node.at?, found] using reached

/-- A skipped node has no visits below it. -/
theorem trace_pruned (visit : Visit State) (state : State) (depth : Nat) (node : Node)
    (upper call : Call State) (upperMember : upper ∈ trace visit state depth node)
    (member : call ∈ trace visit state depth node)
    (higher : above upper.path call.path = true) : upper.step ≠ .skip := by
  induction node using Node.child_induction generalizing state depth upper call with
  | step node ih =>
      rw [trace_eq] at upperMember member
      rcases List.mem_cons.mp member with same | below
      · subst same
        simp [above_nil] at higher
      · obtain ⟨kept, inside⟩ := below_member visit state depth node call below
        rcases List.mem_cons.mp upperMember with same | upperBelow
        · subst same
          exact kept
        · have upperInside := (below_member visit state depth node upper upperBelow).2
          obtain ⟨offset, child, entry, inner, found, innerMember, same, reached⟩ :=
            trace_all_member visit _ 0 node.children _ call inside
          obtain ⟨upperOffset, upperChild, upperEntry, upperInner, upperFound, upperInnerMember,
            upperSame, upperReached⟩ := trace_all_member visit _ 0 node.children _ upper upperInside
          subst same upperSame reached upperReached
          simp only [Call.under, above, Bool.and_eq_true, beq_iff_eq, Nat.zero_add] at higher
          obtain ⟨sameOffset, innerHigher⟩ := higher
          subst sameOffset
          have sameChild : upperChild = child := by
            rw [found] at upperFound
            exact (Option.some.inj upperFound).symm
          subst sameChild
          exact ih upperChild (List.mem_of_getElem? found) _ _ upperInner inner upperInnerMember
            innerMember innerHigher

theorem trace_ancestors (visit : Visit State) (state : State) (depth : Nat) (node : Node)
    (call : Call State) (member : call ∈ trace visit state depth node) (path : List Nat)
    (higher : above path call.path = true) :
    ∃ upper ∈ trace visit state depth node, upper.path = path := by
  induction node using Node.child_induction generalizing state depth call path with
  | step node ih =>
      rw [trace_eq] at member ⊢
      rcases List.mem_cons.mp member with same | below
      · subst same
        simp [above_nil] at higher
      · obtain ⟨kept, inside⟩ := below_member visit state depth node call below
        cases path with
        | nil => exact ⟨_, List.mem_cons_self, rfl⟩
        | cons index path =>
            obtain ⟨offset, child, entry, inner, found, innerMember, same, reached⟩ :=
              trace_all_member visit _ 0 node.children _ call inside
            subst same reached
            simp only [Call.under, above, Bool.and_eq_true, beq_iff_eq, Nat.zero_add] at higher
            obtain ⟨sameOffset, innerHigher⟩ := higher
            subst sameOffset
            obtain ⟨upper, upperMember, samePath⟩ :=
              ih child (List.mem_of_getElem? found) _ _ inner innerMember path innerHigher
            have lifted := member_trace_all visit _ 0 node.children _ index child found upper
              upperMember
            refine ⟨upper.under (0 + index), ?_, by simp [Call.under, samePath]⟩
            rw [below_kept visit state depth node kept]
            exact List.mem_cons_of_mem _ lifted

def enteredAbove (calls : List (Call State)) (path : List Nat) : Nat :=
  calls.countP fun call => call.step == .enter && above call.path path

theorem entered_above_root (calls : List (Call State)) : enteredAbove calls [] = 0 := by
  simp [enteredAbove, above_nil]

theorem entered_above_append (left right : List (Call State)) (path : List Nat) :
    enteredAbove (left ++ right) path = enteredAbove left path + enteredAbove right path :=
  List.countP_append

theorem entered_above_same (index : Nat) (calls : List (Call State)) (path : List Nat) :
    enteredAbove (calls.map (Call.under index)) (index :: path) = enteredAbove calls path := by
  simp [enteredAbove, List.countP_map, Function.comp_def, Call.under, above]

theorem entered_above_other (index target : Nat) (calls : List (Call State)) (path : List Nat)
    (different : index ≠ target) :
    enteredAbove (calls.map (Call.under index)) (target :: path) = 0 := by
  simp [enteredAbove, List.countP_map, Function.comp_def, Call.under, above, different]

theorem entered_above_earlier (visit : Visit State) (depth index : Nat) (nodes : List Node)
    (state : State) (target : Nat) (path : List Nat) (earlier : target < index) :
    enteredAbove (traceAll visit state depth index nodes) (target :: path) = 0 := by
  induction nodes generalizing index state with
  | nil => simp [traceAll, enteredAbove]
  | cons node rest ih =>
      have first := entered_above_other index target (trace visit state depth node) path (by omega)
      have others := ih (index + 1) (recurse visit state depth node) (by omega)
      rw [traceAll, entered_above_append, first, others]

theorem entered_above_all (visit : Visit State) (depth index : Nat) (nodes : List Node)
    (state : State) (offset : Nat) (child : Node) (found : nodes[offset]? = some child)
    (path : List Nat) :
    enteredAbove (traceAll visit state depth index nodes) ((index + offset) :: path) =
      enteredAbove (trace visit (recurseAll visit state depth (nodes.take offset)) depth child)
        path := by
  induction nodes generalizing index state offset with
  | nil => simp at found
  | cons node rest ih =>
      rw [traceAll, entered_above_append]
      cases offset with
      | zero =>
          have same : node = child := by simpa using found
          subst same
          have others := entered_above_earlier visit depth (index + 1) rest
            (recurse visit state depth node) index path (by omega)
          simp [entered_above_same, others, recurseAll]
      | succ offset =>
          have first := entered_above_other index (index + (offset + 1))
            (trace visit state depth node) path (by omega)
          have others := ih (index + 1) (recurse visit state depth node) offset
            (by simpa using found)
          have shifted : index + 1 + offset = index + (offset + 1) := by omega
          rw [shifted] at others
          rw [first, others, Nat.zero_add, List.take_succ_cons, recurseAll]

theorem trace_depth (visit : Visit State) (state : State) (depth : Nat) (node : Node)
    (call : Call State) (member : call ∈ trace visit state depth node) :
    call.depth = depth + enteredAbove (trace visit state depth node) call.path := by
  induction node using Node.child_induction generalizing state depth call with
  | step node ih =>
      rw [trace_eq] at member ⊢
      rcases List.mem_cons.mp member with same | below
      · subst same
        rw [entered_above_root, Nat.add_zero]
      · obtain ⟨kept, inside⟩ := below_member visit state depth node call below
        obtain ⟨offset, child, entry, inner, found, innerMember, same, reached⟩ :=
          trace_all_member visit _ 0 node.children _ call inside
        subst same reached
        have innerDepth := ih child (List.mem_of_getElem? found) _ _ inner innerMember
        have inChild := entered_above_all visit ((visit state node depth).1.childDepth depth) 0
          node.children (visit state node depth).2 offset child found inner.path
        -- The node itself counts for everything below it when its visit entered.
        have ownStep : (visit state node depth).1.childDepth depth =
            depth + if (visit state node depth).1 = .enter then 1 else 0 := by
          simp only [Step.childDepth]
          split <;> omega
        rw [below_kept visit state depth node kept]
        simp only [enteredAbove, Call.under, List.countP_cons, above] at inChild ⊢
        simp only [inChild, Bool.and_true, beq_iff_eq]
        rw [innerDepth, ownStep, enteredAbove]
        omega

theorem trace_all_nodup (visit : Visit State) (depth index : Nat) (nodes : List Node)
    (state : State)
    (unique : ∀ node ∈ nodes, ∀ state, ((trace visit state depth node).map Call.path).Nodup) :
    ((traceAll visit state depth index nodes).map Call.path).Nodup := by
  induction nodes generalizing index state with
  | nil => simp [traceAll]
  | cons node rest ih =>
      have first := unique node List.mem_cons_self state
      have others := ih (index + 1) (recurse visit state depth node)
        (fun later member => unique later (List.mem_cons_of_mem node member))
      rw [traceAll, List.map_append, List.map_map]
      have paths : (Call.path ∘ Call.under index : Call State → _) = (index :: ·) ∘ Call.path := rfl
      rw [paths, ← List.map_map]
      refine (first.map (List.cons_injective)).append others ?_
      intro path inFirst inOthers
      obtain ⟨inner, _, same⟩ := List.mem_map.mp inFirst
      obtain ⟨call, member, samePath⟩ := List.mem_map.mp inOthers
      obtain ⟨offset, _, _, _, _, _, under, _⟩ :=
        trace_all_member visit depth (index + 1) rest _ call member
      subst under same
      simp only [Call.under, List.cons.injEq] at samePath
      omega

theorem trace_nodup (visit : Visit State) (state : State) (depth : Nat) (node : Node) :
    ((trace visit state depth node).map Call.path).Nodup := by
  induction node using Node.child_induction generalizing state depth with
  | step node ih =>
      rw [trace_eq, List.map_cons, List.nodup_cons]
      constructor
      · intro atRoot
        obtain ⟨call, below, samePath⟩ := List.mem_map.mp atRoot
        have inside := (below_member visit state depth node call below).2
        obtain ⟨_, _, _, _, _, _, same, _⟩ := trace_all_member visit _ 0 node.children _ call inside
        subst same
        simp [Call.under] at samePath
      · by_cases skipped : (visit state node depth).1 = .skip
        · simp [traceBelow, skipped]
        · rw [below_kept visit state depth node skipped]
          apply trace_all_nodup
          intro child member state
          exact ih child member state _

end SourceAtlas.Tree
