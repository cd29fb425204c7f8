import Mathlib.Data.List.GetD
import Mathlib.Data.List.Nodup
import Mathlib.Logic.Function.Basic
import BobaOS.Library.ByteStore
import BobaOS.Library.LinkedLists
import BobaOS.Library.Programs
import BobaOS.Vfsl.PathTracer

/-!
# The nodes of a path tracer

`pathTracer.c` once more, with the parts as nodes of the kernel heap that are
linked both ways. A node is named by the number of the heap request it answers,
and a pointer to a node that has been freed may not be followed. The struct of
the tracer itself is a value: nothing else points to it.

The program is shown to refine the one that collects the parts in a list, on
every heap. What the list says then holds of the nodes.
-/

namespace BobaOS.Vfsl

open ByteStore Programs LinkedLists

/-- What ends a call without a return. -/
inductive NodeFault where
  | invalidPointer
  | outOfBounds
  | endless
deriving DecidableEq

/-- `struct pathTracerPart`; a fresh one has no type yet. -/
structure PathNode where
  pathPart : CString
  type : Option PartType
  prev : Option Nat
  next : Option Nat
deriving DecidableEq

/-- The nodes in use and the number of heap requests made. -/
structure NodeHeap where
  node : Nat → Option PathNode
  requests : Nat

/-- `struct pathTracer`. -/
structure NodeTracer where
  label : UInt8
  root : Option Nat
deriving DecidableEq

abbrev NodeM := Program NodeHeap NodeFault

/-- `kzalloc` of a part: a zeroed node, or NULL. -/
def kzallocPart (kzalloc : Nat → Bool) : NodeM (Option Nat) := do
  let heap ← get
  if kzalloc heap.requests then
    set (⟨Function.update heap.node heap.requests (some ⟨[], none, none, none⟩),
      heap.requests + 1⟩ : NodeHeap)
    return some heap.requests
  else
    set { heap with requests := heap.requests + 1 }
    return none

/-- `kzalloc` of the tracer. -/
def kzallocTracer (kzalloc : Nat → Bool) : NodeM Bool := do
  let heap ← get
  set { heap with requests := heap.requests + 1 }
  return kzalloc heap.requests

def loadPart (part : Nat) : NodeM PathNode := do
  match (← get).node part with
  | some node => return node
  | none => throw .invalidPointer

def storePart (part : Nat) (change : PathNode → PathNode) : NodeM Unit := do
  let node ← loadPart part
  modify fun heap => { heap with node := Function.update heap.node part (some (change node)) }

/-- `kzfree` of a part. -/
def kzfreePart (part : Nat) : NodeM Unit := do
  let _ ← loadPart part
  modify fun heap => { heap with node := Function.update heap.node part none }

/-- The loop of `destroyPathTracer`. -/
def destroyParts : Nat → Option Nat → NodeM Unit
  | _, none => return
  | 0, some _ => throw .endless
  | fuel + 1, some part => do
    let node ← loadPart part
    kzfreePart part
    destroyParts fuel node.next

def destroyPathTracer (tracer : NodeTracer) : NodeM Unit := do
  destroyParts ((← get).requests + 1) tracer.root

/-- The loop of `createPathTracer`, at a part and with the characters collected for
it. It returns the last part and the characters left for it. -/
def collectNodes (kzalloc : Nat → Bool) (tracer : NodeTracer) (part : Nat) (pathPart : CString) :
    CString → NodeM (Except Code (Nat × CString))
  | [] => return .ok (part, pathPart)
  | char :: rest => do
    if pathPart.length = BOBAOS_MAX_PATH_SIZE - 1 ∨ char = SLASH then
      if pathPart.length = 0 then
        destroyPathTracer tracer
        return .error (-EFORMAT)
      storePart part fun node => { node with pathPart := pathPart }
      match ← kzallocPart kzalloc with
      | none =>
        destroyPathTracer tracer
        return .error (-ENMEM)
      | some tempPath =>
        storePart part fun node => { node with type := some .DIRECTORY, next := some tempPath }
        storePart tempPath fun node => { node with prev := some part }
        collectNodes kzalloc tracer tempPath [] rest
    else collectNodes kzalloc tracer part (pathPart ++ [char]) rest

/-- What is done with the last part: it is dropped when nothing is left for it. -/
def finishNodes (part : Nat) (pathPart : CString) : NodeM Unit := do
  if pathPart.length = 0 then
    match (← loadPart part).prev with
    | none => kzfreePart part
    | some before => do
      storePart before fun node => { node with next := none }
      kzfreePart part
  else storePart part fun node => { node with pathPart := pathPart, type := some .FILE }

/-- `createPathTracer`: the tracer, or the error code with which NULL is returned. -/
def createNodeTracer (volumes : UInt8 → Bool) (kzalloc : Nat → Bool) (path : Option CString) :
    NodeM (Except Code NodeTracer) := do
  match path with
  | none => return .error (-EIARG)
  | some path =>
    if checkVolumeLabel (path.getD 0 0) = false then return .error (-EFORMAT)
    if BOBAOS_MAX_PATH_SIZE ≤ path.length then return .error (-ELONG)
    if path.getD 1 0 ≠ COLON ∨ path.getD 2 0 ≠ SLASH then return .error (-EFORMAT)
    if volumes (path.getD 0 0) = false then return .error (-ENFOUND)
    if ← kzallocTracer kzalloc then
      match ← kzallocPart kzalloc with
      | none => return .error (-ENMEM)
      | some part =>
        let tracer : NodeTracer := ⟨path.getD 0 0, some part⟩
        match ← collectNodes kzalloc tracer part [] (path.drop 3) with
        | .error code => return .error code
        | .ok (last, pathPart) =>
          finishNodes last pathPart
          return .ok tracer
    else return .error (-ENMEM)

/-- The loop of `pathTracerGetPathString` over the parts. The buffer is that of
the string, `counter` the place in it. -/
def copyParts : Nat → Option Nat → (Nat → UInt8) → Nat → NodeM (Nat → UInt8)
  | _, none, ret, _ => return ret
  | 0, some _, _, _ => throw .endless
  | fuel + 1, some part, ret, counter => do
    let node ← loadPart part
    let length := node.pathPart.length
    if BOBAOS_MAX_PATH_SIZE < counter + length then throw .outOfBounds
    let ret := overwrite ret counter length fun i => node.pathPart.getD i 0
    if node.type = some .DIRECTORY then
      if BOBAOS_MAX_PATH_SIZE ≤ counter + length then throw .outOfBounds
      copyParts fuel node.next
        (Function.update ret (counter + length) (ret (counter + length) + SLASH))
        (counter + length + 1)
    else copyParts fuel node.next ret (counter + length + 1)

/-- The bytes before the first NUL. -/
def cString (bytes : Nat → UInt8) (capacity : Nat) : CString :=
  ((List.range capacity).map bytes).takeWhile (· ≠ 0)

/-- `pathTracerGetPathString`; NULL without room for the string. -/
def getNodePathString (kzalloc : Nat → Bool) (tracer : NodeTracer) : NodeM (Option CString) := do
  let heap ← get
  set { heap with requests := heap.requests + 1 }
  if kzalloc heap.requests then
    let ret := overwrite (fun _ => 0) 0 3 fun i => [tracer.label, COLON, SLASH].getD i 0
    let ret ← copyParts (heap.requests + 1) tracer.root ret 3
    return some (cString ret BOBAOS_MAX_PATH_SIZE)
  else return none

/-- The loop of `pathTracerGetFileName`. -/
def findFilePart : Nat → Option Nat → NodeM (Option CString)
  | _, none => return none
  | 0, some _ => throw .endless
  | fuel + 1, some part => do
    let node ← loadPart part
    if node.type = some .FILE then return some node.pathPart
    findFilePart fuel node.next

def getNodeFileName (tracer : NodeTracer) : NodeM (Option CString) := do
  findFilePart ((← get).requests + 1) tracer.root

/-! ## Lists of nodes -/

section Lists

/-- The links of the nodes in use. -/
def NodeHeap.next (heap : NodeHeap) (part : Nat) : Option Nat := (heap.node part).bind (·.next)
def NodeHeap.prev (heap : NodeHeap) (part : Nat) : Option Nat := (heap.node part).bind (·.prev)

/-- The part that a node in use has. -/
def NodeHeap.part (heap : NodeHeap) (cell : Nat) : Option PathTracerPart := do
  let node ← heap.node cell
  let type ← node.type
  return ⟨node.pathPart, type⟩

/-- The nodes from the root on are linked both ways and have the parts in order. -/
def Listed (heap : NodeHeap) (root : Option Nat) (parts : List PathTracerPart) : Prop :=
  ∃ cells : List Nat, root = cells.head? ∧ Segment heap.next heap.prev none cells none ∧
    cells.map heap.part = parts.map some ∧ cells.length ≤ heap.requests

/-- Outside some cells a heap has the nodes of an earlier one. What is new there has been
freed. -/
structure Owns (base heap : NodeHeap) (cells : List Nat) : Prop where
  new : ∀ cell ∈ cells, base.requests ≤ cell
  others : ∀ cell ∉ cells,
    heap.node cell = base.node cell ∨ base.requests ≤ cell ∧ heap.node cell = none

/-- The list while it is built: the nodes of the parts that are done, and a last one
that has no type yet. -/
structure Growing (heap : NodeHeap) (root : Nat) (cells : List Nat) (done : List PathTracerPart)
    (part : Nat) : Prop where
  starts : (cells ++ [part]).head? = some root
  linked : Segment heap.next heap.prev none (cells ++ [part]) none
  held : cells.map heap.part = done.map some
  current : ∃ node, heap.node part = some node ∧ node.type = none
  distinct : (cells ++ [part]).Nodup
  old : ∀ cell ∈ cells ++ [part], cell < heap.requests
  few : (cells ++ [part]).length ≤ heap.requests

variable {heap : NodeHeap} {kzalloc : Nat → Bool} {part : Nat} {node : PathNode}

theorem loadPart_meets (found : heap.node part = some node) {fault : NodeFault → Prop} :
    Meets (loadPart part) heap fault fun value after => value = node ∧ after = heap := by
  simp only [loadPart, meets_bind, meets_get, found]
  exact .pure ⟨rfl, rfl⟩

theorem storePart_meets (found : heap.node part = some node) (change : PathNode → PathNode)
    {fault : NodeFault → Prop} :
    Meets (storePart part change) heap fault fun _ after =>
      after.node = Function.update heap.node part (some (change node)) ∧
        after.requests = heap.requests := by
  rw [storePart]
  apply (loadPart_meets found).bind
  rintro _ _ ⟨rfl, rfl⟩
  rw [meets_modify]
  exact ⟨rfl, rfl⟩

theorem kzfreePart_meets (found : heap.node part = some node) {fault : NodeFault → Prop} :
    Meets (kzfreePart part) heap fault fun _ after =>
      after.node = Function.update heap.node part none ∧ after.requests = heap.requests := by
  rw [kzfreePart]
  apply (loadPart_meets found).bind
  rintro _ _ ⟨rfl, rfl⟩
  rw [meets_modify]
  exact ⟨rfl, rfl⟩

theorem kzallocPart_meets {fault : NodeFault → Prop} :
    Meets (kzallocPart kzalloc) heap fault fun value after =>
      after.requests = heap.requests + 1 ∧
      (kzalloc heap.requests = true ∧ value = some heap.requests ∧
          after.node = Function.update heap.node heap.requests (some ⟨[], none, none, none⟩) ∨
        kzalloc heap.requests = false ∧ value = none ∧ after.node = heap.node) := by
  rw [kzallocPart, meets_bind, meets_get, meets_ite]
  constructor
  · intro room
    rw [meets_bind, meets_set]
    exact .pure ⟨rfl, .inl ⟨room, rfl, rfl⟩⟩
  · intro full
    rw [meets_bind, meets_set]
    exact .pure ⟨rfl, .inr ⟨by simpa using full, rfl, rfl⟩⟩

section Owned

variable {base after : NodeHeap} {cells : List Nat}

/-- Every heap owns all of its nodes, if none was there before. -/
theorem Owns.of_nothing (cells : List Nat) : Owns ⟨heap.node, 0⟩ heap cells :=
  ⟨fun cell _ => Nat.zero_le cell, fun _ _ => .inl rfl⟩

/-- The nodes that are owned may change. -/
theorem Owns.change (owns : Owns base heap cells)
    (same : ∀ cell ∉ cells, after.node cell = heap.node cell) : Owns base after cells :=
  ⟨owns.new, fun cell outside => by simpa [same cell outside] using owns.others cell outside⟩

/-- One more node is owned. -/
theorem Owns.grow (owns : Owns base heap cells) {fresh : Nat} (new : base.requests ≤ fresh)
    (same : ∀ cell ∉ cells ++ [fresh], after.node cell = heap.node cell) :
    Owns base after (cells ++ [fresh]) := by
  constructor
  · intro cell member
    rcases List.mem_append.mp member with earlier | last
    · exact owns.new cell earlier
    · rw [List.mem_singleton.mp last]
      exact new
  · intro cell outside
    rw [same cell outside]
    exact owns.others cell fun member => outside (List.mem_append_left _ member)

/-- The last node is freed. -/
theorem Owns.drop (owns : Owns base heap (cells ++ [part])) (freed : after.node part = none)
    (same : ∀ cell ∉ cells ++ [part], after.node cell = heap.node cell) :
    Owns base after cells := by
  constructor
  · exact fun cell member => owns.new cell (List.mem_append_left _ member)
  · intro cell outside
    by_cases here : cell = part
    · rw [here]
      exact .inr ⟨owns.new part (by simp), freed⟩
    · have outside : cell ∉ cells ++ [part] := by simp [outside, here]
      rw [same cell outside]
      exact owns.others cell outside

/-- All nodes are freed. -/
theorem Owns.clear (owns : Owns base heap cells)
    (cleared : ∀ cell, after.node cell = if cell ∈ cells then none else heap.node cell) :
    Owns base after [] := by
  refine ⟨by simp, fun cell _ => ?_⟩
  by_cases member : cell ∈ cells
  · exact .inr ⟨owns.new cell member, by simp [cleared, member]⟩
  · simpa [cleared, member] using owns.others cell member

end Owned

/-- The first node of a list leads to the others. -/
theorem first_next {cell : Nat} {rest : List Nat} {before : Option Nat} {node : PathNode}
    (linked : Segment heap.next heap.prev before (cell :: rest) none)
    (found : heap.node cell = some node) : node.next = rest.head? := by
  have next := linked.2.1
  rwa [NodeHeap.next, found, Option.or_none] at next

/-- Freeing a list follows no pointer to a node that has been freed, and frees what is
listed. -/
theorem destroyParts_meets (fuel : Nat) (cells : List Nat) {before : Option Nat} {heap : NodeHeap}
    (linked : Segment heap.next heap.prev before cells none)
    (live : ∀ cell ∈ cells, ∃ node, heap.node cell = some node) (distinct : cells.Nodup)
    (enough : cells.length ≤ fuel) :
    Meets (destroyParts fuel cells.head?) heap (fun _ => False) fun _ after =>
      after.requests = heap.requests ∧
        ∀ cell, after.node cell = if cell ∈ cells then none else heap.node cell := by
  induction cells generalizing fuel before heap with
  | nil =>
    rw [List.head?_nil, destroyParts]
    exact .pure ⟨rfl, by simp⟩
  | cons cell rest ih =>
    obtain ⟨fuel, rfl⟩ : ∃ more, fuel = more + 1 := ⟨fuel - 1, by simp at enough; omega⟩
    obtain ⟨node, found⟩ := live cell List.mem_cons_self
    obtain ⟨absent, rest_distinct⟩ := List.nodup_cons.mp distinct
    have onward := first_next linked found
    rw [List.head?_cons, destroyParts]
    apply (loadPart_meets found).bind
    rintro value loaded ⟨valued, unchanged⟩
    rw [valued, unchanged, onward]
    apply (kzfreePart_meets found).bind
    rintro _ freed ⟨nodes, requests⟩
    -- The other nodes are as they were.
    have kept (other : Nat) (member : other ∈ rest) : freed.node other = heap.node other := by
      have different : other ≠ cell := fun same => absent (same ▸ member)
      rw [nodes, Function.update_of_ne different]
    refine (ih fuel (linked.2.2.congr ?_) ?_ rest_distinct (Nat.le_of_succ_le_succ enough)).mono ?_
    · intro other member
      simp only [NodeHeap.next, NodeHeap.prev, kept other member, and_self]
    · intro other member
      obtain ⟨node, here⟩ := live other (List.mem_cons_of_mem _ member)
      exact ⟨node, (kept other member).trans here⟩
    · rintro _ after ⟨same, cleared⟩
      refine ⟨same.trans requests, fun other => ?_⟩
      rw [cleared, nodes]
      by_cases here : other = cell
      · simp [here]
      · simp [here]

theorem part_eq_some {cell : Nat} {shown : PathTracerPart} : heap.part cell = some shown ↔
    ∃ node, heap.node cell = some node ∧ node.type = some shown.type ∧
      node.pathPart = shown.pathPart := by
  obtain ⟨name, type⟩ := shown
  simp only [NodeHeap.part, Option.bind_eq_bind, Option.bind_eq_some_iff, Option.pure_def,
    Option.some.injEq, PathTracerPart.mk.injEq]
  constructor
  · rintro ⟨node, found, _, typed, named, rfl⟩
    exact ⟨node, found, typed, named⟩
  · rintro ⟨node, found, typed, named⟩
    exact ⟨node, found, _, typed, named, rfl⟩

variable {root : Nat} {cells : List Nat} {done : List PathTracerPart}

/-- Every node of a list that is built is in use. -/
theorem Growing.live (growing : Growing heap root cells done part) {cell : Nat}
    (member : cell ∈ cells ++ [part]) : ∃ node, heap.node cell = some node := by
  rcases List.mem_append.mp member with earlier | last
  · have shown : heap.part cell ∈ done.map some := by
      rw [← growing.held]
      exact List.mem_map_of_mem earlier
    obtain ⟨_, -, shown⟩ := List.mem_map.mp shown
    obtain ⟨node, found, -⟩ := part_eq_some.mp shown.symm
    exact ⟨node, found⟩
  · obtain ⟨node, found, -⟩ := growing.current
    rw [List.mem_singleton.mp last]
    exact ⟨node, found⟩

/-- A list that is built can be taken down. -/
theorem Growing.destroyed (growing : Growing heap root cells done part) {base : NodeHeap}
    (owns : Owns base heap (cells ++ [part])) (label : UInt8) :
    Meets (destroyPathTracer ⟨label, some root⟩) heap (fun _ => False) fun _ after =>
      after.requests = heap.requests ∧ Owns base after [] := by
  rw [destroyPathTracer, meets_bind, meets_get]
  simp only
  rw [← growing.starts]
  apply (destroyParts_meets _ _ growing.linked (fun _ member => growing.live member)
    growing.distinct (Nat.le_succ_of_le growing.few)).mono
  rintro _ after ⟨requests, cleared⟩
  exact ⟨requests, owns.clear cleared⟩

/-- One more part is done: the last node gets its name and type, and a fresh one is
linked behind it. -/
theorem Growing.grow (growing : Growing heap root cells done part) (name : CString)
    {after : NodeHeap} (requests : after.requests = heap.requests + 1)
    (fresh : after.node heap.requests = some ⟨[], none, some part, none⟩)
    (named : ∃ node, heap.node part = some node ∧ after.node part =
      some { node with pathPart := name, type := some .DIRECTORY, next := some heap.requests })
    (others : ∀ cell, cell ≠ part → cell ≠ heap.requests → after.node cell = heap.node cell) :
    Growing after root (cells ++ [part]) (done ++ [⟨name, .DIRECTORY⟩]) heap.requests := by
  obtain ⟨node, found, stored⟩ := named
  obtain ⟨distinct_cells, -, apart⟩ := List.nodup_append.mp growing.distinct
  have kept (cell : Nat) (member : cell ∈ cells) : after.node cell = heap.node cell := by
    refine others cell (apart cell member part (List.mem_singleton_self _)) ?_
    exact Nat.ne_of_lt (growing.old cell (List.mem_append_left _ member))
  obtain ⟨front, back, -⟩ := segment_concat.mp growing.linked
  constructor
  · rw [List.head?_append, growing.starts]
    rfl
  · refine segment_concat.mpr ⟨segment_concat.mpr ⟨front.congr ?_, ?_, ?_⟩, ?_, ?_⟩
    · intro cell member
      simp only [NodeHeap.next, NodeHeap.prev, kept cell member, and_self]
    · rw [← back, NodeHeap.prev, NodeHeap.prev, stored, found]
      rfl
    · rw [NodeHeap.next, stored]
      rfl
    · rw [NodeHeap.prev, fresh]
      simp
    · rw [NodeHeap.next, fresh]
      rfl
  · rw [List.map_append, List.map_append, ← growing.held]
    congr 1
    · apply List.map_congr_left
      intro cell member
      rw [NodeHeap.part, NodeHeap.part, kept cell member]
    · rw [List.map_singleton, List.map_singleton]
      exact congrArg (fun shown => [shown]) (part_eq_some.mpr ⟨_, stored, rfl, rfl⟩)
  · exact ⟨_, fresh, rfl⟩
  · rw [List.nodup_append]
    refine ⟨growing.distinct, List.nodup_singleton _, ?_⟩
    intro cell member other last
    rw [List.mem_singleton.mp last]
    exact Nat.ne_of_lt (growing.old cell member)
  · intro cell member
    rw [requests]
    rcases List.mem_append.mp member with earlier | last
    · exact Nat.lt_succ_of_lt (growing.old cell earlier)
    · rw [List.mem_singleton.mp last]
      exact Nat.lt_succ_self _
  · rw [requests, List.length_append]
    exact Nat.succ_le_succ growing.few

/-- The last node may get a name while it has no type. -/
theorem Growing.name (growing : Growing heap root cells done part) (name : CString)
    {after : NodeHeap} (requests : heap.requests ≤ after.requests)
    (found : heap.node part = some node)
    (nodes : after.node = Function.update heap.node part (some { node with pathPart := name })) :
    Growing after root cells done part := by
  obtain ⟨-, -, apart⟩ := List.nodup_append.mp growing.distinct
  have links (cell : Nat) : after.next cell = heap.next cell ∧ after.prev cell = heap.prev cell := by
    rw [NodeHeap.next, NodeHeap.next, NodeHeap.prev, NodeHeap.prev, nodes]
    by_cases here : cell = part
    · rw [here, Function.update_self, found]
      exact ⟨rfl, rfl⟩
    · rw [Function.update_of_ne here]
      exact ⟨rfl, rfl⟩
  constructor
  · exact growing.starts
  · exact growing.linked.congr fun cell _ => links cell
  · rw [← growing.held]
    apply List.map_congr_left
    intro cell member
    have different := apart cell member part (List.mem_singleton_self _)
    rw [NodeHeap.part, NodeHeap.part, nodes, Function.update_of_ne different]
  · obtain ⟨current, here, untyped⟩ := growing.current
    refine ⟨_, by rw [nodes, Function.update_self], ?_⟩
    rw [← Option.some.inj (here.symm.trans found)]
    exact untyped
  · exact growing.distinct
  · exact fun cell member => Nat.lt_of_lt_of_le (growing.old cell member) requests
  · exact Nat.le_trans growing.few requests

end Lists

/-! ## Refinement of the list of parts -/

section Refinement

variable {heap : NodeHeap} {kzalloc : Nat → Bool} {part root : Nat} {cells : List Nat}
  {done : List PathTracerPart}

/-- The loop over the nodes does what the loop over the list does, and owns the nodes of
the list all along. With an error they have been freed. -/
theorem collectNodes_owned (label : UInt8) (base : NodeHeap) (rest : CString) :
    ∀ (heap : NodeHeap) (part : Nat) (cells : List Nat) (done : List PathTracerPart)
      (pathPart : CString), Growing heap root cells done part → Owns base heap (cells ++ [part]) →
      Meets (collectNodes kzalloc ⟨label, some root⟩ part pathPart rest) heap (fun _ => False)
        fun result after =>
          (collectParts kzalloc done pathPart heap.requests rest).2 = after.requests ∧
          match (collectParts kzalloc done pathPart heap.requests rest).1 with
          | .error code => result = .error code ∧ Owns base after []
          | .ok (parts, last) => ∃ lastPart cells, result = .ok (lastPart, last) ∧
              Growing after root cells parts lastPart ∧ Owns base after (cells ++ [lastPart]) := by
  induction rest with
  | nil =>
    intro heap part cells done pathPart growing owns
    rw [collectNodes]
    exact .pure ⟨rfl, part, cells, rfl, growing, owns⟩
  | cons char rest ih =>
    intro heap part cells done pathPart growing owns
    rw [collectNodes, collectParts, meets_ite]
    constructor
    · intro ends
      rw [if_pos ends, meets_ite]
      constructor
      · intro empty
        rw [if_pos empty]
        apply (growing.destroyed owns label).bind
        rintro _ after ⟨same, freed⟩
        exact .pure ⟨same.symm, rfl, freed⟩
      · intro named
        rw [if_neg named]
        obtain ⟨node, found, -⟩ := growing.current
        apply (storePart_meets found _).bind
        rintro _ stored ⟨stored_nodes, stored_requests⟩
        apply kzallocPart_meets.bind
        rintro _ allocated ⟨requests, ⟨room, rfl, nodes⟩ | ⟨full, rfl, nodes⟩⟩
        · -- A node for the next part.
          have older : part < heap.requests :=
            growing.old part (List.mem_append_right _ (List.mem_singleton_self _))
          rw [stored_requests] at room nodes requests
          rw [stored_nodes] at nodes
          have here : allocated.node part = some { node with pathPart := pathPart } := by
            rw [nodes, Function.update_of_ne (Nat.ne_of_lt older), Function.update_self]
          simp only
          rw [if_pos room, stored_requests]
          apply (storePart_meets here _).bind
          rintro _ linked ⟨linked_nodes, linked_requests⟩
          have fresh : linked.node heap.requests = some ⟨[], none, none, none⟩ := by
            rw [linked_nodes, Function.update_of_ne (Nat.ne_of_gt older), nodes,
              Function.update_self]
          apply (storePart_meets fresh _).bind
          rintro _ ready ⟨ready_nodes, ready_requests⟩
          have counted : ready.requests = heap.requests + 1 :=
            ready_requests.trans (linked_requests.trans requests)
          rw [← counted]
          have others (cell : Nat) (not_part : cell ≠ part) (not_fresh : cell ≠ heap.requests) :
              ready.node cell = heap.node cell := by
            rw [ready_nodes, Function.update_of_ne not_fresh, linked_nodes,
              Function.update_of_ne not_part, nodes, Function.update_of_ne not_fresh,
              Function.update_of_ne not_part]
          have last : part ∈ cells ++ [part] := List.mem_append_right _ (List.mem_singleton_self _)
          refine ih _ _ _ _ [] (growing.grow pathPart counted ?_ ⟨node, found, ?_⟩ others)
            (owns.grow ?_ ?_)
          · rw [ready_nodes, Function.update_self]
          · rw [ready_nodes, Function.update_of_ne (Nat.ne_of_lt older), linked_nodes,
              Function.update_self]
          · exact Nat.le_trans (owns.new part last) (Nat.le_of_lt older)
          · intro cell outside
            refine others cell ?_ ?_
            · rintro rfl
              exact outside (List.mem_append_left _ last)
            · rintro rfl
              exact outside (List.mem_append_right _ (List.mem_singleton_self _))
        · simp only
          rw [stored_requests] at full requests
          rw [if_neg (by rw [full]; decide)]
          have growing_left : Growing allocated root cells done part :=
            growing.name pathPart (by rw [requests]; exact Nat.le_succ _) found
              (nodes.trans stored_nodes)
          have owns_left : Owns base allocated (cells ++ [part]) := by
            refine owns.change fun cell outside => ?_
            have not_part : cell ≠ part := by
              rintro rfl
              exact outside (List.mem_append_right _ (List.mem_singleton_self _))
            rw [nodes, stored_nodes, Function.update_of_ne not_part]
          apply (growing_left.destroyed owns_left label).bind
          rintro _ after ⟨same, freed⟩
          exact .pure ⟨(same.trans requests).symm, rfl, freed⟩
    · intro more
      rw [if_neg more]
      exact ih heap part cells done (pathPart ++ [char]) growing owns

/-- The loop over the nodes does what the loop over the list does. -/
theorem collectNodes_refines (label : UInt8) (rest : CString) :
    ∀ (heap : NodeHeap) (part : Nat) (cells : List Nat) (done : List PathTracerPart)
      (pathPart : CString), Growing heap root cells done part →
      Meets (collectNodes kzalloc ⟨label, some root⟩ part pathPart rest) heap (fun _ => False)
        fun result after =>
          (collectParts kzalloc done pathPart heap.requests rest).2 = after.requests ∧
          match (collectParts kzalloc done pathPart heap.requests rest).1 with
          | .error code => result = .error code
          | .ok (parts, last) => ∃ lastPart cells, result = .ok (lastPart, last) ∧
              Growing after root cells parts lastPart := by
  intro heap part cells done pathPart growing
  apply (collectNodes_owned label ⟨heap.node, 0⟩ rest heap part cells done pathPart growing
    (.of_nothing _)).mono
  rintro result after ⟨requests, outcome⟩
  refine ⟨requests, ?_⟩
  generalize collectParts kzalloc done pathPart heap.requests rest = collected at *
  obtain ⟨code | ⟨parts, last⟩, count⟩ := collected
  · exact outcome.1
  · obtain ⟨lastPart, grown, same, growing, -⟩ := outcome
    exact ⟨lastPart, grown, same, growing⟩

/-- The nodes have the parts of the tracer. A tracer without parts still points to the
node that was dropped. -/
structure Represents (heap : NodeHeap) (nodes : NodeTracer) (tracer : PathTracer) : Prop where
  label : nodes.label = tracer.label
  listed : tracer.parts ≠ [] → Listed heap nodes.root tracer.parts
  freed : tracer.parts = [] → ∃ root, nodes.root = some root ∧ heap.node root = none

/-- A tracer as it is returned: the nodes of its parts are owned, and without parts nothing
is owned and the root has been freed. -/
structure OwnsTracer (base heap : NodeHeap) (nodes : NodeTracer) (tracer : PathTracer) : Prop where
  label : nodes.label = tracer.label
  listed : tracer.parts ≠ [] → ∃ cells : List Nat, nodes.root = cells.head? ∧
    Segment heap.next heap.prev none cells none ∧ cells.map heap.part = tracer.parts.map some ∧
      cells.length ≤ heap.requests ∧ cells.Nodup ∧ Owns base heap cells
  freed : tracer.parts = [] → (∃ root, nodes.root = some root ∧ heap.node root = none) ∧
    Owns base heap []

theorem OwnsTracer.represents {base : NodeHeap} {nodes : NodeTracer} {tracer : PathTracer}
    (owned : OwnsTracer base heap nodes tracer) : Represents heap nodes tracer := by
  refine ⟨owned.label, fun some => ?_, fun nothing => (owned.freed nothing).1⟩
  obtain ⟨cells, starts, linked, held, few, -, -⟩ := owned.listed some
  exact ⟨cells, starts, linked, held, few⟩

variable {base : NodeHeap}

/-- The last node of a list is dropped. -/
theorem Growing.dropped (growing : Growing heap root cells done part)
    (owns : Owns base heap (cells ++ [part])) (label : UInt8) :
    Meets (finishNodes part []) heap (fun _ => False) fun _ after =>
      after.requests = heap.requests ∧ OwnsTracer base after ⟨label, some root⟩ ⟨label, done⟩ := by
  obtain ⟨node, found, -⟩ := growing.current
  obtain ⟨front, back, -⟩ := segment_concat.mp growing.linked
  rw [finishNodes, meets_ite]
  refine ⟨fun _ => ?_, fun not => absurd rfl not⟩
  apply (loadPart_meets found).bind
  rintro value loaded ⟨valued, unchanged⟩
  rw [valued, unchanged]
  rw [NodeHeap.prev, found, Option.or_none] at back
  have back : node.prev = cells.getLast? := back
  rcases List.eq_nil_or_concat' cells with none_done | ⟨earlier, last, rfl⟩
  · -- Nothing has been done: the root itself is freed.
    subst none_done
    have nothing : done = [] := by
      have held := growing.held
      rwa [List.map_nil, eq_comm, List.map_eq_nil_iff] at held
    have is_root : part = root := Option.some.inj growing.starts
    rw [back]
    apply (kzfreePart_meets found).mono
    rintro _ after ⟨nodes, requests⟩
    have freed : after.node part = none := by rw [nodes, Function.update_self]
    refine ⟨requests, rfl, fun some => absurd nothing some, fun _ => ⟨⟨root, rfl, ?_⟩, ?_⟩⟩
    · rw [← is_root, freed]
    · refine owns.drop freed fun cell outside => ?_
      have not_part : cell ≠ part := by simpa using outside
      rw [nodes, Function.update_of_ne not_part]
  · obtain ⟨distinct, -, apart⟩ := List.nodup_append.mp growing.distinct
    have last_member : last ∈ earlier ++ [last] :=
      List.mem_append_right _ (List.mem_singleton_self _)
    obtain ⟨before, here⟩ := growing.live (List.mem_append_left _ last_member)
    have different : last ≠ part := apart last last_member part (List.mem_singleton_self _)
    rw [back, List.getLast?_append]
    simp only [List.getLast?_singleton, Option.some_or]
    apply (storePart_meets here _).bind
    rintro _ cut ⟨cut_nodes, cut_requests⟩
    have still : cut.node part = some node := by
      rw [cut_nodes, Function.update_of_ne (Ne.symm different), found]
    apply (kzfreePart_meets still).mono
    rintro _ after ⟨nodes, requests⟩
    have last_node : after.node last = some { before with next := none } := by
      rw [nodes, Function.update_of_ne different, cut_nodes, Function.update_self]
    have kept (cell : Nat) (member : cell ∈ earlier) : after.node cell = heap.node cell := by
      have not_last := (List.nodup_append.mp distinct).2.2 cell member last
        (List.mem_singleton_self _)
      have not_part := apart cell (List.mem_append_left _ member) part (List.mem_singleton_self _)
      rw [nodes, Function.update_of_ne not_part, cut_nodes, Function.update_of_ne not_last]
    refine ⟨requests.trans cut_requests, rfl, fun _ => ?_, ?_⟩
    · refine ⟨earlier ++ [last], ?_, segment_concat.mpr ⟨?_, ?_, ?_⟩, ?_, ?_, ?_, ?_⟩
      · have starts := growing.starts
        rw [List.head?_append] at starts
        obtain ⟨first, begins⟩ : ∃ first, (earlier ++ [last]).head? = some first :=
          ⟨(earlier ++ [last]).head (by simp), List.head?_eq_some_head _⟩
        rw [begins] at starts ⊢
        exact starts.symm
      · refine (segment_concat.mp front).1.congr ?_
        intro cell member
        simp only [NodeHeap.next, NodeHeap.prev, kept cell member, and_self]
      · rw [← (segment_concat.mp front).2.1, NodeHeap.prev, NodeHeap.prev, last_node, here]
        rfl
      · rw [NodeHeap.next, last_node]
        rfl
      · rw [← growing.held, List.map_append, List.map_append]
        congr 1
        · apply List.map_congr_left
          intro cell member
          rw [NodeHeap.part, NodeHeap.part, kept cell member]
        · rw [List.map_singleton, List.map_singleton, NodeHeap.part, NodeHeap.part, last_node, here]
          rfl
      · rw [requests, cut_requests]
        refine Nat.le_trans ?_ growing.few
        exact (List.sublist_append_left _ [part]).length_le
      · exact distinct
      · have cut_owns : Owns base cut (earlier ++ [last] ++ [part]) := by
          refine owns.change fun cell outside => ?_
          have not_last : cell ≠ last := by
            rintro rfl
            exact outside (List.mem_append_left _ last_member)
          rw [cut_nodes, Function.update_of_ne not_last]
        refine cut_owns.drop (by rw [nodes, Function.update_self]) fun cell outside => ?_
        have not_part : cell ≠ part := by
          rintro rfl
          exact outside (List.mem_append_right _ (List.mem_singleton_self _))
        rw [nodes, Function.update_of_ne not_part]
    · intro nothing
      have nothing : done = [] := nothing
      have held := growing.held
      rw [nothing, List.map_nil, List.map_eq_nil_iff] at held
      exact absurd held (List.append_ne_nil_of_right_ne_nil _ (List.cons_ne_nil _ _))

/-- The last node of a list becomes a file. -/
theorem Growing.finished (growing : Growing heap root cells done part)
    (owns : Owns base heap (cells ++ [part])) (label : UInt8) {name : CString}
    (named : name ≠ []) :
    Meets (finishNodes part name) heap (fun _ => False) fun _ after =>
      after.requests = heap.requests ∧
        OwnsTracer base after ⟨label, some root⟩ ⟨label, done ++ [⟨name, .FILE⟩]⟩ := by
  obtain ⟨node, found, -⟩ := growing.current
  obtain ⟨-, -, apart⟩ := List.nodup_append.mp growing.distinct
  rw [finishNodes, meets_ite]
  refine ⟨fun empty => absurd (List.eq_nil_of_length_eq_zero empty) named, fun _ => ?_⟩
  apply (storePart_meets found _).mono
  rintro _ after ⟨nodes, requests⟩
  have stored : after.node part = some { node with pathPart := name, type := some .FILE } := by
    rw [nodes, Function.update_self]
  refine ⟨requests, rfl, fun _ => ⟨cells ++ [part], growing.starts.symm, ?_, ?_, ?_,
    growing.distinct, ?_⟩, ?_⟩
  · refine growing.linked.congr fun cell _ => ?_
    by_cases here : cell = part
    · rw [here, NodeHeap.next, NodeHeap.next, NodeHeap.prev, NodeHeap.prev, stored, found]
      exact ⟨rfl, rfl⟩
    · rw [NodeHeap.next, NodeHeap.next, NodeHeap.prev, NodeHeap.prev, nodes,
        Function.update_of_ne here]
      exact ⟨rfl, rfl⟩
  · rw [List.map_append, List.map_append, ← growing.held]
    congr 1
    · apply List.map_congr_left
      intro cell member
      have different := apart cell member part (List.mem_singleton_self _)
      rw [NodeHeap.part, NodeHeap.part, nodes, Function.update_of_ne different]
    · rw [List.map_singleton, List.map_singleton]
      exact congrArg (fun shown => [shown]) (part_eq_some.mpr ⟨_, stored, rfl, rfl⟩)
  · rw [requests]
    exact growing.few
  · refine owns.change fun cell outside => ?_
    have not_part : cell ≠ part := by
      rintro rfl
      exact outside (List.mem_append_right _ (List.mem_singleton_self _))
    rw [nodes, Function.update_of_ne not_part]
  · exact fun nothing =>
      absurd nothing (List.append_ne_nil_of_right_ne_nil _ (List.cons_ne_nil _ _))

variable {volumes : UInt8 → Bool} {path : CString}

variable (volumes kzalloc path) in
/-- `createPathTracer` over nodes does what it does over a list of parts, on every
heap, and follows no invalid pointer. -/
theorem createNodeTracer_refines (heap : NodeHeap) :
    Meets (createNodeTracer volumes kzalloc (some path)) heap (fun _ => False) fun result after =>
      (createPathTracer volumes kzalloc path heap.requests).2 = after.requests ∧
      match (createPathTracer volumes kzalloc path heap.requests).1 with
      | .error code => result = .error code
      | .ok tracer => ∃ nodes, result = .ok nodes ∧ Represents after nodes tracer := by
  rw [createNodeTracer, createPathTracer]
  simp only [meets_ite]
  refine ⟨fun label => ?_, fun label => ⟨fun long => ?_, fun long => ⟨fun format => ?_,
    fun format => ⟨fun missing => ?_, fun found => ?_⟩⟩⟩⟩
  · rw [if_pos label]
    exact .pure ⟨rfl, rfl⟩
  · rw [if_neg label, if_pos long]
    exact .pure ⟨rfl, rfl⟩
  · rw [if_neg label, if_neg long, if_pos format]
    exact .pure ⟨rfl, rfl⟩
  · rw [if_neg label, if_neg long, if_neg format, if_pos missing]
    exact .pure ⟨rfl, rfl⟩
  rw [if_neg label, if_neg long, if_neg format, if_neg found]
  have tracer_law : Meets (kzallocTracer kzalloc) heap (fun _ => False) fun value after =>
      value = kzalloc heap.requests ∧ after.requests = heap.requests + 1 := by
    rw [kzallocTracer, meets_bind, meets_get, meets_bind, meets_set]
    exact .pure ⟨rfl, rfl⟩
  apply tracer_law.bind
  rintro value first ⟨rfl, first_requests⟩
  rw [meets_ite]
  constructor
  · intro room
    rw [if_neg (by rw [room]; decide)]
    apply kzallocPart_meets.bind
    rw [first_requests]
    rintro _ second ⟨requests, ⟨more, rfl, nodes⟩ | ⟨full, rfl, nodes⟩⟩
    · rw [if_neg (by rw [more]; decide)]
      simp only
      have fresh : second.node (heap.requests + 1) = some ⟨[], none, none, none⟩ := by
        rw [nodes, Function.update_self]
      -- The list begins with one fresh node.
      have growing : Growing second (heap.requests + 1) [] [] (heap.requests + 1) := by
        refine ⟨rfl, segment_singleton.mpr ⟨?_, ?_⟩, rfl, ⟨_, fresh, rfl⟩, List.nodup_singleton _,
          ?_, ?_⟩
        · rw [NodeHeap.prev, fresh]
          rfl
        · rw [NodeHeap.next, fresh]
          rfl
        · intro cell member
          rw [List.mem_singleton.mp member, requests]
          exact Nat.lt_succ_self _
        · rw [requests]
          exact Nat.le_add_left _ _
      rw [show heap.requests + 2 = second.requests from requests.symm]
      apply (collectNodes_refines (path.getD 0 0) (path.drop 3) _ _ _ _ [] growing).bind
      rintro result third ⟨counted, outcome⟩
      generalize collectParts kzalloc [] [] second.requests (path.drop 3) = collected at *
      obtain ⟨code | ⟨done, last⟩, count⟩ := collected
      · have failed : result = .error code := outcome
        subst failed
        exact .pure ⟨counted, rfl⟩
      · obtain ⟨lastPart, cells, rfl, grown⟩ := outcome
        simp only
        by_cases directory : last = []
        · subst directory
          apply (grown.dropped (.of_nothing _) (path.getD 0 0)).bind
          rintro _ after ⟨same, owned⟩
          exact .pure ⟨counted.trans same.symm, _, rfl, owned.represents⟩
        · have not_empty : ¬ last.length = 0 := fun empty =>
            directory (List.eq_nil_of_length_eq_zero empty)
          apply (grown.finished (.of_nothing _) (path.getD 0 0) directory).bind
          rintro _ after ⟨same, owned⟩
          rw [if_neg not_empty]
          exact .pure ⟨counted.trans same.symm, _, rfl, owned.represents⟩
    · rw [if_pos full]
      exact .pure ⟨requests.symm, rfl⟩
  · intro full
    have full : kzalloc heap.requests = false := by simpa using full
    rw [if_pos full]
    exact .pure ⟨first_requests.symm, rfl⟩

end Refinement

/-! ## Reading the parts back -/

section Reading

variable {heap : NodeHeap} {kzalloc : Nat → Bool}

/-- A file is the last part. -/
def FileLast : List PathTracerPart → Prop
  | [] => True
  | part :: rest => (part.type = .FILE → rest = []) ∧ FileLast rest

theorem tracedParts_fileLast (components : List CString) (trailing : Bool) :
    FileLast (tracedParts components trailing) := by
  induction components with
  | nil => trivial
  | cons component rest ih =>
    cases rest with
    | nil => exact ⟨fun _ => rfl, trivial⟩
    | cons next rest => exact ⟨nofun, ih⟩

/-- The file among the parts of a path is its last component. -/
theorem find_tracedParts {components : List CString} (some : components ≠ []) (trailing : Bool) :
    ((tracedParts components trailing).find? (·.type = .FILE)).map (·.pathPart) =
      if trailing then none else components.getLast? := by
  induction components with
  | nil => exact absurd rfl some
  | cons component rest ih =>
    cases rest with
    | nil => cases trailing <;> rfl
    | cons next rest =>
      rw [tracedParts, List.find?_cons_of_neg (by simp), ih (List.cons_ne_nil _ _)]
      rfl

/-- The first node of a list has the first part. -/
theorem first_part {cell : Nat} {cells : List Nat} {part : PathTracerPart}
    {parts : List PathTracerPart} (held : (cell :: cells).map heap.part = (part :: parts).map some) :
    (∃ node, heap.node cell = some node ∧ node.type = some part.type ∧
      node.pathPart = part.pathPart) ∧ cells.map heap.part = parts.map some := by
  rw [List.map_cons, List.map_cons] at held
  obtain ⟨first, others⟩ := List.cons.inj held
  exact ⟨part_eq_some.mp first, others⟩

theorem findFilePart_meets (fuel : Nat) (cells : List Nat) {parts : List PathTracerPart}
    {before : Option Nat} (linked : Segment heap.next heap.prev before cells none)
    (held : cells.map heap.part = parts.map some) (enough : cells.length ≤ fuel) :
    Meets (findFilePart fuel cells.head?) heap (fun _ => False) fun result after =>
      result = (parts.find? (·.type = .FILE)).map (·.pathPart) ∧ after = heap := by
  induction cells generalizing fuel parts before with
  | nil =>
    rw [List.head?_nil, findFilePart]
    rw [List.map_nil, eq_comm, List.map_eq_nil_iff] at held
    subst held
    exact .pure ⟨rfl, rfl⟩
  | cons cell rest ih =>
    obtain ⟨fuel, rfl⟩ := Nat.exists_eq_add_of_lt (Nat.lt_of_lt_of_le (Nat.succ_pos _) enough)
    rw [Nat.zero_add] at enough ⊢
    cases parts with
    | nil => cases held
    | cons part parts =>
      obtain ⟨⟨node, found, typed, named⟩, others⟩ := first_part held
      have onward := first_next linked found
      rw [List.head?_cons, findFilePart]
      apply (loadPart_meets found).bind
      rintro value loaded ⟨valued, unchanged⟩
      rw [valued, unchanged, typed, meets_ite]
      constructor
      · intro file
        rw [List.find?_cons_of_pos (by simpa using file), named]
        exact .pure ⟨rfl, rfl⟩
      · intro directory
        rw [List.find?_cons_of_neg (by simpa using directory), onward]
        exact ih fuel linked.2.2 others (Nat.le_of_succ_le_succ enough)

/-- A string in a zeroed buffer. -/
def Buffered (text : CString) (ret : Nat → UInt8) : Prop := ∀ i, ret i = text.getD i 0

/-- More characters are put behind a string. -/
theorem Buffered.append {text : CString} {ret : Nat → UInt8} (buffered : Buffered text ret)
    (more : CString) :
    Buffered (text ++ more) (overwrite ret text.length more.length fun i => more.getD i 0) := by
  intro i
  rcases Nat.lt_or_ge i text.length with before | behind
  · rw [overwrite_outside _ _ _ _ _ (.inl before), buffered,
      List.getD_append _ _ _ _ before]
  · rw [List.getD_append_right _ _ _ _ behind]
    rcases Nat.lt_or_ge i (text.length + more.length) with inside | outside
    · exact overwrite_inside _ _ _ _ _ ⟨behind, inside⟩
    · rw [overwrite_outside _ _ _ _ _ (.inr outside), buffered, List.getD_eq_default _ _ behind,
        List.getD_eq_default _ _ (by omega)]

/-- A slash is added to the zero behind a string. -/
theorem Buffered.slash {text : CString} {ret : Nat → UInt8} (buffered : Buffered text ret) :
    Buffered (text ++ [SLASH]) (Function.update ret text.length (ret text.length + SLASH)) := by
  intro i
  rcases Nat.lt_trichotomy i text.length with before | here | behind
  · rw [Function.update_of_ne (Nat.ne_of_lt before), buffered, List.getD_append _ _ _ _ before]
  · rw [here, Function.update_self, buffered, List.getD_eq_default _ _ (Nat.le_refl _),
      List.getD_append_right _ _ _ _ (Nat.le_refl _), Nat.sub_self]
    rfl
  · rw [Function.update_of_ne (Nat.ne_of_gt behind), buffered,
      List.getD_eq_default _ _ (Nat.le_of_lt behind),
      List.getD_append_right _ _ _ _ (Nat.le_of_lt behind),
      List.getD_eq_default]
    rw [List.length_singleton]
    omega

variable (heap) in
theorem copyParts_meets (fuel : Nat) (cells : List Nat) {parts : List PathTracerPart}
    {before : Option Nat} {text : CString} {ret : Nat → UInt8}
    (linked : Segment heap.next heap.prev before cells none)
    (held : cells.map heap.part = parts.map some) (last : FileLast parts)
    (enough : cells.length ≤ fuel) (buffered : Buffered text ret)
    (room : text.length + (partsString parts).length ≤ BOBAOS_MAX_PATH_SIZE) :
    Meets (copyParts fuel cells.head? ret text.length) heap (fun _ => False) fun result after =>
      Buffered (text ++ partsString parts) result ∧ after = heap := by
  induction cells generalizing fuel parts before text ret with
  | nil =>
    rw [List.head?_nil, copyParts]
    rw [List.map_nil, eq_comm, List.map_eq_nil_iff] at held
    subst held
    refine .pure ⟨?_, rfl⟩
    rw [partsString, List.append_nil]
    exact buffered
  | cons cell rest ih =>
    obtain ⟨fuel, rfl⟩ := Nat.exists_eq_add_of_lt (Nat.lt_of_lt_of_le (Nat.succ_pos _) enough)
    rw [Nat.zero_add] at enough ⊢
    cases parts with
    | nil => cases held
    | cons part parts =>
      obtain ⟨⟨node, found, typed, named⟩, others⟩ := first_part held
      have onward := first_next linked found
      rw [List.head?_cons, copyParts]
      apply (loadPart_meets found).bind
      rintro value loaded ⟨valued, unchanged⟩
      rw [valued, unchanged]
      simp only
      rw [typed, named, onward]
      obtain ⟨name, type⟩ := part
      have appended := buffered.append name
      cases type with
      | DIRECTORY =>
        rw [partsString, List.length_append, List.length_cons] at room
        have fits : ¬ BOBAOS_MAX_PATH_SIZE < text.length + name.length := by omega
        have fits_slash : ¬ BOBAOS_MAX_PATH_SIZE ≤ text.length + name.length := by omega
        have slashed := appended.slash
        rw [List.length_append] at slashed
        have counter : (text ++ name ++ [SLASH]).length = text.length + name.length + 1 := by
          rw [List.length_append, List.length_append, List.length_singleton]
        have shape : text ++ partsString (⟨name, .DIRECTORY⟩ :: parts) =
            text ++ name ++ [SLASH] ++ partsString parts := by
          simp [partsString]
        rw [if_neg fits, if_pos rfl, if_neg fits_slash, ← counter, shape]
        refine ih fuel linked.2.2 others last.2 (Nat.le_of_succ_le_succ enough) slashed ?_
        rw [counter]
        omega
      | FILE =>
        -- Nothing follows a file.
        obtain rfl : parts = [] := last.1 rfl
        rw [List.map_nil, List.map_eq_nil_iff] at others
        subst others
        rw [partsString] at room ⊢
        have fits : ¬ BOBAOS_MAX_PATH_SIZE < text.length + name.length := by omega
        rw [if_neg fits, if_neg (by simp), List.head?_nil, copyParts]
        exact .pure ⟨appended, rfl⟩

/-- A string without NUL that leaves room for one is read back from its buffer. -/
theorem cString_buffered {text : CString} {ret : Nat → UInt8} (buffered : Buffered text ret)
    (terminated : 0 ∉ text) {capacity : Nat} (room : text.length < capacity) :
    cString ret capacity = text := by
  obtain ⟨more, rfl⟩ := Nat.exists_eq_add_of_lt room
  have values : (List.range (text.length + more + 1)).map ret =
      text ++ List.replicate (more + 1) 0 := by
    apply List.ext_getElem
    · simp
      omega
    · intro i inside _
      rw [List.getElem_map, List.getElem_range, buffered]
      rcases Nat.lt_or_ge i text.length with here | behind
      · rw [List.getD_eq_getElem _ _ here, List.getElem_append_left here]
      · rw [List.getD_eq_default _ _ behind, List.getElem_append_right behind,
          List.getElem_replicate]
  have all : ∀ char ∈ text, decide (char ≠ 0) = true := by
    intro char member
    exact decide_eq_true fun zero => terminated (zero ▸ member)
  rw [cString, values, List.takeWhile_append_of_pos all, List.replicate_succ,
    List.takeWhile_cons_of_neg (by decide), List.append_nil]

end Reading

/-! ## Paths and their nodes -/

section Main

variable {volumes : UInt8 → Bool} {kzalloc : Nat → Bool} {path : CString}

/-- The string of the parts is the path, read from a buffer with room for it. -/
theorem getNodePathString_meets (roomy : ∀ request, kzalloc request = true) {heap : NodeHeap}
    {nodes : NodeTracer} {tracer : PathTracer} (represents : Represents heap nodes tracer)
    (some : tracer.parts ≠ []) (last : FileLast tracer.parts)
    (spells : pathTracerGetPathString tracer = path) (terminated : 0 ∉ path)
    (short : path.length < BOBAOS_MAX_PATH_SIZE) :
    Meets (getNodePathString kzalloc nodes) heap (fun _ => False) fun result _ =>
      result = .some path := by
  obtain ⟨cells, root, linked, held, few⟩ := represents.listed some
  have header : Buffered [nodes.label, COLON, SLASH]
      (overwrite (fun _ => 0) 0 3 fun i => [nodes.label, COLON, SLASH].getD i 0) := by
    have empty : Buffered [] fun _ => 0 := fun _ => rfl
    exact empty.append [nodes.label, COLON, SLASH]
  have whole : [nodes.label, COLON, SLASH] ++ partsString tracer.parts = path := by
    rw [← spells, represents.label]
    rfl
  have room : [nodes.label, COLON, SLASH].length + (partsString tracer.parts).length ≤
      BOBAOS_MAX_PATH_SIZE := by
    rw [← List.length_append, whole]
    exact Nat.le_of_lt short
  rw [getNodePathString, meets_bind, meets_get, meets_bind, meets_set, if_pos (roomy _), root]
  simp only
  apply (copyParts_meets ⟨heap.node, heap.requests + 1⟩ (heap.requests + 1) cells linked held last
    (Nat.le_succ_of_le few) header room).bind
  rintro ret after ⟨buffered, -⟩
  rw [whole] at buffered
  refine .pure ?_
  rw [cString_buffered buffered terminated short]

/-- The file name is that of the file among the parts. -/
theorem getNodeFileName_meets {heap : NodeHeap} {nodes : NodeTracer}
    {tracer : PathTracer} (represents : Represents heap nodes tracer) (some : tracer.parts ≠ []) :
    Meets (getNodeFileName nodes) heap (fun _ => False) fun result _ =>
      result = (tracer.parts.find? (·.type = .FILE)).map (·.pathPart) := by
  obtain ⟨cells, root, linked, held, few⟩ := represents.listed some
  rw [getNodeFileName, meets_bind, meets_get, root]
  exact (findFilePart_meets _ cells linked held (Nat.le_succ_of_le few)).mono fun _ _ both => both.1

variable (volumes) in
/-- A path other than a label with a slash is parsed if and only if it is short,
well-formed and on a volume that exists. Then its nodes are linked both ways and
have its components in order, and its file name and the path itself are read back
from them. -/
theorem nodes_follow_path (roomy : ∀ request, kzalloc request = true) (terminated : 0 ∉ path)
    (not_bare : ∀ label, path ≠ [label, COLON, SLASH]) (heap : NodeHeap) :
    ∃ result created, (createNodeTracer volumes kzalloc (some path)).run heap =
        .ok (result, created) ∧
      ((∃ tracer, result = .ok tracer) ↔ path.length < BOBAOS_MAX_PATH_SIZE ∧
        ∃ label components trailing, PathForm path label components trailing ∧
          checkVolumeLabel label = true ∧ volumes label = true) ∧
      ∀ tracer, result = .ok tracer → ∀ label components trailing,
        PathForm path label components trailing →
          tracer.label = label ∧
          Listed created tracer.root (tracedParts components trailing) ∧
          (∃ after, (getNodeFileName tracer).run created =
            .ok (if trailing then none else components.getLast?, after)) ∧
          ∃ after, (getNodePathString kzalloc tracer).run created = .ok (some path, after) := by
  obtain ⟨result, created, ran, counted, outcome⟩ :=
    (createNodeTracer_refines kzalloc volumes path heap).returns
  refine ⟨result, created, ran, ?_, ?_⟩
  · constructor
    · rintro ⟨tracer, rfl⟩
      cases listed : (createPathTracer volumes kzalloc path heap.requests).1 with
      | error code =>
        rw [listed] at outcome
        cases outcome
      | ok list => exact form_of_createPathTracer roomy not_bare listed
    · rintro ⟨short, label, components, trailing, form, valid, volume⟩
      rw [createPathTracer_of_form roomy _ short form valid volume] at outcome
      obtain ⟨nodes, made, -⟩ := outcome
      exact ⟨nodes, made⟩
  · rintro tracer rfl label components trailing form
    cases listed : (createPathTracer volumes kzalloc path heap.requests).1 with
    | error code =>
      rw [listed] at outcome
      cases outcome
    | ok list =>
      rw [listed] at outcome
      obtain ⟨nodes, made, represents⟩ := outcome
      obtain rfl := Except.ok.inj made
      -- The form that was accepted is the one given.
      obtain ⟨short, other, _, _, accepted, valid, volume⟩ :=
        form_of_createPathTracer roomy not_bare listed
      obtain rfl : other = label := (List.cons.inj (accepted.shape.symm.trans form.shape)).1
      have is_list := (createPathTracer_of_form roomy heap.requests short form valid volume).symm
      rw [listed] at is_list
      obtain rfl := Except.ok.inj is_list
      have some_parts : tracedParts components trailing ≠ [] := by
        obtain ⟨front, last, rfl⟩ := (List.eq_nil_or_concat' components).resolve_left form.some
        rw [tracedParts_concat]
        simp
      have spells : pathTracerGetPathString ⟨other, tracedParts components trailing⟩ = path := by
        have parsed : createPathTracer volumes kzalloc path heap.requests =
            (.ok ⟨other, tracedParts components trailing⟩, created.requests) := by
          rw [← counted, ← listed]
        exact createPathTracer_spells parsed
      refine ⟨represents.label, represents.listed some_parts, ?_, ?_⟩
      · obtain ⟨name, after, read, rfl⟩ := (getNodeFileName_meets represents some_parts).returns
        rw [find_tracedParts form.some] at read
        exact ⟨after, read⟩
      · obtain ⟨string, after, read, rfl⟩ := (getNodePathString_meets roomy represents some_parts
          (tracedParts_fileLast components trailing) spells terminated short).returns
        exact ⟨after, read⟩

/-- The path `C:/a/b` on a fresh heap. -/
theorem short_path_traced : ∃ tracer created,
    (createNodeTracer (fun _ => true) (fun _ => true) (some [67, 58, 47, 97, 47, 98])).run
      ⟨fun _ => none, 0⟩ = .ok (.ok tracer, created) ∧
    Listed created tracer.root [⟨[97], .DIRECTORY⟩, ⟨[98], .FILE⟩] := by
  have roomy : ∀ request : Nat, (fun _ => true) request = true := fun _ => rfl
  have form : PathForm [67, 58, 47, 97, 47, 98] 67 [[97], [98]] false :=
    ⟨by decide, by decide, by decide⟩
  have not_bare (label : UInt8) : [67, 58, 47, 97, 47, 98] ≠ [label, COLON, SLASH] := by
    intro same
    exact absurd (congrArg List.length same) (by simp)
  obtain ⟨result, created, ran, accepted, follows⟩ := nodes_follow_path
    (fun _ => true) roomy (by decide) not_bare ⟨fun _ => none, 0⟩
  obtain ⟨tracer, rfl⟩ := accepted.mpr ⟨by decide, 67, _, false, form, by decide, rfl⟩
  exact ⟨tracer, created, ran, (follows tracer rfl _ _ _ form).2.1⟩

end Main

end BobaOS.Vfsl
