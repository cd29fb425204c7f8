import BobaOS.Vfsl.PathNodes

/-!
# The lifetime of a path tracer

A tracer is made, used by any calls of its accessors and destroyed. Here the struct of the
tracer is a block of the kernel heap as well, so that it can leak or be freed twice, and the
programs on the nodes run on a part of the heap.

A path with nothing behind its first slash leaves a tracer whose root has been freed but is
still pointed to. Every other path leaves the heap as it was.
-/

namespace BobaOS.Vfsl

open ByteStore Programs LinkedLists

/-- The nodes and the structs of tracers in use, both named by the number of their request. -/
structure TracerHeap where
  nodes : NodeHeap
  structs : Nat → Option NodeTracer

abbrev TracerM := Program TracerHeap NodeFault

/-- What the accessors are called with: the tracer, or a pointer that an earlier call of
them returned. -/
inductive Accessor where
  | startTrace
  | getNext (pointer : Nat)
  | getPathString
  | getFileName

section Code

/-- A program on the nodes. -/
def onNodes {α : Type} (program : NodeM α) : TracerM α :=
  Lens.run ⟨(·.nodes), fun heap nodes => { heap with nodes }⟩ program

/-- `kzalloc` of the struct: a zeroed one, or NULL. -/
def kzallocStruct (kzalloc : Nat → Bool) : TracerM (Option Nat) := do
  let struct := (← get).nodes.requests
  if ← onNodes (kzallocTracer kzalloc) then
    modify fun heap =>
      { heap with structs := Function.update heap.structs struct (some ⟨0, none⟩) }
    return some struct
  else return none

def loadStruct (struct : Nat) : TracerM NodeTracer := do
  match (← get).structs struct with
  | some tracer => return tracer
  | none => throw .invalidPointer

def storeStruct (struct : Nat) (change : NodeTracer → NodeTracer) : TracerM Unit := do
  let tracer ← loadStruct struct
  modify fun heap =>
    { heap with structs := Function.update heap.structs struct (some (change tracer)) }

def kzfreeStruct (struct : Nat) : TracerM Unit := do
  let _ ← loadStruct struct
  modify fun heap => { heap with structs := Function.update heap.structs struct none }

variable (volumes : UInt8 → Bool) (kzalloc : Nat → Bool)

/-- `createPathTracer` once more, with the struct. An error in the loop has freed the nodes,
and the struct comes last. -/
def createTracer (path : Option CString) : TracerM (Except Code Nat) := do
  match path with
  | none => return .error (-EIARG)
  | some path =>
    if checkVolumeLabel (path.getD 0 0) = false then return .error (-EFORMAT)
    if BOBAOS_MAX_PATH_SIZE ≤ path.length then return .error (-ELONG)
    if path.getD 1 0 ≠ COLON ∨ path.getD 2 0 ≠ SLASH then return .error (-EFORMAT)
    if volumes (path.getD 0 0) = false then return .error (-ENFOUND)
    match ← kzallocStruct kzalloc with
    | none => return .error (-ENMEM)
    | some pathTracer =>
      storeStruct pathTracer fun tracer => { tracer with label := path.getD 0 0 }
      match ← onNodes (kzallocPart kzalloc) with
      | none =>
        kzfreeStruct pathTracer
        return .error (-ENMEM)
      | some part =>
        storeStruct pathTracer fun tracer => { tracer with root := some part }
        let tracer ← loadStruct pathTracer
        match ← onNodes (collectNodes kzalloc tracer part [] (path.drop 3)) with
        | .error code =>
          kzfreeStruct pathTracer
          return .error code
        | .ok (last, pathPart) =>
          onNodes (finishNodes last pathPart)
          return .ok pathTracer

/-- `destroyPathTracer` once more. -/
def destroyTracer (struct : Nat) : TracerM Unit := do
  let tracer ← loadStruct struct
  onNodes (destroyPathTracer tracer)
  kzfreeStruct struct

def pathTracerStartTrace (struct : Nat) : TracerM (Option Nat) := do
  return (← loadStruct struct).root

def pathTracerGetNext (part : Option Nat) : TracerM (Option Nat) := do
  match part with
  | none => return none
  | some part => return (← onNodes (loadPart part)).next

/-- A call of an accessor, with the pointers to parts that were returned so far. -/
def callAccessor (struct : Nat) (pointers : List (Option Nat)) :
    Accessor → TracerM (List (Option Nat))
  | .startTrace => do return pointers ++ [← pathTracerStartTrace struct]
  | .getNext pointer => do return pointers ++ [← pathTracerGetNext (pointers.getD pointer none)]
  | .getPathString => do
    let _ ← onNodes (getNodePathString kzalloc (← loadStruct struct))
    return pointers
  | .getFileName => do
    let _ ← onNodes (getNodeFileName (← loadStruct struct))
    return pointers

/-- The whole life of a tracer: it is made, used and destroyed. -/
def useTracer (path : Option CString) (calls : List Accessor) : TracerM (Except Code Unit) := do
  match ← createTracer volumes kzalloc path with
  | .error code => return .error code
  | .ok struct =>
    let _ ← calls.foldlM (callAccessor kzalloc struct) []
    destroyTracer struct
    return .ok ()

end Code

/-- What is there was there before, and as it was. -/
structure Restored (base heap : TracerHeap) : Prop where
  nodes : Owns base.nodes heap.nodes []
  structs : ∀ struct, heap.structs struct = base.structs struct ∨
    base.nodes.requests ≤ struct ∧ heap.structs struct = none

/-- The life of a tracer follows no pointer to a block that has been freed, frees none
twice and leaks none. -/
def Tidy (volumes : UInt8 → Bool) (kzalloc : Nat → Bool) (path : Option CString)
    (calls : List Accessor) (heap : TracerHeap) : Prop :=
  Meets (useTracer volumes kzalloc path calls) heap (fun _ => False) fun _ after =>
    Restored heap after

/-- The path has nothing behind its first slash, and is accepted. -/
def Bare (volumes : UInt8 → Bool) (kzalloc : Nat → Bool) (path : Option CString)
    (requests : Nat) : Prop :=
  ∃ label, path = some [label, COLON, SLASH] ∧ checkVolumeLabel label = true ∧
    volumes label = true ∧ kzalloc requests = true ∧ kzalloc (requests + 1) = true

/-! ## The struct -/

section Structs

variable {kzalloc : Nat → Bool} {heap : TracerHeap} {struct : Nat} {tracer : NodeTracer}

@[simp] theorem meets_onNodes {α : Type} (program : NodeM α) {fault : NodeFault → Prop}
    {post : α → TracerHeap → Prop} :
    Meets (onNodes program) heap fault post ↔
      Meets program heap.nodes fault fun value nodes => post value { heap with nodes } :=
  meets_lens _ _

theorem kzallocStruct_meets {fault : NodeFault → Prop} :
    Meets (kzallocStruct kzalloc) heap fault fun value after =>
      after.nodes = { heap.nodes with requests := heap.nodes.requests + 1 } ∧
      (kzalloc heap.nodes.requests = true ∧ value = some heap.nodes.requests ∧
          after.structs = Function.update heap.structs heap.nodes.requests (some ⟨0, none⟩) ∨
        kzalloc heap.nodes.requests = false ∧ value = none ∧ after.structs = heap.structs) := by
  simp only [kzallocStruct, kzallocTracer, meets_bind, meets_get, meets_onNodes, meets_set,
    meets_pure, meets_ite, meets_modify]
  exact ⟨fun room => by simp [room], fun full => by simp [full]⟩

theorem loadStruct_meets (found : heap.structs struct = some tracer) {fault : NodeFault → Prop} :
    Meets (loadStruct struct) heap fault fun value after => value = tracer ∧ after = heap := by
  simp [loadStruct, found]

theorem storeStruct_meets (found : heap.structs struct = some tracer)
    (change : NodeTracer → NodeTracer) {fault : NodeFault → Prop} :
    Meets (storeStruct struct change) heap fault fun _ after => after = { heap with
      structs := Function.update heap.structs struct (some (change tracer)) } := by
  simp [storeStruct, loadStruct, found]

theorem kzfreeStruct_meets (found : heap.structs struct = some tracer) {fault : NodeFault → Prop} :
    Meets (kzfreeStruct struct) heap fault fun _ after => after = { heap with
      structs := Function.update heap.structs struct none } := by
  simp [kzfreeStruct, loadStruct, found]

end Structs

/-! ## The tracer is made -/

section Made

variable {volumes : UInt8 → Bool} {kzalloc : Nat → Bool} {heap base : TracerHeap} {struct : Nat}
  {nodes : NodeTracer}

theorem Restored.refl (heap : TracerHeap) : Restored heap heap :=
  ⟨⟨by simp, fun _ _ => .inl rfl⟩, fun _ => .inl rfl⟩

/-- The struct in use is the one that has been requested. -/
structure Requested (base heap : TracerHeap) (struct : Nat) (nodes : NodeTracer) : Prop where
  new : base.nodes.requests ≤ struct
  structs : heap.structs = Function.update base.structs struct (some nodes)

theorem Requested.found (requested : Requested base heap struct nodes) :
    heap.structs struct = some nodes := by
  simp [requested.structs]

/-- The struct is freed last. -/
theorem Requested.freed (requested : Requested base heap struct nodes)
    (owns : Owns base.nodes heap.nodes []) {fault : NodeFault → Prop} :
    Meets (kzfreeStruct struct) heap fault fun _ after => Restored base after := by
  apply (kzfreeStruct_meets requested.found).mono
  rintro _ after rfl
  refine ⟨owns, fun other => ?_⟩
  by_cases here : other = struct
  · exact .inr ⟨here ▸ requested.new, by simp [here]⟩
  · exact .inl (by simp [requested.structs, here])

variable (volumes kzalloc) in
/-- A tracer that is made owns its struct and its nodes. Where none is made the heap is as it
was before. -/
theorem createTracer_owned (path : CString) (heap : TracerHeap) :
    Meets (createTracer volumes kzalloc (some path)) heap (fun _ => False) fun result after =>
      match (createPathTracer volumes kzalloc path heap.nodes.requests).1 with
      | .error code => result = .error code ∧ Restored heap after
      | .ok tracer => ∃ struct nodes, result = .ok struct ∧ Requested heap after struct nodes ∧
          OwnsTracer heap.nodes after.nodes nodes tracer := by
  rw [createTracer, createPathTracer]
  simp only [meets_ite]
  refine ⟨fun label => ?_, fun label => ⟨fun long => ?_, fun long => ⟨fun format => ?_,
    fun format => ⟨fun missing => ?_, fun found => ?_⟩⟩⟩⟩
  · rw [if_pos label]
    exact .pure ⟨rfl, .refl heap⟩
  · rw [if_neg label, if_pos long]
    exact .pure ⟨rfl, .refl heap⟩
  · rw [if_neg label, if_neg long, if_pos format]
    exact .pure ⟨rfl, .refl heap⟩
  · rw [if_neg label, if_neg long, if_neg format, if_pos missing]
    exact .pure ⟨rfl, .refl heap⟩
  rw [if_neg label, if_neg long, if_neg format, if_neg found]
  apply kzallocStruct_meets.bind
  rintro _ ⟨nodes, structs⟩ ⟨rfl, ⟨room, rfl, structs_made⟩ | ⟨full, rfl, structs_made⟩⟩
  · rw [if_neg (by simp [room])]
    obtain rfl : structs = _ := structs_made
    simp only
    apply (storeStruct_meets (Function.update_self ..) _).bind
    rintro _ _ rfl
    rw [meets_bind, meets_onNodes]
    apply kzallocPart_meets.mono
    simp only [Function.update_idem]
    rintro _ second ⟨requests, ⟨more, rfl, second_nodes⟩ | ⟨full, rfl, second_nodes⟩⟩
    · rw [if_neg (by simp [more])]
      simp only
      apply (storeStruct_meets (Function.update_self ..) _).bind
      rintro _ _ rfl
      apply (loadStruct_meets (Function.update_self ..)).bind
      rintro _ _ ⟨rfl, rfl⟩
      simp only [Function.update_idem]
      have fresh : second.node (heap.nodes.requests + 1) = some ⟨[], none, none, none⟩ := by
        simp [second_nodes]
      -- The list begins with one fresh node, and that is owned.
      have growing : Growing second (heap.nodes.requests + 1) [] [] (heap.nodes.requests + 1) := by
        refine ⟨rfl, segment_singleton.mpr ⟨?_, ?_⟩, rfl, ⟨_, fresh, rfl⟩, List.nodup_singleton _,
          ?_, ?_⟩
        · simp [NodeHeap.prev, fresh]
        · simp [NodeHeap.next, fresh]
        · simp [requests]
        · simp [requests]
      have owns : Owns heap.nodes second ([] ++ [heap.nodes.requests + 1]) := by
        refine ⟨by simp, fun cell outside => .inl ?_⟩
        rw [second_nodes, Function.update_of_ne (by simpa using outside)]
      rw [meets_bind, meets_onNodes, show heap.nodes.requests + 2 = second.requests from requests.symm]
      apply (collectNodes_owned _ _ _ _ _ _ _ [] growing owns).mono
      rintro result third ⟨-, outcome⟩
      generalize collectParts kzalloc [] [] second.requests (path.drop 3) = collected at outcome ⊢
      obtain ⟨code | ⟨done, last⟩, count⟩ := collected
      · obtain ⟨rfl, freed⟩ := outcome
        apply (Requested.freed ⟨Nat.le_refl _, rfl⟩ freed).bind
        exact fun _ after restored => .pure ⟨rfl, restored⟩
      · obtain ⟨lastPart, cells, rfl, grown, owns⟩ := outcome
        simp only
        by_cases directory : last = []
        · subst directory
          rw [meets_bind, meets_onNodes]
          apply (grown.dropped owns _).mono
          rintro _ after ⟨-, owned⟩
          exact .pure ⟨_, _, rfl, ⟨Nat.le_refl _, rfl⟩, owned⟩
        · rw [if_neg (by simpa using directory), meets_bind, meets_onNodes]
          apply (grown.finished owns _ directory).mono
          rintro _ after ⟨-, owned⟩
          exact .pure ⟨_, _, rfl, ⟨Nat.le_refl _, rfl⟩, owned⟩
    · rw [if_pos full]
      have owns : Owns heap.nodes second [] := ⟨by simp, fun cell _ => .inl (by simp [second_nodes])⟩
      apply (Requested.freed ⟨Nat.le_refl _, rfl⟩ owns).bind
      exact fun _ after restored => .pure ⟨rfl, restored⟩
  · rw [if_pos full]
    refine .pure ⟨rfl, ⟨by simp, fun _ _ => .inl rfl⟩, fun struct => .inl ?_⟩
    exact congrFun structs_made struct

end Made

/-! ## The tracer is used and destroyed -/

section Used

variable {kzalloc : Nat → Bool} {base heap after : TracerHeap} {struct : Nat} {cells : List Nat}
  {parts : List PathTracerPart}

/-- A tracer with parts: its struct and the nodes of its parts are owned. -/
structure InUse (base heap : TracerHeap) (struct : Nat) (cells : List Nat)
    (parts : List PathTracerPart) : Prop where
  requested : ∃ label, Requested base heap struct ⟨label, cells.head?⟩
  linked : Segment heap.nodes.next heap.nodes.prev none cells none
  held : cells.map heap.nodes.part = parts.map some
  few : cells.length ≤ heap.nodes.requests
  distinct : cells.Nodup
  owns : Owns base.nodes heap.nodes cells

/-- A tracer stays in use where its struct and its nodes stay. -/
theorem InUse.stays (inUse : InUse base heap struct cells parts)
    (node : after.nodes.node = heap.nodes.node) (structs : after.structs = heap.structs)
    (more : heap.nodes.requests ≤ after.nodes.requests) : InUse base after struct cells parts := by
  have links (cell : Nat) : after.nodes.next cell = heap.nodes.next cell ∧
      after.nodes.prev cell = heap.nodes.prev cell := by
    simp [NodeHeap.next, NodeHeap.prev, node]
  have shown : after.nodes.part = heap.nodes.part := by
    funext cell
    simp [NodeHeap.part, node]
  obtain ⟨label, new, requested⟩ := inUse.requested
  exact ⟨⟨label, new, structs.trans requested⟩, inUse.linked.congr fun cell _ => links cell,
    by simp [shown, inUse.held], Nat.le_trans inUse.few more, inUse.distinct,
    inUse.owns.change fun cell _ => by simp [node]⟩

/-- The nodes of a tracer in use are there. -/
theorem InUse.live (inUse : InUse base heap struct cells parts) {cell : Nat} (member : cell ∈ cells) :
    ∃ node, heap.nodes.node cell = some node := by
  have shown : heap.nodes.part cell ∈ parts.map some := by
    rw [← inUse.held]
    exact List.mem_map_of_mem member
  obtain ⟨_, -, shown⟩ := List.mem_map.mp shown
  obtain ⟨node, found, -⟩ := part_eq_some.mp shown.symm
  exact ⟨node, found⟩

/-- The string of the parts fits, and is written without changing a node. -/
theorem getNodePathString_keeps {heap : NodeHeap} {label : UInt8}
    (linked : Segment heap.next heap.prev none cells none)
    (held : cells.map heap.part = parts.map some) (few : cells.length ≤ heap.requests)
    (last : FileLast parts) (room : 3 + (partsString parts).length ≤ BOBAOS_MAX_PATH_SIZE) :
    Meets (getNodePathString kzalloc ⟨label, cells.head?⟩) heap (fun _ => False) fun _ after =>
      after.node = heap.node ∧ heap.requests ≤ after.requests := by
  have header : Buffered [label, COLON, SLASH]
      (overwrite (fun _ => 0) 0 3 fun i => [label, COLON, SLASH].getD i 0) := by
    have empty : Buffered [] fun _ => 0 := fun _ => rfl
    exact empty.append [label, COLON, SLASH]
  simp only [getNodePathString, meets_bind, meets_get, meets_set, meets_ite]
  refine ⟨fun _ => ?_, fun _ => ?_⟩
  · apply (copyParts_meets ⟨heap.node, heap.requests + 1⟩ (heap.requests + 1) cells linked held
      last (Nat.le_succ_of_le few) header room).mono
    rintro ret _ ⟨-, rfl⟩
    exact .pure ⟨rfl, Nat.le_succ _⟩
  · exact .pure ⟨rfl, Nat.le_succ _⟩

/-- Every pointer that an accessor has returned is NULL or points to a part. -/
def Returned (cells : List Nat) (pointers : List (Option Nat)) : Prop :=
  ∀ pointer ∈ pointers, pointer = none ∨ ∃ cell ∈ cells, pointer = some cell

theorem Returned.concat {pointers : List (Option Nat)} (returned : Returned cells pointers)
    {pointer : Option Nat} (valid : pointer = none ∨ ∃ cell ∈ cells, pointer = some cell) :
    Returned cells (pointers ++ [pointer]) := by
  intro other member
  rcases List.mem_append.mp member with earlier | last
  · exact returned other earlier
  · rw [List.mem_singleton.mp last]
    exact valid

theorem Returned.getD {pointers : List (Option Nat)} (returned : Returned cells pointers)
    (pointer : Nat) : pointers.getD pointer none = none ∨
      ∃ cell ∈ cells, pointers.getD pointer none = some cell := by
  rcases Nat.lt_or_ge pointer pointers.length with inside | outside
  · rw [List.getD_eq_getElem _ _ inside]
    exact returned _ (List.getElem_mem inside)
  · exact .inl (List.getD_eq_default _ _ outside)

variable (kzalloc) in
/-- A call of an accessor leaves the tracer in use and returns pointers to its parts. -/
theorem callAccessor_meets (inUse : InUse base heap struct cells parts) (last : FileLast parts)
    (room : 3 + (partsString parts).length ≤ BOBAOS_MAX_PATH_SIZE)
    {pointers : List (Option Nat)} (returned : Returned cells pointers) (call : Accessor) :
    Meets (callAccessor kzalloc struct pointers call) heap (fun _ => False) fun more after =>
      InUse base after struct cells parts ∧ Returned cells more := by
  obtain ⟨label, requested⟩ := inUse.requested
  cases call with
  | startTrace =>
    rw [callAccessor, pathTracerStartTrace, meets_bind]
    apply (loadStruct_meets requested.found).bind
    rintro _ _ ⟨rfl, rfl⟩
    rw [meets_pure, meets_pure]
    refine ⟨inUse, returned.concat ?_⟩
    cases cells with
    | nil => exact .inl rfl
    | cons cell rest => exact .inr ⟨cell, List.mem_cons_self, rfl⟩
  | getNext pointer =>
    rw [callAccessor]
    rcases returned.getD pointer with null | ⟨cell, member, points⟩
    · rw [null]
      exact .pure ⟨inUse, returned.concat (.inl rfl)⟩
    · obtain ⟨node, found⟩ := inUse.live member
      rw [points, pathTracerGetNext, meets_bind, meets_bind, meets_onNodes]
      apply (loadPart_meets found).mono
      rintro _ _ ⟨rfl, rfl⟩
      rw [meets_pure, meets_pure]
      refine ⟨inUse, returned.concat ?_⟩
      have onward := inUse.linked.next_mem member
      rwa [NodeHeap.next, found] at onward
  | getPathString =>
    rw [callAccessor]
    apply (loadStruct_meets requested.found).bind
    rintro _ _ ⟨rfl, rfl⟩
    rw [meets_bind, meets_onNodes]
    apply (getNodePathString_keeps inUse.linked inUse.held inUse.few last room).mono
    rintro _ after ⟨node, more⟩
    exact .pure ⟨inUse.stays node rfl more, returned⟩
  | getFileName =>
    rw [callAccessor]
    apply (loadStruct_meets requested.found).bind
    rintro _ _ ⟨rfl, rfl⟩
    rw [meets_bind, meets_onNodes, getNodeFileName, meets_bind, meets_get]
    apply (findFilePart_meets _ cells inUse.linked inUse.held (Nat.le_succ_of_le inUse.few)).mono
    rintro _ _ ⟨-, rfl⟩
    exact .pure ⟨inUse, returned⟩

variable (kzalloc) in
/-- So do any calls of accessors. -/
theorem callAccessors_meets (last : FileLast parts)
    (room : 3 + (partsString parts).length ≤ BOBAOS_MAX_PATH_SIZE) (calls : List Accessor) :
    ∀ (heap : TracerHeap) (pointers : List (Option Nat)), InUse base heap struct cells parts →
      Returned cells pointers →
        Meets (calls.foldlM (callAccessor kzalloc struct) pointers) heap (fun _ => False)
          fun _ after => InUse base after struct cells parts := by
  induction calls with
  | nil =>
    intro heap pointers inUse _
    exact .pure inUse
  | cons call calls ih =>
    intro heap pointers inUse returned
    rw [List.foldlM_cons]
    apply (callAccessor_meets kzalloc inUse last room returned call).bind
    rintro more after ⟨inUse, returned⟩
    exact ih after more inUse returned

/-- A tracer in use is destroyed with its nodes, and the heap is as it was. -/
theorem InUse.destroyed (inUse : InUse base heap struct cells parts) :
    Meets (destroyTracer struct) heap (fun _ => False) fun _ after => Restored base after := by
  obtain ⟨label, requested⟩ := inUse.requested
  rw [destroyTracer]
  apply (loadStruct_meets requested.found).bind
  rintro _ _ ⟨rfl, rfl⟩
  rw [meets_bind, meets_onNodes, destroyPathTracer, meets_bind, meets_get]
  apply (destroyParts_meets _ _ inUse.linked (fun _ member => inUse.live member) inUse.distinct
    (Nat.le_succ_of_le inUse.few)).mono
  rintro _ after ⟨-, cleared⟩
  have owns : Owns base.nodes after [] := inUse.owns.clear cleared
  have requested : Requested base ⟨after, _⟩ struct _ := ⟨requested.new, requested.structs⟩
  exact requested.freed owns

end Used

/-! ## A tracer without parts -/

section Broken

variable {kzalloc : Nat → Bool} {heap : TracerHeap} {struct : Nat}

/-- The struct points to a root that has been freed. -/
def Broken (struct : Nat) (heap : TracerHeap) : Prop :=
  ∃ label root, heap.structs struct = some ⟨label, some root⟩ ∧ heap.nodes.node root = none

/-- A call of an accessor does not help it, if it returns. -/
theorem callAccessor_broken (broken : Broken struct heap) (pointers : List (Option Nat))
    (call : Accessor) :
    Meets (callAccessor kzalloc struct pointers call) heap (fun _ => True) fun _ after =>
      Broken struct after := by
  obtain ⟨label, root, found, gone⟩ := id broken
  cases call with
  | startTrace => simpa [callAccessor, pathTracerStartTrace, loadStruct, found] using broken
  | getNext pointer =>
    rw [callAccessor]
    cases pointers.getD pointer none with
    | none => exact .pure broken
    | some part =>
      cases there : heap.nodes.node part with
      | none => simp [pathTracerGetNext, loadPart, there]
      | some node => simpa [pathTracerGetNext, loadPart, there] using broken
  | getPathString =>
    simp only [callAccessor, loadStruct, meets_bind, meets_get, found, meets_pure, meets_onNodes,
      getNodePathString, meets_set, meets_ite]
    refine ⟨fun _ => ?_, fun _ => ⟨label, root, found, gone⟩⟩
    simp [copyParts, loadPart, gone]
  | getFileName =>
    simp [callAccessor, loadStruct, found, getNodeFileName, findFilePart, loadPart, gone]

theorem callAccessors_broken (calls : List Accessor) :
    ∀ (heap : TracerHeap) (pointers : List (Option Nat)), Broken struct heap →
      Meets (calls.foldlM (callAccessor kzalloc struct) pointers) heap (fun _ => True)
        fun _ after => Broken struct after := by
  induction calls with
  | nil =>
    intro heap pointers broken
    exact .pure broken
  | cons call calls ih =>
    intro heap pointers broken
    rw [List.foldlM_cons]
    apply (callAccessor_broken broken pointers call).bind
    intro more after broken
    exact ih after more broken

/-- It cannot be destroyed: its root would be freed a second time. -/
theorem Broken.not_destroyed (broken : Broken struct heap) :
    Meets (destroyTracer struct) heap (fun _ => True) fun _ _ => False := by
  obtain ⟨label, root, found, gone⟩ := broken
  simp [destroyTracer, loadStruct, found, destroyPathTracer, destroyParts, loadPart, gone]

end Broken

/-! ## The life of a tracer -/

section Main

variable {volumes : UInt8 → Bool} {kzalloc : Nat → Bool} {path : CString} {requests after : Nat}
  {tracer : PathTracer}

theorem fileLast_append {parts rest : List PathTracerPart} (directories : Directories parts)
    (last : FileLast rest) : FileLast (parts ++ rest) := by
  induction parts with
  | nil => exact last
  | cons part parts ih =>
    have kind : part.type = .DIRECTORY := directories part List.mem_cons_self
    refine ⟨fun file => absurd (kind.symm.trans file) (by decide), ih fun other member => ?_⟩
    exact directories other (List.mem_cons_of_mem _ member)

/-- The parts of a path are directories but for the last one, and their string fits. -/
theorem createPathTracer_shape
    (created : createPathTracer volumes kzalloc path requests = (.ok tracer, after)) :
    FileLast tracer.parts ∧ 3 + (partsString tracer.parts).length ≤ BOBAOS_MAX_PATH_SIZE := by
  have spelled := createPathTracer_spells created
  simp only [createPathTracer] at created
  split_ifs at created with label long format missing first second
  any_goals cases created
  have short : path.length < BOBAOS_MAX_PATH_SIZE := Nat.not_le.mp long
  constructor
  · rcases collected : collectParts kzalloc [] [] (requests + 2) (path.drop 3) with
      ⟨code | ⟨done, last⟩, count⟩
    · simp [collected] at created
    · have room : ([] : CString).length + (path.drop 3).length < BOBAOS_MAX_PATH_SIZE - 1 := by
        simp only [List.length_nil, List.length_drop]
        have := congrArg List.length spelled
        simp only [pathTracerGetPathString, List.length_cons] at this
        omega
      obtain ⟨directories, -⟩ := collectParts_spells _ _ _ _ _ _ _ _
        (by simp [Directories]) room collected
      simp only [collected, Prod.mk.injEq, Except.ok.injEq] at created
      rw [← created.1]
      simp only
      split
      · simpa using fileLast_append directories (show FileLast [] from trivial)
      · exact fileLast_append directories ⟨fun _ => rfl, trivial⟩
  · have counted := congrArg List.length spelled
    simp only [pathTracerGetPathString, List.length_cons] at counted
    omega

/-- A tracer has no parts where its path is bare. -/
theorem bare_iff : Bare volumes kzalloc (some path) requests ↔ ∃ tracer,
    (createPathTracer volumes kzalloc path requests).1 = .ok tracer ∧ tracer.parts = [] := by
  constructor
  · rintro ⟨label, same, valid, volume, first, second⟩
    obtain rfl := Option.some.inj same
    refine ⟨⟨label, []⟩, ?_, rfl⟩
    simp [createPathTracer, BOBAOS_MAX_PATH_SIZE, valid, volume, first, second, collectParts]
  · rintro ⟨tracer, created, nothing⟩
    rcases traced : createPathTracer volumes kzalloc path requests with ⟨result, count⟩
    obtain rfl : result = .ok tracer := by simpa [traced] using created
    have spelled := createPathTracer_spells traced
    rw [pathTracerGetPathString, nothing, partsString] at spelled
    subst spelled
    simp only [createPathTracer] at traced
    split_ifs at traced with label long format missing first second
    any_goals cases traced
    simp only [Bool.not_eq_false] at label missing first second
    exact ⟨tracer.label, rfl, label, missing, first, second⟩

variable (volumes kzalloc) in
/-- Whatever accessors are called, a tracer follows no pointer to a freed block, frees none
twice and leaks none, unless its path is bare. -/
theorem tracer_tidy_iff (path : Option CString) (calls : List Accessor) (heap : TracerHeap) :
    Tidy volumes kzalloc path calls heap ↔ ¬ Bare volumes kzalloc path heap.nodes.requests := by
  cases path with
  | none =>
    refine iff_of_true ?_ fun ⟨_, impossible, _⟩ => by cases impossible
    rw [Tidy, useTracer, createTracer, meets_bind]
    exact .pure (.pure (.refl heap))
  | some path =>
    have created := createTracer_owned volumes kzalloc path heap
    rcases traced : createPathTracer volumes kzalloc path heap.nodes.requests with
      ⟨code | tracer, count⟩
    · rw [traced] at created
      refine iff_of_true ?_ fun bare => ?_
      · apply created.bind
        rintro _ after ⟨rfl, restored⟩
        exact .pure restored
      · obtain ⟨tracer, impossible, -⟩ := bare_iff.mp bare
        rw [traced] at impossible
        cases impossible
    · rw [traced] at created
      have bare : Bare volumes kzalloc (some path) heap.nodes.requests ↔ tracer.parts = [] := by
        rw [bare_iff, traced]
        simp
      rw [bare]
      constructor
      · intro tidy nothing
        have stuck : Meets (useTracer volumes kzalloc (some path) calls) heap (fun _ => True)
            fun _ _ => False := by
          apply (created.mono_fault fun _ _ => trivial).bind
          rintro _ after ⟨struct, nodes, rfl, requested, owned⟩
          obtain ⟨⟨root, points, gone⟩, -⟩ := owned.freed nothing
          have broken : Broken struct after := by
            refine ⟨nodes.label, root, ?_, gone⟩
            rw [requested.found, ← points]
          apply (callAccessors_broken calls after [] broken).bind
          intro _ after broken
          exact broken.not_destroyed.bind fun _ _ impossible => impossible.elim
        obtain ⟨_, _, ran, -⟩ := tidy.returns
        exact stuck.returned ran
      · intro some
        apply created.bind
        rintro _ after ⟨struct, ⟨label, root⟩, rfl, requested, owned⟩
        obtain ⟨cells, rfl, linked, held, few, distinct, owns⟩ := owned.listed some
        obtain ⟨last, room⟩ := createPathTracer_shape traced
        apply (callAccessors_meets kzalloc last room calls after []
          ⟨⟨label, requested⟩, linked, held, few, distinct, owns⟩ (by simp [Returned])).bind
        intro _ after inUse
        apply inUse.destroyed.bind
        intro _ after restored
        exact .pure restored

/-- The root directory of a volume: the root is freed twice. -/
theorem root_path_untidy : ¬ Tidy (fun _ => true) (fun _ => true) (some [67, COLON, SLASH]) []
    ⟨⟨fun _ => none, 0⟩, fun _ => none⟩ := by
  intro tidy
  obtain ⟨_, _, ran, -⟩ := tidy.returns
  have faulted : faultOf ((useTracer (fun _ => true) (fun _ => true) (some [67, COLON, SLASH])
      []).run ⟨⟨fun _ => none, 0⟩, fun _ => none⟩) = some .invalidPointer := by decide
  rw [ran] at faulted
  cases faulted

end Main

end BobaOS.Vfsl
