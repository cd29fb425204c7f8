import BobaOS.Library.Programs
import BobaOS.Paging.PageRanges

/-!
# Windows on device memory

`mmioMap` maps the memory of a device behind the memory mapped before. The pages of
a window are written by `mapOrCreateRange` from the page of its address on, while
the next address advances by the bytes of the window. So a window that does not end
with its page shares that page with the next one.

The two readings of a base address register, from which `getPciBarInfo` takes base
and size, are parameters.
-/

namespace BobaOS.Paging

open Runs TableTree

def BOBAOS_MMIO_MAX_ALLOC : Nat := 64
def BOBAOS_MMIO_VIRTUAL : BitVec 64 := 0xffffA00000000000

/-! ## Code -/

structure PciBarInfo where
  isIo : Bool
  base : BitVec 32
  size : BitVec 32

def getPciBarInfo (originalBAR mask : BitVec 32) : PciBarInfo :=
  let isIo := originalBAR &&& 1 = 1
  let sizeMask := if isIo then 0xFFFFFFFC else 0xFFFFFFF0
  ⟨isIo, originalBAR &&& sizeMask, ~~~(mask &&& sizeMask) + 1⟩

/-- `struct mmioAllocateData`, without the flags that nothing sets. -/
structure MmioAllocateData where
  busDeviceFunction : BitVec 32
  physical : BitVec 64
  virtual : BitVec 64
  size : BitVec 64

/-- The variables of `mmioEngine.c`, with the memory of the page tables. -/
structure Engine where
  pages : State
  allocatedDataStructList : Nat → MmioAllocateData
  allocatedData : Nat
  allocatedSize : BitVec 64
  currVirtualAddress : BitVec 64

/-- What keeps a call from returning: a loop without end, or a record behind the
list. -/
inductive MmioFault where
  | endless
  | outOfBounds

section Code

variable (answers : Nat → BitVec 64) (root : BitVec 64)

def mmioMap (physical size : BitVec 64) (bus device function : BitVec 8) (engine : Engine) :
    Except MmioFault (BitVec 64 × Engine) :=
  if BOBAOS_MMIO_MAX_ALLOC < engine.allocatedData then .ok (0, engine)
  else match remapPhysicalToVirtualRange answers physical engine.currVirtualAddress size root
      engine.pages with
    | none => .error .endless
    | some (code, pages) =>
      if code < 0 then .ok (0, { engine with pages })
      else if BOBAOS_MMIO_MAX_ALLOC ≤ engine.allocatedData then .error .outOfBounds
      else
        let data : MmioAllocateData :=
          ⟨bus.setWidth 32 <<< 16 ||| device.setWidth 32 <<< 8 ||| function.setWidth 32,
            physical, engine.currVirtualAddress, size⟩
        .ok (engine.currVirtualAddress, {
          pages
          allocatedDataStructList :=
            Function.update engine.allocatedDataStructList engine.allocatedData data
          allocatedData := engine.allocatedData + 1
          allocatedSize := engine.allocatedSize + size
          currVirtualAddress := engine.currVirtualAddress + size })

end Code

/-! ## Ranges of pages -/

variable {answers : Nat → BitVec 64} {root : BitVec 64}

/-- An offset that does not lead out of the memory is added. -/
theorem toNat_offset (start : BitVec 64) (offset : Nat) (small : start.toNat + offset < 2 ^ 64) :
    (start + BitVec.ofNat 64 offset).toNat = start.toNat + offset := by
  rw [BitVec.toNat_add, BitVec.toNat_ofNat]
  omega

/-- How many pages a page lies behind another one. -/
def pagesBehind (first page : BitVec 36) : Nat := (page - first).toNat

theorem pagesBehind_iff (first page : BitVec 36) (count : Nat) (small : count < 2 ^ 36) :
    pagesBehind first page = count ↔ page = first + BitVec.ofNat 36 count := by
  have firstBound := first.isLt
  have pageBound := page.isLt
  rw [pagesBehind, BitVec.toNat_eq, BitVec.toNat_sub, BitVec.toNat_add, BitVec.toNat_ofNat]
  omega

/-- The pages of a range from a given one on have been mapped, and no others. -/
structure MapsRange (answers : Nat → BitVec 64) (root physStart virtStart : BitVec 64)
    (first total : Nat) (before after : State) : Prop where
  shaped : WellShaped answers root after
  leaves : ∀ page, leafEntry after.memory root page =
    if first ≤ pagesBehind (pageOf virtStart) page ∧ pagesBehind (pageOf virtStart) page < total then
      pageWord (physStart + BitVec.ofNat 64 (4096 * pagesBehind (pageOf virtStart) page))
    else leafEntry before.memory root page

/-- A range is mapped from its first page on. -/
theorem mapOrCreateRange_maps (fresh : FreshPages answers) {state : State}
    (shaped : WellShaped answers root state) (physStart virtStart : BitVec 64) {size : BitVec 64}
    {total : Nat} (whole : size.toNat = 4096 * total) (small : size.toNat ≤ 2 ^ 31)
    (some : 0 < total) : ∃ code after,
      mapOrCreateRange answers root physStart virtStart size state = .some (code, after) ∧
      (code = SUCCESS ∧ MapsRange answers root physStart virtStart 0 total state after ∨
        code = -ENMEM) := by
  rcases mapOrCreateRange_law fresh physStart virtStart size shaped with
    ⟨-, large⟩ | ⟨code, after, last, ran, mapped, ended⟩
  · omega
  refine ⟨code, after, ran, ended.symm.imp_left ?_⟩
  rintro ⟨succeeded, -, covered, exact_end⟩
  obtain rfl : last = total := by omega
  refine ⟨succeeded, mapped.shaped, fun page => ?_⟩
  have offset {k : Nat} (below : k < last) : pageOf (virtStart + counterOffset k) =
      pageOf virtStart + BitVec.ofNat 36 k := by
    rw [counterOffset_small k (by omega), pageOf_add]
  split_ifs with inside
  · have here := (pagesBehind_iff (pageOf virtStart) page _ (by omega)).mp rfl
    have written := mapped.written _ inside.1 inside.2
    rwa [offset inside.2, ← here, counterOffset_small _ (by omega)] at written
  · refine mapped.others page fun c _ below same => inside ?_
    rw [offset below, ← pagesBehind_iff _ _ _ (by omega)] at same
    omega

/-! ## Windows -/

/-- A call of a run: the readings of the base address register, the device, and the
address returned. -/
structure MmioCall where
  originalBAR : BitVec 32
  mask : BitVec 32
  bus : BitVec 8
  device : BitVec 8
  function : BitVec 8
  address : BitVec 64

def MmioCall.physical (call : MmioCall) : BitVec 64 :=
  (getPciBarInfo call.originalBAR call.mask).base.setWidth 64

def MmioCall.size (call : MmioCall) : BitVec 64 :=
  (getPciBarInfo call.originalBAR call.mask).size.setWidth 64

/-- Sequences of successful calls, on a page table on which anything may have been
mapped before. -/
def mappings (answers : Nat → BitVec 64) (root : BitVec 64) : System Engine MmioCall where
  start engine := engine.allocatedData = 0 ∧ engine.currVirtualAddress = BOBAOS_MMIO_VIRTUAL ∧
    ∃ past session, (sessions answers root).Reaches past session ∧ engine.pages = session.state
  step engine call after := 0 < call.size.toNat ∧ call.address ≠ 0 ∧
    mmioMap answers root call.physical call.size call.bus call.device call.function engine =
      .ok (call.address, after)

/-- Every byte of the window translates to the byte of the device. -/
def MmioCall.Translates (root : BitVec 64) (engine : Engine) (call : MmioCall) : Prop :=
  ∀ offset < call.size.toNat,
    virtualToPhysical (call.address + BitVec.ofNat 64 offset) root engine.pages.memory =
      call.physical + BitVec.ofNat 64 offset

/-- The record fits into the list, the pages of the range are counted by an `int`,
physical and virtual address lie at the same place of their pages, the last page is
mapped, and a first page that is shared is mapped to that page already. -/
structure MmioCall.Fits (root : BitVec 64) (engine : Engine) (call : MmioCall) : Prop where
  recorded : engine.allocatedData < BOBAOS_MMIO_MAX_ALLOC
  counted : (upToPage call.size).toNat ≤ 2 ^ 31
  together : call.physical.toNat % 4096 = engine.currVirtualAddress.toNat % 4096
  covered : engine.currVirtualAddress.toNat % 4096 + call.size.toNat ≤ (upToPage call.size).toNat
  shared : engine.currVirtualAddress.toNat % 4096 = 0 ∨
    virtualToPhysical engine.currVirtualAddress root engine.pages.memory = call.physical

/-- The page of every byte of the window is mapped to its page on the device, and
the next window begins behind. -/
structure MmioCall.Mapped (root : BitVec 64) (engine : Engine) (call : MmioCall) : Prop where
  leaves : ∀ offset < call.size.toNat,
    leafEntry engine.pages.memory root (pageOf (call.address + BitVec.ofNat 64 offset)) =
      pageWord (call.physical + BitVec.ofNat 64 offset)
  together : call.physical.toNat % 4096 = call.address.toNat % 4096
  behind : BOBAOS_MMIO_VIRTUAL.toNat ≤ call.address.toNat ∧
    call.address.toNat + call.size.toNat ≤ engine.currVirtualAddress.toNat

/-- What holds of every sequence of calls that fit. -/
structure Apart (answers : Nat → BitVec 64) (root : BitVec 64) (past : List MmioCall)
    (engine : Engine) : Prop where
  shaped : WellShaped answers root engine.pages
  counted : engine.allocatedData = past.length
  few : past.length ≤ BOBAOS_MMIO_MAX_ALLOC
  near : BOBAOS_MMIO_VIRTUAL.toNat ≤ engine.currVirtualAddress.toNat ∧
    engine.currVirtualAddress.toNat ≤ BOBAOS_MMIO_VIRTUAL.toNat + past.length * 2 ^ 31
  mapped : ∀ call ∈ past, call.Mapped root engine

theorem MmioCall.size_small (call : MmioCall) : call.size.toNat < 2 ^ 32 := by
  have bound := (getPciBarInfo call.originalBAR call.mask).size.isLt
  rw [MmioCall.size, BitVec.toNat_setWidth]
  omega

theorem MmioCall.physical_small (call : MmioCall) : call.physical.toNat < 2 ^ 32 := by
  have bound := (getPciBarInfo call.originalBAR call.mask).base.isLt
  rw [MmioCall.physical, BitVec.toNat_setWidth]
  omega

/-- The engine after a window of the size has been mapped. -/
structure Advanced (engine after : Engine) (size : BitVec 64) : Prop where
  allocatedData : after.allocatedData = engine.allocatedData + 1
  currVirtualAddress : after.currVirtualAddress = engine.currVirtualAddress + size

section Calls

variable {engine after : Engine} {call : MmioCall} {past : List MmioCall}

/-- A call that fits maps its pages or finds the heap full. -/
theorem mmioMap_cases (fresh : FreshPages answers) (shaped : WellShaped answers root engine.pages)
    (some : 0 < call.size.toNat) (fits : call.Fits root engine) : ∃ address after,
      mmioMap answers root call.physical call.size call.bus call.device call.function engine =
        .ok (address, after) ∧
      (address = 0 ∨ address = engine.currVirtualAddress ∧
        Advanced engine after call.size ∧
        MapsRange answers root call.physical engine.currVirtualAddress 0
          ((call.size.toNat + 4095) / 4096) engine.pages after.pages) := by
  have pages := upToPage_toNat call.size (by have small := call.size_small; omega)
  obtain ⟨code, after, ran, outcome⟩ := mapOrCreateRange_maps fresh shaped call.physical
    engine.currVirtualAddress pages fits.counted (by omega)
  have recorded := fits.recorded
  rw [mmioMap, if_neg (by omega), remapPhysicalToVirtualRange, ran]
  simp only
  rcases outcome with ⟨rfl, maps⟩ | rfl
  · rw [if_neg (by decide), if_neg (by omega)]
    exact ⟨_, _, rfl, .inr ⟨rfl, ⟨rfl, rfl⟩, maps⟩⟩
  · rw [if_pos (by decide)]
    exact ⟨_, _, rfl, .inl rfl⟩

/-- A window that is mapped translates. -/
theorem MmioCall.Mapped.translates (mapped : call.Mapped root engine)
    (shaped : WellShaped answers root engine.pages)
    (near : engine.currVirtualAddress.toNat < BOBAOS_MMIO_VIRTUAL.toNat + 2 ^ 38) :
    call.Translates root engine := by
  intro offset inside
  have size := call.size_small
  have physical := call.physical_small
  have together := mapped.together
  obtain ⟨above, below⟩ := mapped.behind
  have start : BOBAOS_MMIO_VIRTUAL.toNat = 0xffffA00000000000 := rfl
  have behind := toNat_offset call.physical offset (by omega)
  have address := toNat_offset call.address offset (by omega)
  apply BitVec.eq_of_toNat_eq
  rw [virtualToPhysical_mapped shaped _ (by omega) (mapped.leaves offset inside), behind, address]
  omega

/-- A window mapped before stays mapped. Its last page may be the first one of the
new window, which is then mapped to the same page. -/
theorem MmioCall.Mapped.kept {new : MmioCall} (mapped : call.Mapped root engine)
    (shaped : WellShaped answers root engine.pages) (fits : new.Fits root engine)
    (near : engine.currVirtualAddress.toNat < BOBAOS_MMIO_VIRTUAL.toNat + 2 ^ 38)
    (maps : MapsRange answers root new.physical engine.currVirtualAddress 0
      ((new.size.toNat + 4095) / 4096) engine.pages after.pages)
    (forth : engine.currVirtualAddress.toNat ≤ after.currVirtualAddress.toNat) :
    call.Mapped root after := by
  refine ⟨?_, mapped.together, mapped.behind.1, Nat.le_trans mapped.behind.2 forth⟩
  intro offset inside
  have size := call.size_small
  have new_size := new.size_small
  have physical := call.physical_small
  have new_physical := new.physical_small
  obtain ⟨above, below⟩ := mapped.behind
  have start : BOBAOS_MMIO_VIRTUAL.toNat = 0xffffA00000000000 := rfl
  have leaf := mapped.leaves offset inside
  have address := toNat_offset call.address offset (by omega)
  have behind := toNat_offset call.physical offset (by omega)
  have page := pageOf_toNat (call.address + BitVec.ofNat 64 offset)
  have first := pageOf_toNat engine.currVirtualAddress
  rw [maps.leaves, leaf]
  by_cases same : pageOf (call.address + BitVec.ofNat 64 offset) = pageOf engine.currVirtualAddress
  · have none_behind : pagesBehind (pageOf engine.currVirtualAddress)
        (pageOf (call.address + BitVec.ofNat 64 offset)) = 0 := by
      rw [pagesBehind, same, BitVec.sub_self]
      rfl
    rw [none_behind]
    split
    · -- The address of the new window lies behind the byte, on the same page.
      rw [same] at page leaf
      have unaligned : engine.currVirtualAddress.toNat % 4096 ≠ 0 := by omega
      have shared := fits.shared.resolve_left unaligned
      have found := virtualToPhysical_mapped shaped engine.currVirtualAddress (by omega) leaf
      rw [shared, behind] at found
      refine pageWord_congr ?_
      rw [behind, Nat.mul_zero, BitVec.toNat_add, BitVec.toNat_ofNat]
      omega
    · rfl
  · rw [if_neg]
    rw [BitVec.toNat_eq] at same
    rw [pagesBehind, BitVec.toNat_sub]
    omega

/-- Near the first window, the next address does not wrap. -/
theorem Advanced.advance (advanced : Advanced engine after call.size)
    (near : engine.currVirtualAddress.toNat < BOBAOS_MMIO_VIRTUAL.toNat + 2 ^ 38) :
    after.currVirtualAddress.toNat = engine.currVirtualAddress.toNat + call.size.toNat := by
  have size := call.size_small
  have start : BOBAOS_MMIO_VIRTUAL.toNat = 0xffffA00000000000 := rfl
  rw [advanced.currVirtualAddress, BitVec.toNat_add]
  omega

/-- The new window is mapped. -/
theorem Advanced.mapped (advanced : Advanced engine after call.size)
    (address : call.address = engine.currVirtualAddress) (fits : call.Fits root engine)
    (near : BOBAOS_MMIO_VIRTUAL.toNat ≤ engine.currVirtualAddress.toNat ∧
      engine.currVirtualAddress.toNat < BOBAOS_MMIO_VIRTUAL.toNat + 2 ^ 38)
    (maps : MapsRange answers root call.physical engine.currVirtualAddress 0
      ((call.size.toNat + 4095) / 4096) engine.pages after.pages) :
    call.Mapped root after := by
  have size := call.size_small
  have physical := call.physical_small
  have together := fits.together
  have covered := fits.covered
  rw [upToPage_toNat _ (by omega)] at covered
  have start : BOBAOS_MMIO_VIRTUAL.toNat = 0xffffA00000000000 := rfl
  have advance := advanced.advance near.2
  refine ⟨?_, by rw [address]; exact together, ?_⟩
  · intro offset inside
    have byte := toNat_offset engine.currVirtualAddress offset (by omega)
    have behind : pagesBehind (pageOf engine.currVirtualAddress)
        (pageOf (engine.currVirtualAddress + BitVec.ofNat 64 offset)) =
        (engine.currVirtualAddress.toNat % 4096 + offset) / 4096 := by
      rw [pagesBehind, BitVec.toNat_sub, pageOf_toNat, pageOf_toNat, byte]
      omega
    rw [address, maps.leaves, behind, if_pos (by omega)]
    refine pageWord_congr ?_
    rw [BitVec.toNat_add, BitVec.toNat_add, BitVec.toNat_ofNat, BitVec.toNat_ofNat]
    omega
  · rw [address, advance]
    omega

theorem Apart.near_end (apart : Apart answers root past engine) :
    engine.currVirtualAddress.toNat < BOBAOS_MMIO_VIRTUAL.toNat + 2 ^ 38 := by
  have near := apart.near.2
  have few := apart.few
  simp only [BOBAOS_MMIO_MAX_ALLOC] at few
  omega

/-- One call that fits. -/
theorem Apart.step (fresh : FreshPages answers) (apart : Apart answers root past engine)
    (fits : call.Fits root engine) (stepped : (mappings answers root).step engine call after) :
    Apart answers root (past ++ [call]) after := by
  obtain ⟨some, returned, called⟩ := stepped
  obtain ⟨address, next, ran, outcome⟩ := mmioMap_cases fresh apart.shaped some fits
  rw [called] at ran
  obtain ⟨rfl, rfl⟩ := Prod.mk.inj (Except.ok.inj ran)
  obtain ⟨address, advanced, maps⟩ := outcome.resolve_left returned
  have near := apart.near_end
  have recorded := fits.recorded
  have counted := fits.counted
  have size := call.size_small
  have pages := upToPage_toNat call.size (by omega)
  have advance := advanced.advance near
  have one_more : (past ++ [call]).length = past.length + 1 := List.length_append
  refine ⟨maps.shaped, ?_, ?_, ?_, ?_⟩
  · rw [advanced.allocatedData, apart.counted, one_more]
  · rw [one_more, ← apart.counted]
    exact recorded
  · have before := apart.near
    rw [one_more, advance]
    omega
  · intro other member
    rcases List.mem_append.mp member with old | new
    · exact (apart.mapped other old).kept apart.shaped fits near maps (by omega)
    · rw [List.mem_singleton.mp new]
      exact advanced.mapped address fits ⟨apart.near.1, near⟩ maps

theorem apart_invariant (fresh : FreshPages answers) :
    System.Invariant ((mappings answers root).restrict fun engine call => call.Fits root engine)
      (Apart answers root) where
  initially := by
    rintro engine ⟨none, first, past, session, reached, pages⟩
    obtain ⟨map, -, sound, -⟩ := (sessions_simulated fresh).reached reached
    refine ⟨pages ▸ sound.shaped, none, Nat.zero_le _, ?_, ?_⟩
    · rw [first]
      exact ⟨Nat.le_refl _, Nat.le_add_right _ _⟩
    · exact fun call member => absurd member List.not_mem_nil
  preserved past engine after call apart stepped := apart.step fresh stepped.1 stepped.2

/-- As long as every call fits, all windows translate at any later point, every
record is inside the list, and a further call that fits returns. -/
theorem windows_translate_while_calls_fit (fresh : FreshPages answers)
    (reached : ((mappings answers root).restrict fun engine call => call.Fits root engine).Reaches
      past engine) :
    (∀ call ∈ past, call.Translates root engine) ∧
      engine.allocatedData = past.length ∧ past.length ≤ BOBAOS_MMIO_MAX_ALLOC ∧
      ∀ call : MmioCall, 0 < call.size.toNat → call.Fits root engine → ∃ address after,
        mmioMap answers root call.physical call.size call.bus call.device call.function engine =
          .ok (address, after) := by
  have apart := (apart_invariant fresh).reached reached
  refine ⟨?_, apart.counted, apart.few, ?_⟩
  · intro call member
    exact (apart.mapped call member).translates apart.shaped apart.near_end
  · intro call some fits
    obtain ⟨address, after, ran, -⟩ := mmioMap_cases fresh apart.shaped some fits
    exact ⟨address, after, ran⟩

end Calls

/-! ### Two windows of half a page -/

/-- The engine before the first call, on an empty table. -/
def firstEngine : Engine := ⟨firstTable, fun _ => ⟨0, 0, 0, 0⟩, 0, 0, BOBAOS_MMIO_VIRTUAL⟩

theorem firstEngine_starts : (mappings sixteenPages 0x600000).start firstEngine := by
  have created : createEmptyPageTable sixteenPages ⟨fun _ => 0, 0⟩ = (0x600000, firstTable) := rfl
  exact ⟨rfl, rfl, [], ⟨firstTable, fun _ => False⟩,
    .start _ ⟨by decide, ⟨_, created⟩, fun _ => id⟩, rfl⟩

/-- A window of one page. -/
def pageWindow : MmioCall := ⟨0xFEBF1000, 0xFFFFF000, 0, 31, 2, BOBAOS_MMIO_VIRTUAL⟩

/-- It is mapped first. -/
theorem first_window_translates : ∃ engine,
    ((mappings sixteenPages 0x600000).restrict fun engine call =>
      call.Fits 0x600000 engine).Reaches [pageWindow] engine ∧
    pageWindow.Translates 0x600000 engine := by
  have mapped : ((mmioMap sixteenPages 0x600000 pageWindow.physical pageWindow.size 0 31 2
      firstEngine).toOption.map Prod.fst) = some BOBAOS_MMIO_VIRTUAL := by decide +kernel
  obtain ⟨⟨address, engine⟩, came, rfl⟩ := Option.map_eq_some_iff.mp mapped
  have fits : pageWindow.Fits 0x600000 firstEngine :=
    ⟨by decide, by decide, by decide, by decide, .inl (by decide)⟩
  have stepped : (mappings sixteenPages 0x600000).step firstEngine pageWindow engine :=
    ⟨by decide, by decide, Programs.ok_of_toOption came⟩
  have started : ((mappings sixteenPages 0x600000).restrict fun engine call =>
      call.Fits 0x600000 engine).Reaches [] firstEngine := .start firstEngine firstEngine_starts
  have reached := System.Reaches.step [] firstEngine engine pageWindow started ⟨fits, stepped⟩
  have law := windows_translate_while_calls_fit sixteenPages_fresh reached
  exact ⟨engine, reached, law.1 pageWindow (List.mem_singleton_self _)⟩

/-- Windows of half a page on different pages of their device. -/
def halfWindow : MmioCall := ⟨0xFEBF1000, 0xFFFFF800, 0, 31, 2, BOBAOS_MMIO_VIRTUAL⟩
def nextHalfWindow : MmioCall := ⟨0xFEBF2000, 0xFFFFF800, 0, 31, 5, BOBAOS_MMIO_VIRTUAL + 0x800⟩

/-- The second one takes the page of the first. -/
theorem second_window_takes_page :
    ¬ ∀ (answers : Nat → BitVec 64) (root : BitVec 64) (past : List MmioCall) (engine : Engine),
      FreshPages answers → (mappings answers root).Reaches past engine →
      ∀ call ∈ past, call.Translates root engine := by
  intro claim
  have mapped : ((mmioMap sixteenPages 0x600000 halfWindow.physical halfWindow.size 0 31 2
      firstEngine).toOption.bind fun first =>
        (mmioMap sixteenPages 0x600000 nextHalfWindow.physical nextHalfWindow.size 0 31 5
          first.2).toOption.map fun second =>
            (first.1, second.1, virtualToPhysical first.1 0x600000 second.2.pages.memory)) =
      some (halfWindow.address, nextHalfWindow.address, 0xFEBF2000) := by decide +kernel
  obtain ⟨⟨address, first⟩, came, mapped⟩ := Option.bind_eq_some_iff.mp mapped
  obtain ⟨⟨next, second⟩, next_came, shown⟩ := Option.map_eq_some_iff.mp mapped
  simp only [Prod.mk.injEq] at shown
  obtain ⟨rfl, rfl, translated⟩ := shown
  have early : (mappings sixteenPages 0x600000).step firstEngine halfWindow first :=
    ⟨by decide, by decide, Programs.ok_of_toOption came⟩
  have late : (mappings sixteenPages 0x600000).step first nextHalfWindow second :=
    ⟨by decide, by decide, Programs.ok_of_toOption next_came⟩
  have reached := System.Reaches.step [halfWindow] first second nextHalfWindow
    (.step [] firstEngine first halfWindow (.start firstEngine firstEngine_starts) early) late
  have translates := claim sixteenPages 0x600000 _ second sixteenPages_fresh reached halfWindow
    List.mem_cons_self 0 (by decide)
  rw [show halfWindow.address + BitVec.ofNat 64 0 = halfWindow.address by decide, translated]
    at translates
  exact absurd translates (by decide)

end BobaOS.Paging
