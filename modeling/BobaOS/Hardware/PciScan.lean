import Mathlib.Data.List.Nodup
import Mathlib.Data.List.ProdSigma
import BobaOS.Library.LoggedLoops
import BobaOS.Status

/-!
# The scan of the PCI buses

`pci.c`: every device of the buses is read through its first function. A device whose first
function says that it has several has the others read as well, and those are read with the
same code: a further function that says so too is read without an end.

The configuration space is a parameter, read through the word that selects a register. The
heap is taken to have room. The fuel is the depth to which `readPciDevice` calls itself. The
devices with which `pushDevice` was called are kept, so that a run can be asked what it
pushed.
-/

namespace BobaOS.Hardware

open LoggedLoops

def BOBAOS_MAX_PCI_DEVICES : Nat := 0xF

def PCI_HEADER_TYPE_DEVICE : UInt8 := 0x0
def PCI_HEADER_TYPE_PCI_BRIDGE : UInt8 := 0x1
def PCI_HEADER_TYPE_CARD_BUS_BRIDGE : UInt8 := 0x2
def PCI_HEADER_TYPE_MULTI_FUNCTION : UInt8 := 0x80

/-- The register behind a word in `PCI_CONFIG_ADDRESS`. -/
abbrev ConfigSpace := UInt32 → UInt32

structure PciHeaderDevice where
  BAR0 : UInt32
  BAR1 : UInt32
  BAR2 : UInt32
  BAR3 : UInt32
  BAR4 : UInt32
  BAR5 : UInt32
  CisPointer : UInt32
  subSystemId : UInt16
  subSystemVendorId : UInt16
  expansionRomAddress : UInt32
  capabilitiesPointer : UInt8
  maxLatency : UInt8
  minGrant : UInt8
  interruptPin : UInt8
  interruptLine : UInt8

structure PciHeader where
  deviceId : UInt16
  vendorId : UInt16
  status : UInt16
  command : UInt16
  classCode : UInt8
  subClass : UInt8
  prog : UInt8
  revisionId : UInt8
  bist : UInt8
  headerType : UInt8
  latencyTimer : UInt8
  cacheLineSize : UInt8
  deviceHeader : Option PciHeaderDevice

structure PciDevice where
  bus : UInt8
  device : UInt8
  function : UInt8
  header : PciHeader

def PciDevice.address (pciDevice : PciDevice) : UInt8 × UInt8 × UInt8 :=
  (pciDevice.bus, pciDevice.device, pciDevice.function)

/-- The array of devices up to its next index, and the devices that were pushed. -/
structure PciState where
  pciDevices : List PciDevice
  pushed : List PciDevice

section Code

def pushDevice (device : PciDevice) (state : PciState) : Code × PciState :=
  let pushed := state.pushed ++ [device]
  if state.pciDevices.length = BOBAOS_MAX_PCI_DEVICES then (-ENMEM, { state with pushed })
  else (0, ⟨state.pciDevices ++ [device], pushed⟩)

variable (space : ConfigSpace)

def readConfig (bus device function offset : UInt8) : UInt32 :=
  space (((1 : UInt32) <<< 31) ||| (bus.toUInt32 <<< 16) ||| (device.toUInt32 <<< 11) |||
    (function.toUInt32 <<< 8) ||| (offset &&& 0xFC).toUInt32)

def readDeviceHeader (bus device function : UInt8) : PciHeaderDevice :=
  let read := readConfig space bus device function
  { BAR0 := read 0x10
    BAR1 := read 0x14
    BAR2 := read 0x18
    BAR3 := read 0x1C
    BAR4 := read 0x20
    BAR5 := read 0x24
    CisPointer := read 0x28
    subSystemId := (read 0x2C >>> 16).toUInt16
    subSystemVendorId := (read 0x2C).toUInt16
    expansionRomAddress := read 0x30
    capabilitiesPointer := (read 0x34).toUInt8
    maxLatency := (read 0x3C >>> 24).toUInt8
    minGrant := (read 0x3C >>> 16).toUInt8
    interruptPin := (read 0x3C >>> 8).toUInt8
    interruptLine := (read 0x3C).toUInt8 }

/-- The part of the header that all functions have. -/
def readHeader (bus device function : UInt8) : PciHeader :=
  let read := readConfig space bus device function
  { deviceId := (read 0x0 >>> 16).toUInt16
    vendorId := (read 0x0).toUInt16
    status := (read 0x4 >>> 16).toUInt16
    command := (read 0x4).toUInt16
    classCode := (read 0x8 >>> 24).toUInt8
    subClass := (read 0x8 >>> 16).toUInt8
    prog := (read 0x8 >>> 8).toUInt8
    revisionId := (read 0x8).toUInt8
    bist := (read 0xC >>> 24).toUInt8
    headerType := (read 0xC >>> 16).toUInt8
    latencyTimer := (read 0xC >>> 8).toUInt8
    cacheLineSize := (read 0xC).toUInt8
    deviceHeader := none }

def readVendor (bus device function : UInt8) : UInt16 :=
  (readConfig space bus device function 0x0 &&& 0xFFFF).toUInt16

/-- What was read is pushed, unless it is NULL. -/
def pushFound (read : Option PciDevice × PciState) : PciState :=
  match read with
  | (none, state) => state
  | (some pciDevice, state) => (pushDevice pciDevice state).2

/-- The functions behind the first one. -/
def subFunctions : List UInt8 := [1, 2, 3, 4, 5, 6, 7]

/-- NULL for a function that is not supported. -/
def readPciDevice : Nat → UInt8 → UInt8 → UInt8 → PciState → Option (Option PciDevice × PciState)
  | 0, _, _, _, _ => none
  | fuel + 1, bus, device, function, state =>
    let header := readHeader space bus device function
    if header.headerType = PCI_HEADER_TYPE_DEVICE then
      let deviceHeader := readDeviceHeader space bus device function
      some (some ⟨bus, device, function, { header with deviceHeader := some deviceHeader }⟩, state)
    else if header.headerType = PCI_HEADER_TYPE_PCI_BRIDGE then some (none, state)
    else if header.headerType = PCI_HEADER_TYPE_CARD_BUS_BRIDGE then some (none, state)
    else if header.headerType = PCI_HEADER_TYPE_MULTI_FUNCTION then
      (subFunctions.foldlM (fun state i =>
        if readVendor space bus device i = 0xFFFF then some state
        else (readPciDevice fuel bus device i state).map pushFound) state).map
          fun state => (some ⟨bus, device, function, header⟩, state)
    else some (none, state)

/-- The buses, and the devices of each, that are scanned. -/
def buses : List UInt8 := (List.range 255).map UInt8.ofNat
def devices : List UInt8 := (List.range 32).map UInt8.ofNat

def pciScanBus (fuel : Nat) (state : PciState) : Option PciState :=
  buses.foldlM (fun state bus =>
    devices.foldlM (fun state device =>
      if readVendor space bus device 0 = 0xFFFF then some state
      else (readPciDevice space fuel bus device 0 state).map pushFound) state) state

end Code

/-! ## Functions that are read without an end -/

variable {space : ConfigSpace} {bus device function : UInt8}

/-- The function says that there are others, and one of those says so too. -/
def Nested (space : ConfigSpace) (bus device function : UInt8) : Prop :=
  (readHeader space bus device function).headerType = PCI_HEADER_TYPE_MULTI_FUNCTION ∧
    ∃ i ∈ subFunctions, readVendor space bus device i ≠ 0xFFFF ∧
      (readHeader space bus device i).headerType = PCI_HEADER_TYPE_MULTI_FUNCTION

/-- A nested function is not read to its end, however deep. -/
theorem readPciDevice_nested (fuel : Nat) : ∀ (function : UInt8) (state : PciState),
    Nested space bus device function →
      readPciDevice space fuel bus device function state = none := by
  induction fuel with
  | zero => exact fun _ _ _ => rfl
  | succ fuel ih =>
    rintro function state ⟨several, i, member, present, again⟩
    -- The function that says so too is nested itself.
    have stuck (state : PciState) : readPciDevice space fuel bus device i state = none :=
      ih i state ⟨again, i, member, present, again⟩
    have not_device : PCI_HEADER_TYPE_MULTI_FUNCTION ≠ PCI_HEADER_TYPE_DEVICE := by decide
    have not_bridge : PCI_HEADER_TYPE_MULTI_FUNCTION ≠ PCI_HEADER_TYPE_PCI_BRIDGE := by decide
    have not_card : PCI_HEADER_TYPE_MULTI_FUNCTION ≠ PCI_HEADER_TYPE_CARD_BUS_BRIDGE := by decide
    simp only [readPciDevice, several, if_neg not_device, if_neg not_bridge, if_neg not_card]
    rw [foldlM_stuck member fun state => by simp [present, stuck]]
    rfl

/-! ## What is pushed -/

/-- The addresses that have been pushed. -/
def addresses (state : PciState) : List (UInt8 × UInt8 × UInt8) :=
  state.pushed.map PciDevice.address

/-- What has been read has the address that it was read at. -/
def ReadAt (bus device function : UInt8) (read : Option PciDevice) : Prop :=
  ∀ pciDevice, read = some pciDevice → pciDevice.address = (bus, device, function)

theorem pushFound_extends {state after : PciState} {entries : List (UInt8 × UInt8 × UInt8)}
    {read : Option PciDevice} (grown : Extends addresses state entries after)
    (located : ReadAt bus device function read) :
    Extends addresses state (entries ++ [(bus, device, function)]) (pushFound (read, after)) := by
  refine grown.append ?_
  cases read with
  | none => exact .refl _ _
  | some pciDevice =>
    refine ⟨[(bus, device, function)], ?_, List.Sublist.refl _⟩
    have here := located pciDevice rfl
    simp only [addresses, pushFound, pushDevice]
    split <;> simp [here]

/-- A function that does not say that there are others is read at once. -/
theorem readPciDevice_single (fuel : Nat) (state : PciState)
    (single : (readHeader space bus device function).headerType ≠ PCI_HEADER_TYPE_MULTI_FUNCTION) :
    ∃ read, readPciDevice space (fuel + 1) bus device function state = some (read, state) ∧
      ReadAt bus device function read := by
  simp only [readPciDevice, if_neg single]
  split
  · exact ⟨_, rfl, by rintro _ ⟨⟩; rfl⟩
  · split
    · exact ⟨_, rfl, nofun⟩
    · split
      · exact ⟨_, rfl, nofun⟩
      · exact ⟨_, rfl, nofun⟩

/-- A function that is not nested is read to its end, and its device has pushed each of its
other functions at most once. -/
theorem readPciDevice_returns (flat : ¬ Nested space bus device function) (state : PciState) :
    ∃ read after, readPciDevice space 2 bus device function state = some (read, after) ∧
      ReadAt bus device function read ∧
        Extends addresses state (subFunctions.map fun i => (bus, device, i)) after := by
  by_cases several : (readHeader space bus device function).headerType =
      PCI_HEADER_TYPE_MULTI_FUNCTION
  · have each : ∀ i ∈ subFunctions, ∀ state : PciState, ∃ after,
        (if readVendor space bus device i = 0xFFFF then some state
          else (readPciDevice space 1 bus device i state).map pushFound) = some after ∧
          Extends addresses state [(bus, device, i)] after := by
      intro i member state
      by_cases absent : readVendor space bus device i = 0xFFFF
      · exact ⟨state, if_pos absent, .refl _ _⟩
      · have single := fun again => flat ⟨several, i, member, absent, again⟩
        obtain ⟨read, ran, located⟩ := readPciDevice_single 0 state single
        refine ⟨_, by rw [if_neg absent, ran]; rfl, ?_⟩
        exact pushFound_extends (.refl state []) located
    obtain ⟨after, ran, grown⟩ := foldlM_extends each state
    have not_device : PCI_HEADER_TYPE_MULTI_FUNCTION ≠ PCI_HEADER_TYPE_DEVICE := by decide
    have not_bridge : PCI_HEADER_TYPE_MULTI_FUNCTION ≠ PCI_HEADER_TYPE_PCI_BRIDGE := by decide
    have not_card : PCI_HEADER_TYPE_MULTI_FUNCTION ≠ PCI_HEADER_TYPE_CARD_BUS_BRIDGE := by decide
    refine ⟨some ⟨bus, device, function, readHeader space bus device function⟩, after, ?_, ?_, ?_⟩
    · rw [readPciDevice]
      simp only [several, if_neg not_device, if_neg not_bridge, if_neg not_card, ran]
      rfl
    · rintro _ ⟨⟩
      rfl
    · rw [List.map_eq_flatMap]
      exact grown
  · obtain ⟨read, ran, located⟩ := readPciDevice_single 1 state several
    exact ⟨read, state, ran, located, .refl _ _⟩

/-! ## The scan -/

/-- The functions that are scanned, in the order in which they may be pushed. -/
def scanned : List (UInt8 × UInt8 × UInt8) :=
  buses.flatMap fun bus => devices.flatMap fun device =>
    (subFunctions ++ [0]).map fun function => (bus, device, function)

/-- Small numbers are different bytes. -/
theorem nodup_bytes {count : Nat} (few : count ≤ 256) :
    ((List.range count).map UInt8.ofNat).Nodup := by
  refine List.Nodup.map_on ?_ List.nodup_range
  intro left left_small right right_small same
  rw [List.mem_range] at left_small right_small
  have values := congrArg UInt8.toNat same
  rwa [UInt8.toNat_ofNat_of_lt' (Nat.lt_of_lt_of_le left_small few),
    UInt8.toNat_ofNat_of_lt' (Nat.lt_of_lt_of_le right_small few)] at values

theorem scanned_nodup : scanned.Nodup := by
  have product : scanned = buses.product (devices.product (subFunctions ++ [0])) := by
    simp only [scanned, List.product, List.map_flatMap, List.map_map]
    rfl
  rw [product]
  exact (nodup_bytes (by decide)).product ((nodup_bytes (by decide)).product (by decide))

/-- A device that has a first function. -/
def Present (space : ConfigSpace) (bus device : UInt8) : Prop :=
  readVendor space bus device 0 ≠ 0xFFFF

/-- A scan without nested functions returns, and pushes no function twice. -/
theorem pciScanBus_returns
    (flat : ∀ bus ∈ buses, ∀ device ∈ devices, Present space bus device →
      ¬ Nested space bus device 0) (state : PciState) :
    ∃ after, pciScanBus space 2 state = some after ∧ Extends addresses state scanned after := by
  refine foldlM_extends (fun bus bus_member state => foldlM_extends (fun device device_member state =>
    ?_) state) state
  by_cases absent : readVendor space bus device 0 = 0xFFFF
  · exact ⟨state, if_pos absent, .refl _ _⟩
  · obtain ⟨read, after, ran, located, grown⟩ :=
      readPciDevice_returns (flat bus bus_member device device_member absent) state
    refine ⟨pushFound (read, after), by rw [if_neg absent, ran]; rfl, ?_⟩
    rw [List.map_append]
    exact pushFound_extends grown located

/-- A scan with a nested function does not return, however deep. -/
theorem pciScanBus_stuck {bus device : UInt8} (bus_member : bus ∈ buses)
    (device_member : device ∈ devices) (present : Present space bus device)
    (nested : Nested space bus device 0) (fuel : Nat) (state : PciState) :
    pciScanBus space fuel state = none := by
  refine foldlM_stuck bus_member (fun state => foldlM_stuck device_member (fun state => ?_) state) state
  rw [if_neg present, readPciDevice_nested fuel 0 state nested]
  rfl

variable (space) in
/-- A function is read to its end if and only if it is not nested. The scan ends, and has
then pushed every function at most once, if and only if no first function is nested that it
finds. -/
theorem scan_ends_iff :
    (∀ bus device function state,
      (∃ fuel, (readPciDevice space fuel bus device function state).isSome) ↔
        ¬ Nested space bus device function) ∧
    ((∃ fuel after, pciScanBus space fuel ⟨[], []⟩ = some after ∧ (addresses after).Nodup) ↔
      ∀ bus ∈ buses, ∀ device ∈ devices, Present space bus device → ¬ Nested space bus device 0) := by
  constructor
  · intro bus device function state
    constructor
    · rintro ⟨fuel, returned⟩ nested
      simp [readPciDevice_nested fuel function state nested] at returned
    · intro flat
      obtain ⟨read, after, ran, -⟩ := readPciDevice_returns flat state
      exact ⟨2, by simp [ran]⟩
  · constructor
    · rintro ⟨fuel, after, ran, -⟩ bus bus_member device device_member present nested
      simp [pciScanBus_stuck bus_member device_member present nested] at ran
    · intro flat
      obtain ⟨after, ran, grown⟩ := pciScanBus_returns flat ⟨[], []⟩
      exact ⟨2, after, ran, grown.nodup rfl scanned_nodup⟩

/-- A device whose functions all say that there are others. -/
def endlessDevice : ConfigSpace := fun _ => 0x00800000

theorem endlessDevice_not_scanned :
    ¬ ∃ fuel after, pciScanBus endlessDevice fuel ⟨[], []⟩ = some after := by
  rintro ⟨fuel, after, ran⟩
  have first : (0 : UInt8) ∈ buses := List.mem_map_of_mem (List.mem_range.mpr (by decide))
  have device : (0 : UInt8) ∈ devices := List.mem_map_of_mem (List.mem_range.mpr (by decide))
  have nested : Nested endlessDevice 0 0 0 := ⟨by decide, 1, by decide, by decide, by decide⟩
  simp [pciScanBus_stuck first device (by unfold Present; decide) nested] at ran

end BobaOS.Hardware
