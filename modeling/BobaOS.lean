import BobaOS.Library.Runs
import BobaOS.Library.ByteStore
import BobaOS.Status
import BobaOS.Heap.PageHeap
import BobaOS.Library.Extents
import BobaOS.Heap.PageBlocks
import BobaOS.Library.TableTree
import BobaOS.Paging.PageMap
import BobaOS.Disk.DiskStream
import BobaOS.Disk.PartitionStream
import BobaOS.Vfsl.PathTracer
import BobaOS.Vfsl.OpenFiles
import BobaOS.Vfsl.OpenPaths
import BobaOS.Vfsl.FilePositions
import BobaOS.Library.Programs
import BobaOS.Library.Chains
import BobaOS.Library.Words
import BobaOS.Fat.Volume
import BobaOS.Fat.Table
import BobaOS.Fat.TableLaws
import BobaOS.Fat.ChainLaws
import BobaOS.Fat.WriteLaws
import BobaOS.Fat.WellFormed
import BobaOS.Fat.WriteFile
import BobaOS.Library.LinkedLists
import BobaOS.Vfsl.PathNodes
import BobaOS.Disk.DiskIds
import BobaOS.Disk.VolumeLabels
import BobaOS.Paging.MmioWindows
import BobaOS.Heap.BuddyHeap
import BobaOS.Heap.BuddyLaws
import BobaOS.Heap.BuddyTables
import BobaOS.Heap.BuddyShape
import BobaOS.Heap.BuddyMerges
import BobaOS.Heap.BuddyBlocks
import BobaOS.Heap.BuddyLists
import BobaOS.Heap.BuddyCoalescing
import BobaOS.Fat.LongNames
import BobaOS.Fat.Directories
import BobaOS.Fat.FileCreation
import BobaOS.Fat.DirectoryPaths
import BobaOS.Fat.DirectoryReads
import BobaOS.Fat.DirectoryScans
import BobaOS.Fat.Unlinking
import BobaOS.Fat.FreeClusters
import BobaOS.Fat.ReadFile
import BobaOS.Fat.WriteParts
import BobaOS.Fat.EntryReaders
import BobaOS.Fat.Geometry
import BobaOS.Fat.ShortNames
import BobaOS.Heap.FirstFit
import BobaOS.Fat.EntryUpdates
import BobaOS.Fat.BufferSizes
import BobaOS.Fat.ChainWalks
import BobaOS.Fat.HeapFrames
import BobaOS.Fat.FileAccess
import BobaOS.Fat.FreeSlots
import BobaOS.Fat.Failures
import BobaOS.Heap.PageFrees
import BobaOS.Heap.BuddyRequests
import BobaOS.Heap.BuddyNavigation
import BobaOS.Paging.TableRequests
import BobaOS.Paging.PageRanges
import BobaOS.Paging.Translations
import BobaOS.Paging.RangeRemaps
import BobaOS.Paging.MemoryMap
import BobaOS.Disk.AhciDriver
import BobaOS.Disk.AhciCommands
import BobaOS.Disk.AhciSlots
import BobaOS.Library.Copies
import BobaOS.Library.BoundedBuffers
import BobaOS.Library.Numerals
import BobaOS.Output.PrintNumerals
import BobaOS.Library.TextPages
import BobaOS.Output.Terminal
import BobaOS.Output.TerminalText
import BobaOS.Disk.PartitionTables
import BobaOS.Disk.ByteSizes
import BobaOS.Vfsl.Attachments
import BobaOS.Vfsl.NodeLifetimes
import BobaOS.Hardware.PciScan
import BobaOS.Library.LoggedLoops
import BobaOS.Library.BitFields
import BobaOS.Hardware.DescriptorTable
import BobaOS.Task.Processes
import BobaOS.Paging.VirtualReads
import BobaOS.Power.AcpiTables
import BobaOS.Memory.ByteCopies
import BobaOS.Library.RecordStacks
import BobaOS.Library.LastWrites
import BobaOS.Library.RelatedPrograms
import BobaOS.Output.Console
import BobaOS.Output.Kprintf
import BobaOS.Output.Colours
import BobaOS.Interrupts.Machine
import BobaOS.Interrupts.Stubs
import BobaOS.Interrupts.Interruptions
import BobaOS.Interrupts.Gates
import BobaOS.Interrupts.TrapHandlers
import BobaOS.Interrupts.Traps
import BobaOS.Interrupts.Panics
import BobaOS.Interrupts.TrapRuns
import BobaOS.Library.FileStores
import BobaOS.Fat.StoredFiles
import BobaOS.Library.Patience
import BobaOS.Disk.AtaPio
import BobaOS.Disk.AtaProtocol
import BobaOS.Disk.AtaTransfers
import BobaOS.Disk.AtaDisk
import BobaOS.Heap.PageRequests
import BobaOS.Paging.BootMemory
