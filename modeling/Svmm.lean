import Svmm.Framework.Word
import Svmm.Framework.Scan
import Svmm.Framework.Run
import Svmm.Framework.Account
import Svmm.Framework.NestedService
import Svmm.Framework.Paging
import Svmm.Framework.Sse
import Svmm.Framework.Bytes
import Svmm.Framework.Delivery
import Svmm.Framework.ByteFile
import Svmm.Framework.Simulation
import Svmm.Framework.Registry
import Svmm.Framework.Loop
import Svmm.Framework.Bisection
import Svmm.Framework.Rates
import Svmm.Framework.Calendar
import Svmm.Construction.State
import Svmm.Construction.Apic.VectorRegister
import Svmm.Construction.Apic.Delivery
import Svmm.Construction.IoApic
import Svmm.Construction.Apic.Registers
import Svmm.Construction.Pic
import Svmm.Construction.RunLoop
import Svmm.Construction.IoApicWindow
import Svmm.Construction.Flash
import Svmm.Construction.Paging
import Svmm.Construction.MemorySlots
import Svmm.Construction.Timer
import Svmm.Construction.DeviceCall
import Svmm.Construction.Pit
import Svmm.Construction.Dma
import Svmm.Construction.Cmos
import Svmm.Construction.Hpet
import Svmm.Construction.HpetDevice
import Svmm.Construction.Acpi
import Svmm.Construction.Apic.Ipi
import Svmm.Construction.Apic.Timer
import Svmm.Construction.Apic.Mmio
import Svmm.Construction.HardDisk.State
import Svmm.Construction.HardDisk.Transfer
import Svmm.Construction.HardDisk.Identify
import Svmm.Construction.HardDisk.Commands
import Svmm.Construction.HardDisk.Atapi
import Svmm.Construction.HardDisk.Ports
import Svmm.Construction.HardDisk.Timer
import Svmm.Construction.Vhd
import Svmm.Construction.Sparse
import Svmm.Construction.Pci
import Svmm.Construction.Ide
import Svmm.Construction.PciConfig
import Svmm.Construction.PciIrq
import Svmm.Construction.GvmMemory
import Svmm.Construction.Dispatch
import Svmm.Construction.PciBar
import Svmm.Construction.Ps2
import Svmm.Construction.Scancodes
import Svmm.Construction.Ps2Ports
import Svmm.Construction.Vga.State
import Svmm.Construction.Vga.Memory
import Svmm.Construction.Vga.Ports
import Svmm.Construction.Vga.Retrace
import Svmm.Construction.Vga.Update
import Svmm.Construction.Vga.Text
import Svmm.Construction.Vga.Step
import Svmm.Construction.Vga.TextDraw
import Svmm.Construction.Breakpoints
import Svmm.Properties.Apic.Effects
import Svmm.Properties.Apic.Bus
import Svmm.Properties.Apic.Nesting
import Svmm.Properties.Pic.Effects
import Svmm.Properties.IoApic.Effects
import Svmm.Properties.Frames
import Svmm.Properties.Window
import Svmm.Properties.Pic.Commands
import Svmm.Properties.Pic.Acknowledge
import Svmm.Properties.Pic.NestedMode
import Svmm.Properties.Pic.Priority
import Svmm.Properties.Pic.Stranding
import Svmm.Properties.Apic.Stranding
import Svmm.Properties.IoApic.Entry
import Svmm.Properties.IoApic.Level
import Svmm.Properties.IoApic.Redelivery
import Svmm.Properties.IoApic.Edge
import Svmm.Properties.Paging
import Svmm.Properties.HostMemory
import Svmm.Properties.Apic.Ipi
import Svmm.Properties.Timer.Effects
import Svmm.Properties.Timer.Clock
import Svmm.Properties.Timer.Firing
import Svmm.Properties.Timer.Locality
import Svmm.Properties.Timer.Arming
import Svmm.Properties.HardDisk.Effects
import Svmm.Properties.HardDisk.Address
import Svmm.Properties.HardDisk.ReadCheck
import Svmm.Properties.HardDisk.Sectors
import Svmm.Properties.HardDisk.Commands
import Svmm.Properties.HardDisk.Block
import Svmm.Properties.HardDisk.PioRead
import Svmm.Properties.HardDisk.PioWrite
import Svmm.Properties.HardDisk.Lba48
import Svmm.Properties.HardDisk.Drives
import Svmm.Properties.HardDisk.Moves
import Svmm.Properties.HardDisk.PortMoves
import Svmm.Properties.HardDisk.BusyRequest
import Svmm.Properties.HardDisk.Images
import Svmm.Properties.HardDisk.Seeks
import Svmm.Properties.HardDisk.BufferSafe
import Svmm.Properties.HardDisk.Stepping
import Svmm.Properties.HardDisk.Identity
import Svmm.Properties.Dma.Programming
import Svmm.Properties.Dma.RequestLine
import Svmm.Properties.Dma.Ports
import Svmm.Properties.Acpi
import Svmm.Properties.Vga.Planes
import Svmm.Properties.Vga.Accesses
import Svmm.Properties.Vga.Views
import Svmm.Properties.Vga.Palette
import Svmm.Properties.Vga.DerivedCrtc
import Svmm.Properties.Vga.ReadBack
import Svmm.Properties.Vga.WriteModes
import Svmm.Properties.Vga.Aperture
import Svmm.Properties.Vga.Divisors
import Svmm.Properties.Vga.TextRows
import Svmm.Properties.Vga.Bounds
import Svmm.Properties.Vga.StalePixels
import Svmm.Properties.Vga.Retrace
import Svmm.Properties.Vga.TextDraw
import Svmm.Properties.Vga.Footprint
import Svmm.Properties.Vga.TextWindow
import Svmm.Properties.Cmos.Clock
import Svmm.Properties.Cmos.Causes
import Svmm.Properties.Cmos.RateTimer
import Svmm.Properties.Vhd
import Svmm.Properties.Sparse
import Svmm.Properties.Pci
import Svmm.Properties.Ide.Copies
import Svmm.Properties.Ide.DmaTick
import Svmm.Properties.Ide.DmaStages
import Svmm.Properties.Ide.DmaRead
import Svmm.Properties.Breakpoints
import Svmm.Properties.PciConfig.Effects
import Svmm.Properties.PciConfig.Routing
import Svmm.Properties.PciConfig.Local
import Svmm.Properties.PciConfig.Wide
import Svmm.Properties.PciIrq
import Svmm.Properties.GvmMemory
import Svmm.Properties.Dispatch
import Svmm.Properties.Ps2
import Svmm.Properties.Ps2Keys
import Svmm.Properties.Ps2Commands
import Svmm.Properties.Ps2Bounds
import Svmm.Properties.Apic.TaskPriority
import Svmm.Properties.Pic.Lines
import Svmm.Properties.Pic.Reinit
import Svmm.Properties.IoApic.Window
import Svmm.Properties.Flash
import Svmm.Properties.PciBar
import Svmm.Properties.DbgServer.Reads
import Svmm.Properties.DbgServer.Copies
import Svmm.Properties.Kd
import Svmm.Properties.VhdHeaders
import Svmm.Properties.Pit.Divisors
import Svmm.Properties.Pit.Channels
import Svmm.Properties.Pit.Reads
import Svmm.Properties.Pit.Loads
import Svmm.Properties.Pit.Transitions
import Svmm.Properties.Hpet.Effects
import Svmm.Properties.Hpet.Counter
import Svmm.Properties.Hpet.Periodic
import Svmm.Properties.Hpet.Halves
import Svmm.Properties.Hpet.Lines
import Svmm.Properties.Hpet.Modes
import Svmm.Properties.Apic.ReadBack
import Svmm.Properties.Apic.SoftwareDisable
import Svmm.Properties.Apic.TimerCount
import Svmm.Framework.RingBuffer
import Svmm.Construction.IoExit
import Svmm.Construction.VhdSectors
import Svmm.Construction.KeyQueue
import Svmm.Properties.IoExit
import Svmm.Properties.VhdSectors
import Svmm.Properties.KeyQueue
import Svmm.Properties.HardDisk.PacketData
import Svmm.Properties.HardDisk.PacketSend
import Svmm.Properties.HardDisk.PacketReply
import Svmm.Properties.HardDisk.CdRead
import Svmm.Properties.Provenance
