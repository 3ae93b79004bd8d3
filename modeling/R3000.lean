import R3000.Cpu.Snapshot
import R3000.Listing
import R3000.Machine
import R3000.Main
import R3000.Monitor.Basic
import R3000.Runner.Session
import R3000.Settings.Basic
import R3000.Trace
import R3000.Proofs.Calls
import R3000.Proofs.Memory.Window
import R3000.Proofs.Memory.Flat
import R3000.Proofs.Machine.Effect
import R3000.Proofs.Machine.Handler
import R3000.Proofs.Cpu.Effect
import R3000.Proofs.Cycle
import R3000.Proofs.Atomicity
import R3000.Proofs.DelaySlot
import R3000.Proofs.RegisterArray
import R3000.Proofs.LoadDelay
import R3000.Proofs.Monitor.Outcome
import R3000.Proofs.Cpu.Merge
import R3000.Proofs.Memory.Unaligned
import R3000.Proofs.Memory.Patch
import R3000.Proofs.UnalignedWords
import R3000.Proofs.Memory.Extent
import R3000.Proofs.Isolation
import R3000.Proofs.Monitor.Calls
import R3000.Proofs.Monitor.Reset
import R3000.Proofs.Monitor.Tracing
import R3000.Proofs.Instruction.Operands
import R3000.Proofs.Disassembly
import R3000.Proofs.Instruction.Classification
import R3000.Proofs.DiscardedLoads
import R3000.Proofs.Monitor.Invariant
import R3000.Proofs.Monitor.TraceCount
import R3000.Proofs.Memory.Fit
import R3000.Proofs.Refusal
import R3000.Proofs.Word
import R3000.Proofs.Cpu.HiLo
import R3000.Proofs.Cpu.Calculation
import R3000.Proofs.Monitor.Chunks
import R3000.Proofs.Memory.Stretch
import R3000.Proofs.Listing
import R3000.Proofs.Text.Numeral
import R3000.Proofs.Settings.Address
import R3000.Proofs.UnalignedMerge
import R3000.Proofs.Memory.Overlap
import R3000.Proofs.Settings.Layers
import R3000.Proofs.Monitor.FaultReport
import R3000.Proofs.Checked.Word
import R3000.Proofs.Checked.Memory
import R3000.Proofs.Checked.Handler
import R3000.Proofs.Checked.Machine
