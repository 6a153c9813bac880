import TrapDispatch.Address
import TrapDispatch.Arch
import TrapDispatch.Bench.Console
import TrapDispatch.Bench.Execute
import TrapDispatch.Bench.Host
import TrapDispatch.Bench.Registers
import TrapDispatch.Bench.Script
import TrapDispatch.Bench.Services
import TrapDispatch.Bench.Session
import TrapDispatch.Bench.World
import TrapDispatch.Cause
import TrapDispatch.Config
import TrapDispatch.CpuIndex
import TrapDispatch.Encoding
import TrapDispatch.Encoding.Arm
import TrapDispatch.Encoding.Gate
import TrapDispatch.Encoding.RiscV
import TrapDispatch.Encoding.X86
import TrapDispatch.Error
import TrapDispatch.Frame
import TrapDispatch.Frame.Text
import TrapDispatch.Interrupt.Apic
import TrapDispatch.Interrupt.Controller
import TrapDispatch.Interrupt.Gic
import TrapDispatch.Interrupt.Line
import TrapDispatch.Interrupt.Pic
import TrapDispatch.Interrupt.Plic
import TrapDispatch.Interrupt.Registers
import TrapDispatch.Interrupt.Registry
import TrapDispatch.Interrupt.Scope
import TrapDispatch.Kernel.Machine
import TrapDispatch.Kernel.Server
import TrapDispatch.Kernel.Service
import TrapDispatch.Kernel.SystemCall
import TrapDispatch.Kernel.Trap
import TrapDispatch.Kernel.Wiring
import TrapDispatch.Log.Line
import TrapDispatch.Log.Logger
import TrapDispatch.Log.Record
import TrapDispatch.Log.Target
import TrapDispatch.Log.Uart
import TrapDispatch.Privilege
import TrapDispatch.Program
import TrapDispatch.Proofs.Accounts
import TrapDispatch.Proofs.Acknowledgement
import TrapDispatch.Proofs.Agreement
import TrapDispatch.Proofs.AlikeDrivers
import TrapDispatch.Proofs.ApicLines
import TrapDispatch.Proofs.Assertions
import TrapDispatch.Proofs.Attendance
import TrapDispatch.Proofs.Beside
import TrapDispatch.Proofs.Bonds
import TrapDispatch.Proofs.Bookkeeping
import TrapDispatch.Proofs.CallChecks
import TrapDispatch.Proofs.CallCourse
import TrapDispatch.Proofs.CallDecision
import TrapDispatch.Proofs.CallTables
import TrapDispatch.Proofs.CallTraps
import TrapDispatch.Proofs.Calm
import TrapDispatch.Proofs.CauseRegister
import TrapDispatch.Proofs.Classes
import TrapDispatch.Proofs.Closing
import TrapDispatch.Proofs.Completion
import TrapDispatch.Proofs.CompletionOrder
import TrapDispatch.Proofs.Conduct
import TrapDispatch.Proofs.Confinement
import TrapDispatch.Proofs.ControllerCalls
import TrapDispatch.Proofs.Conventions
import TrapDispatch.Proofs.Counterparts
import TrapDispatch.Proofs.Counters
import TrapDispatch.Proofs.CpuIndices
import TrapDispatch.Proofs.Disciplines
import TrapDispatch.Proofs.DroppedRequests
import TrapDispatch.Proofs.Emission
import TrapDispatch.Proofs.EndCommands
import TrapDispatch.Proofs.EnteredCalls
import TrapDispatch.Proofs.FaultCounts
import TrapDispatch.Proofs.FaultOutcomes
import TrapDispatch.Proofs.Faults
import TrapDispatch.Proofs.Gates
import TrapDispatch.Proofs.Gateways
import TrapDispatch.Proofs.GicLines
import TrapDispatch.Proofs.GuardedScopes
import TrapDispatch.Proofs.Guarding
import TrapDispatch.Proofs.HandledCalls
import TrapDispatch.Proofs.Handlers
import TrapDispatch.Proofs.Hardware
import TrapDispatch.Proofs.HardwareAccounts
import TrapDispatch.Proofs.History
import TrapDispatch.Proofs.Holdings
import TrapDispatch.Proofs.Lanes
import TrapDispatch.Proofs.Law
import TrapDispatch.Proofs.Ledger
import TrapDispatch.Proofs.LineOutcomes
import TrapDispatch.Proofs.LoadedContexts
import TrapDispatch.Proofs.Lockstep
import TrapDispatch.Proofs.LogLines
import TrapDispatch.Proofs.Lookups
import TrapDispatch.Proofs.MaskedTraps
import TrapDispatch.Proofs.Masking
import TrapDispatch.Proofs.Nesting
import TrapDispatch.Proofs.OpenLines
import TrapDispatch.Proofs.Outcomes
import TrapDispatch.Proofs.OwnData
import TrapDispatch.Proofs.Pairings
import TrapDispatch.Proofs.PicLines
import TrapDispatch.Proofs.PicPair
import TrapDispatch.Proofs.PlainDrivers
import TrapDispatch.Proofs.PlicLines
import TrapDispatch.Proofs.Postings
import TrapDispatch.Proofs.Preemption
import TrapDispatch.Proofs.RawFrames
import TrapDispatch.Proofs.Reentry
import TrapDispatch.Proofs.Regimes
import TrapDispatch.Proofs.Registrations
import TrapDispatch.Proofs.Rejection
import TrapDispatch.Proofs.Requests
import TrapDispatch.Proofs.Rescheduling
import TrapDispatch.Proofs.Restoring
import TrapDispatch.Proofs.Resumption
import TrapDispatch.Proofs.ReturnValues
import TrapDispatch.Proofs.Routes
import TrapDispatch.Proofs.SpecialLines
import TrapDispatch.Proofs.Steps
import TrapDispatch.Proofs.Switching
import TrapDispatch.Proofs.Terminations
import TrapDispatch.Proofs.Transmission
import TrapDispatch.Proofs.TransmitQueue
import TrapDispatch.Proofs.Treatment
import TrapDispatch.Proofs.UnclaimedLines
import TrapDispatch.Proofs.UserPointers
import TrapDispatch.Proofs.UserRanges
import TrapDispatch.Proofs.VectorLines
import TrapDispatch.Proofs.Waiting
import TrapDispatch.Proofs.Wiring
import TrapDispatch.Proofs.WordAccess
import TrapDispatch.Proofs.WordsOnly
import TrapDispatch.Stats
import TrapDispatch.Syscall.Argument
import TrapDispatch.Syscall.Handler
import TrapDispatch.Syscall.Shape
import TrapDispatch.Syscall.Table
import TrapDispatch.Text.CodePoints
import TrapDispatch.Text.Combining
import TrapDispatch.Text.Hexadecimal
import TrapDispatch.Text.Nonprinting
import TrapDispatch.Text.Quoted
import TrapDispatch.UserRange
import TrapDispatch.Vector
import TrapDispatch.Vector.Install
import TrapDispatch.Vector.Table
