import TrapDispatch.Bench.Registers
import TrapDispatch.Log.Logger
import TrapDispatch.Log.Uart

/-!
# Consoles of the bench

A logger with two consoles that keep their lines and a serial console over a
register bank. Each step is reported with the lines that arrived and the accesses
that were made to the registers.
-/

namespace TrapDispatch.Bench

/-- A console of the bench. -/
inductive ConsoleName where
  | first
  | second
  | uart
  deriving DecidableEq, Repr

/-- What can be done with the logger. -/
inductive ConsoleStep where
  | attach (console : ConsoleName)
  | setLevel (filter : LevelFilter)
  /-- Prepares values of the flag register. -/
  | busy (flags : List UInt32)
  /-- Sends text to the serial console directly. -/
  | puts (text : String)
  /-- Makes the logger the logger of the kernel, which it is already. -/
  | install
  | log (record : Record)

/-- What is seen at the consoles. -/
inductive ConsoleNote where
  | flagsRead (word : UInt32)
  | dataWritten (word : UInt32)
  /-- The kernel has a logger already. -/
  | installRefused

/-- How a step went. -/
structure ConsoleReport where
  filter : LevelFilter
  first : List String := []
  second : List String := []
  notes : List ConsoleNote := []

/-- The logger and the registers of the serial console. -/
structure Desk where
  logger : Logger ConsoleName := {}
  bank : Bank := {}

namespace Desk

/-- Registers of the serial console, and the accesses made to them, newest first. -/
abbrev Wire := Bank × List ConsoleNote

def access : (op : Uart.Access) → EStateM Stop Wire op.Reply
  | .readFlags => do
    let (bank, notes) ← get
    let (word, bank) := bank.read32 Uart.flagOffset
    set ((bank, .flagsRead word :: notes) : Wire)
    return word
  | .writeData word =>
    modify fun (bank, notes) => (bank.write32 Uart.dataOffset word, .dataWritten word :: notes)

/-- Sends text to the serial console. The queue has room once the prepared flags
are used up. -/
def send (desk : Desk) (text : String) : Desk × List ConsoleNote :=
  let program := Uart.puts text
  match program.run access (desk.bank.queued.length + 1) (desk.bank, []) with
  | .ok _ (bank, notes) => ({ desk with bank }, notes.reverse)
  | .error _ (bank, notes) => ({ desk with bank }, notes.reverse)

def step (desk : Desk) : ConsoleStep → Desk × ConsoleReport
  | .attach console =>
    let desk := { desk with logger := desk.logger.attach console }
    (desk, { filter := desk.logger.filter })
  | .setLevel filter => ({ desk with logger := desk.logger.setLevel filter }, { filter })
  | .busy flags =>
    ({ desk with bank := desk.bank.queue Uart.flagOffset flags }, { filter := desk.logger.filter })
  | .puts text =>
    let (desk, notes) := desk.send text
    (desk, { filter := desk.logger.filter, notes })
  | .install => (desk, { filter := desk.logger.filter, notes := [.installRefused] })
  | .log record =>
    let filter := desk.logger.filter
    match desk.logger.emit record with
    | none => (desk, { filter })
    | some (.first, line) => (desk, { filter, first := [line] })
    | some (.second, line) => (desk, { filter, second := [line] })
    | some (.uart, line) =>
      let (desk, notes) := desk.send line
      (desk, { filter, notes })

def run (desk : Desk) : List ConsoleStep → List ConsoleReport
  | [] => []
  | step :: rest =>
    let (desk, report) := desk.step step
    report :: desk.run rest

end Desk
end TrapDispatch.Bench
