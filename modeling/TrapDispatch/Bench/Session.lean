import TrapDispatch.Bench.Services
import TrapDispatch.Log.Line

/-!
# Sessions

A kernel is set up on the bench, and steps are taken on it one after another.
Every step is reported with its result, the notes of the services and the lines
of the log. A panic ends its step only; the next one finds the machine as the
panic left it.
-/

namespace TrapDispatch.Bench

/-- What a session starts from. -/
structure Setup where
  arch : Arch := .x86_64
  /-- First address of the trampolines. -/
  base : UInt64 := 0x8000
  window : UserRange := .between 0x40000000 0x40100000
  pid : UInt64 := 42
  config : Config := {}
  controller : ControllerKind := .recording 32
  /-- Whether the table starts with the calls that every kernel has. -/
  builtin : Bool := true
  /-- Further calls, with the scripts of their handlers. -/
  calls : List (CallShape × List Step) := []
  filter : LevelFilter := .off

/-- How a step went. -/
structure StepReport where
  step : Step
  result : Result
  notes : List Note
  lines : List String

/-- All that a session shows. -/
structure Transcript where
  /-- How each of the further calls fared. -/
  inserted : List (Except TableError Unit)
  /-- Lines of the log before the first step. -/
  opening : List String
  steps : List StepReport

/-- Bound on the nesting of requests and on repetitions. -/
def depthBound : Nat := 100000

/-- Takes a step at the top. A trap there is taken without a service in between,
so its frame is known even after a panic. -/
def perform (kind : ControllerKind) (kernel : Kernel World) (machine : Machine World) :
    Step → Result × Machine World
  | .trap frame ceiling =>
    if (machine.slots.ofCpu machine.world.cpuId).reaches ceiling then (.skipped, machine)
    else
      let ending := kernel.takeTrap depthBound frame machine
      match ending.result with
      | .ok outcome => (.trapped outcome ending.frame, ending.machine)
      | .error stop => (.stopped stop (some ending.frame), ending.machine)
  | step =>
    let ending := kernel.runService depthBound (Host.service.step kind step) machine
    match ending.result with
    | .ok stepEnd => (stepEnd.result, ending.machine)
    | .error stop => (.stopped stop none, ending.machine)

/-- Takes steps in order; notes and lines go to the report of the step that left
them. -/
def reports (kind : ControllerKind) (kernel : Kernel World) :
    Machine World → List Step → List StepReport
  | _, [] => []
  | machine, step :: rest =>
    let (result, machine) := perform kind kernel machine step
    let report :=
      { step
        result
        notes := machine.world.notes.reverse
        lines := machine.log.lines }
    let drained :=
      { machine with
        world := { machine.world with notes := [] }
        log := { machine.log with records := [] } }
    report :: reports kind kernel drained rest

namespace Setup

/-- The system calls of a session, and how each of the further calls fared. -/
def syscalls (setup : Setup) : List (Except TableError Unit) × SyscallTable World :=
  let start := if setup.builtin then SyscallTable.builtin.toOption.getD {} else {}
  start.insertEach (setup.calls.map fun (shape, body) => scriptedCall setup.controller shape body)

def kernel (setup : Setup) : Kernel World where
  vectors := ⟨setup.arch, setup.base⟩
  services := services setup.controller
  syscalls := setup.syscalls.2
  config := setup.config

/-- The machine at the start of a session. -/
def machine (setup : Setup) : Machine World where
  log := { filter := setup.filter }
  world := { pid := setup.pid, window := setup.window }

def run (setup : Setup) (steps : List Step) : Transcript :=
  let kernel := setup.kernel
  let opening := setup.machine.log.add kernel.vectors.builtRecord |>.add kernel.createdRecord
  { inserted := setup.syscalls.1
    opening := opening.lines
    steps := reports setup.controller kernel setup.machine steps }

end Setup
end TrapDispatch.Bench
