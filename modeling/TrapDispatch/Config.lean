import TrapDispatch.Interrupt.Line
import TrapDispatch.Log.Record

/-!
# Dispatch configuration
-/

namespace TrapDispatch

/-- What happens to an interrupt that no handler claims. -/
inductive UnhandledPolicy where
  | recordAndContinue
  | maskLine
  | panic
  deriving DecidableEq, Repr, Inhabited

def UnhandledPolicy.name : UnhandledPolicy → String
  | .recordAndContinue => "RecordAndContinue"
  | .maskLine => "MaskLine"
  | .panic => "Panic"

/-- Settings of a dispatcher. -/
structure Config where
  policy : UnhandledPolicy := .recordAndContinue
  /-- Line whose interrupts end in a scheduler tick. -/
  timer : Option Irq := none
  /-- Cycles a device handler may take; zero means no limit. -/
  budget : UInt64 := 100000
  logLevel : LevelFilter := .upTo .info
  deriving DecidableEq

namespace Config

/-- Whether a line is the timer's. -/
def isTimer (config : Config) (irq : Irq) : Bool :=
  config.timer = some irq

end Config
end TrapDispatch
