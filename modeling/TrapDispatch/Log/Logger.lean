import TrapDispatch.Log.Line

/-!
# The kernel logger

Lines go to one console, the first that was attached; until then they are lost.
-/

namespace TrapDispatch

/-- A logger for consoles of some kind. -/
structure Logger (κ : Type) where
  console : Option κ := none
  filter : LevelFilter := .upTo .info

namespace Logger

variable {κ : Type}

/-- Attaches a console unless there is one. -/
def attach (logger : Logger κ) (console : κ) : Logger κ :=
  { logger with console := logger.console <|> some console }

def setLevel (logger : Logger κ) (filter : LevelFilter) : Logger κ :=
  { logger with filter }

/-- The console and the line a record leads to, if any. -/
def emit (logger : Logger κ) (r : Record) : Option (κ × String) :=
  if logger.filter.admits r.level then logger.console.map fun console => (console, r.line)
  else none

end Logger
end TrapDispatch
