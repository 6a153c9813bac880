/-!
# Log records

A record carries a level, the target it was raised at, and its text. A filter
lets through every level up to its own.
-/

namespace TrapDispatch

/-- Severity of a record, most severe first. -/
inductive Level where
  | error
  | warn
  | info
  | debug
  | trace
  deriving DecidableEq, Repr, Inhabited

namespace Level

/-- Place in the order of severity; a filter keeps the ranks up to its own. -/
def rank : Level → Nat
  | error => 1
  | warn => 2
  | info => 3
  | debug => 4
  | trace => 5

/-- Five-character tag of a line. -/
def tag : Level → String
  | error => "ERROR"
  | warn => " WARN"
  | info => " INFO"
  | debug => "DEBUG"
  | trace => "TRACE"

end Level

/-- Which records pass. -/
inductive LevelFilter where
  | off
  | upTo (level : Level)
  deriving DecidableEq, Repr, Inhabited

namespace LevelFilter

/-- Whether a record of a level passes. -/
def admits : LevelFilter → Level → Bool
  | off, _ => false
  | upTo bound, level => level.rank ≤ bound.rank

def name : LevelFilter → String
  | off => "OFF"
  | upTo .error => "ERROR"
  | upTo .warn => "WARN"
  | upTo .info => "INFO"
  | upTo .debug => "DEBUG"
  | upTo .trace => "TRACE"

end LevelFilter

/-- One message on its way to the console. -/
structure Record where
  level : Level
  target : String
  text : String
  deriving DecidableEq, Repr

/-- Records that passed a filter, newest first. -/
structure LogBook where
  filter : LevelFilter := .off
  records : List Record := []

namespace LogBook

def add (book : LogBook) (record : Record) : LogBook :=
  if book.filter.admits record.level then { book with records := record :: book.records } else book

/-- The records in the order in which they were added. -/
def chronological (book : LogBook) : List Record :=
  book.records.reverse

end LogBook

/-- Computations that can leave log records. -/
class MonadRecord (m : Type → Type u) where
  record : Record → m Unit

export MonadRecord (record)

/-- Leaves a record without an answer. -/
def recordAt {m : Type → Type u} [MonadRecord m] (level : Level) (target text : String) : m Unit :=
  record { level, target, text }

end TrapDispatch
