/-!
# Log targets

The names under which the parts of the dispatcher leave their records.
-/

namespace TrapDispatch.LogTarget

def vector : String := "trapcore::vector"
def dispatch : String := "trapcore::dispatch"
def syscall : String := "trapcore::syscall::handler"
def acknowledge : String := "trapcore::irq::ack"
def registry : String := "trapcore::irq::registry"
def pic : String := "trapcore::irq::pic"
def gic : String := "trapcore::irq::gic"

/-- Target of the encoding of an architecture. -/
def encoding (name : String) : String := "trapcore::arch::" ++ name

end TrapDispatch.LogTarget
