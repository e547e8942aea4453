import GpuMetrics.Text.Pieces
import GpuMetrics.Text.Whole

/-!
# Listen addresses

An address is a host and a port with a colon between them; the last colon counts, and the host may
be empty. A port is written in decimal digits of any script and is at most 65535. The host may stand
between square brackets, which do not belong to it.
-/

namespace GpuMetrics

/-- Where the server listens. -/
structure Address where
  /-- The host without brackets; an empty host stands for every host. -/
  host : String
  port : Nat
  deriving DecidableEq, Repr

namespace Address

/-- Why a text is no address. -/
inductive Fault
  | /-- There is no colon, no port behind it, or the port is too great. -/
    form
  | /-- The port looks like a number and is none that is read. -/
    port (fault : Text.Whole.Fault)
  deriving DecidableEq, Repr

/-- How a message names the fault. -/
def Fault.message : Fault → String
  | form => "Listen address must have the form [host]:port"
  | port e => e.message

/-- A host without the brackets at its two ends. -/
def withoutBrackets (host : List Char) : List Char :=
  let isBracket (c : Char) : Bool := c = '[' || c = ']'
  ((host.dropWhile isBracket).reverse.dropWhile isBracket).reverse

/-- The greatest port. -/
def mostPort : Int := 65535

/-- The address that a text writes, as `validate_listen_address` accepts it and `host_port` takes it
apart. -/
def parse (s : String) : Except Fault Address :=
  match Text.cutLast? ':' s.toList with
  | none => .error .form
  | some (host, port) =>
    if port.isEmpty || !port.all Text.isDigitLike then .error .form
    else match Text.Whole.read 10 port with
      | .error e => .error (.port e)
      | .ok n =>
        if n > mostPort then .error .form
        else .ok ⟨String.ofList (withoutBrackets host), n.toNat⟩

end Address

end GpuMetrics
