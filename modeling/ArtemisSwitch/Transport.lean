import Mathlib.Algebra.Group.Int.Defs
import Mathlib.Algebra.GroupWithZero.Nat
import Mathlib.Data.FinEnum
import Mathlib.Data.List.Basic
import Mathlib.Data.UInt
import Mathlib.Tactic.Common

/-!
# Byte strings and the transport seam

`std::string` and `std::vector<std::uint8_t>` are lists of bytes.  A transport is
the script of what its `read` calls will answer; a script that has run out is a
call that waits for the network.
-/

namespace ArtemisSwitch

abbrev Bytes := List UInt8

instance : LawfulBEq Bytes := inferInstance

/-- The bytes of an ASCII literal. -/
def ascii (s : String) : Bytes := s.toList.map fun c => UInt8.ofNat c.toNat

namespace Transport

/-- One answer of `ITransport::read`: some bytes, `0` on an orderly close, `-1` on error. -/
inductive Read
  | data (bytes : Bytes)
  | closed
  | failed (error : String)
  deriving DecidableEq, Repr

/-- The bytes that an answer delivers. -/
def Read.bytes : Read → Bytes
  | .data bytes => bytes
  | _ => []

/-- How a call that reads from the transport ends. -/
inductive Received (α : Type*)
  | got (a : α)
  | failed (error : String)
  | blocked
  deriving DecidableEq, Repr

/-- The call returned what it was asked for. -/
def Received.isGot {α : Type*} : Received α → Bool
  | .got _ => true
  | _ => false

end Transport
end ArtemisSwitch
