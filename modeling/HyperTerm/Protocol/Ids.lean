import Mathlib.Data.BitVec
import Mathlib.Data.Countable.Basic
import Mathlib.Logic.Equiv.List
import Mathlib.Tactic.DeriveCountable

/-!
# Identifiers of the protocol

* `Uuid` : 128 bits; the byte order of `Uuid` in the source is the order of the numbers;
* `Uuid.text` : the hyphenated lower-case form that `to_string` gives;
* one wrapper for each kind of identifier, so that an operation id is never taken for a task id.

Everything the journal stores is countable, which is what an encoding of it needs.
-/

namespace HyperTerm.Protocol

instance countableBitVec (n : Nat) : Countable (BitVec n) := Function.Injective.countable fun _ _ h => BitVec.eq_of_toNat_eq h

instance countableChar : Countable Char := Function.Injective.countable fun _ _ h => Char.ext (UInt32.toNat_inj.mp h)

instance countableString : Countable String := Function.Injective.countable fun _ _ h => String.toList_inj.mp h

/-- The sixteen bytes of a UUID, most significant first. -/
abbrev Uuid := BitVec 128

def hexDigit (n : Nat) : Char := if n < 10 then Char.ofNat (48 + n) else Char.ofNat (87 + n)

def Uuid.hexDigits (u : Uuid) : List Char :=
  (List.range 32).map fun i => hexDigit (u.toNat / 16 ^ (31 - i) % 16)

/-- `Display` of a UUID: groups of 8, 4, 4, 4 and 12 digits. -/
def Uuid.text (u : Uuid) : String :=
  let h := Uuid.hexDigits u
  String.ofList (h.take 8 ++ '-' :: (h.drop 8).take 4 ++ '-' :: (h.drop 12).take 4 ++
    '-' :: (h.drop 16).take 4 ++ '-' :: h.drop 20)

structure ArtifactId where
  uuid : Uuid
  deriving DecidableEq, Countable

structure BlockId where
  uuid : Uuid
  deriving DecidableEq, Countable

structure EventId where
  uuid : Uuid
  deriving DecidableEq, Countable

structure ClientId where
  uuid : Uuid
  deriving DecidableEq, Countable

structure InputLeaseId where
  uuid : Uuid
  deriving DecidableEq, Countable

structure OperationId where
  uuid : Uuid
  deriving DecidableEq, Countable

structure RunId where
  uuid : Uuid
  deriving DecidableEq, Countable

structure SandboxLeaseId where
  uuid : Uuid
  deriving DecidableEq, Countable

structure TaskId where
  uuid : Uuid
  deriving DecidableEq, Countable

structure TerminalAttachmentId where
  uuid : Uuid
  deriving DecidableEq, Countable

structure TerminalId where
  uuid : Uuid
  deriving DecidableEq, Countable

end HyperTerm.Protocol
