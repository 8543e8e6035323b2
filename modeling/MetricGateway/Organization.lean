import MetricGateway.Bytes
import MetricGateway.Number.Natural
import Std.Data.ExtTreeMap

/-!
# Organizations

Every series belongs to an organization, which is known by a number of thirty-two bits.
-/

namespace MetricGateway

/-- The number of an organization. -/
structure OrgId where
  value : UInt32
  deriving DecidableEq, Repr, Inhabited

namespace OrgId

/-- Organizations are ordered by their numbers. -/
instance : Ord OrgId := ⟨fun a b => compare a.value b.value⟩

instance : Std.TransOrd OrgId where
  eq_swap {a b} := @Std.OrientedCmp.eq_swap UInt32 compare _ a.value b.value
  isLE_trans {a b c} h h' := @Std.TransCmp.isLE_trans UInt32 compare _ a.value b.value c.value h h'

instance : Std.LawfulEqOrd OrgId where
  compare_self {a} := @Std.ReflCmp.compare_self UInt32 compare _ a.value
  eq_of_compare {a b} h := by
    cases a; cases b
    exact congrArg OrgId.mk (@Std.LawfulEqCmp.eq_of_compare UInt32 compare _ _ _ h)

/-- The four bytes of the number, the least significant first. -/
def toBytes (org : OrgId) : Bytes := Bytes.littleEndian 4 org.value.toNat

/-- The organization whose number has the given bytes, the least significant first. -/
def ofBytes (b : Bytes) : OrgId := ⟨UInt32.ofNat (Bytes.ofLittleEndian b)⟩

/-- The number in decimal. -/
def display (org : OrgId) : String := String.ofList (Number.digits org.value.toNat)

/-- The number with the name of its kind, for people who debug. -/
def debug (org : OrgId) : String := "OrganizationId(" ++ org.display ++ ")"

/-- Reads a number: an optional plus sign and digits. -/
def parse (s : String) : Except Number.NumberError OrgId :=
  (Number.readUInt32 s.toList).map OrgId.mk

@[simp] theorem length_toBytes (org : OrgId) : org.toBytes.length = 4 := by simp [toBytes]

/-- Reading the bytes of an organization gives it back. -/
theorem ofBytes_toBytes (org : OrgId) : ofBytes org.toBytes = org := by
  simp [ofBytes, toBytes, Bytes.ofLittleEndian_littleEndian]

end OrgId

end MetricGateway
