import HomePairing.Bytes.Block

/-!
# Pairing records

A paired controller is known by its identifier and its long-term public key. An
admin may manage the pairings of the accessory, a plain user may not.
-/

namespace HomePairing

/-- What a paired controller may do. -/
inductive Permissions where
  /-- A regular controller. -/
  | user
  /-- May add, remove and list pairings. -/
  | admin
deriving DecidableEq, Repr

namespace Permissions

def byte : Permissions → UInt8
  | user => 0
  | admin => 1

def ofByte? (b : UInt8) : Option Permissions :=
  if b = 0 then some user else if b = 1 then some admin else none

def name : Permissions → String
  | user => "User"
  | admin => "Admin"

def ofName? (name : String) : Option Permissions :=
  [user, admin].find? fun permissions => permissions.name == name

def isAdmin (permissions : Permissions) : Bool :=
  permissions == admin

@[simp] theorem ofByte?_byte (p : Permissions) : ofByte? p.byte = some p := by
  cases p <;> rfl

@[simp] theorem ofName?_name (p : Permissions) : ofName? p.name = some p := by
  cases p <;> rfl

@[simp] theorem isAdmin_iff (p : Permissions) : p.isAdmin = true ↔ p = admin := by
  cases p <;> decide

end Permissions

structure PairingRecord where
  accessoryId : String
  controllerId : String
  publicKey : Key
  permissions : Permissions
deriving DecidableEq

end HomePairing
