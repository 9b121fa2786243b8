import HomePairing.Hub

/-!
# Accessories side by side

Several accessories on one machine, each with connections of its own. Two of them
can keep their pairings in the same store, so the stores stand beside them, and a
hub is always taken out with its store as it is at that moment. A lease names the
accessory that gave it, so it goes back to that one whoever has held it.
-/

namespace HomePairing

/-- An accessory with its connections, and the number of its store. -/
structure Site.Member where
  hub : Hub
  store : Nat

/-- The accessories and the stores of a machine, each by number. -/
structure Site where
  members : List Site.Member
  stores : List Store

namespace Site

def empty : Site :=
  ⟨[], []⟩

/-- Bring in a store. It gets the next number. -/
def addStore (site : Site) (store : Store) : Nat × Site :=
  (site.stores.length, { site with stores := site.stores ++ [store] })

/-- Put a store in the place of another. -/
def setStore (site : Site) (i : Nat) (store : Store) : Site :=
  { site with stores := site.stores.set i store }

/-- The number that the next accessory gets, and its slot. -/
def nextSlot (site : Site) : Nat :=
  site.members.length

/-- Bring in an accessory. It keeps its pairings in the store with the given number,
or else brings its own store with it. -/
def addAccessory (site : Site) (accessory : Accessory) (store : Option Nat) : Site :=
  let (i, site) :=
    match store with
    | some i => (i, site)
    | none => site.addStore accessory.store
  { site with members := site.members ++ [⟨Hub.create accessory, i⟩] }

def storeOf? (site : Site) (i : Nat) : Option Nat :=
  site.members[i]?.map (·.store)

/-- An accessory with its connections, and with its store as it is now. -/
def hub? (site : Site) (i : Nat) : Option Hub :=
  match site.members[i]? with
  | none => none
  | some member =>
    site.stores[member.store]?.map fun store =>
      { member.hub with accessory := { member.hub.accessory with store } }

/-- Put an accessory back, and its store with it. -/
def setHub (site : Site) (i : Nat) (hub : Hub) : Site :=
  match site.members[i]? with
  | none => site
  | some member =>
    { members := site.members.set i { member with hub }
      stores := site.stores.set member.store hub.accessory.store }

/-- Give a lease back to the accessory that gave it. -/
def release (site : Site) (lease : Lease) : Site :=
  match site.hub? lease.slot with
  | none => site
  | some hub => site.setHub lease.slot { hub with accessory := hub.accessory.release lease }

/-- Give back a lease that was held before and is not held any more. -/
def settle (site : Site) (before after : Option Lease) : Site :=
  match before with
  | none => site
  | some lease => if after = some lease then site else site.release lease

/-- Drop a connection of an accessory. -/
def dropConnection (site : Site) (i number : Nat) : Site :=
  match site.hub? i with
  | none => site
  | some hub => site.setHub i (hub.drop number)

end Site

end HomePairing
