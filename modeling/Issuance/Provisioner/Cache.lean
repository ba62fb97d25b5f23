import Issuance.Authority.Key

namespace Issuance

/-- A provisioner is known by the build that made it. -/
structure Provisioner where
  number : Nat
  key : AuthorityKey
  spec : IssuerSpec
  deriving DecidableEq, Repr, Inhabited

/-- A slot is filled by one caller at a time. -/
inductive SlotState where
  | empty
  | building
  | ready (provisioner : Provisioner)
  deriving DecidableEq, Repr, Inhabited

/-- A slot remembers the specification that its provisioner is built from. -/
structure Slot where
  key : AuthorityKey
  spec : IssuerSpec
  state : SlotState
  deriving DecidableEq, Repr, Inhabited

namespace Slot

def isReady (slot : Slot) : Bool :=
  match slot.state with
  | .ready _ => true
  | _ => false

end Slot

/-- Slots are numbered in the order of their making, and a key has at most one of them. -/
structure ProvisionerCache where
  slots : List Slot := []
  registered : List (AuthorityKey × Nat) := []
  deriving DecidableEq, Repr, Inhabited

namespace ProvisionerCache

def current? (cache : ProvisionerCache) (key : AuthorityKey) : Option Nat :=
  cache.registered.lookup key

/-- The slot of a key, when it was made for the given specification. -/
def matching? (cache : ProvisionerCache) (key : AuthorityKey) (spec : IssuerSpec) : Option Nat :=
  (cache.current? key).filter fun number =>
    match cache.slots[number]? with
    | none => false
    | some slot => slot.spec == spec

def invalidate (cache : ProvisionerCache) (key : AuthorityKey) : ProvisionerCache :=
  { cache with registered := cache.registered.filter fun entry => entry.1 != key }

def clear (cache : ProvisionerCache) : ProvisionerCache := { cache with registered := [] }

/-- A caller uses the matching slot of its key, or a new one takes the place of the old one. -/
def enter (cache : ProvisionerCache) (key : AuthorityKey) (spec : IssuerSpec) :
    Nat × ProvisionerCache :=
  match cache.matching? key spec with
  | some number => (number, cache)
  | none =>
    (cache.slots.length,
      { slots := cache.slots ++ [⟨key, spec, .empty⟩]
        registered := (cache.invalidate key).registered ++ [(key, cache.slots.length)] })

def setState (cache : ProvisionerCache) (number : Nat) (state : SlotState) : ProvisionerCache :=
  { cache with slots := cache.slots.modify number fun slot => { slot with state } }

/-- A caller gets the provisioner of a slot, or the task to build it, or has to wait. -/
def acquire? (cache : ProvisionerCache) (number : Nat) :
    Option (Option Provisioner × ProvisionerCache) :=
  match (cache.slots[number]?).map Slot.state with
  | some (.ready provisioner) => some (some provisioner, cache)
  | some .empty => some (none, cache.setState number .building)
  | _ => none

/-- A build that failed leaves its slot empty. -/
def settle (cache : ProvisionerCache) (number : Nat) (built : Option Provisioner) :
    ProvisionerCache :=
  match built with
  | none => cache.setState number .empty
  | some provisioner => cache.setState number (.ready provisioner)

/-- The number of keys whose slot holds a provisioner. -/
def size (cache : ProvisionerCache) : Nat :=
  cache.registered.countP fun entry =>
    match cache.slots[entry.2]? with
    | none => false
    | some slot => slot.isReady

/-- No key has a slot that holds a provisioner. -/
def isEmpty (cache : ProvisionerCache) : Bool := cache.size == 0

end ProvisionerCache

end Issuance
