/-!
# A bounded cache with priorities

A cache holds records by key, in order of their last touch: a record is touched when it is put
in and when it is read.  A record may expire, at a fixed moment or when it has not been read for
some time.  When the records are one more than the capacity, one departs: the least recently
touched expired record, or else the least recently touched of those with the lowest priority.

Every record that departs gives a `Departure` to its observer, if it has one.  An operation
returns the cache after it and the departures it causes, in order.

Moments and spans of time are natural numbers in one unit; an operation is given the moment at
which it happens.
-/

namespace GraphStore

/-- How long a record resists when the cache is full. -/
inductive Priority where
  | low
  | normal
  | high
  deriving DecidableEq

namespace Priority

/-- Priorities as numbers, the lowest first. -/
def rank : Priority → Nat
  | low => 0
  | normal => 1
  | high => 2

def names : List (String × Priority) := [("low", low), ("normal", normal), ("high", high)]

def text : Priority → String
  | low => "low"
  | normal => "normal"
  | high => "high"

end Priority

/-- How the cache treats a record. -/
structure Policy where
  priority : Priority
  /-- The moment from which it is expired. -/
  expiresAt : Option Nat
  /-- The time after its last touch from which it is expired. -/
  expiresAfter : Option Nat
  /-- Whether somebody is told when it departs. -/
  observed : Bool
  deriving DecidableEq

/-- Why a record departed. -/
inductive Cause where
  | replaced
  | capacity
  | expired
  | removed
  | cleared
  deriving DecidableEq

def Cause.text : Cause → String
  | .replaced => "replaced"
  | .capacity => "capacity"
  | .expired => "expired"
  | .removed => "removed"
  | .cleared => "cleared"

/-- What the observer of a record is told when it departs. -/
structure Departure (α : Type) where
  key : String
  cause : Cause
  value : α
  deriving DecidableEq

/-- A record of a cache. -/
structure Record (α : Type) where
  key : String
  value : α
  policy : Policy
  touched : Nat
  deriving DecidableEq

namespace Record

variable {α : Type}

/-- The record is expired at a moment. -/
def expired (r : Record α) (now : Nat) : Bool :=
  (match r.policy.expiresAt with
    | some moment => moment ≤ now
    | none => false) ||
  (match r.policy.expiresAfter with
    | some span => span ≤ now - r.touched
    | none => false)

/-- What is told when the record departs. -/
def depart (r : Record α) (cause : Cause) : List (Departure α) :=
  if r.policy.observed then [⟨r.key, cause, r.value⟩] else []

end Record

/-- What a cache has counted. -/
structure Counters where
  hits : Nat
  misses : Nat
  inserts : Nat
  replacements : Nat
  /-- Records that departed for capacity or expiration. -/
  evictions : Nat
  deriving DecidableEq

def Counters.zero : Counters := ⟨0, 0, 0, 0, 0⟩

/-- A bounded cache. -/
structure Cache (α : Type) where
  capacity : Nat
  /-- The records, the least recently touched first. -/
  records : List (Record α)
  counters : Counters
  deriving DecidableEq

namespace Cache

variable {α : Type}

/-- An empty cache; a capacity of zero counts as one. -/
def new (capacity : Nat) : Cache α := ⟨max capacity 1, [], .zero⟩

/-- The number of records, expired ones included. -/
def size (c : Cache α) : Nat := c.records.length

/-- The keys, the least recently touched first. -/
def keys (c : Cache α) : List String := c.records.map Record.key

/-- The record under a key, expired or not. -/
def find? (c : Cache α) (key : String) : Option (Record α) :=
  c.records.find? fun r => r.key == key

/-- The records under other keys. -/
def without (c : Cache α) (key : String) : List (Record α) :=
  c.records.filter fun r => r.key != key

/-- The value under a key, unless it is expired.  The cache does not change. -/
def peek (c : Cache α) (now : Nat) (key : String) : Option α :=
  match c.find? key with
  | some r => if r.expired now then none else some r.value
  | none => none

def contains (c : Cache α) (now : Nat) (key : String) : Bool := (c.peek now key).isSome

def countHit (k : Counters) : Counters := { k with hits := k.hits + 1 }

def countMiss (k : Counters) : Counters := { k with misses := k.misses + 1 }

/-- Drop a record that the cache gives up. -/
def evict (c : Cache α) (r : Record α) (cause : Cause) : Cache α × List (Departure α) :=
  ({ c with
      records := c.without r.key
      counters := { c.counters with evictions := c.counters.evictions + 1 } },
    r.depart cause)

/-- Read the value under a key and touch its record.  An expired record departs and reads as
absent. -/
def get (c : Cache α) (now : Nat) (key : String) :
    Cache α × Option α × List (Departure α) :=
  match c.find? key with
  | none => ({ c with counters := countMiss c.counters }, none, [])
  | some r =>
    if r.expired now then
      let (c, departures) := c.evict r .expired
      ({ c with counters := countMiss c.counters }, none, departures)
    else
      ({ c with
          records := c.without key ++ [{ r with touched := now }]
          counters := countHit c.counters },
        some r.value, [])

/-- The first record of the lowest priority. -/
def lowest : List (Record α) → Option (Record α)
  | [] => none
  | r :: rest =>
    match lowest rest with
    | some s =>
      if s.policy.priority.rank < r.policy.priority.rank then some s else some r
    | none => some r

/-- The record that departs when the cache is too full, and why. -/
def victim? (records : List (Record α)) (now : Nat) : Option (Record α × Cause) :=
  match records.find? fun r => r.expired now with
  | some r => some (r, .expired)
  | none => (lowest records).map fun r => (r, .capacity)

/-- Bring the cache back to its capacity. -/
def purge (c : Cache α) (now : Nat) : Cache α × List (Departure α) :=
  if c.size ≤ c.capacity then (c, [])
  else match victim? c.records now with
    | some (r, cause) => c.evict r cause
    | none => (c, [])

/-- Take the record under a key out, for another one to come. -/
def displace (c : Cache α) (key : String) : Cache α × List (Departure α) :=
  match c.find? key with
  | none => (c, [])
  | some r =>
    ({ c with
        records := c.without key
        counters := { c.counters with replacements := c.counters.replacements + 1 } },
      r.depart .replaced)

/-- Put a value under a key, in place of an older one.  The moment at which the new record is touched
and the one at which the cache looks for expired records are taken as one, as if the clock were read
once for both. -/
def insert (c : Cache α) (now : Nat) (key : String) (value : α) (policy : Policy) :
    Cache α × List (Departure α) :=
  let (c, replaced) := c.displace key
  let (c, purged) := purge { c with
    records := c.records ++ [⟨key, value, policy, now⟩]
    counters := { c.counters with inserts := c.counters.inserts + 1 } } now
  (c, replaced ++ purged)

/-- Take the value under a key out, expired or not. -/
def remove (c : Cache α) (key : String) : Cache α × Option α × List (Departure α) :=
  match c.find? key with
  | none => (c, none, [])
  | some r => ({ c with records := c.without key }, some r.value, r.depart .removed)

def clear (c : Cache α) : Cache α × List (Departure α) :=
  ({ c with records := [] }, c.records.flatMap fun r => r.depart .cleared)

/-! ### Runs -/

/-- An operation on a cache. -/
inductive Op (α : Type) where
  | insert (key : String) (value : α) (policy : Policy)
  | get (key : String)
  | peek (key : String)
  | contains (key : String)
  | remove (key : String)
  | clear

/-- What an operation answers. -/
inductive Answer (α : Type) where
  | done
  | value (value : Option α)
  | truth (value : Bool)

/-- Carry out an operation at a moment. -/
def perform (c : Cache α) (now : Nat) : Op α → Cache α × Answer α × List (Departure α)
  | .insert key value policy =>
    let (c, departures) := c.insert now key value policy
    (c, .done, departures)
  | .get key =>
    let (c, value, departures) := c.get now key
    (c, .value value, departures)
  | .peek key => (c, .value (c.peek now key), [])
  | .contains key => (c, .truth (c.contains now key), [])
  | .remove key =>
    let (c, value, departures) := c.remove key
    (c, .value value, departures)
  | .clear =>
    let (c, departures) := c.clear
    (c, .done, departures)

/-- Carry out operations, each at its moment: the cache after them, and the answers and
departures in order. -/
def run (c : Cache α) : List (Nat × Op α) → Cache α × List (Answer α × List (Departure α))
  | [] => (c, [])
  | (now, op) :: ops =>
    let (c, answer, departures) := c.perform now op
    let (c, rest) := run c ops
    (c, (answer, departures) :: rest)

end Cache

end GraphStore
