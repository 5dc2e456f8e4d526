import Beamline.Bus.Message
import Std.Data.HashMap

/-!
What receivers own: slots with the messages delivered to them, and the state of their filters.
Both are shared by reference, so they live in a store under a number of their own; the store also
supplies the numbers of module instances.
-/

namespace Beamline.Bus

inductive SlotKind
  /-- At most one message at a time. -/
  | single
  /-- Every message, in order. -/
  | multi
  deriving DecidableEq, Hashable, Repr, Inhabited

/-- A reference to a slot for messages of one type. -/
structure Slot where
  number : Nat
  kind : SlotKind
  payload : PayloadType
  deriving DecidableEq, Hashable, Inhabited

/-- One question put to a filter, and its answer. Filters for one type do not learn the name. -/
structure Call where
  message : Message
  name : Option String
  accepted : Bool
  deriving Inhabited

/-- A receiver's decision on a message. It may depend on the earlier calls that the filter
remembers, latest first, and on nothing else. -/
structure Filter where
  accepts : (earlier : List Call) → Message → (name : Option String) → Bool
  /-- The memory that it shares with other filters. Without one it remembers its own calls. -/
  memory : Option Nat := none
  /-- The tally that counts this filter's calls. -/
  tally : Option Nat := none
  deriving Inhabited

/-- The state of a registered filter. -/
structure FilterState where
  tally : Option Nat := none
  /-- Whether it accepted a message since the last reset. -/
  delivered : Bool := false
  /-- All its calls, latest first. -/
  calls : List Call := []
  /-- The positions of its calls among all calls of all filters, latest first. -/
  places : List Nat := []
  deriving Inhabited

structure Store where
  held : Std.HashMap Slot (List Message) := ∅
  filters : Std.HashMap Nat FilterState := ∅
  /-- The calls of filters that share a memory, latest first. -/
  memories : Std.HashMap Nat (List Call) := ∅
  /-- The number for whatever is created next. -/
  next : Nat := 0
  /-- The number of filter calls so far. -/
  calls : Nat := 0
  deriving Inhabited

/-- How often each text occurs, in increasing order of the texts. -/
def occurrences (texts : List String) : List (String × Nat) :=
  (texts.eraseDups.mergeSort fun first second => first ≤ second).map fun text =>
    (text, texts.count text)

namespace Store

/-- A number that was not handed out before. -/
def fresh (store : Store) : Nat × Store :=
  (store.next, { store with next := store.next + 1 })

def newSlot (store : Store) (kind : SlotKind) (payload : PayloadType) : Slot × Store :=
  let (number, store) := store.fresh
  ({ number, kind, payload }, store)

/-- The messages in a slot, in the order of delivery. -/
def contents (store : Store) (slot : Slot) : List Message :=
  store.held.getD slot []

def setContents (store : Store) (slot : Slot) (messages : List Message) : Store :=
  { store with held := store.held.insert slot messages }

def isFilled (store : Store) (slot : Slot) : Bool :=
  !(store.contents slot).isEmpty

def resetSlot (store : Store) (slot : Slot) : Store :=
  store.setContents slot []

/-- Empties a slot and returns what it held. -/
def drain (store : Store) (slot : Slot) : List Message × Store :=
  (store.contents slot, store.resetSlot slot)

/-- Puts a message into a slot: a single slot holds it alone, a multi slot after the others. A
filled single slot refuses it unless it may be overwritten. -/
def put (store : Store) (slot : Slot) (message : Message) (overwrite : Bool) : Option Store :=
  match slot.kind with
  | .single =>
    if store.isFilled slot && !overwrite then none
    else some (store.setContents slot [message])
  | .multi => some (store.setContents slot (store.contents slot ++ [message]))

/-- The state of a filter; one that was never called is in its first state. -/
def filterState (store : Store) (filter : Nat) : FilterState :=
  store.filters.getD filter {}

def newFilter (store : Store) (filter : Filter) : Nat × Store :=
  let (number, store) := store.fresh
  (number, { store with filters := store.filters.insert number { tally := filter.tally } })

def memory (store : Store) (number : Nat) : List Call :=
  store.memories.getD number []

/-- The earlier calls that a filter remembers. -/
def recalled (store : Store) (number : Nat) (filter : Filter) : List Call :=
  match filter.memory with
  | some memory => store.memory memory
  | none => (store.filterState number).calls

/-- Adds a call to the memory that a filter shares, if it shares one. -/
def remember (store : Store) (filter : Filter) (call : Call) : Store :=
  match filter.memory with
  | some memory =>
    { store with memories := store.memories.insert memory (call :: store.memory memory) }
  | none => store

/-- Asks a filter about a message and remembers the answer. -/
def ask (store : Store) (number : Nat) (filter : Filter) (message : Message)
    (name : Option String) : Bool × Store :=
  let accepted := filter.accepts (store.recalled number filter) message name
  let call : Call := { message, name, accepted }
  let state := store.filterState number
  let state := { state with
    delivered := state.delivered || accepted
    calls := call :: state.calls
    places := store.calls :: state.places }
  (accepted, { store.remember filter call with
    filters := store.filters.insert number state
    calls := store.calls + 1 })

/-- Forgets that a filter accepted something; its calls stay known to it. -/
def resetFilter (store : Store) (number : Nat) : Store :=
  { store with
    filters := store.filters.insert number { store.filterState number with delivered := false } }

/-- The payload names of the messages that filters were asked about, for the filters that count
in a tally of which `counted` holds. -/
def asked (store : Store) (counted : Nat → Bool) : List String :=
  store.filters.toList.flatMap fun (_, state) =>
    if state.tally.any counted then state.calls.map fun call => call.message.type.name else []

/-- The counts of a tally by payload name, in increasing order of the names. -/
def counts (store : Store) (tally : Nat) : List (String × Nat) :=
  occurrences (store.asked (· == tally))

/-- The payload names of the messages counted in any tally. -/
def monitored (store : Store) : List String :=
  store.asked fun _ => true

end Store

end Beamline.Bus
