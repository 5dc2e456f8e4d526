import Beamline.Bus.Delegate
import Std.Data.HashMap
import Std.Data.TreeMap

/-!
The registry of delegates: buckets by type and by name, each in the order of registration, and a
reverse index from the number of a delegate to its bucket.
-/

namespace Beamline.Bus

/-- Delegates by number, hence in the order of registration. -/
abbrev Bucket := Std.TreeMap Nat Delegate

abbrev NameMap := Std.HashMap NameKey Bucket

structure Registry where
  forward : Std.HashMap TypeKey NameMap := ∅
  index : Std.HashMap Nat (TypeKey × NameKey) := ∅
  deriving Inhabited

def Bucket.handles (bucket : Bucket) : List Handle :=
  bucket.toList.map fun (id, delegate) => { id, delegate }

/-- The delegates of a type, bucket by bucket. -/
def NameMap.handles (names : NameMap) : List Handle :=
  names.toList.flatMap fun (_, bucket) => bucket.handles

/-- Delegates in the order of registration. -/
def inOrder (handles : List Handle) : List Handle :=
  handles.mergeSort fun first second => first.id ≤ second.id

namespace Registry

/-- The buckets of a type, none if there are none. -/
def names (registry : Registry) (type : TypeKey) : NameMap :=
  registry.forward.getD type ∅

def bucket (registry : Registry) (type : TypeKey) (name : NameKey) : Bucket :=
  (registry.names type).getD name ∅

def handles (registry : Registry) : List Handle :=
  registry.forward.toList.flatMap fun (_, names) => names.handles

/-- Whether a delegate of the slot's type fills it already. -/
def fills (registry : Registry) (slot : Slot) : Bool :=
  (registry.names (.payload slot.payload)).handles.any fun handle =>
    handle.delegate.binding.slot? == some slot

/-- Lists a delegate in its bucket and in the index. -/
def insert (registry : Registry) (handle : Handle) : Registry :=
  let type := handle.delegate.typeKey
  let name := handle.delegate.nameKey
  let bucket := (registry.bucket type name).insert handle.id handle.delegate
  { forward := registry.forward.insert type ((registry.names type).insert name bucket)
    index := registry.index.insert handle.id (type, name) }

/-- The buckets of a type without one delegate; a bucket that this empties goes too. -/
def withoutDelegate (names : NameMap) (name : NameKey) (id : Nat) : NameMap :=
  match names[name]? with
  | none => names
  | some bucket =>
    let bucket := bucket.erase id
    if bucket.isEmpty then names.erase name else names.insert name bucket

/-- Takes a delegate out of the index and of the bucket that the index names. What the index
names may be missing, and then only the index changes. -/
def erase (registry : Registry) (handle : Handle) : Option Inconsistency × Registry :=
  match registry.index[handle.id]? with
  | none => (some (.notRegistered handle.uniqueName), registry)
  | some (type, name) =>
    let registry := { registry with index := registry.index.erase handle.id }
    match registry.forward[type]? with
    | none => (some (.missingType handle.uniqueName), registry)
    | some names =>
      let remaining := withoutDelegate names name handle.id
      let registry := { registry with
        forward :=
          if remaining.isEmpty then registry.forward.erase type
          else registry.forward.insert type remaining }
      if (names.getD name ∅).contains handle.id then (none, registry)
      else (some (.missingDelegate handle.uniqueName), registry)

/-- The delegates listed under a type that listen to a name and are in scope, in the order of
registration. -/
def listeners (registry : Registry) (type : TypeKey) (name : String) (source : Identity)
    (message : Message) : List Handle :=
  inOrder (((registry.bucket type (.exact name)).handles ++
    (registry.bucket type .any).handles).filter fun handle =>
      handle.delegate.inScope source message)

/-- The delegates that get a message: first those of its type, then those of any type. -/
def candidates (registry : Registry) (source : Identity) (message : Message) (name : String) :
    List Handle :=
  registry.listeners (.payload message.type) name source message ++
    registry.listeners .any name source message

/-- The delegates that deliver to a receiver, in the order of registration. -/
def delegatesOf (registry : Registry) (receiver : Identity) : List Handle :=
  inOrder (registry.handles.filter fun handle => handle.delegate.receiver.same receiver)

/-- A delegate that the index does not place in the bucket where it is. -/
def misplaced (registry : Registry) (type : TypeKey) (name : NameKey) (handle : Handle) :
    Option Inconsistency :=
  if registry.index[handle.id]? = some (type, name) then none
  else some (.notIndexed handle.uniqueName type.display name.display)

def bucketFault (registry : Registry) (type : TypeKey) (name : NameKey) (bucket : Bucket) :
    Option Inconsistency :=
  if bucket.isEmpty then some (.emptyBucket type.display name.display)
  else bucket.handles.findSome? (registry.misplaced type name)

/-- What is wrong with the buckets of one type. -/
def typeFault (registry : Registry) (type : TypeKey) (names : NameMap) : Option Inconsistency :=
  if names.isEmpty then some (.emptyType type.display)
  else names.toList.findSome? fun (name, bucket) => registry.bucketFault type name bucket

/-- How the buckets and the index disagree, if they do: both must describe the same delegates, and
nothing empty may be kept. -/
def inconsistency (registry : Registry) : Option Inconsistency :=
  match registry.forward.toList.findSome? fun (type, names) => registry.typeFault type names with
  | some fault => some fault
  | none =>
    if registry.handles.length = registry.index.size then none
    else some (.countsDiffer registry.handles.length registry.index.size)

end Registry

end Beamline.Bus
