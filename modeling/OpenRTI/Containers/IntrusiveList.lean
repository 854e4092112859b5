import OpenRTI.Foundation.HookLists

/-!
# Intrusive lists

The elements of a list carry the hooks.  A list is a hook of its own, which is its end
and which its first and last elements point back to.  The asserts are compiled in: an
operation is undefined where one of them fails.
-/

namespace OpenRTI
namespace Containers

open Foundation (HookNode HookRing)

section Hooks

variable {ν : Type*} [DecidableEq ν]

/-- Both pointers of a hook have to say the same. -/
def isLinked (hook : ν) (hooks : HookRing ν) : Option Bool :=
  if hooks.next hook = hook ↔ hooks.prev hook = hook then
    some (decide (hooks.next hook ≠ hook))
  else none

/-- Insert a hook before another one. -/
def insertHook (hook place : ν) (hooks : HookRing ν) : Option (HookRing ν) :=
  match isLinked hook hooks with
  | some false => some (hooks.insertBefore hook place)
  | _ => none

/-- The two kinds of iterators. -/
inductive Direction
  | forward
  | reverse

def increment (direction : Direction) (hook : ν) (hooks : HookRing ν) : ν :=
  match direction with
  | .forward => hooks.next hook
  | .reverse => hooks.prev hook

end Hooks

namespace IntrusiveList

variable {κ ε : Type*} [DecidableEq κ] [DecidableEq ε]

def empty (list : κ) (hooks : HookRing (HookNode κ ε)) : Option Bool :=
  (isLinked (.head list) hooks).map fun linked => !linked

def begin (list : κ) (hooks : HookRing (HookNode κ ε)) : HookNode κ ε :=
  hooks.next (.head list)

/-- The end of a list. -/
def finish (list : κ) : HookNode κ ε :=
  .head list

def insert
    (place : HookNode κ ε)
    (value : ε)
    (hooks : HookRing (HookNode κ ε)) : Option (HookRing (HookNode κ ε)) :=
  insertHook (.element value) place hooks

def pushFront
    (list : κ)
    (value : ε)
    (hooks : HookRing (HookNode κ ε)) : Option (HookRing (HookNode κ ε)) :=
  insert (begin list hooks) value hooks

def pushBack
    (list : κ)
    (value : ε)
    (hooks : HookRing (HookNode κ ε)) : Option (HookRing (HookNode κ ε)) :=
  insert (finish list) value hooks

/-- The asserts of a removal, and the iterator behind the removed element. -/
def behind
    (list : κ)
    (direction : Direction)
    (value : ε)
    (hooks : HookRing (HookNode κ ε)) : Option (HookNode κ ε) :=
  match empty list hooks, isLinked (.element value) hooks with
  | some false, some true => some (increment direction (.element value) hooks)
  | _, _ => none

/-- Unlink the element of an iterator.  The result is the iterator behind it. -/
def unlinkAt
    (list : κ)
    (direction : Direction)
    (value : ε)
    (hooks : HookRing (HookNode κ ε)) :
    Option (HookRing (HookNode κ ε) × HookNode κ ε) :=
  (behind list direction value hooks).map fun next =>
    (hooks.unlinkClear (.element value), next)

def unlink
    (value : ε)
    (hooks : HookRing (HookNode κ ε)) : HookRing (HookNode κ ε) :=
  hooks.unlinkClear (.element value)

def front (list : κ) (hooks : HookRing (HookNode κ ε)) : Option ε :=
  match empty list hooks, begin list hooks with
  | some false, .element value => some value
  | _, _ => none

def swap
    (list other : κ)
    (hooks : HookRing (HookNode κ ε)) : HookRing (HookNode κ ε) :=
  hooks.swap (.head list) (.head other)

/-- An iterator to an element. -/
def it (value : ε) (hooks : HookRing (HookNode κ ε)) : Option (HookNode κ ε) :=
  match isLinked (.element value) hooks with
  | some true => some (.element value)
  | _ => none

end IntrusiveList

end Containers
end OpenRTI
