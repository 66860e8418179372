import Playback.Number.Basic

/-!
This module contains the memory for the input that each requester ran a program with most recently.
Entries grow old, and the oldest ones make room for new ones.
-/

namespace Playback

structure StoredInput where
  requester : String
  time : Rat
  stdin : String
deriving DecidableEq

/--
The stored inputs, the oldest first, with the greatest age in seconds and the greatest count.
-/
structure InputStore where
  entries : List StoredInput := []
  maxAge : Number := .whole 1800
  maxEntries : Int := 1024
deriving DecidableEq

namespace InputStore

def size (store : InputStore) : Nat :=
  store.entries.length

def find? (store : InputStore) (requester : String) : Option StoredInput :=
  store.entries.find? (·.requester == requester)

def erase (store : InputStore) (requester : String) : InputStore :=
  { store with entries := store.entries.filter (·.requester != requester) }

def clear (store : InputStore) : InputStore :=
  { store with entries := [] }

/--
Put the input of a requester behind all others, and drop the oldest entries that are too many.
-/
def put (store : InputStore) (now : Rat) (requester stdin : String) : InputStore :=
  let entries := (store.erase requester).entries ++ [{ requester, time := now, stdin }]
  { store with entries := entries.drop (entries.length - store.maxEntries.toNat) }

/--
A store for a negative count of entries cannot even be made empty enough.
-/
def canHold (store : InputStore) : Bool :=
  0 ≤ store.maxEntries

/--
The age of an entry. Times differ as floating point numbers do.
-/
def age (now : Rat) (entry : StoredInput) : Rat :=
  floatSum now (-entry.time)

def isExpired (store : InputStore) (now : Rat) (entry : StoredInput) : Bool :=
  store.maxAge.isExceededBy (age now entry)

def get (store : InputStore) (now : Rat) (requester : String) : Option String × InputStore :=
  match store.find? requester with
  | none => (none, store)
  | some entry =>
    -- An expired entry is dropped.
    if store.isExpired now entry then (none, store.erase requester) else (some entry.stdin, store)

end InputStore

end Playback
