import FlowTree.Server.Store

/-! # The flow cache

A flow that was found is kept for a time to live, so that a fetch may answer without the store. Misses are
never kept, and a time to live of zero keeps nothing. Times are in milliseconds. -/

namespace FlowTree.Server

/-- A tenant and the slug of one of its flows. -/
abbrev FlowKey := String × String

/-- A flow and the time at which it was loaded. -/
structure CacheEntry where
  key : FlowKey
  loadedAt : Nat
  flow : Flow

/-- The flows that are kept, at most one for a key. -/
structure Cache where
  ttl : Nat
  entries : List CacheEntry := []

namespace Cache

/-- The kept flow of a key, unless its time is over. -/
def lookup (c : Cache) (now : Nat) (key : FlowKey) : Option Flow :=
  (c.entries.find? fun e => e.key = key ∧ now - e.loadedAt < c.ttl).map CacheEntry.flow

/-- Forgets a key. -/
def remove (c : Cache) (key : FlowKey) : Cache :=
  { c with entries := c.entries.filter fun e => e.key ≠ key }

/-- Takes over what the store held: a flow is kept, anything else is forgotten. -/
def writeBack (c : Cache) (now : Nat) (key : FlowKey) (fetched : Option Flow) : Cache :=
  match fetched with
  | some flow =>
    if c.ttl = 0 then c.remove key
    else { c with entries := ⟨key, now, flow⟩ :: (c.remove key).entries }
  | none => c.remove key

/-- The flow of a key, from the cache or else from `store`. An error leaves the cache as it was. -/
def fetch (c : Cache) (now : Nat) (store : Except StoreError (Option Flow)) (key : FlowKey) :
    Except StoreError (Option Flow) × Cache :=
  match c.lookup now key with
  | some flow => (.ok (some flow), c)
  | none =>
    match store with
    | .error e => (.error e, c)
    | .ok fetched => (.ok fetched, c.writeBack now key fetched)

end Cache

end FlowTree.Server
