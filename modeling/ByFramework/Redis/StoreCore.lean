import Mathlib.Logic.Function.Basic

/-!
An executable model of the Redis data types a coordination layer uses: strings with a time to
live, hashes, sets, sorted sets, and streams with consumer groups.
-/

namespace Redis

/-- Values that `HINCRBY` can count in. -/
class Counting (V : Type) where
  ofInt : Int → V
  toInt : V → Option Int
  toInt_ofInt : ∀ number, toInt (ofInt number) = some number

structure Pending where
  entry : Nat
  consumer : String
  since : Int
deriving DecidableEq, Repr

/-- How `XPENDING` shows a pending entry. -/
structure PendingSummary where
  entry : Nat
  consumer : String
  idle : Int
deriving DecidableEq, Repr

/-- A consumer group: the entries up to `delivered` have been handed to it once. -/
structure Group where
  delivered : Nat
  pending : List Pending
deriving DecidableEq, Repr

/-- A stream that is never trimmed; the entry at position `n` has id `n`. -/
structure Stream (V : Type) where
  entries : List V
  groups : List (String × Group)

structure Store (K V : Type) where
  text : K → Option V
  hash : K → List (String × V)
  members : K → List String
  scored : K → List (String × Int)
  stream : K → Stream V
  expiresAt : K → Option Int
  clock : Int

inductive Command (K V : Type) where
  | get (key : K)
  | set (key : K) (value : V) (ifAbsent : Bool) (ttl : Option Nat)
  | del (key : K)
  | existsKey (key : K)
  | expire (key : K) (ttl : Nat)
  | hget (key : K) (field : String)
  | hset (key : K) (fields : List (String × V))
  | hgetall (key : K)
  | hincrby (key : K) (field : String) (amount : Int)
  | sadd (key : K) (member : String)
  | srem (key : K) (member : String)
  | smembers (key : K)
  | sismember (key : K) (member : String)
  | zadd (key : K) (member : String) (score : Int)
  | zrem (key : K) (member : String)
  | zrangebyscore (key : K) (low high : Int) (limit : Nat)
  | zremrangebyscore (key : K) (low high : Int)
  | xadd (key : K) (value : V)
  | xack (key : K) (group : String) (entry : Nat)
  | xgroupCreate (key : K) (group : String)
  | xreadgroup (key : K) (group consumer : String) (count : Nat)
  | xpending (key : K) (group : String) (count : Nat)
  | xclaim (key : K) (group consumer : String) (minIdle : Int) (entries : List Nat)

@[reducible] def Command.Reply {K V : Type} : Command K V → Type
  | .get _ => Option V
  | .set _ _ _ _ => Bool
  | .del _ => Nat
  | .existsKey _ => Bool
  | .expire _ _ => Bool
  | .hget _ _ => Option V
  | .hset _ _ => Nat
  | .hgetall _ => List (String × V)
  | .hincrby _ _ _ => Int
  | .sadd _ _ => Nat
  | .srem _ _ => Nat
  | .smembers _ => List String
  | .sismember _ _ => Bool
  | .zadd _ _ _ => Nat
  | .zrem _ _ => Nat
  | .zrangebyscore _ _ _ _ => List (String × Int)
  | .zremrangebyscore _ _ _ => Nat
  | .xadd _ _ => Nat
  | .xack _ _ _ => Nat
  | .xgroupCreate _ _ => Unit
  | .xreadgroup _ _ _ _ => List (Nat × V)
  | .xpending _ _ _ => List PendingSummary
  | .xclaim _ _ _ _ _ => List (Nat × V)

/-- Give `field` a value, in place when it is there already. -/
def upsert {β : Type} (field : String) (value : β) : List (String × β) → List (String × β)
  | [] => [(field, value)]
  | entry :: rest =>
      if entry.1 = field then (field, value) :: rest else entry :: upsert field value rest

def upsertAll {β : Type} (fields hash : List (String × β)) : List (String × β) :=
  fields.foldl (fun current entry => upsert entry.1 entry.2 current) hash

/-- Put a member behind those of lower or equal score. -/
def insertScored (member : String) (score : Int) : List (String × Int) → List (String × Int)
  | [] => [(member, score)]
  | entry :: rest =>
      if entry.2 ≤ score then entry :: insertScored member score rest
      else (member, score) :: entry :: rest

def without (member : String) (scored : List (String × Int)) : List (String × Int) :=
  scored.filter fun entry => entry.1 ≠ member

def adjust (name : String) (change : Group → Group) (groups : List (String × Group)) :
    List (String × Group) :=
  groups.map fun entry => if entry.1 = name then (entry.1, change entry.2) else entry

/-- The undelivered entries of a stream, at most `count` of them, with their ids. -/
def Stream.fresh {V : Type} (stream : Stream V) (delivered count : Nat) : List (Nat × V) :=
  (stream.entries.zipIdx.drop delivered).take count |>.map fun entry => (entry.2, entry.1)

def Group.deliver {V : Type} (group : Group) (consumer : String) (now : Int)
    (handed : List (Nat × V)) : Group where
  delivered := group.delivered + handed.length
  pending := group.pending ++ handed.map fun entry => ⟨entry.1, consumer, now⟩

def Group.acknowledge (group : Group) (entry : Nat) : Group :=
  { group with pending := group.pending.filter fun waiting => waiting.entry ≠ entry }

def Group.owned (group : Group) (entry : Nat) : Option Pending :=
  group.pending.find? fun waiting => waiting.entry = entry

/-- Whether an entry is pending and was handed out at `latest` at the latest. -/
def Group.idleSince (group : Group) (latest : Int) (entry : Nat) : Bool :=
  (group.owned entry).any fun waiting => waiting.since ≤ latest

def Group.claim (group : Group) (consumer : String) (now : Int) (entry : Nat) : Group :=
  { group with pending := group.pending.map fun waiting =>
      if waiting.entry = entry then ⟨entry, consumer, now⟩ else waiting }

namespace Store

variable {K V : Type} [DecidableEq K] [Counting V]

def empty : Store K V where
  text _ := none
  hash _ := []
  members _ := []
  scored _ := []
  stream _ := ⟨[], []⟩
  expiresAt _ := none
  clock := 0

def holds (store : Store K V) (key : K) : Bool :=
  (store.text key).isSome || !(store.hash key).isEmpty || !(store.members key).isEmpty ||
    !(store.scored key).isEmpty || !(store.stream key).groups.isEmpty ||
    !(store.stream key).entries.isEmpty

/-- Forget whatever a key holds. -/
def drop (store : Store K V) (key : K) : Store K V :=
  { store with
    text := Function.update store.text key none
    hash := Function.update store.hash key []
    members := Function.update store.members key []
    scored := Function.update store.scored key []
    stream := Function.update store.stream key ⟨[], []⟩
    expiresAt := Function.update store.expiresAt key none }

/-- Let time pass: what expires up to `now` is gone. -/
def advance (store : Store K V) (now : Int) : Store K V :=
  let lapsed key := (store.expiresAt key).any (decide <| · ≤ now)
  { text := fun key => if lapsed key then none else store.text key
    hash := fun key => if lapsed key then [] else store.hash key
    members := fun key => if lapsed key then [] else store.members key
    scored := fun key => if lapsed key then [] else store.scored key
    stream := fun key => if lapsed key then ⟨[], []⟩ else store.stream key
    expiresAt := fun key => if lapsed key then none else store.expiresAt key
    clock := now }

def deadline (store : Store K V) (ttl : Nat) : Int := store.clock + 1000 * ttl

def group (store : Store K V) (key : K) (name : String) : Option Group :=
  (store.stream key).groups.lookup name

def withGroups (store : Store K V) (key : K) (groups : List (String × Group)) : Store K V :=
  { store with stream := Function.update store.stream key ⟨(store.stream key).entries, groups⟩ }

/-- Carry out one command; only the group commands can be refused. -/
def exec (store : Store K V) : (command : Command K V) →
    Except String command.Reply × Store K V
  | .get key => (.ok (store.text key), store)
  | .set key value ifAbsent ttl =>
      if ifAbsent && store.holds key then (.ok false, store)
      else (.ok true, { store.drop key with
        text := Function.update store.text key (some value)
        expiresAt := Function.update store.expiresAt key (ttl.map store.deadline) })
  | .del key => (.ok (if store.holds key then 1 else 0 : Nat), store.drop key)
  | .existsKey key => (.ok (store.holds key), store)
  | .expire key ttl =>
      if store.holds key then
        (.ok true, { store with
          expiresAt := Function.update store.expiresAt key (some (store.deadline ttl)) })
      else (.ok false, store)
  | .hget key field => (.ok ((store.hash key).lookup field), store)
  | .hset key fields =>
      let known := (store.hash key).map Prod.fst
      (.ok ((fields.filter fun entry => entry.1 ∉ known).length : Nat),
        { store with hash := Function.update store.hash key (upsertAll fields (store.hash key)) })
  | .hgetall key => (.ok (store.hash key), store)
  | .hincrby key field amount =>
      match ((store.hash key).lookup field).map Counting.toInt with
      | some none => (.error "ERR hash value is not an integer", store)
      | found =>
          let total := (found.join.getD 0) + amount
          (.ok total, { store with
            hash := Function.update store.hash key
              (upsert field (Counting.ofInt total) (store.hash key)) })
  | .sadd key member =>
      if member ∈ store.members key then (.ok (0 : Nat), store)
      else (.ok (1 : Nat), { store with
        members := Function.update store.members key (store.members key ++ [member]) })
  | .srem key member =>
      (.ok (if member ∈ store.members key then 1 else 0 : Nat), { store with
        members := Function.update store.members key
          ((store.members key).filter fun other => other ≠ member) })
  | .smembers key => (.ok (store.members key), store)
  | .sismember key member => (.ok (decide (member ∈ store.members key)), store)
  | .zadd key member score =>
      let present := ((store.scored key).lookup member).isSome
      (.ok (if present then 0 else 1 : Nat), { store with
        scored := Function.update store.scored key
          (insertScored member score (without member (store.scored key))) })
  | .zrem key member =>
      (.ok (if ((store.scored key).lookup member).isSome then 1 else 0 : Nat), { store with
        scored := Function.update store.scored key (without member (store.scored key)) })
  | .zrangebyscore key low high limit =>
      (.ok (((store.scored key).filter fun entry =>
        decide (low ≤ entry.2) && decide (entry.2 ≤ high)).take limit), store)
  | .zremrangebyscore key low high =>
      let inside := fun entry : String × Int => decide (low ≤ entry.2) && decide (entry.2 ≤ high)
      (.ok (((store.scored key).filter inside).length : Nat), { store with
        scored := Function.update store.scored key
          ((store.scored key).filter fun entry => !inside entry) })
  | .xadd key value =>
      let stream := store.stream key
      (.ok stream.entries.length, { store with
        stream := Function.update store.stream key
          ⟨stream.entries ++ [value], stream.groups⟩ })
  | .xack key name entry =>
      match store.group key name with
      | none => (.ok (0 : Nat), store)
      | some group =>
          (.ok (if (group.owned entry).isSome then 1 else 0 : Nat),
            store.withGroups key
              (adjust name (fun found => found.acknowledge entry) (store.stream key).groups))
  | .xgroupCreate key name =>
      match store.group key name with
      | some _ => (.error "BUSYGROUP Consumer Group name already exists", store)
      | none => (.ok (), store.withGroups key ((store.stream key).groups ++ [(name, ⟨0, []⟩)]))
  | .xreadgroup key name consumer count =>
      match store.group key name with
      | none => (.error "NOGROUP No such consumer group", store)
      | some group =>
          let handed := (store.stream key).fresh group.delivered count
          (.ok handed, store.withGroups key
            (adjust name (fun found => found.deliver consumer store.clock handed)
              (store.stream key).groups))
  | .xpending key name count =>
      match store.group key name with
      | none => (.error "NOGROUP No such consumer group", store)
      | some group => (.ok ((group.pending.take count).map fun waiting =>
          ⟨waiting.entry, waiting.consumer, store.clock - waiting.since⟩), store)
  | .xclaim key name consumer minIdle entries =>
      match store.group key name with
      | none => (.error "NOGROUP No such consumer group", store)
      | some group =>
          let taken := (entries.filter (group.idleSince (store.clock - minIdle))).filterMap
            fun entry => (store.stream key).entries[entry]?.map fun value => (entry, value)
          (.ok taken, store.withGroups key
            (adjust name (fun found => taken.foldl
                (fun current entry => current.claim consumer store.clock entry.1) found)
              (store.stream key).groups))

end Store

end Redis
