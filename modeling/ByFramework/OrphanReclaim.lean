import ByFramework.Delivery

/-!
Which entries of a pending list the reclaim passes of a group take over: those whose workers
are offline, as far as they stand among the first ones.
-/

namespace ByFramework

open Async

def takesOver (store : RedisStore) (workerId : String) (waiting : Redis.PendingSummary) : Bool :=
  !(decide (waiting.consumer = workerId ∨ waiting.idle < WorkerRunner.orphanReclaimIdleMs)) &&
    !leaseOnline (store.text (.workerOnlineLease waiting.consumer))

/-- One entry of a pending list: the ids listed there, and who has it. -/
structure Stands (store : RedisStore) (key : Key) (name : String) (entry : Nat) (ids : List Nat)
    (owner : Redis.Pending) : Prop where
  grouped : ∃ group, store.group key name = some group ∧ group.Orderly ∧
    group.pending.map Redis.Pending.entry = ids ∧ group.owned entry = some owner

def Claimed (store : RedisStore) (workerId : String) (entry : Nat) (ids : List Nat)
    (owner : Redis.Pending) : Prop :=
  entry ∈ ids.take orphanReclaimBatch ∧
    takesOver store workerId ⟨entry, owner.consumer, store.clock - owner.since⟩ = true

structure Kept (before after : RedisStore) : Prop where
  text : after.text = before.text
  clock : after.clock = before.clock
  entries : ∀ key, (after.stream key).entries = (before.stream key).entries
  delivered : ∀ key name, (after.group key name).map Redis.Group.delivered =
    (before.group key name).map Redis.Group.delivered

theorem Kept.refl (store : RedisStore) : Kept store store :=
  ⟨rfl, rfl, fun _ => rfl, fun _ _ => rfl⟩

theorem Kept.trans {first middle last : RedisStore} (left : Kept first middle)
    (right : Kept middle last) : Kept first last where
  text := right.text.trans left.text
  clock := right.clock.trans left.clock
  entries key := (right.entries key).trans (left.entries key)
  delivered key name := (right.delivered key name).trans (left.delivered key name)

theorem Kept.claimed {before after : RedisStore} (kept : Kept before after) {workerId : String}
    {entry : Nat} {ids : List Nat} {owner : Redis.Pending} :
    Claimed after workerId entry ids owner ↔ Claimed before workerId entry ids owner := by
  simp only [Claimed, takesOver, kept.text, kept.clock]

theorem not_claimed_own {store : RedisStore} {workerId : String} {entry : Nat} {ids : List Nat}
    {owner : Redis.Pending} (own : owner.consumer = workerId) :
    ¬ Claimed store workerId entry ids owner := by
  intro claimed
  have taken := claimed.2
  simp [takesOver, own] at taken

def Seen (reached : Prop) (workerId : String) (key : Key) (name : String) (entry : Nat)
    (ids : List Nat) (owner : Redis.Pending) (after : RedisStore)
    (messages : List StreamMessage) : Prop :=
  ∃ holder, Stands after key name entry ids holder ∧
    (reached → holder.consumer = workerId ∧ (key, entry) ∈ messages.map StreamMessage.place) ∧
    (¬ reached → holder = owner ∧ (key, entry) ∉ messages.map StreamMessage.place)

theorem mem_parseBatch_place {key place : Key} {entry : Nat} {taken : List (Nat × Value)} :
    (place, entry) ∈ (parseBatch key taken).map StreamMessage.place ↔
      place = key ∧ ∃ command, (entry, Value.command command) ∈ taken := by
  simp only [parseBatch, List.mem_map, List.mem_filterMap]
  constructor
  · rintro ⟨message, ⟨⟨msgId, value⟩, listed, parsed⟩, same⟩
    unfold parseStreamEntry at parsed
    split at parsed
    · rename_i equal
      cases equal
      cases parsed
      cases same
      exact ⟨rfl, _, listed⟩
    · cases parsed
  · rintro ⟨rfl, command, listed⟩
    exact ⟨⟨place, entry, command⟩, ⟨_, listed, rfl⟩, rfl⟩

section Pass

variable {memory : WorkerRunner} {fleet : Fleet} {key : Key} {name : String} {entry : Nat}
  {ids : List Nat} {owner : Redis.Pending} {command : GatewayCommand}

theorem isWorkerOnline_still (workerId : String) :
    (isWorkerOnline workerId : Proc WorkerRunner Bool).wp Fleet.still
      (fun outcome after last => outcome =
        .ok (leaseOnline (fleet.store.text (.workerOnlineLease workerId))) ∧ after = memory ∧
          last = fleet) memory fleet := by
  apply Task.wp_alone_bind
  apply wp_redis_still
  exact Task.wp_alone_pure ⟨rfl, rfl, rfl⟩

theorem claimableEntries_still (workerId : String) (waiting : List Redis.PendingSummary) :
    (WorkerRunner.claimableEntries workerId waiting).wp Fleet.still
      (fun outcome after last => outcome = .ok ((waiting.filter
        (takesOver fleet.store workerId)).map Redis.PendingSummary.entry) ∧ after = memory ∧
          last = fleet) memory fleet := by
  induction waiting with
  | nil => exact Task.wp_alone_pure ⟨rfl, rfl, rfl⟩
  | cons summary rest ih =>
      unfold WorkerRunner.claimableEntries
      split
      · rename_i passedOver
        have skipped : takesOver fleet.store workerId summary = false := by
          simp [takesOver, passedOver]
        rw [List.filter_cons_of_neg (by simp [skipped])]
        exact ih
      · rename_i considered
        apply Task.wp_alone_bind
        apply Task.wp_mono (isWorkerOnline_still summary.consumer)
        rintro _ _ _ - ⟨rfl, rfl, rfl⟩
        apply Task.wp_alone_bind
        apply Task.wp_mono ih
        rintro _ current last - ⟨rfl, rfl, rfl⟩
        refine Task.wp_alone_pure ⟨?_, rfl, rfl⟩
        cases online : leaseOnline (last.store.text (.workerOnlineLease summary.consumer)) with
        | true =>
            have skipped : takesOver last.store workerId summary = false := by
              simp [takesOver, online]
            rw [List.filter_cons_of_neg (by simp [skipped])]
            rfl
        | false =>
            have taken : takesOver last.store workerId summary = true := by
              simp [takesOver, online, considered]
            rw [List.filter_cons_of_pos taken]
            rfl

def summariesOf (store : RedisStore) (group : Redis.Group) : List Redis.PendingSummary :=
  (group.pending.take orphanReclaimBatch).map fun waiting =>
    ⟨waiting.entry, waiting.consumer, store.clock - waiting.since⟩

/-- The ids a pass asks for. -/
def claimableOf (store : RedisStore) (workerId : String) (group : Redis.Group) : List Nat :=
  ((summariesOf store group).filter (takesOver store workerId)).map Redis.PendingSummary.entry

theorem mem_claimableOf {group : Redis.Group} (orderly : group.Orderly)
    (owned : group.owned entry = some owner) (store : RedisStore) (workerId : String) :
    entry ∈ claimableOf store workerId group ↔
      Claimed store workerId entry (group.pending.map Redis.Pending.entry) owner := by
  obtain ⟨listed, named⟩ := Redis.Group.mem_of_owned owned
  simp only [Claimed, claimableOf, summariesOf, List.mem_map, List.mem_filter, ← List.map_take]
  constructor
  · rintro ⟨_, ⟨⟨waiting, early, rfl⟩, taken⟩, same⟩
    have equal : waiting = owner := by
      refine List.inj_on_of_nodup_map orderly.distinct (List.mem_of_mem_take early) listed ?_
      exact same.trans named.symm
    subst equal
    refine ⟨⟨waiting, early, same⟩, ?_⟩
    rw [← same]
    exact taken
  · rintro ⟨⟨waiting, early, same⟩, taken⟩
    have equal : waiting = owner := by
      refine List.inj_on_of_nodup_map orderly.distinct (List.mem_of_mem_take early) listed ?_
      exact same.trans named.symm
    subst equal
    refine ⟨_, ⟨⟨waiting, early, rfl⟩, ?_⟩, same⟩
    rw [same]
    exact taken

theorem claimableEntries_of (group : Redis.Group) (workerId : String) :
    (WorkerRunner.claimableEntries workerId (summariesOf fleet.store group)).wp Fleet.still
      (fun outcome after last => outcome = .ok (claimableOf fleet.store workerId group) ∧
        after = memory ∧ last = fleet) memory fleet :=
  claimableEntries_still workerId _

def claimedBy (store : RedisStore) (key : Key) (name consumer : String)
    (taken : List (Nat × Value)) : RedisStore :=
  store.withGroups key (Redis.adjust name (fun found => taken.foldl
    (fun current entry => current.claim consumer store.clock entry.1) found)
    (store.stream key).groups)

theorem group_claimedBy (store : RedisStore) (key other : Key) (name asked consumer : String)
    (taken : List (Nat × Value)) :
    (claimedBy store key name consumer taken).group other asked =
      if other = key ∧ asked = name then (store.group other asked).map fun found => taken.foldl
        (fun current entry => current.claim consumer store.clock entry.1) found
      else store.group other asked :=
  Redis.Store.group_adjust store key other name asked _

theorem kept_claimedBy (store : RedisStore) (key : Key) (name consumer : String)
    (taken : List (Nat × Value)) : Kept store (claimedBy store key name consumer taken) where
  text := rfl
  clock := rfl
  entries other := by
    by_cases same : other = key
    · subst same
      simp [claimedBy, Redis.Store.withGroups]
    · simp [claimedBy, Redis.Store.withGroups, same]
  delivered other asked := by
    rw [group_claimedBy]
    split
    · cases store.group other asked with
      | none => rfl
      | some group => simp [Redis.Store.delivered_claims]
    · rfl

theorem stands_claimedBy {store : RedisStore} {consumer asked : String} {other : Key}
    {taken : List (Nat × Value)} (stands : Stands store key name entry ids owner) :
    Stands (claimedBy store other asked consumer taken) key name entry ids
      (if key = other ∧ name = asked ∧ entry ∈ taken.map Prod.fst then
        ⟨entry, consumer, store.clock⟩ else owner) := by
  obtain ⟨group, found, orderly, listed, owned⟩ := stands.grouped
  by_cases same : key = other ∧ name = asked
  · obtain ⟨rfl, rfl⟩ := same
    refine ⟨⟨_, ?_, Redis.Group.orderly_claims orderly consumer store.clock taken, ?_, ?_⟩⟩
    · rw [group_claimedBy, if_pos ⟨rfl, rfl⟩, found]
      rfl
    · rw [Redis.Group.ids_claims]
      exact listed
    · rw [Redis.Group.owned_claims, owned]
      simp only [true_and]
      split <;> rfl
  · have apart : ¬ (key = other ∧ name = asked ∧ entry ∈ taken.map Prod.fst) :=
      fun both => same ⟨both.1, both.2.1⟩
    rw [if_neg apart]
    refine ⟨⟨group, ?_, orderly, listed, owned⟩⟩
    rw [group_claimedBy, if_neg same]
    exact found

/-- A pass that takes nothing from a stream leaves the entry with its owner. -/
theorem seen_untouched {store : RedisStore} {reached : Prop} {workerId : String}
    (stands : Stands store key name entry ids owner) (missed : ¬ reached) :
    Seen reached workerId key name entry ids owner store [] :=
  ⟨owner, stands, fun reaches => absurd reaches missed, fun _ => ⟨rfl, List.not_mem_nil⟩⟩

/-- A pass has the entry, and hands it over, where the claim that it makes takes it. -/
theorem seen_claimed {store : RedisStore} {place : Key} {reached : Prop} {workerId : String}
    {taken : List (Nat × Value)} (stands : Stands store key name entry ids owner)
    (stored : (store.stream key).entries[entry]? = some (.command command))
    (values : ∀ next ∈ taken, (store.stream place).entries[next.1]? = some next.2)
    (reaches : key = place → (entry ∈ taken.map Prod.fst ↔ reached)) :
    Seen (key = place ∧ reached) workerId key name entry ids owner
      (claimedBy store place name workerId taken) (parseBatch place taken) := by
  refine ⟨_, stands_claimedBy stands, ?_, fun unreached => ?_⟩
  · rintro ⟨rfl, claimed⟩
    have inside := (reaches rfl).mpr claimed
    rw [if_pos ⟨rfl, rfl, inside⟩, mem_parseBatch_place]
    obtain ⟨next, listed, same⟩ := List.mem_map.mp inside
    have value := values next listed
    rw [same, stored] at value
    obtain rfl : next = (entry, .command command) :=
      Prod.ext same (Option.some.inj value).symm
    exact ⟨rfl, rfl, command, listed⟩
  · have outside (here : key = place) : entry ∉ taken.map Prod.fst :=
      fun inside => unreached ⟨here, (reaches here).mp inside⟩
    rw [if_neg fun both => outside both.1 both.2.2, mem_parseBatch_place]
    refine ⟨rfl, ?_⟩
    rintro ⟨here, other, listed⟩
    exact outside here (List.mem_map_of_mem listed)

theorem reclaimStream_still (agentType : String) (named : memory.groupName = name)
    (stands : Stands fleet.store key name entry ids owner)
    (stored : (fleet.store.stream key).entries[entry]? = some (.command command)) :
    (WorkerRunner.reclaimStream agentType).wp Fleet.still (fun outcome after last =>
      after = memory ∧ Kept fleet.store last.store ∧ last.process = fleet.process ∧
        Seen (key = .ctrlStream agentType ∧ Claimed fleet.store memory.workerId entry ids owner)
          memory.workerId key name entry ids owner last.store (gathered [outcome]))
      memory fleet := by
  obtain ⟨group, found, orderly, listed, owned⟩ := stands.grouped
  apply Task.wp_alone_bind
  apply Task.wp_alone_get
  apply Task.wp_alone_bind
  apply wp_redis_still
  rw [named]
  cases shown : fleet.store.group (.ctrlStream agentType) name with
  | none =>
      have refused : fleet.store.exec (.xpending (.ctrlStream agentType) name
          orphanReclaimBatch) = (.error "NOGROUP No such consumer group", fleet.store) := by
        simp only [Redis.Store.exec, shown]
      rw [refused]
      refine ⟨rfl, Kept.refl _, rfl, seen_untouched stands ?_⟩
      rintro ⟨rfl, _⟩
      rw [found] at shown
      cases shown
  | some asked =>
      have answered : fleet.store.exec (.xpending (.ctrlStream agentType) name
          orphanReclaimBatch) = (.ok (summariesOf fleet.store asked), fleet.store) := by
        simp only [Redis.Store.exec, shown]
        rfl
      have claimable (here : key = .ctrlStream agentType) :
          entry ∈ claimableOf fleet.store memory.workerId asked ↔
            Claimed fleet.store memory.workerId entry ids owner := by
        subst here
        obtain rfl : group = asked := Option.some.inj (found.symm.trans shown)
        rw [← listed]
        exact mem_claimableOf orderly owned fleet.store memory.workerId
      rw [answered]
      apply Task.wp_alone_bind
      apply Task.wp_mono (claimableEntries_of asked memory.workerId)
      rintro _ current last - ⟨rfl, rfl, rfl⟩
      dsimp only
      split
      · rename_i empty
        refine Task.wp_alone_pure ⟨rfl, Kept.refl _, rfl, seen_untouched stands ?_⟩
        rintro ⟨here, claimed⟩
        have nothing : claimableOf last.store current.workerId asked = [] :=
          List.isEmpty_iff.mp empty
        have listed := (claimable here).mpr claimed
        rw [nothing] at listed
        cases listed
      · apply Task.wp_alone_bind
        apply wp_redis_still
        obtain ⟨taken, done, taking, values⟩ := Redis.Store.xclaim_spec last.store shown
          current.workerId WorkerRunner.orphanReclaimIdleMs
          (claimableOf last.store current.workerId asked)
        have claims : last.store.exec (.xclaim (.ctrlStream agentType) name
            current.workerId WorkerRunner.orphanReclaimIdleMs
            (claimableOf last.store current.workerId asked)) = (.ok taken,
              claimedBy last.store (.ctrlStream agentType) name current.workerId taken) :=
          done
        have taken_iff (here : key = .ctrlStream agentType) : entry ∈ taken.map Prod.fst ↔
            Claimed last.store current.workerId entry ids owner := by
          rw [taking, claimable here]
          refine ⟨fun both => both.1, fun claimed => ⟨claimed, ?_, ?_⟩⟩
          · have idle := claimed.2
            subst here
            obtain rfl : group = asked := Option.some.inj (found.symm.trans shown)
            simp only [takesOver, Bool.and_eq_true, Bool.not_eq_true', decide_eq_false_iff_not,
              not_or, not_lt] at idle
            simp only [Redis.Group.idleSince, owned, Option.any_some, decide_eq_true_eq]
            omega
          · rw [← here, stored]
            rfl
        dsimp only
        rw [claims]
        refine Task.wp_alone_pure ⟨rfl, kept_claimedBy _ _ _ _ _, rfl, ?_⟩
        rw [gathered_ok]
        exact seen_claimed stands stored values taken_iff

theorem Seen.later {before middle last : RedisStore} {here inRest : Prop} {workerId : String}
    {holder : Redis.Pending} {early late : List StreamMessage} (kept : Kept before middle)
    (yes : here ∧ Claimed before workerId entry ids owner →
      holder.consumer = workerId ∧ (key, entry) ∈ early.map StreamMessage.place)
    (no : ¬ (here ∧ Claimed before workerId entry ids owner) →
      holder = owner ∧ (key, entry) ∉ early.map StreamMessage.place)
    (second : Seen (inRest ∧ Claimed middle workerId entry ids holder) workerId key name entry
      ids holder last late) :
    Seen ((here ∨ inRest) ∧ Claimed before workerId entry ids owner) workerId key name entry ids
      owner last (early ++ late) := by
  obtain ⟨final, stands, yesLate, noLate⟩ := second
  by_cases reached : here ∧ Claimed before workerId entry ids owner
  · obtain ⟨own, listed⟩ := yes reached
    have same := (noLate fun both => not_claimed_own own both.2).1
    refine ⟨final, stands, fun _ => ⟨same ▸ own, ?_⟩, fun unreached => ?_⟩
    · rw [List.map_append]
      exact List.mem_append_left _ listed
    · exact absurd ⟨.inl reached.1, reached.2⟩ unreached
  · obtain ⟨rfl, absent⟩ := no reached
    have equal : Claimed middle workerId entry ids holder ↔
        Claimed before workerId entry ids holder := kept.claimed
    refine ⟨final, stands, fun both => ?_, fun unreached => ?_⟩
    · have inRest : inRest := both.1.resolve_left fun isHere => reached ⟨isHere, both.2⟩
      obtain ⟨own, listed⟩ := yesLate ⟨inRest, equal.mpr both.2⟩
      refine ⟨own, ?_⟩
      rw [List.map_append]
      exact List.mem_append_right _ listed
    · obtain ⟨same, missing⟩ := noLate fun both => unreached ⟨.inr both.1, equal.mp both.2⟩
      refine ⟨same, ?_⟩
      rw [List.map_append, List.mem_append]
      exact fun either => either.elim absent missing

theorem reclaimEach_still (agentTypes : List String) (named : memory.groupName = name)
    (stands : Stands fleet.store key name entry ids owner)
    (stored : (fleet.store.stream key).entries[entry]? = some (.command command)) :
    (Task.mapEach agentTypes fun agentType =>
      tryCatch (WorkerRunner.reclaimStream agentType) fun _ => pure []).wp Fleet.still
      (fun outcome after last => after = memory ∧ Kept fleet.store last.store ∧
        last.process = fleet.process ∧ ∃ batches, outcome = .ok batches ∧
          Seen (key ∈ agentTypes.map Key.ctrlStream ∧
            Claimed fleet.store memory.workerId entry ids owner)
            memory.workerId key name entry ids owner last.store batches.flatten)
      memory fleet := by
  induction agentTypes generalizing fleet owner with
  | nil =>
      refine Task.wp_alone_pure ⟨rfl, Kept.refl _, rfl, [], rfl, owner, stands, ?_, ?_⟩
      · rintro ⟨listed, _⟩
        cases listed
      · exact fun _ => ⟨rfl, List.not_mem_nil⟩
  | cons agentType rest ih =>
      have first : (tryCatch (WorkerRunner.reclaimStream agentType) fun _ => pure []).wp
          Fleet.still (fun outcome after last => after = memory ∧ Kept fleet.store last.store ∧
            last.process = fleet.process ∧ ∃ batch, outcome = .ok batch ∧
              Seen (key = .ctrlStream agentType ∧
                Claimed fleet.store memory.workerId entry ids owner)
                memory.workerId key name entry ids owner last.store batch) memory fleet := by
        apply Task.wp_alone_tryCatch
        apply Task.wp_mono (reclaimStream_still agentType named stands stored)
        rintro outcome after last - ⟨same, kept, still, seen⟩
        cases outcome with
        | error error => exact Task.wp_alone_pure ⟨same, kept, still, [], rfl, seen⟩
        | ok batch =>
            rw [gathered_ok] at seen
            exact ⟨same, kept, still, batch, rfl, seen⟩
      apply Task.wp_alone_bind
      apply Task.wp_mono first
      rintro _ after middle - ⟨rfl, kept, still, batch, rfl, holder, standing, yes, no⟩
      apply Task.wp_alone_bind
      rw [← kept.entries] at stored
      apply Task.wp_mono (ih standing stored)
      rintro _ _ last - ⟨rfl, more, alike, batches, rfl, seen⟩
      refine Task.wp_alone_pure ⟨rfl, kept.trans more, alike.trans still, _, rfl, ?_⟩
      have whole := Seen.later kept yes no seen
      rw [List.map_cons, List.mem_cons]
      exact whole

theorem reclaimOrphanedMessages_still (named : memory.groupName = name)
    (stands : Stands fleet.store key name entry ids owner)
    (stored : (fleet.store.stream key).entries[entry]? = some (.command command)) :
    WorkerRunner.reclaimOrphanedMessages.wp Fleet.still (fun outcome after last =>
      after = memory ∧ Kept fleet.store last.store ∧ last.process = fleet.process ∧
        ∃ messages, outcome = .ok messages ∧
          Seen (key ∈ memory.activeAgentTypes.map Key.ctrlStream ∧
            Claimed fleet.store memory.workerId entry ids owner)
            memory.workerId key name entry ids owner last.store messages) memory fleet := by
  apply Task.wp_alone_bind
  apply Task.wp_alone_get
  apply Task.wp_alone_bind
  apply Task.wp_mono (reclaimEach_still memory.activeAgentTypes named stands stored)
  rintro _ after last - ⟨rfl, kept, still, batches, rfl, seen⟩
  exact Task.wp_alone_pure ⟨rfl, kept, still, _, rfl, seen⟩

def NothingNew (store : RedisStore) (runner : WorkerRunner) : Prop :=
  ∀ agentType ∈ runner.activeAgentTypes, ∃ group,
    store.group (.ctrlStream agentType) runner.groupName = some group ∧
      (store.stream (.ctrlStream agentType)).entries.length ≤ group.delivered

theorem NothingNew.kept {before after : RedisStore} {runner : WorkerRunner}
    (nothing : NothingNew before runner) (kept : Kept before after) : NothingNew after runner := by
  intro agentType listed
  obtain ⟨group, found, all⟩ := nothing agentType listed
  have same := kept.delivered (.ctrlStream agentType) runner.groupName
  rw [found] at same
  obtain ⟨other, known, equal⟩ := Option.map_eq_some_iff.mp same
  refine ⟨other, known, ?_⟩
  rw [kept.entries, equal]
  exact all

theorem readStream_nothing {agentType : String} (nothing : NothingNew fleet.store memory)
    (active : agentType ∈ memory.activeAgentTypes) :
    (WorkerRunner.readStream (.ctrlStream agentType)).wp Fleet.still
      (fun outcome after last => outcome = .ok [] ∧ after = memory ∧ last = fleet)
      memory fleet := by
  obtain ⟨group, found, all⟩ := nothing agentType active
  apply Task.wp_alone_bind
  apply Task.wp_alone_get
  apply Task.wp_alone_bind
  apply wp_redis_still
  rw [Redis.Store.xreadgroup_nothing fleet.store found all]
  exact Task.wp_alone_pure ⟨rfl, rfl, rfl⟩

theorem readStreams_nothing (agentTypes : List String) (nothing : NothingNew fleet.store memory)
    (active : ∀ agentType ∈ agentTypes, agentType ∈ memory.activeAgentTypes) :
    (WorkerRunner.readStreams agentTypes).wp Fleet.still
      (fun outcome after last => outcome = .ok [] ∧ after = memory ∧ last = fleet)
      memory fleet := by
  have unfailing (outcomes : List (Except JsError (List StreamMessage)))
      (all : ∀ outcome ∈ outcomes, outcome = .ok []) :
      (Task.mapEach outcomes orThrow : Proc WorkerRunner _).wp Fleet.still
        (fun outcome after last => ∃ batches, outcome = .ok batches ∧ batches.flatten = [] ∧
          after = memory ∧ last = fleet) memory fleet := by
    induction outcomes with
    | nil => exact Task.wp_alone_pure ⟨[], rfl, rfl, rfl, rfl⟩
    | cons outcome rest ih =>
        have empty := all outcome List.mem_cons_self
        subst empty
        apply Task.wp_alone_bind
        apply Task.wp_alone_pure
        apply Task.wp_alone_bind
        apply Task.wp_mono (ih fun other listed => all other (List.mem_cons_of_mem _ listed))
        rintro _ _ _ - ⟨batches, rfl, empty, rfl, rfl⟩
        exact Task.wp_alone_pure ⟨_, rfl, empty, rfl, rfl⟩
  apply Task.wp_alone_bind
  apply Task.wp_mono (Task.wp_alone_mapEach (fun outcomes after last =>
    (∀ outcome ∈ outcomes, outcome = .ok []) ∧ after = memory ∧ last = fleet) agentTypes ?_
      ⟨fun _ listed => absurd listed List.not_mem_nil, rfl, rfl⟩)
  · rintro _ _ _ - ⟨outcomes, rfl, all, rfl, rfl⟩
    apply Task.wp_alone_bind
    apply Task.wp_mono (unfailing outcomes all)
    rintro _ _ _ - ⟨batches, rfl, empty, rfl, rfl⟩
    exact Task.wp_alone_pure ⟨by rw [empty], rfl, rfl⟩
  · rintro agentType listed outcomes _ _ ⟨all, rfl, rfl⟩
    apply Task.wp_mono (Task.wp_alone_attempt (readStream_nothing nothing
      (active agentType listed)))
    rintro _ _ _ - ⟨outcome, rfl, rfl, rfl, rfl⟩
    refine ⟨_, rfl, fun other inside => ?_, rfl, rfl⟩
    rcases List.mem_append.mp inside with before | last
    · exact all other before
    · exact List.mem_singleton.mp last

theorem readPrimary_nothing (agentTypes : List String) (nothing : NothingNew fleet.store memory)
    (active : ∀ agentType ∈ agentTypes, agentType ∈ memory.activeAgentTypes) :
    (WorkerRunner.readPrimary agentTypes).wp Fleet.still
      (fun outcome after last => outcome = .ok [] ∧ after.workerId = memory.workerId ∧
        last = fleet) memory fleet := by
  apply Task.wp_alone_bind
  apply Task.wp_alone_get
  apply Task.wp_alone_bind
  apply Task.wp_alone_modify
  dsimp only
  split
  · exact Task.wp_alone_pure ⟨rfl, rfl, rfl⟩
  · rename_i agentType found
    have reading := @readStream_nothing
      { memory with primaryCursor := memory.primaryCursor + 1 } fleet agentType nothing
      (active agentType (List.mem_of_getElem? found))
    apply Task.wp_mono reading
    rintro _ _ _ - ⟨rfl, rfl, rfl⟩
    exact ⟨rfl, rfl, rfl⟩

theorem poll_still (due : memory.reclaimCountdown ≤ 1) (nothing : NothingNew fleet.store memory)
    (named : memory.groupName = name) (reads : key ∈ memory.activeAgentTypes.map Key.ctrlStream)
    (stands : Stands fleet.store key name entry ids owner)
    (stored : (fleet.store.stream key).entries[entry]? = some (.command command)) :
    WorkerRunner.poll.wp Fleet.still (fun outcome after last =>
      after.workerId = memory.workerId ∧ Kept fleet.store last.store ∧
        last.process = fleet.process ∧ ∃ messages, outcome = .ok messages ∧
          Seen (Claimed fleet.store memory.workerId entry ids owner)
            memory.workerId key name entry ids owner last.store messages) memory fleet := by
  have some : ¬ memory.activeAgentTypes.isEmpty = true := by
    intro empty
    rw [List.isEmpty_iff.mp empty] at reads
    cases reads
  apply Task.wp_alone_bind
  apply Task.wp_alone_get
  dsimp only
  rw [if_neg some]
  apply Task.wp_alone_bind
  apply Task.wp_mono (readStreams_nothing memory.activeAgentTypes nothing fun _ listed => listed)
  rintro _ current last - ⟨rfl, rfl, rfl⟩
  have counted : current.reclaimCountdown - 1 ≤ 0 := by omega
  have passes := @reclaimOrphanedMessages_still
    { current with reclaimCountdown := WorkerRunner.orphanReclaimEveryNPolls } last key name entry
    ids owner command named stands stored
  have none : ¬ (!true) = true := by simp
  dsimp only [List.isEmpty_nil]
  rw [if_neg none]
  apply Task.wp_alone_bind
  apply Task.wp_alone_bind
  apply Task.wp_alone_get
  apply Task.wp_alone_bind
  apply Task.wp_alone_modify
  apply Task.wp_alone_pure
  apply Task.wp_alone_bind
  simp only [counted, decide_true, if_true]
  apply Task.wp_mono passes
  rintro _ after final - ⟨rfl, kept, still, messages, rfl, holder, stands, yes, no⟩
  have seen : Seen (Claimed last.store current.workerId entry ids owner) current.workerId key name
      entry ids owner final.store messages :=
    ⟨holder, stands, fun claimed => yes ⟨reads, claimed⟩, fun unclaimed =>
      no fun both => unclaimed both.2⟩
  dsimp only
  split
  · exact Task.wp_alone_pure ⟨rfl, kept, still, messages, rfl, seen⟩
  · rename_i empty
    have nobody : messages = [] := by simpa using empty
    have quiet := @readPrimary_nothing
      { current with reclaimCountdown := WorkerRunner.orphanReclaimEveryNPolls } final
      current.activeAgentTypes (nothing.kept kept) fun _ listed => listed
    apply Task.wp_mono quiet
    rintro _ after _ - ⟨rfl, same, rfl⟩
    exact ⟨same, kept, still, [], rfl, nobody ▸ seen⟩

theorem handOver_still (workerId : String) (messages : List StreamMessage) :
    (Task.forEach messages (WorkerRunner.handOver workerId)).wp Fleet.still
      (fun _ _ last => last.store = fleet.store ∧ (last.process workerId).handed =
        (fleet.process workerId).handed ++ messages) memory fleet := by
  induction messages generalizing fleet with
  | nil => exact Task.wp_alone_pure ⟨rfl, (List.append_nil _).symm⟩
  | cons message rest ih =>
      apply Task.wp_alone_bind
      refine Task.wp_alone_await ?_
      rintro _ _ ⟨rfl, rfl⟩
      apply Task.wp_mono ih
      rintro _ _ last - ⟨same, handed⟩
      refine ⟨same, handed.trans ?_⟩
      simp [Fleet.withProcess, ProcessMemory.answer]

theorem consumeRound_still (due : memory.reclaimCountdown ≤ 1)
    (nothing : NothingNew fleet.store memory) (named : memory.groupName = name)
    (reads : key ∈ memory.activeAgentTypes.map Key.ctrlStream)
    (stands : Stands fleet.store key name entry ids owner)
    (stored : (fleet.store.stream key).entries[entry]? = some (.command command)) :
    WorkerRunner.consumeRound.wp Fleet.still (fun _ _ last => Kept fleet.store last.store ∧
      ∃ messages, (last.process memory.workerId).handed =
          (fleet.process memory.workerId).handed ++ messages ∧
        Seen (Claimed fleet.store memory.workerId entry ids owner)
          memory.workerId key name entry ids owner last.store messages) memory fleet := by
  apply Task.wp_alone_bind
  apply Task.wp_mono (poll_still due nothing named reads stands stored)
  rintro _ after middle - ⟨same, kept, still, messages, rfl, seen⟩
  apply Task.wp_alone_bind
  apply Task.wp_alone_get
  dsimp only
  rw [same]
  apply Task.wp_mono (handOver_still memory.workerId messages)
  rintro _ _ last - ⟨stored, handed⟩
  refine ⟨stored ▸ kept, messages, ?_, stored ▸ seen⟩
  rw [handed, still]

end Pass

/-! ### Passes one after another -/

/-- A reclaim pass of a runner, and the entries acknowledged since the pass before. -/
structure ReclaimPass where
  runner : WorkerRunner
  acked : List Nat

/-- Between two passes entries are acknowledged and time passes; nothing new comes, and the
leases say what they said. -/
structure Calm (key : Key) (name : String) (acked : List Nat) (before after : Fleet) : Prop where
  later : before.store.clock ≤ after.store.clock
  leases : ∀ workerId, leaseOnline (after.store.text (.workerOnlineLease workerId)) =
    leaseOnline (before.store.text (.workerOnlineLease workerId))
  entries : (after.store.stream key).entries = (before.store.stream key).entries
  group : after.store.group key name =
    (before.store.group key name).map fun group => acked.foldl Redis.Group.acknowledge group

/-- A live worker of the group is about to make a pass over the stream. -/
structure LivePass (key : Key) (name : String) (runner : WorkerRunner) (fleet : Fleet) :
    Prop where
  due : runner.reclaimCountdown ≤ 1
  named : runner.groupName = name
  reads : key ∈ runner.activeAgentTypes.map Key.ctrlStream
  online : leaseOnline (fleet.store.text (.workerOnlineLease runner.workerId)) = true
  nothing : NothingNew fleet.store runner

def afterRound (runner : WorkerRunner) (fleet : Fleet) : Fleet :=
  ((Task.start WorkerRunner.consumeRound runner).run Fleet.answer fleet).2

/-- Passes from a fleet on, and the messages they hand to processing. -/
inductive Passes (key : Key) (name : String) :
    List ReclaimPass → Fleet → List StreamMessage → Prop
  | nil {fleet} : Passes key name [] fleet []
  | cons {pass rest fleet middle messages more} :
      Calm key name pass.acked fleet middle → LivePass key name pass.runner middle →
      ((afterRound pass.runner middle).process pass.runner.workerId).handed =
        (middle.process pass.runner.workerId).handed ++ messages →
      Passes key name rest (afterRound pass.runner middle) more →
      Passes key name (pass :: rest) fleet (messages ++ more)

def ahead (entry : Nat) (ids acked : List Nat) : List Nat :=
  (ids.takeWhile fun other => other ≠ entry).filter fun other => other ∉ acked

/-- Some pass finds an entry among the first ones of its pending list. -/
def Visible (entry : Nat) (ids : List Nat) (passes : List ReclaimPass) : Prop :=
  ∃ earlier pass later, passes = earlier ++ pass :: later ∧
    (ahead entry ids ((earlier ++ [pass]).flatMap ReclaimPass.acked)).length <
      orphanReclaimBatch

theorem mem_take_iff {entry : Nat} {ids : List Nat} (listed : entry ∈ ids) (count : Nat) :
    entry ∈ ids.take count ↔ (ids.takeWhile fun other => other ≠ entry).length < count := by
  induction ids generalizing count with
  | nil => cases listed
  | cons first rest ih =>
      cases count with
      | zero => simp
      | succ count =>
          by_cases same : first = entry
          · simp [same]
          · have inRest : entry ∈ rest := (List.mem_cons.mp listed).resolve_left (Ne.symm same)
            have step := ih inRest count
            have differ : ¬ entry = first := fun equal => same equal.symm
            simp only [List.take_succ_cons, List.mem_cons, differ, false_or, List.takeWhile_cons,
              ne_eq, same, not_false_eq_true, decide_true, if_true, List.length_cons]
            simp only [ne_eq] at step
            rw [step]
            omega

theorem ahead_filter {entry : Nat} {first : List Nat} (kept : entry ∉ first) (ids : List Nat)
    (second : List Nat) : ahead entry (ids.filter fun other => other ∉ first) second =
      ahead entry ids (first ++ second) := by
  induction ids with
  | nil => rfl
  | cons other rest ih =>
      by_cases same : other = entry
      · subst same
        rw [List.filter_cons_of_pos (by simpa using kept)]
        simp [ahead]
      · by_cases removed : other ∈ first
        · rw [List.filter_cons_of_neg (by simpa using removed), ih]
          simp [ahead, same, removed]
        · rw [List.filter_cons_of_pos (by simpa using removed)]
          simp only [ahead, ne_eq, decide_not, List.mem_append, not_or, Bool.decide_and] at ih
          simp [ahead, same, removed, List.filter_cons, ih]

theorem visible_cons {entry : Nat} {ids : List Nat} {pass : ReclaimPass}
    {rest : List ReclaimPass} (kept : entry ∉ pass.acked) :
    Visible entry ids (pass :: rest) ↔
      (ahead entry ids pass.acked).length < orphanReclaimBatch ∨
        Visible entry (ids.filter fun other => other ∉ pass.acked) rest := by
  constructor
  · rintro ⟨earlier, found, later, split, short⟩
    cases earlier with
    | nil =>
        obtain ⟨rfl, rfl⟩ := List.cons.inj split
        exact .inl (by simpa using short)
    | cons first earlier =>
        obtain ⟨rfl, rfl⟩ := List.cons.inj split
        refine .inr ⟨earlier, found, later, rfl, ?_⟩
        rw [ahead_filter kept]
        simpa using short
  · rintro (short | ⟨earlier, found, later, rfl, short⟩)
    · exact ⟨[], pass, rest, rfl, by simpa using short⟩
    · refine ⟨pass :: earlier, found, later, rfl, ?_⟩
      rw [ahead_filter kept] at short
      simpa using short

theorem Calm.stands {key : Key} {name : String} {acked : List Nat} {before after : Fleet}
    (calm : Calm key name acked before after) {entry : Nat} {ids : List Nat}
    {owner : Redis.Pending} (kept : entry ∉ acked)
    (stands : Stands before.store key name entry ids owner) :
    Stands after.store key name entry (ids.filter fun other => other ∉ acked) owner := by
  obtain ⟨group, found, orderly, listed, owned⟩ := stands.grouped
  refine ⟨⟨acked.foldl Redis.Group.acknowledge group, ?_, ?_, ?_, ?_⟩⟩
  · rw [calm.group, found]
    rfl
  · exact Redis.Group.orderly_acknowledges orderly acked
  · rw [Redis.Group.ids_acknowledges, listed]
  · rw [Redis.Group.owned_acknowledges group kept]
    exact owned

theorem claimed_iff {store : RedisStore} {workerId : String} {entry : Nat} {ids : List Nat}
    {owner : Redis.Pending} (online : leaseOnline (store.text (.workerOnlineLease workerId)) = true)
    (idle : WorkerRunner.orphanReclaimIdleMs ≤ store.clock - owner.since) :
    Claimed store workerId entry ids owner ↔ entry ∈ ids.take orphanReclaimBatch ∧
      leaseOnline (store.text (.workerOnlineLease owner.consumer)) = false := by
  refine and_congr_right fun _ => ?_
  simp only [takesOver, Bool.and_eq_true, Bool.not_eq_true', decide_eq_false_iff_not, not_or,
    not_lt]
  constructor
  · exact fun taken => taken.2
  · intro offline
    refine ⟨⟨?_, idle⟩, offline⟩
    rintro rfl
    rw [online] at offline
    cases offline

theorem Stands.listed {store : RedisStore} {key : Key} {name : String} {entry : Nat}
    {ids : List Nat} {owner : Redis.Pending} (stands : Stands store key name entry ids owner) :
    entry ∈ ids := by
  obtain ⟨group, _, _, listed, owned⟩ := stands.grouped
  obtain ⟨inside, same⟩ := Redis.Group.mem_of_owned owned
  rw [← listed, ← same]
  exact List.mem_map_of_mem inside

theorem handed_iff {key : Key} {name : String} {passes : List ReclaimPass} {fleet : Fleet}
    {handed : List StreamMessage} (made : Passes key name passes fleet handed) {entry : Nat}
    {ids : List Nat} {owner : Redis.Pending} {command : GatewayCommand}
    (stands : Stands fleet.store key name entry ids owner)
    (idle : WorkerRunner.orphanReclaimIdleMs ≤ fleet.store.clock - owner.since)
    (stored : (fleet.store.stream key).entries[entry]? = some (.command command))
    (unacked : ∀ pass ∈ passes, entry ∉ pass.acked) :
    (key, entry) ∈ handed.map StreamMessage.place ↔
      leaseOnline (fleet.store.text (.workerOnlineLease owner.consumer)) = false ∧
        Visible entry ids passes := by
  induction made generalizing ids owner with
  | nil =>
      constructor
      · intro listed
        cases listed
      · rintro ⟨_, earlier, pass, later, split, _⟩
        cases earlier <;> cases split
  | @cons pass rest fleet middle messages more calm live handed made ih =>
      have kept : entry ∉ pass.acked := unacked pass List.mem_cons_self
      have standing := calm.stands kept stands
      have later := calm.later
      have longer : WorkerRunner.orphanReclaimIdleMs ≤ middle.store.clock - owner.since := by
        omega
      rw [← calm.entries] at stored
      have spec := Prog.wp_run (consumeRound_still live.due live.nothing live.named live.reads
        standing stored) (Fleet.answer_serves fun _ => False)
      obtain ⟨unchanged, others, equal, holder, stays, yes, no⟩ := spec
      have same : Kept middle.store (afterRound pass.runner middle).store := unchanged
      obtain rfl : others = messages := by
        refine List.append_cancel_left (equal.symm.trans ?_)
        exact handed
      have visible : entry ∈ (ids.filter fun other => other ∉ pass.acked).take
          orphanReclaimBatch ↔ (ahead entry ids pass.acked).length < orphanReclaimBatch := by
        rw [mem_take_iff standing.listed]
        have split := ahead_filter kept ids []
        simp only [ahead, List.append_nil, List.not_mem_nil, not_false_eq_true, decide_true,
          List.filter_true] at split ⊢
        rw [split]
      have reached : Claimed middle.store pass.runner.workerId entry
          (ids.filter fun other => other ∉ pass.acked) owner ↔ _ := claimed_iff live.online longer
      rw [List.map_append, List.mem_append, visible_cons kept, ← calm.leases, ← visible]
      by_cases claimed : Claimed middle.store pass.runner.workerId entry
        (ids.filter fun other => other ∉ pass.acked) owner
      · obtain ⟨early, offline⟩ := reached.mp claimed
        have listed := (yes claimed).2
        exact ⟨fun _ => ⟨offline, .inl early⟩, fun _ => .inl listed⟩
      · obtain ⟨rfl, absent⟩ := no claimed
        have after := ih stays (by rw [same.clock]; exact longer)
          (by rw [same.entries]; exact stored)
          fun other inRest => unacked other (List.mem_cons_of_mem _ inRest)
        rw [after, same.text]
        constructor
        · rintro (listed | ⟨offline, seen⟩)
          · exact absurd listed absent
          · exact ⟨offline, .inr seen⟩
        · rintro ⟨offline, early | seen⟩
          · exact absurd (reached.mpr ⟨early, offline⟩) claimed
          · exact .inr ⟨offline, seen⟩

theorem reclaim_complete_iff {key : Key} {name : String} {fleet : Fleet} {group : Redis.Group}
    {passes : List ReclaimPass} {handed : List StreamMessage}
    (found : fleet.store.group key name = some group) (orderly : group.Orderly)
    (made : Passes key name passes fleet handed) (lost : Redis.Pending → Prop)
    (waits : ∀ waiting, lost waiting → waiting ∈ group.pending ∧
      WorkerRunner.orphanReclaimIdleMs ≤ fleet.store.clock - waiting.since)
    (stored : ∀ waiting, lost waiting → ∃ command,
      (fleet.store.stream key).entries[waiting.entry]? = some (.command command))
    (unacked : ∀ waiting, lost waiting → ∀ pass ∈ passes, waiting.entry ∉ pass.acked) :
    (∀ waiting, lost waiting → (key, waiting.entry) ∈ handed.map StreamMessage.place) ↔
      ∀ waiting, lost waiting →
        leaseOnline (fleet.store.text (.workerOnlineLease waiting.consumer)) = false ∧
          Visible waiting.entry (group.pending.map Redis.Pending.entry) passes := by
  refine forall₂_congr fun waiting isLost => ?_
  obtain ⟨listed, idle⟩ := waits waiting isLost
  obtain ⟨command, holds⟩ := stored waiting isLost
  have owned := (Redis.Group.owned_eq_some orderly).mpr listed
  exact handed_iff made ⟨⟨group, found, orderly, rfl, owned⟩⟩ idle holds (unacked waiting isLost)

/-! ### A backlog of one stream -/

section Backlog

def crewRunner : WorkerRunner := { workerId := "twin", agentTypes := ["a"], groupName := "crew" }

def backlogFleet (owners : List (String × Int)) : Fleet where
  store := { Redis.Store.empty with
    text := fun key =>
      if key = .workerOnlineLease "left" ∨ key = .workerOnlineLease "twin" then
        some (.presence ⟨none, 60000, "127.0.0.1"⟩)
      else none
    stream := fun key =>
      if key = .ctrlStream "a" then
        ⟨owners.map fun _ => .command greeting, [("crew", ⟨owners.length,
          owners.zipIdx.map fun owner => ⟨owner.2, owner.1.1, owner.1.2⟩⟩)]⟩
      else ⟨[], []⟩
    clock := 60000 }
  process := fun _ => {}

def livePass (key : Key) (name : String) (runner : WorkerRunner) (fleet : Fleet) : Bool :=
  decide (runner.reclaimCountdown ≤ 1 ∧ runner.groupName = name ∧
      key ∈ runner.activeAgentTypes.map Key.ctrlStream) &&
    leaseOnline (fleet.store.text (.workerOnlineLease runner.workerId)) &&
    runner.activeAgentTypes.all fun agentType =>
      (fleet.store.group (.ctrlStream agentType) runner.groupName).any fun group =>
        decide ((fleet.store.stream (.ctrlStream agentType)).entries.length ≤ group.delivered)

theorem livePass_sound {key : Key} {name : String} {runner : WorkerRunner} {fleet : Fleet}
    (live : livePass key name runner fleet = true) : LivePass key name runner fleet := by
  simp only [livePass, Bool.and_eq_true, decide_eq_true_eq, List.all_eq_true] at live
  obtain ⟨⟨⟨due, named, reads⟩, online⟩, all⟩ := live
  refine ⟨due, named, reads, online, fun agentType listed => ?_⟩
  have known := all agentType listed
  cases found : fleet.store.group (.ctrlStream agentType) runner.groupName with
  | none => simp [found] at known
  | some group => exact ⟨group, rfl, by simpa [found] using known⟩

def acknowledged (key : Key) (name : String) (acked : List Nat) (fleet : Fleet) : Fleet :=
  { fleet with
    store := acked.foldl (fun store entry => (store.exec (.xack key name entry)).2) fleet.store }

def passesOf (key : Key) (name : String) : List ReclaimPass → Fleet → Option (List StreamMessage)
  | [], _ => some []
  | pass :: rest, fleet =>
      let middle := acknowledged key name pass.acked fleet
      let next := afterRound pass.runner middle
      let before := (middle.process pass.runner.workerId).handed
      let messages := (next.process pass.runner.workerId).handed.drop before.length
      if livePass key name pass.runner middle ∧
          (next.process pass.runner.workerId).handed = before ++ messages then
        (passesOf key name rest next).map fun more => messages ++ more
      else none

theorem xack_keeps (store : RedisStore) (key : Key) (name : String) (entry : Nat) :
    (store.exec (.xack key name entry)).2.clock = store.clock ∧
      (store.exec (.xack key name entry)).2.text = store.text ∧
      ((store.exec (.xack key name entry)).2.stream key).entries =
        (store.stream key).entries := by
  unfold Redis.Store.exec
  dsimp only
  split
  · exact ⟨rfl, rfl, rfl⟩
  · exact ⟨rfl, rfl, by simp [Redis.Store.withGroups]⟩

theorem calm_acknowledged (key : Key) (name : String) (acked : List Nat) (fleet : Fleet) :
    Calm key name acked fleet (acknowledged key name acked fleet) := by
  obtain ⟨store, process⟩ := fleet
  induction acked generalizing store with
  | nil => exact ⟨Int.le_refl _, fun _ => rfl, rfl, by simp [acknowledged]⟩
  | cons entry rest ih =>
      obtain ⟨later, leases, entries, group⟩ := ih (store.exec (.xack key name entry)).2
      have acked := Redis.Store.group_xack store key key name name entry
      rw [if_pos ⟨rfl, rfl⟩] at acked
      obtain ⟨clock, text, same⟩ := xack_keeps store key name entry
      refine ⟨clock ▸ later, fun workerId => (leases workerId).trans ?_, entries.trans same,
        group.trans ?_⟩
      · dsimp only
        rw [text]
      · dsimp only
        rw [acked, Option.map_map]
        rfl

theorem passes_of_passesOf {key : Key} {name : String} {passes : List ReclaimPass}
    {fleet : Fleet} {handed : List StreamMessage}
    (played : passesOf key name passes fleet = some handed) :
    Passes key name passes fleet handed := by
  induction passes generalizing fleet handed with
  | nil =>
      cases played
      exact .nil
  | cons pass rest ih =>
      simp only [passesOf] at played
      split at played
      · rename_i live
        obtain ⟨more, later, rfl⟩ := Option.map_eq_some_iff.mp played
        exact .cons (calm_acknowledged key name pass.acked fleet) (livePass_sound live.1) live.2
          (ih later)
      · cases played

/-- Fifty entries that are being processed, between two of a worker that is gone. -/
def spreadFleet : Fleet :=
  backlogFleet (("gone", 0) :: List.replicate 50 ("left", 60000) ++ [("gone", 0)])

def twoPasses : List ReclaimPass := [⟨crewRunner, []⟩, ⟨crewRunner, [1, 2]⟩]

def spreadPending : List Redis.Pending :=
  ⟨0, "gone", 0⟩ :: (List.range 50).map (fun entry => ⟨entry + 1, "left", 60000⟩) ++
    [⟨51, "gone", 0⟩]

def spreadHanded : List StreamMessage :=
  [⟨.ctrlStream "a", 0, greeting⟩, ⟨.ctrlStream "a", 51, greeting⟩]

theorem reclaim_complete_spread :
    (∀ waiting, waiting ∈ spreadPending ∧ waiting.consumer = "gone" →
      (Key.ctrlStream "a", waiting.entry) ∈ spreadHanded.map StreamMessage.place) ↔
    ∀ waiting, waiting ∈ spreadPending ∧ waiting.consumer = "gone" →
      leaseOnline (spreadFleet.store.text (.workerOnlineLease waiting.consumer)) = false ∧
        Visible waiting.entry (spreadPending.map Redis.Pending.entry) twoPasses := by
  have made : Passes (.ctrlStream "a") "crew" twoPasses spreadFleet spreadHanded :=
    passes_of_passesOf (by decide +kernel)
  have orderly : (⟨52, spreadPending⟩ : Redis.Group).Orderly := ⟨by decide, by decide⟩
  have found : spreadFleet.store.group (.ctrlStream "a") "crew" = some ⟨52, spreadPending⟩ := by
    decide +kernel
  have lost : ∀ waiting ∈ spreadPending, waiting.consumer = "gone" →
      60000 - waiting.since = 60000 ∧ waiting.entry ∈ [0, 51] := by decide
  refine reclaim_complete_iff found orderly made
    (fun waiting => waiting ∈ spreadPending ∧ waiting.consumer = "gone") ?_ ?_ ?_
  · rintro waiting ⟨listed, gone⟩
    refine ⟨listed, ?_⟩
    change WorkerRunner.orphanReclaimIdleMs ≤ 60000 - waiting.since
    rw [(lost waiting listed gone).1]
    decide
  · rintro waiting ⟨listed, gone⟩
    have inside := (lost waiting listed gone).2
    simp only [List.mem_cons, List.not_mem_nil, or_false] at inside
    rcases inside with first | last
    · exact ⟨greeting, by rw [first]; rfl⟩
    · exact ⟨greeting, by rw [last]; rfl⟩
  · rintro waiting ⟨listed, gone⟩ pass made acked
    have inside := (lost waiting listed gone).2
    have others : ∀ pass ∈ twoPasses, ∀ entry ∈ pass.acked, entry ∉ [0, 51] := by decide
    exact others pass made _ acked inside

/-- Fifty entries that are being processed, and one of a worker that is gone. -/
def crowdedFleet : Fleet := backlogFleet (List.replicate 50 ("left", 60000) ++ [("gone", 0)])

/-- An entry of a worker that died and came back under its id. -/
def returnedFleet : Fleet := backlogFleet [("left", 0)]

theorem reclaim_misses_orphans :
    Passes (.ctrlStream "a") "crew" (List.replicate 51 ⟨crewRunner, []⟩) crowdedFleet [] ∧
      (crowdedFleet.store.group (.ctrlStream "a") "crew").any (fun group =>
        group.pending.length = 51 ∧ ⟨50, "gone", 0⟩ ∈ group.pending) = true ∧
      leaseOnline (crowdedFleet.store.text (.workerOnlineLease "gone")) = false ∧
      Passes (.ctrlStream "a") "crew" [⟨crewRunner, []⟩] returnedFleet [] :=
  ⟨passes_of_passesOf (by decide +kernel), by decide +kernel, rfl,
    passes_of_passesOf (by decide +kernel)⟩

end Backlog

end ByFramework
