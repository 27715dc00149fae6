import Mathlib.Data.List.Nodup
import ByFramework.Redis.Store

/-!
What each command does to streams and their consumer groups: a group hands out every entry
of its stream once, in order, and an entry stays pending until it is acknowledged.
-/

namespace Redis

def Command.keeps {K V : Type} (kept : K → Bool) : Command K V → Bool
  | .del key | .set key _ _ _ | .expire key _ => !kept key
  | _ => true

def Command.isGroupless {K V : Type} : Command K V → Bool
  | .xgroupCreate _ _ | .xreadgroup _ _ _ _ | .xack _ _ _ | .xclaim _ _ _ _ _ => false
  | _ => true

theorem lookup_adjust (name other : String) (change : Group → Group)
    (groups : List (String × Group)) :
    (adjust name change groups).lookup other =
      if other = name then (groups.lookup other).map change else groups.lookup other := by
  induction groups with
  | nil => simp [adjust]
  | cons entry rest ih =>
      simp only [adjust, List.map_cons] at ih ⊢
      rw [lookup_cons_if, lookup_cons_if, ih]
      by_cases named : entry.1 = name
      · simp only [named, if_true]
        by_cases asked : other = name <;> simp [asked]
      · simp only [named, if_false]
        by_cases asked : other = entry.1
        · simp [asked, named]
        · simp [asked]

theorem Stream.fresh_ids {V : Type} (stream : Stream V) (delivered count : Nat) :
    (stream.fresh delivered count).map Prod.fst =
      List.range' delivered (stream.fresh delivered count).length := by
  have ids : (stream.fresh delivered count).map Prod.fst =
      ((List.range' 0 stream.entries.length).drop delivered).take count := by
    simp only [Stream.fresh, List.map_map]
    change List.map Prod.snd _ = _
    rw [List.map_take, List.map_drop, List.zipIdx_map_snd]
  have size := congrArg List.length ids
  rw [List.length_map] at size
  rw [ids, size, List.drop_range']
  rcases Nat.le_total (stream.entries.length - delivered) count with short | long
  · rw [List.take_range'_of_length_le short]
    simp
  · rw [List.take_range'_of_length_ge long]
    simp

/-- Entries are pending once, and only after they were handed out. -/
structure Group.Orderly (group : Group) : Prop where
  distinct : (group.pending.map Pending.entry).Nodup
  handed : ∀ waiting ∈ group.pending, waiting.entry < group.delivered

namespace Group

variable {V : Type}

theorem owned_eq_some {group : Group} (orderly : group.Orderly) {waiting : Pending} :
    group.owned waiting.entry = some waiting ↔ waiting ∈ group.pending := by
  refine ⟨fun found => List.mem_of_find?_eq_some found, fun listed => ?_⟩
  cases found : group.owned waiting.entry with
  | none =>
      have never := List.find?_eq_none.mp found waiting listed
      simp at never
  | some other =>
      have same : other.entry = waiting.entry := by simpa using List.find?_some found
      have equal := List.inj_on_of_nodup_map orderly.distinct
        (List.mem_of_find?_eq_some found) listed same
      rw [equal]

theorem mem_of_owned {group : Group} {entry : Nat} {waiting : Pending}
    (found : group.owned entry = some waiting) :
    waiting ∈ group.pending ∧ waiting.entry = entry :=
  ⟨List.mem_of_find?_eq_some found, by simpa using List.find?_some found⟩

theorem owned_acknowledge (group : Group) (acked entry : Nat) :
    (group.acknowledge acked).owned entry =
      if entry = acked then none else group.owned entry := by
  simp only [owned, acknowledge]
  induction group.pending with
  | nil => simp
  | cons waiting rest ih =>
      by_cases removed : waiting.entry = acked
      · rw [List.filter_cons_of_neg (by simpa using removed), ih, List.find?_cons]
        by_cases asked : entry = acked
        · simp [asked]
        · have differ : ¬ waiting.entry = entry := fun same => asked (same.symm.trans removed)
          simp [asked, differ]
      · rw [List.filter_cons_of_pos (by simpa using removed), List.find?_cons, List.find?_cons]
        by_cases asked : waiting.entry = entry
        · have differ : entry ≠ acked := fun same => removed (asked.trans same)
          simp [asked, differ]
        · simp only [asked, decide_false]
          exact ih

theorem orderly_acknowledge {group : Group} (orderly : group.Orderly) (entry : Nat) :
    (group.acknowledge entry).Orderly where
  distinct := orderly.distinct.sublist (List.filter_sublist.map _)
  handed waiting kept := orderly.handed waiting (List.mem_filter.mp kept).1

theorem orderly_acknowledges {group : Group} (orderly : group.Orderly) (acked : List Nat) :
    (acked.foldl acknowledge group).Orderly := by
  induction acked generalizing group with
  | nil => exact orderly
  | cons first rest ih => exact ih (orderly_acknowledge orderly first)

theorem owned_acknowledges (group : Group) {acked : List Nat} {entry : Nat}
    (kept : entry ∉ acked) : (acked.foldl acknowledge group).owned entry = group.owned entry := by
  induction acked generalizing group with
  | nil => rfl
  | cons first rest ih =>
      have differ : entry ≠ first := fun same => kept (same ▸ List.mem_cons_self)
      rw [List.foldl_cons, ih (group.acknowledge first) fun listed =>
        kept (List.mem_cons_of_mem _ listed), owned_acknowledge, if_neg differ]

theorem owned_claim (group : Group) (consumer : String) (now : Int) (claimed entry : Nat) :
    (group.claim consumer now claimed).owned entry = if entry = claimed then
      (group.owned entry).map fun _ => ⟨claimed, consumer, now⟩ else group.owned entry := by
  simp only [owned, claim]
  induction group.pending with
  | nil => simp
  | cons waiting rest ih =>
      simp only [List.map_cons, List.find?_cons]
      by_cases taken : waiting.entry = claimed
      · by_cases asked : entry = claimed
        · simp [taken, asked]
        · have differ : ¬ claimed = entry := fun same => asked same.symm
          simp only [taken, if_true, differ, decide_false, asked, if_false] at ih ⊢
          exact ih
      · simp only [taken, if_false]
        by_cases asked : waiting.entry = entry
        · have differ : entry ≠ claimed := fun same => taken (asked.trans same)
          simp [asked, differ]
        · simp only [asked, decide_false]
          exact ih

theorem ids_claim (group : Group) (consumer : String) (now : Int) (claimed : Nat) :
    (group.claim consumer now claimed).pending.map Pending.entry =
      group.pending.map Pending.entry := by
  simp only [claim, List.map_map]
  refine List.map_congr_left fun waiting _ => ?_
  simp only [Function.comp_apply]
  split
  · rename_i same
    exact same.symm
  · rfl

theorem orderly_claim {group : Group} (orderly : group.Orderly) (consumer : String) (now : Int)
    (claimed : Nat) : (group.claim consumer now claimed).Orderly := by
  have ids := ids_claim group consumer now claimed
  refine ⟨by rw [ids]; exact orderly.distinct, fun waiting listed => ?_⟩
  have inIds : waiting.entry ∈ (group.claim consumer now claimed).pending.map Pending.entry :=
    List.mem_map_of_mem listed
  rw [ids] at inIds
  obtain ⟨other, known, same⟩ := List.mem_map.mp inIds
  rw [← same]
  exact orderly.handed other known

theorem ids_claims (consumer : String) (now : Int) (taken : List (Nat × V)) (group : Group) :
    (taken.foldl (fun current next => current.claim consumer now next.1)
      group).pending.map Pending.entry = group.pending.map Pending.entry := by
  induction taken generalizing group with
  | nil => rfl
  | cons next rest ih =>
      rw [List.foldl_cons, ih]
      exact ids_claim group consumer now next.1

theorem ids_acknowledge (group : Group) (acked : Nat) :
    (group.acknowledge acked).pending.map Pending.entry =
      (group.pending.map Pending.entry).filter fun entry => entry ≠ acked := by
  rw [List.filter_map]
  rfl

theorem owned_claims (consumer : String) (now : Int) (taken : List (Nat × V)) (group : Group)
    (entry : Nat) : (taken.foldl (fun current next => current.claim consumer now next.1)
      group).owned entry = if entry ∈ taken.map Prod.fst then
        (group.owned entry).map fun _ => ⟨entry, consumer, now⟩ else group.owned entry := by
  induction taken generalizing group with
  | nil => simp
  | cons next rest ih =>
      rw [List.foldl_cons, ih, owned_claim, List.map_cons]
      by_cases same : entry = next.1
      · simp only [← same, List.mem_cons, true_or, if_true]
        split
        · cases group.owned entry <;> rfl
        · rfl
      · simp only [same, if_false, List.mem_cons, false_or]

theorem orderly_claims {group : Group} (orderly : group.Orderly) (consumer : String) (now : Int)
    (taken : List (Nat × V)) :
    (taken.foldl (fun current next => current.claim consumer now next.1) group).Orderly := by
  induction taken generalizing group with
  | nil => exact orderly
  | cons next rest ih => exact ih (orderly_claim orderly consumer now next.1)

theorem owned_deliver (group : Group) (consumer : String) (now : Int) (handed : List (Nat × V))
    (entry : Nat) : (group.deliver consumer now handed).owned entry =
      (group.owned entry).or (if entry ∈ handed.map Prod.fst then
        some ⟨entry, consumer, now⟩ else none) := by
  simp only [owned, deliver, List.find?_append]
  congr 1
  induction handed with
  | nil => simp
  | cons next rest ih =>
      simp only [List.map_cons, List.find?_cons, List.mem_cons]
      by_cases same : next.1 = entry
      · simp [same]
      · have differ : ¬ entry = next.1 := fun equal => same equal.symm
        simp only [same, decide_false, differ, false_or]
        exact ih

theorem orderly_deliver {group : Group} (orderly : group.Orderly) (consumer : String) (now : Int)
    {handed : List (Nat × V)}
    (ids : handed.map Prod.fst = List.range' group.delivered handed.length) :
    (group.deliver consumer now handed).Orderly := by
  have split : (group.deliver consumer now handed).pending.map Pending.entry =
      group.pending.map Pending.entry ++ List.range' group.delivered handed.length := by
    rw [← ids]
    simp [deliver, Function.comp_def]
  refine ⟨?_, fun waiting listed => ?_⟩
  · rw [split, List.nodup_append]
    refine ⟨orderly.distinct, List.nodup_range', fun first inFirst second inSecond => ?_⟩
    obtain ⟨waiting, known, rfl⟩ := List.mem_map.mp inFirst
    have low := orderly.handed waiting known
    have high := (List.mem_range'_1.mp inSecond).1
    omega
  · have inIds : waiting.entry ∈ (group.deliver consumer now handed).pending.map Pending.entry :=
      List.mem_map_of_mem listed
    rw [split, List.mem_append] at inIds
    simp only [deliver]
    rcases inIds with old | new
    · obtain ⟨other, known, same⟩ := List.mem_map.mp old
      have low := orderly.handed other known
      omega
    · have bound := (List.mem_range'_1.mp new).2
      omega

theorem ids_acknowledges (group : Group) (acked : List Nat) :
    (acked.foldl acknowledge group).pending.map Pending.entry =
      (group.pending.map Pending.entry).filter fun entry => entry ∉ acked := by
  induction acked generalizing group with
  | nil => simp
  | cons first rest ih =>
      rw [List.foldl_cons, ih, ids_acknowledge, List.filter_filter]
      refine List.filter_congr fun entry _ => ?_
      simp [not_or, Bool.and_comm]

end Group

namespace Store

variable {K V : Type}

def delivered (store : Store K V) (key : K) (name : String) : Nat :=
  ((store.group key name).map Group.delivered).getD 0

variable [DecidableEq K] [Counting V]

omit [Counting V] in
theorem stream_drop (store : Store K V) {key dropped : K} (differ : key ≠ dropped) :
    (store.drop dropped).stream key = store.stream key := by
  simp [drop, differ]

theorem groups_exec (store : Store K V) {command : Command K V} {kept : K → Bool} {key : K}
    (groupless : command.isGroupless = true) (keeps : command.keeps kept = true)
    (held : kept key = true) :
    ((store.exec command).2.stream key).groups = (store.stream key).groups := by
  cases command with
  | xadd other value =>
      by_cases same : key = other
      · simp [exec, same]
      · simp [exec, same]
  | set other value ifAbsent ttl =>
      have differ : key ≠ other := by
        rintro rfl
        simp [Command.keeps, held] at keeps
      simp only [exec]
      split
      · rfl
      · simp [stream_drop store differ]
  | del other =>
      have differ : key ≠ other := by
        rintro rfl
        simp [Command.keeps, held] at keeps
      simp [exec, stream_drop store differ]
  | expire other ttl =>
      simp only [exec]
      split <;> rfl
  | hincrby other field amount =>
      simp only [exec]
      split <;> rfl
  | sadd other member =>
      simp only [exec]
      split <;> rfl
  | xgroupCreate other name => simp [Command.isGroupless] at groupless
  | xreadgroup other name consumer count => simp [Command.isGroupless] at groupless
  | xack other name entry => simp [Command.isGroupless] at groupless
  | xclaim other name consumer minIdle entries => simp [Command.isGroupless] at groupless
  | xpending other name count =>
      simp only [exec]
      split <;> rfl
  | _ => rfl

theorem group_exec (store : Store K V) {command : Command K V} {kept : K → Bool} {key : K}
    (groupless : command.isGroupless = true) (keeps : command.keeps kept = true)
    (held : kept key = true) (name : String) :
    (store.exec command).2.group key name = store.group key name := by
  unfold group
  rw [groups_exec store groupless keeps held]

omit [Counting V] in
theorem group_withGroups (store : Store K V) (key other : K) (groups : List (String × Group))
    (name : String) : (store.withGroups key groups).group other name =
      if other = key then groups.lookup name else store.group other name := by
  by_cases same : other = key
  · simp [group, withGroups, same]
  · simp [group, withGroups, same]

omit [Counting V] in
theorem group_adjust (store : Store K V) (key other : K) (name asked : String)
    (change : Group → Group) :
    (store.withGroups key (adjust name change (store.stream key).groups)).group other asked =
      if other = key ∧ asked = name then (store.group other asked).map change
      else store.group other asked := by
  rw [group_withGroups, lookup_adjust]
  by_cases same : other = key
  · subst same
    simp [group]
  · simp [same]

theorem group_xack (store : Store K V) (key other : K) (name asked : String) (entry : Nat) :
    (store.exec (.xack key name entry)).2.group other asked =
      if other = key ∧ asked = name then
        (store.group other asked).map fun group => group.acknowledge entry
      else store.group other asked := by
  cases found : store.group key name with
  | none =>
      simp only [exec, found]
      split
      · rename_i same
        rw [same.1, same.2, found]
        rfl
      · rfl
  | some group =>
      simp only [exec, found]
      exact group_adjust store key other name asked fun group => group.acknowledge entry

theorem group_xgroupCreate (store : Store K V) (key other : K) (name asked : String) :
    (store.exec (.xgroupCreate key name)).2.group other asked = store.group other asked ∨
      store.group other asked = none ∧
        (store.exec (.xgroupCreate key name)).2.group other asked = some ⟨0, []⟩ := by
  cases found : store.group key name with
  | some group => exact .inl (by simp [exec, found])
  | none =>
      simp only [exec, found, group_withGroups]
      by_cases same : other = key
      · subst same
        simp only [if_true, List.lookup_append]
        by_cases equal : asked = name
        · subst equal
          right
          simp only [group] at found ⊢
          simp [found]
        · left
          have differ : (asked == name) = false := by simpa using equal
          simp [group, List.lookup_cons, differ]
      · simp [same]

theorem group_xclaim (store : Store K V) (key other : K) (name consumer asked : String)
    (minIdle : Int) (entries : List Nat) :
    (store.exec (.xclaim key name consumer minIdle entries)).2.group other asked =
        store.group other asked ∨
      ∃ group taken, other = key ∧ asked = name ∧ store.group key name = some group ∧
        (store.exec (.xclaim key name consumer minIdle entries)).1 = .ok taken ∧
        (store.exec (.xclaim key name consumer minIdle entries)).2.group other asked =
          some (taken.foldl (fun current entry => current.claim consumer store.clock entry.1)
            group) := by
  cases found : store.group key name with
  | none => exact .inl (by simp [exec, found])
  | some group =>
      simp only [exec, found]
      rw [group_adjust]
      by_cases same : other = key ∧ asked = name
      · right
        obtain ⟨rfl, rfl⟩ := same
        refine ⟨group, _, rfl, rfl, rfl, rfl, ?_⟩
        simp [found]
      · left
        simp [same]

/-- What an `XCLAIM` takes over. -/
theorem xclaim_spec (store : Store K V) {key : K} {name : String} {group : Group}
    (found : store.group key name = some group) (consumer : String) (minIdle : Int)
    (entries : List Nat) : ∃ taken,
      store.exec (.xclaim key name consumer minIdle entries) = (.ok taken, store.withGroups key
        (adjust name (fun found => taken.foldl
          (fun current entry => current.claim consumer store.clock entry.1) found)
          (store.stream key).groups)) ∧
      (∀ entry, entry ∈ taken.map Prod.fst ↔ entry ∈ entries ∧
        group.idleSince (store.clock - minIdle) entry = true ∧
          ((store.stream key).entries[entry]?).isSome = true) ∧
      ∀ next ∈ taken, (store.stream key).entries[next.1]? = some next.2 := by
  refine ⟨_, by simp only [exec, found]; rfl, ?_, ?_⟩
  · intro entry
    simp only [List.mem_map, List.mem_filterMap, List.mem_filter]
    constructor
    · rintro ⟨next, ⟨listed, asked, value⟩, rfl⟩
      obtain ⟨stored, held, rfl⟩ := Option.map_eq_some_iff.mp value
      exact ⟨asked.1, asked.2, by simp [held]⟩
    · rintro ⟨asked, idle, held⟩
      obtain ⟨value, stored⟩ := Option.isSome_iff_exists.mp held
      exact ⟨(entry, value), ⟨entry, ⟨asked, idle⟩, by simp [stored]⟩, rfl⟩
  · intro next listed
    simp only [List.mem_filterMap, List.mem_filter] at listed
    obtain ⟨entry, _, value⟩ := listed
    obtain ⟨stored, held, rfl⟩ := Option.map_eq_some_iff.mp value
    exact held

omit [DecidableEq K] [Counting V] in
theorem delivered_claims (consumer : String) (now : Int) (taken : List (Nat × V)) (group : Group) :
    (taken.foldl (fun current entry => current.claim consumer now entry.1) group).delivered =
      group.delivered := by
  induction taken generalizing group with
  | nil => rfl
  | cons entry rest ih => exact ih (group.claim consumer now entry.1)

/-- Only `XREADGROUP` hands out what was not handed out before. -/
theorem delivered_exec (store : Store K V) {command : Command K V} {kept : K → Bool} {key : K}
    (other : ∀ read name consumer count, command ≠ .xreadgroup read name consumer count)
    (keeps : command.keeps kept = true) (held : kept key = true) (name : String) :
    (store.exec command).2.delivered key name = store.delivered key name := by
  by_cases groupless : command.isGroupless = true
  · simp only [delivered]
    rw [group_exec store groupless keeps held]
  · cases command with
    | xreadgroup read asked consumer count => exact absurd rfl (other read asked consumer count)
    | xack acked asked entry =>
        simp only [delivered]
        rw [group_xack]
        split
        · cases store.group key name <;> rfl
        · rfl
    | xgroupCreate created asked =>
        simp only [delivered]
        rcases group_xgroupCreate store created key asked name with same | ⟨absent, made⟩
        · rw [same]
        · rw [made, absent]
          rfl
    | xclaim claimed asked consumer minIdle entries =>
        simp only [delivered]
        rcases group_xclaim store claimed key asked consumer name minIdle entries with
          same | ⟨group, taken, rfl, rfl, found, _, changed⟩
        · rw [same]
        · rw [changed, found]
          simp [delivered_claims]
    | _ => simp [Command.isGroupless] at groupless

theorem exec_xreadgroup (store : Store K V) (key : K) (name consumer : String) (count : Nat) :
    (∃ message, store.exec (.xreadgroup key name consumer count) = (.error message, store)) ∨
      ∃ group, store.group key name = some group ∧
        store.exec (.xreadgroup key name consumer count) =
          (.ok ((store.stream key).fresh group.delivered count), store.withGroups key
            (adjust name (fun found => found.deliver consumer store.clock
              ((store.stream key).fresh group.delivered count)) (store.stream key).groups)) := by
  cases found : store.group key name with
  | none =>
      refine .inl ⟨"NOGROUP No such consumer group", ?_⟩
      simp only [exec, found]
  | some group => exact .inr ⟨group, rfl, by simp only [exec, found]⟩

theorem xreadgroup_nothing (store : Store K V) {key : K} {name : String} {group : Group}
    (found : store.group key name = some group)
    (all : (store.stream key).entries.length ≤ group.delivered) (consumer : String)
    (count : Nat) : store.exec (.xreadgroup key name consumer count) = (.ok [], store) := by
  have nothing : (store.stream key).fresh group.delivered count = [] := by
    have short : (store.stream key).entries.zipIdx.drop group.delivered = [] :=
      List.drop_eq_nil_of_le (by simpa using all)
    simp [Stream.fresh, short]
  have same (other : Group) : other.deliver consumer store.clock ([] : List (Nat × V)) = other := by
    simp [Group.deliver]
  have unchanged (groups : List (String × Group)) : adjust name (fun found =>
      found.deliver consumer store.clock ([] : List (Nat × V))) groups = groups := by
    simp [adjust, same]
  simp only [exec, found, nothing, unchanged]
  simp [withGroups]

/-- What an `XREADGROUP` hands out is what its group is handed next. -/
theorem delivered_xreadgroup (store : Store K V) (key : K) (name consumer : String) (count : Nat)
    {handed : List (Nat × V)}
    (read : (store.exec (.xreadgroup key name consumer count)).1 = .ok handed) :
    handed.map Prod.fst = List.range' (store.delivered key name) handed.length ∧
      (store.exec (.xreadgroup key name consumer count)).2.delivered key name =
        store.delivered key name + handed.length := by
  rcases exec_xreadgroup store key name consumer count with ⟨message, refused⟩ | ⟨group, found, done⟩
  · rw [refused] at read
    cases read
  · rw [done] at read
    cases read
    rw [done]
    simp only [delivered, found, Option.map_some, Option.getD_some, group_adjust, and_self, if_true]
    exact ⟨Stream.fresh_ids _ _ _, rfl⟩

theorem delivered_xreadgroup_le (store : Store K V) (key other : K) (name consumer : String)
    (count : Nat) (asked : String) :
    store.delivered other asked ≤
      (store.exec (.xreadgroup key name consumer count)).2.delivered other asked := by
  rcases exec_xreadgroup store key name consumer count with ⟨message, refused⟩ | ⟨group, found, done⟩
  · exact Nat.le_of_eq (by rw [refused])
  · rw [done]
    simp only [delivered, group_adjust]
    split
    · cases store.group other asked with
      | none => simp
      | some group => simp [Group.deliver]
    · exact Nat.le_refl _

theorem expiresAt_exec (store : Store K V) {command : Command K V} {kept : K → Bool} {key : K}
    (keeps : command.keeps kept = true) (held : kept key = true) :
    (store.exec command).2.expiresAt key = store.expiresAt key := by
  cases command with
  | set other value ifAbsent ttl =>
      have differ : key ≠ other := by
        rintro rfl
        simp [Command.keeps, held] at keeps
      simp only [exec]
      split
      · rfl
      · simp [differ]
  | del other =>
      have differ : key ≠ other := by
        rintro rfl
        simp [Command.keeps, held] at keeps
      simp [exec, drop, differ]
  | expire other ttl =>
      have differ : key ≠ other := by
        rintro rfl
        simp [Command.keeps, held] at keeps
      simp only [exec]
      split
      · simp [differ]
      · rfl
  | hincrby other field amount =>
      simp only [exec]
      split <;> rfl
  | sadd other member =>
      simp only [exec]
      split <;> rfl
  | xack other name entry =>
      simp only [exec]
      split <;> rfl
  | xgroupCreate other name =>
      simp only [exec]
      split <;> rfl
  | xreadgroup other name consumer count =>
      simp only [exec]
      split <;> rfl
  | xpending other name count =>
      simp only [exec]
      split <;> rfl
  | xclaim other name consumer minIdle entries =>
      simp only [exec]
      split <;> rfl
  | _ => rfl

omit [DecidableEq K] [Counting V] in
theorem stream_advance (store : Store K V) {key : K} (now : Int)
    (lasting : store.expiresAt key = none) :
    (store.advance now).stream key = store.stream key ∧
      (store.advance now).expiresAt key = none := by
  simp [advance, lasting]

/-! ### Who has an entry -/

def owned (store : Store K V) (key : K) (name : String) (entry : Nat) : Option Pending :=
  (store.group key name).bind fun group => group.owned entry

def Orderly (store : Store K V) (key : K) (name : String) : Prop :=
  ∀ group, store.group key name = some group → group.Orderly

omit [DecidableEq K] [Counting V] in
theorem Orderly.lt {store : Store K V} {key : K} {name : String} (orderly : store.Orderly key name)
    {entry : Nat} {waiting : Pending} (owned : store.owned key name entry = some waiting) :
    entry < store.delivered key name := by
  obtain ⟨group, found, known⟩ := Option.bind_eq_some_iff.mp owned
  obtain ⟨listed, rfl⟩ := Group.mem_of_owned known
  simpa [delivered, found] using (orderly group found).handed waiting listed

/-- From one store to the next nothing of a group was handed out or claimed. -/
structure Lets (before after : Store K V) (key : K) (name : String) : Prop where
  delivered : after.delivered key name = before.delivered key name
  owned : ∀ entry waiting, after.owned key name entry = some waiting →
    before.owned key name entry = some waiting
  orderly : before.Orderly key name → after.Orderly key name

omit [DecidableEq K] [Counting V] in
theorem lets_of_group {before after : Store K V} {key : K} {name : String}
    (same : after.group key name = before.group key name) : before.Lets after key name := by
  constructor
  · simp only [Store.delivered, same]
  · intro entry waiting
    simp only [Store.owned, same]
    exact id
  · intro orderly group found
    exact orderly group (same ▸ found)

theorem lets_exec (store : Store K V) {command : Command K V} {kept : K → Bool} {key : K}
    (unread : ∀ read name consumer count, command ≠ .xreadgroup read name consumer count)
    (unclaimed : ∀ claimed name consumer minIdle entries,
      command ≠ .xclaim claimed name consumer minIdle entries)
    (keeps : command.keeps kept = true) (held : kept key = true) (name : String) :
    store.Lets (store.exec command).2 key name := by
  by_cases groupless : command.isGroupless = true
  · exact lets_of_group (group_exec store groupless keeps held name)
  · cases command with
    | xreadgroup read asked consumer count => exact absurd rfl (unread read asked consumer count)
    | xclaim claimed asked consumer minIdle entries =>
        exact absurd rfl (unclaimed claimed asked consumer minIdle entries)
    | xack acked asked entry =>
        have changed := group_xack store acked key asked name entry
        split at changed
        · refine ⟨delivered_exec store unread keeps held name, fun other waiting found => ?_, ?_⟩
          · simp only [Store.owned, changed] at found ⊢
            cases known : store.group key name with
            | none => simp [known] at found
            | some group =>
                simp only [known, Option.map_some, Option.bind_some, Group.owned_acknowledge] at found
                split at found
                · cases found
                · exact found
          · intro orderly group found
            rw [changed] at found
            obtain ⟨earlier, known, rfl⟩ := Option.map_eq_some_iff.mp found
            exact Group.orderly_acknowledge (orderly earlier known) entry
        · exact lets_of_group changed
    | xgroupCreate created asked =>
        rcases group_xgroupCreate store created key asked name with same | ⟨absent, made⟩
        · exact lets_of_group same
        · refine ⟨delivered_exec store unread keeps held name, fun other waiting found => ?_, ?_⟩
          · simp [Store.owned, made, Group.owned] at found
          · intro _ group found
            rw [made] at found
            cases found
            exact ⟨List.nodup_nil, fun _ listed => absurd listed List.not_mem_nil⟩
    | _ => simp [Command.isGroupless] at groupless

theorem owned_xreadgroup (store : Store K V) (key other : K) (name consumer asked : String)
    (count : Nat) (orderly : store.Orderly other asked) :
    (store.exec (.xreadgroup key name consumer count)).2.Orderly other asked ∧
      ∀ entry waiting,
        (store.exec (.xreadgroup key name consumer count)).2.owned other asked entry =
          some waiting → store.owned other asked entry = some waiting ∨
            store.delivered other asked ≤ entry ∧ other = key ∧ asked = name ∧
              waiting.consumer = consumer := by
  rcases exec_xreadgroup store key name consumer count with ⟨message, refused⟩ | ⟨group, found, done⟩
  · rw [refused]
    exact ⟨orderly, fun _ _ known => .inl known⟩
  · rw [done]
    have ids := Stream.fresh_ids (store.stream key) group.delivered count
    have changed := group_adjust store key other name asked fun found =>
      found.deliver consumer store.clock ((store.stream key).fresh group.delivered count)
    split at changed
    · rename_i same
      obtain ⟨rfl, rfl⟩ := same
      rw [found, Option.map_some] at changed
      constructor
      · intro group' known
        dsimp only at known
        rw [changed] at known
        cases known
        exact Group.orderly_deliver (orderly group found) consumer store.clock ids
      · intro entry waiting known
        simp only [Store.owned, changed, Option.bind_some, Group.owned_deliver] at known
        simp only [Store.owned, found, Option.bind_some, Store.delivered, Option.map_some,
          Option.getD_some]
        cases earlier : group.owned entry with
        | some before =>
            left
            simpa [earlier] using known
        | none =>
            right
            simp only [earlier, Option.none_or, ids] at known
            split at known
            · rename_i handed
              cases known
              exact ⟨(List.mem_range'_1.mp handed).1, trivial, trivial, rfl⟩
            · cases known
    · constructor
      · intro group' known
        dsimp only at known
        rw [changed] at known
        exact orderly group' known
      · intro entry waiting known
        left
        simp only [Store.owned, changed] at known
        exact known

theorem owned_xclaim (store : Store K V) (key other : K) (name consumer asked : String)
    (minIdle : Int) (entries : List Nat) (orderly : store.Orderly other asked) :
    (store.exec (.xclaim key name consumer minIdle entries)).2.Orderly other asked ∧
      (store.exec (.xclaim key name consumer minIdle entries)).2.delivered other asked =
        store.delivered other asked ∧
      ∀ entry waiting,
        (store.exec (.xclaim key name consumer minIdle entries)).2.owned other asked entry =
          some waiting → store.owned other asked entry = some waiting ∨
            other = key ∧ asked = name ∧ entry ∈ entries ∧ waiting.consumer = consumer ∧
              (store.owned other asked entry).isSome = true ∧
              ∀ taken, (store.exec (.xclaim key name consumer minIdle entries)).1 = .ok taken →
                entry ∈ taken.map Prod.fst := by
  cases found : store.group key name with
  | none =>
      have refused : store.exec (.xclaim key name consumer minIdle entries) =
          (.error "NOGROUP No such consumer group", store) := by simp only [exec, found]
      rw [refused]
      exact ⟨orderly, rfl, fun _ _ known => .inl known⟩
  | some group =>
      obtain ⟨taken, done, taking, _⟩ := xclaim_spec store found consumer minIdle entries
      rw [done]
      have changed := group_adjust store key other name asked fun found => taken.foldl
        (fun current entry => current.claim consumer store.clock entry.1) found
      split at changed
      · rename_i same
        obtain ⟨rfl, rfl⟩ := same
        rw [found, Option.map_some] at changed
        refine ⟨fun group' known => ?_, ?_, fun entry waiting known => ?_⟩
        · dsimp only at known
          rw [changed] at known
          cases known
          exact Group.orderly_claims (orderly group found) consumer store.clock taken
        · simp [Store.delivered, changed, found, delivered_claims]
        · simp only [Store.owned, changed, Option.bind_some, Group.owned_claims] at known
          simp only [Store.owned, found, Option.bind_some]
          split at known
          · rename_i inside
            obtain ⟨before, had, rfl⟩ := Option.map_eq_some_iff.mp known
            refine .inr ⟨trivial, trivial, ((taking entry).mp inside).1, rfl, by simp [had], ?_⟩
            rintro _ ⟨⟩
            exact inside
          · exact .inl known
      · refine ⟨fun group' known => ?_, ?_, fun entry waiting known => ?_⟩
        · dsimp only at known
          rw [changed] at known
          exact orderly group' known
        · simp only [Store.delivered, changed]
        · left
          simp only [Store.owned, changed] at known
          exact known

theorem xclaim_taken {store after : Store K V} {key : K} {name consumer : String}
    {minIdle : Int} {entries : List Nat} {taken : List (Nat × V)}
    (done : store.exec (.xclaim key name consumer minIdle entries) = (.ok taken, after)) :
    (taken.map Prod.fst).Sublist entries ∧ ∀ entry ∈ taken.map Prod.fst,
      (store.owned key name entry).isSome = true ∧ ∀ waiting,
        after.owned key name entry = some waiting → waiting.consumer = consumer := by
  cases found : store.group key name with
  | none =>
      simp only [exec, found] at done
      cases done
  | some group =>
      simp only [exec, found, Prod.mk.injEq, Except.ok.injEq] at done
      obtain ⟨rfl, rfl⟩ := done
      have ids (asked : List Nat) : ((asked.filterMap fun entry =>
          (store.stream key).entries[entry]?.map fun value => (entry, value)).map
            Prod.fst).Sublist asked := by
        induction asked with
        | nil => exact List.Sublist.refl _
        | cons entry rest ih =>
            cases held : (store.stream key).entries[entry]? with
            | none =>
                simp only [List.filterMap_cons, held, Option.map_none]
                exact ih.cons entry
            | some value =>
                simp only [List.filterMap_cons, held, Option.map_some, List.map_cons]
                exact ih.cons_cons entry
      refine ⟨(ids _).trans List.filter_sublist, fun entry listed => ⟨?_, fun waiting known => ?_⟩⟩
      · have idle := List.of_mem_filter ((ids _).subset listed)
        simp only [Group.idleSince, Option.any_eq_true] at idle
        obtain ⟨owner, owned, _⟩ := idle
        simp [Store.owned, found, owned]
      · simp only [Store.owned, group_adjust, and_self, if_true, found, Option.map_some,
          Option.bind_some, Group.owned_claims, listed] at known
        obtain ⟨_, _, rfl⟩ := Option.map_eq_some_iff.mp known
        rfl

end Store

end Redis
