import ByFramework.KeySpaceCore
import ByFramework.WaitIndexCore
import Mathlib.Data.List.Pairwise

/-!
Which Redis keys are the same text. Under the second schema none are; under the first an id that
spells part of another template can make one entity's key another's.
-/

namespace ByFramework

open Text

namespace KeyName

def HasDigest : KeyName → Prop
  | .used (.waitConsumed _ memberDigest) | .used (.waitRenewOrigin _ memberDigest) =>
      memberDigest.toList.length = 40 ∧
        ∀ char ∈ memberDigest.toList, char ∈ "0123456789abcdef".toList
  | _ => True

theorem render_legacy (name : KeyName) :
    (name.render .v1).toList = (name.family.template .v1).fill (name.middle .v1).toList := by
  rcases name with (key | _ | _ | _ | _ | _ | _ | _ | _ | _ | _)
  · cases key <;>
      delta render Key.render Key.versioned family middle KeyFamily.template KeyFamily.spelling
        KeyFamily.legacy KeyFamily.label Template.fill digestSeparator <;>
      dsimp only [String.reduceAppend] <;>
      simp only [String.toList_append, String.toList_empty, List.append_nil, List.append_assoc,
        -String.reduceToList]
  all_goals
    delta render Key.versioned family middle KeyFamily.template KeyFamily.spelling
      KeyFamily.legacy KeyFamily.label Template.fill
    dsimp only [String.reduceAppend]
    simp only [String.toList_append, String.toList_empty, List.append_nil, List.append_assoc,
      -String.reduceToList]

theorem render_tagged (name : KeyName) :
    (name.render .v2).toList = (name.family.template .v2).fill (name.middle .v2).toList := by
  rcases name with (key | _ | _ | _ | _ | _ | _ | _ | _ | _ | _)
  · cases key <;>
      delta render Key.render Key.versioned Key.tag family middle KeyFamily.template
        KeyFamily.spelling KeyFamily.tagged KeyFamily.label Template.fill digestSeparator <;>
      dsimp only [-String.reduceToList, -String.reduceAppend] <;>
      simp only [String.toList_append, String.toList_empty, List.append_nil, List.append_assoc,
        -String.reduceToList, -String.reduceAppend]
  all_goals
    delta render Key.versioned Key.tag family middle KeyFamily.template KeyFamily.spelling
      KeyFamily.tagged KeyFamily.label Template.fill
    dsimp only [-String.reduceToList, -String.reduceAppend]
    simp only [String.toList_append, String.toList_empty, List.append_nil, List.append_assoc,
      -String.reduceToList, -String.reduceAppend]

def rebuild (schema : KeySchema) (family : KeyFamily) (middle : String) : KeyName :=
  let chars := middle.toList
  let digest := String.ofList (chars.drop (chars.length - 40))
  let owner := String.ofList (chars.take (chars.length - 40 - (digestSeparator schema).length))
  let shard := Nat.ofDigitChars 10 chars 0
  match family with
  | .ctrlStream => .used (.ctrlStream middle)
  | .workerCtrlStream => .used (.workerCtrlStream middle)
  | .controlPlaneWakeupStream => .used .controlPlaneWakeupStream
  | .controlPlaneWakeupResultStream => .controlPlaneWakeupResultStream middle
  | .controlPlaneDeliveryPendingStream => .used .controlPlaneDeliveryPendingStream
  | .controlPlaneAgentCircuit => .used (.controlPlaneAgentCircuit middle)
  | .controlPlaneAgentFallback => .used (.controlPlaneAgentFallback middle)
  | .controlPlaneUserQuota => .used (.controlPlaneUserQuota middle)
  | .sessionDataStream => .used (.sessionDataStream middle)
  | .taskGroup => .used (.taskGroup middle)
  | .taskGroupResults => .used (.taskGroupResults middle)
  | .traceMeta => .traceMeta middle
  | .traceSpans => .traceSpans middle
  | .traceIndexSession => .traceIndexSession middle
  | .traceIndexWorker => .traceIndexWorker middle
  | .traceIndexAgent => .traceIndexAgent middle
  | .knownWorkers => .used .knownWorkers
  | .sdActiveInstances => .sdActiveInstances middle
  | .sdInstanceDetails => .sdInstanceDetails middle
  | .sdServices => .sdServices
  | .workerOnlineLease => .used (.workerOnlineLease middle)
  | .workerDeclaredAgentTypes => .used (.workerDeclaredAgentTypes middle)
  | .agentTypeMembers => .used (.agentTypeMembers middle)
  | .workerAdminState => .used (.workerAdminState middle)
  | .agentTypeDenied => .used (.agentTypeDenied middle)
  | .workerLock => .workerLock middle
  | .sessionRegistry => .used (.sessionRegistry middle)
  | .waitIndex => .used (.waitIndex shard)
  | .waitSweepLock => .used (.waitSweepLock shard)
  | .waitConsumed => .used (.waitConsumed owner digest)
  | .waitRenewOrigin => .used (.waitRenewOrigin owner digest)

theorem owner_digest (separator sessionId memberDigest : String)
    (digits : memberDigest.toList.length = 40) :
    let chars := (sessionId ++ separator ++ memberDigest).toList
    String.ofList (chars.take (chars.length - 40 - separator.length)) = sessionId ∧
      String.ofList (chars.drop (chars.length - 40)) = memberDigest := by
  have text : (sessionId ++ separator ++ memberDigest).toList =
      sessionId.toList ++ (separator.toList ++ memberDigest.toList) := by simp
  have ahead : (sessionId.toList ++ (separator.toList ++ memberDigest.toList)).length - 40 =
      sessionId.toList.length + separator.toList.length := by
    simp only [List.length_append]
    omega
  dsimp only
  rw [text, ahead]
  constructor
  · have mark : separator.length = separator.toList.length := String.length_toList.symm
    rw [mark, Nat.add_sub_cancel, List.take_left']
    · simp
    · rfl
  · rw [← List.append_assoc, List.drop_left']
    · simp
    · simp

theorem rebuild_parts (schema : KeySchema) (name : KeyName) (digest : name.HasDigest) :
    rebuild schema name.family (name.middle schema) = name := by
  have shard (number : Nat) : Nat.ofDigitChars 10 (toString number).toList 0 = number := by
    rw [Nat.toString_eq_ofList_toDigits, String.toList_ofList]
    exact Nat.ofDigitChars_toDigits (by decide) (by decide)
  rcases name with (key | _ | _ | _ | _ | _ | _ | _ | _ | _ | _)
  · cases key with
    | waitConsumed sessionId memberDigest =>
        obtain ⟨owner, last⟩ :=
          owner_digest (digestSeparator schema) sessionId memberDigest digest.1
        simp only [rebuild, family, middle]
        rw [owner, last]
    | waitRenewOrigin sessionId memberDigest =>
        obtain ⟨owner, last⟩ :=
          owner_digest (digestSeparator schema) sessionId memberDigest digest.1
        simp only [rebuild, family, middle]
        rw [owner, last]
    | waitIndex number => simp only [rebuild, family, middle, shard]
    | waitSweepLock number => simp only [rebuild, family, middle, shard]
    | _ => rfl
  all_goals rfl

end KeyName

def KeyFamily.all : List KeyFamily :=
  [.ctrlStream, .workerCtrlStream, .controlPlaneWakeupStream, .controlPlaneWakeupResultStream,
    .controlPlaneDeliveryPendingStream, .controlPlaneAgentCircuit, .controlPlaneAgentFallback,
    .controlPlaneUserQuota, .sessionDataStream, .taskGroup, .taskGroupResults, .traceMeta,
    .traceSpans, .traceIndexSession, .traceIndexWorker, .traceIndexAgent, .knownWorkers,
    .sdActiveInstances, .sdInstanceDetails, .sdServices, .workerOnlineLease,
    .workerDeclaredAgentTypes, .agentTypeMembers, .workerAdminState, .agentTypeDenied,
    .workerLock, .sessionRegistry, .waitIndex, .waitSweepLock, .waitConsumed, .waitRenewOrigin]

theorem KeyFamily.mem_all (family : KeyFamily) : family ∈ KeyFamily.all := by
  cases family <;> simp [KeyFamily.all]

def KeyFamily.overlaps : KeyFamily → KeyFamily → Bool
  | .taskGroup, .taskGroupResults => true
  | .traceMeta, .traceIndexSession | .traceMeta, .traceIndexWorker
  | .traceMeta, .traceIndexAgent => true
  | .traceSpans, .traceIndexSession | .traceSpans, .traceIndexWorker
  | .traceSpans, .traceIndexAgent => true
  | _, _ => false

def KeyFamily.spelledApart (schema : KeySchema) (left right : KeyFamily) : Bool :=
  Text.apart (left.spelling schema).1.toList (right.spelling schema).1.toList ||
    Text.apart (left.spelling schema).2.toList.reverse (right.spelling schema).2.toList.reverse

def KeyFamily.isWakeup : KeyFamily → Bool
  | .controlPlaneWakeupStream | .controlPlaneWakeupResultStream => true
  | _ => false

def KeyFamily.Told (schema : KeySchema) (left right : KeyFamily) : Prop :=
  left.spelledApart schema right = true ∨ (left.isWakeup = true ∧ right.isWakeup = true) ∨
    schema = .v1 ∧ (left.overlaps right = true ∨ right.overlaps left = true)

instance (schema : KeySchema) (left right : KeyFamily) :
    Decidable (KeyFamily.Told schema left right) :=
  inferInstanceAs (Decidable (_ ∨ _ ∨ _))

theorem families_told (schema : KeySchema) :
    KeyFamily.all.Pairwise (KeyFamily.Told schema) := by
  cases schema
  · decide +kernel
  · decide +kernel

theorem told_symm (schema : KeySchema) : Std.Symm (KeyFamily.Told schema) where
  symm left right told := by
    rcases told with spelled | ⟨first, second⟩ | ⟨same, either⟩
    · left
      unfold KeyFamily.spelledApart at spelled ⊢
      rwa [Text.apart_comm, Text.apart_comm (right.spelling schema).2.toList.reverse]
    · exact .inr (.inl ⟨second, first⟩)
    · exact .inr (.inr ⟨same, either.symm⟩)

theorem template_apart {schema : KeySchema} {left right : KeyFamily}
    (spelled : left.spelledApart schema right = true) :
    (left.template schema).apart (right.template schema) = true := by
  unfold Template.apart KeyFamily.template
  dsimp only
  rw [String.toList_append, String.toList_append, Text.apart_append_left]
  exact spelled

theorem families_apart (schema : KeySchema) {left right : KeyFamily} (differ : left ≠ right) :
    KeyFamily.Told schema left right := by
  have symmetric := told_symm schema
  exact (families_told schema).forall (KeyFamily.mem_all left) (KeyFamily.mem_all right) differ

/-! ### Clashes of the first schema -/

inductive TraceField where
  | metadata
  | spans

def TraceField.text : TraceField → String
  | .metadata => "meta"
  | .spans => "spans"

def TraceField.key (traceId : String) : TraceField → KeyName
  | .metadata => .traceMeta traceId
  | .spans => .traceSpans traceId

inductive TraceIndex where
  | session
  | worker
  | agent

def TraceIndex.text : TraceIndex → String
  | .session => "idx:session"
  | .worker => "idx:worker"
  | .agent => "idx:agent"

def TraceIndex.key (id : String) : TraceIndex → KeyName
  | .session => .traceIndexSession id
  | .worker => .traceIndexWorker id
  | .agent => .traceIndexAgent id

/-- Two keys of different entities that are spelled alike under the first schema: a Task Group
whose id ends like a results key, and a trace whose id begins like an index. -/
inductive Clash : KeyName → KeyName → Prop where
  | results (groupId : String) :
      Clash (.used (.taskGroup (groupId ++ ":results"))) (.used (.taskGroupResults groupId))
  | index (field : TraceField) (index : TraceIndex) (id : String) :
      Clash (field.key (index.text ++ ":" ++ id)) (index.key (id ++ ":" ++ field.text))
  | bareIndex (field : TraceField) (index : TraceIndex) :
      Clash (field.key index.text) (index.key field.text)

theorem field_render (field : TraceField) (traceId : String) :
    ((field.key traceId).render .v1).toList =
      "byai_gateway:trace:".toList ++ (traceId.toList ++ ':' :: field.text.toList) := by
  cases field with
  | metadata =>
      change ("byai_gateway:trace:" ++ traceId ++ ":meta").toList = _
      simp [TraceField.text]
  | spans =>
      change ("byai_gateway:trace:" ++ traceId ++ ":spans").toList = _
      simp [TraceField.text]

theorem index_render (index : TraceIndex) (id : String) :
    ((index.key id).render .v1).toList =
      "byai_gateway:trace:".toList ++ (index.text.toList ++ ':' :: id.toList) := by
  cases index with
  | session =>
      change ("byai_gateway:trace:idx:session:" ++ id).toList = _
      simp [TraceIndex.text]
  | worker =>
      change ("byai_gateway:trace:idx:worker:" ++ id).toList = _
      simp [TraceIndex.text]
  | agent =>
      change ("byai_gateway:trace:idx:agent:" ++ id).toList = _
      simp [TraceIndex.text]

theorem trace_clash {field : TraceField} {index : TraceIndex} {traceId id : String}
    (same : (field.key traceId).render .v1 = (index.key id).render .v1) :
    Clash (field.key traceId) (index.key id) := by
  have letters := congrArg String.toList same
  rw [field_render, index_render, List.append_right_inj] at letters
  have clean : ':' ∉ field.text.toList := by
    cases field <;> decide
  rcases (append_separator_eq clean).mp letters with ⟨first, second⟩ | ⟨rest, first, second⟩
  · obtain rfl : traceId = index.text := String.toList_inj.mp first
    obtain rfl : id = field.text := String.toList_inj.mp second
    exact .bareIndex field index
  · obtain rfl : traceId = index.text ++ ":" ++ String.ofList rest := by
      apply String.toList_inj.mp
      simp [first]
    obtain rfl : id = String.ofList rest ++ ":" ++ field.text := by
      apply String.toList_inj.mp
      simp [second]
    exact .index field index (String.ofList rest)

theorem group_clash {groupId other : String}
    (same : (KeyName.used (.taskGroup groupId)).render .v1 =
      (KeyName.used (.taskGroupResults other)).render .v1) :
    Clash (.used (.taskGroup groupId)) (.used (.taskGroupResults other)) := by
  have letters := congrArg String.toList same
  change ("byai_gateway:task_group:" ++ groupId).toList =
    ("byai_gateway:task_group:" ++ other ++ ":results").toList at letters
  simp only [String.toList_append, List.append_assoc, List.append_right_inj,
    -String.reduceToList] at letters
  obtain rfl : groupId = other ++ ":results" := by
    apply String.toList_inj.mp
    rw [String.toList_append]
    exact letters
  exact .results other

theorem Clash.render_eq {left right : KeyName} (clash : Clash left right) :
    left.render .v1 = right.render .v1 := by
  apply String.toList_inj.mp
  cases clash with
  | results groupId =>
      change ("byai_gateway:task_group:" ++ (groupId ++ ":results")).toList =
        ("byai_gateway:task_group:" ++ groupId ++ ":results").toList
      simp only [String.toList_append, List.append_assoc]
  | index field index id =>
      rw [field_render, index_render]
      simp
  | bareIndex field index => rw [field_render, index_render]

/-! ### The key space -/

theorem overlap_clash {left right : KeyName} (leftDigest : left.HasDigest)
    (rightDigest : right.HasDigest) (overlap : left.family.overlaps right.family = true)
    (same : left.render .v1 = right.render .v1) : Clash left right := by
  rw [← KeyName.rebuild_parts .v1 left leftDigest, ← KeyName.rebuild_parts .v1 right rightDigest]
    at same ⊢
  generalize left.family = first, right.family = second at overlap same ⊢
  generalize left.middle .v1 = firstMiddle, right.middle .v1 = secondMiddle at same ⊢
  unfold KeyFamily.overlaps at overlap
  split at overlap
  · exact group_clash same
  · exact @trace_clash .metadata .session _ _ same
  · exact @trace_clash .metadata .worker _ _ same
  · exact @trace_clash .metadata .agent _ _ same
  · exact @trace_clash .spans .session _ _ same
  · exact @trace_clash .spans .worker _ _ same
  · exact @trace_clash .spans .agent _ _ same
  · cases overlap

theorem KeyName.render_toList (schema : KeySchema) (name : KeyName) :
    (name.render schema).toList =
      (name.family.template schema).fill (name.middle schema).toList := by
  cases schema with
  | v1 => exact name.render_legacy
  | v2 => exact name.render_tagged

theorem wakeup_ne (schema : KeySchema) (executionId : String) :
    (KeyName.used .controlPlaneWakeupStream).render schema ≠
      (KeyName.controlPlaneWakeupResultStream executionId).render schema := by
  intro same
  have lengths := congrArg (fun key => key.toList.length) same
  cases schema with
  | v1 =>
      change "byai_gateway:control_plane:mgmt:wakeup".toList.length =
        ("byai_gateway:control_plane:mgmt:wakeup:result:" ++ executionId).toList.length at lengths
      simp at lengths
  | v2 =>
      change ("byai_gateway:v2:" ++ "control_plane:mgmt:wakeup").toList.length =
        ("byai_gateway:v2:" ++ ("control_plane:mgmt:wakeup:result:" ++ executionId)).toList.length
        at lengths
      simp at lengths

theorem wakeup_differs {schema : KeySchema} {left right : KeyName}
    (leftDigest : left.HasDigest) (rightDigest : right.HasDigest)
    (differ : left.family ≠ right.family) (first : left.family.isWakeup = true)
    (second : right.family.isWakeup = true) : left.render schema ≠ right.render schema := by
  rw [← KeyName.rebuild_parts schema left leftDigest,
    ← KeyName.rebuild_parts schema right rightDigest]
  generalize left.family = one, right.family = other at differ first second ⊢
  generalize left.middle schema = oneMiddle, right.middle schema = otherMiddle
  unfold KeyFamily.isWakeup at first second
  split at first
  · split at second
    · exact absurd rfl differ
    · exact wakeup_ne schema otherMiddle
    · cases second
  · split at second
    · exact (wakeup_ne schema oneMiddle).symm
    · exact absurd rfl differ
    · cases second
  · cases first

theorem render_eq_iff (schema : KeySchema) {left right : KeyName} (leftDigest : left.HasDigest)
    (rightDigest : right.HasDigest) :
    left.render schema = right.render schema ↔
      left = right ∨ schema = .v1 ∧ (Clash left right ∨ Clash right left) := by
  constructor
  · intro same
    by_cases family : left.family = right.family
    · left
      have letters := congrArg String.toList same
      rw [left.render_toList, right.render_toList, family, Template.fill_inj] at letters
      have middle := String.toList_inj.mp letters
      rw [← KeyName.rebuild_parts schema left leftDigest,
        ← KeyName.rebuild_parts schema right rightDigest, family, middle]
    · rcases families_apart schema family with spelled | ⟨first, second⟩ | ⟨rfl, leads | follows⟩
      · have letters := congrArg String.toList same
        rw [left.render_toList, right.render_toList] at letters
        exact absurd letters (Template.fill_ne_of_apart (template_apart spelled) _ _)
      · exact absurd same (wakeup_differs leftDigest rightDigest family first second)
      · exact .inr ⟨rfl, .inl (overlap_clash leftDigest rightDigest leads same)⟩
      · exact .inr ⟨rfl, .inr (overlap_clash rightDigest leftDigest follows same.symm)⟩
  · rintro (rfl | ⟨rfl, clash | clash⟩)
    · rfl
    · exact clash.render_eq
    · exact clash.render_eq.symm

/-- The id of a Task Group may spell the results key of another. -/
theorem legacy_keys_clash :
    ¬∀ left right : KeyName, left.HasDigest → right.HasDigest →
      left.render .v1 = right.render .v1 → left = right := by
  intro injective
  have same := (Clash.results "tg-1").render_eq
  have equal := injective (.used (.taskGroup ("tg-1" ++ ":results")))
    (.used (.taskGroupResults "tg-1")) trivial trivial same
  cases equal

def leaseKey (schema : KeySchema) (workerId : String) : String :=
  (KeyName.used (.workerOnlineLease workerId)).render schema

theorem leaseKey_toList (schema : KeySchema) (workerId : String) :
    (leaseKey schema workerId).toList =
      (KeyFamily.workerOnlineLease.template schema).fill workerId.toList :=
  KeyName.render_toList schema (.used (.workerOnlineLease workerId))

theorem eq_leaseKey_iff (schema : KeySchema) (key workerId : String) :
    key = leaseKey schema workerId ↔
      key.toList = (KeyFamily.workerOnlineLease.template schema).fill workerId.toList := by
  rw [← leaseKey_toList, String.toList_inj]

theorem scanFindsLease_iff (schema : KeySchema) (key : String) :
    scanFindsLease schema key = true ↔ ∃ workerId, key = leaseKey schema workerId := by
  have pattern : (workerOnlineLeaseScanPattern schema).toList =
      (KeyFamily.workerOnlineLease.template schema).heading ++
        '*' :: (KeyFamily.workerOnlineLease.template schema).ending := by
    cases schema <;> decide +kernel
  have heading : '*' ∉ (KeyFamily.workerOnlineLease.template schema).heading := by
    cases schema <;> decide +kernel
  have ending : '*' ∉ (KeyFamily.workerOnlineLease.template schema).ending := by
    cases schema <;> decide +kernel
  unfold scanFindsLease
  rw [pattern, globMatches_template heading ending]
  constructor
  · rintro ⟨middle, same⟩
    refine ⟨String.ofList middle, ?_⟩
    rw [eq_leaseKey_iff, String.toList_ofList]
    exact same
  · rintro ⟨workerId, same⟩
    exact ⟨workerId.toList, (eq_leaseKey_iff schema key workerId).mp same⟩

theorem slice_fill {template : Template Char} {middle : List Char} :
    slice (template.fill middle) template.heading.length
      ((template.fill middle).length - template.ending.length) = String.ofList middle := by
  have size : (template.fill middle).length - template.ending.length -
      template.heading.length = middle.length := by
    simp only [Template.fill, List.length_append]
    omega
  unfold slice
  rw [size]
  simp [Template.fill]

theorem workerIdFromOnlineLeaseKey_iff (schema : KeySchema) (key workerId : String) :
    workerIdFromOnlineLeaseKey schema key = some workerId ↔ key = leaseKey schema workerId := by
  rw [eq_leaseKey_iff]
  cases schema with
  | v1 =>
      have heading : "byai_gateway:registry:worker:online:".toList =
          (KeyFamily.workerOnlineLease.template .v1).heading := by decide +kernel
      have ending : (KeyFamily.workerOnlineLease.template .v1).ending = [] := by decide +kernel
      unfold workerIdFromOnlineLeaseKey workerIdFromScannedKey
      dsimp only
      rw [heading]
      generalize KeyFamily.workerOnlineLease.template .v1 = template at ending ⊢
      have whole (middle : List Char) :
          slice (template.fill middle) template.heading.length (template.fill middle).length =
            String.ofList middle := by
        have cut := @slice_fill template middle
        rw [ending] at cut
        simpa using cut
      split
      · rename_i begins
        obtain ⟨middle, same⟩ := List.isPrefixOf_iff_prefix.mp begins
        have filled : key.toList = template.fill middle := by
          rw [← same]
          simp [Template.fill, ending]
        rw [filled, whole, Template.fill_inj, Option.some.injEq,
          ← String.toList_inj, String.toList_ofList]
      · rename_i differs
        simp only [reduceCtorEq, false_iff]
        intro same
        apply differs
        rw [same, List.isPrefixOf_iff_prefix, Template.fill, List.append_assoc]
        exact List.prefix_append _ _
  | v2 =>
      have heading : "byai_gateway:v2:registry:worker:\x7b".toList =
          (KeyFamily.workerOnlineLease.template .v2).heading := by decide +kernel
      have ending : ("\x7d:" ++ "online").toList =
          (KeyFamily.workerOnlineLease.template .v2).ending := by decide +kernel
      have mark : (KeyFamily.workerOnlineLease.template .v2).ending =
          '\x7d' :: ":online".toList := by decide +kernel
      have clean : '\x7d' ∉ (KeyFamily.workerOnlineLease.template .v2).heading := by
        decide +kernel
      unfold workerIdFromOnlineLeaseKey workerIdFromScannedKey
      dsimp only
      rw [heading, ending]
      generalize KeyFamily.workerOnlineLease.template .v2 = template at mark clean ⊢
      split
      · rename_i bounds
        obtain ⟨begins, ends⟩ := Bool.and_eq_true_iff.mp bounds
        obtain ⟨middle, filled⟩ := Template.fill_of_bounds mark clean
          (List.isPrefixOf_iff_prefix.mp begins) (List.isSuffixOf_iff_suffix.mp ends)
        rw [filled, slice_fill, Template.fill_inj, Option.some.injEq,
          ← String.toList_inj, String.toList_ofList]
      · rename_i differs
        simp only [reduceCtorEq, false_iff]
        intro same
        apply differs
        rw [same, Bool.and_eq_true, List.isPrefixOf_iff_prefix, List.isSuffixOf_iff_suffix]
        constructor
        · rw [Template.fill, List.append_assoc]
          exact List.prefix_append _ _
        · exact List.suffix_append _ _

/-- Under the second schema no two keys are the same text, and under the first only the clashing
ones are. The scan finds the leases and nothing else, and reads each worker's own id back. -/
theorem key_space (schema : KeySchema) :
    (∀ left right : KeyName, left.HasDigest → right.HasDigest →
      (left.render schema = right.render schema ↔
        left = right ∨ schema = .v1 ∧ (Clash left right ∨ Clash right left))) ∧
    (∀ key, scanFindsLease schema key = true ↔ ∃ workerId, key = leaseKey schema workerId) ∧
    ∀ key workerId, workerIdFromOnlineLeaseKey schema key = some workerId ↔
      key = leaseKey schema workerId :=
  ⟨fun _ _ leftDigest rightDigest => render_eq_iff schema leftDigest rightDigest,
    scanFindsLease_iff schema, workerIdFromOnlineLeaseKey_iff schema⟩

theorem key_space_of_session :
    (KeyName.used (.waitConsumed "session" (memberDigest "m|c|"))).render .v2 ≠
      (KeyName.used (.waitConsumed "session:2" (memberDigest "m|c|"))).render .v2 := by
  intro same
  have injective := (key_space .v2).1 (.used (.waitConsumed "session" (memberDigest "m|c|")))
    (.used (.waitConsumed "session:2" (memberDigest "m|c|"))) (Hash.sha1Hex_digits "m|c|")
    (Hash.sha1Hex_digits "m|c|")
  rcases injective.mp same with equal | ⟨legacy, _⟩
  · simp at equal
  · cases legacy

end ByFramework
