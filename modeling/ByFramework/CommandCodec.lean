import ByFramework.CommandCodecCore

/-! Commands survive the wire, and what a decoder made of a message it makes of its own answer. -/

namespace ByFramework

/-- A value that `|| ''` leaves as it is. -/
def PastDefault (value : JsonValue) : Prop := value.truthy = true ∨ value = .string ""

theorem kept_string (text : String) : PastDefault (.string text) := by
  unfold PastDefault JsonValue.truthy
  by_cases empty : text = ""
  · exact .inr (congrArg JsonValue.string empty)
  · exact .inl (by simpa using empty)

theorem orDefault_some_truthy {value : JsonValue} (truthy : value.truthy = true)
    (fallback : JsonValue) : orDefault (some value) fallback = value := by
  simp [orDefault, Option.filter, truthy]

theorem orDefault_kept {value : JsonValue} (kept : PastDefault value) :
    orDefault (some value) (.string "") = value := by
  rcases kept with truthy | empty
  · exact orDefault_some_truthy truthy _
  · rw [empty]
    rfl

theorem kept_orDefault (value : Option JsonValue) {fallback : JsonValue}
    (kept : PastDefault fallback) :
    PastDefault (orDefault value fallback) := by
  unfold orDefault
  cases found : value.filter JsonValue.truthy with
  | none => exact kept
  | some held =>
      obtain ⟨_, truthy⟩ := Option.filter_eq_some_iff.mp found
      exact .inl truthy

theorem lookup_jsonFields : ∀ {fields : List (String × Option JsonValue)},
    (fields.map Prod.fst).Nodup → ∀ {name : String} {value : Option JsonValue},
    (name, value) ∈ fields → (jsonFields fields).lookup name = value := by
  intro fields
  induction fields with
  | nil =>
      intro _ name value listed
      cases listed
  | cons field rest ih =>
      intro apart name value listed
      obtain ⟨first, held⟩ := field
      rw [List.map_cons, List.nodup_cons] at apart
      rcases List.mem_cons.mp listed with same | later
      · obtain ⟨rfl, rfl⟩ := Prod.mk.inj same
        cases value with
        | some found => simp [jsonFields]
        | none =>
            have absent : ∀ field ∈ jsonFields rest, field.1 ≠ name := by
              intro field inRest equal
              obtain ⟨source, member, made⟩ := List.mem_filterMap.mp inRest
              obtain ⟨found, _, same⟩ := Option.map_eq_some_iff.mp made
              apply apart.1
              rw [← equal, ← same]
              exact List.mem_map.mpr ⟨source, member, rfl⟩
            have skipped : jsonFields ((name, none) :: rest) = jsonFields rest := rfl
            rw [skipped, List.lookup_eq_none_iff]
            intro field inRest
            simpa using (absent field inRest).symm
      · have other : name ≠ first := by
          intro same
          apply apart.1
          rw [← same]
          exact List.mem_map.mpr ⟨(name, value), later, rfl⟩
        have found := ih apart.2 later
        cases held with
        | none => exact found
        | some value =>
            change ((first, value) :: jsonFields rest).lookup name = _
            rw [List.lookup_cons, beq_eq_false_iff_ne.mpr other]
            exact found

namespace WireHeader

/-- The fields that are strings by their type would survive `|| ''`. -/
structure Settled (header : WireHeader) : Prop where
  sourceAgentType : PastDefault header.sourceAgentType
  targetAgentType : PastDefault header.targetAgentType
  parentMessageId : PastDefault header.parentMessageId
  taskGroupId : PastDefault header.taskGroupId
  userCode : PastDefault header.userCode
  userName : PastDefault header.userName
  traceParentSpanId : PastDefault header.traceParentSpanId
  langfuseParentObservationId : PastDefault header.langfuseParentObservationId

variable {units : String → List String}

theorem settled_ofDict (data : JsonValue) : (ofDict units data).Settled where
  sourceAgentType := kept_orDefault _ (kept_orDefault _ (kept_string ""))
  targetAgentType := kept_orDefault _ (kept_string "")
  parentMessageId := kept_orDefault _ (kept_string "")
  taskGroupId := kept_orDefault _ (kept_string "")
  userCode := kept_orDefault _ (kept_string "")
  userName := kept_orDefault _ (kept_string "")
  traceParentSpanId := kept_orDefault _ (kept_string "")
  langfuseParentObservationId := kept_orDefault _ (kept_string "")

theorem names_apart (header : WireHeader) : (header.toDict.map Prod.fst).Nodup := by
  change ["message_id", "session_id", "trace_id", "source_agent_type", "target_agent_type",
    "parent_message_id", "task_group_id", "user_code", "user_name", "metadata",
    "trace_parent_span_id", "langfuse_parent_observation_id"].Nodup
  decide

theorem property_toDict (header : WireHeader) {name : String} {value : Option JsonValue}
    (listed : (name, value) ∈ header.toDict) :
    (JsonValue.object (jsonFields header.toDict)).property name = value :=
  lookup_jsonFields header.names_apart listed

theorem no_legacy_field (header : WireHeader) :
    (JsonValue.object (jsonFields header.toDict)).property "source_agent_id" = none := by
  unfold JsonValue.property
  rw [List.lookup_eq_none_iff]
  intro field listed
  obtain ⟨source, member, made⟩ := List.mem_filterMap.mp listed
  obtain ⟨found, _, same⟩ := Option.map_eq_some_iff.mp made
  have named : field.1 ∈ header.toDict.map Prod.fst := by
    rw [← same]
    exact List.mem_map_of_mem member
  have other : "source_agent_id" ∉ header.toDict.map Prod.fst := by
    change "source_agent_id" ∉ ["message_id", "session_id", "trace_id", "source_agent_type",
      "target_agent_type", "parent_message_id", "task_group_id", "user_code", "user_name",
      "metadata", "trace_parent_span_id", "langfuse_parent_observation_id"]
    decide
  have different : "source_agent_id" ≠ field.1 := fun equal => other (equal ▸ named)
  simpa using different

theorem fromDict_toDict {header : WireHeader} (settled : header.Settled) :
    fromDict units (some (.object (jsonFields header.toDict))) = .ok header := by
  change Except.ok (ofDict units _) = _
  unfold ofDict
  rw [header.no_legacy_field,
    @property_toDict header "message_id" header.messageId (by simp [toDict]),
    @property_toDict header "session_id" header.sessionId (by simp [toDict]),
    @property_toDict header "trace_id" header.traceId (by simp [toDict]),
    @property_toDict header "source_agent_type" (some header.sourceAgentType) (by simp [toDict]),
    @property_toDict header "target_agent_type" (some header.targetAgentType) (by simp [toDict]),
    @property_toDict header "parent_message_id" (some header.parentMessageId) (by simp [toDict]),
    @property_toDict header "task_group_id" (some header.taskGroupId) (by simp [toDict]),
    @property_toDict header "user_code" (some header.userCode) (by simp [toDict]),
    @property_toDict header "user_name" (some header.userName) (by simp [toDict]),
    @property_toDict header "metadata" (some (.object header.metadata)) (by simp [toDict]),
    @property_toDict header "trace_parent_span_id" (some header.traceParentSpanId)
      (by simp [toDict]),
    @property_toDict header "langfuse_parent_observation_id"
      (some header.langfuseParentObservationId) (by simp [toDict])]
  have source : orDefault (some header.sourceAgentType) (orDefault none (.string "")) =
      header.sourceAgentType := orDefault_kept settled.sourceAgentType
  rw [source, orDefault_kept settled.targetAgentType, orDefault_kept settled.parentMessageId,
    orDefault_kept settled.taskGroupId, orDefault_kept settled.userCode,
    orDefault_kept settled.userName, orDefault_kept settled.traceParentSpanId,
    orDefault_kept settled.langfuseParentObservationId]
  rfl

end WireHeader

namespace WireCommand

/-- Fields that are strings by their type would survive `|| ''`. -/
def Settled : WireCommand → Prop
  | .askAgent header .. | .resumeWorker header => header.Settled
  | .resume header _ status _ _ => header.Settled ∧ PastDefault status
  | .cancelTask header targetMessageId targetExecutionId targetWorkerId reason requestedBy _ =>
      header.Settled ∧ PastDefault targetMessageId ∧ PastDefault targetExecutionId ∧
        PastDefault targetWorkerId ∧ PastDefault reason ∧ PastDefault requestedBy
  | .suspendWorker header reason | .evictWorker header reason _ =>
      header.Settled ∧ PastDefault reason

variable {units : String → List String}

theorem construct_ok_iff {command built : WireCommand} :
    command.construct = .ok built ↔ command.refusal = none ∧ built = command := by
  unfold construct
  cases command.refusal with
  | none =>
      constructor
      · intro made
        exact ⟨rfl, (Except.ok.inj made).symm⟩
      · rintro ⟨_, rfl⟩
        rfl
  | some error =>
      constructor
      · intro made
        cases made
      · rintro ⟨never, _⟩
        cases never

theorem extraPayload_back (extraPayload : JsonObject) :
    spreadOr units ((extraField extraPayload).lookup "extra_payload") = extraPayload := by
  unfold extraField
  split
  · rename_i empty
    rw [empty]
    rfl
  · rfl

theorem settled_header {command : WireCommand} (settled : command.Settled) :
    command.header.Settled := by
  cases command with
  | askAgent header content waitForReply extraPayload => exact settled
  | resume header content status replyData extraPayload => exact settled.1
  | cancelTask header targetMessageId targetExecutionId targetWorkerId reason requestedBy mode =>
      exact settled.1
  | suspendWorker header reason => exact settled.1
  | resumeWorker header => exact settled
  | evictWorker header reason force => exact settled.1

theorem headerFields_wire {command : WireCommand} (settled : command.Settled) :
    headerFields units command.wire = .ok command.header :=
  WireHeader.fromDict_toDict (settled_header settled)

theorem bodyFields_wire (command : WireCommand) : bodyFields units command.wire = command.body :=
  rfl

theorem bodyText_wire {command : WireCommand} {name : String} {value : JsonValue}
    (held : command.body.lookup name = some value) (kept : PastDefault value) :
    bodyText units command.wire name = value := by
  unfold bodyText
  rw [bodyFields_wire, held]
  exact orDefault_kept kept

theorem bodyFlag_wire {command : WireCommand} {name : String} {flag : Bool}
    (held : command.body.lookup name = some (.bool flag)) :
    bodyFlag units command.wire name = flag := by
  unfold bodyFlag
  rw [bodyFields_wire, held]
  rfl

theorem extraPayloadField_wire {command : WireCommand} {extraPayload : JsonObject}
    (held : command.body.lookup "extra_payload" =
      (extraField extraPayload).lookup "extra_payload") :
    extraPayloadField units command.wire = extraPayload := by
  unfold extraPayloadField
  rw [bodyFields_wire, held]
  exact extraPayload_back extraPayload

theorem commandFromDict_wire {command : WireCommand} (settled : command.Settled)
    (accepted : command.refusal = none) :
    commandFromDict units command.wire = .ok command := by
  have header := @headerFields_wire units command settled
  have built := construct_ok_iff.mpr ⟨accepted, rfl⟩
  cases command with
  | askAgent head content waitForReply extraPayload =>
      change askAgentFromDict units _ = _
      unfold askAgentFromDict
      rw [header, bodyFlag_wire rfl, extraPayloadField_wire rfl]
      exact built
  | resume head content status replyData extraPayload =>
      change resumeFromDict units _ = _
      unfold resumeFromDict
      rw [header, bodyText_wire rfl settled.2, extraPayloadField_wire rfl]
      exact built
  | cancelTask head targetMessageId targetExecutionId targetWorkerId reason requestedBy mode =>
      obtain ⟨_, message, execution, worker, why, who⟩ := settled
      have modes : mode = .string "graceful" ∨ mode = .string "force" := by
        unfold refusal at accepted
        dsimp only at accepted
        split at accepted
        · cases accepted
        · split at accepted
          · cases accepted
          · rename_i listed
            have either : ¬ mode = .string "graceful" → mode = .string "force" := by
              simpa using listed
            exact or_iff_not_imp_left.mpr either
      have modeKept : orDefault (some mode) (.string "graceful") = mode := by
        rcases modes with rfl | rfl
        · rfl
        · rfl
      change cancelTaskFromDict units _ = _
      unfold cancelTaskFromDict
      rw [header, bodyText_wire rfl message, bodyText_wire rfl execution, bodyText_wire rfl worker,
        bodyText_wire rfl why, bodyText_wire rfl who]
      change (WireCommand.cancelTask head targetMessageId targetExecutionId targetWorkerId reason
        requestedBy (orDefault (some mode) (.string "graceful"))).construct = _
      rw [modeKept]
      exact built
  | suspendWorker head reason =>
      change suspendWorkerFromDict units _ = _
      unfold suspendWorkerFromDict
      rw [header, bodyText_wire rfl settled.2]
      exact built
  | resumeWorker head =>
      change resumeWorkerFromDict units _ = _
      unfold resumeWorkerFromDict
      rw [header]
      exact built
  | evictWorker head reason force =>
      change evictWorkerFromDict units _ = _
      unfold evictWorkerFromDict
      rw [header, bodyText_wire rfl settled.2, bodyFlag_wire rfl]
      exact built

/-! ### Decoded commands -/

theorem fromDict_settled {data : Option JsonValue} {header : WireHeader}
    (read : WireHeader.fromDict units data = .ok header) : header.Settled := by
  unfold WireHeader.fromDict at read
  split at read
  · cases read
  · cases read
  · rw [← Except.ok.inj read]
    exact WireHeader.settled_ofDict _

theorem bodyText_kept (data : JsonObject) (name : String) :
    PastDefault (bodyText units data name) :=
  kept_orDefault _ (kept_string "")

theorem built_settled {data : JsonObject} (make : WireHeader → WireCommand)
    (settles : ∀ header : WireHeader, header.Settled → (make header).Settled)
    {command : WireCommand}
    (decoded : (do (make (← headerFields units data)).construct) = Except.ok command) :
    command.Settled ∧ command.refusal = none := by
  cases read : headerFields units data with
  | error error =>
      rw [read] at decoded
      cases decoded
  | ok header =>
      rw [read] at decoded
      obtain ⟨accepted, rfl⟩ := construct_ok_iff.mp decoded
      exact ⟨settles header (fromDict_settled read), accepted⟩

theorem commandFromDict_settled {data : JsonObject} {command : WireCommand}
    (decoded : commandFromDict units data = .ok command) :
    command.Settled ∧ command.refusal = none := by
  unfold commandFromDict at decoded
  cases found : (commandRegistry units).lookup (kindOf data) with
  | none =>
      rw [found] at decoded
      cases decoded
  | some fromDict =>
      rw [found] at decoded
      have text : ∀ name, PastDefault (bodyText units data name) := bodyText_kept data
      have listed : (kindOf data, fromDict) ∈ commandRegistry units := by
        obtain ⟨before, after, spelled, _⟩ := List.lookup_eq_some_iff.mp found
        rw [spelled]
        simp
      unfold commandRegistry at listed
      simp only [List.mem_cons, Prod.mk.injEq, List.not_mem_nil, or_false] at listed
      rcases listed with ⟨_, rfl⟩ | ⟨_, rfl⟩ | ⟨_, rfl⟩ | ⟨_, rfl⟩ | ⟨_, rfl⟩ | ⟨_, rfl⟩
      · exact built_settled (fun header => .askAgent header _ _ _)
          (fun _ settled => settled) decoded
      · exact built_settled (fun header => .resume header _ (bodyText units data "status") _ _)
          (fun _ settled => ⟨settled, text _⟩) decoded
      · exact built_settled
          (fun header => .cancelTask header (bodyText units data "target_message_id")
            (bodyText units data "target_execution_id") (bodyText units data "target_worker_id")
            (bodyText units data "reason") (bodyText units data "requested_by") _)
          (fun _ settled => ⟨settled, text _, text _, text _, text _, text _⟩) decoded
      · exact built_settled (fun header => .suspendWorker header (bodyText units data "reason"))
          (fun _ settled => ⟨settled, text _⟩) decoded
      · exact built_settled .resumeWorker (fun _ settled => settled) decoded
      · exact built_settled (fun header => .evictWorker header (bodyText units data "reason") _)
          (fun _ settled => ⟨settled, text _⟩) decoded

end WireCommand

namespace MessageHeader

def encoded (header : MessageHeader) : WireHeader where
  messageId := some (.string header.messageId)
  sessionId := some (.string header.sessionId)
  traceId := some (.string header.traceId)
  sourceAgentType := .string header.sourceAgentType
  targetAgentType := .string header.targetAgentType
  parentMessageId := .string header.parentMessageId
  taskGroupId := .string header.taskGroupId
  userCode := .string header.userCode
  userName := .string header.userName
  metadata := header.metadata
  traceParentSpanId := .string header.traceParentSpanId
  langfuseParentObservationId := .string header.langfuseParentObservationId

theorem encoded_settled (header : MessageHeader) : header.encoded.Settled where
  sourceAgentType := kept_string _
  targetAgentType := kept_string _
  parentMessageId := kept_string _
  taskGroupId := kept_string _
  userCode := kept_string _
  userName := kept_string _
  traceParentSpanId := kept_string _
  langfuseParentObservationId := kept_string _

end MessageHeader

namespace GatewayCommand

def encoded : GatewayCommand → WireCommand
  | .askAgent command =>
      .askAgent command.header.encoded command.content command.waitForReply command.extraPayload
  | .resume command =>
      .resume command.header.encoded command.content (.string command.status) command.replyData
        command.extraPayload
  | .cancelTask command =>
      .cancelTask command.header.encoded (.string command.targetMessageId)
        (.string command.targetExecutionId) (.string command.targetWorkerId)
        (.string command.reason) (.string command.requestedBy)
        (.string (if command.force then "force" else "graceful"))
  | .suspendWorker header reason => .suspendWorker header.encoded (.string reason)
  | .resumeWorker header => .resumeWorker header.encoded
  | .evictWorker header reason force => .evictWorker header.encoded (.string reason) force

theorem encoded_settled (command : GatewayCommand) : command.encoded.Settled := by
  cases command with
  | askAgent command => exact command.header.encoded_settled
  | resume command => exact ⟨command.header.encoded_settled, kept_string _⟩
  | cancelTask command =>
      exact ⟨command.header.encoded_settled, kept_string _, kept_string _, kept_string _,
        kept_string _, kept_string _⟩
  | suspendWorker header reason => exact ⟨header.encoded_settled, kept_string _⟩
  | resumeWorker header => exact header.encoded_settled
  | evictWorker header reason force => exact ⟨header.encoded_settled, kept_string _⟩

theorem truthy_string (text : String) : (JsonValue.string text).truthy = true ↔ text ≠ "" :=
  decide_eq_true_iff

theorem encoded_accepted (command : GatewayCommand) : command.encoded.refusal = none := by
  cases command with
  | askAgent command =>
      unfold encoded WireCommand.refusal
      simp [command.nonEmpty]
  | resume command =>
      unfold encoded WireCommand.refusal
      rcases command.nonEmpty with status | content
      · simp [(truthy_string command.status).mpr status]
      · simp [content]
  | cancelTask command =>
      unfold encoded WireCommand.refusal
      have target := (truthy_string command.targetMessageId).mpr command.nonEmpty
      cases command.force with
      | true => simp [target]
      | false => simp [target]
  | suspendWorker header reason => rfl
  | resumeWorker header => rfl
  | evictWorker header reason force => rfl

end GatewayCommand

open WireCommand

/--
A command comes back from the wire as it was, if what its types call a string is one or is at least
not falsy; and a message decoded, encoded and decoded again gives the command it gave at first.
-/
theorem command_codec (units : String → List String) :
    (∀ command : GatewayCommand,
      commandFromDict units command.encoded.wire = .ok command.encoded) ∧
    (∀ command : WireCommand, command.refusal = none → command.Settled →
      commandFromDict units command.wire = .ok command) ∧
    (∀ data command, commandFromDict units data = .ok command →
      commandFromDict units command.wire = .ok command) := by
  refine ⟨?_, fun _ accepted settled => commandFromDict_wire settled accepted, ?_⟩
  · intro command
    exact commandFromDict_wire command.encoded_settled command.encoded_accepted
  · intro data command decoded
    obtain ⟨settled, accepted⟩ := commandFromDict_settled decoded
    exact commandFromDict_wire settled accepted

/-- A reply whose status is null: accepted for its content, and decoded with an empty status. -/
theorem null_status_lost :
    let header : MessageHeader := { messageId := "m", sessionId := "s", traceId := "t" }
    let command := WireCommand.resume header.encoded (.string "done") .null .null []
    command.refusal = none ∧
      ∀ units, commandFromDict units command.wire =
        .ok (.resume header.encoded (.string "done") (.string "") .null []) := by
  exact ⟨rfl, fun _ => rfl⟩

end ByFramework
