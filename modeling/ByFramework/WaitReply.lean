import ByFramework.Registry
import ByFramework.WaitReplyCore

/-! A member decodes to the ids it was made of, and a stand-in carries the ids it was given. -/

namespace ByFramework

open Async

/-! ### Members -/

theorem escapeField_nil : escapeField [] = [] := rfl

theorem escapeField_append (left right : List Char) :
    escapeField (left ++ right) = escapeField left ++ escapeField right := by
  simp only [escapeField, replaceChar, List.flatMap_append]

theorem escapeField_single (char : Char) :
    escapeField [char] = if char = '\\' ∨ char = '|' then ['\\', char] else [char] := by
  by_cases slash : char = '\\'
  · subst char
    rfl
  · by_cases bar : char = '|'
    · subst char
      rfl
    · simp [escapeField, replaceChar, slash, bar]

theorem splitScan_escapeField (value rest : List Char) (fields : List String)
    (current : List Char) :
    splitScan (escapeField value ++ rest) fields current false =
      splitScan rest fields (current ++ value) false := by
  induction value generalizing current with
  | nil => simp [escapeField_nil]
  | cons char value ih =>
      have opened : escapeField (char :: value) = escapeField [char] ++ escapeField value :=
        escapeField_append [char] value
      rw [opened, escapeField_single]
      by_cases special : char = '\\' ∨ char = '|'
      · rw [if_pos special]
        simp only [List.cons_append, List.nil_append]
        rw [splitScan, if_neg (by simp), if_pos rfl, splitScan, if_pos rfl, ih]
        simp
      · have other : char ≠ '\\' ∧ char ≠ '|' := not_or.mp special
        rw [if_neg special]
        simp only [List.cons_append, List.nil_append]
        rw [splitScan, if_neg (by simp), if_neg other.1, if_neg other.2, ih]
        simp

theorem splitScan_bar (rest : List Char) (fields : List String) (current : List Char) :
    splitScan ('|' :: rest) fields current false =
      splitScan rest (fields ++ [String.ofList current]) [] false := by
  rw [splitScan, if_neg (by simp), if_neg (by decide), if_pos rfl]

theorem splitEscaped_encodeMember (member : WaitIndexMember) :
    splitEscaped (encodeMember member) =
      .ok [member.sessionId, member.parentMessageId, member.childMessageId,
        member.taskGroupId] := by
  have scanned : splitScan (encodeMember member).toList [] [] false =
      some [member.sessionId, member.parentMessageId, member.childMessageId,
        member.taskGroupId] := by
    have last : splitScan (escapeField member.taskGroupId.toList)
        [member.sessionId, member.parentMessageId, member.childMessageId] [] false =
        some [member.sessionId, member.parentMessageId, member.childMessageId,
          member.taskGroupId] := by
      have ends := splitScan_escapeField member.taskGroupId.toList []
        [member.sessionId, member.parentMessageId, member.childMessageId] []
      rw [List.append_nil] at ends
      rw [ends]
      simp [splitScan]
    simp only [encodeMember, String.toList_ofList, List.append_assoc, List.cons_append]
    rw [splitScan_escapeField, splitScan_bar, splitScan_escapeField, splitScan_bar,
      splitScan_escapeField, splitScan_bar]
    simpa using last
  simp only [splitEscaped, scanned]

theorem decodeMember_encodeMember (member : WaitIndexMember) :
    decodeMember (encodeMember member) = .ok member := by
  simp only [decodeMember, splitEscaped_encodeMember]
  rfl

theorem encodeMember_injective : Function.Injective encodeMember := by
  intro left right same
  have decoded := congrArg decodeMember same
  rw [decodeMember_encodeMember, decodeMember_encodeMember] at decoded
  exact Except.ok.inj decoded

def RegisterWaitParams.entry (params : RegisterWaitParams) : WaitIndexMember :=
  ⟨params.sessionId, params.parentMessageId, params.childMessageId, params.taskGroupId⟩

/-- The wait that a command with this header is dispatched under. -/
def MessageHeader.asks (header : MessageHeader) : WaitIndexMember :=
  ⟨header.sessionId, header.parentMessageId, header.messageId, header.taskGroupId⟩

/-- The wait that a reply with this header clears. -/
def MessageHeader.answers (header : MessageHeader) : WaitIndexMember :=
  ⟨header.sessionId, header.messageId, header.parentMessageId, header.taskGroupId⟩

/-- The wait that the dispatch of a recorded execution was registered under. -/
def ExecutionRecord.asks (record : ExecutionRecord) : WaitIndexMember :=
  ⟨record.sessionId, record.parentMessageId, record.messageId, record.taskGroupId⟩

theorem candidateMembers_head (header : MessageHeader) :
    (candidateMembers header).head? = some (memberFromResume header) := by
  unfold candidateMembers
  dsimp only
  split <;> rfl

/-! ### Stand-ins -/

section

variable {σ β : Type} {contract : Contract effects} {inv : σ → Prop}

theorem uses_standInReply_bind {params : StandInReplyParams} {next : ResumeCommand → Proc σ β}
    (fresh : contract.allowed .uuid)
    (rest : ∀ traceId reply, reply.header = standInHeader params traceId →
      (next reply).Uses contract inv) :
    (standInReply params >>= next).Uses contract inv := by
  unfold standInReply
  rw [bind_assoc]
  refine Task.uses_bind ?_ fun traceId => ?_
  · split
    · exact Task.uses_bind (Task.uses_await fresh) fun _ => Task.uses_pure _
    · exact Task.uses_pure _
  · cases made : ResumeCommand.make (standInHeader params traceId) params.content params.status
      params.replyData params.extraPayload with
    | error error => exact fun memory held => held
    | ok reply => exact rest traceId reply (ResumeCommand.make_header made)

end

end ByFramework
