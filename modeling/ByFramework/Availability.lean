import ByFramework.AvailabilityCore
import ByFramework.Registry

/-! What the availability router sends: reads, and at most a wake-up and a pending delivery. -/

namespace ByFramework

open Async

/-- A contract that permits what the router does for an intent. -/
structure RoutePermits (contract : Contract effects) (intent : DeliveryIntent) : Prop where
  reads : ∀ op : Op, op.isReading = true → contract.allowed op
  wakes : contract.allowed (.redis (.xadd .controlPlaneWakeupStream (.wakeup intent)))
  queues : contract.allowed (.redis (.xadd .controlPlaneDeliveryPendingStream
    (.pendingDelivery (.ctrlStream intent.targetAgentType) intent)))

section

variable {σ : Type} {contract : Contract effects} {inv : σ → Prop}

theorem readJson_reading (key : Key) : (readJson key : Proc σ _).Uses reading inv := by
  refine uses_redis_bind rfl fun found _ => ?_
  split <;> exact Task.uses_pure _

theorem quotaRejection_reading (userCode : String) :
    (quotaRejection userCode : Proc σ _).Uses reading inv := by
  unfold quotaRejection
  split
  · exact Task.uses_pure _
  · refine Task.uses_bind (readJson_reading _) fun quota => ?_
    split <;> exact Task.uses_pure _

theorem awaitWakeup_reading (intent : DeliveryIntent) (deadline : Int) (polls : Nat) :
    (awaitWakeup intent deadline polls : Proc σ _).Uses reading inv := by
  induction polls with
  | zero => exact Task.uses_pure _
  | succ polls ih =>
      refine Task.uses_bind dateNow_reading fun now => ?_
      split
      · refine Task.uses_bind (hasOnlineAgentType_reading _) fun online => ?_
        split
        · exact Task.uses_pure _
        · exact Task.uses_bind dateNow_reading fun _ => ih
      · exact Task.uses_pure _

variable {intent : DeliveryIntent} (permits : RoutePermits contract intent)
include permits

theorem publishWakeup_uses : (publishWakeup intent : Proc σ PUnit).Uses contract inv :=
  uses_redis_bind permits.wakes fun _ _ => Task.uses_pure _

theorem queuePending_uses : (queuePending intent : Proc σ _).Uses contract inv :=
  uses_redis_bind permits.queues fun _ _ => Task.uses_pure _

theorem wakeAndWait_uses : (wakeAndWait intent : Proc σ _).Uses contract inv := by
  refine Task.uses_bind (publishWakeup_uses permits) fun _ => ?_
  dsimp only
  split
  · exact Task.uses_pure _
  · refine Task.uses_bind (uses_of_reading dateNow_reading permits.reads) fun now => ?_
    exact uses_of_reading (awaitWakeup_reading _ _ _) permits.reads

theorem routeOffline_uses : (routeOffline intent : Proc σ _).Uses contract inv := by
  unfold routeOffline
  split
  · exact Task.uses_pure _
  · exact queuePending_uses permits
  · exact Task.uses_bind (publishWakeup_uses permits) fun _ => queuePending_uses permits
  · exact wakeAndWait_uses permits
  · exact Task.uses_pure _

theorem routeOnline_uses : (routeOnline intent : Proc σ _).Uses contract inv := by
  have probes (agentType : String) : (hasOnlineAgentType agentType : Proc σ _).Uses contract inv :=
    uses_of_reading (hasOnlineAgentType_reading agentType) permits.reads
  refine Task.uses_bind (probes _) fun online => ?_
  split
  · exact Task.uses_pure _
  · refine Task.uses_bind (uses_of_reading (readJson_reading _) permits.reads) fun fallback => ?_
    refine Task.uses_bind ?_ fun reachable => ?_
    · split
      · exact Task.uses_pure _
      · exact probes _
    · split
      · exact Task.uses_pure _
      · exact routeOffline_uses permits

theorem prepareDelivery_uses : (prepareDelivery intent : Proc σ _).Uses contract inv := by
  unfold prepareDelivery
  split
  · exact Task.uses_pure _
  · refine Task.uses_bind (uses_of_reading (readJson_reading _) permits.reads) fun circuit => ?_
    split
    · exact Task.uses_pure _
    · have quota : (quotaRejection intent.userCode : Proc σ _).Uses contract inv :=
        uses_of_reading (quotaRejection_reading _) permits.reads
      refine Task.uses_bind quota fun rejection => ?_
      split
      · exact Task.uses_pure _
      · split
        · exact Task.uses_pure _
        · exact routeOnline_uses permits

end

end ByFramework
