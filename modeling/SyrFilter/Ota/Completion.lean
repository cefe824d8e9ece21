import SyrFilter.Lib.Runs
import SyrFilter.Uart.Handler

namespace SyrFilter.Ota

open SyrFilter.Lib SyrFilter.Uart

/-! # When an update is ended

`wifi_ota_end` clears the settings and lets the loader take over.  The device
gets there on any packet without data, so whether the image is complete then
is up to the sender: it is exactly when the data acknowledged since an accepted
`UPDATE_START` adds up to the announced size.
-/

/-- An outcome that has nothing to do with updates. -/
structure KeepsUpdate (handler : Handler) (outcome : Outcome) : Prop where
  ota : outcome.handler.ota = handler.ota
  noEnd : .wifiOtaEnd ∉ outcome.calls
  noAck : .writeFrame 0x1e [] ∉ outcome.calls

section Other

variable {handler : Handler} {env : Env}

theorem dpDownloadHandle_keepsUpdate (dpid : UInt8) (value : Nat → UInt8) :
    KeepsUpdate handler (handler.dpDownloadHandle dpid value) := by
  rw [Handler.dpDownloadHandle]
  split
  · refine ⟨rfl, ?_, ?_⟩
    · dsimp only
      split <;> simp [mcuDpValueUpdate]
    · dsimp only
      split <;> simp [mcuDpValueUpdate]
  · refine ⟨rfl, ?_, ?_⟩
    · dsimp only
      split
      · simp [mcuDpValueUpdate]
      · split <;> simp
    · dsimp only
      split
      · simp [mcuDpValueUpdate]
      · split <;> simp

theorem dataPointHandle_keepsUpdate (value : Nat → UInt8) :
    KeepsUpdate handler (handler.dataPointHandle env value) := by
  have point := @dpDownloadHandle_keepsUpdate handler (value 0) fun i => value (4 + i)
  rw [Handler.dataPointHandle]
  dsimp only
  split
  · exact ⟨rfl, by simp, by simp⟩
  · refine ⟨point.ota, ?_, ?_⟩
    · simpa using point.noEnd
    · simpa using point.noAck

theorem dataIssued_keepsUpdate (payload : Nat → UInt8) (totalLen : UInt16) (fuel : Nat) (i : UInt16) :
    KeepsUpdate handler (Handler.dataIssued env payload totalLen fuel i handler) := by
  induction fuel generalizing i handler with
  | zero => exact ⟨rfl, List.not_mem_nil, List.not_mem_nil⟩
  | succ fuel ih =>
      rw [Handler.dataIssued]
      split
      · have point := @dataPointHandle_keepsUpdate handler env fun j => payload (i.toNat + j)
        have rest := @ih (handler.dataPointHandle env fun j => payload (i.toNat + j)).handler
          (i + (field16 (payload (i.toNat + 2)) (payload (i.toNat + 3)) + 4))
        refine ⟨rest.ota.trans point.ota, ?_, ?_⟩
        · exact fun member => (List.mem_append.mp member).elim point.noEnd rest.noEnd
        · exact fun member => (List.mem_append.mp member).elim point.noAck rest.noAck
      · exact ⟨rfl, List.not_mem_nil, List.not_mem_nil⟩

theorem dataHandle_keepsUpdate {fuel : Nat} {frame : Nat → UInt8} (notStart : frame 3 ≠ 0x1d)
    (notTrans : frame 3 ≠ 0x1e) : KeepsUpdate handler (handler.dataHandle env fuel frame) := by
  simp only [Handler.dataHandle, Handler.handlePayload]
  split
  case h_6 => exact dataIssued_keepsUpdate _ _ _ _
  case h_9 => contradiction
  case h_10 => contradiction
  all_goals exact ⟨rfl, by simp, by simp⟩

end Other

theorem dataHandle_start {handler : Handler} {env : Env} {fuel : Nat} {frame : Nat → UInt8}
    (start : frame 3 = 0x1d) :
    handler.dataHandle env fuel frame = handler.updateStart env fun i => frame (6 + i) := by
  rw [Handler.dataHandle, start]
  rfl

theorem dataHandle_trans {handler : Handler} {env : Env} {fuel : Nat} {frame : Nat → UInt8}
    (trans : frame 3 = 0x1e) :
    handler.dataHandle env fuel frame =
      handler.updateTrans env (fun i => frame (6 + i)) (field16 (frame 4) (frame 5)) := by
  rw [Handler.dataHandle, trans]
  rfl

theorem mem_calls_end_iff {handler : Handler} {env : Env} {fuel : Nat} {frame : Nat → UInt8} :
    .wifiOtaEnd ∈ (handler.dataHandle env fuel frame).calls ↔
      frame 3 = 0x1e ∧ handler.ota.firmUpdateFlag = 0x1d ∧ field16 (frame 4) (frame 5) = 4 := by
  by_cases trans : frame 3 = 0x1e
  · rw [dataHandle_trans trans]
    by_cases updating : handler.ota.firmUpdateFlag = 0x1d
    · by_cases dataless : field16 (frame 4) (frame 5) = 4
      · rw [Handler.updateTrans_end updating dataless]
        simp [trans, updating, dataless]
      · by_cases short : ((field16 (frame 4) (frame 5)).toNat : Int) - 4 ≤ handler.ota.firmSize.toNat
        · rw [Handler.updateTrans_data updating dataless short]
          split <;> simp [dataless]
        · rw [Handler.updateTrans_tooLong updating short]
          simp [dataless]
    · rw [Handler.updateTrans_idle updating]
      simp [updating]
  · by_cases start : frame 3 = 0x1d
    · rw [dataHandle_start start]
      simp [Handler.updateStart, trans]
    · have other := @dataHandle_keepsUpdate handler env fuel frame start trans
      exact iff_of_false other.noEnd fun ends => trans ends.1

/-! ## Sessions -/

structure Arrival where
  env : Env
  fuel : Nat
  frame : Nat → UInt8

/-- The handler, with what a sender can tell: whether the last `UPDATE_START`
was accepted, the size it announced and the data acknowledged since. -/
structure Session where
  handler : Handler
  accepted : Bool
  announced : Nat
  acked : Nat

namespace Session

def outcome (session : Session) (arrival : Arrival) : Outcome :=
  session.handler.dataHandle arrival.env arrival.fuel arrival.frame

/-- A handler that does not return is left by a reset only. -/
def next (session : Session) (arrival : Arrival) : Handler :=
  if (session.outcome arrival).returned then (session.outcome arrival).handler
  else (session.outcome arrival).handler.restart

def step (session : Session) (arrival : Arrival) : Session :=
  if arrival.frame 3 = 0x1d then
    { handler := session.next arrival
      accepted :=
        (session.handler.ota.wifiOtaBegin arrival.env.flash
          (byteToInt fun i => arrival.frame (6 + i))).2
      announced := (byteToInt fun i => arrival.frame (6 + i)).toNat
      acked := 0 }
  else if .writeFrame 0x1e [] ∈ (session.outcome arrival).calls then
    { session with
      handler := session.next arrival
      acked := session.acked + (field16 (arrival.frame 4) (arrival.frame 5) - 4).toNat }
  else { session with handler := session.next arrival }

def start (partition : Nat → UInt8) (device : Storage.Device) : Session where
  handler := { ota := State.boot partition, otaStatus := 0, device }
  accepted := false
  announced := 0
  acked := 0

/-- `wifi_ota_end` is called only on a complete image. -/
def EndsComplete (session : Session) (arrival : Arrival) : Prop :=
  .wifiOtaEnd ∈ (session.outcome arrival).calls →
    session.accepted = true ∧ session.handler.ota.curSize = session.handler.ota.totalSize

/-- During an update, a packet without data comes only after an accepted start
and acknowledged data of the announced size. -/
def FinishesLast (session : Session) (arrival : Arrival) : Prop :=
  arrival.frame 3 = 0x1e → session.handler.ota.firmUpdateFlag = 0x1d →
    field16 (arrival.frame 4) (arrival.frame 5) = 4 →
      session.accepted = true ∧ session.acked = session.announced

/-- During an update the counters of the device are those of the sender. -/
def Tallied (session : Session) : Prop :=
  session.handler.ota.firmUpdateFlag = 0x1d →
    session.handler.ota.totalSize.toNat = session.announced ∧
      session.handler.ota.curSize.toNat = session.acked ∧ session.acked ≤ downloadLen.toNat

variable {session : Session} {arrival : Arrival}

theorem tallied_of_idle (idle : session.handler.ota.firmUpdateFlag ≠ 0x1d) : session.Tallied :=
  fun updating => absurd updating idle

theorem restart_idle (handler : Handler) : handler.restart.ota.firmUpdateFlag ≠ 0x1d := by
  change (0 : UInt8) ≠ 0x1d
  decide

theorem start_tallied (partition : Nat → UInt8) (device : Storage.Device) :
    (start partition device).Tallied := by
  apply tallied_of_idle
  change (0 : UInt8) ≠ 0x1d
  decide

/-- A stored packet leaves the counter within the partition, so that the 32-bit
sum is the sum. -/
theorem toNat_curSize_add {ops : FlashOps} {state : State} {offset : UInt32} {len : UInt16}
    (inside : state.curSize.toNat ≤ downloadLen.toNat)
    (stores : state.Stores ops offset len.toUInt32) :
    (state.curSize + len.toUInt32).toNat = state.curSize.toNat + len.toNat ∧
      state.curSize.toNat + len.toNat ≤ downloadLen.toNat := by
  have room := stores.2.2.1
  have bound := len.toNat_lt
  have limit : downloadLen.toNat = 524288 := rfl
  have sum : (state.curSize + len.toUInt32).toNat = state.curSize.toNat + len.toNat := by
    rw [UInt32.toNat_add, UInt16.toNat_toUInt32, Nat.mod_eq_of_lt]
    omega
  rw [UInt32.lt_iff_toNat_lt, sum] at room
  omega

theorem step_start (start : arrival.frame 3 = 0x1d) : (session.step arrival).Tallied := by
  have outcome := @dataHandle_start session.handler arrival.env arrival.fuel arrival.frame start
  intro _
  have counters := State.wifiOtaBegin_counters arrival.env.flash
    { session.handler.ota with
      firmSize := 512
      firmLength := byteToInt fun i => arrival.frame (6 + i)
      firmUpdateFlag := 0x1d }
    (byteToInt fun i => arrival.frame (6 + i))
  have handler : session.next arrival =
      (session.handler.updateStart arrival.env fun i => arrival.frame (6 + i)).handler := by
    rw [next, Session.outcome, outcome]
    rfl
  rw [step, if_pos start, handler]
  refine ⟨congrArg UInt32.toNat counters.1, congrArg UInt32.toNat counters.2, Nat.zero_le _⟩

theorem step_of_keepsUpdate (tallied : session.Tallied) (notStart : arrival.frame 3 ≠ 0x1d)
    (kept : KeepsUpdate session.handler (session.outcome arrival)) :
    (session.step arrival).Tallied := by
  rw [step, if_neg notStart, if_neg kept.noAck]
  by_cases returned : (session.outcome arrival).returned = true
  · have handler : session.next arrival = (session.outcome arrival).handler := if_pos returned
    intro updating
    rw [handler, kept.ota] at updating ⊢
    exact tallied updating
  · have handler : session.next arrival = (session.outcome arrival).handler.restart := if_neg returned
    apply tallied_of_idle
    rw [handler]
    exact restart_idle _

theorem step_trans (tallied : session.Tallied) (trans : arrival.frame 3 = 0x1e) :
    (session.step arrival).Tallied := by
  have notStart : arrival.frame 3 ≠ 0x1d := by
    rw [trans]
    decide
  have outcome : session.outcome arrival = _ := dataHandle_trans trans
  by_cases updating : session.handler.ota.firmUpdateFlag = 0x1d
  · obtain ⟨total, current, inside⟩ := tallied updating
    by_cases dataless : field16 (arrival.frame 4) (arrival.frame 5) = 4
    · rw [Handler.updateTrans_end updating dataless] at outcome
      apply tallied_of_idle
      simp only [step, if_neg notStart, next, outcome]
      exact restart_idle _
    · by_cases short : ((field16 (arrival.frame 4) (arrival.frame 5)).toNat : Int) - 4 ≤
          session.handler.ota.firmSize.toNat
      · rw [Handler.updateTrans_data updating dataless short] at outcome
        by_cases stores : session.handler.ota.Stores arrival.env.flash
            (byteToInt fun i => arrival.frame (6 + i))
            (field16 (arrival.frame 4) (arrival.frame 5) - 4).toUInt32
        · rw [State.wifiOtaReceive_stored stores] at outcome
          have sum := toNat_curSize_add (by omega) stores
          simp only [step, if_neg notStart, next, outcome]
          exact fun _ => ⟨total, by simpa [current] using sum.1, by simpa [current] using sum.2⟩
        · rw [State.wifiOtaReceive_refused stores] at outcome
          apply step_of_keepsUpdate tallied notStart
          rw [outcome]
          exact ⟨rfl, List.not_mem_nil, List.not_mem_nil⟩
      · rw [Handler.updateTrans_tooLong updating short] at outcome
        apply tallied_of_idle
        simp [step, notStart, next, outcome]
  · rw [Handler.updateTrans_idle updating] at outcome
    apply step_of_keepsUpdate tallied notStart
    rw [outcome]
    exact ⟨rfl, List.not_mem_nil, List.not_mem_nil⟩

theorem step_tallied (tallied : session.Tallied) (arrival : Arrival) :
    (session.step arrival).Tallied := by
  by_cases start : arrival.frame 3 = 0x1d
  · exact step_start start
  · by_cases trans : arrival.frame 3 = 0x1e
    · exact step_trans tallied trans
    · exact step_of_keepsUpdate tallied start (dataHandle_keepsUpdate start trans)

end Session

/-- Over any frames, the update is ended on complete images only exactly when
every packet without data that arrives during an update comes after an
accepted start and acknowledged data of the announced size. -/
theorem ends_complete_iff_finishes_last (partition : Nat → UInt8) (device : Storage.Device)
    (arrivals : List Arrival) :
    EachStep Session.step Session.EndsComplete (Session.start partition device) arrivals ↔
      EachStep Session.step Session.FinishesLast (Session.start partition device) arrivals := by
  apply eachStep_congr Session.Tallied
  · exact Session.start_tallied partition device
  · exact fun session arrival tallied => Session.step_tallied tallied arrival
  · intro session arrival tallied
    have ends := @mem_calls_end_iff session.handler arrival.env arrival.fuel arrival.frame
    rw [Session.EndsComplete, Session.FinishesLast, Session.outcome]
    rw [ends]
    constructor
    · intro complete trans updating dataless
      obtain ⟨total, current, _⟩ := tallied updating
      obtain ⟨accepted, same⟩ := complete ⟨trans, updating, dataless⟩
      exact ⟨accepted, by rw [← current, ← total, same]⟩
    · intro finishes ended
      obtain ⟨trans, updating, dataless⟩ := ended
      obtain ⟨total, current, _⟩ := tallied updating
      obtain ⟨accepted, same⟩ := finishes trans updating dataless
      exact ⟨accepted, UInt32.toNat_inj.mp (by rw [current, total, same])⟩

def startOfThousand : List UInt8 := encodeFrame 0x1d 0 [0, 0, 0x03, 0xe8]

def emptyPacket : List UInt8 := encodeFrame 0x1e 0 [0, 0, 0, 0]

/-- A packet without data right after the start ends the update with nothing
received. -/
theorem update_ended_empty :
    ¬EachStep Session.step Session.EndsComplete
      (Session.start (fun _ => 0xff) ⟨⟨Storage.loadSettings fun _ => 0, 0, 0, 0⟩, fun _ => 0⟩)
      [⟨⟨⟨true, true, fun _ => 0xff, true⟩, 0⟩, 0, byteAt startOfThousand⟩,
        ⟨⟨⟨true, true, fun _ => 0xff, true⟩, 0⟩, 0, byteAt emptyPacket⟩] := by
  intro holds
  have complete := holds 1 _ rfl (mem_calls_end_iff.mpr ⟨by decide, by decide, by decide⟩)
  exact absurd complete.2 (by decide)

end SyrFilter.Ota
