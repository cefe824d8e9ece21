import SyrFilter.Ota.Completion

namespace SyrFilter.Ota

open SyrFilter.Lib SyrFilter.Uart

/-! # Packets after a start that failed

`wifi_ota_begin` sets the size, the counter and the partition pointer before it
finds out whether it can go on, and tells nobody when it cannot.  The caller
has set `firm_update_flag` by then, so the packets that follow are taken as if
the start had succeeded.
-/

/-- The handler, and whether the last `UPDATE_START` failed. -/
structure Attempt where
  handler : Handler
  failed : Bool

namespace Attempt

variable {attempt : Attempt} {arrival : Arrival}

def outcome (attempt : Attempt) (arrival : Arrival) : Outcome :=
  attempt.handler.dataHandle arrival.env arrival.fuel arrival.frame

/-- A handler that does not return is left by a reset only. -/
def next (attempt : Attempt) (arrival : Arrival) : Handler :=
  if (attempt.outcome arrival).returned then (attempt.outcome arrival).handler
  else (attempt.outcome arrival).handler.restart

/-- The size an `UPDATE_START` announces. -/
def announced (arrival : Arrival) : UInt32 := byteToInt fun i => arrival.frame (6 + i)

/-- The partition is there, the announced size is neither zero nor too large, and the erase works. -/
def starts (attempt : Attempt) (arrival : Arrival) : Bool :=
  (attempt.handler.ota.wifiOtaBegin arrival.env.flash (announced arrival)).2 && announced arrival != 0

def step (attempt : Attempt) (arrival : Arrival) : Attempt where
  handler := attempt.next arrival
  failed := if arrival.frame 3 = 0x1d then !attempt.starts arrival else attempt.failed

/-- `wifi_ota_receive` gets as far as the write and the division behind it. -/
def Receives (attempt : Attempt) (arrival : Arrival) : Prop :=
  attempt.handler.ota.firmUpdateFlag = 0x1d ∧ field16 (arrival.frame 4) (arrival.frame 5) ≠ 4 ∧
    ((field16 (arrival.frame 4) (arrival.frame 5)).toNat : Int) - 4 ≤ attempt.handler.ota.firmSize.toNat ∧
    attempt.handler.ota.Stores arrival.env.flash (announced arrival)
      (field16 (arrival.frame 4) (arrival.frame 5) - 4).toUInt32

/-- The packet is not stored, not acknowledged and not counted, and nothing is divided by zero. -/
structure Ignored (attempt : Attempt) (arrival : Arrival) : Prop where
  partition : (attempt.outcome arrival).handler.ota.partition = attempt.handler.ota.partition
  noAck : .writeFrame 0x1e [] ∉ (attempt.outcome arrival).calls
  curSize : (attempt.outcome arrival).handler.ota.curSize = attempt.handler.ota.curSize
  divides : ¬(attempt.Receives arrival ∧ attempt.handler.ota.totalSize = 0)

/-- A failed start is inert. -/
def Inert (attempt : Attempt) (arrival : Arrival) : Prop :=
  attempt.failed = true → arrival.frame 3 = 0x1e → attempt.Ignored arrival

/-- After a failed start with the partition found, no packet comes that has data, not more of it
than a packet may have, and offset 0, and is taken by the flash. -/
def NothingToStore (attempt : Attempt) (arrival : Arrival) : Prop :=
  attempt.failed = true → arrival.frame 3 = 0x1e →
    ¬(attempt.handler.ota.firmUpdateFlag = 0x1d ∧ attempt.handler.ota.dlPart = true ∧
      field16 (arrival.frame 4) (arrival.frame 5) ≠ 4 ∧
      (field16 (arrival.frame 4) (arrival.frame 5)).toNat ≤ 516 ∧
      announced arrival = 0 ∧ arrival.env.flash.written = true)

/-- What a failed start leaves behind, as long as its packets are ignored. -/
def Untouched (attempt : Attempt) : Prop :=
  attempt.failed = true → attempt.handler.ota.firmUpdateFlag = 0x1d →
    attempt.handler.ota.curSize = 0 ∧ attempt.handler.ota.firmSize = 512

theorem receives_iff (untouched : attempt.Untouched) (failed : attempt.failed = true) :
    attempt.Receives arrival ↔
      attempt.handler.ota.firmUpdateFlag = 0x1d ∧ attempt.handler.ota.dlPart = true ∧
        field16 (arrival.frame 4) (arrival.frame 5) ≠ 4 ∧
        (field16 (arrival.frame 4) (arrival.frame 5)).toNat ≤ 516 ∧
        announced arrival = 0 ∧ arrival.env.flash.written = true := by
  have bound := (field16 (arrival.frame 4) (arrival.frame 5) - 4).toNat_lt
  have limit : downloadLen.toNat = 524288 := rfl
  rw [Receives, State.Stores]
  constructor
  · rintro ⟨updating, data, short, continues, there, -, taken⟩
    obtain ⟨current, size⟩ := untouched failed updating
    have limit : attempt.handler.ota.firmSize.toNat = 512 := by
      rw [size]
      rfl
    refine ⟨updating, there, data, by omega, ?_, taken⟩
    rw [← continues, current]
  · rintro ⟨updating, there, data, short, first, taken⟩
    obtain ⟨current, size⟩ := untouched failed updating
    have limit : attempt.handler.ota.firmSize.toNat = 512 := by
      rw [size]
      rfl
    refine ⟨updating, data, by omega, by rw [current, first], there, ?_, taken⟩
    rw [current, UInt32.lt_iff_toNat_lt, UInt32.toNat_add, UInt16.toNat_toUInt32]
    change ¬524288 < (0 + _) % 4294967296
    omega

theorem outcome_trans (trans : arrival.frame 3 = 0x1e) :
    attempt.outcome arrival =
      attempt.handler.updateTrans arrival.env (fun i => arrival.frame (6 + i))
        (field16 (arrival.frame 4) (arrival.frame 5)) := dataHandle_trans trans

theorem ack_of_receives (trans : arrival.frame 3 = 0x1e) (receives : attempt.Receives arrival) :
    .writeFrame 0x1e [] ∈ (attempt.outcome arrival).calls := by
  obtain ⟨updating, data, short, stores⟩ := receives
  rw [outcome_trans trans, Handler.updateTrans_data updating data short, ← announced,
    State.wifiOtaReceive_stored stores]
  exact List.mem_singleton_self _

/-- Where a packet is not received, the update is where it was, or not under way any more. -/
structure Left (before : Handler) (outcome : Outcome) : Prop where
  noAck : .writeFrame 0x1e [] ∉ outcome.calls
  ota : outcome.handler.ota = before.ota ∨
    outcome.handler.ota = { before.ota with firmUpdateFlag := 0 }

theorem left_of_not_receives (trans : arrival.frame 3 = 0x1e) (drops : ¬attempt.Receives arrival) :
    Left attempt.handler (attempt.outcome arrival) := by
  rw [outcome_trans trans]
  by_cases updating : attempt.handler.ota.firmUpdateFlag = 0x1d
  · by_cases data : field16 (arrival.frame 4) (arrival.frame 5) = 4
    · rw [Handler.updateTrans_end updating data]
      exact ⟨by simp, .inl rfl⟩
    · by_cases short : ((field16 (arrival.frame 4) (arrival.frame 5)).toNat : Int) - 4 ≤
          attempt.handler.ota.firmSize.toNat
      · have refused : ¬attempt.handler.ota.Stores arrival.env.flash (announced arrival)
            (field16 (arrival.frame 4) (arrival.frame 5) - 4).toUInt32 :=
          fun stores => drops ⟨updating, data, short, stores⟩
        rw [Handler.updateTrans_data updating data short, ← announced, State.wifiOtaReceive_refused refused]
        exact ⟨List.not_mem_nil, .inl rfl⟩
      · rw [Handler.updateTrans_tooLong updating short]
        exact ⟨List.not_mem_nil, .inr rfl⟩
  · rw [Handler.updateTrans_idle updating]
    exact ⟨List.not_mem_nil, .inl rfl⟩

theorem inert_iff (untouched : attempt.Untouched) (arrival : Arrival) :
    attempt.Inert arrival ↔ attempt.NothingToStore arrival := by
  refine forall_congr' fun failed => forall_congr' fun trans => ?_
  rw [← receives_iff untouched failed]
  constructor
  · intro ignored receives
    exact ignored.noAck (ack_of_receives trans receives)
  · intro drops
    have left := left_of_not_receives trans drops
    rcases left.ota with same | idle
    · exact ⟨by rw [same], left.noAck, by rw [same], fun divides => drops divides.1⟩
    · exact ⟨by rw [idle], left.noAck, by rw [idle], fun divides => drops divides.1⟩

/-! ## Frames in between -/

theorem untouched_of_idle (idle : attempt.handler.ota.firmUpdateFlag ≠ 0x1d) : attempt.Untouched :=
  fun _ updating => absurd updating idle

theorem Untouched.of_ota {after : Attempt} (untouched : attempt.Untouched)
    (failed : after.failed = attempt.failed) (ota : after.handler.ota = attempt.handler.ota) :
    after.Untouched := by
  rw [Untouched, failed, ota]
  exact untouched

/-- A reset leaves no update under way; otherwise the outcome's handler goes on. -/
theorem next_cases (attempt : Attempt) (arrival : Arrival) :
    attempt.next arrival = (attempt.outcome arrival).handler ∨
      (attempt.next arrival).ota.firmUpdateFlag ≠ 0x1d := by
  rw [next]
  split
  · exact .inl rfl
  · exact .inr (Session.restart_idle _)

theorem step_failed (notStart : arrival.frame 3 ≠ 0x1d) :
    (attempt.step arrival).failed = attempt.failed := if_neg notStart

theorem wifiOtaBegin_firmSize (ops : FlashOps) (state : State) (fileSize : UInt32) :
    (state.wifiOtaBegin ops fileSize).1.firmSize = state.firmSize := by
  rw [State.wifiOtaBegin]
  dsimp only
  split
  · rfl
  · split <;> rfl

theorem step_start_untouched (start : arrival.frame 3 = 0x1d) : (attempt.step arrival).Untouched := by
  have outcome : attempt.outcome arrival = _ := dataHandle_start start
  have handler : (attempt.step arrival).handler =
      (attempt.handler.updateStart arrival.env fun i => arrival.frame (6 + i)).handler := by
    change attempt.next arrival = _
    rw [next, outcome]
    rfl
  intro _ _
  rw [handler]
  exact ⟨(State.wifiOtaBegin_counters _ _ _).2, wifiOtaBegin_firmSize _ _ _⟩

theorem step_untouched (untouched : attempt.Untouched) (nothing : attempt.NothingToStore arrival) :
    (attempt.step arrival).Untouched := by
  by_cases start : arrival.frame 3 = 0x1d
  · exact step_start_untouched start
  rcases attempt.next_cases arrival with goes | idle
  · by_cases trans : arrival.frame 3 = 0x1e
    · intro failed
      rw [step_failed start] at failed
      have drops : ¬attempt.Receives arrival := by
        rw [receives_iff untouched failed]
        exact nothing failed trans
      have handler : (attempt.step arrival).handler = (attempt.outcome arrival).handler := goes
      rw [handler]
      rcases (left_of_not_receives trans drops).ota with same | stopped
      · rw [same]
        exact untouched failed
      · rw [stopped]
        exact fun updating => absurd updating (by decide : (0 : UInt8) ≠ 0x1d)
    · have kept := @dataHandle_keepsUpdate attempt.handler arrival.env arrival.fuel arrival.frame start trans
      exact untouched.of_ota (step_failed start) ((congrArg Handler.ota goes).trans kept.ota)
  · exact untouched_of_idle idle

end Attempt

/-- Over any frames a start that failed stays without effect, until one succeeds, exactly when no
packet comes that finds the counter where the failed start has put it and has something to store
there. -/
theorem failed_start_inert_iff (handler : Handler) (arrivals : List Arrival) :
    EachStep Attempt.step Attempt.Inert { handler, failed := false } arrivals ↔
      EachStep Attempt.step Attempt.NothingToStore { handler, failed := false } arrivals := by
  have fresh : Attempt.Untouched { handler, failed := false } := fun failed => nomatch failed
  apply eachStep_iff_of_allowed Attempt.Untouched fresh
  · exact fun attempt arrival untouched nothing => Attempt.step_untouched untouched nothing
  · exact fun attempt arrival untouched => Attempt.inert_iff untouched arrival

/-- An announced megabyte is twice the partition. -/
def startOfMegabyte : List UInt8 := encodeFrame 0x1d 0 [0, 0x10, 0, 0]

def firstPacket : List UInt8 := encodeFrame 0x1e 0 [0, 0, 0, 0, 0x77]

def working : Env := ⟨⟨true, true, fun _ => 0xff, true⟩, 0⟩

/-- A device at its start, after the start of a megabyte. -/
def failedAttempt : Attempt :=
  Attempt.step
    { handler := (Session.start (fun _ => 0xff) ⟨⟨Storage.loadSettings fun _ => 0, 0, 0, 0⟩, fun _ => 0⟩).handler
      failed := false }
    ⟨working, 0, byteAt startOfMegabyte⟩

/-- The packet behind it is stored, counted and acknowledged. -/
theorem packet_stored_after_failed_start :
    failedAttempt.failed = true ∧
      .writeFrame 0x1e [] ∈ (failedAttempt.outcome ⟨working, 0, byteAt firstPacket⟩).calls ∧
      (failedAttempt.outcome ⟨working, 0, byteAt firstPacket⟩).handler.ota.curSize = 1 ∧
      (failedAttempt.outcome ⟨working, 0, byteAt firstPacket⟩).handler.ota.partition 0 = 0x77 ∧
      ¬EachStep Attempt.step Attempt.Inert
        { handler := (Session.start (fun _ => 0xff)
            ⟨⟨Storage.loadSettings fun _ => 0, 0, 0, 0⟩, fun _ => 0⟩).handler
          failed := false }
        [⟨working, 0, byteAt startOfMegabyte⟩, ⟨working, 0, byteAt firstPacket⟩] := by
  have failed : failedAttempt.failed = true := by decide
  have acked : .writeFrame 0x1e [] ∈ (failedAttempt.outcome ⟨working, 0, byteAt firstPacket⟩).calls := by
    decide
  refine ⟨failed, acked, by decide, by decide, fun inert => ?_⟩
  have ignored := inert 1 _ rfl failed (by decide)
  exact ignored.noAck acked

end SyrFilter.Ota
