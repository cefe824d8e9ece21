import SyrFilter.Uart.Isolation

namespace SyrFilter.Uart

open SyrFilter.Lib

/-! # Bytes behind the frame change what is done

The converse of own bytes sufficing: where `data_handle` looks behind the
frame, two contents of the buffer are handled differently.  One case stays
open.  A cut off length whose every completion takes the 16-bit index of the
loop back into the payload is read from behind the frame, but the records it
leads to may happen to be alike.
-/

section Loop

variable (env : Env) (last : Nat) (body : List UInt8)

/-- The loop comes to a record whose length lacks its low byte, and whatever
that byte is, it then goes back into the payload. -/
def CutLengthWraps : Prop :=
  ∃ i, Walks (byteAt body) (UInt16.ofNat last) i ∧ i.toNat + 2 = last ∧
    (byteAt body last).toNat < 255 ∧ 65536 ≤ i.toNat + 4 + (byteAt body last).toNat * 256

/-- The loop from an index on does the same whatever lies behind the frame. -/
def IsolatedFrom (i : UInt16) (handler : Handler) : Prop :=
  ∀ (fuel : Nat) (rest rest' : Nat → UInt8), (∀ j ≤ last, rest j = byteAt body j) →
    (∀ j ≤ last, rest' j = byteAt body j) →
      Handler.dataIssued env rest (UInt16.ofNat last) fuel i handler =
          Handler.dataIssued env rest' (UInt16.ofNat last) fuel i handler ∧
        ∀ index, .downloadCmd index ∈
          (Handler.dataIssued env rest (UInt16.ofNat last) fuel i handler).calls →
            index < downloadCmd.length

variable {env last body} {handler : Handler} {i : UInt16}

def followedBy (last : Nat) (body : List UInt8) (stray : Nat → UInt8) : Nat → UInt8 :=
  fun j => if j ≤ last then byteAt body j else stray j

theorem followedBy_own (stray : Nat → UInt8) : ∀ j ≤ last, followedBy last body stray j = byteAt body j :=
  fun _ inside => if_pos inside

theorem followedBy_stray {stray : Nat → UInt8} {j : Nat} (behind : last < j) :
    followedBy last body stray j = stray j :=
  if_neg (by omega)

theorem eq_of_prepended {calls : List Call} {done done' : Outcome}
    (equal : ({ done with calls := calls ++ done.calls } : Outcome) =
      { done' with calls := calls ++ done'.calls }) : done = done' := by
  cases done
  cases done'
  simpa using equal

theorem IsolatedFrom.next (isolated : IsolatedFrom env last body i handler)
    (own : OwnRecord last body i.toNat) (fits : last < 65536) (inside : i < UInt16.ofNat last)
    (more : nextRecord (byteAt body) i < UInt16.ofNat last) :
    IsolatedFrom env last body (nextRecord (byteAt body) i)
      (handler.dataPointHandle env fun j => byteAt body (i.toNat + j)).handler := by
  intro fuel rest rest' agrees agrees'
  have inPayload := (toNat_lt_of_lt fits).mp inside
  have follows : ∀ pointer : Nat → UInt8, (∀ j ≤ last, pointer j = byteAt body j) →
      nextRecord pointer i = nextRecord (byteAt body) i := by
    intro pointer pointerAgrees
    rcases own.next fits pointerAgrees with same | ⟨-, done⟩
    · exact same
    · exact absurd more done
  obtain ⟨equal, inTable⟩ := isolated (fuel + 1) rest rest' agrees agrees'
  rw [dataIssued_step inside, own.dataPointHandle_eq inPayload agrees, follows rest agrees] at inTable
  rw [dataIssued_step inside, dataIssued_step inside, own.dataPointHandle_eq inPayload agrees,
    own.dataPointHandle_eq inPayload agrees', follows rest agrees, follows rest' agrees'] at equal
  constructor
  · exact eq_of_prepended equal
  · intro index member
    exact inTable index (List.mem_append_right _ member)

theorem IsolatedFrom.ends_alike (isolated : IsolatedFrom env last body i handler)
    (inside : i < UInt16.ofNat last) {rest rest' : Nat → UInt8}
    (agrees : ∀ j ≤ last, rest j = byteAt body j) (agrees' : ∀ j ≤ last, rest' j = byteAt body j)
    (more : nextRecord rest i < UInt16.ofNat last) : nextRecord rest' i < UInt16.ofNat last := by
  by_contra done
  obtain ⟨equal, -⟩ := isolated 2 rest rest' agrees agrees'
  have returned := congrArg Outcome.returned equal
  rw [dataIssued_step inside, dataIssued_step inside, dataIssued_step more, dataIssued_done done]
    at returned
  simp [Handler.dataIssued] at returned

theorem answers_value {value : Nat → UInt8} (reads : readsValue (value 0) = true)
    (typed : value 1 = 0x02) (known : getDowmloadDpidIndex (value 0) < downloadCmd.length) :
    (handler.dataPointHandle env value).calls[1]? =
      some (mcuDpValueUpdate (value 0) (byteToInt fun j => value (4 + j))) := by
  obtain ⟨op, set⟩ : ∃ op, settingOf (value 0) (byteToInt fun j => value (4 + j)) = some op :=
    Option.isSome_iff_exists.mp (isSome_settingOf _ _ ▸ reads)
  simp [Handler.dataPointHandle, downloadCmd_type _ known, typed, Handler.dpDownloadHandle, set]

theorem IsolatedFrom.known (isolated : IsolatedFrom env last body i handler)
    (inside : i < UInt16.ofNat last) :
    getDowmloadDpidIndex (byteAt body i.toNat) < downloadCmd.length := by
  obtain ⟨-, inTable⟩ := isolated 1 (byteAt body) (byteAt body) (fun _ _ => rfl) fun _ _ => rfl
  rw [dataIssued_step inside] at inTable
  apply inTable
  apply List.mem_append_left
  rw [mem_calls_dataPointHandle, Nat.add_zero]

theorem IsolatedFrom.value (isolated : IsolatedFrom env last body i handler)
    (inside : i < UInt16.ofNat last) (reads : readsValue (byteAt body i.toNat) = true)
    (typed : byteAt body (i.toNat + 1) = 0x02) (fits : last < 65536) : i.toNat + 7 ≤ last := by
  by_contra short
  have inPayload := (toNat_lt_of_lt fits).mp inside
  have answers : ∀ byte : UInt8,
      (Handler.dataIssued env (followedBy last body fun _ => byte) (UInt16.ofNat last) 1 i
        handler).calls[1]? =
          some (mcuDpValueUpdate (byteAt body i.toNat)
            (byteToInt fun j => followedBy last body (fun _ => byte) (i.toNat + (4 + j)))) := by
    intro byte
    have dpid : followedBy last body (fun _ => byte) (i.toNat + 0) = byteAt body i.toNat :=
      followedBy_own _ _ inPayload.le
    have dpType : followedBy last body (fun _ => byte) (i.toNat + 1) = 0x02 :=
      (followedBy_own _ _ (by omega)).trans typed
    have answered := @answers_value env handler
      (fun j => followedBy last body (fun _ => byte) (i.toNat + j)) (dpid ▸ reads) dpType
      (dpid ▸ isolated.known inside)
    rw [dataIssued_step inside, Handler.dataIssued, List.append_nil, answered, dpid]
  obtain ⟨equal, -⟩ := isolated 1 _ _ (followedBy_own fun _ => 0) (followedBy_own fun _ => 1)
  have answer := answers 0
  rw [equal, answers 1] at answer
  simp only [mcuDpValueUpdate, Option.some.injEq, Call.writeFrame.injEq, true_and,
    List.append_cancel_left_eq, intToByte_byteToInt, List.cons.injEq, and_true] at answer
  have lowest := answer.2.2.2
  rw [followedBy_stray (by omega), followedBy_stray (by omega)] at lowest
  exact absurd lowest (by decide)

/-- A cut off length that could end the loop or not is seen. -/
theorem IsolatedFrom.length (isolated : IsolatedFrom env last body i handler)
    (inside : i < UInt16.ofNat last) (fits : last ≤ 1200)
    (unwrapped : ¬(i.toNat + 2 = last ∧ (byteAt body last).toNat < 255 ∧
      65536 ≤ i.toNat + 4 + (byteAt body last).toNat * 256)) :
    i.toNat + 3 ≤ last ∨
      i.toNat + 2 = last ∧ i.toNat + 4 + (byteAt body last).toNat * 256 + 255 < 65536 := by
  by_contra foreign
  have below : last < 65536 := by omega
  have inPayload := (toNat_lt_of_lt below).mp inside
  have alike := fun stray stray' : Nat → UInt8 =>
    isolated.ends_alike inside (followedBy_own stray) (followedBy_own stray')
  simp only [toNat_lt_of_lt below, toNat_nextRecord] at alike
  rcases (by omega : i.toNat + 1 = last ∨ i.toNat + 2 = last) with cut | cut
  · -- Both bytes come from behind: one length stays on the record, another ends the loop.
    have ends := alike (fun j => if j = last + 1 then 0xff else 0xfc) fun _ => 0
    rw [followedBy_stray (by omega), followedBy_stray (by omega), followedBy_stray (by omega),
      followedBy_stray (by omega), if_pos (by omega), if_neg (by omega)] at ends
    simp at ends
    omega
  · have high : ∀ stray, followedBy last body stray (i.toNat + 2) = byteAt body last :=
      fun stray => cut ▸ followedBy_own stray _ le_rfl
    have low : ∀ stray : Nat → UInt8, followedBy last body stray (i.toNat + 3) = stray (i.toNat + 3) :=
      fun stray => followedBy_stray (by omega)
    have bound := (byteAt body last).toNat_lt
    simp only [high, low] at alike
    by_cases full : (byteAt body last).toNat = 255
    · have ends := alike (fun _ => 252) fun _ => 255
      simp [full] at ends
      omega
    · have ends := alike (fun _ => 255) fun _ => 0
      simp at ends
      omega

theorem IsolatedFrom.ownRecord (isolated : IsolatedFrom env last body i handler)
    (walks : Walks (byteAt body) (UInt16.ofNat last) i) (fits : last ≤ 1200)
    (unwrapped : ¬CutLengthWraps last body) : OwnRecord last body i.toNat where
  known := isolated.known walks.lt
  value := fun reads typed => isolated.value walks.lt reads typed (by omega)
  length := isolated.length walks.lt fits fun wraps => unwrapped ⟨i, walks, wraps⟩

theorem IsolatedFrom.walks (isolated : IsolatedFrom env last body 0 handler) (fits : last ≤ 1200)
    (unwrapped : ¬CutLengthWraps last body) (walks : Walks (byteAt body) (UInt16.ofNat last) i) :
    ∃ later, IsolatedFrom env last body i later := by
  induction walks with
  | start _ => exact ⟨handler, isolated⟩
  | @next i walks more ih =>
      obtain ⟨later, isolatedHere⟩ := ih
      have own := isolatedHere.ownRecord walks fits unwrapped
      exact ⟨_, isolatedHere.next own (by omega) walks.lt more⟩

end Loop

section Commands

variable {handler : Handler} {env : Env} {last : Nat} {body : List UInt8}

def HandledAlike (handler : Handler) (env : Env) (last : Nat) (body : List UInt8) (frType : UInt8) :
    Prop :=
  ∀ (fuel : Nat) (stray stray' : Nat → UInt8),
    handler.handlePayload env fuel frType (UInt16.ofNat last) (followedBy last body stray) =
      handler.handlePayload env fuel frType (UInt16.ofNat last) (followedBy last body stray')

theorem updateControl_whole (alike : HandledAlike handler env last body 0x1c) : 1 ≤ last := by
  by_contra short
  have status := congrArg (fun outcome => outcome.handler.otaStatus.toNat)
    (alike 0 (fun _ => 0) fun _ => 1)
  simp only [Handler.handlePayload, toNat_field16, followedBy_own _ 0 (Nat.zero_le last),
    @followedBy_stray last body _ 1 (by omega)] at status
  simp at status

theorem updateStart_whole (alike : HandledAlike handler env last body 0x1d) : 3 ≤ last := by
  by_contra short
  have size := congrArg (fun outcome => outcome.handler.ota.totalSize) (alike 0 (fun _ => 0) fun _ => 1)
  simp only [Handler.handlePayload, Handler.updateStart, Ota.State.wifiOtaBegin_counters] at size
  have bytes := congrArg intToByte size
  simp only [intToByte_byteToInt, List.cons.injEq, and_true,
    @followedBy_stray last body _ 3 (by omega)] at bytes
  exact absurd bytes.2.2.2 (by decide)

theorem byteToInt_followedBy {number : UInt32} {stray : Nat → UInt8}
    (own : ∀ i ≤ last, byteAt body i = byteAt (intToByte number) i)
    (completes : ∀ i < 4, last < i → stray i = byteAt (intToByte number) i) :
    byteToInt (followedBy last body stray) = number := by
  have bytes : ∀ i < 4, followedBy last body stray i = byteAt (intToByte number) i := by
    intro i below
    by_cases inside : i ≤ last
    · rw [followedBy_own stray i inside, own i inside]
    · rw [followedBy_stray (by omega), completes i below (by omega)]
  apply byteToInt_of_intToByte
  rw [bytes 0 (by decide), bytes 1 (by decide), bytes 2 (by decide), bytes 3 (by decide)]
  rfl

theorem wifiOtaReceive_alike (alike : HandledAlike handler env last body 0x1e)
    (updating : handler.ota.firmUpdateFlag = 0x1d) (short : last < 4) (stray stray' : Nat → UInt8) :
    handler.ota.wifiOtaReceive env.flash (fun i => followedBy last body stray (4 + i))
        (byteToInt (followedBy last body stray)) (UInt16.ofNat last - 4).toUInt32 =
      handler.ota.wifiOtaReceive env.flash (fun i => followedBy last body stray' (4 + i))
        (byteToInt (followedBy last body stray')) (UInt16.ofNat last - 4).toUInt32 := by
  have total : (UInt16.ofNat last).toNat = last := by
    rw [UInt16.toNat_ofNat', Nat.mod_eq_of_lt (by omega)]
  have hasData : UInt16.ofNat last ≠ 4 := by
    intro dataless
    have four : last = 4 := total.symm.trans (congrArg UInt16.toNat dataless)
    omega
  have packet : ((UInt16.ofNat last).toNat : Int) - 4 ≤ handler.ota.firmSize.toNat := by omega
  have received := alike 0 stray stray'
  simp only [Handler.handlePayload, Handler.updateTrans_data updating hasData packet,
    Outcome.mk.injEq, Handler.mk.injEq, and_true] at received
  obtain ⟨state, acknowledged⟩ := received
  apply Prod.ext state
  split at acknowledged <;> split at acknowledged <;> simp_all

theorem updateTrans_unstored (alike : HandledAlike handler env last body 0x1e)
    (updating : handler.ota.firmUpdateFlag = 0x1d) (short : last < 4) :
    ¬MayStoreStray last body handler.ota env.flash (UInt16.ofNat last) := by
  rintro ⟨own, stores⟩
  have received := wifiOtaReceive_alike alike updating short
  by_cases offset : last = 3
  · -- The data comes from behind the frame.
    have position := fun byte => @byteToInt_followedBy last body handler.ota.curSize (fun _ => byte) own
      fun i below behind => by omega
    have partition := congrArg (fun result => result.1.partition handler.ota.curSize.toNat)
      (received (fun _ => 0) fun _ => 1)
    have some : 0 < (UInt16.ofNat last - 4).toUInt32.toNat := by
      subst offset
      decide
    rw [position, position, Ota.State.wifiOtaReceive_stored stores,
      Ota.State.wifiOtaReceive_stored stores] at partition
    simp only [Ota.store, le_refl, Nat.lt_add_of_pos_right some, and_self, if_true, Nat.sub_self,
      @followedBy_stray last body _ (4 + 0) (by omega)] at partition
    exact absurd partition (by decide)
  · -- The offset does.
    let wrong : Nat → UInt8 := fun _ => byteAt (intToByte handler.ota.curSize) 3 + 1
    have position := @byteToInt_followedBy last body handler.ota.curSize _ own fun _ _ _ => rfl
    have refused : ¬handler.ota.Stores env.flash (byteToInt (followedBy last body wrong))
        (UInt16.ofNat last - 4).toUInt32 := by
      intro stored
      have lowest := congrArg (byteAt · 3) (congrArg intToByte stored.1)
      simp only [byteAt_intToByte_byteToInt (by decide : 3 < 4),
        @followedBy_stray last body wrong 3 (by omega)] at lowest
      exact absurd lowest (by simp [wrong])
    have answer := congrArg Prod.snd (received (byteAt (intToByte handler.ota.curSize)) wrong)
    rw [position, Ota.State.wifiOtaReceive_stored stores,
      Ota.State.wifiOtaReceive_refused refused] at answer
    exact Bool.noConfusion answer

end Commands

section Frames

variable {handler : Handler} {env : Env} {frType frVer : UInt8} {payload : List UInt8}

theorem readsOwn_of_isolated (fits : payload.length + protocolHead ≤ processSize)
    (unwrapped : ¬(frType = 0x0c ∧ CutLengthWraps payload.length (frameBody frType frVer payload)))
    (isolated : Isolated handler env (encodeFrame frType frVer payload)) :
    ReadsOwn payload.length (frameBody frType frVer payload) handler env frType := by
  rw [isolated_iff fits] at isolated
  have alike : HandledAlike handler env payload.length (frameBody frType frVer payload) frType :=
    fun fuel stray stray' =>
      (isolated fuel _ _ (followedBy_own stray) (followedBy_own stray')).1
  simp only [ReadsOwn]
  split
  · have whole := length_of_fits fits
    have unwrappedHere := fun wraps => unwrapped ⟨rfl, wraps⟩
    intro i walks
    obtain ⟨later, isolatedHere⟩ := IsolatedFrom.walks isolated whole unwrappedHere walks
    exact isolatedHere.ownRecord walks whole unwrappedHere
  · exact updateControl_whole alike
  · exact updateStart_whole alike
  · exact updateTrans_unstored alike
  · trivial

/-- A frame of the buffer is handled in isolation when the bytes looked at are
its own, and but for the wrapping of a cut off length only then. -/
theorem isolated_iff_reads_own_bytes (handler : Handler) (env : Env) (frType frVer : UInt8)
    (payload : List UInt8) (fits : payload.length + protocolHead ≤ processSize) :
    (ReadsOwn payload.length (frameBody frType frVer payload) handler env frType →
        Isolated handler env (encodeFrame frType frVer payload)) ∧
      (Isolated handler env (encodeFrame frType frVer payload) →
        ReadsOwn payload.length (frameBody frType frVer payload) handler env frType ∨
          frType = 0x0c ∧ CutLengthWraps payload.length (frameBody frType frVer payload)) := by
  refine ⟨isolated_of_readsOwn fits, fun isolated => ?_⟩
  by_cases wraps : frType = 0x0c ∧ CutLengthWraps payload.length (frameBody frType frVer payload)
  · exact .inr wraps
  · exact .inl (readsOwn_of_isolated fits wraps isolated)

def freshHandler : Handler :=
  ⟨Ota.State.boot fun _ => 0xff, 0, ⟨⟨Storage.loadSettings fun _ => 0, 0, 0, 0⟩, fun _ => 0⟩⟩

def workingFlash : Env := ⟨⟨true, true, fun _ => 0xff, true⟩, 0⟩

/-- An `UPDATE_CONTROL_CMD` with its two bytes, and one without any. -/
theorem updateControl_isolated_and_not :
    Isolated freshHandler workingFlash (encodeFrame 0x1c 0 [0, 1]) ∧
      ¬Isolated freshHandler workingFlash (encodeFrame 0x1c 0 []) := by
  constructor
  · exact (isolated_iff_reads_own_bytes _ _ 0x1c 0 [0, 1] (by decide)).1 (by decide : 1 ≤ 2)
  · intro isolated
    rcases (isolated_iff_reads_own_bytes _ _ 0x1c 0 [] (by decide)).2 isolated with own | ⟨issued, -⟩
    · exact absurd own (by decide : ¬1 ≤ 0)
    · exact absurd issued (by decide)

/-- Two buffers with one frame that sets the reminder time and is cut off before
the value: the device answers with what lies behind the frame. -/
theorem remindTime_read_behind_frame :
    Carries (byteAt (encodeFrame 0x0c 0 [0x06, 0x02, 0, 4])) (encodeFrame 0x0c 0 [0x06, 0x02, 0, 4]) ∧
      Carries (byteAt (encodeFrame 0x0c 0 [0x06, 0x02, 0, 4] ++ [0, 0, 7]))
        (encodeFrame 0x0c 0 [0x06, 0x02, 0, 4]) ∧
      (freshHandler.dataHandle workingFlash 2
          (byteAt (encodeFrame 0x0c 0 [0x06, 0x02, 0, 4]))).calls ≠
        (freshHandler.dataHandle workingFlash 2
          (byteAt (encodeFrame 0x0c 0 [0x06, 0x02, 0, 4] ++ [0, 0, 7]))).calls ∧
      ¬Isolated freshHandler workingFlash (encodeFrame 0x0c 0 [0x06, 0x02, 0, 4]) := by
  have differ : (freshHandler.dataHandle workingFlash 2
      (byteAt (encodeFrame 0x0c 0 [0x06, 0x02, 0, 4]))).calls ≠
        (freshHandler.dataHandle workingFlash 2
          (byteAt (encodeFrame 0x0c 0 [0x06, 0x02, 0, 4] ++ [0, 0, 7]))).calls := by
    decide
  refine ⟨by decide, by decide, differ, fun isolated => ?_⟩
  have alike := (isolated 0 2 (byteAt (encodeFrame 0x0c 0 [0x06, 0x02, 0, 4]))
    (byteAt (encodeFrame 0x0c 0 [0x06, 0x02, 0, 4] ++ [0, 0, 7])) (by decide) (by simp; decide)
    (by simp; decide)).1
  simp only [Nat.zero_add] at alike
  exact differ (congrArg Outcome.calls alike)

end Frames

end SyrFilter.Uart
