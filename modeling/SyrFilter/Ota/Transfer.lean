import SyrFilter.Ota.Completion

namespace SyrFilter.Ota

open SyrFilter.Lib SyrFilter.Uart

/-! # Transfer over a bad link

Packets may be lost, repeated and reordered.  A packet is stored only when its
offset is the number of bytes stored so far, and this keeps the partition a
prefix of the image.
-/

/-- A packet of an image as it reaches `data_handle`. -/
structure Packet (image : List UInt8) where
  env : Env
  fuel : Nat
  frame : Nat → UInt8
  frVer : UInt8
  offset : Nat
  len : Nat
  nonempty : 1 ≤ len
  small : len ≤ 512
  inside : offset + len ≤ image.length
  carries : Carries frame
    (encodeFrame 0x1e frVer (intToByte (UInt32.ofNat offset) ++ (image.drop offset).take len))

variable {image : List UInt8}

def Packet.outcome (packet : Packet image) (handler : Handler) : Outcome :=
  handler.dataHandle packet.env packet.fuel packet.frame

def transferStep (handler : Handler) (packet : Packet image) : Handler :=
  (packet.outcome handler).handler

/-- What has been received is the front of the image, and the progress shown is
that of the bytes received. -/
structure Received (image : List UInt8) (handler : Handler) : Prop where
  front : ∀ i < handler.ota.curSize.toNat, handler.ota.partition i = byteAt image i
  inside : handler.ota.curSize.toNat ≤ image.length
  progress : 0 < handler.ota.curSize.toNat →
    handler.ota.stProgress.toNat = 100 * handler.ota.curSize.toNat / image.length

/-- A packet is acknowledged and stored, or neither. -/
def StoredIffAcked (handler : Handler) (packet : Packet image) : Prop :=
  (.writeFrame 0x1e [] ∈ (packet.outcome handler).calls ∧
      handler.ota.curSize.toNat = packet.offset ∧
      (transferStep handler packet).ota.curSize.toNat = packet.offset + packet.len ∧
      ∀ i, (transferStep handler packet).ota.partition i =
        if packet.offset ≤ i ∧ i < packet.offset + packet.len then byteAt image i
        else handler.ota.partition i) ∨
    (.writeFrame 0x1e [] ∉ (packet.outcome handler).calls ∧
      (transferStep handler packet).ota.curSize = handler.ota.curSize ∧
      (transferStep handler packet).ota.partition = handler.ota.partition)

/-- An update of the image is under way. -/
structure Transferring (image : List UInt8) (handler : Handler) : Prop where
  updating : handler.ota.firmUpdateFlag = 0x1d
  firmSize : handler.ota.firmSize = 512
  totalSize : handler.ota.totalSize.toNat = image.length
  there : handler.ota.dlPart = true
  received : Received image handler

namespace Packet

variable (packet : Packet image)

theorem payload_length :
    (intToByte (UInt32.ofNat packet.offset) ++ (image.drop packet.offset).take packet.len).length =
      4 + packet.len := by
  have inside := packet.inside
  simp [intToByte]
  omega

theorem totalLen :
    (field16 (packet.frame 4) (packet.frame 5)).toNat = 4 + packet.len := by
  have small := packet.small
  have length := packet.payload_length
  rw [toNat_field16, packet.carries.length (by omega), length]

theorem position :
    byteToInt (fun i => packet.frame (6 + i)) = UInt32.ofNat packet.offset := by
  have length := packet.payload_length
  apply byteToInt_of_intToByte
  simp only [packet.carries.payload (by omega : 0 < _), packet.carries.payload (by omega : 1 < _),
    packet.carries.payload (by omega : 2 < _), packet.carries.payload (by omega : 3 < _)]
  rfl

theorem data {i : Nat} (below : i < packet.len) :
    packet.frame (6 + (4 + i)) = byteAt image (packet.offset + i) := by
  have length := packet.payload_length
  have inside := packet.inside
  rw [packet.carries.payload (by omega)]
  simp [byteAt, intToByte, Nat.add_comm 4 i, below, List.getElem?_drop]

theorem dataLen :
    (field16 (packet.frame 4) (packet.frame 5) - 4).toNat = packet.len := by
  have total := packet.totalLen
  have four : (4 : UInt16) ≤ field16 (packet.frame 4) (packet.frame 5) := by
    rw [UInt16.le_iff_toNat_le, total]
    exact Nat.le_add_right 4 packet.len
  rw [UInt16.toNat_sub_of_le _ _ four, total]
  exact Nat.add_sub_cancel_left 4 packet.len

theorem outcome_eq {handler : Handler} (updating : handler.ota.firmUpdateFlag = 0x1d)
    (firmSize : handler.ota.firmSize = 512) :
    packet.outcome handler =
      { handler :=
          { handler with
            ota :=
              (handler.ota.wifiOtaReceive packet.env.flash (fun i => packet.frame (6 + (4 + i)))
                (UInt32.ofNat packet.offset)
                (field16 (packet.frame 4) (packet.frame 5) - 4).toUInt32).1 }
        calls :=
          if (handler.ota.wifiOtaReceive packet.env.flash (fun i => packet.frame (6 + (4 + i)))
              (UInt32.ofNat packet.offset)
              (field16 (packet.frame 4) (packet.frame 5) - 4).toUInt32).2
          then [.writeFrame 0x1e []] else []
        returned := true } := by
  have total := packet.totalLen
  have nonempty := packet.nonempty
  have small := packet.small
  have hasData : field16 (packet.frame 4) (packet.frame 5) ≠ 4 := by
    intro none
    rw [none] at total
    have four : (4 : UInt16).toNat = 4 := rfl
    omega
  have short : ((field16 (packet.frame 4) (packet.frame 5)).toNat : Int) - 4 ≤
      handler.ota.firmSize.toNat := by
    have size : (512 : UInt16).toNat = 512 := rfl
    rw [firmSize, total, size]
    omega
  rw [outcome, dataHandle_trans packet.carries.frType,
    Handler.updateTrans_data updating hasData short, packet.position]

end Packet

theorem toNat_progress {current total : UInt32} {size : Nat} (totalSize : total.toNat = size)
    (inside : current.toNat ≤ size) (fits : size ≤ downloadLen.toNat) :
    (current * 100 / total).toUInt8.toNat = 100 * current.toNat / size := by
  have limit : downloadLen.toNat = 524288 := rfl
  have hundred : (100 : UInt32).toNat = 100 := rfl
  have product : (current * 100).toNat = 100 * current.toNat := by
    rw [UInt32.toNat_mul, hundred, Nat.mod_eq_of_lt (by omega), Nat.mul_comm]
  have quotient : 100 * current.toNat / size ≤ 100 := by
    apply Nat.div_le_of_le_mul
    rw [Nat.mul_comm size]
    exact Nat.mul_le_mul_left 100 inside
  rw [UInt32.toNat_toUInt8, UInt32.toNat_div, product, totalSize]
  exact Nat.mod_eq_of_lt (Nat.lt_of_le_of_lt quotient (by decide))

section Step

variable {handler : Handler} {packet : Packet image}

/-- A stored packet continues what is there with its part of the image. -/
theorem Transferring.stored (transferring : Transferring image handler)
    (fits : image.length ≤ downloadLen.toNat)
    (stores : handler.ota.Stores packet.env.flash (UInt32.ofNat packet.offset)
      (field16 (packet.frame 4) (packet.frame 5) - 4).toUInt32) :
    handler.ota.curSize.toNat = packet.offset ∧
      (transferStep handler packet).ota.curSize.toNat = packet.offset + packet.len ∧
      ∀ i, (transferStep handler packet).ota.partition i =
        if packet.offset ≤ i ∧ i < packet.offset + packet.len then byteAt image i
        else handler.ota.partition i := by
  have outcome := packet.outcome_eq transferring.updating transferring.firmSize
  rw [State.wifiOtaReceive_stored stores] at outcome
  have inside := packet.inside
  have limit : downloadLen.toNat = 524288 := rfl
  have offset : handler.ota.curSize.toNat = packet.offset := by
    rw [stores.1, UInt32.toNat_ofNat']
    exact Nat.mod_eq_of_lt (by omega)
  obtain ⟨sum, _⟩ := Session.toNat_curSize_add (transferring.received.inside.trans fits) stores
  rw [packet.dataLen, offset] at sum
  refine ⟨offset, ?_, fun i => ?_⟩
  · rw [transferStep, outcome]
    exact sum
  · rw [transferStep, outcome]
    dsimp only
    rw [store, offset, UInt16.toNat_toUInt32, packet.dataLen]
    split
    · rename_i within
      rw [packet.data (by omega)]
      congr 1
      omega
    · rfl

theorem Transferring.step_stored (transferring : Transferring image handler)
    (fits : image.length ≤ downloadLen.toNat)
    (stores : handler.ota.Stores packet.env.flash (UInt32.ofNat packet.offset)
      (field16 (packet.frame 4) (packet.frame 5) - 4).toUInt32) :
    Transferring image (transferStep handler packet) ∧ StoredIffAcked handler packet := by
  obtain ⟨offset, current, partition⟩ := transferring.stored fits stores
  have outcome := packet.outcome_eq transferring.updating transferring.firmSize
  rw [State.wifiOtaReceive_stored stores] at outcome
  have inside := packet.inside
  have received : Received image (transferStep handler packet) := by
    refine ⟨fun i below => ?_, by omega, fun _ => ?_⟩
    · rw [current] at below
      rw [partition i]
      split
      · rfl
      · exact transferring.received.front i (by omega)
    · have reached : (handler.ota.curSize +
          (field16 (packet.frame 4) (packet.frame 5) - 4).toUInt32).toNat ≤ image.length := by
        rw [transferStep, outcome] at current
        exact current.trans_le inside
      rw [transferStep, outcome]
      exact toNat_progress transferring.totalSize reached fits
  refine ⟨⟨?_, ?_, ?_, ?_, received⟩, .inl ⟨?_, offset, current, partition⟩⟩
  · rw [transferStep, outcome]
    exact transferring.updating
  · rw [transferStep, outcome]
    exact transferring.firmSize
  · rw [transferStep, outcome]
    exact transferring.totalSize
  · rw [transferStep, outcome]
    exact transferring.there
  · rw [outcome]
    exact List.mem_singleton.mpr rfl

theorem Transferring.step (transferring : Transferring image handler)
    (fits : image.length ≤ downloadLen.toNat) (packet : Packet image) :
    Transferring image (transferStep handler packet) ∧ StoredIffAcked handler packet := by
  by_cases stores : handler.ota.Stores packet.env.flash (UInt32.ofNat packet.offset)
      (field16 (packet.frame 4) (packet.frame 5) - 4).toUInt32
  · exact transferring.step_stored fits stores
  · have outcome := packet.outcome_eq transferring.updating transferring.firmSize
    rw [State.wifiOtaReceive_refused stores] at outcome
    have same : transferStep handler packet = handler := by rw [transferStep, outcome]
    refine ⟨by rw [same]; exact transferring, .inr ⟨?_, by rw [same], by rw [same]⟩⟩
    rw [outcome]
    exact List.not_mem_nil

end Step

section Start

variable {handler : Handler} {env : Env} {fuel : Nat} {frame : Nat → UInt8} {frVer : UInt8}

theorem ota_of_start (fits : image.length ≤ downloadLen.toNat)
    (carries : Carries frame (encodeFrame 0x1d frVer (intToByte (UInt32.ofNat image.length))))
    (accepted : (handler.ota.wifiOtaBegin env.flash (UInt32.ofNat image.length)).2 = true) :
    (handler.dataHandle env fuel frame).handler.ota =
      { handler.ota with
        firmSize := 512
        firmLength := UInt32.ofNat image.length
        firmUpdateFlag := 0x1d
        totalSize := UInt32.ofNat image.length
        curSize := 0
        dlPart := true
        partition := env.flash.afterErase } := by
  have limit : downloadLen.toNat = 524288 := rfl
  have length : (intToByte (UInt32.ofNat image.length)).length = 4 := rfl
  have announced : byteToInt (fun i => frame (6 + i)) = UInt32.ofNat image.length := by
    apply byteToInt_of_intToByte
    simp only [carries.payload (by omega : 0 < _), carries.payload (by omega : 1 < _),
      carries.payload (by omega : 2 < _), carries.payload (by omega : 3 < _)]
    rfl
  have small : ¬downloadLen < UInt32.ofNat image.length := by
    rw [UInt32.lt_iff_toNat_lt, UInt32.toNat_ofNat', Nat.mod_eq_of_lt (by omega)]
    omega
  have found : env.flash.found = true := by
    by_contra missing
    rw [State.wifiOtaBegin, if_pos (by simpa using missing)] at accepted
    cases accepted
  rw [dataHandle_start carries.frType, Handler.updateStart, announced]
  simp [State.wifiOtaBegin, found, small]

theorem transferring_of_start (fits : image.length ≤ downloadLen.toNat)
    (carries : Carries frame (encodeFrame 0x1d frVer (intToByte (UInt32.ofNat image.length))))
    (accepted : (handler.ota.wifiOtaBegin env.flash (UInt32.ofNat image.length)).2 = true) :
    Transferring image (handler.dataHandle env fuel frame).handler := by
  have begun := @ota_of_start image handler env fuel frame frVer fits carries accepted
  have limit : downloadLen.toNat = 524288 := rfl
  have size : (UInt32.ofNat image.length).toNat = image.length := by
    rw [UInt32.toNat_ofNat']
    exact Nat.mod_eq_of_lt (by omega)
  have none : (handler.dataHandle env fuel frame).handler.ota.curSize.toNat = 0 := by
    rw [begun]
    rfl
  refine ⟨by rw [begun], by rw [begun], by rw [begun]; exact size, by rw [begun], ?_, ?_, ?_⟩
  · intro i below
    omega
  · omega
  · intro some
    omega

end Start

/-- After an accepted start, whatever packets of the image arrive and in
whatever order: the partition holds the front of the image, the progress is
that of the bytes received, and a packet is acknowledged exactly when it is
stored. -/
theorem transfer_tolerates_bad_link {handler : Handler} {env : Env} {fuel : Nat}
    {frame : Nat → UInt8} {frVer : UInt8} (fits : image.length ≤ downloadLen.toNat)
    (carries : Carries frame (encodeFrame 0x1d frVer (intToByte (UInt32.ofNat image.length))))
    (accepted : (handler.ota.wifiOtaBegin env.flash (UInt32.ofNat image.length)).2 = true)
    (packets : List (Packet image)) :
    Throughout transferStep (Received image) (handler.dataHandle env fuel frame).handler packets ∧
      EachStep transferStep StoredIffAcked (handler.dataHandle env fuel frame).handler packets := by
  have initial : Transferring image (handler.dataHandle env fuel frame).handler :=
    transferring_of_start fits carries accepted
  have throughout : Throughout transferStep (Transferring image)
      (handler.dataHandle env fuel frame).handler packets :=
    throughout_of_step initial fun _ packet transferring => (transferring.step fits packet).1
  refine ⟨fun count => (throughout count).received, fun count packet found => ?_⟩
  exact ((throughout count).step fits packet).2

def smallImage : List UInt8 := [0xa5, 0x5a, 0x3c, 0xc3, 0x0f]

/-- The packets of two bytes each, the last of them with one. -/
def smallPacket (number : Fin 3) : Packet smallImage where
  env := ⟨⟨true, true, fun _ => 0xff, true⟩, 0⟩
  fuel := 0
  frame :=
    byteAt
      (encodeFrame 0x1e 0
        (intToByte (UInt32.ofNat (2 * number)) ++ (smallImage.drop (2 * number)).take (min 2 (5 - 2 * number))))
  frVer := 0
  offset := 2 * number
  len := min 2 (5 - 2 * number)
  nonempty := by omega
  small := by omega
  inside := by
    have length : smallImage.length = 5 := rfl
    omega
  carries := by
    revert number
    decide

/-- A device that has accepted the start gets the last packet too early, the first
twice, and the last again before the lost second one comes. -/
theorem small_image_over_bad_link :
    let begun := (Handler.dataHandle
      ⟨State.boot fun _ => 0xff, 0, ⟨⟨Storage.loadSettings fun _ => 0, 0, 0, 0⟩, fun _ => 0⟩⟩
      ⟨⟨true, true, fun _ => 0xff, true⟩, 0⟩ 0 (byteAt (encodeFrame 0x1d 0 [0, 0, 0, 5]))).handler
    let packets := [2, 0, 0, 2, 1, 0, 2].map smallPacket
    Throughout transferStep (Received smallImage) begun packets ∧
      EachStep transferStep StoredIffAcked begun packets ∧
      (run transferStep begun packets).ota.curSize = 5 := by
  intro begun packets
  have carries : Carries (byteAt (encodeFrame 0x1d 0 [0, 0, 0, 5]))
      (encodeFrame 0x1d 0 (intToByte (UInt32.ofNat smallImage.length))) := by decide
  have tolerated : Throughout transferStep (Received smallImage) begun packets ∧
      EachStep transferStep StoredIffAcked begun packets :=
    transfer_tolerates_bad_link (by decide) carries (by decide) packets
  exact ⟨tolerated.1, tolerated.2, by decide +kernel⟩

end SyrFilter.Ota
