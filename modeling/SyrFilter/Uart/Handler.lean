import SyrFilter.Ota.Update
import SyrFilter.Storage.Settings
import SyrFilter.Uart.Fields
import SyrFilter.Uart.Frame

namespace SyrFilter.Uart

open SyrFilter.Lib

/-! # Frame handling

`data_handle` of `uart/uart_core.c` with the data points of `uart/system.c` and
`uart/uart_api.c`.  It reads `wifi_data_process_buf` at fixed distances from
the offset it is called with, whatever the frame there declares, and so can
read on into what lies behind the frame.
-/

inductive Call where
  | writeFrame (frType : UInt8) (payload : List UInt8)
  | setting (op : Storage.Op)
  | apTimeoutControl (state : UInt8)
  | motoSet
  | get (dpid : UInt8)
  | downloadCmd (index : Nat)
  | deviceReboot
  | productInfoUpdate
  | wifiStatusChange (state : UInt8)
  | wifiConnectStart
  | telemetryRecvHandle (command : UInt8)
  | wifiProgressUpdate (value : UInt8)
  | flashClear
  | wifiOtaEnd
deriving DecidableEq

/-- What `data_handle` cannot know: the flash driver's answers, and the byte
behind `download_cmd`. -/
structure Env where
  flash : Ota.FlashOps
  behindTable : UInt8

structure Handler where
  ota : Ota.State
  otaStatus : UInt16
  device : Storage.Device

structure Outcome where
  handler : Handler
  calls : List Call
  /-- The piece has come to its end; it does not when the device resets. -/
  returned : Bool

/-! ## Data points -/

def downloadCmd : List (UInt8 × UInt8) :=
  [0x01, 0x02, 0x03, 0x04, 0x05, 0x06, 0x07, 0x08, 0x09, 0x0a, 0x0b, 0x0c, 0x0d, 0x0e, 0x0f, 0x10,
    0x11, 0x12, 0x13, 0x14, 0x15, 0x16, 0x17, 0x18, 0x19, 0x1a, 0x1b, 0x1c, 0x1d, 0x1e, 0x1f, 0x20,
    0x21, 0x22, 0x23, 0x24, 0x26, 0x27, 0x28, 0x29, 0x2a, 0x2b, 0x2c, 0x2d, 0x2e, 0x2f, 0x30, 0x35,
    0x36, 0x32, 0x31, 0x34, 0x33].map fun dpid => (dpid, 0x02)

/-- `get_dowmload_dpid_index`: the length of the table when the id is not in it. -/
def getDowmloadDpidIndex (dpid : UInt8) : Nat := downloadCmd.findIdx fun entry => entry.1 == dpid

def mcuDpValueUpdate (dpid : UInt8) (value : UInt32) : Call :=
  .writeFrame 0x0d ([dpid, 0x02, 0, 4] ++ intToByte value)

/-- The setting operation behind a SET data point, with the value narrowed as
the parameter of its `syr_*_set` function narrows it. -/
def settingOf (dpid : UInt8) (value : UInt32) : Option Storage.Op :=
  match dpid with
  | 0x06 => some (.remindTime value)
  | 0x08 => some (.autoTime value)
  | 0x0a => some (.range value)
  | 0x0c => some (.backwashtime value.toUInt16)
  | 0x0e => some (.tdscalib value.toUInt16)
  | 0x10 => some (.tdslimit value.toUInt16)
  | 0x12 => some (.switchRemind value.toUInt8)
  | 0x14 => some (.switchAuto value.toUInt8)
  | 0x16 => some (.switchDelta value.toUInt8)
  | 0x18 => some (.language value.toUInt8)
  | 0x1d => some (.countManual value.toUInt8)
  | 0x1f => some (.countAuto value.toUInt8)
  | 0x21 => some (.countDelta value.toUInt8)
  | 0x23 => some (.countError value.toUInt8)
  | 0x26 => some (.telemetryTimeout value)
  | 0x28 => some (.reportInterval value)
  | 0x32 => some (.apTimeout value)
  | 0x34 => some (.wifiApEnable (if value.toUInt8 = 0 then 0 else 1))
  | 0x35 => some (.telemetryInterval value)
  | _ => none

/-- The data points whose callback reads the value. -/
def readsValue (dpid : UInt8) : Bool := (settingOf dpid 0).isSome

/-- The data points whose callback only answers. -/
def answersOnly (dpid : UInt8) : Bool :=
  dpid ∈ [0x02, 0x03, 0x04, 0x05, 0x07, 0x09, 0x0b, 0x0d, 0x0f, 0x11, 0x13, 0x15, 0x17, 0x19, 0x1b,
    0x1e, 0x20, 0x22, 0x24, 0x27, 0x29, 0x2a, 0x2e, 0x2f, 0x30, 0x31, 0x33, (0x36 : UInt8)]

namespace Handler

variable (handler : Handler)

/-- `dp_download_handle`.  The callbacks do not look at the length, and are taken to come back. -/
def dpDownloadHandle (dpid : UInt8) (value : Nat → UInt8) : Outcome :=
  match settingOf dpid (byteToInt value) with
  | some op =>
      { handler := { handler with device := handler.device.step op }
        calls :=
          mcuDpValueUpdate dpid (byteToInt value) ::
            if dpid = 0x34 then [.apTimeoutControl (byteToInt value).toUInt8, .setting op]
            else [.setting op]
        returned := true }
  | none =>
      { handler
        calls :=
          if dpid = 0x01 then [.motoSet, mcuDpValueUpdate dpid 0]
          else if answersOnly dpid then [.get dpid]
          else []
        returned := true }

/-- `data_point_handle` on the record at a pointer. -/
def dataPointHandle (env : Env) (value : Nat → UInt8) : Outcome :=
  let index := getDowmloadDpidIndex (value 0)
  let dpType := (downloadCmd[index]?.map Prod.snd).getD env.behindTable
  if value 1 ≠ dpType then { handler, calls := [.downloadCmd index], returned := true }
  else
    let handled := handler.dpDownloadHandle (value 0) fun i => value (4 + i)
    { handled with calls := .downloadCmd index :: handled.calls }

/-- The loop of `DATA_ISSUED_CMD` over the payload at a pointer, for at most so
many iterations. -/
def dataIssued (env : Env) (payload : Nat → UInt8) (totalLen : UInt16) :
    Nat → UInt16 → Handler → Outcome
  | 0, _, handler => { handler, calls := [], returned := false }
  | fuel + 1, i, handler =>
      if i < totalLen then
        let dpLen := field16 (payload (i.toNat + 2)) (payload (i.toNat + 3))
        let point := handler.dataPointHandle env fun j => payload (i.toNat + j)
        let rest := dataIssued env payload totalLen fuel (i + (dpLen + 4)) point.handler
        { rest with calls := point.calls ++ rest.calls }
      else { handler, calls := [], returned := true }

/-- `mcu_firm_update_handle`, and whether it returned `SUCCESS`.  `wifi_ota_end`
clears the settings and resets the device. -/
def mcuFirmUpdateHandle (env : Env) (value : Nat → UInt8) (position : UInt32) (length : UInt16) :
    Outcome × Bool :=
  if length = 0 then
    ({ handler := { handler with device := handler.device.flashClear }
       calls := [.wifiOtaEnd, .flashClear]
       returned := false },
      false)
  else
    let received := handler.ota.wifiOtaReceive env.flash value position length.toUInt32
    ({ handler := { handler with ota := received.1 }, calls := [], returned := true }, received.2)

def updateStart (env : Env) (payload : Nat → UInt8) : Outcome :=
  let firmLength := byteToInt payload
  let begun :=
    { handler.ota with firmSize := 512, firmLength, firmUpdateFlag := 0x1d }.wifiOtaBegin env.flash
      firmLength
  { handler := { handler with ota := begun.1 }, calls := [], returned := true }

/-- What `UPDATE_TRANS_CMD` makes of a packet while an update is under way. -/
def updatePacket (env : Env) (payload : Nat → UInt8) (totalLen : UInt16) : Outcome × Bool :=
  -- The flag is reset only behind a call that does not return.
  if totalLen = 4 ∧ byteToInt payload = handler.ota.firmLength then
    handler.mcuFirmUpdateHandle env (fun i => payload (4 + i)) (byteToInt payload) 0
  -- The comparison is one of `int`s; the argument is cut to 16 bits.
  else if (totalLen.toNat : Int) - 4 ≤ handler.ota.firmSize.toNat then
    handler.mcuFirmUpdateHandle env (fun i => payload (4 + i)) (byteToInt payload) (totalLen - 4)
  else
    ({ handler := { handler with ota := { handler.ota with firmUpdateFlag := 0 } }
       calls := []
       returned := true },
      false)

def updateTrans (env : Env) (payload : Nat → UInt8) (totalLen : UInt16) : Outcome :=
  if handler.ota.firmUpdateFlag ≠ 0x1d then { handler, calls := [], returned := true }
  else if (handler.updatePacket env payload totalLen).2 then
    { (handler.updatePacket env payload totalLen).1 with
      calls := (handler.updatePacket env payload totalLen).1.calls ++ [.writeFrame 0x1e []] }
  else (handler.updatePacket env payload totalLen).1

/-- `data_handle` for a command, on the payload at a pointer and with at most so
many data points looked at. -/
def handlePayload (env : Env) (fuel : Nat) (cmdType : UInt8) (totalLen : UInt16)
    (payload : Nat → UInt8) : Outcome :=
  match cmdType with
  | 0x19 => { handler, calls := [.deviceReboot], returned := false }
  | 0x17 =>
      { handler := { handler with device := handler.device.flashClear }
        calls := [.writeFrame 0x17 [], .flashClear]
        returned := false }
  | 0x01 => { handler, calls := [.productInfoUpdate], returned := true }
  | 0x03 => { handler, calls := [.writeFrame 0x03 [], .wifiStatusChange (payload 0)], returned := true }
  | 0x15 => { handler, calls := [.wifiConnectStart], returned := true }
  | 0x0c => dataIssued env payload totalLen fuel 0 handler
  | 0x1c =>
      { handler := { handler with otaStatus := field16 (payload 0) (payload 1) }, calls := []
        returned := true }
  | 0x1b => { handler, calls := [.telemetryRecvHandle (payload 0)], returned := true }
  | 0x1d => handler.updateStart env payload
  | 0x1e => handler.updateTrans env payload totalLen
  | 0x1f => { handler, calls := [.wifiProgressUpdate (payload 0)], returned := true }
  | _ => { handler, calls := [], returned := true }

def dataHandle (env : Env) (fuel : Nat) (frame : Nat → UInt8) : Outcome :=
  handler.handlePayload env fuel (frame 3) (field16 (frame 4) (frame 5)) fun i => frame (6 + i)

def restart : Handler where
  ota := Ota.State.boot handler.ota.partition
  otaStatus := 0
  device := Storage.flashInit handler.device.flash handler.device.ram

/-! ## What the update cases do -/

variable {handler} {env : Env} {payload : Nat → UInt8} {totalLen : UInt16}

theorem updateTrans_idle (idle : handler.ota.firmUpdateFlag ≠ 0x1d) :
    handler.updateTrans env payload totalLen = { handler, calls := [], returned := true } :=
  if_pos idle

/-- A packet without data ends the update, whatever its offset. -/
theorem updateTrans_end (updating : handler.ota.firmUpdateFlag = 0x1d) (dataless : totalLen = 4) :
    handler.updateTrans env payload totalLen =
      { handler := { handler with device := handler.device.flashClear }
        calls := [.wifiOtaEnd, .flashClear]
        returned := false } := by
  have short : (totalLen.toNat : Int) - 4 ≤ handler.ota.firmSize.toNat := by simp [dataless]
  have none : totalLen - 4 = 0 := by simp [dataless]
  have ends : handler.updatePacket env payload totalLen =
      handler.mcuFirmUpdateHandle env (fun i => payload (4 + i)) (byteToInt payload) 0 := by
    by_cases last : totalLen = 4 ∧ byteToInt payload = handler.ota.firmLength
    · rw [updatePacket, if_pos last]
    · rw [updatePacket, if_neg last, if_pos short, none]
  rw [updateTrans, if_neg (not_not_intro updating), ends]
  rfl

theorem updateTrans_data (updating : handler.ota.firmUpdateFlag = 0x1d) (hasData : totalLen ≠ 4)
    (short : (totalLen.toNat : Int) - 4 ≤ handler.ota.firmSize.toNat) :
    handler.updateTrans env payload totalLen =
      { handler :=
          { handler with
            ota :=
              (handler.ota.wifiOtaReceive env.flash (fun i => payload (4 + i)) (byteToInt payload)
                (totalLen - 4).toUInt32).1 }
        calls :=
          if (handler.ota.wifiOtaReceive env.flash (fun i => payload (4 + i)) (byteToInt payload)
              (totalLen - 4).toUInt32).2 then [.writeFrame 0x1e []] else []
        returned := true } := by
  have notLast : ¬(totalLen = 4 ∧ byteToInt payload = handler.ota.firmLength) :=
    fun last => hasData last.1
  have some : totalLen - 4 ≠ 0 := fun none => hasData (UInt16.sub_eq_iff_eq_add.mp none)
  have receives : handler.updatePacket env payload totalLen =
      handler.mcuFirmUpdateHandle env (fun i => payload (4 + i)) (byteToInt payload) (totalLen - 4) := by
    rw [updatePacket, if_neg notLast, if_pos short]
  rw [updateTrans, if_neg (not_not_intro updating), receives, mcuFirmUpdateHandle, if_neg some]
  split <;> rfl

theorem updateTrans_tooLong (updating : handler.ota.firmUpdateFlag = 0x1d)
    (long : ¬(totalLen.toNat : Int) - 4 ≤ handler.ota.firmSize.toNat) :
    handler.updateTrans env payload totalLen =
      { handler := { handler with ota := { handler.ota with firmUpdateFlag := 0 } }
        calls := []
        returned := true } := by
  have notLast : ¬(totalLen = 4 ∧ byteToInt payload = handler.ota.firmLength) := by
    intro last
    rw [last.1] at long
    exact long (by simp)
  rw [updateTrans, if_neg (not_not_intro updating), updatePacket, if_neg notLast, if_neg long]
  rfl

end Handler

end SyrFilter.Uart
