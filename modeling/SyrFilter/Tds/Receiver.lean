import SyrFilter.Lib.Scanning
import SyrFilter.Uart.Receiver

namespace SyrFilter.Tds

open SyrFilter.Lib
open SyrFilter.Uart (getCheckSum myMemcpy)

/-! # The receiver of the TDS sensor

`applications/tds_service.c`: a copy of the WiFi receiver with one header byte,
a one-byte length and two buffers of the same size.  `get_check_sum`,
`my_memcpy` and the ring are those of the WiFi side, word for word.
-/

/-- `PROTOCOL_HEAD` -/
def protocolHead : Nat := 11

/-- The size of `tds_data_process_buf` and of `tds_uart_rx_buf`. -/
def bufSize : Nat := 75

/-- A call of `tds_handle`, with the RAM it reads. -/
structure Dispatch where
  memory : Nat → UInt8
  offset : Nat

structure Receiver where
  ring : RingBuffer UInt8
  /-- `tds_data_process_buf` -/
  buf : Nat → UInt8
  rxIn : Nat
  /-- The calls of `tds_handle`, oldest first. -/
  handled : List Dispatch
  /-- `tds_uart_service` is in a scan that makes no progress. -/
  hung : Bool

/-- The state `tds_service_callback` sets up, on whatever the buffers hold. -/
def tdsServiceInit (cells buf : Nat → UInt8) : Receiver where
  ring := { cells, queueIn := 0, queueOut := 0 }
  buf := buf
  rxIn := 0
  handled := []
  hung := false

/-- RAM as `tds_data_process_buf[index]` reads it. -/
def processByte (buf around : Nat → UInt8) (index : Nat) : UInt8 :=
  if index < bufSize then buf index else around index

/-- `tds_handle`: the sensor value it stores before scaling, for the one frame type it knows. -/
def tdsHandle (memory : Nat → UInt8) (offset : Nat) : Option Nat :=
  if memory (offset + 2) = 0x85 then
    some ((memory (offset + 4)).toNat * 256 + (memory (offset + 5)).toNat)
  else none

/-! ## The scan loop -/

section Scan

variable (memory : Nat → UInt8) (rxIn offset : Nat)

def rxValueLen : Nat := (memory (offset + 1)).toNat

/-- The body of the scan loop.  The checksum is taken over `rx_value_len - 1`
bytes, a 16-bit argument, and compared with the byte behind the frame. -/
def scanIteration : Decision :=
  if memory offset ≠ 0x55 then .skip 1
  else if bufSize < rxValueLen memory offset then .skip 1
  else if rxIn - offset < rxValueLen memory offset then .wait
  else if
    getCheckSum (fun i => memory (offset + i)) ((rxValueLen memory offset + 65535) % 65536) ≠
      memory (offset + rxValueLen memory offset) then .skip 9
  else .emit (rxValueLen memory offset)

def handleReads : List Nat :=
  if memory (offset + 2) = 0x85 then [offset + 2, offset + 4, offset + 5] else [offset + 2]

/-- The indices of `tds_data_process_buf` that the body reads. -/
def scanReads : List Nat :=
  if memory offset ≠ 0x55 then [offset]
  else if bufSize < rxValueLen memory offset ∨ rxIn - offset < rxValueLen memory offset then
    [offset, offset + 1]
  else
    [offset, offset + 1] ++
      ((List.range ((rxValueLen memory offset + 65535) % 65536)).map fun i => offset + i) ++
        [offset + rxValueLen memory offset] ++
          match scanIteration memory rxIn offset with
          | .emit _ => handleReads memory offset
          | _ => []

/-- The scan loop, with the offsets at which it called `tds_handle`. -/
def scan (fuel : Nat) : Option (Nat × List Nat) :=
  scanLoop protocolHead (scanIteration memory rxIn) rxIn fuel offset

end Scan

namespace Receiver

def getQueueTotalData (receiver : Receiver) : UInt8 :=
  if receiver.ring.queueIn ≠ receiver.ring.queueOut then 1 else 0

def queueReadByte (receiver : Receiver) : UInt8 × RingBuffer UInt8 :=
  if receiver.ring.queueOut ≠ receiver.ring.queueIn then receiver.ring.take bufSize
  else (0, receiver.ring)

def tdsUartReceiveInput (receiver : Receiver) (value : UInt8) : Receiver :=
  { receiver with ring := receiver.ring.put bufSize bufSize value }

/-- The loop that moves bytes from the ring to the buffer, with the room left. -/
def fill : Nat → Receiver → Receiver
  | 0, receiver => receiver
  | room + 1, receiver =>
      if 0 < receiver.getQueueTotalData then
        fill room
          { receiver with
            buf := Function.update receiver.buf receiver.rxIn receiver.queueReadByte.1
            ring := receiver.queueReadByte.2
            rxIn := receiver.rxIn + 1 }
      else receiver

def filled (receiver : Receiver) : Receiver := receiver.fill (bufSize - receiver.rxIn)

/-- `tds_uart_service`.  A scan that takes more than `rx_in + 1` iterations never ends. -/
def tdsUartService (receiver : Receiver) (around : Nat → UInt8) : Receiver :=
  if receiver.filled.rxIn < protocolHead then receiver.filled
  else
    match scan (processByte receiver.filled.buf around) receiver.filled.rxIn
        0 (receiver.filled.rxIn + 1) with
    | none => { receiver.filled with hung := true }
    | some (offset, found) =>
        { receiver.filled with
          buf :=
            if 0 < receiver.filled.rxIn - offset then
              myMemcpy receiver.filled.buf 0 offset (receiver.filled.rxIn - offset)
            else receiver.filled.buf
          rxIn := receiver.filled.rxIn - offset
          handled := receiver.filled.handled ++
            found.map fun start => ⟨processByte receiver.filled.buf around, start⟩ }

theorem getQueueTotalData_eq_zero_iff {receiver : Receiver} :
    receiver.getQueueTotalData = 0 ↔ receiver.ring.queueIn = receiver.ring.queueOut := by
  by_cases same : receiver.ring.queueIn = receiver.ring.queueOut
  · simp [getQueueTotalData, same]
  · simp [getQueueTotalData, same]

theorem getQueueTotalData_pos_iff {receiver : Receiver} :
    0 < receiver.getQueueTotalData ↔ receiver.ring.queueIn ≠ receiver.ring.queueOut := by
  by_cases same : receiver.ring.queueIn = receiver.ring.queueOut
  · simp [getQueueTotalData, same]
  · simp [getQueueTotalData, same]

end Receiver

/-- `receive` is the UART interrupt, `service` a call of `tds_uart_service`. -/
inductive Event where
  | receive (value : UInt8)
  | service (around : Nat → UInt8)

def Receiver.step (receiver : Receiver) : Event → Receiver
  | .receive value => receiver.tdsUartReceiveInput value
  | .service around => if receiver.hung then receiver else receiver.tdsUartService around

end SyrFilter.Tds
