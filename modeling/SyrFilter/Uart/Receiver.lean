import SyrFilter.Lib.Ring
import SyrFilter.Lib.Runs
import SyrFilter.Uart.Frame

namespace SyrFilter.Uart

open SyrFilter.Lib

/-! # The WiFi receiver

`uart/uart_core.c`: the interrupt puts bytes into a ring, `wifi_uart_service`
moves them to `wifi_data_process_buf` and scans that buffer for frames.  The
scan may leave the buffer, so a call is given the RAM around it.
-/

def rxSize : Nat := 1543

/-- `my_memcpy` within one memory. -/
def myMemcpy (memory : Nat → UInt8) (dest src count : Nat) : Nat → UInt8 :=
  if dest ≤ src ∨ src + count < dest then copyUp memory dest src 0 count
  else copyDown memory dest src count

theorem myMemcpy_apply {memory : Nat → UInt8} {dest src count : Nat} (address : Nat) :
    myMemcpy memory dest src count address =
      if dest ≤ address ∧ address < dest + count
      then memory (src + (address - dest)) else memory address := by
  rw [myMemcpy]
  split
  · have apart : dest ≤ src ∨ src + 0 + count ≤ dest := by omega
    exact copyUp_apply apart address
  · have above : src ≤ dest := by omega
    exact copyDown_apply above address

/-- RAM as `wifi_data_process_buf[index]` reads it: the buffer where the index
is one of its own, what surrounds it elsewhere. -/
def processByte (buf : Nat → UInt8) (around : Int → UInt8) (index : Int) : UInt8 :=
  if 0 ≤ index ∧ index < processSize then buf index.toNat else around index

structure Dispatch where
  buf : Nat → UInt8
  offset : Nat

structure Receiver where
  ring : RingBuffer UInt8
  /-- `wifi_data_process_buf` -/
  buf : Nat → UInt8
  rxIn : Nat
  /-- The calls of `data_handle`, oldest first. -/
  handled : List Dispatch
  /-- `wifi_uart_service` is in a scan that makes no progress. -/
  hung : Bool

/-- `wifi_protocol_init`, on whatever the buffers hold. -/
def wifiProtocolInit (cells buf : Nat → UInt8) : Receiver where
  ring := { cells, queueIn := 0, queueOut := 0 }
  buf := buf
  rxIn := 0
  handled := []
  hung := false

/-! ## The scan loop -/

section Scan

variable (memory : Int → UInt8) (rxIn offset : Nat)

/-- `rx_value_len` at an offset, a 16-bit sum. -/
def rxValueLen : Nat :=
  ((memory (offset + 4)).toNat * 256 + ((memory (offset + 5)).toNat + protocolHead)) % 65536

/-- The body of the scan loop: leave the loop, continue further on, or call
`data_handle` and continue behind the frame. -/
def scanIteration : Decision :=
  if memory offset ≠ 0x55 then .skip 1
  else if memory (offset + 1) ≠ 0xaa then .skip 1
  else if processSize < rxValueLen memory offset then .skip 3
  else if rxIn - offset < rxValueLen memory offset then .wait
  else if
    -- `rx_value_len - 1` becomes a 16-bit argument, but an `int` index.
    getCheckSum (fun i => memory (offset + i)) ((rxValueLen memory offset + 65535) % 65536) ≠
      memory (offset + rxValueLen memory offset - 1) then .skip 3
  else .emit (rxValueLen memory offset)

/-- The indices of `wifi_data_process_buf` that the body reads. -/
def scanReads : List Int :=
  if memory offset ≠ 0x55 then [(offset : Int)]
  else if memory (offset + 1) ≠ 0xaa then [(offset : Int), offset + 1]
  else if processSize < rxValueLen memory offset ∨ rxIn - offset < rxValueLen memory offset then
    [(offset : Int), offset + 1, offset + 4, offset + 5]
  else
    [(offset : Int), offset + 1, offset + 4, offset + 5] ++
      ((List.range ((rxValueLen memory offset + 65535) % 65536)).map fun i : Nat => (offset : Int) + i) ++
        [(offset : Int) + rxValueLen memory offset - 1]

/-- The scan loop: where it ends and at which offsets it called `data_handle`,
or nothing when it is still going after that many iterations. -/
def scan : Nat → Nat → Option (Nat × List Nat)
  | 0, _ => none
  | fuel + 1, offset =>
      if rxIn - offset < protocolHead then some (offset, [])
      else
        match scanIteration memory rxIn offset with
        | .wait => some (offset, [])
        | .skip count => scan fuel (offset + count)
        | .emit count =>
            (scan fuel (offset + count)).map fun result => (result.1, offset :: result.2)

end Scan

namespace Receiver

def queueReadByte (receiver : Receiver) : UInt8 × RingBuffer UInt8 :=
  if receiver.ring.queueOut ≠ receiver.ring.queueIn then receiver.ring.take rxSize
  else (0, receiver.ring)

/-- The loop that moves bytes from the ring to the buffer, with the room left. -/
def fill : Nat → Receiver → Receiver
  | 0, receiver => receiver
  | room + 1, receiver =>
      if receiver.ring.queueIn ≠ receiver.ring.queueOut then
        fill room
          { receiver with
            buf := Function.update receiver.buf receiver.rxIn receiver.queueReadByte.1
            ring := receiver.queueReadByte.2
            rxIn := receiver.rxIn + 1 }
      else receiver

def filled (receiver : Receiver) : Receiver := receiver.fill (processSize - receiver.rxIn)

/-- One round of that loop, with its test. -/
def fetch (receiver : Receiver) : Receiver :=
  if receiver.rxIn < processSize then receiver.fill 1 else receiver

/-- `wifi_uart_service` behind its fill loop, with every call of `data_handle` taken
to come back.  The buffer is scanned at most `rx_in + 1` times when every
iteration moves on; a scan that takes longer never ends. -/
def scanBuffer (receiver : Receiver) (around : Int → UInt8) : Receiver :=
  if receiver.rxIn < protocolHead then receiver
  else
    match scan (processByte receiver.buf around) receiver.rxIn (receiver.rxIn + 1) 0 with
    | none => { receiver with hung := true }
    | some (offset, found) =>
        { receiver with
          buf :=
            if 0 < receiver.rxIn - offset then myMemcpy receiver.buf 0 offset (receiver.rxIn - offset)
            else receiver.buf
          rxIn := receiver.rxIn - offset
          handled := receiver.handled ++ found.map fun start => ⟨receiver.buf, start⟩ }

def wifiUartService (receiver : Receiver) (around : Int → UInt8) : Receiver := receiver.filled.scanBuffer around

end Receiver

/-- `receive` is the UART interrupt, `service` a call of `wifi_uart_service`. -/
inductive Event where
  | receive (value : UInt8)
  | service (around : Int → UInt8)

def Receiver.step (receiver : Receiver) : Event → Receiver
  | .receive value => { receiver with ring := receiver.ring.put rxSize processSize value }
  | .service around => if receiver.hung then receiver else receiver.wifiUartService around

end SyrFilter.Uart
