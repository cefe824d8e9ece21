import SyrFilter.Lib.Framing
import SyrFilter.Lib.Memory

namespace SyrFilter.Uart

open SyrFilter.Lib

/-! # Frames on the WiFi UART

A frame is `55 AA`, version, type, the payload length in two bytes, the payload
and a checksum byte.  `encodeFrame` and `decideFrame` state the format on
lists; `wifiUartWriteFrame` is the sender of `uart/uart_core.c`.
-/

/-- `PROTOCOL_HEAD`: the bytes of a frame besides its payload. -/
def protocolHead : Nat := 7

def processSize : Nat := 1207

def byteAt (bytes : List UInt8) (position : Nat) : UInt8 := bytes.getD position 0

/-- `get_check_sum` of the bytes at a pointer. -/
def getCheckSum (pack : Nat → UInt8) : Nat → UInt8
  | 0 => 0
  | packLen + 1 => getCheckSum pack packLen + pack packLen

def checkSum (bytes : List UInt8) : UInt8 := bytes.foldl (· + ·) 0

theorem getCheckSum_eq (pack : Nat → UInt8) (packLen : Nat) :
    getCheckSum pack packLen = checkSum (window pack 0 packLen) := by
  induction packLen with
  | zero => rfl
  | succ packLen ih => simp [getCheckSum, ih, window_snoc, checkSum]

def encodeFrame (frType frVer : UInt8) (payload : List UInt8) : List UInt8 :=
  let body :=
    [0x55, 0xaa, frVer, frType, UInt8.ofNat (payload.length / 256), UInt8.ofNat payload.length] ++
      payload
  body ++ [checkSum body]

/-- `wifi_uart_write_frame`: the transmit buffer afterwards and the bytes sent. -/
def wifiUartWriteFrame (txBuf : Nat → UInt8) (frType frVer : UInt8) (len : Nat) :
    (Nat → UInt8) × List UInt8 :=
  let txBuf := Function.update txBuf 0 0x55
  let txBuf := Function.update txBuf 1 0xaa
  let txBuf := Function.update txBuf 2 frVer
  let txBuf := Function.update txBuf 3 frType
  let txBuf := Function.update txBuf 4 (UInt8.ofNat (len / 256))
  let txBuf := Function.update txBuf 5 (UInt8.ofNat len)
  let total := (len + protocolHead) % 65536
  let txBuf := Function.update txBuf (total - 1) (getCheckSum txBuf (total - 1))
  (txBuf, window txBuf 0 total)

theorem wifiUartWriteFrame_sends {txBuf : Nat → UInt8} {frType frVer : UInt8} {len : Nat}
    (fits : len + protocolHead < 65536) :
    (wifiUartWriteFrame txBuf frType frVer len).2 =
      encodeFrame frType frVer (window txBuf 6 len) := by
  simp only [wifiUartWriteFrame, Nat.mod_eq_of_lt fits]
  generalize headed : Function.update (Function.update (Function.update (Function.update
    (Function.update (Function.update txBuf 0 0x55) 1 0xaa) 2 frVer) 3 frType) 4
    (UInt8.ofNat (len / 256))) 5 (UInt8.ofNat len) = tx
  have payload : window tx 6 len = window txBuf 6 len := by
    apply window_congr
    intro i _
    have apart : ∀ index < 6, 6 + i ≠ index := fun index below => by omega
    subst tx
    simp only [Function.update_apply, apart _ (by decide : 0 < 6), apart _ (by decide : 1 < 6),
      apart _ (by decide : 2 < 6), apart _ (by decide : 3 < 6), apart _ (by decide : 4 < 6),
      apart _ (by decide : 5 < 6), if_false]
  have body : window tx 0 (6 + len) =
      [0x55, 0xaa, frVer, frType, UInt8.ofNat (len / 256), UInt8.ofNat len] ++ window txBuf 6 len := by
    rw [window_add, payload]
    subst tx
    simp [window, Function.update_apply, List.range_succ]
  have last : len + protocolHead - 1 = 6 + len := by unfold protocolHead; omega
  have total : len + protocolHead = 6 + len + 1 := by unfold protocolHead; omega
  rw [last, total, window_snoc, window_update _ (by omega), Nat.zero_add, Function.update_self,
    getCheckSum_eq, body]
  simp [encodeFrame]

/-- `set_wifi_uart_buffer`: bytes put into the payload area from `dest` on. -/
def setWifiUartBuffer (txBuf : Nat → UInt8) (dest : Nat) (src : List UInt8) : Nat → UInt8 :=
  fun index =>
    if 6 + dest ≤ index ∧ index < 6 + dest + src.length then byteAt src (index - (6 + dest))
    else txBuf index

theorem window_setWifiUartBuffer (txBuf : Nat → UInt8) (src : List UInt8) :
    window (setWifiUartBuffer txBuf 0 src) 6 src.length = src := by
  apply List.ext_getElem
  · simp
  · intro i _ below
    have inside : 6 + 0 ≤ 6 + i ∧ 6 + i < 6 + 0 + src.length := by omega
    rw [getElem_window, setWifiUartBuffer, if_pos inside]
    simp [byteAt, below]

/-- What is sent at a time; `WIFIR_UART_SEND_BUF_LMT` bounds the payload. -/
structure Frame where
  frType : UInt8
  frVer : UInt8
  payload : List UInt8
  fits : payload.length ≤ 128

def Frame.bytes (frame : Frame) : List UInt8 := encodeFrame frame.frType frame.frVer frame.payload

/-- The bytes sent for one frame after the other through one transmit buffer. -/
def sendFrames (txBuf : Nat → UInt8) : List Frame → List UInt8
  | [] => []
  | frame :: rest =>
      let written :=
        wifiUartWriteFrame (setWifiUartBuffer txBuf 0 frame.payload) frame.frType frame.frVer
          frame.payload.length
      written.2 ++ sendFrames written.1 rest

theorem sendFrames_eq (txBuf : Nat → UInt8) (sent : List Frame) :
    sendFrames txBuf sent = (sent.map Frame.bytes).flatten := by
  induction sent generalizing txBuf with
  | nil => rfl
  | cons frame rest ih =>
      have bound := frame.fits
      have short : frame.payload.length + protocolHead < 65536 := by
        rw [protocolHead]
        omega
      simp only [sendFrames, ih, wifiUartWriteFrame_sends short, window_setWifiUartBuffer]
      rfl

/-! ## The receiver's format -/

def declaredLen (bytes : List UInt8) : Nat := (byteAt bytes 4).toNat * 256 + (byteAt bytes 5).toNat

/-- The 16-bit length of the whole frame. -/
def frameLen (bytes : List UInt8) : Nat := (declaredLen bytes + protocolHead) % 65536

/-- A header candidate: `55 AA` with room for the fixed part of a frame. -/
def IsHeader (bytes : List UInt8) : Prop :=
  protocolHead ≤ bytes.length ∧ byteAt bytes 0 = 0x55 ∧ byteAt bytes 1 = 0xaa

instance (bytes : List UInt8) : Decidable (IsHeader bytes) := inferInstanceAs (Decidable (_ ∧ _ ∧ _))

/-- A header whose length field brings the 16-bit frame length to 0. -/
def IsWrapped (bytes : List UInt8) : Prop := IsHeader bytes ∧ declaredLen bytes = 65529

instance (bytes : List UInt8) : Decidable (IsWrapped bytes) :=
  inferInstanceAs (Decidable ((_ ∧ _ ∧ _) ∧ _))

/-- What the front of the received bytes calls for.  A wrapped header has no
meaning in the format; it is given up like any other bad one. -/
def decideFrame (bytes : List UInt8) : Decision :=
  if bytes.length < protocolHead then .wait
  else if byteAt bytes 0 ≠ 0x55 then .skip 1
  else if byteAt bytes 1 ≠ 0xaa then .skip 1
  else if processSize < frameLen bytes then .skip 3
  else if bytes.length < frameLen bytes then .wait
  else if frameLen bytes = 0 then .skip 3
  else if checkSum (bytes.take (frameLen bytes - 1)) ≠ byteAt bytes (frameLen bytes - 1) then .skip 3
  else .emit (frameLen bytes)

theorem byteAt_append {bytes : List UInt8} {position : Nat} (inside : position < bytes.length)
    (more : List UInt8) : byteAt (bytes ++ more) position = byteAt bytes position := by
  simp [byteAt, List.getD_eq_getElem?_getD, List.getElem?_append_left inside]

theorem declaredLen_append {bytes : List UInt8} (long : protocolHead ≤ bytes.length)
    (more : List UInt8) : declaredLen (bytes ++ more) = declaredLen bytes := by
  rw [protocolHead] at long
  simp only [declaredLen, byteAt_append (by omega : 4 < bytes.length),
    byteAt_append (by omega : 5 < bytes.length)]

theorem IsHeader.append {bytes : List UInt8} (header : IsHeader bytes) (more : List UInt8) :
    IsHeader (bytes ++ more) := by
  obtain ⟨long, first, second⟩ := header
  rw [protocolHead] at long
  refine ⟨by simp [protocolHead]; omega, ?_, ?_⟩
  · rw [byteAt_append (by omega), first]
  · rw [byteAt_append (by omega), second]

theorem decideFrame_bound {bytes : List UInt8} {count : Nat}
    (moves : (decideFrame bytes).advance = some count) : 0 < count ∧ count ≤ bytes.length := by
  revert moves
  fun_cases decideFrame bytes <;> simp [Decision.advance, protocolHead] at * <;> omega

/-- Everything a decision looks at is there when it is made. -/
theorem decideFrame_stable {bytes : List UInt8} {count : Nat} (more : List UInt8)
    (moves : (decideFrame bytes).advance = some count) :
    decideFrame (bytes ++ more) = decideFrame bytes := by
  have long : protocolHead ≤ bytes.length := by
    by_contra short
    rw [decideFrame, if_pos (by omega)] at moves
    cases moves
  have enough : 7 ≤ bytes.length := long
  have first := byteAt_append (by omega : 0 < bytes.length) more
  have second := byteAt_append (by omega : 1 < bytes.length) more
  have sameLen : frameLen (bytes ++ more) = frameLen bytes := by
    rw [frameLen, frameLen, declaredLen_append long more]
  have stillLong : ¬(bytes ++ more).length < protocolHead := by
    rw [List.length_append]
    omega
  have notShort : ¬bytes.length < protocolHead := by omega
  rw [decideFrame, if_neg notShort] at moves
  simp only [decideFrame, if_neg stillLong, if_neg notShort, first, second, sameLen]
  by_cases noFirst : byteAt bytes 0 ≠ 0x55
  · simp only [if_pos noFirst]
  by_cases noSecond : byteAt bytes 1 ≠ 0xaa
  · simp only [if_pos noSecond]
  by_cases tooLong : processSize < frameLen bytes
  · simp only [if_pos tooLong]
  simp only [if_neg noFirst, if_neg noSecond, if_neg tooLong] at moves ⊢
  by_cases missing : bytes.length < frameLen bytes
  · rw [if_pos missing] at moves
    cases moves
  have stillThere : ¬(bytes ++ more).length < frameLen bytes := by
    rw [List.length_append]
    omega
  simp only [if_neg missing, if_neg stillThere]
  by_cases wrapped : frameLen bytes = 0
  · simp only [if_pos wrapped]
  have last := byteAt_append (by omega : frameLen bytes - 1 < bytes.length) more
  rw [last, List.take_append_of_le_length (by omega)]

theorem length_encodeFrame {frType frVer : UInt8} {payload : List UInt8} :
    (encodeFrame frType frVer payload).length = payload.length + protocolHead := by
  simp [encodeFrame, protocolHead]

theorem declaredLen_encodeFrame {frType frVer : UInt8} {payload : List UInt8}
    (fits : payload.length < 65536) (tail : List UInt8) :
    declaredLen (encodeFrame frType frVer payload ++ tail) = payload.length := by
  simp only [declaredLen, byteAt, encodeFrame, List.cons_append, List.getD_cons_succ,
    List.getD_cons_zero, UInt8.toNat_ofNat']
  omega

/-- The bytes are at the pointer; anything may lie behind them. -/
def Carries (pointer : Nat → UInt8) (bytes : List UInt8) : Prop :=
  window pointer 0 bytes.length = bytes

instance (pointer : Nat → UInt8) (bytes : List UInt8) : Decidable (Carries pointer bytes) :=
  inferInstanceAs (Decidable (_ = _))

theorem Carries.byte {pointer : Nat → UInt8} {bytes : List UInt8} (carries : Carries pointer bytes)
    {position : Nat} (inside : position < bytes.length) : pointer position = byteAt bytes position := by
  have read := @getElem?_window _ pointer 0 bytes.length position inside
  rw [carries, Nat.zero_add] at read
  rw [byteAt, List.getD_eq_getElem?_getD, read, Option.getD_some]

theorem Carries.frType {pointer : Nat → UInt8} {frType frVer : UInt8} {payload : List UInt8}
    (carries : Carries pointer (encodeFrame frType frVer payload)) : pointer 3 = frType := by
  rw [carries.byte (by simp [encodeFrame])]
  simp [encodeFrame, byteAt]

theorem Carries.payload {pointer : Nat → UInt8} {frType frVer : UInt8} {payload : List UInt8}
    (carries : Carries pointer (encodeFrame frType frVer payload)) {position : Nat}
    (inside : position < payload.length) : pointer (6 + position) = byteAt payload position := by
  rw [carries.byte (by rw [length_encodeFrame]; unfold protocolHead; omega)]
  rw [Nat.add_comm]
  simp [encodeFrame, byteAt, List.getElem?_append_left inside]

theorem Carries.length {pointer : Nat → UInt8} {frType frVer : UInt8} {payload : List UInt8}
    (carries : Carries pointer (encodeFrame frType frVer payload)) (fits : payload.length < 65536) :
    (pointer 4).toNat * 256 + (pointer 5).toNat = payload.length := by
  have declared := @declaredLen_encodeFrame frType frVer payload fits []
  rw [List.append_nil, declaredLen] at declared
  rw [carries.byte (by simp [encodeFrame]), carries.byte (by simp [encodeFrame])]
  exact declared

theorem decideFrame_encodeFrame {frType frVer : UInt8} {payload : List UInt8}
    (fits : payload.length + protocolHead ≤ processSize) (tail : List UInt8) :
    decideFrame (encodeFrame frType frVer payload ++ tail) = .emit (payload.length + protocolHead) := by
  have bound : payload.length + 7 ≤ 1207 := fits
  have length : frameLen (encodeFrame frType frVer payload ++ tail) = payload.length + protocolHead := by
    rw [frameLen, declaredLen_encodeFrame (by omega), Nat.mod_eq_of_lt]
    rw [protocolHead]
    omega
  have long : (encodeFrame frType frVer payload ++ tail).length =
      payload.length + protocolHead + tail.length := by
    rw [List.length_append, length_encodeFrame]
  have last : payload.length + protocolHead - 1 = payload.length + 6 := rfl
  have body : checkSum ((encodeFrame frType frVer payload ++ tail).take (payload.length + 6)) =
      byteAt (encodeFrame frType frVer payload ++ tail) (payload.length + 6) := by
    simp [encodeFrame, byteAt]
  have positive : payload.length + protocolHead ≠ 0 := Nat.succ_ne_zero _
  simp only [decideFrame, length, long, last, body]
  rw [if_neg (by omega), if_neg (by simp [encodeFrame, byteAt]), if_neg (by simp [encodeFrame, byteAt]),
    if_neg (by omega), if_neg (by omega), if_neg positive, if_neg (by simp)]

theorem frameLen_of_emit {bytes : List UInt8} {count : Nat}
    (decision : decideFrame bytes = .emit count) : frameLen bytes = count := by
  revert decision
  fun_cases decideFrame bytes <;> simp

def frames : Framer UInt8 where
  decide := decideFrame
  bound := decideFrame_bound
  stable := decideFrame_stable

end SyrFilter.Uart
