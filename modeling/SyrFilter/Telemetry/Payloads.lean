import SyrFilter.Lib.Decimal
import SyrFilter.Telemetry.Alarm
import SyrFilter.Uart.DataPoints

namespace SyrFilter.Telemetry

open SyrFilter.Lib SyrFilter.Storage SyrFilter.Uart

/-! # What is sent, and how long it gets

The writers put a text or a data point into `wifi_uart_tx_buf` without looking
at the room there is.  Each text is a JSON object of a few members, and its
length is the sum of theirs.
-/

/-! ## Numbers, strings and objects -/

def printNumber (number : UInt32) : List UInt8 := Decimal.decimal number.toNat

/-- A string that needs no escape. -/
def printString (text : List UInt8) : List UInt8 := ascii "\"" ++ text ++ ascii "\""

def printMember (member : List UInt8 × List UInt8) : List UInt8 :=
  printString member.1 ++ ascii ":" ++ member.2

/-- `cJSON_PrintUnformatted` of an object, from its keys and the texts of its values. -/
def printObject (members : List (List UInt8 × List UInt8)) : List UInt8 :=
  ascii "\x7b" ++ ((members.map printMember).intersperse (ascii ",")).flatten ++ ascii "\x7d"

theorem length_ascii_one : (ascii "\"").length = 1 ∧ (ascii ":").length = 1 ∧ (ascii ",").length = 1 ∧
    (ascii "\x7b").length = 1 ∧ (ascii "\x7d").length = 1 := by decide +kernel

theorem length_printNumber_le (number : UInt32) : (printNumber number).length ≤ 10 := by
  have bound := number.toNat_lt
  exact (Decimal.length_decimal_le_iff (by decide)).mpr (by omega)

/-- A byte has three digits at most. -/
theorem length_printNumber_byte_le (byte : UInt8) : (printNumber byte.toUInt32).length ≤ 3 := by
  have bound := byte.toNat_lt
  rw [printNumber, UInt8.toNat_toUInt32]
  exact (Decimal.length_decimal_le_iff (by decide)).mpr (by omega)

@[simp] theorem length_printString (text : List UInt8) : (printString text).length = text.length + 2 := by
  obtain ⟨quote, -⟩ := length_ascii_one
  rw [printString, List.length_append, List.length_append, quote]
  omega

@[simp] theorem length_printMember (member : List UInt8 × List UInt8) :
    (printMember member).length = member.1.length + member.2.length + 3 := by
  obtain ⟨-, colon, -⟩ := length_ascii_one
  rw [printMember, List.length_append, List.length_append, colon, length_printString]
  omega

/-- The members, a comma between any two of them, and the braces. -/
theorem length_printObject (member : List UInt8 × List UInt8) (rest : List (List UInt8 × List UInt8)) :
    (printObject (member :: rest)).length =
      (((member :: rest).map fun member => member.1.length + member.2.length + 4).sum) + 1 := by
  obtain ⟨-, -, comma, left, right⟩ := length_ascii_one
  rw [printObject, List.length_append, List.length_append, left, right]
  induction rest generalizing member with
  | nil =>
      simp only [List.map_cons, List.map_nil, List.intersperse_singleton, List.flatten_cons, List.flatten_nil,
        List.length_append, List.length_nil, length_printMember, List.sum_cons, List.sum_nil]
      omega
  | cons next rest induction =>
      have inner := induction next
      simp only [List.map_cons, List.intersperse_cons_cons, List.flatten_cons, List.length_append, comma,
        length_printMember, List.sum_cons] at inner ⊢
      omega

/-- The objects of strings that the reports are made of. -/
theorem printUnformatted_eq (members : List (List UInt8 × List UInt8)) :
    printUnformatted members = printObject (members.map fun item => (item.1, printString item.2)) := by
  have colon : ascii "\":\"" = ascii "\"" ++ ascii ":" ++ ascii "\"" := by decide +kernel
  simp only [printUnformatted, printObject, List.map_map]
  have same : ∀ item ∈ members, ascii "\"" ++ item.1 ++ ascii "\":\"" ++ item.2 ++ ascii "\"" =
      (printMember ∘ fun item => (item.1, printString item.2)) item := by
    intro item _
    simp [printMember, printString, colon]
  rw [List.map_congr_left same]

/-! ## The writers -/

/-- `device_config_put`, or `device_info_put` under another name. -/
def printNested (name : String) (members : List (List UInt8 × List UInt8)) : List UInt8 :=
  printObject [(ascii name, printObject members)]

def deviceConfigPut (key : String) (value : UInt32) : List UInt8 :=
  printNested "deviceConfig" [(ascii key, printNumber value)]

def deviceInfoPut (key : String) (value : UInt32) : List UInt8 :=
  printNested "deviceInfo" [(ascii key, printNumber value)]

def deviceInfoPutBuffer (key : String) (value : List UInt8) : List UInt8 :=
  printNested "deviceInfo" [(ascii key, printString value)]

def reminderPutCallback (weeks days : UInt32) (control : UInt8) : List UInt8 :=
  printNested "deviceConfig"
    [(ascii "rse", printNumber (weeks * 7 + days)), (ascii "sse", printNumber control.toUInt32)]

def automaticPutCallback (weeks days : UInt32) (control : UInt8) : List UInt8 :=
  printNested "deviceConfig"
    [(ascii "rsa", printNumber (weeks * 7 + days)), (ascii "ssa", printNumber control.toUInt32)]

def ssdPutCallback (value : UInt32) : List UInt8 :=
  printNested "deviceConfig" [(ascii "ssd", printNumber value)]

/-- `MCU_VER` -/
def mcuVer : String := "0.0.25"

def productInfoUpdate (wifiApEnable : UInt8) : List UInt8 :=
  printObject [(ascii "ver", printString (ascii mcuVer)), (ascii "ap", printNumber wifiApEnable.toUInt32)]

/-- What `telemetry_upload` reads. -/
structure Measurements where
  /-- `Get_DC_Fix` -/
  net : UInt32
  /-- `Get_Bat_Fix` -/
  bat : UInt32
  counterManual : UInt32
  counterAutomatic : UInt32
  counterDeltapress : UInt32
  errorValue : UInt8
  notifyValue : UInt8
  warningValue : UInt8
  tdsValue : UInt32

/-- The getters of the counters return 8 bits of them. -/
def telemetryUpload (read : Measurements) : List UInt8 :=
  printObject
    [(ascii "net", printNumber read.net),
      (ascii "bat", printNumber read.bat),
      (ascii "com", printNumber read.counterManual.toUInt8.toUInt32),
      (ascii "coa", printNumber read.counterAutomatic.toUInt8.toUInt32),
      (ascii "cod", printNumber read.counterDeltapress.toUInt8.toUInt32),
      (ascii "ala", printString (hexByte read.errorValue)),
      (ascii "not", printString (hexByte read.notifyValue)),
      (ascii "wrn", printString (hexByte read.warningValue)),
      (ascii "cnd", printNumber read.tdsValue)]

/-- `mcu_dp_string_update`; the length field takes two bytes, the type is `DP_TYPE_STRING`. -/
def mcuDpStringUpdate (dpId : UInt8) (value : List UInt8) : List UInt8 :=
  DataPoint.encode { dpId, dpType := 0x03, value }

/-- The command that asks for a history. -/
def Alarm.Kind.getCmd : Alarm.Kind → UInt8
  | .error => 0x2e
  | .warning => 0x2f
  | .notify => 0x30

/-- The keys passed to `device_config_put` and `device_info_put`. -/
def putKeys : List String :=
  ["rsd", "cnl", "cnf", "rsi", "rse", "rsa", "sse", "ssa", "ssd", "lng", "wti", "apt", "rcp", "emr", "wad",
    "sup"]

/-- What the device sends besides frames of a fixed content. -/
inductive Message where
  | telemetryUpload (read : Measurements)
  | productInfoUpdate (wifiApEnable : UInt8)
  | deviceConfigPut (key : String) (named : key ∈ putKeys) (value : UInt32)
  | deviceInfoPut (key : String) (named : key ∈ putKeys) (value : UInt32)
  | deviceInfoPutBuffer (kind : Alarm.Kind) (array : Vector UInt8 8)
  | reminderPut (weeks days : UInt32) (control : UInt8)
  | automaticPut (weeks days : UInt32) (control : UInt8)
  | ssdPut (value : UInt32)
  | mcuDpValueUpdate (dpId : UInt8) (value : UInt32)
  | mcuDpStringUpdate (kind : Alarm.Kind) (array : Vector UInt8 8)
  | report (made : Report)

def Message.payload : Message → List UInt8
  | .telemetryUpload read => Telemetry.telemetryUpload read
  | .productInfoUpdate wifiApEnable => Telemetry.productInfoUpdate wifiApEnable
  | .deviceConfigPut key _ value => Telemetry.deviceConfigPut key value
  | .deviceInfoPut key _ value => Telemetry.deviceInfoPut key value
  | .deviceInfoPutBuffer kind array => Telemetry.deviceInfoPutBuffer kind.key (Alarm.arrayText array)
  | .reminderPut weeks days control => reminderPutCallback weeks days control
  | .automaticPut weeks days control => automaticPutCallback weeks days control
  | .ssdPut value => ssdPutCallback value
  | .mcuDpValueUpdate dpId value => DataPoint.encode { dpId, dpType := 0x02, value := intToByte value }
  | .mcuDpStringUpdate kind array => Telemetry.mcuDpStringUpdate kind.getCmd (Alarm.arrayText array)
  | .report made => made.text

/-! ## Lengths -/

theorem length_hexByte (code : UInt8) : (hexByte code).length = 2 := rfl

/-- Eight codes of two digits and the commas between them. -/
theorem length_arrayText (array : Vector UInt8 8) : (Alarm.arrayText array).length = 23 := by
  obtain ⟨-, -, comma, -⟩ := length_ascii_one
  have separated : ∀ (code : UInt8) (rest : List UInt8),
      (((code :: rest).map hexByte).intersperse (ascii ",")).flatten.length = 3 * rest.length + 2 := by
    intro code rest
    induction rest generalizing code with
    | nil => rfl
    | cons next rest induction =>
        have inner := induction next
        simp only [List.map_cons, List.intersperse_cons_cons, List.flatten_cons, List.length_append, comma,
          length_hexByte, List.length_cons] at inner ⊢
        omega
  have eight : array.toList.length = 8 := by simp
  rw [Alarm.arrayText]
  cases codes : array.toList with
  | nil =>
      rw [codes] at eight
      cases eight
  | cons code rest =>
      rw [codes, List.length_cons] at eight
      rw [separated]
      omega

theorem length_putKey {key : String} (named : key ∈ putKeys) : (ascii key).length = 3 := by
  have all : ∀ key ∈ putKeys, (ascii key).length = 3 := by decide +kernel
  exact all key named

theorem length_kindKey (kind : Alarm.Kind) : (ascii kind.key).length = 3 := by
  cases kind <;> decide +kernel

theorem length_printNested (name : String) (members : List (List UInt8 × List UInt8)) :
    (printNested name members).length = (ascii name).length + (printObject members).length + 5 := by
  rw [printNested, length_printObject]
  simp only [List.map_cons, List.map_nil, List.sum_cons, List.sum_nil]
  omega

theorem length_names : (ascii "deviceConfig").length = 12 ∧ (ascii "deviceInfo").length = 10 := by
  decide +kernel

/-- One member with a key of three letters. -/
theorem length_single {key value : List UInt8} (short : key.length = 3) :
    (printObject [(key, value)]).length = value.length + 8 := by
  rw [length_printObject]
  simp only [List.map_cons, List.map_nil, List.sum_cons, List.sum_nil]
  omega

/-- Two members with keys of three letters. -/
theorem length_pair {key next value other : List UInt8} (short : key.length = 3) (nextShort : next.length = 3) :
    (printObject [(key, value), (next, other)]).length = value.length + other.length + 15 := by
  rw [length_printObject]
  simp only [List.map_cons, List.map_nil, List.sum_cons, List.sum_nil]
  omega

theorem length_telemetryUpload_le (read : Measurements) : (telemetryUpload read).length ≤ 115 := by
  have net := length_printNumber_le read.net
  have bat := length_printNumber_le read.bat
  have com := length_printNumber_byte_le read.counterManual.toUInt8
  have coa := length_printNumber_byte_le read.counterAutomatic.toUInt8
  have cod := length_printNumber_byte_le read.counterDeltapress.toUInt8
  have cnd := length_printNumber_le read.tdsValue
  have keys : ∀ key ∈ ["net", "bat", "com", "coa", "cod", "ala", "not", "wrn", "cnd"],
      (ascii key).length = 3 := by decide +kernel
  rw [telemetryUpload, length_printObject]
  simp only [List.map_cons, List.map_nil, List.sum_cons, List.sum_nil, length_printString, length_hexByte,
    keys "net" (by decide), keys "bat" (by decide), keys "com" (by decide), keys "coa" (by decide),
    keys "cod" (by decide), keys "ala" (by decide), keys "not" (by decide), keys "wrn" (by decide),
    keys "cnd" (by decide)]
  omega

theorem length_productInfoUpdate_le (wifiApEnable : UInt8) :
    (productInfoUpdate wifiApEnable).length ≤ 25 := by
  have ap := length_printNumber_byte_le wifiApEnable
  have texts : (ascii "ver").length = 3 ∧ (ascii mcuVer).length = 6 ∧ (ascii "ap").length = 2 := by
    decide +kernel
  rw [productInfoUpdate, length_printObject]
  simp only [List.map_cons, List.map_nil, List.sum_cons, List.sum_nil, length_printString, texts.1,
    texts.2.1, texts.2.2]
  omega

/-- No payload comes near the limit; the longest is the telemetry. -/
theorem Message.length_payload_le (message : Message) : message.payload.length ≤ 115 := by
  cases message with
  | telemetryUpload read => exact length_telemetryUpload_le read
  | productInfoUpdate wifiApEnable => exact (length_productInfoUpdate_le wifiApEnable).trans (by decide)
  | deviceConfigPut key named value =>
      have digits := length_printNumber_le value
      rw [payload, Telemetry.deviceConfigPut, length_printNested, length_single (length_putKey named),
        length_names.1]
      omega
  | deviceInfoPut key named value =>
      have digits := length_printNumber_le value
      rw [payload, Telemetry.deviceInfoPut, length_printNested, length_single (length_putKey named),
        length_names.2]
      omega
  | deviceInfoPutBuffer kind array =>
      rw [payload, Telemetry.deviceInfoPutBuffer, length_printNested, length_single (length_kindKey kind),
        length_names.2, length_printString, length_arrayText]
      decide
  | reminderPut weeks days control =>
      have days := length_printNumber_le (weeks * 7 + days)
      have switch := length_printNumber_byte_le control
      rw [payload, reminderPutCallback, length_printNested,
        length_pair (length_putKey (by decide)) (length_putKey (by decide)), length_names.1]
      omega
  | automaticPut weeks days control =>
      have days := length_printNumber_le (weeks * 7 + days)
      have switch := length_printNumber_byte_le control
      rw [payload, automaticPutCallback, length_printNested,
        length_pair (length_putKey (by decide)) (length_putKey (by decide)), length_names.1]
      omega
  | ssdPut value =>
      have digits := length_printNumber_le value
      rw [payload, ssdPutCallback, length_printNested, length_single (length_putKey (by decide)),
        length_names.1]
      omega
  | mcuDpValueUpdate dpId value =>
      rw [payload, DataPoint.length_encode]
      simp [intToByte]
  | mcuDpStringUpdate kind array =>
      rw [payload, Telemetry.mcuDpStringUpdate, DataPoint.length_encode, length_arrayText]
      decide
  | report made => exact made.length_text_le.trans (by decide)

def putKey : Action → Option String
  | .deviceConfigPut key _ | .deviceInfoPut key _ => some key
  | _ => none

/-- Lists of calls whose keys are all known. -/
def KeysKnown (actions : List Action) : Prop := ∀ key ∈ actions.filterMap putKey, key ∈ putKeys

theorem keysKnown_append {first second : List Action} (known : KeysKnown first) (later : KeysKnown second) :
    KeysKnown (first ++ second) := by
  intro key member
  rw [List.filterMap_append, List.mem_append] at member
  rcases member with inFirst | inSecond
  · exact known key inFirst
  · exact later key inSecond

theorem keysKnown_nil : KeysKnown [] := fun _ member => absurd member List.not_mem_nil

theorem keysKnown_ite {condition : Prop} [Decidable condition] {actions : List Action} {after before : Ram}
    (known : KeysKnown actions) :
    KeysKnown (if condition then (after, actions) else (before, [])).2 := by
  split
  · exact known
  · exact keysKnown_nil

/-- The keys of the calls that a setting operation makes are among those of the messages. -/
theorem keysKnown_effect (ram : Ram) (op : Op) : KeysKnown (op.effect ram).2 := by
  have silent : ∀ {actions : List Action}, actions.filterMap putKey = [] → KeysKnown actions := by
    intro actions none key member
    rw [none] at member
    cases member
  have single : ∀ {actions : List Action} {key : String}, actions.filterMap putKey = [key] →
      key ∈ putKeys → KeysKnown actions := by
    intro actions key only known other member
    rw [only, List.mem_singleton] at member
    rw [member]
    exact known
  cases op with
  | moto reachesCycle => cases reachesCycle <;> exact keysKnown_nil
  | range value =>
      refine keysKnown_append (keysKnown_append (single rfl (by decide)) ?_) ?_
      · exact keysKnown_ite (silent rfl)
      · exact keysKnown_ite (silent rfl)
  | reminderSave week day enable =>
      simp only [Op.effect, Ram.userMain4Save]
      split
      · exact keysKnown_nil
      · refine keysKnown_append (keysKnown_append ?_ ?_) (silent rfl)
        · exact keysKnown_ite (silent rfl)
        · exact keysKnown_ite (silent rfl)
  | automaticSave week day enable =>
      simp only [Op.effect, Ram.userMain5Save]
      split
      · exact keysKnown_nil
      · refine keysKnown_append (keysKnown_append ?_ ?_) (silent rfl)
        · exact keysKnown_ite (silent rfl)
        · exact keysKnown_ite (silent rfl)
  | deltaSave enable => exact keysKnown_ite (silent rfl)
  | power value => exact keysKnown_ite (single rfl (by decide))
  | backwashtime value => exact single rfl (by decide)
  | tdslimit value => exact single rfl (by decide)
  | tdscalib value => exact single rfl (by decide)
  | remindTime value => exact single rfl (by decide)
  | autoTime value => exact single rfl (by decide)
  | switchRemind value => exact single rfl (by decide)
  | switchAuto value => exact single rfl (by decide)
  | switchDelta value => exact single rfl (by decide)
  | language value => exact single rfl (by decide)
  | telemetryInterval value => exact single rfl (by decide)
  | apTimeout value => exact single rfl (by decide)
  | reportInterval value => exact single rfl (by decide)
  | telemetryTimeout value => exact single rfl (by decide)
  | wifiApEnable value => exact single rfl (by decide)
  | _ => exact silent rfl

/-- The text that a call of a setting operation sends, if it sends one. -/
def sentText : Action → Option (List UInt8)
  | .deviceConfigPut key value => some (deviceConfigPut key value)
  | .deviceInfoPut key value => some (deviceInfoPut key value)
  | .reminderPut weeks days control => some (reminderPutCallback weeks days control)
  | .automaticPut weeks days control => some (automaticPutCallback weeks days control)
  | .ssdPut value => some (ssdPutCallback value)
  | _ => none

/-- Whatever a setting operation sends is one of the messages. -/
theorem sentText_message {ram : Ram} {op : Op} {action : Action} (made : action ∈ (op.effect ram).2)
    {text : List UInt8} (sent : sentText action = some text) : ∃ message : Message, message.payload = text := by
  have known := keysKnown_effect ram op
  cases action with
  | deviceConfigPut key value =>
      have named : key ∈ putKeys := known key (List.mem_filterMap.mpr ⟨_, made, rfl⟩)
      exact ⟨.deviceConfigPut key named value, Option.some.inj sent⟩
  | deviceInfoPut key value =>
      have named : key ∈ putKeys := known key (List.mem_filterMap.mpr ⟨_, made, rfl⟩)
      exact ⟨.deviceInfoPut key named value, Option.some.inj sent⟩
  | reminderPut weeks days control => exact ⟨.reminderPut weeks days control, Option.some.inj sent⟩
  | automaticPut weeks days control => exact ⟨.automaticPut weeks days control, Option.some.inj sent⟩
  | ssdPut value => exact ⟨.ssdPut value, Option.some.inj sent⟩
  | _ => cases sent

/-! ## Buffers -/

/-- `wifi_uart_tx_buf`: the head and `WIFIR_UART_SEND_BUF_LMT` bytes. -/
def txSize : Nat := protocolHead + 128

theorem wifiUartWriteFrame_keeps {txBuf : Nat → UInt8} {frType frVer : UInt8} {payload : List UInt8}
    (short : payload.length ≤ 128) {index : Nat} (outside : txSize ≤ index) :
    (wifiUartWriteFrame (setWifiUartBuffer txBuf 0 payload) frType frVer payload.length).1 index =
      txBuf index := by
  have behind : 135 ≤ index := outside
  have total : (payload.length + protocolHead) % 65536 = payload.length + 7 := by
    rw [protocolHead]
    omega
  have apart : ∀ cell < 135, index ≠ cell := fun cell below => by omega
  simp only [wifiUartWriteFrame, total]
  rw [Function.update_of_ne (apart _ (by omega)), Function.update_of_ne (apart 5 (by decide)),
    Function.update_of_ne (apart 4 (by decide)), Function.update_of_ne (apart 3 (by decide)),
    Function.update_of_ne (apart 2 (by decide)), Function.update_of_ne (apart 1 (by decide)),
    Function.update_of_ne (apart 0 (by decide)), setWifiUartBuffer, if_neg (by omega)]

/-- Every payload fits the transmit buffer and the 8-bit length, the frame built around it stays
inside that buffer, and every frame put into the queue fits its slot. -/
theorem payloads_fit :
    (∀ message : Message,
      message.payload.length ≤ 128 ∧
      (UInt8.ofNat message.payload.length).toNat = message.payload.length ∧
      ∀ (txBuf : Nat → UInt8) (frType frVer : UInt8) (index : Nat), txSize ≤ index →
        (wifiUartWriteFrame (setWifiUartBuffer txBuf 0 message.payload) frType frVer
          message.payload.length).1 index = txBuf index) ∧
    ∀ (txBuf : Nat → UInt8) (report : Report),
      (wifiUartWriteFrame (setWifiUartBuffer txBuf 0 report.text) report.frType 0
        (report.text.length % 256)).2.length ≤ 64 := by
  constructor
  · intro message
    have short := message.length_payload_le
    refine ⟨by omega, ?_, ?_⟩
    · rw [UInt8.toNat_ofNat']
      omega
    · intro txBuf frType frVer index outside
      exact wifiUartWriteFrame_keeps (by omega) outside
  · intro txBuf report
    have short := report.length_text_le
    rw [wifiUartWriteFrame_sends (by rw [protocolHead]; omega), length_encodeFrame, length_window, protocolHead]
    omega

end SyrFilter.Telemetry
