import SyrFilter.Lib.Mailbox
import SyrFilter.Lib.Runs
import SyrFilter.Uart.Frame

namespace SyrFilter.Telemetry

open SyrFilter.Lib SyrFilter.Uart

/-! # Reports

`alarm_upload` and `event_upload` write a frame to the WiFi UART while the
cloud is connected and to `telemetry_queue` while it is not.  The queue is
emptied by `telemetry_flush`, 64 bytes for each report, and reset by the
telemetry thread when an answer stays away.
-/

/-! ## Texts -/

def ascii (text : String) : List UInt8 := text.toUTF8.toList

/-- A digit of `%x`. -/
def hexDigit (digit : UInt8) : UInt8 := if digit < 10 then 0x30 + digit else 0x57 + digit

/-- `%02x` of one byte. -/
def hexByte (code : UInt8) : List UInt8 := [hexDigit (code / 16), hexDigit (code % 16)]

/-- `cJSON_PrintUnformatted` of an object of strings that need no escape. -/
def printUnformatted (members : List (List UInt8 × List UInt8)) : List UInt8 :=
  let member (item : List UInt8 × List UInt8) : List UInt8 :=
    ascii "\"" ++ item.1 ++ ascii "\":\"" ++ item.2 ++ ascii "\""
  ascii "\x7b" ++ ((members.map member).intersperse (ascii ",")).flatten ++ ascii "\x7d"

inductive Report where
  /-- `alarm_upload` -/
  | alarm (code group : UInt8)
  /-- `event_upload` -/
  | event (status : UInt8)
deriving DecidableEq, Repr

namespace Report

def groupMember (group : UInt8) : List (List UInt8 × List UInt8) :=
  if group = 0 then [(ascii "group", ascii "notification")]
  else if group = 1 then [(ascii "group", ascii "warning")]
  else if group = 2 then [(ascii "group", ascii "error")]
  else []

def text : Report → List UInt8
  | .alarm code group => printUnformatted ((ascii "alarm", hexByte code) :: groupMember group)
  | .event status =>
      printUnformatted [(ascii "event", ascii (if status ≠ 0 then "backwash.started" else "backwash.ended"))]

/-- `ALARM_CONTROL_CMD` and `EVENT_CONTROL_CMD` -/
def frType : Report → UInt8
  | .alarm _ _ => 0x20
  | .event _ => 0x21

/-- The complete frame of a report. -/
def frame (report : Report) : List UInt8 := encodeFrame report.frType 0 report.text

/-- No report comes near the size of a slot. -/
theorem length_text_le (report : Report) : report.text.length ≤ 37 := by
  cases report with
  | event status =>
      rw [text]
      split
      · decide +kernel
      · decide +kernel
  | alarm code group =>
      have hex : ∀ rest, (printUnformatted ((ascii "alarm", hexByte code) :: rest)).length =
          (printUnformatted ((ascii "alarm", [0, 0]) :: rest)).length := by
        intro rest
        cases rest with
        | nil => simp [printUnformatted, hexByte]
        | cons item others => simp [printUnformatted, hexByte]
      rw [text, hex, groupMember]
      split
      · decide +kernel
      split
      · decide +kernel
      split
      · decide +kernel
      · decide +kernel

example : text (.alarm 0x0a 1) = ascii "\x7b\"alarm\":\"0a\",\"group\":\"warning\"\x7d" := by decide +kernel

theorem length_frame_lt (report : Report) : report.frame.length < 64 := by
  have short := report.length_text_le
  rw [frame, length_encodeFrame, protocolHead]
  omega

end Report

/-! ## The sender -/

/-- What goes to the WiFi UART, told apart by what it is for. -/
inductive Write where
  | report (bytes : List UInt8)
  | other (bytes : List UInt8)
deriving DecidableEq, Repr

def Write.reportBytes : Write → List UInt8
  | .report bytes => bytes
  | .other _ => []

structure Reporter where
  wifiStatus : UInt8
  wifiOtaUpdateFlag : UInt8
  txBuf : Nat → UInt8
  telemetryQueue : Mailbox UInt8 64
  uart : List Write

namespace Reporter

variable (reporter : Reporter)

def writeData (write : Write) : Reporter := { reporter with uart := reporter.uart ++ [write] }

/-- `set_wifi_uart_buffer`, `set_wifi_uart_byte` -/
def setBuffer (bytes : List UInt8) : Reporter :=
  { reporter with txBuf := setWifiUartBuffer reporter.txBuf 0 bytes }

def wifiUartWriteQueue (frType frVer : UInt8) (len : Nat) : Reporter :=
  let built := wifiUartWriteFrame reporter.txBuf frType frVer len
  { reporter with txBuf := built.1, telemetryQueue := reporter.telemetryQueue.send built.2 }

/-- `alarm_upload` and `event_upload`.  Their length is 8 bits wide. -/
def upload (report : Report) : Reporter :=
  let filled := reporter.setBuffer report.text
  let length := report.text.length % 256
  if reporter.wifiStatus = 4 then
    let built := wifiUartWriteFrame filled.txBuf report.frType 0 length
    { filled with txBuf := built.1 }.writeData (.report built.2)
  else filled.wifiUartWriteQueue report.frType 0 length

/-- Any other frame through the same buffer. -/
def writeOther (frType : UInt8) (payload : List UInt8) : Reporter :=
  let built := wifiUartWriteFrame (reporter.setBuffer payload).txBuf frType 0 payload.length
  { reporter with txBuf := built.1 }.writeData (.other built.2)

/-- `wifi_ota_request` with `UPDATE_CONTROL_CMD` -/
def wifiOtaRequest (value : UInt8) : Reporter :=
  { reporter with wifiOtaUpdateFlag := 1 }.writeOther 0x1c [value]

def telemetryFlush : Reporter :=
  let drained := reporter.telemetryQueue.drain
  { reporter with telemetryQueue := drained.2, uart := reporter.uart ++ drained.1.map .report }

/-- `wifi_led` stores the state before anything else happens. -/
def wifiStatusChange (state : UInt8) : Reporter :=
  let led := { reporter with wifiStatus := state }
  if state = 4 then
    if led.wifiOtaUpdateFlag ≠ 0 then { led.wifiOtaRequest 2 with wifiOtaUpdateFlag := 0 }
    else led.telemetryFlush
  else led

/-- The telemetry thread when `telemetry_recv_sem` stays away. -/
def telemetryTimeout : Reporter := { reporter with telemetryQueue := reporter.telemetryQueue.reset }

def reportBytes : List UInt8 := reporter.uart.flatMap Write.reportBytes

end Reporter

inductive ReportEvent where
  | upload (report : Report)
  | telemetryTimeout
  | wifiStatusChange (state : UInt8)
  | wifiOtaRequest (value : UInt8)
  | otherFrame (frType : UInt8) (payload : List UInt8)
deriving DecidableEq, Repr

def Reporter.step (reporter : Reporter) : ReportEvent → Reporter
  | .upload report => reporter.upload report
  | .telemetryTimeout => reporter.telemetryTimeout
  | .wifiStatusChange state => reporter.wifiStatusChange state
  | .wifiOtaRequest value => reporter.wifiOtaRequest value
  | .otherFrame frType payload => reporter.writeOther frType payload

/-- `rt_mq_create` takes five slots from the heap and leaves what is in them. -/
def Reporter.boot (pool : Fin 5 → Slot UInt8 64) : Reporter where
  wifiStatus := 0
  wifiOtaUpdateFlag := 0
  txBuf := fun _ => 0
  telemetryQueue := .create (List.ofFn pool)
  uart := []

/-! ## What has been raised -/

/-- The sender, the reports raised so far and those of the present offline
period. -/
structure Ledger where
  reporter : Reporter
  raised : List Report
  offline : List Report

namespace Ledger

variable {ledger : Ledger}

def step (ledger : Ledger) (event : ReportEvent) : Ledger where
  reporter := ledger.reporter.step event
  raised :=
    match event with
    | .upload report => ledger.raised ++ [report]
    | _ => ledger.raised
  offline :=
    match event with
    | .upload report => if ledger.reporter.wifiStatus = 4 then ledger.offline else ledger.offline ++ [report]
    | .wifiStatusChange state => if state = 4 then [] else ledger.offline
    | _ => ledger.offline

def boot (pool : Fin 5 → Slot UInt8 64) : Ledger := { reporter := .boot pool, raised := [], offline := [] }

/-- The frames of all reports have been written in order, except for those of
the present offline period, which wait in the queue. -/
def Forwarded (ledger : Ledger) : Prop :=
  ledger.reporter.reportBytes ++ ledger.offline.flatMap Report.frame = ledger.raised.flatMap Report.frame ∧
    ledger.reporter.telemetryQueue.Holds (ledger.offline.map Report.frame)

/-- The queue is empty when the cloud is connected and when an answer stays away. -/
def QueueEmptied (ledger : Ledger) : ReportEvent → Prop
  | .telemetryTimeout => ledger.reporter.telemetryQueue.queued = []
  | .wifiStatusChange state => state = 4 → ledger.reporter.telemetryQueue.queued = []
  | _ => True

/-- What holds of every ledger: five slots, and no offline period while connected. -/
structure Kept (ledger : Ledger) : Prop where
  slots : ledger.reporter.telemetryQueue.slots = 5
  online : ledger.reporter.wifiStatus = 4 → ledger.offline = []

end Ledger

/-! ## One step -/

namespace Reporter

variable {reporter : Reporter}

/-- The frame that both ways out build. -/
theorem built_eq_frame (txBuf : Nat → UInt8) (report : Report) :
    (wifiUartWriteFrame (setWifiUartBuffer txBuf 0 report.text) report.frType 0 (report.text.length % 256)).2 =
      report.frame := by
  have short := report.length_text_le
  have length : report.text.length % 256 = report.text.length := Nat.mod_eq_of_lt (by omega)
  have fits : report.text.length + protocolHead < 65536 := by
    rw [protocolHead]
    omega
  rw [length, wifiUartWriteFrame_sends fits, window_setWifiUartBuffer]
  rfl

theorem upload_online (report : Report) (online : reporter.wifiStatus = 4) :
    (reporter.upload report).reportBytes = reporter.reportBytes ++ report.frame ∧
      (reporter.upload report).telemetryQueue = reporter.telemetryQueue ∧
      (reporter.upload report).wifiStatus = reporter.wifiStatus := by
  rw [upload, if_pos online]
  refine ⟨?_, rfl, rfl⟩
  rw [← built_eq_frame reporter.txBuf]
  simp [reportBytes, writeData, setBuffer, Write.reportBytes]

theorem upload_offline (report : Report) (offline : reporter.wifiStatus ≠ 4) :
    (reporter.upload report).reportBytes = reporter.reportBytes ∧
      (reporter.upload report).telemetryQueue = reporter.telemetryQueue.send report.frame ∧
      (reporter.upload report).wifiStatus = reporter.wifiStatus := by
  rw [upload, if_neg offline]
  refine ⟨rfl, ?_, rfl⟩
  rw [← built_eq_frame reporter.txBuf]
  rfl

theorem writeOther_reportBytes (frType : UInt8) (payload : List UInt8) :
    (reporter.writeOther frType payload).reportBytes = reporter.reportBytes := by
  simp [reportBytes, writeOther, writeData, Write.reportBytes]

theorem telemetryFlush_reportBytes :
    reporter.telemetryFlush.reportBytes = reporter.reportBytes ++ reporter.telemetryQueue.drain.1.flatten := by
  have written : ∀ messages : List (List UInt8),
      (messages.map Write.report).flatMap Write.reportBytes = messages.flatten := by
    intro messages
    induction messages with
    | nil => rfl
    | cons message rest ih => rw [List.map_cons, List.flatMap_cons, List.flatten_cons, ih]; rfl
  rw [reportBytes, telemetryFlush, List.flatMap_append, written]
  rfl

end Reporter

namespace Ledger

variable {ledger : Ledger}

theorem step_kept (kept : ledger.Kept) (event : ReportEvent) : (ledger.step event).Kept := by
  obtain ⟨slots, online⟩ := kept
  cases event with
  | upload report =>
      by_cases connected : ledger.reporter.wifiStatus = 4
      · obtain ⟨-, queue, status⟩ := Reporter.upload_online report connected
        refine ⟨(congrArg Mailbox.slots queue).trans slots, fun _ => ?_⟩
        exact (if_pos connected).trans (online connected)
      · obtain ⟨-, queue, status⟩ := Reporter.upload_offline report connected
        refine ⟨(congrArg Mailbox.slots queue).trans (Mailbox.slots_send.trans slots), fun now => ?_⟩
        exact absurd (status.symm.trans now) connected
  | telemetryTimeout => exact ⟨Mailbox.slots_reset.trans slots, online⟩
  | wifiStatusChange state =>
      by_cases connects : state = 4
      · refine ⟨?_, fun _ => if_pos connects⟩
        change (ledger.reporter.wifiStatusChange state).telemetryQueue.slots = 5
        rw [Reporter.wifiStatusChange, if_pos connects]
        dsimp only
        split
        · exact slots
        · exact Mailbox.drain_eq.2.2.trans slots
      · have led : ledger.reporter.wifiStatusChange state = { ledger.reporter with wifiStatus := state } :=
          if_neg connects
        refine ⟨(congrArg (fun reporter => reporter.telemetryQueue.slots) led).trans slots, fun now => ?_⟩
        exact absurd ((congrArg Reporter.wifiStatus led).symm.trans now) connects
  | wifiOtaRequest value => exact ⟨slots, online⟩
  | otherFrame frType payload => exact ⟨slots, online⟩

/-- An upload is forwarded: at once, or by waiting in the queue while there is room. -/
theorem upload_forwarded (kept : ledger.Kept) (forwarded : ledger.Forwarded) (report : Report)
    (few : (ledger.step (.upload report)).offline.length ≤ 5) : (ledger.step (.upload report)).Forwarded := by
  obtain ⟨written, waiting⟩ := forwarded
  by_cases connected : ledger.reporter.wifiStatus = 4
  · obtain ⟨bytes, queue, -⟩ := Reporter.upload_online report connected
    have none : ledger.offline = [] := kept.online connected
    have still : (ledger.step (.upload report)).offline = ledger.offline := if_pos connected
    rw [none] at written waiting
    rw [Forwarded, still, none]
    constructor
    · change (ledger.reporter.upload report).reportBytes ++ _ = (ledger.raised ++ [report]).flatMap _
      rw [bytes, List.flatMap_append, ← written]
      simp
    · change (ledger.reporter.upload report).telemetryQueue.Holds _
      rw [queue]
      exact waiting
  · obtain ⟨bytes, queue, -⟩ := Reporter.upload_offline report connected
    have added : (ledger.step (.upload report)).offline = ledger.offline ++ [report] := if_neg connected
    rw [added] at few
    rw [Forwarded, added, List.map_append, List.flatMap_append]
    constructor
    · change (ledger.reporter.upload report).reportBytes ++ _ = (ledger.raised ++ [report]).flatMap _
      rw [bytes, List.flatMap_append, ← written, List.append_assoc]
    · change (ledger.reporter.upload report).telemetryQueue.Holds _
      rw [queue]
      refine waiting.send (Nat.le_of_lt report.length_frame_lt) ?_
      rw [kept.slots, List.length_map]
      simp only [List.length_append, List.length_cons, List.length_nil] at few
      omega

theorem forwarded_of_silent {after : Ledger} (forwarded : ledger.Forwarded)
    (bytes : after.reporter.reportBytes = ledger.reporter.reportBytes)
    (queue : after.reporter.telemetryQueue = ledger.reporter.telemetryQueue)
    (raised : after.raised = ledger.raised) (offline : after.offline = ledger.offline) : after.Forwarded := by
  rw [Forwarded, bytes, queue, raised, offline]
  exact forwarded

/-- Nothing is outstanding. -/
theorem forwarded_of_settled (settled : ledger.offline = []) :
    ledger.Forwarded ↔
      ledger.reporter.reportBytes = ledger.raised.flatMap Report.frame ∧
        ledger.reporter.telemetryQueue.queued = [] := by
  rw [Forwarded, settled, List.flatMap_nil, List.append_nil]
  refine and_congr_right fun _ => ⟨fun holds => ?_, Mailbox.holds_of_empty⟩
  exact List.length_eq_zero_iff.mp holds.length.symm

theorem offline_eq_nil (forwarded : ledger.Forwarded) (empty : ledger.reporter.telemetryQueue.queued = []) :
    ledger.offline = [] := by
  have length := forwarded.2.length
  rw [empty, List.length_map] at length
  exact List.length_eq_zero_iff.mp length

theorem telemetryTimeout_forwarded_iff (forwarded : ledger.Forwarded) :
    (ledger.step .telemetryTimeout).Forwarded ↔ ledger.reporter.telemetryQueue.queued = [] := by
  constructor
  · intro kept
    have none : ledger.offline.map Report.frame = [] := List.length_eq_zero_iff.mp kept.2.length
    have length := forwarded.2.length
    rw [none] at length
    exact List.length_eq_zero_iff.mp length.symm
  · intro empty
    have none := offline_eq_nil forwarded empty
    rw [forwarded_of_settled (show (ledger.step .telemetryTimeout).offline = [] from none)]
    exact ⟨((forwarded_of_settled none).mp forwarded).1, rfl⟩

/-- Each report is shorter than the slot that is written for it, and nothing
is written for it when an update is under way. -/
theorem connected_forwarded_iff (forwarded : ledger.Forwarded) :
    (ledger.step (.wifiStatusChange 4)).Forwarded ↔ ledger.reporter.telemetryQueue.queued = [] := by
  rw [forwarded_of_settled (show (ledger.step (.wifiStatusChange 4)).offline = [] from rfl)]
  change (ledger.reporter.wifiStatusChange 4).reportBytes = ledger.raised.flatMap Report.frame ∧
    (ledger.reporter.wifiStatusChange 4).telemetryQueue.queued = [] ↔ _
  rw [Reporter.wifiStatusChange, if_pos rfl]
  dsimp only
  split
  · constructor
    · exact fun settled => settled.2
    · intro empty
      refine ⟨?_, empty⟩
      exact Reporter.writeOther_reportBytes _ _ |>.trans
        ((forwarded_of_settled (offline_eq_nil forwarded empty)).mp forwarded).1
  · have short : ∀ message ∈ ledger.offline.map Report.frame, message.length < 64 := by
      intro message member
      obtain ⟨report, -, rfl⟩ := List.mem_map.mp member
      exact report.length_frame_lt
    rw [← forwarded.2.drain_eq_iff short, Reporter.telemetryFlush_reportBytes, ← forwarded.1]
    constructor
    · rintro ⟨same, -⟩
      exact List.append_cancel_left same
    · intro same
      exact ⟨congrArg (_ ++ ·) same, Mailbox.drain_eq.2.1⟩

theorem step_forwarded_iff (kept : ledger.Kept) (forwarded : ledger.Forwarded) (event : ReportEvent)
    (few : (ledger.step event).offline.length ≤ 5) :
    (ledger.step event).Forwarded ↔ ledger.QueueEmptied event := by
  cases event with
  | upload report => exact iff_of_true (upload_forwarded kept forwarded report few) trivial
  | telemetryTimeout => exact telemetryTimeout_forwarded_iff forwarded
  | wifiStatusChange state =>
      by_cases connects : state = 4
      · subst connects
        rw [connected_forwarded_iff forwarded, QueueEmptied, forall_prop_of_true rfl]
      · have led : ledger.reporter.wifiStatusChange state = { ledger.reporter with wifiStatus := state } :=
          if_neg connects
        have bytes : (ledger.reporter.wifiStatusChange state).reportBytes = ledger.reporter.reportBytes := by
          rw [led]
          rfl
        have queue : (ledger.reporter.wifiStatusChange state).telemetryQueue = ledger.reporter.telemetryQueue := by
          rw [led]
        refine iff_of_true ?_ fun connected => absurd connected connects
        exact forwarded_of_silent forwarded bytes queue rfl (if_neg connects)
  | wifiOtaRequest value =>
      refine iff_of_true ?_ trivial
      exact forwarded_of_silent forwarded (Reporter.writeOther_reportBytes _ _) rfl rfl rfl
  | otherFrame frType payload =>
      refine iff_of_true ?_ trivial
      exact forwarded_of_silent forwarded (Reporter.writeOther_reportBytes _ _) rfl rfl rfl

end Ledger

/-! ## Runs -/

/-- With at most five reports in an offline period, every report is written
intact and in order in every state of a run exactly when no connection and no
missing answer finds a report in the queue. -/
theorem reports_forwarded_iff (pool : Fin 5 → Slot UInt8 64) (events : List ReportEvent)
    (few : Throughout Ledger.step (fun ledger => ledger.offline.length ≤ 5) (.boot pool) events) :
    Throughout Ledger.step Ledger.Forwarded (.boot pool) events ↔
      EachStep Ledger.step Ledger.QueueEmptied (.boot pool) events := by
  have fine : EachStep Ledger.step (fun ledger event => (ledger.step event).offline.length ≤ 5)
      (.boot pool) events := few.eachStep
  have kept : (Ledger.boot pool).Kept := by
    refine ⟨?_, fun _ => rfl⟩
    simp [Ledger.boot, Reporter.boot, Mailbox.create, Mailbox.slots]
  have forwarded : (Ledger.boot pool).Forwarded := ⟨rfl, Mailbox.holds_of_empty rfl⟩
  refine (and_iff_left fine).symm.trans ?_
  refine Iff.trans ?_ (eachStep_and_iff.trans (and_iff_left fine))
  apply throughout_and_eachStep_iff Ledger.Kept kept forwarded
  · exact fun ledger event kept _ _ => Ledger.step_kept kept event
  · intro ledger event kept forwarded
    exact and_congr_left fun few => Ledger.step_forwarded_iff kept forwarded event few

/-- A pool of cleared slots. -/
def clearedPool : Fin 5 → Slot UInt8 64 := fun _ => { cells := List.replicate 64 0, full := List.length_replicate }

/-- A report while connected, then one that is still waiting. -/
theorem reports_forwarded_connected :
    Throughout Ledger.step (fun ledger => ledger.offline.length ≤ 5) (.boot clearedPool)
        [.wifiStatusChange 4, .upload (.event 1), .wifiStatusChange 2, .upload (.alarm 8 1)] ∧
      Throughout Ledger.step Ledger.Forwarded (.boot clearedPool)
        [.wifiStatusChange 4, .upload (.event 1), .wifiStatusChange 2, .upload (.alarm 8 1)] := by
  have few : Throughout Ledger.step (fun ledger => ledger.offline.length ≤ 5) (.boot clearedPool)
      [.wifiStatusChange 4, .upload (.event 1), .wifiStatusChange 2, .upload (.alarm 8 1)] := by
    simp only [throughout_cons, throughout_nil]
    decide +kernel
  refine ⟨few, (reports_forwarded_iff clearedPool _ few).mpr ?_⟩
  simp only [eachStep_cons, eachStep_nil, Ledger.QueueEmptied]
  decide +kernel

/-- The start of a backwash is written with 29 bytes behind it. -/
theorem padded_report :
    Throughout Ledger.step (fun ledger => ledger.offline.length ≤ 5) (.boot clearedPool)
        [.upload (.event 1), .wifiStatusChange 4] ∧
      ¬Throughout Ledger.step Ledger.Forwarded (.boot clearedPool) [.upload (.event 1), .wifiStatusChange 4] := by
  constructor
  · simp only [throughout_cons, throughout_nil]
    decide +kernel
  · intro holds
    have raised : (Ledger.step (.boot clearedPool) (.upload (.event 1))).Forwarded := holds 1
    have connected := holds 2
    have queued := (Ledger.connected_forwarded_iff raised).mp connected
    have length := congrArg List.length queued
    revert length
    decide +kernel

end SyrFilter.Telemetry
