import SyrFilter.Tds.Scan
import SyrFilter.Uart.Service

namespace SyrFilter.Tds

open SyrFilter.Lib
open SyrFilter.Uart (window_moved)

/-! # Calls of `tds_uart_service`

The call takes what fits from the ring, scans buffer and new bytes together,
and moves what is left to the start of the buffer.  The stream it has been
given is what its calls took from the ring, in whatever pieces.
-/

def Dispatch.bytes (dispatch : Dispatch) : List UInt8 :=
  window dispatch.memory dispatch.offset (max (rxValueLen dispatch.memory dispatch.offset + 1) 6)

/-- The value `tds_handle` stores is a matter of these bytes. -/
theorem tdsHandle_congr {first second : Dispatch} (same : first.bytes = second.bytes) :
    tdsHandle first.memory first.offset = tdsHandle second.memory second.offset := by
  have byte : ∀ position < 6,
      first.memory (first.offset + position) = second.memory (second.offset + position) := by
    intro position below
    have read := congrArg (fun bytes => bytes[position]?) same
    simp only [Dispatch.bytes] at read
    rw [getElem?_window (by omega), getElem?_window (by omega)] at read
    exact Option.some.inj read
  rw [tdsHandle, tdsHandle, byte 2 (by decide), byte 4 (by decide), byte 5 (by decide)]

namespace Receiver

variable {receiver : Receiver} {room : Nat} {around : Nat → UInt8} {event : Event} {events : List Event}

def residue (receiver : Receiver) : List UInt8 := window receiver.buf 0 receiver.rxIn

/-- The bytes a call takes from the ring. -/
def taken (receiver : Receiver) : Event → List UInt8
  | .receive _ => []
  | .service _ =>
      if receiver.hung then []
      else window receiver.filled.buf receiver.rxIn (receiver.filled.rxIn - receiver.rxIn)

/-- The stream delivered to the calls of a run. -/
def delivered : Receiver → List Event → List UInt8
  | _, [] => []
  | receiver, event :: rest => receiver.taken event ++ delivered (receiver.step event) rest

/-- What the next call scans. -/
def scanned (receiver : Receiver) : List UInt8 := receiver.filled.residue

/-- The scan of a call stays within the bytes received and moves on to its end,
and the buffer is not left full. -/
def ScansWithin (receiver : Receiver) : Event → Prop
  | .receive _ => True
  | .service around =>
      (protocolHead ≤ receiver.filled.rxIn →
        ScanWithin (processByte receiver.filled.buf around) receiver.filled.rxIn) ∧
      (receiver.step (.service around)).rxIn < bufSize

/-- No header the scan comes to declares length 0, or exactly the bytes
received from it on. -/
def Unambiguous (receiver : Receiver) : Event → Prop
  | .receive _ => True
  | .service _ => ∀ rest, tdsFrames.Visits receiver.scanned rest → ¬IsOverread rest

/-! ## The fill loop -/

/-- The loop appends to what the buffer holds and touches nothing else. -/
structure Filled (room : Nat) (before after : Receiver) : Prop where
  rxIn_ge : before.rxIn ≤ after.rxIn
  rxIn_le : after.rxIn ≤ before.rxIn + room
  kept : window after.buf 0 before.rxIn = before.residue
  handled : after.handled = before.handled
  hung : after.hung = before.hung

theorem fill_filled (room : Nat) : Filled room receiver (receiver.fill room) := by
  induction room generalizing receiver with
  | zero => exact ⟨Nat.le_refl _, Nat.le_refl _, rfl, rfl, rfl⟩
  | succ room ih =>
      rw [fill]
      split
      · have next := @ih
          { receiver with
            buf := Function.update receiver.buf receiver.rxIn receiver.queueReadByte.1
            ring := receiver.queueReadByte.2
            rxIn := receiver.rxIn + 1 }
        have lower := next.rxIn_ge
        have upper := next.rxIn_le
        have kept := next.kept
        dsimp only [residue] at lower upper kept
        rw [window_snoc, window_snoc] at kept
        refine ⟨by omega, by omega, ?_, next.handled, next.hung⟩
        rw [List.append_inj_left' kept rfl, window_update _ (by omega)]
        rfl
      · exact ⟨Nat.le_refl _, Nat.le_add_right _ _, rfl, rfl, rfl⟩

theorem filled_spec : Filled (bufSize - receiver.rxIn) receiver receiver.filled := fill_filled _

theorem rxIn_filled_le (inBuffer : receiver.rxIn ≤ bufSize) : receiver.filled.rxIn ≤ bufSize := by
  have bound := (@filled_spec receiver).rxIn_le
  omega

theorem scanned_eq (running : receiver.hung = false) :
    receiver.scanned = receiver.residue ++ receiver.taken (.service around) := by
  have spec := @filled_spec receiver
  have split : receiver.filled.rxIn = receiver.rxIn + (receiver.filled.rxIn - receiver.rxIn) := by
    have lower := spec.rxIn_ge
    omega
  rw [scanned, residue, split, window_add, spec.kept, taken, running, Nat.zero_add]
  simp

/-! ## One call -/

theorem processByte_of_lt {buf : Nat → UInt8} {index : Nat} (inside : index < bufSize) :
    processByte buf around index = buf index := if_pos inside

theorem window_processByte {buf : Nat → UInt8} {start count : Nat} (inside : start + count ≤ bufSize) :
    window (processByte buf around) start count = window buf start count := by
  apply window_congr
  intro i below
  exact processByte_of_lt (by omega)

theorem received_filled (inBuffer : receiver.rxIn ≤ bufSize) :
    received (processByte receiver.filled.buf around) receiver.filled.rxIn 0 = receiver.scanned := by
  have inRange := rxIn_filled_le inBuffer
  rw [received, Nat.sub_zero, window_processByte (by omega)]
  rfl

/-- What a call does when the scan comes to no ambiguous header. -/
structure Serviced (before after : Receiver) : Prop where
  residue : after.residue = (tdsFrames.parse before.scanned).2
  handled : after.handled.map Dispatch.bytes =
    before.handled.map Dispatch.bytes ++ tdsFrames.views handed before.scanned
  hung : after.hung = before.hung
  rxIn_le : after.rxIn ≤ bufSize

theorem bytes_eq_handed {memory : Nat → UInt8} {rxIn start count : Nat}
    (emits : tdsFrames.decide (received memory rxIn start) = .emit count) :
    (Dispatch.mk memory start).bytes = handed (received memory rxIn start) := by
  obtain ⟨long, whole⟩ := decideFrame_emit emits
  rw [length_received] at long whole
  rw [declaredLen_received long] at whole
  have enough : 11 ≤ rxIn - start := long
  rw [Dispatch.bytes, handed, declaredLen_received long, received, take_window (by omega)]

theorem tdsUartService_serviced (inBuffer : receiver.rxIn ≤ bufSize)
    (unambiguous : receiver.Unambiguous (.service around)) :
    Serviced receiver (receiver.tdsUartService around) := by
  have spec := @filled_spec receiver
  have inRange := rxIn_filled_le inBuffer
  have seen := @received_filled receiver around inBuffer
  rw [tdsUartService]
  by_cases short : receiver.filled.rxIn < protocolHead
  · have waits : tdsFrames.decide receiver.scanned = .wait := by
      refine if_pos ?_
      rw [← seen, length_received]
      exact short
    rw [if_pos short]
    refine ⟨?_, ?_, spec.hung, inRange⟩
    · rw [Framer.parse_wait waits]
      rfl
    · rw [Framer.views_wait waits, spec.handled, List.append_nil]
  · have visits : ∀ rest, tdsFrames.Visits
        (received (processByte receiver.filled.buf around) receiver.filled.rxIn 0) rest →
          ¬IsOverread rest := by
      rw [seen]
      exact unambiguous
    obtain ⟨stop, found, ends, inside, left, views, emits⟩ :=
      scan_follows.scanLoop_eq_parse (receiver.filled.rxIn + 1) (Nat.zero_le receiver.filled.rxIn)
        (by omega) visits
    have fits : stop + (receiver.filled.rxIn - stop) ≤ bufSize := by omega
    have frameOf : ∀ start ∈ found,
        (Dispatch.mk (processByte receiver.filled.buf around) start).bytes =
          handed (received (processByte receiver.filled.buf around) receiver.filled.rxIn start) := by
      intro start member
      obtain ⟨count, emit⟩ := emits start member
      exact bytes_eq_handed emit
    have shown := views handed
    rw [seen] at left shown
    rw [if_neg short, scan, ends]
    refine ⟨?_, ?_, spec.hung, Nat.le_trans (Nat.sub_le _ _) inRange⟩
    · rw [← left, received, window_processByte fits]
      exact window_moved
    · rw [← shown, List.map_append, List.map_map, spec.handled]
      exact congrArg _ (List.map_congr_left frameOf)

/-- Bytes that the format waits on do not fill the buffer, unless the header
they start with is ambiguous. -/
theorem length_lt_of_wait {bytes : List UInt8} (waits : decideFrame bytes = .wait)
    (sound : ¬IsOverread bytes) : bytes.length < bufSize := by
  revert waits
  fun_cases decideFrame bytes <;> intro waits <;> cases waits
  · rename_i short
    exact Nat.lt_trans short (by decide)
  · rename_i long first _ nothing
    exact absurd ⟨by omega, not_not.mp first, .inl nothing⟩ sound
  · rename_i long first fits _ missing
    have distinct : declaredLen bytes ≠ bytes.length := fun all =>
      sound ⟨by omega, not_not.mp first, .inr all⟩
    omega

theorem visits_residue (bytes : List UInt8) : tdsFrames.Visits bytes (tdsFrames.parse bytes).2 := by
  have whole := @Framer.Visits.of_residue _ tdsFrames bytes [] (tdsFrames.parse bytes).2
  rw [List.append_nil, List.append_nil] at whole
  exact whole (.here _)

theorem Serviced.rxIn_lt {after : Receiver} (serviced : Serviced receiver after)
    (unambiguous : receiver.Unambiguous (.service around)) : after.rxIn < bufSize := by
  have length : after.residue.length = after.rxIn := length_window
  rw [← length, serviced.residue]
  have waits : tdsFrames.decide (tdsFrames.parse receiver.scanned).2 = .wait := Framer.decide_residue _
  exact length_lt_of_wait waits (unambiguous _ (visits_residue _))

theorem service_scansWithin_iff (inBuffer : receiver.rxIn ≤ bufSize) (running : receiver.hung = false) :
    receiver.ScansWithin (.service around) ↔ receiver.Unambiguous (.service around) := by
  have seen := @received_filled receiver around inBuffer
  have within := @scanWithin_iff (processByte receiver.filled.buf around) _ (rxIn_filled_le inBuffer)
  rw [seen] at within
  constructor
  · rintro ⟨scans, -⟩ rest visits overread
    have long : protocolHead ≤ receiver.filled.rxIn := by
      have shorter := Nat.le_trans overread.1 visits.length_le
      rwa [← seen, length_received] at shorter
    exact within.mp (scans long) rest visits overread
  · intro unambiguous
    refine ⟨fun _ => within.mpr unambiguous, ?_⟩
    rw [step, running]
    exact (tdsUartService_serviced inBuffer unambiguous).rxIn_lt unambiguous

/-! ## Runs -/

/-- The receiver is where the format leaves a stream it has been given. -/
structure Tracks (receiver : Receiver) (stream : List UInt8) : Prop where
  inBuffer : receiver.rxIn ≤ bufSize
  running : receiver.hung = false
  residue : receiver.residue = (tdsFrames.parse stream).2
  handled : receiver.handled.map Dispatch.bytes = tdsFrames.views handed stream

theorem tdsServiceInit_tracks (cells buf : Nat → UInt8) : (tdsServiceInit cells buf).Tracks [] := by
  have waits : tdsFrames.decide [] = .wait := rfl
  refine ⟨Nat.zero_le _, rfl, ?_, ?_⟩
  · rw [Framer.parse_wait waits]
    rfl
  · rw [Framer.views_wait waits]
    rfl

theorem Tracks.step {stream : List UInt8} (tracks : receiver.Tracks stream)
    (unambiguous : receiver.Unambiguous event) :
    (receiver.step event).Tracks (stream ++ receiver.taken event) := by
  cases event with
  | receive value =>
      rw [taken, List.append_nil]
      exact ⟨tracks.inBuffer, tracks.running, tracks.residue, tracks.handled⟩
  | service around =>
      have serviced := tdsUartService_serviced tracks.inBuffer unambiguous
      have scans := @scanned_eq receiver around tracks.running
      have awake : receiver.step (.service around) = receiver.tdsUartService around := by
        rw [Receiver.step, tracks.running]
        rfl
      rw [awake]
      refine ⟨serviced.rxIn_le, serviced.hung.trans tracks.running, ?_, ?_⟩
      · rw [serviced.residue, scans, tracks.residue, Framer.parse_append stream]
      · rw [serviced.handled, scans, tracks.residue, tracks.handled,
          Framer.views_append handed_settled stream]

theorem Tracks.run {stream : List UInt8} (tracks : receiver.Tracks stream)
    (unambiguous : EachStep Receiver.step Unambiguous receiver events) :
    (Lib.run Receiver.step receiver events).Tracks (stream ++ receiver.delivered events) := by
  induction events generalizing receiver stream with
  | nil =>
      rw [delivered, List.append_nil]
      exact tracks
  | cons event rest ih =>
      obtain ⟨now, later⟩ := eachStep_cons.mp unambiguous
      rw [delivered, ← List.append_assoc]
      exact ih (tracks.step now) later

theorem scansWithin_iff (cells buf : Nat → UInt8) :
    EachStep step ScansWithin (tdsServiceInit cells buf) events ↔
      EachStep step Unambiguous (tdsServiceInit cells buf) events := by
  have always : Throughout step (fun _ => True) (tdsServiceInit cells buf) events := fun _ => trivial
  refine (and_iff_right always).symm.trans ?_
  apply throughout_and_eachStep_iff (fun receiver => ∃ stream, receiver.Tracks stream)
    ⟨_, tdsServiceInit_tracks cells buf⟩ trivial
  · rintro receiver event ⟨stream, tracks⟩ _ unambiguous
    exact ⟨_, tracks.step unambiguous⟩
  · rintro receiver event ⟨stream, tracks⟩ _
    refine (and_iff_right trivial).trans ?_
    cases event with
    | receive value => exact Iff.rfl
    | service around => exact service_scansWithin_iff tracks.inBuffer tracks.running

end Receiver

/-! ## Results -/

/-- Two deliveries, in any pieces: both scans stay within what was received,
and one stream leads to one sequence of frames, exactly when neither run comes
to a header that declares length 0 or just the bytes received. -/
theorem tdsScan_iff (cells buf cells' buf' : Nat → UInt8) (events events' : List Event) :
    ((EachStep Receiver.step Receiver.ScansWithin (tdsServiceInit cells buf) events ∧
        EachStep Receiver.step Receiver.ScansWithin (tdsServiceInit cells' buf') events') ∧
      ((tdsServiceInit cells buf).delivered events = (tdsServiceInit cells' buf').delivered events' →
        (run Receiver.step (tdsServiceInit cells buf) events).handled.map Dispatch.bytes =
          (run Receiver.step (tdsServiceInit cells' buf') events').handled.map Dispatch.bytes)) ↔
      EachStep Receiver.step Receiver.Unambiguous (tdsServiceInit cells buf) events ∧
        EachStep Receiver.step Receiver.Unambiguous (tdsServiceInit cells' buf') events' := by
  rw [Receiver.scansWithin_iff, Receiver.scansWithin_iff]
  refine and_iff_left_of_imp ?_
  rintro ⟨first, second⟩ same
  have tracks := (Receiver.tdsServiceInit_tracks cells buf).run first
  have tracks' := (Receiver.tdsServiceInit_tracks cells' buf').run second
  rw [tracks.handled, tracks'.handled, same]

/-- A frame of declared length 11, its twelfth byte the checksum. -/
def longFrame : List UInt8 := [0x55, 11, 0x85, 0, 1, 2, 0, 0, 0, 0, 0, 232]

def wholeDelivery : List Event := longFrame.map .receive ++ [.service fun _ => 0]

/-- The same frame with a call before its last byte. -/
def cutDelivery : List Event :=
  (longFrame.take 11).map .receive ++
    [.service fun _ => 0, .receive 232, .service fun _ => 0]

theorem tdsScan_depends_on_chunking :
    ¬((EachStep Receiver.step Receiver.ScansWithin (tdsServiceInit (fun _ => 0) fun _ => 0) wholeDelivery ∧
        EachStep Receiver.step Receiver.ScansWithin (tdsServiceInit (fun _ => 0) fun _ => 0) cutDelivery) ∧
      ((tdsServiceInit (fun _ => 0) fun _ => 0).delivered wholeDelivery =
          (tdsServiceInit (fun _ => 0) fun _ => 0).delivered cutDelivery →
        (run Receiver.step (tdsServiceInit (fun _ => 0) fun _ => 0) wholeDelivery).handled.map
            Dispatch.bytes =
          (run Receiver.step (tdsServiceInit (fun _ => 0) fun _ => 0) cutDelivery).handled.map
            Dispatch.bytes)) := by
  rintro ⟨-, agree⟩
  have same : (tdsServiceInit (fun _ => 0) fun _ => 0).delivered wholeDelivery =
      (tdsServiceInit (fun _ => 0) fun _ => 0).delivered cutDelivery := by decide +kernel
  have equal := congrArg List.length (agree same)
  revert equal
  decide +kernel

end SyrFilter.Tds
