import SyrFilter.Uart.Service

namespace SyrFilter.Uart

open SyrFilter.Lib

/-! # Streams through the receiver

However a stream is cut up and whenever `wifi_uart_service` runs, the receiver
finds the frames that `frames` finds in the whole stream.  For a stream of sent
frames these are the sent frames.
-/

def delivered (events : List Event) : List UInt8 :=
  events.filterMap fun event =>
    match event with
    | .receive value => some value
    | .service _ => none

/-- The ring has room for the byte that arrives. -/
def Receiver.Lossless (receiver : Receiver) : Event → Prop
  | .receive _ => receiver.ring.Accepts processSize
  | .service _ => True

instance (receiver : Receiver) (event : Event) : Decidable (receiver.Lossless event) := by
  cases event with
  | receive value => exact inferInstanceAs (Decidable (RingBuffer.Accepts _ _))
  | service around => exact inferInstanceAs (Decidable True)

/-- Every header the scan of a stream comes to declares less than 65529 bytes. -/
def DeclaresBelowWrap (stream : List UInt8) : Prop :=
  ∀ rest, frames.Visits stream rest → IsHeader rest → declaredLen rest < 65529

theorem declaresBelowWrap_of_tails {stream : List UInt8}
    (declares : ∀ rest ∈ stream.tails, IsHeader rest → declaredLen rest < 65529) : DeclaresBelowWrap stream :=
  fun rest visits => declares rest ((List.mem_tails rest stream).mpr visits.isSuffix)

/-- The events bring a stream to a fresh receiver without loss, and the ring is
read empty in the end. -/
structure Delivery (cells buf : Nat → UInt8) (events : List Event) (stream : List UInt8) : Prop where
  delivers : delivered events = stream
  lossless : EachStep Receiver.step Receiver.Lossless (wifiProtocolInit cells buf) events
  drained : (run Receiver.step (wifiProtocolInit cells buf) events).ring.queueIn =
    (run Receiver.step (wifiProtocolInit cells buf) events).ring.queueOut

theorem not_wrapped_of_residue {consumed next future rest : List UInt8}
    (declares : DeclaresBelowWrap (consumed ++ next ++ future))
    (visits : frames.Visits ((frames.parse consumed).2 ++ next) rest) : ¬IsWrapped rest := by
  intro wrapped
  obtain ⟨header, declared⟩ := wrapped
  have below := declares _ (visits.of_residue.append future) (header.append future)
  rw [declaredLen_append header.1] at below
  omega

theorem length_lt_of_wait {bytes : List UInt8} (waits : frames.decide bytes = .wait) :
    bytes.length < processSize := by
  change decideFrame bytes = .wait at waits
  rw [decideFrame] at waits
  split at waits
  · rename_i short
    rw [protocolHead] at short
    rw [processSize]
    omega
  · split at waits
    · cases waits
    split at waits
    · cases waits
    split at waits
    · cases waits
    split at waits
    · omega
    · split at waits
      · cases waits
      split at waits <;> cases waits

namespace Receiver

variable {receiver : Receiver} {received : List UInt8}

/-- The receiver has handled the frames of what it has taken from the ring. -/
structure Tracks (receiver : Receiver) (consumed : List UInt8) : Prop where
  sound : receiver.Sound
  running : receiver.hung = false
  residue : receiver.residue = (frames.parse consumed).2
  handled : receiver.handled.map Dispatch.bytes = (frames.parse consumed).1

theorem Tracks.rxIn_lt {consumed : List UInt8} (tracks : receiver.Tracks consumed) :
    receiver.rxIn < processSize := by
  have length : receiver.residue.length = receiver.rxIn := length_window
  rw [← length, tracks.residue]
  exact length_lt_of_wait (Framer.decide_residue consumed)

theorem Tracks.receive {consumed : List UInt8} (tracks : receiver.Tracks consumed) (value : UInt8) :
    (receiver.step (.receive value)).Tracks consumed :=
  ⟨step_sound tracks.sound _, tracks.running, tracks.residue, tracks.handled⟩

theorem waiting_receive (sound : receiver.Sound) {value : UInt8}
    (room : receiver.ring.Accepts processSize) :
    (receiver.step (.receive value)).waiting = receiver.waiting ++ [value] :=
  RingBuffer.contents_put (by decide) (by decide) sound.ring room
    (RingBuffer.not_lapping (by decide) room)

theorem Tracks.service {consumed future : List UInt8} (tracks : receiver.Tracks consumed)
    (declares : DeclaresBelowWrap (consumed ++ receiver.waiting ++ future)) (around : Int → UInt8) :
    ∃ taken, consumed ++ receiver.waiting =
        taken ++ (receiver.step (.service around)).waiting ∧
      (receiver.step (.service around)).Tracks taken := by
  have split := List.take_append_drop (processSize - receiver.rxIn) receiver.waiting
  have scansSound : receiver.ScansSound := by
    intro rest visits
    rw [scanned, tracks.residue] at visits
    rw [← split, ← List.append_assoc consumed, List.append_assoc _ _ future] at declares
    exact not_wrapped_of_residue declares visits
  have awake : receiver.step (.service around) = receiver.wifiUartService around :=
    if_neg (by rw [tracks.running]; decide)
  have serviced := wifiUartService_serviced tracks.sound scansSound around
  rw [awake]
  refine ⟨consumed ++ receiver.waiting.take (processSize - receiver.rxIn), ?_, ?_⟩
  · rw [serviced.waiting, List.append_assoc, split]
  · refine ⟨wifiUartService_sound tracks.sound around, serviced.hung.trans tracks.running, ?_, ?_⟩
    · rw [serviced.residue, scanned, tracks.residue, Framer.parse_append consumed]
    · rw [serviced.handled, scanned, tracks.residue, tracks.handled, Framer.parse_append consumed]

/-- A run keeps track of what it has taken from the ring. -/
theorem Tracks.run {consumed future stream : List UInt8} {events : List Event}
    (tracks : receiver.Tracks consumed) (declares : DeclaresBelowWrap stream)
    (whole : consumed ++ receiver.waiting ++ (delivered events ++ future) = stream)
    (lossless : EachStep Receiver.step Lossless receiver events) :
    ∃ taken, taken ++ (Lib.run Receiver.step receiver events).waiting ++ future = stream ∧
      (Lib.run Receiver.step receiver events).Tracks taken := by
  induction events generalizing receiver consumed with
  | nil => exact ⟨consumed, whole, tracks⟩
  | cons event rest ih =>
      obtain ⟨now, later⟩ := eachStep_cons.mp lossless
      cases event with
      | receive value =>
          refine ih (tracks.receive value) ?_ later
          rw [waiting_receive tracks.sound now, ← whole]
          simp [delivered]
      | service around =>
          have declaresHere : DeclaresBelowWrap
              (consumed ++ receiver.waiting ++ (delivered rest ++ future)) := by
            have same : consumed ++ receiver.waiting ++ (delivered rest ++ future) = stream := whole
            rwa [same]
          obtain ⟨taken, kept, tracksTaken⟩ := tracks.service declaresHere around
          refine ih tracksTaken ?_ later
          rw [← kept]
          exact whole

end Receiver

theorem wifiProtocolInit_tracks (cells buf : Nat → UInt8) : (wifiProtocolInit cells buf).Tracks [] := by
  have waits : frames.decide [] = .wait := rfl
  refine ⟨Receiver.wifiProtocolInit_sound cells buf, rfl, ?_, ?_⟩
  · rw [Framer.parse_wait waits]
    rfl
  · rw [Framer.parse_wait waits]
    rfl

namespace Delivery

variable {cells buf : Nat → UInt8} {events : List Event} {stream : List UInt8}

theorem tracks (delivery : Delivery cells buf events stream) (declares : DeclaresBelowWrap stream) :
    (run Receiver.step (wifiProtocolInit cells buf) events).Tracks stream := by
  have whole : [] ++ (wifiProtocolInit cells buf).waiting ++ (delivered events ++ []) = stream := by
    rw [List.append_nil, delivery.delivers]
    rfl
  obtain ⟨taken, same, tracks⟩ :=
    (wifiProtocolInit_tracks cells buf).run declares whole delivery.lossless
  have empty : (run Receiver.step (wifiProtocolInit cells buf) events).waiting = [] :=
    (RingBuffer.contents_eq_nil_iff tracks.sound.ring).mpr delivery.drained
  rw [empty, List.append_nil, List.append_nil] at same
  exact same ▸ tracks

theorem rxIn_lt (delivery : Delivery cells buf events stream) (declares : DeclaresBelowWrap stream) :
    Throughout Receiver.step (fun receiver => receiver.rxIn < processSize)
      (wifiProtocolInit cells buf) events := by
  intro count
  have whole : [] ++ (wifiProtocolInit cells buf).waiting ++
      (delivered (events.take count) ++ delivered (events.drop count)) = stream := by
    rw [← delivery.delivers, delivered, delivered, ← List.filterMap_append, List.take_append_drop]
    rfl
  obtain ⟨taken, _, tracks⟩ :=
    (wifiProtocolInit_tracks cells buf).run declares whole (delivery.lossless.take count)
  exact tracks.rxIn_lt

end Delivery

/-! ## Streams of sent frames -/

theorem decide_bytes (frame : Frame) (tail : List UInt8) :
    frames.decide (frame.bytes ++ tail) = .emit frame.bytes.length := by
  have bound := frame.fits
  rw [Frame.bytes, length_encodeFrame]
  apply decideFrame_encodeFrame
  rw [protocolHead, processSize]
  omega

theorem parse_sent (sent : List Frame) :
    frames.parse (sent.map Frame.bytes).flatten = (sent.map Frame.bytes, []) := by
  induction sent with
  | nil => exact Framer.parse_wait rfl
  | cons frame rest ih =>
      rw [List.map_cons, List.flatten_cons, Framer.parse_emit (decide_bytes frame _),
        List.take_left, List.drop_left, ih]

theorem declaresBelowWrap_sent (sent : List Frame) :
    DeclaresBelowWrap (sent.map Frame.bytes).flatten := by
  intro rest visits header
  induction sent with
  | nil =>
      have short := Nat.le_trans header.1 visits.length_le
      exact absurd short (by decide)
  | cons frame later ih =>
      have bound := frame.fits
      rw [List.map_cons, List.flatten_cons] at visits
      cases visits with
      | here =>
          rw [Frame.bytes, declaredLen_encodeFrame (by omega)]
          omega
      | later moves visits =>
          rw [decide_bytes] at moves
          cases moves
          rw [List.drop_left] at visits
          exact ih visits

def heartCheck : Frame := { frType := 0x0a, frVer := 0, payload := [], fits := by decide }

/-- A frame that carries another. -/
def nestedCheck : Frame := { frType := 0x0d, frVer := 0, payload := heartCheck.bytes, fits := by decide }

/-- A stream that arrives in two pieces, with a call behind each. -/
def inPieces (cut : Nat) (stream : List UInt8) : List Event :=
  (stream.take cut).map .receive ++ (.service fun _ => 0) :: (stream.drop cut).map .receive ++ [.service fun _ => 0]

/-! ## Results -/

/-- Two ways to deliver one stream lead to the same frames handled and the same
bytes left over, and neither ever leaves the buffer full. -/
theorem frames_independent_of_chunking {stream : List UInt8} {cells buf cells' buf' : Nat → UInt8}
    {events events' : List Event} (declares : DeclaresBelowWrap stream)
    (delivery : Delivery cells buf events stream) (delivery' : Delivery cells' buf' events' stream) :
    ((run Receiver.step (wifiProtocolInit cells buf) events).handled.map Dispatch.bytes =
        (run Receiver.step (wifiProtocolInit cells' buf') events').handled.map Dispatch.bytes ∧
      (run Receiver.step (wifiProtocolInit cells buf) events).residue =
        (run Receiver.step (wifiProtocolInit cells' buf') events').residue) ∧
      Throughout Receiver.step (fun receiver => receiver.rxIn < processSize)
        (wifiProtocolInit cells buf) events ∧
      Throughout Receiver.step (fun receiver => receiver.rxIn < processSize)
        (wifiProtocolInit cells' buf') events' := by
  have tracks := delivery.tracks declares
  have tracks' := delivery'.tracks declares
  refine ⟨⟨?_, ?_⟩, delivery.rxIn_lt declares, delivery'.rxIn_lt declares⟩
  · rw [tracks.handled, tracks'.handled]
  · rw [tracks.residue, tracks'.residue]

/-- A frame with a wrong checksum and two good ones, whole and cut inside the second. -/
theorem noise_cut_or_whole :
    let stream := [0x12, 0x55, 0xaa, 0, 0x0a, 0, 0, 8] ++ nestedCheck.bytes ++ heartCheck.bytes
    (run Receiver.step (wifiProtocolInit (fun _ => 0) fun _ => 0) (inPieces 0 stream)).handled.map Dispatch.bytes =
        (run Receiver.step (wifiProtocolInit (fun _ => 0) fun _ => 0) (inPieces 16 stream)).handled.map
          Dispatch.bytes ∧
      (run Receiver.step (wifiProtocolInit (fun _ => 0) fun _ => 0) (inPieces 16 stream)).handled.map
          Dispatch.bytes = [nestedCheck.bytes, heartCheck.bytes] := by
  have declares : DeclaresBelowWrap
      ([0x12, 0x55, 0xaa, 0, 0x0a, 0, 0, 8] ++ nestedCheck.bytes ++ heartCheck.bytes) :=
    declaresBelowWrap_of_tails (by decide +kernel)
  refine ⟨(frames_independent_of_chunking declares ⟨?_, ?_, ?_⟩ ⟨?_, ?_, ?_⟩).1.1, ?_⟩
  all_goals decide +kernel

/-- Frames sent through `wifi_uart_write_frame` and delivered in any pieces are
handled once each and in order, and nothing is left over. -/
theorem sent_frames_handled_in_order {sent : List Frame} {txBuf cells buf : Nat → UInt8}
    {events : List Event} (delivery : Delivery cells buf events (sendFrames txBuf sent)) :
    (run Receiver.step (wifiProtocolInit cells buf) events).handled.map Dispatch.bytes =
        sent.map Frame.bytes ∧
      (run Receiver.step (wifiProtocolInit cells buf) events).rxIn = 0 := by
  rw [sendFrames_eq] at delivery
  have tracks := delivery.tracks (declaresBelowWrap_sent sent)
  have residue := tracks.residue
  rw [parse_sent] at residue
  refine ⟨?_, ?_⟩
  · rw [tracks.handled, parse_sent]
  · have length := congrArg List.length residue
    rwa [Receiver.residue, length_window] at length

/-- Three frames, cut inside the one that the second of them carries. -/
theorem nested_frames_handled_once :
    (run Receiver.step (wifiProtocolInit (fun _ => 0) fun _ => 0)
        (inPieces 15 (sendFrames (fun _ => 0) [heartCheck, nestedCheck, heartCheck]))).handled.map Dispatch.bytes =
      [heartCheck.bytes, nestedCheck.bytes, heartCheck.bytes] := by
  have delivery : Delivery (fun _ => 0) (fun _ => 0)
      (inPieces 15 (sendFrames (fun _ => 0) [heartCheck, nestedCheck, heartCheck]))
      (sendFrames (fun _ => 0) [heartCheck, nestedCheck, heartCheck]) := by
    refine ⟨?_, ?_, ?_⟩
    all_goals decide +kernel
  exact (sent_frames_handled_in_order delivery).1

end SyrFilter.Uart
