import SyrFilter.Serial.Delivery
import SyrFilter.Uart.Stream

namespace SyrFilter.Serial

/-! # From the interrupt to the frames

The port of the module, the thread that puts its characters into the ring of
`uart_core.c`, and the service that takes frames out of it.  The thread comes in
between the rounds of the service's fill loop, and before and during its scan.
-/

open Lib Uart

structure Link where
  port : Port
  receiver : Receiver

inductive LinkEvent where
  | interrupt (received : List UInt8)
  | thread
  /-- A round of the fill loop of `wifi_uart_service`.  What the thread puts into the ring
  during one it could have put there before. -/
  | fetch
  /-- What `wifi_uart_service` does behind that loop, with the RAM around its buffer. -/
  | scan (around : Int → UInt8)

namespace Link

variable {link : Link} {event : LinkEvent} {events : List LinkEvent} {scanned fetched future stream : List UInt8}

def bufsz : Nat := Device.wifi.bufsz

/-- `data_parsing` hands what the port returns to `wifi_uart_receive_input`. -/
def step (link : Link) : LinkEvent → Link
  | .interrupt received => { link with port := link.port.hwSerialIsr bufsz received }
  | .thread =>
      { port := (link.port.sampleGetChar bufsz).1
        receiver := (link.port.sampleGetChar bufsz).2.foldl (fun receiver ch => receiver.step (.receive ch))
          link.receiver }
  | .fetch => if link.receiver.hung then link else { link with receiver := link.receiver.fetch }
  | .scan around => if link.receiver.hung then link else { link with receiver := link.receiver.scanBuffer around }

def wifiInit (fifo cells buf : Nat → UInt8) : Link where
  port := Port.opened bufsz fifo []
  receiver := wifiProtocolInit cells buf

/-- The fifo has room for what an interrupt finds, the ring for what the thread hands on. -/
def Lossless (link : Link) : LinkEvent → Prop
  | .interrupt received => (link.port.waiting bufsz).length + received.length < bufsz
  | .thread => ∀ ch ∈ (link.port.sampleGetChar bufsz).2, link.receiver.ring.Accepts processSize
  | .fetch | .scan _ => True

instance (event : LinkEvent) : Decidable (link.Lossless event) := by
  cases event with
  | interrupt received => exact inferInstanceAs (Decidable (_ < _))
  | thread => exact inferInstanceAs (Decidable (∀ ch ∈ _, _))
  | fetch => exact inferInstanceAs (Decidable True)
  | scan around => exact inferInstanceAs (Decidable True)

/-- The bytes that the interrupts of a run have found. -/
def arrived (events : List LinkEvent) : List UInt8 :=
  events.flatMap fun event =>
    match event with
    | .interrupt received => received
    | _ => []

/-- Whether a round of the fill loop has come since the last scan, from whether one had before. -/
def unscanned (since : Bool) (events : List LinkEvent) : Bool :=
  events.foldl
    (fun since event =>
      match event with
      | .fetch => true
      | .scan _ => false
      | _ => since)
    since

theorem run_fetches (room : Nat) (running : link.receiver.hung = false) :
    Lib.run step link (List.replicate room .fetch) =
      { link with receiver := Nat.iterate Receiver.fetch room link.receiver } := by
  induction room generalizing link with
  | zero => rfl
  | succ room ih =>
      have awake : ¬link.receiver.hung = true := Bool.eq_false_iff.mp running
      have still : link.receiver.fetch.hung = false := (Receiver.fetch_hung _).trans running
      rw [List.replicate_succ, run_cons, step, if_neg awake, ih still, Function.iterate_succ_apply]

/-- A call of `wifi_uart_service` that nothing comes in between. -/
theorem run_service (around : Int → UInt8) (sound : link.receiver.Sound) (running : link.receiver.hung = false) :
    Lib.run step link (List.replicate (processSize - link.receiver.rxIn) .fetch ++ [.scan around]) =
      { link with receiver := link.receiver.step (.service around) } := by
  have awake : ¬link.receiver.hung = true := Bool.eq_false_iff.mp running
  have filled : ¬link.receiver.filled.hung = true := by
    rwa [(Receiver.filled_spec sound).hung]
  have called : link.receiver.step (.service around) = link.receiver.filled.scanBuffer around := if_neg awake
  rw [run_append, run_fetches _ running, ← Receiver.filled_eq_iterate sound, called]
  exact if_neg filled

/-! ## What the receiver has scanned and fetched -/

/-- The receiver has handled the frames of what it has scanned, and holds what it has fetched since. -/
structure Holds (receiver : Receiver) (scanned fetched : List UInt8) : Prop where
  sound : receiver.Sound
  running : receiver.hung = false
  residue : receiver.residue = (frames.parse scanned).2 ++ fetched
  handled : receiver.handled.map Dispatch.bytes = (frames.parse scanned).1

section Holds

variable {receiver : Receiver}

theorem Holds.receive (holds : Holds receiver scanned fetched) (value : UInt8) :
    Holds (receiver.step (.receive value)) scanned fetched :=
  ⟨Receiver.step_sound holds.sound _, holds.running, holds.residue, holds.handled⟩

theorem Holds.fetch (holds : Holds receiver scanned fetched) :
    ∃ taken, Holds receiver.fetch scanned (fetched ++ taken) ∧ taken ++ receiver.fetch.waiting = receiver.waiting := by
  rw [Receiver.fetch]
  split
  · rename_i room
    have filled := Receiver.fill_filled 1 holds.sound.ring
    have inRange : (receiver.fill 1).rxIn ≤ processSize := by
      have bound := filled.rxIn_le
      omega
    refine ⟨receiver.waiting.take 1, ⟨⟨filled.ring, inRange⟩, filled.hung.trans holds.running, ?_, ?_⟩, ?_⟩
    · rw [filled.residue, holds.residue, List.append_assoc]
    · rw [filled.handled, holds.handled]
    · rw [filled.waiting, List.take_append_drop]
  · exact ⟨[], by rwa [List.append_nil], rfl⟩

theorem Holds.scan (holds : Holds receiver scanned fetched) (declares : DeclaresBelowWrap (scanned ++ fetched ++ future))
    (around : Int → UInt8) :
    Holds (receiver.scanBuffer around) (scanned ++ fetched) [] ∧
      (receiver.scanBuffer around).waiting = receiver.waiting := by
  have visits : ∀ rest, frames.Visits receiver.residue rest → ¬IsWrapped rest := by
    rw [holds.residue]
    exact fun rest visits => not_wrapped_of_residue declares visits
  have sifted := Receiver.scanBuffer_sifted holds.sound.rxIn_le visits around
  refine ⟨⟨Receiver.scanBuffer_sound holds.sound around, sifted.hung.trans holds.running, ?_, ?_⟩, ?_⟩
  · rw [sifted.residue, holds.residue, Framer.parse_append scanned, List.append_nil]
  · rw [sifted.handled, holds.residue, holds.handled, Framer.parse_append scanned]
  · rw [Receiver.waiting, sifted.ring]
    rfl

end Holds

/-- Every byte of the stream is scanned, fetched, in the ring, in the fifo, or still to come. -/
structure Carries (link : Link) (scanned fetched future stream : List UInt8) : Prop where
  port : link.port.WellFormed bufsz
  holds : Holds link.receiver scanned fetched
  whole : scanned ++ fetched ++ link.receiver.waiting ++ link.port.waiting bufsz ++ future = stream

theorem Carries.interrupt {received : List UInt8} (carries : link.Carries scanned fetched (received ++ future) stream)
    (fits : link.Lossless (.interrupt received)) :
    (link.step (.interrupt received)).Carries scanned fetched future stream := by
  have two : 2 ≤ bufsz := Device.wifi.two_le_bufsz
  refine ⟨Port.hwSerialIsr_wellFormed two carries.port, carries.holds, ?_⟩
  have none : (link.port.waiting bufsz).length + received.length - (bufsz - 1) = 0 := by
    rw [Lossless] at fits
    omega
  have filled := Port.waiting_hwSerialIsr received two carries.port
  rw [none, List.drop_zero] at filled
  rw [← carries.whole, step]
  dsimp only
  rw [filled]
  simp only [List.append_assoc]

theorem Carries.thread (future : List UInt8) (carries : link.Carries scanned fetched future stream)
    (accepts : link.Lossless .thread) : (link.step .thread).Carries scanned fetched future stream := by
  have two : 2 ≤ bufsz := Device.wifi.two_le_bufsz
  have steps := Port.stepped carries.port
  have moved := steps.waiting carries.port
  have wellFormed := steps.wellFormed two carries.port
  have whole := carries.whole
  rw [moved] at whole
  rw [Lossless] at accepts
  -- Only a read that finds a character hands one on.
  obtain silent | ⟨ch, handed⟩ : (link.port.sampleGetChar bufsz).2 = [] ∨
      ∃ ch, (link.port.sampleGetChar bufsz).2 = [ch] := by
    generalize link.port.sampleGetChar bufsz = result at steps
    cases steps with
    | returns running phase taken => exact .inr ⟨_, rfl⟩
    | _ => exact .inl rfl
  · rw [silent] at whole
    rw [step, silent]
    exact ⟨wellFormed, carries.holds, whole⟩
  · rw [handed] at whole accepts
    rw [step, handed]
    have room := accepts ch (List.mem_singleton_self ch)
    have queued : (link.receiver.step (.receive ch)).waiting = link.receiver.waiting ++ [ch] :=
      Receiver.waiting_receive carries.holds.sound room
    refine ⟨wellFormed, carries.holds.receive ch, ?_⟩
    rw [← whole]
    dsimp only [List.foldl_cons, List.foldl_nil]
    rw [queued]
    simp only [List.append_assoc]

theorem Carries.fetch (future : List UInt8) (carries : link.Carries scanned fetched future stream) :
    ∃ fetched, (link.step .fetch).Carries scanned fetched future stream := by
  have awake : ¬link.receiver.hung = true := Bool.eq_false_iff.mp carries.holds.running
  obtain ⟨taken, holds, waiting⟩ := carries.holds.fetch
  rw [step, if_neg awake]
  refine ⟨fetched ++ taken, carries.port, holds, ?_⟩
  rw [← carries.whole, ← waiting]
  simp only [List.append_assoc]

theorem Carries.scan (future : List UInt8) (carries : link.Carries scanned fetched future stream)
    (declares : DeclaresBelowWrap stream) (around : Int → UInt8) :
    (link.step (.scan around)).Carries (scanned ++ fetched) [] future stream := by
  have awake : ¬link.receiver.hung = true := Bool.eq_false_iff.mp carries.holds.running
  have declaresHere : DeclaresBelowWrap
      (scanned ++ fetched ++ (link.receiver.waiting ++ link.port.waiting bufsz ++ future)) := by
    rwa [← List.append_assoc, ← List.append_assoc, carries.whole]
  obtain ⟨holds, waiting⟩ := carries.holds.scan declaresHere around
  rw [step, if_neg awake]
  refine ⟨carries.port, holds, ?_⟩
  dsimp only
  rw [waiting, List.append_nil, carries.whole]

theorem Carries.run {since : Bool} (carries : link.Carries scanned fetched (arrived events ++ future) stream)
    (left : since = false → fetched = []) (declares : DeclaresBelowWrap stream)
    (lossless : EachStep step Lossless link events) :
    ∃ scanned fetched, (Lib.run step link events).Carries scanned fetched future stream ∧
      (unscanned since events = false → fetched = []) := by
  induction events generalizing link scanned fetched since with
  | nil => exact ⟨scanned, fetched, carries, left⟩
  | cons event rest ih =>
      obtain ⟨now, later⟩ := eachStep_cons.mp lossless
      cases event with
      | interrupt received =>
          have next : link.Carries scanned fetched (received ++ (arrived rest ++ future)) stream := by
            rw [← List.append_assoc]
            exact carries
          exact ih (next.interrupt now) left later
      | thread => exact ih (Carries.thread (arrived rest ++ future) carries now) left later
      | fetch =>
          obtain ⟨fetched, next⟩ := Carries.fetch (arrived rest ++ future) carries
          exact ih next (fun still => Bool.noConfusion still) later
      | scan around => exact ih (Carries.scan (arrived rest ++ future) carries declares around) (fun _ => rfl) later

theorem wifiInit_carries (fifo cells buf : Nat → UInt8) (stream : List UInt8) :
    (wifiInit fifo cells buf).Carries [] [] stream stream where
  port := Port.opened_wellFormed fifo [] Device.wifi.two_le_bufsz
  holds := by
    have tracks := wifiProtocolInit_tracks cells buf
    exact ⟨tracks.sound, tracks.running, by rw [List.append_nil]; exact tracks.residue, tracks.handled⟩
  whole := by
    have none : (Port.opened bufsz fifo []).waiting bufsz = [] :=
      (Port.waiting_opened fifo [] Device.wifi.two_le_bufsz).trans List.drop_nil
    rw [wifiInit, none]
    rfl

/-- While nothing is lost, in every interleaving of the interrupts, the thread
and the service, the frames handled so far are the first of those sent; they are
all of them once everything has come, fifo and ring are empty, and what has been
fetched is scanned. -/
theorem frames_handled_so_far (fifo cells buf : Nat → UInt8) (sent : List Frame) (events : List LinkEvent)
    (future : List UInt8) (comes : arrived events ++ future = (sent.map Frame.bytes).flatten)
    (lossless : EachStep step Lossless (wifiInit fifo cells buf) events) :
    let link := Lib.run step (wifiInit fifo cells buf) events
    link.receiver.handled.map Dispatch.bytes <+: sent.map Frame.bytes ∧
      (future = [] → link.port.waiting bufsz = [] → link.receiver.waiting = [] → unscanned false events = false →
        link.receiver.handled.map Dispatch.bytes = sent.map Frame.bytes ∧ link.receiver.rxIn = 0) := by
  intro link
  have initial : (wifiInit fifo cells buf).Carries [] [] (arrived events ++ future) (sent.map Frame.bytes).flatten := by
    rw [comes]
    exact wifiInit_carries fifo cells buf _
  obtain ⟨scanned, fetched, carries, left⟩ := initial.run (fun _ => rfl) (declaresBelowWrap_sent sent) lossless
  have handled := carries.holds.handled
  have parsed := parse_sent sent
  constructor
  · rw [← carries.whole, List.append_assoc, List.append_assoc, List.append_assoc, Framer.parse_append] at parsed
    obtain ⟨frames, -⟩ := Prod.mk.inj parsed
    rw [← frames, handled]
    exact List.prefix_append _ _
  · intro noFuture noFifo noRing noFetched
    have whole := carries.whole
    have residue := carries.holds.residue
    rw [left noFetched, List.append_nil] at residue
    rw [left noFetched, noFuture, noFifo, noRing, List.append_nil, List.append_nil, List.append_nil,
      List.append_nil] at whole
    rw [whole, parsed] at handled residue
    have length := congrArg List.length residue
    rw [Receiver.residue, length_window] at length
    exact ⟨handled, length⟩

/-- Two frames that come in two interrupts, the thread at work between the rounds of the service. -/
def twoInterrupts : List LinkEvent :=
  .interrupt ((heartCheck.bytes ++ nestedCheck.bytes).take 15) ::
    (List.replicate 8 .thread ++ List.replicate 5 .fetch ++ List.replicate 12 .thread ++ List.replicate 8 .fetch ++
      .scan (fun _ => 0) :: .interrupt ((heartCheck.bytes ++ nestedCheck.bytes).drop 15) ::
        (List.replicate 12 .thread ++ List.replicate 12 .fetch ++ [.scan fun _ => 0]))

theorem nestedCheck_handled_over_link :
    (Lib.run step (wifiInit (fun _ => 0) (fun _ => 0) fun _ => 0) twoInterrupts).receiver.handled.map
      Dispatch.bytes = [heartCheck.bytes, nestedCheck.bytes] := by
  have comes : arrived twoInterrupts ++ [] = ([heartCheck, nestedCheck].map Frame.bytes).flatten := by
    decide +kernel
  have lossless : EachStep step Lossless (wifiInit (fun _ => 0) (fun _ => 0) fun _ => 0) twoInterrupts := by
    decide +kernel
  have handled := frames_handled_so_far _ _ _ [heartCheck, nestedCheck] _ [] comes lossless
  exact (handled.2 rfl (by decide +kernel) (by decide +kernel) (by decide +kernel)).1

end Link

end SyrFilter.Serial
