import SyrFilter.Lib.Orbits
import SyrFilter.Uart.Bounds
import SyrFilter.Uart.DataPoints

namespace SyrFilter.Uart

open SyrFilter.Lib

/-! # The scan and its frames

`wifi_uart_service` with what `data_handle` does to each frame.  A call of it
comes back, resets the device, goes round in the loop of `DATA_ISSUED_CMD`, or
hangs in a function that it calls, of which nothing else is assumed here.
-/

/-- What a call of `wifi_uart_service` finds: the RAM around the buffer, and
which of the functions that its frames call hang, counted through the call. -/
structure Surroundings where
  around : Int → UInt8
  env : Env
  hangs : Nat → Bool

inductive Ending where
  | returns
  | resets
  | stays
deriving DecidableEq

/-- The handler in the middle of a call, and how many functions its frames have called. -/
structure Handling where
  handler : Handler
  called : Nat

def Outcome.functions (outcome : Outcome) : List Call := outcome.calls.filter (!·.isDownloadCmd)

/-- A pointer into the buffer. -/
def frameAt (memory : Int → UInt8) (offset : Nat) : Nat → UInt8 := fun i => memory (offset + i)

namespace Handling

variable (handling : Handling) (surroundings : Surroundings) (frame : Nat → UInt8)

/-- `data_handle`, with more data points looked at than the payload has bytes. -/
def outcome : Outcome :=
  handling.handler.dataHandle surroundings.env ((field16 (frame 4) (frame 5)).toNat + 1) frame

/-- Some function that the frame calls hangs. -/
def Hangs : Prop :=
  ∃ number < (handling.outcome surroundings frame).functions.length,
    surroundings.hangs (handling.called + number) = true

instance : Decidable (handling.Hangs surroundings frame) := inferInstanceAs (Decidable (∃ number < _, _))

def dataHandle : Handling × Ending :=
  let outcome := handling.outcome surroundings frame
  ({ handler := outcome.handler, called := handling.called + outcome.functions.length },
    if handling.Hangs surroundings frame then .stays
    else if outcome.returned then .returns
    else if frame 3 = 0x0c then .stays
    else .resets)

end Handling

/-- The records of a `DATA_ISSUED_CMD` frame lead back to one of them. -/
def RecordsCircle (frame : Nat → UInt8) : Prop :=
  frame 3 = 0x0c ∧
    Circles (nextRecord fun i => frame (6 + i)) (· < field16 (frame 4) (frame 5)) 0

/-! ## The scan -/

structure Served where
  offset : Nat
  /-- Where the frames were that it handed to `data_handle`. -/
  found : List Nat
  handling : Handling
  ending : Ending

section Serve

variable (memory : Int → UInt8) (rxIn : Nat) (surroundings : Surroundings)

/-- The scan loop with its calls of `data_handle`, for at most so many iterations. -/
def serve : Nat → Nat → Handling → Served
  | 0, offset, handling => { offset, found := [], handling, ending := .stays }
  | fuel + 1, offset, handling =>
      if rxIn - offset < protocolHead then { offset, found := [], handling, ending := .returns }
      else
        match scanIteration memory rxIn offset with
        | .wait => { offset, found := [], handling, ending := .returns }
        | .skip count => serve fuel (offset + count) handling
        | .emit count =>
            match handling.dataHandle surroundings (frameAt memory offset) with
            | (handled, .returns) =>
                let later := serve fuel (offset + count) handled
                { later with found := offset :: later.found }
            | (handled, ending) => { offset, found := [offset], handling := handled, ending }

/-- The offsets at which the body of the scan loop runs, with the handler as it is then. -/
inductive Serves (start : Handling) : Nat → Handling → Prop
  | start (long : protocolHead ≤ rxIn) : Serves start 0 start
  | skip {offset count : Nat} {handling : Handling} (serves : Serves start offset handling)
      (decision : scanIteration memory rxIn offset = .skip count) (long : protocolHead ≤ rxIn - (offset + count)) :
      Serves start (offset + count) handling
  | frame {offset count : Nat} {handling handled : Handling} (serves : Serves start offset handling)
      (decision : scanIteration memory rxIn offset = .emit count)
      (returns : handling.dataHandle surroundings (frameAt memory offset) = (handled, .returns))
      (long : protocolHead ≤ rxIn - (offset + count)) : Serves start (offset + count) handled

/-- Every iteration reads only received bytes from its offset on and moves
forward without passing the end, and the call comes to an end. -/
structure ServesWithin (start : Handling) : Prop where
  reads : ∀ offset handling, Serves memory rxIn surroundings start offset handling →
    ∀ index ∈ scanReads memory rxIn offset, (offset : Int) ≤ index ∧ index < rxIn
  moves : ∀ offset handling count, Serves memory rxIn surroundings start offset handling →
    (scanIteration memory rxIn offset).advance = some count → offset < offset + count ∧ offset + count ≤ rxIn
  ends : (serve memory rxIn surroundings (rxIn + 1) 0 start).ending ≠ .stays

/-- No header that the scan comes to declares a length of 65529; the records of a
frame that it hands over do not lead back, and no function that the frame calls hangs. -/
def MeetsNoTrap (start : Handling) : Prop :=
  ∀ offset handling, Serves memory rxIn surroundings start offset handling →
    ¬IsWrapped (pending memory rxIn offset) ∧
      ∀ count, scanIteration memory rxIn offset = .emit count →
        ¬RecordsCircle (frameAt memory offset) ∧ ¬handling.Hangs surroundings (frameAt memory offset)

end Serve

section Frames

variable {handling : Handling} {surroundings : Surroundings} {frame : Nat → UInt8} {payload : Nat → UInt8}
  {totalLen : UInt16}

theorem visits_ends_iff (fuel : Nat) (i : UInt16) :
    (visits payload totalLen fuel i).2 = true ↔ ∃ round < fuel, ¬Nat.iterate (nextRecord payload) round i < totalLen := by
  induction fuel generalizing i with
  | zero => exact iff_of_false Bool.false_ne_true fun ⟨_, below, _⟩ => absurd below (Nat.not_lt_zero _)
  | succ fuel ih =>
      by_cases more : i < totalLen
      · rw [visits_step more, ih]
        constructor
        · rintro ⟨round, below, outside⟩
          exact ⟨round + 1, by omega, outside⟩
        · rintro ⟨round, below, outside⟩
          cases round with
          | zero => exact absurd more outside
          | succ round => exact ⟨round, by omega, outside⟩
      · rw [visits_done more]
        exact iff_of_true rfl ⟨0, by omega, more⟩

/-- The only commands after which `data_handle` does not go on are those that
reset the device, and data points that lead back. -/
theorem stays_iff :
    (handling.dataHandle surroundings frame).2 = .stays ↔
      RecordsCircle frame ∨ handling.Hangs surroundings frame := by
  rw [Handling.dataHandle]
  dsimp only
  by_cases hangs : handling.Hangs surroundings frame
  · rw [if_pos hangs]
    exact iff_of_true rfl (.inr hangs)
  · rw [if_neg hangs, or_iff_left hangs, RecordsCircle]
    by_cases issued : frame 3 = 0x0c
    · have ends : (handling.outcome surroundings frame).returned = true ↔
          ¬Circles (nextRecord fun i => frame (6 + i)) (· < field16 (frame 4) (frame 5)) 0 := by
        rw [Handling.outcome, dataHandle_issued issued, (dataIssued_visits _ _ _).1, visits_ends_iff]
        refine left_iff_not_circles UInt16.toNat _ (fun i inside => UInt16.lt_iff_toNat_lt.mp inside) ?_
        exact fun _ _ _ _ same => UInt16.toNat_inj.mp same
      rw [if_pos issued, and_iff_right issued]
      split
      · rename_i returned
        exact iff_of_false nofun (ends.mp returned)
      · rename_i stays
        exact iff_of_true rfl (not_not.mp (mt ends.mpr stays))
    · rw [if_neg issued]
      refine iff_of_false ?_ fun circles => issued circles.1
      split <;> nofun

example : RecordsCircle (byteAt endlessFrame) :=
  ⟨by decide, 0, 1, by decide, by decide, by decide⟩

end Frames

section Serve

variable {memory : Int → UInt8} {rxIn offset : Nat} {surroundings : Surroundings} {start handling : Handling}

theorem Serves.long (serves : Serves memory rxIn surroundings start offset handling) : protocolHead ≤ rxIn - offset := by
  cases serves with
  | start long => exact long
  | skip _ _ long => exact long
  | frame _ _ _ long => exact long

theorem serve_skip {count : Nat} (long : protocolHead ≤ rxIn - offset)
    (decision : scanIteration memory rxIn offset = .skip count) (fuel : Nat) (handling : Handling) :
    serve memory rxIn surroundings (fuel + 1) offset handling =
      serve memory rxIn surroundings fuel (offset + count) handling := by
  rw [serve, if_neg (Nat.not_lt.mpr long), decision]

theorem serve_frame {count : Nat} (long : protocolHead ≤ rxIn - offset)
    (decision : scanIteration memory rxIn offset = .emit count)
    (returns : (handling.dataHandle surroundings (frameAt memory offset)).2 = .returns) (fuel : Nat) :
    serve memory rxIn surroundings (fuel + 1) offset handling =
      { serve memory rxIn surroundings fuel (offset + count)
          (handling.dataHandle surroundings (frameAt memory offset)).1 with
        found :=
          offset ::
            (serve memory rxIn surroundings fuel (offset + count)
              (handling.dataHandle surroundings (frameAt memory offset)).1).found } := by
  have result : handling.dataHandle surroundings (frameAt memory offset) =
      ((handling.dataHandle surroundings (frameAt memory offset)).1, .returns) := Prod.ext rfl returns
  rw [serve, if_neg (Nat.not_lt.mpr long), decision]
  dsimp only
  rw [result]

theorem serve_leaves {count : Nat} (long : protocolHead ≤ rxIn - offset)
    (decision : scanIteration memory rxIn offset = .emit count)
    (leaves : (handling.dataHandle surroundings (frameAt memory offset)).2 ≠ .returns) (fuel : Nat) :
    (serve memory rxIn surroundings (fuel + 1) offset handling).ending =
      (handling.dataHandle surroundings (frameAt memory offset)).2 := by
  rw [serve, if_neg (Nat.not_lt.mpr long), decision]
  dsimp only
  split
  · rename_i returns
    exact absurd (congrArg Prod.snd returns) leaves
  · rename_i handled ending _ result
    rw [result]

/-- Where the scan has come to, it ends as from its beginning. -/
theorem Serves.serve_eq (serves : Serves memory rxIn surroundings start offset handling)
    (moves : ∀ offset handling count, Serves memory rxIn surroundings start offset handling →
      (scanIteration memory rxIn offset).advance = some count → offset < offset + count ∧ offset + count ≤ rxIn) :
    ∃ fuel, rxIn - offset < fuel ∧
      (serve memory rxIn surroundings (rxIn + 1) 0 start).ending =
        (serve memory rxIn surroundings fuel offset handling).ending := by
  induction serves with
  | start long => exact ⟨rxIn + 1, by omega, rfl⟩
  | @skip offset count handling serves decision long ih =>
      obtain ⟨fuel, enough, same⟩ := ih
      obtain ⟨fuel, rfl⟩ := Nat.exists_eq_succ_of_ne_zero (Nat.ne_zero_of_lt enough)
      have forward := moves offset handling count serves (by rw [decision]; rfl)
      refine ⟨fuel, by omega, ?_⟩
      rw [same, serve_skip serves.long decision]
  | @frame offset count handling handled serves decision returns long ih =>
      obtain ⟨fuel, enough, same⟩ := ih
      obtain ⟨fuel, rfl⟩ := Nat.exists_eq_succ_of_ne_zero (Nat.ne_zero_of_lt enough)
      have forward := moves offset handling count serves (by rw [decision]; rfl)
      refine ⟨fuel, by omega, ?_⟩
      rw [same, serve_frame serves.long decision (congrArg Prod.snd returns), returns]

theorem MeetsNoTrap.moves (sound : MeetsNoTrap memory rxIn surroundings start) {count : Nat}
    (serves : Serves memory rxIn surroundings start offset handling)
    (moves : (scanIteration memory rxIn offset).advance = some count) : offset < offset + count ∧ offset + count ≤ rxIn := by
  rw [scanIteration_eq serves.long (sound offset handling serves).1] at moves
  have bounds := frames.bound moves
  have long := serves.long
  rw [length_pending] at bounds
  omega

theorem MeetsNoTrap.ends (sound : MeetsNoTrap memory rxIn surroundings start) (fuel : Nat)
    (serves : protocolHead ≤ rxIn - offset → Serves memory rxIn surroundings start offset handling)
    (enough : rxIn - offset < fuel) : (serve memory rxIn surroundings fuel offset handling).ending ≠ .stays := by
  induction fuel generalizing offset handling with
  | zero => omega
  | succ fuel ih =>
      by_cases short : rxIn - offset < protocolHead
      · rw [serve, if_pos short]
        nofun
      · have long := Nat.not_lt.mp short
        have here := serves long
        cases decision : scanIteration memory rxIn offset with
        | wait =>
            rw [serve, if_neg short, decision]
            nofun
        | skip count =>
            have forward : offset < offset + count ∧ offset + count ≤ rxIn := sound.moves here (by rw [decision]; rfl)
            rw [serve_skip long decision]
            exact ih (fun long => here.skip decision long) (by omega)
        | emit count =>
            have forward : offset < offset + count ∧ offset + count ≤ rxIn := sound.moves here (by rw [decision]; rfl)
            obtain ⟨straight, goes⟩ := (sound offset handling here).2 count decision
            have never : (handling.dataHandle surroundings (frameAt memory offset)).2 ≠ .stays := fun stays =>
              (stays_iff.mp stays).elim straight goes
            by_cases returns : (handling.dataHandle surroundings (frameAt memory offset)).2 = .returns
            · rw [serve_frame long decision returns]
              exact ih (fun long => here.frame decision (Prod.ext rfl returns) long) (by omega)
            · rw [serve_leaves long decision returns]
              exact never

theorem servesWithin_iff :
    ServesWithin memory rxIn surroundings start ↔ MeetsNoTrap memory rxIn surroundings start := by
  constructor
  · intro within offset handling serves
    refine ⟨fun wrapped => ?_, fun count decision => ?_⟩
    · have bounds := within.reads offset handling serves _ (reads_before_wrapped wrapped)
      omega
    · rw [← not_or, ← stays_iff]
      intro stays
      obtain ⟨fuel, enough, same⟩ := serves.serve_eq within.moves
      obtain ⟨fuel, rfl⟩ := Nat.exists_eq_succ_of_ne_zero (Nat.ne_zero_of_lt enough)
      have leaves : (handling.dataHandle surroundings (frameAt memory offset)).2 ≠ .returns := by
        rw [stays]
        nofun
      apply within.ends
      rw [same, serve_leaves serves.long decision leaves, stays]
  · intro sound
    refine ⟨fun offset handling serves => ?_, fun offset handling count serves moves => sound.moves serves moves, ?_⟩
    · exact reads_within serves.long (sound offset handling serves).1
    · exact sound.ends (rxIn + 1) (fun long => .start (by rwa [Nat.sub_zero] at long)) (by omega)

end Serve

/-! ## Whole runs -/

structure Server where
  receiver : Receiver
  handler : Handler

inductive ServerEvent where
  | receive (value : UInt8)
  | service (surroundings : Surroundings)

namespace Server

variable (server : Server) (surroundings : Surroundings)

/-- `wifi_protocol_init` on a device with the given handler. -/
def init (cells buf : Nat → UInt8) (handler : Handler) : Server where
  receiver := wifiProtocolInit cells buf
  handler

def memory : Int → UInt8 := processByte server.receiver.filled.buf surroundings.around

def handling : Handling where
  handler := server.handler
  called := 0

def served : Served :=
  serve (server.memory surroundings) server.receiver.filled.rxIn surroundings (server.receiver.filled.rxIn + 1) 0
    server.handling

/-- A reset starts the receiver and the handler anew. -/
def wifiUartService : Server :=
  if server.receiver.filled.rxIn < protocolHead then { server with receiver := server.receiver.filled }
  else
    let served := server.served surroundings
    match served.ending with
    | .stays => { receiver := { server.receiver.filled with hung := true }, handler := served.handling.handler }
    | .resets =>
        { receiver := wifiProtocolInit (fun _ => 0) fun _ => 0, handler := served.handling.handler.restart }
    | .returns =>
        { receiver :=
            { server.receiver.filled with
              buf :=
                if 0 < server.receiver.filled.rxIn - served.offset then
                  myMemcpy server.receiver.filled.buf 0 served.offset
                    (server.receiver.filled.rxIn - served.offset)
                else server.receiver.filled.buf
              rxIn := server.receiver.filled.rxIn - served.offset
              handled :=
                server.receiver.filled.handled ++
                  served.found.map fun start => ⟨server.receiver.filled.buf, start⟩ }
          handler := served.handling.handler }

def step (server : Server) : ServerEvent → Server
  | .receive value => { server with receiver := server.receiver.step (.receive value) }
  | .service surroundings => if server.receiver.hung then server else server.wifiUartService surroundings

/-- The scan of a call of `wifi_uart_service` keeps within bounds, and the call ends. -/
def KeepsBounds : ServerEvent → Prop
  | .receive _ => True
  | .service surroundings =>
      server.receiver.hung = false →
        ServesWithin (server.memory surroundings) server.receiver.filled.rxIn surroundings server.handling

def MeetsNoTrap : ServerEvent → Prop
  | .receive _ => True
  | .service surroundings =>
      server.receiver.hung = false →
        Uart.MeetsNoTrap (server.memory surroundings) server.receiver.filled.rxIn surroundings server.handling

/-- Over any deliveries and calls, every scan makes progress within the bytes
received and every call ends exactly when no header met declares a length of
65529, no data points handed over lead back, and nothing that they call hangs. -/
theorem calls_keep_bounds_iff_no_trap (cells buf : Nat → UInt8) (handler : Handler) (events : List ServerEvent) :
    EachStep step KeepsBounds (init cells buf handler) events ↔
      EachStep step MeetsNoTrap (init cells buf handler) events := by
  refine eachStep_congr (fun _ => True) trivial (fun _ _ _ => trivial) ?_
  intro server event _
  cases event with
  | receive value => exact Iff.rfl
  | service surroundings => exact imp_congr_right fun _ => servesWithin_iff

/-- The seven bytes `55 AA 00 00 FF F9 00` in an otherwise empty receiver make the
next call read the byte before the buffer. -/
theorem scan_reads_before_buffer :
    ¬EachStep step KeepsBounds (init (fun _ => 0) (fun _ => 0) freshHandler)
      [.receive 0x55, .receive 0xaa, .receive 0, .receive 0, .receive 0xff, .receive 0xf9, .receive 0,
        .service { around := fun _ => 0, env := workingFlash, hangs := fun _ => false }] := by
  intro holds
  have within := holds 7 _ rfl rfl
  have outside := within.reads 0 _ (.start (by decide)) _ (reads_before_wrapped (by decide))
  omega

/-! ## Calls that return -/

variable {server} {surroundings}

/-- A call that returns is the scan of the receiver, and hands its frames to the handler one by one. -/
theorem serve_returns {memory : Int → UInt8} {rxIn offset fuel : Nat} {handling : Handling}
    (returns : (serve memory rxIn surroundings fuel offset handling).ending = .returns) :
    scan memory rxIn fuel offset =
        some ((serve memory rxIn surroundings fuel offset handling).offset,
          (serve memory rxIn surroundings fuel offset handling).found) ∧
      (serve memory rxIn surroundings fuel offset handling).handling =
        (serve memory rxIn surroundings fuel offset handling).found.foldl
          (fun handling start => (handling.dataHandle surroundings (frameAt memory start)).1) handling := by
  induction fuel generalizing offset handling with
  | zero => cases returns
  | succ fuel ih =>
      by_cases short : rxIn - offset < protocolHead
      · rw [scan, serve, if_pos short, if_pos short]
        exact ⟨rfl, rfl⟩
      · have long := Nat.not_lt.mp short
        rw [scan, if_neg short]
        cases decision : scanIteration memory rxIn offset with
        | wait =>
            rw [serve, if_neg short, decision]
            exact ⟨rfl, rfl⟩
        | skip count =>
            rw [serve_skip long decision] at returns ⊢
            exact ih returns
        | emit count =>
            by_cases goes : (handling.dataHandle surroundings (frameAt memory offset)).2 = .returns
            · rw [serve_frame long decision goes] at returns ⊢
              obtain ⟨scanned, handled⟩ := ih returns
              dsimp only
              rw [scanned]
              exact ⟨rfl, handled⟩
            · rw [serve_leaves long decision goes] at returns
              exact absurd returns goes

/-- `data_handle` on a frame that the receiver has recorded. -/
def handle (surroundings : Surroundings) (handler : Handler) (dispatch : Dispatch) : Handler :=
  (Handling.outcome ⟨handler, 0⟩ surroundings
    (frameAt (processByte dispatch.buf surroundings.around) dispatch.offset)).handler

theorem handler_dataHandle (buf : Nat → UInt8) (start : Nat) (handling : Handling) :
    (handling.dataHandle surroundings (frameAt (processByte buf surroundings.around) start)).1.handler =
      handle surroundings handling.handler { buf, offset := start } := by
  rw [handle, Handling.dataHandle, Handling.outcome, Handling.outcome]

theorem foldl_dataHandle (buf : Nat → UInt8) (found : List Nat) (handling : Handling) :
    (found.foldl
        (fun handling start =>
          (handling.dataHandle surroundings (frameAt (processByte buf surroundings.around) start)).1)
        handling).handler =
      (found.map fun start => Dispatch.mk buf start).foldl (handle surroundings) handling.handler := by
  induction found generalizing handling with
  | nil => rfl
  | cons start rest ih =>
      rw [List.foldl_cons, List.map_cons, List.foldl_cons, ih, handler_dataHandle]

theorem handled_fill (room : Nat) (receiver : Receiver) : (receiver.fill room).handled = receiver.handled := by
  induction room generalizing receiver with
  | zero => rfl
  | succ room ih =>
      rw [Receiver.fill]
      split
      · exact ih _
      · rfl

/-- A call that returns does to the receiver what the receiver's own call does, and to the
handler what `data_handle` does on the frames that are recorded. -/
theorem wifiUartService_returns (returns : (server.served surroundings).ending = .returns) :
    (server.wifiUartService surroundings).receiver = server.receiver.wifiUartService surroundings.around ∧
      (server.wifiUartService surroundings).handler =
        ((server.wifiUartService surroundings).receiver.handled.drop server.receiver.handled.length).foldl
          (handle surroundings) server.handler := by
  have before : server.receiver.filled.handled = server.receiver.handled := handled_fill _ _
  rw [wifiUartService, Receiver.wifiUartService, Receiver.scanBuffer]
  by_cases short : server.receiver.filled.rxIn < protocolHead
  · rw [if_pos short, if_pos short]
    refine ⟨rfl, ?_⟩
    dsimp only
    rw [before, List.drop_length]
    rfl
  · obtain ⟨scanned, handled⟩ := serve_returns returns
    rw [memory] at scanned
    rw [if_neg short, if_neg short, scanned]
    simp only [returns]
    refine ⟨rfl, ?_⟩
    rw [before, List.drop_left]
    exact (congrArg Handling.handler handled).trans (foldl_dataHandle _ _ _)

/-- The event as the receiver sees it. -/
def toEvent : ServerEvent → Event
  | .receive value => .receive value
  | .service surroundings => .service surroundings.around

def Returns (server : Server) : ServerEvent → Prop
  | .receive _ => True
  | .service surroundings => (server.served surroundings).ending = .returns

/-- As long as every call returns, the receiver goes on as it does without a handler. -/
theorem run_receiver {events : List ServerEvent} (returns : EachStep step Returns server events) :
    (run step server events).receiver = run Receiver.step server.receiver (events.map toEvent) := by
  induction events generalizing server with
  | nil => rfl
  | cons event rest ih =>
      obtain ⟨first, later⟩ := eachStep_cons.mp returns
      rw [run_cons, List.map_cons, run_cons, ih later]
      congr 1
      cases event with
      | receive value => rfl
      | service surroundings =>
          rw [step, toEvent, Receiver.step]
          split
          · rfl
          · exact (wifiUartService_returns first).1

end Server

end SyrFilter.Uart
