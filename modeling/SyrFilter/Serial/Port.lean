import SyrFilter.Lib.LossyRing
import SyrFilter.Lib.Transducer

namespace SyrFilter.Serial

/-! # A serial port and the thread that receives from it

The receive interrupt fills the driver's fifo and releases a semaphore; the
thread reads one character at a time and, when there is none, resets the
semaphore and takes it.  An interrupt may come between any two of these steps.
-/

open Lib

/-- The ports that receive by interrupt: `uart1` of the module and `uart2` of
the water sensor. -/
inductive Device where
  | wifi
  | tds
deriving DecidableEq, Repr

/-- The `config.bufsz` of `wifi_uart_init` and `TDS_Uart_Init`. -/
def Device.bufsz : Device → Nat
  | .wifi => 1024
  | .tds => 128

theorem Device.two_le_bufsz (device : Device) : 2 ≤ device.bufsz := by
  cases device <;> decide

/-- `rt_semaphore`, taken by one thread: `suspended` says whether the thread is
on its list. -/
structure Semaphore where
  value : Nat
  suspended : Bool
deriving DecidableEq, Repr

namespace Semaphore

def valueMax : Nat := 65535

/-- `rt_sem_take` with `RT_WAITING_FOREVER`. -/
def take (sem : Semaphore) : Semaphore :=
  if 0 < sem.value then { sem with value := sem.value - 1 } else { sem with suspended := true }

def release (sem : Semaphore) : Semaphore :=
  if sem.suspended then { sem with suspended := false }
  else if sem.value < valueMax then { sem with value := sem.value + 1 }
  else sem

/-- `rt_sem_control` with `RT_IPC_CMD_RESET` and no argument. -/
def reset (_ : Semaphore) : Semaphore := { value := 0, suspended := false }

end Semaphore

/-- Where `uart_sample_get_char` goes on. -/
inductive Phase where
  | read
  | reset
  | take
deriving DecidableEq, Repr

structure Port where
  rxFifo : LossyRing UInt8
  rxSem : Semaphore
  phase : Phase

inductive PortEvent where
  /-- The receive interrupt, with the characters it finds. -/
  | interrupt (received : List UInt8)
  /-- The receiving thread runs up to its next system call. -/
  | thread
deriving DecidableEq, Repr

namespace Port

variable {bufsz : Nat} {port : Port} {received : List UInt8} {events rest : List PortEvent}

/-- `uart_rx_ind`. -/
def rxInd (port : Port) (size : Nat) : Port :=
  if 0 < size then { port with rxSem := port.rxSem.release } else port

/-- `rt_hw_serial_isr` for `RT_SERIAL_EVENT_RX_IND`. -/
def hwSerialIsr (bufsz : Nat) (port : Port) (received : List UInt8) : Port :=
  let filled := { port with rxFifo := received.foldl (LossyRing.put bufsz) port.rxFifo }
  let rxLength := filled.rxFifo.held bufsz
  if rxLength ≠ 0 then filled.rxInd rxLength else filled

/-- One step of the loop in `uart_sample_get_char`, with the character it returns. -/
def sampleGetChar (bufsz : Nat) (port : Port) : Port × List UInt8 :=
  if port.rxSem.suspended then (port, [])
  else
    match port.phase with
    | .read =>
        match port.rxFifo.take bufsz with
        | none => ({ port with phase := .reset }, [])
        | some (ch, rxFifo) => ({ port with rxFifo }, [ch])
    | .reset => ({ port with rxSem := port.rxSem.reset, phase := .take }, [])
    | .take => ({ port with rxSem := port.rxSem.take, phase := .read }, [])

/-- What the thread hands on is put out. -/
def step (bufsz : Nat) (port : Port) : PortEvent → Port × List UInt8
  | .interrupt received => (port.hwSerialIsr bufsz received, [])
  | .thread => port.sampleGetChar bufsz

/-- The open port, after the characters that came before `rt_device_set_rx_indicate`. -/
def opened (bufsz : Nat) (cells : Nat → UInt8) (early : List UInt8) : Port where
  rxFifo := early.foldl (LossyRing.put bufsz) { cells, putIndex := 0, getIndex := 0, isFull := false }
  rxSem := { value := 0, suspended := false }
  phase := .read

/-- The characters that wait in the fifo. -/
def waiting (bufsz : Nat) (port : Port) : List UInt8 := port.rxFifo.contents bufsz

/-- A suspended thread goes on with a read, and finds no value left behind. -/
structure WellFormed (bufsz : Nat) (port : Port) : Prop where
  rxFifo : port.rxFifo.WellFormed bufsz
  suspended : port.rxSem.suspended = true → port.phase = .read ∧ port.rxSem.value = 0

section Fifo

variable {ring : LossyRing UInt8}

theorem putAll_wellFormed (two : 2 ≤ bufsz) (wellFormed : ring.WellFormed bufsz) :
    (received.foldl (LossyRing.put bufsz) ring).WellFormed bufsz := by
  induction received generalizing ring with
  | nil => exact wellFormed
  | cons ch rest ih => exact ih (LossyRing.put_wellFormed two wellFormed)

theorem contents_putAll (received : List UInt8) (two : 2 ≤ bufsz) (wellFormed : ring.WellFormed bufsz) :
    (received.foldl (LossyRing.put bufsz) ring).contents bufsz =
      received.foldl (push (bufsz - 1)) (ring.contents bufsz) := by
  induction received generalizing ring with
  | nil => rfl
  | cons ch rest ih =>
      rw [List.foldl_cons, ih (LossyRing.put_wellFormed two wellFormed), LossyRing.contents_put two wellFormed]
      rfl

end Fifo

/-! ## What the interrupt does -/

@[simp] theorem rxFifo_hwSerialIsr :
    (port.hwSerialIsr bufsz received).rxFifo = received.foldl (LossyRing.put bufsz) port.rxFifo := by
  rw [hwSerialIsr]
  split
  · rw [rxInd]
    split <;> rfl
  · rfl

@[simp] theorem phase_hwSerialIsr : (port.hwSerialIsr bufsz received).phase = port.phase := by
  rw [hwSerialIsr]
  split
  · rw [rxInd]
    split <;> rfl
  · rfl

/-- The semaphore is released whenever the interrupt leaves something to read. -/
theorem rxSem_hwSerialIsr :
    (port.hwSerialIsr bufsz received).rxSem =
      if (port.hwSerialIsr bufsz received).waiting bufsz = [] then port.rxSem else port.rxSem.release := by
  have empty : (port.hwSerialIsr bufsz received).waiting bufsz = [] ↔
      (received.foldl (LossyRing.put bufsz) port.rxFifo).held bufsz = 0 := by
    rw [waiting, rxFifo_hwSerialIsr, ← List.length_eq_zero_iff, LossyRing.length_contents]
  by_cases none : (received.foldl (LossyRing.put bufsz) port.rxFifo).held bufsz = 0
  · rw [if_pos (empty.mpr none), hwSerialIsr, if_neg (not_not.mpr none)]
  · rw [if_neg (mt empty.mp none), hwSerialIsr, if_pos none, rxInd, if_pos (Nat.pos_of_ne_zero none)]

/-- The newest characters wait, and the fifo never holds `bufsz` of them. -/
theorem waiting_hwSerialIsr (received : List UInt8) (two : 2 ≤ bufsz) (wellFormed : port.WellFormed bufsz) :
    (port.hwSerialIsr bufsz received).waiting bufsz =
      (port.waiting bufsz ++ received).drop
        ((port.waiting bufsz).length + received.length - (bufsz - 1)) := by
  have within : (port.waiting bufsz).length ≤ bufsz - 1 := by
    have below := LossyRing.held_lt wellFormed.rxFifo
    rw [waiting, LossyRing.length_contents]
    omega
  have filled := contents_putAll received two wellFormed.rxFifo
  rw [waiting, rxFifo_hwSerialIsr, filled]
  exact pushAll_eq_drop (by omega) within

theorem suspended_release (sem : Semaphore) : sem.release.suspended = false := by
  rw [Semaphore.release]
  split
  · rfl
  · rename_i running
    split <;> exact Bool.eq_false_iff.mpr running

theorem hwSerialIsr_wellFormed (two : 2 ≤ bufsz) (wellFormed : port.WellFormed bufsz) :
    (port.hwSerialIsr bufsz received).WellFormed bufsz where
  rxFifo := by
    rw [rxFifo_hwSerialIsr]
    exact putAll_wellFormed two wellFormed.rxFifo
  suspended := by
    rw [phase_hwSerialIsr, rxSem_hwSerialIsr]
    split
    · exact wellFormed.suspended
    · intro suspended
      rw [suspended_release] at suspended
      cases suspended

/-! ## What the thread does -/

/-- What a step of the thread can do. -/
inductive Stepped (bufsz : Nat) (port : Port) : Port × List UInt8 → Prop where
  | asleep (suspended : port.rxSem.suspended = true) : Stepped bufsz port (port, [])
  | returns (running : port.rxSem.suspended = false) (phase : port.phase = .read) {ch : UInt8}
      {rxFifo : LossyRing UInt8} (taken : port.rxFifo.take bufsz = some (ch, rxFifo)) :
      Stepped bufsz port ({ port with rxFifo }, [ch])
  | empty (running : port.rxSem.suspended = false) (phase : port.phase = .read)
      (none : port.waiting bufsz = []) : Stepped bufsz port ({ port with phase := .reset }, [])
  | resets (running : port.rxSem.suspended = false) (phase : port.phase = .reset) :
      Stepped bufsz port ({ port with rxSem := port.rxSem.reset, phase := .take }, [])
  | takes (running : port.rxSem.suspended = false) (phase : port.phase = .take) (released : 0 < port.rxSem.value) :
      Stepped bufsz port
        ({ port with rxSem := { port.rxSem with value := port.rxSem.value - 1 }, phase := .read }, [])
  | sleeps (running : port.rxSem.suspended = false) (phase : port.phase = .take) (unreleased : port.rxSem.value = 0) :
      Stepped bufsz port ({ port with rxSem := { port.rxSem with suspended := true }, phase := .read }, [])

theorem stepped (wellFormed : port.WellFormed bufsz) : Stepped bufsz port (port.sampleGetChar bufsz) := by
  rw [sampleGetChar]
  split
  · rename_i suspended
    exact .asleep suspended
  · rename_i awake
    have running := Bool.eq_false_iff.mpr awake
    split
    · rename_i phase
      split
      · rename_i taken
        exact .empty running phase ((LossyRing.take_eq_none_iff wellFormed.rxFifo).mp taken)
      · rename_i taken
        exact .returns running phase taken
    · rename_i phase
      exact .resets running phase
    · rename_i phase
      rw [Semaphore.take]
      split
      · rename_i released
        exact .takes running phase released
      · rename_i unreleased
        exact .sleeps running phase (Nat.eq_zero_of_not_pos unreleased)

theorem Stepped.wellFormed {result : Port × List UInt8} (two : 2 ≤ bufsz) (wellFormed : port.WellFormed bufsz)
    (stepped : Stepped bufsz port result) : result.1.WellFormed bufsz := by
  cases stepped with
  | asleep suspended => exact wellFormed
  | returns running phase taken =>
      refine ⟨LossyRing.take_wellFormed two wellFormed.rxFifo taken, fun suspended => ?_⟩
      exact absurd suspended (Bool.eq_false_iff.mp running)
  | empty running phase none =>
      exact ⟨wellFormed.rxFifo, fun suspended => absurd suspended (Bool.eq_false_iff.mp running)⟩
  | resets running phase => exact ⟨wellFormed.rxFifo, fun suspended => by cases suspended⟩
  | takes running phase released =>
      exact ⟨wellFormed.rxFifo, fun suspended => absurd suspended (Bool.eq_false_iff.mp running)⟩
  | sleeps running phase unreleased => exact ⟨wellFormed.rxFifo, fun _ => ⟨rfl, unreleased⟩⟩

/-- A character is handed on exactly as it leaves the fifo. -/
theorem Stepped.waiting {result : Port × List UInt8} (wellFormed : port.WellFormed bufsz)
    (stepped : Stepped bufsz port result) : port.waiting bufsz = result.2 ++ result.1.waiting bufsz := by
  cases stepped with
  | returns running phase taken => exact LossyRing.contents_take wellFormed.rxFifo taken
  | _ => rfl

theorem step_wellFormed (two : 2 ≤ bufsz) (wellFormed : port.WellFormed bufsz) (event : PortEvent) :
    (port.step bufsz event).1.WellFormed bufsz := by
  cases event with
  | interrupt received => exact hwSerialIsr_wellFormed two wellFormed
  | thread => exact (stepped wellFormed).wellFormed two wellFormed

section Opened

variable (cells : Nat → UInt8) (early : List UInt8)

theorem created_wellFormed (two : 2 ≤ bufsz) :
    LossyRing.WellFormed bufsz { cells, putIndex := 0, getIndex := 0, isFull := false } :=
  have positive : 0 < bufsz := by omega
  ⟨positive, positive, fun _ => rfl⟩

theorem opened_wellFormed (two : 2 ≤ bufsz) : (opened bufsz cells early).WellFormed bufsz where
  rxFifo := putAll_wellFormed two (created_wellFormed cells two)
  suspended := fun suspended => by cases suspended

theorem waiting_opened (two : 2 ≤ bufsz) :
    (opened bufsz cells early).waiting bufsz = early.drop (early.length - (bufsz - 1)) := by
  have filled := contents_putAll early two (created_wellFormed cells two)
  have positive : 0 < bufsz - 1 := by omega
  have bounded : ([] : List UInt8).length ≤ bufsz - 1 := Nat.zero_le _
  refine filled.trans ((pushAll_eq_drop positive bounded).trans ?_)
  rw [List.nil_append, List.length_nil, Nat.zero_add]

theorem after_wellFormed (two : 2 ≤ bufsz) :
    (after (step bufsz) (opened bufsz cells early) events).WellFormed bufsz :=
  after_of_step (opened_wellFormed cells early two) fun _ event wellFormed => step_wellFormed two wellFormed event

end Opened

end Port

end SyrFilter.Serial
