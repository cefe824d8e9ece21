import SyrFilter.Lib.Changes
import SyrFilter.Telemetry.Reports

namespace SyrFilter.Telemetry

open SyrFilter.Lib

/-! # Alarm histories

`alarm_system.c` keeps the last eight codes of each kind of alarm.  The three
insert functions are copies of one another: a code that is already current is
ignored, any other is put in front of the array, uploaded with the number of
its group and followed by an upload of the whole array.
-/

namespace Alarm

inductive Kind where
  | error
  | warning
  | notify
deriving DecidableEq, Repr

/-- The group passed to `alarm_upload`. -/
def Kind.group : Kind → UInt8
  | .error => 2
  | .warning => 1
  | .notify => 0

/-- The key passed to `device_info_put_buffer`. -/
def Kind.key : Kind → String
  | .error => "alm"
  | .warning => "alw"
  | .notify => "aln"

theorem Kind.eq_of_group {kind other : Kind} (same : kind.group = other.group) : kind = other := by
  cases kind <;> cases other <;> first | rfl | simp [group] at same

structure History where
  value : UInt8
  array : Vector UInt8 8
deriving DecidableEq

inductive Call where
  | alarmUpload (code group : UInt8)
  | deviceInfoPutBuffer (key : String) (buffer : List UInt8)
deriving DecidableEq, Repr

/-- The globals of `alarm_system.c`, and the uploads made so far. -/
structure State where
  error : History
  warning : History
  notify : History
  calls : List Call
deriving DecidableEq

def initial : State :=
  let empty : History := { value := 0xff, array := Vector.replicate 8 0xFF }
  { error := empty, warning := empty, notify := empty, calls := [] }

namespace State

variable (state : State)

def history : Kind → History
  | .error => state.error
  | .warning => state.warning
  | .notify => state.notify

def store (kind : Kind) (history : History) : State :=
  match kind with
  | .error => { state with error := history }
  | .warning => { state with warning := history }
  | .notify => { state with notify := history }

@[simp] theorem history_store_same (kind : Kind) (history : History) :
    (state.store kind history).history kind = history := by
  cases kind <;> rfl

theorem history_store_other {kind other : Kind} (apart : other ≠ kind) (history : History) :
    (state.store kind history).history other = state.history other := by
  cases kind <;> cases other <;> first | rfl | exact absurd rfl apart

end State

/-- The text of `%02x,%02x,%02x,%02x,%02x,%02x,%02x,%02x`. -/
def arrayText (array : Vector UInt8 8) : List UInt8 :=
  ((array.toList.map hexByte).intersperse (ascii ",")).flatten

/-- The body shared by the three insert functions, `put_…_array` included. -/
def insertArray (kind : Kind) (state : State) (data : UInt8) : State :=
  if (state.history kind).value = data then state
  else
    let array := pushFront (state.history kind).array data
    let stored := state.store kind { value := data, array }
    { stored with
      calls := state.calls ++
        [.alarmUpload data kind.group, .deviceInfoPutBuffer kind.key (arrayText array)] }

def insertErrorArray : State → UInt8 → State := insertArray .error

def insertWarningArray : State → UInt8 → State := insertArray .warning

def insertNotifyArray : State → UInt8 → State := insertArray .notify

/-- One call of an insert function. -/
structure Insert where
  kind : Kind
  data : UInt8
deriving DecidableEq, Repr

def insert (state : State) (inserted : Insert) : State :=
  match inserted.kind with
  | .error => insertErrorArray state inserted.data
  | .warning => insertWarningArray state inserted.data
  | .notify => insertNotifyArray state inserted.data

theorem insert_eq (state : State) (inserted : Insert) :
    insert state inserted = insertArray inserted.kind state inserted.data := by
  rw [insert]
  split <;> rename_i kind <;> rw [kind] <;> rfl

/-! ## One insert -/

/-- The codes and groups handed to `alarm_upload`. -/
def State.uploads (state : State) : List (UInt8 × UInt8) :=
  state.calls.filterMap fun
    | .alarmUpload code group => some (code, group)
    | .deviceInfoPutBuffer _ _ => none

theorem insertArray_repeated {kind : Kind} {state : State} {data : UInt8}
    (current : (state.history kind).value = data) : insertArray kind state data = state := by
  rw [insertArray, if_pos current]

theorem history_insertArray {kind : Kind} {state : State} {data : UInt8}
    (changed : (state.history kind).value ≠ data) :
    (insertArray kind state data).history kind =
      { value := data, array := pushFront (state.history kind).array data } := by
  rw [insertArray, if_neg changed]
  exact State.history_store_same state kind _

theorem uploads_insertArray {kind : Kind} {state : State} {data : UInt8}
    (changed : (state.history kind).value ≠ data) :
    (insertArray kind state data).uploads = state.uploads ++ [(data, kind.group)] := by
  rw [insertArray, if_neg changed]
  simp [State.uploads]

theorem history_insertArray_other {kind other : Kind} (apart : other ≠ kind) (state : State)
    (data : UInt8) : (insertArray kind state data).history other = state.history other := by
  rw [insertArray]
  split
  · rfl
  · exact State.history_store_other state apart _

/-! ## Sequences of inserts -/

/-- The codes inserted into one history. -/
def codes (kind : Kind) (inserts : List Insert) : List UInt8 :=
  (inserts.filter (·.kind = kind)).map (·.data)

theorem codes_concat_same (inserts : List Insert) (inserted : Insert) :
    codes inserted.kind (inserts ++ [inserted]) = codes inserted.kind inserts ++ [inserted.data] := by
  simp [codes]

theorem codes_concat_other {kind : Kind} (inserts : List Insert) {inserted : Insert}
    (apart : inserted.kind ≠ kind) : codes kind (inserts ++ [inserted]) = codes kind inserts := by
  simp [codes, apart]

/-- Eight times `0xFF`, and behind them the inserted codes that changed something. -/
def reduced (codes : List UInt8) : List UInt8 := changes (List.replicate 8 0xFF) codes

/-- The codes kept. -/
def kept (codes : List UInt8) : List UInt8 := (reduced codes).drop 8

theorem reduced_eq (codes : List UInt8) : reduced codes = List.replicate 8 0xFF ++ kept codes := by
  obtain ⟨rest, split⟩ := prefix_changes (List.replicate 8 0xFF) codes
  rw [kept, reduced, ← split]
  simp

/-- What one history and its uploads are after the codes inserted into it. -/
structure Follows (kind : Kind) (codes : List UInt8) (state : State) : Prop where
  array : (state.history kind).array.toList = latest 8 (reduced codes)
  value : (state.history kind).value = (state.history kind).array[0]
  uploads : state.uploads.filter (·.2 = kind.group) = (kept codes).map fun code => (code, kind.group)

theorem Follows.getLast?_reduced {kind : Kind} {codes : List UInt8} {state : State}
    (follows : Follows kind codes state) :
    (reduced codes).getLast? = some (state.history kind).value := by
  rw [← @head?_latest UInt8 7, ← follows.array, follows.value]
  simp [List.head?_eq_getElem?]

theorem follows_initial (kind : Kind) : Follows kind [] initial := by
  cases kind <;> exact ⟨by decide, by decide, by decide⟩

theorem Follows.insert_same {inserted : Insert} {codes : List UInt8} {state : State}
    (follows : Follows inserted.kind codes state) :
    Follows inserted.kind (codes ++ [inserted.data]) (insert state inserted) := by
  rw [insert_eq]
  have last := follows.getLast?_reduced
  by_cases current : (state.history inserted.kind).value = inserted.data
  · have same : reduced (codes ++ [inserted.data]) = reduced codes := by
      rw [reduced, changes_concat, appendChange, if_pos]
      · rfl
      · rw [← current]
        exact last
    rw [insertArray_repeated current]
    exact ⟨by rw [same]; exact follows.array, follows.value, by
      rw [kept, same]; exact follows.uploads⟩
  · have grown : reduced (codes ++ [inserted.data]) = reduced codes ++ [inserted.data] := by
      rw [reduced, changes_concat, appendChange, if_neg]
      · rfl
      · intro repeated
        exact current (Option.some.inj (last.symm.trans repeated))
    have more : kept (codes ++ [inserted.data]) = kept codes ++ [inserted.data] := by
      rw [kept, grown, reduced_eq]
      simp
    have stored := history_insertArray current
    exact {
      array := by
        rw [stored, grown]
        exact toList_pushFront_latest follows.array inserted.data
      value := by
        rw [stored]
        exact (getElem_pushFront_zero _ _).symm
      uploads := by
        rw [uploads_insertArray current, more, List.filter_append, follows.uploads]
        simp }

theorem Follows.insert_other {kind : Kind} {inserted : Insert} {codes : List UInt8} {state : State}
    (apart : inserted.kind ≠ kind) (follows : Follows kind codes state) :
    Follows kind codes (insert state inserted) := by
  rw [insert_eq]
  have untouched := history_insertArray_other apart.symm state inserted.data
  exact {
    array := by
      rw [untouched]
      exact follows.array
    value := by
      rw [untouched]
      exact follows.value
    uploads := by
      by_cases current : (state.history inserted.kind).value = inserted.data
      · rw [insertArray_repeated current]
        exact follows.uploads
      · have foreign : inserted.kind.group ≠ kind.group := fun same => apart (Kind.eq_of_group same)
        rw [uploads_insertArray current, List.filter_append, follows.uploads]
        simp [foreign] }

theorem follows_run (kind : Kind) (inserts : List Insert) :
    Follows kind (codes kind inserts) (run insert initial inserts) := by
  induction inserts using List.reverseRecOn with
  | nil => exact follows_initial kind
  | append_singleton inserts inserted induction =>
      rw [run, List.foldl_append]
      by_cases same : inserted.kind = kind
      · subst same
        rw [codes_concat_same]
        exact induction.insert_same
      · rw [codes_concat_other inserts same]
        exact induction.insert_other same

/-- Nothing is uploaded under a group that belongs to no history. -/
theorem uploads_group (inserts : List Insert) :
    ∀ upload ∈ (run insert initial inserts).uploads, ∃ kind : Kind, upload.2 = kind.group := by
  induction inserts using List.reverseRecOn with
  | nil => simp [initial, State.uploads]
  | append_singleton inserts inserted induction =>
      intro upload member
      rw [run, List.foldl_append, List.foldl_cons, List.foldl_nil, insert_eq] at member
      by_cases current : ((run insert initial inserts).history inserted.kind).value = inserted.data
      · rw [← run, insertArray_repeated current] at member
        exact induction upload member
      · rw [← run, uploads_insertArray current, List.mem_append, List.mem_singleton] at member
        rcases member with earlier | rfl
        · exact induction upload earlier
        · exact ⟨inserted.kind, rfl⟩

/-- After any inserts each array holds the newest changes of its own history, newest first, with
the current value in front; each code kept was uploaded once, in order, under the group of its
history; and an insert into one history leaves the other two alone. -/
theorem histories_keep_newest_changes (inserts : List Insert) (kind : Kind) :
    ((run insert initial inserts).history kind).array.toList =
      latest 8 (reduced (codes kind inserts)) ∧
    ((run insert initial inserts).history kind).value =
      ((run insert initial inserts).history kind).array[0] ∧
    (run insert initial inserts).uploads.filter (·.2 = kind.group) =
      (kept (codes kind inserts)).map (fun code => (code, kind.group)) ∧
    (∀ upload ∈ (run insert initial inserts).uploads, ∃ kind : Kind, upload.2 = kind.group) ∧
    ∀ data other, other ≠ kind →
      (insert (run insert initial inserts) { kind, data }).history other =
        (run insert initial inserts).history other := by
  have follows := follows_run kind inserts
  refine ⟨follows.array, follows.value, follows.uploads, uploads_group inserts, ?_⟩
  intro data other apart
  rw [insert_eq]
  exact history_insertArray_other apart _ data

end Alarm

end SyrFilter.Telemetry
