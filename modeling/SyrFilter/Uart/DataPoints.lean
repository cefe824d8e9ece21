import SyrFilter.Uart.Stray

namespace SyrFilter.Uart

open SyrFilter.Lib

/-! # The data points of a frame

The loop of `DATA_ISSUED_CMD` goes from record to record with a 16-bit index
that it advances by the length each record declares for itself.  Which records
it comes to, and with what arguments it calls `dp_download_handle`, is read off
the payload here, apart from what the callbacks do.
-/

variable {env : Env} {payload : Nat → UInt8} {totalLen : UInt16} {handler : Handler}

/-! ## The records the loop comes to -/

/-- The indices of at most so many records, and whether the loop ends with them. -/
def visits (payload : Nat → UInt8) (totalLen : UInt16) : Nat → UInt16 → List UInt16 × Bool
  | 0, _ => ([], false)
  | fuel + 1, i =>
      if i < totalLen then
        let rest := visits payload totalLen fuel (nextRecord payload i)
        (i :: rest.1, rest.2)
      else ([], true)

theorem visits_done {i : UInt16} (done : ¬i < totalLen) (fuel : Nat) :
    visits payload totalLen (fuel + 1) i = ([], true) := if_neg done

theorem visits_step {i : UInt16} (more : i < totalLen) (fuel : Nat) :
    visits payload totalLen (fuel + 1) i =
      (i :: (visits payload totalLen fuel (nextRecord payload i)).1,
        (visits payload totalLen fuel (nextRecord payload i)).2) := if_pos more

/-- The arguments of a `dp_download_handle` call; the value is at a distance
from the payload. -/
structure Download where
  dpId : UInt8
  pointer : Nat
  dpLen : UInt16
deriving DecidableEq, Repr

/-- The value a call is handed. -/
def Download.value (payload : Nat → UInt8) (download : Download) : List UInt8 :=
  window payload download.pointer download.dpLen.toNat

/-- What `data_point_handle` calls for the record at an index. -/
def downloadAt (env : Env) (payload : Nat → UInt8) (i : Nat) : List Download :=
  let dpType := (downloadCmd[getDowmloadDpidIndex (payload i)]?.map Prod.snd).getD env.behindTable
  if payload (i + 1) ≠ dpType then []
  else [{ dpId := payload i, pointer := i + 4, dpLen := field16 (payload (i + 2)) (payload (i + 3)) }]

def downloads (env : Env) (payload : Nat → UInt8) (totalLen : UInt16) (fuel : Nat) (i : UInt16) :
    List Download :=
  (visits payload totalLen fuel i).1.flatMap fun i => downloadAt env payload i.toNat

/-- The calls of `dp_download_handle` one after the other. -/
def Handler.perform (payload : Nat → UInt8) : Handler → List Download → Handler × List Call
  | handler, [] => (handler, [])
  | handler, download :: rest =>
      let handled := handler.dpDownloadHandle download.dpId fun j => payload (download.pointer + j)
      let later := handled.handler.perform payload rest
      (later.1, handled.calls ++ later.2)

theorem Handler.perform_append (handler : Handler) (first second : List Download) :
    handler.perform payload (first ++ second) =
      (((handler.perform payload first).1.perform payload second).1,
        (handler.perform payload first).2 ++ ((handler.perform payload first).1.perform payload second).2) := by
  induction first generalizing handler with
  | nil => rfl
  | cons download rest induction =>
      simp only [List.cons_append, perform, induction, List.append_assoc]

/-- The access to `download_cmd` that `data_point_handle` makes first. -/
def Call.isDownloadCmd : Call → Bool
  | .downloadCmd _ => true
  | _ => false

theorem dpDownloadHandle_calls (handler : Handler) (dpId : UInt8) (value : Nat → UInt8) :
    ∀ call ∈ (handler.dpDownloadHandle dpId value).calls, call.isDownloadCmd = false := by
  intro call member
  rw [Handler.dpDownloadHandle] at member
  split at member
  · simp only [List.mem_cons] at member
    rcases member with rfl | member
    · rfl
    · split at member
      · simp only [List.mem_cons, List.not_mem_nil, or_false] at member
        rcases member with rfl | rfl <;> rfl
      · rw [List.mem_singleton.mp member]
        rfl
  · split at member
    · simp only [List.mem_cons, List.not_mem_nil, or_false] at member
      rcases member with rfl | rfl <;> rfl
    · split at member
      · rw [List.mem_singleton.mp member]
        rfl
      · cases member

theorem perform_calls (handler : Handler) (made : List Download) :
    ∀ call ∈ (handler.perform payload made).2, call.isDownloadCmd = false := by
  induction made generalizing handler with
  | nil => exact fun _ member => absurd member List.not_mem_nil
  | cons download rest induction =>
      intro call member
      rcases List.mem_append.mp member with first | later
      · exact dpDownloadHandle_calls handler _ _ call first
      · exact induction _ call later

theorem perform_filter (handler : Handler) (made : List Download) :
    (handler.perform payload made).2.filter (!·.isDownloadCmd) = (handler.perform payload made).2 := by
  have own := @perform_calls payload handler made
  exact List.filter_eq_self.mpr (by simpa using own)

theorem perform_countP (handler : Handler) (made : List Download) :
    (handler.perform payload made).2.countP Call.isDownloadCmd = 0 := by
  have own := @perform_calls payload handler made
  exact List.countP_eq_zero.mpr (by simpa using own)

/-- `data_point_handle` looks into its table once and makes the call of the record, if any. -/
theorem dataPointHandle_downloadAt (handler : Handler) (i : Nat) :
    (handler.dataPointHandle env fun j => payload (i + j)).handler =
        (handler.perform payload (downloadAt env payload i)).1 ∧
      ∃ index, (handler.dataPointHandle env fun j => payload (i + j)).calls =
        .downloadCmd index :: (handler.perform payload (downloadAt env payload i)).2 := by
  rw [Handler.dataPointHandle, downloadAt]
  simp only [Nat.add_zero]
  split
  · exact ⟨rfl, _, rfl⟩
  · refine ⟨?_, getDowmloadDpidIndex (payload i), ?_⟩
    · simp only [Handler.perform, Nat.add_assoc]
    · simp only [Handler.perform, Nat.add_assoc, List.append_nil]

/-- The loop is its visits: it looks into the table once for each, and makes their calls. -/
theorem dataIssued_visits (handler : Handler) (fuel : Nat) (i : UInt16) :
    (Handler.dataIssued env payload totalLen fuel i handler).returned = (visits payload totalLen fuel i).2 ∧
    (Handler.dataIssued env payload totalLen fuel i handler).handler =
      (handler.perform payload (downloads env payload totalLen fuel i)).1 ∧
    (Handler.dataIssued env payload totalLen fuel i handler).calls.countP Call.isDownloadCmd =
      (visits payload totalLen fuel i).1.length ∧
    (Handler.dataIssued env payload totalLen fuel i handler).calls.filter (!·.isDownloadCmd) =
      (handler.perform payload (downloads env payload totalLen fuel i)).2 := by
  induction fuel generalizing i handler with
  | zero => exact ⟨rfl, rfl, rfl, rfl⟩
  | succ fuel induction =>
      by_cases more : i < totalLen
      · obtain ⟨handled, index, calls⟩ := @dataPointHandle_downloadAt env payload handler i.toNat
        obtain ⟨returned, later, count, rest⟩ := induction
          (handler.dataPointHandle env fun j => payload (i.toNat + j)).handler (nextRecord payload i)
        have downloaded : downloads env payload totalLen (fuel + 1) i =
            downloadAt env payload i.toNat ++ downloads env payload totalLen fuel (nextRecord payload i) := by
          rw [downloads, visits_step more, List.flatMap_cons]
          rfl
        rw [dataIssued_step more, visits_step more, downloaded, Handler.perform_append, ← handled]
        refine ⟨returned, later, ?_, ?_⟩
        · rw [calls, List.countP_append, List.countP_cons, perform_countP, count, List.length_cons]
          simp only [Call.isDownloadCmd, if_true]
          omega
        · rw [calls, List.filter_append, List.filter_cons, perform_filter, rest]
          rfl
      · rw [dataIssued_done more, downloads, visits_done more]
        exact ⟨rfl, rfl, rfl, rfl⟩

/-! ## Encoded lists -/

structure DataPoint where
  dpId : UInt8
  dpType : UInt8
  value : List UInt8
deriving DecidableEq, Repr

/-- Id, type, length and value. -/
def DataPoint.encode (point : DataPoint) : List UInt8 :=
  [point.dpId, point.dpType, UInt8.ofNat (point.value.length / 256), UInt8.ofNat point.value.length] ++
    point.value

theorem DataPoint.length_encode (point : DataPoint) : point.encode.length = point.value.length + 4 := by
  simp [encode]

/-- The calls for a list of data points that begins at a distance from the payload. -/
def expected : Nat → List DataPoint → List Download
  | _, [] => []
  | start, point :: rest =>
      (if point.dpType = 0x02 then
        [{ dpId := point.dpId, pointer := start + 4, dpLen := UInt16.ofNat point.value.length }]
      else []) ++ expected (start + (point.value.length + 4)) rest

/-- The payload from an index on is the list and nothing else. -/
structure Lays (payload : Nat → UInt8) (totalLen : UInt16) (start : Nat) (points : List DataPoint) : Prop where
  bytes : ∀ j < (points.flatMap DataPoint.encode).length,
    payload (start + j) = byteAt (points.flatMap DataPoint.encode) j
  ends : start + (points.flatMap DataPoint.encode).length = totalLen.toNat

/-- The id occurs in `download_cmd`. -/
def DataPoint.Known (point : DataPoint) : Prop := ∃ entry ∈ downloadCmd, entry.1 = point.dpId

instance (point : DataPoint) : Decidable point.Known := inferInstanceAs (Decidable (∃ entry ∈ _, _))

theorem dpType_of_known {point : DataPoint} (known : point.Known) :
    (downloadCmd[getDowmloadDpidIndex point.dpId]?.map Prod.snd).getD env.behindTable = 0x02 := by
  obtain ⟨entry, member, same⟩ := known
  have inTable : getDowmloadDpidIndex point.dpId < downloadCmd.length :=
    List.findIdx_lt_length_of_exists ⟨entry, member, by simpa using same⟩
  exact downloadCmd_type _ inTable

/-- What the loop finds at the index of the first record of a list. -/
structure Finds (payload : Nat → UInt8) (i : UInt16) (point : DataPoint) : Prop where
  dpId : payload i.toNat = point.dpId
  dpType : payload (i.toNat + 1) = point.dpType
  dpLen : field16 (payload (i.toNat + 2)) (payload (i.toNat + 3)) = UInt16.ofNat point.value.length
  value : window payload (i.toNat + 4) point.value.length = point.value
  short : point.value.length < 65536

theorem Lays.finds {i : UInt16} {point : DataPoint} {rest : List DataPoint}
    (lays : Lays payload totalLen i.toNat (point :: rest)) : Finds payload i point := by
  have ends := lays.ends
  have total := totalLen.toNat_lt
  have length : ((point :: rest).flatMap DataPoint.encode).length =
      point.value.length + 4 + (rest.flatMap DataPoint.encode).length := by
    rw [List.flatMap_cons, List.length_append, point.length_encode]
  have byte : ∀ j (inside : j < point.encode.length), payload (i.toNat + j) = point.encode[j] := by
    intro j inside
    have within := inside
    rw [point.length_encode] at within
    rw [lays.bytes j (by omega), byteAt, List.flatMap_cons, List.getD_eq_getElem?_getD,
      List.getElem?_append_left inside, List.getElem?_eq_getElem inside, Option.getD_some]
  have some : 3 < point.encode.length := by
    rw [point.length_encode]
    omega
  refine ⟨byte 0 (by omega), byte 1 (by omega), ?_, ?_, by omega⟩
  · apply UInt16.toNat_inj.mp
    rw [toNat_field16, byte 2 (by omega), byte 3 some, UInt16.toNat_ofNat']
    change (UInt8.ofNat (point.value.length / 256)).toNat * 256 + (UInt8.ofNat point.value.length).toNat = _
    rw [UInt8.toNat_ofNat', UInt8.toNat_ofNat']
    omega
  · apply List.ext_getElem
    · simp
    · intro j below inside
      rw [getElem_window]
      have placed := byte (4 + j) (by rw [point.length_encode]; omega)
      rw [← Nat.add_assoc] at placed
      rw [placed]
      simp [DataPoint.encode, Nat.add_comm 4 j]

theorem Finds.toNat_nextRecord {i : UInt16} {point : DataPoint} (finds : Finds payload i point)
    (room : i.toNat + (point.value.length + 4) < 65536) :
    (nextRecord payload i).toNat = i.toNat + (point.value.length + 4) := by
  have short := finds.short
  have four : (4 : UInt16).toNat = 4 := rfl
  rw [nextRecord, finds.dpLen, UInt16.toNat_add, UInt16.toNat_add, UInt16.toNat_ofNat', four]
  omega

theorem Lays.rest {i : UInt16} {point : DataPoint} {rest : List DataPoint}
    (lays : Lays payload totalLen i.toNat (point :: rest)) :
    i < totalLen ∧ (nextRecord payload i).toNat = i.toNat + (point.value.length + 4) ∧
      Lays payload totalLen (nextRecord payload i).toNat rest := by
  have ends := lays.ends
  have total := totalLen.toNat_lt
  have bytes := lays.bytes
  have length : ((point :: rest).flatMap DataPoint.encode).length =
      point.value.length + 4 + (rest.flatMap DataPoint.encode).length := by
    rw [List.flatMap_cons, List.length_append, point.length_encode]
  rw [length] at ends bytes
  have next := lays.finds.toNat_nextRecord (by omega)
  refine ⟨UInt16.lt_iff_toNat_lt.mpr (by omega), next, ?_, ?_⟩
  · intro j inside
    have placed := bytes (point.value.length + 4 + j) (by omega)
    rw [next, Nat.add_assoc, placed, byteAt, byteAt, List.flatMap_cons, List.getD_eq_getElem?_getD,
      List.getElem?_append_right (by rw [point.length_encode]; omega), point.length_encode,
      Nat.add_sub_cancel_left, ← List.getD_eq_getElem?_getD]
  · rw [next]
    omega

theorem Finds.downloadAt {i : UInt16} {point : DataPoint} (finds : Finds payload i point)
    (known : point.Known) :
    downloadAt env payload i.toNat =
      if point.dpType = 0x02 then
        [{ dpId := point.dpId, pointer := i.toNat + 4, dpLen := UInt16.ofNat point.value.length }]
      else [] := by
  rw [Uart.downloadAt, finds.dpId, finds.dpType, finds.dpLen, dpType_of_known known]
  by_cases typed : point.dpType = 0x02
  · rw [if_neg (not_not_intro typed), if_pos typed]
  · rw [if_pos typed, if_neg typed]

/-- Enough iterations take the loop through the list and to its end. -/
theorem Lays.visits {points : List DataPoint} (known : ∀ point ∈ points, point.Known) {i : UInt16}
    (lays : Lays payload totalLen i.toNat points) {fuel : Nat} (enough : points.length < fuel) :
    (visits payload totalLen fuel i).2 = true ∧
      downloads env payload totalLen fuel i = expected i.toNat points := by
  obtain ⟨fuel, rfl⟩ := Nat.exists_eq_succ_of_ne_zero (Nat.ne_zero_of_lt enough)
  induction points generalizing i fuel with
  | nil =>
      have ends := lays.ends
      have done : ¬i < totalLen := by
        rw [UInt16.lt_iff_toNat_lt, ← ends]
        simp
      rw [downloads, visits_done done]
      exact ⟨rfl, rfl⟩
  | cons point rest induction =>
      obtain ⟨more, next, later⟩ := lays.rest
      obtain ⟨fuel, rfl⟩ : ∃ less, fuel = less + 1 :=
        Nat.exists_eq_succ_of_ne_zero (by rw [List.length_cons] at enough; omega)
      obtain ⟨returned, made⟩ := induction
        (fun point member => known point (List.mem_cons_of_mem _ member)) later fuel
        (by rw [List.length_cons] at enough; omega)
      rw [downloads, visits_step more]
      refine ⟨returned, ?_⟩
      rw [List.flatMap_cons, expected, lays.finds.downloadAt (known point List.mem_cons_self), ← next, ← made]
      rfl

/-- Every call is handed the value of its own data point. -/
theorem Lays.values {points : List DataPoint} {i : UInt16} (lays : Lays payload totalLen i.toNat points) :
    (expected i.toNat points).map (fun download => (download.dpId, download.value payload)) =
      (points.filter (·.dpType = 0x02)).map fun point => (point.dpId, point.value) := by
  induction points generalizing i with
  | nil => rfl
  | cons point rest induction =>
      obtain ⟨-, next, later⟩ := lays.rest
      have finds := lays.finds
      have length : (UInt16.ofNat point.value.length).toNat = point.value.length := by
        rw [UInt16.toNat_ofNat', Nat.mod_eq_of_lt finds.short]
      rw [expected, List.map_append, ← next, induction later, List.filter_cons]
      by_cases typed : point.dpType = 0x02
      · simp [typed, Download.value, length, finds.value]
      · simp [typed]

/-! ## Frames -/

/-- `mcu_get_dp_download_value` -/
def mcuGetDpDownloadValue (value : Nat → UInt8) (_len : UInt16) : UInt32 := byteToInt value

/-- What `mcu_dp_value_update` writes is a data point that reads back as its value. -/
theorem mcuDpValueUpdate_reads (dpId : UInt8) (value : UInt32) :
    ∃ written, mcuDpValueUpdate dpId value = .writeFrame 0x0d written ∧
      written = DataPoint.encode { dpId, dpType := 0x02, value := intToByte value } ∧
      mcuGetDpDownloadValue (fun j => byteAt written (4 + j)) 4 = value := by
  refine ⟨_, rfl, ?_, byteToInt_of_intToByte rfl⟩
  simp [DataPoint.encode, intToByte]

theorem lays_of_carries {frame : Nat → UInt8} {frType frVer : UInt8} {points : List DataPoint}
    (short : (points.flatMap DataPoint.encode).length ≤ 1200)
    (carries : Carries frame (encodeFrame frType frVer (points.flatMap DataPoint.encode))) :
    Lays (fun j => frame (6 + j)) (field16 (frame 4) (frame 5)) (0 : UInt16).toNat points := by
  have start : (0 : UInt16).toNat = 0 := rfl
  rw [carries.totalLen (by omega), start]
  refine ⟨fun j inside => ?_, ?_⟩
  · rw [Nat.zero_add]
    exact carries.payload inside
  · rw [Nat.zero_add, UInt16.toNat_ofNat', Nat.mod_eq_of_lt (by omega)]

/-- The calls of `dp_download_handle` that `data_handle` makes for the frame at a pointer. -/
def frameDownloads (env : Env) (fuel : Nat) (frame : Nat → UInt8) : List Download :=
  downloads env (fun j => frame (6 + j)) (field16 (frame 4) (frame 5)) fuel 0

theorem dataHandle_issued {frame : Nat → UInt8} (issued : frame 3 = 0x0c) (fuel : Nat) :
    handler.dataHandle env fuel frame =
      Handler.dataIssued env (fun j => frame (6 + j)) (field16 (frame 4) (frame 5)) fuel 0 handler := by
  rw [Handler.dataHandle, issued]
  rfl

/-- A `DATA_ISSUED_CMD` frame with a list of known data points has `dp_download_handle` called for
the values among them, in order and with their ids, lengths and places, and for nothing else; what
`data_handle` does to the device is what these calls do.  A value laid out by
`mcu_dp_value_update` is read back by `mcu_get_dp_download_value`. -/
theorem data_points_parsed_exactly {points : List DataPoint} (known : ∀ point ∈ points, point.Known)
    (short : (points.flatMap DataPoint.encode).length ≤ 1200) {frame : Nat → UInt8} {frVer : UInt8}
    (carries : Carries frame (encodeFrame 0x0c frVer (points.flatMap DataPoint.encode)))
    (handler : Handler) (env : Env) :
    (∀ fuel, points.length < fuel →
      (handler.dataHandle env fuel frame).returned = true ∧
      frameDownloads env fuel frame = expected 0 points ∧
      (handler.dataHandle env fuel frame).handler =
        (handler.perform (fun j => frame (6 + j)) (expected 0 points)).1 ∧
      (handler.dataHandle env fuel frame).calls.filter (!·.isDownloadCmd) =
        (handler.perform (fun j => frame (6 + j)) (expected 0 points)).2) ∧
    (expected 0 points).map (fun download => (download.dpId, download.value fun j => frame (6 + j))) =
      (points.filter (·.dpType = 0x02)).map (fun point => (point.dpId, point.value)) ∧
    ∀ dpId value, ∃ written, mcuDpValueUpdate dpId value = .writeFrame 0x0d written ∧
      written = DataPoint.encode { dpId, dpType := 0x02, value := intToByte value } ∧
      mcuGetDpDownloadValue (fun j => byteAt written (4 + j)) 4 = value := by
  have lays := lays_of_carries short carries
  refine ⟨?_, lays.values, mcuDpValueUpdate_reads⟩
  intro fuel enough
  obtain ⟨returned, made⟩ := @Lays.visits env _ _ points known 0 lays fuel enough
  obtain ⟨same, after, -, calls⟩ := @dataIssued_visits env (fun j => frame (6 + j))
    (field16 (frame 4) (frame 5)) handler fuel 0
  rw [dataHandle_issued carries.frType]
  rw [made] at after calls
  exact ⟨same.trans returned, made, after, calls⟩

/-- A language and a value of another type. -/
def samplePoints : List DataPoint := [⟨0x18, 0x02, [0, 0, 0, 1]⟩, ⟨0x18, 0x03, [0x06, 0x02, 0, 0]⟩]

def sampleFrame : List UInt8 := encodeFrame 0x0c 0 (samplePoints.flatMap DataPoint.encode)

theorem samplePoints_parsed :
    (freshHandler.dataHandle workingFlash 3 (byteAt sampleFrame)).returned = true ∧
      frameDownloads workingFlash 3 (byteAt sampleFrame) = [⟨0x18, 4, 4⟩] := by
  have known : ∀ point ∈ samplePoints, point.Known := by decide
  have carries : Carries (byteAt sampleFrame) sampleFrame := by decide
  obtain ⟨all, -⟩ := data_points_parsed_exactly known (by decide) carries freshHandler workingFlash
  obtain ⟨returned, made, -⟩ := all 3 (by decide)
  exact ⟨returned, made⟩

/-! ## The end of the loop -/

/-- The length that the record at a position declares. -/
def declaredDpLen (payload : Nat → UInt8) (position : Nat) : Nat :=
  (payload (position + 2)).toNat * 256 + (payload (position + 3)).toNat

/-- The `number`-th record, counted from 0, begins at the position and within `length` bytes. -/
inductive RecordAt (payload : Nat → UInt8) (length : Nat) : Nat → Nat → Prop
  | first (some : 0 < length) : RecordAt payload length 0 0
  | next {number position : Nat} (record : RecordAt payload length number position)
      (more : (position + (declaredDpLen payload position + 4)) % 65536 < length) :
      RecordAt payload length (number + 1) ((position + (declaredDpLen payload position + 4)) % 65536)

/-- No record leads back: it ends before the index would wrap, or declares one of the three lengths
that wrap by themselves to a step of one, two or three bytes, of which so many records follow one
another that they are not more than four bytes each would make them. -/
def WellChained (payload : Nat → UInt8) (length : Nat) : Prop :=
  ∀ number position, RecordAt payload length number position →
    (position + (declaredDpLen payload position + 4) < 65536 ∨ 0xFFFC < declaredDpLen payload position) ∧
      number ≤ length / 4

theorem RecordAt.lt {length number position : Nat} (record : RecordAt payload length number position) :
    position < length := by
  cases record with
  | first some => exact some
  | next _ more => exact more

theorem toNat_nextRecord_eq (i : UInt16) :
    (nextRecord payload i).toNat = (i.toNat + (declaredDpLen payload i.toNat + 4)) % 65536 :=
  toNat_nextRecord i

/-- The records are where the loop comes to. -/
theorem Walks.recordAt {i : UInt16} (walks : Walks payload totalLen i) :
    ∃ number, RecordAt payload totalLen.toNat number i.toNat := by
  induction walks with
  | start some => exact ⟨0, .first (UInt16.lt_iff_toNat_lt.mp some)⟩
  | @next i _ more record =>
      obtain ⟨number, here⟩ := record
      have within := UInt16.lt_iff_toNat_lt.mp more
      rw [toNat_nextRecord_eq] at within ⊢
      exact ⟨number + 1, here.next within⟩

/-- Records that all end before the index wraps are at least four bytes each. -/
theorem wellChained_of_fits {length : Nat}
    (fits : ∀ number position, RecordAt payload length number position →
      position + (declaredDpLen payload position + 4) < 65536) : WellChained payload length := by
  intro number position record
  refine ⟨.inl (fits number position record), ?_⟩
  have spaced : 4 * number ≤ position := by
    induction record with
    | first _ => exact Nat.le_refl _
    | @next number position record more induction =>
        have below := fits number position record
        omega
  have inside := record.lt
  omega

theorem RecordAt.toNat_ofNat {number position : Nat}
    (record : RecordAt payload totalLen.toNat number position) : (UInt16.ofNat position).toNat = position := by
  have total := totalLen.toNat_lt
  have below := record.lt
  rw [UInt16.toNat_ofNat']
  omega

theorem RecordAt.nextRecord_eq {number position : Nat}
    (record : RecordAt payload totalLen.toNat number position) :
    nextRecord payload (UInt16.ofNat position) =
      UInt16.ofNat ((position + (declaredDpLen payload position + 4)) % 65536) := by
  apply UInt16.toNat_inj.mp
  rw [toNat_nextRecord_eq, record.toNat_ofNat, UInt16.toNat_ofNat']
  omega

theorem RecordAt.walks {number position : Nat} (record : RecordAt payload totalLen.toNat number position) :
    Walks payload totalLen (UInt16.ofNat position) := by
  induction record with
  | first some => exact .start (UInt16.lt_iff_toNat_lt.mpr some)
  | @next number position record more walks =>
      rw [← record.nextRecord_eq]
      refine .next walks (UInt16.lt_iff_toNat_lt.mpr ?_)
      rw [toNat_nextRecord_eq, record.toNat_ofNat]
      exact more

/-- A well-chained payload is done with after `length / 4 + 1` records. -/
theorem WellChained.visits (chained : WellChained payload totalLen.toNat) {fuel number : Nat} {i : UInt16}
    (record : RecordAt payload totalLen.toNat number i.toNat)
    (enough : totalLen.toNat / 4 + 2 ≤ fuel + number) :
    (visits payload totalLen fuel i).2 = true ∧
      (visits payload totalLen fuel i).1.length + number ≤ totalLen.toNat / 4 + 1 := by
  induction fuel generalizing number i with
  | zero =>
      have few := (chained number i.toNat record).2
      omega
  | succ fuel induction =>
      have few := (chained number i.toNat record).2
      rw [visits_step (UInt16.lt_iff_toNat_lt.mpr record.lt), List.length_cons]
      by_cases more : nextRecord payload i < totalLen
      · have next : RecordAt payload totalLen.toNat (number + 1) (nextRecord payload i).toNat := by
          have within := UInt16.lt_iff_toNat_lt.mp more
          rw [toNat_nextRecord_eq] at within ⊢
          exact record.next within
        obtain ⟨returned, count⟩ := induction next (by omega)
        exact ⟨returned, by omega⟩
      · obtain ⟨fuel, rfl⟩ : ∃ less, fuel = less + 1 := Nat.exists_eq_succ_of_ne_zero (by omega)
        rw [visits_done more]
        exact ⟨rfl, by rw [List.length_nil]; omega⟩

/-- A loop that ends has been at every record. -/
theorem RecordAt.visited {number position : Nat} (record : RecordAt payload totalLen.toNat number position)
    {fuel : Nat} (ends : (Uart.visits payload totalLen fuel 0).2 = true) :
    ∃ less, (Uart.visits payload totalLen less (UInt16.ofNat position)).2 = true ∧
      (Uart.visits payload totalLen fuel 0).1.length =
        number + (Uart.visits payload totalLen less (UInt16.ofNat position)).1.length := by
  induction record with
  | first some => exact ⟨fuel, ends, (Nat.zero_add _).symm⟩
  | @next number position record more induction =>
      obtain ⟨less, returned, count⟩ := induction
      cases less with
      | zero => cases returned
      | succ less =>
          have inside : UInt16.ofNat position < totalLen := record.walks.lt
          rw [visits_step inside, record.nextRecord_eq] at returned count
          refine ⟨less, returned, ?_⟩
          rw [count, List.length_cons]
          omega

theorem RecordAt.lt_visits {number position : Nat} (record : RecordAt payload totalLen.toNat number position)
    {fuel : Nat} (ends : (Uart.visits payload totalLen fuel 0).2 = true) :
    number < (Uart.visits payload totalLen fuel 0).1.length := by
  obtain ⟨less, returned, count⟩ := record.visited ends
  cases less with
  | zero => cases returned
  | succ less =>
      rw [visits_step record.walks.lt, List.length_cons] at count
      omega

/-- Within the first 1200 bytes an index goes on exactly when the record's end
does not wrap, or its length alone wraps to a step forward. -/
theorem lt_nextRecord_iff {i : UInt16} (short : i.toNat < 1200) :
    i < nextRecord payload i ↔
      i.toNat + (declaredDpLen payload i.toNat + 4) < 65536 ∨ 0xFFFC < declaredDpLen payload i.toNat := by
  have high := (payload (i.toNat + 2)).toNat_lt
  have low := (payload (i.toNat + 3)).toNat_lt
  rw [UInt16.lt_iff_toNat_lt, toNat_nextRecord_eq, declaredDpLen]
  omega

/-- The loop of `DATA_ISSUED_CMD` advances with every record and returns after no more than a fourth
of the payload and one exactly when the payload is well chained. -/
theorem data_points_end_iff_well_chained (handler : Handler) (env : Env) {frame : Nat → UInt8}
    (issued : frame 3 = 0x0c) (short : (field16 (frame 4) (frame 5)).toNat ≤ 1200) :
    ((∀ i, Walks (fun j => frame (6 + j)) (field16 (frame 4) (frame 5)) i →
        i < nextRecord (fun j => frame (6 + j)) i) ∧
      ∃ fuel, (handler.dataHandle env fuel frame).returned = true ∧
        (handler.dataHandle env fuel frame).calls.countP Call.isDownloadCmd ≤
          (field16 (frame 4) (frame 5)).toNat / 4 + 1) ↔
      WellChained (fun j => frame (6 + j)) (field16 (frame 4) (frame 5)).toNat := by
  simp only [dataHandle_issued issued]
  have loop := fun fuel => @dataIssued_visits env (fun j => frame (6 + j)) (field16 (frame 4) (frame 5))
    handler fuel 0
  constructor
  · rintro ⟨advances, fuel, returned, count⟩ number position record
    obtain ⟨same, -, counted, -⟩ := loop fuel
    have position_short : position < 1200 := Nat.lt_of_lt_of_le record.lt short
    have forward := advances _ record.walks
    rw [lt_nextRecord_iff (by rw [record.toNat_ofNat]; exact position_short), record.toNat_ofNat] at forward
    have visited := record.lt_visits (same.symm.trans returned)
    rw [counted] at count
    exact ⟨forward, by omega⟩
  · intro chained
    refine ⟨?_, (field16 (frame 4) (frame 5)).toNat / 4 + 2, ?_⟩
    · intro i walks
      obtain ⟨number, record⟩ := walks.recordAt
      exact (lt_nextRecord_iff (Nat.lt_of_lt_of_le record.lt short)).mpr (chained number _ record).1
    · obtain ⟨same, -, counted, -⟩ := loop ((field16 (frame 4) (frame 5)).toNat / 4 + 2)
      rw [same, counted]
      by_cases some : 0 < (field16 (frame 4) (frame 5)).toNat
      · have first : RecordAt (fun j => frame (6 + j)) (field16 (frame 4) (frame 5)).toNat 0
            (0 : UInt16).toNat := .first some
        exact chained.visits first (Nat.le_refl _)
      · have none : ¬0 < field16 (frame 4) (frame 5) := fun more => some (UInt16.lt_iff_toNat_lt.mp more)
        rw [visits_done none]
        exact ⟨rfl, Nat.zero_le _⟩

/-- Four bytes that are one record after another, all at the same place. -/
def endlessFrame : List UInt8 := encodeFrame 0x0c 0 [0x02, 0x02, 0xFF, 0xFC]

theorem endlessFrame_never_ends :
    Carries (byteAt endlessFrame) endlessFrame ∧
      ∀ fuel, (freshHandler.dataHandle workingFlash fuel (byteAt endlessFrame)).returned = false := by
  have carries : Carries (byteAt endlessFrame) endlessFrame := by decide
  refine ⟨carries, fun fuel => ?_⟩
  have issued : byteAt endlessFrame 3 = 0x0c := by decide
  rw [dataHandle_issued issued, (dataIssued_visits _ _ _).1]
  have more : 0 < field16 (byteAt endlessFrame 4) (byteAt endlessFrame 5) := by decide
  have stays : nextRecord (fun j => byteAt endlessFrame (6 + j)) 0 = 0 := by decide
  induction fuel with
  | zero => rfl
  | succ fuel induction =>
      rw [visits_step more, stays]
      exact induction

/-- A frame whose record ends where it says. -/
theorem samplePoints_end :
    ∃ fuel, (freshHandler.dataHandle workingFlash fuel (byteAt sampleFrame)).returned = true ∧
      (freshHandler.dataHandle workingFlash fuel (byteAt sampleFrame)).calls.countP Call.isDownloadCmd ≤ 5 := by
  have chained : WellChained (fun j => byteAt sampleFrame (6 + j))
      (field16 (byteAt sampleFrame 4) (byteAt sampleFrame 5)).toNat := by
    have places : ∀ number position, RecordAt (fun j => byteAt sampleFrame (6 + j))
        (field16 (byteAt sampleFrame 4) (byteAt sampleFrame 5)).toNat number position →
        number = 0 ∧ position = 0 ∨ number = 1 ∧ position = 8 := by
      intro number position record
      induction record with
      | first _ => exact .inl ⟨rfl, rfl⟩
      | next _ more induction =>
          rcases induction with ⟨rfl, rfl⟩ | ⟨rfl, rfl⟩
          · exact .inr ⟨rfl, by decide⟩
          · revert more
            decide
    intro number position record
    rcases places number position record with ⟨rfl, rfl⟩ | ⟨rfl, rfl⟩
    · decide
    · decide
  exact ((data_points_end_iff_well_chained freshHandler workingFlash (by decide) (by decide)).mpr chained).2

end SyrFilter.Uart
