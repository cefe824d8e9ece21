import SyrFilter.Uart.Handler

namespace SyrFilter.Uart

open SyrFilter.Lib

/-! # What a frame's handling depends on

`data_handle` should do the same whatever lies behind the frame it is called
on.  It does when the bytes it reads are the frame's own.  The declared length
does not see to that: a short payload, a data point cut off by the end of the
frame and an update packet without an offset all make it read on.
-/

def frameBody (frType frVer : UInt8) (payload : List UInt8) : List UInt8 :=
  (encodeFrame frType frVer payload).drop 6

/-- The handling of the frame, at any offset of the buffer, is the same whatever
else is in it, and `download_cmd` is indexed within its entries. -/
def Isolated (handler : Handler) (env : Env) (bytes : List UInt8) : Prop :=
  ∀ (offset fuel : Nat) (buf buf' : Nat → UInt8), offset + bytes.length ≤ processSize →
    Carries (fun i => buf (offset + i)) bytes → Carries (fun i => buf' (offset + i)) bytes →
      (handler.dataHandle env fuel fun i => buf (offset + i)) =
          (handler.dataHandle env fuel fun i => buf' (offset + i)) ∧
        ∀ index, .downloadCmd index ∈
          (handler.dataHandle env fuel fun i => buf (offset + i)).calls → index < downloadCmd.length

/-! ## When the bytes read are the frame's own -/

section Own

variable (last : Nat) (body : List UInt8)

def nextRecord (payload : Nat → UInt8) (i : UInt16) : UInt16 :=
  i + (field16 (payload (i.toNat + 2)) (payload (i.toNat + 3)) + 4)

/-- The indices at which the loop of `DATA_ISSUED_CMD` handles a record. -/
inductive Walks (payload : Nat → UInt8) (totalLen : UInt16) : UInt16 → Prop
  | start (some : 0 < totalLen) : Walks payload totalLen 0
  | next {i : UInt16} (walks : Walks payload totalLen i) (more : nextRecord payload i < totalLen) :
      Walks payload totalLen (nextRecord payload i)

/-- The record at an index of the payload is a known data point, a value that is
used ends before the frame does, and so does the length, or else the loop ends
whatever its missing byte is.  `last` is the index of the checksum. -/
structure OwnRecord (i : Nat) : Prop where
  known : getDowmloadDpidIndex (byteAt body i) < downloadCmd.length
  value : readsValue (byteAt body i) = true → byteAt body (i + 1) = 0x02 → i + 7 ≤ last
  length : i + 3 ≤ last ∨
    i + 2 = last ∧ i + 4 + (byteAt body last).toNat * 256 + 255 < 65536

/-- A packet too short for an offset would be stored for some bytes behind it. -/
def MayStoreStray (ota : Ota.State) (ops : Ota.FlashOps) (totalLen : UInt16) : Prop :=
  (∀ i ≤ last, byteAt body i = byteAt (intToByte ota.curSize) i) ∧
    ota.Stores ops ota.curSize (totalLen - 4).toUInt32

/-- The bytes that handling the frame looks at are its own. -/
def ReadsOwn (handler : Handler) (env : Env) (frType : UInt8) : Prop :=
  match frType with
  | 0x0c => ∀ i, Walks (byteAt body) (UInt16.ofNat last) i → OwnRecord last body i.toNat
  | 0x1c => 1 ≤ last
  | 0x1d => 3 ≤ last
  | 0x1e =>
      handler.ota.firmUpdateFlag = 0x1d → last < 4 →
        ¬MayStoreStray last body handler.ota env.flash (UInt16.ofNat last)
  | _ => True

end Own

/-! ## Frames as payloads -/

section Payload

variable {frType frVer : UInt8} {payload : List UInt8}

theorem length_of_fits {length : Nat} (fits : length + protocolHead ≤ processSize) :
    length ≤ 1200 := by
  rw [protocolHead, processSize] at fits
  omega

theorem byteAt_frameBody {position : Nat} :
    byteAt (frameBody frType frVer payload) position =
      byteAt (encodeFrame frType frVer payload) (6 + position) := by
  simp [frameBody, byteAt]

theorem Carries.body {pointer : Nat → UInt8}
    (carries : Carries pointer (encodeFrame frType frVer payload)) {position : Nat}
    (inside : position ≤ payload.length) :
    pointer (6 + position) = byteAt (frameBody frType frVer payload) position := by
  rw [byteAt_frameBody, carries.byte]
  rw [length_encodeFrame]
  rw [protocolHead]
  omega

theorem Carries.totalLen {pointer : Nat → UInt8}
    (carries : Carries pointer (encodeFrame frType frVer payload)) (fits : payload.length < 65536) :
    field16 (pointer 4) (pointer 5) = UInt16.ofNat payload.length := by
  apply UInt16.toNat_inj.mp
  rw [toNat_field16, carries.length fits, UInt16.toNat_ofNat', Nat.mod_eq_of_lt fits]

/-- A pointer to the frame with chosen bytes from the payload on. -/
def frameBefore (bytes : List UInt8) (rest : Nat → UInt8) : Nat → UInt8 :=
  fun i => if i < 6 then byteAt bytes i else rest (i - 6)

theorem frameBefore_payload (bytes : List UInt8) (rest : Nat → UInt8) :
    (fun i => frameBefore bytes rest (6 + i)) = rest := by
  funext i
  rw [frameBefore, if_neg (by omega), Nat.add_sub_cancel_left]

theorem carries_frameBefore {rest : Nat → UInt8}
    (agrees : ∀ i ≤ payload.length, rest i = byteAt (frameBody frType frVer payload) i) :
    Carries (frameBefore (encodeFrame frType frVer payload) rest)
      (encodeFrame frType frVer payload) := by
  apply List.ext_getElem
  · simp
  · intro i below inside
    rw [getElem_window, Nat.zero_add, frameBefore]
    have read : (encodeFrame frType frVer payload)[i] = byteAt (encodeFrame frType frVer payload) i := by
      simp [byteAt, inside]
    rw [read]
    split
    · rfl
    · rw [length_encodeFrame] at inside
      rw [protocolHead] at inside
      rw [agrees (i - 6) (by omega), byteAt_frameBody]
      congr 1
      omega

/-- Isolation in terms of what follows the header. -/
theorem isolated_iff {handler : Handler} {env : Env}
    (fits : payload.length + protocolHead ≤ processSize) :
    Isolated handler env (encodeFrame frType frVer payload) ↔
      ∀ (fuel : Nat) (rest rest' : Nat → UInt8),
        (∀ i ≤ payload.length, rest i = byteAt (frameBody frType frVer payload) i) →
        (∀ i ≤ payload.length, rest' i = byteAt (frameBody frType frVer payload) i) →
          handler.handlePayload env fuel frType (UInt16.ofNat payload.length) rest =
              handler.handlePayload env fuel frType (UInt16.ofNat payload.length) rest' ∧
            ∀ index, .downloadCmd index ∈ (handler.handlePayload env fuel frType
              (UInt16.ofNat payload.length) rest).calls → index < downloadCmd.length := by
  have short : payload.length < 65536 := (length_of_fits fits).trans_lt (by decide)
  constructor
  · intro isolated fuel rest rest' agrees agrees'
    have room : 0 + (encodeFrame frType frVer payload).length ≤ processSize := by
      rw [length_encodeFrame]
      omega
    have carries := carries_frameBefore agrees
    have carries' := carries_frameBefore agrees'
    have same := isolated 0 fuel (frameBefore (encodeFrame frType frVer payload) rest)
      (frameBefore (encodeFrame frType frVer payload) rest') room (by simpa using carries)
      (by simpa using carries')
    simpa only [Nat.zero_add, Handler.dataHandle, carries.frType, carries'.frType,
      carries.totalLen short, carries'.totalLen short, frameBefore_payload] using same
  · intro isolated offset fuel buf buf' _ carries carries'
    have same := isolated fuel (fun i => buf (offset + (6 + i))) (fun i => buf' (offset + (6 + i)))
      (fun i inside => carries.body inside) (fun i inside => carries'.body inside)
    simpa only [Handler.dataHandle, carries.frType, carries'.frType, carries.totalLen short,
      carries'.totalLen short] using same

end Payload

/-! ## Own bytes suffice -/

theorem isSome_settingOf (dpid : UInt8) (value : UInt32) :
    (settingOf dpid value).isSome = readsValue dpid := by
  rw [readsValue]
  fun_cases settingOf dpid value <;> first | rfl | simp [settingOf, *]

section DataPoints

variable {handler : Handler} {env : Env} {value value' : Nat → UInt8}

theorem dpDownloadHandle_of_not_readsValue {dpid : UInt8} (unread : readsValue dpid = false) :
    handler.dpDownloadHandle dpid value = handler.dpDownloadHandle dpid value' := by
  have none : ∀ number, settingOf dpid number = none := by
    intro number
    have isSome := isSome_settingOf dpid number
    rw [unread] at isSome
    exact Option.isSome_eq_false_iff.mp isSome |> Option.isNone_iff_eq_none.mp
  simp only [Handler.dpDownloadHandle, none]

theorem downloadCmd_type (index : Nat) (known : index < downloadCmd.length) :
    (downloadCmd[index]?.map Prod.snd).getD env.behindTable = 0x02 := by
  have entry : downloadCmd[index].2 = 0x02 := by simp only [downloadCmd, List.getElem_map]
  rw [List.getElem?_eq_getElem known, Option.map_some, Option.getD_some, entry]

theorem dataPointHandle_congr (dpid : value 0 = value' 0) (dpType : value 1 = value' 1)
    (known : getDowmloadDpidIndex (value 0) < downloadCmd.length)
    (number : readsValue (value 0) = true → value 1 = 0x02 →
      ∀ i < 4, value (4 + i) = value' (4 + i)) :
    handler.dataPointHandle env value = handler.dataPointHandle env value' := by
  have same : value 1 = 0x02 →
      (handler.dpDownloadHandle (value 0) fun i => value (4 + i)) =
        handler.dpDownloadHandle (value 0) fun i => value' (4 + i) := by
    intro typed
    cases reads : readsValue (value 0) with
    | false => exact dpDownloadHandle_of_not_readsValue reads
    | true =>
        have bytes := number reads typed
        have read : byteToInt (fun i => value (4 + i)) = byteToInt fun i => value' (4 + i) := by
          simp only [byteToInt, bytes 0 (by decide), bytes 1 (by decide), bytes 2 (by decide),
            bytes 3 (by decide)]
        simp only [Handler.dpDownloadHandle, read]
  simp only [Handler.dataPointHandle, ← dpid, ← dpType, downloadCmd_type _ known]
  split
  · rfl
  · rename_i typed
    rw [same (not_not.mp typed)]

theorem downloadCmd_not_mem_dpDownloadHandle (dpid : UInt8) (index : Nat) :
    .downloadCmd index ∉ (handler.dpDownloadHandle dpid value).calls := by
  rw [Handler.dpDownloadHandle]
  split
  · dsimp only
    split <;> simp [mcuDpValueUpdate]
  · dsimp only
    split
    · simp [mcuDpValueUpdate]
    · split <;> simp

theorem mem_calls_dataPointHandle {index : Nat} :
    .downloadCmd index ∈ (handler.dataPointHandle env value).calls ↔
      index = getDowmloadDpidIndex (value 0) := by
  rw [Handler.dataPointHandle]
  dsimp only
  split
  · simp
  · simp [downloadCmd_not_mem_dpDownloadHandle]

end DataPoints

section DataIssued

variable {env : Env} {last : Nat} {body : List UInt8} {rest : Nat → UInt8} {totalLen : UInt16}

theorem dataIssued_done {i : UInt16} (done : ¬i < totalLen) (fuel : Nat) (handler : Handler) :
    Handler.dataIssued env rest totalLen fuel i handler =
      { handler, calls := [], returned := decide (fuel ≠ 0) } := by
  cases fuel with
  | zero => rfl
  | succ fuel =>
      rw [Handler.dataIssued, if_neg done]
      rfl

theorem dataIssued_step {i : UInt16} (more : i < totalLen) (fuel : Nat) (handler : Handler) :
    Handler.dataIssued env rest totalLen (fuel + 1) i handler =
      { Handler.dataIssued env rest totalLen fuel (nextRecord rest i)
          (handler.dataPointHandle env fun j => rest (i.toNat + j)).handler with
        calls :=
          (handler.dataPointHandle env fun j => rest (i.toNat + j)).calls ++
            (Handler.dataIssued env rest totalLen fuel (nextRecord rest i)
              (handler.dataPointHandle env fun j => rest (i.toNat + j)).handler).calls } := by
  rw [Handler.dataIssued, if_pos more]
  rfl

theorem Walks.lt {i : UInt16} (walks : Walks rest totalLen i) : i < totalLen := by
  cases walks with
  | start some => exact some
  | next _ more => exact more

theorem toNat_nextRecord (i : UInt16) :
    (nextRecord rest i).toNat =
      (i.toNat + ((rest (i.toNat + 2)).toNat * 256 + (rest (i.toNat + 3)).toNat + 4)) % 65536 := by
  have four : (4 : UInt16).toNat = 4 := rfl
  rw [nextRecord, UInt16.toNat_add, UInt16.toNat_add, toNat_field16, four]
  omega

theorem toNat_lt_of_lt {i : UInt16} (fits : last < 65536) : i < UInt16.ofNat last ↔ i.toNat < last := by
  rw [UInt16.lt_iff_toNat_lt, UInt16.toNat_ofNat', Nat.mod_eq_of_lt fits]

theorem OwnRecord.dataPointHandle_eq {i : Nat} (own : OwnRecord last body i) (inside : i < last)
    (agrees : ∀ j ≤ last, rest j = byteAt body j) (handler : Handler) :
    (handler.dataPointHandle env fun j => rest (i + j)) =
      handler.dataPointHandle env fun j => byteAt body (i + j) := by
  have dpid : rest (i + 0) = byteAt body (i + 0) := agrees i (by omega)
  have dpType : rest (i + 1) = byteAt body (i + 1) := agrees (i + 1) (by omega)
  apply dataPointHandle_congr dpid dpType
  · rw [dpid]
    exact own.known
  · intro reads typed j below
    rw [dpid] at reads
    rw [dpType] at typed
    have ends := own.value reads typed
    exact agrees (i + (4 + j)) (by omega)

/-- Behind such a record the loop goes to the same record or to its end. -/
theorem OwnRecord.next {i : UInt16} (own : OwnRecord last body i.toNat) (fits : last < 65536)
    (agrees : ∀ j ≤ last, rest j = byteAt body j) :
    nextRecord rest i = nextRecord (byteAt body) i ∨
      ¬nextRecord rest i < UInt16.ofNat last ∧ ¬nextRecord (byteAt body) i < UInt16.ofNat last := by
  rcases own.length with whole | ⟨cut, ends⟩
  · left
    rw [nextRecord, nextRecord, agrees _ (by omega : i.toNat + 2 ≤ last), agrees _ whole]
  · right
    have high := agrees (i.toNat + 2) (by omega)
    have low := (rest (i.toNat + 3)).toNat_lt
    have low' := (byteAt body (i.toNat + 3)).toNat_lt
    rw [toNat_lt_of_lt fits, toNat_lt_of_lt fits, toNat_nextRecord, toNat_nextRecord, high, cut]
    omega

theorem dataIssued_own (fits : last < 65536) (agrees : ∀ j ≤ last, rest j = byteAt body j)
    (own : ∀ i, Walks (byteAt body) (UInt16.ofNat last) i → OwnRecord last body i.toNat)
    {i : UInt16} (walks : Walks (byteAt body) (UInt16.ofNat last) i) (fuel : Nat) (handler : Handler) :
    Handler.dataIssued env rest (UInt16.ofNat last) fuel i handler =
        Handler.dataIssued env (byteAt body) (UInt16.ofNat last) fuel i handler ∧
      ∀ index, .downloadCmd index ∈
        (Handler.dataIssued env rest (UInt16.ofNat last) fuel i handler).calls →
          index < downloadCmd.length := by
  induction fuel generalizing i handler with
  | zero => exact ⟨rfl, fun _ member => absurd member List.not_mem_nil⟩
  | succ fuel ih =>
      have ownHere := own i walks
      have inside := (toNat_lt_of_lt fits).mp walks.lt
      have record := @OwnRecord.dataPointHandle_eq env last body rest i.toNat ownHere inside agrees
        handler
      have known : ∀ index, .downloadCmd index ∈
          (handler.dataPointHandle env fun j => byteAt body (i.toNat + j)).calls →
            index < downloadCmd.length := by
        intro index member
        rw [mem_calls_dataPointHandle] at member
        rw [member]
        exact ownHere.known
      rw [dataIssued_step walks.lt, dataIssued_step walks.lt, record]
      rcases ownHere.next fits agrees with same | ⟨done, done'⟩
      · rw [same]
        by_cases more : nextRecord (byteAt body) i < UInt16.ofNat last
        · obtain ⟨equal, inTable⟩ := ih (.next walks more)
            (handler.dataPointHandle env fun j => byteAt body (i.toNat + j)).handler
          rw [← equal]
          refine ⟨rfl, fun index member => ?_⟩
          exact (List.mem_append.mp member).elim (known index) (inTable index)
        · rw [dataIssued_done more, dataIssued_done more]
          refine ⟨rfl, fun index member => ?_⟩
          exact (List.mem_append.mp member).elim (known index) fun none => absurd none List.not_mem_nil
      · rw [dataIssued_done done, dataIssued_done done']
        refine ⟨rfl, fun index member => ?_⟩
        exact (List.mem_append.mp member).elim (known index) fun none => absurd none List.not_mem_nil

end DataIssued

section Updates

variable {handler : Handler} {env : Env} {last : Nat} {body : List UInt8} {rest rest' : Nat → UInt8}

theorem byteToInt_congr (same : ∀ i ≤ 3, rest i = rest' i) : byteToInt rest = byteToInt rest' := by
  simp only [byteToInt, same 0 (by decide), same 1 (by decide), same 2 (by decide), same 3 (by decide)]

theorem toNat_ofNat_sub_four (long : 4 ≤ last) (fits : last < 65536) :
    (UInt16.ofNat last - 4).toNat = last - 4 := by
  have total : (UInt16.ofNat last).toNat = last := by
    rw [UInt16.toNat_ofNat', Nat.mod_eq_of_lt fits]
  have four : (4 : UInt16) ≤ UInt16.ofNat last := by
    rw [UInt16.le_iff_toNat_le, total]
    exact long
  rw [UInt16.toNat_sub_of_le _ _ four, total]
  rfl

theorem byteAt_intToByte_byteToInt {i : Nat} (below : i < 4) :
    byteAt (intToByte (byteToInt rest)) i = rest i := by
  rw [intToByte_byteToInt]
  match i, below with
  | 0, _ => rfl
  | 1, _ => rfl
  | 2, _ => rfl
  | 3, _ => rfl

/-- A packet with an offset is stored with data of its own; one without is not stored. -/
theorem wifiOtaReceive_own (fits : last < 65536)
    (own : last < 4 → ¬MayStoreStray last body handler.ota env.flash (UInt16.ofNat last))
    (agrees : ∀ i ≤ last, rest i = byteAt body i) (agrees' : ∀ i ≤ last, rest' i = byteAt body i) :
    handler.ota.wifiOtaReceive env.flash (fun i => rest (4 + i)) (byteToInt rest)
        (UInt16.ofNat last - 4).toUInt32 =
      handler.ota.wifiOtaReceive env.flash (fun i => rest' (4 + i)) (byteToInt rest')
        (UInt16.ofNat last - 4).toUInt32 := by
  by_cases short : last < 4
  · have refused : ∀ pointer : Nat → UInt8, (∀ i ≤ last, pointer i = byteAt body i) →
        ¬handler.ota.Stores env.flash (byteToInt pointer) (UInt16.ofNat last - 4).toUInt32 := by
      intro pointer pointerAgrees stores
      have current : handler.ota.curSize = byteToInt pointer := stores.1
      apply own short
      constructor
      · intro i inside
        rw [← pointerAgrees i inside, current, byteAt_intToByte_byteToInt (by omega)]
      · rw [← current] at stores
        exact stores
    rw [Ota.State.wifiOtaReceive_refused (refused rest agrees),
      Ota.State.wifiOtaReceive_refused (refused rest' agrees')]
  · have length : (UInt16.ofNat last - 4).toUInt32.toNat = last - 4 := by
      rw [UInt16.toNat_toUInt32, toNat_ofNat_sub_four (by omega) fits]
    have position : byteToInt rest = byteToInt rest' := by
      apply byteToInt_congr
      intro i below
      rw [agrees i (by omega), agrees' i (by omega)]
    rw [← position]
    apply Ota.State.wifiOtaReceive_congr
    intro i below
    rw [length] at below
    rw [agrees _ (by omega), agrees' _ (by omega)]

theorem updateTrans_own (fits : last < 65536)
    (own : handler.ota.firmUpdateFlag = 0x1d → last < 4 →
      ¬MayStoreStray last body handler.ota env.flash (UInt16.ofNat last))
    (agrees : ∀ i ≤ last, rest i = byteAt body i) (agrees' : ∀ i ≤ last, rest' i = byteAt body i) :
    handler.updateTrans env rest (UInt16.ofNat last) =
      handler.updateTrans env rest' (UInt16.ofNat last) := by
  by_cases updating : handler.ota.firmUpdateFlag = 0x1d
  · by_cases dataless : UInt16.ofNat last = 4
    · rw [Handler.updateTrans_end updating dataless, Handler.updateTrans_end updating dataless]
    · by_cases short : ((UInt16.ofNat last).toNat : Int) - 4 ≤ handler.ota.firmSize.toNat
      · rw [Handler.updateTrans_data updating dataless short,
          Handler.updateTrans_data updating dataless short,
          wifiOtaReceive_own fits (own updating) agrees agrees']
      · rw [Handler.updateTrans_tooLong updating short, Handler.updateTrans_tooLong updating short]
  · rw [Handler.updateTrans_idle updating, Handler.updateTrans_idle updating]

theorem downloadCmd_not_mem_updateTrans (totalLen : UInt16) (index : Nat) :
    .downloadCmd index ∉ (handler.updateTrans env rest totalLen).calls := by
  by_cases updating : handler.ota.firmUpdateFlag = 0x1d
  · by_cases dataless : totalLen = 4
    · rw [Handler.updateTrans_end updating dataless]
      simp
    · by_cases short : (totalLen.toNat : Int) - 4 ≤ handler.ota.firmSize.toNat
      · rw [Handler.updateTrans_data updating dataless short]
        dsimp only
        split <;> simp
      · rw [Handler.updateTrans_tooLong updating short]
        simp
  · rw [Handler.updateTrans_idle updating]
    simp

end Updates

/-! ## Every command -/

section Commands

variable {handler : Handler} {env : Env} {frType frVer : UInt8} {payload : List UInt8}

theorem downloadCmd_not_mem_handlePayload (other : frType ≠ 0x0c) (fuel : Nat) (totalLen : UInt16)
    (rest : Nat → UInt8) (index : Nat) :
    .downloadCmd index ∉ (handler.handlePayload env fuel frType totalLen rest).calls := by
  simp only [Handler.handlePayload]
  split <;> try simp
  · exact absurd rfl other
  · simp [Handler.updateStart]
  · exact downloadCmd_not_mem_updateTrans totalLen index

theorem dataIssued_zero_own {last : Nat} {body : List UInt8} {rest : Nat → UInt8} (fits : last < 65536)
    (agrees : ∀ i ≤ last, rest i = byteAt body i)
    (own : ∀ i, Walks (byteAt body) (UInt16.ofNat last) i → OwnRecord last body i.toNat) (fuel : Nat) :
    Handler.dataIssued env rest (UInt16.ofNat last) fuel 0 handler =
        Handler.dataIssued env (byteAt body) (UInt16.ofNat last) fuel 0 handler ∧
      ∀ index, .downloadCmd index ∈
        (Handler.dataIssued env rest (UInt16.ofNat last) fuel 0 handler).calls →
          index < downloadCmd.length := by
  by_cases some : 0 < UInt16.ofNat last
  · exact dataIssued_own fits agrees own (.start some) fuel handler
  · rw [dataIssued_done some, dataIssued_done some]
    exact ⟨rfl, fun _ member => absurd member List.not_mem_nil⟩

theorem handlePayload_own {last : Nat} {body : List UInt8} {rest rest' : Nat → UInt8}
    (fits : last < 65536) (own : ReadsOwn last body handler env frType) (other : frType ≠ 0x0c)
    (agrees : ∀ i ≤ last, rest i = byteAt body i) (agrees' : ∀ i ≤ last, rest' i = byteAt body i)
    (fuel : Nat) :
    handler.handlePayload env fuel frType (UInt16.ofNat last) rest =
      handler.handlePayload env fuel frType (UInt16.ofNat last) rest' := by
  have same : ∀ i ≤ last, rest i = rest' i :=
    fun i inside => (agrees i inside).trans (agrees' i inside).symm
  have first : rest 0 = rest' 0 := same 0 (Nat.zero_le _)
  simp only [Handler.handlePayload]
  split <;> try first | rfl | rw [first]
  · exact absurd rfl other
  · have second : rest 1 = rest' 1 := same 1 own
    rw [second]
  · have length : byteToInt rest = byteToInt rest' :=
      byteToInt_congr fun i below => same i (below.trans own)
    simp only [Handler.updateStart, length]
  · exact updateTrans_own fits own agrees agrees'

theorem isolated_of_readsOwn (fits : payload.length + protocolHead ≤ processSize)
    (own : ReadsOwn payload.length (frameBody frType frVer payload) handler env frType) :
    Isolated handler env (encodeFrame frType frVer payload) := by
  rw [isolated_iff fits]
  have short : payload.length < 65536 := (length_of_fits fits).trans_lt (by decide)
  intro fuel rest rest' agrees agrees'
  by_cases issued : frType = 0x0c
  · subst issued
    obtain ⟨equal, inTable⟩ := @dataIssued_zero_own handler env _ _ _ short agrees own fuel
    obtain ⟨equal', -⟩ := @dataIssued_zero_own handler env _ _ _ short agrees' own fuel
    exact ⟨equal.trans equal'.symm, inTable⟩
  · have outside := @downloadCmd_not_mem_handlePayload handler env frType issued fuel
      (UInt16.ofNat payload.length) rest
    exact ⟨handlePayload_own short own issued agrees agrees' fuel,
      fun index member => absurd member (outside index)⟩

end Commands

end SyrFilter.Uart
