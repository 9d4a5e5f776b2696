import ZdtmSync.Decimals
import ZdtmSync.Strings
import ZdtmSync.Sending

/-!
# The time of the last synchronization

The device keeps fourteen characters of a date for the Desktop: an RTS message
stores them and an ATG message returns them, or zeros if there was never a
synchronization. The test for the zeros compares arrays with NULL, so the zeros
are taken for a date as well.
-/

namespace ZdtmAnchor

open ByteCodec CMemory Programs ZdtmTypes ZdtmCommon ZdtmDesktopMsg ZdtmZaurusMsg ZdtmMsgs ZdtmNet
open ZdtmReceiving ZdtmSession ZdtmProto ZdtmConnections ZdtmSync ZdtmExchanges ZdtmOperations
open ZdtmReplies ZdtmScript ZdtmServed ZdtmStrings ZdtmSending ZdtmDecimals

/-- The six fields, one behind the other. -/
def dateBytes (atg : AtgMsgContent) : List UInt8 :=
  atg.year.toList ++ (atg.month.toList ++ (atg.day.toList ++
    (atg.hour.toList ++ (atg.minutes.toList ++ atg.seconds.toList))))

@[simp] theorem length_dateBytes (atg : AtgMsgContent) : (dateBytes atg).length = 14 := by
  simp [dateBytes]

/-- The fields are the first fourteen bytes of the content. -/
theorem atgLayout_date {s rest : List UInt8} {atg : AtgMsgContent}
    (h : atgLayout s = some (atg, rest)) : s = dateBytes atg ++ rest := by
  obtain ⟨year, s₁, hyear, h⟩ := Decoder.bind_some h
  obtain ⟨month, s₂, hmonth, h⟩ := Decoder.bind_some h
  obtain ⟨day, s₃, hday, h⟩ := Decoder.bind_some h
  obtain ⟨hour, s₄, hhour, h⟩ := Decoder.bind_some h
  obtain ⟨minutes, s₅, hminutes, h⟩ := Decoder.bind_some h
  obtain ⟨seconds, s₆, hseconds, h⟩ := Decoder.bind_some h
  cases h
  simp only [dateBytes, List.append_assoc]
  rw [Decoder.raw_some hseconds, Decoder.raw_some hminutes, Decoder.raw_some hhour,
    Decoder.raw_some hday, Decoder.raw_some hmonth, Decoder.raw_some hyear]

theorem frame_date {b : Build} {f : Frame b} (htype : f.type = .atg) :
    f.content.take 14 = dateBytes f.cont.atg := by
  obtain ⟨rest, hlayout⟩ := f.layout_cont
  rw [f.framed_target, htype] at hlayout
  generalize f.cont = cont at hlayout ⊢
  obtain ⟨atg, mid, hatg, hcont⟩ := Decoder.bind_some hlayout
  have hdate := atgLayout_date hatg
  cases hcont
  rw [hdate, List.take_left' (length_dateBytes atg)]

/-- Dates with the same bytes have the same fields. -/
theorem dateBytes_inj {atg atg' : AtgMsgContent} (h : dateBytes atg = dateBytes atg') :
    atg = atg' := by
  obtain ⟨year, month, day, hour, minutes, seconds⟩ := atg
  obtain ⟨year', month', day', hour', minutes', seconds'⟩ := atg'
  simp only [dateBytes] at h
  obtain ⟨hyear, h⟩ := List.append_inj h (by simp)
  obtain ⟨hmonth, h⟩ := List.append_inj h (by simp)
  obtain ⟨hday, h⟩ := List.append_inj h (by simp)
  obtain ⟨hhour, h⟩ := List.append_inj h (by simp)
  obtain ⟨hminutes, hseconds⟩ := List.append_inj h (by simp)
  simp only [AtgMsgContent.mk.injEq]
  exact ⟨Subtype.ext hyear, Subtype.ext hmonth, Subtype.ext hday, Subtype.ext hhour,
    Subtype.ext hminutes, Subtype.ext hseconds⟩

/-- A message whose content starts with the bytes of a date has its fields. -/
theorem frame_atg {b : Build} {f : Frame b} (htype : f.type = .atg) {atg : AtgMsgContent}
    (h : f.content.take 14 = dateBytes atg) : f.cont.atg = atg :=
  dateBytes_inj ((frame_date htype).symm.trans h)

/-- All fields are zero: the device was never synchronized, or was reset. -/
def NeverSynced (date : List UInt8) : Prop := ∀ byte ∈ date, byte = 0

instance (date : List UInt8) : Decidable (NeverSynced date) :=
  inferInstanceAs (Decidable (∀ byte ∈ date, byte = 0))

/-- What is made of a date: `mktime` decides. -/
def converted (host : Host) (pTime : Int) (tm : Tm) : Int × Int :=
  if host.mktime tm = -1 then (-4, pTime) else (0, host.mktime tm)

theorem converted_ne_one (host : Host) (pTime : Int) (tm : Tm) :
    converted host pTime tm ≠ (1, pTime) := by
  unfold converted
  split
  · simp
  · simp

/-- The exchange that asks for the date has this outcome. -/
def AsksDate (b : Build) (s : State) (f : Frame b) : Prop :=
  ∃ s₁, exchange b (desktopMsg .rtg {}) .atg (-1) (-2) (-3) s = (.ok (.ok f.msg), s₁)

section Obtain

variable {b : Build} {s : State} {f : Frame b} {rest : List UInt8}

/-- Whatever the fields are, they go to `mktime`. -/
theorem obtainLastTimeSynced_asked (h : AsksDate b s f) (pTime : Int) :
    (zdtmObtainLastTimeSynced b pTime s).1 =
      .ok (converted s.host pTime (atgTime f.cont.atg)) := by
  obtain ⟨s₁, hrun⟩ := h
  obtain ⟨cs, hexchanges, -⟩ :=
    (logs_exchange b _ _ (by decide) (by decide) (by decide)).run hrun
  have hhost : s₁.host = s.host := hexchanges.host
  unfold zdtmObtainLastTimeSynced
  rw [Programs.bind_ok hrun]
  change ((if s₁.host.mktime (atgTime f.cont.atg) = -1 then pure (-4, pTime)
    else pure (0, s₁.host.mktime (atgTime f.cont.atg)) : Session (Int × Int)) s₁).1 = _
  rw [hhost, converted]
  split
  · rfl
  · rfl

theorem rtg_sendable : ZdtmWireFormat.Sendable .rtg (desktopMsg .rtg {}) :=
  desktop_sendable (by decide) (by decide) (by decide) trivial

/-- The device can answer with any frame of the type. -/
theorem asksDate_served (htype : f.type = .atg) (hs : Served s (around ++ f.bytes ++ rest)) :
    AsksDate b s f := by
  have hsend : Sendable b .rtg {} { bytes := [] } := sendable_served rtg_sendable rfl
  obtain ⟨hr, -⟩ := exchange_answers hsend htype (-1) (-2) (-3) s rest hs
  exact ⟨_, Prod.ext hr rfl⟩

theorem around_ne_nil (f : Frame b) : around ++ f.bytes ≠ [] := List.cons_ne_nil _ _

/-- A device that says nothing else. -/
theorem asksDate_device (htype : f.type = .atg) :
    AsksDate b (deviceState (around ++ f.bytes) (around_ne_nil f)) f := by
  apply asksDate_served htype
  rw [List.append_nil]
  exact deviceState_served (around ++ f.bytes) (around_ne_nil f)

end Obtain

/-- Every run that gets the frame tells a device without a date from others. -/
def ReportsUnsynced (b : Build) (f : Frame b) : Prop :=
  ∀ s pTime, AsksDate b s f → (zdtmObtainLastTimeSynced b pTime s).1 =
    .ok (if NeverSynced (f.content.take 14) then (1, pTime)
      else converted s.host pTime (atgTime f.cont.atg))

/-- The calls contain a complete exchange that got the frame. -/
def GotDate {b : Build} (cs : List Call) (f : Frame b) : Prop :=
  ∃ pre seg post, cs = pre ++ (seg ++ post) ∧
    Exchanged (desktopMsg .rtg {}) .atg (.ok (.ok f.msg)) seg

/-- Every initiation of a synchronization that gets the frame reports such a device. -/
def ReportsReset (b : Build) (f : Frame b) : Prop :=
  ∀ s code s', zdtmInitiateSync b s = (.ok code, s') → GotDate (callsSince s s') f →
    (code = -11 ↔ NeverSynced (f.content.take 14))

section Codes

variable (b : Build)

theorem obtainLastTimeSynced_code (pTime : Int) :
    Yields (fun r => r.1 ≤ 0) (zdtmObtainLastTimeSynced b pTime) := by
  constructor
  intro s a s' hrun
  obtain ⟨cs, -, hanswered⟩ := (obtainLastTimeSynced_runs b pTime).run hrun
  exact answered_code (answeredWith_returned hanswered)

/-- The stage has no way to its code for a device without a date. -/
theorem obtainTime_code : Yields (· ≠ -11) (obtainTime b) := by
  apply yields_bind (obtainLastTimeSynced_code b 0)
  intro r hr
  apply yields_ite
  · intro hne
    apply yields_ite
    · intro hone
      omega
    · intro hother
      exact yields_pure (by decide)
  · intro hzero
    exact yields_pure (by decide)

theorem greet_code : Yields (· ≠ -11) (greet b) := by
  apply yields_failing (by decide)
  apply yields_then
  intro r
  apply yields_ite
  · intro hr
    exact yields_ite (fun _ => yields_pure (by decide)) fun _ => yields_pure (by decide)
  · intro hr
    apply yields_then
    intro r
    apply yields_ite (fun _ => yields_pure (by decide))
    intro hr
    exact yields_ite (fun _ => yields_pure (by decide)) fun _ => yields_pure (by decide)

theorem authorize_code : Yields (· ≠ -11) (authorize b) := by
  apply yields_then
  intro r
  apply yields_ite (fun _ => yields_pure (by decide))
  intro hr
  apply yields_ite
  · intro hlocked
    apply yields_then
    intro env
    cases env.passcode with
    | none => exact yields_pure (by decide)
    | some passcode =>
      apply yields_then
      intro retval
      apply yields_ite (fun _ => yields_pure (by decide))
      intro hdenied
      exact yields_ite (fun _ => yields_pure (by decide)) fun _ => yields_pure (by decide)
  · intro hopen
    exact yields_pure (by decide)

theorem ifSlow_code {op : Session Int} {code : Int} (hcode : code ≠ -11) :
    Yields (· ≠ -11) (do
      let slow ← zdtmRequiresSlowSync b
      if slow = 1 then
        let r ← op
        if r ≠ 0 then return code
      return 0 : Session Int) := by
  apply yields_then
  intro slow
  apply yields_ite
  · intro hslow
    exact yields_failing hcode (yields_pure (by decide))
  · intro hfast
    exact yields_pure (by decide)

theorem setUp_code : Yields (· ≠ -11) (setUp b) := by
  apply yields_stage
  · apply yields_then
    intro r
    exact yields_ite (fun _ => yields_pure (by decide)) fun _ => yields_pure (by decide)
  apply yields_stage (yields_failing (by decide) (yields_pure (by decide)))
  apply yields_stage (obtainTime_code b)
  apply yields_stage (ifSlow_code b (by decide))
  apply yields_stage
  · apply yields_then
    intro host
    exact yields_failing (by decide) (yields_pure (by decide))
  apply yields_stage (ifSlow_code b (by decide))
  apply yields_failing (by decide)
  apply yields_then
  intro env
  apply yields_then
  intro buff
  exact yields_pure (by decide)

/-- No initiation of a synchronization reports a device that was never synchronized. -/
theorem initiateSync_code : Yields (· ≠ -11) (zdtmInitiateSync b) := by
  apply yields_then
  intro env
  apply yields_ite (fun _ => yields_pure (by decide))
  intro htype
  apply yields_ite (fun _ => yields_pure (by decide))
  intro hip
  apply yields_failing (by decide)
  apply yields_stage (greet_code b)
  exact yields_stage (authorize_code b) (setUp_code b)

end Codes

section Whole

variable {b : Build} {f : Frame b}

theorem reportsUnsynced_of_set (hset : ¬ NeverSynced (f.content.take 14)) :
    ReportsUnsynced b f := by
  intro s pTime h
  rw [if_neg hset]
  exact obtainLastTimeSynced_asked h pTime

theorem reportsReset_of_set (hset : ¬ NeverSynced (f.content.take 14)) : ReportsReset b f := by
  intro s code s' hrun _
  have hcode : code ≠ -11 := (initiateSync_code b).run s code s' hrun
  constructor
  · intro heq
    exact absurd heq hcode
  · intro hnever
    exact absurd hnever hset

/-- The zeros of a device that was never synchronized go to `mktime`. -/
theorem not_reportsUnsynced (htype : f.type = .atg) (hnever : NeverSynced (f.content.take 14)) :
    ¬ ReportsUnsynced b f := by
  intro hall
  have hasks := asksDate_device htype
  have hreported := hall _ 0 hasks
  rw [obtainLastTimeSynced_asked hasks 0, if_pos hnever, Except.ok.injEq] at hreported
  exact converted_ne_one _ 0 _ hreported

end Whole

/-- A device that was never synchronized is told from others in the runs that get
its ATG message exactly when it is another one. -/
theorem last_time_iff (b : Build) (f : Frame b) (htype : f.type = .atg) :
    ReportsUnsynced b f ∧ ReportsReset b f ↔ ¬ NeverSynced (f.content.take 14) := by
  constructor
  · rintro ⟨hunsynced, -⟩ hnever
    exact not_reportsUnsynced htype hnever hunsynced
  · intro hset
    exact ⟨reportsUnsynced_of_set hset, reportsReset_of_set hset⟩

/-- An ATG message with this date. -/
def atgFrame (date : Bytes 14) : Frame .littleEndian where
  header := dmsgHdr
  type := .atg
  content := date.toList
  checkSum := 0
  uncommon := dmsgHdr_uncommon
  fits := by
    rw [List.Vector.toList_length]
    decide
  holds := by
    change 14 ≤ date.toList.length
    rw [List.Vector.toList_length]

/-- The second 60 of a minute of 1998. -/
def leapSecond : Bytes 14 :=
  ⟨[0x31, 0x39, 0x39, 0x38, 0x31, 0x32, 0x33, 0x31, 0x32, 0x33, 0x35, 0x39, 0x36, 0x30], rfl⟩

theorem last_time_iff_set : ReportsUnsynced .littleEndian (atgFrame leapSecond) ∧
    ReportsReset .littleEndian (atgFrame leapSecond) :=
  (last_time_iff .littleEndian (atgFrame leapSecond) rfl).mpr (by decide)

/-- A date of zeros goes to `mktime` as day 0 of a month before the year 0, and no
initiation of a synchronization returns the code for such a device. -/
theorem zero_date_converted :
    ¬ (ReportsUnsynced .littleEndian (atgFrame (zeros 14)) ∧
      ReportsReset .littleEndian (atgFrame (zeros 14))) ∧
    (∀ s pTime, AsksDate .littleEndian s (atgFrame (zeros 14)) →
      (zdtmObtainLastTimeSynced .littleEndian pTime s).1 =
        .ok (converted s.host pTime ⟨0, 0, 0, 0, -1, -1900, -1⟩)) ∧
    ∀ s, (zdtmInitiateSync .littleEndian s).1 ≠ .ok (-11) := by
  have hzeros : (atgFrame (zeros 14)).content.take 14 = dateBytes {} := by decide
  have hnever : NeverSynced ((atgFrame (zeros 14)).content.take 14) :=
    fun byte hbyte => List.eq_of_mem_replicate (List.mem_of_mem_take hbyte)
  refine ⟨?_, ?_, ?_⟩
  · rintro ⟨hunsynced, -⟩
    exact not_reportsUnsynced rfl hnever hunsynced
  · intro s pTime h
    rw [obtainLastTimeSynced_asked h pTime, frame_atg rfl hzeros]
    rfl
  · intro s hcode
    exact (initiateSync_code .littleEndian).run s _ _ (Prod.ext hcode rfl) rfl

/-- What `localtime_r` yields for a year of four digits. -/
structure Localtime (tm : Tm) : Prop where
  year : 0 ≤ tm.tmYear + 1900 ∧ tm.tmYear + 1900 ≤ 9999
  mon : 0 ≤ tm.tmMon ∧ tm.tmMon ≤ 11
  mday : 1 ≤ tm.tmMday ∧ tm.tmMday ≤ 31
  hour : 0 ≤ tm.tmHour ∧ tm.tmHour ≤ 23
  min : 0 ≤ tm.tmMin ∧ tm.tmMin ≤ 59
  sec : 0 ≤ tm.tmSec ∧ tm.tmSec ≤ 60

/-- The number in a column of `width` digits. -/
def column (width : Nat) (n : Int) (hwidth : 0 < width) (h : 0 ≤ n ∧ n < 10 ^ width) :
    Bytes width :=
  ⟨decimal width n, length_decimal hwidth h.1 h.2⟩

section Date

variable {tm : Tm}

/-- The fields of the date, each in its column. -/
def dated (h : Localtime tm) : AtgMsgContent where
  year := column 4 (tm.tmYear + 1900) (by decide) ⟨h.year.1, by have := h.year.2; omega⟩
  month := column 2 (tm.tmMon + 1) (by decide) ⟨by have := h.mon.1; omega, by have := h.mon.2; omega⟩
  day := column 2 tm.tmMday (by decide) ⟨by have := h.mday.1; omega, by have := h.mday.2; omega⟩
  hour := column 2 tm.tmHour (by decide) ⟨h.hour.1, by have := h.hour.2; omega⟩
  minutes := column 2 tm.tmMin (by decide) ⟨h.min.1, by have := h.min.2; omega⟩
  seconds := column 2 tm.tmSec (by decide) ⟨h.sec.1, by have := h.sec.2; omega⟩

theorem formatTime_dated (h : Localtime tm) : formatTime tm = dateBytes (dated h) := by
  simp only [formatTime, List.append_assoc]
  rfl

theorem length_formatTime (h : Localtime tm) : (formatTime tm).length = 14 := by
  rw [formatTime_dated h, length_dateBytes]

theorem formatTime_isDigit (h : Localtime tm) : ∀ c ∈ formatTime tm, IsDigit c := by
  obtain ⟨⟨hyear, -⟩, ⟨hmon, -⟩, ⟨hmday, -⟩, ⟨hhour, -⟩, ⟨hmin, -⟩, ⟨hsec, -⟩⟩ := h
  intro c hc
  simp only [formatTime, List.mem_append] at hc
  obtain ((((hc | hc) | hc) | hc) | hc) | hc := hc
  · exact decimal_isDigit hyear c hc
  · exact decimal_isDigit (by omega) c hc
  · exact decimal_isDigit (by omega) c hc
  · exact decimal_isDigit hhour c hc
  · exact decimal_isDigit hmin c hc
  · exact decimal_isDigit hsec c hc

/-- Reading the fields gives back every number; whether it was summer time is left open. -/
theorem atgTime_dated (h : Localtime tm) : atgTime (dated h) = { tm with tmIsdst := -1 } := by
  obtain ⟨⟨hyear, -⟩, ⟨hmon, -⟩, ⟨hmday, -⟩, ⟨hhour, -⟩, ⟨hmin, -⟩, ⟨hsec, -⟩⟩ := h
  have hmon' : 0 ≤ tm.tmMon + 1 := by omega
  have hmday' : 0 ≤ tm.tmMday := by omega
  simp only [atgTime, dated, column, List.Vector.toList_mk, atoi_decimal hyear,
    atoi_decimal hmon', atoi_decimal hmday', atoi_decimal hhour, atoi_decimal hmin,
    atoi_decimal hsec, Int.add_sub_cancel]

end Date

/-- `memcpy` of an array of the right size. -/
theorem copyBytes_exact {n : Nat} {src : List UInt8} (h : src.length = n) :
    copyBytes n src = .ok ⟨src, h⟩ := by
  subst h
  simp [copyBytes]

section Store

variable {b : Build} {tm : Tm}

theorem rts_sendable (date : Bytes rtsDateLen) :
    ZdtmWireFormat.Sendable .rts (desktopMsg .rts (rtsContent date)) :=
  desktop_sendable (by decide) (by decide) (by decide) trivial

/-- The run fails without a message, or hands over the RTS message with the date. -/
theorem setLastTimeSynced_leads {s : State} {timeSynced : Int} {date : Bytes rtsDateLen}
    (htime : s.host.localtimeR timeSynced = some tm) (hdate : formatTime tm = date.toList) :
    Leads (zdtmSetLastTimeSynced b timeSynced) s fun r s' =>
      (handed (callsSince s s') = [] ∧ r ≠ .ok 0) ∨
        handed (callsSince s s') = [desktopMsg .rts (rtsContent date)] := by
  have hcopy : copyBytes rtsDateLen (formatTime tm) = .ok date := by
    rw [hdate, copyBytes_exact (List.Vector.toList_length date)]
    rfl
  unfold zdtmSetLastTimeSynced
  apply leads_getHost
  rw [htime]
  change Leads (Program.lift (copyBytes rtsDateLen (formatTime tm)) >>= _) s _
  rw [hcopy]
  change Leads (exchange b (desktopMsg .rts (rtsContent date)) .aex (-3) (-4) (-5) >>= _) s _
  apply leads_bind (logs_exchange b _ _ (by decide) (by decide) (by decide) s)
  · intro r s' hp
    obtain ⟨cs, hexchanges, hexchanged⟩ := hp
    rw [← traffic_callsSince hexchanges.traffic] at hexchanged
    obtain ⟨hnone, hne⟩ | hone := exchange_handed hexchanged
    · cases r with
      | error code =>
        apply leads_pure
        have hneg := hexchanged.code_neg
        exact Or.inl ⟨hnone, fun hzero => by cases hzero; omega⟩
      | ok m => exact absurd rfl (hne m)
    · cases r with
      | error code => exact leads_pure (Or.inr hone)
      | ok m => exact leads_pure (Or.inr hone)
  · intro f s' hp
    obtain ⟨cs, hexchanges, hexchanged⟩ := hp
    rw [traffic_callsSince hexchanges.traffic]
    obtain ⟨hnone, -⟩ | hone := exchange_handed hexchanged
    · exact Or.inl ⟨hnone, nofun⟩
    · exact Or.inr hone

/-- Every run that stores this time fails without a message, or hands over one RTS
message, and that has the date as its content. -/
def StoresDate (b : Build) (tm : Tm) (date : List UInt8) : Prop :=
  ∀ s timeSynced r s', s.host.localtimeR timeSynced = some tm →
    zdtmSetLastTimeSynced b timeSynced s = (r, s') →
    (handed (callsSince s s') = [] ∧ r ≠ .ok 0) ∨
    ∃ msg, handed (callsSince s s') = [msg] ∧ msg.body.type = DesktopType.rts.bytes ∧
      ∀ heap ready heap', zdtmPrepareMessage b msg heap = .ok ((0, ready), heap') →
        ready.body.pRawContent = some date

/-- Every run that gets these bytes back hands the fields of the time to `mktime`. -/
def RestoresTime (b : Build) (tm : Tm) (date : List UInt8) : Prop :=
  ∀ f : Frame b, f.type = .atg → f.content.take 14 = date → ∀ s pTime, AsksDate b s f →
    (zdtmObtainLastTimeSynced b pTime s).1 =
      .ok (converted s.host pTime { tm with tmIsdst := -1 })

theorem storesDate_dated (h : Localtime tm) : StoresDate b tm (formatTime tm) := by
  intro s timeSynced r s' htime hrun
  let date : Bytes rtsDateLen := ⟨formatTime tm, length_formatTime h⟩
  have hdate : formatTime tm = date.toList := rfl
  obtain hnone | hone := (setLastTimeSynced_leads (b := b) htime hdate).of_eq hrun
  · exact Or.inl hnone
  · refine Or.inr ⟨_, hone, rfl, ?_⟩
    intro heap ready heap' hprepare
    exact ZdtmWireFormat.prepared_content (rts_sendable _) hprepare rfl

theorem restoresTime_dated (h : Localtime tm) : RestoresTime b tm (formatTime tm) := by
  intro f htype hdate s pTime hasks
  rw [formatTime_dated h] at hdate
  rw [obtainLastTimeSynced_asked hasks pTime, frame_atg htype hdate, atgTime_dated h]

end Store

/-- The last second of 1998, in winter. -/
def endOf1998 : Tm := ⟨60, 59, 23, 31, 11, 98, 0⟩

end ZdtmAnchor
