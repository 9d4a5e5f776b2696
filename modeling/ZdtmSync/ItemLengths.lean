import Mathlib.Algebra.Order.BigOperators.Group.Finset
import ZdtmSync.Items

/-!
# Lengths of items

`zdtm_calendar_length` and `zdtm_address_length` of `zdtm_common.c`, against the
members that the item parsers fill. Each of the two sums leaves one member out:
the time of the alarm, and the pronunciation of the company.
-/

namespace ZdtmItemLengths

open Records ZdtmTypes ZdtmCommon ZdtmItems

variable {I F : Type}

def zdtmCalendarLength (calendar : CalendarItem) : Int :=
  toInt (4 + calendar.categoryLen.toNat + (4 + calendar.descriptionLen.toNat) +
    (4 + calendar.locationLen.toNat) + (4 + calendar.notesLen.toNat) + (4 + 5) + (4 + 5) +
    (4 + 1) + (4 + 1) + (4 + 1) + (4 + 1) + (4 + 2) + (4 + 2) + (4 + 1) + (4 + 1) + (4 + 5) +
    (4 + 5) + (4 + 5) + (4 + 1))

/-- The strings whose lengths `zdtm_address_length` adds, in its order. -/
def addressTexts : List AddressText :=
  [.category, .fullName, .fullNamePronun, .title, .lastName, .firstName, .middleName, .suffix,
    .alternativeName, .lastNamePronun, .firstNamePronun, .company, .department, .jobTitle,
    .workPhone, .workFax, .workMobile, .workState, .workCity, .workStreet, .workZip, .workCountry,
    .workWebPage, .office, .profession, .assistant, .manager, .pager, .cellular, .homePhone,
    .homeFax, .homeState, .homeCity, .homeStreet, .homeZip, .homeCountry, .homeWebPage,
    .defaultEmail, .emails, .spouse, .gender, .birthday, .anniversary, .nickname, .children, .memo,
    .group]

def zdtmAddressLength (address : AddressItem) : Int :=
  toInt (addressTexts.map fun t => 4 + (address.text t).1.toNat).sum

/-- The members that the parser fills, without those that every item has. -/
def ownMembers [DecidableEq F] (P : Parser I F) (common : List F) : Finset F :=
  (P.branches.map Branch.member).toFinset \ common.toFinset

/-- Every member once, with its length in front. -/
def fullLength [DecidableEq F] (P : Parser I F) (b : Build) (common : List F) (item : I) : Nat :=
  ∑ f ∈ ownMembers P common, (4 + ((P.layout b).get f item).size)

theorem fullLength_list [DecidableEq F] {P : Parser I F} {common fs : List F} (hfs : fs.Nodup)
    (hown : ownMembers P common = fs.toFinset) (b : Build) (item : I) :
    fullLength P b common item = (fs.map fun f => 4 + ((P.layout b).get f item).size).sum := by
  rw [fullLength, hown, List.sum_toFinset _ hfs]

def calendarCommon : List CalendarMember := [.attr, .creationDate, .modificationDate, .syncId]

def addressCommon : List AddressMember := [.attr, .creationDate, .modificationDate, .syncId]

/-- What `zdtm_calendar_length` adds up, and the member it leaves out. -/
def calendarMembers : List CalendarMember :=
  [.category, .description, .location, .notes, .startTime, .endTime, .scheduleType, .alarm,
    .alarmSetting, .repeatType, .repeatPeriod, .repeatPosition, .repeatDate, .repeatEndDateSetting,
    .repeatEndDate, .allDayStartDate, .allDayEndDate, .multipleDaysFlag, .alarmTime]

def addressMembers : List AddressMember := (.companyPronun :: addressTexts).map .text

theorem calendarMembers_own :
    ownMembers calendarParser calendarCommon = calendarMembers.toFinset := by decide +kernel

theorem addressMembers_own :
    ownMembers addressParser addressCommon = addressMembers.toFinset := by decide +kernel

theorem calendar_sizes (b : Build) (calendar : CalendarItem) :
    (calendarMembers.map fun f => 4 + ((calendarParser.layout b).get f calendar).size) =
      [4 + calendar.categoryLen.toNat, 4 + calendar.descriptionLen.toNat,
        4 + calendar.locationLen.toNat, 4 + calendar.notesLen.toNat, 4 + 5, 4 + 5, 4 + 1, 4 + 1,
        4 + 1, 4 + 1, 4 + 2, 4 + 2, 4 + 1, 4 + 1, 4 + 5, 4 + 5, 4 + 5, 4 + 1, 4 + 2] := rfl

theorem address_size (b : Build) (address : AddressItem) (t : AddressText) :
    ((addressParser.layout b).get (.text t) address).size = (address.text t).1.toNat := rfl

/-- The time of the alarm takes two bytes. -/
theorem fullLength_calendar (b : Build) (calendar : CalendarItem) :
    zdtmCalendarLength calendar =
      toInt ((fullLength calendarParser b calendarCommon calendar : Int) - 6) := by
  rw [fullLength_list (by decide) calendarMembers_own, calendar_sizes, zdtmCalendarLength]
  congr 1
  simp only [List.sum_cons, List.sum_nil]
  omega

theorem fullLength_address (b : Build) (address : AddressItem) :
    zdtmAddressLength address =
      toInt ((fullLength addressParser b addressCommon address : Int) -
        (4 + (address.text .companyPronun).1.toNat : Nat)) := by
  rw [fullLength_list (by decide +kernel) addressMembers_own, zdtmAddressLength]
  congr 1
  simp only [addressMembers, List.map_map, Function.comp_def, address_size, List.map_cons,
    List.sum_cons]
  omega

/-- An `int` that lacks some of a sum is not the sum. -/
theorem toInt_sub_ne {full missing : Nat} (hmissing : 0 < missing) (hle : missing ≤ full) :
    toInt ((full : Int) - missing) ≠ full := by
  unfold toInt
  by_cases hfull : full < 2 ^ 31
  · rw [Int.bmod_eq_of_le (by omega) (by omega)]
    omega
  · have hlt := Int.bmod_lt (x := (full : Int) - missing) (m := 2 ^ 32) (by decide)
    omega

theorem le_fullLength [DecidableEq F] {P : Parser I F} {common : List F} {f : F}
    (hf : f ∈ ownMembers P common) (b : Build) (item : I) :
    4 + ((P.layout b).get f item).size ≤ fullLength P b common item :=
  Finset.single_le_sum (f := fun g => 4 + ((P.layout b).get g item).size)
    (fun _ _ => Nat.zero_le _) hf

/-- No calendar item and no address item has the length that its function returns:
six bytes are missing from the one, the pronunciation of the company from the other. -/
theorem lengths_leave_out (b : Build) (calendar : CalendarItem) (address : AddressItem) :
    (zdtmCalendarLength calendar ≠ fullLength calendarParser b calendarCommon calendar ∧
      zdtmCalendarLength calendar =
        toInt ((fullLength calendarParser b calendarCommon calendar : Int) - 6)) ∧
    zdtmAddressLength address ≠ fullLength addressParser b addressCommon address ∧
      zdtmAddressLength address =
        toInt ((fullLength addressParser b addressCommon address : Int) -
          (4 + (address.text .companyPronun).1.toNat : Nat)) := by
  have hcalendar := fullLength_calendar b calendar
  have haddress := fullLength_address b address
  have halarm : 6 ≤ fullLength calendarParser b calendarCommon calendar :=
    le_fullLength (P := calendarParser) (f := CalendarMember.alarmTime) (by decide +kernel) b
      calendar
  have hcompany : 4 + (address.text .companyPronun).1.toNat ≤
      fullLength addressParser b addressCommon address :=
    le_fullLength (P := addressParser) (f := AddressMember.text .companyPronun)
      (by decide +kernel) b address
  refine ⟨⟨?_, hcalendar⟩, ?_, haddress⟩
  · rw [hcalendar]
    exact toInt_sub_ne (by decide) halarm
  · rw [haddress]
    exact toInt_sub_ne (by omega) hcompany

/-- Two empty items. -/
theorem empty_lengths :
    zdtmCalendarLength {} ≠ fullLength calendarParser .littleEndian calendarCommon {} ∧
      zdtmAddressLength {} ≠ fullLength addressParser .littleEndian addressCommon {} := by
  decide +kernel

end ZdtmItemLengths
