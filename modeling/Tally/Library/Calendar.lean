import Mathlib.Algebra.Group.Nat.Defs
import Mathlib.Order.Lattice
import Mathlib.Data.Nat.Basic

/-!
# Calendar dates and aware datetimes

The proleptic Gregorian calendar and the datetimes with a UTC offset, as the
standard library of the modelled language documents them: day ordinals count
from 0001-01-01, a datetime is compared by its instant, and `fromisoformat`
reads the ISO 8601 forms (calendar or week dates, basic or extended). Every
function computes on natural numbers and lists of characters, so that a
concrete text can be evaluated.
-/

set_option autoImplicit false

namespace Library.Calendar

/-! ## Years, months and ordinals -/

def isLeap (year : Nat) : Bool :=
  year % 4 == 0 && (year % 100 != 0 || year % 400 == 0)

def daysBeforeYear (year : Nat) : Nat :=
  let y := year - 1
  y * 365 + y / 4 - y / 100 + y / 400

def daysInMonth (year month : Nat) : Nat :=
  if month == 2 && isLeap year then 29
  else [31, 28, 31, 30, 31, 30, 31, 31, 30, 31, 30, 31].getD (month - 1) 0

def daysBeforeMonth (year month : Nat) : Nat :=
  [0, 31, 59, 90, 120, 151, 181, 212, 243, 273, 304, 334].getD (month - 1) 0 +
    (if month > 2 && isLeap year then 1 else 0)

def ymdToOrdinal (year month day : Nat) : Nat :=
  daysBeforeYear year + daysBeforeMonth year month + day

/-- Year, month and day of an ordinal, by whole 400-, 100-, 4- and 1-year
cycles. -/
def ordinalToYmd (ordinal : Nat) : Nat × Nat × Nat :=
  let n := ordinal - 1
  let (n400, n) := (n / 146097, n % 146097)
  let (n100, n) := (n / 36524, n % 36524)
  let (n4, n) := (n / 1461, n % 1461)
  let (n1, n) := (n / 365, n % 365)
  let year := n400 * 400 + 1 + n100 * 100 + n4 * 4 + n1
  if n1 == 4 || n100 == 4 then (year - 1, 12, 31)
  else
    let month := (n + 50) / 32
    if daysBeforeMonth year month > n then
      (year, month - 1, n - daysBeforeMonth year (month - 1) + 1)
    else (year, month, n - daysBeforeMonth year month + 1)

/-! ## Dates -/

/-- A calendar date between 0001-01-01 and 9999-12-31. -/
structure Date where
  year : Nat
  month : Nat
  day : Nat
  valid : (1 ≤ year ∧ year ≤ 9999) ∧ (1 ≤ month ∧ month ≤ 12) ∧
    1 ≤ day ∧ day ≤ daysInMonth year month
deriving DecidableEq

namespace Date

def ofYmd (year month day : Nat) : Option Date :=
  if h : (1 ≤ year ∧ year ≤ 9999) ∧ (1 ≤ month ∧ month ≤ 12) ∧
      1 ≤ day ∧ day ≤ daysInMonth year month then some ⟨year, month, day, h⟩
  else none

/-- The earliest date, 0001-01-01. -/
def min : Date := ⟨1, 1, 1, by decide⟩

def toOrdinal (d : Date) : Nat := ymdToOrdinal d.year d.month d.day

def ofOrdinal (ordinal : Nat) : Option Date :=
  let (year, month, day) := ordinalToYmd ordinal
  if ordinal = 0 then none else ofYmd year month day

/-- The date a number of days later; `none` past 9999-12-31. -/
def addDays (d : Date) (days : Nat) : Option Date := ofOrdinal (d.toOrdinal + days)

/-- The position of a date in the order of its year, month and day. -/
def rank (d : Date) : Nat := d.year * 10000 + d.month * 100 + d.day

theorem rank_injective : Function.Injective rank := by
  intro a b h
  have ha := a.valid
  have hb := b.valid
  have hlong : ∀ y m, daysInMonth y m ≤ 31 := by
    intro y m
    unfold daysInMonth
    split
    · decide
    · rcases Nat.lt_or_ge (m - 1) 12 with hm | hm
      · generalize m - 1 = k at hm
        revert k
        decide
      · have hnone : [31, 28, 31, 30, 31, 30, 31, 31, 30, 31, 30, 31][m - 1]? = none :=
          List.getElem?_eq_none (by simpa using hm)
        rw [List.getD_eq_getElem?_getD, hnone]
        decide
  have hda := hlong a.year a.month
  have hdb := hlong b.year b.month
  unfold rank at h
  obtain ⟨ya, ma, da, va⟩ := a
  obtain ⟨yb, mb, db, vb⟩ := b
  simp only at h ha hb hda hdb
  have hy : ya = yb := by omega
  have hm : ma = mb := by omega
  have hd : da = db := by omega
  subst hy hm hd
  rfl

instance : LinearOrder Date := LinearOrder.lift' rank rank_injective

end Date

/-! ## Fixed-width numerals -/

def digitChar (n : Nat) : Char := Char.ofNat (48 + n % 10)

/-- The last `width` decimal digits of a number, zero padded. -/
def pad : Nat → Nat → List Char
  | 0, _ => []
  | width + 1, n => pad width (n / 10) ++ [digitChar n]

def isDigit (c : Char) : Bool := decide (48 ≤ c.toNat) && decide (c.toNat ≤ 57)

/-- Reads exactly `count` decimal digits from the front of a text. -/
def readDigits : Nat → List Char → Option (Nat × List Char)
  | count, text => go count 0 text
where
  go : Nat → Nat → List Char → Option (Nat × List Char)
    | 0, value, text => some (value, text)
    | _ + 1, _, [] => none
    | count + 1, value, c :: text =>
      if isDigit c then go count (value * 10 + (c.toNat - 48)) text else none

/-- The text of a date, `YYYY-MM-DD`. -/
def Date.isoChars (d : Date) : List Char :=
  pad 4 d.year ++ ['-'] ++ pad 2 d.month ++ ['-'] ++ pad 2 d.day

def Date.isoformat (d : Date) : String := String.ofList d.isoChars

/-! ## Aware datetimes -/

/-- Microseconds in a day. -/
def dayMicros : Nat := 86400000000

/-- A point on the UTC axis: microseconds from the day before 0001-01-01. -/
abbrev Instant := Int

/-- A datetime with a UTC offset of less than one day, both in microseconds. -/
structure AwareDatetime where
  date : Date
  micros : Nat
  offset : Int
  micros_lt : micros < dayMicros
  offset_lt : offset.natAbs < dayMicros
deriving DecidableEq

namespace AwareDatetime

def instant (t : AwareDatetime) : Instant :=
  (t.date.toOrdinal * dayMicros + t.micros : Nat) - t.offset

end AwareDatetime

/-- The calendar date of an instant on the UTC axis; `none` outside the years 1
to 9999. -/
def Instant.date (t : Instant) : Option Date := Date.ofOrdinal (t / dayMicros).toNat

/-- `HH:MM:SS` and, when it is not zero, `.ffffff`. -/
def clockChars (micros : Nat) : List Char :=
  let seconds := micros / 1000000
  pad 2 (seconds / 3600) ++ [':'] ++ pad 2 (seconds / 60 % 60) ++ [':'] ++ pad 2 (seconds % 60) ++
    (if micros % 1000000 = 0 then [] else '.' :: pad 6 (micros % 1000000))

/-- `+HH:MM`, with the seconds and microseconds of the offset only when they
are not zero. -/
def offsetChars (offset : Int) : List Char :=
  let micros := offset.natAbs
  let seconds := micros / 1000000
  (if offset < 0 then '-' else '+') :: pad 2 (seconds / 3600) ++ [':'] ++
    pad 2 (seconds / 60 % 60) ++
    (if seconds % 60 = 0 ∧ micros % 1000000 = 0 then []
     else ':' :: pad 2 (seconds % 60) ++
      (if micros % 1000000 = 0 then [] else '.' :: pad 6 (micros % 1000000)))

def AwareDatetime.isoChars (t : AwareDatetime) : List Char :=
  t.date.isoChars ++ ['T'] ++ clockChars t.micros ++ offsetChars t.offset

def AwareDatetime.isoformat (t : AwareDatetime) : String := String.ofList t.isoChars

/-- The text of an instant in UTC, as a database driver with a UTC session
returns it. -/
def Instant.isoChars (t : Instant) : List Char :=
  let (year, month, day) := ordinalToYmd (t.toNat / dayMicros)
  pad 4 year ++ ['-'] ++ pad 2 month ++ ['-'] ++ pad 2 day ++ ['T'] ++
    clockChars (t.toNat % dayMicros) ++ offsetChars 0

def Instant.isoformat (t : Instant) : String := String.ofList (Instant.isoChars t)

/-! ## Reading ISO 8601 texts -/

/-- Ordinal of the Monday of the first ISO week of a year. -/
def isoWeekOneMonday (year : Nat) : Nat :=
  let firstDay := ymdToOrdinal year 1 1
  let firstWeekday := (firstDay + 6) % 7
  firstDay - firstWeekday + (if firstWeekday > 3 then 7 else 0)

def isoWeekToDate (year week day : Nat) : Option Date :=
  let firstWeekday := ymdToOrdinal year 1 1 % 7
  let longYear := firstWeekday == 4 || (firstWeekday == 3 && isLeap year)
  if 1 ≤ year ∧ year ≤ 9999 ∧ 1 ≤ week ∧ (week < 53 ∨ (week = 53 ∧ longYear = true)) ∧
      1 ≤ day ∧ day ≤ 7 then
    Date.ofOrdinal (isoWeekOneMonday year + ((week - 1) * 7 + (day - 1)))
  else none

/-- Reads a whole text as a calendar or week date, basic or extended. -/
def parseDate (text : List Char) : Option Date := do
  let (year, text) ← readDigits 4 text
  let (separated, text) := match text with
    | '-' :: text => (true, text)
    | text => (false, text)
  match text with
  | 'W' :: text =>
    let (week, text) ← readDigits 2 text
    match separated, text with
    | _, [] => isoWeekToDate year week 1
    | true, '-' :: text => do
      let (day, text) ← readDigits 1 text
      if text.isEmpty then isoWeekToDate year week day else none
    | true, _ => none
    | false, text => do
      let (day, text) ← readDigits 1 text
      if text.isEmpty then isoWeekToDate year week day else none
  | text =>
    let (month, text) ← readDigits 2 text
    let text ← match separated, text with
      | true, '-' :: text => some text
      | true, _ => none
      | false, text => some text
    let (day, text) ← readDigits 2 text
    if text.isEmpty then Date.ofYmd year month day else none

def Date.fromisoformat (text : String) : Option Date := parseDate text.toList

/-- `.f+` or `,f+`: the first six digits, the rest dropped. -/
def parseFraction (text : List Char) : Option Nat :=
  if text.isEmpty || !text.all isDigit then none
  else
    let digits := (text ++ List.replicate 6 '0').take 6
    (readDigits 6 digits).map Prod.fst

/-- Reads a whole text as `HH[:MM[:SS[.f+]]]` or `HH[MM[SS[.f+]]]`; the result
is hour, minute, second and microsecond. -/
def parseClock (text : List Char) : Option (Nat × Nat × Nat × Nat) := do
  let (hour, text) ← readDigits 2 text
  let separated := text.head? == some ':'
  let next (text : List Char) : Option (List Char) := match separated, text with
    | true, ':' :: text => some text
    | true, _ => none
    | false, text => some text
  if text.isEmpty then some (hour, 0, 0, 0)
  else do
    let (minute, text) ← readDigits 2 (← next text)
    if text.isEmpty then some (hour, minute, 0, 0)
    else do
      let (second, text) ← readDigits 2 (← next text)
      match text with
      | [] => some (hour, minute, second, 0)
      | c :: text =>
        if c = '.' ∨ c = ',' then
          (parseFraction text).map fun fraction => (hour, minute, second, fraction)
        else none

/-- Position of the character that separates the date from the time. -/
def separatorLocation (text : List Char) : Option Nat :=
  let at_ (i : Nat) : Option Char := text[i]?
  let digitAt (i : Nat) : Bool := (at_ i).any isDigit
  if text.length < 7 then none
  else if text.length = 7 then some 7
  else if at_ 4 = some '-' then
    if at_ 5 = some 'W' then
      if at_ 8 = some '-' then
        if text.length = 9 then none
        else if digitAt 10 then some 8
        else some 10
      else some 8
    else some 10
  else if at_ 4 = some 'W' then
    let last := 7 + ((text.drop 7).takeWhile isDigit).length
    if last < 9 then some last else if last % 2 = 0 then some 7 else some 8
  else some 8

/-- Offset in microseconds of the zone part of a time, or `none` for a
malformed one. -/
def parseOffset (sign : Char) (text : List Char) : Option Int := do
  if sign = 'Z' then
    if text.isEmpty then some 0 else none
  else
    let (hour, minute, second, micros) ← parseClock text
    let offset : Int := ((hour * 60 + minute) * 60 + second) * 1000000 + micros
    some (if sign = '-' then -offset else offset)

def isZoneSign (c : Char) : Bool := c == '+' || c == '-' || c == 'Z'

/-- Reads a datetime text. The outer `none` is a malformed text, the inner one
a text without a UTC offset. -/
def AwareDatetime.fromisoformat (text : String) : Option (Option AwareDatetime) := do
  let text := text.toList
  let location ← separatorLocation text
  let date ← parseDate (text.take location)
  match text.drop (location + 1) with
  | [] => some none
  | time =>
    let clock := time.takeWhile fun c => !isZoneSign c
    let (hour, minute, second, micros) ← parseClock clock
    let dayClock := ((hour * 60 + minute) * 60 + second) * 1000000 + micros
    if 24 ≤ hour ∨ 60 ≤ minute ∨ 60 ≤ second then none
    else match time.drop clock.length with
      | [] => some none
      | sign :: zone => do
        let offset ← parseOffset sign zone
        if h : dayClock < dayMicros ∧ offset.natAbs < dayMicros then
          some (some ⟨date, dayClock, offset, h.1, h.2⟩)
        else none

/-! ## A date reads back -/

theorem length_pad (width n : Nat) : (pad width n).length = width := by
  induction width generalizing n with
  | zero => rfl
  | succ width ih => rw [pad, List.length_append, ih, List.length_singleton]

theorem readDigits_go_append (count more value : Nat) (digits text : List Char)
    (hlength : digits.length = count) :
    readDigits.go (count + more) value (digits ++ text) =
      (readDigits.go count value digits).bind fun r => readDigits.go more r.1 text := by
  induction count generalizing value digits with
  | zero =>
      obtain rfl := List.length_eq_zero_iff.mp hlength
      simp [readDigits.go]
  | succ count ih =>
      cases digits with
      | nil => exact absurd hlength (by simp)
      | cons c digits =>
          rw [List.cons_append, Nat.succ_add, readDigits.go, readDigits.go]
          by_cases hdigit : isDigit c = true
          · rw [if_pos hdigit, if_pos hdigit]
            exact ih _ _ (by simpa using hlength)
          · rw [if_neg hdigit, if_neg hdigit]
            rfl

theorem toNat_digitChar (n : Nat) : (digitChar n).toNat = 48 + n % 10 := by
  have hlt : n % 10 < 10 := Nat.mod_lt _ (by decide)
  unfold digitChar
  generalize n % 10 = d at hlt
  revert d
  decide

/-- The padded digits of a number read back as the number. -/
theorem readDigits_pad (width n : Nat) (text : List Char) (h : n < 10 ^ width) :
    readDigits width (pad width n ++ text) = some (n, text) := by
  have hgo : ∀ value, readDigits.go width value (pad width n) = some (value * 10 ^ width + n, []) := by
    intro value
    induction width generalizing n value with
    | zero => simp only [Nat.pow_zero] at h; simp [pad, readDigits.go]; omega
    | succ width ih =>
        rw [pad, readDigits_go_append width 1 value _ _ (length_pad width _),
          ih (n / 10) (by rw [Nat.pow_succ] at h; omega)]
        have hc := toNat_digitChar n
        have hdigit : isDigit (digitChar n) = true := by
          unfold isDigit
          rw [hc]
          simp
          omega
        rw [Option.bind_some, readDigits.go, if_pos hdigit, readDigits.go, hc]
        simp only [Option.some.injEq, Prod.mk.injEq, and_true, Nat.pow_succ]
        rw [Nat.add_mul, Nat.mul_assoc]
        omega
  show readDigits.go width 0 (pad width n ++ text) = _
  have happend := readDigits_go_append width 0 0 (pad width n) text (length_pad width n)
  rw [Nat.add_zero] at happend
  rw [happend, hgo 0, Option.bind_some, readDigits.go, Nat.zero_mul, Nat.zero_add]

/-- The text of a date reads back as the date. -/
theorem Date.fromisoformat_isoformat (d : Date) : Date.fromisoformat d.isoformat = some d := by
  obtain ⟨⟨_, hyear⟩, ⟨_, hmonth⟩, _, hday⟩ := d.valid
  have hdays : daysInMonth d.year d.month ≤ 99 := by
    unfold daysInMonth
    split
    · decide
    · generalize d.month - 1 = m
      rcases Nat.lt_or_ge m 12 with hm | hm
      · revert m; decide
      · rw [List.getD_eq_getElem?_getD, List.getElem?_eq_none (by simpa using hm)]
        decide
  have hy : d.year < 10 ^ 4 := by omega
  have hm : d.month < 10 ^ 2 := by omega
  have hd : d.day < 10 ^ 2 := by omega
  have hletter : digitChar (d.month / 10) ≠ 'W' := by
    intro hc
    have := toNat_digitChar (d.month / 10)
    rw [hc] at this
    have hW : 'W'.toNat = 87 := rfl
    omega
  have hmonthText := readDigits_pad 2 d.month ('-' :: pad 2 d.day) hm
  have hdayText := readDigits_pad 2 d.day [] hd
  unfold Date.fromisoformat Date.isoformat
  rw [String.toList_ofList]
  unfold Date.isoChars parseDate
  simp only [List.append_assoc, List.cons_append, List.nil_append]
  rw [readDigits_pad 4 d.year _ hy]
  simp only [Option.bind_eq_bind, Option.bind_some]
  split
  · rename_i text heq
    exact absurd (List.cons.inj heq).1 hletter
  · rw [hmonthText]
    simp only [Option.bind_some]
    rw [← List.append_nil (pad 2 d.day), hdayText]
    simp only [Option.bind_some, List.isEmpty_nil, if_true]
    unfold Date.ofYmd
    rw [dif_pos d.valid]

end Library.Calendar
