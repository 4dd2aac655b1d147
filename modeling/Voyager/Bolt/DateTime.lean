import Voyager.Bolt.Calendar
import Voyager.Bolt.RoundTrip

/-! Date-times with an offset, as servers of two generations send them. -/

namespace Voyager.Bolt

open Lib PackStream BitVec Calendar

def formatTzOffset (offsetSeconds : I64) : String :=
  let sign := if 0 ≤ offsetSeconds.toInt then "+" else "-"
  let absSecs := offsetSeconds.toInt.natAbs
  let hours := absSecs / 3600
  let minutes := absSecs % 3600 / 60
  let seconds := absSecs % 60
  if seconds = 0 then sign ++ zeroPadded 2 hours ++ ":" ++ zeroPadded 2 minutes
  else sign ++ zeroPadded 2 hours ++ ":" ++ zeroPadded 2 minutes ++ ":" ++ zeroPadded 2 seconds

def formatTimeString (h m s nanos : ℕ) (offset : Option String) : String :=
  let base := zeroPadded 2 h ++ ":" ++ zeroPadded 2 m ++ ":" ++ zeroPadded 2 s
  let base :=
    if nanos = 0 then base
    else if nanos % 1000000 = 0 then base ++ "." ++ zeroPadded 3 (nanos / 1000000)
    else if nanos % 1000 = 0 then base ++ "." ++ zeroPadded 6 (nanos / 1000)
    else base ++ "." ++ zeroPadded 9 nanos
  match offset with
  | some off => base ++ off
  | none => base

def saturatingAdd (a b : I64) : ℤ := max (-2 ^ 63) (min (a.toInt + b.toInt) (2 ^ 63 - 1))

def BoltDateTime.toIsoString (t : BoltDateTime) : String :=
  let wallSecs := saturatingAdd t.seconds t.tzOffsetSeconds
  let days := wallSecs / 86400
  let secsOfDay := (wallSecs % 86400).toNat
  let timePart := formatTimeString (secsOfDay / 3600) (secsOfDay % 3600 / 60) (secsOfDay % 60)
    (t.nanoseconds.setWidth 32).toNat (some (formatTzOffset t.tzOffsetSeconds))
  isoDate (daysToYmd (BitVec.ofInt 64 days)) ++ "T" ++ timePart

def BoltLocalDateTime.toIsoString (t : BoltLocalDateTime) : String :=
  let days := t.seconds.toInt / 86400
  let secsOfDay := (t.seconds.toInt % 86400).toNat
  let timePart := formatTimeString (secsOfDay / 3600) (secsOfDay % 3600 / 60) (secsOfDay % 60)
    (t.nanoseconds.setWidth 32).toNat none
  isoDate (daysToYmd (BitVec.ofInt 64 days)) ++ "T" ++ timePart

def wallText (wall : ℤ) (nanos : ℕ) (offset : Option String) : String :=
  isoDate (daysToYmd (BitVec.ofInt 64 (wall / 86400))) ++ "T" ++
    formatTimeString ((wall % 86400).toNat / 3600) ((wall % 86400).toNat % 3600 / 60) ((wall % 86400).toNat % 60) nanos offset

lemma BoltDateTime.toIsoString_eq {t : BoltDateTime} (hlow : -2 ^ 63 ≤ t.seconds.toInt + t.tzOffsetSeconds.toInt)
    (hhigh : t.seconds.toInt + t.tzOffsetSeconds.toInt < 2 ^ 63) :
    t.toIsoString = wallText (t.seconds.toInt + t.tzOffsetSeconds.toInt) (t.nanoseconds.setWidth 32).toNat
      (some (formatTzOffset t.tzOffsetSeconds)) := by
  have hwall : saturatingAdd t.seconds t.tzOffsetSeconds = t.seconds.toInt + t.tzOffsetSeconds.toInt := by
    unfold saturatingAdd
    omega
  simp only [toIsoString, hwall, wallText]

structure Clock where
  date : Calendar.Date
  hour : ℕ
  minute : ℕ
  second : ℕ
  nanos : ℕ
  hour_lt : hour < 24
  minute_lt : minute < 60
  second_lt : second < 60
  nanos_lt : nanos < 10 ^ 9

namespace Clock

def instant (c : Clock) : ℤ :=
  (((c.date.number * 24 + c.hour) * 60 + c.minute) * 60 + c.second) * 10 ^ 9 + c.nanos

def Fraction (nanos : ℕ) (text : String) : Prop :=
  nanos = 0 ∧ text = "" ∨
    ∃ width digits, text = "." ++ zeroPadded width digits ∧ width ≤ 9 ∧ nanos = digits * 10 ^ (9 - width)

def Shows (c : Clock) (offset text : String) : Prop :=
  ∃ fraction, Fraction c.nanos fraction ∧
    text = zeroPaddedInt 4 c.date.year ++ "-" ++ zeroPadded 2 c.date.month ++ "-" ++ zeroPadded 2 c.date.day ++ "T" ++
      (zeroPadded 2 c.hour ++ ":" ++ zeroPadded 2 c.minute ++ ":" ++ zeroPadded 2 c.second ++ fraction ++ offset)

lemma exists_at (seconds : ℤ) {nanos : ℕ} (hnanos : nanos < 10 ^ 9) :
    ∃ c : Clock, c.instant = seconds * 10 ^ 9 + nanos ∧ c.nanos = nanos ∧ c.date.number = seconds / 86400 ∧
      c.hour = (seconds % 86400).toNat / 3600 ∧ c.minute = (seconds % 86400).toNat % 3600 / 60 ∧
      c.second = (seconds % 86400).toNat % 60 := by
  obtain ⟨date, hdate⟩ := exists_number (seconds / 86400)
  refine ⟨⟨date, (seconds % 86400).toNat / 3600, (seconds % 86400).toNat % 3600 / 60, (seconds % 86400).toNat % 60,
    nanos, by omega, by omega, by omega, hnanos⟩, ?_, rfl, hdate, rfl, rfl, rfl⟩
  simp only [instant, hdate]
  omega

lemma exists_formatTimeString (nanos : ℕ) : ∃ fraction, Fraction nanos fraction ∧ ∀ h m s (offset : Option String),
    formatTimeString h m s nanos offset =
      zeroPadded 2 h ++ ":" ++ zeroPadded 2 m ++ ":" ++ zeroPadded 2 s ++ fraction ++ offset.getD "" := by
  have hshown : ∀ width digits, width ≤ 9 → nanos = digits * 10 ^ (9 - width) →
      Fraction nanos ("." ++ zeroPadded width digits) := fun width digits hle hnanos => .inr ⟨width, digits, rfl, hle, hnanos⟩
  unfold formatTimeString
  split_ifs with h0 h3 h6
  · exact ⟨"", .inl ⟨h0, rfl⟩, by rintro h m s (_ | _) <;> simp⟩
  · exact ⟨_, hshown 3 (nanos / 1000000) (by decide) (by omega), by rintro h m s (_ | _) <;> simp [String.append_assoc]⟩
  · exact ⟨_, hshown 6 (nanos / 1000) (by decide) (by omega), by rintro h m s (_ | _) <;> simp [String.append_assoc]⟩
  · exact ⟨_, hshown 9 nanos (by decide) (by omega), by rintro h m s (_ | _) <;> simp [String.append_assoc]⟩

lemma seconds_bounds {c : Clock} {seconds : ℤ} (hnumber : c.date.number = seconds / 86400) (hfits : YearFits c.date) :
    -2 ^ 63 ≤ seconds ∧ seconds < 2 ^ 63 := by
  obtain ⟨hlow, hhigh⟩ := hfits
  have hmonth := daysBefore_eq c.date.year c.date.one_le_month (c.date.month_le.trans (by decide))
  have hbefore : daysBefore c.date.year c.date.month ≤ 366 := by
    have := c.date.month_le
    have := (isLeap c.date.year).toNat_le
    split_ifs at hmonth <;> omega
  have hday := c.date.day_le.trans (daysInMonth_le _ _)
  simp only [Calendar.Date.number, dayNumber] at hnumber
  omega

lemma exists_shows (seconds : ℤ) {nanoseconds : I64} (hnonneg : 0 ≤ nanoseconds.toInt)
    (hlt : nanoseconds.toInt < 10 ^ 9) (offset : Option String) :
    ∃ c : Clock, c.instant = seconds * 10 ^ 9 + nanoseconds.toInt ∧
      (YearFits c.date → (-2 ^ 63 ≤ seconds ∧ seconds < 2 ^ 63) ∧ c.Shows (offset.getD "")
        (wallText seconds (nanoseconds.setWidth 32).toNat offset)) := by
  obtain ⟨nanos, hnanos⟩ := Int.eq_ofNat_of_zero_le hnonneg
  rw [hnanos] at hlt
  obtain ⟨c, hinstant, hc, hnumber, hhour, hminute, hsecond⟩ := exists_at seconds (by exact_mod_cast hlt : nanos < 10 ^ 9)
  refine ⟨c, by rw [hinstant, hnanos], fun hfits => ?_⟩
  have hbounds := seconds_bounds hnumber hfits
  obtain ⟨fraction, hfraction, htime⟩ := exists_formatTimeString c.nanos
  refine ⟨hbounds, fraction, hfraction, ?_⟩
  have hdays : (BitVec.ofInt 64 (seconds / 86400)).toInt = c.date.number := by
    rw [hnumber, toInt_ofInt, Int.bmod_eq_of_le (by omega) (by omega)]
  obtain ⟨hyear, hmonth, hday⟩ := denotes_daysToYmd hdays hfits
  have hwidth : (nanoseconds.setWidth 32).toNat = c.nanos := by
    rw [toInt_eq_toNat_cond] at hnanos
    have := nanoseconds.isLt
    rw [toNat_setWidth, hc]
    split_ifs at hnanos <;> omega
  rw [wallText, hwidth, ← hhour, ← hminute, ← hsecond, htime, isoDate, hyear, hmonth, hday]

end Clock

theorem toIsoString_shows_instant :
    (∀ t : BoltLocalDateTime, 0 ≤ t.nanoseconds.toInt → t.nanoseconds.toInt < 10 ^ 9 →
      ∃ c : Clock, c.instant = t.seconds.toInt * 10 ^ 9 + t.nanoseconds.toInt ∧
        (YearFits c.date → c.Shows "" t.toIsoString)) ∧
    ∀ t : BoltDateTime, 0 ≤ t.nanoseconds.toInt → t.nanoseconds.toInt < 10 ^ 9 →
      ∃ c : Clock, c.instant = (t.seconds.toInt + t.tzOffsetSeconds.toInt) * 10 ^ 9 + t.nanoseconds.toInt ∧
        (YearFits c.date → c.Shows (formatTzOffset t.tzOffsetSeconds) t.toIsoString) := by
  constructor
  · intro t hnonneg hlt
    obtain ⟨c, hinstant, hshows⟩ := Clock.exists_shows t.seconds.toInt hnonneg hlt none
    exact ⟨c, hinstant, fun hfits => (hshows hfits).2⟩
  · intro t hnonneg hlt
    obtain ⟨c, hinstant, hshows⟩ := Clock.exists_shows (t.seconds.toInt + t.tzOffsetSeconds.toInt) hnonneg hlt
      (some (formatTzOffset t.tzOffsetSeconds))
    refine ⟨c, hinstant, fun hfits => ?_⟩
    obtain ⟨⟨hlow, hhigh⟩, hshown⟩ := hshows hfits
    rw [BoltDateTime.toIsoString_eq hlow hhigh]
    exact hshown

theorem toIsoString_shows_before_epoch : ∃ c : Clock, c.instant = (-1 + 3600) * 10 ^ 9 + 5 ∧
    c.Shows (formatTzOffset 3600) (BoltDateTime.toIsoString ⟨-1, 5, 3600⟩) := by
  obtain ⟨c, hinstant, hshows⟩ := toIsoString_shows_instant.2 ⟨-1, 5, 3600⟩ (by decide) (by decide)
  refine ⟨c, hinstant, hshows ?_⟩
  have hseconds : (-1 : I64).toInt = -1 ∧ (5 : I64).toInt = 5 ∧ (3600 : I64).toInt = 3600 := by decide
  simp only [hseconds, Clock.instant] at hinstant
  have := c.hour_lt
  have := c.minute_lt
  have := c.second_lt
  have := c.nanos_lt
  exact yearFits_of_number (by omega) (by omega)

def sentByBolt5 (seconds nanoseconds offset : I64) : Bytes :=
  encodeStructure 0x49 ([seconds, nanoseconds, offset].map encodeInteger)

/-- A server of the fourth sends the seconds that the clock shows at the offset. -/
def sentByBolt4 (seconds nanoseconds offset : I64) : Bytes :=
  encodeStructure 0x46 ([seconds + offset, nanoseconds, offset].map encodeInteger)

def decodedText (bytes : Bytes) : Option String :=
  match (decode bytes).1 with
  | .ok (.dateTime t, _) => some t.toIsoString
  | _ => none

lemma decodedText_integers (tag : UInt8) (htag : tag = 0x49 ∨ tag = 0x46) (seconds nanoseconds offset : I64) :
    decodedText (encodeStructure tag ([seconds, nanoseconds, offset].map encodeInteger)) =
      some (BoltDateTime.toIsoString ⟨seconds, nanoseconds, offset⟩) := by
  have hroom : Room (maxPackStreamDepth + 2) 0 1 := by
    unfold Room maxPackStreamDepth
    omega
  have hread := (readsAt_integers tag [seconds, nanoseconds, offset] hroom (by simp)).2 []
  have hvalue : decodeStructure ([seconds, nanoseconds, offset].map .integer) tag =
      .dateTime ⟨seconds, nanoseconds, offset⟩ := by
    rcases htag with rfl | rfl <;> rfl
  rw [List.append_nil, hvalue] at hread
  rw [decodedText, decode, hread]

lemma formatTimeString_injective {a a' : List Char} {secs secs' nanos : ℕ} {offset : Option String} (hsecs : secs < 86400)
    (hsecs' : secs' < 86400)
    (h : a ++ (formatTimeString (secs / 3600) (secs % 3600 / 60) (secs % 60) nanos offset).toList =
      a' ++ (formatTimeString (secs' / 3600) (secs' % 3600 / 60) (secs' % 60) nanos offset).toList) :
    a = a' ∧ secs = secs' := by
  obtain ⟨fraction, -, htext⟩ := Clock.exists_formatTimeString nanos
  simp only [htext, String.toList_append, ← List.append_assoc] at h
  -- the fraction and the offset are the same on both sides, the fields before them have two digits each
  have hfields := List.append_cancel_right (List.append_cancel_right h)
  obtain ⟨hfields, hs⟩ := zeroPadded_append_inj (by decide) (by omega) (by omega) hfields
  obtain ⟨hfields, hm⟩ := zeroPadded_append_inj (by decide) (by omega) (by omega) (List.append_cancel_right hfields)
  obtain ⟨hfront, hh⟩ := zeroPadded_append_inj (by decide) (by omega) (by omega) (List.append_cancel_right hfields)
  exact ⟨hfront, by omega⟩

lemma wallText_injective {wall wall' : ℤ} {nanos : ℕ} {offset : Option String} (hwall : |wall| < 2 ^ 55)
    (hwall' : |wall'| < 2 ^ 55) (h : wallText wall nanos offset = wallText wall' nanos offset) : wall = wall' := by
  have htext := congrArg String.toList h
  rw [abs_lt] at hwall hwall'
  simp only [wallText, String.toList_append] at htext
  obtain ⟨hfront, hsecs⟩ := formatTimeString_injective (by omega) (by omega) htext
  have hdate := String.toList_injective (List.append_cancel_right hfront)
  have hbounds : ∀ w : ℤ, -2 ^ 55 < w ∧ w < 2 ^ 55 → (BitVec.ofInt 64 (w / 86400)).toInt = w / 86400 := fun w hw => by
    rw [toInt_ofInt, Int.bmod_eq_of_le (by omega) (by omega)]
  have hdays := congrArg BitVec.toInt (isoDate_daysToYmd_injective (by rw [hbounds wall hwall]; omega)
    (by rw [hbounds wall hwall]; omega) (by rw [hbounds wall' hwall']; omega) (by rw [hbounds wall' hwall']; omega) hdate)
  rw [hbounds wall hwall, hbounds wall' hwall'] at hdays
  omega

def TextsAgree (seconds nanoseconds offset : I64) : Prop :=
  ∃ text, decodedText (sentByBolt5 seconds nanoseconds offset) = some text ∧
    decodedText (sentByBolt4 seconds nanoseconds offset) = some text

lemma textsAgree_iff (seconds nanoseconds offset : I64) : TextsAgree seconds nanoseconds offset ↔
    BoltDateTime.toIsoString ⟨seconds, nanoseconds, offset⟩ =
      BoltDateTime.toIsoString ⟨seconds + offset, nanoseconds, offset⟩ := by
  rw [TextsAgree, sentByBolt5, sentByBolt4, decodedText_integers 0x49 (.inl rfl), decodedText_integers 0x46 (.inr rfl)]
  simp [eq_comm]

/-- Past the years that the printed date can hold a shift may come round to the same text. -/
theorem decodedText_sent (seconds nanoseconds offset : I64) :
    (offset = 0 → TextsAgree seconds nanoseconds offset) ∧
      (|seconds.toInt| < 2 ^ 53 → |offset.toInt| < 2 ^ 53 → (TextsAgree seconds nanoseconds offset ↔ offset = 0)) := by
  have hzero : offset = 0 → TextsAgree seconds nanoseconds offset := by
    rintro rfl
    have hsame : seconds + (0 : I64) = seconds := BitVec.add_zero seconds
    rw [textsAgree_iff, hsame]
  refine ⟨hzero, fun hseconds hoffset => ⟨fun h => ?_, hzero⟩⟩
  rw [abs_lt] at hseconds hoffset
  have hsum : (seconds + offset).toInt = seconds.toInt + offset.toInt := by
    rw [toInt_add, Int.bmod_eq_of_le (by omega) (by omega)]
  rw [textsAgree_iff, BoltDateTime.toIsoString_eq (by dsimp only; omega) (by dsimp only; omega),
    BoltDateTime.toIsoString_eq (by dsimp only; omega) (by dsimp only; omega)] at h
  have hwall := wallText_injective (by rw [abs_lt]; dsimp only; omega) (by rw [abs_lt]; dsimp only; omega) h
  dsimp only at hwall
  exact eq_of_toInt_eq (by rw [hsum] at hwall; simpa using hwall)

theorem decodedText_sent_berlin : TextsAgree 1700000000 5 0 ∧ ¬ TextsAgree 1700000000 5 3600 :=
  ⟨(decodedText_sent 1700000000 5 0).1 rfl, fun h =>
    absurd (((decodedText_sent 1700000000 5 3600).2 (by decide) (by decide)).mp h) (by decide)⟩

theorem decodedText_sent_shifted : ¬ ∀ seconds nanoseconds offset : I64, TextsAgree seconds nanoseconds offset := by
  intro h
  have htext := (textsAgree_iff 0 0 3600).mp (h 0 0 3600)
  revert htext
  decide +kernel

end Voyager.Bolt
