/-
Which texts are client times, and which seconds they name.

A text is read as a time just if it is of the shape `DDDD-DD-DDTDD:DD:DDZ` and its numbers name a day of the calendar and a
second of that day; it is then the written form of the time. Every field stands at full width and the greater units come
first, so that texts are ordered octet by octet as the times are.

Main facts: `parse?_eq_some_iff`, `writes_iff` (the texts that are read), `bytes_text_lt_iff` (their order),
`exists_unix_eq` (every second is named), `read_names_seconds`.
-/
import CredentialFailover.Credential.Basic
import CredentialFailover.Proofs.Calendar.Days
import CredentialFailover.Proofs.Credential.ClientTime
import CredentialFailover.Proofs.Text.FixedWidth

namespace CredentialFailover

namespace ClientTime

theorem two_eq_written (n : ℕ) : two n = Text.written 2 n := rfl

theorem four_eq_written (n : ℕ) : four n = Text.written 4 n := by
  simp only [Text.written, four, two, Nat.div_div_eq_div_mul]
  rfl

/-! ## The texts that are read -/

/-- the date of a time -/
def date (t : ClientTime) : Calendar.Date := ⟨t.year, t.month, t.day⟩

/-- a text writes a second of a day: its shape is `DDDD-DD-DDTDD:DD:DDZ`, and its numbers name that second -/
structure Writes (raw : String) (d : Calendar.Date) (hour minute second : ℕ) : Prop where
  shape : ∃ year month day hours minutes seconds,
    raw.toList = year ++ '-' :: month ++ '-' :: day ++ 'T' :: hours ++ ':' :: minutes ++ ':' :: seconds ++ ['Z'] ∧
      Text.Spells 4 d.year year ∧ Text.Spells 2 d.month month ∧ Text.Spells 2 d.day day ∧
      Text.Spells 2 hour hours ∧ Text.Spells 2 minute minutes ∧ Text.Spells 2 second seconds
  isDay : d.IsDay
  hour_le : hour ≤ 23
  minute_le : minute ≤ 59
  second_le : second ≤ 59

theorem isDay_date (t : ClientTime) : t.date.IsDay := by
  obtain ⟨-, hpos, hle, hone, hlength, -⟩ := t.existing
  exact Calendar.Date.isDay_iff.2 ⟨hpos, hle, hone, hlength⟩

theorem fields_of_ofFields? {year month day hour minute second : ℕ} {t : ClientTime}
    (h : ofFields? year month day hour minute second = some t) :
    t.year = year ∧ t.month = month ∧ t.day = day ∧ t.hour = hour ∧ t.minute = minute ∧ t.second = second := by
  unfold ofFields? at h
  split_ifs at h
  obtain rfl := Option.some.inj h
  exact ⟨rfl, rfl, rfl, rfl, rfl, rfl⟩

/-- a text that is read writes the time -/
theorem writes_of_parse? {raw : String} {t : ClientTime} (h : parse? raw = some t) :
    Writes raw t.date t.hour t.minute t.second := by
  obtain ⟨-, -, -, -, -, hhour, hminute, hsecond⟩ := t.existing
  refine ⟨?_, t.isDay_date, hhour, hminute, hsecond⟩
  rw [parse?] at h
  obtain ⟨year, years, _, hraw, hyear, h⟩ := Text.exists_field h fun _ _ => rfl
  obtain ⟨month, months, _, rfl, hmonth, h⟩ := Text.exists_field h fun _ _ => rfl
  obtain ⟨day, days, _, rfl, hday, h⟩ := Text.exists_field h fun _ _ => rfl
  obtain ⟨hour, hours, _, rfl, hhour, h⟩ := Text.exists_field h fun _ _ => rfl
  obtain ⟨minute, minutes, _, rfl, hminute, h⟩ := Text.exists_field h fun _ _ => rfl
  obtain ⟨second, seconds, rest, rfl, hsecond, hfields⟩ := Text.exists_field h fun _ _ => rfl
  split_ifs at hfields with hend
  obtain rfl := List.isEmpty_iff.1 hend
  obtain ⟨rfl, rfl, rfl, rfl, rfl, rfl⟩ := fields_of_ofFields? hfields
  refine ⟨years, months, days, hours, minutes, seconds, ?_, hyear, hmonth, hday, hhour, hminute, hsecond⟩
  simp only [hraw, List.append_assoc, List.cons_append]

/-- what is read is read from its own written form -/
theorem text_of_writes {raw : String} {t : ClientTime} (h : Writes raw t.date t.hour t.minute t.second) :
    t.text = raw := by
  obtain ⟨year, month, day, hours, minutes, seconds, hraw, hyear, hmonth, hday, hhours, hminutes, hseconds⟩ := h.shape
  obtain ⟨rfl, -⟩ := Text.eq_written_of_spells hyear
  obtain ⟨rfl, -⟩ := Text.eq_written_of_spells hmonth
  obtain ⟨rfl, -⟩ := Text.eq_written_of_spells hday
  obtain ⟨rfl, -⟩ := Text.eq_written_of_spells hhours
  obtain ⟨rfl, -⟩ := Text.eq_written_of_spells hminutes
  obtain ⟨rfl, -⟩ := Text.eq_written_of_spells hseconds
  rw [← String.toList_inj, hraw, text, String.toList_ofList, chars, four_eq_written]
  rfl

/-- the texts that are read, and as what -/
theorem parse?_eq_some_iff {raw : String} {t : ClientTime} : parse? raw = some t ↔ t.text = raw := by
  constructor
  · intro h
    exact text_of_writes (writes_of_parse? h)
  · rintro rfl
    exact parse?_text t

/-- the texts that write a second are those that are read as it -/
theorem writes_iff {raw : String} {d : Calendar.Date} {hour minute second : ℕ} :
    Writes raw d hour minute second ↔
      ∃ t, parse? raw = some t ∧ t.date = d ∧ t.hour = hour ∧ t.minute = minute ∧ t.second = second := by
  constructor
  · intro h
    obtain ⟨_, _, _, _, _, _, -, hyear, -⟩ := h.shape
    obtain ⟨hpos, hle, hone, hlength⟩ := Calendar.Date.isDay_iff.1 h.isDay
    have hyears : d.year < 10 ^ 4 := (Text.eq_written_of_spells hyear).2
    have hexists : Exists d.year d.month d.day hour minute second :=
      ⟨Nat.le_of_lt_succ hyears, hpos, hle, hone, hlength, h.hour_le, h.minute_le, h.second_le⟩
    exact ⟨⟨d.year, d.month, d.day, hour, minute, second, hexists⟩, parse?_eq_some_iff.2 (text_of_writes h),
      rfl, rfl, rfl, rfl⟩
  · rintro ⟨t, hread, rfl, rfl, rfl, rfl⟩
    exact writes_of_parse? hread

/-! ## Their order -/

/-- a time before another, by the greatest unit in which they differ -/
def Before (t u : ClientTime) : Prop :=
  t.year < u.year ∨ t.year = u.year ∧ (t.month < u.month ∨ t.month = u.month ∧ (t.day < u.day ∨ t.day = u.day ∧
    (t.hour < u.hour ∨ t.hour = u.hour ∧ (t.minute < u.minute ∨ t.minute = u.minute ∧ t.second < u.second))))

theorem bytes_text_lt_iff (t u : ClientTime) : Utf8.bytes t.text < Utf8.bytes u.text ↔ t.Before u := by
  have hbounds : ∀ v : ClientTime, v.year < 10 ^ 4 ∧ v.month < 10 ^ 2 ∧ v.day < 10 ^ 2 ∧ v.hour < 10 ^ 2 ∧
      v.minute < 10 ^ 2 ∧ v.second < 10 ^ 2 := by
    intro v
    obtain ⟨hyear, -, hmonth, -, hday, hhour, hminute, hsecond⟩ := v.existing
    have hlength := Calendar.daysInMonth_le v.year v.month
    omega
  obtain ⟨hyear, hmonth, hday, hhour, hminute, hsecond⟩ := hbounds t
  obtain ⟨hyear', hmonth', hday', hhour', hminute', hsecond'⟩ := hbounds u
  simp only [Utf8.bytes, text, String.toList_ofList, chars, four_eq_written, two_eq_written, List.append_assoc,
    List.cons_append]
  rw [Text.encode_written_lt_iff hyear hyear', Text.encode_cons_lt_iff,
    Text.encode_written_lt_iff hmonth hmonth', Text.encode_cons_lt_iff,
    Text.encode_written_lt_iff hday hday', Text.encode_cons_lt_iff,
    Text.encode_written_lt_iff hhour hhour', Text.encode_cons_lt_iff,
    Text.encode_written_lt_iff hminute hminute', Text.encode_cons_lt_iff,
    Text.encode_written_lt_iff hsecond hsecond']
  have hend : ¬ Utf8.encode ['Z'] < Utf8.encode ['Z'] := List.lt_irrefl _
  simp only [hend, and_false, or_false, Before]

/-! ## The seconds that they name -/

theorem secondOfDay_lt (t : ClientTime) : t.secondOfDay < 86400 := by
  obtain ⟨-, -, -, -, -, hhour, hminute, hsecond⟩ := t.existing
  rw [secondOfDay]
  omega

theorem number_date (t : ClientTime) : t.date.number = t.dayNumber := rfl

theorem dayNumber_lt_iff (t u : ClientTime) : t.dayNumber < u.dayNumber ↔
    t.year < u.year ∨ t.year = u.year ∧ (t.month < u.month ∨ t.month = u.month ∧ t.day < u.day) :=
  Calendar.Date.number_lt_iff t.isDay_date u.isDay_date

theorem unix_lt_iff (t u : ClientTime) : t.unix < u.unix ↔ t.Before u := by
  have hlt := dayNumber_lt_iff t u
  have hgt := dayNumber_lt_iff u t
  have ht := t.secondOfDay_lt
  have hu := u.secondOfDay_lt
  have hseconds : t.secondOfDay < u.secondOfDay ↔
      t.hour < u.hour ∨ t.hour = u.hour ∧ (t.minute < u.minute ∨ t.minute = u.minute ∧ t.second < u.second) := by
    obtain ⟨-, -, -, -, -, hhour, hminute, hsecond⟩ := t.existing
    obtain ⟨-, -, -, -, -, hhour', hminute', hsecond'⟩ := u.existing
    rw [secondOfDay, secondOfDay]
    omega
  have hdays : t.unix < u.unix ↔
      t.dayNumber < u.dayNumber ∨ t.dayNumber = u.dayNumber ∧ t.secondOfDay < u.secondOfDay := by
    rw [unix, unix]
    omega
  have hsame : t.dayNumber = u.dayNumber ↔ t.year = u.year ∧ t.month = u.month ∧ t.day = u.day := by omega
  rw [hdays, hseconds, hlt, hsame, Before]
  simp only [and_or_left, or_assoc, and_assoc]

theorem eq_of_fields {t u : ClientTime} (hyear : t.year = u.year) (hmonth : t.month = u.month) (hday : t.day = u.day)
    (hhour : t.hour = u.hour) (hminute : t.minute = u.minute) (hsecond : t.second = u.second) : t = u := by
  cases t
  cases u
  simp only [mk.injEq]
  exact ⟨hyear, hmonth, hday, hhour, hminute, hsecond⟩

theorem unix_injective : Function.Injective unix := by
  intro t u h
  have hlt : ¬ t.Before u := by
    rw [← unix_lt_iff, h]
    exact lt_irrefl _
  have hgt : ¬ u.Before t := by
    rw [← unix_lt_iff, h]
    exact lt_irrefl _
  unfold Before at hlt hgt
  apply eq_of_fields <;> omega

/-- the first second of the years that can be written -/
def first : ClientTime := ⟨0, 1, 1, 0, 0, 0, by decide⟩

/-- the last second of the years that can be written -/
def last : ClientTime := ⟨9999, 12, 31, 23, 59, 59, by decide⟩

/-- every second from the first to the last is a time -/
theorem exists_unix_eq {n : ℤ} (hfirst : first.unix ≤ n) (hlast : n ≤ last.unix) : ∃ t : ClientTime, t.unix = n := by
  have hfirstDay : first.dayNumber = 0 := by decide
  have hlastDay : last.dayNumber = 3652424 := by decide
  have hfirstSecond : first.secondOfDay = 0 := rfl
  have hlastSecond : last.secondOfDay = 86399 := by decide
  have hepoch : Calendar.epochDay = 719528 := rfl
  rw [unix, hfirstDay, hfirstSecond, hepoch] at hfirst
  rw [unix, hlastDay, hlastSecond, hepoch] at hlast
  -- counted from the first second on, and so not negative
  obtain ⟨seconds, hseconds⟩ : ∃ seconds : ℕ, n = seconds - 62167219200 := ⟨(n + 62167219200).toNat, by omega⟩
  obtain ⟨d, hd, hnumber⟩ := Calendar.Date.exists_number_eq (seconds / 86400)
  obtain ⟨hpos, hle, hone, hlength⟩ := Calendar.Date.isDay_iff.1 hd
  have hyear : d.year ≤ 9999 := by
    by_contra hbeyond
    have hmono : Calendar.daysBeforeYear 10000 ≤ Calendar.daysBeforeYear d.year :=
      Calendar.monotone_daysBeforeYear (by omega)
    have hyears : Calendar.daysBeforeYear 10000 = 3652425 := by decide
    have hstart := Calendar.Date.daysBeforeYear_le_number d
    omega
  have hexists : Exists d.year d.month d.day (seconds % 86400 / 3600) (seconds % 3600 / 60) (seconds % 60) :=
    ⟨hyear, hpos, hle, hone, hlength, by omega, by omega, by omega⟩
  refine ⟨⟨d.year, d.month, d.day, _, _, _, hexists⟩, ?_⟩
  change ((d.number : ℤ) - (Calendar.epochDay : ℤ)) * 86400 +
    ((seconds % 86400 / 3600 * 3600 + seconds % 3600 / 60 * 60 + seconds % 60 : ℕ) : ℤ) = n
  rw [hnumber, hepoch]
  omega

/-- the days from the beginning of 1970 to that of a time, and the seconds of its own day -/
theorem exists_days (t : ClientTime) :
    ∃ days : ℤ, (∀ n, Calendar.DaysBetween ⟨1970, 1, 1⟩ t.date n ↔ n = days) ∧
      t.unix = 86400 * days + (3600 * t.hour + 60 * t.minute + t.second) := by
  have hepoch : Calendar.Date.IsDay ⟨1970, 1, 1⟩ := Calendar.Date.isDay_iff.2 (by decide)
  have hnumber : Calendar.Date.number ⟨1970, 1, 1⟩ = Calendar.epochDay := by decide
  refine ⟨t.dayNumber - Calendar.epochDay, fun n => ?_, ?_⟩
  · rw [Calendar.daysBetween_iff hepoch t.isDay_date, hnumber, number_date]
  · rw [unix, secondOfDay]
    omega

/-! ## Reading -/

/-- a text as a time, or the text that is none -/
def read (raw : String) : Except Fault ClientTime :=
  match parse? raw with
  | some t => .ok t
  | none => .error (.malformedTimestamp raw)

theorem read_eq_ok_iff {raw : String} {t : ClientTime} : read raw = .ok t ↔ t.text = raw := by
  rw [← parse?_eq_some_iff, read]
  cases parse? raw <;> simp

/-- **What is read as a client time, and as what.** A text is read just if it is of the shape and names a day of the
calendar and a second of it, and that is the time it is read as; any other text is refused with itself as the reason. What
is read is written back as it was, and its seconds are counted by the days from the beginning of 1970. Every second that
four digits of a year can name has a text of its own, and of two texts that are read the earlier time has the lesser
octets. -/
theorem read_names_seconds :
    (∀ raw d hour minute second, Writes raw d hour minute second ↔
      ∃ t, read raw = .ok t ∧ t.date = d ∧ t.hour = hour ∧ t.minute = minute ∧ t.second = second) ∧
    (∀ raw, (∀ d hour minute second, ¬ Writes raw d hour minute second) →
      read raw = .error (.malformedTimestamp raw)) ∧
    (∀ text, (Credential.ofTexts text).map Credential.clientTime = read (text .clientTime)) ∧
    (∀ raw t, read raw = .ok t → t.text = raw ∧
      ∃ days : ℤ, (∀ n, Calendar.DaysBetween ⟨1970, 1, 1⟩ t.date n ↔ n = days) ∧
        t.unix = 86400 * days + (3600 * t.hour + 60 * t.minute + t.second)) ∧
    (∀ n, first.unix ≤ n → n ≤ last.unix → ∃ t, (∀ u : ClientTime, u.unix = n ↔ u = t) ∧ read t.text = .ok t) ∧
    (∀ raw raw' t t', read raw = .ok t → read raw' = .ok t' →
      (Utf8.bytes raw < Utf8.bytes raw' ↔ t.unix < t'.unix)) := by
  refine ⟨?_, ?_, ?_, ?_, ?_, ?_⟩
  · intro raw d hour minute second
    simp only [writes_iff, read_eq_ok_iff, parse?_eq_some_iff]
  · intro raw hnot
    cases hread : parse? raw with
    | none => rw [read, hread]
    | some t => exact absurd (writes_of_parse? hread) (hnot _ _ _ _)
  · intro text
    rw [Credential.ofTexts, read]
    cases parse? (text .clientTime) <;> rfl
  · intro raw t hread
    exact ⟨read_eq_ok_iff.1 hread, t.exists_days⟩
  · intro n hfirst hlast
    obtain ⟨t, rfl⟩ := exists_unix_eq hfirst hlast
    exact ⟨t, fun u => unix_injective.eq_iff, read_eq_ok_iff.2 rfl⟩
  · intro raw raw' t t' hread hread'
    obtain rfl := read_eq_ok_iff.1 hread
    obtain rfl := read_eq_ok_iff.1 hread'
    rw [bytes_text_lt_iff, unix_lt_iff]

theorem read_names_seconds_leap_day :
    read "1900-02-29T12:00:00Z" = .error (.malformedTimestamp "1900-02-29T12:00:00Z") ∧
      (∃ t, read "2000-02-29T12:00:00Z" = .ok t ∧ t.unix = 951825600 ∧
        Calendar.DaysBetween ⟨1970, 1, 1⟩ t.date 11016) ∧
      Utf8.bytes "1969-12-31T23:59:59Z" < Utf8.bytes "1970-01-01T00:00:00Z" := by
  obtain ⟨-, hrefused, -, hunix, -, horder⟩ := read_names_seconds
  refine ⟨?_, ?_, ?_⟩
  · refine hrefused _ fun d hour minute second hwrites => ?_
    obtain ⟨t, hread, -⟩ := writes_iff.1 hwrites
    have hnone : parse? "1900-02-29T12:00:00Z" = none := by decide
    rw [hnone] at hread
    cases hread
  · have hread : read "2000-02-29T12:00:00Z" = .ok ⟨2000, 2, 29, 12, 0, 0, by decide⟩ := by decide
    obtain ⟨-, days, hdays, hsum⟩ := hunix _ _ hread
    have hvalue : unix ⟨2000, 2, 29, 12, 0, 0, by decide⟩ = 951825600 := by decide
    refine ⟨_, hread, hvalue, (hdays _).2 ?_⟩
    have hdate : (951825600 : ℤ) = 86400 * days + (3600 * 12 + 60 * 0 + 0) := hvalue ▸ hsum
    omega
  · have hbefore : read "1969-12-31T23:59:59Z" = .ok ⟨1969, 12, 31, 23, 59, 59, by decide⟩ := by decide
    have hafter : read "1970-01-01T00:00:00Z" = .ok ⟨1970, 1, 1, 0, 0, 0, by decide⟩ := by decide
    exact (horder _ _ _ _ hbefore hafter).2 (by decide)

end ClientTime

end CredentialFailover
