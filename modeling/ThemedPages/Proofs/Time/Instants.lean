import ThemedPages.Time.Instant
import Mathlib.Algebra.Group.Nat.Defs
import Mathlib.Tactic.SplitIfs

/-!
# Instants read back

The calendar is a bijection between days and dates: a day is counted within its era of 400 years,
then within its year from March, and both counts can be taken apart again.

**Theorem (`ofText?_toText`).** The text of an instant reads as that instant.

**Theorem (`isValid_of_ofText?`).** Every instant that was read from a text is one that has a text:
its year is one that may be written, and a full second in the fraction ends a minute.
-/

namespace ThemedPages.Instant

open Text (trimStart isBlank)

/-- An instant whose date is in the calendar, and that exceeds its second only at the end of a
minute. -/
structure IsValid (t : Instant) : Prop where
  date : (Date.ofDays (t.seconds / 86400)).isValid = true
  nanos : t.nanos < 1000000000 ∨ t.nanos < 2000000000 ∧ t.seconds % 60 = 59

/-! ## The calendar -/

variable {dayOfEra yearOfEra dayOfYear era : Int}

theorem dayOfYear_bounds (hfirst : 0 ≤ dayOfEra) (hlast : dayOfEra ≤ 146096)
    (hyear : yearOfEra =
      (dayOfEra - dayOfEra / 1460 + dayOfEra / 36524 - dayOfEra / 146096) / 365) :
    0 ≤ dayOfEra - (365 * yearOfEra + yearOfEra / 4 - yearOfEra / 100) ∧
      dayOfEra - (365 * yearOfEra + yearOfEra / 4 - yearOfEra / 100) ≤ 365 := by
  -- The century of the year is that of the day, and the day is at most one leap day ahead.
  have hcentury_le : dayOfEra / 36524 - dayOfEra / 146096 ≤ yearOfEra / 100 := by omega
  have hcentury_ge : yearOfEra / 100 ≤ dayOfEra / 36524 - dayOfEra / 146096 := by
    obtain hd | hd | hd | hd | hd : dayOfEra / 36524 = 0 ∨ dayOfEra / 36524 = 1 ∨
        dayOfEra / 36524 = 2 ∨ dayOfEra / 36524 = 3 ∨ dayOfEra / 36524 = 4 := by omega
    all_goals
      rw [hd] at hyear ⊢
      omega
  have hleap_le : yearOfEra / 4 ≤ dayOfEra / 1460 := by omega
  have hleap_ge : dayOfEra / 1460 ≤ yearOfEra / 4 + 1 := by omega
  constructor
  · omega
  · omega

/-- The days up to a date whose month is counted from March. -/
theorem toDays_of_march {month day : Int} (hyear : 0 ≤ yearOfEra ∧ yearOfEra ≤ 399)
    (hdays : 0 ≤ dayOfYear ∧ dayOfYear ≤ 365) (hmonth : month = (5 * dayOfYear + 2) / 153)
    (hday : day = dayOfYear - (153 * month + 2) / 5 + 1) :
    (if month < 10 then (⟨yearOfEra + era * 400, (month + 3).toNat, day.toNat⟩ : Date)
      else ⟨yearOfEra + era * 400 + 1, (month - 9).toNat, day.toNat⟩).toDays =
      era * 146097 + (yearOfEra * 365 + yearOfEra / 4 - yearOfEra / 100 + dayOfYear) - 719468 := by
  have hmonths : 0 ≤ month ∧ month ≤ 11 := by omega
  have hera : (yearOfEra + era * 400) / 400 = era := by omega
  have hrest : yearOfEra + era * 400 - era * 400 = yearOfEra := by omega
  unfold Date.toDays
  split
  · have hlate : ¬ (month + 3).toNat ≤ 2 := by omega
    have hback : ((month + 3).toNat : Int) - 3 = month := by omega
    simp only [if_neg hlate, hback, hera, hrest]
    omega
  · have hearly : (month - 9).toNat ≤ 2 := by omega
    have hback : ((month - 9).toNat : Int) + 9 = month := by omega
    have hstart : yearOfEra + era * 400 + 1 - 1 = yearOfEra + era * 400 := by omega
    simp only [if_pos hearly, hback, hstart, hera, hrest]
    omega

/-- **The date of a day is that many days along.** -/
theorem toDays_ofDays (days : Int) : (Date.ofDays days).toDays = days := by
  obtain ⟨era, hera⟩ : ∃ era, era = (days + 719468) / 146097 := ⟨_, rfl⟩
  obtain ⟨dayOfEra, hday⟩ : ∃ dayOfEra, dayOfEra = days + 719468 - era * 146097 := ⟨_, rfl⟩
  obtain ⟨yearOfEra, hyear⟩ : ∃ yearOfEra, yearOfEra =
      (dayOfEra - dayOfEra / 1460 + dayOfEra / 36524 - dayOfEra / 146096) / 365 := ⟨_, rfl⟩
  have hdays := dayOfYear_bounds (by omega) (by omega) hyear
  unfold Date.ofDays
  simp only [← hera, ← hday, ← hyear]
  rw [toDays_of_march (by omega) hdays rfl rfl]
  omega

/-! ## Digits -/

/-- A text that does not go on with a digit. -/
def NoDigitFirst (cs : List Char) : Prop := ∀ c, cs.head? = some c → c.isDigit = false

variable {c : Char} {cs rest : List Char} {width most n : Nat}

theorem noDigitFirst_cons (h : c.isDigit = false) (cs : List Char) : NoDigitFirst (c :: cs) := by
  intro d hd
  cases hd
  exact h

theorem isBlank_of_isDigit (h : c.isDigit = true) : isBlank c = false := by
  have hbounds : 48 ≤ c.toNat ∧ c.toNat ≤ 57 := Char.isDigit_iff_toNat.1 h
  simp only [isBlank, Bool.or_eq_false_iff, Bool.and_eq_false_iff, decide_eq_false_iff_not,
    beq_eq_false_iff_ne]
  omega

theorem toList_padded (width n : Nat) :
    (padded width n).toList =
      List.replicate (width - (Nat.toDigits 10 n).length) '0' ++ Nat.toDigits 10 n := by
  simp [padded]

theorem isDigit_of_mem_padded (h : c ∈ (padded width n).toList) : c.isDigit = true := by
  rw [toList_padded, List.mem_append] at h
  rcases h with h | h
  · rw [(List.mem_replicate.1 h).2]
    rfl
  · exact Nat.isDigit_of_mem_toDigits (by decide) (by decide) h

theorem length_padded_le (hwidth : width ≤ most) (hmost : 0 < most) (hn : n < 10 ^ most) :
    (padded width n).toList.length ≤ most := by
  have hdigits := (Nat.length_toDigits_le_iff (b := 10) (by decide) hmost).2 hn
  rw [toList_padded, List.length_append, List.length_replicate]
  omega

theorem ofDigitChars_padded (width n : Nat) :
    Nat.ofDigitChars 10 (padded width n).toList 0 = n := by
  rw [toList_padded, Nat.ofDigitChars_append, Nat.ofDigitChars_replicate_zero, Nat.mul_zero]
  exact Nat.ofDigitChars_toDigits (by decide) (by decide)

theorem ofDigitChars_lt (h : ∀ c ∈ cs, c.isDigit = true) :
    Nat.ofDigitChars 10 cs 0 < 10 ^ cs.length := by
  induction cs with
  | nil => exact Nat.one_pos
  | cons c cs ih =>
    have hrest := ih fun d hd => h d (List.mem_cons_of_mem c hd)
    have hdigit : 48 ≤ c.toNat ∧ c.toNat ≤ 57 :=
      Char.isDigit_iff_toNat.1 (h c List.mem_cons_self)
    have hfirst : 10 * 0 + (c.toNat - '0'.toNat) ≤ 9 := by
      show 10 * 0 + (c.toNat - 48) ≤ 9
      omega
    have hscaled := Nat.mul_le_mul_left (10 ^ cs.length) hfirst
    rw [Nat.ofDigitChars_cons, Nat.ofDigitChars_eq_ofDigitChars_zero, List.length_cons,
      Nat.pow_succ]
    omega

/-- A padded number starts with a digit. -/
theorem padded_eq_cons (width n : Nat) :
    ∃ c cs, (padded width n).toList = c :: cs ∧ c.isDigit = true := by
  cases h : (padded width n).toList with
  | nil =>
    rw [toList_padded, List.append_eq_nil_iff] at h
    exact absurd h.2 Nat.toDigits_ne_nil
  | cons c cs => exact ⟨c, cs, rfl, isDigit_of_mem_padded (h ▸ List.mem_cons_self)⟩

theorem takeWhile_isDigit_append (h : ∀ c ∈ cs, c.isDigit = true) (hrest : NoDigitFirst rest) :
    (cs ++ rest).takeWhile Char.isDigit = cs := by
  rw [List.takeWhile_append_of_pos h]
  cases rest with
  | nil => simp
  | cons c rest => simp [hrest c rfl]

/-- **A padded number reads back.** -/
theorem readDigits_padded (hwidth : width ≤ most) (hmost : 0 < most) (hn : n < 10 ^ most)
    (hrest : NoDigitFirst rest) :
    readDigits most ((padded width n).toList ++ rest) = some (n, rest) := by
  have hlen := length_padded_le hwidth hmost hn
  have hdigits : (((padded width n).toList ++ rest).take most).takeWhile Char.isDigit =
      (padded width n).toList := by
    rw [List.take_append, List.take_of_length_le hlen]
    refine takeWhile_isDigit_append (fun c hc => isDigit_of_mem_padded hc) fun c hc => hrest c ?_
    rw [List.head?_take] at hc
    split_ifs at hc
    exact hc
  obtain ⟨c, cs, hcons, -⟩ := padded_eq_cons width n
  have hvalue := ofDigitChars_padded width n
  rw [readDigits, hdigits, List.drop_left, ← Nat.ofDigitChars_eq_foldl, hvalue]
  simp [hcons]

/-- What is read as digits is a number of so many digits. -/
theorem readDigits_lt {cs after : List Char} (h : readDigits most cs = some (n, after)) :
    n < 10 ^ (cs.length - after.length) ∧ cs.length - after.length ≤ most := by
  unfold readDigits at h
  simp only at h
  split at h
  · cases h
  · cases h
    have hlen : ((cs.take most).takeWhile Char.isDigit).length ≤ (cs.take most).length :=
      (List.takeWhile_prefix _).length_le
    have hcount : cs.length - (cs.drop ((cs.take most).takeWhile Char.isDigit).length).length =
        ((cs.take most).takeWhile Char.isDigit).length := by
      rw [List.length_drop]
      rw [List.length_take] at hlen
      omega
    rw [hcount]
    refine ⟨?_, by rw [List.length_take] at hlen; omega⟩
    rw [← Nat.ofDigitChars_eq_foldl]
    exact ofDigitChars_lt fun c hc => List.all_eq_true.1 List.all_takeWhile c hc

/-! ## The parts of a text -/

@[simp] theorem trimStart_padded (width n : Nat) (rest : List Char) :
    trimStart ((padded width n).toList ++ rest) = (padded width n).toList ++ rest := by
  obtain ⟨c, cs, hcons, hdigit⟩ := padded_eq_cons width n
  simp [hcons, trimStart, isBlank_of_isDigit hdigit]

theorem readField_padded (hn : n < 100) (hrest : NoDigitFirst rest) :
    readField 2 ((padded 2 n).toList ++ rest) = some (n, rest) := by
  rw [readField, trimStart_padded]
  exact readDigits_padded (Nat.le_refl 2) (by decide) hn hrest

theorem readMark_trimStart_cons (h : isBlank c = false) (cs : List Char) :
    readMark c (trimStart (c :: cs)) = some cs := by
  simp [trimStart, h, readMark]

/-- However long a year is, all its digits are read. -/
theorem readDigits_length_padded (n : Nat) (hrest : NoDigitFirst rest) :
    readDigits ((padded 4 n).toList ++ rest).length ((padded 4 n).toList ++ rest) =
      some (n, rest) := by
  have hpos : 0 < (Nat.toDigits 10 n).length := List.length_pos_iff.2 Nat.toDigits_ne_nil
  have hlen : ((padded 4 n).toList ++ rest).length =
      4 - (Nat.toDigits 10 n).length + (Nat.toDigits 10 n).length + rest.length := by
    simp only [toList_padded, List.length_append, List.length_replicate]
  refine readDigits_padded (by omega) (by omega) ?_ hrest
  exact (Nat.length_toDigits_le_iff (by decide) (by omega)).1 (by omega)

theorem readYear_writeYear (year : Int) (hrest : NoDigitFirst rest) :
    readYear ((writeYear year).toList ++ rest) = some (year, rest) := by
  have hdigits := readDigits_length_padded year.natAbs hrest
  by_cases hshort : 0 ≤ year ∧ year ≤ 9999
  · have hwrite : writeYear year = padded 4 year.toNat := by simp [writeYear, hshort]
    have hfour := readDigits_padded (n := year.toNat) (Nat.le_refl 4) (by decide) (by omega) hrest
    obtain ⟨c, cs, hcons, hdigit⟩ := padded_eq_cons 4 year.toNat
    rw [hwrite, readYear, trimStart_padded]
    rw [hcons, List.cons_append] at hfour ⊢
    split
    · rename_i heq
      cases heq
      cases hdigit
    · rename_i heq
      cases heq
      cases hdigit
    · simp only [hfour, Option.map_some, Option.some.injEq, Prod.mk.injEq, and_true]
      omega
  · by_cases hneg : year < 0
    · have hwrite : (writeYear year).toList ++ rest =
          '-' :: ((padded 4 year.natAbs).toList ++ rest) := by
        simp [writeYear, hshort, hneg]
      have hread : ∀ cs, readYear ('-' :: cs) =
          (readDigits cs.length cs).map fun year => (-(year.1 : Int), year.2) := fun _ => rfl
      simp only [hwrite, hread, hdigits, Option.map_some, Option.some.injEq, Prod.mk.injEq,
        and_true]
      omega
    · have hwrite : (writeYear year).toList ++ rest =
          '+' :: ((padded 4 year.natAbs).toList ++ rest) := by
        simp [writeYear, hshort, hneg]
      have hread : ∀ cs, readYear ('+' :: cs) =
          (readDigits cs.length cs).map fun year => ((year.1 : Int), year.2) := fun _ => rfl
      simp only [hwrite, hread, hdigits, Option.map_some, Option.some.injEq, Prod.mk.injEq,
        and_true]
      omega

/-- A fraction of `k` digits counts units of `10 ^ (9 - k)` nanoseconds. -/
theorem readFraction_padded {k : Nat} (hpos : 0 < k) (hk : k ≤ 9) (hn : n < 10 ^ k) :
    readFraction (("." ++ padded k n).toList ++ ['Z']) = some (n * 10 ^ (9 - k), ['Z']) := by
  have hlen : (padded k n).toList.length = k := by
    have hdigits := (Nat.length_toDigits_le_iff (b := 10) (by decide) hpos).2 hn
    simp only [toList_padded, List.length_append, List.length_replicate]
    omega
  have hread : readDigits 9 ((padded k n).toList ++ ['Z']) = some (n, ['Z']) :=
    readDigits_padded hk (by decide) (Nat.lt_of_lt_of_le hn (Nat.pow_le_pow_right (by decide) hk))
      (noDigitFirst_cons rfl [])
  have hcons : ("." ++ padded k n).toList ++ ['Z'] = '.' :: ((padded k n).toList ++ ['Z']) := by
    simp
  rw [hcons]
  simp only [readFraction, hread, Option.bind_eq_bind, Option.bind_some, List.length_append, hlen]
  simp

theorem readFraction_writeFraction {nanos : Nat} (h : nanos < 1000000000) :
    readFraction ((writeFraction nanos).toList ++ ['Z']) = some (nanos, ['Z']) := by
  unfold writeFraction
  split
  · rename_i hzero
    subst hzero
    rfl
  · split
    · rw [readFraction_padded (by decide) (by decide) (by omega)]
      simp
      omega
    · split
      · rw [readFraction_padded (by decide) (by decide) (by omega)]
        simp
        omega
      · rw [readFraction_padded (by decide) (by decide) (by omega)]
        simp

theorem readFraction_lt {cs after : List Char} (h : readFraction cs = some (n, after)) :
    n < 1000000000 := by
  unfold readFraction at h
  split at h
  · rename_i rest
    obtain ⟨⟨m, rest'⟩, hdigits, h⟩ := Option.bind_eq_some_iff.1 h
    cases h
    obtain ⟨hlt, hle⟩ := readDigits_lt hdigits
    have hpow : 10 ^ (rest.length - rest'.length) *
        10 ^ (9 - (rest.length - rest'.length)) = 1000000000 := by
      rw [← Nat.pow_add, Nat.add_sub_cancel' hle]
    have hpos : 0 < 10 ^ (9 - (rest.length - rest'.length)) := Nat.pow_pos (by decide)
    calc m * 10 ^ (9 - (rest.length - rest'.length))
      _ < 10 ^ (rest.length - rest'.length) * 10 ^ (9 - (rest.length - rest'.length)) :=
        Nat.mul_lt_mul_of_pos_right hlt hpos
      _ = 1000000000 := hpow
  · cases h
    decide

/-- An offset is a number of minutes. -/
theorem readOffset_minutes {cs after : List Char} {offset : Int}
    (h : readOffset cs = some (offset, after)) : offset % 60 = 0 := by
  have hsigned : ∀ (negative : Bool) (rest : List Char), (do
      let hours ← readPair rest
      let minutes ← readPair (hours.2.dropWhile fun c => c == ':' || isBlank c)
      if 60 ≤ minutes.1 then none
      let seconds : Int := hours.1 * 3600 + minutes.1 * 60
      return (if negative then -seconds else seconds, minutes.2)) = some (offset, after) →
      offset % 60 = 0 := by
    intro negative rest h
    obtain ⟨hours, -, h⟩ := Option.bind_eq_some_iff.1 h
    obtain ⟨minutes, -, h⟩ := Option.bind_eq_some_iff.1 h
    simp only at h
    split at h
    · cases h
    · cases h
      split <;> omega
  unfold readOffset at h
  simp only at h
  split at h
  · cases h
    rfl
  · split at h
    · cases h
      rfl
    · cases h
      rfl
    · exact hsigned false _ h
    · exact hsigned true _ h
    · exact hsigned true _ h
    · cases h

/-! ## Whole texts -/

/-- Two digits are enough for the month and the day of a date. -/
theorem two_digits {date : Date} (h : date.isValid = true) : date.month < 100 ∧ date.day < 100 := by
  have hle : daysInMonth date.year date.month ≤ 31 := by
    unfold daysInMonth
    split_ifs <;> decide
  simp only [Date.isValid, Bool.and_eq_true, decide_eq_true_eq] at h
  omega

theorem noDigitFirst_writeFraction (nanos : Nat) :
    NoDigitFirst ((writeFraction nanos).toList ++ ['Z']) := by
  unfold writeFraction
  split_ifs <;> simp [NoDigitFirst]

/-- A second numbered 60 is the 59th with a full second in the fraction. -/
theorem ordinary_second {second nanos : Nat} (hsecond : second < 60)
    (hnanos : nanos < 1000000000 ∨ nanos < 2000000000 ∧ second = 59) :
    (if second + nanos / 1000000000 = 60 then (59, nanos % 1000000000 + 1000000000)
      else (second + nanos / 1000000000, nanos % 1000000000)) = (second, nanos) := by
  split_ifs <;> refine Prod.ext ?_ ?_ <;> simp only <;> omega

/-- **The text of an instant reads back.** -/
theorem ofText?_toText {t : Instant} (h : t.IsValid) : ofText? t.toText = some t := by
  obtain ⟨date, hdate⟩ : ∃ date, date = Date.ofDays (t.seconds / 86400) := ⟨_, rfl⟩
  obtain ⟨clock, hclock⟩ : ∃ clock, clock = (t.seconds % 86400).toNat := ⟨_, rfl⟩
  have hnanos := h.nanos
  have hvalid : date.isValid = true := hdate ▸ h.date
  obtain ⟨hmonth, hday⟩ := two_digits hvalid
  have htext : t.toText.toList = (writeYear date.year).toList ++ '-' ::
      ((padded 2 date.month).toList ++ '-' :: ((padded 2 date.day).toList ++ 'T' ::
        ((padded 2 (clock / 3600)).toList ++ ':' :: ((padded 2 (clock / 60 % 60)).toList ++ ':' ::
          ((padded 2 (clock % 60 + t.nanos / 1000000000)).toList ++
            ((writeFraction (t.nanos % 1000000000)).toList ++ ['Z'])))))) := by
    simp [toText, hdate, hclock, String.toList_append]
  have hlast : t.nanos < 1000000000 ∨ t.nanos < 2000000000 ∧ clock % 60 = 59 := by omega
  have hsecond := ordinary_second (Nat.mod_lt clock (by decide)) hlast
  have hclocks : clock / 3600 * 3600 + clock / 60 % 60 * 60 + clock % 60 = clock := by omega
  have hseconds : (⟨date.year, date.month, date.day⟩ : Date).toDays * 86400 + (clock : Int) - 0 =
      t.seconds := by
    show date.toDays * 86400 + (clock : Int) - 0 = t.seconds
    rw [hdate, toDays_ofDays, hclock]
    omega
  have hrange : (decide (24 ≤ clock / 3600) || decide (60 ≤ clock / 60 % 60) ||
      decide (60 < clock % 60 + t.nanos / 1000000000) || decide (86400 ≤ Int.natAbs 0)) =
        false := by
    simp only [Bool.or_eq_false_iff, decide_eq_false_iff_not]
    omega
  -- What follows each number is no digit.
  have hdash : ∀ cs, NoDigitFirst ('-' :: cs) := noDigitFirst_cons rfl
  have hcolon : ∀ cs, NoDigitFirst (':' :: cs) := noDigitFirst_cons rfl
  have hsep : ∀ cs, NoDigitFirst ('T' :: cs) := noDigitFirst_cons rfl
  have hfraction := noDigitFirst_writeFraction (t.nanos % 1000000000)
  have hdashMark : ∀ cs, readMark '-' (trimStart ('-' :: cs)) = some cs :=
    readMark_trimStart_cons rfl
  have hcolonMark : ∀ cs, readMark ':' (trimStart (':' :: cs)) = some cs :=
    readMark_trimStart_cons rfl
  have hoffset : readOffset (trimStart ['Z']) = some (0, []) := rfl
  have hend : (trimStart []).isEmpty = true := rfl
  unfold ofText?
  rw [htext]
  refine Option.bind_eq_some_iff.2 ⟨_, readYear_writeYear _ (hdash _), ?_⟩
  refine Option.bind_eq_some_iff.2 ⟨_, hdashMark _, ?_⟩
  refine Option.bind_eq_some_iff.2 ⟨_, readField_padded hmonth (hdash _), ?_⟩
  refine Option.bind_eq_some_iff.2 ⟨_, hdashMark _, ?_⟩
  refine Option.bind_eq_some_iff.2 ⟨_, readField_padded hday (hsep _), ?_⟩
  refine Option.bind_eq_some_iff.2 ⟨_, rfl, ?_⟩
  refine Option.bind_eq_some_iff.2 ⟨_, readField_padded (by omega) (hcolon _), ?_⟩
  refine Option.bind_eq_some_iff.2 ⟨_, hcolonMark _, ?_⟩
  refine Option.bind_eq_some_iff.2 ⟨_, readField_padded (by omega) (hcolon _), ?_⟩
  refine Option.bind_eq_some_iff.2 ⟨_, hcolonMark _, ?_⟩
  refine Option.bind_eq_some_iff.2 ⟨_, readField_padded (by omega) hfraction, ?_⟩
  refine Option.bind_eq_some_iff.2
    ⟨_, readFraction_writeFraction (Nat.mod_lt _ (by decide)), ?_⟩
  refine Option.bind_eq_some_iff.2 ⟨_, hoffset, ?_⟩
  dsimp only
  rw [hsecond]
  simp only [hclocks, hseconds, hrange, hend, hvalid, ← hdate]
  rfl

/-- **What is read from a text has a text.** -/
theorem isValid_of_ofText? {s : String} {t : Instant} (h : ofText? s = some t) : t.IsValid := by
  unfold ofText? at h
  obtain ⟨⟨year, cs⟩, -, h⟩ := Option.bind_eq_some_iff.1 h
  obtain ⟨cs, -, h⟩ := Option.bind_eq_some_iff.1 h
  obtain ⟨⟨month, cs⟩, -, h⟩ := Option.bind_eq_some_iff.1 h
  obtain ⟨cs, -, h⟩ := Option.bind_eq_some_iff.1 h
  obtain ⟨⟨day, cs⟩, -, h⟩ := Option.bind_eq_some_iff.1 h
  simp only at h
  split at h
  case h_4 => cases h
  all_goals
    obtain ⟨cs, -, h⟩ := Option.bind_eq_some_iff.1 h
    obtain ⟨⟨hour, cs⟩, -, h⟩ := Option.bind_eq_some_iff.1 h
    obtain ⟨cs, -, h⟩ := Option.bind_eq_some_iff.1 h
    obtain ⟨⟨minute, cs⟩, -, h⟩ := Option.bind_eq_some_iff.1 h
    obtain ⟨cs, -, h⟩ := Option.bind_eq_some_iff.1 h
    obtain ⟨⟨second, cs⟩, -, h⟩ := Option.bind_eq_some_iff.1 h
    obtain ⟨⟨nanos, cs⟩, hfraction, h⟩ := Option.bind_eq_some_iff.1 h
    obtain ⟨⟨offset, cs⟩, hoffset, h⟩ := Option.bind_eq_some_iff.1 h
    have hnanos := readFraction_lt hfraction
    have hminutes := readOffset_minutes hoffset
    obtain ⟨last, hend⟩ : ∃ last : Nat × Nat,
        last = if second = 60 then (59, nanos + 1000000000) else (second, nanos) := ⟨_, rfl⟩
    have hleap : last.2 < 1000000000 ∨ last.2 < 2000000000 ∧ last.1 = 59 := by
      subst hend
      split_ifs
      · exact .inr ⟨by simp only; omega, rfl⟩
      · exact .inl hnanos
    simp only [← hend] at h
    split at h
    · cases h
    · split at h
      · cases h
      · split at h
        · cases h
        · rename_i hdate
          cases h
          refine ⟨by simpa using hdate, ?_⟩
          simp only
          omega

end ThemedPages.Instant
