import DeviceGateway.Proofs.Decimal
import DeviceGateway.Time.Timestamp
import Mathlib.Tactic.IntervalCases
/-!
A time that exists is read back from its text, and the times that the clock gives exist.
-/
namespace DeviceGateway

namespace Text

theorem trimStart_cons {c : Char} (h : isBlankChar c = false) (rest : List Char) :
    trimStart (c :: rest) = c :: rest := by
  simp only [trimStart, List.dropWhile_cons, h, Bool.false_eq_true, if_false]

end Text

namespace Timestamp

open Decimal (charOf digit? Padded exists_padded)

/-- What may follow digits that all belong to one number. -/
def EndsDigits (rest : List Char) : Prop := ∀ c left, rest = c :: left → digit? c = none

theorem endsDigits_cons {c : Char} (h : digit? c = none) (rest : List Char) :
    EndsDigits (c :: rest) := by
  rintro d left heq
  cases heq
  exact h

theorem isDigit_charOf {d : Nat} (h : d < 10) : (digit? (charOf d)).isSome = true := by
  rw [Decimal.digit?_charOf h]
  rfl

theorem takeWhile_digits {ds : List Nat} (h : ∀ d ∈ ds, d < 10) {rest : List Char}
    (hrest : EndsDigits rest) :
    (ds.map charOf ++ rest).takeWhile (fun c => (digit? c).isSome) = ds.map charOf := by
  induction ds with
  | nil =>
      cases rest with
      | nil => rfl
      | cons c left =>
          rw [List.map_nil, List.nil_append, List.takeWhile_cons, hrest c left rfl]
          rfl
  | cons d ds ih =>
      rw [List.map_cons, List.cons_append, List.takeWhile_cons,
        if_pos (isDigit_charOf (h d List.mem_cons_self)),
        ih fun e he => h e (List.mem_cons_of_mem _ he)]

theorem dropWhile_digits {ds : List Nat} (h : ∀ d ∈ ds, d < 10) {rest : List Char}
    (hrest : EndsDigits rest) :
    (ds.map charOf ++ rest).dropWhile (fun c => (digit? c).isSome) = rest := by
  induction ds with
  | nil =>
      cases rest with
      | nil => rfl
      | cons c left =>
          rw [List.map_nil, List.nil_append, List.dropWhile_cons, hrest c left rfl]
          rfl
  | cons d ds ih =>
      rw [List.map_cons, List.cons_append, List.dropWhile_cons,
        if_pos (isDigit_charOf (h d List.mem_cons_self)),
        ih fun e he => h e (List.mem_cons_of_mem _ he)]

/-- No more digits are there than may be taken, so all are taken. -/
theorem takeWhile_take_digits {ds : List Nat} (h : ∀ d ∈ ds, d < 10) {most : Nat}
    (hmost : ds.length ≤ most) {rest : List Char} (hrest : EndsDigits rest) :
    (((ds.map charOf ++ rest).take most).takeWhile fun c => (digit? c).isSome) = ds.map charOf := by
  rw [List.take_append, List.take_of_length_le (by rw [List.length_map]; exact hmost)]
  apply takeWhile_digits h
  intro c left heq
  cases rest with
  | nil => rw [List.take_nil] at heq; cases heq
  | cons d rest =>
      cases hk : most - (ds.map charOf).length with
      | zero => rw [hk] at heq; cases heq
      | succ k =>
          rw [hk, List.take_succ_cons] at heq
          cases heq
          exact hrest _ _ rfl

theorem leading?_padded {most width n : Nat} {ds : List Nat} (h : Padded width n ds)
    (hmost : ds.length ≤ most) {rest : List Char} (hrest : EndsDigits rest) :
    leading? most (Decimal.writePadded width n ++ rest) = some (n, rest) := by
  unfold leading?
  dsimp only
  rw [h.text, takeWhile_take_digits h.digit hmost hrest, Decimal.read?_chars h.ne_nil h.digit,
    h.value_eq, Option.map_some, List.drop_left]

theorem padded_cons (width n : Nat) (rest : List Char) :
    ∃ c left, Decimal.writePadded width n ++ rest = c :: left ∧
      Text.isBlankChar c = false ∧ c ≠ '-' ∧ c ≠ '+' := by
  obtain ⟨ds, h⟩ := exists_padded width n
  cases ds with
  | nil => exact absurd rfl h.ne_nil
  | cons d ds =>
      have hall : ∀ d : Fin 10, Text.isBlankChar (charOf d.val) = false ∧ charOf d.val ≠ '-' ∧
          charOf d.val ≠ '+' := by decide
      have hd := hall ⟨d, h.digit d List.mem_cons_self⟩
      exact ⟨charOf d, ds.map charOf ++ rest, by rw [h.text]; rfl, hd⟩

theorem trimStart_padded (width n : Nat) (rest : List Char) :
    Text.trimStart (Decimal.writePadded width n ++ rest) = Decimal.writePadded width n ++ rest := by
  obtain ⟨c, left, heq, hblank, _⟩ := padded_cons width n rest
  rw [heq, Text.trimStart_cons hblank]

theorem part?_padded {n : Nat} (h : n < 100) {rest : List Char} (hrest : EndsDigits rest) :
    part? (Decimal.writePadded 2 n ++ rest) = some (n, rest) := by
  obtain ⟨ds, hp⟩ := exists_padded 2 n
  unfold part?
  rw [trimStart_padded]
  exact leading?_padded hp (Nat.le_of_eq (hp.length (by decide) h)) hrest

theorem separator?_cons {c : Char} (h : Text.isBlankChar c = false) (rest : List Char) :
    separator? c (c :: rest) = some rest := by
  unfold separator?
  rw [Text.trimStart_cons h]
  exact if_pos rfl

theorem year?_unsigned {n : Nat} (h : n < 10000) {rest : List Char} (hrest : EndsDigits rest) :
    year? (Decimal.writePadded 4 n ++ rest) = some ((n : Int), rest) := by
  obtain ⟨ds, hp⟩ := exists_padded 4 n
  have hlead := leading?_padded hp (Nat.le_of_eq (hp.length (by decide) h)) hrest
  obtain ⟨c, left, heq, hblank, hminus, hplus⟩ := padded_cons 4 n rest
  unfold year?
  rw [trimStart_padded]
  generalize Decimal.writePadded 4 n ++ rest = text at heq hlead ⊢
  split
  · exact absurd (List.cons.inj heq).1.symm hminus
  · exact absurd (List.cons.inj heq).1.symm hplus
  · rw [hlead]
    rfl

theorem leading?_all {n : Nat} {rest : List Char} (hrest : EndsDigits rest) :
    leading? (Decimal.writePadded 4 n ++ rest).length (Decimal.writePadded 4 n ++ rest) =
      some (n, rest) := by
  obtain ⟨ds, hp⟩ := exists_padded 4 n
  apply leading?_padded hp _ hrest
  rw [hp.text, List.length_append, List.length_map]
  exact Nat.le_add_right _ _

theorem year?_minus (text : List Char) :
    year? ('-' :: text) = (leading? text.length text).map fun (n, left) => (-(n : Int), left) := rfl

theorem year?_plus (text : List Char) :
    year? ('+' :: text) = (leading? text.length text).map fun (n, left) => ((n : Int), left) := rfl

theorem year?_writeYear (year : Int) {rest : List Char} (hrest : EndsDigits rest) :
    year? (writeYear year ++ rest) = some (year, rest) := by
  unfold writeYear
  split
  · next h =>
    rw [year?_unsigned (by omega) hrest]
    congr 2
    omega
  · next h =>
    rw [List.cons_append]
    by_cases hneg : year < 0
    · have habs : (-(year.natAbs : Int)) = year := by omega
      rw [if_pos hneg, year?_minus, leading?_all hrest]
      exact congrArg (fun y => some (y, rest)) habs
    · have habs : (year.natAbs : Int) = year := by omega
      rw [if_neg hneg, year?_plus, leading?_all hrest]
      exact congrArg (fun y => some (y, rest)) habs

theorem date?_write (t : Timestamp) (hmonth : t.month < 100) (hday : t.day < 100) {rest : List Char}
    (hrest : EndsDigits rest) :
    date? (writeYear t.year ++ '-' :: (Decimal.writePadded 2 t.month ++
      '-' :: (Decimal.writePadded 2 t.day ++ rest))) =
      some (⟨t.year, t.month, t.day, 0, 0, 0, 0⟩, rest) := by
  have hdash (text : List Char) : EndsDigits ('-' :: text) := endsDigits_cons (by decide) text
  simp only [date?, year?_writeYear t.year (hdash _), separator?_cons (c := '-') (by decide),
    part?_padded hmonth (hdash _), part?_padded hday hrest, Option.bind_eq_bind, Option.bind_some,
    Option.pure_def]

/-- A fraction of `width` digits stands for that many places of the nine. -/
theorem fraction?_padded {width n : Nat} (hpos : 0 < width) (hwidth : width ≤ 9)
    (hn : n < 10 ^ width) {rest : List Char} (hrest : EndsDigits rest) :
    fraction? ('.' :: (Decimal.writePadded width n ++ rest)) =
      some (n * 10 ^ (9 - width), rest) := by
  obtain ⟨ds, hp⟩ := exists_padded width n
  have hlen := hp.length hpos hn
  have htake := takeWhile_take_digits hp.digit (show ds.length ≤ 9 by omega) hrest
  change (Decimal.read? _).map _ = _
  rw [hp.text, htake, Decimal.read?_chars hp.ne_nil hp.digit, hp.value_eq,
    dropWhile_digits hp.digit hrest, List.length_map, hlen]
  rfl

/-- Nine digits tell the nanoseconds, with zeros in front. -/
theorem writeFraction_nanos {nano : Nat} (h : nano < 1000000000) :
    ∃ ds : List Nat, ds.length = 9 ∧ (∀ d ∈ ds, d < 10) ∧ Decimal.value ds = nano ∧
      writeFraction .nanos nano = '.' :: ds.map charOf := by
  obtain ⟨ds, hp⟩ := exists_padded 9 nano
  exact ⟨ds, hp.length (by decide) h, hp.digit, hp.value_eq, congrArg ('.' :: ·) hp.text⟩

theorem endsDigits_writeFraction (precision : Precision) (nano : Nat) :
    EndsDigits (writeFraction precision nano ++ ['Z']) := by
  cases precision with
  | nanos => exact endsDigits_cons (by decide) _
  | fewest =>
      unfold writeFraction
      dsimp only
      repeat' split
      all_goals exact endsDigits_cons (by decide) _

theorem fraction?_writeFraction (precision : Precision) {nano : Nat} (h : nano < 1000000000) :
    fraction? (writeFraction precision nano ++ ['Z']) = some (nano, ['Z']) := by
  have hends : EndsDigits ['Z'] := endsDigits_cons (by decide) []
  have hnine : fraction? ('.' :: (Decimal.writePadded 9 nano ++ ['Z'])) = some (nano, ['Z']) := by
    rw [fraction?_padded (by decide) (by decide) h hends]
    congr 2
    omega
  cases precision with
  | nanos => exact hnine
  | fewest =>
      unfold writeFraction
      dsimp only
      split
      · next hzero =>
        rw [hzero]
        rfl
      split
      · next hmilli =>
        rw [List.cons_append, fraction?_padded (by decide) (by decide) (by omega) hends]
        congr 2
        omega
      split
      · next hmicro =>
        rw [List.cons_append, fraction?_padded (by decide) (by decide) (by omega) hends]
        congr 2
        omega
      · exact hnine

theorem addMinutes_zero {t : Timestamp} (hhour : t.hour < 24) (hminute : t.minute < 60) :
    t.addMinutes 0 = t := by
  have hday : (((t.hour * 60 + t.minute : Nat) : Int) + 0) % 1440 =
      (t.hour * 60 + t.minute : Nat) := by
    omega
  unfold addMinutes
  dsimp only
  rw [hday, Int.toNat_natCast, if_neg (by omega), if_neg (by omega),
    show (t.hour * 60 + t.minute) / 60 = t.hour by omega,
    show (t.hour * 60 + t.minute) % 60 = t.minute by omega]

/-- A time that exists is read back from its text, with however many fraction digits. -/
theorem read?_write {t : Timestamp} (h : t.Valid) (precision : Precision) :
    read? (t.write precision) = some t := by
  have hvalid := h
  obtain ⟨_, ⟨_, hmonth⟩, ⟨_, hday⟩, hhour, hminute, hsecond, hnano⟩ := h
  have hdays : daysIn t.year t.month ≤ 31 := by
    unfold daysIn
    split
    · split <;> decide
    · split <;> decide
  have hcolon (text : List Char) : EndsDigits (':' :: text) := endsDigits_cons (by decide) text
  have hdate := date?_write t (by omega) (by omega) (endsDigits_cons (c := 'T') (by decide)
    (Decimal.writePadded 2 t.hour ++ ':' :: (Decimal.writePadded 2 t.minute ++
      ':' :: (Decimal.writePadded 2 t.second ++ (writeFraction precision t.nano ++ ['Z'])))))
  have hzone : zone? (Text.trimStart ['Z']) = some (0, []) := rfl
  simp only [read?, write, List.append_assoc, List.cons_append, hdate, divider?, true_or, if_true,
    part?_padded (n := t.hour) (by omega) (hcolon _), separator?_cons (c := ':') (by decide),
    part?_padded (n := t.minute) (by omega) (hcolon _),
    part?_padded (n := t.second) (by omega) (endsDigits_writeFraction precision t.nano),
    fraction?_writeFraction precision hnano, hzone, Option.bind_eq_bind, Option.bind_some,
    Option.pure_def]
  change (if t.Valid ∧ _ then if (t.addMinutes 0).Valid then some (t.addMinutes 0) else none
    else none) = _
  rw [if_pos ⟨hvalid, by decide, rfl⟩, addMinutes_zero hhour hminute, if_pos hvalid]

/-- Only a time that exists is read, whatever the offset and the fraction that it is given with. -/
theorem valid_of_read? {text : List Char} {t : Timestamp} (h : read? text = some t) : t.Valid := by
  unfold read? at h
  simp only [Option.bind_eq_bind, Option.bind_eq_some_iff] at h
  obtain ⟨date, _, _, _, hour, _, _, _, minute, _, _, _, second, _, nano, _, zone, _, h⟩ := h
  split at h
  · split at h
    · next hvalid =>
      cases h
      exact hvalid
    · cases h
  · cases h

/-! ### The calendar -/

/-- A day of the four centuries that the calendar goes round in: after `c` centuries, `q` spans of
four years and `s` years, from March on, it is the day `d` of its year. The day that only leap years
have is the last of the year. -/
structure Falls (day c q s d : Nat) : Prop where
  century : c ≤ 3
  span : q ≤ 24
  year : s ≤ 3
  eq : day = 36524 * c + 1461 * q + 365 * s + d
  last : d ≤ 365
  leap : d = 365 → s = 3 ∧ (q < 24 ∨ c = 3)

theorem exists_falls {day : Nat} (h : day < 146097) : ∃ c q s d, Falls day c q s d := by
  obtain ⟨c, r, hc, hr, hrest⟩ :
      ∃ c r, c ≤ 3 ∧ day = 36524 * c + r ∧ (r ≤ 36523 ∨ c = 3 ∧ r = 36524) :=
    ⟨min (day / 36524) 3, day - 36524 * min (day / 36524) 3, by omega, by omega, by omega⟩
  obtain ⟨q, t, hq, ht, hleft⟩ :
      ∃ q t, q ≤ 24 ∧ r = 1461 * q + t ∧ (t ≤ 1459 ∨ (q < 24 ∨ c = 3) ∧ t = 1460) :=
    ⟨min (r / 1461) 24, r - 1461 * min (r / 1461) 24, by omega, by omega, by omega⟩
  exact ⟨c, q, min (t / 365) 3, t - 365 * min (t / 365) 3, hc, hq, by omega, by omega, by omega,
    by omega⟩

variable {day c q s d : Nat}

theorem Falls.year_eq (h : Falls day c q s d) :
    (day - day / 1460 + day / 36524 - day / 146096) / 365 = 100 * c + 4 * q + s := by
  obtain ⟨hc, hq, hs, heq, hd, hleap⟩ := h
  by_cases hlast : day = 146096
  · have hyear : 100 * c + 4 * q + s = 399 := by omega
    rw [hyear, hlast]
  · have hround : day / 146096 = 0 := Nat.div_eq_of_lt (by omega)
    have hcentury : day / 36524 = c := Nat.div_eq_of_lt_le (by omega) (by omega)
    rw [hround, hcentury]
    by_cases hearly : 24 * c + q + 365 * s + d < 1460
    · have hspan : day / 1460 = 25 * c + q := Nat.div_eq_of_lt_le (by omega) (by omega)
      rw [hspan]
      exact Nat.div_eq_of_lt_le (by omega) (by omega)
    · have hspan : day / 1460 = 25 * c + q + 1 := Nat.div_eq_of_lt_le (by omega) (by omega)
      rw [hspan]
      exact Nat.div_eq_of_lt_le (by omega) (by omega)

theorem Falls.dayOfYear_eq (h : Falls day c q s d) {year : Nat}
    (hyear : year = 100 * c + 4 * q + s) :
    day - (365 * year + year / 4 - year / 100) = d := by
  obtain ⟨hc, hq, hs, heq, -, -⟩ := h
  have hfour : year / 4 = 25 * c + q := Nat.div_eq_of_lt_le (by omega) (by omega)
  have hhundred : year / 100 = c := Nat.div_eq_of_lt_le (by omega) (by omega)
  rw [hfour, hhundred]
  omega

theorem Falls.isLeap (h : Falls day c q s d) (hlast : d = 365) {era : Int} {year : Nat}
    (hyear : year = 100 * c + 4 * q + s) : isLeap (era * 400 + year + 1) = true := by
  obtain ⟨hc, hq, -, -, -, hleap⟩ := h
  obtain ⟨rfl, hround⟩ := hleap hlast
  have hfour : (era * 400 + year + 1) % 4 = 0 := by omega
  have hhundred : (era * 400 + year + 1) % 100 ≠ 0 ∨ (era * 400 + year + 1) % 400 = 0 := by omega
  simp only [Timestamp.isLeap, hfour, decide_true, Bool.true_and, Bool.or_eq_true,
    decide_eq_true_eq]
  exact hhundred

/-- Counted from March on, the months are as long as the formula for the day of the month has them;
February is the last. -/
theorem day_le_daysIn {day : Nat} {year : Int} (hday : day ≤ 365)
    (hleap : day = 365 → isLeap year = true) {month : Nat} (hmonth : month = (5 * day + 2) / 153) :
    day - (153 * month + 2) / 5 + 1 ≤
      daysIn year (if month < 10 then month + 3 else month - 9) := by
  have hfirst : 153 * month ≤ 5 * day + 2 := by omega
  have hlast : 5 * day + 2 < 153 * (month + 1) := by omega
  clear hmonth
  rcases Nat.lt_or_eq_of_le (show month ≤ 11 by omega) with hmonth | rfl
  · unfold daysIn
    interval_cases month <;> simp <;> omega
  · change day - 337 + 1 ≤ if isLeap year = true then 29 else 28
    by_cases hend : day = 365
    · rw [if_pos (hleap hend), hend]
    · split <;> omega

/-- A time of the clock exists if its year is one that a date may lie in. -/
theorem valid_ofUnix {seconds : Int} {nano : Nat} (hnano : nano < 2000000000)
    (hyear : firstYear ≤ (ofUnix seconds nano).year ∧ (ofUnix seconds nano).year ≤ lastYear) :
    (ofUnix seconds nano).Valid := by
  obtain ⟨c, q, s, d, h⟩ := exists_falls
    (show ((seconds / 86400 + 719468) % 146097).toNat < 146097 by omega)
  refine ⟨hyear, ?_⟩
  clear hyear
  unfold ofUnix
  dsimp only
  rw [h.dayOfYear_eq h.year_eq]
  have hofDay : (seconds % 86400).toNat < 86400 := by omega
  generalize (seconds % 86400).toNat = ofDay at hofDay ⊢
  have hmonth : (5 * d + 2) / 153 ≤ 11 := by
    have := h.last
    omega
  refine ⟨⟨?_, ?_⟩, ⟨Nat.le_add_left _ _, day_le_daysIn h.last ?_ rfl⟩, ?_, ?_, ?_, ?_⟩
  · split <;> omega
  · split <;> omega
  · rintro rfl
    exact h.isLeap rfl h.year_eq
  all_goals omega

end Timestamp

end DeviceGateway
