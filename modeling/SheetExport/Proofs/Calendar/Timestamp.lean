import SheetExport.Calendar.Timestamp
import SheetExport.Proofs.Text.Numeral

/-! # Timestamps read back

Whatever the clock tells in the years that have four digits, its text is read as a timestamp again. Each field is
followed by a character that is no digit, so that it can be read without looking further.
-/

namespace SheetExport

namespace Timestamp

open Text

theorem digits?_padded {width n : Nat} (positive : 0 < width) (fits : n < 10 ^ width) (rest : List Char) :
    digits? width ((padded width n).toList ++ rest) = some (n, rest) := by
  have length := length_padded positive fits
  have taken : ((padded width n).toList ++ rest).take width = (padded width n).toList := List.take_left' length
  rw [digits?, taken, if_pos ⟨length, isDigit_padded width n⟩, ofDigits_padded, List.drop_left' length]

theorem one?_cons {c : Char} {allowed : List Char} (mem : c ∈ allowed) (rest : List Char) :
    one? allowed (c :: rest) = some rest := if_pos mem

/-- A fraction of `width` digits counts as if it were filled up with zeros to nine. -/
theorem fraction?_padded {width n : Nat} (positive : 0 < width) (le : width ≤ 9) (fits : n < 10 ^ width)
    (rest : List Char) :
    fraction? ('.' :: ((padded width n).toList ++ '+' :: rest)) = some (10 ^ (9 - width) * n, '+' :: rest) := by
  have length := length_padded positive fits
  have digits : ∀ c ∈ (padded width n).toList, isDigit c := List.all_eq_true.mp (isDigit_padded width n)
  have some_ : (padded width n).toList.isEmpty = false := by
    rw [List.isEmpty_eq_false_iff, ← List.length_pos_iff, length]
    exact positive
  have filled : ((padded width n).toList ++ List.replicate 9 '0').take 9 =
      (padded width n).toList ++ List.replicate (9 - width) '0' := by
    rw [List.take_append, length, List.take_of_length_le (by omega), List.take_replicate,
      Nat.min_eq_left (Nat.sub_le 9 width)]
  have value : ofDigits ((padded width n).toList ++ List.replicate (9 - width) '0') = 10 ^ (9 - width) * n := by
    rw [show ofDigits = fun cs => Nat.ofDigitChars 10 cs 0 from rfl]
    dsimp only
    rw [Nat.ofDigitChars_append, Nat.ofDigitChars_replicate_zero]
    exact congrArg _ (ofDigits_padded width n)
  rw [fraction?, List.takeWhile_append_of_pos digits, List.dropWhile_append_of_pos digits,
    List.takeWhile_cons_of_neg (by decide), List.dropWhile_cons_of_neg (by decide), List.append_nil]
  simp only [some_, Bool.false_eq_true, if_false, filled, value]

/-- The digits of a fraction of a second, as many as it needs. -/
def fractionText (nano : Nat) : String :=
  if nano = 0 then ""
  else if nano % 10 ^ 6 = 0 then "." ++ padded 3 (nano / 10 ^ 6)
  else if nano % 10 ^ 3 = 0 then "." ++ padded 6 (nano / 10 ^ 3)
  else "." ++ padded 9 nano

theorem fraction?_fractionText {nano : Nat} (small : nano < 10 ^ 9) (rest : List Char) :
    fraction? ((fractionText nano).toList ++ '+' :: rest) = some (nano, '+' :: rest) := by
  have dot : ∀ s : String, ("." ++ s).toList = '.' :: s.toList := fun s => by rw [String.toList_append]; rfl
  rw [fractionText]
  split
  · rename_i zero
    rw [zero]
    rfl
  · split
    · rw [dot, List.cons_append, fraction?_padded (by decide) (by decide) (by omega)]
      congr 2
      omega
    · split
      · rw [dot, List.cons_append, fraction?_padded (by decide) (by decide) (by omega)]
        congr 2
        omega
      · rw [dot, List.cons_append, fraction?_padded (by decide) (by decide) small]
        congr 2
        omega

theorem some_bind {α β : Type} (a : α) (f : α → Option β) : (some a >>= f) = f a := rfl

/-- The characters of a timestamp in a year of four digits. -/
theorem toList_write {t : Timestamp} (first : 0 ≤ t.date.year) (last : t.date.year ≤ 9999) :
    t.write.toList = (padded 4 t.date.year.natAbs).toList ++ '-' :: ((padded 2 t.date.month).toList ++ '-' ::
      ((padded 2 t.date.day).toList ++ 'T' :: ((padded 2 (t.second / 3600)).toList ++ ':' ::
      ((padded 2 (t.second / 60 % 60)).toList ++ ':' :: ((padded 2 (t.second % 60 + t.nano / 10 ^ 9)).toList ++
      ((fractionText (t.nano % 10 ^ 9)).toList ++ ['+', '0', '0', ':', '0', '0'])))))) := by
  simp [write, Date.toText, Date.yearText, DateTime.timeText, fractionText, first, last]

theorem daysInMonth_le (year : Int) (month : Nat) : daysInMonth year month ≤ 31 := by
  rw [daysInMonth]
  split
  · split <;> decide
  · split <;> decide

/-- The fields of a time of day are those of some time of day again. Second 60 can only be a leap second. -/
theorem exists_ofFields? (date : Date) {second nano : Nat} (day : second < 86400) (leap : nano < 2 * 10 ^ 9) :
    let read := if second % 60 + nano / 10 ^ 9 = 60 then (59, nano % 10 ^ 9 + 10 ^ 9)
      else (second % 60 + nano / 10 ^ 9, nano % 10 ^ 9)
    ∃ t, DateTime.ofFields? date (second / 3600) (second / 60 % 60) read.1 read.2 = some t := by
  have late : second / 3600 < 24 ∧ second / 60 % 60 < 60 := by omega
  by_cases sixty : second % 60 + nano / 10 ^ 9 = 60
  · rw [if_pos sixty]
    exact ⟨_, by rw [DateTime.ofFields?, dif_pos ⟨late.1, late.2, Nat.lt_succ_self 59, by omega⟩, if_neg (by simp)]⟩
  · rw [if_neg sixty]
    exact ⟨_, by
      rw [DateTime.ofFields?, dif_pos ⟨late.1, late.2, by omega, by omega⟩, if_neg (fun ⟨le, _⟩ => by omega)]⟩

theorem shift?_zero (t : DateTime) : t.shift? 0 = some t := by
  have time := t.second_lt
  have second : (((t.second : Int) + 0) % 86400).toNat = t.second := by omega
  simp only [DateTime.shift?, second, if_neg (show ¬ (t.second : Int) + 0 < 0 by omega),
    if_neg (show ¬ 86400 ≤ (t.second : Int) + 0 by omega), Option.map_some]

theorem exists_read?_write (t : Timestamp) (first : 0 ≤ t.date.year) (last : t.date.year ≤ 9999) :
    ∃ u, read? t.write = some u := by
  have date := t.date.month_mem
  have day := Nat.le_trans t.date.day_mem.2 (daysInMonth_le _ _)
  have time := t.second_lt
  have leap := t.nano_lt
  have valid : Date.ofYmd? t.date.year.natAbs t.date.month t.date.day = some t.date := by
    rw [Int.natAbs_of_nonneg first, Date.ofYmd?, dif_pos ⟨t.date.year_mem, t.date.month_mem, t.date.day_mem⟩]
  obtain ⟨wall, told⟩ := exists_ofFields? t.date t.second_lt t.nano_lt
  rw [read?, toList_write first last]
  simp only [digits?_padded (show 0 < 4 by decide) (show t.date.year.natAbs < 10 ^ 4 by omega),
    digits?_padded (show 0 < 2 by decide) (show t.date.month < 10 ^ 2 by omega),
    digits?_padded (show 0 < 2 by decide) (show t.date.day < 10 ^ 2 by omega),
    digits?_padded (show 0 < 2 by decide) (show t.second / 3600 < 10 ^ 2 by omega),
    digits?_padded (show 0 < 2 by decide) (show t.second / 60 % 60 < 10 ^ 2 by omega),
    digits?_padded (show 0 < 2 by decide) (show t.second % 60 + t.nano / 10 ^ 9 < 10 ^ 2 by omega),
    fraction?_fractionText (Nat.mod_lt t.nano (show 0 < 10 ^ 9 by decide)), one?_cons, List.mem_cons, true_or,
    some_bind, valid, told,
    show offset? ['+', '0', '0', ':', '0', '0'] = some (0, []) from rfl]
  simp [shift?_zero]

end Timestamp

/-- The beginning of 2024. -/
def midnight : Timestamp where
  date := ⟨2024, 1, 1, by decide, by decide, by decide⟩
  second := 0
  nano := 0
  second_lt := by decide
  nano_lt := DateTime.zero_nano_lt

end SheetExport
