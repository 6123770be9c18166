import Mathlib.Data.Nat.Digits.Defs
import Dmw.CheckedArithmetic
import Dmw.ParameterNames

/-!
# Integer literals of overrides

A text is an integer exactly if it is a sign or none and decimal digits whose
number 64 bits hold. The digits are read onto an unsigned magnitude that may go
one beyond the largest signed number. Nothing wraps on the way, and a number out
of range stays text.
-/

namespace Dmw.ParameterLiterals

open GraphNames Parameters ParameterNames SaturatingTime CheckedArithmetic

/-- The loop over the digits. There is no result if its arithmetic wraps. -/
def readMagnitudeChecked (magnitude : UInt64) : ByteString → Option (Option UInt64)
  | [] => some (some magnitude)
  | digit :: rest =>
    if isDigit digit then do
      let unit ← subUnsigned digit.toUInt64 0x30
      let room ← subUnsigned magnitudeCap unit
      if magnitude > room / 10 then some none
      else
        let scaled ← mulUnsigned magnitude 10
        let next ← addUnsigned scaled unit
        readMagnitudeChecked next rest
    else some none

/-- `parses_as_integer`. There is no result if its arithmetic wraps. -/
def parsesAsIntegerChecked (literal : ByteString) : Option (Option Int64) :=
  let signed := literal.head? = some 0x2D ∨ literal.head? = some 0x2B
  let negative := literal.head? = some 0x2D
  let digits := if signed then literal.tail else literal
  if digits = [] then some none
  else do
    match ← readMagnitudeChecked 0 digits with
    | none => some none
    | some magnitude =>
      if ¬ negative then
        if magnitude > positiveLimit then some none else (toSigned magnitude).map some
      else if magnitude = magnitudeCap then some (some Int64.minValue)
      else ((toSigned magnitude).bind negSigned).map some

/-- The number of decimal digits, the most significant first. -/
def decimal (digits : ByteString) : ℕ :=
  Nat.ofDigits 10 (digits.map fun digit => digit.toNat - '0'.toNat).reverse

/-- A text is one sign or none and one or more digits, and denotes a number. -/
def Denotes (literal : ByteString) (n : ℤ) : Prop :=
  ∃ sign digits, literal = sign ++ digits ∧ digits ≠ [] ∧ (∀ digit ∈ digits, Digit digit) ∧
    ((sign = [] ∨ sign = text "+") ∧ n = decimal digits ∨
      sign = text "-" ∧ n = -(decimal digits : ℤ))

/-- Digits read after others. -/
def decimalAfter (magnitude : ℕ) (digits : ByteString) : ℕ :=
  digits.foldl (fun number digit => number * 10 + (digit.toNat - '0'.toNat)) magnitude

/-- Digits read from the left have their number. -/
theorem decimalAfter_zero (digits : ByteString) : decimalAfter 0 digits = decimal digits := by
  unfold decimalAfter decimal
  rw [Nat.ofDigits_eq_foldr,List.foldr_reverse,List.foldl_map]
  congr 1
  funext number digit
  rw [Nat.add_comm,Nat.mul_comm]
  rfl

/-- More digits make no smaller number. -/
theorem le_decimalAfter (magnitude : ℕ) (digits : ByteString) :
    magnitude ≤ decimalAfter magnitude digits := by
  induction digits generalizing magnitude with
  | nil => exact le_rfl
  | cons digit rest ih =>
    have hrest := ih (magnitude * 10 + (digit.toNat - '0'.toNat))
    have hcons : decimalAfter magnitude (digit :: rest) =
        decimalAfter (magnitude * 10 + (digit.toNat - '0'.toNat)) rest := rfl
    rw [hcons]
    omega

/-- Value of a digit as the loop computes it. -/
theorem unit_value {digit : UInt8} (hdigit : Digit digit) :
    subUnsigned digit.toUInt64 0x30 = some (digit - 0x30).toUInt64 ∧
      (digit - 0x30).toUInt64.toNat = digit.toNat - '0'.toNat ∧
      digit.toNat - '0'.toNat ≤ 9 := by
  have hzero : '0'.toNat = 48 := rfl
  have hnine : '9'.toNat = 57 := rfl
  obtain ⟨hlow, hhigh⟩ := hdigit
  have hoctet : (digit - 0x30).toNat = digit.toNat - 48 :=
    UInt8.toNat_sub_of_le _ _ (UInt8.le_iff_toNat_le.mpr hlow)
  have hle : (0x30 : UInt64).toNat ≤ digit.toUInt64.toNat := by
    rw [UInt8.toNat_toUInt64]
    exact hlow
  have hword : (digit.toUInt64 - 0x30).toNat = digit.toNat - 48 := by
    rw [UInt64.toNat_sub_of_le _ _ (UInt64.le_iff_toNat_le.mpr hle),UInt8.toNat_toUInt64]
    rfl
  have hsame : digit.toUInt64 - 0x30 = (digit - 0x30).toUInt64 := by
    rw [← UInt64.toNat_inj,hword,UInt8.toNat_toUInt64,hoctet]
  refine ⟨?_,?_,by omega⟩
  · rw [subUnsigned_eq hle,hsame]
  · rw [UInt8.toNat_toUInt64,hoctet,hzero]

/-- The loop goes on exactly if the longer number is within the cap, and then
has it without wrapping. -/
theorem next_magnitude (magnitude : UInt64) {unit : UInt64} (hunit : unit.toNat ≤ 9) :
    subUnsigned magnitudeCap unit = some (magnitudeCap - unit) ∧
      (magnitude > (magnitudeCap - unit) / 10 ↔
        magnitudeCap.toNat < magnitude.toNat * 10 + unit.toNat) ∧
      (magnitude.toNat * 10 + unit.toNat ≤ magnitudeCap.toNat →
        mulUnsigned magnitude 10 = some (magnitude * 10) ∧
          addUnsigned (magnitude * 10) unit = some (magnitude * 10 + unit) ∧
          (magnitude * 10 + unit).toNat = magnitude.toNat * 10 + unit.toNat) := by
  have hcap : magnitudeCap.toNat = 2 ^ 63 := by decide
  have hsize : UInt64.size = 2 ^ 64 := rfl
  have hten : (10 : UInt64).toNat = 10 := rfl
  have hle : unit.toNat ≤ magnitudeCap.toNat := by omega
  have hroom : (magnitudeCap - unit).toNat = magnitudeCap.toNat - unit.toNat :=
    UInt64.toNat_sub_of_le _ _ (UInt64.le_iff_toNat_le.mpr hle)
  refine ⟨subUnsigned_eq hle,?_,?_⟩
  · rw [gt_iff_lt,UInt64.lt_iff_toNat_lt,UInt64.toNat_div,hroom,hten]
    omega
  · intro hfits
    have hmul : (magnitude * 10).toNat = magnitude.toNat * 10 := by
      rw [UInt64.toNat_mul,hten]
      exact Nat.mod_eq_of_lt (by omega)
    refine ⟨mulUnsigned_eq (by rw [hten]; omega),addUnsigned_eq (by omega),?_⟩
    rw [UInt64.toNat_add,hmul]
    exact Nat.mod_eq_of_lt (by omega)

/-- The loop over any text does not wrap. -/
theorem readMagnitudeChecked_eq (magnitude : UInt64) (octets : ByteString) :
    readMagnitudeChecked magnitude octets = some (readMagnitude magnitude octets) := by
  induction octets generalizing magnitude with
  | nil => rfl
  | cons digit rest ih =>
    unfold readMagnitudeChecked readMagnitude
    by_cases hdigit : isDigit digit = true
    · obtain ⟨hunit, hvalue, hnine⟩ := unit_value (isDigit_iff.mp hdigit)
      obtain ⟨hroom, hover, hnext⟩ :=
        next_magnitude _ (hvalue.trans_le hnine)
      rw [if_pos hdigit,if_pos hdigit]
      simp only [Option.bind_eq_bind]
      rw [hunit,Option.bind_some,hroom,Option.bind_some]
      by_cases hbig : magnitude > (magnitudeCap - (digit - 0x30).toUInt64) / 10
      · rw [if_pos hbig,if_pos hbig]
      · rw [if_neg hbig,if_neg hbig]
        obtain ⟨hmul, hadd, -⟩ := hnext (not_lt.mp (mt hover.mpr hbig))
        rw [hmul,Option.bind_some,hadd,Option.bind_some]
        exact ih _
    · rw [if_neg hdigit,if_neg hdigit]

/-- Digits have a magnitude exactly if their number is within the cap. -/
theorem readMagnitude_digits {digits : ByteString} (hdigits : ∀ digit ∈ digits, Digit digit)
    (magnitude : UInt64) :
    if decimalAfter magnitude.toNat digits ≤ magnitudeCap.toNat then
      ∃ total, readMagnitude magnitude digits = some total ∧
        total.toNat = decimalAfter magnitude.toNat digits
    else magnitude.toNat ≤ magnitudeCap.toNat → readMagnitude magnitude digits = none := by
  induction digits generalizing magnitude with
  | nil =>
    split
    · exact ⟨magnitude,rfl,rfl⟩
    · next hover => exact fun hle => absurd hle hover
  | cons digit rest ih =>
    have hdigit := hdigits digit List.mem_cons_self
    have hrest := ih fun d hd => hdigits d (List.mem_cons_of_mem _ hd)
    obtain ⟨-, hvalue, hnine⟩ := unit_value hdigit
    obtain ⟨-, hover, hnext⟩ := next_magnitude magnitude (hvalue.trans_le hnine)
    rw [hvalue] at hover hnext
    have hcons : decimalAfter magnitude.toNat (digit :: rest) =
        decimalAfter (magnitude.toNat * 10 + (digit.toNat - '0'.toNat)) rest := rfl
    have hgrow := le_decimalAfter (magnitude.toNat * 10 + (digit.toNat - '0'.toNat)) rest
    rw [hcons,readMagnitude,if_pos (isDigit_iff.mpr hdigit)]
    by_cases hbig : magnitude > (magnitudeCap - (digit - 0x30).toUInt64) / 10
    · rw [hover] at hbig
      rw [if_neg (by omega),if_pos (hover.mpr hbig)]
      exact fun _ => rfl
    · rw [if_neg hbig]
      rw [hover] at hbig
      obtain ⟨-, -, hsum⟩ := hnext (by omega)
      have hlonger := hrest (magnitude * 10 + (digit - 0x30).toUInt64)
      rw [hsum] at hlonger
      split
      · next hfits =>
        rw [if_pos hfits] at hlonger
        exact hlonger
      · next hfits =>
        rw [if_neg hfits] at hlonger
        exact fun _ => hlonger (by omega)

/-- The loop stays within the cap. -/
theorem readMagnitude_le {magnitude total : UInt64} {octets : ByteString}
    (h : readMagnitude magnitude octets = some total)
    (hle : magnitude.toNat ≤ magnitudeCap.toNat) : total.toNat ≤ magnitudeCap.toNat := by
  induction octets generalizing magnitude with
  | nil =>
    obtain rfl := Option.some.inj h
    exact hle
  | cons digit rest ih =>
    unfold readMagnitude at h
    by_cases hdigit : isDigit digit = true
    · rw [if_pos hdigit] at h
      dsimp only at h
      obtain ⟨-, hvalue, hnine⟩ := unit_value (isDigit_iff.mp hdigit)
      obtain ⟨-, hover, hnext⟩ := next_magnitude _ (hvalue.trans_le hnine)
      split at h
      · cases h
      · next hbig =>
        have hroom := not_lt.mp (mt hover.mpr hbig)
        exact ih h ((hnext hroom).2.2.trans_le hroom)
    · rw [if_neg hdigit] at h
      cases h

/-- What is not all digits has no magnitude. -/
theorem readMagnitude_other {octets : ByteString} (h : ¬ ∀ octet ∈ octets, Digit octet)
    (magnitude : UInt64) : readMagnitude magnitude octets = none := by
  induction octets generalizing magnitude with
  | nil => exact absurd (by simp) h
  | cons octet rest ih =>
    unfold readMagnitude
    by_cases hdigit : isDigit octet = true
    · have hrest : ¬ ∀ o ∈ rest, Digit o := fun hall => h fun o ho => by
        rcases List.mem_cons.mp ho with rfl | ho
        · exact isDigit_iff.mp hdigit
        · exact hall o ho
      rw [if_pos hdigit]
      dsimp only
      split
      · rfl
      · exact ih hrest _
    · rw [if_neg hdigit]

/-- The sign is no digit. -/
theorem not_digit_sign : ¬ Digit 0x2D ∧ ¬ Digit 0x2B := by
  rw [← isDigit_iff,← isDigit_iff]
  decide

/-- After a minus sign the digits are negated. -/
theorem denotes_minus {rest : ByteString} {n : ℤ} : Denotes (0x2D :: rest) n ↔
    rest ≠ [] ∧ (∀ digit ∈ rest, Digit digit) ∧ n = -(decimal rest : ℤ) := by
  constructor
  · rintro ⟨sign, digits, hliteral, hsome, hdigits, hn⟩
    rcases hn with ⟨rfl | rfl, -⟩ | ⟨rfl, rfl⟩
    · rw [List.nil_append] at hliteral
      exact absurd (hdigits 0x2D (hliteral ▸ List.mem_cons_self)) not_digit_sign.1
    · exact absurd (List.cons.inj hliteral).1 (by decide)
    · obtain rfl : rest = digits := (List.cons.inj hliteral).2
      exact ⟨hsome,hdigits,rfl⟩
  · rintro ⟨hsome, hdigits, rfl⟩
    exact ⟨text "-",rest,rfl,hsome,hdigits,Or.inr ⟨rfl,rfl⟩⟩

/-- After a plus sign the digits are taken as they are. -/
theorem denotes_plus {rest : ByteString} {n : ℤ} : Denotes (0x2B :: rest) n ↔
    rest ≠ [] ∧ (∀ digit ∈ rest, Digit digit) ∧ n = decimal rest := by
  constructor
  · rintro ⟨sign, digits, hliteral, hsome, hdigits, hn⟩
    rcases hn with ⟨rfl | rfl, rfl⟩ | ⟨rfl, rfl⟩
    · rw [List.nil_append] at hliteral
      exact absurd (hdigits 0x2B (hliteral ▸ List.mem_cons_self)) not_digit_sign.2
    · obtain rfl : rest = digits := (List.cons.inj hliteral).2
      exact ⟨hsome,hdigits,rfl⟩
    · exact absurd (List.cons.inj hliteral).1 (by decide)
  · rintro ⟨hsome, hdigits, rfl⟩
    exact ⟨text "+",rest,rfl,hsome,hdigits,Or.inl ⟨Or.inr rfl,rfl⟩⟩

/-- Without a sign there are only digits. -/
theorem denotes_plain {literal : ByteString} {n : ℤ} (hminus : literal.head? ≠ some 0x2D)
    (hplus : literal.head? ≠ some 0x2B) : Denotes literal n ↔
    literal ≠ [] ∧ (∀ digit ∈ literal, Digit digit) ∧ n = decimal literal := by
  constructor
  · rintro ⟨sign, digits, rfl, hsome, hdigits, hn⟩
    rcases hn with ⟨rfl | rfl, rfl⟩ | ⟨rfl, rfl⟩
    · exact ⟨hsome,hdigits,rfl⟩
    · exact absurd rfl hplus
    · exact absurd rfl hminus
  · rintro ⟨hsome, hdigits, rfl⟩
    exact ⟨[],literal,rfl,hsome,hdigits,Or.inl ⟨Or.inl rfl,rfl⟩⟩

/-- What becomes of the digits after the sign. -/
def withSign (negative : Bool) (digits : ByteString) : Option Int64 :=
  match readMagnitude 0 digits with
  | none => none
  | some magnitude =>
    if ¬ negative then if magnitude > positiveLimit then none else some magnitude.toInt64
    else if magnitude = magnitudeCap then some Int64.minValue
    else some (-magnitude.toInt64)

/-- The digits become an integer exactly if their signed number is one. -/
theorem withSign_eq_some {negative : Bool} {digits : ByteString} {i : Int64} :
    withSign negative digits = some i ↔ (∀ digit ∈ digits, Digit digit) ∧
      i.toInt = if negative then -(decimal digits : ℤ) else decimal digits := by
  have hcap : magnitudeCap.toNat = 2 ^ 63 := by decide
  have hlimit : positiveLimit.toNat = 2 ^ 63 - 1 := by decide
  have hmin := Int64.toInt_minValue
  have hmax := Int64.toInt_maxValue
  have hfits := fits_toInt i
  unfold withSign
  by_cases hdigits : ∀ digit ∈ digits, Digit digit
  · have hread := readMagnitude_digits hdigits 0
    rw [UInt64.toNat_zero,decimalAfter_zero] at hread
    unfold Fits at hfits
    split at hread
    · next hwithin =>
      obtain ⟨total, htotal, hvalue⟩ := hread
      rw [htotal]
      dsimp only
      cases negative with
      | false =>
        simp only [Bool.false_eq_true,not_false_eq_true,if_true,if_false]
        by_cases hbig : total > positiveLimit
        · rw [if_pos hbig]
          rw [gt_iff_lt,UInt64.lt_iff_toNat_lt] at hbig
          constructor
          · intro h
            cases h
          · rintro ⟨-, h⟩
            omega
        · rw [if_neg hbig]
          rw [gt_iff_lt,UInt64.lt_iff_toNat_lt] at hbig
          have hsigned := toInt_toInt64 (u := total) (by unfold Fits; omega)
          rw [Option.some.injEq,← Int64.toInt_inj,hsigned,hvalue]
          exact ⟨fun h => ⟨hdigits,h.symm⟩,fun h => h.2.symm⟩
      | true =>
        simp only [not_true_eq_false,if_true,if_false]
        by_cases hleast : total = magnitudeCap
        · rw [if_pos hleast,Option.some.injEq,← Int64.toInt_inj,hmin]
          rw [hleast,hcap] at hvalue
          exact ⟨fun h => ⟨hdigits,by omega⟩,fun h => by have := h.2; omega⟩
        · rw [if_neg hleast]
          rw [← UInt64.toNat_inj] at hleast
          have hsigned := toInt_toInt64 (u := total) (by unfold Fits; omega)
          have hnegated := toInt_neg (a := total.toInt64) (by unfold Fits; omega)
          rw [Option.some.injEq,← Int64.toInt_inj,hnegated,hsigned,hvalue]
          exact ⟨fun h => ⟨hdigits,h.symm⟩,fun h => h.2.symm⟩
    · next hover =>
      rw [hread (Nat.zero_le _)]
      constructor
      · intro h
        cases h
      · rintro ⟨-, h⟩
        split at h <;> omega
  · rw [readMagnitude_other hdigits]
    constructor
    · intro h
      cases h
    · exact fun h => absurd h.1 hdigits

/-- A text is read as an integer exactly if it denotes it. -/
theorem parsesAsInteger_eq_some {literal : ByteString} {i : Int64} :
    parsesAsInteger literal = some i ↔ Denotes literal i.toInt := by
  by_cases hminus : literal.head? = some 0x2D
  · obtain ⟨rest, rfl⟩ := List.head?_eq_some_iff.mp hminus
    have hparse : parsesAsInteger (0x2D :: rest) =
        if rest = [] then none else withSign true rest := rfl
    rw [hparse,denotes_minus]
    by_cases hempty : rest = []
    · simp [hempty]
    · simp [hempty,withSign_eq_some]
  · by_cases hplus : literal.head? = some 0x2B
    · obtain ⟨rest, rfl⟩ := List.head?_eq_some_iff.mp hplus
      have hparse : parsesAsInteger (0x2B :: rest) =
          if rest = [] then none else withSign false rest := rfl
      rw [hparse,denotes_plus]
      by_cases hempty : rest = []
      · simp [hempty]
      · simp [hempty,withSign_eq_some]
    · have hparse : parsesAsInteger literal =
          if literal = [] then none else withSign false literal := by
        unfold parsesAsInteger withSign
        dsimp only
        rw [if_neg (not_or.mpr ⟨hminus,hplus⟩)]
        cases readMagnitude 0 literal with
        | none => rfl
        | some magnitude =>
          dsimp only
          rw [if_pos hminus,if_pos Bool.false_ne_true]
      rw [hparse,denotes_plain hminus hplus]
      by_cases hempty : literal = []
      · simp [hempty]
      · simp [hempty,withSign_eq_some]

/-- A text denotes at most one number. -/
theorem denotes_unique {literal : ByteString} {n n' : ℤ} (h : Denotes literal n)
    (h' : Denotes literal n') : n = n' := by
  by_cases hminus : literal.head? = some 0x2D
  · obtain ⟨rest, rfl⟩ := List.head?_eq_some_iff.mp hminus
    rw [(denotes_minus.mp h).2.2,(denotes_minus.mp h').2.2]
  · by_cases hplus : literal.head? = some 0x2B
    · obtain ⟨rest, rfl⟩ := List.head?_eq_some_iff.mp hplus
      rw [(denotes_plus.mp h).2.2,(denotes_plus.mp h').2.2]
    · rw [((denotes_plain hminus hplus).mp h).2.2,((denotes_plain hminus hplus).mp h').2.2]

/-- A text that denotes a number has only digits and signs. -/
theorem octets_of_denotes {literal : ByteString} {n : ℤ} (h : Denotes literal n) :
    ∀ octet ∈ literal, octet ≤ 0x39 ∧ octet ≠ 0x2E := by
  obtain ⟨sign, digits, rfl, -, hdigits, hn⟩ := h
  have hsign : ∀ octet ∈ sign, octet ≤ 0x39 ∧ octet ≠ 0x2E := by
    intro octet hoctet
    rcases hn with ⟨rfl | rfl, -⟩ | ⟨rfl, -⟩
    · cases hoctet
    · rw [List.mem_singleton.mp hoctet]
      decide
    · rw [List.mem_singleton.mp hoctet]
      decide
  intro octet hoctet
  rcases List.mem_append.mp hoctet with hoctet | hoctet
  · exact hsign octet hoctet
  · have hdigit := isDigit_iff.mpr (hdigits octet hoctet)
    unfold isDigit at hdigit
    rw [decide_eq_true_eq] at hdigit
    refine ⟨hdigit.2,?_⟩
    rintro rfl
    exact absurd hdigit.1 (by decide)

/-- Reading a text as an integer does not wrap. -/
theorem parsesAsIntegerChecked_eq (literal : ByteString) :
    parsesAsIntegerChecked literal = some (parsesAsInteger literal) := by
  have hcap : magnitudeCap.toNat = 2 ^ 63 := by decide
  have hlimit : positiveLimit.toNat = 2 ^ 63 - 1 := by decide
  have hmin := Int64.toInt_minValue
  have hmax := Int64.toInt_maxValue
  unfold parsesAsIntegerChecked parsesAsInteger
  dsimp only
  generalize (if literal.head? = some 0x2D ∨ literal.head? = some 0x2B then literal.tail
    else literal) = digits
  by_cases hempty : digits = []
  · rw [if_pos hempty,if_pos hempty]
  · rw [if_neg hempty,if_neg hempty,readMagnitudeChecked_eq]
    simp only [Option.bind_eq_bind]
    rw [Option.bind_some]
    cases hread : readMagnitude 0 digits with
    | none => rfl
    | some magnitude =>
      have hwithin : magnitude.toNat ≤ magnitudeCap.toNat := readMagnitude_le hread (Nat.zero_le _)
      dsimp only
      by_cases hnegative : literal.head? = some 0x2D
      · simp only [hnegative,not_true_eq_false,if_false]
        by_cases hleast : magnitude = magnitudeCap
        · rw [if_pos hleast,if_pos hleast]
        · rw [if_neg hleast,if_neg hleast]
          rw [← UInt64.toNat_inj] at hleast
          have hsigned : Fits magnitude.toNat := by unfold Fits; omega
          have hnegated : Fits (-magnitude.toInt64.toInt) := by
            rw [toInt_toInt64 hsigned]
            unfold Fits
            omega
          rw [toSigned_eq hsigned,Option.bind_some,negSigned_eq hnegated,Option.map_some]
      · simp only [hnegative,not_false_eq_true,if_true]
        by_cases hbig : magnitude > positiveLimit
        · rw [if_pos hbig,if_pos hbig]
        · rw [if_neg hbig,if_neg hbig]
          rw [gt_iff_lt,UInt64.lt_iff_toNat_lt] at hbig
          rw [toSigned_eq (by unfold Fits; omega),Option.map_some]

variable {δ : Type} [FloatingPoint δ]

/-- A literal is read as an integer exactly if it denotes it. -/
theorem parseParameterLiteral_integer {literal : ByteString} {i : Int64} :
    (parseParameterLiteral literal : ParameterValue δ) = .integer i ↔ Denotes literal i.toInt := by
  rw [← parsesAsInteger_eq_some]
  unfold parseParameterLiteral
  by_cases htrue : literal = text "true"
  · have hnone : parsesAsInteger (text "true") = none := by decide
    simp [htrue,hnone]
  · by_cases hfalse : literal = text "false"
    · have hnone : parsesAsInteger (text "false") = none := by decide
      rw [if_neg htrue,if_pos hfalse,hfalse,hnone]
      simp
    · rw [if_neg htrue,if_neg hfalse]
      cases parsesAsInteger literal with
      | some integer => simp
      | none =>
        dsimp only
        split <;> simp

/-- A number out of range stays the text. -/
theorem parseParameterLiteral_string {literal : ByteString} {n : ℤ} (h : Denotes literal n)
    (hover : ¬ Fits n) : (parseParameterLiteral literal : ParameterValue δ) = .string literal := by
  have hoctets := octets_of_denotes h
  have hinteger : parsesAsInteger literal = none := by
    cases hparse : parsesAsInteger literal with
    | none => rfl
    | some i =>
      have hsame := denotes_unique h (parsesAsInteger_eq_some.mp hparse)
      exact absurd (hsame ▸ fits_toInt i) hover
  have hmarker : ¬ (0x2E ∈ literal ∨ 0x65 ∈ literal ∨ 0x45 ∈ literal) := by
    rintro (hmem | hmem | hmem)
    · exact (hoctets _ hmem).2 rfl
    · exact absurd (hoctets _ hmem).1 (by decide)
    · exact absurd (hoctets _ hmem).1 (by decide)
  have hfloating : (parsesAsDouble literal : Option δ) = none := by
    unfold parsesAsDouble
    exact if_pos hmarker
  have htrue : literal ≠ text "true" := by
    rintro rfl
    exact absurd (hoctets 0x74 (by decide)).1 (by decide)
  have hfalse : literal ≠ text "false" := by
    rintro rfl
    exact absurd (hoctets 0x66 (by decide)).1 (by decide)
  unfold parseParameterLiteral
  rw [if_neg htrue,if_neg hfalse,hinteger,hfloating]

/-- For every text the result is an integer exactly if the text is a sign or
none and one or more decimal digits whose number 64 bits hold; it then is that
number. A number out of range stays the text. Nothing wraps. -/
theorem integers_exact (literal : ByteString) :
    parsesAsIntegerChecked literal = some (parsesAsInteger literal) ∧
      (∀ n : ℤ, (∃ i : Int64, i.toInt = n ∧
          (parseParameterLiteral literal : ParameterValue δ) = .integer i) ↔
        Denotes literal n ∧ Fits n) ∧
      ∀ n : ℤ, Denotes literal n → ¬ Fits n →
        (parseParameterLiteral literal : ParameterValue δ) = .string literal := by
  refine ⟨parsesAsIntegerChecked_eq literal,fun n => ?_,fun n => parseParameterLiteral_string⟩
  constructor
  · rintro ⟨i, rfl, hparse⟩
    exact ⟨parseParameterLiteral_integer.mp hparse,fits_toInt i⟩
  · rintro ⟨hdenotes, hfits⟩
    unfold Fits at hfits
    rw [Int64.toInt_minValue,Int64.toInt_maxValue] at hfits
    have hvalue : (Int64.ofInt n).toInt = n := by
      have hsize : (Int64.size : ℤ) = 2 ^ 64 := rfl
      rw [Int64.toInt_ofInt]
      exact Int.bmod_eq_of_le (by omega) (by omega)
    exact ⟨Int64.ofInt n,hvalue,parseParameterLiteral_integer.mpr (hvalue.symm ▸ hdenotes)⟩

end Dmw.ParameterLiterals
