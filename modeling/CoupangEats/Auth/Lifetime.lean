import CoupangEats.Auth.Revocation
import Mathlib.Algebra.Order.Floor.Ring
import Mathlib.Data.Rat.Floor
import Mathlib.Tactic.FieldSimp
import Mathlib.Tactic.Linarith

/-!
How long an expiration text lasts, read twice.

The token library reads a text such as `15m`, `1.5 hours` or `90000` as a
timespan and signs a token that expires after it. The service reads the same text
for the time to live of what it stores about the token: it looks at the last
character only and reads an integer in front of it. An entry that expires with
its token or later is one that can be read as long as the token is valid
(`Outlives`), and `Covered` names the texts for which that is so
(`outlives_iff_covered`).
-/

namespace CoupangEats

open CoupangEats.Base

/-! ### Timespans -/

/-- The unit names of the library, in milliseconds. -/
def timeUnits : List (String × ℕ) :=
  [("milliseconds", 1), ("millisecond", 1), ("msecs", 1), ("msec", 1), ("ms", 1),
    ("seconds", 1000), ("second", 1000), ("secs", 1000), ("sec", 1000), ("s", 1000),
    ("minutes", 60000), ("minute", 60000), ("mins", 60000), ("min", 60000), ("m", 60000),
    ("hours", 3600000), ("hour", 3600000), ("hrs", 3600000), ("hr", 3600000), ("h", 3600000),
    ("days", 86400000), ("day", 86400000), ("d", 86400000),
    ("weeks", 604800000), ("week", 604800000), ("w", 604800000),
    ("years", 31557600000), ("year", 31557600000), ("yrs", 31557600000), ("yr", 31557600000),
    ("y", 31557600000)]

/-- A unit as it is written: its letters may be capitals. -/
structure UnitSpelling where
  letters : List Char
  name : String
  milliseconds : ℕ
  known : (name, milliseconds) ∈ timeUnits
  folds : letters.map Char.toLower = name.toList

/-- Characters that are decimal digits. -/
def Decimal (s : List Char) : Prop := ∀ c ∈ s, '0' ≤ c ∧ c ≤ '9'

/-- A text that the library reads: a number, which may have a sign and a fraction,
spaces, and a unit, if one is given. -/
structure Timespan where
  negative : Bool
  whole : List Char
  fraction : Option (List Char)
  spaces : ℕ
  unit : Option UnitSpelling
  whole_decimal : Decimal whole
  fraction_decimal : ∀ digits ∈ fraction, Decimal digits ∧ digits ≠ []
  some_digit : fraction = none → whole ≠ []

namespace Timespan

variable (x : Timespan)

/-- The text behind the whole part, without the unit. -/
def gap : List Char :=
  (match x.fraction with
    | none => []
    | some digits => '.' :: digits) ++ List.replicate x.spaces ' '

def letters : List Char := (x.unit.map UnitSpelling.letters).getD []

def text : String :=
  String.ofList ((if x.negative then ['-'] else []) ++ (x.whole ++ (x.gap ++ x.letters)))

/-- The whole part as a number. -/
def units : ℕ := Nat.ofDigitChars 10 x.whole 0

/-- The part behind the point as a number. -/
def part : ℚ :=
  match x.fraction with
  | none => 0
  | some digits => Nat.ofDigitChars 10 digits 0 / 10 ^ digits.length

def number : ℚ := if x.negative then -(x.units + x.part) else x.units + x.part

/-- The unit in milliseconds; a number without one means milliseconds. -/
def unitMilliseconds : ℕ := (x.unit.map UnitSpelling.milliseconds).getD 1

def milliseconds : ℚ := x.number * x.unitMilliseconds

/-- The lifetime of the token, in whole seconds. -/
def lifetime : Int := ⌊x.milliseconds / 1000⌋

end Timespan

/-- The token library reads timespans, and no other texts. -/
def Jwt.ReadsTimespans (jwt : Jwt) : Prop :=
  ∀ expiration lifetime, jwt.lifetime expiration = some lifetime →
    ∃ x : Timespan, x.text = expiration ∧ lifetime = x.lifetime

/-! ### The entries -/

/-- What the service stores about tokens that are signed with the text can be read
as long as they are valid: the blacklist entry of an access token, and a refresh
token. -/
def Outlives (expiration : String) (lifetime : Int) : Prop :=
  ∀ (config : JwtConfig) (redis : Redis) (now later : Time) (userId token : String),
    now ≤ later → later ≤ now + lifetime * 1000 →
    (config.accessExpiration = expiration →
      isTokenBlacklisted (revokeAllUserTokens config redis now userId token) later token = true) ∧
    (config.refreshExpiration = expiration →
      cacheGet (storeRefreshToken config redis now userId token) later (refreshTokenKey userId) =
        some (.str token))

/-- A time to live, where one is set at all, is not shorter than the lifetime. -/
def LongEnough (expiration : String) (lifetime : Int) : Prop :=
  ∀ ttl, parseExpirationToSeconds expiration = some ttl → ttl ≠ 0 → 0 ≤ lifetime → lifetime ≤ ttl

/-! ### The condition -/

/-- The unit that the last character of a text stands for. -/
def TimeUnit.ofLetter : Char → Option TimeUnit
  | 's' => some .second
  | 'm' => some .minute
  | 'h' => some .hour
  | 'd' => some .day
  | _ => none

/-- The unit in which the service reads a timespan. -/
def Timespan.presumed (x : Timespan) : Option TimeUnit :=
  x.text.toList.getLast?.bind TimeUnit.ofLetter

/-- The service's reading is long enough. Where it does not know the last character
it takes an hour. Where it does, the number is less than 1, or the unit is shorter
than the one it takes it for, or it is that unit and less than a second of it is
behind the point. -/
def Timespan.Covered (x : Timespan) : Prop :=
  match x.presumed with
  | none => x.milliseconds < 3601000
  | some unit =>
      x.number < 1 ∨ x.unitMilliseconds < unit.seconds * 1000 ∨
        x.unitMilliseconds = unit.seconds * 1000 ∧ x.part * unit.seconds < 1

/-! ### The letters -/

/-- Unit names are made of small letters, and no x is among them. -/
theorem timeUnits_letters :
    ∀ entry ∈ timeUnits, ∀ c ∈ entry.1.toList, ('a' ≤ c ∧ c ≤ 'z') ∧ c ≠ 'x' := by
  have checked : (timeUnits.all fun entry =>
      entry.1.toList.all fun c => decide (('a' ≤ c ∧ c ≤ 'z') ∧ c ≠ 'x')) = true := by
    decide +kernel
  intro entry mem c here
  have letter := List.all_eq_true.mp (List.all_eq_true.mp checked entry mem) c here
  exact of_decide_eq_true letter

theorem timeUnits_ne_empty : ∀ entry ∈ timeUnits, entry.1.toList ≠ [] := by
  decide +kernel

/-- A unit whose name ends with the letter of another unit is shorter than a second and
that unit, or it is that unit, or it is much longer. -/
theorem timeUnits_last :
    ∀ entry ∈ timeUnits, ∀ unit : TimeUnit, entry.1.toList.getLast? = some unit.letter →
      (entry.2 < unit.seconds * 1000 ∧ entry.2 ≤ 1000) ∨ entry.2 = unit.seconds * 1000 ∨
        60 * (unit.seconds * 1000) ≤ entry.2 := by
  intro entry mem unit
  revert entry
  cases unit <;> decide +kernel

theorem timeUnits_pos : ∀ entry ∈ timeUnits, 0 < entry.2 := by
  decide +kernel

theorem digit_of_not_decimal {c : Char} (other : ¬ ('0' ≤ c ∧ c ≤ '9')) : digit 10 c = none := by
  unfold digit
  rw [if_neg other]
  split_ifs
  · simp
  · simp
  · rfl

theorem toLower_of_decimal {c : Char} (decimal : '0' ≤ c ∧ c ≤ '9') : c.toLower = c := by
  unfold Char.toLower
  rw [dif_neg]
  rintro ⟨above, -⟩
  have low : 65 ≤ c.toNat := above
  have high : c.toNat ≤ 57 := decimal.2
  omega

/-- The letters of a unit end a number. -/
theorem UnitSpelling.not_digit (unit : UnitSpelling) {c : Char} (mem : c ∈ unit.letters) :
    digit 10 c = none ∧ c ≠ 'x' ∧ c ≠ 'X' := by
  have lower : c.toLower ∈ unit.name.toList := by
    rw [← unit.folds]
    exact List.mem_map_of_mem mem
  obtain ⟨letter, notX⟩ := timeUnits_letters _ unit.known _ lower
  refine ⟨digit_of_not_decimal fun decimal => ?_, ?_, ?_⟩
  · rw [toLower_of_decimal decimal] at letter
    have low : 97 ≤ c.toNat := letter.1
    have high : c.toNat ≤ 57 := decimal.2
    omega
  · rintro rfl
    exact notX rfl
  · rintro rfl
    exact notX rfl

theorem UnitSpelling.letters_ne_nil (unit : UnitSpelling) : unit.letters ≠ [] := by
  intro empty
  have folds := unit.folds
  rw [empty] at folds
  exact timeUnits_ne_empty _ unit.known folds.symm

theorem TimeUnit.ofLetter_eq_some {c : Char} {unit : TimeUnit} :
    TimeUnit.ofLetter c = some unit ↔ c = unit.letter := by
  constructor
  · intro known
    unfold TimeUnit.ofLetter at known
    split at known <;> cases known <;> rfl
  · rintro rfl
    cases unit <;> rfl

/-! ### What the service reads -/

/-- The service's reading, by the unit that it takes the last character for. -/
theorem parseExpirationToSeconds_eq (expiration : String) :
    parseExpirationToSeconds expiration =
      match expiration.toList.getLast?.bind TimeUnit.ofLetter with
      | none => some 3600
      | some unit =>
          (parseInt expiration.toList.dropLast).map fun value => value * unit.seconds := by
  unfold parseExpirationToSeconds
  cases last : expiration.toList.getLast? with
  | none => rfl
  | some c =>
      simp only [Option.bind_some]
      cases known : TimeUnit.ofLetter c with
      | none =>
          split
          all_goals first | rfl | (rename_i same; cases same; cases known)
      | some unit =>
          rw [TimeUnit.ofLetter_eq_some] at known
          subst known
          cases value : parseInt expiration.toList.dropLast with
          | none => cases unit <;> rfl
          | some value =>
              cases unit with
              | second => simp [TimeUnit.letter, TimeUnit.seconds]
              | minute => simp [TimeUnit.letter, TimeUnit.seconds]
              | hour =>
                  simp only [TimeUnit.letter, TimeUnit.seconds, Option.map_some, Option.some.injEq]
                  omega
              | day =>
                  simp only [TimeUnit.letter, TimeUnit.seconds, Option.map_some, Option.some.injEq]
                  omega

theorem TimeUnit.seconds_pos (unit : TimeUnit) : 0 < unit.seconds := by
  cases unit <;> decide

namespace Timespan

variable {x : Timespan}

theorem letters_of_unit {unit : UnitSpelling} (named : x.unit = some unit) :
    x.letters = unit.letters := by
  rw [letters, named, Option.map_some, Option.getD_some]

theorem toList_text :
    x.text.toList =
      (if x.negative then ['-'] else []) ++ (x.whole ++ (x.gap ++ x.letters)) := by
  rw [text, String.toList_ofList]

theorem gap_cases :
    x.gap = [] ∧ x.fraction = none ∨ ∃ c tail, x.gap = c :: tail ∧ (c = '.' ∨ c = ' ') := by
  unfold gap
  cases x.fraction with
  | some digits => exact .inr ⟨'.', _, rfl, .inl rfl⟩
  | none =>
      cases x.spaces with
      | zero => exact .inl ⟨rfl, rfl⟩
      | succ n => exact .inr ⟨' ', _, rfl, .inr rfl⟩

/-- Behind the digits of the whole part there is a point, a space or a letter. -/
theorem gap_ends {rest : List Char} (ends : EndsNumber rest) : EndsNumber (x.gap ++ rest) := by
  rcases x.gap_cases with ⟨none, -⟩ | ⟨c, tail, starts, char⟩
  · rw [none, List.nil_append]
    exact ends
  · rw [starts, List.cons_append]
    intro d head
    cases head
    rcases char with rfl | rfl
    · decide
    · decide

/-- Without its unit the text has no letters. -/
theorem plain {c : Char} (mem : c ∈ (if x.negative then ['-'] else []) ++ (x.whole ++ x.gap)) :
    c.toNat ≤ 57 := by
  rw [List.mem_append, List.mem_append] at mem
  rcases mem with sign | whole | gap
  · split at sign
    · rw [List.mem_singleton.mp sign]
      decide
    · cases sign
  · exact (x.whole_decimal c whole).2
  · rw [Timespan.gap, List.mem_append] at gap
    rcases gap with fraction | space
    · cases digits : x.fraction with
      | none =>
          rw [digits] at fraction
          cases fraction
      | some text =>
          rw [digits] at fraction
          rcases List.mem_cons.mp fraction with rfl | mem
          · decide
          · exact ((x.fraction_decimal text digits).1 c mem).2
    · rw [List.eq_of_mem_replicate space]
      decide

/-- The unit that the service takes the text for ends the name of the text's unit. -/
theorem presumed_eq_some {unit : TimeUnit} (presumed : x.presumed = some unit) :
    ∃ spelling, x.unit = some spelling ∧ spelling.letters.getLast? = some unit.letter := by
  obtain ⟨c, last, known⟩ := Option.bind_eq_some_iff.mp presumed
  rw [TimeUnit.ofLetter_eq_some] at known
  subst known
  rw [toList_text, ← List.append_assoc, ← List.append_assoc] at last
  cases named : x.unit with
  | none =>
      have none : x.letters = [] := by
        rw [letters, named]
        rfl
      rw [none, List.append_nil, List.append_assoc] at last
      have low := x.plain (List.mem_of_getLast? last)
      have high : 97 ≤ unit.letter.toNat := by
        cases unit <;> decide
      omega
  | some spelling =>
      rw [letters_of_unit named, List.getLast?_append_of_ne_nil _ spelling.letters_ne_nil] at last
      exact ⟨spelling, rfl, last⟩

/-- A number without a whole part is not read at all. -/
theorem parseInt_point (negative : Bool) (rest : List Char) :
    parseInt ((if negative then ['-'] else []) ++ '.' :: rest) = none := by
  have point : digit 10 '.' = none := by decide
  cases negative with
  | true => simp [parseInt, isSpace, readDigits, point]
  | false => simp [parseInt, isSpace, readDigits, point]

/-- Where the service knows the last character it reads the sign and the whole part. -/
theorem parseExpirationToSeconds_text {unit : TimeUnit} (presumed : x.presumed = some unit) :
    parseExpirationToSeconds x.text =
      if x.whole = [] then none
      else some ((if x.negative then -(x.units : Int) else x.units) * unit.seconds) := by
  obtain ⟨spelling, named, -⟩ := presumed_eq_some presumed
  have dropped : x.text.toList.dropLast = (if x.negative then ['-'] else []) ++
      (x.whole ++ (x.gap ++ spelling.letters.dropLast)) := by
    rw [toList_text, letters_of_unit named, List.dropLast_append_of_ne_nil,
      List.dropLast_append_of_ne_nil, List.dropLast_append_of_ne_nil]
    all_goals simp [spelling.letters_ne_nil]
  have ends : EndsNumber spelling.letters.dropLast := fun c head =>
    spelling.not_digit (List.mem_of_mem_dropLast (List.mem_of_mem_head? head))
  have known : x.text.toList.getLast?.bind TimeUnit.ofLetter = some unit := presumed
  simp only [parseExpirationToSeconds_eq, known, dropped]
  by_cases empty : x.whole = []
  · rw [if_pos empty]
    cases fraction : x.fraction with
    | none => exact absurd empty (x.some_digit fraction)
    | some digits =>
        have starts : x.gap = '.' :: (digits ++ List.replicate x.spaces ' ') := by
          rw [gap, fraction]
          rfl
        rw [empty, starts, List.nil_append, List.cons_append, parseInt_point]
        rfl
  · rw [if_neg empty, parseInt_append x.negative empty x.whole_decimal (gap_ends ends)]
    rfl

/-! ### The lifetime -/

theorem ofDigitChars_lt {s : List Char} (decimal : Decimal s) (n : ℕ) :
    Nat.ofDigitChars 10 s n < (n + 1) * 10 ^ s.length := by
  induction s generalizing n with
  | nil => simp
  | cons c s ih =>
      have digit : c.toNat - '0'.toNat ≤ 9 := by
        have high : c.toNat ≤ 57 := (decimal c List.mem_cons_self).2
        have zero : '0'.toNat = 48 := rfl
        omega
      rw [Nat.ofDigitChars_cons]
      calc
        Nat.ofDigitChars 10 s (10 * n + (c.toNat - '0'.toNat))
            < (10 * n + (c.toNat - '0'.toNat) + 1) * 10 ^ s.length :=
          ih (fun d mem => decimal d (List.mem_cons_of_mem _ mem)) _
        _ ≤ ((n + 1) * 10) * 10 ^ s.length := Nat.mul_le_mul_right _ (by omega)
        _ = (n + 1) * 10 ^ (c :: s).length := by
          rw [List.length_cons, Nat.pow_succ, Nat.mul_assoc, Nat.mul_comm 10]

theorem part_nonneg : 0 ≤ x.part := by
  unfold part
  split
  · exact le_refl 0
  · positivity

theorem part_lt_one : x.part < 1 := by
  unfold part
  split
  · exact one_pos
  · rename_i digits fraction
    have bound := ofDigitChars_lt (x.fraction_decimal digits fraction).1 0
    rw [div_lt_one (by positivity)]
    rw [Nat.zero_add, Nat.one_mul] at bound
    exact_mod_cast bound

/-- The unit of a timespan, when the service takes it for another one. -/
theorem unit_cases {unit : TimeUnit} (presumed : x.presumed = some unit) :
    (x.unitMilliseconds < unit.seconds * 1000 ∧ x.unitMilliseconds ≤ 1000) ∨
      x.unitMilliseconds = unit.seconds * 1000 ∨
        60 * (unit.seconds * 1000) ≤ x.unitMilliseconds := by
  obtain ⟨spelling, named, last⟩ := presumed_eq_some presumed
  have name : spelling.name.toList.getLast? = some unit.letter := by
    rw [← spelling.folds, List.getLast?_map, last]
    cases unit <;> rfl
  have milliseconds : x.unitMilliseconds = spelling.milliseconds := by
    rw [unitMilliseconds, named]
    rfl
  rw [milliseconds]
  exact timeUnits_last _ spelling.known unit name

theorem unitMilliseconds_pos : 0 < x.unitMilliseconds := by
  unfold unitMilliseconds
  cases x.unit with
  | none => exact one_pos
  | some spelling => exact timeUnits_pos _ spelling.known

theorem lifetime_le_iff (x : Timespan) (ttl : Int) :
    x.lifetime ≤ ttl ↔ x.milliseconds < (ttl + 1) * 1000 := by
  rw [lifetime, ← Int.lt_add_one_iff, Int.floor_lt, div_lt_iff₀ (by norm_num)]
  push_cast
  rfl

/-- An hour is long enough for less than an hour and a second. -/
theorem longEnough_of_unknown (unknown : x.presumed = none) :
    LongEnough x.text x.lifetime ↔ x.milliseconds < 3601000 := by
  have known : x.text.toList.getLast?.bind TimeUnit.ofLetter = none := unknown
  have hour : x.lifetime ≤ 3600 ↔ x.milliseconds < 3601000 := by
    rw [lifetime_le_iff]
    norm_num
  simp only [LongEnough, parseExpirationToSeconds_eq, known, Option.some.injEq, forall_eq']
  rw [← hour]
  constructor
  · intro covers
    by_contra longer
    exact longer (covers (by decide) (by omega))
  · exact fun covers _ _ => covers

/-- What is read of a number below 1 is zero, a negative number or nothing. -/
theorem longEnough_of_lt_one {unit : TimeUnit} (presumed : x.presumed = some unit)
    (small : x.number < 1) : LongEnough x.text x.lifetime := by
  intro ttl read nonzero lasting
  rw [parseExpirationToSeconds_text presumed] at read
  split at read
  · cases read
  · rw [Option.some.injEq] at read
    have nonneg := x.part_nonneg
    have positive : (0 : ℚ) < x.unitMilliseconds := by exact_mod_cast x.unitMilliseconds_pos
    have long : ¬ x.milliseconds < 0 := by
      intro past
      have : x.lifetime < 0 := Int.floor_lt.mpr (by push_cast; linarith)
      omega
    cases sign : x.negative with
    | false =>
        -- The whole part is zero.
        rw [number, sign, if_neg Bool.false_ne_true] at small
        have whole : x.units = 0 := by
          have : (x.units : ℚ) < 1 := by linarith
          exact Nat.lt_one_iff.mp (by exact_mod_cast this)
        simp [sign, whole] at read
        omega
    | true =>
        -- A negative number of units is no lifetime, and without units nothing is read.
        have some_units : x.units ≠ 0 := by
          intro whole
          simp [sign, whole] at read
          omega
        exfalso
        apply long
        have : (1 : ℚ) ≤ x.units := by exact_mod_cast Nat.one_le_iff_ne_zero.mpr some_units
        rw [milliseconds, number, sign, if_pos rfl]
        exact mul_neg_of_neg_of_pos (by linarith) positive

/-- A number from 1 on has no minus sign, and a whole part. -/
theorem units_of_one_le (large : 1 ≤ x.number) :
    x.negative = false ∧ 1 ≤ x.units ∧ x.number = x.units + x.part := by
  have nonneg := x.part_nonneg
  have small := x.part_lt_one
  have units : (0 : ℚ) ≤ x.units := Nat.cast_nonneg _
  cases sign : x.negative with
  | true =>
      rw [number, sign, if_pos rfl] at large
      linarith
  | false =>
      have number : x.number = x.units + x.part := by
        rw [number, sign, if_neg Bool.false_ne_true]
      refine ⟨rfl, ?_, number⟩
      rw [number] at large
      have : (0 : ℚ) < x.units := by linarith
      exact Nat.succ_le_of_lt (by exact_mod_cast this)

/-- What is read of a number from 1 on is its whole part in the presumed unit. -/
theorem longEnough_of_one_le {unit : TimeUnit} (presumed : x.presumed = some unit)
    (large : 1 ≤ x.number) :
    LongEnough x.text x.lifetime ↔ x.milliseconds < (x.units * unit.seconds + 1) * 1000 := by
  obtain ⟨sign, some_units, number⟩ := units_of_one_le large
  have some_digit : x.whole ≠ [] := by
    intro empty
    rw [units, empty] at some_units
    simp at some_units
  have read : parseExpirationToSeconds x.text = some ((x.units : Int) * unit.seconds) := by
    rw [parseExpirationToSeconds_text presumed, if_neg some_digit, sign,
      if_neg Bool.false_ne_true]
  have nonzero : (x.units * unit.seconds : Int) ≠ 0 := by
    have := unit.seconds_pos
    exact_mod_cast Nat.mul_ne_zero (by omega) (by omega)
  have lasting : 0 ≤ x.lifetime := by
    have : (0 : ℚ) ≤ x.unitMilliseconds := Nat.cast_nonneg _
    apply Int.floor_nonneg.mpr
    rw [milliseconds]
    positivity
  have bound := lifetime_le_iff x (x.units * unit.seconds)
  push_cast at bound
  rw [← bound]
  constructor
  · exact fun covers => covers _ read nonzero lasting
  · intro covers ttl again _ _
    rw [read, Option.some.injEq] at again
    rw [← again]
    exact covers

/-- The condition says when the time to live is long enough. -/
theorem longEnough_iff : LongEnough x.text x.lifetime ↔ x.Covered := by
  unfold Covered
  cases presumed : x.presumed with
  | none => exact longEnough_of_unknown presumed
  | some unit =>
      by_cases small : x.number < 1
      · exact iff_of_true (longEnough_of_lt_one presumed small) (.inl small)
      · have large := not_lt.mp small
        obtain ⟨-, some_units, number⟩ := units_of_one_le large
        have part := x.part_nonneg
        have fraction := x.part_lt_one
        have units : (1 : ℚ) ≤ x.units := by exact_mod_cast some_units
        have seconds : (1 : ℚ) ≤ unit.seconds := by exact_mod_cast unit.seconds_pos
        rw [longEnough_of_one_le presumed large, milliseconds, number]
        simp only [← number, small, false_or]
        rcases unit_cases presumed with ⟨shorter, second⟩ | same | longer
        · have shorter' : (x.unitMilliseconds : ℚ) < unit.seconds * 1000 := by
            exact_mod_cast shorter
          have second' : (x.unitMilliseconds : ℚ) ≤ 1000 := by exact_mod_cast second
          refine iff_of_true ?_ (.inl shorter)
          rw [number]
          nlinarith
        · have same' : (x.unitMilliseconds : ℚ) = unit.seconds * 1000 := by exact_mod_cast same
          have notShorter : ¬ x.unitMilliseconds < unit.seconds * 1000 := by omega
          rw [number, same', or_iff_right notShorter, and_iff_right same]
          constructor
          · intro covers
            linarith
          · intro covers
            linarith
        · have longer' : 60 * ((unit.seconds : ℚ) * 1000) ≤ x.unitMilliseconds := by
            exact_mod_cast longer
          refine iff_of_false ?_ ?_
          · rw [number]
            nlinarith
          · rintro (shorter | ⟨same, -⟩)
            · omega
            · have := unit.seconds_pos
              omega

end Timespan

/-- A window that a moment lies in is not empty, and the moment lies in every longer one. -/
theorem window_grows {now later length : Int} (starts : now ≤ later) (ends : later ≤ now + length) :
    0 ≤ length ∧ ∀ {longer : Int}, length ≤ longer → later ≤ now + longer := by
  constructor
  · omega
  · intro longer order
    omega

/-- The entries outlive the token exactly when the time to live is long enough. -/
theorem outlives_iff {expiration : String} {lifetime : Int} :
    Outlives expiration lifetime ↔ LongEnough expiration lifetime := by
  constructor
  · intro outlives ttl read timed lasting
    by_contra shorter
    have start : (0 : Int) ≤ lifetime * 1000 := by omega
    have late : (0 : Int) + ttl * 1000 < lifetime * 1000 := by omega
    obtain ⟨blacklisted, -⟩ := outlives ⟨"", "", expiration, ""⟩ .empty 0 (lifetime * 1000) "" ""
      start (Int.zero_add _).ge
    have gone : cacheGet (revokeAllUserTokens ⟨"", "", expiration, ""⟩ .empty 0 "" "")
        (lifetime * 1000) (blacklistKey "") = none := by
      simp only [revokeAllUserTokens, read]
      exact cacheGet_cacheSet_late timed late
    have := blacklisted rfl
    rw [isTokenBlacklisted, gone] at this
    cases this
  · intro covers config redis now later userId token starts ends
    have lasts : ∀ ttl, parseExpirationToSeconds expiration = some ttl → ttl ≠ 0 →
        0 < ttl ∧ later ≤ now + ttl * 1000 := by
      intro ttl read timed
      obtain ⟨nonneg, within⟩ := window_grows starts ends
      have longer := covers ttl read timed (by omega)
      exact ⟨by omega, within (by omega)⟩
    constructor
    · rintro rfl
      exact revoked_isTokenBlacklisted lasts
    · rintro rfl
      exact cacheGet_cacheSet lasts

/-- For every text that the token library accepts: what the service stores about a token
lives as long as the token, exactly when the timespan is covered. -/
theorem outlives_iff_covered {jwt : Jwt} (reads : jwt.ReadsTimespans) {expiration : String}
    {lifetime : Int} (accepted : jwt.lifetime expiration = some lifetime) :
    ∃ x : Timespan, x.text = expiration ∧ x.lifetime = lifetime ∧
      (Outlives expiration lifetime ↔ x.Covered) := by
  obtain ⟨x, rfl, rfl⟩ := reads expiration lifetime accepted
  exact ⟨x, rfl, rfl, outlives_iff.trans Timespan.longEnough_iff⟩

/-- A library that reads one text. -/
def readsOnly (x : Timespan) : Jwt where
  sign := sampleJwt.sign
  verify := sampleJwt.verify
  lifetime expiration := if expiration = x.text then some x.lifetime else none

theorem readsOnly_readsTimespans (x : Timespan) : (readsOnly x).ReadsTimespans := by
  intro expiration lifetime accepted
  simp only [readsOnly, Option.ite_none_right_eq_some, Option.some.injEq] at accepted
  exact ⟨x, accepted.1.symm, accepted.2.symm⟩

theorem readsOnly_lifetime (x : Timespan) : (readsOnly x).lifetime x.text = some x.lifetime := by
  simp [readsOnly]

/-- Fifteen minutes, as `15m`. -/
def fifteenMinutes : Timespan where
  negative := false
  whole := ['1', '5']
  fraction := none
  spaces := 0
  unit := some ⟨['m'], "m", 60000, by decide, rfl⟩
  whole_decimal := by simp [Decimal]
  fraction_decimal := by simp
  some_digit := by simp

/-- Seven days, as `7 days`. -/
def sevenDays : Timespan where
  negative := false
  whole := ['7']
  fraction := none
  spaces := 1
  unit := some ⟨['d', 'a', 'y', 's'], "days", 86400000, by decide, rfl⟩
  whole_decimal := by simp [Decimal]
  fraction_decimal := by simp
  some_digit := by simp

theorem fifteenMinutes_outlives_iff :
    ∃ x : Timespan, x.text = fifteenMinutes.text ∧ x.lifetime = fifteenMinutes.lifetime ∧
      (Outlives fifteenMinutes.text fifteenMinutes.lifetime ↔ x.Covered) :=
  outlives_iff_covered (readsOnly_readsTimespans fifteenMinutes)
    (readsOnly_lifetime fifteenMinutes)

/-- A refresh token of `7 days` is stored for seven seconds. -/
theorem sevenDays_forgotten :
    ¬ ∀ (jwt : Jwt), jwt.ReadsTimespans → ∀ (expiration : String) (lifetime : Int),
      jwt.lifetime expiration = some lifetime → Outlives expiration lifetime := by
  intro all
  have outlives := all (readsOnly sevenDays) (readsOnly_readsTimespans sevenDays) sevenDays.text
    sevenDays.lifetime (readsOnly_lifetime sevenDays)
  have short : sevenDays.lifetime ≤ 7 :=
    outlives_iff.mp outlives 7 (by decide +kernel) (by decide) (by decide +kernel)
  revert short
  decide +kernel

end CoupangEats
