import RelayPool.Proofs.Duration.Acceptance
import RelayPool.Proofs.Time.Span

/-!
# Durations that are no time

Components are never negative, so their sum is not less than any of them.  A span is
a whole number of microseconds: a sum of up to half a microsecond is rounded to no
time, and a greater one is not.
-/

namespace RelayPool.Duration

open Number.Binary64 (unit unit_pos AtLeast IsNumber)

/-- The components of a duration text, behind its sign. -/
def componentsOf (text : String) : List Component :=
  components (Number.splitSign (Text.trimmed text.toList)).2

def TimeUnit.nanoseconds : TimeUnit → Nat
  | .nanosecond => 1
  | .microsecond => 1000
  | .millisecond => 1000000
  | .second => 1000000000
  | .minute => 60000000000
  | .hour => 3600000000000

/-- A component that amounts to a microsecond or more. -/
def Component.LastsMicrosecond (component : Component) : Prop :=
  1000 * 10 ^ component.fraction.length ≤
    Number.digitsValue 10 (component.whole ++ component.fraction) * component.unit.nanoseconds

instance (component : Component) : Decidable component.LastsMicrosecond :=
  inferInstanceAs (Decidable (_ ≤ _))

/-- A number of seconds that is a little above half a microsecond. -/
def overHalf : Nat :=
  17 * 2 ^ 1049

section Components

variable {component : Component} {components : List Component}

theorem fitsBits_overHalf : Number.FitsBits 53 overHalf :=
  ⟨17, 1049, by decide, rfl⟩

/-- A unit is positive, and a number that makes a microsecond of it makes more than
half a microsecond of it when both are rounded. -/
theorem exists_seconds (timeUnit : TimeUnit) :
    ∃ seconds, timeUnit.seconds = .finite false seconds ∧ 0 < seconds ∧
      ∃ least, Number.FitsBits 53 least ∧ least * timeUnit.nanoseconds ≤ 1000 * unit ∧
        overHalf * unit ≤ least * seconds := by
  cases timeUnit with
  | nanosecond =>
      exact ⟨Number.roundToBits 53 (1 * unit) (10 ^ 9), by decide +kernel, by decide +kernel,
        _, ⟨1, 1083, by decide, rfl⟩, by decide +kernel, by decide +kernel⟩
  | microsecond =>
      exact ⟨Number.roundToBits 53 (1 * unit) (10 ^ 6), by decide +kernel, by decide +kernel,
        _, ⟨1, 1074, by decide, rfl⟩, by decide +kernel, by decide +kernel⟩
  | millisecond =>
      exact ⟨Number.roundToBits 53 (1 * unit) (10 ^ 3), by decide +kernel, by decide +kernel,
        _, ⟨1, 1064, by decide, rfl⟩, by decide +kernel, by decide +kernel⟩
  | second =>
      exact ⟨unit, by decide +kernel, unit_pos,
        _, ⟨1, 1054, by decide, rfl⟩, by decide +kernel, by decide +kernel⟩
  | minute =>
      exact ⟨60 * unit, by decide +kernel, by decide +kernel,
        _, ⟨1, 1048, by decide, rfl⟩, by decide +kernel, by decide +kernel⟩
  | hour =>
      exact ⟨3600 * unit, by decide +kernel, by decide +kernel,
        _, ⟨1, 1042, by decide, rfl⟩, by decide +kernel, by decide +kernel⟩

theorem TimeUnit.isNumber_seconds (timeUnit : TimeUnit) : IsNumber timeUnit.seconds := by
  cases timeUnit with
  | nanosecond | microsecond | millisecond =>
      rw [TimeUnit.seconds]
      exact Number.Binary64.isNumber_ofDecimal ..
  | second | minute | hour =>
      rw [TimeUnit.seconds]
      exact Number.Binary64.isNumber_ofInt _

theorem Component.isNumber_seconds (component : Component) : IsNumber component.seconds :=
  (Number.Binary64.isNumber_ofDecimal ..).mul component.unit.isNumber_seconds

theorem atLeast_seconds {least amount seconds : Nat} (fits : Number.FitsBits 53 least)
    (shown : component.unit.seconds = .finite false seconds) (positive : 0 < seconds)
    (enough : least * unit ≤ amount * seconds)
    (atLeast : AtLeast amount
      (.ofDecimal false (Number.digitsValue 10 (component.whole ++ component.fraction))
        (-(component.fraction.length : Int)))) : AtLeast least component.seconds := by
  rw [Component.seconds, shown]
  exact atLeast.mul fits positive enough

/-- No component is negative. -/
theorem nonnegative_seconds (component : Component) : AtLeast 0 component.seconds := by
  obtain ⟨seconds, shown, positive, -⟩ := exists_seconds component.unit
  have none := Number.fitsBits_zero 53
  refine atLeast_seconds none shown positive (by rw [Nat.zero_mul, Nat.zero_mul]) ?_
  generalize Number.digitsValue 10 (component.whole ++ component.fraction) = digits
  rcases Nat.eq_zero_or_pos digits with rfl | some
  · exact .finite (Nat.zero_le _)
  · rw [Number.Binary64.ofDecimal_eq_ofRatio some, Number.Binary64.ofRatio]
    refine Number.Binary64.atLeast_ofQuanta none (Nat.pow_pos (by decide)) ?_
    rw [Nat.zero_mul]
    exact Nat.zero_le _

theorem atLeast_of_lastsMicrosecond (lasts : component.LastsMicrosecond) :
    AtLeast overHalf component.seconds := by
  obtain ⟨seconds, shown, some, least, fits, short, enough⟩ := exists_seconds component.unit
  have each : 0 < component.unit.nanoseconds := by cases component.unit <;> decide
  have ten : 0 < 10 ^ component.fraction.length := Nat.pow_pos (by decide)
  have none : (-(component.fraction.length : Int)).toNat = 0 := by omega
  refine atLeast_seconds fitsBits_overHalf shown some enough ?_
  rw [Component.LastsMicrosecond] at lasts
  generalize Number.digitsValue 10 (component.whole ++ component.fraction) = digits at lasts ⊢
  have positive : 0 < digits := by
    refine Nat.pos_of_ne_zero ?_
    rintro rfl
    omega
  rw [Number.Binary64.ofDecimal_eq_ofRatio positive, none, Int.neg_neg, Int.toNat_natCast,
    Nat.pow_zero, Nat.mul_one, Number.Binary64.ofRatio]
  refine Number.Binary64.atLeast_ofQuanta fits ten (Nat.le_of_mul_le_mul_right ?_ each)
  calc least * 10 ^ component.fraction.length * component.unit.nanoseconds
      = least * component.unit.nanoseconds * 10 ^ component.fraction.length := by ring
    _ ≤ 1000 * unit * 10 ^ component.fraction.length := Nat.mul_le_mul_right _ short
    _ = 1000 * 10 ^ component.fraction.length * unit := by ring
    _ ≤ digits * component.unit.nanoseconds * unit := Nat.mul_le_mul_right unit lasts
    _ = digits * unit * component.unit.nanoseconds := by ring

end Components

section Sums

variable {component : Component} {components : List Component} {start : Number.Binary64}

theorem isNumber_foldl (isNumber : IsNumber start) (components : List Component) :
    IsNumber (components.foldl (fun total component => total.add component.seconds) start) := by
  induction components generalizing start with
  | nil => exact isNumber
  | cons component components ih => exact ih (isNumber.add component.isNumber_seconds)

/-- What has been reached is kept by every further component. -/
theorem atLeast_foldl {least : Nat} (fits : Number.FitsBits 53 least)
    (reached : AtLeast least start) (components : List Component) :
    AtLeast least
      (components.foldl (fun total component => total.add component.seconds) start) := by
  induction components generalizing start with
  | nil => exact reached
  | cons component components ih =>
      exact ih (reached.add fits (Nat.le_refl least) (nonnegative_seconds component))

theorem nonnegative_totalSeconds (components : List Component) :
    AtLeast 0 (totalSeconds components) :=
  atLeast_foldl (Number.fitsBits_zero 53) (.finite (Nat.le_refl 0)) components

/-- The sum is not less than any of its components. -/
theorem atLeast_totalSeconds {least : Nat} (fits : Number.FitsBits 53 least)
    (member : component ∈ components) (atLeast : AtLeast least component.seconds) :
    AtLeast least (totalSeconds components) := by
  obtain ⟨front, back, rfl⟩ := List.append_of_mem member
  have before := nonnegative_totalSeconds front
  rw [totalSeconds] at before ⊢
  rw [List.foldl_append, List.foldl_cons]
  exact atLeast_foldl fits (before.add fits (Nat.le_of_eq (Nat.zero_add least).symm) atLeast) back

end Sums

section Accepted

variable {text : String} {span : TimeSpan} {components : List Component}

/-- A span in range is what a finite sum is rounded to. -/
theorem exists_quanta_of_ofSeconds {value : Document}
    (read : ofSeconds (totalSeconds components) value = .ok span) :
    ∃ quanta, totalSeconds components = .finite false quanta ∧ Number.FitsBits 53 quanta ∧
      span.microseconds = TimeSpan.microsecondsOfQuanta quanta := by
  have isNumber : IsNumber (totalSeconds components) :=
    isNumber_foldl (Number.Binary64.isNumber_zero false) components
  have nonnegative := nonnegative_totalSeconds components
  generalize totalSeconds components = total at *
  cases nonnegative with
  | infinite => cases read
  | @finite quanta =>
      cases isNumber with
      | finite _ fits =>
          refine ⟨quanta, rfl, fits, ?_⟩
          rw [ofSeconds, TimeSpan.ofQuanta?, TimeSpan.ofMicroseconds?] at read
          simp only [Bool.false_eq_true, if_false] at read
          split at read
          · next found inside =>
              rw [Option.ite_none_right_eq_some] at inside
              cases read
              rw [← Option.some.inj inside.2]
          · cases read

/-- A text that does not begin with a minus is read as the sum of its components. -/
theorem exists_quanta_of_read (unsigned : (Text.strip text).toList.head? ≠ some '-')
    (read : ofDocument (.text text) = .ok span) :
    ∃ quanta, totalSeconds (componentsOf text) = .finite false quanta ∧
      Number.FitsBits 53 quanta ∧
      span.microseconds = TimeSpan.microsecondsOfQuanta quanta := by
  rw [ofDocument, ofText] at read
  rw [componentsOf]
  obtain ⟨sign, rest, written, split⟩ := exists_sign (Text.trimmed text.toList)
  have noMinus : sign.isMinus = false := by
    rw [Text.toList_strip, written] at unsigned
    cases sign with
    | minus => exact absurd rfl unsigned
    | absent | plus => rfl
  rw [split] at read ⊢
  simp only [noMinus, Bool.false_eq_true, if_false] at read ⊢
  split at read
  · next zero =>
      have none := TimeSpan.microsecondsOfQuanta_whole 0
      rw [Nat.zero_mul, Nat.zero_mul] at none
      cases read
      subst zero
      exact ⟨0, rfl, Number.fitsBits_zero 53, congrArg Int.ofNat none.symm⟩
  · split at read
    · exact exists_quanta_of_ofSeconds read
    · cases read

/-- An accepted text without a minus is no negative time, and it is some time exactly
when its components sum up to more than half a microsecond. -/
theorem microseconds_pos_iff (unsigned : (Text.strip text).toList.head? ≠ some '-')
    (read : ofDocument (.text text) = .ok span) :
    0 ≤ span.microseconds ∧
      ∃ quanta, totalSeconds (componentsOf text) = .finite false quanta ∧
        (0 < span.microseconds ↔ unit < 2000000 * quanta) := by
  obtain ⟨quanta, total, fits, size⟩ := exists_quanta_of_read unsigned read
  have positive := TimeSpan.microsecondsOfQuanta_pos_iff fits
  rw [size, Int.natCast_pos]
  exact ⟨Int.natCast_nonneg _, quanta, total, positive⟩

theorem microseconds_pos_of_lastsMicrosecond
    (unsigned : (Text.strip text).toList.head? ≠ some '-')
    (read : ofDocument (.text text) = .ok span) {component : Component}
    (member : component ∈ componentsOf text) (lasts : component.LastsMicrosecond) :
    0 < span.microseconds := by
  obtain ⟨-, quanta, total, positive⟩ := microseconds_pos_iff unsigned read
  have atLeast := atLeast_totalSeconds fitsBits_overHalf member (atLeast_of_lastsMicrosecond lasts)
  rw [total] at atLeast
  cases atLeast with
  | finite enough =>
      have above : unit < 2000000 * overHalf := by decide +kernel
      exact positive.mpr (above.trans_le (Nat.mul_le_mul_left 2000000 enough))

end Accepted

end RelayPool.Duration
