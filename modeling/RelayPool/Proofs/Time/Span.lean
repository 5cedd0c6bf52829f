import RelayPool.Proofs.Number.RoundingBounds
import RelayPool.Number.Numeral
import RelayPool.Time.Span

/-!
# Spans of whole seconds

A whole number of seconds becomes a span without any rounding, and the range of
spans, which is told in days rounded down, is longer by most of a day above than it
is below.
-/

namespace RelayPool.TimeSpan

open Number Number.Binary64

/-- The range of spans in microseconds. -/
theorem inRange_iff (span : TimeSpan) :
    span.inRange ↔
      -(dayLimit * perDay : Int) ≤ span.microseconds ∧
        span.microseconds < (dayLimit + 1) * perDay := by
  have positive : (0 : Int) ≤ perDay := Int.natCast_nonneg _
  rw [inRange, days, decide_eq_true_eq, Int.fdiv_eq_ediv_of_nonneg _ positive]
  simp only [dayLimit, perDay, perSecond]
  omega

/-- A count of seconds that makes a span. -/
def SecondsFit (seconds : Int) : Prop :=
  -(999999999 * 86400) ≤ seconds ∧ seconds ≤ 999999999 * 86400 + 86399

instance (seconds : Int) : Decidable (SecondsFit seconds) :=
  inferInstanceAs (Decidable (_ ∧ _))

theorem inRange_iff_secondsFit (seconds : Int) :
    (⟨seconds * perSecond⟩ : TimeSpan).inRange ↔ SecondsFit seconds := by
  rw [inRange_iff, SecondsFit]
  simp only [dayLimit, perDay, perSecond]
  omega

theorem ofWholeSeconds?_of_fit {seconds : Int} (fit : SecondsFit seconds) :
    ofWholeSeconds? seconds = some ⟨seconds * perSecond⟩ := by
  rw [ofWholeSeconds?, ofMicroseconds?, if_pos ((inRange_iff_secondsFit seconds).mpr fit)]

theorem ofWholeSeconds?_of_not_fit {seconds : Int} (misfit : ¬ SecondsFit seconds) :
    ofWholeSeconds? seconds = none := by
  rw [ofWholeSeconds?, ofMicroseconds?, if_neg (mt (inRange_iff_secondsFit seconds).mp misfit)]

section Quanta

variable {quanta : Nat}

theorem microsecondsOfQuanta_eq (quanta : Nat) :
    microsecondsOfQuanta quanta =
      roundHalfEven
        (quanta / unit * perSecond * unit + roundToBits 53 (quanta % unit * perSecond) 1) unit :=
  rfl

theorem microsecondsOfQuanta_whole (count : Nat) :
    microsecondsOfQuanta (count * unit) = count * perSecond := by
  have some := unit_pos
  have fraction : roundToBits 53 (0 * perSecond) 1 = 0 := roundToBits_of_small (by decide)
  have nearest : roundHalfEven (count * perSecond * unit) unit = count * perSecond :=
    roundHalfEven_eq_of_near (by omega) (by omega)
  rw [microsecondsOfQuanta_eq, Nat.mul_div_cancel _ some, Nat.mul_mod_left, fraction,
    Nat.add_zero, nearest]

theorem le_microsecondsOfQuanta (quanta : Nat) :
    quanta / unit * perSecond ≤ microsecondsOfQuanta quanta := by
  rw [microsecondsOfQuanta_eq]
  refine le_trans ?_ (div_le_roundHalfEven _ _)
  rw [Nat.le_div_iff_mul_le unit_pos]
  exact Nat.le_add_right _ _

/-- The fraction of a second adds its microseconds at most. -/
theorem microsecondsOfQuanta_le {most : Nat} (few : most < 2 ^ 53)
    (bounded : quanta % unit * perSecond ≤ most * unit) :
    microsecondsOfQuanta quanta ≤ quanta / unit * perSecond + most := by
  have scaled : roundToBits 53 (quanta % unit * perSecond) 1 ≤ most * unit :=
    roundToBits_le (fitsBits_mul_unit few) Nat.one_pos (by rwa [Nat.mul_one])
  rw [microsecondsOfQuanta_eq]
  refine roundHalfEven_le_of_le unit_pos ?_
  rw [Nat.add_mul]
  exact Nat.add_le_add_left scaled _

theorem microsecondsOfQuanta_le_of_le {count : Nat} (bounded : quanta ≤ count * unit) :
    microsecondsOfQuanta quanta ≤ count * perSecond := by
  rcases Nat.lt_or_eq_of_le bounded with below | same
  · have whole : quanta / unit < count := (Nat.div_lt_iff_lt_mul unit_pos).mpr below
    have fraction := Nat.mul_le_mul_left perSecond (Nat.mod_lt quanta unit_pos).le
    rw [Nat.mul_comm perSecond (quanta % unit)] at fraction
    have each := microsecondsOfQuanta_le (by decide) fraction
    rw [← Nat.succ_mul] at each
    exact each.trans (Nat.mul_le_mul_right perSecond whole)
  · rw [same, microsecondsOfQuanta_whole]

/-- What is a few thousandths of a second below a count of seconds is not rounded up
to it. -/
theorem microsecondsOfQuanta_lt {count : Nat} (positive : 0 < count)
    (apart : 512 * quanta + 3 * unit ≤ 512 * (count * unit)) :
    microsecondsOfQuanta quanta < count * perSecond := by
  obtain ⟨before, rfl⟩ : ∃ before, count = before + 1 := ⟨count - 1, by omega⟩
  have some := unit_pos
  have split := Nat.div_add_mod' quanta unit
  rw [Nat.succ_mul before] at apart ⊢
  have below : quanta / unit < before + 1 := by
    rw [Nat.div_lt_iff_lt_mul unit_pos, Nat.succ_mul before]
    omega
  rcases Nat.lt_or_eq_of_le (Nat.le_of_lt_succ below) with early | last
  · have bounded := ((Nat.div_lt_iff_lt_mul unit_pos).mp early).le
    exact (microsecondsOfQuanta_le_of_le bounded).trans_lt (Nat.lt_add_of_pos_right (by decide))
  · rw [last] at split
    have fraction : quanta % unit * perSecond ≤ 999999 * unit := by
      simp only [perSecond]
      omega
    have each := microsecondsOfQuanta_le (by decide) fraction
    rw [last] at each
    exact each.trans_lt (Nat.add_lt_add_left (by decide) _)

/-- A whole number of seconds is taken as it is. -/
theorem ofQuanta?_whole (negative : Bool) (count : Nat) :
    ofQuanta? negative (count * unit) = ofWholeSeconds? (signed negative count) := by
  rw [ofQuanta?, microsecondsOfQuanta_whole, ofWholeSeconds?, signed]
  cases negative <;> simp

/-- What needs more than 53 bits is far out of range. -/
theorem ofQuanta?_of_large (negative : Bool) (large : 2 ^ 53 * unit ≤ quanta) :
    ofQuanta? negative quanta = none := by
  have many := le_microsecondsOfQuanta quanta
  have whole : 2 ^ 53 ≤ quanta / unit := (Nat.le_div_iff_mul_le unit_pos).mpr large
  have outside : ¬ (⟨if negative then -(microsecondsOfQuanta quanta : Int)
      else microsecondsOfQuanta quanta⟩ : TimeSpan).inRange := by
    rw [inRange_iff]
    simp only [dayLimit, perDay, perSecond] at many ⊢
    cases negative with
    | false =>
        simp only [Bool.false_eq_true, if_false]
        omega
    | true =>
        simp only [if_true]
        omega
  simp only [ofQuanta?, ofMicroseconds?, if_neg outside]

/-- A product with the microseconds in a second stays above a half. -/
theorem half_lt_roundToBits (fits : FitsBits 53 quanta) (enough : unit < 2000000 * quanta) :
    2 ^ 1073 < roundToBits 53 (quanta * perSecond) 1 := by
  have unit_split : unit = 2 ^ 73 * 2 ^ 1001 := by decide +kernel
  have half_split : 2 ^ 1073 = 2 ^ 72 * 2 ^ 1001 := by decide +kernel
  have last_split : 2 ^ 1021 = 2 ^ 20 * 2 ^ 1001 := by decide +kernel
  have one_split : 2 ^ (53 + 1021) = 2 ^ 73 * 2 ^ 1001 := by decide +kernel
  have divides : 2 ^ 1001 ∣ quanta := fits.dvd_of_le (by omega)
  by_cases large : 2 ^ (53 + 1021) ≤ quanta * perSecond
  · have reached : 2 ^ (53 + 1021) ≤ roundToBits 53 (quanta * perSecond) 1 :=
      le_roundToBits ⟨1, 53 + 1021, by decide, (Nat.one_mul _).symm⟩ Nat.one_pos
        (by rwa [Nat.mul_one])
    omega
  · have small : quanta * perSecond < 2 ^ (53 + 1021) * 1 := by omega
    have error := (roundToBits_error Nat.one_pos small).2
    obtain ⟨pieces, same⟩ := divides
    -- The first number above half a microsecond is far enough from it.
    have many : 4722366482869646 ≤ pieces := by
      by_contra few
      have bound : 2 ^ 1001 * pieces ≤ 2 ^ 1001 * 4722366482869645 :=
        Nat.mul_le_mul_left _ (by omega)
      omega
    have bound : 2 ^ 1001 * 4722366482869646 ≤ 2 ^ 1001 * pieces := Nat.mul_le_mul_left _ many
    rw [perSecond] at error ⊢
    omega

/-- A number of seconds is rounded to no time up to half a microsecond. -/
theorem microsecondsOfQuanta_pos_iff (fits : FitsBits 53 quanta) :
    0 < microsecondsOfQuanta quanta ↔ unit < 2000000 * quanta := by
  have unit_split : unit = 2 * 2 ^ 1073 := by decide +kernel
  rcases Nat.lt_or_ge quanta unit with short | long
  · rw [microsecondsOfQuanta_eq, Nat.div_eq_of_lt short, Nat.mod_eq_of_lt short, Nat.zero_mul,
      Nat.zero_mul, Nat.zero_add, roundHalfEven_pos_iff unit_pos]
    constructor
    · intro above
      by_contra few
      have below : roundToBits 53 (quanta * perSecond) 1 ≤ 2 ^ 1073 := by
        refine roundToBits_le ⟨1, 1073, by decide, (Nat.one_mul _).symm⟩ Nat.one_pos ?_
        rw [perSecond]
        omega
      omega
    · intro enough
      have above := half_lt_roundToBits fits enough
      omega
  · have many := le_microsecondsOfQuanta quanta
    have whole : 0 < quanta / unit := Nat.div_pos long unit_pos
    have some := unit_pos
    rw [perSecond] at many
    exact iff_of_true (by omega) (by omega)

/-- What is below the end of the range above, and not beyond it below, is a span. -/
theorem exists_ofQuanta? {negative : Bool}
    (above : microsecondsOfQuanta quanta < 86400000000000 * perSecond)
    (below : negative → microsecondsOfQuanta quanta ≤ 86399999913600 * perSecond) :
    ∃ span, ofQuanta? negative quanta = some span := by
  have inside : (⟨if negative then -(microsecondsOfQuanta quanta : Int)
      else microsecondsOfQuanta quanta⟩ : TimeSpan).inRange := by
    rw [inRange_iff]
    simp only [dayLimit, perDay, perSecond] at above below ⊢
    cases negative with
    | false =>
        simp only [Bool.false_eq_true, if_false]
        omega
    | true =>
        have most := below rfl
        simp only [if_true]
        omega
  rw [ofQuanta?, ofMicroseconds?, if_pos inside]
  exact ⟨_, rfl⟩

end Quanta

end RelayPool.TimeSpan
