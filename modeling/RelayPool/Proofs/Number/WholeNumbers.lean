import RelayPool.Proofs.Number.DecimalReading

/-!
# Whole numbers in binary

Sums and products of whole numbers are exact as long as they need 53 bits at most.
Beyond that they are rounded, but never to less than `2 ^ 53`, so what is exact and
what is beyond can always be told apart.
-/

namespace RelayPool.Number

section Rounding

variable {numerator denominator least quanta : Nat}

/-- A number that fits into 53 bits is its own rounding. -/
theorem roundToBits_mul_self (fits : FitsBits 53 quanta) (positive : 0 < denominator) :
    roundToBits 53 (quanta * denominator) denominator = quanta := by
  rcases Nat.eq_zero_or_pos quanta with rfl | some
  · exact roundToBits_of_small (by omega)
  · have room : 0 < quanta * denominator := Nat.mul_pos some positive
    exact roundToBits_eq_of_near fits (by omega) (by omega)

/-- A number of 53 bits that is not below `2 ^ 52` units of a scale is made of them. -/
theorem FitsBits.dvd_of_le {shift : Nat} (fits : FitsBits 53 quanta)
    (large : 2 ^ 52 * 2 ^ shift ≤ quanta) : 2 ^ shift ∣ quanta := by
  obtain ⟨significand, own, small, rfl⟩ := fits
  by_cases coarse : shift ≤ own
  · exact Dvd.dvd.mul_left (Nat.pow_dvd_pow 2 coarse) significand
  · exfalso
    have finer : 2 ^ (own + 1) ≤ 2 ^ shift := Nat.pow_le_pow_right (by decide) (by omega)
    have most : significand * 2 ^ own < 2 ^ 53 * 2 ^ own :=
      Nat.mul_lt_mul_of_pos_right small (Nat.two_pow_pos own)
    have same : 2 ^ 53 * 2 ^ own = 2 ^ 52 * 2 ^ (own + 1) := by ring
    omega

/-- A quotient is not rounded below a number of 53 bits that it reaches. -/
theorem le_roundToBits (fits : FitsBits 53 least) (positive : 0 < denominator)
    (enough : least * denominator ≤ numerator) : least ≤ roundToBits 53 numerator denominator := by
  have reached : least ≤ numerator / denominator := (Nat.le_div_iff_mul_le positive).mpr enough
  have large (some : 0 < excessBits 53 numerator denominator) :
      2 ^ 52 * 2 ^ excessBits 53 numerator denominator ≤ numerator / denominator :=
    le_div_of_excessBits_pos some
  have rounded := div_le_roundHalfEven numerator
    (denominator * 2 ^ excessBits 53 numerator denominator)
  rw [← Nat.div_div_eq_div_mul] at rounded
  rw [roundToBits_eq]
  generalize roundHalfEven _ _ = result at rounded ⊢
  generalize excessBits 53 numerator denominator = shift at large rounded ⊢
  generalize numerator / denominator = quotient at reached large rounded
  have unit : 0 < 2 ^ shift := Nat.two_pow_pos shift
  -- Either the bound lies on the scale itself, or it is below all that does.
  by_cases coarse : 2 ^ 52 * 2 ^ shift ≤ least
  · obtain ⟨units, rfl⟩ := fits.dvd_of_le coarse
    rw [Nat.mul_comm]
    refine Nat.mul_le_mul_right _ (le_trans ?_ rounded)
    rwa [Nat.le_div_iff_mul_le unit, Nat.mul_comm]
  · rcases Nat.eq_zero_or_pos shift with rfl | some
    · simpa using reached.trans (by simpa using rounded)
    · have many : 2 ^ 52 ≤ result :=
        le_trans ((Nat.le_div_iff_mul_le unit).mpr (large some)) rounded
      exact (Nat.lt_of_not_le coarse).le.trans (Nat.mul_le_mul_right _ many)

end Rounding

namespace Binary64

/-- A number that is positive or zero and not below a count of quanta. -/
inductive AtLeast (least : Nat) : Binary64 → Prop
  | infinite : AtLeast least (.infinite false)
  | finite {quanta : Nat} (enough : least ≤ quanta) : AtLeast least (.finite false quanta)

/-- A number that holds a count: the count itself where 53 bits suffice, and not
less than the first count that needs more of them otherwise. -/
inductive Holds : Binary64 → Nat → Prop
  | exact {count : Nat} (small : count < 2 ^ 53) : Holds (.finite false (count * unit)) count
  | beyond {number : Binary64} {count : Nat} (large : 2 ^ 53 ≤ count)
      (atLeast : AtLeast (2 ^ 53 * unit) number) : Holds number count

section Operations

variable {number other : Binary64} {count more least first second : Nat}

theorem unit_eq : unit = 2 ^ 1074 := by decide +kernel

theorem fitsBits_mul_unit (small : count < 2 ^ 53) : FitsBits 53 (count * unit) :=
  ⟨count, 1074, small, congrArg (count * ·) unit_eq⟩

theorem fitsBits_limit : FitsBits 53 (2 ^ 53 * unit) :=
  ⟨1, 1127, by decide, by decide +kernel⟩

theorem mul_unit_lt_overflow (small : count < 2 ^ 53) : count * unit < overflow :=
  calc count * unit
      < 2 ^ 53 * unit := Nat.mul_lt_mul_of_pos_right small unit_pos
    _ < overflow := by decide +kernel

theorem ofQuanta_exact {negative : Bool} {quanta denominator : Nat} (fits : FitsBits 53 quanta)
    (bounded : quanta < overflow) (positive : 0 < denominator) :
    ofQuanta negative (quanta * denominator) denominator = .finite negative quanta := by
  rw [ofQuanta, roundToBits_mul_self fits positive, if_pos bounded]

theorem atLeast_ofQuanta {numerator denominator : Nat} (fits : FitsBits 53 least)
    (positive : 0 < denominator) (enough : least * denominator ≤ numerator) :
    AtLeast least (ofQuanta false numerator denominator) := by
  rw [ofQuanta]
  split
  · exact .finite (le_roundToBits fits positive enough)
  · exact .infinite

theorem holds_ofQuanta {denominator : Nat} (positive : 0 < denominator) (count : Nat) :
    Holds (ofQuanta false (count * unit * denominator) denominator) count := by
  by_cases small : count < 2 ^ 53
  · rw [ofQuanta_exact (fitsBits_mul_unit small) (mul_unit_lt_overflow small) positive]
    exact .exact small
  · refine .beyond (Nat.le_of_not_lt small) (atLeast_ofQuanta fitsBits_limit positive ?_)
    exact Nat.mul_le_mul_right _ (Nat.mul_le_mul_right _ (Nat.le_of_not_lt small))

theorem AtLeast.add (fits : FitsBits 53 least) (enough : least ≤ first + second)
    (atLeast : AtLeast first number) (atLeastToo : AtLeast second other) :
    AtLeast least (number.add other) := by
  cases atLeast with
  | infinite => cases atLeastToo <;> exact .infinite
  | finite some =>
      cases atLeastToo with
      | infinite => exact .infinite
      | finite someToo =>
          rw [Binary64.add, if_pos rfl]
          exact atLeast_ofQuanta fits Nat.one_pos (by omega)

theorem AtLeast.mul (fits : FitsBits 53 least) (positive : 0 < second)
    (enough : least * unit ≤ first * second) (atLeast : AtLeast first number) :
    AtLeast least (number.mul (.finite false second)) := by
  cases atLeast with
  | infinite =>
      rw [Binary64.mul, if_neg positive.ne']
      exact .infinite
  | finite some =>
      rw [Binary64.mul, bne_self_eq_false]
      exact atLeast_ofQuanta fits unit_pos (enough.trans (Nat.mul_le_mul_right second some))

theorem Holds.nonnegative (holds : Holds number count) : AtLeast 0 number := by
  cases holds with
  | exact => exact .finite (Nat.zero_le _)
  | beyond large atLeast =>
      cases atLeast with
      | infinite => exact .infinite
      | finite => exact .finite (Nat.zero_le _)

theorem Holds.eq_exact (holds : Holds number count) (small : count < 2 ^ 53) :
    number = .finite false (count * unit) := by
  cases holds with
  | exact => rfl
  | beyond large => omega

theorem Holds.add (holds : Holds number count) (holdsToo : Holds other more) :
    Holds (number.add other) (count + more) := by
  cases holds with
  | exact small =>
      cases holdsToo with
      | exact smallToo =>
          have exact := holds_ofQuanta Nat.one_pos (count + more)
          rw [Nat.mul_one, Nat.add_mul] at exact
          rwa [Binary64.add, if_pos rfl]
      | beyond large atLeast =>
          have nonnegative := (Holds.exact small).nonnegative
          exact .beyond (by omega) (nonnegative.add fitsBits_limit (by omega) atLeast)
  | beyond large atLeast =>
      exact .beyond (by omega) (atLeast.add fitsBits_limit (by omega) holdsToo.nonnegative)

theorem Holds.mul {factor : Nat} (holds : Holds number count) (positive : 0 < factor) :
    Holds (number.mul (.finite false (factor * unit))) (count * factor) := by
  cases holds with
  | exact small =>
      have exact := holds_ofQuanta unit_pos (count * factor)
      have regrouped : count * factor * unit * unit = count * unit * (factor * unit) := by ring
      rw [regrouped] at exact
      rwa [Binary64.mul, bne_self_eq_false]
  | beyond large atLeast =>
      have room : 0 < factor * unit := Nat.mul_pos positive unit_pos
      have unchanged : unit ≤ factor * unit := Nat.le_mul_of_pos_left _ positive
      refine .beyond (large.trans (Nat.le_mul_of_pos_right _ positive)) ?_
      exact atLeast.mul fitsBits_limit room (Nat.mul_le_mul_left _ unchanged)

theorem holds_zero : Holds (.finite false 0) 0 := by
  have exact : Holds (.finite false (0 * unit)) 0 := .exact (by decide)
  rwa [Nat.zero_mul] at exact

theorem holds_ofDecimal (count : Nat) : Holds (ofDecimal false count 0) count := by
  rcases Nat.eq_zero_or_pos count with rfl | positive
  · exact holds_zero
  · have exact := holds_ofQuanta Nat.one_pos count
    rw [ofDecimal_eq_ofRatio positive, ofRatio]
    simpa using exact

theorem ofInt_natCast (small : count < 2 ^ 53) : ofInt count = .finite false (count * unit) := by
  have exact : ofQuanta false (count * unit * 1) 1 = .finite false (count * unit) :=
    ofQuanta_exact (fitsBits_mul_unit small) (mul_unit_lt_overflow small) Nat.one_pos
  rw [Nat.mul_one] at exact
  rw [ofInt, ofRatio, decide_eq_false (by omega), Int.natAbs_natCast, exact]

end Operations

end Binary64

end RelayPool.Number
