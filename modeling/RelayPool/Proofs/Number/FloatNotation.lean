import RelayPool.Proofs.Number.DecimalDigits
import RelayPool.Proofs.Number.ShortestDigits

/-!
# Texts of floating point numbers

The text of a floating point number is read as that number, wherever the point and
the exponent stand in it.
-/

namespace RelayPool.Number

section Parts

variable {digits : List Char} (rest : List Char)

/-- Digits are split off up to what is no digit. -/
theorem splitDigits_append (allDigits : ∀ digit ∈ digits, digit.isDigit)
    (stops : ∀ next ∈ rest.head?, Text.isDecimalDigit next = false) :
    splitDigits (digits ++ rest) = (digits, rest) :=
  splitDigits_decimal (fun digit member => isDecimalDigit_of_isDigit (allDigits digit member)) stops

theorem exists_exponentText (exponent : Int) :
    ∃ digits, exponentText exponent = (if exponent < 0 then '-' else '+') :: digits ∧
      digits ≠ [] ∧ (∀ digit ∈ digits, digit.isDigit) ∧
        Nat.ofDigitChars 10 digits 0 = exponent.natAbs := by
  have allDigits : ∀ digit ∈ Nat.toDigits 10 exponent.natAbs, digit.isDigit :=
    fun _ member => Nat.isDigit_of_mem_toDigits (by decide) (by decide) member
  have value := Nat.ofDigitChars_ten_toDigits (n := exponent.natAbs)
  refine ⟨_, rfl, ?_⟩
  split
  · exact ⟨List.cons_ne_nil _ _, List.forall_mem_cons.mpr ⟨rfl, allDigits⟩, value⟩
  · exact ⟨Nat.toDigits_ne_nil, allDigits, value⟩

/-- The exponent that is written is read. -/
theorem readExponent?_exponentText (exponent : Int) :
    readExponent? ('e' :: exponentText exponent) = some exponent := by
  obtain ⟨digits, written, nonempty, allDigits, value⟩ := exists_exponentText exponent
  have all : digits.all Text.isDecimalDigit :=
    List.all_eq_true.mpr fun digit member => isDecimalDigit_of_isDigit (allDigits digit member)
  have some : digits.isEmpty = false := List.isEmpty_eq_false_iff.mpr nonempty
  have split : splitSign ((if exponent < 0 then '-' else '+') :: digits) =
      (decide (exponent < 0), digits) := by
    by_cases below : exponent < 0 <;> simp [below, splitSign]
  have result : signed (decide (exponent < 0)) exponent.natAbs = exponent := by
    simp only [signed, decide_eq_true_eq]
    split <;> omega
  rw [written, readExponent?, split]
  simp only [all, some, digitsValue_ten allDigits, value, result]
  rfl

/-- A text of a whole part, a point with a fraction or neither, and an exponent or
none. -/
theorem readDecimal?_parts {whole : List Char} (fraction : List Char) {exponent : Int}
    (nonempty : whole ≠ []) (wholeDigits : ∀ digit ∈ whole, digit.isDigit)
    (fractionDigits : ∀ digit ∈ fraction, digit.isDigit)
    (stops : ∀ next ∈ rest.head?, Text.isDecimalDigit next = false)
    (scaled : readExponent? rest = some exponent) :
    readDecimal? false (whole ++ '.' :: (fraction ++ rest)) =
      some (.ofDecimal false (Nat.ofDigitChars 10 (whole ++ fraction) 0)
        (exponent - fraction.length)) := by
  have first : splitDigits (whole ++ '.' :: (fraction ++ rest)) =
      (whole, '.' :: (fraction ++ rest)) := by
    apply splitDigits_append _ wholeDigits
    rintro _ ⟨⟩
    rfl
  have allDigits : ∀ digit ∈ whole ++ fraction, digit.isDigit :=
    List.forall_mem_append.mpr ⟨wholeDigits, fractionDigits⟩
  rw [readDecimal?, first]
  simp only [splitDigits_append rest fractionDigits stops, scaled, digitsValue_ten allDigits]
  simp [nonempty]

theorem readDecimal?_whole {whole : List Char} {exponent : Int}
    (nonempty : whole ≠ []) (wholeDigits : ∀ digit ∈ whole, digit.isDigit)
    (stops : ∀ next ∈ rest.head?, Text.isDecimalDigit next = false ∧ next ≠ '.')
    (scaled : readExponent? rest = some exponent) :
    readDecimal? false (whole ++ rest) =
      some (.ofDecimal false (Nat.ofDigitChars 10 whole 0) exponent) := by
  have first : splitDigits (whole ++ rest) = (whole, rest) :=
    splitDigits_append rest wholeDigits fun next member => (stops next member).1
  have pointless : ∀ behind, rest ≠ '.' :: behind := by
    rintro behind rfl
    exact (stops '.' rfl).2 rfl
  rw [readDecimal?, first]
  simp [nonempty, scaled, digitsValue_ten wholeDigits]

end Parts

section Layouts

variable {digits : List Char} {quanta : Nat} {exponent : Int}

theorem stops_exponent (exponent : Int) : ∀ next ∈ ('e' :: exponentText exponent).head?,
    Text.isDecimalDigit next = false ∧ next ≠ '.' := by
  rintro _ ⟨⟩
  exact ⟨rfl, by decide⟩

/-- The first digit, the others behind a point, and the exponent. -/
theorem readDecimal?_scientific (nonempty : digits ≠ [])
    (allDigits : ∀ digit ∈ digits, digit.isDigit)
    (reads : Binary64.ofDecimal false (Nat.ofDigitChars 10 digits 0)
      (exponent - ((digits.length : Int) - 1)) = .finite false quanta) :
    readDecimal? false (digits.take 1 ++
      (if (digits.drop 1).isEmpty then [] else '.' :: digits.drop 1) ++
        'e' :: exponentText exponent) = some (.finite false quanta) := by
  obtain ⟨first, fraction, rfl⟩ := List.exists_cons_of_ne_nil nonempty
  obtain ⟨firstDigit, fractionDigits⟩ := List.forall_mem_cons.mp allDigits
  have firstDigits : ∀ digit ∈ [first], digit.isDigit := List.forall_mem_singleton.mpr firstDigit
  have scaled := readExponent?_exponentText exponent
  have stops := stops_exponent exponent
  rw [← reads]
  cases fraction with
  | nil =>
      refine (readDecimal?_whole _ (List.cons_ne_nil first []) firstDigits stops scaled).trans ?_
      simp
  | cons second others =>
      have read := readDecimal?_parts _ (second :: others) (List.cons_ne_nil first []) firstDigits
        fractionDigits (fun next member => (stops next member).1) scaled
      simpa using read

/-- Zeros in front of all digits. -/
theorem readDecimal?_fraction (places : Nat) (allDigits : ∀ digit ∈ digits, digit.isDigit)
    (reads : Binary64.ofDecimal false (Nat.ofDigitChars 10 digits 0)
      (Int.negSucc places - ((digits.length : Int) - 1)) = .finite false quanta) :
    readDecimal? false ('0' :: '.' :: (List.replicate places '0' ++ digits)) =
      some (.finite false quanta) := by
  have fractionDigits : ∀ digit ∈ List.replicate places '0' ++ digits, digit.isDigit := by
    refine List.forall_mem_append.mpr ⟨fun digit member => ?_, allDigits⟩
    rw [List.eq_of_mem_replicate member]
    rfl
  have read := readDecimal?_parts [] (List.replicate places '0' ++ digits)
    (List.cons_ne_nil '0' []) (List.forall_mem_singleton.mpr rfl) fractionDigits
    (by rintro _ ⟨⟩) rfl
  have value : Nat.ofDigitChars 10 (['0'] ++ (List.replicate places '0' ++ digits)) 0 =
      Nat.ofDigitChars 10 digits 0 := by
    simp [Nat.ofDigitChars_append, Nat.ofDigitChars_replicate_zero, Nat.ofDigitChars_cons]
  have place : (0 : Int) - ((List.replicate places '0' ++ digits).length : Int) =
      Int.negSucc places - ((digits.length : Int) - 1) := by
    simp
    omega
  rw [value, place, reads, List.append_nil] at read
  exact read

/-- Zeros behind all digits, and a point and a zero or neither. -/
theorem readDecimal?_whole_zeros (keepsPoint : Bool) (zeros : Nat) (nonempty : digits ≠ [])
    (allDigits : ∀ digit ∈ digits, digit.isDigit)
    (reads : Binary64.ofDecimal false (Nat.ofDigitChars 10 digits 0) zeros =
      .finite false quanta) :
    readDecimal? false
      (digits ++ List.replicate zeros '0' ++ (if keepsPoint then ['.', '0'] else [])) =
        some (.finite false quanta) := by
  have wholeNonempty : digits ++ List.replicate zeros '0' ≠ [] :=
    List.append_ne_nil_of_left_ne_nil nonempty _
  have wholeDigits : ∀ digit ∈ digits ++ List.replicate zeros '0', digit.isDigit := by
    refine List.forall_mem_append.mpr ⟨allDigits, fun digit member => ?_⟩
    rw [List.eq_of_mem_replicate member]
    rfl
  have value : Nat.ofDigitChars 10 (digits ++ List.replicate zeros '0') 0 =
      Nat.ofDigitChars 10 digits 0 * 10 ^ zeros := by
    rw [Nat.ofDigitChars_append, Nat.ofDigitChars_replicate_zero, Nat.mul_comm]
  cases keepsPoint with
  | false =>
      have read := readDecimal?_whole [] wholeNonempty wholeDigits (by rintro _ ⟨⟩) rfl
      rw [value, Binary64.ofDecimal_shift, Int.zero_add, reads] at read
      exact read
  | true =>
      have read := readDecimal?_parts [] ['0'] wholeNonempty wholeDigits
        (List.forall_mem_singleton.mpr rfl) (by rintro _ ⟨⟩) rfl
      have value' : Nat.ofDigitChars 10 (digits ++ List.replicate zeros '0' ++ ['0']) 0 =
          Nat.ofDigitChars 10 digits 0 * 10 ^ (zeros + 1) := by
        rw [Nat.ofDigitChars_append, value, Nat.pow_succ, ← Nat.mul_assoc, Nat.mul_comm _ 10]
        rfl
      have place : (0 : Int) - ((['0'] : List Char).length : Int) + ((zeros + 1 : Nat) : Int) =
          zeros := by
        simp
      rw [value', Binary64.ofDecimal_shift, place, reads] at read
      exact read

/-- Digits with a point among them or zeros behind them. -/
theorem readDecimal?_positional (keepsPoint : Bool) (places : Nat) (nonempty : digits ≠ [])
    (allDigits : ∀ digit ∈ digits, digit.isDigit)
    (reads : Binary64.ofDecimal false (Nat.ofDigitChars 10 digits 0)
      ((places : Int) - ((digits.length : Int) - 1)) = .finite false quanta) :
    let whole := digits.take (places + 1) ++ List.replicate (places + 1 - digits.length) '0'
    let fraction := digits.drop (places + 1)
    readDecimal? false
      (if fraction.isEmpty then whole ++ (if keepsPoint then ['.', '0'] else [])
        else whole ++ '.' :: fraction) = some (.finite false quanta) := by
  simp only
  split
  · next none =>
      have short : digits.length ≤ places + 1 :=
        List.drop_eq_nil_iff.mp (List.isEmpty_iff.mp none)
      have place : (places : Int) - ((digits.length : Int) - 1) =
          ((places + 1 - digits.length : Nat) : Int) := by omega
      rw [place] at reads
      rw [List.take_of_length_le short]
      exact readDecimal?_whole_zeros keepsPoint _ nonempty allDigits reads
  · next some =>
      have long : places + 1 < digits.length := by
        by_contra short
        exact some (List.isEmpty_iff.mpr (List.drop_eq_nil_iff.mpr (by omega)))
      have noZeros : places + 1 - digits.length = 0 := by omega
      have wholeNonempty : digits.take (places + 1) ≠ [] := by
        simp [nonempty]
      have read := readDecimal?_parts [] (digits.drop (places + 1)) wholeNonempty
        (fun digit member => allDigits digit (List.mem_of_mem_take member))
        (fun digit member => allDigits digit (List.mem_of_mem_drop member))
        (by rintro _ ⟨⟩) rfl
      have place : (0 : Int) - ((digits.drop (places + 1)).length : Int) =
          (places : Int) - ((digits.length : Int) - 1) := by
        rw [List.length_drop]
        omega
      rw [List.take_append_drop, place, reads, List.append_nil] at read
      rw [noZeros, List.replicate_zero, List.append_nil]
      exact read

/-- Digits are read back from every layout. -/
theorem readDecimal?_write {number : Digits} (layout : Layout) (readAs : number.ReadAs quanta) :
    readDecimal? false (layout.write number) = some (.finite false quanta) := by
  obtain ⟨nonempty, allDigits, reads⟩ := readAs
  obtain ⟨digits, exponent⟩ := number
  simp only at nonempty allDigits reads
  rw [Layout.write]
  simp only
  split
  · exact readDecimal?_scientific nonempty allDigits reads
  · split
    · exact readDecimal?_fraction _ allDigits reads
    · exact readDecimal?_positional layout.keepsPoint _ nonempty allDigits reads

end Layouts

section Characters

variable {number : Digits}

/-- The characters of a text of a finite number without its sign. -/
def IsFloatCharacter (character : Char) : Prop :=
  character.isDigit ∨ character ∈ ['.', 'e', '+', '-']

theorem isFloatCharacter_of_mem_write (layout : Layout)
    (allDigits : ∀ digit ∈ number.digits, digit.isDigit) :
    ∀ character ∈ layout.write number, IsFloatCharacter character := by
  have inDigits : ∀ digit ∈ number.digits, IsFloatCharacter digit :=
    fun digit member => .inl (allDigits digit member)
  have inTake (count : Nat) : ∀ digit ∈ number.digits.take count, IsFloatCharacter digit :=
    fun digit member => inDigits digit (List.mem_of_mem_take member)
  have inDrop (count : Nat) : ∀ digit ∈ number.digits.drop count, IsFloatCharacter digit :=
    fun digit member => inDigits digit (List.mem_of_mem_drop member)
  have inZeros (count : Nat) : ∀ digit ∈ List.replicate count '0', IsFloatCharacter digit :=
    fun digit member => .inl (by rw [List.eq_of_mem_replicate member]; rfl)
  have inExponent : ∀ character ∈ 'e' :: exponentText number.exponent,
      IsFloatCharacter character := by
    obtain ⟨digits, written, -, exponentDigits, -⟩ := exists_exponentText number.exponent
    rw [written]
    refine List.forall_mem_cons.mpr ⟨.inr (by decide), List.forall_mem_cons.mpr ⟨?_, ?_⟩⟩
    · split <;> exact .inr (by decide)
    · exact fun digit member => .inl (exponentDigits digit member)
  have point : IsFloatCharacter '.' := .inr (by decide)
  have zero : IsFloatCharacter '0' := .inl rfl
  rw [Layout.write]
  simp only
  split
  · refine List.forall_mem_append.mpr ⟨List.forall_mem_append.mpr ⟨inTake 1, ?_⟩, inExponent⟩
    split
    · exact List.forall_mem_nil _
    · exact List.forall_mem_cons.mpr ⟨point, inDrop 1⟩
  · split
    · next places _ =>
        exact List.forall_mem_cons.mpr ⟨zero, List.forall_mem_cons.mpr
          ⟨point, List.forall_mem_append.mpr ⟨inZeros places, inDigits⟩⟩⟩
    · next places _ =>
        have inWhole := List.forall_mem_append.mpr
          ⟨inTake (places + 1), inZeros (places + 1 - number.digits.length)⟩
        split
        · refine List.forall_mem_append.mpr ⟨inWhole, ?_⟩
          split
          · exact List.forall_mem_cons.mpr ⟨point, List.forall_mem_singleton.mpr zero⟩
          · exact List.forall_mem_nil _
        · exact List.forall_mem_append.mpr
            ⟨inWhole, List.forall_mem_cons.mpr ⟨point, inDrop (places + 1)⟩⟩

theorem exists_write_eq_cons (layout : Layout) (nonempty : number.digits ≠ [])
    (allDigits : ∀ digit ∈ number.digits, digit.isDigit) :
    ∃ first rest, layout.write number = first :: rest ∧ first.isDigit := by
  obtain ⟨first, others, split⟩ := List.exists_cons_of_ne_nil nonempty
  have isDigit : first.isDigit := allDigits first (by rw [split]; exact List.mem_cons_self)
  rw [Layout.write]
  simp only [split]
  split
  · exact ⟨first, _, rfl, isDigit⟩
  · split
    · exact ⟨'0', _, rfl, rfl⟩
    · split
      · exact ⟨first, _, rfl, isDigit⟩
      · exact ⟨first, _, rfl, isDigit⟩

theorem not_isMargin_of_isFloatCharacter {character : Char}
    (isFloat : IsFloatCharacter character) : isMargin character = false := by
  rcases isFloat with isDigit | marks
  · exact not_isMargin_of_isDigit isDigit
  · simp only [List.mem_cons, List.not_mem_nil, or_false] at marks
    rcases marks with rfl | rfl | rfl | rfl <;> rfl

end Characters

section Reading

variable {number : Digits} {quanta : Nat}

theorem toLower_of_isDigit {digit : Char} (isDigit : digit.isDigit) : digit.toLower = digit := by
  have bounds := toNat_of_isDigit isDigit
  unfold Char.toLower
  rw [dif_neg]
  rintro ⟨capital, -⟩
  have beyond : 65 ≤ digit.toNat := UInt32.le_iff_toNat_le.mp capital
  omega

/-- Digits are read as their number from the text in any layout. -/
theorem readFloat_write (layout : Layout) (readAs : number.ReadAs quanta) :
    readFloat (String.ofList (layout.write number)) = .ok (.finite false quanta) := by
  have read := readDecimal?_write layout readAs
  have marginless := withoutMargins_eq_self fun character member =>
    not_isMargin_of_isFloatCharacter
      (isFloatCharacter_of_mem_write layout readAs.allDigits character member)
  obtain ⟨first, rest, written, isDigit⟩ :=
    exists_write_eq_cons layout readAs.nonempty readAs.allDigits
  rw [written] at read marginless ⊢
  have noWord {letter : Char} (letters : List Char) (other : letter.isDigit = false) :
      String.ofList (lowerAscii (first :: rest)) ≠ String.ofList (letter :: letters) := by
    intro same
    have heads := (List.cons.inj (String.ofList_inj.mp same)).1
    rw [toLower_of_isDigit isDigit] at heads
    rw [← heads, isDigit] at other
    cases other
  have notInf := noWord ['n', 'f'] (rfl : 'i'.isDigit = false)
  have notInfinity := noWord ['n', 'f', 'i', 'n', 'i', 't', 'y'] (rfl : 'i'.isDigit = false)
  have notNan := noWord ['a', 'n'] (rfl : 'n'.isDigit = false)
  rw [readFloat, String.toList_ofList, marginless, splitSign_of_isDigit isDigit]
  simp only [read]
  rw [if_neg, if_neg]
  · exact notNan
  · rintro (word | word)
    · exact notInf word
    · exact notInfinity word

end Reading

end RelayPool.Number
