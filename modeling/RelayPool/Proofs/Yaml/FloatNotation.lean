import RelayPool.Proofs.Log.Outcome
import RelayPool.Proofs.Number.FloatNotation
import RelayPool.Yaml.Scalar

/-!
# Plain scalars that are floating point numbers

A plain scalar may write a floating point number in many ways.  What it writes is
a number, and the text of that number writes it again.
-/

namespace RelayPool

section Lowercase

variable {character : Char}

theorem lowercaseOf_of_lt (small : character.toNat < 65) :
    Text.lowercaseOf character = [character] := by
  have capitals : ∀ run ∈ Text.capitalRuns, 65 ≤ run.first := by decide +kernel
  have none : Text.capitalRuns.find? (fun run => run.holds character.toNat) = none := by
    refine List.find?_eq_none.mpr fun run member holds => ?_
    have first := capitals run member
    simp only [Text.CapitalRun.holds, Bool.and_eq_true, decide_eq_true_eq] at holds
    omega
  rw [Text.lowercaseOf, none, if_neg (by omega)]

theorem lowercaseOf_of_isFloatCharacter (isFloat : Number.IsFloatCharacter character) :
    character ≠ 'Σ' ∧ Text.lowercaseOf character = [character] := by
  rcases isFloat with isDigit | marks
  · have bounds := Number.toNat_of_isDigit isDigit
    refine ⟨?_, lowercaseOf_of_lt (by omega)⟩
    rintro rfl
    cases isDigit
  · simp only [List.mem_cons, List.not_mem_nil, or_false] at marks
    rcases marks with rfl | rfl | rfl | rfl
    · exact ⟨by decide, lowercaseOf_of_lt (by decide)⟩
    · exact ⟨by decide, by decide +kernel⟩
    · exact ⟨by decide, lowercaseOf_of_lt (by decide)⟩
    · exact ⟨by decide, lowercaseOf_of_lt (by decide)⟩

theorem lowercaseBehind_eq_self {text : List Char}
    (characters : ∀ character ∈ text, Number.IsFloatCharacter character) (before : List Char) :
    Text.lowercaseBehind before text = text := by
  induction text generalizing before with
  | nil => rfl
  | cons character rest ih =>
      obtain ⟨isFloat, others⟩ := List.forall_mem_cons.mp characters
      obtain ⟨noSigma, same⟩ := lowercaseOf_of_isFloatCharacter isFloat
      rw [Text.lowercaseBehind, if_neg noSigma, same, ih others, List.singleton_append]

end Lowercase

namespace Yaml.Scalar

open Log Number

section Texts

variable {text : List Char}

theorem withoutMarks_eq_self (markless : '_' ∉ text) : withoutMarks text = text := by
  rw [withoutMarks, List.filter_eq_self]
  intro character member
  rw [decide_eq_true_eq]
  rintro rfl
  exact markless member

theorem not_mem_of_isFloatCharacter
    (characters : ∀ character ∈ text, IsFloatCharacter character) :
    '_' ∉ text ∧ ':' ∉ text := by
  constructor
  all_goals
    intro member
    rcases characters _ member with isDigit | marks
    · cases isDigit
    · revert marks
      decide

variable {number : Digits} {quanta : Nat}

/-- The text of a finite number writes it again. -/
theorem float_of_readAs (readAs : number.ReadAs quanta) (negative : Bool) :
    float ((if negative then "-" else "") ++ String.ofList (Layout.plain.write number)) =
      .ok (.finite negative quanta) := by
  have read := readFloat_write Layout.plain readAs
  have characters := isFloatCharacter_of_mem_write Layout.plain readAs.allDigits
  obtain ⟨first, rest, written, isDigit⟩ :=
    exists_write_eq_cons Layout.plain readAs.nonempty readAs.allDigits
  rw [written] at read characters ⊢
  have colonless := (not_mem_of_isFloatCharacter characters).2
  have unsigned := splitSign_of_isDigit isDigit rest
  have parts : floatParts ((if negative then "-" else "") ++ String.ofList (first :: rest)) =
      .ok (negative, first :: rest) := by
    cases negative with
    | false =>
        have whole : ("" ++ String.ofList (first :: rest)).toList = first :: rest := by simp
        have markless := (not_mem_of_isFloatCharacter characters).1
        rw [floatParts, if_neg (by decide), whole, withoutMarks_eq_self markless, Text.lowercase,
          lowercaseBehind_eq_self characters, Scalar.splitSign, if_neg (by simp), unsigned]
    | true =>
        have whole : ("-" ++ String.ofList (first :: rest)).toList = '-' :: first :: rest := by
          simp
        have signed : ∀ character ∈ '-' :: first :: rest, IsFloatCharacter character :=
          List.forall_mem_cons.mpr ⟨.inr (by decide), characters⟩
        have markless := (not_mem_of_isFloatCharacter signed).1
        rw [floatParts, if_pos rfl, whole, withoutMarks_eq_self markless, Text.lowercase,
          lowercaseBehind_eq_self signed, Scalar.splitSign, if_neg (by simp)]
        rfl
  have named (letters : List Char) : first :: rest ≠ '.' :: letters := by
    rintro same
    rw [(List.cons.inj same).1] at isDigit
    cases isDigit
  have notInf : first :: rest ≠ ".inf".toList := named ['i', 'n', 'f']
  have notNan : first :: rest ≠ ".nan".toList := named ['n', 'a', 'n']
  have colonless' : (first :: rest).contains ':' = false := by simpa using colonless
  have readAgain : Scalar.readFloat (first :: rest) = .ok (.finite false quanta) := by
    rw [Scalar.readFloat, read]
    rfl
  refine bind_eq_ok_iff.mpr ⟨_, parts, ?_⟩
  simp only
  rw [if_neg notInf, if_neg notNan, colonless', readAgain]
  cases negative <;> rfl

end Texts

section Numbers

variable {number : Binary64}

theorem readAs_quantaText {quanta : Nat} (fits : FitsBits 53 quanta)
    (bounded : quanta < Binary64.overflow) :
    ∃ digits : Digits, digits.ReadAs quanta ∧
      quantaText .plain shortestDigits quanta = String.ofList (Layout.plain.write digits) := by
  rcases Nat.eq_zero_or_pos quanta with rfl | positive
  · exact ⟨⟨['0'], 0⟩, ⟨List.cons_ne_nil _ _, List.forall_mem_singleton.mpr rfl, rfl⟩, rfl⟩
  · refine ⟨shortestDigits quanta, readAs_shortestDigits positive fits bounded, ?_⟩
    rw [quantaText, if_neg positive.ne']

/-- The text of a number writes it again. -/
theorem float_text (isNumber : number.IsNumber) : float number.text = .ok number := by
  cases isNumber with
  | nan => decide +kernel
  | infinite negative => cases negative <;> decide +kernel
  | finite negative fits bounded =>
      obtain ⟨digits, readAs, written⟩ := readAs_quantaText fits bounded
      rw [Binary64.text, written]
      exact float_of_readAs readAs negative

theorem isNumber_of_readDecimal? {negative : Bool} {text : List Char}
    (read : readDecimal? negative text = some number) : number.IsNumber := by
  rw [readDecimal?] at read
  obtain ⟨-, read⟩ := Option.ite_none_left_eq_some.mp read
  obtain ⟨exponent, -, rfl⟩ := Option.map_eq_some_iff.mp read
  exact Binary64.isNumber_ofDecimal ..

theorem isNumber_of_readFloat {text : List Char} (read : Scalar.readFloat text = .ok number) :
    number.IsNumber := by
  rw [Scalar.readFloat, mapError_eq_ok_iff, Number.readFloat] at read
  simp only at read
  split at read
  · cases read
    exact .infinite _
  · split at read
    · cases read
      exact .nan
    · split at read
      · next found =>
          cases read
          exact isNumber_of_readDecimal? found
      · cases read

theorem isNumber_of_mapM_readFloat {texts : List (List Char)} {numbers : List Binary64}
    (read : texts.mapM Scalar.readFloat = .ok numbers) : ∀ number ∈ numbers, number.IsNumber := by
  induction texts generalizing numbers with
  | nil =>
      cases read
      exact List.forall_mem_nil _
  | cons text rest ih =>
      rw [List.mapM_cons] at read
      obtain ⟨first, firstRead, read⟩ := bind_eq_ok_iff.mp read
      obtain ⟨others, othersRead, result⟩ := bind_eq_ok_iff.mp read
      cases result
      exact List.forall_mem_cons.mpr ⟨isNumber_of_readFloat firstRead, ih othersRead⟩

theorem isNumber_of_addSixtieths {digits : List Binary64} {total : Binary64} {scale : Int}
    (start : total.IsNumber) (each : ∀ digit ∈ digits, digit.IsNumber)
    (added : addSixtieths total scale digits = .ok number) : number.IsNumber := by
  induction digits generalizing total scale with
  | nil =>
      cases added
      exact start
  | cons digit rest ih =>
      obtain ⟨first, others⟩ := List.forall_mem_cons.mp each
      have worth := Binary64.isNumber_ofInt scale
      rw [addSixtieths] at added
      split at added
      · cases added
      · exact ih (start.add (first.mul worth)) others added

/-- A floating point number that a plain scalar writes is a number. -/
theorem isNumber_of_float {text : String} (read : float text = .ok number) :
    number.IsNumber := by
  obtain ⟨⟨negative, rest⟩, -, read⟩ := bind_eq_ok_iff.mp read
  have signed {number : Binary64} (isNumber : number.IsNumber) :
      (if negative then number.negate else number).IsNumber := by
    split
    · exact isNumber.negate
    · exact isNumber
  simp only at read
  split at read
  · cases read
    exact signed (.infinite false)
  · split at read
    · cases read
      exact .nan
    · split at read
      · obtain ⟨digits, digitsRead, read⟩ := bind_eq_ok_iff.mp read
        obtain ⟨total, added, result⟩ := bind_eq_ok_iff.mp read
        cases result
        have each := isNumber_of_mapM_readFloat digitsRead
        exact signed (isNumber_of_addSixtieths (Binary64.isNumber_zero false)
          (fun digit member => each digit (List.mem_reverse.mp member)) added)
      · obtain ⟨value, valueRead, result⟩ := bind_eq_ok_iff.mp read
        cases result
        exact signed (isNumber_of_readFloat valueRead)

end Numbers

end Yaml.Scalar

end RelayPool
