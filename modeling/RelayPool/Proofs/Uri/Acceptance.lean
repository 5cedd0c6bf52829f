import RelayPool.Proofs.Log.Outcome
import RelayPool.Proofs.Uri.Escape
import RelayPool.Proofs.Uri.Grammar

/-!
# Accepted URIs

The checks on a URI accept exactly the texts that follow the grammar.  Each
check accepts the texts of one rule, and what a check passes on to the next is
the part that the rule names.
-/

namespace RelayPool.Uri

open Log

section Characters

variable (character : Char)

theorem isDigit_eq : isDigit character = character.isDigit := by
  rw [Bool.eq_iff_iff]
  simp [isDigit, Char.isDigit, Char.le_def, UInt32.le_iff_toNat_le]

theorem isLetter_eq : isLetter character = character.isAlpha := by
  rw [Bool.eq_iff_iff]
  unfold Char.isAlpha Char.isUpper Char.isLower
  simp [isLetter, Char.le_def, UInt32.le_iff_toNat_le, or_comm]

theorem isLetter_or_isDigit_eq :
    (isLetter character || isDigit character) = character.isAlphanum := by
  rw [isLetter_eq, isDigit_eq, Char.isAlphanum]

theorem isControl_iff : isControl character ↔ IsControl character := by
  simp only [isControl, IsControl, Bool.or_eq_true, decide_eq_true_eq, beq_iff_eq]
  omega

theorem isSchemeChar_iff :
    isSchemeChar character ↔ character.isAlphanum ∨ character ∈ "+-.".toList := by
  rw [isSchemeChar, isLetter_or_isDigit_eq, Bool.or_eq_true, List.contains_iff_mem]

theorem isUserinfoChar_iff : isUserinfoChar character ↔ IsUserinfoCharacter character := by
  simp only [isUserinfoChar, isLetter_or_isDigit_eq, Bool.or_eq_true, List.contains_iff_mem,
    IsUserinfoCharacter, IsUnreserved, IsSubDelimiter, String.reduceToList, List.mem_cons]
  grind

theorem isHostChar_iff : isHostChar character ↔ IsHostCharacter character := by
  simp only [isHostChar, Bool.or_assoc, isLetter_or_isDigit_eq, Bool.or_eq_true,
    List.contains_iff_mem, IsHostCharacter, IsUnreserved, IsSubDelimiter, String.reduceToList,
    List.mem_cons, decide_eq_true_eq, Nat.lt_iff_add_one_le]
  grind

end Characters

section Escapes

variable {escape : Char → Char → Prop}

theorem isSome_hexValue?_iff (digit : Char) :
    (Text.hexValue? digit).isSome ↔ IsHexDigit digit := by
  have member : digit ∈ "abcdefABCDEF".toList ↔
      ('a' ≤ digit ∧ digit ≤ 'f') ∨ 'A' ≤ digit ∧ digit ≤ 'F' := by
    simp only [String.reduceToList, List.mem_cons, List.not_mem_nil, or_false, Char.ext_iff,
      Char.le_def, ← UInt32.toNat_inj, UInt32.le_iff_toNat_le]
    simp
    omega
  rw [IsHexDigit, member, ← isDigit_eq, Text.hexValue?, isDigit]
  split_ifs with decimal lower upper <;> simp_all

theorem beginsWithTwo_iff (text : List Char) :
    Percent.beginsWithTwo (fun digit => (Text.hexValue? digit).isSome) text ↔
      BeginsEscape IsEscape text := by
  match text with
  | [] => simp [Percent.beginsWithTwo]
  | [_] => simp [Percent.beginsWithTwo]
  | _ :: _ :: _ => simp [Percent.beginsWithTwo, IsEscape, isSome_hexValue?_iff]

theorem wellFormed_iff (text : List Char) :
    Percent.wellFormed text ↔ EscapesAre IsEscape text := by
  induction text with
  | nil => simp [Percent.wellFormed, escapesAre_nil]
  | cons character rest ih =>
      rw [escapesAre_cons_iff, ← ih, ← beginsWithTwo_iff, Percent.wellFormed, imp_iff_not_or]
      simp

theorem eight_le_iff {digit : Char} {value : Nat} (found : Text.hexValue? digit = some value) :
    8 ≤ value ↔ digit ∉ "01234567".toList := by
  simp only [Text.hexValue?, Char.le_def, UInt32.le_iff_toNat_le] at found
  simp only [String.reduceToList, List.mem_cons, List.not_mem_nil, or_false, Char.ext_iff,
    ← UInt32.toNat_inj]
  have code := digit.toNat_val
  split_ifs at found with decimal lower upper <;> simp at * <;> omega

theorem hostEscapesValid_mark_cons (high low : Char) (rest : List Char) :
    hostEscapesValid ('%' :: high :: low :: rest) ↔
      IsHostEscape high low ∧ hostEscapesValid (high :: low :: rest) := by
  rw [IsHostEscape, IsEscape, ← isSome_hexValue?_iff, ← isSome_hexValue?_iff,
    hostEscapesValid, Bool.and_eq_true]
  refine and_congr_left fun _ => ?_
  cases highFound : Text.hexValue? high with
  | none => simp
  | some first =>
      cases lowFound : Text.hexValue? low with
      | none => simp
      | some second => simp [eight_le_iff highFound]

theorem hostEscapesValid_cons_of_ne {character : Char} (plain : character ≠ '%')
    (rest : List Char) : hostEscapesValid (character :: rest) = hostEscapesValid rest := by
  rw [hostEscapesValid]
  exact plain

theorem hostEscapesValid_iff (text : List Char) :
    hostEscapesValid text ↔ EscapesAre IsHostEscape text := by
  induction text with
  | nil => simp [hostEscapesValid, escapesAre_nil]
  | cons character rest ih =>
      rw [escapesAre_cons_iff, ← ih]
      by_cases mark : character = '%'
      · subst mark
        match rest with
        | [] => simp [hostEscapesValid]
        | [_] => simp [hostEscapesValid]
        | high :: low :: later => simp [hostEscapesValid_mark_cons]
      · simp [hostEscapesValid_cons_of_ne mark, mark]

/-- A text without halves of surrogate pairs is unescaped exactly when its escapes are
well formed. -/
theorem exists_unescape_iff {text : List Char}
    (whole : ∀ character ∈ text, Text.isHalf character = false) :
    (∃ bytes, unescape text = .ok bytes) ↔ EscapesAre IsEscape text := by
  rw [← wellFormed_iff]
  constructor
  · rintro ⟨bytes, unescaped⟩
    by_contra malformed
    rw [unescape, if_pos (by simpa using malformed)] at unescaped
    cases unescaped
  · exact fun wellFormed => ⟨_, unescape_of_wellFormed wellFormed whole⟩

theorem discard_eq_ok_iff {ε α : Type} {outcome : Except ε α} :
    discard outcome = .ok () ↔ ∃ result, outcome = .ok result := by
  cases outcome <;> simp [discard, Functor.discard, Functor.mapConst, Except.map]

end Escapes

section Scheme

variable {text scheme rest : List Char}

theorem splitScheme_of_ne {first : Char} (notColon : first ≠ ':') (later : List Char) :
    splitScheme (first :: later) =
      if isLetter first then
        match (first :: later).dropWhile isSchemeChar with
        | ':' :: rest => .ok (some ((first :: later).takeWhile isSchemeChar), rest)
        | _ => .ok (none, first :: later)
      else .ok (none, first :: later) := by
  rw [splitScheme.eq_def]
  split
  · next same => exact absurd (List.cons.inj same).1 notColon
  · next same =>
    obtain ⟨rfl, -⟩ := List.cons.inj same
    rfl
  · next same => cases same

theorem splitScheme_append (isScheme : IsScheme scheme) (rest : List Char) :
    splitScheme (scheme ++ ':' :: rest) = .ok (some scheme, rest) := by
  obtain ⟨letter, others⟩ := isScheme
  rename_i first later
  have inScheme : ∀ character ∈ first :: later, isSchemeChar character := by
    intro character member
    rw [isSchemeChar_iff]
    rcases List.mem_cons.mp member with rfl | member
    · exact .inl (by simp [Char.isAlphanum, letter])
    · exact others character member
  have notColon : first ≠ ':' := by
    rintro rfl
    exact absurd letter (by decide)
  have taken : (first :: later ++ ':' :: rest).takeWhile isSchemeChar = first :: later := by
    rw [List.takeWhile_append_of_pos inScheme, List.takeWhile_cons_of_neg (by decide),
      List.append_nil]
  have left : (first :: later ++ ':' :: rest).dropWhile isSchemeChar = ':' :: rest := by
    rw [List.dropWhile_append_of_pos inScheme, List.dropWhile_cons_of_neg (by decide)]
  rw [List.cons_append] at taken left ⊢
  rw [splitScheme_of_ne notColon, isLetter_eq, if_pos letter, left, taken]
  rfl

theorem isScheme_takeWhile {first : Char} (letter : first.isAlpha) (later : List Char) :
    IsScheme ((first :: later).takeWhile isSchemeChar) := by
  have inScheme : isSchemeChar first := by
    rw [isSchemeChar_iff]
    exact .inl (by simp [Char.isAlphanum, letter])
  rw [List.takeWhile_cons_of_pos inScheme]
  refine .letter letter fun character member => ?_
  rw [← isSchemeChar_iff]
  exact List.mem_takeWhile_imp member

/-- A text that does not begin with `:` has a scheme or is left as it is. -/
theorem exists_scheme_or_splitScheme (noColon : text.head? ≠ some ':') :
    (∃ scheme rest, IsScheme scheme ∧ text = scheme ++ ':' :: rest) ∨
      splitScheme text = .ok (none, text) := by
  cases text with
  | nil => exact .inr rfl
  | cons first later =>
      have notColon : first ≠ ':' := by simpa using noColon
      by_cases letter : first.isAlpha
      · cases left : (first :: later).dropWhile isSchemeChar with
        | nil =>
            right
            rw [splitScheme_of_ne notColon, isLetter_eq, if_pos letter, left]
        | cons next rest =>
            have whole := List.takeWhile_append_dropWhile (p := isSchemeChar) (l := first :: later)
            by_cases colon : next = ':'
            · subst colon
              exact .inl ⟨_, rest, isScheme_takeWhile letter later, by rw [← left, whole]⟩
            · right
              rw [splitScheme_of_ne notColon, isLetter_eq, if_pos letter, left]
              simp [colon]
      · right
        rw [splitScheme_of_ne notColon, isLetter_eq, if_neg letter]

theorem splitScheme_eq_ok_iff {hasScheme : Bool} :
    (∃ found, splitScheme text = .ok (found, rest) ∧ found.isSome = hasScheme) ↔
      text.head? ≠ some ':' ∧ Schemed text hasScheme rest := by
  constructor
  · rintro ⟨found, split, rfl⟩
    have noColon : text.head? ≠ some ':' := by
      intro colon
      obtain ⟨later, rfl⟩ := List.head?_eq_some_iff.mp colon
      cases split
    refine ⟨noColon, ?_⟩
    rcases exists_scheme_or_splitScheme noColon with ⟨scheme, behind, isScheme, rfl⟩ | kept
    · rw [splitScheme_append isScheme] at split
      cases split
      exact .present isScheme
    · rw [kept] at split
      cases split
      refine .absent fun scheme behind isScheme same => ?_
      rw [same, splitScheme_append isScheme] at kept
      cases kept
  · rintro ⟨noColon, schemed⟩
    cases schemed with
    | present isScheme => exact ⟨_, splitScheme_append isScheme rest, rfl⟩
    | absent without =>
        rcases exists_scheme_or_splitScheme noColon with ⟨scheme, behind, isScheme, same⟩ | kept
        · exact absurd same (without scheme behind isScheme)
        · exact ⟨none, kept, rfl⟩

end Scheme

section Authority

variable {text host port : List Char}

theorem isPort_iff : isPort port ↔ IsPortText port := by
  constructor
  · intro valid
    cases port with
    | nil => exact .absent
    | cons first digits =>
        simp only [isPort, Bool.and_eq_true, beq_iff_eq, List.all_eq_true] at valid
        obtain ⟨rfl, digit⟩ := valid
        exact .digits fun character member => isDigit_eq character ▸ digit character member
  · rintro (_ | digit)
    · rfl
    · simpa [isPort, isDigit_eq] using digit

theorem splitPort_of_bare (bare : text.head? ≠ some '[') :
    splitPort text =
      match cutLast? ':' text with
      | none => .ok (text, [])
      | some (_, port) => .ok (text, ':' :: port) := by
  unfold splitPort
  split
  · exact absurd rfl bare
  · rfl

theorem splitPort_of_ported (ported : Ported text host port) :
    splitPort text = .ok (host, port) := by
  cases ported with
  | bracketed last =>
      rw [splitPort, ← List.cons_append, cutLast?_append last]
      rfl
  | given bare last => rw [splitPort_of_bare bare, cutLast?_append last]
  | none bare absent => rw [splitPort_of_bare bare, cutLast?_of_not_mem absent]

theorem ported_of_splitPort (split : splitPort text = .ok (host, port)) :
    Ported text host port := by
  by_cases bracketed : text.head? = some '['
  · obtain ⟨inside, rfl⟩ := List.head?_eq_some_iff.mp bracketed
    cases cut : cutLast? ']' ('[' :: inside) with
    | none =>
        rw [splitPort, cut] at split
        cases split
    | some parts =>
        rw [splitPort, cut] at split
        cases split
        obtain ⟨whole, last⟩ := cutLast?_eq_some_iff.mp cut
        cases front : parts.1 with
        | nil => simp [front] at whole
        | cons first host =>
            rw [front, List.cons_append] at whole
            obtain ⟨rfl, rfl⟩ := List.cons.inj whole
            exact .bracketed last
  · rw [splitPort_of_bare bracketed] at split
    cases cut : cutLast? ':' text with
    | none =>
        rw [cut] at split
        cases split
        exact .none bracketed (cutLast?_eq_none_iff.mp cut)
    | some parts =>
        rw [cut] at split
        cases split
        obtain ⟨whole, last⟩ := cutLast?_eq_some_iff.mp cut
        rw [whole] at bracketed ⊢
        exact .given bracketed last

/-- A host passes when it has both parts and each of them passes. -/
theorem checkHost_of_splitPort (split : splitPort text = .ok (host, port)) :
    checkHost text = .ok () ↔
      isPort port ∧ hostEscapesValid host ∧ ∀ character ∈ host, isHostChar character := by
  have found : host.find? (fun character => !isHostChar character) = none ↔
      ∀ character ∈ host, isHostChar character := by
    simp [List.find?_eq_none]
  rw [← found, checkHost, split]
  cases portFits : isPort port <;> cases escapesFit : hostEscapesValid host <;>
    cases other : host.find? fun character => !isHostChar character <;>
    simp [portFits, escapesFit, other]

theorem checkHost_eq_ok_iff : checkHost text = .ok () ↔ IsHost text := by
  constructor
  · intro checked
    obtain ⟨⟨host, port⟩, split, -⟩ := bind_eq_ok_iff.mp checked
    obtain ⟨portText, escapes, characters⟩ := (checkHost_of_splitPort split).mp checked
    exact .ported (ported_of_splitPort split) (isPort_iff.mp portText)
      ((hostEscapesValid_iff host).mp escapes)
      fun character member => (isHostChar_iff character).mp (characters character member)
  · rintro ⟨ported, portText, escapes, characters⟩
    exact (checkHost_of_splitPort (splitPort_of_ported ported)).mpr
      ⟨isPort_iff.mpr portText, (hostEscapesValid_iff _).mpr escapes,
        fun character member => (isHostChar_iff character).mpr (characters character member)⟩

theorem checkUserinfo_eq_ok_iff (whole : ∀ character ∈ text, Text.isHalf character = false) :
    checkUserinfo text = .ok () ↔
      (∀ character ∈ text, IsUserinfoCharacter character) ∧ EscapesAre IsEscape text := by
  simp only [← exists_unescape_iff whole, ← isUserinfoChar_iff, ← List.all_eq_true, checkUserinfo]
  by_cases characters : text.all isUserinfoChar
  · rw [if_pos characters]
    cases unescape text <;> simp [characters, Except.map]
  · rw [if_neg characters]
    simp [characters]

theorem checkAuthority_eq_ok_iff (whole : ∀ character ∈ text, Text.isHalf character = false) :
    checkAuthority text = .ok () ↔ IsAuthority text := by
  constructor
  · intro checked
    cases cut : cutLast? '@' text with
    | none =>
        rw [checkAuthority, cut] at checked
        exact .host (cutLast?_eq_none_iff.mp cut) (checkHost_eq_ok_iff.mp checked)
    | some parts =>
        rw [checkAuthority, cut] at checked
        obtain ⟨rfl, last⟩ := cutLast?_eq_some_iff.mp cut
        obtain ⟨_, userinfo, host⟩ := bind_eq_ok_iff.mp checked
        have inFront : ∀ character ∈ parts.1, Text.isHalf character = false :=
          fun character member => whole character (List.mem_append_left _ member)
        obtain ⟨characters, escapes⟩ := (checkUserinfo_eq_ok_iff inFront).mp userinfo
        exact .userinfo last characters escapes (checkHost_eq_ok_iff.mp host)
  · rintro (⟨absent, isHost⟩ | ⟨last, characters, escapes, isHost⟩)
    · rw [checkAuthority, cutLast?_of_not_mem absent]
      exact checkHost_eq_ok_iff.mpr isHost
    · rename_i userinfo host
      have inFront : ∀ character ∈ userinfo, Text.isHalf character = false :=
        fun character member => whole character (List.mem_append_left _ member)
      rw [checkAuthority, cutLast?_append last]
      exact bind_eq_ok_iff.mpr ⟨(), (checkUserinfo_eq_ok_iff inFront).mpr ⟨characters, escapes⟩,
        checkHost_eq_ok_iff.mpr isHost⟩

end Authority

section Hierarchy

variable {hasScheme : Bool} {part behind : List Char}

theorem beginsAuthority_iff :
    (hasScheme || behind.head? != some '/') = true ↔ BeginsAuthority hasScheme behind := by
  simp [BeginsAuthority]

theorem checkHierarchy_of_unrooted (unrooted : part.head? ≠ some '/') :
    checkHierarchy hasScheme part = .ok () ↔
      hasScheme = true ∨ ':' ∉ part.takeWhile (· ≠ '/') ∧ ∃ bytes, unescape part = .ok bytes := by
  rw [← discard_eq_ok_iff]
  unfold checkHierarchy
  split
  · exact absurd rfl unrooted
  · cases hasScheme <;> cases colon : (part.takeWhile (· ≠ '/')).contains ':' <;> simp_all

theorem checkHierarchy_of_authority (begins : BeginsAuthority hasScheme behind) :
    checkHierarchy hasScheme ('/' :: '/' :: behind) = .ok () ↔
      checkAuthority (behind.takeWhile (· ≠ '/')) = .ok () ∧
        ∃ bytes, unescape (behind.dropWhile (· ≠ '/')) = .ok bytes := by
  simp only [checkHierarchy, if_pos (beginsAuthority_iff.mpr begins), bind_eq_ok_iff,
    pure_eq_ok_iff, discard_eq_ok_iff]
  constructor
  · rintro ⟨_, checked, _, rfl, unescaped⟩
    exact ⟨checked, unescaped⟩
  · rintro ⟨checked, unescaped⟩
    exact ⟨(), checked, _, rfl, unescaped⟩

theorem checkHierarchy_of_rooted {rest : List Char}
    (without : ∀ behind, rest = '/' :: behind → ¬ BeginsAuthority hasScheme behind) :
    checkHierarchy hasScheme ('/' :: rest) = .ok () ↔
      ∃ bytes, unescape ('/' :: rest) = .ok bytes := by
  rw [← discard_eq_ok_iff]
  unfold checkHierarchy
  split
  · next rest same =>
      obtain ⟨-, rfl⟩ := List.cons.inj same
      split
      · next behind =>
          rw [if_neg (mt beginsAuthority_iff.mp (without behind rfl))]
          rfl
      · rfl
  · next other => exact absurd rfl (other rest)

theorem isHierarchy_of_unrooted_iff (unrooted : part.head? ≠ some '/') :
    IsHierarchy hasScheme part ↔
      hasScheme = true ∨ ':' ∉ part.takeWhile (· ≠ '/') ∧ EscapesAre IsEscape part := by
  constructor
  · intro hierarchy
    cases hierarchy with
    | free _ scheme => exact .inl scheme
    | relative _ schemeless first noColon escapes =>
        obtain ⟨rfl, -⟩ := Prod.mk.inj (parted_iff.mp first)
        exact .inr ⟨noColon, escapes⟩
    | authority | rooted => exact absurd rfl unrooted
  · intro written
    cases hasScheme with
    | true => exact .free unrooted rfl
    | false =>
        obtain ⟨noColon, escapes⟩ := written.resolve_left (by decide)
        exact .relative unrooted rfl (parted_cutFirst '/' part) noColon escapes

theorem isHierarchy_of_authority_iff (begins : BeginsAuthority hasScheme behind) :
    IsHierarchy hasScheme ('/' :: '/' :: behind) ↔
      IsAuthority (behind.takeWhile (· ≠ '/')) ∧
        EscapesAre IsEscape (behind.dropWhile (· ≠ '/')) := by
  constructor
  · intro hierarchy
    cases hierarchy with
    | free unrooted | relative unrooted => exact absurd rfl unrooted
    | @authority authority path slashless pathBegins begins isAuthority escapes =>
        have inAuthority := ne_mark_of_mem slashless
        rw [List.takeWhile_append_of_pos inAuthority, List.dropWhile_append_of_pos inAuthority]
        rcases pathBegins with rfl | slash
        · simpa using ⟨isAuthority, escapes⟩
        · obtain ⟨rest, rfl⟩ := List.head?_eq_some_iff.mp slash
          simpa using ⟨isAuthority, escapes⟩
    | rooted without => exact absurd begins (without behind rfl)
  · rintro ⟨isAuthority, escapes⟩
    have whole := List.takeWhile_append_dropWhile (p := (· ≠ '/')) (l := behind)
    have hierarchy : IsHierarchy hasScheme
        ('/' :: '/' :: (behind.takeWhile (· ≠ '/') ++ behind.dropWhile (· ≠ '/'))) := by
      refine .authority ?_ ?_ (by rwa [whole]) isAuthority escapes
      · intro member
        simpa using List.mem_takeWhile_imp member
      · cases left : behind.dropWhile (· ≠ '/') with
        | nil => exact .inl rfl
        | cons first rest =>
            have stopped := List.head?_dropWhile_not (· ≠ '/') behind
            rw [left] at stopped
            exact .inr (by simpa using stopped)
    rwa [whole] at hierarchy

theorem isHierarchy_of_rooted_iff {rest : List Char}
    (without : ∀ behind, rest = '/' :: behind → ¬ BeginsAuthority hasScheme behind) :
    IsHierarchy hasScheme ('/' :: rest) ↔ EscapesAre IsEscape ('/' :: rest) := by
  constructor
  · intro hierarchy
    cases hierarchy with
    | free unrooted | relative unrooted => exact absurd rfl unrooted
    | authority _ _ begins => exact absurd begins (without _ rfl)
    | rooted _ escapes => exact escapes
  · exact .rooted without

theorem checkHierarchy_eq_ok_iff (whole : ∀ character ∈ part, Text.isHalf character = false) :
    checkHierarchy hasScheme part = .ok () ↔ IsHierarchy hasScheme part := by
  by_cases rooted : part.head? = some '/'
  · obtain ⟨rest, rfl⟩ := List.head?_eq_some_iff.mp rooted
    by_cases authority : ∃ behind, rest = '/' :: behind ∧ BeginsAuthority hasScheme behind
    · obtain ⟨behind, rfl, begins⟩ := authority
      obtain ⟨-, -, inside⟩ := by simpa only [List.forall_mem_cons] using whole
      rw [checkHierarchy_of_authority begins, isHierarchy_of_authority_iff begins,
        checkAuthority_eq_ok_iff, exists_unescape_iff]
      · exact fun character member => inside character (List.dropWhile_subset _ member)
      · exact fun character member => inside character (List.takeWhile_subset _ member)
    · have without : ∀ behind, rest = '/' :: behind → ¬ BeginsAuthority hasScheme behind :=
        fun behind same begins => authority ⟨behind, same, begins⟩
      rw [checkHierarchy_of_rooted without, isHierarchy_of_rooted_iff without,
        exists_unescape_iff whole]
  · rw [checkHierarchy_of_unrooted rooted, isHierarchy_of_unrooted_iff rooted,
      exists_unescape_iff whole]

end Hierarchy

section Whole

variable {text : List Char}

theorem uncontrolled_of_check (checked : check text = .ok ()) :
    ∀ character ∈ text, ¬ IsControl character := by
  intro character member control
  have found : text.any isControl = true :=
    List.any_eq_true.mpr ⟨character, member, (isControl_iff character).mpr control⟩
  rw [check, found] at checked
  cases checked

theorem check_of_uncontrolled (uncontrolled : ∀ character ∈ text, ¬ IsControl character) :
    check text =
      splitScheme text >>= fun found =>
        checkHierarchy found.1.isSome (cutFirst '?' found.2).1 := by
  have passes : text.any isControl = false := by
    simpa [← isControl_iff] using uncontrolled
  rw [check, passes]
  rfl

theorem isFront_of_check (whole : ∀ character ∈ text, Text.isHalf character = false)
    (checked : check text = .ok ()) : IsFront text := by
  have uncontrolled := uncontrolled_of_check checked
  rw [check_of_uncontrolled uncontrolled] at checked
  obtain ⟨⟨scheme, rest⟩, split, hierarchy⟩ := bind_eq_ok_iff.mp checked
  obtain ⟨noColon, schemed⟩ := splitScheme_eq_ok_iff.mp ⟨scheme, split, rfl⟩
  have queried := parted_cutFirst '?' rest
  have inPart : ∀ character ∈ (cutFirst '?' rest).1, Text.isHalf character = false :=
    fun character member => whole character (schemed.mem (queried.mem (.inl member)))
  exact .parts uncontrolled noColon schemed queried
    ((checkHierarchy_eq_ok_iff inPart).mp hierarchy)

theorem check_of_isFront (whole : ∀ character ∈ text, Text.isHalf character = false)
    (isFront : IsFront text) : check text = .ok () := by
  obtain ⟨uncontrolled, noColon, schemed, queried, hierarchy⟩ := isFront
  rename_i rest part query hasScheme
  have inPart : ∀ character ∈ part, Text.isHalf character = false :=
    fun character member => whole character (schemed.mem (queried.mem (.inl member)))
  obtain ⟨scheme, split, rfl⟩ := splitScheme_eq_ok_iff.mpr ⟨noColon, schemed⟩
  rw [check_of_uncontrolled uncontrolled, split]
  refine bind_eq_ok_iff.mpr ⟨_, rfl, ?_⟩
  rw [parted_iff.mp queried]
  exact (checkHierarchy_eq_ok_iff inPart).mpr hierarchy

/-- A URI without halves of surrogate pairs is accepted exactly when it follows the
grammar. -/
theorem accepted_iff_grammatical {uri : String}
    (whole : ∀ character ∈ uri.toList, Text.isHalf character = false) :
    (∃ bytes, fragment uri = .ok bytes) ↔ Grammatical uri.toList := by
  constructor
  · rintro ⟨bytes, accepted⟩
    have parted := parted_cutFirst '#' uri.toList
    obtain ⟨_, checked, unescaped⟩ := bind_eq_ok_iff.mp accepted
    have inFront := fun character member => whole character (parted.mem (.inl member))
    have inFragment := fun character member => whole character (parted.mem (.inr member))
    exact .parts parted (isFront_of_check inFront checked)
      ((exists_unescape_iff inFragment).mp ⟨bytes, unescaped⟩)
  · rintro ⟨parted, isFront, escapes⟩
    have inFront := fun character member => whole character (parted.mem (.inl member))
    have inFragment := fun character member => whole character (parted.mem (.inr member))
    obtain ⟨bytes, unescaped⟩ := (exists_unescape_iff inFragment).mpr escapes
    refine ⟨bytes, ?_⟩
    rw [fragment, parted_iff.mp parted]
    exact bind_eq_ok_iff.mpr ⟨(), check_of_isFront inFront isFront, unescaped⟩

/-- A query is free, a zone of an address may be escaped, and a letter may not be
escaped in a host. -/
theorem accepted_iff_grammatical_bracketedHost :
    Grammatical "ss://u%40:p@[fe80::1%25a]:80/x%2F?%#n%20".toList ∧
      ¬ Grammatical "ss://h%41:80".toList := by
  have allWhole : ("ss://u%40:p@[fe80::1%25a]:80/x%2F?%#n%20".toList ++ "ss://h%41:80".toList).all
      (fun character => Text.isHalf character == false) = true := by
    decide +kernel
  have whole := fun character member => eq_of_beq (List.all_eq_true.mp allWhole character member)
  constructor
  · exact (accepted_iff_grammatical fun character member =>
      whole character (List.mem_append_left _ member)).mp ⟨[110, 32], by decide +kernel⟩
  · intro grammatical
    obtain ⟨bytes, accepted⟩ := (accepted_iff_grammatical fun character member =>
      whole character (List.mem_append_right _ member)).mpr grammatical
    have refused : fragment "ss://h%41:80" = .error .hostEscape := by decide +kernel
    rw [refused] at accepted
    cases accepted

end Whole

end RelayPool.Uri
