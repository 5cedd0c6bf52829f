import Mathlib.Algebra.Ring.Nat
import RelayPool.Proofs.Text.Encoding

/-!
# How many pieces a byte string has

Behind its first byte a piece takes nothing but bytes that continue a character,
and no character begins with one of those.  So a piece never reaches into a
character that stands whole in the byte string: put together from characters and
single bytes, a byte string has at most one piece for each of them.
-/

namespace RelayPool.Text.Utf8

/-- A byte that continues a character. -/
def isContinuation (byte : UInt8) : Bool :=
  0x80 ≤ byte.toNat && byte.toNat ≤ 0xBF

/-- A byte string put together from so many characters and single bytes. -/
inductive Joined : Nat → List UInt8 → Prop
  | nil : Joined 0 []
  | character {count : Nat} {bytes : List UInt8} (value : Char) (later : Joined count bytes) :
      Joined (count + 1) (String.utf8EncodeChar value ++ bytes)
  | byte {count : Nat} {bytes : List UInt8} (value : UInt8) (later : Joined count bytes) :
      Joined (count + 1) (value :: bytes)

section Widths

theorem toNat_ofNat_le (value : Nat) : (Char.ofNat value).toNat ≤ value := by
  by_cases valid : value.isValidChar
  · rw [Char.ofNat, dif_pos valid]
    exact Nat.le_refl value
  · rw [Char.ofNat, dif_neg valid]
    exact Nat.zero_le value

/-- The encoding of a code point is no longer than its greatest size for the number
of bytes behind the first. -/
theorem width_character_ofNat (value following : Nat)
    (fits : following = 0 ∧ value < 0x80 ∨ following = 1 ∧ value < 0x800 ∨
      following = 2 ∧ value < 0x10000 ∨ following = 3) :
    (Piece.character (Char.ofNat value)).width ≤ 1 + following := by
  have smaller := toNat_ofNat_le value
  rw [Piece.width]
  by_cases one : (Char.ofNat value).toNat ≤ 0x7F
  · rw [utf8EncodeChar_of_one one, List.length_singleton]
    omega
  by_cases two : (Char.ofNat value).toNat ≤ 0x7FF
  · rw [utf8EncodeChar_of_two (by omega) two, List.length_cons, List.length_singleton]
    omega
  by_cases three : (Char.ofNat value).toNat ≤ 0xFFFF
  · rw [utf8EncodeChar_of_three (by omega) three, List.length_cons, List.length_cons,
      List.length_singleton]
    omega
  · have most := Char.utf8Size_le_four (Char.ofNat value)
    rw [String.length_utf8EncodeChar]
    omega

/-- The form of a character has room for all code points that it can give, and
asks for continuing bytes. -/
theorem bounds_of_lead? {byte : UInt8} {lead : Lead} (found : lead? byte = some lead) :
    0x80 ≤ lead.lowest ∧ lead.highest ≤ 0xBF ∧
      ∀ value < (lead.payload + 1) * 64 ^ lead.following,
        (Piece.character (Char.ofNat value)).width ≤ 1 + lead.following := by
  simp only [lead?] at found
  split_ifs at found
  all_goals
    obtain rfl := Option.some.inj found
    dsimp only
    refine ⟨by omega, by omega, fun value inside => width_character_ofNat value _ ?_⟩
    omega

end Widths

section Pieces

/-- A piece takes nothing but continuing bytes behind those it has taken. -/
theorem isContinuation_of_continuePiece {taken rest : List UInt8}
    {payload following lowest highest : Nat} (above : 0x80 ≤ lowest) (below : highest ≤ 0xBF)
    (room : ∀ value < (payload + 1) * 64 ^ following,
      (Piece.character (Char.ofNat value)).width ≤ taken.length + following) :
    ∀ byte ∈ rest.take
        ((continuePiece taken payload following lowest highest rest).width - taken.length),
      isContinuation byte := by
  induction following generalizing taken rest payload lowest highest with
  | zero =>
      have ends := room payload (by omega)
      rw [Nat.add_zero] at ends
      rw [continuePiece, Nat.sub_eq_zero_of_le ends]
      simp
  | succ following ih =>
      cases rest with
      | nil => simp
      | cons byte rest =>
          rw [continuePiece]
          split
          · next inside =>
              -- The piece goes on behind this byte, which is a continuing one.
              have later := @ih (byte :: taken) rest (payload * 64 + byte.toNat % 64) 0x80 0xBF
                (Nat.le_refl _) (Nat.le_refl _) (by
                  intro value bounded
                  rw [List.length_cons, Nat.add_assoc, Nat.add_comm 1]
                  refine room value (Nat.lt_of_lt_of_le bounded ?_)
                  rw [Nat.pow_succ, Nat.mul_comm (64 ^ following), ← Nat.mul_assoc]
                  exact Nat.mul_le_mul_right _ (by omega))
              rw [List.length_cons] at later
              cases taking : (continuePiece (byte :: taken) (payload * 64 + byte.toNat % 64)
                  following 0x80 0xBF rest).width - taken.length with
              | zero => simp
              | succ count =>
                  rw [Nat.sub_add_eq, taking, Nat.add_sub_cancel] at later
                  rw [List.take_succ_cons]
                  refine List.forall_mem_cons.mpr ⟨?_, later⟩
                  simp only [isContinuation, Bool.and_eq_true, decide_eq_true_eq]
                  omega
          · rw [Piece.width, List.length_reverse, Nat.sub_self]
            simp

theorem isContinuation_of_firstPiece (byte : UInt8) (rest : List UInt8) :
    ∀ other ∈ rest.take ((firstPiece byte rest).width - 1), isContinuation other := by
  rw [firstPiece]
  cases found : lead? byte with
  | none => simp [Piece.width]
  | some lead =>
      obtain ⟨above, below, room⟩ := bounds_of_lead? found
      exact isContinuation_of_continuePiece above below room

theorem lead?_of_isContinuation {byte : UInt8} (continuing : isContinuation byte) :
    lead? byte = none := by
  simp only [isContinuation, Bool.and_eq_true, decide_eq_true_eq] at continuing
  rw [lead?, if_neg (by omega), if_pos (by omega)]

theorem exists_first_utf8EncodeChar (value : Char) :
    ∃ byte others, String.utf8EncodeChar value = byte :: others ∧ ¬ isContinuation byte := by
  obtain ⟨byte, others, encoded, first⟩ := firstPiece_utf8EncodeChar value []
  refine ⟨byte, others, encoded, fun continuing => ?_⟩
  rw [firstPiece, lead?_of_isContinuation continuing] at first
  cases first

theorem length_piecesAfter_le {count : Nat} {bytes : List UInt8} (joined : Joined count bytes)
    {skipped : Nat} (continuing : ∀ byte ∈ bytes.take skipped, isContinuation byte) :
    (piecesAfter skipped bytes).length ≤ count := by
  -- A piece that began earlier skips continuing bytes only, so it cannot end inside a
  -- character: what it skips are single bytes, and these only lower the count.
  induction joined generalizing skipped with
  | nil => cases skipped <;> simp [piecesAfter]
  | @character count bytes value later ih =>
      cases skipped with
      | zero =>
          have rest := @ih 0 (by simp)
          have pieces_eq := pieces_utf8EncodeChar_append value bytes
          rw [pieces] at pieces_eq
          rw [pieces_eq, List.length_cons]
          exact Nat.succ_le_succ rest
      | succ skipped =>
          obtain ⟨first, others, encoded, begins⟩ := exists_first_utf8EncodeChar value
          rw [encoded] at continuing
          exact absurd (continuing first (by simp)) begins
  | @byte count bytes value later ih =>
      cases skipped with
      | zero =>
          rw [piecesAfter, List.length_cons]
          exact Nat.succ_le_succ (ih (isContinuation_of_firstPiece value bytes))
      | succ skipped =>
          rw [List.take_succ_cons] at continuing
          exact Nat.le_succ_of_le (ih (List.forall_mem_cons.mp continuing).2)

/-- A byte string has at most one piece for each of the characters and bytes that
it is put together from. -/
theorem length_decodeLenient_le {count : Nat} {bytes : List UInt8}
    (joined : Joined count bytes) : (decodeLenient bytes).length ≤ count := by
  rw [decodeLenient, List.length_map]
  exact length_piecesAfter_le joined (by simp)

end Pieces

end RelayPool.Text.Utf8
