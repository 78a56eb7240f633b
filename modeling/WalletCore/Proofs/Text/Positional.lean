import WalletCore.Text.Hexadecimal

/-! # Numbers in positional notation

Digits behind a positive number are the end of the number that they make with it
(`toDigits_behind`). Digits on their own are therefore the written form of a number with zeros in
front, and each number has just one written form without them. Hexadecimal digits are read in
letters of either case, so the natural that they stand for is the one whose written form they are,
but for the case of letters and for zeros in front (`ofHexadecimal?_eq_some_iff`).
-/
namespace WalletCore.Text

/-- The number that digits make with the number in front of them. -/
def behind (base : Nat) (digits : List Nat) (start : Nat) : Nat :=
  digits.foldl (fun value digit => base * value + digit) start

/-- Digits behind a positive number are the end of the number that they make with it. -/
theorem toDigits_behind {base : Nat} (large : 1 < base) {digits : List Nat}
    (small : ∀ digit ∈ digits, digit < base) {start : Nat} (positive : 0 < start) :
    Nat.toDigits base (behind base digits start) =
      Nat.toDigits base start ++ digits.map Nat.digitChar := by
  induction digits generalizing start with
  | nil => exact (List.append_nil _).symm
  | cons digit rest ih =>
    obtain ⟨here, later⟩ := List.forall_mem_cons.1 small
    have more : 0 < base * start + digit := Nat.add_pos_left (Nat.mul_pos (by omega) positive) _
    calc Nat.toDigits base (behind base (digit :: rest) start)
      _ = Nat.toDigits base (base * start + digit) ++ rest.map Nat.digitChar := ih later more
      _ = Nat.toDigits base start ++ [digit.digitChar] ++ rest.map Nat.digitChar := by
        rw [← Nat.toDigits_append_toDigits large positive here, Nat.toDigits_of_lt_base here]
      _ = Nat.toDigits base start ++ (digit :: rest).map Nat.digitChar := by
        rw [List.append_assoc, List.singleton_append, List.map_cons]

/-- Digits on their own are the written form of the number that they make, with zeros in front. -/
theorem exists_zeros {base : Nat} (large : 1 < base) {digits : List Nat}
    (small : ∀ digit ∈ digits, digit < base) (nonempty : digits ≠ []) :
    ∃ zeros, digits.map Nat.digitChar =
      List.replicate zeros '0' ++ Nat.toDigits base (behind base digits 0) := by
  induction digits with
  | nil => exact absurd rfl nonempty
  | cons digit rest ih =>
    obtain ⟨here, later⟩ := List.forall_mem_cons.1 small
    have first : behind base (digit :: rest) 0 = behind base rest digit := by
      simp [behind]
    rw [first, List.map_cons]
    rcases Nat.eq_zero_or_pos digit with zero | positive
    · rw [zero]
      cases rest with
      | nil => exact ⟨0, (Nat.toDigits_zero base).symm⟩
      | cons second others =>
        obtain ⟨zeros, same⟩ := ih later (List.cons_ne_nil _ _)
        exact ⟨zeros + 1, by rw [same]; rfl⟩
    · refine ⟨0, ?_⟩
      rw [toDigits_behind large later positive, Nat.toDigits_of_lt_base here]
      rfl

/-- A number is written in digits that make it again. -/
theorem exists_digits {base : Nat} (large : 1 < base) (value : Nat) :
    ∃ digits, (∀ digit ∈ digits, digit < base) ∧
      Nat.toDigits base value = digits.map Nat.digitChar ∧ behind base digits 0 = value := by
  induction value using Nat.strongRecOn with
  | ind value ih =>
    by_cases single : value < base
    · exact ⟨[value], List.forall_mem_singleton.2 single, Nat.toDigits_of_lt_base single,
        by simp [behind]⟩
    · have more : base ≤ value := Nat.le_of_not_lt single
      have fewer : value / base < value := Nat.div_lt_self (by omega) large
      obtain ⟨digits, small, written, made⟩ := ih (value / base) fewer
      have last : value % base < base := Nat.mod_lt _ (by omega)
      refine ⟨digits ++ [value % base], ?_, ?_, ?_⟩
      · exact List.forall_mem_append.2 ⟨small, List.forall_mem_singleton.2 last⟩
      · rw [Nat.toDigits_of_base_le large more, written, List.map_append]
        rfl
      · have whole : behind base (digits ++ [value % base]) 0 =
            base * behind base digits 0 + value % base := by
          simp [behind]
        rw [whole, made, Nat.div_add_mod]

/-- Zeros in front of digits do not change the number that they make. -/
theorem behind_zeros {base : Nat} (zeros : Nat) (digits : List Nat) :
    behind base (List.replicate zeros 0 ++ digits) 0 = behind base digits 0 := by
  induction zeros with
  | zero => rfl
  | succ zeros ih => simpa [behind, List.replicate_succ] using ih

/-- The written form of a positive number does not start with a zero. -/
theorem head?_toDigits {base : Nat} (large : 1 < base) (few : base ≤ 16) {value : Nat}
    (positive : 0 < value) : (Nat.toDigits base value).head? ≠ some '0' := by
  induction value using Nat.strongRecOn with
  | ind value ih =>
    by_cases single : value < base
    · rw [Nat.toDigits_of_lt_base single]
      have digit : ∀ digit < 16, 0 < digit → [Nat.digitChar digit].head? ≠ some '0' := by decide
      exact digit value (Nat.lt_of_lt_of_le single few) positive
    · have more : base ≤ value := Nat.le_of_not_lt single
      have fewer : value / base < value := Nat.div_lt_self positive large
      have rest : 0 < value / base := Nat.div_pos more (by omega)
      have front := ih (value / base) fewer rest
      rw [Nat.toDigits_of_base_le large more]
      cases digits : Nat.toDigits base (value / base) with
      | nil => exact absurd digits Nat.toDigits_ne_nil
      | cons first others =>
        rw [digits] at front
        exact front

/-- A written form has zeros in front just if it starts with one and goes on behind it. -/
theorem leads_iff {base : Nat} (large : 1 < base) (few : base ≤ 16) (zeros value : Nat) :
    1 < (List.replicate zeros '0' ++ Nat.toDigits base value).length ∧
      (List.replicate zeros '0' ++ Nat.toDigits base value).head? = some '0' ↔ zeros ≠ 0 := by
  cases zeros with
  | zero =>
    refine iff_of_false ?_ (absurd rfl)
    rintro ⟨long, zero⟩
    rcases Nat.eq_zero_or_pos value with rfl | positive
    · simp at long
    · exact head?_toDigits large few positive zero
  | succ zeros =>
    refine iff_of_true ⟨?_, rfl⟩ (Nat.succ_ne_zero _)
    have filled : 0 < (Nat.toDigits base value).length := Nat.length_toDigits_pos
    rw [List.length_append, List.length_replicate]
    omega

/-! ## Hexadecimal digits -/

/-- Up to the last digit, a character has the value of the digit that it is in lower case. -/
theorem hexValue?_ofNat : ∀ code < 103, ∀ value < 16,
    (hexValue? (Char.ofNat code) = some value ↔
      (Char.ofNat code).toLower = Nat.digitChar value) := by
  decide +kernel

/-- A character with the value of a hexadecimal digit does not come after the last digit. -/
theorem lt_of_hexValue? {char : Char} {value : Nat} (read : hexValue? char = some value) :
    char.toNat < 103 ∧ value < 16 := by
  unfold hexValue? at read
  split at read
  · rename_i range
    have most : char.toNat ≤ 57 := range.2
    cases read
    omega
  · split at read
    · rename_i range
      have most : char.toNat ≤ 102 := range.2
      cases read
      omega
    · split at read
      · rename_i range
        have most : char.toNat ≤ 70 := range.2
        cases read
        omega
      · contradiction

/-- A character that is no capital letter is itself in lower case. -/
theorem toLower_of_isUpper_eq_false {char : Char} (small : char.isUpper = false) :
    char.toLower = char :=
  dif_neg (of_decide_eq_false small)

/-- The capital letters stand between two places. -/
theorem isUpper_iff {char : Char} : char.isUpper = true ↔ 65 ≤ char.toNat ∧ char.toNat ≤ 90 :=
  decide_eq_true_iff

/-- The small form of a capital letter stands 32 places behind it. -/
theorem toNat_toLower (char : Char) :
    char.toLower.toNat =
      if 65 ≤ char.toNat ∧ char.toNat ≤ 90 then char.toNat + 32 else char.toNat := by
  split
  · rename_i capital
    have letters : ∀ code < 91, 65 ≤ code → (Char.ofNat code).toLower.toNat = code + 32 := by
      decide
    have found := letters char.toNat (by omega) capital.1
    rw [Char.ofNat_toNat] at found
    exact found
  · rename_i small
    rw [toLower_of_isUpper_eq_false (Bool.eq_false_iff.2 (mt isUpper_iff.1 small))]

/-- Characters none of which is a capital letter are themselves in lower case. -/
theorem map_toLower_of_isUpper_eq_false {chars : List Char}
    (small : ∀ char ∈ chars, char.isUpper = false) : chars.map Char.toLower = chars := by
  have same : ∀ char ∈ chars, char.toLower = id char := fun char member =>
    toLower_of_isUpper_eq_false (small char member)
  rw [List.map_congr_left same, List.map_id]

/-- A character that is a digit in lower case does not come after the last digit. -/
theorem lt_of_toLower {char : Char} {value : Nat} (small : value < 16)
    (same : char.toLower = Nat.digitChar value) : char.toNat < 103 := by
  have digits : ∀ value < 16, (Nat.digitChar value).toNat < 103 := by decide
  have early := digits value small
  have lower := toNat_toLower char
  rw [same] at lower
  split at lower <;> omega

/-- A character has the value of the hexadecimal digit that it is in lower case. -/
theorem hexValue?_eq_some_iff {char : Char} {value : Nat} :
    hexValue? char = some value ↔ value < 16 ∧ char.toLower = Nat.digitChar value := by
  have known : char.toNat < 103 → value < 16 →
      (hexValue? char = some value ↔ char.toLower = Nat.digitChar value) := by
    intro early small
    have found := hexValue?_ofNat char.toNat early value small
    rwa [Char.ofNat_toNat] at found
  constructor
  · intro read
    obtain ⟨early, small⟩ := lt_of_hexValue? read
    exact ⟨small, (known early small).1 read⟩
  · rintro ⟨small, same⟩
    exact (known (lt_of_toLower small same) small).2 same

/-- Characters have the values of the hexadecimal digits that they are in lower case. -/
theorem mapM_hexValue?_eq_some_iff {chars : List Char} {values : List Nat} :
    chars.mapM hexValue? = some values ↔
      (∀ value ∈ values, value < 16) ∧ chars.map Char.toLower = values.map Nat.digitChar := by
  induction chars generalizing values with
  | nil =>
    rw [List.mapM_nil]
    constructor
    · rintro ⟨⟩
      exact ⟨List.forall_mem_nil _, rfl⟩
    · rintro ⟨-, empty⟩
      rw [List.map_eq_nil_iff.1 empty.symm]
      rfl
  | cons char rest ih =>
    rw [List.mapM_cons]
    constructor
    · intro read
      obtain ⟨first, here, read⟩ := Option.bind_eq_some_iff.1 read
      obtain ⟨others, later, same⟩ := Option.bind_eq_some_iff.1 read
      cases same
      obtain ⟨small, lower⟩ := hexValue?_eq_some_iff.1 here
      obtain ⟨smaller, lowers⟩ := ih.1 later
      refine ⟨List.forall_mem_cons.2 ⟨small, smaller⟩, ?_⟩
      rw [List.map_cons, List.map_cons, lower, lowers]
    · rintro ⟨small, same⟩
      cases values with
      | nil => contradiction
      | cons first others =>
        obtain ⟨here, later⟩ := List.forall_mem_cons.1 small
        obtain ⟨lower, lowers⟩ := List.cons.inj same
        rw [hexValue?_eq_some_iff.2 ⟨here, lower⟩, ih.2 ⟨later, lowers⟩]
        rfl

/-- Hexadecimal digits stand for the number whose written form they are, but for the case of letters
and for zeros in front. -/
theorem ofHexadecimal?_eq_some_iff {digits : List Char} {value : Nat} :
    ofHexadecimal? digits = some value ↔
      ∃ zeros, digits.map Char.toLower = List.replicate zeros '0' ++ hexadecimal value := by
  unfold ofHexadecimal?
  constructor
  · intro read
    split at read
    · contradiction
    · rename_i filled
      obtain ⟨values, found, rfl⟩ := Option.map_eq_some_iff.1 read
      obtain ⟨small, same⟩ := mapM_hexValue?_eq_some_iff.1 found
      have nonEmpty : values ≠ [] := by
        rintro rfl
        exact filled (List.isEmpty_iff.2 (List.map_eq_nil_iff.1 same))
      obtain ⟨zeros, written⟩ := exists_zeros (by decide) small nonEmpty
      exact ⟨zeros, same.trans written⟩
  · rintro ⟨zeros, same⟩
    obtain ⟨values, small, written, rfl⟩ := exists_digits (by decide : 1 < 16) value
    have filled : ¬ digits.isEmpty = true := by
      intro empty
      rw [List.isEmpty_iff.1 empty] at same
      exact Nat.toDigits_ne_nil (List.append_eq_nil_iff.1 same.symm).2
    have padded : ∀ value ∈ List.replicate zeros 0 ++ values, value < 16 := by
      refine List.forall_mem_append.2 ⟨fun value member => ?_, small⟩
      rw [List.eq_of_mem_replicate member]
      decide
    have found : digits.mapM hexValue? = some (List.replicate zeros 0 ++ values) := by
      refine mapM_hexValue?_eq_some_iff.2 ⟨padded, ?_⟩
      rw [same, hexadecimal, written, List.map_append, List.map_replicate]
      rfl
    rw [if_neg filled, found]
    exact congrArg some (behind_zeros zeros values)

end WalletCore.Text
