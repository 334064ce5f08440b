namespace ClientGen.Text

def bytes (s : String) : List UInt8 := s.toUTF8.data.toList

theorem bytes_eq (s : String) : bytes s = s.toList.flatMap String.utf8EncodeChar := by
  rw [bytes, String.toUTF8_eq_toByteArray, ← String.utf8Encode_toList, List.utf8Encode,
    List.toList_data_toByteArray]

-- One step of the comparison: the first byte decides, or it is the same and the rest decides.
theorem byte_cons_lt {m n : Nat} {s t : List UInt8} (small : n < 256)
    (order : m < n ∨ m = n ∧ s < t) : UInt8.ofNat m :: s < UInt8.ofNat n :: t := by
  rcases order with less | ⟨rfl, rest⟩
  · refine List.cons_lt_cons_iff.mpr (.inl ?_)
    rw [UInt8.lt_iff_toNat_lt, UInt8.toNat_ofNat', UInt8.toNat_ofNat']
    omega
  · exact List.cons_lt_cons_iff.mpr (.inr ⟨rfl, rest⟩)

theorem code_lt (c : Char) : c.val.toNat < 1114112 := by
  have valid := c.valid
  simp only [UInt32.isValidChar, Nat.isValidChar] at valid
  omega

-- The bytes after the first hold six bits each. Where all higher bits agree, they decide.
theorem lowByte_lt {m n : Nat} {s t : List UInt8} (less : m < n) (same : m / 64 = n / 64) :
    UInt8.ofNat (m % 64 + 0x80) :: s < UInt8.ofNat (n % 64 + 0x80) :: t :=
  byte_cons_lt (by omega) (.inl (by omega))

theorem lowBytes_lt {m n : Nat} {s t : List UInt8} (less : m < n) (same : m / 4096 = n / 4096) :
    UInt8.ofNat (m / 64 % 64 + 0x80) :: UInt8.ofNat (m % 64 + 0x80) :: s <
      UInt8.ofNat (n / 64 % 64 + 0x80) :: UInt8.ofNat (n % 64 + 0x80) :: t := by
  by_cases upper : m / 64 = n / 64
  · exact byte_cons_lt (by omega) (.inr ⟨by omega, lowByte_lt less upper⟩)
  · exact byte_cons_lt (by omega) (.inl (by omega))

theorem allLowBytes_lt {m n : Nat} {s t : List UInt8} (less : m < n)
    (same : m / 262144 = n / 262144) :
    UInt8.ofNat (m / 4096 % 64 + 0x80) :: UInt8.ofNat (m / 64 % 64 + 0x80) ::
        UInt8.ofNat (m % 64 + 0x80) :: s <
      UInt8.ofNat (n / 4096 % 64 + 0x80) :: UInt8.ofNat (n / 64 % 64 + 0x80) ::
        UInt8.ofNat (n % 64 + 0x80) :: t := by
  by_cases upper : m / 4096 = n / 4096
  · exact byte_cons_lt (by omega) (.inr ⟨by omega, lowBytes_lt less upper⟩)
  · exact byte_cons_lt (by omega) (.inl (by omega))

-- The cases are the lengths of the encodings. A longer one starts with a greater byte.
theorem encoded_lt {c d : Char} (less : c < d) (s t : List UInt8) :
    String.utf8EncodeChar c ++ s < String.utf8EncodeChar d ++ t := by
  have order : c.val.toNat < d.val.toNat := less
  have bound := code_lt d
  unfold String.utf8EncodeChar
  generalize c.val.toNat = m at *
  generalize d.val.toNat = n at *
  dsimp only
  by_cases one : n ≤ 0x7f
  · rw [if_pos one, if_pos (by omega)]
    exact byte_cons_lt (by omega) (.inl order)
  rw [if_neg one]
  by_cases two : n ≤ 0x7ff
  · rw [if_pos two]
    split
    · exact byte_cons_lt (by omega) (.inl (by omega))
    rw [if_pos (by omega)]
    by_cases first : m / 64 = n / 64
    · exact byte_cons_lt (by omega) (.inr ⟨by omega, lowByte_lt order first⟩)
    · exact byte_cons_lt (by omega) (.inl (by omega))
  rw [if_neg two]
  by_cases three : n ≤ 0xffff
  · rw [if_pos three]
    split
    · exact byte_cons_lt (by omega) (.inl (by omega))
    split
    · exact byte_cons_lt (by omega) (.inl (by omega))
    rw [if_pos (by omega)]
    by_cases first : m / 4096 = n / 4096
    · exact byte_cons_lt (by omega) (.inr ⟨by omega, lowBytes_lt order first⟩)
    · exact byte_cons_lt (by omega) (.inl (by omega))
  rw [if_neg three]
  split
  · exact byte_cons_lt (by omega) (.inl (by omega))
  split
  · exact byte_cons_lt (by omega) (.inl (by omega))
  split
  · exact byte_cons_lt (by omega) (.inl (by omega))
  by_cases first : m / 262144 = n / 262144
  · exact byte_cons_lt (by omega) (.inr ⟨by omega, allLowBytes_lt order first⟩)
  · exact byte_cons_lt (by omega) (.inl (by omega))

theorem encodings_lt {cs ds : List Char} (less : cs < ds) :
    cs.flatMap String.utf8EncodeChar < ds.flatMap String.utf8EncodeChar := by
  induction cs generalizing ds with
  | nil =>
    cases ds with
    | nil => exact absurd less (List.lt_irrefl _)
    | cons d ds =>
      cases encoded : String.utf8EncodeChar d with
      | nil => exact absurd encoded String.utf8EncodeChar_ne_nil
      | cons b bs => simp [encoded]
  | cons c cs ih =>
    cases ds with
    | nil => exact absurd less (List.not_lt_nil _)
    | cons d ds =>
      simp only [List.flatMap_cons]
      rcases List.cons_lt_cons_iff.mp less with first | ⟨rfl, rest⟩
      · exact encoded_lt first _ _
      · exact List.append_left_lt (ih rest)

theorem bytes_lt_iff {a b : String} : bytes a < bytes b ↔ a < b := by
  rw [bytes_eq, bytes_eq]
  constructor
  · intro less
    apply Classical.byContradiction
    intro above
    have characters : ¬a.toList < b.toList := above
    rcases List.le_iff_lt_or_eq.mp (List.not_lt.mp characters) with reverse | same
    · exact List.lt_asymm less (encodings_lt reverse)
    · rw [same] at less
      exact List.lt_irrefl _ less
  · intro less
    exact encodings_lt less

theorem bytes_le_iff {a b : String} : bytes a ≤ bytes b ↔ a ≤ b := by
  rw [← List.not_lt, bytes_lt_iff, String.not_lt]

def ProperBeginning (a b : String) : Prop := a.toList <+: b.toList ∧ a ≠ b

theorem ProperBeginning.lt {a b : String} (beginning : ProperBeginning a b) : a < b := by
  obtain ⟨⟨rest, whole⟩, differ⟩ := beginning
  cases rest with
  | nil =>
    rw [List.append_nil] at whole
    exact absurd (String.toList_inj.mp whole) differ
  | cons c rest =>
    have longer : a.toList < a.toList ++ c :: rest := by
      have tail : a.toList ++ [] < a.toList ++ c :: rest := List.append_left_lt (List.nil_lt_cons c rest)
      rwa [List.append_nil] at tail
    rw [whole] at longer
    exact longer

end ClientGen.Text
