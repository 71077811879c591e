import TransitFeed.Text.Utf8

/-! # Reading back what was encoded

Decoding undoes encoding for every text, because every character starts and continues with octets
that the bounds of a pending character allow. Octets that have a meaning of their own in a file of
comma-separated values are ASCII, and ASCII octets stand for themselves only.
-/

namespace TransitFeed.Utf8

theorem toNat_octet {n : Nat} (h : n < 256) : (UInt8.ofNat n).toNat = n :=
  UInt8.toNat_ofNat_of_lt' h

theorem octet_lt {n : Nat} {bound : UInt8} (h : n < 256) :
    UInt8.ofNat n < bound ↔ n < bound.toNat := by
  rw [UInt8.lt_iff_toNat_lt, toNat_octet h]

theorem octet_eq {n : Nat} {octet : UInt8} (h : n < 256) :
    UInt8.ofNat n = octet ↔ n = octet.toNat := by
  rw [← UInt8.toNat_inj, toNat_octet h]

theorem start_octet {n : Nat} (h : n < 256) :
    start (UInt8.ofNat n) =
      if n < 0x80 then ([Char.ofNat n], none)
      else if n < 0xC2 then ([replacement], none)
      else if n < 0xE0 then ([], some ⟨n % 0x20, 1, 0x80, 0xBF⟩)
      else if n < 0xF0 then
        ([], some ⟨n % 0x10, 2, if n = 0xE0 then 0xA0 else 0x80, if n = 0xED then 0x9F else 0xBF⟩)
      else if n < 0xF5 then
        ([], some ⟨n % 0x08, 3, if n = 0xF0 then 0x90 else 0x80, if n = 0xF4 then 0x8F else 0xBF⟩)
      else ([replacement], none) := by
  simp only [start, octet_lt h, octet_eq h, toNat_octet h]
  rfl

theorem decodeFrom_ascii {n : Nat} (h : n < 0x80) (rest : Octets) :
    decodeFrom none (UInt8.ofNat n :: rest) = Char.ofNat n :: decodeFrom none rest := by
  simp only [decodeFrom, step, start_octet (show n < 256 by omega), h, if_true,
    List.cons_append, List.nil_append]

/-- An octet in the bounds completes a character or leaves one octet less to come. -/
theorem decodeFrom_follow {bits missing n : Nat} {low high : UInt8} (rest : Octets) (h : n < 256)
    (above : low.toNat ≤ n) (below : n ≤ high.toNat) :
    decodeFrom (some ⟨bits, missing, low, high⟩) (UInt8.ofNat n :: rest) =
      if missing = 1 then Char.ofNat (bits * 0x40 + n % 0x40) :: decodeFrom none rest
      else decodeFrom (some ⟨bits * 0x40 + n % 0x40, missing - 1, 0x80, 0xBF⟩) rest := by
  have inside : low ≤ UInt8.ofNat n ∧ UInt8.ofNat n ≤ high := by
    simp only [UInt8.le_iff_toNat_le, toNat_octet h]
    exact ⟨above, below⟩
  simp only [decodeFrom, step, inside, and_self, if_true, toNat_octet h]
  split <;> rfl

theorem decodeFrom_tail {bits missing k : Nat} (rest : Octets) :
    decodeFrom (some ⟨bits, missing, 0x80, 0xBF⟩) (UInt8.ofNat (k % 0x40 + 0x80) :: rest) =
      if missing = 1 then Char.ofNat (bits * 0x40 + k % 0x40) :: decodeFrom none rest
      else decodeFrom (some ⟨bits * 0x40 + k % 0x40, missing - 1, 0x80, 0xBF⟩) rest := by
  have above : (0x80 : UInt8).toNat ≤ k % 0x40 + 0x80 := by
    show 0x80 ≤ _
    omega
  have below : k % 0x40 + 0x80 ≤ (0xBF : UInt8).toNat := by
    show _ ≤ 0xBF
    omega
  rw [decodeFrom_follow rest (by omega) above below]
  have bits_eq : (k % 0x40 + 0x80) % 0x40 = k % 0x40 := by omega
  rw [bits_eq]

theorem bound_toNat {p : Prop} [Decidable p] (a b : UInt8) :
    (if p then a else b).toNat = if p then a.toNat else b.toNat :=
  apply_ite UInt8.toNat p a b

theorem decodeFrom_char (c : Char) (rest : Octets) :
    decodeFrom none (String.utf8EncodeChar c ++ rest) = c :: decodeFrom none rest := by
  have valid := c.valid
  simp only [UInt32.isValidChar, Nat.isValidChar] at valid
  have back : Char.ofNat c.val.toNat = c := Char.ofNat_toNat c
  unfold String.utf8EncodeChar
  generalize c.val.toNat = v at valid back ⊢
  subst back
  simp only
  split
  · exact decodeFrom_ascii (by omega) rest
  · split
    · have first : v / 64 % 0x20 + 0xC0 < 256 := by omega
      simp only [List.cons_append, List.nil_append]
      rw [decodeFrom, step, start_octet first, if_neg (by omega), if_neg (by omega),
        if_pos (by omega)]
      simp only [List.nil_append, decodeFrom_tail, if_true, List.cons.injEq, and_true]
      congr 1
      omega
    · split
      · have first : v / 4096 % 0x10 + 0xE0 < 256 := by omega
        have second : v / 64 % 0x40 + 0x80 < 256 := by omega
        simp only [List.cons_append, List.nil_append]
        rw [decodeFrom, step, start_octet first, if_neg (by omega), if_neg (by omega),
          if_neg (by omega), if_pos (by omega)]
        simp only [List.nil_append]
        rw [decodeFrom_follow _ second
          (by rw [bound_toNat]; show (if _ then 0xA0 else 0x80) ≤ _; split <;> omega)
          (by rw [bound_toNat]; show _ ≤ (if _ then 0x9F else 0xBF); split <;> omega),
          if_neg (by decide), decodeFrom_tail, if_pos rfl]
        simp only [List.cons.injEq, and_true]
        congr 1
        omega
      · have first : v / 262144 % 0x08 + 0xF0 < 256 := by omega
        have second : v / 4096 % 0x40 + 0x80 < 256 := by omega
        simp only [List.cons_append, List.nil_append]
        rw [decodeFrom, step, start_octet first, if_neg (by omega), if_neg (by omega),
          if_neg (by omega), if_neg (by omega), if_pos (by omega)]
        simp only [List.nil_append]
        rw [decodeFrom_follow _ second
          (by rw [bound_toNat]; show (if _ then 0x90 else 0x80) ≤ _; split <;> omega)
          (by rw [bound_toNat]; show _ ≤ (if _ then 0x8F else 0xBF); split <;> omega),
          if_neg (by decide), decodeFrom_tail, if_neg (by decide), decodeFrom_tail, if_pos rfl]
        simp only [List.cons.injEq, and_true]
        congr 1
        omega

theorem decodeFrom_flatMap (text : List Char) :
    decodeFrom none (text.flatMap String.utf8EncodeChar) = text := by
  induction text with
  | nil => rfl
  | cons c rest ih => rw [List.flatMap_cons, decodeFrom_char, ih]

/-- Every text is read as it was written. -/
@[simp] theorem decode_encode (text : String) : decode (encode text) = text := by
  rw [decode, encode, decodeFrom_flatMap, String.ofList_toList]

theorem encode_append (a b : String) : encode (a ++ b) = encode a ++ encode b := by
  rw [encode, encode, encode, String.toList_append, List.flatMap_append]

theorem encode_injective {a b : String} (h : encode a = encode b) : a = b := by
  rw [← decode_encode a, h, decode_encode]

theorem encode_eq_nil {text : String} : encode text = [] ↔ text = "" := by
  constructor
  · intro h
    exact encode_injective h
  · rintro rfl
    rfl

theorem decodeFrom_pending_ne_nil (p : Pending) (octets : Octets) :
    decodeFrom (some p) octets ≠ [] := by
  induction octets generalizing p with
  | nil => simp [decodeFrom]
  | cons octet rest ih =>
      simp only [decodeFrom, step]
      split
      · split
        · simp
        · simpa using ih _
      · simp

theorem decode_eq_empty {octets : Octets} : decode octets = "" ↔ octets = [] := by
  constructor
  · intro h
    cases octets with
    | nil => rfl
    | cons octet rest =>
        have none_left : decodeFrom none (octet :: rest) = [] := by
          simpa [decode] using h
        simp only [decodeFrom, step, start] at none_left
        split at none_left
        · simp at none_left
        · split at none_left
          · simp at none_left
          · split at none_left
            · exact absurd none_left (decodeFrom_pending_ne_nil _ _)
            · split at none_left
              · exact absurd none_left (decodeFrom_pending_ne_nil _ _)
              · split at none_left
                · exact absurd none_left (decodeFrom_pending_ne_nil _ _)
                · simp at none_left
  · rintro rfl
    rfl

theorem utf8EncodeChar_ascii {c : Char} (h : c.toNat < 0x80) :
    String.utf8EncodeChar c = [UInt8.ofNat c.toNat] := by
  have low : c.val.toNat ≤ 0x7F := Nat.le_of_lt_succ h
  simp only [String.utf8EncodeChar, low, if_true]
  rfl

theorem octet_of_wide {c : Char} (h : 0x80 ≤ c.toNat) :
    ∀ octet ∈ String.utf8EncodeChar c, 0x80 ≤ octet.toNat := by
  have wide : ¬ c.val.toNat ≤ 0x7F := Nat.not_le_of_lt h
  intro octet member
  simp only [String.utf8EncodeChar, wide, if_false] at member
  split at member
  · simp only [List.mem_cons, List.not_mem_nil, or_false] at member
    rcases member with rfl | rfl <;> rw [toNat_octet (by omega)] <;> omega
  · split at member
    · simp only [List.mem_cons, List.not_mem_nil, or_false] at member
      rcases member with rfl | rfl | rfl <;> rw [toNat_octet (by omega)] <;> omega
    · simp only [List.mem_cons, List.not_mem_nil, or_false] at member
      rcases member with rfl | rfl | rfl | rfl <;> rw [toNat_octet (by omega)] <;> omega

end TransitFeed.Utf8
