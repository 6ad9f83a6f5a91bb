import WorkflowClient.Text.Utf8

/-!
# Encoded characters are read back

The bytes of a character are a lead byte, which says how many bytes there are, and continuation
bytes with six bits of the code point each. Reading takes exactly these bytes from the front and
gives the character back, so the encoding of a text is well formed and reads back whole. Nothing
else is read: bytes that are read are the encoding of what was read. No byte of a character is an
ASCII byte unless the character itself is.
-/

namespace WorkflowClient.Text.Utf8

/-- A byte announces a length by its value alone. -/
theorem leadLength?_eq (lead : UInt8) :
    leadLength? lead =
      if lead.toNat ≤ 0x7f then some 1
      else if 0xc2 ≤ lead.toNat ∧ lead.toNat ≤ 0xdf then some 2
      else if 0xe0 ≤ lead.toNat ∧ lead.toNat ≤ 0xef then some 3
      else if 0xf0 ≤ lead.toNat ∧ lead.toNat ≤ 0xf4 then some 4
      else none := by
  simp [leadLength?, UInt8.le_iff_toNat_le]

/-- A continuation byte is one by its value alone. -/
theorem isContinuation_iff (byte : UInt8) :
    isContinuation byte = true ↔ 0x80 ≤ byte.toNat ∧ byte.toNat ≤ 0xbf := by
  simp [isContinuation, UInt8.le_iff_toNat_le]

/-- Which second bytes may follow is decided by the values of the two bytes. -/
theorem mayFollow_iff (lead second : UInt8) :
    mayFollow lead second = true ↔
      (if lead.toNat = 0xe0 then 0xa0 else if lead.toNat = 0xf0 then 0x90 else 0x80) ≤
          second.toNat ∧
        second.toNat ≤
          (if lead.toNat = 0xed then 0x9f else if lead.toNat = 0xf4 then 0x8f else 0xbf) := by
  by_cases overlongThree : lead.toNat = 0xe0
  · obtain rfl : lead = 0xe0 := UInt8.toNat_inj.mp overlongThree
    simp [mayFollow, UInt8.le_iff_toNat_le]
  by_cases surrogate : lead.toNat = 0xed
  · obtain rfl : lead = 0xed := UInt8.toNat_inj.mp surrogate
    simp [mayFollow, UInt8.le_iff_toNat_le]
  by_cases overlongFour : lead.toNat = 0xf0
  · obtain rfl : lead = 0xf0 := UInt8.toNat_inj.mp overlongFour
    simp [mayFollow, UInt8.le_iff_toNat_le]
  by_cases beyond : lead.toNat = 0xf4
  · obtain rfl : lead = 0xf4 := UInt8.toNat_inj.mp beyond
    simp [mayFollow, UInt8.le_iff_toNat_le]
  have unrestricted : mayFollow lead second = isContinuation second := by
    simp [mayFollow, ← UInt8.toNat_inj, overlongThree, surrogate, overlongFour, beyond]
  rw [unrestricted, isContinuation_iff]
  simp [overlongThree, surrogate, overlongFour, beyond]

/-- One byte is read. -/
theorem decodeFrom_one {lead : UInt8} (announced : leadLength? lead = some 1) (index : Nat)
    (rest : List UInt8) :
    decodeFrom index (lead :: rest) =
      (Char.ofNat lead.toNat :: ·) <$> decodeFrom (index + 1) rest := by
  rw [decodeFrom.eq_def]
  simp only [announced]

/-- Two bytes are read. -/
theorem decodeFrom_two {lead second : UInt8} (announced : leadLength? lead = some 2)
    (continued : isContinuation second = true) (index : Nat) (rest : List UInt8) :
    decodeFrom index (lead :: second :: rest) =
      (Char.ofNat (lead.toNat % 0x20 * 0x40 + payload second) :: ·) <$>
        decodeFrom (index + 2) rest := by
  rw [decodeFrom.eq_def]
  simp only [announced, continued, if_true]

/-- Three bytes are read. -/
theorem decodeFrom_three {lead second third : UInt8} (announced : leadLength? lead = some 3)
    (follows : mayFollow lead second = true) (continued : isContinuation third = true) (index : Nat)
    (rest : List UInt8) :
    decodeFrom index (lead :: second :: third :: rest) =
      (Char.ofNat ((lead.toNat % 0x10 * 0x40 + payload second) * 0x40 + payload third) :: ·) <$>
        decodeFrom (index + 3) rest := by
  rw [decodeFrom.eq_def]
  simp only [announced, follows, continued, if_true]

/-- Four bytes are read. -/
theorem decodeFrom_four {lead second third fourth : UInt8} (announced : leadLength? lead = some 4)
    (follows : mayFollow lead second = true) (continued : isContinuation third = true)
    (finished : isContinuation fourth = true) (index : Nat) (rest : List UInt8) :
    decodeFrom index (lead :: second :: third :: fourth :: rest) =
      (Char.ofNat (((lead.toNat % 0x08 * 0x40 + payload second) * 0x40 + payload third) * 0x40 +
        payload fourth) :: ·) <$> decodeFrom (index + 4) rest := by
  rw [decodeFrom.eq_def]
  simp only [announced, follows, continued, finished, if_true]

/-- The value of a byte made of a small number. -/
theorem toNat_ofNat {n : Nat} (small : n < 256) : (UInt8.ofNat n).toNat = n :=
  UInt8.toNat_ofNat_of_lt' small

/-- Continuation bytes carry their six bits. -/
theorem continuation_ofNat (n : Nat) :
    isContinuation (UInt8.ofNat (n % 0x40 + 0x80)) = true ∧
      payload (UInt8.ofNat (n % 0x40 + 0x80)) = n % 0x40 := by
  have value : (UInt8.ofNat (n % 0x40 + 0x80)).toNat = n % 0x40 + 0x80 := toNat_ofNat (by omega)
  rw [isContinuation_iff, payload, value]
  omega

/-- A code point is no surrogate and at most U+10FFFF. -/
theorem codePoint_bounds (c : Char) : c.toNat < 0xd800 ∨ 0xdfff < c.toNat ∧ c.toNat < 0x110000 :=
  c.valid

/-- The bytes of a character are read back as the character, and the rest is left. -/
theorem decodeFrom_encodeChar (index : Nat) (c : Char) (rest : List UInt8) :
    decodeFrom index (String.utf8EncodeChar c ++ rest) =
      (c :: ·) <$> decodeFrom (index + c.utf8Size) rest := by
  have valid : c.toNat < 0xd800 ∨ 0xdfff < c.toNat ∧ c.toNat < 0x110000 := codePoint_bounds c
  have restored {n : Nat} (same : n = c.toNat) : Char.ofNat n = c := same ▸ Char.ofNat_toNat c
  have size : (String.utf8EncodeChar c).length = c.utf8Size := String.length_utf8EncodeChar c
  have code : c.val.toNat = c.toNat := rfl
  rw [← size]
  simp only [String.utf8EncodeChar, code]
  split
  · next one =>
    have lead : (UInt8.ofNat c.toNat).toNat = c.toNat := toNat_ofNat (by omega)
    have announced : leadLength? (UInt8.ofNat c.toNat) = some 1 := by
      rw [leadLength?_eq, lead, if_pos one]
    rw [List.singleton_append, decodeFrom_one announced, lead, restored rfl]
    rfl
  split
  · next notOne two =>
    have lead : (UInt8.ofNat (c.toNat / 64 % 0x20 + 0xc0)).toNat = c.toNat / 64 + 0xc0 := by
      rw [toNat_ofNat (by omega)]
      omega
    have announced : leadLength? (UInt8.ofNat (c.toNat / 64 % 0x20 + 0xc0)) = some 2 := by
      rw [leadLength?_eq, lead, if_neg (by omega), if_pos (by omega)]
    obtain ⟨continued, bits⟩ := continuation_ofNat c.toNat
    rw [List.cons_append, List.singleton_append, decodeFrom_two announced continued, lead, bits,
      restored (by omega)]
    rfl
  split
  · next notOne notTwo three =>
    have lead : (UInt8.ofNat (c.toNat / 4096 % 0x10 + 0xe0)).toNat = c.toNat / 4096 + 0xe0 := by
      rw [toNat_ofNat (by omega)]
      omega
    have announced : leadLength? (UInt8.ofNat (c.toNat / 4096 % 0x10 + 0xe0)) = some 3 := by
      rw [leadLength?_eq, lead, if_neg (by omega), if_neg (by omega), if_pos (by omega)]
    have second : (UInt8.ofNat (c.toNat / 64 % 0x40 + 0x80)).toNat = c.toNat / 64 % 0x40 + 0x80 :=
      toNat_ofNat (by omega)
    -- Below U+0800 two bytes do, and U+D800 to U+DFFF are no characters: so the second byte is
    -- narrowed.
    have follows : mayFollow (UInt8.ofNat (c.toNat / 4096 % 0x10 + 0xe0))
        (UInt8.ofNat (c.toNat / 64 % 0x40 + 0x80)) = true := by
      rw [mayFollow_iff, lead, second]
      constructor <;> repeat' split
      all_goals omega
    obtain ⟨-, upper⟩ := continuation_ofNat (c.toNat / 64)
    obtain ⟨continued, bits⟩ := continuation_ofNat c.toNat
    rw [List.cons_append, List.cons_append, List.singleton_append,
      decodeFrom_three announced follows continued, lead, upper, bits, restored (by omega)]
    rfl
  · next notOne notTwo notThree =>
    have lead : (UInt8.ofNat (c.toNat / 262144 % 0x08 + 0xf0)).toNat = c.toNat / 262144 + 0xf0 := by
      rw [toNat_ofNat (by omega)]
      omega
    have announced : leadLength? (UInt8.ofNat (c.toNat / 262144 % 0x08 + 0xf0)) = some 4 := by
      rw [leadLength?_eq, lead, if_neg (by omega), if_neg (by omega), if_neg (by omega),
        if_pos (by omega)]
    have second : (UInt8.ofNat (c.toNat / 4096 % 0x40 + 0x80)).toNat =
        c.toNat / 4096 % 0x40 + 0x80 := toNat_ofNat (by omega)
    have follows : mayFollow (UInt8.ofNat (c.toNat / 262144 % 0x08 + 0xf0))
        (UInt8.ofNat (c.toNat / 4096 % 0x40 + 0x80)) = true := by
      rw [mayFollow_iff, lead, second]
      constructor <;> repeat' split
      all_goals omega
    obtain ⟨-, highest⟩ := continuation_ofNat (c.toNat / 4096)
    obtain ⟨continued, upper⟩ := continuation_ofNat (c.toNat / 64)
    obtain ⟨finished, bits⟩ := continuation_ofNat c.toNat
    rw [List.cons_append, List.cons_append, List.cons_append, List.singleton_append,
      decodeFrom_four announced follows continued finished, lead, highest, upper, bits,
      restored (by omega)]
    rfl

/-- The encoding of a text is read back as the text. -/
theorem decode_encode (text : List Char) : decode (encode text) = .ok text := by
  have reads (index : Nat) : decodeFrom index (encode text) = .ok text := by
    induction text generalizing index with
    | nil => rfl
    | cons c rest inductionHypothesis =>
      have split : encode (c :: rest) = String.utf8EncodeChar c ++ encode rest := rfl
      rw [split, decodeFrom_encodeChar, inductionHypothesis]
      rfl
  exact reads 0

/-- A number in the range of the code points is the code point of its character. -/
theorem codePoint_ofNat {n : Nat} (valid : n < 0xd800 ∨ 0xdfff < n ∧ n < 0x110000) :
    (Char.ofNat n).val.toNat = n := by
  have inRange : n.isValidChar := valid
  rw [Char.ofNat, dif_pos inRange]
  rfl

/-- The byte of a byte's value is the byte. -/
theorem ofNat_of_toNat {n : Nat} (byte : UInt8) (same : n = byte.toNat) : UInt8.ofNat n = byte := by
  rw [same, UInt8.ofNat_toNat]

/-- The values of the lead bytes, by the length that they announce. -/
theorem leadLength?_bounds {lead : UInt8} {length : Nat}
    (announced : leadLength? lead = some length) :
    length = 1 ∧ lead.toNat ≤ 0x7f ∨ length = 2 ∧ 0xc2 ≤ lead.toNat ∧ lead.toNat ≤ 0xdf ∨
      length = 3 ∧ 0xe0 ≤ lead.toNat ∧ lead.toNat ≤ 0xef ∨
      length = 4 ∧ 0xf0 ≤ lead.toNat ∧ lead.toNat ≤ 0xf4 := by
  rw [leadLength?_eq] at announced
  repeat' split at announced
  all_goals simp_all

/-- The values of the second bytes: a continuation byte, narrowed behind four of the lead bytes. -/
theorem mayFollow_bounds {lead second : UInt8} (follows : mayFollow lead second = true) :
    (0x80 ≤ second.toNat ∧ second.toNat ≤ 0xbf) ∧ (lead.toNat = 0xe0 → 0xa0 ≤ second.toNat) ∧
      (lead.toNat = 0xed → second.toNat ≤ 0x9f) ∧ (lead.toNat = 0xf0 → 0x90 ≤ second.toNat) ∧
      (lead.toNat = 0xf4 → second.toNat ≤ 0x8f) := by
  rw [mayFollow_iff] at follows
  obtain ⟨least, greatest⟩ := follows
  repeat' split at least
  all_goals repeat' split at greatest
  all_goals omega

/-- A byte that stands alone encodes the character that is read for it. -/
theorem encodeChar_one {lead : UInt8} (announced : leadLength? lead = some 1) :
    String.utf8EncodeChar (Char.ofNat lead.toNat) = [lead] := by
  have bounds := leadLength?_bounds announced
  rw [String.utf8EncodeChar, codePoint_ofNat (by omega), if_pos (by omega), UInt8.ofNat_toNat]

/-- Two bytes that belong together encode the character that is read for them. -/
theorem encodeChar_two {lead second : UInt8} (announced : leadLength? lead = some 2)
    (continued : isContinuation second = true) :
    String.utf8EncodeChar (Char.ofNat (lead.toNat % 0x20 * 0x40 + payload second)) =
      [lead, second] := by
  have bounds := leadLength?_bounds announced
  have follows := (isContinuation_iff second).mp continued
  rw [payload, String.utf8EncodeChar, codePoint_ofNat (by omega), if_neg (by omega),
    if_pos (by omega)]
  rw [ofNat_of_toNat lead (by omega), ofNat_of_toNat second (by omega)]

/-- Three bytes that belong together encode the character that is read for them. No two bytes would
do, and their code point is no surrogate, since the second byte is narrowed. -/
theorem encodeChar_three {lead second third : UInt8} (announced : leadLength? lead = some 3)
    (follows : mayFollow lead second = true) (continued : isContinuation third = true) :
    String.utf8EncodeChar
        (Char.ofNat ((lead.toNat % 0x10 * 0x40 + payload second) * 0x40 + payload third)) =
      [lead, second, third] := by
  have bounds := leadLength?_bounds announced
  have narrowed := mayFollow_bounds follows
  have last := (isContinuation_iff third).mp continued
  rw [payload, payload, String.utf8EncodeChar, codePoint_ofNat (by omega), if_neg (by omega),
    if_neg (by omega), if_pos (by omega)]
  rw [ofNat_of_toNat lead (by omega), ofNat_of_toNat second (by omega),
    ofNat_of_toNat third (by omega)]

/-- Four bytes that belong together encode the character that is read for them. -/
theorem encodeChar_four {lead second third fourth : UInt8} (announced : leadLength? lead = some 4)
    (follows : mayFollow lead second = true) (continued : isContinuation third = true)
    (finished : isContinuation fourth = true) :
    String.utf8EncodeChar (Char.ofNat (((lead.toNat % 0x08 * 0x40 + payload second) * 0x40 +
        payload third) * 0x40 + payload fourth)) = [lead, second, third, fourth] := by
  have bounds := leadLength?_bounds announced
  have narrowed := mayFollow_bounds follows
  have middle := (isContinuation_iff third).mp continued
  have last := (isContinuation_iff fourth).mp finished
  rw [payload, payload, payload, String.utf8EncodeChar, codePoint_ofNat (by omega),
    if_neg (by omega), if_neg (by omega), if_neg (by omega)]
  rw [ofNat_of_toNat lead (by omega), ofNat_of_toNat second (by omega),
    ofNat_of_toNat third (by omega), ofNat_of_toNat fourth (by omega)]

/-- A reading that puts a character before the rest has read the rest. -/
theorem map_cons_eq_ok {c : Char} {read : Except Fault (List Char)} {text : List Char}
    (taken : (c :: ·) <$> read = .ok text) : ∃ others, read = .ok others ∧ text = c :: others := by
  cases read with
  | error fault => exact nomatch taken
  | ok others => exact ⟨others, rfl, (Except.ok.inj taken).symm⟩

/-- Bytes that are read encode what was read, wherever they stand. -/
theorem encode_of_decodeFrom {index : Nat} {bytes : List UInt8} {text : List Char}
    (read : decodeFrom index bytes = .ok text) : encode text = bytes := by
  fun_induction decodeFrom index bytes generalizing text with
  | case1 => exact Except.ok.inj read ▸ rfl
  | case2 index lead rest announced inductionHypothesis =>
    obtain ⟨others, later, rfl⟩ := map_cons_eq_ok read
    rw [encode, List.flatMap_cons, encodeChar_one announced]
    exact congrArg _ (inductionHypothesis later)
  | case4 index lead announced second rest continued inductionHypothesis =>
    obtain ⟨others, later, rfl⟩ := map_cons_eq_ok read
    rw [encode, List.flatMap_cons, encodeChar_two announced continued]
    exact congrArg _ (inductionHypothesis later)
  | case8 index lead announced second follows third rest continued inductionHypothesis =>
    obtain ⟨others, later, rfl⟩ := map_cons_eq_ok read
    rw [encode, List.flatMap_cons, encodeChar_three announced follows continued]
    exact congrArg _ (inductionHypothesis later)
  | case14 index lead length notOne notTwo notThree announced second follows third continued fourth
      rest finished inductionHypothesis =>
    have four : length = 4 := by
      rcases leadLength?_bounds announced with ⟨one, -⟩ | ⟨two, -⟩ | ⟨three, -⟩ | ⟨four, -⟩
      · exact (notOne one).elim
      · exact (notTwo two).elim
      · exact (notThree three).elim
      · exact four
    subst four
    obtain ⟨others, later, rfl⟩ := map_cons_eq_ok read
    rw [encode, List.flatMap_cons, encodeChar_four announced follows continued finished]
    exact congrArg _ (inductionHypothesis later)
  -- In all other cases the bytes are refused.
  | _ => cases read

/-- Bytes are read as a text exactly if they are its encoding. -/
theorem decode_eq_ok_iff {bytes : List UInt8} {text : List Char} :
    decode bytes = .ok text ↔ bytes = encode text := by
  constructor
  · intro read
    exact (encode_of_decodeFrom read).symm
  · rintro rfl
    exact decode_encode text

/-- An ASCII byte occurs in the bytes of a character only if it is the character. -/
theorem mem_encodeChar_ascii {byte : UInt8} (ascii : byte.toNat ≤ 0x7f) {c : Char}
    (present : byte ∈ String.utf8EncodeChar c) : c.toNat = byte.toNat := by
  have code : c.val.toNat = c.toNat := rfl
  have different {n : Nat} (small : n < 256) (high : 0x80 ≤ n) : byte ≠ UInt8.ofNat n := by
    intro same
    rw [same, toNat_ofNat small] at ascii
    omega
  simp only [String.utf8EncodeChar, code] at present
  split at present
  · next one => rw [List.mem_singleton.mp present, toNat_ofNat (by omega)]
  -- In all longer encodings every byte is at least 0x80.
  split at present
  · simp only [List.mem_cons, List.not_mem_nil, or_false] at present
    rcases present with same | same <;> exact absurd same (different (by omega) (by omega))
  split at present
  · simp only [List.mem_cons, List.not_mem_nil, or_false] at present
    rcases present with same | same | same <;> exact absurd same (different (by omega) (by omega))
  · simp only [List.mem_cons, List.not_mem_nil, or_false] at present
    rcases present with same | same | same | same <;>
      exact absurd same (different (by omega) (by omega))

/-- An ASCII byte occurs in the encoding of a text only for the character itself. -/
theorem mem_encode_ascii {byte : UInt8} (ascii : byte.toNat ≤ 0x7f) {text : List Char}
    (present : byte ∈ encode text) : ∃ c ∈ text, c.toNat = byte.toNat := by
  obtain ⟨c, member, inside⟩ := List.mem_flatMap.mp present
  exact ⟨c, member, mem_encodeChar_ascii ascii inside⟩

end WorkflowClient.Text.Utf8
