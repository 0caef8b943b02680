import PatternLint.Proofs.Text.Lines
import PatternLint.Text.Utf8
/-!
# Reading UTF-8

The bytes of a character are a first byte and as many more as it announces (`Utf8.Sequence`). These are exactly the
sequences that the encoding writes, and each is the encoding of the character whose value it has. Main statement:
decoding gives a text exactly for the bytes of that text (`decode_eq_ok_iff`), so bytes are refused only if no text has
them.
-/
namespace PatternLint.Utf8

variable {b b₂ : UInt8} {bs tail rest bytes : List UInt8} {c : Char} {text : List Char} {n : Nat}

/-! ## Bytes as numbers -/

theorem isContinuation_iff : isContinuation b ↔ 128 ≤ b.toNat ∧ b.toNat < 192 := by
  have h : ∀ n : Fin 256, isContinuation (.ofFin n) ↔ 128 ≤ n.val ∧ n.val < 192 := by decide +kernel
  exact h b.toFin

theorem following?_eq_some_iff : following? b = some n ↔ b.toNat < 128 ∧ n = 0 ∨
    (194 ≤ b.toNat ∧ b.toNat < 224) ∧ n = 1 ∨ (224 ≤ b.toNat ∧ b.toNat < 240) ∧ n = 2 ∨
    (240 ≤ b.toNat ∧ b.toNat < 245) ∧ n = 3 := by
  unfold following?
  simp only [UInt8.lt_iff_toNat_lt, UInt8.le_iff_toNat_le, Bool.and_eq_true, decide_eq_true_eq, UInt8.toNat_ofNat]
  split_ifs <;> simp <;> omega

/-- Behind some first bytes not all continuations may follow: the value would be too small, too large or a surrogate. -/
theorem secondFits_iff : secondFits b b₂ ↔ (128 ≤ b₂.toNat ∧ b₂.toNat < 192) ∧ (b.toNat = 224 → 160 ≤ b₂.toNat) ∧
    (b.toNat = 237 → b₂.toNat < 160) ∧ (b.toNat = 240 → 144 ≤ b₂.toNat) ∧ (b.toNat = 244 → b₂.toNat < 144) := by
  have hb : ∀ k : UInt8, b = k ↔ b.toNat = k.toNat := fun k => UInt8.toNat_inj.symm
  unfold secondFits
  simp only [hb, UInt8.toNat_ofNat]
  split_ifs <;> simp only [Bool.and_eq_true, decide_eq_true_eq, UInt8.le_iff_toNat_le, UInt8.toNat_ofNat,
    isContinuation_iff] <;> omega

/-! ## The bytes of one character -/

/-- A first byte, and the bytes that belong to it. -/
structure Sequence (b : UInt8) (tail : List UInt8) : Prop where
  announced : following? b = some tail.length
  second : ∀ x ∈ tail.head?, secondFits b x
  continued : ∀ x ∈ tail, isContinuation x

theorem takeWhile_take_eq {p : UInt8 → Bool} {k : Nat} (h : ((bs.take k).takeWhile p).length = k) :
    (bs.take k).takeWhile p = bs.take k ∧ (bs.take k).length = k := by
  have hpre := List.takeWhile_prefix p (l := bs.take k)
  have hge := hpre.length_le
  have hle := List.length_take_le k bs
  have hlength : (bs.take k).length = k := by omega
  exact ⟨hpre.eq_of_length (h.trans hlength.symm), hlength⟩

theorem first?_append (h : Sequence b tail) (rest : List UInt8) :
    first? b (tail ++ rest) = .ok (Char.ofNat (value b tail), tail.length) := by
  cases tail with
  | nil =>
    have hlt : b.toNat < 128 := by simpa using following?_eq_some_iff.1 h.announced
    have hhead : b < 0x80 := by simpa [UInt8.lt_iff_toNat_lt] using hlt
    unfold first? value
    simp [h.announced, hhead, Nat.mod_eq_of_lt hlt]
  | cons x tail =>
    have hsecond := h.second x rfl
    have htail : tail.takeWhile isContinuation = tail :=
      List.takeWhile_eq_self_iff.2 fun y hy => h.continued y (List.mem_cons_of_mem x hy)
    unfold first?
    simp [h.announced, hsecond, htail]

theorem sequence_of_first? (h : first? b bs = .ok (c, n)) :
    ∃ tail rest, bs = tail ++ rest ∧ tail.length = n ∧ Sequence b tail ∧ c = Char.ofNat (value b tail) := by
  unfold first? at h
  split at h
  · cases h
  · rename_i hzero
    obtain ⟨rfl, rfl⟩ := Prod.mk.inj (Except.ok.inj h)
    have hseq : Sequence b [] := ⟨hzero, by simp, by simp⟩
    have hfirst := first?_append hseq []
    refine ⟨[], bs, rfl, rfl, hseq, ?_⟩
    unfold first? at hfirst
    simpa [hzero] using hfirst
  · rename_i k hk hannounced
    cases bs with
    | nil => cases h
    | cons x bs =>
      simp only at h
      split at h
      · cases h
      · rename_i hsecond
        split at h
        · rename_i hlength
          obtain ⟨rfl, rfl⟩ := Prod.mk.inj (Except.ok.inj h)
          obtain ⟨hall, hlength⟩ := takeWhile_take_eq hlength
          have hpos : 0 < k := Nat.pos_of_ne_zero hk
          have hsecond : secondFits b x := by simpa using hsecond
          refine ⟨x :: bs.take (k - 1), bs.drop (k - 1), ?_, ?_, ⟨?_, ?_, ?_⟩, ?_⟩
          · rw [List.cons_append, List.take_append_drop]
          · rw [List.length_cons, hlength]
            omega
          · rw [List.length_cons, hlength, Nat.sub_add_cancel hpos]
            exact hannounced
          · rintro y ⟨⟩
            exact hsecond
          · intro y hy
            rcases List.mem_cons.1 hy with rfl | hy
            · exact isContinuation_iff.2 (secondFits_iff.1 hsecond).1
            · exact List.takeWhile_eq_self_iff.1 hall y hy
          · rw [hall]
        · split at h <;> cases h

theorem toNat_ofNat (h : n.isValidChar) : (Char.ofNat n).val.toNat = n := by
  unfold Char.ofNat
  rw [dif_pos h]
  rfl

theorem ofNat_eq_iff {k : Nat} : UInt8.ofNat k = b ↔ k % 256 = b.toNat := by
  rw [← UInt8.toNat_inj, UInt8.toNat_ofNat']

/-- The value of a sequence, by what the first byte announces. -/
theorem value_eq (b : UInt8) (tail : List UInt8) : value b tail =
    tail.foldl (fun n x => n * 64 + x.toNat % 64) (b.toNat % (if b.toNat < 128 then 128 else
      if b.toNat < 224 then 32 else if b.toNat < 240 then 16 else 8)) := by
  simp only [value, UInt8.lt_iff_toNat_lt, UInt8.toNat_ofNat, Nat.reducePow, Nat.reduceMod]

/-- The bytes of a sequence are those of the character whose value it has. -/
theorem encodeChar_value (h : Sequence b tail) : String.utf8EncodeChar (Char.ofNat (value b tail)) = b :: tail := by
  obtain ⟨hannounced, hsecond, hcontinued⟩ := h
  have hbytes : ∀ x ∈ tail, 128 ≤ x.toNat ∧ x.toNat < 192 := fun x hx => isContinuation_iff.1 (hcontinued x hx)
  rw [value_eq]
  rcases following?_eq_some_iff.1 hannounced with ⟨hb, hlength⟩ | ⟨hb, hlength⟩ | ⟨hb, hlength⟩ | ⟨hb, hlength⟩
  · obtain rfl := List.length_eq_zero_iff.1 hlength
    rw [if_pos hb, List.foldl_nil, String.utf8EncodeChar, toNat_ofNat (.inl (by omega)), if_pos (by omega)]
    simp only [List.cons.injEq, ofNat_eq_iff, and_true]
    omega
  · obtain ⟨x, rfl⟩ := List.length_eq_one_iff.1 hlength
    have hx := hbytes x (by simp)
    simp only [List.foldl_cons, List.foldl_nil]
    rw [if_neg (by omega), if_pos (by omega), String.utf8EncodeChar, toNat_ofNat (.inl (by omega)),
      if_neg (by omega), if_pos (by omega)]
    simp only [List.cons.injEq, ofNat_eq_iff, and_true]
    omega
  · obtain ⟨x, y, rfl⟩ := List.length_eq_two.1 hlength
    obtain ⟨hx, hlow, hhigh, -, -⟩ := secondFits_iff.1 (hsecond x rfl)
    have hy := hbytes y (by simp)
    simp only [List.foldl_cons, List.foldl_nil]
    rw [if_neg (by omega), if_neg (by omega), if_pos (by omega), String.utf8EncodeChar,
      toNat_ofNat (by unfold Nat.isValidChar; omega), if_neg (by omega), if_neg (by omega), if_pos (by omega)]
    simp only [List.cons.injEq, ofNat_eq_iff, and_true]
    omega
  · obtain ⟨x, y, z, rfl⟩ := List.length_eq_three.1 hlength
    obtain ⟨hx, -, -, hlow, hhigh⟩ := secondFits_iff.1 (hsecond x rfl)
    have hy := hbytes y (by simp)
    have hz := hbytes z (by simp)
    simp only [List.foldl_cons, List.foldl_nil]
    rw [if_neg (by omega), if_neg (by omega), if_neg (by omega), String.utf8EncodeChar,
      toNat_ofNat (by unfold Nat.isValidChar; omega), if_neg (by omega), if_neg (by omega), if_neg (by omega)]
    simp only [List.cons.injEq, ofNat_eq_iff, and_true]
    omega

/-- The bytes of a character are a sequence that has its value. -/
theorem sequence_of_encodeChar (h : String.utf8EncodeChar c = b :: tail) :
    Sequence b tail ∧ Char.ofNat (value b tail) = c := by
  have hvalid : c.val.toNat.isValidChar := c.valid
  unfold Nat.isValidChar at hvalid
  have hvalue : value b tail = c.val.toNat → Char.ofNat (value b tail) = c := fun h => h ▸ Char.ofNat_toNat c
  rw [value_eq] at hvalue ⊢
  unfold String.utf8EncodeChar at h
  simp only at h
  generalize c.val.toNat = v at h hvalid hvalue
  -- the bytes behind the first, from the last one back
  generalize hx : UInt8.ofNat (v % 64 + 128) = x at h
  generalize hy : UInt8.ofNat (v / 64 % 64 + 128) = y at h
  generalize hz : UInt8.ofNat (v / 4096 % 64 + 128) = z at h
  rw [ofNat_eq_iff] at hx hy hz
  split_ifs at h <;> simp only [List.cons.injEq, ofNat_eq_iff] at h <;> obtain ⟨hb, rfl⟩ := h
  · refine ⟨⟨following?_eq_some_iff.2 (by simp; omega), by simp, by simp⟩, hvalue ?_⟩
    rw [if_pos (by omega), List.foldl_nil]
    omega
  · refine ⟨⟨following?_eq_some_iff.2 (by simp; omega), ?_, ?_⟩, hvalue ?_⟩
    · simp [secondFits_iff]
      omega
    · simp [isContinuation_iff]
      omega
    · simp only [List.foldl_cons, List.foldl_nil]
      rw [if_neg (by omega), if_pos (by omega)]
      omega
  · refine ⟨⟨following?_eq_some_iff.2 (by simp; omega), ?_, ?_⟩, hvalue ?_⟩
    · simp [secondFits_iff]
      omega
    · simp [isContinuation_iff]
      omega
    · simp only [List.foldl_cons, List.foldl_nil]
      rw [if_neg (by omega), if_neg (by omega), if_pos (by omega)]
      omega
  · refine ⟨⟨following?_eq_some_iff.2 (by simp; omega), ?_, ?_⟩, hvalue ?_⟩
    · simp [secondFits_iff]
      omega
    · simp [isContinuation_iff]
      omega
    · simp only [List.foldl_cons, List.foldl_nil]
      rw [if_neg (by omega), if_neg (by omega), if_neg (by omega)]
      omega

/-! ## Texts -/

theorem decodeFrom_skip (index : Nat) (text : List Char) (tail rest : List UInt8) :
    decodeFrom index tail.length text (tail ++ rest) = decodeFrom (index + tail.length) 0 text rest := by
  induction tail generalizing index with
  | nil => rfl
  | cons x tail ih =>
    rw [List.cons_append, List.length_cons, decodeFrom, ih, Nat.add_assoc, Nat.add_comm 1]

theorem decodeFrom_encodeChar (index : Nat) (text : List Char) (c : Char) (rest : List UInt8) :
    decodeFrom index 0 text (String.utf8EncodeChar c ++ rest) =
      decodeFrom (index + c.utf8Size) 0 (c :: text) rest := by
  cases hbytes : String.utf8EncodeChar c with
  | nil => exact absurd (congrArg List.length hbytes) (by simpa using c.utf8Size_pos.ne')
  | cons b tail =>
    obtain ⟨hseq, rfl⟩ := sequence_of_encodeChar hbytes
    have hsize : (Char.ofNat (value b tail)).utf8Size = tail.length + 1 := by
      rw [← String.length_utf8EncodeChar, hbytes, List.length_cons]
    simp only [List.cons_append, decodeFrom, first?_append hseq, decodeFrom_skip, hsize]
    congr 1
    omega

/-- What is read behind a text already read is a text with the bytes that are left. -/
theorem decodeFrom_eq_ok_iff (index : Nat) (before : List Char) (bytes : List UInt8) :
    decodeFrom index 0 before bytes = .ok text ↔ ∃ more, text = before.reverse ++ more ∧ bytesOf more = bytes := by
  constructor
  · intro h
    induction hn : bytes.length using Nat.strong_induction_on generalizing index before bytes with
    | _ n ih =>
      cases bytes with
      | nil =>
        obtain rfl := Except.ok.inj h
        exact ⟨[], by simp, rfl⟩
      | cons b bs =>
        rw [decodeFrom] at h
        cases hfirst : first? b bs with
        | error length => simp [hfirst] at h
        | ok found =>
          obtain ⟨c, k⟩ := found
          obtain ⟨tail, rest, rfl, rfl, hseq, rfl⟩ := sequence_of_first? hfirst
          simp only [hfirst, decodeFrom_skip] at h
          obtain ⟨more, rfl, rfl⟩ := ih rest.length (by simp at hn; omega) _ _ rest h rfl
          exact ⟨Char.ofNat (value b tail) :: more, by simp, by rw [bytesOf_cons, encodeChar_value hseq]; rfl⟩
  · rintro ⟨more, rfl, rfl⟩
    induction more generalizing index before with
    | nil => simp [decodeFrom, bytesOf]
    | cons c more ih =>
      rw [bytesOf_cons, decodeFrom_encodeChar, ih, List.reverse_cons, List.append_assoc]
      rfl

/-- Decoding gives a text exactly for its bytes. -/
theorem decode_eq_ok_iff : decode bytes = .ok text ↔ bytesOf text = bytes := by
  rw [decode, decodeFrom_eq_ok_iff]
  simp

/-- Bytes are refused if no text has them. -/
theorem decode_eq_error_iff : (∃ e, decode bytes = .error e) ↔ ∀ text, bytesOf text ≠ bytes := by
  constructor
  · rintro ⟨e, h⟩ text htext
    rw [decode_eq_ok_iff.2 htext] at h
    cases h
  · intro h
    cases hdecode : decode bytes with
    | ok text => exact absurd (decode_eq_ok_iff.1 hdecode) (h text)
    | error e => exact ⟨e, rfl⟩

theorem toList_toByteArray (bytes : List UInt8) : bytes.toByteArray.toList = bytes := by
  have hloop : ∀ (array : ByteArray) (i : Nat) (read : List UInt8),
      ByteArray.toList.loop array i read = read.reverse ++ array.data.toList.drop i := by
    intro array i read
    fun_induction ByteArray.toList.loop array i read with
    | case1 i read h ih =>
      have hi : i < array.data.toList.length := by simpa using h
      rw [ih, List.drop_eq_getElem_cons hi]
      simp [ByteArray.get!, h]
    | case2 i read h => simp [List.drop_eq_nil_of_le (show array.data.toList.length ≤ i by simpa using h)]
  simp [ByteArray.toList, hloop]

theorem encode_eq_bytesOf (s : String) : encode s = bytesOf s.toList := by
  have hbytes : s.toUTF8 = (bytesOf s.toList).toByteArray := by
    conv_lhs => rw [← String.ofList_toList (s := s)]
    rfl
  rw [encode, hbytes, toList_toByteArray]

end PatternLint.Utf8
