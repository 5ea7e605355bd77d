import GceMachines.Text.Utf8

/-!
# Texts as UTF-8

The bytes of a text are those of its characters, one after the other. The bytes of one character
are read from the front as that character, whatever follows them, so a text is read back from its
bytes. Only the characters of ASCII have a byte below `0x80`.

* `encode_eq_flatMap`: the bytes of a text, character by character.
* `split_encodeChar`: the bytes of a character at the front.
* `decode?_encode`: a text is read back.
* `encodeChar_of_lt`, `le_of_mem_encodeChar`: the bytes of ASCII and of all other characters.
-/

namespace GceMachines.Utf8

/-! ### The bytes of a text -/

theorem loop_eq_append (bs : ByteArray) (i : Nat) (r : List UInt8) :
    ByteArray.toList.loop bs i r = r.reverse ++ bs.data.toList.drop i := by
  induction i, r using ByteArray.toList.loop.induct bs with
  | case1 i r hlt ih =>
    have hi : i < bs.data.toList.length := by simpa using hlt
    have hget : bs.get! i = bs.data.toList[i] := by
      rw [Array.getElem_toList]
      exact getElem!_pos bs.data i hlt
    rw [ByteArray.toList.loop, if_pos hlt, ih, List.drop_eq_getElem_cons hi, hget,
      List.reverse_cons, List.append_assoc, List.singleton_append]
  | case2 i r hge =>
    have hi : bs.data.toList.length ≤ i := by simpa using hge
    rw [ByteArray.toList.loop, if_neg hge, List.drop_eq_nil_of_le hi, List.append_nil]

/-- **The bytes of a text** are those of its characters. -/
theorem encode_eq_flatMap (s : String) : encode s = s.toList.flatMap String.utf8EncodeChar := by
  unfold encode
  rw [String.toUTF8_eq_toByteArray, ← String.utf8Encode_toList]
  exact (loop_eq_append _ 0 []).trans List.toList_data_toByteArray

theorem encode_ofList (cs : List Char) :
    encode (String.ofList cs) = cs.flatMap String.utf8EncodeChar := by
  rw [encode_eq_flatMap, String.toList_ofList]

@[simp] theorem encode_append (s t : String) : encode (s ++ t) = encode s ++ encode t := by
  rw [encode_eq_flatMap, encode_eq_flatMap, encode_eq_flatMap, String.toList_append,
    List.flatMap_append]

/-! ### One character -/

section
variable {n w x y z : Nat}

theorem toNat_byte (h : n < 256) : (UInt8.ofNat n).toNat = n :=
  UInt8.toNat_ofNat_of_lt' h

theorem isTail_ofNat (h : n < 64) : isTail (UInt8.ofNat (n + 0x80)) = true := by
  have hb : (UInt8.ofNat (n + 0x80)).toNat = n + 0x80 := toNat_byte (by omega)
  simp only [isTail, Bool.and_eq_true, decide_eq_true_eq, UInt8.le_iff_toNat_le, hb]
  simp
  omega

theorem tailBits_ofNat (h : n < 64) : tailBits (UInt8.ofNat (n + 0x80)) = n := by
  unfold tailBits
  rw [toNat_byte (by omega)]
  omega

variable (more : List UInt8)

theorem split_one (h : x < 0x80) :
    split (UInt8.ofNat x) more = (.char (Char.ofNat x), more) := by
  have ha : (UInt8.ofNat x).toNat = x := toNat_byte (by omega)
  have hlt : UInt8.ofNat x < 0x80 := UInt8.lt_iff_toNat_lt.mpr (by rw [ha]; exact h)
  unfold split
  rw [if_pos hlt, ha]

theorem split_two (hx : x < 32) (hy : y < 64) (hmin : 0x80 ≤ x * 64 + y) :
    split (UInt8.ofNat (x + 0xC0)) (UInt8.ofNat (y + 0x80) :: more) =
      (.char (Char.ofNat (x * 64 + y)), more) := by
  have ha : (UInt8.ofNat (x + 0xC0)).toNat = x + 0xC0 := toNat_byte (by omega)
  have hmod : (x + 0xC0) % 32 = x := by omega
  unfold split
  simp only [UInt8.lt_iff_toNat_lt, UInt8.le_iff_toNat_le, ha, isTail_ofNat hy,
    tailBits_ofNat hy, hmod]
  rw [if_neg, if_pos]
  · rfl
  · simp
    omega
  · simp

theorem split_three (hx : x < 16) (hy : y < 64) (hz : z < 64) (hmin : 0x800 ≤ (x * 64 + y) * 64 + z)
    (hvalid : (x * 64 + y) * 64 + z < 0xD800 ∨ 0xDFFF < (x * 64 + y) * 64 + z) :
    split (UInt8.ofNat (x + 0xE0)) (UInt8.ofNat (y + 0x80) :: UInt8.ofNat (z + 0x80) :: more) =
      (.char (Char.ofNat ((x * 64 + y) * 64 + z)), more) := by
  have ha : (UInt8.ofNat (x + 0xE0)).toNat = x + 0xE0 := toNat_byte (by omega)
  have hb : (UInt8.ofNat (y + 0x80)).toNat = y + 0x80 := toNat_byte (by omega)
  have hmod : (x + 0xE0) % 16 = x := by omega
  have hsecond : second3 (UInt8.ofNat (x + 0xE0)) (UInt8.ofNat (y + 0x80)) = true := by
    unfold second3
    simp only [beq_iff_eq, ← UInt8.toNat_inj, ha, UInt8.le_iff_toNat_le, hb, isTail_ofNat hy]
    split
    · next h =>
      have hleast : x + 0xE0 = 0xE0 := h
      simp
      omega
    · split
      · next h =>
        have hlast : x + 0xE0 = 0xED := h
        simp
        omega
      · rfl
  unfold split
  simp only [UInt8.lt_iff_toNat_lt, UInt8.le_iff_toNat_le, ha, isTail_ofNat hz,
    tailBits_ofNat hy, tailBits_ofNat hz, hmod, hsecond]
  rw [if_neg, if_neg, if_pos]
  · rfl
  · simp
    omega
  · simp
  · simp

theorem split_four (hw : w < 8) (hx : x < 64) (hy : y < 64) (hz : z < 64)
    (hmin : 0x10000 ≤ ((w * 64 + x) * 64 + y) * 64 + z)
    (hmax : ((w * 64 + x) * 64 + y) * 64 + z < 0x110000) :
    split (UInt8.ofNat (w + 0xF0)) (UInt8.ofNat (x + 0x80) :: UInt8.ofNat (y + 0x80) ::
        UInt8.ofNat (z + 0x80) :: more) =
      (.char (Char.ofNat (((w * 64 + x) * 64 + y) * 64 + z)), more) := by
  have ha : (UInt8.ofNat (w + 0xF0)).toNat = w + 0xF0 := toNat_byte (by omega)
  have hb : (UInt8.ofNat (x + 0x80)).toNat = x + 0x80 := toNat_byte (by omega)
  have hmod : (w + 0xF0) % 8 = w := by omega
  have hsecond : second4 (UInt8.ofNat (w + 0xF0)) (UInt8.ofNat (x + 0x80)) = true := by
    unfold second4
    simp only [beq_iff_eq, ← UInt8.toNat_inj, ha, UInt8.le_iff_toNat_le, hb, isTail_ofNat hx]
    split
    · next h =>
      have hleast : w + 0xF0 = 0xF0 := h
      simp
      omega
    · split
      · next h =>
        have hlast : w + 0xF0 = 0xF4 := h
        simp
        omega
      · rfl
  unfold split
  simp only [UInt8.lt_iff_toNat_lt, UInt8.le_iff_toNat_le, ha, isTail_ofNat hy, isTail_ofNat hz,
    tailBits_ofNat hx, tailBits_ofNat hy, tailBits_ofNat hz, hmod, hsecond]
  rw [if_neg, if_neg, if_neg, if_pos]
  · rfl
  · simp
    omega
  · simp
  · simp
  · simp

end

/-- **The bytes of a character** at the front are read as that character. -/
theorem split_encodeChar (c : Char) (more : List UInt8) :
    ∃ a r, String.utf8EncodeChar c = a :: r ∧ split a (r ++ more) = (.char c, more) := by
  have hc : Char.ofNat c.val.toNat = c := Char.ofNat_toNat c
  have hvalid : c.val.toNat < 0xD800 ∨ 0xDFFF < c.val.toNat ∧ c.val.toNat < 0x110000 := c.valid
  unfold String.utf8EncodeChar
  dsimp only
  generalize c.val.toNat = v at hc hvalid
  split
  · next h => exact ⟨_, _, rfl, hc ▸ split_one more (Nat.lt_succ_of_le h)⟩
  · split
    · have hsum : v / 64 % 32 * 64 + v % 64 = v := by omega
      refine ⟨_, _, rfl, (split_two more ?_ ?_ ?_).trans ?_⟩
      · omega
      · omega
      · omega
      · rw [hsum, hc]
    · split
      · have hsum : (v / 4096 % 16 * 64 + v / 64 % 64) * 64 + v % 64 = v := by omega
        refine ⟨_, _, rfl, (split_three more ?_ ?_ ?_ ?_ ?_).trans ?_⟩
        · omega
        · omega
        · omega
        · omega
        · omega
        · rw [hsum, hc]
      · have hsum : ((v / 262144 % 8 * 64 + v / 4096 % 64) * 64 + v / 64 % 64) * 64 + v % 64 = v := by
          omega
        refine ⟨_, _, rfl, (split_four more ?_ ?_ ?_ ?_ ?_ ?_).trans ?_⟩
        · omega
        · omega
        · omega
        · omega
        · omega
        · omega
        · rw [hsum, hc]

/-- **A text is read back** from its bytes. -/
theorem decode?_encode (s : String) : decode? (encode s) = some s := by
  have hpieces (cs : List Char) :
      pieces (cs.flatMap String.utf8EncodeChar) = cs.map Piece.char := by
    induction cs with
    | nil => rw [List.flatMap_nil, pieces, List.map_nil]
    | cons c cs ih =>
      obtain ⟨a, r, hc, hsplit⟩ := split_encodeChar c (cs.flatMap String.utf8EncodeChar)
      rw [List.flatMap_cons, hc, List.cons_append, pieces, hsplit, ih, List.map_cons]
  have hchars (cs : List Char) : (cs.map Piece.char).mapM Piece.char? = some cs := by
    induction cs with
    | nil => rfl
    | cons c cs ih => simp [List.mapM_cons, ih, Piece.char?]
  unfold decode?
  rw [encode_eq_flatMap, hpieces, hchars, Option.map_some, String.ofList_toList]

/-! ### ASCII -/

theorem encodeChar_of_lt {c : Char} (h : c.toNat < 0x80) :
    String.utf8EncodeChar c = [UInt8.ofNat c.toNat] := by
  unfold String.utf8EncodeChar
  exact if_pos (Nat.le_of_lt_succ h)

theorem le_of_mem_encodeChar {c : Char} (h : 0x80 ≤ c.toNat) :
    ∀ b ∈ String.utf8EncodeChar c, 0x80 ≤ b.toNat := by
  have hlast (n m : Nat) (hm : 0 < m) (hmax : m ≤ 128) (k : Nat) (hk : m + k ≤ 256)
      (hmin : 0x80 ≤ k) : 0x80 ≤ (UInt8.ofNat (n % m + k)).toNat := by
    have hlt := Nat.mod_lt n hm
    rw [toNat_byte (by omega)]
    omega
  have hne : ¬ c.val.toNat ≤ 0x7F := Nat.not_le.mpr h
  unfold String.utf8EncodeChar
  dsimp only
  rw [if_neg hne]
  split
  · simp only [List.mem_cons, List.not_mem_nil, or_false]
    rintro b (rfl | rfl) <;> exact hlast _ _ (by decide) (by decide) _ (by decide) (by decide)
  · split
    · simp only [List.mem_cons, List.not_mem_nil, or_false]
      rintro b (rfl | rfl | rfl) <;>
        exact hlast _ _ (by decide) (by decide) _ (by decide) (by decide)
    · simp only [List.mem_cons, List.not_mem_nil, or_false]
      rintro b (rfl | rfl | rfl | rfl) <;>
        exact hlast _ _ (by decide) (by decide) _ (by decide) (by decide)

end GceMachines.Utf8
