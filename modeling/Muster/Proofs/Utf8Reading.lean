import Muster.Text.Utf8
/-!
Reading undoes writing for UTF-8: the octets of a text are read as its characters, without a gap.
-/
namespace Muster.Text

/-- The number of a character is none of a surrogate and not too large. -/
theorem char_range (c : Char) : c.toNat < 0xD800 ∨ (0xDFFF < c.toNat ∧ c.toNat < 0x110000) := by
  have hvalid := c.valid
  simp only [UInt32.isValidChar, Nat.isValidChar] at hvalid
  exact hvalid

theorem toNat_continuation {sextet : Nat} (hsextet : sextet < 64) :
    (UInt8.ofNat (sextet + 0x80)).toNat = sextet + 0x80 := by
  apply UInt8.toNat_ofNat_of_lt'
  change sextet + 0x80 < 256
  omega

/-- The payload of a continuation octet. -/
theorem pushSextet_continuation (value : Nat) {sextet : Nat} (hsextet : sextet < 64) :
    pushSextet value (UInt8.ofNat (sextet + 0x80)) = value * 64 + sextet := by
  unfold pushSextet
  rw [toNat_continuation hsextet]
  omega

theorem isContinuation_continuation {sextet : Nat} (hsextet : sextet < 64) :
    isContinuation (UInt8.ofNat (sextet + 0x80)) = true := by
  have hoctet := toNat_continuation hsextet
  simp only [isContinuation, Bool.and_eq_true, decide_eq_true_eq, UInt8.le_iff_toNat_le, hoctet]
  constructor
  · exact Nat.le_add_left _ _
  · exact Nat.le_of_lt_succ (Nat.add_lt_add_right hsextet _)

theorem secondRange_toNat (lead : UInt8) :
    (secondRange lead).1.toNat = (if lead.toNat = 0xE0 then 0xA0 else
      if lead.toNat = 0xF0 then 0x90 else 0x80) ∧
    (secondRange lead).2.toNat = (if lead.toNat = 0xED then 0x9F else
      if lead.toNat = 0xF4 then 0x8F else 0xBF) := by
  have hsame : ∀ n : UInt8, (lead = n ↔ lead.toNat = n.toNat) := fun n => UInt8.toNat_inj.symm
  simp only [secondRange, hsame]
  change ((if lead.toNat = 0xE0 then _ else _ : UInt8 × UInt8).1.toNat = _) ∧ _
  repeat' split
  all_goals first | rfl | simp_all

/-- A second octet that makes no character in another way is in its range. -/
theorem secondRange_continuation {lead sextet : Nat} (hlead : lead < 256) (hsextet : sextet < 64)
    (hshort : lead = 0xE0 → 0x20 ≤ sextet) (hsurrogate : lead = 0xED → sextet < 0x20)
    (hnarrow : lead = 0xF0 → 0x10 ≤ sextet) (hlast : lead = 0xF4 → sextet < 0x10) :
    (decide ((secondRange (UInt8.ofNat lead)).1 ≤ UInt8.ofNat (sextet + 0x80)) &&
      decide (UInt8.ofNat (sextet + 0x80) ≤ (secondRange (UInt8.ofNat lead)).2)) = true := by
  obtain ⟨hlow, hhigh⟩ := secondRange_toNat (UInt8.ofNat lead)
  rw [UInt8.toNat_ofNat_of_lt' hlead] at hlow hhigh
  have hoctet := toNat_continuation hsextet
  simp only [Bool.and_eq_true, decide_eq_true_eq, UInt8.le_iff_toNat_le, hoctet, hlow, hhigh]
  constructor
  · split
    · next heq =>
        have := hshort heq
        omega
    · split
      · next heq =>
          have := hnarrow heq
          omega
      · omega
  · split
    · next heq =>
        have := hsurrogate heq
        omega
    · split
      · next heq =>
          have := hlast heq
          omega
      · omega

/-- How long a character is, by the number of its first octet. -/
theorem sequenceLength_ofNat {lead : Nat} (hlead : lead < 256) :
    sequenceLength (UInt8.ofNat lead) =
      if lead < 0x80 then 1
      else if lead < 0xC2 then 0
      else if lead < 0xE0 then 2
      else if lead < 0xF0 then 3
      else if lead < 0xF5 then 4
      else 0 := by
  have hless : ∀ n : UInt8, (UInt8.ofNat lead < n ↔ lead < n.toNat) := by
    intro n
    rw [UInt8.lt_iff_toNat_lt, UInt8.toNat_ofNat_of_lt' hlead]
  simp only [sequenceLength, hless]
  rfl

section Sequences

variable {first second third fourth : UInt8}

/-- Is an octet in the range of the second one? -/
def inSecondRange (first second : UInt8) : Bool :=
  decide ((secondRange first).1 ≤ second) && decide (second ≤ (secondRange first).2)

theorem nextGlyph_one (hlength : sequenceLength first = 1) (rest : List UInt8) :
    nextGlyph first rest = (some (Char.ofNat first.toNat), rest) := by
  simp only [nextGlyph, hlength]

theorem nextGlyph_two (hlength : sequenceLength first = 2)
    (hsecond : inSecondRange first second = true) (rest : List UInt8) :
    nextGlyph first (second :: rest) =
      (some (Char.ofNat (pushSextet (first.toNat - 0xC0) second)), rest) := by
  simp only [inSecondRange] at hsecond
  simp only [nextGlyph, hlength, hsecond, ↓reduceIte]

theorem nextGlyph_three (hlength : sequenceLength first = 3)
    (hsecond : inSecondRange first second = true) (hthird : isContinuation third = true)
    (rest : List UInt8) :
    nextGlyph first (second :: third :: rest) =
      (some (Char.ofNat (pushSextet (pushSextet (first.toNat - 0xE0) second) third)), rest) := by
  simp only [inSecondRange] at hsecond
  simp only [nextGlyph, hlength, hsecond, hthird, ↓reduceIte]

theorem nextGlyph_four (hlength : sequenceLength first = 4)
    (hsecond : inSecondRange first second = true) (hthird : isContinuation third = true)
    (hfourth : isContinuation fourth = true) (rest : List UInt8) :
    nextGlyph first (second :: third :: fourth :: rest) =
      (some (Char.ofNat (pushSextet (pushSextet (pushSextet (first.toNat - 0xF0) second) third)
        fourth)), rest) := by
  simp only [inSecondRange] at hsecond
  simp only [nextGlyph, hlength, hsecond, hthird, hfourth, ↓reduceIte]

end Sequences

section Encoded

variable {n : Nat}

theorem nextGlyph_encoded_one (hn : n ≤ 0x7F) (rest : List UInt8) :
    nextGlyph (UInt8.ofNat n) rest = (some (Char.ofNat n), rest) := by
  have hlead : n < 256 := by omega
  have hlength : sequenceLength (UInt8.ofNat n) = 1 := by
    rw [sequenceLength_ofNat hlead, if_pos (by omega)]
  rw [nextGlyph_one hlength, UInt8.toNat_ofNat_of_lt' hlead]

theorem nextGlyph_encoded_two (hlow : 0x7F < n) (hhigh : n ≤ 0x7FF) (rest : List UInt8) :
    nextGlyph (UInt8.ofNat (n / 64 % 0x20 + 0xC0)) (UInt8.ofNat (n % 0x40 + 0x80) :: rest) =
      (some (Char.ofNat n), rest) := by
  have hlead : n / 64 % 0x20 + 0xC0 < 256 := by omega
  have hlast : n % 0x40 < 64 := by omega
  have hlength : sequenceLength (UInt8.ofNat (n / 64 % 0x20 + 0xC0)) = 2 := by
    rw [sequenceLength_ofNat hlead, if_neg (by omega), if_neg (by omega), if_pos (by omega)]
  have hsecond : inSecondRange (UInt8.ofNat (n / 64 % 0x20 + 0xC0))
      (UInt8.ofNat (n % 0x40 + 0x80)) = true :=
    secondRange_continuation hlead hlast (by omega) (by omega) (by omega) (by omega)
  have hvalue : (n / 64 % 0x20 + 0xC0 - 0xC0) * 64 + n % 0x40 = n := by omega
  rw [nextGlyph_two hlength hsecond, UInt8.toNat_ofNat_of_lt' hlead, pushSextet_continuation _ hlast,
    hvalue]

/-- No surrogate has three octets. -/
theorem nextGlyph_encoded_three (hlow : 0x7FF < n) (hhigh : n ≤ 0xFFFF)
    (hrange : n < 0xD800 ∨ 0xDFFF < n) (rest : List UInt8) :
    nextGlyph (UInt8.ofNat (n / 4096 % 0x10 + 0xE0))
      (UInt8.ofNat (n / 64 % 0x40 + 0x80) :: UInt8.ofNat (n % 0x40 + 0x80) :: rest) =
        (some (Char.ofNat n), rest) := by
  have hlead : n / 4096 % 0x10 + 0xE0 < 256 := by omega
  have hmiddle : n / 64 % 0x40 < 64 := by omega
  have hlast : n % 0x40 < 64 := by omega
  have hlength : sequenceLength (UInt8.ofNat (n / 4096 % 0x10 + 0xE0)) = 3 := by
    rw [sequenceLength_ofNat hlead, if_neg (by omega), if_neg (by omega), if_neg (by omega),
      if_pos (by omega)]
  have hsecond : inSecondRange (UInt8.ofNat (n / 4096 % 0x10 + 0xE0))
      (UInt8.ofNat (n / 64 % 0x40 + 0x80)) = true :=
    secondRange_continuation hlead hmiddle (by omega) (by omega) (by omega) (by omega)
  have hvalue : ((n / 4096 % 0x10 + 0xE0 - 0xE0) * 64 + n / 64 % 0x40) * 64 + n % 0x40 = n := by
    omega
  rw [nextGlyph_three hlength hsecond (isContinuation_continuation hlast),
    UInt8.toNat_ofNat_of_lt' hlead, pushSextet_continuation _ hmiddle, pushSextet_continuation _ hlast,
    hvalue]

theorem nextGlyph_encoded_four (hlow : 0xFFFF < n) (hhigh : n < 0x110000) (rest : List UInt8) :
    nextGlyph (UInt8.ofNat (n / 262144 % 0x08 + 0xF0))
      (UInt8.ofNat (n / 4096 % 0x40 + 0x80) :: UInt8.ofNat (n / 64 % 0x40 + 0x80) ::
        UInt8.ofNat (n % 0x40 + 0x80) :: rest) = (some (Char.ofNat n), rest) := by
  have hlead : n / 262144 % 0x08 + 0xF0 < 256 := by omega
  have hupper : n / 4096 % 0x40 < 64 := by omega
  have hlower : n / 64 % 0x40 < 64 := by omega
  have hlast : n % 0x40 < 64 := by omega
  have hlength : sequenceLength (UInt8.ofNat (n / 262144 % 0x08 + 0xF0)) = 4 := by
    rw [sequenceLength_ofNat hlead, if_neg (by omega), if_neg (by omega), if_neg (by omega),
      if_neg (by omega), if_pos (by omega)]
  have hsecond : inSecondRange (UInt8.ofNat (n / 262144 % 0x08 + 0xF0))
      (UInt8.ofNat (n / 4096 % 0x40 + 0x80)) = true :=
    secondRange_continuation hlead hupper (by omega) (by omega) (by omega) (by omega)
  have hvalue : (((n / 262144 % 0x08 + 0xF0 - 0xF0) * 64 + n / 4096 % 0x40) * 64 +
      n / 64 % 0x40) * 64 + n % 0x40 = n := by omega
  rw [nextGlyph_four hlength hsecond (isContinuation_continuation hlower)
      (isContinuation_continuation hlast),
    UInt8.toNat_ofNat_of_lt' hlead, pushSextet_continuation _ hupper, pushSextet_continuation _ hlower,
    pushSextet_continuation _ hlast, hvalue]

end Encoded

/-- The octets of a character are read as that character, whatever follows them. -/
theorem nextGlyph_utf8EncodeChar (c : Char) :
    ∃ first others, String.utf8EncodeChar c = first :: others ∧
      ∀ rest, nextGlyph first (others ++ rest) = (some c, rest) := by
  have hrange := char_range c
  have hsame : Char.ofNat c.toNat = c := Char.ofNat_toNat c
  simp only [String.utf8EncodeChar]
  change ∃ first others, (if c.toNat ≤ 0x7F then _ else if c.toNat ≤ 0x7FF then _
    else if c.toNat ≤ 0xFFFF then _ else _) = _ ∧ _
  split
  · next hone =>
      refine ⟨_, _, rfl, fun rest => ?_⟩
      have hread := nextGlyph_encoded_one (n := c.toNat) hone rest
      rw [hsame] at hread
      exact hread
  split
  · next hone htwo =>
      refine ⟨_, _, rfl, fun rest => ?_⟩
      have hread := nextGlyph_encoded_two (n := c.toNat) (by omega) htwo rest
      rw [hsame] at hread
      exact hread
  split
  · next _ htwo hthree =>
      refine ⟨_, _, rfl, fun rest => ?_⟩
      have hread := nextGlyph_encoded_three (n := c.toNat) (by omega) hthree (by omega) rest
      rw [hsame] at hread
      exact hread
  · next _ _ hthree =>
      refine ⟨_, _, rfl, fun rest => ?_⟩
      have hread := nextGlyph_encoded_four (n := c.toNat) (by omega) (by omega) rest
      rw [hsame] at hread
      exact hread

/-- Listing octets that has come to an index goes on to all of them, as what it has read so far are
the first ones. -/
theorem listing_of_take (octets : ByteArray) {index : Nat} (hindex : index ≤ octets.size) :
    ByteArray.toList.loop octets index (octets.data.toList.take index).reverse =
      octets.data.toList := by
  have hsize : octets.data.toList.length = octets.size := rfl
  induction hleft : octets.size - index generalizing index with
  | zero =>
      rw [ByteArray.toList.loop, if_neg (by omega), List.reverse_reverse,
        List.take_of_length_le (by omega)]
  | succ left ih =>
      have hlt : index < octets.data.toList.length := by omega
      have hread : octets.get! index :: (octets.data.toList.take index).reverse =
          (octets.data.toList.take (index + 1)).reverse := by
        rw [List.take_succ_eq_append_getElem hlt, List.reverse_append]
        simp [ByteArray.get!, getElem!_pos octets.data index hlt]
      rw [ByteArray.toList.loop, if_pos (by omega), hread]
      exact ih (by omega) (by omega)

theorem toUtf8_eq (s : String) : toUtf8 s = s.toList.flatMap String.utf8EncodeChar := by
  have hoctets : s.toUTF8 = (s.toList.flatMap String.utf8EncodeChar).toByteArray := by
    rw [String.toUTF8_eq_toByteArray, ← String.utf8Encode_toList]
    rfl
  have hlisting := listing_of_take s.toUTF8 (Nat.zero_le _)
  rw [List.take_zero, List.reverse_nil] at hlisting
  rw [toUtf8, ByteArray.toList, hlisting, hoctets, List.toList_data_toByteArray]

theorem glyphs_flatMap_utf8EncodeChar (chars : List Char) :
    glyphs (chars.flatMap String.utf8EncodeChar) = chars.map some := by
  induction chars with
  | nil => simp [glyphs]
  | cons c rest ih =>
      obtain ⟨first, others, hoctets, hnext⟩ := nextGlyph_utf8EncodeChar c
      rw [List.flatMap_cons, hoctets, List.cons_append, glyphs, hnext, List.map_cons, ih]

theorem glyphs_toUtf8 (s : String) : glyphs (toUtf8 s) = s.toList.map some := by
  rw [toUtf8_eq, glyphs_flatMap_utf8EncodeChar]

end Muster.Text
