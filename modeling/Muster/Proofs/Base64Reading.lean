import Muster.Bytes.Base64
/-!
Base64 has one text for every octet sequence: reading accepts exactly what writing produces. All the
letters of a text are visible characters of ASCII.
-/
namespace Muster.Bytes.Base64

theorem sextet?_letter {n : Nat} (hn : n < 64) : sextet? (letter n) = some n := by
  have hall : ∀ sextet : Fin 64, sextet? (letter sextet) = some sextet.val := by decide
  exact hall ⟨n, hn⟩

theorem letter_visible {n : Nat} (hn : n < 64) :
    0x21 ≤ (letter n).toNat ∧ (letter n).toNat ≤ 0x7E := by
  have hall : ∀ sextet : Fin 64, 0x21 ≤ (letter sextet).toNat ∧ (letter sextet).toNat ≤ 0x7E := by
    decide
  exact hall ⟨n, hn⟩

theorem letter_ne_filling {n : Nat} (hn : n < 64) : letter n ≠ '=' := by
  have hall : ∀ sextet : Fin 64, letter sextet ≠ '=' := by decide
  exact hall ⟨n, hn⟩

theorem toNat_mem_range {low high c : Char} (hrange : low ≤ c ∧ c ≤ high) :
    low.toNat ≤ c.toNat ∧ c.toNat ≤ high.toNat :=
  ⟨UInt32.le_iff_toNat_le.1 hrange.1, UInt32.le_iff_toNat_le.1 hrange.2⟩

theorem letter_of_sextet? {c : Char} {n : Nat} (hc : sextet? c = some n) :
    n < 64 ∧ letter n = c := by
  simp only [sextet?] at hc
  split at hc
  · next hupper =>
      obtain ⟨hlow, hhigh⟩ := toNat_mem_range hupper
      change 65 ≤ c.toNat at hlow
      change c.toNat ≤ 90 at hhigh
      obtain rfl := Option.some.inj hc
      refine ⟨by omega, ?_⟩
      rw [letter, if_pos (by omega), Nat.add_sub_cancel' hlow, Char.ofNat_toNat]
  split at hc
  · next hlower =>
      obtain ⟨hlow, hhigh⟩ := toNat_mem_range hlower
      change 97 ≤ c.toNat at hlow
      change c.toNat ≤ 122 at hhigh
      obtain rfl := Option.some.inj hc
      refine ⟨by omega, ?_⟩
      rw [letter, if_neg (by omega), if_pos (by omega), Nat.add_sub_cancel,
        Nat.add_sub_cancel' hlow, Char.ofNat_toNat]
  split at hc
  · next hdigit =>
      obtain ⟨hlow, hhigh⟩ := toNat_mem_range hdigit
      change 48 ≤ c.toNat at hlow
      change c.toNat ≤ 57 at hhigh
      obtain rfl := Option.some.inj hc
      refine ⟨by omega, ?_⟩
      rw [letter, if_neg (by omega), if_neg (by omega), if_pos (by omega), Nat.add_sub_cancel,
        Nat.add_sub_cancel' hlow, Char.ofNat_toNat]
  split at hc
  · next hplus =>
      obtain rfl := Option.some.inj hc
      exact ⟨by decide, hplus.symm⟩
  split at hc
  · next hslash =>
      obtain rfl := Option.some.inj hc
      exact ⟨by decide, hslash.symm⟩
  · cases hc

theorem ofNat_eq_of_mod {n : Nat} {b : UInt8} (hn : n % 256 = b.toNat) : UInt8.ofNat n = b := by
  apply UInt8.toNat_inj.1
  rw [UInt8.toNat_ofNat', ← hn]

/-- Four letters are read as three octets, and what stands behind them on its own. -/
theorem decodeChars?_four {a b c d : Char} {w x y z : Nat} (ha : sextet? a = some w)
    (hb : sextet? b = some x) (hc : sextet? c = some y) (hd : sextet? d = some z)
    (rest : List Char) :
    decodeChars? (a :: b :: c :: d :: rest) =
      (decodeChars? rest).map fun tail =>
        UInt8.ofNat ((((w * 64 + x) * 64 + y) * 64 + z) / 65536) ::
          UInt8.ofNat ((((w * 64 + x) * 64 + y) * 64 + z) / 256) ::
            UInt8.ofNat (((w * 64 + x) * 64 + y) * 64 + z) :: tail := by
  have hletter : d ≠ '=' := by
    rintro rfl
    cases hd
  rw [decodeChars?]
  · simp only [ha, hb, hc, hd, Option.bind_eq_bind, Option.bind_some]
    cases decodeChars? rest <;> rfl
  · exact fun _ hfilling _ => hletter hfilling
  · exact fun hfilling _ => hletter hfilling

theorem decodeChars?_encodeChars (bytes : List UInt8) :
    decodeChars? (encodeChars bytes) = some bytes := by
  induction bytes using encodeChars.induct with
  | case1 => rfl
  | case2 a =>
      have ha := a.toNat_lt
      have hfirst : sextet? (letter (a.toNat * 16 / 64)) = some (a.toNat * 16 / 64) :=
        sextet?_letter (by omega)
      have hsecond : sextet? (letter (a.toNat * 16 % 64)) = some (a.toNat * 16 % 64) :=
        sextet?_letter (by omega)
      have hsum : a.toNat * 16 / 64 * 64 + a.toNat * 16 % 64 = a.toNat * 16 := by omega
      simp only [encodeChars, decodeChars?, hfirst, hsecond, Option.bind_eq_bind, Option.bind_some,
        hsum, Nat.mul_mod_left, ↓reduceIte, Nat.mul_div_cancel _ (by decide : 0 < 16),
        UInt8.ofNat_toNat]
  | case3 a b =>
      have ha := a.toNat_lt
      have hb := b.toNat_lt
      have hletters : ∀ n, n % 64 < 64 := fun n => Nat.mod_lt n (by decide)
      obtain ⟨n, hn⟩ : ∃ n, (a.toNat * 256 + b.toNat) * 4 = n := ⟨_, rfl⟩
      have hfirst : sextet? (letter (n / 4096)) = some (n / 4096) := sextet?_letter (by omega)
      have hsecond := sextet?_letter (hletters (n / 64))
      have hthird := sextet?_letter (hletters n)
      have hsum : (n / 4096 * 64 + n / 64 % 64) * 64 + n % 64 = n := by omega
      have hunused : n % 4 = 0 := by omega
      have hhigh : UInt8.ofNat (n / 1024) = a := ofNat_eq_of_mod (by omega)
      have hlow : UInt8.ofNat (n / 4) = b := ofNat_eq_of_mod (by omega)
      rw [encodeChars, hn, decodeChars?]
      · simp only [hfirst, hsecond, hthird, Option.bind_eq_bind, Option.bind_some, hsum, hunused,
          ↓reduceIte, hhigh, hlow]
      · exact letter_ne_filling (hletters n)
  | case4 a b c rest ih =>
      have ha := a.toNat_lt
      have hb := b.toNat_lt
      have hc := c.toNat_lt
      have hletters : ∀ n, n % 64 < 64 := fun n => Nat.mod_lt n (by decide)
      obtain ⟨n, hn⟩ : ∃ n, (a.toNat * 256 + b.toNat) * 256 + c.toNat = n := ⟨_, rfl⟩
      have hfirst : sextet? (letter (n / 262144)) = some (n / 262144) := sextet?_letter (by omega)
      have hsum : ((n / 262144 * 64 + n / 4096 % 64) * 64 + n / 64 % 64) * 64 + n % 64 = n := by
        omega
      have hhigh : UInt8.ofNat (n / 65536) = a := ofNat_eq_of_mod (by omega)
      have hmiddle : UInt8.ofNat (n / 256) = b := ofNat_eq_of_mod (by omega)
      have hlow : UInt8.ofNat n = c := ofNat_eq_of_mod (by omega)
      rw [encodeChars, hn, decodeChars?_four hfirst (sextet?_letter (hletters (n / 4096)))
        (sextet?_letter (hletters (n / 64))) (sextet?_letter (hletters n)), ih, Option.map_some,
        hsum, hhigh, hmiddle, hlow]

/-- A text that is read is the one that its octets are written as. -/
theorem eq_encodeChars_of_decodeChars? {chars : List Char} {bytes : List UInt8}
    (hread : decodeChars? chars = some bytes) : chars = encodeChars bytes := by
  induction chars using decodeChars?.induct generalizing bytes with
  | case1 =>
      cases hread
      rfl
  | case2 a b =>
      simp only [decodeChars?, Option.bind_eq_bind, Option.bind_eq_some_iff] at hread
      obtain ⟨w, ha, x, hb, hread⟩ := hread
      obtain ⟨hw, rfl⟩ := letter_of_sextet? ha
      obtain ⟨hx, rfl⟩ := letter_of_sextet? hb
      split at hread
      · next hunused =>
          cases hread
          have hoctet : (UInt8.ofNat ((w * 64 + x) / 16)).toNat = (w * 64 + x) / 16 :=
            UInt8.toNat_ofNat_of_lt' (by change _ < 256; omega)
          have hfirst : (w * 64 + x) / 16 * 16 / 64 = w := by omega
          have hsecond : (w * 64 + x) / 16 * 16 % 64 = x := by omega
          rw [encodeChars, hoctet, hfirst, hsecond]
      · cases hread
  | case3 a b c hletter =>
      simp only [decodeChars?.eq_3 a b c hletter, Option.bind_eq_bind, Option.bind_eq_some_iff]
        at hread
      obtain ⟨w, ha, x, hb, y, hc, hread⟩ := hread
      obtain ⟨hw, rfl⟩ := letter_of_sextet? ha
      obtain ⟨hx, rfl⟩ := letter_of_sextet? hb
      obtain ⟨hy, rfl⟩ := letter_of_sextet? hc
      obtain ⟨n, hn⟩ : ∃ n, (w * 64 + x) * 64 + y = n := ⟨_, rfl⟩
      rw [hn] at hread
      split at hread
      · next hunused =>
          cases hread
          have hhigh : (UInt8.ofNat (n / 1024)).toNat = n / 1024 :=
            UInt8.toNat_ofNat_of_lt' (by change _ < 256; omega)
          have hlow : (UInt8.ofNat (n / 4)).toNat = n / 4 % 256 := UInt8.toNat_ofNat'
          have hvalue : (n / 1024 * 256 + n / 4 % 256) * 4 = n := by omega
          have hfirst : n / 4096 = w := by omega
          have hsecond : n / 64 % 64 = x := by omega
          have hthird : n % 64 = y := by omega
          rw [encodeChars, hhigh, hlow, hvalue, hfirst, hsecond, hthird]
      · cases hread
  | case4 a b c d rest hshort hshorter ih =>
      simp only [decodeChars?.eq_4 a b c d rest hshort hshorter, Option.bind_eq_bind,
        Option.bind_eq_some_iff] at hread
      obtain ⟨w, ha, x, hb, y, hc, z, hd, tail, htail, hread⟩ := hread
      obtain ⟨hw, rfl⟩ := letter_of_sextet? ha
      obtain ⟨hx, rfl⟩ := letter_of_sextet? hb
      obtain ⟨hy, rfl⟩ := letter_of_sextet? hc
      obtain ⟨hz, rfl⟩ := letter_of_sextet? hd
      obtain ⟨n, hn⟩ : ∃ n, ((w * 64 + x) * 64 + y) * 64 + z = n := ⟨_, rfl⟩
      rw [hn] at hread
      cases hread
      have hhigh : (UInt8.ofNat (n / 65536)).toNat = n / 65536 :=
        UInt8.toNat_ofNat_of_lt' (by change _ < 256; omega)
      have hmiddle : (UInt8.ofNat (n / 256)).toNat = n / 256 % 256 := UInt8.toNat_ofNat'
      have hlow : (UInt8.ofNat n).toNat = n % 256 := UInt8.toNat_ofNat'
      have hvalue : (n / 65536 * 256 + n / 256 % 256) * 256 + n % 256 = n := by omega
      have hfirst : n / 262144 = w := by omega
      have hsecond : n / 4096 % 64 = x := by omega
      have hthird : n / 64 % 64 = y := by omega
      have hfourth : n % 64 = z := by omega
      rw [encodeChars, hhigh, hmiddle, hlow, hvalue, hfirst, hsecond, hthird, hfourth, ih htail]
  | case5 chars hnil hone htwo hfour =>
      rw [decodeChars?.eq_5 chars hnil hone htwo hfour] at hread
      cases hread

theorem decode?_eq_some_iff {text : String} {bytes : List UInt8} :
    decode? text = some bytes ↔ text = encode bytes := by
  constructor
  · intro hread
    rw [encode, ← eq_encodeChars_of_decodeChars? hread, String.ofList_toList]
  · rintro rfl
    rw [decode?, encode, String.toList_ofList, decodeChars?_encodeChars]

theorem encodeChars_visible (bytes : List UInt8) :
    ∀ c ∈ encodeChars bytes, 0x21 ≤ c.toNat ∧ c.toNat ≤ 0x7E := by
  have hletters : ∀ n, n % 64 < 64 := fun n => Nat.mod_lt n (by decide)
  have hfilling : 0x21 ≤ '='.toNat ∧ '='.toNat ≤ 0x7E := by decide
  induction bytes using encodeChars.induct with
  | case1 =>
      intro c hc
      cases hc
  | case2 a =>
      have ha := a.toNat_lt
      simp only [encodeChars, List.forall_mem_cons]
      exact ⟨letter_visible (by omega), letter_visible (hletters _), hfilling, hfilling, by simp⟩
  | case3 a b =>
      have ha := a.toNat_lt
      have hb := b.toNat_lt
      simp only [encodeChars, List.forall_mem_cons]
      exact ⟨letter_visible (by omega), letter_visible (hletters _), letter_visible (hletters _),
        hfilling, by simp⟩
  | case4 a b c rest ih =>
      have ha := a.toNat_lt
      have hb := b.toNat_lt
      have hc := c.toNat_lt
      simp only [encodeChars, List.forall_mem_cons]
      exact ⟨letter_visible (by omega), letter_visible (hletters _), letter_visible (hletters _),
        letter_visible (hletters _), ih⟩

theorem encodeChars_ne_nil {bytes : List UInt8} (hbytes : bytes ≠ []) : encodeChars bytes ≠ [] := by
  intro hnil
  have hread := decodeChars?_encodeChars bytes
  rw [hnil] at hread
  exact hbytes (Option.some.inj hread).symm

end Muster.Bytes.Base64
