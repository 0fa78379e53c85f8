import Muster.Text.Decimal
/-!
The digits of a number: what they are, and that they are read as the number they were written for.
-/
namespace Muster.Text

theorem digit?_digitChar {n : Nat} (hn : n < 10) : digit? n.digitChar = some n := by
  have hall : ∀ digit : Fin 10, digit? digit.val.digitChar = some digit.val := by decide
  exact hall ⟨n, hn⟩

theorem isDigit_digitChar {n : Nat} (hn : n < 10) : isDigit n.digitChar = true := by
  have hall : ∀ digit : Fin 10, isDigit digit.val.digitChar = true := by decide
  exact hall ⟨n, hn⟩

theorem natDigits_of_lt {n : Nat} (hn : n < 10) : natDigits n = [n.digitChar] :=
  Nat.toDigits_of_lt_base hn

/-- The digits of a number are those of its tenth part, and one more. -/
theorem natDigits_of_le {n : Nat} (hn : 10 ≤ n) :
    natDigits n = natDigits (n / 10) ++ [(n % 10).digitChar] := by
  have hstep := Nat.toDigits_append_toDigits (b := 10) (n := n / 10) (d := n % 10) (by decide)
    (by omega) (by omega)
  rw [Nat.toDigits_of_lt_base (by omega : n % 10 < 10), Nat.div_add_mod n 10] at hstep
  exact hstep.symm

/-- Induction over the digits of a number. -/
theorem tenth_induction {motive : Nat → Prop} (single : ∀ n, n < 10 → motive n)
    (more : ∀ n, 10 ≤ n → motive (n / 10) → motive n) (n : Nat) : motive n := by
  induction n using Nat.strongRecOn with
  | ind n ih =>
      by_cases hsmall : n < 10
      · exact single n hsmall
      · exact more n (by omega) (ih (n / 10) (by omega))

theorem natDigits_ne_nil (n : Nat) : natDigits n ≠ [] :=
  Nat.toDigits_ne_nil

theorem isDigit_of_mem_natDigits (n : Nat) : ∀ c ∈ natDigits n, isDigit c = true := by
  induction n using tenth_induction with
  | single n hn =>
      intro c hc
      rw [natDigits_of_lt hn, List.mem_singleton] at hc
      rw [hc]
      exact isDigit_digitChar hn
  | more n hn ih =>
      intro c hc
      rw [natDigits_of_le hn, List.mem_append, List.mem_singleton] at hc
      rcases hc with hc | rfl
      · exact ih c hc
      · exact isDigit_digitChar (by omega)

theorem digitsValue_concat (digits : List Char) {d : Nat} (hd : d < 10) :
    digitsValue (digits ++ [d.digitChar]) = digitsValue digits * 10 + d := by
  simp [digitsValue, digit?_digitChar hd]

theorem digitsValue_natDigits (n : Nat) : digitsValue (natDigits n) = n := by
  induction n using tenth_induction with
  | single n hn =>
      rw [natDigits_of_lt hn]
      simp [digitsValue, digit?_digitChar hn]
  | more n hn ih =>
      rw [natDigits_of_le hn, digitsValue_concat _ (by omega), ih]
      omega

/-- Only zero begins with a zero. -/
theorem head?_natDigits_of_pos {n : Nat} (hn : 0 < n) : (natDigits n).head? ≠ some '0' := by
  induction n using tenth_induction with
  | single n hsmall =>
      rw [natDigits_of_lt hsmall, List.head?_singleton]
      intro hzero
      have := Nat.digitChar_eq_zero.1 (Option.some.inj hzero)
      omega
  | more n hlarge ih =>
      have hfirst := ih (by omega)
      rw [natDigits_of_le hlarge]
      cases hdigits : natDigits (n / 10) with
      | nil => exact absurd hdigits (natDigits_ne_nil _)
      | cons first rest =>
          rw [hdigits] at hfirst
          exact hfirst

theorem length_natDigits_le {n size : Nat} (hsize : 0 < size) (hn : n < Nat.pow 10 size) :
    (natDigits n).length ≤ size := by
  induction n using tenth_induction generalizing size with
  | single n hsmall =>
      rw [natDigits_of_lt hsmall]
      exact hsize
  | more n hlarge ih =>
      obtain ⟨size, rfl⟩ : ∃ smaller, size = smaller + 1 := ⟨size - 1, by omega⟩
      change n < Nat.pow 10 size * 10 at hn
      have hpositive : 0 < size := by
        rcases Nat.eq_zero_or_pos size with rfl | hpositive
        · change n < 1 * 10 at hn
          omega
        · exact hpositive
      have hlength := ih hpositive (by omega)
      rw [natDigits_of_le hlarge, List.length_append]
      exact Nat.succ_le_succ hlength

theorem isDigit_of_mem_paddedDigits (size n : Nat) : ∀ c ∈ paddedDigits size n, isDigit c = true := by
  intro c hc
  rcases List.mem_append.1 hc with hc | hc
  · rw [(List.mem_replicate.1 hc).2]
    decide
  · exact isDigit_of_mem_natDigits n c hc

theorem length_paddedDigits {size n : Nat} (hsize : 0 < size) (hn : n < Nat.pow 10 size) :
    (paddedDigits size n).length = size := by
  have hlength := length_natDigits_le hsize hn
  simp only [paddedDigits, List.length_append, List.length_replicate]
  omega

theorem paddedDigits_ne_nil (size n : Nat) : paddedDigits size n ≠ [] := by
  intro hempty
  exact natDigits_ne_nil n (List.append_eq_nil_iff.1 hempty).2

/-- Zeros in front do not count. -/
theorem digitsValue_paddedDigits (size n : Nat) : digitsValue (paddedDigits size n) = n := by
  have hzeros : ∀ count, digitsValue (List.replicate count '0' ++ natDigits n) = n := by
    intro count
    induction count with
    | zero => exact digitsValue_natDigits n
    | succ count ih =>
        rw [List.replicate_succ, List.cons_append]
        exact ih
  exact hzeros _

theorem toList_ofInt (n : Int) :
    (ofInt n).toList = (if n < 0 then ['-'] else []) ++ natDigits n.natAbs := by
  rw [ofInt, String.toList_ofList]
  split <;> rfl

theorem Bounds.holds_iff (bounds : Bounds) (n : Int) :
    bounds.holds n = true ↔ bounds.low ≤ n ∧ n ≤ bounds.high := by
  simp only [Bounds.holds, Bool.and_eq_true, decide_eq_true_eq]

section Reading

variable {bounds : Bounds} {negative : Bool}

/-- One more digit is read if the number stays in the range. -/
theorem readDigits_concat {digits : List Char} {value next : Int} {d : Nat}
    (hread : readDigits bounds negative digits = .ok value) (hd : d < 10)
    (hnext : (if negative then value * 10 - d else value * 10 + d) = next)
    (hholds : bounds.holds next = true) :
    readDigits bounds negative (digits ++ [d.digitChar]) = .ok next := by
  rw [readDigits] at hread ⊢
  rw [List.foldlM_append, hread]
  subst hnext
  simp only [List.foldlM_cons, List.foldlM_nil, digit?_digitChar hd, bind, Except.bind, hholds,
    ↓reduceIte]
  rfl

/-- The digits of a number of the range are read as the number, in the direction of its sign. -/
theorem readDigits_natDigits (hzero : bounds.holds 0 = true) {n : Nat}
    (hn : bounds.holds (if negative then -n else n) = true) :
    readDigits bounds negative (natDigits n) = .ok (if negative then -n else n) := by
  induction n using tenth_induction with
  | single n hsmall =>
      rw [natDigits_of_lt hsmall, ← List.nil_append [n.digitChar]]
      refine readDigits_concat rfl hsmall ?_ hn
      split <;> omega
  | more n hlarge ih =>
      -- what stands in front of the last digit is nearer to zero
      have hfront : bounds.holds (if negative then -(n / 10 : Nat) else (n / 10 : Nat)) = true := by
        rw [Bounds.holds_iff] at hzero hn ⊢
        split <;> simp_all <;> omega
      rw [natDigits_of_le hlarge]
      refine readDigits_concat (ih hfront) (Nat.mod_lt n (by decide)) ?_ hn
      split <;> omega

theorem readInt_of_digits {text : String} {first : Char} {rest : List Char}
    (htext : text.toList = first :: rest) (hfirst : isDigit first = true) :
    readInt bounds text = readDigits bounds false (first :: rest) := by
  have hplus : first ≠ '+' := by
    rintro rfl
    exact absurd hfirst (by decide)
  have hminus : first ≠ '-' := by
    rintro rfl
    exact absurd hfirst (by decide)
  simp [readInt, htext, hplus, hminus]

theorem readInt_of_minus {text : String} {first : Char} {rest : List Char}
    (htext : text.toList = '-' :: first :: rest) :
    readInt bounds text = readDigits bounds true (first :: rest) := by
  simp [readInt, htext]

theorem readInt_ofInt (hzero : bounds.holds 0 = true) {n : Int} (hn : bounds.holds n = true) :
    readInt bounds (ofInt n) = .ok n := by
  have htext := toList_ofInt n
  obtain ⟨first, rest, hdigits⟩ := List.exists_cons_of_ne_nil (natDigits_ne_nil n.natAbs)
  by_cases hnegative : n < 0
  · have hvalue : (if true = true then -(n.natAbs : Int) else n.natAbs) = n := by
      rw [if_pos rfl]
      omega
    have hread := readDigits_natDigits hzero (hvalue.symm ▸ hn)
    rw [if_pos hnegative, hdigits] at htext
    rw [hvalue, hdigits] at hread
    exact (readInt_of_minus htext).trans hread
  · have hvalue : (if false = true then -(n.natAbs : Int) else n.natAbs) = n := by
      rw [if_neg Bool.false_ne_true]
      omega
    have hread := readDigits_natDigits hzero (hvalue.symm ▸ hn)
    have hfirst : isDigit first = true := by
      apply isDigit_of_mem_natDigits n.natAbs
      rw [hdigits]
      exact List.mem_cons_self
    rw [if_neg hnegative, hdigits] at htext
    rw [hvalue, hdigits] at hread
    exact (readInt_of_digits htext hfirst).trans hread

theorem ofInt_injective : Function.Injective ofInt := by
  intro n m hsame
  have hread : ∀ k : Int, k = n ∨ k = m →
      readInt ⟨-(n.natAbs + m.natAbs), n.natAbs + m.natAbs⟩ (ofInt k) = .ok k := by
    intro k hk
    apply readInt_ofInt <;>
    · rw [Bounds.holds_iff]
      dsimp only
      omega
  have hn := hread n (Or.inl rfl)
  rw [hsame, hread m (Or.inr rfl)] at hn
  cases hn
  rfl

end Reading

end Muster.Text
