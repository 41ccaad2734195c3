import Mathlib.Data.List.Basic

/-!
# Numbers at the start of a text, as `std::net` prints and parses them

Texts are lists of characters.  A parser returns what it read and the rest of the text, and one that
fails consumes nothing (`read_atomically`).
-/

namespace Net

/-- The value of a digit in any radix up to 36. -/
def digitValue (c : Char) : Option ℕ :=
  if 48 ≤ c.toNat ∧ c.toNat ≤ 57 then some (c.toNat - 48)
  else if 97 ≤ c.toNat ∧ c.toNat ≤ 122 then some (c.toNat - 87)
  else if 65 ≤ c.toNat ∧ c.toNat ≤ 90 then some (c.toNat - 55)
  else none

/-- `char::to_digit` -/
def toDigit (radix : ℕ) (c : Char) : Option ℕ := (digitValue c).filter (· < radix)

/-- The loop of `read_number`, after `count` digits with the value `result`. -/
def readDigits (radix max : ℕ) (maxDigits : Option ℕ) :
    ℕ → ℕ → List Char → Option ((ℕ × ℕ) × List Char)
  | result, count, [] => some ((result, count), [])
  | result, count, c :: rest =>
    match toDigit radix c with
    | none => some ((result, count), c :: rest)
    | some digit =>
      -- `checked_mul` and `checked_add`
      if max < result * radix + digit then none
      else if maxDigits.any (· < count + 1) then none
      else readDigits radix max maxDigits (result * radix + digit) (count + 1) rest

/-- `Parser::read_number`, for a type of numbers up to `max`. -/
def readNumber (radix max : ℕ) (maxDigits : Option ℕ) (allowZeroPrefix : Bool) (s : List Char) :
    Option (ℕ × List Char) :=
  match readDigits radix max maxDigits 0 0 s with
  | none => none
  | some ((result, count), rest) =>
    if count = 0 then none
    else if !allowZeroPrefix ∧ s.head? = some '0' ∧ 1 < count then none
    else some (result, rest)

/-- A text that does not go on with a digit. -/
def NoDigit (radix : ℕ) (s : List Char) : Prop := ∀ c ∈ s.head?, toDigit radix c = none

section

variable {radix max n : ℕ} {maxDigits : Option ℕ} {rest s : List Char}

theorem noDigit_nil : NoDigit radix [] := by simp [NoDigit]

theorem noDigit_cons {c : Char} (h : toDigit radix c = none) : NoDigit radix (c :: rest) := by
  simpa [NoDigit] using h

theorem NoDigit.mono {radix' : ℕ} (h : NoDigit radix' s) (hle : radix ≤ radix') :
    NoDigit radix s := by
  intro c hc
  have hnone := h c hc
  rw [toDigit, Option.filter_eq_none_iff] at hnone ⊢
  intro d hd hlt
  refine hnone d hd (decide_eq_true ?_)
  have hlt := of_decide_eq_true hlt
  omega

theorem toDigit_digitChar {d : ℕ} (h : d < radix) (h16 : radix ≤ 16) :
    toDigit radix d.digitChar = some d := by
  have hvalue : ∀ d < 16, digitValue (Nat.digitChar d) = some d := by decide
  rw [toDigit, hvalue d (by omega), Option.filter_some, if_pos (by simpa using h)]

/-- One more digit. -/
theorem readDigits_digitChar {result count digit : ℕ} (h16 : radix ≤ 16) (hdigit : digit < radix)
    (hmax : result * radix + digit ≤ max) (hcount : ∀ k ∈ maxDigits, count + 1 ≤ k) :
    readDigits radix max maxDigits result count (digit.digitChar :: rest) =
      readDigits radix max maxDigits (result * radix + digit) (count + 1) rest := by
  have hany : ¬ (maxDigits.any (· < count + 1)) = true := by
    rw [Option.any_eq_true]
    rintro ⟨k, hk, hlt⟩
    have hle := hcount k hk
    have hlt := of_decide_eq_true hlt
    omega
  rw [readDigits, toDigit_digitChar hdigit h16]
  simp only [if_neg (Nat.not_lt.mpr hmax), if_neg hany]

/-- The loop reads the digits of a number. -/
theorem readDigits_toDigits (hradix : 1 < radix) (h16 : radix ≤ 16) (hn : n ≤ max)
    (hlength : ∀ k ∈ maxDigits, (Nat.toDigits radix n).length ≤ k) :
    readDigits radix max maxDigits 0 0 (Nat.toDigits radix n ++ rest) =
      readDigits radix max maxDigits n (Nat.toDigits radix n).length rest := by
  -- the last digit comes off the end
  induction n using Nat.strongRecOn generalizing rest with
  | _ n ih =>
    by_cases hlt : n < radix
    · have hone : Nat.toDigits radix n = [n.digitChar] := Nat.toDigits_of_lt_base hlt
      rw [hone] at hlength ⊢
      have hstep := @readDigits_digitChar radix max maxDigits rest 0 0 n h16 hlt (by omega) hlength
      rw [Nat.zero_mul, Nat.zero_add] at hstep
      exact hstep
    · have hsplit := Nat.toDigits_of_base_le hradix (Nat.not_lt.mp hlt)
      have hdiv : n / radix < n := Nat.div_lt_self (by omega) hradix
      have hmod : n / radix * radix + n % radix = n := Nat.div_add_mod' n radix
      have hlen : (Nat.toDigits radix n).length = (Nat.toDigits radix (n / radix)).length + 1 := by
        rw [hsplit, List.length_append, List.length_singleton]
      rw [hlen] at hlength
      have hlength' : ∀ k ∈ maxDigits, (Nat.toDigits radix (n / radix)).length ≤ k :=
        fun k hk => Nat.le_of_succ_le (hlength k hk)
      calc readDigits radix max maxDigits 0 0 (Nat.toDigits radix n ++ rest)
          = readDigits radix max maxDigits 0 0
              (Nat.toDigits radix (n / radix) ++ (n % radix).digitChar :: rest) := by
            rw [hsplit, List.append_assoc, List.singleton_append]
        _ = readDigits radix max maxDigits (n / radix) (Nat.toDigits radix (n / radix)).length
              ((n % radix).digitChar :: rest) := ih (n / radix) hdiv (by omega) hlength'
        _ = readDigits radix max maxDigits (n / radix * radix + n % radix)
              ((Nat.toDigits radix (n / radix)).length + 1) rest :=
            readDigits_digitChar h16 (Nat.mod_lt n (by omega)) (by omega) hlength
        _ = readDigits radix max maxDigits n (Nat.toDigits radix n).length rest := by
            rw [hmod, hlen]

/-- The loop stops in front of what is no digit. -/
theorem readDigits_noDigit {result count : ℕ} (h : NoDigit radix rest) :
    readDigits radix max maxDigits result count rest = some ((result, count), rest) := by
  cases rest with
  | nil => rfl
  | cons c rest =>
    rw [readDigits, h c rfl]

theorem head?_append_toDigits {s : List Char} :
    (Nat.toDigits radix n ++ s).head? = (Nat.toDigits radix n).head? := by
  obtain ⟨c, cs, hcs⟩ := List.exists_cons_of_ne_nil (@Nat.toDigits_ne_nil n radix)
  rw [hcs, List.cons_append, List.head?_cons, List.head?_cons]

/-- Only zero is printed with a leading zero. -/
theorem head?_toDigits (hradix : 1 < radix) (h : (Nat.toDigits radix n).head? = some '0') :
    n = 0 := by
  induction n using Nat.strongRecOn with
  | _ n ih =>
    by_cases hlt : n < radix
    · rw [Nat.toDigits_of_lt_base hlt, List.head?_cons, Option.some.injEq,
        Nat.digitChar_eq_zero] at h
      exact h
    · have hle := Nat.not_lt.mp hlt
      rw [Nat.toDigits_of_base_le hradix hle, head?_append_toDigits] at h
      have hzero := ih (n / radix) (Nat.div_lt_self (by omega) hradix) h
      have hpos : 0 < n / radix := Nat.div_pos hle (by omega)
      omega

/-- A printed number is read. -/
theorem readNumber_toDigits (hradix : 1 < radix) (h16 : radix ≤ 16) (hn : n ≤ max)
    (hlength : ∀ k ∈ maxDigits, (Nat.toDigits radix n).length ≤ k) (hrest : NoDigit radix rest)
    (allowZeroPrefix : Bool) :
    readNumber radix max maxDigits allowZeroPrefix (Nat.toDigits radix n ++ rest) =
      some (n, rest) := by
  have hpos : (Nat.toDigits radix n).length ≠ 0 := Nat.ne_of_gt Nat.length_toDigits_pos
  have hzero : ¬ (!allowZeroPrefix ∧ (Nat.toDigits radix n ++ rest).head? = some '0' ∧
      1 < (Nat.toDigits radix n).length) := by
    rintro ⟨-, hhead, hlong⟩
    rw [head?_append_toDigits] at hhead
    obtain rfl := head?_toDigits hradix hhead
    rw [Nat.toDigits_zero] at hlong
    exact absurd hlong (by decide)
  rw [readNumber, readDigits_toDigits hradix h16 hn hlength, readDigits_noDigit hrest]
  simp only [if_neg hpos, if_neg hzero]

/-- What is left are the characters from the first one on that is no digit. -/
theorem readDigits_rest : ∀ {s : List Char} {result count : ℕ} {r : ℕ × ℕ},
    readDigits radix max maxDigits result count s = some (r, rest) →
      rest = s.dropWhile (fun c => (toDigit radix c).isSome)
  | [], result, count, r, h => by
    simp only [readDigits, Option.some.injEq, Prod.mk.injEq] at h
    rw [← h.2, List.dropWhile_nil]
  | c :: s, result, count, r, h => by
    rw [readDigits] at h
    cases hc : toDigit radix c with
    | none =>
      simp only [hc, Option.some.injEq, Prod.mk.injEq] at h
      rw [← h.2, List.dropWhile_cons, if_neg (by simp [hc])]
    | some digit =>
      simp only [hc] at h
      split_ifs at h
      rw [List.dropWhile_cons, if_pos (by simp [hc])]
      exact readDigits_rest h

theorem readNumber_rest {allowZeroPrefix : Bool}
    (h : readNumber radix max maxDigits allowZeroPrefix s = some (n, rest)) :
    rest = s.dropWhile (fun c => (toDigit radix c).isSome) := by
  unfold readNumber at h
  split at h
  · cases h
  · rename_i result count rest' hdigits
    split_ifs at h
    obtain ⟨-, rfl⟩ := Prod.mk.inj (Option.some.inj h)
    exact readDigits_rest hdigits

/-- There is no number in front of what is no digit. -/
theorem readNumber_noDigit {allowZeroPrefix : Bool} (h : NoDigit radix s) :
    readNumber radix max maxDigits allowZeroPrefix s = none := by
  rw [readNumber, readDigits_noDigit h]
  exact if_pos rfl

end

end Net
