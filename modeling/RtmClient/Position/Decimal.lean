import RtmClient.Basic
import Mathlib.Data.Nat.Digits

/-!
# Decimal numerals of the C and C++ libraries

`std::to_string` writes an unsigned value as its shortest decimal numeral, which is
`Nat.toDigits 10`.  `strtoll` and `strtoull` read a numeral back from a NUL-terminated buffer
in the "C" locale: they skip white space, take an optional sign and the longest run of
decimal digits (the subject sequence), and leave the end pointer right after it, or at the
start of the buffer when there is no digit.  A value out of range saturates, and `strtoull`
negates a signed value modulo 2^64.  A pointer into a buffer is the suffix it starts, so two
pointers into one buffer are equal exactly when their suffixes are.
-/

namespace RtmClient

/-- `isspace` in the "C" locale. -/
def isSpace (c : Char) : Bool :=
  c = ' ' || c = '\t' || c = '\n' || c = '\x0b' || c = '\x0c' || c = '\r'

/-- The value of a run of decimal digits, most significant first. -/
def ofDigits (digits : List Char) : Nat :=
  digits.foldl (fun acc c => acc * 10 + (c.toNat - '0'.toNat)) 0

/-- A subject sequence: its sign, its digits, and the rest of the buffer, where the end
pointer is left. -/
structure Subject where
  negative : Bool
  digits : List Char
  rest : List Char
  deriving DecidableEq, Repr

/-- The optional sign in front of the digits. -/
def sign : List Char -> Bool × List Char
  | c :: t => if c = '-' then (true, t) else if c = '+' then (false, t) else (false, c :: t)
  | [] => (false, [])

/-- The subject sequence at the start of a buffer, or `none` when it holds no digit. -/
def subject (nptr : List Char) : Option Subject :=
  let (negative, t) := sign (nptr.dropWhile isSpace)
  if t.takeWhile Char.isDigit = [] then none
  else some ⟨negative, t.takeWhile Char.isDigit, t.dropWhile Char.isDigit⟩

/-- `LLONG_MAX`. -/
def LLONG_MAX : Int := 9223372036854775807

/-- The value `strtoll` returns for a subject sequence: the signed value, saturated at
`LLONG_MIN` and `LLONG_MAX`. -/
def toLongLong (negative : Bool) (m : Nat) : Int :=
  if negative then max (-(m : Int)) (-LLONG_MAX - 1) else min (m : Int) LLONG_MAX

/-- The value `strtoull` returns for a subject sequence: saturated at `ULLONG_MAX`, and
negated in the unsigned type when the sign is `-`. -/
def toUnsignedLongLong (negative : Bool) (m : Nat) : UInt64 :=
  if m ≤ UINT64_MAX.toNat then
    if negative then 0 - UInt64.ofNat m else UInt64.ofNat m
  else UINT64_MAX

@[simp] theorem toLongLong_false (m : Nat) : toLongLong false m = min (m : Int) LLONG_MAX := rfl

theorem toUnsignedLongLong_false {m : Nat} (h : m ≤ 2 ^ 64 - 1) :
    toUnsignedLongLong false m = UInt64.ofNat m := by
  rw [toUnsignedLongLong, if_pos (by simpa using h)]
  rfl

/-- `strtoll(nptr, &endptr, 10)`: the value and the end pointer. -/
def strtoll (nptr : List Char) : Int × List Char :=
  match subject nptr with
  | none => (0, nptr)
  | some s => (toLongLong s.negative (ofDigits s.digits), s.rest)

/-- `strtoull(nptr, &endptr, 10)`: the value and the end pointer. -/
def strtoull (nptr : List Char) : UInt64 × List Char :=
  match subject nptr with
  | none => (0, nptr)
  | some s => (toUnsignedLongLong s.negative (ofDigits s.digits), s.rest)

/-! ## Digits -/

/-- A nonempty run of decimal digits. -/
def Numeral (digits : List Char) : Prop := digits ≠ [] ∧ ∀ c ∈ digits, c.isDigit

/-- The text of an optional sign: nothing, `+` or `-`. -/
def SignText (sg : List Char) : Prop := sg = [] ∨ sg = ['+'] ∨ sg = ['-']

/-- The rest of a buffer after the longest run of digits: it does not start with a digit. -/
def NoDigitAhead (rest : List Char) : Prop := ∀ c ∈ rest.head?, c.isDigit = false

theorem ofDigits_append_digit (ds : List Char) (c : Char) :
    ofDigits (ds ++ [c]) = ofDigits ds * 10 + (c.toNat - 48) := by
  simp [ofDigits, List.foldl_append]

theorem digitChar_spec :
    ∀ d < 10, (Nat.digitChar d).isDigit ∧ (Nat.digitChar d).toNat = 48 + d := by
  decide

theorem isSpace_of_isDigit {c : Char} (h : c.isDigit) : isSpace c = false := by
  simp only [isSpace, Bool.or_eq_false_iff, decide_eq_false_iff_not]
  refine ⟨⟨⟨⟨⟨?_, ?_⟩, ?_⟩, ?_⟩, ?_⟩, ?_⟩ <;> (rintro rfl; revert h; decide)

/-! ## `std::to_string` -/

theorem toDigitsCore_append (f n : Nat) (ds : List Char) :
    Nat.toDigitsCore 10 f n ds = Nat.toDigitsCore 10 f n [] ++ ds := by
  induction f generalizing n ds with
  | zero => rfl
  | succ f ih =>
    simp only [Nat.toDigitsCore]
    split
    · rfl
    · rw [ih _ (_ :: ds), ih _ [_]]
      simp

theorem toDigitsCore_fuel {f g n : Nat} (hf : n < f) (hg : n < g) :
    Nat.toDigitsCore 10 f n [] = Nat.toDigitsCore 10 g n [] := by
  induction f generalizing g n with
  | zero => omega
  | succ f ih =>
    obtain ⟨g, rfl⟩ : exists g', g = g' + 1 := ⟨g - 1, by omega⟩
    simp only [Nat.toDigitsCore]
    split
    · rfl
    · rw [toDigitsCore_append f, toDigitsCore_append g, ih (g := g) (by omega) (by omega)]

theorem toDigits_eq (n : Nat) :
    Nat.toDigits 10 n =
      (if n < 10 then [] else Nat.toDigits 10 (n / 10)) ++ [Nat.digitChar (n % 10)] := by
  show Nat.toDigitsCore 10 (n + 1) n [] = _
  rw [Nat.toDigitsCore]
  split
  · rw [if_pos (by omega)]; rfl
  · rw [if_neg (by omega), toDigitsCore_append,
      toDigitsCore_fuel (g := n / 10 + 1) (by omega) (by omega)]
    rfl

theorem toDigits_numeral (n : Nat) : Numeral (Nat.toDigits 10 n) := by
  induction n using Nat.strong_induction_on with
  | _ n ih =>
    rw [toDigits_eq]
    refine ⟨by simp, fun c hc => ?_⟩
    simp only [List.mem_append, List.mem_singleton] at hc
    rcases hc with hc | rfl
    · split at hc
      · simp at hc
      · exact (ih (n / 10) (by omega)).2 c hc
    · exact (digitChar_spec _ (Nat.mod_lt _ (by omega))).1

theorem ofDigits_toDigits (n : Nat) : ofDigits (Nat.toDigits 10 n) = n := by
  induction n using Nat.strong_induction_on with
  | _ n ih =>
    have hd := (digitChar_spec (n % 10) (Nat.mod_lt _ (by omega))).2
    rw [toDigits_eq, ofDigits_append_digit, hd]
    split
    · simp [ofDigits]; omega
    · rw [ih (n / 10) (by omega)]; omega

/-! ## The subject sequence -/

theorem sign_of_signText {sg t : List Char} (hsg : SignText sg) (ht : ∀ c ∈ t.head?, c.isDigit) :
    sign (sg ++ t) = (decide (sg = ['-']), t) := by
  rcases hsg with rfl | rfl | rfl
  · match t, ht with
    | [], _ => rfl
    | c :: t, ht =>
      have hc : c.isDigit := ht c rfl
      have : c ≠ '-' ∧ c ≠ '+' := by
        constructor <;> (rintro rfl; revert hc; decide)
      simp [sign, this]
  · rfl
  · rfl

theorem sign_signText (l : List Char) :
    exists sg, SignText sg ∧ l = sg ++ (sign l).2 ∧ (sign l).1 = decide (sg = ['-']) := by
  match l with
  | [] => exact ⟨[], .inl rfl, rfl, rfl⟩
  | c :: t =>
    by_cases hm : c = '-'
    · subst hm; exact ⟨['-'], .inr (.inr rfl), rfl, rfl⟩
    by_cases hp : c = '+'
    · subst hp; exact ⟨['+'], .inr (.inl rfl), rfl, rfl⟩
    · exact ⟨[], .inl rfl, by simp [sign, hm, hp], by simp [sign, hm, hp]⟩

theorem noDigitAhead_dropWhile (l : List Char) : NoDigitAhead (l.dropWhile Char.isDigit) := by
  induction l with
  | nil => simp [NoDigitAhead]
  | cons c t ih =>
    by_cases hc : c.isDigit
    · rwa [List.dropWhile_cons_of_pos hc]
    · rw [List.dropWhile_cons_of_neg hc]
      simpa [NoDigitAhead] using hc

theorem subject_some {nptr : List Char} {s : Subject} (h : subject nptr = some s) :
    exists ws sg, nptr = ws ++ sg ++ s.digits ++ s.rest ∧ (∀ c ∈ ws, isSpace c) ∧
      SignText sg ∧ s.negative = decide (sg = ['-']) ∧ Numeral s.digits ∧ NoDigitAhead s.rest := by
  simp only [subject] at h
  split at h
  · cases h
  · rename_i hne
    cases h
    obtain ⟨sg, hsg, ht, hneg⟩ := sign_signText (nptr.dropWhile isSpace)
    refine ⟨nptr.takeWhile isSpace, sg, ?_, fun c hc => List.mem_takeWhile_imp hc, hsg, hneg,
      ⟨hne, fun c hc => List.mem_takeWhile_imp hc⟩, noDigitAhead_dropWhile _⟩
    simp only [List.append_assoc, List.takeWhile_append_dropWhile]
    conv_lhs => rw [← List.takeWhile_append_dropWhile isSpace nptr, ht]

theorem subject_eq {ws sg ds rest : List Char} (hws : ∀ c ∈ ws, isSpace c) (hsg : SignText sg)
    (hds : Numeral ds) (hrest : NoDigitAhead rest) :
    subject (ws ++ sg ++ ds ++ rest) = some ⟨decide (sg = ['-']), ds, rest⟩ := by
  obtain ⟨d, ds, rfl⟩ := List.exists_cons_of_ne_nil hds.1
  have hd : d.isDigit := hds.2 d (List.mem_cons_self _ _)
  have hsign := sign_of_signText (t := d :: ds ++ rest) hsg (by simpa using hd)
  have hblank : (sg ++ (d :: ds ++ rest)).dropWhile isSpace = sg ++ (d :: ds ++ rest) := by
    rcases hsg with rfl | rfl | rfl
    · simp [List.dropWhile_cons_of_neg, isSpace_of_isDigit hd]
    all_goals exact List.dropWhile_cons_of_neg (by decide)
  have htake : (d :: ds ++ rest).takeWhile Char.isDigit = d :: ds := by
    rw [List.takeWhile_append_of_pos hds.2]
    match rest, hrest with
    | [], _ => simp
    | c :: _, hrest => simp [List.takeWhile_cons_of_neg, hrest c rfl]
  have hdrop : (d :: ds ++ rest).dropWhile Char.isDigit = rest := by
    rw [List.dropWhile_append_of_pos hds.2]
    match rest, hrest with
    | [], _ => rfl
    | c :: _, hrest => simp [List.dropWhile_cons_of_neg, hrest c rfl]
  simp only [subject, List.append_assoc, List.dropWhile_append_of_pos hws, hblank, hsign, htake,
    hdrop]
  simp

theorem strtoll_numeral {ds rest : List Char} (hds : Numeral ds) (hrest : NoDigitAhead rest)
    (hle : ofDigits ds ≤ LLONG_MAX) : strtoll (ds ++ rest) = ((ofDigits ds : Int), rest) := by
  have := @subject_eq [] [] _ _ (fun _ h => nomatch h) (.inl rfl) hds hrest
  simp only [List.nil_append] at this
  simp [strtoll, this, toLongLong, hle]

theorem strtoull_numeral {ds rest : List Char} (hds : Numeral ds) (hrest : NoDigitAhead rest)
    (hle : ofDigits ds ≤ 2 ^ 64 - 1) :
    strtoull (ds ++ rest) = (UInt64.ofNat (ofDigits ds), rest) := by
  have := @subject_eq [] [] _ _ (fun _ h => nomatch h) (.inl rfl) hds hrest
  simp only [List.nil_append] at this
  simp only [strtoull, this]
  exact congrArg (·, rest) (toUnsignedLongLong_false hle)

/-! ## Reading `c_str()`

The NUL that ends `c_str()` is neither white space, nor a sign, nor a digit, so every scan
stops at it: reading the buffer is reading the string, with the end pointer at the same
offset. -/

theorem dropWhile_append_stop {p : Char -> Bool} {c : Char} (l : List Char) (hc : p c = false) :
    (l ++ [c]).dropWhile p = l.dropWhile p ++ [c] := by
  induction l with
  | nil => simp [hc]
  | cons a t ih => by_cases ha : p a <;> simp [ha, ih]

theorem takeWhile_append_stop {p : Char -> Bool} {c : Char} (l : List Char) (hc : p c = false) :
    (l ++ [c]).takeWhile p = l.takeWhile p := by
  induction l with
  | nil => simp [hc]
  | cons a t ih => by_cases ha : p a <;> simp [ha, ih]

theorem sign_append_nul (t : List Char) :
    sign (t ++ ['\x00']) = ((sign t).1, (sign t).2 ++ ['\x00']) := by
  cases t with
  | nil => rfl
  | cons d t => by_cases hm : d = '-' <;> by_cases hp : d = '+' <;> simp [sign, hm, hp]

theorem subject_append_nul (l : List Char) :
    subject (l ++ ['\x00']) = (subject l).map fun s => { s with rest := s.rest ++ ['\x00'] } := by
  simp only [subject, dropWhile_append_stop (c := '\x00') l (p := isSpace) rfl, sign_append_nul,
    takeWhile_append_stop (c := '\x00') _ (p := Char.isDigit) rfl,
    dropWhile_append_stop (c := '\x00') _ (p := Char.isDigit) rfl]
  split <;> simp only [*, ↓reduceIte, Option.map]

theorem strtoll_append_nul (l : List Char) :
    strtoll (l ++ ['\x00']) = ((strtoll l).1, (strtoll l).2 ++ ['\x00']) := by
  simp only [strtoll, subject_append_nul]
  cases subject l <;> rfl

theorem strtoull_append_nul (l : List Char) :
    strtoull (l ++ ['\x00']) = ((strtoull l).1, (strtoull l).2 ++ ['\x00']) := by
  simp only [strtoull, subject_append_nul]
  cases subject l <;> rfl

end RtmClient
