import Mathlib.Data.Nat.Digits

/-!
# C++ strings, `size_t` arithmetic and fatal errors

The parts of the C++ runtime whose behaviour `extract_level.cpp` depends on.

* A `std::string` is a string of bytes. The names the file is given are `String`s, and what it
  computes from one is read on its UTF-8 bytes (`bytes`) wherever a count can cut a character in
  two: `name.substr(0, name.length() - 4)`, which keeps all but the last four **bytes**, so that
  the name `àà` (four bytes) keeps none. The tests that compare the end of a name with an ASCII
  suffix (`-vis`, `-ag`, `.DGO`, `.CGO`) after checking its length answer the same on the bytes
  as on the characters, since UTF-8 writes an ASCII character as that one byte and every other
  character with bytes of `0x80` and above; they are read on the characters.
* `std::string::substr` **clamps** its count to what is left of the string. The counts the file
  passes are `length() - 4` in unsigned `size_t` arithmetic, which **wraps** below zero
  (`sizeSub`): for a name of fewer than four bytes the count is close to `2 ^ 64` and the whole
  name comes back.
* `ASSERT`, `ASSERT_MSG` and the `std::out_of_range` thrown by `.at` end the process: nothing in
  the file catches them. A computation that can stop so returns `Except Fatal`.
* `fmt::format("{}-{}", dgo_name, i)` writes `i` in decimal. Identifiers built so are pairwise
  distinct because `Nat.toDigits 10` is injective and yields digits only
  (`toDigits_ten_injective`, `toDigits_ten_isDigit`), and a run of digits is read back
  unambiguously when what follows it does not start with a digit (`digits_append_inj`).
-/

namespace ExtractLevel

/-! ### Strings and `size_t` -/

/-- `a - b` on `size_t`: below zero it wraps around `2 ^ 64`. For `a` and `b` below `2 ^ 64`,
which every string length is, this is the machine's result. -/
def sizeSub (a b : ℕ) : ℕ := if b ≤ a then a - b else 2 ^ 64 - (b - a)

/-- `std::string::npos`, the count `substr` takes when it is given none. -/
def npos : ℕ := 2 ^ 64 - 1

/-- The bytes of a string as `std::string` holds them: its UTF-8 encoding. -/
def bytes (s : String) : List UInt8 := s.toUTF8.data.toList

/-- `s.substr(pos, count)`, on the elements of `s`: those from `pos` on, at most `count` of them.
Every call in the file has `pos ≤ s.length()`, so the `std::out_of_range` thrown otherwise does
not arise. -/
def substr {α : Type} (s : List α) (pos count : ℕ) : List α := (s.drop pos).take count

/-- Modelled from the spec: `str_util::ends_with(s, suffix)` (a helper of `common/util`, not in
this file), whether `s` carries `suffix` at its end, as §4.1 reads the extension check. -/
def endsWith (s suffix : String) : Bool := suffix.data.isSuffixOf s.data

/-- The loop `for (auto& c : s) c = tolower(c);`: the C library's `tolower` in the default
locale changes the ASCII capitals only, as `Char.toLower` does, and leaves the bytes of every
other character as they are. -/
def toLower (s : List Char) : List Char := s.map Char.toLower

@[simp] theorem bytes_append (s t : String) : bytes (s ++ t) = bytes s ++ bytes t := by
  simp [bytes, String.toUTF8, String.data_append, List.flatMap_append]

theorem sizeSub_of_le {a b : ℕ} (h : b ≤ a) : sizeSub a b = a - b := if_pos h

theorem endsWith_iff (s suffix : String) : endsWith s suffix = true ↔ suffix.data <:+ s.data :=
  List.isSuffixOf_iff_suffix

/-! ### Fatal errors and `.at` -/

/-- Why a run stops: a failed `ASSERT` (its condition as written), a failed `ASSERT_MSG` (its
formatted message), or the `std::out_of_range` thrown by `.at` on a missing key. -/
inductive Fatal where
  | assertFailed (condition : String)
  | assertMsg (message : String)
  | outOfRange
  deriving DecidableEq, Repr

/-- `m.at(k)` on a map read through its lookup: the value, or `std::out_of_range`. -/
def mapAt {K V : Type} (m : K → Option V) (k : K) : Except Fatal V :=
  match m k with
  | some v => .ok v
  | none => .error .outOfRange

/-- `v.at(i)` on a vector. -/
def listAt {V : Type} (l : List V) (i : ℕ) : Except Fatal V := mapAt (fun j => l[j]?) i

@[simp] theorem pure_eq_ok {α : Type} (a : α) : (pure a : Except Fatal α) = .ok a := rfl

@[simp] theorem ok_bind {α β : Type} (a : α) (f : α → Except Fatal β) :
    (Except.ok a >>= f) = f a := rfl

@[simp] theorem error_bind {α β : Type} (e : Fatal) (f : α → Except Fatal β) :
    (Except.error e >>= f) = .error e := rfl

@[simp] theorem map_ok {α β : Type} (f : α → β) (a : α) :
    (f <$> (Except.ok a : Except Fatal α)) = .ok (f a) := rfl

@[simp] theorem map_error {α β : Type} (f : α → β) (e : Fatal) :
    (f <$> (Except.error e : Except Fatal α)) = .error e := rfl

/-- A computation that went through ran its first step through. -/
theorem bind_eq_ok {α β : Type} {x : Except Fatal α} {f : α → Except Fatal β} {b : β} :
    (x >>= f) = .ok b ↔ ∃ a, x = .ok a ∧ f a = .ok b := by
  cases x <;> simp

@[simp] theorem mapAt_eq_ok {K V : Type} {m : K → Option V} {k : K} {v : V} :
    mapAt m k = .ok v ↔ m k = some v := by
  unfold mapAt
  split <;> simp_all

/-! ### Decimal identifiers -/

theorem toDigitsCore_ten (f n : ℕ) (ds : List Char) (hf : n < f) :
    Nat.toDigitsCore 10 f n ds =
      (if n = 0 then ['0'] else (Nat.digits 10 n).reverse.map Nat.digitChar) ++ ds := by
  induction f generalizing n ds with
  | zero => omega
  | succ f ih =>
    rw [Nat.toDigitsCore]
    by_cases h0 : n = 0
    · subst h0; rfl
    · have hd : Nat.digits 10 n = n % 10 :: Nat.digits 10 (n / 10) :=
        Nat.digits_def' (by norm_num) (Nat.pos_of_ne_zero h0)
      by_cases hq : n / 10 = 0
      · simp [hq, hd, h0]
      · simp only [hq, if_false, h0, hd, List.reverse_cons, List.map_append, List.map_cons,
          List.map_nil, List.append_assoc, List.singleton_append]
        rw [ih (n / 10) _ (by omega), if_neg hq]

theorem toDigits_ten (n : ℕ) : Nat.toDigits 10 n =
    if n = 0 then ['0'] else (Nat.digits 10 n).reverse.map Nat.digitChar :=
  (toDigitsCore_ten _ n [] (Nat.lt_succ_self n)).trans (List.append_nil _)

/-- The digit a decimal character stands for. -/
def digitVal (c : Char) : ℕ := c.toNat - 48

theorem digitVal_digitChar {d : ℕ} (hd : d < 10) : digitVal (Nat.digitChar d) = d := by
  interval_cases d <;> rfl

theorem digitChar_isDigit {d : ℕ} (hd : d < 10) : (Nat.digitChar d).isDigit := by
  interval_cases d <;> decide

theorem toDigits_ten_isDigit (n : ℕ) : ∀ c ∈ Nat.toDigits 10 n, c.isDigit := by
  rw [toDigits_ten]
  split_ifs
  · simp
  · simp only [List.mem_map, List.mem_reverse]
    rintro c ⟨d, hd, rfl⟩
    exact digitChar_isDigit (Nat.digits_lt_base (by norm_num) hd)

/-- Reading the digits back gives the base-ten digits of `n`, most significant first. -/
theorem map_digitVal_toDigits_ten (n : ℕ) :
    (Nat.toDigits 10 n).map digitVal = (Nat.digits 10 n).reverse ∨ n = 0 := by
  rw [toDigits_ten]
  split_ifs with h
  · exact .inr h
  · refine .inl ?_
    rw [List.map_map]
    exact (List.map_congr_left fun d hd => digitVal_digitChar
      (Nat.digits_lt_base (by norm_num) (List.mem_reverse.1 hd))).trans (List.map_id _)

/-- The digits of `n` read back as `[0]` only for `n = 0`. -/
theorem eq_zero_of_digits_reverse {n : ℕ} (h : (Nat.digits 10 n).reverse = [0]) : n = 0 := by
  rw [← Nat.ofDigits_digits 10 n, ← List.reverse_reverse (Nat.digits 10 n), h]
  rfl

theorem toDigits_ten_injective : Function.Injective (Nat.toDigits 10) := by
  intro m n h
  have hv := congrArg (List.map digitVal) h
  rcases map_digitVal_toDigits_ten m with hm | rfl <;>
    rcases map_digitVal_toDigits_ten n with hn | rfl
  · rw [← Nat.ofDigits_digits 10 m, ← Nat.ofDigits_digits 10 n,
      ← List.reverse_reverse (Nat.digits 10 m), ← hm, hv, hn, List.reverse_reverse]
  · exact eq_zero_of_digits_reverse (hm.symm.trans hv)
  · exact (eq_zero_of_digits_reverse (hn.symm.trans hv.symm)).symm
  · rfl

/-- **A run of digits is read back unambiguously** when what follows it is empty or starts with
something other than a digit. -/
theorem digits_append_inj {a a' s s' : List Char} (ha : ∀ c ∈ a, c.isDigit)
    (ha' : ∀ c ∈ a', c.isDigit) (hs : ∀ c ∈ s.head?, ¬c.isDigit)
    (hs' : ∀ c ∈ s'.head?, ¬c.isDigit) (h : a ++ s = a' ++ s') : a = a' ∧ s = s' := by
  induction a generalizing a' with
  | nil =>
    cases a' with
    | nil => exact ⟨rfl, h⟩
    | cons c a' =>
      rw [List.nil_append] at h
      exact absurd (ha' c (by simp)) (hs c (by simp [h]))
  | cons c a ih =>
    cases a' with
    | nil =>
      rw [List.nil_append] at h
      exact absurd (ha c (by simp)) (hs' c (by simp [← h]))
    | cons c' a' =>
      simp only [List.cons_append, List.cons.injEq] at h
      obtain ⟨rfl, h⟩ := h
      obtain ⟨rfl, rfl⟩ := ih (fun x hx => ha x (List.mem_cons_of_mem _ hx))
        (fun x hx => ha' x (List.mem_cons_of_mem _ hx)) h
      exact ⟨rfl, rfl⟩

end ExtractLevel
