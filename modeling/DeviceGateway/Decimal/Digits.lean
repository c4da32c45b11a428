/-!
Decimal digits of natural numbers: written without leading zeros, read most significant first.
-/
namespace DeviceGateway.Decimal

def digits (n : Nat) : List Nat :=
  if n < 10 then [n] else digits (n / 10) ++ [n % 10]

def value (ds : List Nat) : Nat := ds.foldl (fun n d => n * 10 + d) 0

def charOf (d : Nat) : Char := .ofNat (48 + d)

def digit? (c : Char) : Option Nat :=
  if 48 ≤ c.toNat ∧ c.toNat ≤ 57 then some (c.toNat - 48) else none

def write (n : Nat) : List Char := (digits n).map charOf

def writeInt (i : Int) : List Char :=
  match i with
  | .ofNat n => write n
  | .negSucc n => '-' :: write (n + 1)

/-- One or more ASCII digits, leading zeros allowed. -/
def read? (text : List Char) : Option Nat :=
  match text with
  | [] => none
  | _ => (text.mapM digit?).map value

/-- At least `width` digits, with zeros in front. -/
def writePadded (width n : Nat) : List Char :=
  List.replicate (width - (write n).length) '0' ++ write n

theorem digit?_charOf {d : Nat} (h : d < 10) : digit? (charOf d) = some d := by
  have : ∀ d : Fin 10, digit? (charOf d.val) = some d.val := by decide
  exact this ⟨d, h⟩

theorem lt_ten_of_mem_digits {n d : Nat} (h : d ∈ digits n) : d < 10 := by
  fun_induction digits n with
  | case1 n hn => simp at h; omega
  | case2 n hn ih =>
    simp only [List.mem_append, List.mem_singleton] at h
    rcases h with h | rfl
    · exact ih h
    · omega

theorem digits_ne_nil (n : Nat) : digits n ≠ [] := by
  unfold digits
  split <;> simp

theorem value_append (ds : List Nat) (d : Nat) : value (ds ++ [d]) = value ds * 10 + d := by
  simp [value]

@[simp] theorem value_digits (n : Nat) : value (digits n) = n := by
  fun_induction digits n with
  | case1 n hn => simp [value]
  | case2 n hn ih => rw [value_append, ih]; omega

theorem mapM_digit?_map_charOf {ds : List Nat} (h : ∀ d ∈ ds, d < 10) :
    (ds.map charOf).mapM digit? = some ds := by
  induction ds with
  | nil => rfl
  | cons d ds ih =>
    simp [digit?_charOf (h d (by simp)), ih fun e he => h e (by simp [he])]

theorem mapM_digit?_write (n : Nat) : (write n).mapM digit? = some (digits n) :=
  mapM_digit?_map_charOf fun _ => lt_ten_of_mem_digits

theorem read?_write (n : Nat) : read? (write n) = some n := by
  have hne : write n ≠ [] := by simp [write, digits_ne_nil]
  unfold read?
  split
  · contradiction
  · simp [mapM_digit?_write]

end DeviceGateway.Decimal
