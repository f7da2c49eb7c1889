import Mathlib
import Grammers.Tl

/-!
# The numbers `forum-topic-filter` reads

The example reads two numbers as `i32`s before it connects: its `TG_ID`, with
`env!("TG_ID").parse().expect("TG_ID invalid")`, and the topic to answer, from its second
command-line argument, with `topic_id.parse::<i32>().expect("topic_id must be a number")`.

`parse::<i32>` is core's `i32::from_str_radix(src, 10)`: after an optional sign, a loop that
multiplies by ten with `checked_mul` and adds (or, after a minus sign, subtracts) each digit with
`checked_add` (`checked_sub`), reporting a character that is not a digit before an overflow of the
multiplication.  It is written here from that loop.

## What is here

* `IntErrorKind`, `toDigit`, `parseDigits` and `parseI32`: `str::parse::<i32>`.
* `allowedTopicsOf` — the example's reading of its second argument, with the panic of `expect`.
* `parseDigits_true_of_digits`, `parseDigits_false_of_digits` — on digits alone, the checked loop
  computes the plain decimal value whenever that value is an `i32`: the checks never fire early,
  because every partial value lies between zero and the final one.
* `parseI32_eq_ok_iff` — what `parse` accepts: an optional sign, then one digit or more, whose
  value is an `i32`.
-/

set_option autoImplicit false

namespace Grammers

/-- `core::num::IntErrorKind`, the kinds of failure `<i32 as FromStr>::from_str` reports. -/
inductive IntErrorKind where
  | empty
  | invalidDigit
  | posOverflow
  | negOverflow
  deriving DecidableEq, Repr

/-- The `Debug` name of a kind, as `ParseIntError { kind: .. }` prints it. -/
def IntErrorKind.debug : IntErrorKind → String
  | .empty => "Empty"
  | .invalidDigit => "InvalidDigit"
  | .posOverflow => "PosOverflow"
  | .negOverflow => "NegOverflow"

/-- `i32::MIN` -/
def i32Min : Int := -2 ^ 31

/-- `i32::MAX` -/
def i32Max : Int := 2 ^ 31 - 1

/-- `char::to_digit(10)`: the value of an ASCII decimal digit. -/
def toDigit (c : Char) : Option Nat := if c.isDigit then some (c.toNat - '0'.toNat) else none

/-- The digit loop of `from_str_radix` on `i32`, in base 10: for each character, `checked_mul`
of the result by ten, then `checked_add` of the digit, or `checked_sub` after a minus sign.  A
character that is not a digit is reported before the overflow of the multiplication. -/
def parseDigits (positive : Bool) : Int → List Char → Except IntErrorKind Int
  | result, [] => .ok result
  | result, c :: cs =>
    match toDigit c with
    | none => .error .invalidDigit
    | some x =>
      let overflow : IntErrorKind := if positive then .posOverflow else .negOverflow
      let mul := result * 10
      if mul < i32Min ∨ i32Max < mul then .error overflow
      else
        let result := if positive then mul + x else mul - x
        if result < i32Min ∨ i32Max < result then .error overflow
        else parseDigits positive result cs

/-- `<i32 as FromStr>::from_str`: an empty string is `Empty`; a lone sign is `InvalidDigit`; a
leading `+` or `-` is the sign of the digits after it. -/
def parseI32 (src : String) : Except IntErrorKind I32 :=
  match src.toList with
  | [] => .error .empty
  | c :: rest =>
    if (c = '+' ∨ c = '-') ∧ rest = [] then .error .invalidDigit
    else
      let (positive, digits) :=
        if c = '+' then (true, rest) else if c = '-' then (false, rest) else (true, c :: rest)
      (parseDigits positive 0 digits).map (BitVec.ofInt 32)

/-- `env::args().nth(2)`, parsed into the list of allowed topics: empty without a second
argument, the one topic it names otherwise.  An argument that does not parse is the panic of
`expect`, with its message and the error's `Debug`. -/
def allowedTopicsOf (args : List String) : Except String (List I32) :=
  match args[2]? with
  | none => .ok []
  | some topicId =>
    match parseI32 topicId with
    | .ok topic => .ok [topic]
    | .error kind =>
      .error ("topic_id must be a number: ParseIntError \x7b kind: " ++ kind.debug ++ " \x7d")

example : parseI32 "42" = .ok 42 ∧ parseI32 "-7" = .ok (-7) ∧ parseI32 "+" = .error .invalidDigit ∧
    parseI32 "" = .error .empty ∧ parseI32 "2147483648" = .error .posOverflow :=
  ⟨rfl, rfl, rfl, rfl, rfl⟩

/-! ## The loop on digits -/

/-- The plain decimal value of digits after `acc`, with no overflow check: the fold the checked
loop computes when nothing overflows. -/
def digitsFrom (positive : Bool) (acc : Int) (cs : List Char) : Int :=
  cs.foldl (fun a c => if positive then a * 10 + (c.toNat - '0'.toNat : Nat)
    else a * 10 - (c.toNat - '0'.toNat : Nat)) acc

/-- The decimal value of a list of digits. -/
def decimalValue (cs : List Char) : Nat := cs.foldl (fun a c => 10 * a + (c.toNat - '0'.toNat)) 0

theorem toDigit_of_isDigit {c : Char} (h : c.isDigit) : toDigit c = some (c.toNat - '0'.toNat) :=
  if_pos h

theorem digitsFrom_cons (positive : Bool) (acc : Int) (c : Char) (cs : List Char) :
    digitsFrom positive acc (c :: cs) =
      digitsFrom positive (if positive then acc * 10 + (c.toNat - '0'.toNat : Nat)
        else acc * 10 - (c.toNat - '0'.toNat : Nat)) cs := rfl

/-- Without a minus sign the partial values only grow. -/
theorem le_digitsFrom_true {acc : Int} (h : 0 ≤ acc) (cs : List Char) :
    acc ≤ digitsFrom true acc cs := by
  induction cs generalizing acc with
  | nil => exact le_rfl
  | cons c cs ih =>
    rw [digitsFrom_cons, if_pos rfl]
    have := @ih (acc * 10 + (c.toNat - '0'.toNat : Nat)) (by omega)
    omega

/-- After a minus sign the partial values only shrink. -/
theorem digitsFrom_false_le {acc : Int} (h : acc ≤ 0) (cs : List Char) :
    digitsFrom false acc cs ≤ acc := by
  induction cs generalizing acc with
  | nil => exact le_rfl
  | cons c cs ih =>
    rw [digitsFrom_cons, if_neg Bool.false_ne_true]
    have := @ih (acc * 10 - (c.toNat - '0'.toNat : Nat)) (by omega)
    omega

/-- **The checks never fire on a value that fits.**  On digits, without a minus sign, the checked
loop returns the plain decimal value whenever that value is at most `i32::MAX`. -/
theorem parseDigits_true_of_digits {cs : List Char} (hd : ∀ c ∈ cs, c.isDigit) {acc : Int}
    (h0 : 0 ≤ acc) (hmax : digitsFrom true acc cs ≤ i32Max) :
    parseDigits true acc cs = .ok (digitsFrom true acc cs) := by
  induction cs generalizing acc with
  | nil => rfl
  | cons c cs ih =>
    have hc := hd c (.head _)
    rw [digitsFrom_cons, if_pos rfl] at hmax ⊢
    have hle := @le_digitsFrom_true (acc * 10 + (c.toNat - '0'.toNat : Nat)) (by omega) cs
    simp only [parseDigits, toDigit_of_isDigit hc, ↓reduceIte]
    rw [if_neg (by unfold i32Min i32Max at *; omega), if_neg (by unfold i32Min i32Max at *; omega)]
    exact ih (fun c hc => hd c (.tail _ hc)) (by omega) hmax

/-- The same after a minus sign, down to `i32::MIN`. -/
theorem parseDigits_false_of_digits {cs : List Char} (hd : ∀ c ∈ cs, c.isDigit) {acc : Int}
    (h0 : acc ≤ 0) (hmin : i32Min ≤ digitsFrom false acc cs) :
    parseDigits false acc cs = .ok (digitsFrom false acc cs) := by
  induction cs generalizing acc with
  | nil => rfl
  | cons c cs ih =>
    have hc := hd c (.head _)
    rw [digitsFrom_cons, if_neg Bool.false_ne_true] at hmin ⊢
    have hle := @digitsFrom_false_le (acc * 10 - (c.toNat - '0'.toNat : Nat)) (by omega) cs
    simp only [parseDigits, toDigit_of_isDigit hc, Bool.false_eq_true, ↓reduceIte]
    rw [if_neg (by unfold i32Min i32Max at *; omega), if_neg (by unfold i32Min i32Max at *; omega)]
    exact ih (fun c hc => hd c (.tail _ hc)) (by omega) hmin

/-- With a minus sign the loop computes the negated value. -/
theorem digitsFrom_false_neg (acc : Int) (cs : List Char) :
    digitsFrom false (-acc) cs = -digitsFrom true acc cs := by
  induction cs generalizing acc with
  | nil => rfl
  | cons c cs ih =>
    rw [digitsFrom_cons, digitsFrom_cons, if_neg Bool.false_ne_true, if_pos rfl, ← ih]
    congr 1
    ring

theorem digitsFrom_true_zero (cs : List Char) : digitsFrom true 0 cs = decimalValue cs := by
  suffices ∀ a : Nat,
      digitsFrom true a cs = (cs.foldl (fun a c => 10 * a + (c.toNat - '0'.toNat)) a : Nat) from
    this 0
  induction cs with
  | nil => intro a; rfl
  | cons c cs ih =>
    intro a
    rw [digitsFrom_cons, if_pos rfl, List.foldl_cons, ← ih]
    congr 1
    push_cast
    ring

theorem isDigit_of_toDigit {c : Char} {x : Nat} (h : toDigit c = some x) :
    c.isDigit ∧ x = c.toNat - '0'.toNat := by
  unfold toDigit at h
  split at h
  · exact ⟨‹_›, (Option.some.inj h).symm⟩
  · cases h

/-- One turn of the checked loop that does not fail: the character is a digit, and the new
partial value is an `i32`. -/
theorem parseDigits_cons_ok {positive : Bool} {c : Char} {cs : List Char} {acc r : Int}
    (h : parseDigits positive acc (c :: cs) = .ok r) :
    let next : Int := if positive then acc * 10 + (c.toNat - '0'.toNat : Nat)
      else acc * 10 - (c.toNat - '0'.toNat : Nat)
    c.isDigit ∧ i32Min ≤ next ∧ next ≤ i32Max ∧ parseDigits positive next cs = .ok r := by
  cases hc : toDigit c with
  | none => simp [parseDigits, hc] at h
  | some x =>
    obtain ⟨hcd, rfl⟩ := isDigit_of_toDigit hc
    cases positive <;>
      simp only [parseDigits, hc, Bool.false_eq_true, ↓reduceIte] at h ⊢ <;>
      split at h <;> (try cases h) <;> split at h <;> (try cases h) <;>
      exact ⟨hcd, by omega, by omega, h⟩

/-- What the checked loop returns, it returned on digits only, as the plain value, inside the
range of `i32`. -/
theorem parseDigits_ok {positive : Bool} {cs : List Char} {acc r : Int}
    (hacc : i32Min ≤ acc ∧ acc ≤ i32Max) (h : parseDigits positive acc cs = .ok r) :
    (∀ c ∈ cs, c.isDigit) ∧ r = digitsFrom positive acc cs ∧ i32Min ≤ r ∧ r ≤ i32Max := by
  induction cs generalizing acc with
  | nil =>
    cases h
    exact ⟨fun _ h => absurd h (List.not_mem_nil _), rfl, hacc⟩
  | cons c cs ih =>
    obtain ⟨hcd, hmin, hmax, h⟩ := parseDigits_cons_ok h
    obtain ⟨hd, rfl, hrange⟩ := ih ⟨hmin, hmax⟩ h
    refine ⟨fun c' hc' => ?_, (digitsFrom_cons _ _ _ _).symm, hrange⟩
    rcases List.mem_cons.1 hc' with rfl | hc'
    · exact hcd
    · exact hd c' hc'

/-- A sign `parse` accepts in front of the digits: none, `+` or `-`, with the direction of the
loop it selects. -/
def IsSign (sign : List Char) (positive : Bool) : Prop :=
  sign = [] ∧ positive = true ∨ sign = ['+'] ∧ positive = true ∨ sign = ['-'] ∧ positive = false

/-- On a sign and at least one digit, `parse` runs the loop on the digits. -/
theorem parseI32_eq {src : String} {sign digits : List Char} {positive : Bool}
    (hsign : IsSign sign positive) (hsrc : src.toList = sign ++ digits) (hne : digits ≠ [])
    (hdig : ∀ c ∈ digits, c.isDigit) :
    parseI32 src = (parseDigits positive 0 digits).map (BitVec.ofInt 32) := by
  obtain ⟨c, rest, rfl⟩ := List.exists_cons_of_ne_nil hne
  have hc := hdig c (.head _)
  have hplus : c ≠ '+' := by rintro rfl; exact absurd hc (by decide)
  have hminus : c ≠ '-' := by rintro rfl; exact absurd hc (by decide)
  rw [parseI32, hsrc]
  rcases hsign with ⟨rfl, rfl⟩ | ⟨rfl, rfl⟩ | ⟨rfl, rfl⟩ <;> simp [hplus, hminus]

theorem toInt_ofInt_of_range {t : Int} (hmin : i32Min ≤ t) (hmax : t ≤ i32Max) :
    (BitVec.ofInt 32 t).toInt = t := by
  rw [BitVec.toInt_ofInt, Int.bmod_def]
  unfold i32Min i32Max at *
  split <;> omega

/-- The loop from zero, without checks, is the signed decimal value. -/
theorem digitsFrom_zero (positive : Bool) (digits : List Char) :
    digitsFrom positive 0 digits =
      if positive then (decimalValue digits : Int) else -decimalValue digits := by
  cases positive
  · rw [← neg_zero, digitsFrom_false_neg, digitsFrom_true_zero]; rfl
  · exact digitsFrom_true_zero digits

/-- On digits whose value is an `i32`, the checked loop from zero returns that value. -/
theorem parseDigits_zero_of_digits {positive : Bool} {digits : List Char}
    (hdig : ∀ c ∈ digits, c.isDigit) (hmin : i32Min ≤ digitsFrom positive 0 digits)
    (hmax : digitsFrom positive 0 digits ≤ i32Max) :
    parseDigits positive 0 digits = .ok (digitsFrom positive 0 digits) := by
  cases positive
  · exact parseDigits_false_of_digits hdig le_rfl hmin
  · exact parseDigits_true_of_digits hdig le_rfl hmax

/-- What `parse` accepts starts with a sign, then at least one character, which the loop reads. -/
theorem parseI32_split {src : String} {x : I32} (h : parseI32 src = .ok x) :
    ∃ sign digits positive, IsSign sign positive ∧ src.toList = sign ++ digits ∧ digits ≠ [] ∧
      parseI32 src = (parseDigits positive 0 digits).map (BitVec.ofInt 32) := by
  rw [parseI32] at h ⊢
  generalize src.toList = l at h ⊢
  rcases l with _ | ⟨c, rest⟩
  · cases h
  simp only at h ⊢
  split at h
  · cases h
  rename_i hlone
  rw [if_neg hlone]
  by_cases hplus : c = '+'
  · subst hplus
    exact ⟨['+'], rest, true, .inr (.inl ⟨rfl, rfl⟩), rfl, fun he => hlone ⟨.inl rfl, he⟩, by simp⟩
  by_cases hminus : c = '-'
  · subst hminus
    exact ⟨['-'], rest, false, .inr (.inr ⟨rfl, rfl⟩), rfl, fun he => hlone ⟨.inr rfl, he⟩, by simp⟩
  · exact ⟨[], c :: rest, true, .inl ⟨rfl, rfl⟩, rfl, List.cons_ne_nil _ _, by simp [hplus, hminus]⟩

/-- **What `parse` accepts.**  `parse::<i32>` succeeds exactly on an optional `+` or `-` followed by
at least one ASCII digit, when the number so written is an `i32`; and it returns that number.
Everything else — an empty string, a lone sign, any other character, a number out of range — is
an error, which the example turns into its panic. -/
theorem parseI32_eq_ok_iff (src : String) (x : I32) :
    parseI32 src = .ok x ↔ ∃ sign digits positive, IsSign sign positive ∧
      src.toList = sign ++ digits ∧ digits ≠ [] ∧ (∀ c ∈ digits, c.isDigit) ∧
      let value : Int := if positive then decimalValue digits else -decimalValue digits
      i32Min ≤ value ∧ value ≤ i32Max ∧ x.toInt = value := by
  constructor
  · intro h
    obtain ⟨sign, digits, positive, hsign, hsrc, hne, hsplit⟩ := parseI32_split h
    rw [hsplit] at h
    cases hp : parseDigits positive 0 digits with
    | error e => rw [hp] at h; cases h
    | ok r =>
      rw [hp] at h
      cases h
      obtain ⟨hdig, rfl, hmin, hmax⟩ := parseDigits_ok (by unfold i32Min i32Max; omega) hp
      refine ⟨sign, digits, positive, hsign, hsrc, hne, hdig, ?_⟩
      rw [← digitsFrom_zero]
      exact ⟨hmin, hmax, toInt_ofInt_of_range hmin hmax⟩
  · rintro ⟨sign, digits, positive, hsign, hsrc, hne, hdig, hmin, hmax, hx⟩
    rw [← digitsFrom_zero] at hmin hmax hx
    rw [parseI32_eq hsign hsrc hne hdig, parseDigits_zero_of_digits hdig hmin hmax]
    exact congrArg Except.ok
      (BitVec.eq_of_toInt_eq (by rw [toInt_ofInt_of_range hmin hmax, hx]))

end Grammers
