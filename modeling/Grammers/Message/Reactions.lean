import Mathlib
import Grammers.Message.Basic

/-!
# Counting reactions

`Message::reaction_count` adds up the per-reaction counts with `Iterator::sum` on `i32`, which is
`fold(0, |a, b| a + b)` with the `+` of the build: a release build wraps around, a debug build
panics with `attempt to add with overflow`.  The result type is `i32`, so a total above
`i32::MAX` cannot be returned by either.

## What is here

* `I32.add` and `I32.sum`, the two builds' `+` and `Iterator::sum`; `reactionCount`.
* `sum_release_toInt` — a release build returns the exact total reduced to `i32`, whatever the
  counts; `sum_debug_toInt` — a debug build, when it returns at all, returns the exact total.
* `reactionCount_release` — a release build returns the total wrapped to `i32`, for every
  message; `reactionCount_debug` — a debug build panics on overflow or returns the same, and then
  the total is an `i32`.
* `reactionCount_eq_sum_of_le_max` — with non-negative counts whose total fits in an `i32`,
  both builds return that total.
* `reactionCount_overflow` — two counts in range whose total does not fit: the debug build
  panics and the release build answers `i32::MIN`.
-/

set_option autoImplicit false

namespace Grammers

/-- How the crate is built: with overflow checks, as a debug build is, or without, as a release
build is. -/
inductive Profile where
  | debug
  | release
  deriving DecidableEq, Repr

namespace I32

/-- `a + b` on `i32`.  A release build wraps; a debug build panics when the sum leaves the range
of `i32`.  A panic is an `Except.error` carrying its message. -/
def add (profile : Profile) (a b : I32) : Except String I32 :=
  match profile with
  | .debug =>
    if a.toInt + b.toInt < -2 ^ 31 ∨ 2 ^ 31 ≤ a.toInt + b.toInt then
      .error "attempt to add with overflow"
    else .ok (a + b)
  | .release => .ok (a + b)

/-- `<i32 as Sum>::sum`, i.e. `fold(0, |a, b| a + b)`. -/
def sum (profile : Profile) (xs : List I32) : Except String I32 := xs.foldlM (add profile) 0

/-- The exact total of a list of `i32`s. -/
def total (xs : List I32) : Int := (xs.map BitVec.toInt).sum

@[simp] theorem total_nil : total [] = 0 := rfl

@[simp] theorem total_cons (x : I32) (xs : List I32) : total (x :: xs) = x.toInt + total xs := by
  simp [total]

theorem toInt_add_of_not_overflow {a b : I32}
    (h : ¬(a.toInt + b.toInt < -2 ^ 31 ∨ 2 ^ 31 ≤ a.toInt + b.toInt)) :
    (a + b).toInt = a.toInt + b.toInt := by
  rw [BitVec.toInt_add, Int.bmod_def]
  split <;> omega

theorem total_nonneg {xs : List I32} (h : ∀ x ∈ xs, 0 ≤ x.toInt) : 0 ≤ total xs := by
  induction xs with
  | nil => simp
  | cons y ys ih =>
    have := h y (.head _)
    have := ih fun x hx => h x (.tail _ hx)
    simp only [total_cons]
    omega

theorem foldlM_release_toInt (xs : List I32) (acc : I32) :
    ∃ x, xs.foldlM (add .release) acc = .ok x ∧
      x.toInt = (acc.toInt + total xs).bmod (2 ^ 32) := by
  induction xs generalizing acc with
  | nil =>
    exact ⟨acc, rfl, by rw [total_nil, Int.add_zero, BitVec.toInt_eq_toNat_bmod, Int.bmod_bmod]⟩
  | cons y ys ih =>
    obtain ⟨x, hx, hxv⟩ := ih (acc + y)
    refine ⟨x, hx, ?_⟩
    rw [hxv, BitVec.toInt_add, total_cons, Int.bmod_add_bmod_congr, Int.add_assoc]

/-- A release build returns the exact total, wrapped to `i32`. -/
theorem sum_release_toInt (xs : List I32) :
    ∃ x, sum .release xs = .ok x ∧ x.toInt = (total xs).bmod (2 ^ 32) := by
  simpa [sum] using foldlM_release_toInt xs 0

theorem eq_ofInt_of_toInt_eq {x : I32} {t : Int} (h : x.toInt = t.bmod (2 ^ 32)) :
    x = BitVec.ofInt 32 t :=
  BitVec.eq_of_toInt_eq (by rw [h, BitVec.toInt_ofInt])

theorem sum_release (xs : List I32) : sum .release xs = .ok (BitVec.ofInt 32 (total xs)) := by
  obtain ⟨x, hx, hxv⟩ := sum_release_toInt xs
  rw [hx, eq_ofInt_of_toInt_eq hxv]

theorem foldlM_debug_toInt {xs : List I32} {acc x : I32}
    (h : xs.foldlM (add .debug) acc = .ok x) : x.toInt = acc.toInt + total xs := by
  induction xs generalizing acc with
  | nil => cases h; simp
  | cons y ys ih =>
    simp only [List.foldlM_cons, add] at h
    split at h
    · cases h
    · rename_i hfit
      rw [ih h, total_cons, toInt_add_of_not_overflow hfit]
      omega

/-- A debug build, when it does not panic, returns the exact total. -/
theorem sum_debug_toInt {xs : List I32} {x : I32} (h : sum .debug xs = .ok x) :
    x.toInt = total xs := by
  simpa using foldlM_debug_toInt h

/-- An `i32` lies in `[-2 ^ 31, 2 ^ 31)`. -/
theorem toInt_mem_range (x : I32) : -2 ^ 31 ≤ x.toInt ∧ x.toInt < 2 ^ 31 := by
  rw [BitVec.toInt_eq_toNat_bmod]
  have := @Int.le_bmod x.toNat (2 ^ 32) (by decide)
  have := @Int.bmod_lt x.toNat (2 ^ 32) (by decide)
  omega

/-- A debug build's only panic is the overflow of an addition. -/
theorem foldlM_debug_cases (xs : List I32) (acc : I32) :
    xs.foldlM (add .debug) acc = .error "attempt to add with overflow" ∨
      ∃ x, xs.foldlM (add .debug) acc = .ok x := by
  induction xs generalizing acc with
  | nil => exact .inr ⟨acc, rfl⟩
  | cons y ys ih =>
    simp only [List.foldlM_cons, add]
    split
    · exact .inl rfl
    · exact ih (acc + y)

/-- A debug build panics, or returns the exact total, which is then an `i32`: the value a
release build returns. -/
theorem sum_debug (xs : List I32) :
    sum .debug xs = .error "attempt to add with overflow" ∨
      (sum .debug xs = sum .release xs ∧ -2 ^ 31 ≤ total xs ∧ total xs < 2 ^ 31) := by
  rcases foldlM_debug_cases xs 0 with h | ⟨x, hx⟩
  · exact .inl h
  · have hxv : x.toInt = total xs := sum_debug_toInt hx
    refine .inr ⟨?_, hxv ▸ toInt_mem_range x⟩
    have hbmod : x.toInt = (total xs).bmod (2 ^ 32) := by
      rw [← hxv, BitVec.toInt_eq_toNat_bmod, Int.bmod_bmod]
    rw [sum_release, ← eq_ofInt_of_toInt_eq hbmod]
    exact hx

/-- Without negative counts, a debug build panics only when the exact total does not fit: every
partial sum is at most the total. -/
theorem foldlM_debug_of_le_max {xs : List I32} {acc : I32} (hacc : 0 ≤ acc.toInt)
    (hpos : ∀ x ∈ xs, 0 ≤ x.toInt) (hfit : acc.toInt + total xs ≤ 2 ^ 31 - 1) :
    ∃ x, xs.foldlM (add .debug) acc = .ok x := by
  induction xs generalizing acc with
  | nil => exact ⟨acc, rfl⟩
  | cons y ys ih =>
    have hy : 0 ≤ y.toInt := hpos y (.head _)
    have hys : 0 ≤ total ys := total_nonneg fun x hx => hpos x (.tail _ hx)
    rw [total_cons] at hfit
    have hno : ¬(acc.toInt + y.toInt < -2 ^ 31 ∨ 2 ^ 31 ≤ acc.toInt + y.toInt) := by omega
    simp only [List.foldlM_cons, add, if_neg hno]
    exact ih (by rw [toInt_add_of_not_overflow hno]; omega)
      (fun x hx => hpos x (.tail _ hx)) (by rw [toInt_add_of_not_overflow hno]; omega)

theorem bmod_of_le_max {t : Int} (h0 : 0 ≤ t) (h1 : t ≤ 2 ^ 31 - 1) : t.bmod (2 ^ 32) = t := by
  rw [Int.bmod_def]
  split <;> omega

end I32

namespace Message

variable {S : Schema}

/-- `Message::reaction_count`: the counts of the message's reactions added up, if it has
reactions.  A panic in the sum propagates. -/
def reactionCount (profile : Profile) (m : Message S) : Except String (Option I32) :=
  match m.raw.reactions with
  | none => .ok none
  | some reactions => do
    let count ← I32.sum profile (reactions.results.map fun reaction => reaction.count)
    pure (some count)

theorem total_counts (r : Tl.Types.MessageReactions) :
    I32.total (r.results.map fun reaction => reaction.count) =
      (r.results.map fun c => c.count.toInt).sum := by
  simp [I32.total, List.map_map, Function.comp_def]

/-- **A release build wraps.**  For every message, a release build returns, if the message has
reactions, the exact total of their counts reduced to `i32`. -/
theorem reactionCount_release (m : Message S) :
    m.reactionCount .release = .ok (m.raw.reactions.map fun r =>
      BitVec.ofInt 32 (r.results.map fun c => c.count.toInt).sum) := by
  rw [reactionCount]
  split
  · next hr => rw [hr]; rfl
  · next r hr => simp only [hr, I32.sum_release, total_counts, Option.map_some']; rfl

/-- **A debug build panics or is exact.**  For every message, a debug build either panics with
"attempt to add with overflow", or returns what a release build returns, and then the exact total
of the counts is an `i32`. -/
theorem reactionCount_debug (m : Message S) :
    m.reactionCount .debug = .error "attempt to add with overflow" ∨
      (m.reactionCount .debug = m.reactionCount .release ∧
        ∀ r ∈ m.raw.reactions, -2 ^ 31 ≤ (r.results.map fun c => c.count.toInt).sum ∧
          (r.results.map fun c => c.count.toInt).sum < 2 ^ 31) := by
  rw [reactionCount, reactionCount]
  split
  · next hr => exact .inr ⟨rfl, by simp [hr]⟩
  · next r hr =>
    rcases I32.sum_debug (r.results.map fun reaction => reaction.count) with h | ⟨h, hrange⟩
    · left; rw [h]; rfl
    · right
      rw [total_counts] at hrange
      rw [h, hr]
      exact ⟨rfl, fun r' hr' => by cases hr'; exact hrange⟩

/-- **Reaction counts that fit.**  With non-negative counts whose exact total is at most
`i32::MAX`, both builds return that total: no partial sum overflows. -/
theorem reactionCount_eq_sum_of_le_max (profile : Profile) (m : Message S)
    (r : Tl.Types.MessageReactions) (hr : m.raw.reactions = some r)
    (hpos : ∀ c ∈ r.results, 0 ≤ c.count.toInt)
    (hfit : (r.results.map fun c => c.count.toInt).sum ≤ 2 ^ 31 - 1) :
    ∃ x, m.reactionCount profile = .ok (some x) ∧
      x.toInt = (r.results.map fun c => c.count.toInt).sum := by
  have hpos' : ∀ x ∈ r.results.map fun reaction => reaction.count, 0 ≤ x.toInt := by
    simpa using hpos
  rw [← total_counts] at hfit ⊢
  have h0 := I32.total_nonneg hpos'
  obtain ⟨x, hx, hxv⟩ : ∃ x, I32.sum profile (r.results.map fun reaction => reaction.count) =
      .ok x ∧ x.toInt = I32.total (r.results.map fun reaction => reaction.count) := by
    cases profile with
    | release =>
      obtain ⟨x, hx, hxv⟩ := I32.sum_release_toInt _
      exact ⟨x, hx, hxv.trans (I32.bmod_of_le_max h0 hfit)⟩
    | debug =>
      obtain ⟨x, hx⟩ := @I32.foldlM_debug_of_le_max _ 0 (by decide) hpos' (by simpa using hfit)
      exact ⟨x, hx, I32.sum_debug_toInt hx⟩
  exact ⟨x, by simp [reactionCount, hr, hx], hxv⟩

theorem reactionCount_three_and_four :
    let r : Tl.Types.MessageReactions := ⟨[⟨3⟩, ⟨4⟩]⟩
    let m : Message Schema.unit := ⟨{ emptyMessage _ with reactions := some r }, none, ()⟩
    (∀ c ∈ r.results, 0 ≤ c.count.toInt) ∧ (r.results.map fun c => c.count.toInt).sum ≤ 2 ^ 31 - 1 ∧
      ∃ x, m.reactionCount .debug = .ok (some x) ∧
        x.toInt = (r.results.map fun c => c.count.toInt).sum :=
  ⟨by decide, by decide, reactionCount_eq_sum_of_le_max .debug _ _ rfl (by decide) (by decide)⟩

/-- Two counts in range whose total, `2 ^ 31`, is not an `i32`: a debug build panics, and a
release build answers `i32::MIN`. -/
theorem reactionCount_overflow :
    let r : Tl.Types.MessageReactions := ⟨[⟨BitVec.ofInt 32 (2 ^ 31 - 1)⟩, ⟨1⟩]⟩
    let m : Message Schema.unit := ⟨{ emptyMessage _ with reactions := some r }, none, ()⟩
    (∀ c ∈ r.results, 0 ≤ c.count.toInt) ∧
      m.reactionCount .debug = .error "attempt to add with overflow" ∧
      m.reactionCount .release = .ok (some (BitVec.ofInt 32 (-2 ^ 31))) ∧
      (BitVec.ofInt 32 (-2 ^ 31)).toInt ≠ (r.results.map fun c => c.count.toInt).sum :=
  ⟨by decide, rfl, rfl, by decide⟩

end Message
end Grammers
