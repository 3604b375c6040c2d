import Mathlib.Data.List.Infix
import Mathlib.Data.List.DropRight

/-!
# Cutting a text at an occurrence of a pattern

`str::find` and `str::rfind` with a text pattern give the index of the pattern's first or last
occurrence, and their callers cut the text there with `split_at` or a slice. Here a text is a
list, and the search returns the cut itself: the part before the occurrence and the part from
it on, which starts with the pattern (`splitLast?_eq_some` for the last search).

Where the cut falls is said by the text around it. The first search cuts `b ++ w` at `b` when
`w` starts with the pattern and the pattern does not begin inside `b` (`splitFirst?_append`);
the last search does when the pattern does not begin inside `w` after its start
(`splitLast?_append`), and an occurrence further on moves its cut there
(`splitLast?_append_of_isInfix`). A pattern whose first element is not in a text cannot begin
inside it (`cons_isInfix_append_of_not_mem`), nor end inside one without its last element
(`concat_isInfix_append_of_not_mem`): this turns the side conditions into facts about the text
alone. Texts joined by a separator hold no element that neither the separator nor a text holds
(`not_mem_intercalate`), and trimming the end of a text stops at the last element it keeps
(`rdropWhile_append_cons`).
-/

set_option autoImplicit false

namespace List

variable {α : Type}

section Occurrence

/-- A pattern that begins inside `l` at an element other than its first is inside the rest. -/
theorem cons_isInfix_append_of_not_mem {a : α} {p l w : List α} (ha : a ∉ l) (h : a :: p <:+: l ++ w) :
    a :: p <:+: w := by
  induction l with
  | nil => simpa using h
  | cons c l ih =>
    rw [cons_append, infix_cons_iff] at h
    rcases h with hfront | hrest
    · -- an occurrence at the front would begin with `c`, which is not `a`
      exact absurd ((cons_prefix_cons.mp hfront).1 ▸ mem_cons_self) ha
    · exact ih (fun hl => ha (mem_cons_of_mem c hl)) hrest

/-- A pattern that ends inside `x ++ y` at an element not in `y` is inside `x`. -/
theorem concat_isInfix_append_of_not_mem {a : α} {p x y : List α} (ha : a ∉ y) (h : p ++ [a] <:+: x ++ y) :
    p ++ [a] <:+: x := by
  have hrev : a :: p.reverse <:+: y.reverse ++ x.reverse := by
    simpa using reverse_infix.mpr h
  have hx := cons_isInfix_append_of_not_mem (by simpa using ha) hrev
  rw [← reverse_infix]
  simpa using hx

/-- A text cut into `b` and a part that starts with the pattern contains the pattern. -/
theorem isInfix_of_prefix_append {pat b w : List α} (hw : pat <+: w) : pat <:+: b ++ w :=
  hw.isInfix.trans (suffix_append b w).isInfix

/-- If the pattern starts both `w` and `x ++ w` for some `x` that is not empty, it starts
`x ++ pat.dropLast`: the occurrence at the front ends before the one at `w`'s start does. -/
theorem prefix_append_dropLast {pat x w : List α} (hx : x ≠ []) (hfront : pat <+: x ++ w) (hw : pat <+: w) :
    pat <+: x ++ pat.dropLast := by
  have hlen : 0 < x.length := length_pos_of_ne_nil hx
  obtain ⟨t, rfl⟩ := hw
  -- both sides read at most `pat.length - x.length` elements past `x`, all inside `pat.dropLast`
  have hrest : (pat ++ t).take (pat.length - x.length) = pat.dropLast.take (pat.length - x.length) := by
    rw [take_append_of_le_length (by omega), dropLast_eq_take, take_take]
    congr 1
    omega
  rw [prefix_iff_eq_take] at hfront ⊢
  rw [take_append, ← hrest, ← take_append]
  exact hfront

/-- Joining texts by a separator brings in no element that neither has. -/
theorem not_mem_intercalate {a : α} {sep : List α} {ls : List (List α)} (hsep : a ∉ sep)
    (hls : ∀ l ∈ ls, a ∉ l) : a ∉ sep.intercalate ls := by
  induction ls with
  | nil => simp
  | cons l ls ih =>
    cases ls with
    | nil => simpa using hls l mem_cons_self
    | cons l' ls =>
      rw [intercalate_cons_of_ne_nil (cons_ne_nil l' ls)]
      simp only [mem_append, not_or]
      exact ⟨⟨hls l mem_cons_self, hsep⟩, ih fun m hm => hls m (mem_cons_of_mem l hm)⟩

/-- Trimming the end of a text keeps everything up to an element it does not drop. -/
theorem rdropWhile_append_cons {p : α → Bool} {l m : List α} {a : α} (ha : p a = false) :
    (l ++ a :: m).rdropWhile p = l ++ a :: m.rdropWhile p := by
  have hdrop : (m.reverse ++ a :: l.reverse).dropWhile p = m.reverse.dropWhile p ++ a :: l.reverse := by
    rw [dropWhile_append]
    split
    · rename_i hempty
      rw [dropWhile_cons_of_neg (by simp [ha]), isEmpty_iff.mp hempty, nil_append]
    · rfl
  simp only [rdropWhile, reverse_append, reverse_cons, append_assoc, singleton_append, hdrop]
  simp

end Occurrence

variable [DecidableEq α]

/-! ## The first occurrence -/

section First

/-- `str::find` with a text pattern, and the text cut there: the part before the first occurrence
of `pat`, and the part from it on. -/
def splitFirst? (pat : List α) : List α → Option (List α × List α)
  | [] => if pat <+: [] then some ([], []) else none
  | a :: l =>
    if pat <+: a :: l then some ([], a :: l)
    else (splitFirst? pat l).map fun p => (a :: p.1, p.2)

/-- The first search cuts at `b` when `w` starts with the pattern and no occurrence begins
inside `b`. -/
theorem splitFirst?_append {pat w : List α} (b : List α) (hw : pat <+: w)
    (hearlier : ¬pat <:+: b ++ pat.dropLast) : splitFirst? pat (b ++ w) = some (b, w) := by
  induction b with
  | nil =>
    cases w with
    | nil => simp [splitFirst?, hw]
    | cons a w => simp [splitFirst?, hw]
  | cons a b ih =>
    have hfront : ¬pat <+: a :: (b ++ w) := fun hp =>
      hearlier (prefix_append_dropLast (cons_ne_nil a b) hp hw).isInfix
    have hrest : ¬pat <:+: b ++ pat.dropLast := fun hp =>
      hearlier (hp.trans (suffix_cons a _).isInfix)
    rw [cons_append, splitFirst?, if_neg hfront, ih hrest]
    rfl

end First

/-! ## The last occurrence -/

section Last

/-- `str::rfind` with a text pattern, and the text cut there: the part before the last occurrence
of `pat`, and the part from it on. -/
def splitLast? (pat : List α) : List α → Option (List α × List α)
  | [] => if pat <+: [] then some ([], []) else none
  | a :: l =>
    ((splitLast? pat l).map fun p => (a :: p.1, p.2)).or
      (if pat <+: a :: l then some ([], a :: l) else none)

theorem splitLast?_eq_some {pat l b w : List α} (h : splitLast? pat l = some (b, w)) :
    l = b ++ w ∧ pat <+: w := by
  induction l generalizing b with
  | nil =>
    rw [splitLast?] at h
    split at h
    · cases h
      exact ⟨rfl, ‹_›⟩
    · cases h
  | cons a l ih =>
    rw [splitLast?] at h
    cases hlater : splitLast? pat l with
    | some p =>
      -- a later occurrence: the cut is the later one's, behind `a`
      rw [hlater] at h
      cases h
      obtain ⟨rfl, hw⟩ := ih hlater
      exact ⟨rfl, hw⟩
    | none =>
      rw [hlater] at h
      simp only [Option.map_none, Option.none_or] at h
      split at h
      · cases h
        exact ⟨rfl, ‹_›⟩
      · cases h

theorem isSome_splitLast? {pat l : List α} (h : pat <:+: l) : (splitLast? pat l).isSome := by
  induction l with
  | nil =>
    rw [infix_nil] at h
    simp [splitLast?, h]
  | cons a l ih =>
    rcases infix_cons_iff.mp h with hfront | hrest
    · simp [splitLast?, hfront]
    · simp [splitLast?, ih hrest]

/-- The last search cuts at `b` when `w` starts with the pattern and no occurrence begins inside
`w` after its start. -/
theorem splitLast?_append {pat w : List α} (b : List α) (hw : pat <+: w) (hlater : ¬pat <:+: w.tail) :
    splitLast? pat (b ++ w) = some (b, w) := by
  induction b with
  | nil =>
    cases w with
    | nil => simp [splitLast?, hw]
    | cons a w =>
      have hnone : splitLast? pat w = none := by
        cases hsplit : splitLast? pat w with
        | none => rfl
        | some p =>
          obtain ⟨hcut, hp⟩ := splitLast?_eq_some hsplit
          exact absurd (hcut ▸ isInfix_of_prefix_append hp) hlater
      simp [splitLast?, hnone, hw]
  | cons a b ih =>
    rw [cons_append, splitLast?, ih]
    rfl

/-- An occurrence inside `v` takes the last search there, past all of `u`. -/
theorem splitLast?_append_of_isInfix {pat v : List α} (u : List α) (h : pat <:+: v) :
    splitLast? pat (u ++ v) = (splitLast? pat v).map fun p => (u ++ p.1, p.2) := by
  induction u with
  | nil => simp
  | cons a u ih =>
    obtain ⟨p, hp⟩ := Option.isSome_iff_exists.mp (isSome_splitLast? h)
    rw [cons_append, splitLast?, ih, hp]
    rfl

end Last

end List
