import Scaffold.Yaml.Flow

/-!
# Going through a text

A cursor that passes characters one by one stands where so many characters are dropped, and every
walk over a class of characters passes as many as there are. What is said here of a place in a text
is said of the characters that are left.
-/
namespace Scaffold.Yaml.Cursor

variable {c : Cursor} {cs more : List Char} {isIn : Char → Bool} {ch : Char}

@[simp] theorem rest_next (c : Cursor) : c.next.rest = c.rest.tail := by
  unfold next
  split
  · next h => simp [h]
  · next h => rw [h]; split <;> rfl

@[simp] theorem size_next (c : Cursor) : c.next.size = c.size := by
  unfold next
  split
  · rfl
  · split <;> rfl

theorem index_next (h : c.rest ≠ []) : c.next.index = c.index + 1 := by
  unfold next
  split
  · next hnil => exact absurd hnil h
  · split <;> rfl

theorem line_next (h : ∀ ch ∈ c.rest.head?, isBreak ch = false) : c.next.line = c.line := by
  unfold next
  split
  · rfl
  · next ch rest hrest =>
    rw [hrest] at h
    simp [h ch rfl]

theorem skip_add (m n : Nat) (c : Cursor) : c.skip (m + n) = (c.skip m).skip n := by
  induction m generalizing c with
  | zero => simp [skip]
  | succ m ih => rw [Nat.succ_add, skip, ih, skip]

@[simp] theorem rest_skip (n : Nat) (c : Cursor) : (c.skip n).rest = c.rest.drop n := by
  induction n generalizing c with
  | zero => rfl
  | succ n ih => rw [skip, ih, rest_next, List.drop_tail]

@[simp] theorem size_skip (n : Nat) (c : Cursor) : (c.skip n).size = c.size := by
  induction n generalizing c with
  | zero => rfl
  | succ n ih => rw [skip, ih, size_next]

@[simp] theorem steps_skip (n : Nat) (c : Cursor) : (c.skip n).steps = c.steps := by
  simp [steps]

theorem rest_skip_length (h : c.rest = cs ++ more) : (c.skip cs.length).rest = more := by
  simp [h]

theorem index_skip {n : Nat} (h : n ≤ c.rest.length) : (c.skip n).index = c.index + n := by
  induction n generalizing c with
  | zero => rfl
  | succ n ih =>
    have hne : c.rest ≠ [] := fun hnil => by simp [hnil] at h
    rw [skip, ih (by simp; omega), index_next hne]
    omega

/-- A walk that passes no break stays on its line. -/
theorem line_skip {n : Nat} (h : ∀ ch ∈ c.rest.take n, isBreak ch = false) :
    (c.skip n).line = c.line := by
  induction n generalizing c with
  | zero => rfl
  | succ n ih =>
    rw [skip, ih, line_next]
    · intro ch hch
      cases hrest : c.rest with
      | nil => simp [hrest] at hch
      | cons d rest => exact h ch (by simpa [hrest] using .inl (by simpa [hrest] using hch.symm))
    · intro ch hch
      refine h ch ?_
      rw [rest_next] at hch
      cases hrest : c.rest with
      | nil => simp [hrest] at hch
      | cons d rest => rw [hrest] at hch; exact List.mem_cons_of_mem d hch

theorem peek_eq (h : c.rest = ch :: more) : c.peek = ch := by simp [peek, h]

theorem peekAt_one_eq (h : c.rest = ch :: more) : c.peekAt 1 = more.headD '\x00' := by
  simp [peekAt, h]

theorem takeWhile_append (hall : ∀ ch ∈ cs, isIn ch = true)
    (hstop : ∀ ch ∈ more.head?, isIn ch = false) : (cs ++ more).takeWhile isIn = cs := by
  rw [List.takeWhile_append_of_pos hall]
  cases more with
  | nil => simp
  | cons ch more => simp [hstop ch rfl]

theorem span_eq (h : c.rest = cs ++ more) (hall : ∀ ch ∈ cs, isIn ch = true)
    (hstop : ∀ ch ∈ more.head?, isIn ch = false) : c.span isIn = (cs, c.skip cs.length) := by
  simp only [span, h, takeWhile_append hall hstop]

theorem skipWhile_eq (h : c.rest = cs ++ more) (hall : ∀ ch ∈ cs, isIn ch = true)
    (hstop : ∀ ch ∈ more.head?, isIn ch = false) : c.skipWhile isIn = c.skip cs.length := by
  rw [skipWhile, span_eq h hall hstop]

theorem lineBreak_of_feed (h : c.rest = '\n' :: more) : c.lineBreak = (['\n'], c.skip 1) := by
  unfold lineBreak
  rw [h]
  rfl

theorem lineBreak_of_not_break (h : ∀ ch ∈ c.rest.head?, isBreak ch = false) :
    c.lineBreak = ([], c) := by
  unfold lineBreak
  split
  · next hrest => exact absurd (h '\r' (by rw [hrest]; rfl)) (by decide)
  · next ch rest _ hrest =>
    have hbreak := h ch (by rw [hrest]; rfl)
    have hseparator : ¬ (ch = '\u2028' ∨ ch = '\u2029') := by
      rintro (rfl | rfl) <;> cases hbreak
    rw [if_neg hseparator, if_neg (by simp [hbreak])]
  · rfl

theorem not_hasMarks {mark : Char} (h : c.rest.head? ≠ some mark) : c.hasMarks mark = false := by
  unfold hasMarks
  cases hrest : c.rest with
  | nil => simp
  | cons d rest =>
    have hne : d ≠ mark := fun heq => h (by simp [hrest, heq])
    simp [hne]

theorem not_atDocumentMark (h : ∀ ch ∈ c.rest.head?, ch ≠ '-' ∧ ch ≠ '.') :
    c.atDocumentMark = false := by
  have hne (mark : Char) (hmark : mark = '-' ∨ mark = '.') : c.hasMarks mark = false := by
    refine not_hasMarks fun hhead => ?_
    rcases hmark with rfl | rfl
    · exact (h _ hhead).1 rfl
    · exact (h _ hhead).2 rfl
  rw [atDocumentMark, hne '-' (.inl rfl), hne '.' (.inr rfl)]
  rfl

end Scaffold.Yaml.Cursor
