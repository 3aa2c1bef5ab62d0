import Mathlib.Tactic.SplitIfs
import Scaffold.Proofs.Cursors
import Scaffold.Proofs.Portability

/-!
# Strings and words within YAML

A portable string of JSON, read as a quoted scalar of YAML, has the same letters, and a portable
word or number is one plain scalar. A plain scalar takes the blanks after it along, up to the mark
that ends it.
-/
namespace Scaffold.Yaml

open Document.Json (Quoted Piece HexDigits Gap Atom Numeral)

variable {c : Cursor} {steps : Nat} {cs more : List Char} {ch : Char}

/-! ## Strings -/

/-- Puts letters before those that a scalar goes on with. -/
def continued (part : List Letter) (result : Except Fault (List Letter × Cursor)) :
    Except Fault (List Letter × Cursor) :=
  result.map fun found => (part ++ found.1, found.2)

theorem bind_eq_continued (part : List Letter) (result : Except Fault (List Letter × Cursor)) :
    (do let (others, c) ← result; return (part ++ others, c)) = continued part result := by
  cases result <;> rfl

theorem quoted_mark (h : c.rest = '"' :: more) :
    quoted .double (steps + 1) c = .ok ([], c.skip 1) := by
  unfold quoted
  simp [Cursor.peek_eq h, Quote.mark]
  rfl

theorem quoted_plain (h : c.rest = ch :: more) (hmark : ch ≠ '"') (hslash : ch ≠ '\\')
    (hspace : isSpaceOrTab ch = false) (hbreak : isBreak ch = false) (hend : atEnd ch = false) :
    quoted .double (steps + 1) c = continued [.char ch] (quoted .double steps (c.skip 1)) := by
  rw [← bind_eq_continued]
  conv => lhs; unfold quoted
  simp [Cursor.peek_eq h, Quote.mark, hmark, hslash, hspace, hbreak, hend]
  rfl

/-- A run of blanks that does not end its line is kept. -/
theorem quoted_blanks (h : c.rest = cs ++ more) (hne : cs ≠ [])
    (hall : ∀ ch ∈ cs, isSpaceOrTab ch = true)
    (hstop : ∀ ch ∈ more.head?, isSpaceOrTab ch = false ∧ isBreak ch = false) :
    quoted .double (steps + 1) c =
      continued (cs.map .char) (quoted .double steps (c.skip cs.length)) := by
  obtain ⟨ch, cs', rfl⟩ := List.exists_cons_of_ne_nil hne
  have hch := hall ch (List.mem_cons_self ..)
  have hspan := Cursor.span_eq h hall fun d hd => (hstop d hd).1
  have hpeek : isBreak (c.skip (ch :: cs').length).peek = false := by
    rw [Cursor.peek, Cursor.rest_skip_length h]
    cases more with
    | nil => rfl
    | cons d more => exact (hstop d rfl).2
  have hmark : ch ≠ '"' := by rintro rfl; cases hch
  have hslash : ch ≠ '\\' := by rintro rfl; cases hch
  rw [← bind_eq_continued]
  conv => lhs; unfold quoted
  simp only [Cursor.peek_eq h, hch, hspan, hpeek]
  simp [Quote.mark, hmark, hslash]

theorem quoted_escape {part : List Letter} {after : Cursor} (h : c.rest = '\\' :: more)
    (hescape : quotedEscape steps c.next = .ok (part, after)) :
    quoted .double (steps + 1) c = continued part (quoted .double steps after) := by
  rw [← bind_eq_continued]
  conv => lhs; unfold quoted
  simp only [Cursor.peek_eq h, hescape]
  simp [Quote.mark]
  rfl

theorem quotedEscape_short {mark d : Char} (h : c.rest = mark :: more)
    (hmark : Document.Json.escaped? mark = some d) :
    quotedEscape steps c = .ok ([.char d], c.next) := by
  have hsame : escaped? mark = some d := by
    unfold Document.Json.escaped? at hmark
    split at hmark
    all_goals first | exact hmark | cases hmark
  simp [quotedEscape, Cursor.peek_eq h, hsame]

theorem hexValue_lt {ch : Char} {n : Nat} (h : Document.Json.hexValue? ch = some n) : n < 16 := by
  have hle (least most : Char) (hch : least ≤ ch ∧ ch ≤ most) :
      least.toNat ≤ ch.toNat ∧ ch.toNat ≤ most.toNat := hch
  unfold Document.Json.hexValue? at h
  split_ifs at h with hch hch hch
  all_goals
    have hbounds := hle _ _ hch
    cases h
    simp only [Char.reduceToNat] at hbounds ⊢
    omega

theorem exists_values (digits : HexDigits) : ∃ i j k l,
    Document.Json.hexValue? digits.a = some i ∧ Document.Json.hexValue? digits.b = some j ∧
    Document.Json.hexValue? digits.c = some k ∧ Document.Json.hexValue? digits.d = some l ∧
    digits.number = ((i * 16 + j) * 16 + k) * 16 + l := by
  have h := digits.denote
  simp only [Document.Json.hexNumber?, List.foldl_cons, List.foldl_nil, Option.bind_eq_some_iff,
    Option.some.injEq, Option.map_eq_some_iff] at h
  obtain ⟨_, ⟨_, ⟨_, ⟨_, rfl, i, hi, rfl⟩, j, hj, rfl⟩, k, hk, rfl⟩, l, hl, hnumber⟩ := h
  exact ⟨i, j, k, l, hi, hj, hk, hl, by omega⟩

theorem number_lt (digits : HexDigits) : digits.number < 0x10000 := by
  obtain ⟨i, j, k, l, hi, hj, hk, hl, hnumber⟩ := exists_values digits
  have := hexValue_lt hi
  have := hexValue_lt hj
  have := hexValue_lt hk
  have := hexValue_lt hl
  omega

theorem quotedEscape_unit (digits : HexDigits)
    (h : c.rest = 'u' :: digits.a :: digits.b :: digits.c :: digits.d :: more) :
    quotedEscape steps c = .ok ([Document.Json.letterOfUnit digits.number], c.skip 5) := by
  have hnumber : escapeNumber? c = some (digits.number, c.skip 5) := by
    simp [escapeNumber?, Cursor.peek_eq h, escapeDigits?, h, digits.denote, Cursor.skip]
  have hsmall : ¬ 0x110000 ≤ digits.number := by
    have := number_lt digits
    omega
  have hnone : escaped? c.peek = none := by rw [Cursor.peek_eq h]; rfl
  simp only [quotedEscape, hnone, hnumber, letterOfNumber, if_neg hsmall]
  rfl

theorem continued_cons (l : Letter) (part : List Letter)
    (result : Except Fault (List Letter × Cursor)) :
    continued (l :: part) result = continued [l] (continued part result) := by
  cases result <;> rfl

/-- No run of blanks within a string ends its line. -/
theorem head_dropWhile_text {q : Quoted} (hq : q.isPortable = true) (more : List Char) :
    ∀ ch ∈ ((q.text ++ more).dropWhile isSpaceOrTab).head?,
      isSpaceOrTab ch = false ∧ isBreak ch = false := by
  induction q with
  | nil =>
    intro ch hch
    cases hch
    exact ⟨rfl, rfl⟩
  | cons p q ih =>
    simp only [Quoted.isPortable, List.all_cons, Bool.and_eq_true] at hq
    rw [Quoted.text, List.append_assoc]
    cases p with
    | plain d hd =>
      have hbreak : isBreak d = false := by
        have := hq.1
        simp only [Piece.isPortable, Bool.and_eq_true, Bool.not_eq_true'] at this
        exact this.2
      rw [Piece.text, List.singleton_append, List.dropWhile_cons]
      split
      · exact ih hq.2
      · next hspace =>
        intro ch hch
        cases hch
        exact ⟨by simpa using hspace, hbreak⟩
    | short mark d h =>
      intro ch hch
      cases hch
      exact ⟨rfl, rfl⟩
    | unit digits =>
      intro ch hch
      cases hch
      exact ⟨rfl, rfl⟩
    | pair high low h => cases hq.1

/-- A piece of a string that is no blank is read by itself. -/
theorem quoted_piece {p : Piece} (hp : p.isPortable = true) (h : c.rest = p.text ++ more)
    (hspace : ∀ ch ∈ p.text.head?, isSpaceOrTab ch = false) :
    quoted .double (steps + 1) c =
      continued [p.letter] (quoted .double steps (c.skip p.text.length)) := by
  cases p with
  | plain d hd =>
    simp only [Piece.isPortable, Bool.and_eq_true, Bool.not_eq_true'] at hp
    refine quoted_plain h hd.1 hd.2.1 (hspace d rfl) hp.2 ?_
    have hne : d ≠ '\x00' := by
      rintro rfl
      cases hp.1
    exact decide_eq_false hne
  | short mark d hmark =>
    have hafter : c.next.rest = mark :: more := by rw [Cursor.rest_next, h]; rfl
    exact quoted_escape h (quotedEscape_short hafter hmark)
  | unit digits =>
    have hafter : c.next.rest = 'u' :: digits.a :: digits.b :: digits.c :: digits.d :: more := by
      rw [Cursor.rest_next, h]
      rfl
    exact quoted_escape h (quotedEscape_unit digits hafter)
  | pair high low h => cases hp

theorem letter_of_blank {p : Piece} {ch : Char} (hch : ch ∈ p.text.head?)
    (hblank : isSpaceOrTab ch = true) : p.text = [ch] ∧ p.letter = .char ch := by
  cases p with
  | plain d hd =>
    cases hch
    exact ⟨rfl, rfl⟩
  | short | unit | pair =>
    cases hch
    cases hblank

/-- A blank joins the run of those that come after it, which the scalar passes at once. -/
theorem quoted_blank {result : Except Fault (List Letter × Cursor)} (h : c.rest = ch :: more)
    (hblank : isSpaceOrTab ch = true)
    (hstop : ∀ d ∈ (more.dropWhile isSpaceOrTab).head?, isSpaceOrTab d = false ∧ isBreak d = false)
    (hnow : quoted .double steps (c.skip 1) = result)
    (hlater : quoted .double (steps + 1) (c.skip 1) = result) :
    quoted .double (steps + 1) c = continued [.char ch] result := by
  have hsplit : more.takeWhile isSpaceOrTab ++ more.dropWhile isSpaceOrTab = more :=
    List.takeWhile_append_dropWhile
  have hblanks : ∀ d ∈ more.takeWhile isSpaceOrTab, isSpaceOrTab d = true :=
    fun _ hd => List.all_eq_true.1 List.all_takeWhile _ hd
  generalize more.takeWhile isSpaceOrTab = blanks at hsplit hblanks
  generalize more.dropWhile isSpaceOrTab = after at hsplit hstop
  subst hsplit
  have hall : ∀ d ∈ ch :: blanks, isSpaceOrTab d = true := by simpa [hblank] using hblanks
  have hcs : c.rest = (ch :: blanks) ++ after := h
  rw [quoted_blanks hcs nofun hall hstop, List.map_cons, continued_cons]
  by_cases hnil : blanks = []
  · rw [hnil, ← hnow]
    cases quoted .double steps (c.skip 1) <;> rfl
  · have hrest : (c.skip 1).rest = blanks ++ after := by simp [h]
    rw [← hlater, quoted_blanks hrest hnil hblanks hstop, ← Cursor.skip_add, Nat.add_comm]
    rfl

/-- A portable string is a quoted scalar with the same letters. -/
theorem quoted_text {q : Quoted} (hq : q.isPortable = true) (hsteps : q.length < steps)
    (h : c.rest = q.text ++ more) :
    quoted .double steps c = .ok (q.letters, c.skip q.text.length) := by
  induction q generalizing steps c with
  | nil =>
    obtain ⟨steps, rfl⟩ := Nat.exists_eq_add_one_of_ne_zero (Nat.ne_of_gt hsteps)
    exact quoted_mark h
  | cons p q ih =>
    obtain ⟨steps, rfl⟩ := Nat.exists_eq_add_one_of_ne_zero (Nat.ne_zero_of_lt hsteps)
    have hlater : q.length < steps := by simpa using hsteps
    obtain ⟨hp, hq⟩ : p.isPortable = true ∧ Quoted.isPortable q = true := by
      simpa [Quoted.isPortable] using hq
    rw [Quoted.text, List.append_assoc] at h
    have hrest := Cursor.rest_skip_length h
    suffices hstep : quoted .double (steps + 1) c = continued [p.letter]
        (.ok (Quoted.letters q, (c.skip p.text.length).skip (Quoted.text q).length)) by
      rw [hstep, Quoted.text, List.length_append, Cursor.skip_add]
      rfl
    by_cases hblank : ∃ ch ∈ p.text.head?, isSpaceOrTab ch = true
    · obtain ⟨ch, hch, hblank⟩ := hblank
      obtain ⟨htext, hletter⟩ := letter_of_blank hch hblank
      rw [htext] at h hrest ⊢
      rw [hletter]
      exact quoted_blank h hblank (head_dropWhile_text hq more) (ih hq hlater hrest)
        (ih hq (Nat.lt_succ_of_lt hlater) hrest)
    · have hspace : ∀ ch ∈ p.text.head?, isSpaceOrTab ch = false := by simpa using hblank
      rw [quoted_piece hp h hspace, ih hq hlater hrest]

theorem length_lt_length_text (q : Quoted) : q.length < q.text.length := by
  induction q with
  | nil => exact Nat.zero_lt_one
  | cons p q ih =>
    have hpiece : 0 < p.text.length := by cases p <;> exact Nat.succ_pos _
    rw [Quoted.text, List.length_append, List.length_cons]
    omega

theorem not_isBreak_of_hexValue {n : Nat} (h : Document.Json.hexValue? ch = some n) :
    isBreak ch = false := by
  refine Bool.eq_false_iff.2 fun hbreak => ?_
  simp only [isBreak, Bool.or_eq_true, decide_eq_true_eq] at hbreak
  rcases hbreak with (((rfl | rfl) | rfl) | rfl) | rfl <;> cases h

/-- A portable string stays on its line. -/
theorem not_isBreak_of_text {q : Quoted} (hq : q.isPortable = true) :
    ∀ ch ∈ q.text, isBreak ch = false := by
  induction q with
  | nil => exact List.forall_mem_singleton.2 rfl
  | cons p q ih =>
    simp only [Quoted.isPortable, List.all_cons, Bool.and_eq_true] at hq
    intro ch hch
    rw [Quoted.text, List.mem_append] at hch
    refine hch.elim (fun hch => ?_) (ih hq.2 ch)
    cases p with
    | plain d hd =>
      have hplain := hq.1
      simp only [Piece.isPortable, Bool.and_eq_true, Bool.not_eq_true'] at hplain
      rw [List.mem_singleton.1 hch]
      exact hplain.2
    | short mark d hmark =>
      simp only [Piece.text, List.mem_cons, List.not_mem_nil, or_false] at hch
      rcases hch with rfl | rfl
      · rfl
      · refine Bool.eq_false_iff.2 fun hbreak => ?_
        simp only [isBreak, Bool.or_eq_true, decide_eq_true_eq] at hbreak
        rcases hbreak with (((rfl | rfl) | rfl) | rfl) | rfl <;> cases hmark
    | unit digits =>
      obtain ⟨i, j, k, l, ha, hb, hc, hd, -⟩ := exists_values digits
      simp only [Piece.text, Piece.escape, List.mem_cons, List.not_mem_nil, or_false] at hch
      rcases hch with rfl | rfl | rfl | rfl | rfl | rfl
      · rfl
      · rfl
      · exact not_isBreak_of_hexValue ha
      · exact not_isBreak_of_hexValue hb
      · exact not_isBreak_of_hexValue hc
      · exact not_isBreak_of_hexValue hd
    | pair high low h => cases hq.1

/-! ## Blanks -/

/-- Spaces and line feeds. -/
def IsSpacing (gap : List Char) : Prop := ∀ ch ∈ gap, ch = ' ' ∨ ch = '\n'

theorem isSpacing_of_isPortable {gap : Gap} (h : gap.isPortable = true) : IsSpacing gap.chars := by
  intro ch hch
  simpa using List.all_eq_true.1 h ch hch

/-- Blanks are spaces, or spaces before a line feed and further blanks. -/
theorem IsSpacing.cases {gap : List Char} (h : IsSpacing gap) :
    ∃ spaces rest, gap = spaces ++ rest ∧ (∀ ch ∈ spaces, ch = ' ') ∧
      (rest = [] ∨ ∃ after, rest = '\n' :: after ∧ IsSpacing after) := by
  refine ⟨gap.takeWhile (· = ' '), gap.dropWhile (· = ' '),
    List.takeWhile_append_dropWhile.symm, fun ch hch => ?_, ?_⟩
  · simpa using List.all_eq_true.1 List.all_takeWhile ch hch
  · cases hrest : gap.dropWhile (· = ' ') with
    | nil => exact .inl rfl
    | cons ch after =>
      have hsuffix : ch :: after <:+ gap := hrest ▸ List.dropWhile_suffix _
      have hfirst := List.head?_dropWhile_not (fun ch => decide (ch = ' ')) gap
      rw [hrest] at hfirst
      have hne : ch ≠ ' ' := by simpa using hfirst
      refine .inr ⟨after, ?_, fun d hd => h d (hsuffix.mem (List.mem_cons_of_mem ch hd))⟩
      rw [(h ch (hsuffix.mem (List.mem_cons_self ..))).resolve_left hne]

/-- What follows a value in brackets: an entry or the end of a collection. -/
def Closes (more : List Char) : Prop := ∃ ch rest, more = ch :: rest ∧ ch ∈ [',', ']', '\x7d']

theorem Closes.head {more : List Char} (h : Closes more) :
    ∀ ch ∈ more.head?, ch ∈ [',', ']', '\x7d'] := by
  obtain ⟨ch, rest, rfl, hch⟩ := h
  intro d hd
  cases hd
  exact hch

/-! ## Words and numbers -/

/-- Characters of words and numbers. -/
def inWord (ch : Char) : Bool :=
  Document.Json.isDigit ch || ch.isAlpha || ch = '.' || ch = '-' || ch = '+'

theorem inWord_of_digits {digits : List Char} (h : digits.all Document.Json.isDigit = true) :
    ∀ ch ∈ digits, inWord ch = true := by
  intro ch hch
  simp [inWord, List.all_eq_true.1 h ch hch]

theorem inWord_of_numeral (n : Numeral) : ∀ ch ∈ n.text, inWord ch = true := by
  have hwhole := inWord_of_digits n.stands.digit
  have hfraction : ∀ ch ∈ Numeral.fractionText n.fraction, inWord ch = true := by
    unfold Numeral.fractionText
    split
    · exact nofun
    · simpa [inWord] using inWord_of_digits n.digit
  have hpower : ∀ ch ∈ Numeral.powerText n.power, inWord ch = true := by
    cases n.power with
    | none => exact nofun
    | some p =>
      have hdigits := inWord_of_digits p.digit
      have hsign : ∀ ch ∈ Document.Json.Power.signText p.sign, inWord ch = true := by
        rcases p.sign with _ | _ | _ <;> exact List.all_eq_true.1 rfl
      have hmark : inWord p.mark = true := by rcases p.marks with h | h <;> rw [h] <;> rfl
      simp only [Numeral.powerText, Document.Json.Power.text, List.mem_cons, List.mem_append,
        List.cons_append]
      rintro ch (rfl | hch | hch)
      · exact hmark
      · exact hsign ch hch
      · exact hdigits ch hch
  have hbody : ∀ ch ∈ n.body, inWord ch = true := by
    intro ch hch
    simp only [Numeral.body, List.mem_append] at hch
    rcases hch with (hch | hch) | hch
    · exact hwhole ch hch
    · exact hfraction ch hch
    · exact hpower ch hch
  unfold Numeral.text
  split
  · simpa [inWord] using hbody
  · exact hbody

theorem inWord_of_atom (a : Atom) : ∀ ch ∈ a.text, inWord ch = true := by
  cases a with
  | numeral n => exact inWord_of_numeral n
  | null | notANumber => exact List.all_eq_true.1 rfl
  | bool b | infinity b => cases b <;> exact List.all_eq_true.1 rfl

/-- Characters that mean something to the scanner, a minus apart. -/
def marks : List Char :=
  [' ', '\t', '\n', '\r', '\x85', '\u2028', '\u2029', '\x00', '%', '[', ']', '\x7b', '\x7d', ',',
    '?', ':', '*', '&', '!', '|', '>', '\'', '"', '#', '@', '\x60']

theorem notMem_marks (h : inWord ch = true) : ch ∉ marks := by
  have hmarks : marks.all (fun d => !inWord d) = true := rfl
  intro hch
  have hnot := List.all_eq_true.1 hmarks ch hch
  rw [h] at hnot
  cases hnot

theorem isBlankOrEnd_of_inWord (h : inWord ch = true) : isBlankOrEnd ch = false := by
  refine Bool.eq_false_iff.2 fun hends => notMem_marks h ?_
  simp [isBlankOrEnd, isSpaceOrEnd, isBreakOrEnd, isBreak, atEnd] at hends
  simp only [marks, List.mem_cons]
  tauto

theorem endsPlain_of_inWord (h : inWord ch = true) (after : Char) :
    endsPlain true ch after = false := by
  refine Bool.eq_false_iff.2 fun hends => notMem_marks h ?_
  simp [endsPlain, isBlankOrEnd_of_inWord h] at hends
  simp only [marks, List.mem_cons]
  tauto

theorem endsPlain_of_spacing (h : ch = ' ' ∨ ch = '\n') (after : Char) :
    endsPlain true ch after = true := by
  rcases h with rfl | rfl <;> rfl

theorem endsPlain_of_closes (h : ch ∈ [',', ']', '\x7d']) (after : Char) :
    endsPlain true ch after = true := by
  simp [endsPlain] at h ⊢
  tauto

theorem plainRun_eq (hall : ∀ ch ∈ cs, inWord ch = true)
    (hstop : ∀ ch ∈ more.head?, ∀ after, endsPlain true ch after = true) :
    plainRun true (cs ++ more) = cs := by
  induction cs with
  | nil =>
    cases more with
    | nil => rfl
    | cons ch more => simp [plainRun, hstop ch rfl]
  | cons ch cs ih =>
    have hch := endsPlain_of_inWord (hall ch (List.mem_cons_self ..))
    rw [List.cons_append, plainRun, hch, if_neg nofun,
      ih fun d hd => hall d (List.mem_cons_of_mem ch hd)]

/-- A place in blanks, or after them where a value ends. -/
theorem not_atDocumentMark_of_spacing {gap : List Char} (h : c.rest = gap ++ more)
    (hgap : IsSpacing gap) (hmore : Closes more) : c.atDocumentMark = false := by
  refine Cursor.not_atDocumentMark fun ch hch => ?_
  rw [h] at hch
  cases gap with
  | nil =>
    have := hmore.head ch hch
    constructor <;> (rintro rfl; simp at this)
  | cons d gap =>
    cases hch
    have := hgap ch (List.mem_cons_self ..)
    constructor <;> (rintro rfl; simp at this)

theorem not_isBreak_of_closes (hmore : Closes more) : ∀ ch ∈ more.head?, isBreak ch = false := by
  intro ch hch
  have hcases := hmore.head ch hch
  simp only [List.mem_cons, List.not_mem_nil, or_false] at hcases
  rcases hcases with rfl | rfl | rfl <;> rfl

theorem ne_space_of_closes (hmore : Closes more) : ∀ ch ∈ more.head?, ch ≠ ' ' := by
  intro ch hch
  have hcases := hmore.head ch hch
  rintro rfl
  simp at hcases

/-- What stands after spaces is no space. -/
theorem ne_space_of_rest {rest : List Char} (hmore : ∀ ch ∈ more.head?, ch ≠ ' ')
    (hrest : rest = [] ∨ ∃ after, rest = '\n' :: after ∧ IsSpacing after) :
    ∀ ch ∈ (rest ++ more).head?, decide (ch = ' ') = false := by
  intro ch hch
  rcases hrest with rfl | ⟨after, rfl, -⟩
  · exact decide_eq_false (hmore ch hch)
  · cases hch
    rfl

theorem peek_of_closes (hmore : Closes more) (h : c.rest = more) :
    c.peek ∈ [',', ']', '\x7d'] ∧ isBreak c.peek = false := by
  obtain ⟨ch, rest, rfl, hch⟩ := id hmore
  rw [Cursor.peek_eq h]
  exact ⟨hch, not_isBreak_of_closes hmore ch rfl⟩

/-- A line ends here, and the next one begins in blanks and with no mark of a document. -/
theorem next_of_feed {after : List Char} (h : c.rest = '\n' :: (after ++ more))
    (hspacing : IsSpacing after) (hmore : Closes more) :
    isBreak c.peek = true ∧ (c.skip 1).rest = after ++ more ∧
      (c.skip 1).atDocumentMark = false := by
  have hnext : (c.skip 1).rest = after ++ more := by
    rw [Cursor.rest_skip, h]
    rfl
  refine ⟨?_, hnext, not_atDocumentMark_of_spacing hnext hspacing hmore⟩
  rw [Cursor.peek_eq h]
  rfl

theorem plainBreaks_eq {gap : List Char} (hgap : IsSpacing gap) (hmore : Closes more)
    (h : c.rest = gap ++ more) (hsteps : gap.length < steps) :
    ∃ others, plainBreaks steps c = (some others, c.skip gap.length) := by
  induction steps generalizing gap c with
  | zero => cases hsteps
  | succ steps ih =>
    obtain ⟨spaces, rest, rfl, hspaces, hrest⟩ := hgap.cases
    rw [List.append_assoc] at h
    have hskip := Cursor.skipWhile_eq h (by simpa using hspaces)
      (ne_space_of_rest (ne_space_of_closes hmore) hrest)
    have hafter := Cursor.rest_skip_length h
    unfold plainBreaks
    simp only [hskip]
    rcases hrest with rfl | ⟨after, rfl, hspacing⟩
    · refine ⟨[], ?_⟩
      simp [(peek_of_closes hmore hafter).2]
    · obtain ⟨hpeek, hnext, hmark⟩ := next_of_feed hafter hspacing hmore
      simp only [List.length_append, List.length_cons] at hsteps
      obtain ⟨others, hothers⟩ := ih hspacing hnext (by omega)
      refine ⟨'\n' :: others, ?_⟩
      simp only [hpeek, if_true, Cursor.lineBreak_of_feed hafter, hmark, hothers]
      simp [← Cursor.skip_add, Nat.add_assoc, Nat.add_comm 1]

theorem plainBlanks_eq {gap : List Char} (hgap : IsSpacing gap) (hmore : Closes more)
    (h : c.rest = gap ++ more) (hsteps : gap.length < c.steps) :
    ∃ blanks ended, plainBlanks c = (blanks, ended, c.skip gap.length) := by
  obtain ⟨spaces, rest, rfl, hspaces, hrest⟩ := hgap.cases
  rw [List.append_assoc] at h
  have hspan := Cursor.span_eq h (by simpa using hspaces)
    (ne_space_of_rest (ne_space_of_closes hmore) hrest)
  have hafter := Cursor.rest_skip_length h
  unfold plainBlanks
  simp only [hspan]
  rcases hrest with rfl | ⟨after, rfl, hspacing⟩
  · refine ⟨spaces, false, ?_⟩
    simp [(peek_of_closes hmore hafter).2]
  · obtain ⟨hpeek, hnext, hmark⟩ := next_of_feed hafter hspacing hmore
    simp only [List.length_append, List.length_cons] at hsteps
    have hroom : after.length < ((c.skip spaces.length).skip 1).steps := by
      rw [Cursor.steps_skip, Cursor.steps_skip]
      omega
    obtain ⟨others, hothers⟩ := plainBreaks_eq hspacing hmore hnext hroom
    refine ⟨folded ['\n'] others, true, ?_⟩
    simp only [hpeek, if_true, Cursor.lineBreak_of_feed hafter, hmark, hothers]
    simp [← Cursor.skip_add, Nat.add_assoc, Nat.add_comm 1]

theorem chars_plain_of_closes (indent : Int) (hmore : Closes more) (h : c.rest = more) :
    (plain true indent steps c).chars = [] := by
  have hrun : plainRun true c.rest = [] := by
    rw [h, ← List.nil_append more]
    exact plainRun_eq nofun fun ch hch => endsPlain_of_closes (hmore.head ch hch)
  cases steps with
  | zero => rfl
  | succ steps => simp [plain, hrun]

/-- A plain scalar is a run of characters; the blanks after it are passed. -/
theorem plain_eq {gap : List Char} (indent : Int) (hall : ∀ ch ∈ cs, inWord ch = true)
    (hne : cs ≠ [])
    (hgap : IsSpacing gap) (hmore : Closes more) (h : c.rest = cs ++ (gap ++ more))
    (hsteps : gap.length < c.steps) :
    ∃ ended, plain true indent (steps + 1) c = ⟨cs, ended, c.skip (cs.length + gap.length)⟩ := by
  have hstop : ∀ ch ∈ (gap ++ more).head?, ∀ after, endsPlain true ch after = true := by
    intro ch hch
    cases gap with
    | nil => exact endsPlain_of_closes (hmore.head ch hch)
    | cons d gap =>
      cases hch
      exact endsPlain_of_spacing (hgap ch (List.mem_cons_self ..))
  have hpeek : c.peek ≠ '#' := by
    obtain ⟨ch, others, rfl⟩ := List.exists_cons_of_ne_nil hne
    rw [Cursor.peek_eq h]
    rintro rfl
    exact absurd (hall '#' (List.mem_cons_self ..)) (by decide)
  have hrun : plainRun true c.rest = cs := by rw [h, plainRun_eq hall hstop]
  have hafter := Cursor.rest_skip_length h
  obtain ⟨blanks, ended, hblanks⟩ := plainBlanks_eq hgap hmore hafter (by simpa using hsteps)
  have hend : ((c.skip cs.length).skip gap.length).rest = more := Cursor.rest_skip_length hafter
  have hnothing : (plain true indent steps _).chars = [] := chars_plain_of_closes indent hmore hend
  refine ⟨ended, ?_⟩
  unfold plain
  simp only [if_neg hpeek, hrun, hblanks, hnothing, List.isEmpty_iff, hne, if_false,
    Cursor.skip_add]
  split <;> rfl

end Scaffold.Yaml
