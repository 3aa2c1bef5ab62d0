import Mathlib.Data.List.Infix
import Scaffold.Document.Json

/-!
# Where the JSON reader gives up

The reader leaves a rest of its text. It gives up on a whole number only over that many digits in a
row, and on nesting only in a text with that many opening brackets; so a modest text is read, or it
is malformed.
-/
namespace Scaffold.Document.Json

open Number

def isOpening (c : Char) : Bool := c == '{' || c == '['

/-- A text has in it what a reader gives up on, with so many levels left to open. Other faults are
only of form. -/
def Warrants (levels : Nat) (cs : List Char) : Cause → Prop
  | .tooManyDigits count =>
    digitLimit < count ∧
      ∃ digits, digits <:+: cs ∧ digits.all isDigit = true ∧ digits.length = count
  | .tooDeep _ => levels < cs.countP isOpening
  | _ => True

theorem Warrants.mono {levels more : Nat} {cs ds : List Char} {cause : Cause}
    (h : Warrants levels cs cause) (hsuffix : cs <:+ ds)
    (hlevels : more + cs.countP isOpening ≤ levels + ds.countP isOpening) :
    Warrants more ds cause := by
  cases cause
  case tooManyDigits count =>
    obtain ⟨hcount, digits, hinfix, hdigits⟩ := h
    exact ⟨hcount, digits, hinfix.trans hsuffix.isInfix, hdigits⟩
  case tooDeep collection =>
    have hlt : levels < cs.countP isOpening := h
    change more < ds.countP isOpening
    omega
  all_goals trivial

/-- Reading leaves a rest of the text, or stops with a fault that the text warrants. -/
def Reads {α : Type} (levels : Nat) (cs : List Char) : Except Fault (α × List Char) → Prop
  | .ok (_, rest) => rest <:+ cs
  | .error f => Warrants levels cs f.cause

variable {α β : Type} {levels : Nat} {cs ds : List Char}

theorem Reads.mono {result : Except Fault (α × List Char)} (h : Reads levels cs result)
    (hsuffix : cs <:+ ds) : Reads levels ds result := by
  rcases result with f | ⟨a, rest⟩
  · have hcount : cs.countP isOpening ≤ ds.countP isOpening := hsuffix.sublist.countP_le
    exact Warrants.mono h hsuffix (by omega)
  · exact List.IsSuffix.trans h hsuffix

theorem Reads.bind {result : Except Fault (α × List Char)}
    {next : α × List Char → Except Fault (β × List Char)} (h : Reads levels cs result)
    (hnext : ∀ a rest, rest <:+ cs → Reads levels cs (next (a, rest))) :
    Reads levels cs (result >>= next) := by
  rcases result with f | ⟨a, rest⟩
  · exact h
  · exact hnext a rest h

theorem suffix_skipBlank (cs : List Char) : skipBlank cs <:+ cs := List.dropWhile_suffix isBlank

theorem suffix_of_skipBlank {c : Char} {after : List Char} (h : skipBlank cs = c :: after) :
    after <:+ cs :=
  (List.suffix_cons c after).trans (h ▸ suffix_skipBlank cs)

/-! ## Strings -/

theorem reads_prepend {l : Letter} {result : Except Fault (List Letter × List Char)}
    (h : Reads levels cs result) : Reads levels cs (prepend l result) := by
  rcases result with f | ⟨a, rest⟩
  · exact h
  · exact h

theorem reads_string (opening cs : List Char) : Reads levels cs (string opening cs) := by
  fun_induction string opening cs
  case case2 => exact List.suffix_cons _ _
  case case6 ih | case7 ih | case8 ih | case10 ih | case12 ih | case15 ih =>
    refine reads_prepend (ih.mono ?_)
    simp [List.suffix_cons_iff]
  all_goals trivial

/-! ## Numbers -/

theorem wholePart_eq_some {whole rest : List Char} (h : wholePart cs = some (whole, rest)) :
    cs = whole ++ rest ∧ whole.all isDigit = true := by
  unfold wholePart at h
  split at h
  · cases h
    exact ⟨rfl, by decide⟩
  · split at h
    · cases h
    · simp only [Option.some.injEq, List.span_eq_takeWhile_dropWhile, Prod.mk.injEq] at h
      obtain ⟨rfl, rfl⟩ := h
      exact ⟨List.takeWhile_append_dropWhile.symm, List.all_takeWhile⟩

theorem suffix_fractionPart (cs : List Char) : (fractionPart cs).2 <:+ cs := by
  unfold fractionPart
  split
  · next rest =>
    split
    · exact List.suffix_rfl
    · rw [List.span_eq_takeWhile_dropWhile]
      exact (List.dropWhile_suffix isDigit).trans (List.suffix_cons _ _)
  · exact List.suffix_rfl

theorem suffix_of_span {digits rest : List Char} (h : cs.span isDigit = (digits, rest)) :
    rest <:+ cs := by
  rw [List.span_eq_takeWhile_dropWhile, Prod.mk.injEq] at h
  exact h.2 ▸ List.dropWhile_suffix isDigit

theorem suffix_of_powerPart {power : Int} {rest : List Char}
    (h : powerPart? cs = some (power, rest)) : rest <:+ cs := by
  unfold powerPart? at h
  extract_lets signed at h
  have hsigned {negative : Bool} {ds : List Char}
      (hread : signed negative ds = some (power, rest)) :
      rest <:+ ds := by
    simp only [signed] at hread
    split at hread
    · cases hread
    · next hspan =>
      simp only [Option.some.injEq, Prod.mk.injEq] at hread
      exact hread.2 ▸ suffix_of_span hspan
  split at h
  · split at h
    · exact (hsigned h).trans (by simp [List.suffix_cons_iff])
    · cases h
  · split at h
    · exact (hsigned h).trans (by simp [List.suffix_cons_iff])
    · cases h
  · split at h
    · exact (hsigned h).trans (List.suffix_cons _ _)
    · cases h
  · cases h

theorem suffix_of_number {negative : Bool} {d : Document} {rest : List Char}
    (h : number? negative cs = some (d, rest)) : rest <:+ cs := by
  unfold number? at h
  obtain ⟨⟨whole, after⟩, hwhole, hnumber⟩ := Option.map_eq_some_iff.1 h
  have hafter : after <:+ cs := ⟨whole, (wholePart_eq_some hwhole).1.symm⟩
  have hfraction := (suffix_fractionPart after).trans hafter
  dsimp only at hnumber
  split at hnumber
  · next hpower =>
    cases hnumber
    exact (suffix_of_powerPart hpower).trans hfraction
  · split at hnumber
    · cases hnumber
      exact hfraction
    · cases hnumber
      exact hfraction

theorem suffix_of_atom {d : Document} {rest : List Char} (h : atom? cs = some (d, rest)) :
    rest <:+ cs := by
  unfold atom? at h
  split at h
  case h_7 => exact (suffix_of_number h).trans (List.suffix_cons _ _)
  case h_8 => exact suffix_of_number h
  all_goals
    cases h
    simp [List.suffix_cons_iff]

theorem warrants_of_excess (levels : Nat) {count : Nat} (h : excess? cs = some count) :
    Warrants levels cs (.tooManyDigits count) := by
  unfold excess? at h
  extract_lets body at h
  obtain ⟨⟨whole, after⟩, hwhole, hcount⟩ := Option.bind_eq_some_iff.1 h
  obtain ⟨hbody, hdigits⟩ := wholePart_eq_some hwhole
  have hsuffix : body <:+ cs := by
    subst body
    split
    · exact List.suffix_cons _ _
    · exact List.suffix_rfl
  dsimp only at hcount
  split at hcount
  · next hmany =>
    simp only [Bool.and_eq_true, decide_eq_true_eq] at hmany
    cases hcount
    refine ⟨hmany.2, whole, ?_, hdigits, rfl⟩
    exact (hbody ▸ List.prefix_append whole after).isInfix.trans hsuffix.isInfix
  · cases hcount

/-! ## Values -/

/-- A collection spends a level on the character that opens it. -/
theorem Reads.open {α : Type} {c : Char} {rest : List Char}
    {result : Except Fault (α × List Char)} (h : Reads levels rest result)
    (hc : isOpening c = true) : Reads (levels + 1) (c :: rest) result := by
  rcases result with f | ⟨a, left⟩
  · refine Warrants.mono h (List.suffix_cons c rest) ?_
    rw [List.countP_cons_of_pos hc]
    omega
  · exact List.IsSuffix.trans h (List.suffix_cons c rest)

variable {steps : Nat}

theorem reads_value_succ
    (hmembers : ∀ levels cs, Reads levels cs (members steps levels cs))
    (hitems : ∀ levels cs, Reads levels cs (items steps levels cs)) (levels : Nat)
    (cs : List Char) : Reads levels cs (value (steps + 1) levels cs) := by
  unfold value
  split
  · next rest =>
    refine .bind ((reads_string _ rest).mono (List.suffix_cons _ _)) fun s left hleft => ?_
    exact hleft
  · next rest =>
    split
    -- No level is left, whether the collection is empty or not: the opening character counts.
    · rw [Reads, Warrants, List.countP_cons_of_pos rfl]
      omega
    · next hclose => exact (suffix_of_skipBlank hclose).trans (List.suffix_cons _ _)
    · have hinner (levels : Nat) :=
        (hmembers levels (skipBlank rest)).mono (suffix_skipBlank rest)
      exact .bind ((hinner _).open rfl) fun _ _ hleft => hleft
  · next rest =>
    split
    · rw [Reads, Warrants, List.countP_cons_of_pos rfl]
      omega
    · next hclose => exact (suffix_of_skipBlank hclose).trans (List.suffix_cons _ _)
    · have hinner (levels : Nat) :=
        (hitems levels (skipBlank rest)).mono (suffix_skipBlank rest)
      exact .bind ((hinner _).open rfl) fun _ _ hleft => hleft
  · split
    · next hexcess => exact warrants_of_excess levels hexcess
    · next hatom => exact suffix_of_atom hatom
    · trivial

theorem reads_members_succ
    (hvalue : ∀ levels cs, Reads levels cs (value steps levels cs))
    (hmembers : ∀ levels cs, Reads levels cs (members steps levels cs)) (levels : Nat)
    (cs : List Char) : Reads levels cs (members (steps + 1) levels cs) := by
  unfold members
  split
  · next rest =>
    refine .bind ((reads_string _ rest).mono (List.suffix_cons _ _)) fun name left hleft => ?_
    dsimp only
    split
    · next after hcolon =>
      have hafter := (suffix_of_skipBlank hcolon).trans hleft
      refine .bind ((hvalue levels _).mono ((suffix_skipBlank after).trans hafter)) ?_
      intro v left hleft
      dsimp only
      split
      · next hclose => exact (suffix_of_skipBlank hclose).trans hleft
      · next after hcomma =>
        have hafter := (suffix_of_skipBlank hcomma).trans hleft
        have hothers := (hmembers levels _).mono ((suffix_skipBlank after).trans hafter)
        exact .bind hothers fun _ _ hleft => hleft
      · trivial
    · trivial
  · trivial

theorem reads_items_succ
    (hvalue : ∀ levels cs, Reads levels cs (value steps levels cs))
    (hitems : ∀ levels cs, Reads levels cs (items steps levels cs)) (levels : Nat)
    (cs : List Char) : Reads levels cs (items (steps + 1) levels cs) := by
  unfold items
  refine .bind (hvalue levels cs) fun v left hleft => ?_
  dsimp only
  split
  · next hclose => exact (suffix_of_skipBlank hclose).trans hleft
  · next after hcomma =>
    have hafter := (suffix_of_skipBlank hcomma).trans hleft
    have hothers := (hitems levels _).mono ((suffix_skipBlank after).trans hafter)
    exact .bind hothers fun _ _ hleft => hleft
  · trivial

/-- Values, members and items are read alike, by induction on the steps that they share. -/
theorem reads_steps (steps : Nat) :
    (∀ levels cs, Reads levels cs (value steps levels cs)) ∧
    (∀ levels cs, Reads levels cs (members steps levels cs)) ∧
    ∀ levels cs, Reads levels cs (items steps levels cs) := by
  induction steps with
  | zero => exact ⟨fun _ _ => trivial, fun _ _ => trivial, fun _ _ => trivial⟩
  | succ steps ih =>
    obtain ⟨hvalue, hmembers, hitems⟩ := ih
    exact ⟨reads_value_succ hmembers hitems, reads_members_succ hvalue hmembers,
      reads_items_succ hvalue hitems⟩

theorem warrants_of_wholeText {f : Fault} (h : wholeText cs = .error f) :
    Warrants nestingLimit cs f.cause := by
  unfold wholeText at h
  split at h
  · cases h
    trivial
  · have hvalue := ((reads_steps (2 * cs.length + 2)).1 nestingLimit (skipBlank cs)).mono
      (suffix_skipBlank cs)
    rcases hread : value (2 * cs.length + 2) nestingLimit (skipBlank cs) with g | ⟨v, rest⟩
    · rw [hread] at h hvalue
      cases h
      exact hvalue
    · rw [hread] at h
      dsimp only [bind, Except.bind] at h
      split at h
      · cases h
      · cases h
        trivial

/-- A text that is no JSON warrants what is said of it. -/
theorem warrants_of_parse {s : String} {e : Error} (h : parse s = .error e) :
    Warrants nestingLimit s.toList e.cause := by
  unfold parse at h
  dsimp only at h
  split at h
  · cases h
  · next f hf =>
    cases h
    exact warrants_of_wholeText hf

end Scaffold.Document.Json
