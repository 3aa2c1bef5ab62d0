import Scaffold.Artifact.Validation

/-!
# Values that are not there

A validator takes a missing value or null if it is wrapped for it. A wrapper shows at the end of the
text of a validator, and no validator of a field ends like one by itself, whatever its values and
rules are.
-/
namespace Scaffold

open Number Text

inductive Absence
  | missing
  | null
deriving DecidableEq, Repr

/-- What stands behind a validator that takes an absence. -/
def Absence.wrapper : Absence → String
  | .missing => ".optional()"
  | .null => ".nullable()"

/-- Validators that take an absence without being wrapped for it. -/
def takers : List (String × Absence) := [
  ("z.any()", .missing), ("z.any()", .null), ("z.unknown()", .missing), ("z.unknown()", .null),
  ("z.undefined()", .missing), ("z.null()", .null)]

/-- Whether a validator takes a value that is not there. A wrapper takes one kind of absence, and
leaves the other to what it is around. -/
inductive Admits : String → Absence → Prop
  | bare {v : String} {a : Absence} (h : (v, a) ∈ takers) : Admits v a
  | wrapped (v : String) (a : Absence) : Admits (v ++ a.wrapper) a
  | inside {v : String} {a : Absence} (b : Absence) (h : Admits v a) : Admits (v ++ b.wrapper) a

namespace Absence

theorem length_wrapper (a : Absence) : a.wrapper.toList.length = 11 := by
  cases a <;> decide

theorem eq_of_append_wrapper {v w : String} {a b : Absence}
    (h : v ++ a.wrapper = w ++ b.wrapper) : v = w ∧ a = b := by
  have hlists := congrArg String.toList h
  rw [String.toList_append, String.toList_append] at hlists
  obtain ⟨hv, hwrapper⟩ := List.append_inj' hlists (by rw [length_wrapper, length_wrapper])
  refine ⟨String.toList_inj.1 hv, ?_⟩
  cases a <;> cases b <;> first | rfl | exact absurd hwrapper (by decide)

/-- A wrapper takes its absence; the others are up to what it is around. -/
theorem admits_wrapper_iff {v : String} {a b : Absence} :
    Admits (v ++ b.wrapper) a ↔ a = b ∨ Admits v a := by
  constructor
  · generalize htext : v ++ b.wrapper = text
    have hsuffix : b.wrapper.toList <:+ text.toList := by
      rw [← htext, String.toList_append]
      exact List.suffix_append _ _
    have htakers : ∀ taker ∈ takers, ¬ b.wrapper.toList <:+ taker.1.toList := by
      cases b <;> decide
    intro h
    cases h with
    | bare h => exact absurd hsuffix (htakers _ h)
    | wrapped w => exact .inl (eq_of_append_wrapper htext).2.symm
    | inside c h =>
      rw [(eq_of_append_wrapper htext).1]
      exact .inr h
  · rintro (rfl | h)
    · exact .wrapped v a
    · exact .inside b h

end Absence

/-! ## Validators that take no absence -/

/-- How a validator that takes an absence can end. -/
def openEndings : List String := ["ny()", "wn()", "ed()", "ll()", "al()", "le()"]

/-- A validator does not end like one that takes an absence. -/
def Bare (v : String) : Prop := ∀ ending ∈ openEndings, ¬ ending.toList <:+ v.toList

instance (v : String) : Decidable (Bare v) := by
  unfold Bare
  infer_instance

theorem not_admits_of_bare {v : String} (h : Bare v) (a : Absence) : ¬ Admits v a := by
  have hwrapped (v : String) (a : Absence) : ¬ Bare (v ++ a.wrapper) := by
    have hending : ∃ ending ∈ openEndings, ending.toList <:+ a.wrapper.toList := by
      cases a <;> decide
    obtain ⟨ending, hopen, hsuffix⟩ := hending
    intro hbare
    refine hbare ending hopen ?_
    rw [String.toList_append]
    exact hsuffix.trans (List.suffix_append _ _)
  have htakers : ∀ taker ∈ takers, ¬ Bare taker.1 := by decide
  intro hadmits
  cases hadmits with
  | bare htaker => exact htakers _ htaker h
  | wrapped | inside => exact hwrapped _ _ h

/-- Long endings decide. -/
theorem Bare.append {v : String} (h : Bare v) (hlong : 4 ≤ v.toList.length) (before : String) :
    Bare (before ++ v) := by
  intro ending hending hsuffix
  rw [String.toList_append] at hsuffix
  have hshort : ending.toList.length ≤ v.toList.length := by
    have hfour : ∀ ending ∈ openEndings, ending.toList.length = 4 := by decide
    rw [hfour ending hending]
    exact hlong
  exact h ending hending (List.suffix_of_suffix_length_le hsuffix (List.suffix_append _ _) hshort)

/-! ## Calls -/

/-- A text that does not end in an opening parenthesis. -/
def Closed (s : String) : Prop := s.toList.getLast? ≠ some '('

theorem closed_of_notMem {s : String} (h : '(' ∉ s.toList) : Closed s :=
  fun hlast => h (List.mem_of_getLast? hlast)

instance (s : String) : Decidable (Closed s) :=
  inferInstanceAs (Decidable (_ ≠ _))

theorem Closed.append {t : String} (h : Closed t) (hne : t.toList ≠ []) (s : String) :
    Closed (s ++ t) := by
  obtain ⟨c, hlast⟩ := Option.ne_none_iff_exists'.1 (mt List.getLast?_eq_none_iff.1 hne)
  rw [Closed, hlast] at h
  rw [Closed, String.toList_append, List.getLast?_append, hlast]
  exact h

/-- What is in the parentheses tells a call from a wrapper, unless there is nothing in them. -/
theorem bare_parenthesized (before : String) {argument : String} (h : Closed argument)
    (hempty : argument = "" → Bare (before ++ "(" ++ ")")) :
    Bare (before ++ "(" ++ argument ++ ")") := by
  rcases List.eq_nil_or_concat argument.toList with hnil | ⟨most, c, hlast⟩
  · have hargument : argument = "" := String.toList_inj.1 hnil
    rw [hargument, String.append_empty]
    exact hempty hargument
  · have hc : c ≠ '(' := by
      intro hc
      refine h ?_
      rw [hlast, hc, List.concat_eq_append, List.getLast?_concat]
    -- All open endings have an empty pair of parentheses; this call has `c` before the last one.
    intro ending hending hsuffix
    have hcall : ['(', ')'] <:+ ending.toList := by
      have hall : ∀ ending ∈ openEndings, ['(', ')'] <:+ ending.toList := by decide
      exact hall ending hending
    have hend : [c, ')'] <:+ (before ++ "(" ++ argument ++ ")").toList := by
      refine ⟨(before ++ "(").toList ++ most, ?_⟩
      simp [hlast]
    have hboth := List.suffix_of_suffix_length_le (hcall.trans hsuffix) hend (Nat.le_refl 2)
    have hsame := hboth.eq_of_length rfl
    exact hc (List.cons.inj hsame).1.symm

/-- Rules that may follow a validator: there are none, or they do not end like a wrapper. -/
def Harmless (rules : String) : Prop := rules = "" ∨ ∀ before, Bare (before ++ rules)

namespace Harmless

theorem append {rules more : String} (h : Harmless rules) (h' : Harmless more) :
    Harmless (rules ++ more) := by
  rcases h' with rfl | hmore
  · rwa [String.append_empty]
  · refine .inr fun before => ?_
    rw [← String.append_assoc]
    exact hmore (before ++ rules)

theorem bare {rules v : String} (h : Harmless rules) (hv : Bare v) : Bare (v ++ rules) := by
  rcases h with rfl | hrules
  · rwa [String.append_empty]
  · exact hrules v

theorem onlyIf (b : Bool) {rule : String} (hrule : Bare rule) (hlong : 4 ≤ rule.toList.length) :
    Harmless (onlyIf b rule) := by
  cases b with
  | false => exact .inl rfl
  | true => exact .inr (hrule.append hlong)

theorem call {name : String} (hname : Bare ("." ++ name ++ "(" ++ ")"))
    (hlong : 4 ≤ ("." ++ name ++ "(" ++ ")").toList.length) {argument : Option String}
    (h : ∀ a, argument = some a → Closed a) : Harmless (Field.call name argument) := by
  cases argument with
  | none => exact .inl rfl
  | some a =>
    refine .inr fun before => ?_
    have hbare := bare_parenthesized (before ++ ("." ++ name)) (h a rfl) ?_
    · simpa only [Field.call, String.append_assoc] using hbare
    · intro _
      simpa only [String.append_assoc] using hname.append hlong before

end Harmless

/-! ## Numbers -/

theorem paren_notMem_digits (n : Nat) : '(' ∉ (toString n).toList := by
  intro h
  cases isDigit_of_mem_numeral h

theorem paren_notMem_int (i : Int) : '(' ∉ (toString i).toList := by
  cases i with
  | ofNat n => exact paren_notMem_digits n
  | negSucc n =>
    have hminus : toString (Int.negSucc n) = "-" ++ toString (n + 1) := rfl
    rw [hminus, String.toList_append, List.mem_append, not_or]
    exact ⟨by decide, paren_notMem_digits (n + 1)⟩

theorem paren_notMem_zeroPadded (width n : Nat) : '(' ∉ (zeroPadded width n).toList := by
  intro h
  cases isDigit_of_mem_zeroPadded h

theorem paren_notMem_trimZeros (n : Nat) : '(' ∉ trimZeros (toString n).toList := by
  intro h
  rw [trimZeros, List.mem_reverse] at h
  have hmem := (List.dropWhile_sublist _).subset h
  rw [List.mem_reverse] at hmem
  exact paren_notMem_digits n hmem

theorem paren_notMem_digitString (d : DigitString) : '(' ∉ d.text.toList := by
  have hcs := paren_notMem_trimZeros d.digits
  unfold DigitString.text
  generalize trimZeros (toString d.digits).toList = cs at hcs
  dsimp only
  split
  · simp only [String.toList_append, List.mem_append, not_or]
    refine ⟨⟨⟨?_, by decide⟩, ?_⟩, paren_notMem_zeroPadded _ _⟩
    · rcases cs with _ | ⟨first, _ | ⟨second, rest⟩⟩
      · decide
      · simpa using hcs
      · simpa using hcs
    · split <;> decide
  · split
    · simpa using hcs
    · split
      · simpa using hcs
      · have htake : '(' ∉ cs.take d.point.toNat := fun h => hcs (List.mem_of_mem_take h)
        have hdrop : '(' ∉ cs.drop d.point.toNat := fun h => hcs (List.mem_of_mem_drop h)
        simpa using ⟨htake, hdrop⟩

theorem paren_notMem_signMark (negative : Bool) : '(' ∉ (signMark negative).toList := by
  cases negative <;> decide

theorem paren_notMem_shortest (x : Binary64) : '(' ∉ x.shortest.toList := by
  unfold Binary64.shortest
  split
  · decide
  · rw [String.toList_append, List.mem_append, not_or]
    exact ⟨paren_notMem_signMark _, by decide⟩
  · split
    · split
      · rw [String.toList_append, List.mem_append, not_or]
        exact ⟨paren_notMem_signMark _, by decide⟩
      · dsimp only
        rw [String.toList_append, List.mem_append, not_or]
        exact ⟨paren_notMem_signMark _, paren_notMem_digitString _⟩
    · decide

theorem closed_wholeOrShortest (x : Binary64) : Closed x.wholeOrShortest := by
  unfold Binary64.wholeOrShortest
  split
  · exact closed_of_notMem (paren_notMem_int _)
  · exact closed_of_notMem (paren_notMem_shortest x)

/-! ## The validators of fields -/

namespace Field

theorem harmless_textRules (r : Rules) : Harmless (textRules r) := by
  have hbound {n : Option Nat} (a : String) (h : n.map toString = some a) : Closed a := by
    obtain ⟨n, _, rfl⟩ := Option.map_eq_some_iff.1 h
    exact closed_of_notMem (paren_notMem_digits n)
  have hmin : Harmless (call "min" (r.minLength.map toString)) :=
    .call (by decide) (by decide) hbound
  have hmax : Harmless (call "max" (r.maxLength.map toString)) :=
    .call (by decide) (by decide) hbound
  have hemail : Harmless (onlyIf r.email ".email()") := .onlyIf _ (by decide) (by decide)
  have hurl : Harmless (onlyIf r.url ".url()") := .onlyIf _ (by decide) (by decide)
  refine (((hmin.append hmax).append hemail).append hurl).append ?_
  refine .call (by decide) (by decide) fun a ha => ?_
  obtain ⟨p, _, rfl⟩ := Option.map_eq_some_iff.1 ha
  have hparen : Closed ")" := by decide
  exact hparen.append (by decide) _

theorem harmless_numberRules (r : Rules) : Harmless (numberRules r) := by
  have hbound {x : Option Binary64} (a : String) (h : x.map Binary64.wholeOrShortest = some a) :
      Closed a := by
    obtain ⟨x, _, rfl⟩ := Option.map_eq_some_iff.1 h
    exact closed_wholeOrShortest x
  exact .append (.call (by decide) (by decide) hbound) (.call (by decide) (by decide) hbound)

theorem harmless_getD (rules : Rules → String) (h : ∀ r, Harmless (rules r)) (r : Option Rules) :
    Harmless ((r.map rules).getD "") := by
  cases r with
  | none => exact .inl rfl
  | some r => exact h r

/-- No validator of a field is wrapped, whatever its values and rules are. -/
theorem bare_validator (f : Field) : Bare f.validator := by
  unfold validator
  split
  · generalize ", ".intercalate (f.values.map Literal.script) = values
    have hbracket : Closed "]" := by decide
    have hclosed := hbracket.append (by decide) ("[" ++ values)
    have htext : "z.enum([" ++ values ++ "])" =
        "z.enum" ++ "(" ++ ("[" ++ values ++ "]") ++ ")" := by
      rw [← String.toList_inj]
      simp
    rw [htext]
    exact bare_parenthesized "z.enum" hclosed fun _ => by decide
  · have hclosed : Closed f.elementType.toFieldType.validator := by
      generalize f.elementType = type
      cases type <;> decide
    exact bare_parenthesized "z.array" hclosed fun _ => by decide
  · exact (harmless_getD textRules harmless_textRules _).bare (by decide)
  · exact (harmless_getD numberRules harmless_numberRules _).bare (by decide)
  · exact (harmless_getD numberRules harmless_numberRules _).bare (by decide)
  · generalize f.type = type
    cases type <;> decide

end Field

namespace Artifact.Validation

/-- What stands behind a key. -/
def Entry.expression (e : Entry) : String :=
  e.validator ++ onlyIf e.optional Absence.missing.wrapper ++ onlyIf e.nullable Absence.null.wrapper

theorem Entry.line_eq (e : Entry) : "  " ++ e.key ++ ": " ++ e.expression ++ "," = e.line := by
  rw [line, expression, Absence.wrapper, Absence.wrapper]
  simp only [String.append_assoc]

theorem admits_onlyIf_iff {v : String} {a b : Absence} {wrapped : Bool} :
    Admits (v ++ onlyIf wrapped b.wrapper) a ↔ (wrapped = true ∧ a = b) ∨ Admits v a := by
  cases wrapped with
  | false =>
    have hplain : v ++ onlyIf false b.wrapper = v := String.append_empty
    rw [hplain]
    simp
  | true =>
    have hwrapped : onlyIf true b.wrapper = b.wrapper := rfl
    rw [hwrapped, Absence.admits_wrapper_iff]
    simp

/-- A key that is bare but for its wrappers takes what it is wrapped for. -/
theorem Entry.admits_expression_iff {e : Entry} (h : Bare e.validator) :
    (Admits e.expression .missing ↔ e.optional = true) ∧
      (Admits e.expression .null ↔ e.nullable = true) := by
  simp [expression, admits_onlyIf_iff, not_admits_of_bare h]

end Artifact.Validation
end Scaffold
