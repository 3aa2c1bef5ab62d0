import Mathlib.Logic.Function.Basic
import Scaffold.Artifact.Migration
import Scaffold.Artifact.Script

/-!
# Literals can be read back

A literal ends where its closing quote stands, since every quote within it is marked: in SQL by a
second quote, in a script by a backslash. So a list of literals determines the texts, one by one.
-/
namespace Scaffold.Text.Literal

/-- A way of writing the characters between the quotes: each can be told from what follows it, and
none looks like a closing quote that has no other quote behind it. -/
structure Code (code : Char → List Char) : Prop where
  cancel : ∀ c d xs ys, code c ++ xs = code d ++ ys → c = d ∧ xs = ys
  within : ∀ c xs rest, rest.head? ≠ some '\'' → code c ++ xs ≠ '\'' :: rest

/-- A text between quotes. -/
def enclosed (code : Char → List Char) (s : String) : String :=
  String.ofList ('\'' :: s.toList.flatMap code ++ ['\''])

/-- Texts between quotes, with a separator between them. -/
def joined (separator : String) (code : Char → List Char) (values : List String) : String :=
  separator.intercalate (values.map (enclosed code))

namespace Code

variable {code : Char → List Char}

theorem read_back (h : Code code) {cs ds rest rest' : List Char} (hrest : rest.head? ≠ some '\'')
    (hrest' : rest'.head? ≠ some '\'')
    (heq : cs.flatMap code ++ '\'' :: rest = ds.flatMap code ++ '\'' :: rest') :
    cs = ds ∧ rest = rest' := by
  induction cs generalizing ds with
  | nil =>
    cases ds with
    | nil => exact ⟨rfl, by simpa using heq⟩
    | cons d ds =>
      rw [List.flatMap_cons, List.append_assoc] at heq
      exact absurd heq.symm (h.within d _ rest hrest)
  | cons c cs ih =>
    rw [List.flatMap_cons, List.append_assoc] at heq
    cases ds with
    | nil => exact absurd heq (h.within c _ rest' hrest')
    | cons d ds =>
      rw [List.flatMap_cons, List.append_assoc] at heq
      obtain ⟨rfl, hmore⟩ := h.cancel c d _ _ heq
      obtain ⟨rfl, hrests⟩ := ih hmore
      exact ⟨rfl, hrests⟩

/-- What follows the first literal of some. -/
def following (separator : List Char) (code : Char → List Char) : List String → List Char
  | [] => []
  | s :: rest =>
    separator ++ '\'' :: (s.toList.flatMap code ++ '\'' :: following separator code rest)

theorem toList_joined_cons (separator : String) (code : Char → List Char) (s : String)
    (rest : List String) : (joined separator code (s :: rest)).toList =
      '\'' :: (s.toList.flatMap code ++ '\'' :: following separator.toList code rest) := by
  induction rest generalizing s with
  | nil => simp [following, joined, enclosed]
  | cons t rest ih =>
    rw [joined, List.map_cons, List.map_cons, String.intercalate_cons_cons, ← List.map_cons,
      ← joined, String.toList_append, ih]
    simp [following, enclosed]

theorem head?_following {separator : List Char} (hseparator : separator ≠ [])
    (hhead : separator.head? ≠ some '\'') (code : Char → List Char) (rest : List String) :
    (following separator code rest).head? ≠ some '\'' := by
  cases rest with
  | nil => simp [following]
  | cons s rest =>
    cases separator with
    | nil => exact absurd rfl hseparator
    | cons c separator => exact hhead

theorem following_injective (h : Code code) {separator : List Char} (hseparator : separator ≠ [])
    (hhead : separator.head? ≠ some '\'') : Function.Injective (following separator code) := by
  intro vs
  induction vs with
  | nil =>
    intro ws heq
    cases ws with
    | nil => rfl
    | cons w ws => simp [following] at heq
  | cons v vs ih =>
    intro ws heq
    cases ws with
    | nil => simp [following] at heq
    | cons w ws =>
      have hliterals := List.append_cancel_left heq
      obtain ⟨hv, hfollowing⟩ := h.read_back (head?_following hseparator hhead code vs)
        (head?_following hseparator hhead code ws) (List.cons.inj hliterals).2
      rw [String.toList_inj.1 hv, ih hfollowing]

/-- Literals are told apart where what is between them does not begin like one. -/
theorem joined_injective (h : Code code) {separator : String} (hseparator : separator.toList ≠ [])
    (hhead : separator.toList.head? ≠ some '\'') : Function.Injective (joined separator code) := by
  have hnil (w : String) (ws : List String) :
      joined separator code [] ≠ joined separator code (w :: ws) := by
    intro heq
    have hchars := congrArg String.toList heq
    rw [toList_joined_cons] at hchars
    cases hchars
  intro vs ws heq
  cases vs with
  | nil =>
    cases ws with
    | nil => rfl
    | cons w ws => exact absurd heq (hnil w ws)
  | cons v vs =>
    cases ws with
    | nil => exact absurd heq.symm (hnil v vs)
    | cons w ws =>
      have hchars := congrArg String.toList heq
      rw [toList_joined_cons, toList_joined_cons] at hchars
      exact h.following_injective hseparator hhead (congrArg (separator.toList ++ ·) hchars)

end Code

/-! ## SQL and scripts -/

def sqlCode (c : Char) : List Char := if c = '\'' then ['\'', '\''] else [c]

def scriptCode (c : Char) : List Char := if c = '\\' ∨ c = '\'' then ['\\', c] else [c]

theorem sqlBody_eq (cs : List Char) : sqlBody cs = cs.flatMap sqlCode := by
  induction cs with
  | nil => rfl
  | cons c rest ih => rw [sqlBody, ih, List.flatMap_cons, sqlCode]

theorem scriptBody_eq (cs : List Char) : scriptBody cs = cs.flatMap scriptCode := by
  induction cs with
  | nil => rfl
  | cons c rest ih => rw [scriptBody, ih, List.flatMap_cons, scriptCode]

theorem code_sqlCode : Code sqlCode where
  cancel c d xs ys heq := by
    by_cases hc : c = '\''
    · by_cases hd : d = '\''
      · simpa [sqlCode, hc, hd] using heq
      · simp only [sqlCode, if_pos hc, if_neg hd, List.cons_append, List.cons.injEq] at heq
        exact absurd heq.1.symm hd
    · by_cases hd : d = '\''
      · simp only [sqlCode, if_neg hc, if_pos hd, List.cons_append, List.cons.injEq] at heq
        exact absurd heq.1 hc
      · simpa [sqlCode, hc, hd] using heq
  within c xs rest hrest heq := by
    by_cases hc : c = '\''
    · simp only [sqlCode, hc, if_true, List.cons_append, List.cons.injEq, true_and] at heq
      rw [← heq] at hrest
      exact hrest rfl
    · simp [sqlCode, hc] at heq

theorem code_scriptCode : Code scriptCode where
  cancel c d xs ys heq := by
    by_cases hc : c = '\\' ∨ c = '\''
    · by_cases hd : d = '\\' ∨ d = '\''
      · simpa [scriptCode, hc, hd] using heq
      · simp only [scriptCode, if_pos hc, if_neg hd, List.cons_append, List.cons.injEq] at heq
        exact absurd (.inl heq.1.symm) hd
    · by_cases hd : d = '\\' ∨ d = '\''
      · simp only [scriptCode, if_neg hc, if_pos hd, List.cons_append, List.cons.injEq] at heq
        exact absurd (.inl heq.1) hc
      · simpa [scriptCode, hc, hd] using heq
  within c xs rest hrest heq := by
    by_cases hc : c = '\\' ∨ c = '\''
    · simp [scriptCode, hc] at heq
    · simp only [scriptCode, if_neg hc, List.cons_append, List.cons.injEq] at heq
      exact hc (.inr heq.1)

theorem sql_eq : sql = enclosed sqlCode := by
  funext s
  rw [sql, sqlBody_eq, enclosed]

theorem script_eq : script = enclosed scriptCode := by
  funext s
  rw [script, scriptBody_eq, enclosed]

/-- A list of SQL values determines the values. -/
theorem valueList_injective : Function.Injective Artifact.Migration.valueList := by
  have heq : Artifact.Migration.valueList = joined ", " sqlCode := by
    funext values
    rw [Artifact.Migration.valueList, sql_eq, joined]
  rw [heq]
  exact code_sqlCode.joined_injective (by decide) (by decide)

/-- A list of strings in a script determines the strings. -/
theorem literalList_injective : Function.Injective Script.literalList := by
  have heq : Script.literalList = joined ", " scriptCode := by
    funext values
    rw [Script.literalList, script_eq, joined]
  rw [heq]
  exact code_scriptCode.joined_injective (by decide) (by decide)

/-- A union of strings in a script determines the strings. -/
theorem literalUnion_injective : Function.Injective Script.literalUnion := by
  have heq : Script.literalUnion = joined " | " scriptCode := by
    funext values
    rw [Script.literalUnion, script_eq, joined]
  rw [heq]
  exact code_scriptCode.joined_injective (by decide) (by decide)

end Scaffold.Text.Literal
