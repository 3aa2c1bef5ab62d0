import Mathlib.Data.List.Forall2
import Scaffold.Artifact.AdminPage
import Scaffold.Proofs.Hexadecimal
import Scaffold.Proofs.Notation

/-!
# Examples on the admin page

The page has the examples of the documentation as JSON strings, with all that could end a script, an
attribute or a line written by its number. Each character is one piece of the notation of JSON, and
no piece is half of a pair, so the reader of JSON takes the pieces one by one and finds every title
and every code as it was declared.
-/
namespace Scaffold

open Artifact Text

/-! ## Pieces are read one by one -/

namespace Document.Json

variable {more : List Char}

/-- Two units in a row may make a pair; a unit that cannot be the first of one stands for itself. -/
theorem string_unit (digits : HexDigits) (hwhole : isHighUnit digits.number = false)
    (hmore : more ≠ []) (opening : List Char) :
    string opening (Piece.escape digits ++ more) =
      prepend (letterOfUnit digits.number) (string opening more) := by
  change string opening ('\\' :: 'u' :: digits.a :: digits.b :: digits.c :: digits.d :: more) = _
  by_cases hnext : ∃ e f g h after rest, more = '\\' :: 'u' :: e :: f :: g :: h :: after :: rest
  · obtain ⟨e, f, g, h, after, rest, rfl⟩ := hnext
    rw [string]
    simp [digits.denote, hwhole]
  · obtain ⟨after, rest, rfl⟩ := List.exists_cons_of_ne_nil hmore
    rw [string]
    · simp [digits.denote]
    · rintro e f g h next others rfl rfl
      exact hnext ⟨e, f, g, h, next, others, rfl⟩

theorem string_short {mark c : Char} (h : escaped? mark = some c) (opening : List Char) :
    string opening ('\\' :: mark :: more) = prepend (.char c) (string opening more) := by
  have hmark : mark ≠ 'u' := by
    rintro rfl
    cases h
  rw [string]
  · rw [h]
  all_goals intros; contradiction

theorem string_plain {c : Char} (h : c ≠ '"' ∧ c ≠ '\\' ∧ 0x20 ≤ c.toNat) (opening : List Char) :
    string opening (c :: more) = prepend (.char c) (string opening more) := by
  obtain ⟨hquote, hmark, hcontrol⟩ := h
  rw [string]
  · rw [if_neg (Nat.not_lt.2 hcontrol)]
  all_goals intros; contradiction

theorem string_pair (high low : HexDigits)
    (h : isHighUnit high.number = true ∧ isLowUnit low.number = true) (hmore : more ≠ [])
    (opening : List Char) :
    string opening (Piece.escape high ++ Piece.escape low ++ more) =
      prepend (.char (charOfPair high.number low.number)) (string opening more) := by
  obtain ⟨after, rest, rfl⟩ := List.exists_cons_of_ne_nil hmore
  change string opening ('\\' :: 'u' :: high.a :: high.b :: high.c :: high.d ::
    '\\' :: 'u' :: low.a :: low.b :: low.c :: low.d :: after :: rest) = _
  rw [string]
  simp [high.denote, low.denote, h]

/-- Whether a piece cannot be the first half of a pair. -/
def Piece.isWhole : Piece → Bool
  | .unit digits => !isHighUnit digits.number
  | _ => true

theorem string_piece {p : Piece} (hp : p.isWhole = true) (hmore : more ≠ [])
    (opening : List Char) :
    string opening (p.text ++ more) = prepend p.letter (string opening more) := by
  cases p with
  | plain c h => exact string_plain h opening
  | short mark c h => exact string_short h opening
  | unit digits => exact string_unit digits (by simpa [Piece.isWhole] using hp) hmore opening
  | pair high low h => exact string_pair high low h hmore opening

/-- A notation without halves of pairs is read as what it stands for, up to its closing quote. -/
theorem string_text {q : Quoted} (hq : ∀ p ∈ q, p.isWhole = true) (opening rest : List Char) :
    string opening (q.text ++ rest) = .ok (q.letters, rest) := by
  induction q with
  | nil => exact string_quote opening rest
  | cons p q ih =>
    rw [List.forall_mem_cons] at hq
    have hmore : Quoted.text q ++ rest ≠ [] := by
      cases q with
      | nil => simp [Quoted.text]
      | cons p q => cases p <;> simp [Quoted.text, Piece.text, Piece.escape]
    rw [Quoted.text, List.append_assoc, string_piece hq.1 hmore, ih hq.2]
    rfl

end Document.Json

/-! ## What is written -/

namespace Text.Literal

open Document.Json (HexDigits Piece Quoted)

theorem exists_hexDigits {n : Nat} (h : n < 0x10000) :
    ∃ digits : HexDigits, Piece.escape digits = unitEscape n ∧ digits.number = n := by
  have hlength : (hexDigits 4 n).length = 4 := length_hexDigits 3 h
  obtain ⟨a, b, c, d, hdigits⟩ := List.length_eq_four.1 hlength
  have hdenote : Document.Json.hexNumber? [a, b, c, d] = some n :=
    hdigits ▸ hexNumber?_hexDigits 3 h
  exact ⟨⟨a, b, c, d, n, hdenote⟩, by rw [unitEscape, hdigits]; rfl, rfl⟩

/-- A character in the basic plane is no half of a pair. -/
theorem letterOfUnit_toNat (c : Char) : Document.Json.isHighUnit c.toNat = false ∧
    Document.Json.letterOfUnit c.toNat = .char c := by
  have hvalid : c.toNat < 0xd800 ∨ 0xdfff < c.toNat ∧ c.toNat < 0x110000 := c.valid
  have hhigh : Document.Json.isHighUnit c.toNat = false := by
    simp only [Document.Json.isHighUnit, Bool.and_eq_false_iff, decide_eq_false_iff_not]
    omega
  refine ⟨hhigh, ?_⟩
  rw [Document.Json.letterOfUnit, dif_neg (by omega), Char.ofNat_toNat]

theorem exists_pair {c : Char} (h : 0x10000 ≤ c.toNat) : ∃ p : Piece, p.letter = .char c ∧
    p.isWhole = true ∧ p.text = unitEscape (0xd800 + (c.toNat - 0x10000) / 0x400)
      ++ unitEscape (0xdc00 + (c.toNat - 0x10000) % 0x400) := by
  have hvalid : c.toNat < 0xd800 ∨ 0xdfff < c.toNat ∧ c.toNat < 0x110000 := c.valid
  obtain ⟨high, hhighText, hhigh⟩ :=
    exists_hexDigits (n := 0xd800 + (c.toNat - 0x10000) / 0x400) (by omega)
  obtain ⟨low, hlowText, hlow⟩ :=
    exists_hexDigits (n := 0xdc00 + (c.toNat - 0x10000) % 0x400) (by omega)
  have hpair : Document.Json.isHighUnit high.number = true ∧
      Document.Json.isLowUnit low.number = true := by
    simp only [hhigh, hlow, Document.Json.isHighUnit, Document.Json.isLowUnit, Bool.and_eq_true,
      decide_eq_true_eq]
    omega
  refine ⟨.pair high low hpair, ?_, rfl, ?_⟩
  · have hcode : 0x10000 + (high.number - 0xd800) * 0x400 + (low.number - 0xdc00) = c.toNat := by
      rw [hhigh, hlow]
      omega
    rw [Piece.letter, Document.Json.charOfPair, hcode, Char.ofNat_toNat]
  · rw [Piece.text, hhighText, hlowText]

/-- Characters that end a script or an attribute, or begin an entity. -/
def markup : List Char := ['<', '>', '&', '\'']

/-- A character with a glyph in ASCII, and no mark of a page. -/
def IsPlain (c : Char) : Prop := 0x20 ≤ c.toNat ∧ c.toNat < 0x7f ∧ c ∉ markup

instance : DecidablePred IsPlain := fun c =>
  inferInstanceAs (Decidable (0x20 ≤ c.toNat ∧ c.toNat < 0x7f ∧ c ∉ markup))

/-- How a character is written: by a mark behind a backslash, by its number, by the two numbers of a
pair, or as it is. -/
inductive Written (c : Char) : List Char → Prop
  | short {mark : Char} (h : Document.Json.escaped? mark = some c) (hplain : IsPlain mark) :
      Written c ['\\', mark]
  | unit (h : c.toNat < 0x10000) : Written c (unitEscape c.toNat)
  | pair (h : 0x10000 ≤ c.toNat) : Written c (unitEscape (0xd800 + (c.toNat - 0x10000) / 0x400)
      ++ unitEscape (0xdc00 + (c.toNat - 0x10000) % 0x400))
  | plain (h : c ≠ '"' ∧ c ≠ '\\') (hplain : IsPlain c) : Written c [c]

theorem written_jsonChar (c : Char) : Written c (jsonChar c) := by
  have hshort {mark : Char} (h : Document.Json.escaped? mark = some c) (hplain : IsPlain mark) :
      Written c ['\\', mark] := .short h hplain
  unfold jsonChar
  split
  · next hmarked => rcases hmarked with rfl | rfl <;> exact hshort rfl (by decide)
  next hmarked =>
  iterate 5
    split
    · next hc => exact hshort (by rw [hc]; rfl) (by decide)
  split
  · next hmarkup =>
    refine .unit ?_
    rcases hmarkup with rfl | rfl | rfl | rfl <;> decide
  next hmarkup =>
  split
  · next hplain =>
    exact .plain (not_or.1 hmarked) ⟨hplain.1, hplain.2, by simpa [markup] using hmarkup⟩
  split
  · next hbasic => exact .unit hbasic
  · next hbasic => exact .pair (Nat.not_lt.1 hbasic)

/-- Each character is written as one piece. -/
theorem exists_piece (c : Char) :
    ∃ p : Piece, p.text = jsonChar c ∧ p.letter = .char c ∧ p.isWhole = true := by
  have hwritten := written_jsonChar c
  generalize jsonChar c = cs at hwritten ⊢
  cases hwritten with
  | short h => exact ⟨.short _ c h, rfl, rfl, rfl⟩
  | unit h =>
    obtain ⟨digits, htext, hnumber⟩ := exists_hexDigits h
    obtain ⟨hhigh, hletter⟩ := letterOfUnit_toNat c
    exact ⟨.unit digits, htext, by rw [Piece.letter, hnumber, hletter],
      by rw [Piece.isWhole, hnumber, hhigh]; rfl⟩
  | pair h =>
    obtain ⟨p, hchar, hwhole, htext⟩ := exists_pair h
    exact ⟨p, htext, hchar, hwhole⟩
  | plain h hplain => exact ⟨.plain c ⟨h.1, h.2, hplain.1⟩, rfl, rfl, rfl⟩

theorem exists_quoted (cs : List Char) : ∃ q : Quoted,
    q.text = cs.flatMap jsonChar ++ ['"'] ∧ q.letters = cs.map .char ∧
      ∀ p ∈ q, p.isWhole = true := by
  induction cs with
  | nil => exact ⟨[], rfl, rfl, List.forall_mem_nil _⟩
  | cons c cs ih =>
    obtain ⟨q, htext, hletters, hwhole⟩ := ih
    obtain ⟨p, hpText, hpLetter, hpWhole⟩ := exists_piece c
    refine ⟨p :: q, ?_, ?_, List.forall_mem_cons.2 ⟨hpWhole, hwhole⟩⟩
    · rw [Quoted.text, htext, hpText, List.flatMap_cons, List.append_assoc]
    · rw [Quoted.letters, List.map_cons, hpLetter, ← Quoted.letters, hletters, List.map_cons]

/-- What is written for a text is read up to the quote that closes it. -/
theorem string_json (cs opening rest : List Char) :
    Document.Json.string opening (cs.flatMap jsonChar ++ '"' :: rest) =
      .ok (cs.map .char, rest) := by
  obtain ⟨q, htext, hletters, hwhole⟩ := exists_quoted cs
  have hwritten : cs.flatMap jsonChar ++ '"' :: rest = q.text ++ rest := by
    rw [htext, List.append_assoc, List.singleton_append]
  rw [hwritten, Document.Json.string_text hwhole, hletters]

theorem toList_json (s : String) :
    (json s).toList = '"' :: (s.toList.flatMap jsonChar ++ ['"']) := by
  rw [json, String.toList_ofList, List.cons_append]

theorem parse_json (s : String) : Document.Json.parse (json s) = .ok (.text s) := by
  have hstart : (json s).toList.head? ≠ some '\uFEFF' := by
    rw [toList_json, List.head?_cons]
    decide
  have hblank : Document.Json.skipBlank (json s).toList = (json s).toList := by
    rw [toList_json]
    rfl
  have hvalue (steps levels : Nat) :
      Document.Json.value (steps + 1) levels (json s).toList = .ok (.text s, []) := by
    rw [toList_json, Document.Json.value]
    simp only [string_json s.toList _ []]
    change Except.ok (Document.ofLetters (Letter.ofText s), []) = _
    rw [Document.ofLetters_ofText]
  have htext : Document.Json.wholeText (json s).toList = .ok (.text s) := by
    rw [Document.Json.wholeText, if_neg hstart, hblank, hvalue]
    rfl
  rw [Document.Json.parse, htext]

/-! ## What it is written with -/

theorem isPlain_of_mem {cs : List Char} (h : (cs.all fun c => decide (IsPlain c)) = true)
    {c : Char} (hc : c ∈ cs) : IsPlain c :=
  of_decide_eq_true (List.all_eq_true.1 h c hc)

theorem isPlain_of_mem_unitEscape {n : Nat} (h : n < 0x10000) {c : Char}
    (hc : c ∈ unitEscape n) : IsPlain c := by
  rw [unitEscape, List.mem_cons, List.mem_cons] at hc
  rcases hc with rfl | rfl | hc
  · decide
  · decide
  · have hdigits : ∀ d < 16, IsPlain (Nat.digitChar d) := by decide
    obtain ⟨d, hd, rfl⟩ := exists_of_mem_hexDigits 3 h hc
    exact hdigits d hd

theorem isPlain_of_mem_jsonChar {c d : Char} (hd : d ∈ jsonChar c) : IsPlain d := by
  have hvalid : c.toNat < 0xd800 ∨ 0xdfff < c.toNat ∧ c.toNat < 0x110000 := c.valid
  have hwritten := written_jsonChar c
  generalize jsonChar c = cs at hd hwritten
  cases hwritten with
  | short _ hplain =>
    rw [List.mem_pair] at hd
    rcases hd with rfl | rfl
    · decide
    · exact hplain
  | unit h => exact isPlain_of_mem_unitEscape h hd
  | pair h =>
    rcases List.mem_append.1 hd with hhigh | hlow
    · exact isPlain_of_mem_unitEscape (by omega) hhigh
    · exact isPlain_of_mem_unitEscape (by omega) hlow
  | plain _ hplain => exact List.mem_singleton.1 hd ▸ hplain

theorem isPlain_of_mem_json {s : String} {c : Char} (hc : c ∈ (json s).toList) : IsPlain c := by
  have hquote : IsPlain '"' := by decide
  rw [toList_json, List.mem_cons, List.mem_append, List.mem_singleton] at hc
  rcases hc with rfl | hc | rfl
  · exact hquote
  · obtain ⟨d, _, hd⟩ := List.mem_flatMap.1 hc
    exact isPlain_of_mem_jsonChar hd
  · exact hquote

/-- A string of JSON for a text, also where more stands behind it. -/
structure Denotes (literal text : String) : Prop where
  plain : ∀ c ∈ literal.toList, IsPlain c
  whole : Document.Json.parse literal = .ok (.text text)
  within : ∃ body, literal.toList = '"' :: body ∧
    ∀ opening rest, Document.Json.string opening (body ++ rest) = .ok (Letter.ofText text, rest)

theorem denotes_json (s : String) : Denotes (json s) s where
  plain _ := isPlain_of_mem_json
  whole := parse_json s
  within := by
    refine ⟨_, toList_json s, fun opening rest => ?_⟩
    rw [List.append_assoc, List.singleton_append, string_json, Letter.ofText]

example : json "a</pre>\n'😀'" =
    "\"a\\u003c/pre\\u003e\\n\\u0027\\ud83d\\ude00\\u0027\"" := by decide +kernel

end Text.Literal

/-! ## The array on the page -/

namespace Artifact.AdminPage

/-- A line of the array: the title and the code of one example. -/
structure Shows (e : Example) (line : String) : Prop where
  literals : ∃ title code, line = "  \x7b title: " ++ title ++ ", code: " ++ code ++ " \x7d," ∧
    Literal.Denotes title e.title ∧ Literal.Denotes code e.code
  oneLine : ∀ c ∈ line.toList, 0x20 ≤ c.toNat ∧ c.toNat < 0x7f

theorem shows_exampleLine (e : Example) : Shows e (exampleLine e) where
  literals := ⟨_, _, rfl, Literal.denotes_json e.title, Literal.denotes_json e.code⟩
  oneLine := by
    have hword {word : String} (h : (word.toList.all fun c => decide (Literal.IsPlain c)) = true) :
        ∀ c ∈ word.toList, Literal.IsPlain c := fun _ => Literal.isPlain_of_mem h
    have hliteral (s : String) : ∀ c ∈ (Literal.json s).toList, Literal.IsPlain c := fun _ =>
      Literal.isPlain_of_mem_json
    have hplain : ∀ c ∈ (exampleLine e).toList, Literal.IsPlain c := by
      unfold exampleLine
      simp only [String.toList_append, List.forall_mem_append]
      exact ⟨⟨⟨⟨hword (by decide), hliteral e.title⟩, hword (by decide)⟩, hliteral e.code⟩,
        hword (by decide)⟩
    exact fun c hc => ⟨(hplain c hc).1, (hplain c hc).2.1⟩

/-- What stands before the array. -/
def arrayStart (s : Schema) : String :=
  unlines (headerLines s ++ s.enumFields.flatMap optionsLines ++ [""])

def arrayOpening : String := "const EXAMPLES: \x7b title: string; code: string \x7d[] = ["

/-- The page has an array with a line for each example, in order. -/
theorem examples_shown (s : Schema) : ∃ lines rest,
    text s = arrayStart s ++ unlines (arrayOpening :: lines ++ ["]"]) ++ rest ∧
      List.Forall₂ Shows s.examples lines := by
  refine ⟨s.examples.map exampleLine, unlines ([""] ++ (rowInterface s).lines ++ formLines s
    ++ callLines ++ ["", s!"export function {s.name}AdminPage() \x7b"] ++ loadLines s
    ++ changeLines s ++ pageLines s ++ ["", s!"export default {s.name}AdminPage"]), ?_, ?_⟩
  · rw [arrayStart, ← unlines_append, ← unlines_append, text, lines, examplesLines,
      arrayOpening]
    simp only [List.append_assoc, List.cons_append, List.nil_append]
  · rw [List.forall₂_map_right_iff, List.forall₂_same]
    exact fun e _ => shows_exampleLine e

end Artifact.AdminPage
end Scaffold
