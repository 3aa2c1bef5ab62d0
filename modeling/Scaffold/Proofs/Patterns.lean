import Scaffold.Proofs.Hexadecimal
import Scaffold.Proofs.Quotation

/-!
# Patterns read back

A pattern stands in its validator in readable form, between whichever quotes are free. A script
reads that form almost as it is meant: marked characters, the ends of lines and numbers of two or
four digits are read back, but it knows no number of eight digits. So a pattern is read as it was
declared just if every character beyond the basic plane has a glyph; any other one comes out as a
capital U and its digits.
-/
namespace Scaffold

open Text

namespace Script.ReadableLiteral

open StringLiteral (prepend)

/-! ## The reader -/

/-- Where a reader stands: among plain characters, behind a backslash, or within digits of which
some are left behind the next one, with the number so far. -/
inductive Mode
  | plain
  | escaped
  | digits (left number : Nat)

/-- The code units up to the closing quote, and the text behind it. A backslash marks the ends of
lines, a tab and numbers of two or four digits; any other character behind it stands for itself. -/
def body (quote : Char) : Mode → List Char → Option (List Nat × List Char)
  | _, [] => none
  | .plain, c :: rest =>
    if c = quote then some ([], rest)
    else if c = '\\' then body quote .escaped rest
    else if c = '\n' ∨ c = '\r' then none
    else prepend (charUnits c) (body quote .plain rest)
  | .escaped, c :: rest =>
    if c = 'x' then body quote (.digits 1 0) rest
    else if c = 'u' then body quote (.digits 3 0) rest
    else if c = 'n' then prepend [10] (body quote .plain rest)
    else if c = 'r' then prepend [13] (body quote .plain rest)
    else if c = 't' then prepend [9] (body quote .plain rest)
    else prepend (charUnits c) (body quote .plain rest)
  | .digits left number, c :: rest =>
    (Document.Json.hexValue? c).bind fun d =>
      match left with
      | 0 => prepend [number * 16 + d] (body quote .plain rest)
      | left + 1 => body quote (.digits left (number * 16 + d)) rest

/-- Reads a literal between quotes of either kind that a text begins with. -/
def read : List Char → Option (List Nat × List Char)
  | c :: rest => if c = '\'' ∨ c = '"' then body c .plain rest else none
  | [] => none

example : read "\"it's \\x41\\u00e9\\n\" + 1".toList = some (units "it's Aé\n", " + 1".toList) := by
  decide +kernel

section

variable {quote : Char}

theorem body_plain {c : Char} (hquote : c ≠ quote) (hmark : c ≠ '\\') (hend : c ≠ '\n' ∧ c ≠ '\r')
    (rest : List Char) :
    body quote .plain (c :: rest) = prepend (charUnits c) (body quote .plain rest) := by
  rw [body, if_neg hquote, if_neg hmark, if_neg (not_or.2 hend)]

theorem body_mark (hquote : quote ≠ '\\') (rest : List Char) :
    body quote .plain ('\\' :: rest) = body quote .escaped rest := by
  rw [body, if_neg hquote.symm, if_pos rfl]

/-- A character that marks nothing stands for itself. -/
theorem body_escaped {c : Char} (h : c ∉ ['x', 'u', 'n', 'r', 't']) (rest : List Char) :
    body quote .escaped (c :: rest) = prepend (charUnits c) (body quote .plain rest) := by
  simp only [List.mem_cons, List.not_mem_nil, or_false, not_or] at h
  obtain ⟨hx, hu, hn, hr, ht⟩ := h
  rw [body, if_neg hx, if_neg hu, if_neg hn, if_neg hr, if_neg ht]

/-- By induction on the digits behind the first one. -/
theorem body_digits (d : Char) (ds : List Char) {number n : Nat}
    (h : (d :: ds).foldl (fun n c => n.bind fun n => (Document.Json.hexValue? c).map (n * 16 + ·))
      (some number) = some n) (rest : List Char) :
    body quote (.digits ds.length number) (d :: (ds ++ rest)) =
      prepend [n] (body quote .plain rest) := by
  induction ds generalizing d number with
  | nil =>
    obtain ⟨i, hi, rfl⟩ := Option.map_eq_some_iff.1 h
    rw [List.length_nil, body, hi]
    rfl
  | cons e ds ih =>
    cases hi : Document.Json.hexValue? d with
    | none =>
      rw [List.foldl_cons, Option.bind_some, hi, Option.map_none, foldl_hexValue?_none] at h
      cases h
    | some i =>
      rw [List.foldl_cons, Option.bind_some, hi, Option.map_some] at h
      rw [List.length_cons, body, hi, Option.bind_some, List.cons_append]
      exact ih e h

/-- A number that is written with all its digits is read. -/
theorem body_hexDigits (more : Nat) {n : Nat} (h : n < 16 ^ (more + 1)) (rest : List Char) :
    body quote (.digits more 0) (hexDigits (more + 1) n ++ rest) =
      prepend [n] (body quote .plain rest) := by
  have hlength := length_hexDigits more h
  have hnumber := hexNumber?_hexDigits more h
  obtain ⟨d, ds, hdigits⟩ := List.exists_cons_of_length_eq_add_one hlength
  rw [hdigits] at hlength hnumber ⊢
  obtain rfl : ds.length = more := Nat.succ.inj hlength
  exact body_digits d ds hnumber rest

/-- Digits that no mark stands before are plain characters. -/
theorem body_plainDigits (hquote : quote = '\'' ∨ quote = '"') {digits : List Char}
    (h : ∀ c ∈ digits, ∃ d < 16, c = Nat.digitChar d) (rest : List Char) :
    body quote .plain (digits ++ rest) =
      prepend (digits.flatMap charUnits) (body quote .plain rest) := by
  have hplain : ∀ d < 16, Nat.digitChar d ∉ ['\'', '"', '\\', '\n', '\r'] := by decide
  induction digits with
  | nil => cases h : body quote .plain rest <;> simp [prepend, h]
  | cons c digits ih =>
    rw [List.forall_mem_cons] at h
    obtain ⟨⟨d, hd, rfl⟩, hdigits⟩ := h
    have hfree := hplain d hd
    simp only [List.mem_cons, List.not_mem_nil, or_false, not_or] at hfree
    obtain ⟨hsingle, hdouble, hmark, hend⟩ := hfree
    have hother : Nat.digitChar d ≠ quote := by
      rcases hquote with rfl | rfl
      · exact hsingle
      · exact hdouble
    rw [List.cons_append, body_plain hother hmark hend, ih hdigits, List.flatMap_cons]
    cases body quote .plain rest <;> simp [prepend]

end

/-! ## What readable text is read as -/

/-- A character that has a glyph or lies in the basic plane. -/
def IsNear (c : Char) : Prop := isPrintable c = true ∨ c.toNat < 0x10000

instance : DecidablePred IsNear := fun c =>
  inferInstanceAs (Decidable (isPrintable c = true ∨ c.toNat < 0x10000))

/-- What a character comes out as: itself, or its digits behind a letter. -/
def outcome (c : Char) : List Char := if IsNear c then [c] else 'U' :: hexDigits 8 c.toNat

def respelled (s : String) : String := String.ofList (s.toList.flatMap outcome)

theorem charUnits_of_lt {c : Char} (h : c.toNat < 0x10000) : charUnits c = [c.toNat] := if_pos h

theorem body_readableChar {quote : Char} (hquote : quote = '\'' ∨ quote = '"') (c : Char)
    (rest : List Char) : body quote .plain (Literal.readableChar quote c ++ rest) =
      prepend ((outcome c).flatMap charUnits) (body quote .plain rest) := by
  have hmark : quote ≠ '\\' := by
    rcases hquote with rfl | rfl <;> decide
  have hitself (h : IsNear c) : (outcome c).flatMap charUnits = charUnits c := by
    rw [outcome, if_pos h, List.flatMap_singleton]
  have hnumber (h : c.toNat < 0x10000) : (outcome c).flatMap charUnits = [c.toNat] := by
    rw [hitself (.inr h), charUnits_of_lt h]
  unfold Literal.readableChar
  split_ifs with hmarked hfeed hreturn htab hprintable htwo hfour
  · have hfree : c ∉ ['x', 'u', 'n', 'r', 't'] ∧ c.toNat < 0x10000 := by
      rcases hmarked with rfl | rfl
      · rcases hquote with rfl | rfl <;> decide
      · decide
    rw [hitself (.inr hfree.2)]
    exact (body_mark hmark _).trans (body_escaped hfree.1 rest)
  · subst hfeed
    rw [hnumber (by decide)]
    exact body_mark hmark _
  · subst hreturn
    rw [hnumber (by decide)]
    exact body_mark hmark _
  · subst htab
    rw [hnumber (by decide)]
    exact body_mark hmark _
  · rw [not_or] at hmarked
    rw [hitself (.inl hprintable), List.singleton_append,
      body_plain hmarked.1 hmarked.2 ⟨hfeed, hreturn⟩]
  · rw [hnumber (by omega)]
    exact (body_mark hmark _).trans (body_hexDigits 1 htwo rest)
  · rw [hnumber hfour]
    exact (body_mark hmark _).trans (body_hexDigits 3 hfour rest)
  · have hvalid : c.toNat < 0xd800 ∨ 0xdfff < c.toNat ∧ c.toNat < 0x110000 := c.valid
    have hdigits : ∀ d ∈ hexDigits 8 c.toNat, ∃ i < 16, d = Nat.digitChar i := fun d hd =>
      exists_of_mem_hexDigits 7 (by omega) hd
    have hfar : ¬ IsNear c := not_or_intro hprintable hfour
    rw [outcome, if_neg hfar, List.flatMap_cons, List.cons_append, List.cons_append,
      body_mark hmark, body_escaped (by decide), body_plainDigits hquote hdigits]
    cases body quote .plain rest <;> simp [prepend]

/-- By induction on the text: each character comes out by itself. -/
theorem body_readable {quote : Char} (hquote : quote = '\'' ∨ quote = '"') (cs rest : List Char) :
    body quote .plain (cs.flatMap (Literal.readableChar quote) ++ quote :: rest) =
      some ((cs.flatMap outcome).flatMap charUnits, rest) := by
  induction cs with
  | nil => simp [body]
  | cons c cs ih =>
    rw [List.flatMap_cons, List.append_assoc, body_readableChar hquote, ih, List.flatMap_cons,
      List.flatMap_append]
    rfl

theorem quoteFor_eq (cs : List Char) : Literal.quoteFor cs = '\'' ∨ Literal.quoteFor cs = '"' := by
  unfold Literal.quoteFor
  split
  · exact .inr rfl
  · exact .inl rfl

theorem read_readable (s : String) (rest : List Char) :
    read ((Literal.readable s).toList ++ rest) = some (units (respelled s), rest) := by
  have hquote := quoteFor_eq s.toList
  rw [Literal.readable, Literal.readableChars, String.toList_ofList, List.cons_append,
    List.cons_append, List.append_assoc, List.singleton_append, read, if_pos hquote,
    body_readable hquote, units, respelled, String.toList_ofList]

theorem flatMap_outcome_eq_iff (cs : List Char) : cs.flatMap outcome = cs ↔ ∀ c ∈ cs, IsNear c := by
  have hlong (c : Char) : 1 ≤ (outcome c).length := by
    unfold outcome
    split <;> simp
  have hlonger (ds : List Char) : ds.length ≤ (ds.flatMap outcome).length := by
    induction ds with
    | nil => exact Nat.le_refl 0
    | cons d ds ih =>
      rw [List.flatMap_cons, List.length_append, List.length_cons]
      have := hlong d
      omega
  induction cs with
  | nil => simp
  | cons c cs ih =>
    rw [List.forall_mem_cons, List.flatMap_cons]
    by_cases hnear : IsNear c
    · simp [outcome, hnear, ih]
    · refine iff_of_false (fun heq => ?_) fun h => hnear h.1
      have hlength := congrArg List.length heq
      have hfar : (outcome c).length = 1 + (hexDigits 8 c.toNat).length := by
        rw [outcome, if_neg hnear, List.length_cons, Nat.add_comm]
      have hvalid : c.toNat < 0xd800 ∨ 0xdfff < c.toNat ∧ c.toNat < 0x110000 := c.valid
      have hdigits : (hexDigits 8 c.toNat).length = 8 := length_hexDigits 7 (by omega)
      rw [List.length_append, List.length_cons, hfar, hdigits] at hlength
      have := hlonger cs
      omega

theorem respelled_eq_iff (s : String) : respelled s = s ↔ ∀ c ∈ s.toList, IsNear c := by
  rw [← flatMap_outcome_eq_iff, ← String.toList_inj, respelled, String.toList_ofList]

/-- Readable text is read as what it was written for just if its far characters have glyphs. -/
theorem read_readable_iff (s : String) (rest : List Char) :
    read ((Literal.readable s).toList ++ rest) = some (units s, rest) ↔
      ∀ c ∈ s.toList, IsNear c := by
  rw [read_readable, ← respelled_eq_iff, Option.some.injEq, Prod.mk.injEq, and_iff_left rfl,
    units_injective.eq_iff]

end Script.ReadableLiteral

/-! ## Patterns in validators -/

namespace Field

open Script Script.ReadableLiteral

/-- How a pattern stands at the end of a validator, and what it is read as. -/
structure PatternRead (f : Field) (r : Rules) (p : String) : Prop where
  shown : f.validator = { f with rules := some { r with pattern := none } }.validator
    ++ ".regex(new RegExp(" ++ Literal.readable p ++ "))"
  reads : ∀ rest, ReadableLiteral.read ((Literal.readable p).toList ++ rest) =
    some (units (respelled p), rest)
  reads_iff : ∀ rest, ReadableLiteral.read ((Literal.readable p).toList ++ rest) =
    some (units p, rest) ↔ ∀ c ∈ p.toList, isPrintable c = true ∨ c.toNat < 0x10000

theorem validator_of_pattern {f : Field} {r : Rules} {p : String} (htype : f.type = .string)
    (hrules : f.rules = some r) (hpattern : r.pattern = some p) (hp : p ≠ "") :
    f.validator = { f with rules := some { r with pattern := none } }.validator
      ++ ".regex(new RegExp(" ++ Literal.readable p ++ "))" := by
  have hcall : call "regex" ((r.pattern.filter (· ≠ "")).map fun p =>
      "new RegExp(" ++ Literal.readable p ++ ")") =
        ".regex(new RegExp(" ++ Literal.readable p ++ "))" := by
    rw [hpattern, Option.filter_some, decide_eq_true hp, if_pos rfl, Option.map_some, call,
      ← String.toList_inj]
    simp
  have hnone : call "regex" (((none : Option String).filter (· ≠ "")).map fun p =>
      "new RegExp(" ++ Literal.readable p ++ ")") = "" := rfl
  simp only [validator, htype, hrules, Option.map_some, Option.getD_some, textRules]
  rw [hcall, hnone, String.append_empty]
  simp only [String.append_assoc]

/-- The pattern of a text is the last rule in its validator, and is read there as it was declared
just if none of its characters is written with eight digits. -/
theorem pattern_read {f : Field} {r : Rules} {p : String} (htype : f.type = .string)
    (hrules : f.rules = some r) (hpattern : r.pattern = some p) (hp : p ≠ "") :
    f.PatternRead r p where
  shown := validator_of_pattern htype hrules hpattern hp
  reads := read_readable p
  reads_iff := read_readable_iff p

/-- A name in any script, with a line end between its quotes. -/
def signature : Field where
  name := "signature"
  column := "signature"
  type := .string
  rules := some { maxLength := some 40, pattern := some "'\\w+ – 𝒩\"\n\u200b" }

theorem signature_pattern_read : signature.type = .string ∧ ∀ rest,
    ReadableLiteral.read ((Literal.readable "'\\w+ – 𝒩\"\n\u200b").toList ++ rest) =
      some (units "'\\w+ – 𝒩\"\n\u200b", rest) := by
  have hread := pattern_read (f := signature) rfl rfl rfl (by decide)
  have hnear : ("'\\w+ – 𝒩\"\n\u200b".toList.all fun c => decide (IsNear c)) = true := by
    decide +kernel
  refine ⟨rfl, fun rest => (hread.reads_iff rest).2 fun c hc => ?_⟩
  exact of_decide_eq_true (List.all_eq_true.1 hnear c hc)

/-- A text without the invisible letters that tags are spelled with. -/
def tagless : String :=
  String.ofList ['[', '^', Char.ofNat 0xe0020, '-', Char.ofNat 0xe007f, ']', '*']

/-- A caption must not have the invisible letters in it that tags are spelled with. -/
def caption : Field where
  name := "caption"
  column := "caption"
  type := .string
  rules := some { pattern := some tagless }

def captionEntries : Entries := [
  (.text "name", .text "caption"),
  (.text "dbName", .text "caption"),
  (.text "type", .text "string"),
  (.text "validation", .map [(.text "pattern", .text tagless)])]

/-- Nothing refuses the caption, whose pattern comes out as one on capital letters and digits. -/
theorem caption_pattern_misread : Field.read (.map captionEntries) = .valid caption ∧
    caption.validator = "z.string().regex(new RegExp(" ++ Literal.readable tagless ++ "))" ∧
    ReadableLiteral.read (Literal.readable tagless).toList =
      some (units "[^U000e0020-U000e007f]*", []) ∧
    units "[^U000e0020-U000e007f]*" ≠ units tagless :=
  ⟨rfl, by decide +kernel, by decide +kernel, by decide +kernel⟩

end Field
end Scaffold
