import Mathlib.Algebra.Ring.Nat
import Scaffold.Proofs.Lexemes
import Scaffold.Yaml.Scalar

/-!
# Numbers of JSON in YAML

What a word or number of JSON is as a plain scalar. Its form gives it the type that it has in JSON,
and it is read as the same value: the sign of a number is put before its magnitude either way.
-/
namespace Scaffold.Number.Binary64

/-! ## Signs -/

theorem toNat_ofBits {negative : Bool} {m : Nat} (h : m < 2 ^ 63) :
    (ofBits negative m).bits.toNat = m + if negative then 2 ^ 63 else 0 := by
  have hsign : twoTo 63 = 2 ^ 63 := rfl
  simp only [ofBits, UInt64.toNat_ofNat', hsign]
  split <;> omega

/-- Up to the pattern of infinity a pattern stands for a number. -/
theorem isNan_ofBits {negative : Bool} {m : Nat} (h : m ≤ 2047 * 2 ^ 52) :
    (ofBits negative m).isNan = false := by
  have hbits : (ofBits negative m).bits.toNat = m + if negative then 2 ^ 63 else 0 :=
    toNat_ofBits (by omega)
  have hfraction : (ofBits negative m).bits.toNat / 2 ^ 52 % 2 ^ 11 = 2047 →
      (ofBits negative m).bits.toNat % 2 ^ 52 = 0 := by
    rw [hbits]
    cases negative <;> simp <;> omega
  have h52 : twoTo 52 = 2 ^ 52 := rfl
  have h11 : twoTo 11 = 2 ^ 11 := rfl
  unfold isNan value
  simp only [h52, h11]
  by_cases hb : (ofBits negative m).bits.toNat / 2 ^ 52 % 2 ^ 11 = 2047
  · rw [if_pos hb, if_pos (hfraction hb)]
  · rw [if_neg hb]
    by_cases hz : (ofBits negative m).bits.toNat / 2 ^ 52 % 2 ^ 11 = 0
    · rw [if_pos hz]
    · rw [if_neg hz]

/-- To flip a bit above a number is to add it. -/
theorem xor_two_pow {m k : Nat} (h : m < 2 ^ k) : m ^^^ 2 ^ k = m + 2 ^ k := by
  have hjoin : m + 2 ^ k = 2 ^ k ||| m := by
    simpa only [Nat.mul_one, Nat.add_comm] using Nat.two_pow_add_eq_or_of_lt h 1
  rw [hjoin]
  refine Nat.eq_of_testBit_eq fun i => ?_
  rw [Nat.testBit_xor, Nat.testBit_or]
  by_cases hi : i = k
  · subst i
    rw [Nat.testBit_two_pow_self, Nat.testBit_lt_two_pow h]
    rfl
  · rw [Nat.testBit_two_pow_of_ne (Ne.symm hi), Bool.xor_false, Bool.false_or]

theorem negate_ofBits {m : Nat} (h : m < 2 ^ 63) :
    (ofBits false m).negate = ofBits true m := by
  have hsign : (0x8000000000000000 : UInt64).toNat = 2 ^ 63 := rfl
  have hbits : (ofBits false m).bits ^^^ 0x8000000000000000 = (ofBits true m).bits := by
    refine UInt64.toNat.inj ?_
    rw [UInt64.toNat_xor, toNat_ofBits h, toNat_ofBits h, hsign]
    exact xor_two_pow h
  rw [negate, hbits]

theorem exists_ofScaled (significand : Nat) (exponent : Int) :
    ∃ m ≤ 2047 * 2 ^ 52, ∀ negative,
      ofScaled negative significand exponent = ofBits negative m := by
  have hbound : 2047 * twoTo 52 ≤ 2047 * 2 ^ 52 := Nat.le_of_eq rfl
  unfold ofScaled
  dsimp only
  split
  · next hsmall => exact ⟨significand, by omega, fun _ => rfl⟩
  · split
    · exact ⟨2047 * twoTo 52, hbound, fun _ => rfl⟩
    · next hlarge =>
      exact ⟨_, Nat.le_trans (Nat.le_of_not_le hlarge) hbound, fun _ => rfl⟩

theorem exists_ofRatio (num den : Nat) :
    ∃ m ≤ 2047 * 2 ^ 52, ∀ negative, ofRatio negative num den = ofBits negative m := by
  unfold ofRatio
  split
  · exact ⟨0, by omega, fun _ => rfl⟩
  · exact exists_ofScaled ..

/-- The sign is a bit of its own, and a decimal text is never read as what is no number. -/
theorem exists_ofDecimal (digits : Nat) (power : Int) :
    ∃ m ≤ 2047 * 2 ^ 52, ∀ negative, ofDecimal negative digits power = ofBits negative m := by
  have hzero : ∃ m ≤ 2047 * 2 ^ 52, ∀ negative, zero negative = ofBits negative m :=
    ⟨0, by omega, fun _ => rfl⟩
  have hinfinity : ∃ m ≤ 2047 * 2 ^ 52, ∀ negative, infinity negative = ofBits negative m :=
    ⟨_, Nat.le_refl _, fun _ => rfl⟩
  unfold ofDecimal
  dsimp only
  split
  · exact hzero
  · split
    · exact hinfinity
    · split
      · exact hzero
      · split <;> exact exists_ofRatio ..

theorem negate_ofDecimal (digits : Nat) (power : Int) :
    (ofDecimal false digits power).negate = ofDecimal true digits power := by
  obtain ⟨m, hm, h⟩ := exists_ofDecimal digits power
  rw [h, h, negate_ofBits (by omega)]

theorem isNan_ofDecimal (negative : Bool) (digits : Nat) (power : Int) :
    (ofDecimal negative digits power).isNan = false := by
  obtain ⟨m, hm, h⟩ := exists_ofDecimal digits power
  rw [h, isNan_ofBits hm]

end Scaffold.Number.Binary64

namespace Scaffold.Document.Json

/-! ## The parts of a number -/

/-- A run of characters ends where one of another kind follows. -/
theorem span_append {isIn : Char → Bool} {cs more : List Char} (hall : ∀ c ∈ cs, isIn c = true)
    (hstop : ∀ c ∈ more.head?, isIn c = false) : (cs ++ more).span isIn = (cs, more) := by
  rw [List.span_eq_takeWhile_dropWhile, List.takeWhile_append_of_pos hall,
    List.dropWhile_append_of_pos hall]
  cases more with
  | nil => simp
  | cons c more => simp [hstop c rfl]

theorem span_eq_self {isIn : Char → Bool} {cs : List Char} (hall : ∀ c ∈ cs, isIn c = true) :
    cs.span isIn = (cs, []) := by
  have hspan : (cs ++ []).span isIn = (cs, []) := span_append hall nofun
  rwa [List.append_nil] at hspan

theorem Power.marks_small : 'e' = 'e' ∨ 'e' = 'E' := .inl rfl

theorem powerPart?_text {p : Power} (h : p.sign.isSome = true) :
    powerPart? p.text = some (p.exponent, []) := by
  have hspan := span_eq_self (List.all_eq_true.1 p.digit)
  obtain ⟨d, digits, hdigits⟩ := List.exists_cons_of_ne_nil p.begun
  rw [hdigits, List.span_eq_takeWhile_dropWhile, Prod.mk.injEq] at hspan
  rcases hsign : p.sign with _ | negative
  · rw [hsign] at h
    cases h
  · rw [Power.text, Power.exponent, hsign]
    cases negative <;>
      simp [powerPart?, Power.signText, p.marks, hdigits, hspan.1, hspan.2]

theorem toLower_of_isDigit {c : Char} (h : isDigit c = true) : c.toLower = c := by
  have hmost : c.val ≤ '9'.val := by
    simp only [isDigit, Bool.and_eq_true, decide_eq_true_eq] at h
    exact h.2
  have hletter : ¬ (c.val ≥ 'A'.val ∧ c.val ≤ 'Z'.val) := fun hletter =>
    absurd (UInt32.le_trans hletter.1 hmost) (by decide)
  exact dif_neg hletter

namespace Numeral

variable (n : Numeral)

theorem exists_body : ∃ c cs, n.body = c :: cs ∧ isDigit c = true := by
  obtain ⟨d, rest, hd⟩ := List.exists_cons_of_ne_nil n.stands.begun
  have hdigit := List.all_eq_true.1 n.stands.digit d (by rw [hd]; exact List.mem_cons_self ..)
  refine ⟨d, rest ++ fractionText n.fraction ++ powerText n.power, ?_, hdigit⟩
  rw [body, hd, List.cons_append, List.cons_append]

theorem head_powerText : ∀ c ∈ (powerText n.power).head?, c = 'e' ∨ c = 'E' := by
  cases n.power with
  | none => nofun
  | some p =>
    intro c hc
    cases hc
    exact p.marks

theorem digit_whole : ∀ c ∈ n.whole, isDigit c = true := List.all_eq_true.1 n.stands.digit

theorem digit_fraction : ∀ c ∈ n.fraction, isDigit c = true := List.all_eq_true.1 n.digit

theorem body_of_fraction (h : n.fraction ≠ []) :
    n.body = n.whole ++ '.' :: (n.fraction ++ powerText n.power) := by
  simp [body, fractionText, h]

/-- The same number with its power marked by a small letter. -/
def lowered : Numeral :=
  { n with
    power := n.power.map fun p => { p with mark := 'e', marks := Power.marks_small }
    short := fun hfraction hpower => n.short hfraction (by simpa using hpower) }

theorem isPortable_lowered : n.lowered.isPortable = n.isPortable := by
  cases hp : n.power <;> simp [isPortable, isWhole, lowered, hp]

theorem isWhole_lowered : n.lowered.isWhole = n.isWhole := by simp [isWhole, lowered]

theorem document_lowered : n.lowered.document = n.document := by
  have hexponent : n.lowered.exponent = n.exponent := by
    cases hp : n.power <;> simp [exponent, lowered, hp, Power.exponent]
  have hfloat : n.lowered.float = n.float := by
    rw [float, hexponent]
    rfl
  rw [document, isWhole_lowered, hfloat]
  rfl

theorem text_lowered : n.lowered.text = n.text.map Char.toLower := by
  have hdigits {digits : List Char} (h : digits.all isDigit = true) :
      digits.map Char.toLower = digits := by
    conv_rhs => rw [← List.map_id digits]
    exact List.map_congr_left fun c hc => toLower_of_isDigit (List.all_eq_true.1 h c hc)
  have hfraction : (fractionText n.fraction).map Char.toLower = fractionText n.fraction := by
    unfold fractionText
    split
    · rfl
    · rw [List.map_cons, hdigits n.digit]
      rfl
  have hpower : (powerText n.power).map Char.toLower = powerText n.lowered.power := by
    cases hp : n.power with
    | none => simp [lowered, hp, powerText]
    | some p =>
      have hmark : p.mark.toLower = 'e' := by rcases p.marks with h | h <;> rw [h] <;> rfl
      have hsign : (Power.signText p.sign).map Char.toLower = Power.signText p.sign := by
        rcases p.sign with _ | _ | _ <;> rfl
      simp [lowered, hp, powerText, Power.text, hmark, hsign, hdigits p.digit]
  have hbody : n.body.map Char.toLower = n.lowered.body := by
    rw [body, List.map_append, List.map_append, hdigits n.stands.digit, hfraction, hpower]
    rfl
  rw [text, text, ← hbody]
  have hnegative : n.lowered.negative = n.negative := rfl
  rw [hnegative]
  split
  · rfl
  · rfl

end Numeral

end Scaffold.Document.Json

namespace Scaffold.Yaml

open Document.Json (Atom Numeral isDigit digitsNumber hexValue?)

/-! ## Characters of words and numbers -/

variable {ch : Char} {cs : List Char}

theorem toNat_of_inWord (h : inWord ch = true) : 0x21 ≤ ch.toNat ∧ ch.toNat < 0x7F := by
  have halpha : ch.isAlpha = (decide (ch.val ≥ 'A'.val ∧ ch.val ≤ 'Z'.val) ||
      (decide (ch.val ≥ 'a'.val) && decide (ch.val ≤ 'z'.val))) := rfl
  simp only [inWord, isDigit, halpha, Bool.or_eq_true, Bool.and_eq_true, decide_eq_true_eq] at h
  rcases h with (((h | h) | rfl) | rfl) | rfl
  · exact ⟨Nat.le_trans (by decide) h.1, Nat.lt_of_le_of_lt h.2 (by decide)⟩
  · have h65 : 65 ≤ ch.toNat ∧ ch.toNat ≤ 122 := by
      rcases h with h | h
      · exact ⟨h.1, Nat.le_trans h.2 (by decide)⟩
      · exact ⟨Nat.le_trans (by decide) h.1, h.2⟩
    omega
  all_goals decide

theorem ascii_of_inWord (h : inWord ch = true) : ch.toNat < 0x80 :=
  Nat.lt_of_lt_of_le (toNat_of_inWord h).2 (by decide)

theorem not_isBlank_of_inWord (h : inWord ch = true) : Text.isBlank ch = false := by
  obtain ⟨hleast, hmost⟩ := toNat_of_inWord h
  have hascii : ∀ code < 0x7F, 0x21 ≤ code → Text.whiteSpace.contains code = false := by decide
  exact hascii _ hmost hleast

theorem inWord_of_isDigit (h : isDigit ch = true) : inWord ch = true := by simp [inWord, h]

theorem joined_eq (h : ∀ ch ∈ cs, inWord ch = true) : Scalar.joined (String.ofList cs) = cs := by
  rw [Scalar.joined, String.toList_ofList, List.filter_eq_self]
  intro ch hch
  have hne : ch ≠ '_' := by
    rintro rfl
    cases h _ hch
  simpa using hne

theorem numerals_eq (h : ∀ ch ∈ cs, inWord ch = true) : Scalar.numerals cs = cs := by
  have hmap : cs.map Text.numeral = cs := by
    conv_rhs => rw [← List.map_id cs]
    exact List.map_congr_left fun ch hch => Text.numeral_of_ascii (ascii_of_inWord (h ch hch))
  have hkeep : ∀ cs : List Char, (∀ ch ∈ cs, inWord ch = true) →
      cs.dropWhile Text.isBlank = cs := by
    intro cs h
    cases cs with
    | nil => rfl
    | cons ch cs =>
      rw [List.dropWhile_cons_of_neg]
      simp [not_isBlank_of_inWord (h ch (List.mem_cons_self ..))]
  rw [Scalar.numerals, hmap, Text.trimChars, hkeep cs h,
    hkeep cs.reverse fun ch hch => h ch (List.mem_reverse.1 hch), List.reverse_reverse]

theorem lowerAfter_eq (before : List Char) (h : ∀ ch ∈ cs, ch.toNat < 0x80) :
    Text.Case.lowerAfter before cs = cs.map Char.toLower := by
  induction cs generalizing before with
  | nil => rfl
  | cons ch cs ih =>
    obtain ⟨hch, hrest⟩ := List.forall_mem_cons.1 h
    have hsigma : ch ≠ 'Σ' := by
      rintro rfl
      exact absurd hch (by decide)
    rw [Text.Case.lowerAfter, if_neg hsigma, Text.lowerChar_ascii hch, ih _ hrest]
    rfl

/-- What a number begins with, its sign passed over. -/
theorem ne_of_isDigit {mark : Char} (h : isDigit ch = true) (hmark : isDigit mark = false) :
    ch ≠ mark := by
  rintro rfl
  rw [hmark] at h
  cases h

theorem plainForm_numeral (n : Numeral) :
    Scalar.plainForm (String.ofList n.text) = n.lowered.text := by
  have hword := inWord_of_numeral n
  rw [Scalar.plainForm, joined_eq hword, Text.lower, String.toList_ofList, String.toList_ofList,
    lowerAfter_eq _ fun ch hch => ascii_of_inWord (hword ch hch), n.text_lowered]

/-! ## Forms -/

theorem tagWithoutSign_text (n : Numeral) : Tag.withoutSign n.text = n.body := by
  obtain ⟨c, cs, hbody, hdigit⟩ := n.exists_body
  rw [Numeral.text]
  split
  · rfl
  · unfold Tag.withoutSign
    split
    · next heq =>
      rw [hbody] at heq
      exact absurd (List.cons.inj heq).1 (ne_of_isDigit hdigit rfl)
    · next heq =>
      rw [hbody] at heq
      exact absurd (List.cons.inj heq).1 (ne_of_isDigit hdigit rfl)
    · rfl

theorem withoutSign_of_isDigit (h : isDigit ch = true) (cs : List Char) :
    Scalar.withoutSign (ch :: cs) = (false, ch :: cs) := by
  unfold Scalar.withoutSign
  split
  · next heq => exact absurd (List.cons.inj heq).1 (ne_of_isDigit h rfl)
  · next heq => exact absurd (List.cons.inj heq).1 (ne_of_isDigit h rfl)
  · rfl

theorem withoutSign_text (n : Numeral) : Scalar.withoutSign n.text = (n.negative, n.body) := by
  obtain ⟨c, cs, hbody, hdigit⟩ := n.exists_body
  rw [Numeral.text]
  cases n.negative
  · rw [if_neg Bool.false_ne_true, hbody, withoutSign_of_isDigit hdigit]
  · rfl

/-- How a number begins. -/
def beginsNumber (ch : Char) : Bool := isDigit ch || ch = '-'

theorem exists_text (n : Numeral) : ∃ c cs, n.text = c :: cs ∧ beginsNumber c = true := by
  obtain ⟨c, cs, hbody, hdigit⟩ := n.exists_body
  rw [Numeral.text]
  split
  · exact ⟨_, _, rfl, rfl⟩
  · exact ⟨c, cs, hbody, by simp [beginsNumber, hdigit]⟩

theorem notContains_of_beginsNumber {words : List String}
    (hwords : words.all fun word => !(word.toList.head?.any beginsNumber)) {c : Char}
    (hc : beginsNumber c = true) (cs : List Char) :
    words.contains (String.ofList (c :: cs)) = false := by
  rw [List.contains_eq_mem, decide_eq_false_iff_not]
  intro hmem
  have hword := List.all_eq_true.1 hwords _ hmem
  simp [hc] at hword

theorem span_body_of_isWhole {n : Numeral} (h : n.isWhole = true) :
    n.body = n.whole ∧ n.body.span (· ≠ '.') = (n.body, []) := by
  simp only [Numeral.isWhole, Bool.and_eq_true, List.isEmpty_iff, Option.isNone_iff_eq_none] at h
  have hbody : n.body = n.whole := by
    simp [Numeral.body, Numeral.fractionText, Numeral.powerText, h.1, h.2]
  refine ⟨hbody, ?_⟩
  rw [hbody]
  exact Document.Json.span_eq_self fun c hc => by simpa using ne_of_isDigit (n.digit_whole c hc) rfl

theorem fraction_of_isPortable {n : Numeral} (h : n.isPortable = true)
    (hwhole : n.isWhole = false) :
    n.fraction ≠ [] ∧ ∀ p ∈ n.power, p.sign.isSome = true := by
  simpa [Numeral.isPortable, hwhole, Option.all_eq_true] using h

theorem beginsWithDigit_of_digits {digits : List Char} (hbegun : digits ≠ [])
    (hdigit : ∀ c ∈ digits, isDigit c = true) : Tag.beginsWithDigit digits = true := by
  obtain ⟨c, cs, rfl⟩ := List.exists_cons_of_ne_nil hbegun
  obtain ⟨hc, hcs⟩ := List.forall_mem_cons.1 hdigit
  have hall : cs.all Tag.isDigitOrLow = true :=
    List.all_eq_true.2 fun d hd => by simp [Tag.isDigitOrLow, hcs d hd]
  rw [Tag.beginsWithDigit, hc, hall]
  rfl

theorem isPower_of_sign {p : Document.Json.Power} (h : p.sign.isSome = true) :
    Tag.isPower p.text = true := by
  obtain ⟨d, ds, hdigits⟩ := List.exists_cons_of_ne_nil p.begun
  have hall : (d :: ds).all isDigit = true := hdigits ▸ p.digit
  rcases hsign : p.sign with _ | negative
  · rw [hsign] at h
    cases h
  · rw [Document.Json.Power.text, hsign, hdigits]
    rcases p.marks with hmark | hmark <;> cases negative <;>
      simpa [Tag.isPower, Document.Json.Power.signText, hmark] using hall

theorem isFloat_text {n : Numeral} (h : n.isPortable = true) : Tag.isFloat n.text = !n.isWhole := by
  obtain ⟨c, cs, htext, hc⟩ := exists_text n
  obtain ⟨d, ds, hbody, hd⟩ := n.exists_body
  have hinfinity : Tag.infinityWords.contains (String.ofList n.body) = false := by
    rw [hbody]
    exact notContains_of_beginsNumber (by decide) (by simp [beginsNumber, hd]) ds
  have hnan : Tag.nanWords.contains (String.ofList n.text) = false := by
    rw [htext]
    exact notContains_of_beginsNumber (by decide) hc cs
  unfold Tag.isFloat
  simp only [tagWithoutSign_text, hinfinity, hnan, Bool.or_false]
  cases hwhole : n.isWhole with
  | true =>
    rw [(span_body_of_isWhole hwhole).2]
    rfl
  | false =>
    obtain ⟨hfraction, hpower⟩ := fraction_of_isPortable h hwhole
    have hspan : n.body.span (· ≠ '.') =
        (n.whole, '.' :: (n.fraction ++ Numeral.powerText n.power)) := by
      rw [n.body_of_fraction hfraction]
      refine Document.Json.span_append (fun c hc => ?_) (fun c hc => ?_)
      · simpa using ne_of_isDigit (n.digit_whole c hc) rfl
      · cases hc
        rfl
    have hrest : (n.fraction ++ Numeral.powerText n.power).span Tag.isDigitOrLow =
        (n.fraction, Numeral.powerText n.power) := by
      refine Document.Json.span_append (fun c hc => ?_) (fun c hc => ?_)
      · simp [Tag.isDigitOrLow, n.digit_fraction c hc]
      · rcases n.head_powerText c hc with rfl | rfl <;> rfl
    have hisPower : Tag.isPower (Numeral.powerText n.power) = true := by
      cases hp : n.power with
      | none => rfl
      | some p => exact isPower_of_sign (hpower p hp)
    rw [hspan]
    simp only [hrest, beginsWithDigit_of_digits n.stands.begun n.digit_whole, hisPower]
    rfl

theorem isInt_text {n : Numeral} (h : n.isWhole = true) : Tag.isInt n.text = true := by
  obtain ⟨hbody, -⟩ := span_body_of_isWhole h
  unfold Tag.isInt
  rw [tagWithoutSign_text, hbody]
  have hwhole := n.stands
  generalize n.whole = digits at hwhole
  obtain ⟨c, cs, rfl⟩ := List.exists_cons_of_ne_nil hwhole.begun
  by_cases hc : c = '0'
  · cases hwhole.zero (by rw [hc]; rfl)
    rfl
  · split
    · rfl
    · next heq => exact absurd (List.cons.inj heq).1 hc
    · next heq => exact absurd (List.cons.inj heq).1 hc
    · next heq => exact absurd (List.cons.inj heq).1 hc
    · have hdigits := beginsWithDigit_of_digits hwhole.begun (List.all_eq_true.1 hwhole.digit)
      simp [Tag.beginsWithOneToNine, hdigits, hc]

/-- A number has the form of one. -/
theorem ofPlain_numeral {n : Numeral} (h : n.isPortable = true) :
    Tag.ofPlain (String.ofList n.text) = if n.isWhole then .int else .float := by
  obtain ⟨c, cs, htext, hc⟩ := exists_text n
  have hnone : '\n' ∉ n.text := fun hmem => by cases inWord_of_numeral n _ hmem
  have hbreak : String.ofList n.text ≠ "\n" := by
    intro heq
    have hlist := congrArg String.toList heq
    rw [String.toList_ofList] at hlist
    exact hnone (by rw [hlist]; decide)
  have hfinal : Text.withoutFinalBreak n.text = n.text :=
    if_neg fun hlast => hnone (List.mem_of_getLast? hlast)
  have htruth : Tag.truthWords.contains (String.ofList n.text) = false := by
    rw [htext]
    exact notContains_of_beginsNumber (by decide) hc cs
  rw [Tag.ofPlain, if_neg hbreak, String.toList_ofList, hfinal, Tag.ofForm]
  simp only [htruth, isFloat_text h]
  cases hwhole : n.isWhole with
  | true => simp [isInt_text hwhole]
  | false => simp

/-! ## Values -/

theorem hexValue_of_isDigit (h : isDigit ch = true) :
    hexValue? ch = some (ch.toNat - '0'.toNat) ∧ ch.toNat - '0'.toNat < 10 := by
  simp only [isDigit, Bool.and_eq_true, decide_eq_true_eq] at h
  refine ⟨if_pos h, ?_⟩
  have hmost : ch.toNat ≤ 57 := h.2
  have hzero : '0'.toNat = 48 := rfl
  omega

theorem digitsNumber_eq_foldl {digits : List Char} (hdigit : ∀ c ∈ digits, isDigit c = true)
    (n : Nat) : digits.foldl (fun n c => n * 10 + (hexValue? c).getD 0) n =
      digits.foldl (fun n c => n * 10 + (c.toNat - '0'.toNat)) n := by
  induction digits generalizing n with
  | nil => rfl
  | cons c digits ih =>
    obtain ⟨hc, hrest⟩ := List.forall_mem_cons.1 hdigit
    rw [List.foldl_cons, List.foldl_cons, (hexValue_of_isDigit hc).1, ih hrest]
    rfl

theorem whole_eq {digits : List Char} (hdigit : ∀ c ∈ digits, isDigit c = true)
    (hzero : digits.head? ≠ some '0') (hbegun : digits ≠ [])
    (hshort : digits.length ≤ Number.digitLimit) :
    Scalar.whole 10 digits = .ok (Int.ofNat (digitsNumber digits)) := by
  have hnumerals := numerals_eq fun c hc => inWord_of_isDigit (hdigit c hc)
  have hsign : Scalar.withoutSign digits = (false, digits) := by
    obtain ⟨c, cs, rfl⟩ := List.exists_cons_of_ne_nil hbegun
    exact withoutSign_of_isDigit (hdigit c (List.mem_cons_self ..)) cs
  have hmark : Scalar.withoutMark 10 digits = digits := by
    unfold Scalar.withoutMark
    split
    · exact absurd rfl hzero
    · rfl
  have hspan : digits.span (fun c => (hexValue? c).any (· < 10)) = (digits, []) := by
    refine Document.Json.span_eq_self fun c hc => ?_
    obtain ⟨hvalue, hlt⟩ := hexValue_of_isDigit (hdigit c hc)
    rw [hvalue]
    exact decide_eq_true hlt
  unfold Scalar.whole
  simp only [hnumerals, hsign, hmark, hspan]
  rw [if_neg (by simpa using hshort), if_neg (by simpa using hbegun), digitsNumber_eq_foldl hdigit]
  rfl

theorem int_numeral {n : Numeral} (h : n.isWhole = true) :
    Scalar.int (String.ofList n.text) = .ok n.document := by
  obtain ⟨hbody, -⟩ := span_body_of_isWhole h
  have hmagnitude : Scalar.magnitude n.whole = .ok (Int.ofNat (digitsNumber n.whole)) := by
    have hstands := n.stands
    have hshort : n.whole.length ≤ Number.digitLimit := by
      simp only [Numeral.isWhole, Bool.and_eq_true, List.isEmpty_iff,
        Option.isNone_iff_eq_none] at h
      exact n.short h.1 h.2
    generalize n.whole = digits at hstands hshort
    have hdigit := List.all_eq_true.1 hstands.digit
    obtain ⟨c, cs, rfl⟩ := List.exists_cons_of_ne_nil hstands.begun
    by_cases hc : c = '0'
    · cases hstands.zero (by rw [hc]; rfl)
      rfl
    · have hcolon : (c :: cs).contains ':' = false := by
        rw [List.contains_eq_mem, decide_eq_false_iff_not]
        exact fun hmem => ne_of_isDigit (hdigit _ hmem) rfl rfl
      have hhead : (c :: cs).head? ≠ some '0' := fun heq => hc (Option.some.inj heq)
      unfold Scalar.magnitude
      split
      · next heq => cases heq
      · next heq => exact absurd (List.cons.inj heq).1 hc
      · next heq => exact absurd (List.cons.inj heq).1 hc
      · next heq => exact absurd (List.cons.inj heq).1 hc
      · next heq => exact absurd (List.cons.inj heq).1 hc
      · rw [hcolon, if_neg Bool.false_ne_true]
        exact whole_eq hdigit hhead (List.cons_ne_nil _ _) hshort
  rw [Scalar.int, joined_eq (inWord_of_numeral n), withoutSign_text, hbody]
  simp only [hmagnitude]
  rw [Numeral.document, if_pos h]
  rfl

theorem signed?_body {n : Numeral} (h : n.isPortable = true) (hwhole : n.isWhole = false) :
    Reading.signed? n.body = some (.ofDecimal false (digitsNumber (n.whole ++ n.fraction))
      (n.exponent - Int.ofNat n.fraction.length)) := by
  obtain ⟨c, cs, hbody, hdigit⟩ := n.exists_body
  obtain ⟨hfraction, hpower⟩ := fraction_of_isPortable h hwhole
  have hdecimal : Reading.decimal? false n.body = some (.ofDecimal false
      (digitsNumber (n.whole ++ n.fraction)) (n.exponent - Int.ofNat n.fraction.length)) := by
    have hspan : n.body.span isDigit =
        (n.whole, '.' :: (n.fraction ++ Numeral.powerText n.power)) := by
      rw [n.body_of_fraction hfraction]
      refine Document.Json.span_append n.digit_whole fun c hc => ?_
      cases hc
      rfl
    have hrest : (n.fraction ++ Numeral.powerText n.power).span isDigit =
        (n.fraction, Numeral.powerText n.power) := by
      refine Document.Json.span_append n.digit_fraction fun c hc => ?_
      rcases n.head_powerText c hc with rfl | rfl <;> rfl
    unfold Reading.decimal?
    rw [hspan]
    simp only [hrest]
    rw [if_neg (by simp [n.stands.begun])]
    cases hp : n.power with
    | none => simp [Numeral.powerText, Document.Json.powerPart?, Numeral.exponent, hp]
    | some p =>
      simp [Numeral.powerText, Document.Json.powerPart?_text (hpower p hp), Numeral.exponent, hp]
  have hword : ["inf", "infinity", "nan"].contains
      (String.ofList ((c :: cs).map Char.toLower)) = false := by
    rw [List.map_cons, Document.Json.toLower_of_isDigit hdigit]
    exact notContains_of_beginsNumber (by decide) (by simp [beginsNumber, hdigit]) _
  simp only [List.contains_cons, List.contains_nil, Bool.or_false, Bool.or_eq_false_iff,
    beq_eq_false_iff_ne] at hword
  have hsign : Reading.signed? n.body = (
      let signed := Scalar.withoutSign n.body
      let word := String.ofList (signed.2.map Char.toLower)
      if word = "inf" ∨ word = "infinity" then some (.infinity signed.1)
      else if word = "nan" then some .nan
      else Reading.decimal? signed.1 signed.2) := rfl
  rw [hbody] at hdecimal ⊢
  rw [hbody, withoutSign_of_isDigit hdigit] at hsign
  rw [hsign]
  dsimp only
  rw [if_neg (not_or.2 ⟨hword.1, hword.2.1⟩), if_neg hword.2.2, hdecimal]

theorem float_numeral {n : Numeral} (h : n.isPortable = true) (hwhole : n.isWhole = false) :
    Scalar.float (String.ofList n.text) = .ok n.document := by
  rw [← n.document_lowered]
  have hform := plainForm_numeral n
  have hword := inWord_of_numeral n.lowered
  rw [← n.isPortable_lowered] at h
  rw [← n.isWhole_lowered] at hwhole
  generalize n.lowered = low at hform hword h hwhole
  obtain ⟨c, cs, hbody, hdigit⟩ := low.exists_body
  obtain ⟨d, ds, htext, -⟩ := exists_text low
  have hbodyWord : ∀ ch ∈ low.body, inWord ch = true := by
    intro ch hch
    refine hword ch ?_
    rw [Numeral.text]
    split
    · exact List.mem_cons_of_mem _ hch
    · exact hch
  obtain ⟨x, hnumber, hsigned⟩ : ∃ x, Scalar.number low.body = .ok x ∧
      (if low.negative then x.negate else x) = low.float := by
    refine ⟨_, by rw [Scalar.number, numerals_eq hbodyWord, signed?_body h hwhole], ?_⟩
    rw [Numeral.float]
    cases low.negative
    · rw [if_neg Bool.false_ne_true]
    · rw [if_pos rfl, Number.Binary64.negate_ofDecimal]
  have hcolon : low.body.contains ':' = false := by
    rw [List.contains_eq_mem, decide_eq_false_iff_not]
    exact fun hmem => by cases hbodyWord _ hmem
  have hinfinity : low.body ≠ ".inf".toList := by
    rw [hbody]
    exact fun heq => ne_of_isDigit hdigit rfl (List.cons.inj heq).1
  have hnan : Scalar.isNanWord low.body = false := by
    rw [hbody]
    exact decide_eq_false fun heq => ne_of_isDigit hdigit rfl (List.cons.inj heq).1
  unfold Scalar.float
  simp only [hform, withoutSign_text, if_neg hinfinity, hnan, hcolon, hnumber]
  rw [htext, List.isEmpty_cons, if_neg Bool.false_ne_true, if_neg Bool.false_ne_true,
    if_neg Bool.false_ne_true, Numeral.document, hwhole, if_neg Bool.false_ne_true, ← hsigned]
  rfl

/-- A word or number of JSON is read as the same value. -/
theorem value_atom {a : Atom} (h : a.isPortable = true) :
    Scalar.value (.ofPlain (String.ofList a.text)) (a.text.map .char) = .ok a.document ∧
      Scalar.isOwnNan a.document (String.ofList a.text) = false := by
  cases a with
  | notANumber | infinity => cases h
  | null =>
    have htag : Tag.ofPlain (String.ofList Atom.null.text) = .null := by decide
    rw [htag]
    exact ⟨rfl, rfl⟩
  | bool b =>
    have htag : Tag.ofPlain (String.ofList (Atom.bool b).text) = .bool := by cases b <;> decide
    have hword : Text.lower (String.ofList (Atom.bool b).text) = if b then "true" else "false" := by
      cases b <;> decide
    rw [htag]
    refine ⟨?_, rfl⟩
    rw [Scalar.value, Letter.text_map_char, Scalar.truth, hword]
    cases b <;> rfl
  | numeral n =>
    rw [Atom.text, Atom.document, ofPlain_numeral h]
    cases hwhole : n.isWhole with
    | true =>
      rw [if_pos rfl, Scalar.value, Letter.text_map_char, int_numeral hwhole, Numeral.document,
        if_pos hwhole]
      exact ⟨rfl, rfl⟩
    | false =>
      rw [if_neg Bool.false_ne_true, Scalar.value, Letter.text_map_char, float_numeral h hwhole,
        Numeral.document, hwhole, if_neg Bool.false_ne_true, Scalar.isOwnNan, Numeral.float,
        Number.Binary64.isNan_ofDecimal]
      exact ⟨rfl, rfl⟩

end Scaffold.Yaml
