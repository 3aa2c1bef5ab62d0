import Scaffold.Proofs.JsonLimits

/-!
# The notation of JSON

How a document is written down as JSON: every number, every character of a string and every blank
as it stands in the text. Whatever is read as JSON is such a notation, and is read as the document
that the notation stands for.
-/
namespace Scaffold.Document.Json

open Number

/-! ## Blanks -/

/-- The blanks between two marks. -/
structure Gap where
  chars : List Char
  blank : ∀ c ∈ chars, isBlank c = true

theorem exists_gap (cs : List Char) : ∃ gap : Gap, cs = gap.chars ++ skipBlank cs :=
  ⟨⟨cs.takeWhile isBlank, fun _ h => List.all_eq_true.1 List.all_takeWhile _ h⟩,
    List.takeWhile_append_dropWhile.symm⟩

/-! ## Strings -/

/-- Four hexadecimal digits. -/
structure HexDigits where
  a : Char
  b : Char
  c : Char
  d : Char
  number : Nat
  denote : hexNumber? [a, b, c, d] = some number

/-- A letter of a string as it is written. -/
inductive Piece
  | plain (c : Char) (h : c ≠ '"' ∧ c ≠ '\\' ∧ 0x20 ≤ c.toNat)
  | short (mark c : Char) (h : escaped? mark = some c)
  | unit (digits : HexDigits)
  | pair (high low : HexDigits) (h : isHighUnit high.number = true ∧ isLowUnit low.number = true)

namespace Piece

def escape (digits : HexDigits) : List Char :=
  ['\\', 'u', digits.a, digits.b, digits.c, digits.d]

def text : Piece → List Char
  | plain c _ => [c]
  | short mark _ _ => ['\\', mark]
  | unit digits => escape digits
  | pair high low _ => escape high ++ escape low

def letter : Piece → Letter
  | plain c _ => .char c
  | short _ c _ => .char c
  | unit digits => letterOfUnit digits.number
  | pair high low _ => .char (charOfPair high.number low.number)

end Piece

/-- The letters of a string, each as it is written. -/
abbrev Quoted := List Piece

namespace Quoted

/-- What is written after the opening quote. -/
def text : Quoted → List Char
  | [] => ['"']
  | p :: rest => p.text ++ text rest

def letters (q : Quoted) : List Letter := q.map Piece.letter

def document (q : Quoted) : Document := .ofLetters q.letters

end Quoted

theorem exists_of_prepend {l : Letter} {result : Except Fault (List Letter × List Char)}
    {letters : List Letter} {rest : List Char} (h : prepend l result = .ok (letters, rest)) :
    ∃ others, result = .ok (others, rest) ∧ letters = l :: others := by
  rcases result with f | ⟨others, left⟩
  · cases h
  · cases h
    exact ⟨others, rfl, rfl⟩

/-- A string is read off piece by piece. -/
theorem exists_quoted {opening cs rest : List Char} {letters : List Letter}
    (h : string opening cs = .ok (letters, rest)) :
    ∃ q : Quoted, cs = q.text ++ rest ∧ letters = q.letters := by
  have hcons (p : Piece) {next : List Char} {others : List Letter}
      (ih : ∃ q : Quoted, next = q.text ++ rest ∧ others = q.letters) :
      ∃ q : Quoted, p.text ++ next = q.text ++ rest ∧ p.letter :: others = q.letters := by
    obtain ⟨q, rfl, rfl⟩ := ih
    exact ⟨p :: q, by simp [Quoted.text], rfl⟩
  fun_induction string opening cs generalizing letters
  case case2 =>
    cases h
    exact ⟨[], rfl, rfl⟩
  case case6 hhigh hpair low hlow hlowUnit ih =>
    obtain ⟨others, hread, rfl⟩ := exists_of_prepend h
    exact hcons (.pair ⟨_, _, _, _, _, hhigh⟩ ⟨_, _, _, _, _, hlow⟩ ⟨hpair, hlowUnit⟩) (ih hread)
  case case7 | case8 | case10 =>
    rename_i ih
    obtain ⟨others, hread, rfl⟩ := exists_of_prepend h
    exact hcons (.unit ⟨_, _, _, _, _, by assumption⟩) (ih hread)
  case case12 mark next _ _ _ c hmark ih =>
    obtain ⟨others, hread, rfl⟩ := exists_of_prepend h
    exact hcons (.short mark c hmark) (ih hread)
  case case15 c next hquote hend _ _ _ hescape hcontrol ih =>
    obtain ⟨others, hread, rfl⟩ := exists_of_prepend h
    refine hcons (.plain c ⟨hquote, ?_, Nat.not_lt.1 hcontrol⟩) (ih hread)
    intro hc
    cases next with
    | nil => exact hend hc rfl
    | cons d next => exact hescape d next hc rfl
  all_goals cases h

/-! ## Numbers -/

/-- A power of ten with its mark, and whether it is negative if it has a sign. -/
structure Power where
  mark : Char
  sign : Option Bool
  digits : List Char
  marks : mark = 'e' ∨ mark = 'E'
  begun : digits ≠ []
  digit : digits.all isDigit = true

namespace Power

def signText : Option Bool → List Char
  | none => []
  | some true => ['-']
  | some false => ['+']

def text (p : Power) : List Char := p.mark :: signText p.sign ++ p.digits

def exponent (p : Power) : Int :=
  let n := Int.ofNat (digitsNumber p.digits)
  if p.sign = some true then -n else n

end Power

theorem exists_power {cs rest : List Char} {power : Int}
    (h : powerPart? cs = some (power, rest)) :
    ∃ p : Power, cs = p.text ++ rest ∧ power = p.exponent := by
  unfold powerPart? at h
  extract_lets signed at h
  have hsigned {mark : Char} (hmark : mark = 'e' ∨ mark = 'E') (sign : Option Bool)
      {ds : List Char} (hread : signed (sign = some true) ds = some (power, rest)) :
      ∃ p : Power, mark :: Power.signText sign ++ ds = p.text ++ rest ∧ power = p.exponent := by
    simp only [signed, List.span_eq_takeWhile_dropWhile] at hread
    split at hread
    · cases hread
    · next digits after hbegun hspan =>
      cases hspan
      cases hread
      have hdigits : ds.takeWhile isDigit ≠ [] := fun hnil => hbegun hnil
      refine ⟨⟨mark, sign, _, hmark, hdigits, List.all_takeWhile⟩, ?_, ?_⟩
      · simp [Power.text, List.takeWhile_append_dropWhile]
      · simp [Power.exponent]
  split at h
  · split at h
    · next hmark => exact hsigned hmark (some true) h
    · cases h
  · split at h
    · next hmark => exact hsigned hmark (some false) h
    · cases h
  · split at h
    · next hmark => exact hsigned hmark none h
    · cases h
  · cases h

/-- The digits before the point of a number. -/
structure Stands (whole : List Char) : Prop where
  begun : whole ≠ []
  digit : whole.all isDigit = true
  zero : whole.head? = some '0' → whole = ['0']

/-- A number as it is written. A zero stands alone before the point, a number without a fraction has
no point, and one that is whole has no more digits than are read. -/
structure Numeral where
  negative : Bool
  whole : List Char
  fraction : List Char
  power : Option Power
  stands : Stands whole
  digit : fraction.all isDigit = true
  short : fraction = [] → power = none → whole.length ≤ digitLimit

namespace Numeral

def fractionText (fraction : List Char) : List Char :=
  if fraction = [] then [] else '.' :: fraction

def powerText : Option Power → List Char
  | some p => p.text
  | none => []

/-- The text after the sign. -/
def body (n : Numeral) : List Char := n.whole ++ fractionText n.fraction ++ powerText n.power

def isWhole (n : Numeral) : Bool := n.fraction.isEmpty && n.power.isNone

def integer (n : Numeral) : Int :=
  let i := Int.ofNat (digitsNumber n.whole)
  if n.negative then -i else i

def exponent (n : Numeral) : Int := (n.power.map Power.exponent).getD 0

def float (n : Numeral) : Binary64 :=
  .ofDecimal n.negative (digitsNumber (n.whole ++ n.fraction))
    (n.exponent - Int.ofNat n.fraction.length)

def document (n : Numeral) : Document := if n.isWhole then .int n.integer else .float n.float

def text (n : Numeral) : List Char := if n.negative then '-' :: n.body else n.body

end Numeral

theorem stands_of_wholePart {cs whole rest : List Char} (h : wholePart cs = some (whole, rest)) :
    Stands whole := by
  have hdigit := (wholePart_eq_some h).2
  unfold wholePart at h
  split at h
  · cases h
    exact ⟨nofun, hdigit, fun _ => rfl⟩
  · next hzero =>
    simp only [List.span_eq_takeWhile_dropWhile] at h
    split at h
    · cases h
    · next hbegun =>
      cases h
      refine ⟨fun hnil => hbegun _ (by rw [hnil]), hdigit, fun hhead => ?_⟩
      cases cs with
      | nil => cases hhead
      | cons c cs =>
        rw [List.head?_takeWhile] at hhead
        obtain ⟨hc, -⟩ := Option.filter_eq_some_iff.1 hhead
        cases hc
        exact absurd rfl (hzero cs)

theorem fractionPart_fst_eq (cs : List Char) : (fractionPart cs).1.all isDigit = true ∧
    cs = Numeral.fractionText (fractionPart cs).1 ++ (fractionPart cs).2 := by
  unfold fractionPart
  split
  · next rest =>
    split
    · exact ⟨rfl, rfl⟩
    · next hbegun =>
      simp only [List.span_eq_takeWhile_dropWhile] at hbegun ⊢
      have hne : rest.takeWhile isDigit ≠ [] := fun hnil => hbegun _ (by rw [hnil])
      refine ⟨List.all_takeWhile, ?_⟩
      rw [Numeral.fractionText, if_neg hne, List.cons_append, List.takeWhile_append_dropWhile]
  · exact ⟨rfl, rfl⟩

/-- The text after a sign. -/
def unsigned : List Char → List Char
  | '-' :: rest => rest
  | cs => cs

theorem unsigned_cons (cs : List Char) : unsigned ('-' :: cs) = cs := rfl

theorem unsigned_of_forall_ne {cs : List Char} (h : ∀ rest, cs ≠ '-' :: rest) :
    unsigned cs = cs := by
  unfold unsigned
  split
  · next rest => exact absurd rfl (h rest)
  · rfl

theorem length_le_of_excess {cs whole rest : List Char}
    (hwhole : wholePart (unsigned cs) = some (whole, rest)) (hfraction : (fractionPart rest).1 = [])
    (hpower : powerPart? (fractionPart rest).2 = none) (h : excess? cs = none) :
    whole.length ≤ digitLimit := by
  unfold excess? at h
  extract_lets body at h
  have hbody : body = unsigned cs := rfl
  rw [hbody, hwhole] at h
  simpa [hfraction, hpower] using h

theorem exists_numeral {negative : Bool} {cs rest : List Char} {d : Document}
    (h : number? negative (unsigned cs) = some (d, rest)) (hexcess : excess? cs = none) :
    ∃ n : Numeral, n.negative = negative ∧ unsigned cs = n.body ++ rest ∧ d = n.document := by
  unfold number? at h
  obtain ⟨⟨whole, after⟩, hwhole, hnumber⟩ := Option.map_eq_some_iff.1 h
  have hshort := length_le_of_excess hwhole
  obtain ⟨htext, -⟩ := wholePart_eq_some hwhole
  obtain ⟨hdigits, hafter⟩ := fractionPart_fst_eq after
  rcases hfound : fractionPart after with ⟨fraction, left⟩
  dsimp only at hnumber
  rw [hfound] at hnumber hdigits hafter hshort
  dsimp only at hnumber hdigits hafter hshort
  rcases hpower : powerPart? left with _ | ⟨power, last⟩
  · let n : Numeral := ⟨negative, whole, fraction, none, stands_of_wholePart hwhole, hdigits,
      fun hnil _ => hshort hnil hpower hexcess⟩
    rw [hpower] at hnumber
    have hd : (d, rest) = (n.document, left) := by
      rw [← hnumber, Numeral.document]
      cases fraction <;> rfl
    cases hd
    refine ⟨n, rfl, ?_, rfl⟩
    rw [htext, hafter]
    simp [n, Numeral.body, Numeral.powerText]
  · obtain ⟨p, rfl, rfl⟩ := exists_power hpower
    let n : Numeral :=
      ⟨negative, whole, fraction, some p, stands_of_wholePart hwhole, hdigits, nofun⟩
    rw [hpower] at hnumber
    have hd : (d, rest) = (n.document, last) := by
      rw [← hnumber, Numeral.document]
      simp [n, Numeral.isWhole, Numeral.float, Numeral.exponent]
    cases hd
    refine ⟨n, rfl, ?_, rfl⟩
    rw [htext, hafter]
    simp [n, Numeral.body, Numeral.powerText]

/-- A value that is neither a string nor a collection. -/
inductive Atom
  | null
  | bool (b : Bool)
  | notANumber
  | infinity (negative : Bool)
  | numeral (n : Numeral)

namespace Atom

def text : Atom → List Char
  | null => ['n', 'u', 'l', 'l']
  | bool true => ['t', 'r', 'u', 'e']
  | bool false => ['f', 'a', 'l', 's', 'e']
  | notANumber => ['N', 'a', 'N']
  | infinity false => ['I', 'n', 'f', 'i', 'n', 'i', 't', 'y']
  | infinity true => ['-', 'I', 'n', 'f', 'i', 'n', 'i', 't', 'y']
  | numeral n => n.text

def document : Atom → Document
  | null => .null
  | bool b => .bool b
  | notANumber => .float .nan
  | infinity negative => .float (.infinity negative)
  | numeral n => n.document

end Atom

theorem exists_atom {cs rest : List Char} {d : Document} (h : atom? cs = some (d, rest))
    (hexcess : excess? cs = none) : ∃ a : Atom, cs = a.text ++ rest ∧ d = a.document := by
  unfold atom? at h
  split at h
  case h_7 =>
    rename_i after _
    rw [← unsigned_cons after] at h
    obtain ⟨n, hnegative, htext, hd⟩ := exists_numeral h hexcess
    rw [unsigned_cons] at htext
    refine ⟨.numeral n, ?_, hd⟩
    rw [Atom.text, Numeral.text, if_pos hnegative, htext, List.cons_append]
  case h_8 =>
    rename_i hsign
    have hunsigned := unsigned_of_forall_ne hsign
    rw [← hunsigned] at h
    obtain ⟨n, hnegative, htext, hd⟩ := exists_numeral h hexcess
    rw [hunsigned] at htext
    have hpositive : ¬ n.negative = true := by rw [hnegative]; exact nofun
    refine ⟨.numeral n, ?_, hd⟩
    rw [Atom.text, Numeral.text, if_neg hpositive]
    exact htext
  all_goals cases h
  case h_1 => exact ⟨.null, rfl, rfl⟩
  case h_2 => exact ⟨.bool true, rfl, rfl⟩
  case h_3 => exact ⟨.bool false, rfl, rfl⟩
  case h_4 => exact ⟨.notANumber, rfl, rfl⟩
  case h_5 => exact ⟨.infinity false, rfl, rfl⟩
  case h_6 => exact ⟨.infinity true, rfl, rfl⟩

/-! ## Values -/

/-- The name of a member, with the blanks before and after its colon. -/
structure Name where
  quoted : Quoted
  before : Gap
  after : Gap

def Name.text (name : Name) : List Char :=
  '"' :: name.quoted.text ++ name.before.chars ++ ':' :: name.after.chars

mutual

inductive Value
  | atom (a : Atom)
  | string (q : Quoted)
  | emptyArray (gap : Gap)
  | array (gap : Gap) (items : Items)
  | emptyObject (gap : Gap)
  | object (gap : Gap) (members : Members)

/-- The items of an array up to the closing bracket. -/
inductive Items
  | last (v : Value) (after : Gap)
  | more (v : Value) (after before : Gap) (others : Items)

/-- The members of an object up to the closing brace. -/
inductive Members
  | last (name : Name) (v : Value) (after : Gap)
  | more (name : Name) (v : Value) (after before : Gap) (others : Members)

end

mutual

def Value.text : Value → List Char
  | .atom a => a.text
  | .string q => '"' :: q.text
  | .emptyArray gap => '[' :: gap.chars ++ [']']
  | .array gap items => '[' :: gap.chars ++ items.text
  | .emptyObject gap => '\x7b' :: gap.chars ++ ['\x7d']
  | .object gap members => '\x7b' :: gap.chars ++ members.text

def Items.text : Items → List Char
  | .last v after => v.text ++ after.chars ++ [']']
  | .more v after before others => v.text ++ after.chars ++ ',' :: before.chars ++ others.text

def Members.text : Members → List Char
  | .last name v after => name.text ++ v.text ++ after.chars ++ ['\x7d']
  | .more name v after before others =>
    name.text ++ v.text ++ after.chars ++ ',' :: before.chars ++ others.text

end

mutual

def Value.document : Value → Document
  | .atom a => a.document
  | .string q => q.document
  | .emptyArray _ => .list []
  | .array _ items => .list items.documents
  | .emptyObject _ => .map []
  | .object _ members => .map (ofAssignments members.assignments)

def Items.documents : Items → List Document
  | .last v _ => [v.document]
  | .more v _ _ others => v.document :: others.documents

/-- What the members assign, in their order. -/
def Members.assignments : Members → List (Document × Document)
  | .last name v _ => [(name.quoted.document, v.document)]
  | .more name v _ _ others => (name.quoted.document, v.document) :: others.assignments

end

/-- A value and the blanks around it. -/
structure Notation where
  before : Gap
  value : Value
  after : Gap

def Notation.text (n : Notation) : List Char := n.before.chars ++ n.value.text ++ n.after.chars

def Notation.document (n : Notation) : Document := n.value.document

/-! ## There are no sets in it -/

section

variable {order : SetOrder}

theorem arrangedEntries_insert (key value : Document) (entries : List (Document × Document)) :
    arrangedEntries order (insert key value entries) =
      insert key (value.arranged order) (arrangedEntries order entries) := by
  unfold insert
  induction entries with
  | nil => rfl
  | cons e rest ih =>
    obtain ⟨k, v⟩ := e
    rw [insertBy, arrangedEntries, insertBy]
    split
    · rw [arrangedEntries]
    · rw [arrangedEntries, ih]

theorem arrangedEntries_ofAssignments (pairs : List (Document × Document)) :
    arrangedEntries order (ofAssignments pairs) = ofAssignments (arrangedEntries order pairs) := by
  suffices hfrom : ∀ entries, arrangedEntries order
      (pairs.foldl (fun entries e => insert e.1 e.2 entries) entries) =
        (arrangedEntries order pairs).foldl (fun entries e => insert e.1 e.2 entries)
          (arrangedEntries order entries) from hfrom []
  induction pairs with
  | nil => exact fun _ => rfl
  | cons e rest ih =>
    intro entries
    rw [List.foldl_cons, ih, arrangedEntries_insert]
    rfl

theorem arranged_atom (a : Atom) : a.document.arranged order = a.document := by
  cases a with
  | numeral n =>
    rw [Atom.document, Numeral.document]
    split <;> rfl
  | _ => rfl

mutual

/-- JSON has no sets whose items could be given in another order. -/
theorem arranged_value (v : Value) : v.document.arranged order = v.document := by
  cases v with
  | atom a => exact arranged_atom a
  | string q =>
    rw [Value.document, Quoted.document]
    rcases ofLetters_cases q.letters with ⟨_, hq⟩ | ⟨_, _, _, hq⟩ <;> rw [hq] <;> rfl
  | emptyArray => rfl
  | array gap items => rw [Value.document, arranged, arranged_items items]
  | emptyObject => rfl
  | object gap members =>
    rw [Value.document, arranged, arrangedEntries_ofAssignments, arranged_members members]

theorem arranged_items (items : Items) :
    arrangedItems order items.documents = items.documents := by
  cases items with
  | last v _ => rw [Items.documents, arrangedItems, arrangedItems, arranged_value v]
  | more v _ _ others =>
    rw [Items.documents, arrangedItems, arranged_value v, arranged_items others]

theorem arranged_members (members : Members) :
    arrangedEntries order members.assignments = members.assignments := by
  cases members with
  | last name v _ =>
    rw [Members.assignments, arrangedEntries, arrangedEntries, arranged_value v]
  | more name v _ _ others =>
    rw [Members.assignments, arrangedEntries, arranged_value v, arranged_members others]

end

end

/-! ## Whatever is read is a notation -/

/-- What is read off a text is written there, in some notation, before the rest. -/
def IsValue (cs : List Char) (d : Document) (rest : List Char) : Prop :=
  ∃ v : Value, cs = v.text ++ rest ∧ d = v.document

def AreItems (cs : List Char) (ds : List Document) (rest : List Char) : Prop :=
  ∃ items : Items, cs = items.text ++ rest ∧ ds = items.documents

def AreMembers (cs : List Char) (pairs : List (Document × Document)) (rest : List Char) : Prop :=
  ∃ members : Members, cs = members.text ++ rest ∧ pairs = members.assignments

theorem exists_of_bind {α β : Type} {act : Except Fault α} {next : α → Except Fault β} {b : β}
    (h : (act >>= next) = .ok b) : ∃ a, act = .ok a ∧ next a = .ok b := by
  cases act with
  | error f => cases h
  | ok a => exact ⟨a, rfl, h⟩

/-- A mark after blanks. -/
theorem exists_gap_of_skipBlank {cs after : List Char} {c : Char} (h : skipBlank cs = c :: after) :
    ∃ gap : Gap, cs = gap.chars ++ c :: after := by
  obtain ⟨gap, hgap⟩ := exists_gap cs
  exact ⟨gap, h ▸ hgap⟩

section

variable {steps levels : Nat} {cs rest : List Char}

theorem isValue_succ
    (hmembers : ∀ {levels cs pairs rest}, members steps levels cs = .ok (pairs, rest) →
      AreMembers cs pairs rest)
    (hitems : ∀ {levels cs ds rest}, items steps levels cs = .ok (ds, rest) → AreItems cs ds rest)
    {d : Document} (h : value (steps + 1) levels cs = .ok (d, rest)) : IsValue cs d rest := by
  unfold value at h
  split at h
  · obtain ⟨⟨letters, left⟩, hread, hrest⟩ := exists_of_bind h
    obtain ⟨q, rfl, rfl⟩ := exists_quoted hread
    cases hrest
    exact ⟨.string q, by simp [Value.text], rfl⟩
  · next after =>
    split at h
    · cases h
    · next hclose =>
      obtain ⟨gap, rfl⟩ := exists_gap_of_skipBlank hclose
      cases h
      exact ⟨.emptyObject gap, by simp [Value.text], rfl⟩
    · obtain ⟨⟨pairs, left⟩, hread, hrest⟩ := exists_of_bind h
      obtain ⟨gap, hgap⟩ := exists_gap after
      obtain ⟨ms, hms, rfl⟩ := hmembers hread
      cases hrest
      exact ⟨.object gap ms, by rw [hgap, hms]; simp [Value.text], rfl⟩
  · next after =>
    split at h
    · cases h
    · next hclose =>
      obtain ⟨gap, rfl⟩ := exists_gap_of_skipBlank hclose
      cases h
      exact ⟨.emptyArray gap, by simp [Value.text], rfl⟩
    · obtain ⟨⟨ds, left⟩, hread, hrest⟩ := exists_of_bind h
      obtain ⟨gap, hgap⟩ := exists_gap after
      obtain ⟨its, hits, rfl⟩ := hitems hread
      cases hrest
      exact ⟨.array gap its, by rw [hgap, hits]; simp [Value.text], rfl⟩
  · split at h
    · cases h
    · next found hexcess hatom =>
      cases h
      obtain ⟨a, hcs, rfl⟩ := exists_atom hatom hexcess
      exact ⟨.atom a, hcs, rfl⟩
    · cases h

theorem areMembers_succ
    (hvalue : ∀ {levels cs d rest}, value steps levels cs = .ok (d, rest) → IsValue cs d rest)
    (hmembers : ∀ {levels cs pairs rest}, members steps levels cs = .ok (pairs, rest) →
      AreMembers cs pairs rest)
    {pairs : List (Document × Document)} (h : members (steps + 1) levels cs = .ok (pairs, rest)) :
    AreMembers cs pairs rest := by
  unfold members at h
  split at h
  · obtain ⟨⟨letters, left⟩, hname, hcolon⟩ := exists_of_bind h
    obtain ⟨q, rfl, rfl⟩ := exists_quoted hname
    clear h hname
    dsimp only at hcolon
    split at hcolon
    · next after hgap =>
      obtain ⟨before, rfl⟩ := exists_gap_of_skipBlank hgap
      obtain ⟨between, hbetween⟩ := exists_gap after
      obtain ⟨⟨d, left⟩, hread, hend⟩ := exists_of_bind hcolon
      obtain ⟨v, hv, rfl⟩ := hvalue hread
      rw [hbetween, hv]
      clear hcolon hread
      dsimp only at hend
      split at hend
      · next hgap =>
        obtain ⟨gap, rfl⟩ := exists_gap_of_skipBlank hgap
        cases hend
        exact ⟨.last ⟨q, before, between⟩ v gap, by simp [Members.text, Name.text], rfl⟩
      · next after hgap =>
        obtain ⟨gap, rfl⟩ := exists_gap_of_skipBlank hgap
        obtain ⟨next, hnext⟩ := exists_gap after
        obtain ⟨⟨pairs, left⟩, hread, hrest⟩ := exists_of_bind hend
        obtain ⟨others, hothers, rfl⟩ := hmembers hread
        cases hrest
        refine ⟨.more ⟨q, before, between⟩ v gap next others, ?_, rfl⟩
        rw [hnext, hothers]
        simp [Members.text, Name.text]
      · cases hend
    · cases hcolon
  · cases h

theorem areItems_succ
    (hvalue : ∀ {levels cs d rest}, value steps levels cs = .ok (d, rest) → IsValue cs d rest)
    (hitems : ∀ {levels cs ds rest}, items steps levels cs = .ok (ds, rest) → AreItems cs ds rest)
    {ds : List Document} (h : items (steps + 1) levels cs = .ok (ds, rest)) :
    AreItems cs ds rest := by
  unfold items at h
  obtain ⟨⟨d, left⟩, hread, hend⟩ := exists_of_bind h
  obtain ⟨v, rfl, rfl⟩ := hvalue hread
  clear h hread
  dsimp only at hend
  split at hend
  · next hgap =>
    obtain ⟨gap, rfl⟩ := exists_gap_of_skipBlank hgap
    cases hend
    exact ⟨.last v gap, by simp [Items.text], rfl⟩
  · next after hgap =>
    obtain ⟨gap, rfl⟩ := exists_gap_of_skipBlank hgap
    obtain ⟨next, hnext⟩ := exists_gap after
    obtain ⟨⟨ds, left⟩, hread, hrest⟩ := exists_of_bind hend
    obtain ⟨others, hothers, rfl⟩ := hitems hread
    cases hrest
    refine ⟨.more v gap next others, ?_, rfl⟩
    rw [hnext, hothers]
    simp [Items.text]
  · cases hend

end

/-- Values, members and items are notations alike, by induction on the steps that they share. -/
theorem notations (steps : Nat) :
    (∀ {levels cs d rest}, value steps levels cs = .ok (d, rest) → IsValue cs d rest) ∧
    (∀ {levels cs pairs rest}, members steps levels cs = .ok (pairs, rest) →
      AreMembers cs pairs rest) ∧
    ∀ {levels cs ds rest}, items steps levels cs = .ok (ds, rest) → AreItems cs ds rest := by
  induction steps with
  | zero => exact ⟨nofun, nofun, nofun⟩
  | succ steps ih =>
    obtain ⟨hvalue, hmembers, hitems⟩ := ih
    exact ⟨isValue_succ hmembers hitems, areMembers_succ hvalue hmembers,
      areItems_succ hvalue hitems⟩

/-- A text that is read as JSON is a notation of what it is read as. -/
theorem exists_notation {s : String} {d : Document} (h : parse s = .ok d) :
    ∃ n : Notation, s.toList = n.text ∧ d = n.document := by
  unfold parse at h
  dsimp only at h
  split at h
  · next v hread =>
    cases h
    unfold wholeText at hread
    split at hread
    · cases hread
    · obtain ⟨⟨v, left⟩, hread, hrest⟩ := exists_of_bind hread
      obtain ⟨before, hbefore⟩ := exists_gap s.toList
      obtain ⟨v, hv, rfl⟩ := (notations _).1 hread
      obtain ⟨after, hafter⟩ := exists_gap left
      dsimp only at hrest
      split at hrest
      · next hend =>
        cases hrest
        refine ⟨⟨before, v, after⟩, ?_, rfl⟩
        rw [hbefore, hv, hafter, hend]
        simp [Notation.text]
      · cases hrest
  · cases h

end Scaffold.Document.Json
