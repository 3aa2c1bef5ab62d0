/-!
# Filling up to a width

Widths are counted in characters; a longer text is left as it is.
-/
namespace Scaffold.Text

def padLeft (width : Nat) (fill : Char) (s : String) : String :=
  String.ofList (List.replicate (width - s.length) fill ++ s.toList)

def padRight (width : Nat) (fill : Char) (s : String) : String :=
  String.ofList (s.toList ++ List.replicate (width - s.length) fill)

/-- A numeral with at least `width` digits. -/
def zeroPadded (width n : Nat) : String := padLeft width '0' (toString n)

theorem isDigit_of_mem_numeral {n : Nat} {c : Char} (h : c ∈ (toString n).toList) :
    c.isDigit = true := by
  have hdigits : c ∈ Nat.toDigits 10 n := by
    simpa using h
  exact Nat.isDigit_of_mem_toDigits (by decide) (by decide) hdigits

theorem isDigit_of_mem_zeroPadded {width n : Nat} {c : Char}
    (h : c ∈ (zeroPadded width n).toList) : c.isDigit = true := by
  rw [zeroPadded, padLeft, String.toList_ofList, List.mem_append] at h
  rcases h with hzero | hdigit
  · rw [(List.mem_replicate.1 hzero).2]
    rfl
  · exact isDigit_of_mem_numeral hdigit

/-- The hexadecimal digits of a number, in small letters, at least `width` of them. -/
def hexDigits (width n : Nat) : List Char :=
  let digits := Nat.toDigits 16 n
  List.replicate (width - digits.length) '0' ++ digits

/-- Every third digit from the right is followed by a comma, as in `1,234,567`. -/
def groupedByThousands (n : Nat) : String :=
  let rec groups : List Char → List Char
    | a :: b :: c :: d :: rest => a :: b :: c :: ',' :: groups (d :: rest)
    | short => short
  String.ofList (groups (toString n).toList.reverse).reverse

/-- The same for a number with a sign. -/
def signedByThousands (i : Int) : String :=
  (if i < 0 then "-" else "") ++ groupedByThousands i.natAbs

def repeated (n : Nat) (c : Char) : String := String.ofList (List.replicate n c)

end Scaffold.Text
