import Scaffold.Text.Case

/-!
# Names in their several spellings

The generated layers spell one name in different ways: `viewCount` in code is `view_count` in a
table. The conversions go character by character and never look for words, so a run of capitals
is split at each of them.
-/
namespace Scaffold.Text

/-- Every capital but the first character opens a new part. -/
def snakeChars : List Char → List Char
  | [] => []
  | c :: rest =>
    lowerChar c ++ rest.flatMap fun d => if isUppercase d then '_' :: lowerChar d else lowerChar d

/-- Underscores vanish and raise the character after them; `raised` says that one just passed. -/
def camelChars (raised : Bool) : List Char → List Char
  | [] => []
  | c :: rest =>
    if c = '_' then camelChars true rest
    else (if raised then upperChar c else [c]) ++ camelChars false rest

def pascalChars (cs : List Char) : List Char :=
  match camelChars false cs with
  | [] => []
  | c :: rest => upperChar c ++ rest

def kebabChars (cs : List Char) : List Char :=
  (snakeChars cs).map fun c => if c = '_' then '-' else c

/-- The singular of a regular English plural, by its ending alone. -/
def singularChars (cs : List Char) : List Char :=
  let endsIn (tail : String) : Bool := tail.toList.isSuffixOf cs
  if endsIn "ies" then cs.take (cs.length - 3) ++ ['y']
  else if endsIn "ses" || endsIn "zes" || endsIn "xes" then cs.take (cs.length - 2)
  else if endsIn "s" then cs.take (cs.length - 1)
  else cs

def snakeCase (s : String) : String := String.ofList (snakeChars s.toList)
def camelCase (s : String) : String := String.ofList (camelChars false s.toList)
def pascalCase (s : String) : String := String.ofList (pascalChars s.toList)
def kebabCase (s : String) : String := String.ofList (kebabChars s.toList)
def singular (s : String) : String := String.ofList (singularChars s.toList)

@[simp] theorem toList_snakeCase (s : String) : (snakeCase s).toList = snakeChars s.toList := by
  simp [snakeCase]

@[simp] theorem toList_camelCase (s : String) :
    (camelCase s).toList = camelChars false s.toList := by
  simp [camelCase]

@[simp] theorem toList_pascalCase (s : String) : (pascalCase s).toList = pascalChars s.toList := by
  simp [pascalCase]

@[simp] theorem toList_kebabCase (s : String) : (kebabCase s).toList = kebabChars s.toList := by
  simp [kebabCase]

end Scaffold.Text
