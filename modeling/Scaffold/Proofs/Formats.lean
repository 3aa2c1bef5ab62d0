import Scaffold.Proofs.Equality
import Scaffold.Proofs.Stumbling
import Scaffold.Proofs.Unrolling

/-!
# One text in two formats

A text that is a JSON object is loaded alike from a JSON file and from a YAML file if YAML
understands its notation alike and reaches down to its innermost collection: then both files have
the same schema, or neither has one.
-/
namespace Scaffold.Loading

open Run
open Document.Json (Gap Quoted Name Power Numeral Value Members Notation)

/-! ## Outcomes -/

/-- The schema that a file loads to in a world, if it loads to one. -/
def outcome (path : String) (w : World) : Option Schema :=
  ((schema (.file path)).start w).1.toOption

variable {s path : String} {w : World} {entries : Entries}

/-- Whatever can be read from the entries of a file is its outcome. -/
theorem outcome_of_document {w' : World}
    (h : (document (Path.ofString path)).start w = (.ok entries, w')) :
    outcome path w = match Schema.read (.map entries) with
      | .valid s => some s
      | .invalid _ => none := by
  unfold outcome schema
  rw [start_bind_of_ok h]
  have hchecked := start_checked (some (Path.ofString path).text) Schema.read entries w'
  cases hread : Schema.read (.map entries) with
  | valid s =>
    rw [hread] at hchecked
    rw [start_bind_of_ok hchecked]
    rfl
  | invalid problems =>
    rw [hread] at hchecked
    rw [start_bind_of_error hchecked]
    rfl

/-- The entries of a file whose text is parsed as them. -/
theorem start_document (h : Holds w (Path.ofString path) s)
    (hparse : (parse (Path.ofString path) (Text.lower (Path.ofString path).suffix) s).start w =
      (.ok (.map entries), w)) :
    (document (Path.ofString path)).start w = (.ok entries, w) := by
  unfold document
  rw [start_bind_of_ok (start_text_of_holds h), start_bind_of_ok hparse]
  rfl

theorem start_document_json (h : Holds w (Path.ofString path) s)
    (hsuffix : Format.ofSuffix (Text.lower (Path.ofString path).suffix) = .json)
    (hparse : Document.Json.parse s = .ok (.map entries)) :
    (document (Path.ofString path)).start w = (.ok entries, w) := by
  refine start_document h ?_
  have hread : (jsonOrWhy s).start w = (.ok (.ok (.map entries)), w) := by
    rw [start_jsonOrWhy, hparse]
  rw [parse, hsuffix]
  exact (start_bind_of_ok hread).trans rfl

theorem start_document_yaml (h : Holds w (Path.ofString path) s)
    (hsuffix : Format.ofSuffix (Text.lower (Path.ofString path).suffix) = .yaml)
    (hparse : Yaml.parse s = .ok (.map entries))
    (harranged : (Document.map entries).arranged w.order = .map entries) :
    (document (Path.ofString path)).start w = (.ok entries, w) := by
  refine start_document h ?_
  rw [parse, hsuffix]
  simp only [ofYaml, hparse]
  change (Except.ok ((Document.map entries).arranged w.order), w) = _
  rw [harranged]

theorem isObject_of_document {v : Value} (h : .map entries = v.document) : v.isObject = true := by
  cases v with
  | atom a =>
    cases a with
    | numeral n =>
      rw [Value.document, Document.Json.Atom.document, Numeral.document] at h
      split at h <;> cases h
    | _ => cases h
  | string q =>
    rw [Value.document, Quoted.document] at h
    rcases Document.ofLetters_cases q.letters with ⟨_, hq⟩ | ⟨_, _, _, hq⟩
    · rw [hq] at h
      cases h
    · rw [hq] at h
      cases h
  | emptyArray | array => cases h
  | emptyObject | object => rfl

/-! ## Two files with one text -/

/-- A world where a text is in a file of either format. -/
def twinWorld (s : String) : World :=
  { bareWorld with
    files := (FileSystem.empty.put ["a.json"] (.file s.toUTF8)).put ["a.yaml"] (.file s.toUTF8) }

theorem eq_ok_of_toOption {ε α : Type} {result : Except ε α} {a : α}
    (h : result.toOption = some a) : result = .ok a := by
  cases result with
  | error => cases h
  | ok b =>
    cases h
    rfl

theorem holds_twin (hdecode : (Text.Utf8.decode s.toUTF8).toOption = some s)
    (hplain : String.ofList (Text.normalizeNewlines s.toList) = s) :
    Holds (twinWorld s) (Path.ofString "a.json") s ∧
      Holds (twinWorld s) (Path.ofString "a.yaml") s :=
  ⟨⟨by decide +kernel, _, s, rfl, eq_ok_of_toOption hdecode, hplain.symm⟩,
    ⟨by decide +kernel, _, s, rfl, eq_ok_of_toOption hdecode, hplain.symm⟩⟩

/-- A schema whose only field has a default; the blanks and the names are as short as can be. -/
def textOf (standard : String) : String :=
  "\x7b\"name\":\"N\",\"tableName\":\"t\",\"fields\":[\x7b\"name\":\"f\",\"dbName\":\"f\"," ++
    "\"type\":\"string\",\"default\":" ++ standard ++ "\x7d],\"operations\":[],\"rls\":[]\x7d"

def tight : Gap := ⟨[], nofun⟩

/-- A string without escapes. -/
def spelled (s : String) : Quoted :=
  s.toList.filterMap fun c =>
    if h : c ≠ '"' ∧ c ≠ '\\' ∧ 0x20 ≤ c.toNat then some (.plain c h) else none

def named (s : String) : Name := ⟨spelled s, tight, tight⟩

def word (s : String) : Value := .string (spelled s)

/-- The number `1.5e+3`. -/
def measure : Numeral where
  negative := false
  whole := ['1']
  fraction := ['5']
  power := some ⟨'e', some false, ['3'], Power.marks_small, List.cons_ne_nil _ _, rfl⟩
  stands := ⟨List.cons_ne_nil _ _, rfl, fun h => absurd h (by decide)⟩
  digit := rfl
  short := fun h => absurd h (List.cons_ne_nil _ _)

def measuredField : Value := .object tight <|
  .more (named "name") (word "f") tight tight <|
  .more (named "dbName") (word "f") tight tight <|
  .more (named "type") (word "string") tight tight <|
  .last (named "default") (.atom (.numeral measure)) tight

def measuredSchema : Value := .object tight <|
  .more (named "name") (word "N") tight tight <|
  .more (named "tableName") (word "t") tight tight <|
  .more (named "fields") (.array tight (.last measuredField tight)) tight tight <|
  .more (named "operations") (.emptyArray tight) tight tight <|
  .last (named "rls") (.emptyArray tight) tight

/-! ## One text, one outcome -/

/-- What is read as a JSON object is written in some notation, and if that is portable and its
collections are not too deep in one another, the files of either format that hold the text have the
same outcome. -/
theorem formats_agree (hparse : Document.Json.parse s = .ok (.map entries)) :
    (∃ n : Notation, s.toList = n.text ∧ .map entries = n.document) ∧
    ∀ n : Notation, s.toList = n.text → .map entries = n.document → n.isPortable = true →
      n.value.depth ≤ Yaml.nestingLimit →
      ∀ {w w' : World} {path path' : String},
        Holds w (Path.ofString path) s → Holds w' (Path.ofString path') s →
        Format.ofSuffix (Text.lower (Path.ofString path).suffix) = .json →
        Format.ofSuffix (Text.lower (Path.ofString path').suffix) = .yaml →
        outcome path w = outcome path' w' := by
  refine ⟨Document.Json.exists_notation hparse, ?_⟩
  intro n htext hdocument hportable hdepth w w' path path' hjson hyaml hjsonSuffix hyamlSuffix
  have hyamlParse : Yaml.parse s = .ok (.map entries) := by
    have hs : s = String.ofList n.text := by rw [← htext, String.ofList_toList]
    rw [hs, Yaml.parse_text (isObject_of_document hdocument) hportable, if_pos hdepth, ← hdocument]
  have harranged : (Document.map entries).arranged w'.order = .map entries := by
    rw [hdocument]
    exact Document.Json.arranged_value n.value
  rw [outcome_of_document (start_document_json hjson hjsonSuffix hparse),
    outcome_of_document (start_document_yaml hyaml hyamlSuffix hyamlParse harranged)]

/-- With a point and a sign the default is the same number in both formats. -/
theorem measured_formats_agree :
    outcome "a.json" (twinWorld (textOf "1.5e+3")) =
        outcome "a.yaml" (twinWorld (textOf "1.5e+3")) ∧
      (outcome "a.json" (twinWorld (textOf "1.5e+3"))).isSome = true := by
  let n : Notation := ⟨tight, measuredSchema, tight⟩
  have hparse : Document.Json.parse (textOf "1.5e+3") = .ok n.document :=
    eq_ok_of_toOption (by decide +kernel)
  have htext : (textOf "1.5e+3").toList = n.text := by decide +kernel
  obtain ⟨hjson, hyaml⟩ : _ ∧ _ := holds_twin (s := textOf "1.5e+3") (by decide +kernel)
    (by decide +kernel)
  exact ⟨(formats_agree hparse).2 n htext rfl (by decide +kernel) (by decide +kernel)
    hjson hyaml (by decide +kernel) (by decide +kernel), by decide +kernel⟩

/-- Not every text has one outcome: a power of ten without a sign is a number in one format and a
text in the other. -/
theorem formats_disagree : ¬ ∀ {s : String} {entries : Entries},
    Document.Json.parse s = .ok (.map entries) →
    ∀ {w w' : World} {path path' : String},
      Holds w (Path.ofString path) s → Holds w' (Path.ofString path') s →
      Format.ofSuffix (Text.lower (Path.ofString path).suffix) = .json →
      Format.ofSuffix (Text.lower (Path.ofString path').suffix) = .yaml →
      outcome path w = outcome path' w' := by
  intro h
  let s := textOf "1e3"
  obtain ⟨entries, hparse⟩ : ∃ entries, Document.Json.parse s = .ok (.map entries) := by
    have hmap : (Document.Json.parse s).toOption.any Document.isMap = true := by decide +kernel
    rcases hresult : Document.Json.parse s with e | d
    · rw [hresult] at hmap
      cases hmap
    · rw [hresult] at hmap
      cases d with
      | map entries => exact ⟨entries, rfl⟩
      | _ => cases hmap
  have hdefaults :
      (outcome "a.json" (twinWorld s)).map (·.fields.map (·.defaultValue)) = some [some "1000.0"] ∧
      (outcome "a.yaml" (twinWorld s)).map (·.fields.map (·.defaultValue)) = some [some "1e3"] := by
    decide +kernel
  obtain ⟨hjson, hyaml⟩ := holds_twin (s := s) (by decide +kernel) (by decide +kernel)
  have hsame := h hparse hjson hyaml (by decide +kernel) (by decide +kernel)
  rw [hsame, hdefaults.2] at hdefaults
  exact absurd hdefaults.1 (by decide)

end Scaffold.Loading
