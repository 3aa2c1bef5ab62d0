import Scaffold.Proofs.ScriptNames

/-!
# Names in ASCII from one case to another

Snake case puts an underscore before each capital but the first character, and camel case takes
underscores away. Both go character by character, so a law about them is shown along the characters,
with the underscore that just passed as the state. On ASCII each undoes the other on exactly the
texts that are in the other's form, and no case changes what is in it already.
-/
namespace Scaffold.Text

/-- A text in ASCII. -/
def IsAscii (cs : List Char) : Prop := ∀ c ∈ cs, c.toNat < 128

/-- A text without capitals. -/
def Uncapitalized (cs : List Char) : Prop := ∀ c ∈ cs, c.isUpper = false

/-- Whether the first character of a text has a property. -/
def Begins (p : Char → Bool) (cs : List Char) : Prop := cs.head?.any p = true

/-- Whether a small letter follows every underscore. -/
def Followed (cs : List Char) : Prop :=
  ∀ i, cs[i]? = some '_' → cs[i + 1]?.any Char.isLower = true

instance (cs : List Char) : Decidable (IsAscii cs) :=
  decidable_of_iff (cs.all (·.toNat < 128)) (by simp [IsAscii])

instance (cs : List Char) : Decidable (Uncapitalized cs) :=
  decidable_of_iff (cs.all (!·.isUpper)) (by simp [Uncapitalized])

instance (p : Char → Bool) (cs : List Char) : Decidable (Begins p cs) :=
  inferInstanceAs (Decidable (_ = true))

variable {c : Char} {cs rest : List Char}

theorem isAscii_cons : IsAscii (c :: rest) ↔ c.toNat < 128 ∧ IsAscii rest := List.forall_mem_cons

@[simp] theorem uncapitalized_nil : Uncapitalized [] := List.forall_mem_nil _

theorem uncapitalized_cons :
    Uncapitalized (c :: rest) ↔ c.isUpper = false ∧ Uncapitalized rest := List.forall_mem_cons

@[simp] theorem begins_nil (p : Char → Bool) : ¬ Begins p [] := Bool.false_ne_true

@[simp] theorem begins_cons (p : Char → Bool) : Begins p (c :: rest) ↔ p c = true := Iff.rfl

@[simp] theorem followed_nil : Followed [] := by simp [Followed]

theorem followed_cons :
    Followed (c :: rest) ↔ (c = '_' → Begins Char.isLower rest) ∧ Followed rest := by
  constructor
  · intro h
    refine ⟨fun hc => ?_, fun i => h (i + 1)⟩
    rw [Begins, List.head?_eq_getElem?]
    exact h 0 (congrArg some hc)
  · rintro ⟨hfirst, hrest⟩ (_ | i) hi
    · rw [List.getElem?_cons_succ, ← List.head?_eq_getElem?]
      exact hfirst (Option.some.inj hi)
    · exact hrest i hi

instance decidableFollowed : (cs : List Char) → Decidable (Followed cs)
  | [] => .isTrue followed_nil
  | _ :: rest =>
    have := decidableFollowed rest
    decidable_of_iff _ followed_cons.symm

theorem followed_cons_of_ne (h : c ≠ '_') : Followed (c :: rest) ↔ Followed rest := by
  rw [followed_cons, and_iff_right fun hc => absurd hc h]

/-! ## Characters -/

/-- What a change of case makes of a character: one of ASCII in that case and no underscore, with
the same capital, and the character itself where it is in that case. -/
structure Cased (c : Char) : Prop where
  toNat_toLower_lt : c.toLower.toNat < 128
  toNat_toUpper_lt : c.toUpper.toNat < 128
  isUpper_toLower : c.toLower.isUpper = false
  isUpper_toUpper : c.isLower = true → c.toUpper.isUpper = true
  toUpper_toUpper : c.toUpper.toUpper = c.toUpper
  toUpper_toLower : c.toLower.toUpper = c.toUpper
  toLower_ne_underscore : c ≠ '_' → c.toLower ≠ '_'
  not_isUpper_of_isLower : c.isLower = true → c.isUpper = false
  toLower_eq_self_iff : c.toLower = c ↔ c.isUpper = false
  toUpper_eq_self_iff : c.toUpper = c ↔ c.isLower = false

theorem cased_of_ascii (h : c.toNat < 128) : Cased c := by
  obtain ⟨⟨hlower, hupper⟩, ⟨hsmall, hcapital⟩, ⟨hagain, hback⟩, hunderscore, hcase, hself⟩ :=
    of_ascii (P := fun c => (c.toLower.toNat < 128 ∧ c.toUpper.toNat < 128) ∧
        (c.toLower.isUpper = false ∧ (c.isLower = true → c.toUpper.isUpper = true)) ∧
        (c.toUpper.toUpper = c.toUpper ∧ c.toLower.toUpper = c.toUpper) ∧
        (c ≠ '_' → c.toLower ≠ '_') ∧ (c.isLower = true → c.isUpper = false) ∧
        (c.toLower = c ↔ c.isUpper = false) ∧ (c.toUpper = c ↔ c.isLower = false))
      (by decide +kernel) h
  exact ⟨hlower, hupper, hsmall, hcapital, hagain, hback, hunderscore, hcase, hself.1, hself.2⟩

theorem Cased.not_isLower_of_isUpper (hc : Cased c) (h : c.isUpper = true) : c.isLower = false :=
  Bool.eq_false_iff.2 fun hlower => by simp [hc.not_isUpper_of_isLower hlower] at h

/-! ## From camel case to snake case and back -/

/-- What stands in snake case for a character that is not the first. -/
def spread (c : Char) : List Char := if isUppercase c then '_' :: lowerChar c else lowerChar c

theorem snakeChars_cons : snakeChars (c :: rest) = lowerChar c ++ rest.flatMap spread := rfl

theorem spread_of_isUpper (hascii : c.toNat < 128) (h : c.isUpper = true) :
    spread c = ['_', c.toLower] := by
  simp [spread, isUppercase, hascii, h]

theorem spread_of_not_isUpper (hascii : c.toNat < 128) (h : c.isUpper = false) :
    spread c = [c] := by
  simp [spread, isUppercase, hascii, h, (cased_of_ascii hascii).toLower_eq_self_iff.2 h]

theorem camelChars_cons_of_ne (h : c ≠ '_') :
    camelChars false (c :: rest) = c :: camelChars false rest := by
  rw [camelChars, if_neg h]
  rfl

theorem camelChars_true_cons (hascii : c.toNat < 128) (h : c ≠ '_') :
    camelChars true (c :: rest) = c.toUpper :: camelChars false rest := by
  rw [camelChars, if_neg h, if_pos rfl, upperChar_ascii hascii]
  rfl

/-- The underscores that capitals were given are taken away again. -/
theorem camelChars_flatMap_spread (hascii : IsAscii cs) (h : '_' ∉ cs) :
    camelChars false (cs.flatMap spread) = cs := by
  induction cs with
  | nil => rfl
  | cons c rest ih =>
    rw [isAscii_cons] at hascii
    rw [List.mem_cons, not_or] at h
    have hrest := ih hascii.2 h.2
    have hc : c ≠ '_' := Ne.symm h.1
    have hcased := cased_of_ascii hascii.1
    rw [List.flatMap_cons]
    cases hupper : c.isUpper with
    | true =>
      have hlower : c.toLower.toUpper = c := by
        rw [hcased.toUpper_toLower, hcased.toUpper_eq_self_iff]
        exact hcased.not_isLower_of_isUpper hupper
      rw [spread_of_isUpper hascii.1 hupper]
      calc camelChars false ('_' :: c.toLower :: rest.flatMap spread)
        _ = camelChars true (c.toLower :: rest.flatMap spread) := rfl
        _ = c.toLower.toUpper :: camelChars false (rest.flatMap spread) :=
          camelChars_true_cons hcased.toNat_toLower_lt (hcased.toLower_ne_underscore hc)
        _ = c :: rest := by rw [hlower, hrest]
    | false =>
      rw [spread_of_not_isUpper hascii.1 hupper, List.singleton_append, camelChars_cons_of_ne hc,
        hrest]

/-- Only the first character may have changed. -/
theorem camelChars_snakeChars_cons (hascii : IsAscii (c :: rest)) (h : '_' ∉ c :: rest) :
    camelChars false (snakeChars (c :: rest)) = c.toLower :: rest := by
  rw [isAscii_cons] at hascii
  rw [List.mem_cons, not_or] at h
  rw [snakeChars_cons, lowerChar_ascii hascii.1, List.singleton_append,
    camelChars_cons_of_ne ((cased_of_ascii hascii.1).toLower_ne_underscore (Ne.symm h.1)),
    camelChars_flatMap_spread hascii.2 h.2]

/-- What camel case leaves of a text has no two underscores next to each other in snake case. -/
theorem flatMap_spread_ne (hascii : IsAscii cs) (h : '_' ∉ cs) (rest : List Char) :
    cs.flatMap spread ≠ '_' :: '_' :: rest := by
  cases cs with
  | nil => simp
  | cons c tail =>
    rw [isAscii_cons] at hascii
    rw [List.mem_cons, not_or] at h
    have hc : c ≠ '_' := Ne.symm h.1
    rw [List.flatMap_cons]
    cases hupper : c.isUpper with
    | true =>
      rw [spread_of_isUpper hascii.1 hupper]
      intro heq
      have hlower : c.toLower ≠ '_' := (cased_of_ascii hascii.1).toLower_ne_underscore hc
      exact hlower (List.cons.inj (List.cons.inj heq).2).1
    | false =>
      rw [spread_of_not_isUpper hascii.1 hupper]
      intro heq
      exact hc (List.cons.inj heq).1

theorem isAscii_camelChars (h : IsAscii cs) (raised : Bool) : IsAscii (camelChars raised cs) := by
  induction cs generalizing raised with
  | nil => exact h
  | cons c rest ih =>
    rw [isAscii_cons] at h
    by_cases hc : c = '_'
    · rw [camelChars, if_pos hc]
      exact ih h.2 true
    · cases raised with
      | true =>
        rw [camelChars_true_cons h.1 hc]
        exact isAscii_cons.2 ⟨(cased_of_ascii h.1).toNat_toUpper_lt, ih h.2 false⟩
      | false =>
        rw [camelChars_cons_of_ne hc]
        exact isAscii_cons.2 ⟨h.1, ih h.2 false⟩

theorem spread_append_eq_iff (hascii : c.toNat < 128) (h : c ≠ '_') {xs ys : List Char} :
    spread c ++ xs = c :: ys ↔ c.isUpper = false ∧ xs = ys := by
  cases hupper : c.isUpper with
  | true =>
    rw [spread_of_isUpper hascii hupper]
    simp [Ne.symm h]
  | false =>
    rw [spread_of_not_isUpper hascii hupper]
    simp

/-- A raised letter gets its underscore back if it was a small one. -/
theorem spread_toUpper_append_eq_iff (hascii : c.toNat < 128) (h : c ≠ '_') {xs ys : List Char} :
    spread c.toUpper ++ xs = '_' :: c :: ys ↔ c.isLower = true ∧ xs = ys := by
  have hcased := cased_of_ascii hascii
  cases hlower : c.isLower with
  | true =>
    rw [spread_of_isUpper hcased.toNat_toUpper_lt (hcased.isUpper_toUpper hlower),
      toLower_toUpper hascii (hcased.not_isUpper_of_isLower hlower)]
    simp
  | false =>
    rw [hcased.toUpper_eq_self_iff.2 hlower]
    refine iff_of_false (fun heq => ?_) (by simp)
    cases hupper : c.isUpper with
    | true =>
      rw [spread_of_isUpper hascii hupper] at heq
      have hsmall : c.toLower = c := (List.cons.inj (List.cons.inj heq).2).1
      rw [hcased.toLower_eq_self_iff.1 hsmall] at hupper
      cases hupper
    | false =>
      rw [spread_of_not_isUpper hascii hupper] at heq
      exact h (List.cons.inj heq).1

/-- The underscore that just passed, if one did. -/
def passed (raised : Bool) : List Char := if raised then ['_'] else []

/-- Behind the first character, snake case brings back what camel case took away just if each
underscore was followed by a small letter and nothing was a capital. -/
theorem flatMap_spread_camelChars_iff (hascii : IsAscii cs) (raised : Bool) :
    (camelChars raised cs).flatMap spread = passed raised ++ cs ↔
      Uncapitalized cs ∧ Followed (passed raised ++ cs) := by
  induction cs generalizing raised with
  | nil => cases raised <;> simp [camelChars, passed, followed_cons]
  | cons c rest ih =>
    rw [isAscii_cons] at hascii
    have ih := ih hascii.2
    by_cases hc : c = '_'
    · subst hc
      have hcapital : ('_' : Char).isUpper = false := rfl
      rw [uncapitalized_cons, and_iff_right hcapital]
      cases raised with
      | false => exact ih true
      | true =>
        -- Of two underscores the first is lost.
        refine iff_of_false ?_ fun h => ?_
        · exact flatMap_spread_ne (isAscii_camelChars hascii.2 true)
            (underscore_notMem_camelChars true rest) rest
        · exact absurd ((followed_cons.1 h.2).1 rfl) (by simp)
    · have hrest := ih false
      change _ = rest ↔ _ ∧ Followed rest at hrest
      rw [uncapitalized_cons]
      cases raised with
      | false =>
        change _ = c :: rest ↔ _ ∧ Followed (c :: rest)
        rw [camelChars_cons_of_ne hc, List.flatMap_cons, spread_append_eq_iff hascii.1 hc, hrest,
          followed_cons_of_ne hc, and_assoc]
      | true =>
        change _ = '_' :: c :: rest ↔ _ ∧ Followed ('_' :: c :: rest)
        rw [camelChars_true_cons hascii.1 hc, List.flatMap_cons,
          spread_toUpper_append_eq_iff hascii.1 hc, hrest, followed_cons, followed_cons_of_ne hc,
          begins_cons]
        constructor
        · rintro ⟨hlower, hcapitals, hfollowed⟩
          have hupper := (cased_of_ascii hascii.1).not_isUpper_of_isLower hlower
          exact ⟨⟨hupper, hcapitals⟩, fun _ => hlower, hfollowed⟩
        · rintro ⟨⟨_, hcapitals⟩, hlower, hfollowed⟩
          exact ⟨hlower rfl, hcapitals, hfollowed⟩

/-! ## No case changes what is in it -/

theorem flatMap_spread_eq_self (hascii : IsAscii cs) (h : Uncapitalized cs) :
    cs.flatMap spread = cs := by
  induction cs with
  | nil => rfl
  | cons c rest ih =>
    rw [isAscii_cons] at hascii
    rw [uncapitalized_cons] at h
    rw [List.flatMap_cons, spread_of_not_isUpper hascii.1 h.1, ih hascii.2 h.2,
      List.singleton_append]

/-- A text without capitals is in snake case. -/
theorem snakeChars_eq_self (hascii : IsAscii cs) (h : Uncapitalized cs) :
    snakeChars cs = cs := by
  cases cs with
  | nil => rfl
  | cons c rest =>
    rw [isAscii_cons] at hascii
    rw [uncapitalized_cons] at h
    have hlower : c.toLower = c := (cased_of_ascii hascii.1).toLower_eq_self_iff.2 h.1
    rw [snakeChars_cons, lowerChar_ascii hascii.1, hlower,
      flatMap_spread_eq_self hascii.2 h.2, List.singleton_append]

theorem eq_or_eq_of_mem_spread {d : Char} (hascii : c.toNat < 128) (h : d ∈ spread c) :
    d = '_' ∨ d = c.toLower := by
  cases hupper : c.isUpper with
  | true => simpa [spread_of_isUpper hascii hupper] using h
  | false =>
    rw [spread_of_not_isUpper hascii hupper, List.mem_singleton] at h
    exact .inr (h.trans ((cased_of_ascii hascii).toLower_eq_self_iff.2 hupper).symm)

/-- Nothing stands in snake case but underscores and characters in lower case. -/
theorem eq_or_exists_of_mem_snakeChars {d : Char} (hascii : IsAscii cs) (h : d ∈ snakeChars cs) :
    d = '_' ∨ ∃ c ∈ cs, d = c.toLower := by
  cases cs with
  | nil => cases h
  | cons c rest =>
    rw [isAscii_cons] at hascii
    rw [snakeChars_cons, lowerChar_ascii hascii.1, List.singleton_append, List.mem_cons,
      List.mem_flatMap] at h
    rcases h with rfl | ⟨e, he, hd⟩
    · exact .inr ⟨c, List.mem_cons_self, rfl⟩
    · exact (eq_or_eq_of_mem_spread (hascii.2 e he) hd).imp_right
        fun hlower => ⟨e, List.mem_cons_of_mem c he, hlower⟩

theorem isAscii_snakeChars (h : IsAscii cs) : IsAscii (snakeChars cs) := by
  intro d hd
  rcases eq_or_exists_of_mem_snakeChars h hd with rfl | ⟨c, hc, rfl⟩
  · decide
  · exact (cased_of_ascii (h c hc)).toNat_toLower_lt

theorem uncapitalized_snakeChars (h : IsAscii cs) : Uncapitalized (snakeChars cs) := by
  intro d hd
  rcases eq_or_exists_of_mem_snakeChars h hd with rfl | ⟨c, hc, rfl⟩
  · rfl
  · exact (cased_of_ascii (h c hc)).isUpper_toLower

theorem snakeChars_snakeChars (h : IsAscii cs) : snakeChars (snakeChars cs) = snakeChars cs :=
  snakeChars_eq_self (isAscii_snakeChars h) (uncapitalized_snakeChars h)

/-- A text without capitals and underscores is in kebab case. -/
theorem kebabChars_eq_self (hascii : IsAscii cs) (h : Uncapitalized cs) (hunderscore : '_' ∉ cs) :
    kebabChars cs = cs := by
  have hkept : ∀ c ∈ cs, (if c = '_' then '-' else c) = id c := by
    intro c hc
    have hne : c ≠ '_' := fun heq => hunderscore (heq ▸ hc)
    exact if_neg hne
  rw [kebabChars, snakeChars_eq_self hascii h, List.map_congr_left hkept, List.map_id]

theorem eq_or_mem_of_mem_kebabChars {d : Char} (h : d ∈ kebabChars cs) :
    d = '-' ∨ d ∈ snakeChars cs ∧ d ≠ '_' := by
  obtain ⟨c, hc, rfl⟩ := List.mem_map.1 h
  by_cases hunderscore : c = '_'
  · exact .inl (if_pos hunderscore)
  · rw [if_neg hunderscore]
    exact .inr ⟨hc, hunderscore⟩

theorem kebabChars_kebabChars (h : IsAscii cs) : kebabChars (kebabChars cs) = kebabChars cs := by
  refine kebabChars_eq_self (fun d hd => ?_) (fun d hd => ?_) fun hd => ?_
  all_goals rcases eq_or_mem_of_mem_kebabChars hd with hdash | ⟨hd, hunderscore⟩
  · exact hdash ▸ by decide
  · exact isAscii_snakeChars h d hd
  · exact hdash ▸ rfl
  · exact uncapitalized_snakeChars h d hd
  · cases hdash
  · exact hunderscore rfl

theorem pascalChars_eq_cons (hascii : c.toNat < 128) (h : camelChars false cs = c :: rest) :
    pascalChars cs = c.toUpper :: rest := by
  rw [pascalChars, h]
  simp [upperChar_ascii hascii]

theorem pascalCase_pascalCase {s : String} (h : IsAscii s.toList) :
    pascalCase (pascalCase s) = pascalCase s := by
  have hunderscore := underscore_notMem_pascalCase s
  have hascii := isAscii_camelChars h false
  rw [toList_pascalCase] at hunderscore
  rw [← String.toList_inj, toList_pascalCase, toList_pascalCase]
  cases hcamel : camelChars false s.toList with
  | nil =>
    have hnil : pascalChars s.toList = [] := by rw [pascalChars, hcamel]
    rw [hnil]
    rfl
  | cons c rest =>
    rw [hcamel, isAscii_cons] at hascii
    have hcased := cased_of_ascii hascii.1
    rw [pascalChars_eq_cons hascii.1 hcamel] at hunderscore ⊢
    rw [pascalChars_eq_cons hcased.toNat_toUpper_lt (camelChars_eq_self hunderscore),
      hcased.toUpper_toUpper]

theorem camelCase_camelCase (s : String) : camelCase (camelCase s) = camelCase s := by
  rw [← String.toList_inj, toList_camelCase, toList_camelCase,
    camelChars_eq_self (underscore_notMem_camelChars false s.toList)]

/-! ## Each case undone by another -/

theorem camelCase_snakeCase_iff {s : String} (h : IsAscii s.toList) :
    camelCase (snakeCase s) = s ↔ '_' ∉ s.toList ∧ ¬ Begins Char.isUpper s.toList := by
  rw [← String.toList_inj, toList_camelCase, toList_snakeCase]
  by_cases hunderscore : '_' ∈ s.toList
  · refine iff_of_false (fun heq => ?_) (fun hnone => hnone.1 hunderscore)
    have hcamel := underscore_notMem_camelChars false (snakeChars s.toList)
    rw [heq] at hcamel
    exact hcamel hunderscore
  · rw [and_iff_right hunderscore]
    cases hs : s.toList with
    | nil => simp [snakeChars, camelChars]
    | cons c rest =>
      rw [hs] at h hunderscore
      rw [camelChars_snakeChars_cons h hunderscore, List.cons.injEq, and_iff_left rfl,
        (cased_of_ascii (isAscii_cons.1 h).1).toLower_eq_self_iff, begins_cons, Bool.not_eq_true]

theorem pascalCase_snakeCase_iff {s : String} (h : IsAscii s.toList) :
    pascalCase (snakeCase s) = s ↔ '_' ∉ s.toList ∧ ¬ Begins Char.isLower s.toList := by
  by_cases hunderscore : '_' ∈ s.toList
  · refine iff_of_false (fun heq => ?_) (fun hnone => hnone.1 hunderscore)
    have hpascal := underscore_notMem_pascalCase (snakeCase s)
    rw [heq] at hpascal
    exact hpascal hunderscore
  · rw [and_iff_right hunderscore, ← String.toList_inj, toList_pascalCase, toList_snakeCase]
    cases hs : s.toList with
    | nil => simp [snakeChars, pascalChars, camelChars]
    | cons c rest =>
      rw [hs] at h hunderscore
      have hcamel := camelChars_snakeChars_cons h hunderscore
      have hcased := cased_of_ascii (isAscii_cons.1 h).1
      rw [pascalChars_eq_cons hcased.toNat_toLower_lt hcamel, hcased.toUpper_toLower,
        List.cons.injEq, and_iff_left rfl, hcased.toUpper_eq_self_iff, begins_cons,
        Bool.not_eq_true]

theorem snakeChars_ne_cons_underscore (hascii : IsAscii cs) (h : '_' ∉ cs) :
    snakeChars cs ≠ '_' :: rest := by
  cases cs with
  | nil => simp [snakeChars]
  | cons c tail =>
    rw [isAscii_cons] at hascii
    rw [List.mem_cons, not_or] at h
    have hlower : c.toLower ≠ '_' := (cased_of_ascii hascii.1).toLower_ne_underscore (Ne.symm h.1)
    rw [snakeChars_cons, lowerChar_ascii hascii.1]
    exact fun heq => hlower (List.cons.inj heq).1

theorem snakeCase_camelCase_iff {s : String} (h : IsAscii s.toList) :
    snakeCase (camelCase s) = s ↔
      Uncapitalized s.toList ∧ ¬ Begins (· = '_') s.toList ∧ Followed s.toList := by
  rw [← String.toList_inj, toList_snakeCase, toList_camelCase]
  cases hs : s.toList with
  | nil => simp [snakeChars, camelChars]
  | cons c rest =>
    rw [hs] at h
    have hrest := isAscii_cons.1 h
    by_cases hc : c = '_'
    · subst hc
      refine iff_of_false ?_ fun hform => hform.2.1 (by simp)
      exact snakeChars_ne_cons_underscore (isAscii_camelChars h false)
        (underscore_notMem_camelChars false _)
    · have hbehind : _ = rest ↔ _ ∧ Followed rest :=
        flatMap_spread_camelChars_iff hrest.2 false
      rw [camelChars_cons_of_ne hc, snakeChars_cons, lowerChar_ascii hrest.1,
        List.singleton_append, List.cons.injEq, (cased_of_ascii hrest.1).toLower_eq_self_iff,
        hbehind, uncapitalized_cons, followed_cons_of_ne hc, begins_cons, decide_eq_true_eq,
        and_iff_right hc, and_assoc]

/-! ## All cases -/

/-- What the cases of a text are to each other. -/
structure CasesAgree (s : String) : Prop where
  camel_snake_iff : camelCase (snakeCase s) = s ↔
    '_' ∉ s.toList ∧ ¬ Begins Char.isUpper s.toList
  pascal_snake_iff : pascalCase (snakeCase s) = s ↔
    '_' ∉ s.toList ∧ ¬ Begins Char.isLower s.toList
  snake_camel_iff : snakeCase (camelCase s) = s ↔
    Uncapitalized s.toList ∧ ¬ Begins (· = '_') s.toList ∧ Followed s.toList
  camel_camel : camelCase (camelCase s) = camelCase s
  pascal_pascal : pascalCase (pascalCase s) = pascalCase s
  snake_snake : snakeCase (snakeCase s) = snakeCase s
  kebab_kebab : kebabCase (kebabCase s) = kebabCase s
  camel_underscore : '_' ∉ (camelCase s).toList
  pascal_underscore : '_' ∉ (pascalCase s).toList

/-- On ASCII, camel case and pascal case undo snake case for texts without underscores, the one
unless they begin with a capital, the other unless they begin with a small letter; snake case undoes
camel case for texts without capitals in which every underscore stands behind something and before a
small letter; and no case changes what is in it. -/
theorem cases_agree {s : String} (h : IsAscii s.toList) : CasesAgree s where
  camel_snake_iff := camelCase_snakeCase_iff h
  pascal_snake_iff := pascalCase_snakeCase_iff h
  snake_camel_iff := snakeCase_camelCase_iff h
  camel_camel := camelCase_camelCase s
  pascal_pascal := pascalCase_pascalCase h
  snake_snake := by
    rw [← String.toList_inj, toList_snakeCase, toList_snakeCase, snakeChars_snakeChars h]
  kebab_kebab := by
    rw [← String.toList_inj, toList_kebabCase, toList_kebabCase, kebabChars_kebabChars h]
  camel_underscore := by
    rw [toList_camelCase]
    exact underscore_notMem_camelChars false s.toList
  pascal_underscore := underscore_notMem_pascalCase s

theorem identifiers_agree :
    IsAscii "getHTTPUrl2".toList ∧ camelCase (snakeCase "getHTTPUrl2") = "getHTTPUrl2" ∧
    IsAscii "UserProfile".toList ∧ pascalCase (snakeCase "UserProfile") = "UserProfile" ∧
    IsAscii "line_2_of_4".toList ∧ snakeCase (camelCase "line_2_of_4") ≠ "line_2_of_4" ∧
    IsAscii "view_count2".toList ∧ snakeCase (camelCase "view_count2") = "view_count2" := by
  have hget : IsAscii "getHTTPUrl2".toList := by decide
  have hprofile : IsAscii "UserProfile".toList := by decide
  have hline : IsAscii "line_2_of_4".toList := by decide
  have hcount : IsAscii "view_count2".toList := by decide
  exact ⟨hget, (cases_agree hget).camel_snake_iff.2 (by decide),
    hprofile, (cases_agree hprofile).pascal_snake_iff.2 (by decide),
    hline, mt (cases_agree hline).snake_camel_iff.1 (by decide),
    hcount, (cases_agree hcount).snake_camel_iff.2 (by decide)⟩

end Scaffold.Text
