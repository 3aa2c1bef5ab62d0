import Scaffold.Proofs.Lexemes

/-!
# Scanning JSON as YAML

In brackets the scanner gives up on no pending key, so it goes through portable JSON token by token.
What one token does is said for each kind of token; the values follow, by induction on their
notation.
-/
namespace Scaffold.Yaml.Scanner

open Document.Json (Gap Quoted Atom Numeral Name Value Items Members)

variable {s t u : Scanner} {gap more : List Char} {ch : Char}

/-- A scanner outside of blocks, with no key that has to get a colon. -/
structure Rests (s : Scanner) : Prop where
  indent : s.indent = -1
  indents : s.indents = []
  free : ∀ k ∈ s.keys, k.2.required = false
  room : s.cursor.rest.length ≤ s.cursor.size

/-! ## The way to a token -/

theorem skipBlank_eq {steps : Nat} (hgap : IsSpacing gap)
    (hmore : ∀ ch ∈ more.head?, ch ≠ ' ' ∧ ch ≠ '#' ∧ isBreak ch = false)
    (h : s.cursor.rest = gap ++ more) (hsteps : gap.length < steps) :
    ∃ allowed, (s.inFlow = true → allowed = s.keyAllowed) ∧
      (s.keyAllowed = true → allowed = true) ∧
      skipBlank steps s = (s.moveTo (s.cursor.skip gap.length)).allowKey allowed := by
  induction steps generalizing s gap with
  | zero => cases hsteps
  | succ steps ih =>
    obtain ⟨spaces, rest, rfl, hspaces, hrest⟩ := hgap.cases
    rw [List.append_assoc] at h
    have hspace := ne_space_of_rest (fun ch hch => (hmore ch hch).1) hrest
    have hskip := Cursor.skipWhile_eq h (by simpa using hspaces) hspace
    have hafter := Cursor.rest_skip_length h
    have hcomment : (s.cursor.skip spaces.length).peek ≠ '#' := by
      rw [Cursor.peek, hafter]
      rcases hrest with rfl | ⟨after, rfl, -⟩
      · cases more with
        | nil => exact (by decide : '\x00' ≠ '#')
        | cons ch more => exact (hmore ch rfl).2.1
      · exact (by decide : '\n' ≠ '#')
    unfold skipBlank
    simp only [hskip, Cursor.skipComment, if_neg hcomment]
    rcases hrest with rfl | ⟨after, rfl, hspacing⟩
    · refine ⟨s.keyAllowed, fun _ => rfl, id, ?_⟩
      rw [Cursor.lineBreak_of_not_break (by rw [hafter]; exact fun ch hch => (hmore ch hch).2.2)]
      simp [allowKey, moveTo]
    · have hnext : ((s.cursor.skip spaces.length).skip 1).rest = after ++ more := by
        rw [Cursor.rest_skip, hafter]
        rfl
      simp only [List.length_append, List.length_cons] at hsteps
      rw [Cursor.lineBreak_of_feed hafter]
      let s' := (s.moveTo ((s.cursor.skip spaces.length).skip 1)).allowKey
        (s.keyAllowed || !s.inFlow)
      obtain ⟨allowed, hflow, hkept, heq⟩ := ih (s := s') hspacing hnext (by omega)
      refine ⟨allowed, fun h => ?_, fun h => ?_, heq.trans ?_⟩
      · rw [hflow h]
        simp [s', allowKey, h]
      · exact hkept (by simp [s', allowKey, h])
      · simp [s', allowKey, moveTo, ← Cursor.skip_add, Nat.add_assoc, Nat.add_comm 1]

/-- Where a scanner is after the blanks before a token. -/
structure Approaches (s : Scanner) (gap : List Char) (t : Scanner) : Prop where
  eq : s.approach = .ok t
  rests : t.Rests
  cursor : t.cursor = s.cursor.skip gap.length
  tokens : t.tokens = s.tokens
  count : t.count = s.count
  level : t.flowLevel = s.flowLevel
  kept : s.inFlow = true → t.keyAllowed = s.keyAllowed
  allowed : s.keyAllowed = true → t.keyAllowed = true
  keys : t.keys = s.keys.filter fun k => !t.isStale k.2

theorem exists_approaches (hs : s.Rests) (hgap : IsSpacing gap)
    (hmore : ∀ ch ∈ more.head?, ch ≠ ' ' ∧ ch ≠ '#' ∧ isBreak ch = false)
    (h : s.cursor.rest = gap ++ more) : ∃ t, s.Approaches gap t := by
  have hsteps : gap.length < s.cursor.steps := by
    have := hs.room
    simp only [h, List.length_append] at this
    unfold Cursor.steps
    omega
  obtain ⟨allowed, hkept, hallowed, hskip⟩ := skipBlank_eq hgap hmore h hsteps
  let t := (s.moveTo (s.cursor.skip gap.length)).allowKey allowed
  let t' : Scanner := { t with keys := t.keys.filter fun k => !t.isStale k.2 }
  have hany : (t.keys.any fun k => t.isStale k.2 && k.2.required) = false := by
    rw [List.any_eq_false]
    intro k hk
    simp [hs.free k hk]
  refine ⟨t', ?_, ⟨hs.indent, hs.indents, fun k hk => ?_, ?_⟩, rfl, rfl, rfl, rfl, hkept, hallowed,
    rfl⟩
  · have hdrop : t.dropStaleKeys = .ok t' := by
      unfold dropStaleKeys
      rw [hany]
      rfl
    have hunwind (column : Int) : t'.unwind column = t' := by
      unfold unwind
      split
      · rfl
      · rw [show t'.indents = [] from hs.indents]
        rfl
    unfold approach
    rw [hskip]
    change (t.dropStaleKeys >>= fun s => pure (s.unwind s.column)) = .ok t'
    rw [hdrop]
    exact congrArg Except.ok (hunwind _)
  · exact hs.free k (List.mem_filter.1 hk).1
  · have := hs.room
    simp only [t', t, allowKey, moveTo, Cursor.rest_skip, Cursor.size_skip, List.length_drop]
    omega

/-! ## Pending keys -/

theorem exists_dropKey (hs : s.Rests) :
    ∃ keys, s.dropKey = .ok { s with keys } ∧ ∀ k ∈ keys, k.2.required = false := by
  unfold dropKey
  split
  · next k hk =>
    obtain ⟨before, after, hkeys, -⟩ := List.lookup_eq_some_iff.1 hk
    have hfree : k.required = false := hs.free (s.flowLevel, k) (by rw [hkeys]; simp)
    rw [if_neg (by simp [hfree])]
    exact ⟨_, rfl, fun key hkey => hs.free key (List.mem_filter.1 hkey).1⟩
  · exact ⟨s.keys, rfl, hs.free⟩

/-- The key that begins here. -/
def pending (s : Scanner) : PendingKey :=
  ⟨s.count, false, s.cursor.index, s.cursor.line, s.cursor.column⟩

/-- A key outside of blocks need not get a colon. -/
theorem exists_noteKey (hs : s.Rests) :
    ∃ keys, s.noteKey = .ok { s with keys } ∧ (∀ k ∈ keys, k.2.required = false) ∧
      (s.keyAllowed = true → keys.lookup s.flowLevel = some s.pending) := by
  unfold noteKey
  split
  · obtain ⟨keys, hdrop, hfree⟩ := exists_dropKey hs
    have hrequired : (!s.inFlow && s.indent = s.column) = false := by
      have hne : s.indent ≠ s.column := by
        rw [hs.indent, column]
        omega
      simp [hne]
    refine ⟨(s.flowLevel, s.pending) :: keys, ?_, ?_, fun _ => by simp⟩
    · simp only [hrequired, hdrop]
      rfl
    · simpa [pending] using hfree
  · next hnot => exact ⟨s.keys, rfl, hs.free, fun h => absurd h hnot⟩

/-! ## Runs -/

/-- A scanner takes so many tokens, and the text goes on. -/
inductive Scans : Nat → Scanner → Scanner → Prop
  | refl (s : Scanner) : Scans 0 s s
  | head {n : Nat} {s t u : Scanner} (h : s.scan = .ok t)
      (hopen : t.tokens.head? ≠ some .streamEnd) (hrest : Scans n t u) : Scans (n + 1) s u

theorem Scans.trans {m n : Nat} (h : Scans m s t) (h' : Scans n t u) : Scans (m + n) s u := by
  induction h with
  | refl => simpa using h'
  | head hscan hopen _ ih =>
    rw [Nat.succ_add]
    exact .head hscan hopen (ih h')

theorem Scans.run_add {n : Nat} (h : Scans n s t) (m : Nat) : run (n + m) s = run m t := by
  induction h with
  | refl => rw [Nat.zero_add]
  | head hscan hopen _ ih =>
    rw [Nat.succ_add, run, hscan]
    dsimp only
    split
    · next hend => exact absurd (by rw [hend]; rfl) hopen
    · exact ih

/-- The scanner gets to a place in the text with further tokens, each for at least one character. -/
structure Reaches (s : Scanner) (tokens : List Token) (level : Nat) (rest : List Char)
    (t : Scanner) : Prop where
  scans : ∃ n, Scans n s t ∧ n + t.cursor.rest.length ≤ s.cursor.rest.length
  rests : t.Rests
  tokens : t.tokens = tokens.reverse ++ s.tokens
  level : t.flowLevel = level
  rest : t.cursor.rest = rest

theorem Reaches.trans {first second : List Token} {level level' : Nat} {rest rest' : List Char}
    (h : s.Reaches first level rest t) (h' : t.Reaches second level' rest' u) :
    s.Reaches (first ++ second) level' rest' u := by
  obtain ⟨m, hm, hmle⟩ := h.scans
  obtain ⟨n, hn, hnle⟩ := h'.scans
  refine ⟨⟨m + n, hm.trans hn, by omega⟩, h'.rests, ?_, h'.level, h'.rest⟩
  rw [h'.tokens, h.tokens, List.reverse_append, List.append_assoc]

/-- One token after blanks, for at least one character. -/
theorem Reaches.of_token {token : Token} {level : Nat} (happroaches : s.Approaches gap t)
    (hrest : t.cursor.rest = ch :: more) (htoken : t.token = .ok u) (hu : u.Rests)
    (htokens : u.tokens = token :: t.tokens) (hopen : token ≠ .streamEnd)
    (hlevel : u.flowLevel = level) {left : List Char} (hleft : u.cursor.rest = left)
    (hsuffix : left <:+ more) : s.Reaches [token] level left u := by
  have hscan : s.scan = .ok u := by
    unfold scan
    rw [happroaches.eq]
    exact htoken
  have hle : (ch :: more).length ≤ s.cursor.rest.length := by
    rw [← hrest, happroaches.cursor, Cursor.rest_skip, List.length_drop]
    omega
  have hless := hsuffix.length_le
  rw [← hleft] at hless
  rw [List.length_cons] at hle
  refine ⟨⟨1, .head hscan ?_ (.refl u), by omega⟩, hu, ?_, hlevel, hleft⟩
  · rw [htokens]
    simpa using hopen
  · rw [htokens, happroaches.tokens]
    rfl

/-! ## Tokens -/

theorem not_hasMarks_of_rest {mark : Char} (h : s.cursor.rest = ch :: more) (hch : ch ≠ mark) :
    s.cursor.hasMarks mark = false :=
  Cursor.not_hasMarks (by rw [h]; simpa using hch)

theorem eq_or_mem_marks_of_indicators : ∀ ch ∈ indicators, ch = '-' ∨ ch ∈ marks := by
  have hall : indicators.all (fun ch => ch = '-' || marks.contains ch) = true := rfl
  intro ch hch
  have hmark := List.all_eq_true.1 hall ch hch
  rwa [Bool.or_eq_true, decide_eq_true_eq, List.contains_iff_mem] at hmark

section

variable (h : s.cursor.rest = ch :: more)

include h

theorem token_sequenceStart (hch : ch = '[') : s.token = s.scanFlowStart .flowSequenceStart := by
  subst hch
  simp [token, Cursor.peek_eq h, atEnd, not_hasMarks_of_rest h]

theorem token_mappingStart (hch : ch = '\x7b') : s.token = s.scanFlowStart .flowMappingStart := by
  subst hch
  simp [token, Cursor.peek_eq h, atEnd, not_hasMarks_of_rest h]

theorem token_sequenceEnd (hch : ch = ']') : s.token = s.scanFlowEnd .flowSequenceEnd := by
  subst hch
  simp [token, Cursor.peek_eq h, atEnd, not_hasMarks_of_rest h]

theorem token_mappingEnd (hch : ch = '\x7d') : s.token = s.scanFlowEnd .flowMappingEnd := by
  subst hch
  simp [token, Cursor.peek_eq h, atEnd, not_hasMarks_of_rest h]

theorem token_entry (hch : ch = ',') : s.token = s.scanFlowEntry := by
  subst hch
  simp [token, Cursor.peek_eq h, atEnd, not_hasMarks_of_rest h]

theorem token_value (hch : ch = ':') (hflow : s.inFlow = true) : s.token = s.scanValue := by
  subst hch
  simp [token, Cursor.peek_eq h, atEnd, not_hasMarks_of_rest h, hflow]

theorem token_quoted (hch : ch = '"') : s.token = s.scanQuoted .double := by
  subst hch
  simp [token, Cursor.peek_eq h, atEnd, not_hasMarks_of_rest h]

/-- A word or number begins a plain scalar, also after a minus. -/
theorem token_plain (hch : inWord ch = true) (hpoint : ch ≠ '.')
    (hminus : ch = '-' → ∃ d rest, more = d :: rest ∧ inWord d = true ∧ d ≠ '-') :
    s.token = s.scanPlain := by
  have hmarks := notMem_marks hch
  simp only [marks, List.mem_cons, not_or] at hmarks
  have hmark (mark : Char) (hne : ch ≠ mark ∨ mark = '-') : s.cursor.hasMarks mark = false := by
    rcases hne with hne | rfl
    · exact not_hasMarks_of_rest h hne
    · by_cases hc : ch = '-'
      · obtain ⟨d, rest, rfl, -, hd⟩ := hminus hc
        simp [Cursor.hasMarks, h, hd]
      · exact not_hasMarks_of_rest h hc
  have hentry : (ch = '-' && isBlankOrEnd (s.cursor.peekAt 1)) = false := by
    by_cases hc : ch = '-'
    · obtain ⟨d, rest, rfl, hd, -⟩ := hminus hc
      simp [Cursor.peekAt_one_eq h, isBlankOrEnd_of_inWord hd]
    · simp [hc]
  have hbegins : s.beginsPlain ch (s.cursor.peekAt 1) = true := by
    unfold beginsPlain
    by_cases hc : ch = '-'
    · obtain ⟨d, rest, rfl, hd, -⟩ := hminus hc
      simp [Cursor.peekAt_one_eq h, isBlankOrEnd_of_inWord hd, hc]
    · have hindicator : ch ∉ indicators := fun hmem =>
        (eq_or_mem_marks_of_indicators ch hmem).elim hc (notMem_marks hch)
      simp [isBlankOrEnd_of_inWord hch, hindicator]
  unfold token
  simp only [Cursor.peek_eq h]
  simp [hmark '-' (.inr rfl), hmark '.' (.inl hpoint), hentry, hbegins, hmarks, atEnd]

end

/-! ## Marks -/

/-- What a scanner stands at: a mark, the beginning of a word, or a quote. -/
def Begins (ch : Char) : Prop := ch ≠ ' ' ∧ ch ≠ '#' ∧ isBreak ch = false

theorem exists_approaches_cons (hs : s.Rests) (hgap : IsSpacing gap) (hch : Begins ch)
    (h : s.cursor.rest = gap ++ ch :: more) :
    ∃ t, s.Approaches gap t ∧ t.cursor.rest = ch :: more := by
  have hmore : ∀ d ∈ (ch :: more).head?, d ≠ ' ' ∧ d ≠ '#' ∧ isBreak d = false := by
    intro d hd
    cases hd
    exact hch
  obtain ⟨t, ht⟩ := exists_approaches hs hgap hmore h
  exact ⟨t, ht, by rw [ht.cursor]; exact Cursor.rest_skip_length h⟩

/-- The place after a character still has its room. -/
theorem Rests.room_next (hs : s.Rests) (hkeys : ∀ k ∈ t.keys, k.2.required = false)
    (hindent : t.indent = s.indent) (hindents : t.indents = s.indents)
    (hcursor : t.cursor = s.cursor.next) : t.Rests := by
  refine ⟨hindent.trans hs.indent, hindents.trans hs.indents, hkeys, ?_⟩
  have := hs.room
  rw [hcursor, Cursor.rest_next, Cursor.size_next, List.length_tail]
  omega

theorem exists_reaches_start {start : Token} (hs : s.Rests) (hgap : IsSpacing gap)
    (hstart : ch = '[' ∧ start = .flowSequenceStart ∨ ch = '\x7b' ∧ start = .flowMappingStart)
    (h : s.cursor.rest = gap ++ ch :: more) :
    ∃ t, s.Reaches [start] (s.flowLevel + 1) more t ∧ t.keyAllowed = true := by
  have hch : Begins ch := by
    rcases hstart with ⟨rfl, -⟩ | ⟨rfl, -⟩ <;> exact ⟨nofun, nofun, rfl⟩
  obtain ⟨t, ht, hrest⟩ := exists_approaches_cons hs hgap hch h
  obtain ⟨keys, hnote, hfree, -⟩ := exists_noteKey ht.rests
  have htoken : t.token = t.scanFlowStart start := by
    rcases hstart with ⟨hch, rfl⟩ | ⟨hch, rfl⟩
    · exact token_sequenceStart hrest hch
    · exact token_mappingStart hrest hch
  rw [scanFlowStart, hnote] at htoken
  refine ⟨_, .of_token ht hrest htoken (ht.rests.room_next hfree rfl rfl rfl) rfl ?_ ?_ ?_
    List.suffix_rfl, rfl⟩
  · rcases hstart with ⟨-, rfl⟩ | ⟨-, rfl⟩ <;> exact nofun
  · exact congrArg (· + 1) ht.level
  · exact (Cursor.rest_next _).trans (by rw [hrest]; rfl)

theorem exists_reaches_end {ending : Token} (hs : s.Rests) (hgap : IsSpacing gap)
    (hending : ch = ']' ∧ ending = .flowSequenceEnd ∨ ch = '\x7d' ∧ ending = .flowMappingEnd)
    (h : s.cursor.rest = gap ++ ch :: more) :
    ∃ t, s.Reaches [ending] (s.flowLevel - 1) more t := by
  have hch : Begins ch := by
    rcases hending with ⟨rfl, -⟩ | ⟨rfl, -⟩ <;> exact ⟨nofun, nofun, rfl⟩
  obtain ⟨t, ht, hrest⟩ := exists_approaches_cons hs hgap hch h
  obtain ⟨keys, hdrop, hfree⟩ := exists_dropKey ht.rests
  have htoken : t.token = t.scanFlowEnd ending := by
    rcases hending with ⟨hch, rfl⟩ | ⟨hch, rfl⟩
    · exact token_sequenceEnd hrest hch
    · exact token_mappingEnd hrest hch
  rw [scanFlowEnd, hdrop] at htoken
  refine ⟨_, .of_token ht hrest htoken (ht.rests.room_next hfree rfl rfl rfl) rfl ?_ ?_ ?_
    List.suffix_rfl⟩
  · rcases hending with ⟨-, rfl⟩ | ⟨-, rfl⟩ <;> exact nofun
  · exact congrArg (· - 1) ht.level
  · exact (Cursor.rest_next _).trans (by rw [hrest]; rfl)

theorem exists_reaches_entry (hs : s.Rests) (hgap : IsSpacing gap)
    (h : s.cursor.rest = gap ++ ',' :: more) :
    ∃ t, s.Reaches [.flowEntry] s.flowLevel more t ∧ t.keyAllowed = true := by
  have hch : Begins ',' := ⟨nofun, nofun, rfl⟩
  obtain ⟨t, ht, hrest⟩ := exists_approaches_cons hs hgap hch h
  have hallowed : (t.allowKey true).Rests :=
    ⟨ht.rests.indent, ht.rests.indents, ht.rests.free, ht.rests.room⟩
  obtain ⟨keys, hdrop, hfree⟩ := exists_dropKey hallowed
  have hleft : t.cursor.next.rest = more := by rw [Cursor.rest_next, hrest]; rfl
  have htoken := token_entry hrest rfl
  rw [scanFlowEntry, hdrop] at htoken
  exact ⟨_, .of_token ht hrest htoken (ht.rests.room_next hfree rfl rfl rfl) rfl nofun ht.level
    hleft List.suffix_rfl, rfl⟩

/-! ## Scalars -/

theorem Rests.room_skip (hs : s.Rests) (hkeys : ∀ k ∈ t.keys, k.2.required = false)
    (hindent : t.indent = s.indent) (hindents : t.indents = s.indents) {n : Nat}
    (hcursor : t.cursor = s.cursor.skip n) : t.Rests := by
  refine ⟨hindent.trans hs.indent, hindents.trans hs.indents, hkeys, ?_⟩
  have := hs.room
  rw [hcursor, Cursor.rest_skip, Cursor.size_skip, List.length_drop]
  omega

/-- A quoted scalar, which can be a key if one is allowed. -/
structure Quotes (s : Scanner) (gap : List Char) (q : Quoted) (more : List Char) (u : Scanner) :
    Prop where
  reaches : s.Reaches [.scalar q.letters false] s.flowLevel more u
  index : u.cursor.index = s.cursor.index + gap.length + q.text.length + 1
  count : u.count = s.count + 1
  key : s.keyAllowed = true → ∃ key, u.keys.lookup u.flowLevel = some key ∧ key.place = s.count ∧
    key.index = s.cursor.index + gap.length ∧ key.line = u.cursor.line

theorem exists_quotes {q : Quoted} (hs : s.Rests) (hgap : IsSpacing gap)
    (hq : q.isPortable = true) (h : s.cursor.rest = gap ++ '"' :: (q.text ++ more)) :
    ∃ u, s.Quotes gap q more u := by
  have hch : Begins '"' := ⟨by decide, by decide, rfl⟩
  obtain ⟨t, ht, hrest⟩ := exists_approaches_cons hs hgap hch h
  obtain ⟨keys, hnote, hfree, hlookup⟩ := exists_noteKey ht.rests
  have hafter : t.cursor.next.rest = q.text ++ more := by rw [Cursor.rest_next, hrest]; rfl
  have hsteps : q.length < t.cursor.steps := by
    have hroom := ht.rests.room
    have hlength := length_lt_length_text q
    rw [hrest, List.length_cons, List.length_append] at hroom
    unfold Cursor.steps
    omega
  have hquoted := quoted_text hq hsteps hafter
  have htoken := token_quoted hrest rfl
  rw [scanQuoted, scanWord, hnote] at htoken
  have hresult : t.token = .ok ((({ t with keys }.allowKey false).push
      (.scalar q.letters false)).moveTo (t.cursor.next.skip q.text.length)) := by
    rw [htoken]
    change ((quoted .double t.cursor.steps t.cursor.next >>= fun read =>
      pure (Token.scalar read.1 false, read.2)) >>= fun word =>
        pure (((({ t with keys } : Scanner).allowKey false).push word.1).moveTo word.2) :
          Result) = _
    rw [hquoted]
    rfl
  have hleft : (t.cursor.next.skip q.text.length).rest = more := Cursor.rest_skip_length hafter
  have hlength : gap.length ≤ s.cursor.rest.length ∧
      q.text.length + 1 ≤ t.cursor.rest.length := by
    simp [h, hrest]
  have hstart : t.cursor.index = s.cursor.index + gap.length := by
    rw [ht.cursor, Cursor.index_skip hlength.1]
  refine ⟨_, .of_token ht hrest hresult
      (ht.rests.room_skip (n := q.text.length + 1) hfree rfl rfl rfl) rfl (by simp) ht.level hleft
      (List.suffix_append _ _), ?_, congrArg (· + 1) ht.count, fun hkey => ?_⟩
  · change (t.cursor.skip (q.text.length + 1)).index = _
    rw [Cursor.index_skip hlength.2, hstart]
    omega
  · refine ⟨t.pending, hlookup (ht.allowed hkey), ht.count, hstart, ?_⟩
    change t.cursor.line = (t.cursor.skip (q.text.length + 1)).line
    refine (Cursor.line_skip fun ch hch => ?_).symm
    rw [hrest, List.take_succ_cons, List.take_left', List.mem_cons] at hch
    · rcases hch with rfl | hch
      · rfl
      · exact not_isBreak_of_text hq ch hch
    · rfl

theorem begins_of_inWord (h : inWord ch = true) : Begins ch := by
  have hmarks := notMem_marks h
  simp only [marks, List.mem_cons, not_or] at hmarks
  simp [Begins, isBreak, hmarks]

/-- How a word or number begins. -/
theorem exists_head_atom {a : Atom} (ha : a.isPortable = true) :
    ∃ ch cs, a.text = ch :: cs ∧ ch ≠ '.' ∧
      (ch = '-' → ∃ d rest, cs = d :: rest ∧ inWord d = true ∧ d ≠ '-') := by
  cases a with
  | null => exact ⟨_, _, rfl, by decide, fun h => absurd h (by decide)⟩
  | bool b => cases b <;> exact ⟨_, _, rfl, by decide, fun h => absurd h (by decide)⟩
  | notANumber | infinity => cases ha
  | numeral n =>
    obtain ⟨d, rest, hd⟩ := List.exists_cons_of_ne_nil n.stands.begun
    have hdigit : Document.Json.isDigit d = true :=
      List.all_eq_true.1 n.stands.digit d (by rw [hd]; exact List.mem_cons_self ..)
    have hne {mark : Char} (hmark : Document.Json.isDigit mark = false) : d ≠ mark := by
      rintro rfl
      rw [hmark] at hdigit
      cases hdigit
    have hbody : n.body = d :: (rest ++ Numeral.fractionText n.fraction ++
        Numeral.powerText n.power) := by
      simp [Numeral.body, hd]
    simp only [Atom.text, Numeral.text]
    split
    · exact ⟨_, _, rfl, by decide, fun _ => ⟨d, _, hbody, by simp [inWord, hdigit], hne rfl⟩⟩
    · exact ⟨d, _, hbody, hne rfl, fun h => absurd h (hne rfl)⟩

theorem exists_reaches_atom {a : Atom} {after : List Char} (hs : s.Rests) (hgap : IsSpacing gap)
    (hflow : s.inFlow = true) (ha : a.isPortable = true) (hafter : IsSpacing after)
    (hmore : Closes more) (h : s.cursor.rest = gap ++ (a.text ++ (after ++ more))) :
    ∃ t, s.Reaches [.scalar (a.text.map .char) true] s.flowLevel more t := by
  obtain ⟨ch, cs, htext, hpoint, hminus⟩ := exists_head_atom ha
  have hword := inWord_of_atom a
  have hch : inWord ch = true := hword ch (by rw [htext]; exact List.mem_cons_self ..)
  rw [htext, List.cons_append] at h
  obtain ⟨t, ht, hrest⟩ := exists_approaches_cons hs hgap (begins_of_inWord hch) h
  obtain ⟨keys, hnote, hfree, -⟩ := exists_noteKey ht.rests
  have htoken : t.token = t.scanPlain := by
    refine token_plain hrest hch hpoint fun hc => ?_
    obtain ⟨d, rest, rfl, hd⟩ := hminus hc
    exact ⟨d, _, rfl, hd⟩
  rw [← List.cons_append, ← htext] at hrest
  have hroom : after.length < t.cursor.steps := by
    have := ht.rests.room
    rw [hrest, List.length_append, List.length_append] at this
    unfold Cursor.steps
    omega
  have htflow : t.inFlow = true := by
    unfold inFlow at hflow ⊢
    rw [ht.level]
    exact hflow
  have hne : a.text ≠ [] := by rw [htext]; exact nofun
  obtain ⟨ended, hplain⟩ : ∃ ended, plain true (t.indent + 1) t.cursor.steps t.cursor =
      ⟨a.text, ended, t.cursor.skip (a.text.length + after.length)⟩ :=
    plain_eq (t.indent + 1) hword hne hafter hmore hrest hroom
  have hleft : (t.cursor.skip (a.text.length + after.length)).rest = more := by
    rw [Cursor.skip_add]
    exact Cursor.rest_skip_length (Cursor.rest_skip_length hrest)
  rw [scanPlain, hnote] at htoken
  have hresult : t.token = .ok ((({ t with keys }.allowKey ended).push
      (.scalar (a.text.map .char) true)).moveTo
        (t.cursor.skip (a.text.length + after.length))) := by
    rw [htoken]
    change (do
      let found := plain t.inFlow (t.indent + 1) t.cursor.steps t.cursor
      return ((({ t with keys } : Scanner).allowKey found.lineEnded).push
        (.scalar (found.chars.map .char) true)).moveTo found.cursor : Result) = _
    rw [htflow, hplain]
    rfl
  rw [htext, List.cons_append] at hrest
  exact ⟨_, .of_token ht hrest hresult (ht.rests.room_skip hfree rfl rfl rfl) rfl nofun ht.level
    hleft ((List.suffix_append _ _).trans (List.suffix_append _ _))⟩

/-! ## Names -/

theorem lookup_filter {α β : Type} [DecidableEq α] {a : α} {b : β} {keys : List (α × β)}
    {isIn : α × β → Bool} (h : keys.lookup a = some b) (hin : isIn (a, b) = true) :
    (keys.filter isIn).lookup a = some b := by
  obtain ⟨before, after, rfl, hne⟩ := List.lookup_eq_some_iff.1 h
  refine List.lookup_eq_some_iff.2
    ⟨before.filter isIn, after.filter isIn, by simp [hin], fun p hp => ?_⟩
  exact hne p (List.mem_filter.1 hp).1

/-- The colon comes right after the scalar that the pending key begins with. -/
theorem exists_scanValue {key : PendingKey} {scalar : Token} {before : List Token} (hs : s.Rests)
    (hflow : s.inFlow = true) (hkey : s.keys.lookup s.flowLevel = some key)
    (hcount : s.count = key.place + 1) (htokens : s.tokens = scalar :: before) :
    ∃ t, s.scanValue = .ok t ∧ t.Rests ∧ t.tokens = .value :: scalar :: .key :: before ∧
      t.flowLevel = s.flowLevel ∧ t.cursor = s.cursor.next := by
  have hlater : s.count - key.place = 1 := by omega
  let keys := s.keys.filter fun k => k.1 ≠ s.flowLevel
  have hinsert : { s with keys }.insertAt key.place .key =
      { s with keys, tokens := scalar :: .key :: before, count := s.count + 1 } := by
    simp [insertAt, hlater, htokens]
  let t : Scanner := { s with
    keys, tokens := .value :: scalar :: .key :: before, count := s.count + 2,
    keyAllowed := false, cursor := s.cursor.next }
  have hflow' (tokens : List Token) (count : Nat) :
      ({ s with keys, tokens, count } : Scanner).inFlow = true := hflow
  have hvalue : s.scanValue = .ok t := by
    unfold scanValue
    rw [hkey]
    dsimp only
    rw [hinsert, if_pos (hflow' _ _)]
    rfl
  have hfree : ∀ k ∈ keys, k.2.required = false := fun k hk => hs.free k (List.mem_filter.1 hk).1
  exact ⟨t, hvalue, hs.room_next hfree rfl rfl rfl, rfl, rfl, rfl⟩

/-- Blanks on the line of a key, and not too many of them: the key still waits for its colon. -/
theorem not_isStale_of_skip {key : PendingKey} {spaces : List Char}
    (hspaces : ∀ ch ∈ spaces, ch = ' ') (hrest : s.cursor.rest = spaces ++ more)
    (hcursor : t.cursor = s.cursor.skip spaces.length) (hline : key.line = s.cursor.line)
    (hnear : s.cursor.index + spaces.length - key.index ≤ keyLimit) : t.isStale key = false := by
  have hlength : spaces.length ≤ s.cursor.rest.length := by
    rw [hrest, List.length_append]
    omega
  have htline : t.cursor.line = s.cursor.line := by
    rw [hcursor, Cursor.line_skip]
    intro ch hch
    rw [hrest, List.take_left' rfl] at hch
    rw [hspaces ch hch]
    rfl
  have htindex : t.cursor.index - key.index ≤ keyLimit := by
    rw [hcursor, Cursor.index_skip hlength]
    exact hnear
  simp only [isStale, hline, htline, ne_eq, not_true_eq_false, decide_false, Bool.false_or,
    decide_eq_false_iff_not, Nat.not_lt]
  exact htindex

theorem exists_reaches_name {name : Name} (hs : s.Rests) (hgap : IsSpacing gap)
    (hallowed : s.keyAllowed = true) (hflow : s.inFlow = true) (hname : name.isPortable = true)
    (h : s.cursor.rest = gap ++ (name.text ++ more)) :
    ∃ t, s.Reaches name.tokens s.flowLevel (name.after.chars ++ more) t := by
  simp only [Name.isPortable, Bool.and_eq_true, decide_eq_true_eq] at hname
  obtain ⟨⟨⟨hquoted, hbefore⟩, hafter⟩, hreach⟩ := hname
  have hspaces : ∀ ch ∈ name.before.chars, ch = ' ' := by
    simpa [Gap.isInline] using hbefore
  have hrest : s.cursor.rest = gap ++ '"' :: (name.quoted.text ++
      (name.before.chars ++ ':' :: (name.after.chars ++ more))) := by
    simpa [Name.text] using h
  obtain ⟨t, ht⟩ := exists_quotes hs hgap hquoted hrest
  obtain ⟨key, hkey, hplace, hindex, hline⟩ := ht.key hallowed
  have hcolon : Begins ':' := ⟨by decide, by decide, rfl⟩
  obtain ⟨u, hu, hurest⟩ := exists_approaches_cons ht.reaches.rests
    (fun ch hch => .inl (hspaces ch hch)) hcolon ht.reaches.rest
  have hfresh : u.isStale key = false := by
    refine not_isStale_of_skip hspaces ht.reaches.rest hu.cursor hline ?_
    rw [ht.index, hindex]
    unfold Name.reach at hreach
    omega
  have hwaits : u.keys.lookup u.flowLevel = some key := by
    rw [hu.keys, hu.level]
    exact lookup_filter hkey (by simp [hfresh])
  have huflow : u.inFlow = true := by
    unfold inFlow at hflow ⊢
    rw [hu.level, ht.reaches.level]
    exact hflow
  have hucount : u.count = key.place + 1 := by rw [hu.count, ht.count, hplace]
  have hutokens : u.tokens = .scalar name.quoted.letters false :: s.tokens := by
    rw [hu.tokens, ht.reaches.tokens]
    rfl
  obtain ⟨v, hv, hvrests, hvtokens, hvlevel, hvcursor⟩ :=
    exists_scanValue hu.rests huflow hwaits hucount hutokens
  have hscan : t.scan = .ok v := by
    unfold scan
    rw [hu.eq]
    exact (token_value hurest rfl huflow).trans hv
  have hvrest : v.cursor.rest = name.after.chars ++ more := by
    rw [hvcursor, Cursor.rest_next, hurest]
    rfl
  obtain ⟨n, hn, hnle⟩ := ht.reaches.scans
  refine ⟨v, ⟨n + 1, hn.trans (.head hscan (by simp [hvtokens]) (.refl v)), ?_⟩, hvrests,
    ?_, ?_, hvrest⟩
  · rw [ht.reaches.rest] at hnle
    rw [hvrest]
    simp only [List.length_append, List.length_cons] at hnle ⊢
    omega
  · rw [hvtokens]
    rfl
  · rw [hvlevel, hu.level, ht.reaches.level]

/-! ## Values -/

theorem inFlow_of_level (hflow : s.inFlow = true) (h : t.flowLevel = s.flowLevel) :
    t.inFlow = true := by
  unfold inFlow at hflow ⊢
  rw [h]
  exact hflow

theorem inFlow_of_start {level : Nat} (h : t.flowLevel = level + 1) : t.inFlow = true := by
  simp [inFlow, h]

theorem closes_of {ch : Char} (h : ch ∈ [',', ']', '\x7d']) (more : List Char) :
    Closes (ch :: more) :=
  ⟨ch, more, rfl, h⟩

theorem exists_reaches_empty {start ending : Token} {opening closing : Char} {between : Gap}
    (hs : s.Rests) (hgap : IsSpacing gap) (hbetween : between.isPortable = true)
    (hpair :
      opening = '[' ∧ start = .flowSequenceStart ∧ closing = ']' ∧ ending = .flowSequenceEnd ∨
      opening = '\x7b' ∧ start = .flowMappingStart ∧ closing = '\x7d' ∧ ending = .flowMappingEnd)
    (h : s.cursor.rest = gap ++ opening :: (between.chars ++ closing :: more)) :
    ∃ t, s.Reaches [start, ending] s.flowLevel more t := by
  have hstart : opening = '[' ∧ start = .flowSequenceStart ∨
      opening = '\x7b' ∧ start = .flowMappingStart := by tauto
  have hending : closing = ']' ∧ ending = .flowSequenceEnd ∨
      closing = '\x7d' ∧ ending = .flowMappingEnd := by tauto
  obtain ⟨t, ht, -⟩ := exists_reaches_start hs hgap hstart h
  obtain ⟨u, hu⟩ := exists_reaches_end ht.rests (isSpacing_of_isPortable hbetween) hending ht.rest
  rw [ht.level] at hu
  exact ⟨u, ht.trans hu⟩

theorem isSpacing_after {name : Name} (h : name.isPortable = true) :
    IsSpacing name.after.chars := by
  simp only [Name.isPortable, Bool.and_eq_true] at h
  exact isSpacing_of_isPortable h.1.2

mutual

theorem exists_reaches_value {s : Scanner} {gap after more : List Char} (v : Value)
    (hv : v.isPortable = true) (hs : s.Rests) (hgap : IsSpacing gap) (hflow : s.inFlow = true)
    (hafter : IsSpacing after) (hmore : Closes more)
    (h : s.cursor.rest = gap ++ (v.text ++ (after ++ more))) :
    ∃ t left, s.Reaches v.tokens s.flowLevel (left ++ more) t ∧ IsSpacing left := by
  cases v with
  | atom a =>
    obtain ⟨t, ht⟩ := exists_reaches_atom hs hgap hflow hv hafter hmore h
    exact ⟨t, [], ht, nofun⟩
  | string q =>
    obtain ⟨t, ht⟩ := exists_quotes hs hgap hv h
    exact ⟨t, after, ht.reaches, hafter⟩
  | emptyArray between =>
    have hrest : s.cursor.rest = gap ++ '[' :: (between.chars ++ ']' :: (after ++ more)) := by
      simpa [Value.text] using h
    obtain ⟨t, ht⟩ := exists_reaches_empty hs hgap hv (.inl ⟨rfl, rfl, rfl, rfl⟩) hrest
    exact ⟨t, after, ht, hafter⟩
  | emptyObject between =>
    have hrest : s.cursor.rest = gap ++ '\x7b' :: (between.chars ++ '\x7d' :: (after ++ more)) := by
      simpa [Value.text] using h
    obtain ⟨t, ht⟩ := exists_reaches_empty hs hgap hv (.inr ⟨rfl, rfl, rfl, rfl⟩) hrest
    exact ⟨t, after, ht, hafter⟩
  | array between items =>
    simp only [Value.isPortable, Bool.and_eq_true] at hv
    have hrest : s.cursor.rest =
        gap ++ '[' :: (between.chars ++ (items.text ++ (after ++ more))) := by
      simpa [Value.text] using h
    obtain ⟨t, ht, -⟩ := exists_reaches_start hs hgap (.inl ⟨rfl, rfl⟩) hrest
    obtain ⟨u, hu⟩ := exists_reaches_items items hv.2 ht.rests (isSpacing_of_isPortable hv.1)
      (inFlow_of_start ht.level) ht.rest
    rw [ht.level] at hu
    exact ⟨u, after, ht.trans hu, hafter⟩
  | object between members =>
    simp only [Value.isPortable, Bool.and_eq_true] at hv
    have hrest : s.cursor.rest =
        gap ++ '\x7b' :: (between.chars ++ (members.text ++ (after ++ more))) := by
      simpa [Value.text] using h
    obtain ⟨t, ht, hallowed⟩ := exists_reaches_start hs hgap (.inr ⟨rfl, rfl⟩) hrest
    obtain ⟨u, hu⟩ := exists_reaches_members members hv.2 ht.rests (isSpacing_of_isPortable hv.1)
      (inFlow_of_start ht.level) hallowed ht.rest
    rw [ht.level] at hu
    exact ⟨u, after, ht.trans hu, hafter⟩

theorem exists_reaches_items {s : Scanner} {gap more : List Char} (items : Items)
    (hitems : items.isPortable = true) (hs : s.Rests) (hgap : IsSpacing gap)
    (hflow : s.inFlow = true) (h : s.cursor.rest = gap ++ (items.text ++ more)) :
    ∃ t, s.Reaches items.tokens (s.flowLevel - 1) more t := by
  cases items with
  | last v after =>
    simp only [Items.isPortable, Bool.and_eq_true] at hitems
    have hrest : s.cursor.rest = gap ++ (v.text ++ (after.chars ++ ']' :: more)) := by
      simpa [Items.text] using h
    obtain ⟨t, left, ht, hleft⟩ := exists_reaches_value v hitems.1 hs hgap hflow
      (isSpacing_of_isPortable hitems.2) (closes_of (by simp) more) hrest
    obtain ⟨u, hu⟩ := exists_reaches_end ht.rests hleft (.inl ⟨rfl, rfl⟩) ht.rest
    rw [ht.level] at hu
    exact ⟨u, ht.trans hu⟩
  | more v after before others =>
    simp only [Items.isPortable, Bool.and_eq_true] at hitems
    obtain ⟨⟨⟨hv, hafter⟩, hbefore⟩, hothers⟩ := hitems
    have hrest : s.cursor.rest = gap ++ (v.text ++ (after.chars ++ ',' ::
        (before.chars ++ (others.text ++ more)))) := by
      simpa [Items.text] using h
    obtain ⟨t, left, ht, hleft⟩ := exists_reaches_value v hv hs hgap hflow
      (isSpacing_of_isPortable hafter) (closes_of (by simp) _) hrest
    obtain ⟨u, hu, -⟩ := exists_reaches_entry ht.rests hleft ht.rest
    rw [ht.level] at hu
    obtain ⟨w, hw⟩ := exists_reaches_items others hothers hu.rests
      (isSpacing_of_isPortable hbefore) (inFlow_of_level hflow hu.level) hu.rest
    rw [hu.level] at hw
    refine ⟨w, ?_⟩
    have := (ht.trans hu).trans hw
    rwa [List.append_assoc] at this

theorem exists_reaches_members {s : Scanner} {gap more : List Char} (members : Members)
    (hmembers : members.isPortable = true) (hs : s.Rests) (hgap : IsSpacing gap)
    (hflow : s.inFlow = true) (hallowed : s.keyAllowed = true)
    (h : s.cursor.rest = gap ++ (members.text ++ more)) :
    ∃ t, s.Reaches members.tokens (s.flowLevel - 1) more t := by
  cases members with
  | last name v after =>
    simp only [Members.isPortable, Bool.and_eq_true] at hmembers
    obtain ⟨⟨hname, hv⟩, hafter⟩ := hmembers
    have hrest : s.cursor.rest =
        gap ++ (name.text ++ (v.text ++ (after.chars ++ '\x7d' :: more))) := by
      simpa [Members.text] using h
    obtain ⟨t, ht⟩ := exists_reaches_name hs hgap hallowed hflow hname hrest
    obtain ⟨u, left, hu, hleft⟩ := exists_reaches_value v hv ht.rests (isSpacing_after hname)
      (inFlow_of_level hflow ht.level) (isSpacing_of_isPortable hafter) (closes_of (by simp) more)
      ht.rest
    obtain ⟨w, hw⟩ := exists_reaches_end hu.rests hleft (.inr ⟨rfl, rfl⟩) hu.rest
    rw [ht.level] at hu
    rw [hu.level] at hw
    exact ⟨w, (ht.trans hu).trans hw⟩
  | more name v after before others =>
    simp only [Members.isPortable, Bool.and_eq_true] at hmembers
    obtain ⟨⟨⟨⟨hname, hv⟩, hafter⟩, hbefore⟩, hothers⟩ := hmembers
    have hrest : s.cursor.rest = gap ++ (name.text ++ (v.text ++ (after.chars ++ ',' ::
        (before.chars ++ (others.text ++ more))))) := by
      simpa [Members.text] using h
    obtain ⟨t, ht⟩ := exists_reaches_name hs hgap hallowed hflow hname hrest
    obtain ⟨u, left, hu, hleft⟩ := exists_reaches_value v hv ht.rests (isSpacing_after hname)
      (inFlow_of_level hflow ht.level) (isSpacing_of_isPortable hafter) (closes_of (by simp) _)
      ht.rest
    obtain ⟨w, hw, hwallowed⟩ := exists_reaches_entry hu.rests hleft hu.rest
    rw [ht.level] at hu
    rw [hu.level] at hw
    obtain ⟨x, hx⟩ := exists_reaches_members others hothers hw.rests
      (isSpacing_of_isPortable hbefore) (inFlow_of_level hflow hw.level) hwallowed hw.rest
    rw [hw.level] at hx
    refine ⟨x, ?_⟩
    have htokens := ((ht.trans hu).trans hw).trans hx
    rwa [List.append_assoc _ [_]] at htokens

end

/-! ## Texts -/

/-- An object needs no brackets around it. -/
theorem exists_reaches_object {v : Value} (hobject : v.isObject = true) (hv : v.isPortable = true)
    (hs : s.Rests) (hgap : IsSpacing gap) (h : s.cursor.rest = gap ++ (v.text ++ more)) :
    ∃ t, s.Reaches v.tokens s.flowLevel more t := by
  cases v with
  | atom | string | emptyArray | array => cases hobject
  | emptyObject between =>
    have hrest : s.cursor.rest = gap ++ '\x7b' :: (between.chars ++ '\x7d' :: more) := by
      simpa [Value.text] using h
    exact exists_reaches_empty hs hgap hv (.inr ⟨rfl, rfl, rfl, rfl⟩) hrest
  | object between members =>
    simp only [Value.isPortable, Bool.and_eq_true] at hv
    have hrest : s.cursor.rest = gap ++ '\x7b' :: (between.chars ++ (members.text ++ more)) := by
      simpa [Value.text] using h
    obtain ⟨t, ht, hallowed⟩ := exists_reaches_start hs hgap (.inr ⟨rfl, rfl⟩) hrest
    obtain ⟨u, hu⟩ := exists_reaches_members members hv.2 ht.rests (isSpacing_of_isPortable hv.1)
      (inFlow_of_start ht.level) hallowed ht.rest
    rw [ht.level] at hu
    exact ⟨u, ht.trans hu⟩

/-- After the last token the text ends. -/
theorem exists_scan_end (hs : s.Rests) (hgap : IsSpacing gap) (h : s.cursor.rest = gap) :
    ∃ t, s.scan = .ok t ∧ t.tokens = .streamEnd :: s.tokens := by
  rw [← List.append_nil gap] at h
  obtain ⟨t, ht⟩ := exists_approaches hs hgap (by simp) h
  have hrest : t.cursor.rest = [] := by
    rw [ht.cursor]
    exact Cursor.rest_skip_length h
  have hunwind : t.unwind (-1) = t := by
    unfold unwind
    rw [ht.rests.indents]
    split <;> rfl
  obtain ⟨keys, hdrop, -⟩ := exists_dropKey ht.rests
  have htoken : t.token = .ok ({ t with keys }.push .streamEnd) := by
    have hpeek : t.cursor.peek = '\x00' := by simp [Cursor.peek, hrest]
    unfold token
    simp only [hpeek, atEnd, decide_true, if_true, scanEnd, hunwind, hdrop]
    rfl
  refine ⟨{ t with keys }.push .streamEnd, ?_, congrArg (Token.streamEnd :: ·) ht.tokens⟩
  unfold scan
  rw [ht.eq]
  exact htoken

end Scanner

open Scanner

theorem withoutMark_eq {c : Cursor} {gap more : List Char} (hgap : IsSpacing gap)
    (h : c.rest = gap ++ '\x7b' :: more) : withoutMark c = c := by
  have hpeek : c.peek ≠ '\uFEFF' := by
    cases gap with
    | nil =>
      rw [Cursor.peek_eq h]
      exact nofun
    | cons ch gap =>
      rw [Cursor.peek_eq h]
      rcases hgap ch (List.mem_cons_self ..) with rfl | rfl <;> exact nofun
  exact if_neg hpeek

/-- The tokens of a portable object are those of its notation. -/
theorem tokens_text {n : Document.Json.Notation} (hobject : n.value.isObject = true)
    (hn : n.isPortable = true) : tokens n.text = n.value.tokens ++ [.streamEnd] := by
  simp only [Document.Json.Notation.isPortable, Bool.and_eq_true] at hn
  obtain ⟨⟨hbefore, hvalue⟩, hafter⟩ := hn
  have hgap := isSpacing_of_isPortable hbefore
  have htext : n.text = n.before.chars ++ (n.value.text ++ n.after.chars) :=
    List.append_assoc ..
  have hmark : withoutMark (.ofChars n.text) = .ofChars n.text := by
    obtain ⟨more, hmore⟩ : ∃ more, n.value.text = '\x7b' :: more := by
      cases hvalue : n.value with
      | atom | string | emptyArray | array => rw [hvalue] at hobject; cases hobject
      | emptyObject | object => exact ⟨_, rfl⟩
    have hrest : (Cursor.ofChars n.text).rest =
        n.before.chars ++ '\x7b' :: (more ++ n.after.chars) := by
      rw [Cursor.ofChars, htext, hmore, List.cons_append]
    exact withoutMark_eq hgap hrest
  let s : Scanner := { cursor := .ofChars n.text }
  have hs : s.Rests := ⟨rfl, rfl, nofun, Nat.le_refl _⟩
  obtain ⟨t, ht⟩ := exists_reaches_object hobject hvalue hs hgap htext
  obtain ⟨u, hscan, hu⟩ := exists_scan_end ht.rests (isSpacing_of_isPortable hafter) ht.rest
  obtain ⟨k, hk, hle⟩ := ht.scans
  -- Every token took a character, so the steps are not used up at the end of the text.
  obtain ⟨m, hm⟩ : ∃ m, (Cursor.ofChars n.text).steps = k + (m + 1) :=
    ⟨n.text.length - k, by
      have hsize : s.cursor.rest.length = n.text.length := rfl
      rw [Cursor.steps, show (Cursor.ofChars n.text).size = n.text.length from rfl]
      omega⟩
  rw [tokens, hm, hmark, hk.run_add, run, hscan]
  dsimp only
  rw [hu, ht.tokens]
  simp [s]

end Scaffold.Yaml
