import BrokerGuard.Expression.Token
/-!
# Lexemes — how a row of tokens is written

`Lexeme` says how one token may be written, and `Spelling` how a row of tokens is: its lexemes in order, with white space
around them wherever one likes, and needed only between two words.  Neither mentions the reader.

The reader decides the relation (`tokenize_ok_iff`): it answers a row of tokens exactly for the spellings of that row.  The
forward half reads one lexeme at a time (`scan_lexeme`), the backward half goes with the characters and says of each open
lexeme what may complete it (`Pending.Resumes`).
-/
namespace BrokerGuard
namespace Expression

open Text (isWhiteSpace isAlphabetic isNumeric isAlphanumeric)

/-! ## Characters -/

/-- No run of the one list touches a run of the other. -/
def runsApart (a b : List (Nat × Nat)) : Bool :=
  a.all fun r => b.all fun s => decide (r.2 < s.1) || decide (s.2 < r.1)

theorem inRuns_false_of_runsApart {a b : List (Nat × Nat)} {c : Char} (h : runsApart a b = true)
    (ha : Text.inRuns a c = true) : Text.inRuns b c = false := by
  rw [Text.inRuns, List.any_eq_false]
  intro s hs hcs
  obtain ⟨r, hr, hcr⟩ := List.any_eq_true.1 ha
  have hrs := List.all_eq_true.1 (List.all_eq_true.1 h r hr) s hs
  simp only [Bool.and_eq_true, Bool.or_eq_true, decide_eq_true_eq] at hcs hcr hrs
  omega

theorem whiteSpace_apart_alphabetic : runsApart Text.whiteSpaceRuns Text.Property.alphabeticRuns = true := by
  decide +kernel

theorem whiteSpace_apart_numeric : runsApart Text.whiteSpaceRuns Text.Property.numericRuns = true := by
  decide +kernel

theorem lt_toNat_of_continuesWord {c : Char} (hascii : c.toNat < 128) (h : continuesWord c = true) : 32 < c.toNat := by
  simp only [continuesWord, isAlphanumeric, isAlphabetic, isNumeric, hascii, if_true] at h
  delta Char.isAlpha Char.isUpper Char.isLower Char.isDigit at h
  simp only [Bool.or_eq_true, Bool.and_eq_true, decide_eq_true_eq, UInt32.le_iff_toNat_le, ge_iff_le, beq_iff_eq] at h
  change (((65 ≤ c.toNat ∧ c.toNat ≤ 90) ∨ (97 ≤ c.toNat ∧ c.toNat ≤ 122)) ∨ (48 ≤ c.toNat ∧ c.toNat ≤ 57)) ∨
    c = '_' at h
  rcases h with h | rfl
  · omega
  · decide

/-- **White space ends a word.** -/
theorem continuesWord_of_isWhiteSpace {c : Char} (h : isWhiteSpace c = true) : continuesWord c = false := by
  by_cases hascii : c.toNat < 128
  · have hlow : c.toNat ≤ 32 := by
      obtain ⟨r, hr, hc⟩ := List.any_eq_true.1 h
      simp only [Text.whiteSpaceRuns, List.mem_cons, List.not_mem_nil, or_false] at hr
      simp only [Bool.and_eq_true, decide_eq_true_eq] at hc
      rcases hr with rfl | rfl | rfl | rfl | rfl | rfl | rfl | rfl | rfl | rfl <;> omega
    rw [Bool.eq_false_iff]
    intro hw
    have := lt_toNat_of_continuesWord hascii hw
    omega
  · -- beyond ASCII all three properties are tables of runs
    have ha := inRuns_false_of_runsApart whiteSpace_apart_alphabetic h
    have hn := inRuns_false_of_runsApart whiteSpace_apart_numeric h
    have hne : c ≠ '_' := by rintro rfl; exact hascii (by decide)
    simp [continuesWord, isAlphanumeric, isAlphabetic, isNumeric, hascii, ha, hn, hne]

theorem continuesWord_of_startsWord {c : Char} (h : startsWord c = true) : continuesWord c = true := by
  simp only [startsWord, Bool.or_eq_true] at h
  rcases h with h | h <;> simp [continuesWord, isAlphanumeric, h]

/-- The characters that are a lexeme, or begin one, and are in no word. -/
def marks : List Char := ['(', ')', ',', '!', '&', '|', '\'', '"']

theorem continuesWord_of_mem_marks (c : Char) (h : c ∈ marks) : continuesWord c = false := by
  have hall : (marks.all fun c => !continuesWord c) = true := by decide
  simpa using List.all_eq_true.1 hall c h

/-! ## Lexemes and spellings -/

/-- A letter or an underscore, and then letters, digits and underscores. -/
def IsWord (w : List Char) : Prop := ∃ c cs, w = c :: cs ∧ startsWord c = true ∧ ∀ d ∈ cs, continuesWord d = true

/-- The reserved words and what they mean. -/
def keywords : List (List Char × TokenKind) :=
  [(['a', 'n', 'd'], .and), (['o', 'r'], .or), (['n', 'o', 't'], .not), (['t', 'r', 'u', 'e'], .bool true),
   (['f', 'a', 'l', 's', 'e'], .bool false)]

/-- A word that is not reserved, in whatever letter case. -/
def IsIdentifier (w : List Char) : Prop := IsWord w ∧ w.map Char.toLower ∉ keywords.map Prod.fst

/-- How a value is written between quotes: a backslash makes the next character literal, and a quote or a backslash
needs one. -/
inductive QuotedBody (quote : Char) : List Char → List Char → Prop
  | nil : QuotedBody quote [] []
  | plain {c : Char} {value body : List Char} (hq : c ≠ quote) (hb : c ≠ '\\') (h : QuotedBody quote value body) :
      QuotedBody quote (c :: value) (c :: body)
  | escaped {c : Char} {value body : List Char} (h : QuotedBody quote value body) :
      QuotedBody quote (c :: value) ('\\' :: c :: body)

/-- The two quotation marks. -/
def IsQuote (c : Char) : Prop := c = '\'' ∨ c = '"'

/-- How one token is written. -/
inductive Lexeme : TokenKind → List Char → Prop
  | lparen : Lexeme .lparen ['(']
  | rparen : Lexeme .rparen [')']
  | comma : Lexeme .comma [',']
  | not : Lexeme .not ['!']
  | and : Lexeme .and ['&', '&']
  | or : Lexeme .or ['|', '|']
  | keyword {k w : List Char} {t : TokenKind} (hk : (k, t) ∈ keywords) (hw : w.map Char.toLower = k) : Lexeme t w
  | ident {w : List Char} (h : IsIdentifier w) : Lexeme (.ident (String.ofList w)) w
  | str {quote : Char} {value body : List Char} (hq : IsQuote quote) (h : QuotedBody quote value body) :
      Lexeme (.str (String.ofList value)) (quote :: (body ++ [quote]))

/-- White space only. -/
def IsBlank (ws : List Char) : Prop := ∀ c ∈ ws, isWhiteSpace c = true

/-- A word begins right here. -/
def BeginsWord (cs : List Char) : Prop := ∃ c ∈ cs.head?, startsWord c = true

/-- How a row of tokens is written: lexemes in order, white space anywhere around them, and some between two words. -/
inductive Spelling : List TokenKind → List Char → Prop
  | blank {ws : List Char} (h : IsBlank ws) : Spelling [] ws
  | lexeme {ws w rest : List Char} {t : TokenKind} {ts : List TokenKind} (hws : IsBlank ws) (hw : Lexeme t w)
      (hnext : IsWord w → ¬ BeginsWord rest) (h : Spelling ts rest) : Spelling (t :: ts) (ws ++ (w ++ rest))

theorem spelling_nil : Spelling [] [] := .blank fun _ hc => absurd hc List.not_mem_nil

/-- The text cannot go on a word that stands before it. -/
def EndsWord (rest : List Char) : Prop := ∀ c ∈ rest.head?, continuesWord c = false

theorem endsWord_cons {c : Char} {cs : List Char} (hc : continuesWord c = false) : EndsWord (c :: cs) := by
  intro d hd
  cases hd
  exact hc

theorem not_beginsWord_of_endsWord {rest : List Char} (h : EndsWord rest) : ¬ BeginsWord rest := by
  rintro ⟨c, hc, hs⟩
  have := continuesWord_of_startsWord hs
  rw [h c hc] at this
  cases this

theorem Spelling.blank_append {ws cs : List Char} {ts : List TokenKind} (h : Spelling ts cs) (hws : IsBlank ws) :
    Spelling ts (ws ++ cs) := by
  have happend {vs : List Char} (hvs : IsBlank vs) : IsBlank (ws ++ vs) := fun c hc =>
    (List.mem_append.1 hc).elim (hws c) (hvs c)
  cases h with
  | blank hvs => exact .blank (happend hvs)
  | lexeme hvs hw hnext h => rw [← List.append_assoc]; exact .lexeme (happend hvs) hw hnext h

theorem isBlank_space : IsBlank [' '] := by
  simp only [IsBlank, List.mem_singleton, forall_eq]
  decide

theorem Spelling.space {ts : List TokenKind} {cs : List Char} (h : Spelling ts cs) : Spelling ts (' ' :: cs) :=
  h.blank_append isBlank_space

/-! ## How lexemes begin -/

theorem startsWord_of_toLower {c : Char} (h : startsWord c.toLower = true) : startsWord c = true := by
  by_cases hc : c.val ≥ 'A'.val ∧ c.val ≤ 'Z'.val
  · have hascii : c.toNat < 128 := by
      have : c.toNat ≤ 90 := hc.2
      omega
    have hup : c.isUpper = true := decide_eq_true hc
    have halpha : c.isAlpha = true := Bool.or_eq_true_iff.2 (.inl hup)
    simp [startsWord, isAlphabetic, hascii, halpha]
  · have hsame : c.toLower = c := dif_neg hc
    rwa [hsame] at h

theorem isWord_of_mem_keywords {w : List Char} (h : w.map Char.toLower ∈ keywords.map Prod.fst) : IsWord w := by
  have hall : ∀ k ∈ keywords.map Prod.fst, k ≠ [] ∧ k.all startsWord = true := by decide
  obtain ⟨hne, hlow⟩ := hall _ h
  have hstart : ∀ c ∈ w, startsWord c = true := fun c hc =>
    startsWord_of_toLower (List.all_eq_true.1 hlow _ (List.mem_map.2 ⟨c, hc, rfl⟩))
  cases w with
  | nil => exact absurd rfl hne
  | cons c cs =>
    exact ⟨c, cs, rfl, hstart c (by simp), fun d hd => continuesWord_of_startsWord (hstart d (by simp [hd]))⟩

/-- **A lexeme is a word, or begins with a mark.** -/
theorem Lexeme.isWord_or_mark {t : TokenKind} {w : List Char} (h : Lexeme t w) :
    IsWord w ∨ ∃ c cs, w = c :: cs ∧ c ∈ marks := by
  cases h with
  | keyword hk hw => exact .inl (isWord_of_mem_keywords (List.mem_map.2 ⟨_, hk, hw.symm⟩))
  | ident h => exact .inl h.1
  | str hq h =>
    refine .inr ⟨_, _, rfl, ?_⟩
    rcases hq with rfl | rfl <;> decide
  | _ => exact .inr ⟨_, _, rfl, by decide⟩

/-- **Where no word begins, the word before ends.** -/
theorem Spelling.endsWord {ts : List TokenKind} {cs : List Char} (h : Spelling ts cs) (hw : ¬ BeginsWord cs) :
    EndsWord cs := by
  intro c hc
  cases h with
  | blank hws => exact continuesWord_of_isWhiteSpace (hws c (List.mem_of_mem_head? hc))
  | @lexeme ws w rest t ts hws hlex _ _ =>
    cases ws with
    | cons d ws =>
      simp only [List.cons_append, List.head?_cons, Option.mem_def, Option.some.injEq] at hc
      exact continuesWord_of_isWhiteSpace (hws c (by simp [hc]))
    | nil =>
      rcases hlex.isWord_or_mark with ⟨d, ds, rfl, hd, -⟩ | ⟨d, ds, rfl, hd⟩
      · exact absurd ⟨d, by simp, hd⟩ hw
      · simp only [List.nil_append, List.cons_append, List.head?_cons, Option.mem_def, Option.some.injEq] at hc
        exact continuesWord_of_mem_marks c (hc ▸ hd)

/-! ## Reading a spelling -/

/-- The tokens in front of an outcome. -/
def ahead (tokens : List Token) : Except ParseError (List Token) → Except ParseError (List Token) :=
  Except.map (tokens ++ ·)

theorem scan_cons {position : Nat} {pending next : Pending} {c : Char} {cs : List Char} {tokens : List Token}
    (h : pending.step position c = .ok (tokens, next)) :
    scan position pending (c :: cs) = ahead tokens (scan (position + 1) next cs) := by
  rw [scan, h]
  dsimp only
  cases scan (position + 1) next cs <;> rfl

theorem ahead_nil (r : Except ParseError (List Token)) : ahead [] r = r := by cases r <;> rfl

theorem ahead_ahead (a b : List Token) (r : Except ParseError (List Token)) :
    ahead a (ahead b r) = ahead (a ++ b) r := by
  cases r <;> simp [ahead, Except.map]

theorem scan_cons_nil {position : Nat} {pending next : Pending} {c : Char} {cs : List Char}
    (h : pending.step position c = .ok ([], next)) :
    scan position pending (c :: cs) = scan (position + 1) next cs := by
  rw [scan_cons h, ahead_nil]

theorem scan_blank {ws : List Char} (hws : IsBlank ws) (rest : List Char) (position : Nat) :
    scan position .none (ws ++ rest) = scan (position + ws.length) .none rest := by
  induction ws generalizing position with
  | nil => rfl
  | cons c ws ih =>
    have hstep : Pending.none.step position c = .ok ([], .none) := by
      simp [Pending.step, Pending.start, hws c (by simp)]
    rw [List.cons_append, scan_cons_nil hstep, ih (fun d hd => hws d (by simp [hd])), List.length_cons]
    congr 1
    omega

theorem scan_endsWord {rest : List Char} (h : EndsWord rest) (position first : Nat) (letters : List Char) :
    scan position (.word first letters) rest = ahead [wordToken first letters] (scan position .none rest) := by
  cases rest with
  | nil => rfl
  | cons c cs =>
    have hc : continuesWord c = false := h c rfl
    cases hs : Pending.start position c with
    | error e => simp [scan, Pending.step, hc, hs, ahead, Except.map]
    | ok r =>
      have hstep : (Pending.word first letters).step position c = .ok (wordToken first letters :: r.1, r.2) := by
        simp [Pending.step, hc, hs]
      have hnone : Pending.none.step position c = .ok (r.1, r.2) := hs
      rw [scan_cons hstep, scan_cons hnone, ahead_ahead]
      rfl

theorem scan_word {w rest : List Char} (hw : ∀ c ∈ w, continuesWord c = true) (hrest : EndsWord rest)
    (position first : Nat) (letters : List Char) :
    scan position (.word first letters) (w ++ rest) =
      ahead [wordToken first (w.reverse ++ letters)] (scan (position + w.length) .none rest) := by
  induction w generalizing position letters with
  | nil => exact scan_endsWord hrest position first letters
  | cons c w ih =>
    have hstep : (Pending.word first letters).step position c = .ok ([], .word first (c :: letters)) := by
      simp [Pending.step, hw c (by simp)]
    rw [List.cons_append, scan_cons_nil hstep, ih (fun d hd => hw d (by simp [hd]))]
    simp only [List.reverse_cons, List.append_assoc, List.singleton_append, List.length_cons, Nat.add_comm,
      Nat.add_left_comm]

theorem scan_quoted {quote : Char} {value body : List Char} (hquote : IsQuote quote) (h : QuotedBody quote value body)
    (rest : List Char) (position first : Nat) (letters : List Char) :
    scan position (.quoted first quote letters) (body ++ quote :: rest) =
      ahead [⟨.str (String.ofList (letters.reverse ++ value)), first⟩]
        (scan (position + body.length + 1) .none rest) := by
  induction h generalizing position letters with
  | nil =>
    have hstep : (Pending.quoted first quote letters).step position quote =
        .ok ([⟨.str (String.ofList letters.reverse), first⟩], .none) := by simp [Pending.step]
    rw [List.nil_append, scan_cons hstep, List.append_nil, List.length_nil, Nat.add_zero]
  | @plain c value body hq hb _ ih =>
    have hstep : (Pending.quoted first quote letters).step position c =
        .ok ([], .quoted first quote (c :: letters)) := by
      simp [Pending.step, hq, hb]
    rw [List.cons_append, scan_cons_nil hstep, ih, List.length_cons, List.reverse_cons, List.append_assoc,
      List.singleton_append, Nat.add_assoc position 1, Nat.add_comm 1]
  | @escaped c value body _ ih =>
    have hstep : (Pending.quoted first quote letters).step position '\\' = .ok ([], .escaped first quote letters) := by
      have hne : '\\' ≠ quote := by rcases hquote with rfl | rfl <;> decide
      simp [Pending.step, hne]
    have hnext : (Pending.escaped first quote letters).step (position + 1) c =
        .ok ([], .quoted first quote (c :: letters)) := rfl
    rw [List.cons_append, List.cons_append, scan_cons_nil hstep, scan_cons_nil hnext, ih, List.length_cons,
      List.length_cons, List.reverse_cons, List.append_assoc, List.singleton_append]
    congr 2
    omega

theorem TokenKind.ofWord_of_mem_keywords {k w : List Char} {t : TokenKind} (hk : (k, t) ∈ keywords)
    (hw : w.map Char.toLower = k) : TokenKind.ofWord w = t := by
  simp only [keywords, List.mem_cons, List.not_mem_nil, or_false, Prod.mk.injEq] at hk
  rcases hk with ⟨rfl, rfl⟩ | ⟨rfl, rfl⟩ | ⟨rfl, rfl⟩ | ⟨rfl, rfl⟩ | ⟨rfl, rfl⟩ <;> simp [TokenKind.ofWord, hw]

theorem TokenKind.ofWord_of_not_mem_keywords {w : List Char} (h : w.map Char.toLower ∉ keywords.map Prod.fst) :
    TokenKind.ofWord w = .ident (String.ofList w) := by
  simp only [keywords, List.map_cons, List.map_nil, List.mem_cons, List.not_mem_nil, or_false, not_or] at h
  obtain ⟨hand, hor, hnot, htrue, hfalse⟩ := h
  simp only [TokenKind.ofWord, if_neg hand, if_neg hor, if_neg hnot, if_neg htrue, if_neg hfalse]

/-- **Every word is a lexeme**, of a reserved word or of a name. -/
theorem IsWord.lexeme {w : List Char} (h : IsWord w) : Lexeme (.ofWord w) w := by
  by_cases hk : w.map Char.toLower ∈ keywords.map Prod.fst
  · obtain ⟨⟨k, t⟩, hmem, hw⟩ := List.mem_map.1 hk
    rw [TokenKind.ofWord_of_mem_keywords hmem hw.symm]
    exact .keyword hmem hw.symm
  · rw [TokenKind.ofWord_of_not_mem_keywords hk]
    exact .ident ⟨h, hk⟩

theorem start_of_startsWord {c : Char} (h : startsWord c = true) (position : Nat) :
    Pending.start position c = .ok ([], .word position [c]) := by
  have hc := continuesWord_of_startsWord h
  have hblank : isWhiteSpace c = false := by
    rw [Bool.eq_false_iff]
    intro hw
    rw [continuesWord_of_isWhiteSpace hw] at hc
    cases hc
  have hmark : ∀ d ∈ marks, c ≠ d := by
    rintro d hd rfl
    rw [continuesWord_of_mem_marks c hd] at hc
    cases hc
  simp only [marks, List.forall_mem_cons, List.not_mem_nil, false_imp_iff, implies_true, and_true] at hmark
  obtain ⟨h1, h2, h3, h4, h5, h6, h7, h8⟩ := hmark
  simp [Pending.start, hblank, h1, h2, h3, h4, h5, h6, h7, h8, h]

theorem scan_isWord {w rest : List Char} (hw : IsWord w) (hrest : EndsWord rest) (position : Nat) :
    scan position .none (w ++ rest) = ahead [⟨.ofWord w, position⟩] (scan (position + w.length) .none rest) := by
  obtain ⟨c, cs, rfl, hc, hcs⟩ := hw
  have hstep : Pending.none.step position c = .ok ([], .word position [c]) := start_of_startsWord hc position
  rw [List.cons_append, scan_cons_nil hstep, scan_word hcs hrest, wordToken, List.reverse_append, List.reverse_reverse,
    List.reverse_singleton, List.singleton_append, List.length_cons, Nat.add_assoc, Nat.add_comm 1]

/-- **A lexeme is read as its token**, whatever follows, unless it is a word that could go on. -/
theorem scan_lexeme {t : TokenKind} {w rest : List Char} (h : Lexeme t w) (hrest : IsWord w → EndsWord rest)
    (position : Nat) :
    scan position .none (w ++ rest) = ahead [⟨t, position⟩] (scan (position + w.length) .none rest) := by
  cases h with
  | keyword hk hw =>
    have hword := isWord_of_mem_keywords (List.mem_map.2 ⟨_, hk, hw.symm⟩)
    rw [scan_isWord hword (hrest hword), TokenKind.ofWord_of_mem_keywords hk hw]
  | ident h => rw [scan_isWord h.1 (hrest h.1), TokenKind.ofWord_of_not_mem_keywords h.2]
  | @str quote value body hq h =>
    have hstep : Pending.none.step position quote = .ok ([], .quoted position quote []) := by
      rcases hq with rfl | rfl <;> rfl
    rw [List.cons_append, List.append_assoc, List.singleton_append, scan_cons_nil hstep, scan_quoted hq h,
      List.reverse_nil, List.nil_append, List.length_cons, List.length_append, List.length_singleton]
    congr 2
    omega
  | and =>
    have hstep : Pending.none.step position '&' = .ok ([], .doubled position '&') := rfl
    have hnext : (Pending.doubled position '&').step (position + 1) '&' = .ok ([⟨.and, position⟩], .none) := rfl
    exact (scan_cons_nil hstep).trans (scan_cons hnext)
  | or =>
    have hstep : Pending.none.step position '|' = .ok ([], .doubled position '|') := rfl
    have hnext : (Pending.doubled position '|').step (position + 1) '|' = .ok ([⟨.or, position⟩], .none) := rfl
    exact (scan_cons_nil hstep).trans (scan_cons hnext)
  | _ => exact scan_cons rfl

/-- A spelling is read as the tokens that it spells. -/
theorem scan_spelling {ts : List TokenKind} {cs : List Char} (h : Spelling ts cs) (position : Nat) :
    ∃ tokens, scan position .none cs = .ok tokens ∧ tokens.map Token.kind = ts := by
  induction h generalizing position with
  | @blank ws hws =>
    have := scan_blank hws [] position
    rw [List.append_nil] at this
    exact ⟨[], this, rfl⟩
  | @lexeme ws w rest t ts hws hw hnext h ih =>
    obtain ⟨tokens, hscan, hkinds⟩ := ih (position + ws.length + w.length)
    refine ⟨⟨t, position + ws.length⟩ :: tokens, ?_, by rw [List.map_cons, hkinds]⟩
    rw [scan_blank hws, scan_lexeme hw (fun hword => h.endsWord (hnext hword)), hscan]
    rfl

/-! ## What the reader reads is a spelling -/

/-- What may complete an open lexeme and go on from there: the tokens, and how they are written. -/
def Pending.Resumes (ts : List TokenKind) (cs : List Char) : Pending → Prop
  | none => Spelling ts cs
  | word _ letters => ∃ w rest us, cs = w ++ rest ∧ (∀ c ∈ w, continuesWord c = true) ∧ ¬ BeginsWord rest ∧
      ts = .ofWord (letters.reverse ++ w) :: us ∧ Spelling us rest
  | quoted _ quote letters => ∃ value body rest us, QuotedBody quote value body ∧ cs = body ++ quote :: rest ∧
      ts = .str (String.ofList (letters.reverse ++ value)) :: us ∧ Spelling us rest
  | escaped _ quote letters => ∃ c value body rest us, QuotedBody quote value body ∧ cs = c :: (body ++ quote :: rest) ∧
      ts = .str (String.ofList (letters.reverse ++ c :: value)) :: us ∧ Spelling us rest
  | doubled _ half => ∃ rest us, cs = half :: rest ∧ ts = (if half = '&' then .and else .or) :: us ∧ Spelling us rest

theorem Spelling.adjoin {w rest : List Char} {t : TokenKind} {ts : List TokenKind} (hlex : Lexeme t w)
    (hnext : IsWord w → ¬ BeginsWord rest) (h : Spelling ts rest) : Spelling (t :: ts) (w ++ rest) := by
  rw [← List.nil_append (w ++ rest)]
  exact .lexeme (fun c hc => absurd hc List.not_mem_nil) hlex hnext h

/-- A mark needs no white space before what follows. -/
theorem Spelling.mark {c : Char} {cs rest : List Char} {t : TokenKind} {ts : List TokenKind} (hc : c ∈ marks)
    (hlex : Lexeme t (c :: cs)) (h : Spelling ts rest) : Spelling (t :: ts) (c :: (cs ++ rest)) := by
  refine .adjoin hlex ?_ h
  rintro ⟨d, ds, heq, hd, -⟩
  obtain ⟨rfl, rfl⟩ := List.cons.inj heq
  have := continuesWord_of_startsWord hd
  rw [continuesWord_of_mem_marks c hc] at this
  cases this

/-- What a first character opens goes with what completes it. -/
theorem spelling_of_start {position : Nat} {c : Char} {cs : List Char} {done : List Token} {next : Pending}
    {ts : List TokenKind} (hstart : Pending.start position c = .ok (done, next)) (h : next.Resumes ts cs) :
    Spelling (done.map Token.kind ++ ts) (c :: cs) := by
  rw [Pending.start] at hstart
  split at hstart
  · rename_i hblank
    cases hstart
    have hws : IsBlank [c] := by simpa [IsBlank] using hblank
    exact h.blank_append hws
  split at hstart
  · rename_i hc
    cases hstart; subst hc
    exact .mark (by decide) .lparen h
  split at hstart
  · rename_i hc
    cases hstart; subst hc
    exact .mark (by decide) .rparen h
  split at hstart
  · rename_i hc
    cases hstart; subst hc
    exact .mark (by decide) .comma h
  split at hstart
  · rename_i hc
    cases hstart; subst hc
    exact .mark (by decide) .not h
  split at hstart
  · rename_i hc
    cases hstart
    obtain ⟨rest, us, rfl, rfl, hus⟩ := h
    rcases hc with rfl | rfl
    · exact .mark (by decide) .and hus
    · exact .mark (by decide) .or hus
  split at hstart
  · rename_i hc
    cases hstart
    obtain ⟨value, body, rest, us, hbody, rfl, rfl, hus⟩ := h
    have hlex := Lexeme.str hc hbody
    rw [show body ++ c :: rest = (body ++ [c]) ++ rest by simp]
    exact .mark (by rcases hc with rfl | rfl <;> decide) hlex hus
  split at hstart
  · rename_i hc
    cases hstart
    obtain ⟨w, rest, us, rfl, hw, hrest, rfl, hus⟩ := h
    have hword : IsWord (c :: w) := ⟨c, w, rfl, hc, hw⟩
    exact .adjoin hword.lexeme (fun _ => hrest) hus
  · cases hstart

/-- **A step keeps the completions**: what completes the state after it also completes, behind the character and the
tokens it closed, the state before. -/
theorem resumes_of_step {position : Nat} {c : Char} {cs : List Char} {done : List Token} {pending next : Pending}
    {ts : List TokenKind} (hstep : pending.step position c = .ok (done, next)) (h : next.Resumes ts cs) :
    pending.Resumes (done.map Token.kind ++ ts) (c :: cs) := by
  cases pending with
  | none => exact spelling_of_start hstep h
  | word first letters =>
    rw [Pending.step] at hstep
    split at hstep
    · rename_i hc
      cases hstep
      obtain ⟨w, rest, us, rfl, hw, hrest, rfl, hus⟩ := h
      exact ⟨c :: w, rest, us, rfl, List.forall_mem_cons.2 ⟨hc, hw⟩, hrest, by simp, hus⟩
    · rename_i hc
      cases hs : Pending.start position c with
      | error e => rw [hs] at hstep; cases hstep
      | ok r =>
        rw [hs] at hstep
        cases hstep
        refine ⟨[], c :: cs, _, rfl, by simp, ?_, by simp [wordToken], spelling_of_start hs h⟩
        rintro ⟨d, hd, hword⟩
        obtain rfl : c = d := by simpa using hd
        exact hc (continuesWord_of_startsWord hword)
  | quoted first quote letters =>
    rw [Pending.step] at hstep
    split at hstep
    · rename_i hc
      cases hstep; subst hc
      exact ⟨[], [], cs, ts, .nil, rfl, by simp, h⟩
    split at hstep
    · rename_i hc
      cases hstep; subst hc
      obtain ⟨d, value, body, rest, us, hbody, rfl, rfl, hus⟩ := h
      exact ⟨d :: value, '\\' :: d :: body, rest, us, .escaped hbody, rfl, rfl, hus⟩
    · rename_i hq hb
      cases hstep
      obtain ⟨value, body, rest, us, hbody, rfl, rfl, hus⟩ := h
      exact ⟨c :: value, c :: body, rest, us, .plain hq hb hbody, rfl, by simp, hus⟩
  | escaped first quote letters =>
    cases hstep
    obtain ⟨value, body, rest, us, hbody, rfl, rfl, hus⟩ := h
    exact ⟨c, value, body, rest, us, hbody, rfl, by simp, hus⟩
  | doubled first half =>
    rw [Pending.step] at hstep
    split at hstep
    · rename_i hc
      cases hstep; subst hc
      exact ⟨cs, ts, rfl, rfl, h⟩
    · cases hstep

theorem resumes_of_finish {pending : Pending} {tokens : List Token} (h : pending.finish = .ok tokens) :
    pending.Resumes (tokens.map Token.kind) [] := by
  cases pending with
  | none => cases h; exact spelling_nil
  | word first letters =>
    cases h
    exact ⟨[], [], [], rfl, by simp, by simp [BeginsWord], by simp [wordToken], spelling_nil⟩
  | _ => cases h

/-- **What is read completes the open lexeme.**  By induction on the text, a step at a time. -/
theorem resumes_of_scan : ∀ {cs : List Char} {position : Nat} {pending : Pending} {tokens : List Token},
    scan position pending cs = .ok tokens → pending.Resumes (tokens.map Token.kind) cs
  | [], _, _, _, h => resumes_of_finish h
  | c :: cs, position, pending, tokens, h => by
    rw [scan] at h
    split at h
    · cases h
    rename_i done next hstep
    split at h
    · cases h
    rename_i rest hrest
    cases h
    rw [List.map_append]
    exact resumes_of_step hstep (resumes_of_scan hrest)

/-- **The reader answers a row of tokens exactly for the spellings of the row.** -/
theorem tokenize_ok_iff {source : String} {ts : List TokenKind} :
    (∃ tokens, tokenize source = .ok tokens ∧ tokens.map Token.kind = ts) ↔ Spelling ts source.toList := by
  constructor
  · rintro ⟨tokens, h, rfl⟩
    exact resumes_of_scan h
  · exact fun h => scan_spelling h 0

end Expression
end BrokerGuard
