import BrokerGuard.Proofs.Expression.Quotation
/-!
# Canonical texts — when an expression is read back from its canonical text

The canonical text of an expression puts the arguments between single quotes as they are.  An expression that was read is
read back from its canonical text exactly when all its arguments are plain (`ExpressionParser.standard_reads_canonical_iff`).

One half spells the canonical text, operator by operator.  The other half counts.  Every single quote of the canonical text
is a letter or encloses an argument, and every backslash is a letter; a spelling of the expression that has as many single
quotes has all its arguments in them, and then needs a backslash before each quote among the letters, and two for each
backslash.
-/
namespace BrokerGuard
namespace Expression

/-- The arguments of all calls, from left to right. -/
def arguments : Expression → List String
  | literal _ => []
  | call _ args => args
  | conj left right => left.arguments ++ right.arguments
  | disj left right => left.arguments ++ right.arguments
  | neg inner => inner.arguments

/-! ## Plain arguments are read back -/

def inQuotes (a : String) : List Char := '\'' :: (a.toList ++ ['\''])

/-- Arguments between single quotes, with a comma and a blank between them. -/
def quotedRow (args : List String) : List Char := [',', ' '].intercalate (args.map inQuotes)

theorem toList_canonical_call (name : String) (args : List String) :
    (call name args).canonical.toList = name.toList ++ '(' :: (quotedRow args ++ [')']) := by
  have hquoted : String.toList ∘ (fun a => "'" ++ a ++ "'") = inQuotes := by
    funext a
    simp only [Function.comp_apply, String.toList_append, String.reduceToList, List.cons_append,
      List.nil_append, inQuotes]
  simp only [canonical, String.toList_append, String.toList_intercalate, List.map_map, hquoted, String.reduceToList,
    quotedRow, List.append_assoc, List.cons_append, List.nil_append]

theorem toList_canonical_conj (left right : Expression) :
    (conj left right).canonical.toList =
      '(' :: (left.canonical.toList ++ ' ' :: (['a', 'n', 'd'] ++ ' ' :: (right.canonical.toList ++ [')']))) := by
  simp only [canonical, String.toList_append, String.reduceToList, List.append_assoc, List.cons_append, List.nil_append]

theorem toList_canonical_disj (left right : Expression) :
    (disj left right).canonical.toList =
      '(' :: (left.canonical.toList ++ ' ' :: (['o', 'r'] ++ ' ' :: (right.canonical.toList ++ [')']))) := by
  simp only [canonical, String.toList_append, String.reduceToList, List.append_assoc, List.cons_append, List.nil_append]

theorem toList_canonical_neg (inner : Expression) :
    (neg inner).canonical.toList = ['n', 'o', 't'] ++ ' ' :: inner.canonical.toList := by
  simp only [canonical, String.toList_append, String.reduceToList, List.cons_append, List.nil_append]

theorem Spelling.argument {a : String} {us : List TokenKind} {rest : List Char} (ha : Plain a) (h : Spelling us rest) :
    Spelling (.str a :: us) (inQuotes a ++ rest) := by
  have hspelling := (spelling_quoted_iff (t := .str a) rfl).2 ⟨rfl, ha, h⟩
  rwa [inQuotes, List.cons_append, List.append_assoc, List.singleton_append]

theorem Spelling.argumentRow {us : List TokenKind} {rest : List Char} (h : Spelling us rest) :
    ∀ {args : List String}, (∀ a ∈ args, Plain a) → Spelling (listed (args.map .str) ++ us) (quotedRow args ++ rest)
  | [], _ => h
  | [a], hplain => by
    simp only [quotedRow, List.map_cons, List.map_nil, List.intercalate_singleton]
    exact h.argument (hplain a List.mem_cons_self)
  | a :: b :: args, hplain => by
    obtain ⟨ha, hmore⟩ := List.forall_mem_cons.1 hplain
    have hspelling := (Spelling.mark (by decide) .comma (h.argumentRow hmore).space).argument ha
    simp only [quotedRow, listed, List.map_cons, List.intercalate_cons_cons, List.intersperse_cons_cons,
      List.append_assoc, List.cons_append, List.nil_append] at hspelling ⊢
    exact hspelling

theorem Spelling.keyword {k : List Char} {t : TokenKind} {ts : List TokenKind} {cs : List Char} (hk : (k, t) ∈ keywords)
    (hends : EndsWord cs) (h : Spelling ts cs) : Spelling (t :: ts) (k ++ cs) := by
  have hlower : ∀ entry ∈ keywords, entry.1.map Char.toLower = entry.1 := by decide
  exact .adjoin (.keyword hk (hlower _ hk)) (fun _ => not_beginsWord_of_endsWord hends) h

theorem Spelling.keyword_space {k : List Char} {t : TokenKind} {ts : List TokenKind} {cs : List Char}
    (hk : (k, t) ∈ keywords) (h : Spelling ts cs) : Spelling (t :: ts) (k ++ ' ' :: cs) :=
  h.space.keyword hk (endsWord_cons (by decide))

/-- An operation in its parentheses, one operand after the other. -/
theorem Spelling.operation {k left right rest : List Char} {operator : TokenKind} {ts us vs : List TokenKind}
    (hk : (k, operator) ∈ keywords)
    (hleft : ∀ {ws cs}, EndsWord cs → Spelling ws cs → Spelling (ts ++ ws) (left ++ cs))
    (hright : ∀ {ws cs}, EndsWord cs → Spelling ws cs → Spelling (us ++ ws) (right ++ cs)) (h : Spelling vs rest) :
    Spelling (.lparen :: ((ts ++ operator :: us) ++ [.rparen]) ++ vs)
      ('(' :: (left ++ ' ' :: (k ++ ' ' :: (right ++ [')']))) ++ rest) := by
  have hclosed := hright (endsWord_cons (by decide)) (.mark (by decide) .rparen h)
  have hopened := hleft (endsWord_cons (by decide)) (hclosed.keyword_space hk).space
  have hspelling := Spelling.mark (by decide) .lparen hopened
  simp only [List.append_assoc, List.cons_append, List.nil_append] at hspelling ⊢
  exact hspelling

/-- **The canonical text spells the expression** when the arguments are plain: by induction on the expression, in front of
anything that cannot go on a word. -/
theorem spelling_canonical {e : Expression} (hnames : e.NamesFunctions) (hplain : ∀ a ∈ e.arguments, Plain a) :
    ∀ {us : List TokenKind} {rest : List Char}, EndsWord rest → Spelling us rest →
      Spelling (e.canonicalTokens ++ us) (e.canonical.toList ++ rest) := by
  induction e with
  | literal value =>
    intro us rest hends h
    cases value with
    | true => exact h.keyword (k := ['t', 'r', 'u', 'e']) (by decide) hends
    | false => exact h.keyword (k := ['f', 'a', 'l', 's', 'e']) (by decide) hends
  | call name args =>
    intro us rest hends h
    have hident := Lexeme.ident (hnames name (by simp [functionNames]))
    rw [String.ofList_toList] at hident
    have harguments := (Spelling.mark (by decide) .rparen h).argumentRow hplain
    have hcall := Spelling.mark (by decide) .lparen harguments
    have hspelling := Spelling.adjoin hident (fun _ => not_beginsWord_of_endsWord (endsWord_cons (by decide))) hcall
    rw [toList_canonical_call]
    simp only [canonicalTokens, List.append_assoc, List.cons_append, List.nil_append] at hspelling ⊢
    exact hspelling
  | conj left right ihl ihr =>
    simp only [NamesFunctions, functionNames, List.forall_mem_append] at hnames
    rw [arguments, List.forall_mem_append] at hplain
    intro us rest hends h
    rw [toList_canonical_conj]
    exact .operation (by decide) (ihl hnames.1 hplain.1) (ihr hnames.2 hplain.2) h
  | disj left right ihl ihr =>
    simp only [NamesFunctions, functionNames, List.forall_mem_append] at hnames
    rw [arguments, List.forall_mem_append] at hplain
    intro us rest hends h
    rw [toList_canonical_disj]
    exact .operation (by decide) (ihl hnames.1 hplain.1) (ihr hnames.2 hplain.2) h
  | neg inner ih =>
    intro us rest hends h
    have hspelling := (ih hnames hplain hends h).keyword_space (k := ['n', 'o', 't']) (t := .not) (by decide)
    rw [toList_canonical_neg]
    simp only [canonicalTokens, List.append_assoc, List.cons_append] at hspelling ⊢
    exact hspelling

theorem spells_canonical {e : Expression} (hnames : e.NamesFunctions) (hplain : ∀ a ∈ e.arguments, Plain a) :
    Spells e.canonical e := by
  have hspelling := spelling_canonical hnames hplain (fun c hc => absurd hc (by simp)) spelling_nil
  rw [List.append_nil, List.append_nil] at hspelling
  exact ⟨_, hspelling, .ofConj (.ofUnary e.derives_canonicalTokens)⟩

/-! ## The letters of an expression -/

/-- The letters of a token: those of a name, and those between quotes once they are read. -/
def TokenKind.letters : TokenKind → List Char
  | ident name => name.toList
  | str value => value.toList
  | _ => []

/-- The letters of all names and arguments. -/
def letters : Expression → List Char
  | literal _ => []
  | call name args => name.toList ++ args.flatMap String.toList
  | conj left right => left.letters ++ right.letters
  | disj left right => left.letters ++ right.letters
  | neg inner => inner.letters

def TokenKind.isQuoted : TokenKind → Bool
  | str _ => true
  | _ => false

theorem TokenKind.letters_of_argument {t : TokenKind} {a : String} (h : t.argument? = some a) : t.letters = a.toList := by
  cases t <;> cases h <;> rfl

theorem flatMap_letters_listed : ∀ ts : List TokenKind,
    (listed ts).flatMap TokenKind.letters = ts.flatMap TokenKind.letters
  | [] => rfl
  | [_] => rfl
  | t :: u :: ts => by
    have ih := flatMap_letters_listed (u :: ts)
    rw [listed] at ih ⊢
    rw [List.intersperse_cons_cons, List.flatMap_cons, List.flatMap_cons, ih, List.flatMap_cons]
    rfl

theorem countP_isQuoted_listed : ∀ ts : List TokenKind,
    (listed ts).countP TokenKind.isQuoted = ts.countP TokenKind.isQuoted
  | [] => rfl
  | [_] => rfl
  | t :: u :: ts => by
    have ih := countP_isQuoted_listed (u :: ts)
    rw [listed] at ih ⊢
    rw [List.intersperse_cons_cons, List.countP_cons, List.countP_cons, ih, List.countP_cons (a := t)]
    rfl

theorem flatMap_letters_of_arguments {ts : List TokenKind} {args : List String}
    (h : ts.map TokenKind.argument? = args.map some) : ts.flatMap TokenKind.letters = args.flatMap String.toList := by
  induction ts generalizing args with
  | nil => rw [List.map_eq_nil_iff.1 h.symm, List.flatMap_nil, List.flatMap_nil]
  | cons t ts ih =>
    obtain ⟨a, args, rfl, ha, hargs⟩ := List.map_eq_cons_iff.1 h.symm
    rw [List.flatMap_cons, List.flatMap_cons, TokenKind.letters_of_argument ha.symm, ih hargs.symm]

/-- The tokens of an expression have its letters. -/
theorem Derives.letters {tier : Tier} {ts : List TokenKind} {e : Expression} (h : Derives tier ts e) :
    ts.flatMap TokenKind.letters = e.letters := by
  induction h with
  | ofConj _ ih => exact ih
  | ofUnary _ ih => exact ih
  | ofPrimary _ ih => exact ih
  | literal value => rfl
  | neg _ ih => exact ih
  | group _ ih => simp [ih, TokenKind.letters]
  | disj _ _ iha ihb => simp [iha, ihb, TokenKind.letters, Expression.letters]
  | conj _ _ iha ihb => simp [iha, ihb, TokenKind.letters, Expression.letters]
  | call name hargs =>
    simp [flatMap_letters_listed, flatMap_letters_of_arguments hargs, TokenKind.letters, Expression.letters]

/-- No more tokens are quoted than the expression has arguments. -/
theorem Derives.countP_isQuoted_le {tier : Tier} {ts : List TokenKind} {e : Expression} (h : Derives tier ts e) :
    ts.countP TokenKind.isQuoted ≤ e.arguments.length := by
  induction h with
  | ofConj _ ih => exact ih
  | ofUnary _ ih => exact ih
  | ofPrimary _ ih => exact ih
  | literal value => exact Nat.le_refl 0
  | neg _ ih => exact ih
  | group _ ih => simpa [TokenKind.isQuoted] using ih
  | disj _ _ iha ihb => simpa [TokenKind.isQuoted, arguments] using Nat.add_le_add iha ihb
  | conj _ _ iha ihb => simpa [TokenKind.isQuoted, arguments] using Nat.add_le_add iha ihb
  | @call ts args name hargs =>
    have hlength : ts.length = args.length := by simpa using congrArg List.length hargs
    have hle : ts.countP TokenKind.isQuoted ≤ args.length := hlength ▸ List.countP_le_length
    simpa [TokenKind.isQuoted, arguments, countP_isQuoted_listed] using hle

/-! ## What quotes and backslashes are there for -/

theorem QuotedBody.count_quote {quote : Char} {value body : List Char} (h : QuotedBody quote value body) :
    body.count '\'' = value.count '\'' := by
  induction h with
  | nil => rfl
  | plain _ _ _ ih => rw [List.count_cons, List.count_cons, ih]
  | escaped _ ih =>
    rw [List.count_cons_of_ne (by decide), List.count_cons, List.count_cons, ih]

/-- Between single quotes every single quote takes a backslash, and every backslash two. -/
theorem QuotedBody.count_le {value body : List Char} (h : QuotedBody '\'' value body) :
    value.count '\'' + 2 * value.count '\\' ≤ body.count '\\' := by
  induction h with
  | nil => exact Nat.le_refl 0
  | plain hq hb _ ih => rwa [List.count_cons_of_ne hq, List.count_cons_of_ne hb, List.count_cons_of_ne hb]
  | @escaped c value body _ ih =>
    rw [List.count_cons_self, List.count_cons, List.count_cons, List.count_cons]
    by_cases hq : c = '\''
    · subst hq
      simp only [beq_self_eq_true, if_true, beq_iff_eq, Char.reduceEq, if_false]
      omega
    · simp only [beq_iff_eq, hq, if_false]
      split <;> omega

theorem IsWord.count_eq_zero {w : List Char} (h : IsWord w) {c : Char} (hc : continuesWord c = false) :
    w.count c = 0 := by
  obtain ⟨d, ds, rfl, hd, hds⟩ := h
  refine List.count_eq_zero.2 fun hmem => ?_
  have hword : continuesWord c = true := by
    rcases List.mem_cons.1 hmem with rfl | hmem
    · exact continuesWord_of_startsWord hd
    · exact hds c hmem
  rw [hc] at hword
  cases hword

/-- How the tokens may be written: every single quote in the text is a letter or encloses one of `enclosed` tokens.  Where
these are all the quoted ones, the letters that are quotes or backslashes have their backslashes. -/
def Encloses (ts : List TokenKind) (cs : List Char) : Prop :=
  ∃ enclosed ≤ ts.countP TokenKind.isQuoted,
    cs.count '\'' = 2 * enclosed + (ts.flatMap TokenKind.letters).count '\'' ∧
    (enclosed = ts.countP TokenKind.isQuoted →
      (ts.flatMap TokenKind.letters).count '\'' + 2 * (ts.flatMap TokenKind.letters).count '\\' ≤ cs.count '\\')

theorem Encloses.append {ts us : List TokenKind} {cs ds : List Char} (hts : Encloses ts cs) (hus : Encloses us ds) :
    Encloses (ts ++ us) (cs ++ ds) := by
  obtain ⟨k, hk, hquotes, hbackslashes⟩ := hts
  obtain ⟨l, hl, hquotes', hbackslashes'⟩ := hus
  unfold Encloses
  rw [List.countP_append, List.flatMap_append, List.count_append, List.count_append, List.count_append, List.count_append]
  refine ⟨k + l, Nat.add_le_add hk hl, by omega, fun hall => ?_⟩
  have hts := hbackslashes (by omega)
  have hus := hbackslashes' (by omega)
  omega

theorem encloses_of_count_eq_zero {ts : List TokenKind} {cs : List Char} (hcs : cs.count '\'' = 0)
    (hquotes : (ts.flatMap TokenKind.letters).count '\'' = 0)
    (hbackslashes : (ts.flatMap TokenKind.letters).count '\\' = 0) : Encloses ts cs := by
  refine ⟨0, Nat.zero_le _, by omega, fun _ => by omega⟩

theorem Lexeme.encloses {t : TokenKind} {w : List Char} (h : Lexeme t w) : Encloses [t] w := by
  cases h with
  | @str quote value body hquote hbody =>
    have hquotes := hbody.count_quote
    rcases hquote with rfl | rfl
    · have hbackslashes := hbody.count_le
      refine ⟨1, Nat.le_refl 1, ?_, fun _ => ?_⟩
      · simp [TokenKind.letters, hquotes]
        omega
      · simpa [TokenKind.letters] using hbackslashes
    · refine ⟨0, Nat.zero_le 1, ?_, fun hall => absurd hall (by simp [TokenKind.isQuoted])⟩
      simp [TokenKind.letters, hquotes]
  | keyword hk hw =>
    have hword := isWord_of_mem_keywords (List.mem_map.2 ⟨_, hk, hw.symm⟩)
    have hletters : ∀ entry ∈ keywords, entry.2.letters = [] := by decide
    exact encloses_of_count_eq_zero (hword.count_eq_zero (by decide)) (by simp [hletters _ hk]) (by simp [hletters _ hk])
  | ident hw =>
    have hquotes := hw.1.count_eq_zero (c := '\'') (by decide)
    have hbackslashes := hw.1.count_eq_zero (c := '\\') (by decide)
    exact encloses_of_count_eq_zero hquotes (by simpa [TokenKind.letters] using hquotes)
      (by simpa [TokenKind.letters] using hbackslashes)
  | _ => exact encloses_of_count_eq_zero (by decide) rfl rfl

theorem IsBlank.encloses {ws : List Char} (h : IsBlank ws) : Encloses [] ws := by
  refine encloses_of_count_eq_zero (List.count_eq_zero.2 fun hmem => ?_) rfl rfl
  exact absurd (h _ hmem) (by decide)

/-- **What holds of one token holds of a row of them.** -/
theorem Spelling.encloses {ts : List TokenKind} {cs : List Char} (h : Spelling ts cs) : Encloses ts cs := by
  induction h with
  | blank hws => exact hws.encloses
  | lexeme hws hw _ _ ih => exact hws.encloses.append (hw.encloses.append ih)

/-! ## Only plain arguments are read back -/

theorem count_quotedRow {c : Char} (hcomma : c ≠ ',') (hspace : c ≠ ' ') : ∀ args : List String,
    (quotedRow args).count c = args.length * ['\'', '\''].count c + (args.flatMap String.toList).count c
  | [] => by simp [quotedRow]
  | [a] => by
    simp [quotedRow, inQuotes, List.count_cons]
    omega
  | a :: b :: args => by
    have ih := count_quotedRow hcomma hspace (b :: args)
    have hsplit : quotedRow (a :: b :: args) = inQuotes a ++ [',', ' '] ++ quotedRow (b :: args) := by
      simp only [quotedRow, List.map_cons, List.intercalate_cons_cons]
    have hseparator : [',', ' '].count c = 0 := by simp [List.count_eq_zero, hcomma, hspace]
    have hquoted : (inQuotes a).count c = ['\'', '\''].count c + a.toList.count c := by
      simp [inQuotes, List.count_cons]
      omega
    rw [hsplit, List.count_append, List.count_append, hseparator, hquoted, ih, List.flatMap_cons (x := a),
      List.count_append, List.length_cons (a := a), Nat.succ_mul]
    omega

/-- The canonical text has the quotes and backslashes of its letters, and two quotes for each argument. -/
theorem count_canonical {c : Char} (hc : c = '\'' ∨ c = '\\') (e : Expression) :
    e.canonical.toList.count c = e.arguments.length * ['\'', '\''].count c + e.letters.count c := by
  induction e with
  | literal value => rcases hc with rfl | rfl <;> cases value <;> rfl
  | call name args =>
    have hrow : (quotedRow args).count c = _ := count_quotedRow (by rcases hc with rfl | rfl <;> decide)
      (by rcases hc with rfl | rfl <;> decide) args
    rw [toList_canonical_call, letters, arguments, List.count_append, List.count_append]
    rcases hc with rfl | rfl
    · simp [hrow]
      omega
    · simp [hrow]
  | conj left right ihl ihr =>
    rw [toList_canonical_conj, letters, arguments, List.length_append, List.count_append]
    rcases hc with rfl | rfl
    · simp [ihl, ihr]
      omega
    · simp [ihl, ihr]
  | disj left right ihl ihr =>
    rw [toList_canonical_disj, letters, arguments, List.length_append, List.count_append]
    rcases hc with rfl | rfl
    · simp [ihl, ihr]
      omega
    · simp [ihl, ihr]
  | neg inner ih =>
    rw [toList_canonical_neg, letters, arguments]
    rcases hc with rfl | rfl <;> simp [ih]

theorem mem_letters_of_mem_arguments {e : Expression} {a : String} (ha : a ∈ e.arguments) : a.toList ⊆ e.letters := by
  induction e with
  | literal value => cases ha
  | call name args =>
    intro c hc
    exact List.mem_append_right _ (List.mem_flatMap.2 ⟨a, ha, hc⟩)
  | conj left right ihl ihr =>
    rcases List.mem_append.1 ha with ha | ha
    · exact List.subset_append_of_subset_left _ (ihl ha)
    · exact List.subset_append_of_subset_right _ (ihr ha)
  | disj left right ihl ihr =>
    rcases List.mem_append.1 ha with ha | ha
    · exact List.subset_append_of_subset_left _ (ihl ha)
    · exact List.subset_append_of_subset_right _ (ihr ha)
  | neg inner ih => exact ih ha

/-- **Only plain arguments are read back.**  A spelling of the expression that is its canonical text encloses as many tokens
as there are arguments; so these are all quoted, and it has a backslash for each quote and two for each backslash among
the letters.  But it has no more backslashes than the letters have. -/
theorem plain_of_spells_canonical {e : Expression} (h : Spells e.canonical e) : ∀ a ∈ e.arguments, Plain a := by
  obtain ⟨ts, hspelling, hderives⟩ := h
  obtain ⟨enclosed, henclosed, hquotes, hbackslashes⟩ := hspelling.encloses
  have harguments := hderives.countP_isQuoted_le
  have hquotes' := count_canonical (.inl rfl) e
  have hbackslashes' := count_canonical (.inr rfl) e
  have htwo : ['\'', '\''].count '\'' = 2 := rfl
  have hnone : ['\'', '\''].count '\\' = 0 := rfl
  rw [hderives.letters] at hquotes hbackslashes
  rw [htwo] at hquotes'
  rw [hnone] at hbackslashes'
  have hneeded := hbackslashes (by omega)
  have hquote : e.letters.count '\'' = 0 := by omega
  have hbackslash : e.letters.count '\\' = 0 := by omega
  intro a ha
  have hletters := mem_letters_of_mem_arguments ha
  exact ⟨fun hmem => List.count_eq_zero.1 hquote (hletters hmem),
    fun hmem => List.count_eq_zero.1 hbackslash (hletters hmem)⟩

/-- **A text that was read is read back from its canonical text exactly when its arguments are plain.** -/
theorem spells_canonical_iff {source : String} {e : Expression} (h : Spells source e) :
    Spells e.canonical e ↔ ∀ a ∈ e.arguments, Plain a :=
  ⟨plain_of_spells_canonical, spells_canonical (exists_spells_iff.1 ⟨source, h⟩)⟩

end Expression

open Expression

/-- **The canonical text denotes the same expression exactly when all arguments are plain.**  Then the text is read as the
expression it is the canonical text of, so that reading it and writing it again changes nothing; and no two such expressions
have the same canonical text. -/
theorem ExpressionParser.standard_reads_canonical_iff {source : String} {p : ParsedExpression}
    (hp : ExpressionParser.standard source = .ok p) :
    (ExpressionParser.standard p.expression.canonical = .ok ⟨p.expression.canonical, p.expression⟩ ↔
      ∀ a ∈ p.expression.arguments, Plain a) ∧
    ∀ (source' : String) (q : ParsedExpression), ExpressionParser.standard source' = .ok q →
      (∀ a ∈ p.expression.arguments, Plain a) → (∀ a ∈ q.expression.arguments, Plain a) →
      p.expression.canonical = q.expression.canonical → p.expression = q.expression := by
  have hiff := spells_canonical_iff (standard_eq_ok_iff.1 hp).2
  refine ⟨?_, fun source' q hq hplain hplain' heq => ?_⟩
  · rw [standard_eq_ok_iff, ← hiff]
    exact and_iff_right rfl
  · have hspells := hiff.2 hplain
    have hspells' := (spells_canonical_iff (standard_eq_ok_iff.1 hq).2).2 hplain'
    rw [heq] at hspells
    exact hspells.unique hspells'

/-- Operators and blanks in any way, and an argument that was not quoted. -/
theorem ExpressionParser.standard_reads_canonical_plain :
    ExpressionParser.standard "(not (f('x y', b) or true))" =
      .ok ⟨"(not (f('x y', b) or true))", .neg (.disj (.call "f" ["x y", "b"]) (.literal true))⟩ ∧
    ExpressionParser.standard "not (f('x y', 'b') or true)" =
      .ok ⟨"not (f('x y', 'b') or true)", .neg (.disj (.call "f" ["x y", "b"]) (.literal true))⟩ := by
  have hread : ExpressionParser.standard "(not (f('x y', b) or true))" =
      .ok ⟨"(not (f('x y', b) or true))", .neg (.disj (.call "f" ["x y", "b"]) (.literal true))⟩ := rfl
  exact ⟨hread, (ExpressionParser.standard_reads_canonical_iff hread).1.2 (by decide)⟩

/-- An argument with a single quote, for which the text that was read has a backslash: the canonical text is no
expression. -/
theorem ExpressionParser.not_reads_canonical_quote :
    ExpressionParser.standard "hasRole('O\\'Brien')" =
      .ok ⟨"hasRole('O\\'Brien')", .call "hasRole" ["O'Brien"]⟩ ∧
    ExpressionParser.standard (Expression.call "hasRole" ["O'Brien"]).canonical = .error (.unterminatedString 16) :=
  ⟨rfl, rfl⟩

end BrokerGuard
