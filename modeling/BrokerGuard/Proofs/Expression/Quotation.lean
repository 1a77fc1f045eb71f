import BrokerGuard.Proofs.Expression.Grammar
/-!
# Quotation — calls whose arguments are put between quotes as they are

A text between single quotes is read as itself exactly when it has neither a single quote nor a backslash (`Plain`); a text
that has one is cut short, loses a backslash or is not closed.  So a call whose arguments were quoted as they are is read as
this call exactly when every argument is plain (`ofSource_quotedCall_iff`).
-/
namespace BrokerGuard
namespace Expression

/-! ## The first lexeme of a spelling -/

/-- What is written first is the first token, when it is a lexeme that cannot go on. -/
theorem spelling_append_iff {t : TokenKind} {w rest : List Char} {ts : List TokenKind} (hlex : Lexeme t w)
    (hend : IsWord w → EndsWord rest) : Spelling ts (w ++ rest) ↔ ∃ us, ts = t :: us ∧ Spelling us rest := by
  constructor
  · intro h
    obtain ⟨tokens, hscan, rfl⟩ := scan_spelling h 0
    rw [scan_lexeme hlex hend] at hscan
    cases hrest : scan (0 + w.length) .none rest with
    | error e => rw [hrest] at hscan; cases hscan
    | ok us =>
      rw [hrest] at hscan
      cases hscan
      exact ⟨us.map Token.kind, rfl, resumes_of_scan hrest⟩
  · rintro ⟨us, rfl, h⟩
    exact .adjoin hlex (fun hword => not_beginsWord_of_endsWord (hend hword)) h

theorem spelling_cons_iff {t : TokenKind} {c : Char} {rest : List Char} {ts : List TokenKind} (hlex : Lexeme t [c])
    (hmark : c ∈ marks) : Spelling ts (c :: rest) ↔ ∃ us, ts = t :: us ∧ Spelling us rest := by
  refine spelling_append_iff hlex fun hword => ?_
  obtain ⟨d, ds, heq, hd, -⟩ := hword
  obtain ⟨rfl, -⟩ := List.cons.inj heq
  have hcontinues := continuesWord_of_startsWord hd
  rw [continuesWord_of_mem_marks c hmark] at hcontinues
  cases hcontinues

/-- Behind a quotation mark stands the body of a quoted text, up to the next mark of the kind that closes it. -/
theorem spelling_quote {quote : Char} {cs : List Char} {ts : List TokenKind} (hquote : IsQuote quote)
    (h : Spelling ts (quote :: cs)) :
    ∃ value body rest us, QuotedBody quote value body ∧ cs = body ++ quote :: rest ∧
      ts = .str (String.ofList value) :: us ∧ Spelling us rest := by
  obtain ⟨tokens, hscan, rfl⟩ := scan_spelling h 0
  have hstep : Pending.none.step 0 quote = .ok ([], .quoted 0 quote []) := by
    rcases hquote with rfl | rfl <;> rfl
  rw [scan_cons_nil hstep] at hscan
  exact resumes_of_scan hscan

/-! ## Plain texts -/

/-- A text that can stand between single quotes as it is. -/
def Plain (a : String) : Prop := '\'' ∉ a.toList ∧ '\\' ∉ a.toList

instance (a : String) : Decidable (Plain a) := inferInstanceAs (Decidable (_ ∧ _))

theorem quotedBody_self {quote : Char} :
    ∀ {cs : List Char}, quote ∉ cs → '\\' ∉ cs → QuotedBody quote cs cs
  | [], _, _ => .nil
  | c :: cs, hq, hb => by
    rw [List.mem_cons, not_or] at hq hb
    exact .plain (Ne.symm hq.1) (Ne.symm hb.1) (quotedBody_self hq.2 hb.2)

theorem QuotedBody.length_le {quote : Char} {value body : List Char} (h : QuotedBody quote value body) :
    value.length ≤ body.length := by
  induction h with
  | nil => exact Nat.le_refl 0
  | plain _ _ _ ih => exact Nat.succ_le_succ ih
  | escaped _ ih => exact Nat.le_succ_of_le (Nat.succ_le_succ ih)

/-- A body as long as its value escapes nothing. -/
theorem QuotedBody.of_length {quote : Char} {value body : List Char} (h : QuotedBody quote value body)
    (hlength : value.length = body.length) : value = body ∧ quote ∉ value ∧ '\\' ∉ value := by
  induction h with
  | nil => exact ⟨rfl, List.not_mem_nil, List.not_mem_nil⟩
  | plain hq hb _ ih =>
    obtain ⟨rfl, hquote, hbackslash⟩ := ih (Nat.succ.inj hlength)
    refine ⟨rfl, ?_, ?_⟩
    · rw [List.mem_cons, not_or]
      exact ⟨Ne.symm hq, hquote⟩
    · rw [List.mem_cons, not_or]
      exact ⟨Ne.symm hb, hbackslash⟩
  | escaped hbody _ =>
    have hle := hbody.length_le
    simp only [List.length_cons] at hlength
    omega

/-- A body does not begin with its value and the closing quote.  The backslashes in front carry the induction: where the
body escapes a character, that character can only be a backslash, and the rest of the body is one backslash behind. -/
theorem QuotedBody.not_isPrefix {quote : Char} (hquote : quote ≠ '\\') {value body : List Char}
    (h : QuotedBody quote value body) : ∀ k, ¬ value ++ [quote] <+: List.replicate k '\\' ++ body := by
  induction h with
  | nil =>
    intro k hprefix
    rw [List.nil_append, List.append_nil] at hprefix
    have hmem := hprefix.subset List.mem_cons_self
    exact hquote (List.eq_of_mem_replicate hmem)
  | plain _ hb _ ih =>
    intro k hprefix
    cases k with
    | zero => exact ih 0 (List.cons_prefix_cons.1 hprefix).2
    | succ k => exact hb (List.cons_prefix_cons.1 hprefix).1
  | @escaped c value body _ ih =>
    intro k hprefix
    have hshift : List.replicate k '\\' ++ '\\' :: c :: body = '\\' :: (List.replicate k '\\' ++ c :: body) := by
      rw [← List.singleton_append, ← List.append_assoc, ← List.replicate_succ', List.replicate_succ, List.cons_append]
    rw [hshift] at hprefix
    obtain ⟨rfl, htail⟩ := List.cons_prefix_cons.1 hprefix
    have hshift' : List.replicate k '\\' ++ '\\' :: body = List.replicate (k + 1) '\\' ++ body := by
      rw [List.replicate_succ', List.append_assoc, List.singleton_append]
    rw [hshift'] at htail
    exact ih (k + 1) htail

/-- **A value that stands between quotes as it is and is read back is plain**: the quote that closes it is the one that was
put behind it. -/
theorem QuotedBody.reads_itself {quote : Char} (hquote : quote ≠ '\\') {value body rest rest' : List Char}
    (h : QuotedBody quote value body) (heq : value ++ quote :: rest = body ++ quote :: rest') :
    rest = rest' ∧ quote ∉ value ∧ '\\' ∉ value := by
  rcases Nat.lt_or_eq_of_le h.length_le with hlt | hlength
  · -- a longer body would begin with the value and the quote that was put behind it
    have hvalue : value ++ [quote] <+: body ++ quote :: rest' :=
      ⟨rest, by rw [List.append_assoc, List.singleton_append, heq]⟩
    have hbody : body <+: body ++ quote :: rest' := List.prefix_append _ _
    have hshort : (value ++ [quote]).length ≤ body.length := by
      rw [List.length_append, List.length_singleton]
      exact hlt
    exact absurd (List.prefix_of_prefix_length_le hvalue hbody hshort) (h.not_isPrefix hquote 0)
  · obtain ⟨-, hplain⟩ := h.of_length hlength
    obtain ⟨-, hrest⟩ := List.append_inj heq hlength
    exact ⟨(List.cons.inj hrest).2, hplain⟩

/-! ## Quoted arguments -/

/-- Further arguments, each quoted as it is, behind its comma. -/
def moreQuoted (args : List String) : List Char := args.flatMap fun a => ',' :: '\'' :: (a.toList ++ ['\''])

/-- Arguments quoted as they are. -/
def quotedArguments : List String → List Char
  | [] => []
  | a :: args => '\'' :: (a.toList ++ '\'' :: moreQuoted args)

theorem spelling_quoted_iff {a : String} {t : TokenKind} {us : List TokenKind} {rest : List Char}
    (ht : t.argument? = some a) :
    Spelling (t :: us) ('\'' :: (a.toList ++ '\'' :: rest)) ↔ t = .str a ∧ Plain a ∧ Spelling us rest := by
  constructor
  · intro h
    obtain ⟨value, body, rest', us', hbody, heq, htokens, hrest⟩ := spelling_quote (.inl rfl) h
    obtain ⟨rfl, rfl⟩ := List.cons.inj htokens
    have hvalue : String.ofList value = a := Option.some.inj ht
    subst hvalue
    rw [String.toList_ofList] at heq
    obtain ⟨rfl, hquote, hbackslash⟩ := hbody.reads_itself (by decide) heq
    exact ⟨rfl, ⟨by rwa [String.toList_ofList], by rwa [String.toList_ofList]⟩, hrest⟩
  · rintro ⟨rfl, ⟨hquote, hbackslash⟩, h⟩
    have hlex := Lexeme.str (.inl rfl) (quotedBody_self hquote hbackslash)
    rw [String.ofList_toList] at hlex
    have hspelling := Spelling.mark (by decide) hlex h
    rwa [List.append_assoc, List.singleton_append] at hspelling

theorem spelling_moreQuoted_iff {us : List TokenKind} {rest : List Char} :
    ∀ {args : List String} {ts : List TokenKind}, ts.map TokenKind.argument? = args.map some →
      (Spelling ((ts.flatMap fun t => [.comma, t]) ++ us) (moreQuoted args ++ rest) ↔
        ts = args.map .str ∧ (∀ a ∈ args, Plain a) ∧ Spelling us rest)
  | [], ts, h => by
    rw [List.map_eq_nil_iff.1 h]
    exact ⟨fun hs => ⟨rfl, fun _ ha => absurd ha List.not_mem_nil, hs⟩, fun hs => hs.2.2⟩
  | a :: args, ts, h => by
    obtain ⟨t, ts, rfl, ht, hts⟩ := List.map_eq_cons_iff.1 h
    have htext : moreQuoted (a :: args) ++ rest = ',' :: '\'' :: (a.toList ++ '\'' :: (moreQuoted args ++ rest)) := by
      simp only [moreQuoted, List.flatMap_cons, List.cons_append, List.append_assoc, List.nil_append]
    rw [htext, List.flatMap_cons, List.append_assoc, spelling_cons_iff .comma (by decide), List.forall_mem_cons,
      List.map_cons]
    constructor
    · rintro ⟨us', heq, hspelling⟩
      obtain ⟨-, rfl⟩ := List.cons.inj heq
      obtain ⟨rfl, hplain, hspelling⟩ := (spelling_quoted_iff ht).1 hspelling
      obtain ⟨rfl, hplains, hspelling⟩ := (spelling_moreQuoted_iff hts).1 hspelling
      exact ⟨rfl, ⟨hplain, hplains⟩, hspelling⟩
    · rintro ⟨heq, ⟨hplain, hplains⟩, hspelling⟩
      obtain ⟨rfl, rfl⟩ := List.cons.inj heq
      have hmore := (spelling_moreQuoted_iff hts).2 ⟨rfl, hplains, hspelling⟩
      exact ⟨_, rfl, (spelling_quoted_iff ht).2 ⟨rfl, hplain, hmore⟩⟩

/-- **Quoted arguments are read as themselves exactly when all of them are plain.** -/
theorem spelling_quotedArguments_iff {us : List TokenKind} {rest : List Char} :
    ∀ {args : List String} {ts : List TokenKind}, ts.map TokenKind.argument? = args.map some →
      (Spelling (listed ts ++ us) (quotedArguments args ++ rest) ↔
        ts = args.map .str ∧ (∀ a ∈ args, Plain a) ∧ Spelling us rest)
  | [], ts, h => by
    rw [List.map_eq_nil_iff.1 h]
    exact ⟨fun hs => ⟨rfl, fun _ ha => absurd ha List.not_mem_nil, hs⟩, fun hs => hs.2.2⟩
  | a :: args, ts, h => by
    obtain ⟨t, ts, rfl, ht, hts⟩ := List.map_eq_cons_iff.1 h
    have htext : quotedArguments (a :: args) ++ rest = '\'' :: (a.toList ++ '\'' :: (moreQuoted args ++ rest)) := by
      simp only [quotedArguments, List.cons_append, List.append_assoc]
    rw [htext, listed_cons, List.cons_append, spelling_quoted_iff ht, spelling_moreQuoted_iff hts, List.forall_mem_cons,
      List.map_cons]
    constructor
    · rintro ⟨rfl, hplain, rfl, hplains, hspelling⟩
      exact ⟨rfl, ⟨hplain, hplains⟩, hspelling⟩
    · rintro ⟨heq, ⟨hplain, hplains⟩, hspelling⟩
      obtain ⟨rfl, rfl⟩ := List.cons.inj heq
      exact ⟨rfl, hplain, rfl, hplains, hspelling⟩

/-! ## Quoted calls -/

/-- A call that is not in parentheses is derived from a name and a list of arguments. -/
theorem Derives.of_call {tier : Tier} {ts : List TokenKind} {name : String} {args : List String}
    (h : Derives tier ts (.call name args)) (hopen : .lparen ∉ ts.head?) :
    ∃ us, ts = .ident name :: .lparen :: (listed us ++ [.rparen]) ∧ us.map TokenKind.argument? = args.map some := by
  generalize he : Expression.call name args = e at h
  induction h with
  | ofConj _ ih => exact ih hopen he
  | ofUnary _ ih => exact ih hopen he
  | ofPrimary _ ih => exact ih hopen he
  | call name' hargs =>
    cases he
    exact ⟨_, rfl, hargs⟩
  | group => exact absurd rfl hopen
  | _ => cases he

/-- **A call whose arguments are quoted as they are is read as this call exactly when every argument is plain.** -/
theorem ofSource_quotedCall_iff {source name : String} {args : List String} (hname : IsIdentifier name.toList)
    (hsource : source.toList = name.toList ++ '(' :: (quotedArguments args ++ [')'])) :
    ofSource source = .ok (.call name args) ↔ ∀ a ∈ args, Plain a := by
  have hident : Lexeme (.ident name) name.toList := by
    have hlex := Lexeme.ident hname
    rwa [String.ofList_toList] at hlex
  have hend : EndsWord ('(' :: (quotedArguments args ++ [')'])) := endsWord_cons (by decide)
  have hclosed : Spelling [.rparen] [')'] := by
    rw [spelling_cons_iff .rparen (by decide)]
    exact ⟨[], rfl, spelling_nil⟩
  rw [ofSource_ok_iff, Spells, hsource]
  constructor
  · rintro ⟨ts, hspelling, hderives⟩
    obtain ⟨afterName, rfl, hname⟩ := (spelling_append_iff hident fun _ => hend).1 hspelling
    obtain ⟨afterParen, rfl, harguments⟩ := (spelling_cons_iff .lparen (by decide)).1 hname
    obtain ⟨us, heq, hargs⟩ := hderives.of_call (by simp)
    simp only [List.cons.injEq, true_and] at heq
    subst heq
    exact ((spelling_quotedArguments_iff hargs).1 harguments).2.1
  · intro hplains
    have hargs : (args.map TokenKind.str).map TokenKind.argument? = args.map some := by
      rw [List.map_map]
      rfl
    refine ⟨.ident name :: .lparen :: (listed (args.map .str) ++ [.rparen]), ?_,
      .ofConj (.ofUnary (.ofPrimary (.call name hargs)))⟩
    rw [spelling_append_iff hident fun _ => hend]
    refine ⟨_, rfl, ?_⟩
    rw [spelling_cons_iff .lparen (by decide)]
    exact ⟨_, rfl, (spelling_quotedArguments_iff hargs).2 ⟨rfl, hplains, hclosed⟩⟩

end Expression
end BrokerGuard
