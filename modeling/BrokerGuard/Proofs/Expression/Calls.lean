import BrokerGuard.Proofs.Expression.Grammar
/-!
# Calls — the functions of an expression in the row of its tokens

Which functions an expression calls is read off the tokens without any grammar: they are the identifiers in front of an
opening parenthesis (`calledNames`).  A derivation keeps them as they stand (`Derives.functionNames_eq`), because nothing that
it puts between two parts is an identifier or an opening parenthesis, so that no call arises or is lost where parts meet, and
because no argument has an opening parenthesis behind it.  `ExpressionParser.standard_functionNames` says this of texts.
-/
namespace BrokerGuard
namespace Expression

/-- The name that two neighbouring tokens call. -/
def calledName? : TokenKind × TokenKind → Option String
  | (.ident name, .lparen) => some name
  | _ => none

/-- The identifiers with an opening parenthesis immediately behind them, in order and with repetitions. -/
def calledNames (ts : List TokenKind) : List String := (ts.zip ts.tail).filterMap calledName?

theorem calledName?_eq_none_of_ne {u : TokenKind} (hu : u ≠ .lparen) (t : TokenKind) : calledName? (t, u) = none := by
  unfold calledName?
  split
  · rename_i heq
    exact absurd (Prod.mk.inj heq).2 hu
  · rfl

theorem calledName?_eq_none {t : TokenKind} (ht : calledName? (t, .lparen) = none) (u : TokenKind) :
    calledName? (t, u) = none := by
  by_cases hu : u = .lparen
  · rw [hu, ht]
  · exact calledName?_eq_none_of_ne hu t

theorem calledNames_cons_of_none {t u : TokenKind} (h : calledName? (t, u) = none) (ts : List TokenKind) :
    calledNames (t :: u :: ts) = calledNames (u :: ts) := List.filterMap_cons_none h

theorem calledNames_cons_of_some {t u : TokenKind} {name : String} (h : calledName? (t, u) = some name)
    (ts : List TokenKind) : calledNames (t :: u :: ts) = name :: calledNames (u :: ts) := List.filterMap_cons_some h

theorem calledNames_cons {t : TokenKind} (ht : calledName? (t, .lparen) = none) :
    ∀ ts : List TokenKind, calledNames (t :: ts) = calledNames ts
  | [] => rfl
  | u :: ts => calledNames_cons_of_none (calledName?_eq_none ht u) ts

/-- Before a token that opens nothing, no identifier becomes a call. -/
theorem calledNames_append_cons {u : TokenKind} (hu : u ≠ .lparen) (us : List TokenKind) :
    ∀ ts : List TokenKind, calledNames (ts ++ u :: us) = calledNames ts ++ calledNames (u :: us)
  | [] => rfl
  | [t] => calledNames_cons_of_none (calledName?_eq_none_of_ne hu t) us
  | t :: t' :: ts => by
    have ih := calledNames_append_cons hu us (t' :: ts)
    simp only [List.cons_append] at ih ⊢
    cases hname : calledName? (t, t') with
    | none => rw [calledNames_cons_of_none hname, calledNames_cons_of_none hname, ih]
    | some name => rw [calledNames_cons_of_some hname, calledNames_cons_of_some hname, ih, List.cons_append]

/-- A token between two parts that is no identifier and opens nothing adds no call and loses none. -/
theorem calledNames_parted (u : TokenKind) (hname : calledName? (u, .lparen) = none) (hopen : u ≠ .lparen)
    (ts us : List TokenKind) : calledNames (ts ++ u :: us) = calledNames ts ++ calledNames us := by
  rw [calledNames_append_cons hopen, calledNames_cons hname]

theorem calledNames_eq_nil : ∀ {ts : List TokenKind}, .lparen ∉ ts → calledNames ts = []
  | [], _ => rfl
  | [_], _ => rfl
  | t :: u :: ts, h => by
    have htail : .lparen ∉ u :: ts := fun hmem => h (List.mem_cons_of_mem t hmem)
    have hu : u ≠ .lparen := fun hu => htail (hu ▸ List.mem_cons_self)
    rw [calledNames_cons_of_none (calledName?_eq_none_of_ne hu t), calledNames_eq_nil htail]

theorem lparen_not_mem_arguments {ts : List TokenKind} {args : List String}
    (h : ts.map TokenKind.argument? = args.map some) : .lparen ∉ listed ts ++ [.rparen] := by
  intro hmem
  rcases List.mem_append.1 hmem with hmem | hmem
  · rcases mem_listed hmem with heq | hmem
    · cases heq
    · have hargument : TokenKind.argument? .lparen ∈ args.map some := h ▸ List.mem_map_of_mem hmem
      obtain ⟨arg, -, harg⟩ := List.mem_map.1 hargument
      cases harg
  · cases List.mem_singleton.1 hmem

/-- **What an expression calls is what its tokens call**, in every tier of the grammar. -/
theorem Derives.functionNames_eq {tier : Tier} {ts : List TokenKind} {e : Expression} (h : Derives tier ts e) :
    e.functionNames = calledNames ts := by
  induction h with
  | ofConj _ ih => exact ih
  | ofUnary _ ih => exact ih
  | ofPrimary _ ih => exact ih
  | disj _ _ iha ihb => rw [functionNames, iha, ihb, calledNames_parted .or rfl (by decide)]
  | conj _ _ iha ihb => rw [functionNames, iha, ihb, calledNames_parted .and rfl (by decide)]
  | neg _ ih => rw [functionNames, ih, calledNames_cons rfl]
  | literal value => rfl
  | group _ ih =>
    rw [ih, calledNames_cons rfl, calledNames_parted .rparen rfl (by decide)]
    exact (List.append_nil _).symm
  | @call ts args name h =>
    have hname : calledName? (.ident name, .lparen) = some name := rfl
    rw [functionNames, calledNames_cons_of_some hname, calledNames_cons rfl,
      calledNames_eq_nil (lparen_not_mem_arguments h)]

end Expression

open Expression

/-- **The functions of a parsed expression are the calls of its text.**  For every text that parses: the names of the
functions that the expression calls are, in order and with repetitions, the identifiers among the tokens of the text that
have an opening parenthesis immediately behind them. -/
theorem ExpressionParser.standard_functionNames {source : String} {p : ParsedExpression}
    (hp : ExpressionParser.standard source = .ok p) :
    ∃ tokens, tokenize source = .ok tokens ∧ p.expression.functionNames = calledNames (tokens.map Token.kind) := by
  obtain ⟨-, ts, hspelling, hderives⟩ := standard_eq_ok_iff.1 hp
  obtain ⟨tokens, htokens, rfl⟩ := tokenize_ok_iff.2 hspelling
  exact ⟨tokens, htokens, hderives.functionNames_eq⟩

/-- A function that is called twice, an argument that is an identifier, and one that looks like a call. -/
theorem ExpressionParser.standard_functionNames_nested :
    ExpressionParser.standard "(hasAnyRole(ADMIN, 'x(') OR not isAnonymous()) && hasAnyRole(b)" =
      .ok ⟨"(hasAnyRole(ADMIN, 'x(') OR not isAnonymous()) && hasAnyRole(b)",
        .conj (.disj (.call "hasAnyRole" ["ADMIN", "x("]) (.neg (.call "isAnonymous" []))) (.call "hasAnyRole" ["b"])⟩ ∧
    ∃ tokens, tokenize "(hasAnyRole(ADMIN, 'x(') OR not isAnonymous()) && hasAnyRole(b)" = .ok tokens ∧
      ["hasAnyRole", "isAnonymous", "hasAnyRole"] = calledNames (tokens.map Token.kind) := by
  have hread : ExpressionParser.standard "(hasAnyRole(ADMIN, 'x(') OR not isAnonymous()) && hasAnyRole(b)" =
      .ok ⟨"(hasAnyRole(ADMIN, 'x(') OR not isAnonymous()) && hasAnyRole(b)",
        .conj (.disj (.call "hasAnyRole" ["ADMIN", "x("]) (.neg (.call "isAnonymous" []))) (.call "hasAnyRole" ["b"])⟩ :=
    rfl
  exact ⟨hread, ExpressionParser.standard_functionNames hread⟩

end BrokerGuard
