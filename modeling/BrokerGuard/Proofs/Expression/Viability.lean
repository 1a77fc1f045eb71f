import BrokerGuard.Proofs.Expression.Derivation
/-!
# Viability — where a row of tokens stops being the beginning of an expression

Tokens are viable when some expression begins with them.  The machine goes on exactly as long as what it has read is viable
(`viable_iff`): a step refuses a token that makes the row not viable, and from every state it reaches it can be led to an
end (`Reading.exists_run_ok`).  So each of its errors names a place that the grammar knows (`Faults`), and the machine
reports the fault of a row exactly (`ofTokens_eq_error_iff`).

A name where an operand is due is a special case, since nothing but a parenthesis can follow it: the machine then blames the
name and not what follows (`EndsInCall`).
-/
namespace BrokerGuard
namespace Expression

/-- Some expression begins with the tokens. -/
def Viable (ts : List TokenKind) : Prop := ∃ us e, Derives .disj (ts ++ us) e

/-- The last token is the name of a function, and the arguments are due. -/
def EndsInCall (ts : List TokenKind) (name : String) : Prop := (∃ us, ts = us ++ [.ident name]) ∧ Viable (ts ++ [.lparen])

theorem Viable.of_append {ts us : List TokenKind} (h : Viable (ts ++ us)) : Viable ts := by
  obtain ⟨vs, e, he⟩ := h
  rw [List.append_assoc] at he
  exact ⟨us ++ vs, e, he⟩

theorem EndsInCall.viable {ts : List TokenKind} {name : String} (h : EndsInCall ts name) : Viable ts := h.2.of_append

/-! ## The state after some tokens -/

/-- The state after the tokens, if none of them is refused. -/
def Reading.after (r : Reading) (tokens : List Token) : Except ParseError Reading := tokens.foldlM Reading.step r

theorem Reading.after_cons (r : Reading) (t : Token) (tokens : List Token) :
    r.after (t :: tokens) = (r.step t).bind fun next => next.after tokens := List.foldlM_cons

theorem Reading.after_concat_ok_iff {r next : Reading} {before : List Token} {t : Token} :
    r.after (before ++ [t]) = .ok next ↔ ∃ s, r.after before = .ok s ∧ s.step t = .ok next := by
  have hconcat : r.after (before ++ [t]) = (r.after before).bind fun s => s.step t := by
    rw [after, List.foldlM_append]
    exact congrArg _ (funext fun s => bind_pure (s.step t))
  rw [hconcat]
  cases r.after before with
  | error e => exact iff_of_false (fun h => by cases h) (by rintro ⟨s, hs, -⟩; cases hs)
  | ok s => exact ⟨fun h => ⟨s, rfl, h⟩, by rintro ⟨s, hs, h⟩; cases hs; exact h⟩

theorem Reading.run_of_after : ∀ {before : List Token} {r s : Reading}, r.after before = .ok s →
    ∀ rest, r.run (before ++ rest) = s.run rest
  | [], r, s, h, rest => by
    cases h
    rfl
  | t :: before, r, s, h, rest => by
    rw [after_cons] at h
    cases hstep : r.step t with
    | error e => rw [hstep] at h; cases h
    | ok next =>
      rw [hstep] at h
      rw [List.cons_append, run_cons hstep]
      exact run_of_after h rest

theorem Reading.run_eq_finish {r s : Reading} {tokens : List Token} (h : r.after tokens = .ok s) :
    r.run tokens = s.finish := by
  have hrun := run_of_after h []
  rwa [List.append_nil] at hrun

theorem Reading.run_of_refused {r s : Reading} {before : List Token} {t : Token} {e : ParseError}
    (h : r.after before = .ok s) (hstep : s.step t = .error e) (rest : List Token) :
    r.run (before ++ t :: rest) = .error e := by
  rw [run_of_after h, run, hstep]

/-- Either all the tokens are read, or a first one is refused. -/
theorem Reading.after_or_refused : ∀ (r : Reading) (tokens : List Token), (∃ s, r.after tokens = .ok s) ∨
    ∃ before t rest s e, tokens = before ++ t :: rest ∧ r.after before = .ok s ∧ s.step t = .error e
  | r, [] => .inl ⟨r, rfl⟩
  | r, t :: tokens => by
    cases hstep : r.step t with
    | error e => exact .inr ⟨[], t, tokens, r, e, rfl, rfl, hstep⟩
    | ok next =>
      have hcons : ∀ us, r.after (t :: us) = next.after us := fun us => by rw [after_cons, hstep]; rfl
      rcases after_or_refused next tokens with ⟨s, hs⟩ | ⟨before, u, rest, s, e, rfl, hs, hrefused⟩
      · exact .inl ⟨s, by rw [hcons, hs]⟩
      · exact .inr ⟨t :: before, u, rest, s, e, rfl, by rw [hcons, hs], hrefused⟩

/-! ## From every state an expression can be completed -/

/-- A token whose place does not matter. -/
def Token.ofKind (kind : TokenKind) : Token := ⟨kind, 0⟩

theorem map_kind_ofKind (ts : List TokenKind) : (ts.map Token.ofKind).map Token.kind = ts := by
  rw [List.map_map]
  exact List.map_id ts

theorem Reading.exists_run_cons {r next : Reading} {t : Token} (hstep : r.step t = .ok next)
    (h : ∃ us e, next.run us = .ok e) : ∃ us e, r.run us = .ok e := by
  obtain ⟨us, e, he⟩ := h
  exact ⟨t :: us, e, by rw [run_cons hstep, he]⟩

/-- Behind a complete operand a parenthesis for each open one ends the expression. -/
theorem Reading.exists_run_operator : ∀ (outer : List Level) (level : Level) (value : Expression),
    ∃ us e, Reading.run ⟨level, outer, .operator value⟩ us = .ok e
  | [], level, value => ⟨[], level.result value, rfl⟩
  | enclosing :: outer, level, value =>
    exists_run_cons (t := .ofKind .rparen) rfl
      (exists_run_operator outer ⟨enclosing.disj, none, 0⟩ (enclosing.close (level.result value)))

theorem Reading.exists_run_separator (level : Level) (outer : List Level) (name : String) (args : List String) :
    ∃ us e, Reading.run ⟨level, outer, .separator name args⟩ us = .ok e :=
  exists_run_cons (t := .ofKind .rparen) rfl (exists_run_operator outer _ _)

theorem Reading.exists_run_firstArgument (level : Level) (outer : List Level) (name : String) :
    ∃ us e, Reading.run ⟨level, outer, .firstArgument name⟩ us = .ok e :=
  exists_run_cons (t := .ofKind .rparen) rfl (exists_run_operator outer _ _)

/-- **No state is a dead end.** -/
theorem Reading.exists_run_ok (r : Reading) : ∃ us e, r.run us = .ok e := by
  obtain ⟨level, outer, expecting⟩ := r
  cases expecting with
  | operand => exact exists_run_cons (t := .ofKind (.bool true)) rfl (exists_run_operator outer _ _)
  | opening name position =>
    exact exists_run_cons (t := .ofKind .lparen) rfl (exists_run_firstArgument level outer name)
  | firstArgument name => exact exists_run_firstArgument level outer name
  | argument name args =>
    exact exists_run_cons (t := .ofKind (.str "")) rfl (exists_run_separator level outer name _)
  | separator name args => exact exists_run_separator level outer name args
  | operator value => exact exists_run_operator outer level value

theorem run_ok_iff {tokens : List Token} {e : Expression} :
    Reading.run {} tokens = .ok e ↔ Derives .disj (tokens.map Token.kind) e := by
  rw [← ofTokens_ok_iff, ofTokens]
  cases tokens with
  | nil => exact iff_of_false (fun h => by cases h) (fun h => by cases h)
  | cons t ts => exact Iff.rfl

/-- **The machine goes on exactly as long as what it has read is viable.** -/
theorem viable_iff {tokens : List Token} :
    Viable (tokens.map Token.kind) ↔ ∃ r, Reading.after {} tokens = .ok r := by
  constructor
  · rintro ⟨us, e, he⟩
    have hkinds : (tokens ++ us.map Token.ofKind).map Token.kind = tokens.map Token.kind ++ us := by
      rw [List.map_append, map_kind_ofKind]
    rw [← hkinds, ← run_ok_iff] at he
    rcases Reading.after_or_refused {} tokens with h | ⟨before, t, rest, s, e', rfl, hs, hrefused⟩
    · exact h
    · rw [List.append_assoc, List.cons_append, Reading.run_of_refused hs hrefused] at he
      cases he
  · rintro ⟨r, hr⟩
    obtain ⟨us, e, he⟩ := r.exists_run_ok
    rw [← Reading.run_of_after hr, run_ok_iff, List.map_append] at he
    exact ⟨us.map Token.kind, e, he⟩

theorem viable_concat_iff {before : List Token} {r : Reading} (h : Reading.after {} before = .ok r) (t : Token) :
    Viable (before.map Token.kind ++ [t.kind]) ↔ ∃ next, r.step t = .ok next := by
  have hconcat : before.map Token.kind ++ [t.kind] = (before ++ [t]).map Token.kind := by
    rw [List.map_append, List.map_singleton]
  rw [hconcat, viable_iff]
  constructor
  · rintro ⟨next, hnext⟩
    obtain ⟨s, hs, hstep⟩ := Reading.after_concat_ok_iff.1 hnext
    rw [h] at hs
    cases hs
    exact ⟨next, hstep⟩
  · rintro ⟨next, hstep⟩
    exact ⟨next, Reading.after_concat_ok_iff.2 ⟨r, h, hstep⟩⟩

/-! ## The state that waits for arguments -/

theorem Reading.expecting_of_step_ident {r next : Reading} {name : String} {position : Nat}
    (h : r.step ⟨.ident name, position⟩ = .ok next) :
    next.expecting = .opening name position ∨ ∃ callee args, next.expecting = .separator callee args := by
  obtain ⟨level, outer, expecting⟩ := r
  cases expecting with
  | operand => cases h; exact .inl rfl
  | firstArgument callee => cases h; exact .inr ⟨callee, _, rfl⟩
  | argument callee args => cases h; exact .inr ⟨callee, _, rfl⟩
  | _ => cases h

theorem Reading.eq_ident_of_step {r next : Reading} {t : Token} {name : String} {position : Nat}
    (h : r.step t = .ok next) (hnext : next.expecting = .opening name position) : t = ⟨.ident name, position⟩ := by
  obtain ⟨level, outer, expecting⟩ := r
  obtain ⟨kind, place⟩ := t
  cases expecting with
  | operand =>
    cases kind <;> cases h <;> cases hnext
    rfl
  | operator value =>
    cases kind with
    | and => cases h; cases hnext
    | or => cases h; cases hnext
    | rparen =>
      cases outer with
      | nil => cases h
      | cons enclosing outer => cases h; cases hnext
    | _ => cases h
  | _ => cases kind <;> cases h <;> cases hnext

theorem Reading.step_eq_of_opening {r : Reading} {name : String} {position : Nat} (h : r.expecting = .opening name position)
    (t : Token) : r.step t = if t.kind = .lparen then .ok { r with expecting := .firstArgument name } else
      .error (.missingArguments name position) := by
  rw [step, h]
  cases t.kind <;> rfl

/-- **The machine waits for arguments exactly behind the name of a function.** -/
theorem opening_iff {tokens : List Token} {r : Reading} (h : Reading.after {} tokens = .ok r) {name : String}
    {position : Nat} :
    r.expecting = .opening name position ↔
      (∃ before, tokens = before ++ [⟨.ident name, position⟩]) ∧ EndsInCall (tokens.map Token.kind) name := by
  have hparen : Viable (tokens.map Token.kind ++ [.lparen]) ↔ ∃ next, r.step (.ofKind .lparen) = .ok next :=
    viable_concat_iff h (.ofKind .lparen)
  constructor
  · intro hr
    rcases List.eq_nil_or_concat tokens with rfl | ⟨before, t, htokens⟩
    · cases h
      cases hr
    rw [List.concat_eq_append] at htokens
    subst htokens
    obtain ⟨s, -, hstep⟩ := Reading.after_concat_ok_iff.1 h
    obtain rfl := Reading.eq_ident_of_step hstep hr
    have hnext : ∃ next, r.step (.ofKind .lparen) = .ok next := ⟨_, Reading.step_eq_of_opening hr _⟩
    exact ⟨⟨before, rfl⟩, ⟨before.map Token.kind, List.map_append⟩, hparen.2 hnext⟩
  · rintro ⟨⟨before, rfl⟩, -, hviable⟩
    obtain ⟨s, -, hstep⟩ := Reading.after_concat_ok_iff.1 h
    rcases Reading.expecting_of_step_ident hstep with hr | ⟨callee, args, hr⟩
    · exact hr
    · -- as an argument the name is not followed by a parenthesis
      obtain ⟨next, hnext⟩ := hparen.1 hviable
      rw [Reading.step, hr] at hnext
      cases hnext

theorem exists_opening_iff {tokens : List Token} {r : Reading} (h : Reading.after {} tokens = .ok r) {name : String} :
    (∃ position, r.expecting = .opening name position) ↔ EndsInCall (tokens.map Token.kind) name := by
  constructor
  · rintro ⟨position, hr⟩
    exact ((opening_iff h).1 hr).2
  · intro hcall
    obtain ⟨us, hus⟩ := hcall.1
    obtain ⟨before, last, rfl, -, hlast⟩ := List.map_eq_append_iff.1 hus
    obtain ⟨⟨kind, position⟩, rfl, rfl⟩ := List.map_eq_singleton_iff.1 hlast
    exact ⟨position, (opening_iff h).2 ⟨⟨before, rfl⟩, hcall⟩⟩

/-! ## Which error a row of tokens has -/

theorem Reading.error_of_step {r : Reading} {t : Token} {e : ParseError} (h : r.step t = .error e)
    (hr : ∀ name position, r.expecting ≠ .opening name position) : e = t.unexpected := by
  obtain ⟨level, outer, expecting⟩ := r
  obtain ⟨kind, place⟩ := t
  cases expecting with
  | opening name position => exact absurd rfl (hr name position)
  | operator value =>
    cases kind with
    | and => cases h
    | or => cases h
    | rparen => cases outer <;> cases h; rfl
    | _ => cases h; rfl
  | _ => cases kind <;> cases h <;> rfl

theorem Reading.error_of_finish {r : Reading} {e : ParseError} (h : r.finish = .error e)
    (hr : ∀ name position, r.expecting ≠ .opening name position) : e = .unexpectedEnd := by
  obtain ⟨level, outer, expecting⟩ := r
  cases expecting with
  | opening name position => exact absurd rfl (hr name position)
  | operator value => cases outer <;> cases h; rfl
  | _ => cases h; rfl

/-- What is wrong with a row of tokens, for each error that says so: no expression begins like this any more, or one does
and is not finished. -/
def Faults (tokens : List Token) : ParseError → Prop
  | .empty => tokens = []
  | .unexpectedToken found position => ∃ before t rest, tokens = before ++ t :: rest ∧ Viable (before.map Token.kind) ∧
      ¬ Viable (before.map Token.kind ++ [t.kind]) ∧ (∀ name, ¬ EndsInCall (before.map Token.kind) name) ∧
      found = t.kind.describe ∧ position = t.position
  | .missingArguments name position => ∃ before rest, tokens = before ++ ⟨.ident name, position⟩ :: rest ∧
      EndsInCall (before.map Token.kind ++ [.ident name]) name ∧ ∀ u ∈ rest.head?, u.kind ≠ .lparen
  | .unexpectedEnd => tokens ≠ [] ∧ Viable (tokens.map Token.kind) ∧ (∀ e, ¬ Derives .disj (tokens.map Token.kind) e) ∧
      ∀ name, ¬ EndsInCall (tokens.map Token.kind) name
  | .unexpectedChar _ _ => False
  | .unterminatedString _ => False

theorem faults_nil_iff {e : ParseError} : Faults [] e ↔ e = .empty := by
  cases e with
  | empty => exact iff_of_true rfl rfl
  | unexpectedEnd => exact iff_of_false (fun h => h.1 rfl) (fun h => by cases h)
  | _ =>
    refine iff_of_false (fun h => ?_) (fun h => by cases h)
    simp [Faults] at h

theorem faults_of_finish {tokens : List Token} {r : Reading} {e : ParseError} (hne : tokens ≠ [])
    (hr : Reading.after {} tokens = .ok r) (hfinish : r.finish = .error e) : Faults tokens e := by
  by_cases hopening : ∃ name position, r.expecting = .opening name position
  · obtain ⟨name, position, hopening⟩ := hopening
    obtain ⟨⟨before, rfl⟩, hcall⟩ := (opening_iff hr).1 hopening
    rw [Reading.finish, hopening] at hfinish
    cases hfinish
    rw [List.map_append] at hcall
    exact ⟨before, [], rfl, hcall, fun u hu => by cases hu⟩
  · obtain rfl := Reading.error_of_finish hfinish fun name position h => hopening ⟨name, position, h⟩
    refine ⟨hne, viable_iff.2 ⟨r, hr⟩, fun e he => ?_, fun name hcall => ?_⟩
    · have hrun := Reading.run_eq_finish hr
      rw [run_ok_iff.2 he, hfinish] at hrun
      cases hrun
    · exact hopening ⟨name, (exists_opening_iff hr).2 hcall⟩

theorem faults_of_refused {before rest : List Token} {t : Token} {r : Reading} {e : ParseError}
    (hr : Reading.after {} before = .ok r) (hrefused : r.step t = .error e) : Faults (before ++ t :: rest) e := by
  by_cases hopening : ∃ name position, r.expecting = .opening name position
  · obtain ⟨name, position, hopening⟩ := hopening
    obtain ⟨⟨before, rfl⟩, hcall⟩ := (opening_iff hr).1 hopening
    rw [Reading.step_eq_of_opening hopening] at hrefused
    split at hrefused
    · cases hrefused
    · rename_i hparen
      cases hrefused
      rw [List.map_append] at hcall
      rw [List.append_assoc]
      exact ⟨before, t :: rest, rfl, hcall, fun u hu => by cases hu; exact hparen⟩
  · obtain rfl := Reading.error_of_step hrefused fun name position h => hopening ⟨name, position, h⟩
    refine ⟨before, t, rest, rfl, viable_iff.2 ⟨r, hr⟩, fun hviable => ?_, fun name hcall => ?_, rfl, rfl⟩
    · obtain ⟨next, hnext⟩ := (viable_concat_iff hr t).1 hviable
      rw [hrefused] at hnext
      cases hnext
    · exact hopening ⟨name, (exists_opening_iff hr).2 hcall⟩

theorem Faults.run {tokens : List Token} {e : ParseError} (h : Faults tokens e) (hne : tokens ≠ []) :
    Reading.run {} tokens = .error e := by
  cases e with
  | empty => exact absurd h hne
  | unexpectedChar => exact h.elim
  | unterminatedString => exact h.elim
  | unexpectedToken found position =>
    obtain ⟨before, t, rest, rfl, hviable, hstuck, hcall, rfl, rfl⟩ := h
    obtain ⟨r, hr⟩ := viable_iff.1 hviable
    rw [viable_concat_iff hr] at hstuck
    cases hstep : r.step t with
    | ok next => exact absurd ⟨next, hstep⟩ hstuck
    | error e =>
      rw [Reading.run_of_refused hr hstep]
      obtain rfl := Reading.error_of_step hstep fun name position h => hcall name ((exists_opening_iff hr).1 ⟨position, h⟩)
      rfl
  | missingArguments name position =>
    obtain ⟨before, rest, rfl, hcall, hrest⟩ := h
    have hcall : EndsInCall ((before ++ [Token.mk (.ident name) position]).map Token.kind) name := by
      rwa [List.map_append]
    obtain ⟨r, hr⟩ := viable_iff.1 hcall.viable
    have hopening : r.expecting = .opening name position := (opening_iff hr).2 ⟨⟨before, rfl⟩, hcall⟩
    rw [List.append_cons, Reading.run_of_after hr]
    cases rest with
    | nil => rw [Reading.run, Reading.finish, hopening]
    | cons u rest => rw [Reading.run, Reading.step_eq_of_opening hopening, if_neg (hrest u rfl)]
  | unexpectedEnd =>
    obtain ⟨-, hviable, hunderived, hcall⟩ := h
    obtain ⟨r, hr⟩ := viable_iff.1 hviable
    have hrun := Reading.run_eq_finish hr
    rw [hrun]
    cases hfinish : r.finish with
    | ok e => exact absurd (run_ok_iff.1 (hrun.trans hfinish)) (hunderived e)
    | error e =>
      rw [Reading.error_of_finish hfinish fun name position h => hcall name ((exists_opening_iff hr).1 ⟨position, h⟩)]

/-- **The error of a row of tokens is what is wrong with it.** -/
theorem ofTokens_eq_error_iff {tokens : List Token} {e : ParseError} : ofTokens tokens = .error e ↔ Faults tokens e := by
  rw [ofTokens]
  by_cases hne : tokens = []
  · subst hne
    rw [List.isEmpty_nil, if_pos rfl, faults_nil_iff, Except.error.injEq, eq_comm]
  · rw [if_neg (by simpa using hne)]
    constructor
    · intro h
      rcases Reading.after_or_refused {} tokens with ⟨r, hr⟩ | ⟨before, t, rest, r, e', rfl, hr, hrefused⟩
      · rw [Reading.run_eq_finish hr] at h
        exact faults_of_finish hne hr h
      · rw [Reading.run_of_refused hr hrefused] at h
        cases h
        exact faults_of_refused hr hrefused
    · exact fun h => h.run hne

end Expression
end BrokerGuard
