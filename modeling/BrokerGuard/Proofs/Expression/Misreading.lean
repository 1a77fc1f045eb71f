import BrokerGuard.Proofs.Expression.Placement
import BrokerGuard.Proofs.Expression.Viability
/-!
# Misreading — the error of a text that spells no expression

A text is misread for its characters or for its tokens (`Misread`): either it is stuck at a place where no token begins, or
it is written as tokens and these have a fault.  The parser reports what holds, and nothing else
(`ofSource_eq_error_iff`); so no text has two of these errors, and the place of an error is the only one it could be.  At
this place stands what the error names (`Located`).
-/
namespace BrokerGuard
namespace Expression

/-- What is wrong with a text. -/
def Misread (source : String) (e : ParseError) : Prop :=
  Misspelled source.toList e ∨ ∃ tokens, Placed 0 tokens source.toList ∧ Faults tokens e

theorem ofSource_eq_error_iff {source : String} {e : ParseError} : ofSource source = .error e ↔ Misread source e := by
  rw [Misread, ← tokenize_eq_error_iff, ofSource]
  cases htokenize : tokenize source with
  | error e' =>
    refine ⟨fun h => .inl (congrArg _ (Except.error.inj h)), fun h => ?_⟩
    rcases h with h | ⟨tokens, htokens, -⟩
    · rw [Except.error.inj h]
    · rw [tokenize_eq_ok_iff.2 htokens] at htokenize
      cases htokenize
  | ok tokens =>
    dsimp only
    have hplaced := tokenize_eq_ok_iff.1 htokenize
    refine ⟨fun h => .inr ⟨tokens, hplaced, ofTokens_eq_error_iff.1 h⟩, fun h => ?_⟩
    rcases h with h | ⟨tokens', htokens', hfaults⟩
    · cases h
    · rw [tokenize_eq_ok_iff.2 htokens'] at htokenize
      cases htokenize
      exact ofTokens_eq_error_iff.2 hfaults

theorem placed_nil_iff {position : Nat} {cs : List Char} : Placed position [] cs ↔ IsBlank cs :=
  ⟨fun h => by cases h; assumption, .blank⟩

theorem misread_empty_iff {source : String} : Misread source .empty ↔ IsBlank source.toList := by
  constructor
  · rintro (h | ⟨tokens, hplaced, rfl⟩)
    · exact h.elim
    · exact placed_nil_iff.1 hplaced
  · exact fun h => .inr ⟨[], placed_nil_iff.2 h, rfl⟩

/-! ## What stands where an error points -/

/-- The characters stand in the text, so many after its beginning, and if they are a word, then the whole word. -/
def StandsAt (text w : List Char) (position : Nat) : Prop :=
  ∃ before rest, text = before ++ (w ++ rest) ∧ before.length = position ∧ (IsWord w → EndsWord rest)

/-- The text has, where the error says, what the error names. -/
def Located (text : List Char) : ParseError → Prop
  | .empty => True
  | .unexpectedChar found position => text[position]? = some found
  | .unterminatedString position => ∃ quote, IsQuote quote ∧ text[position]? = some quote
  | .unexpectedToken found position => ∃ t w, found = t.describe ∧ Lexeme t w ∧ StandsAt text w position
  | .missingArguments name position => StandsAt text name.toList position
  | .unexpectedEnd => True

theorem Stuck.getElem?_eq {text before after : List Char} {c : Char} (h : Stuck text before c after) :
    text[before.length]? = some c := by
  rw [h.split, List.getElem?_append_right (Nat.le_refl _), Nat.sub_self, List.getElem?_cons_zero]

theorem Placed.standsAt {tokens : List Token} {text : List Char} (h : Placed 0 tokens text) {t : Token} (ht : t ∈ tokens) :
    ∃ w, Lexeme t.kind w ∧ StandsAt text w t.position := by
  obtain ⟨before, w, rest, hsplit, hposition, hw, hends⟩ := h.exists_lexeme ht
  rw [Nat.zero_add] at hposition
  exact ⟨w, hw, before, rest, hsplit, hposition.symm, hends⟩

/-- A name is written as it is. -/
theorem Lexeme.eq_name {name : String} {w : List Char} (h : Lexeme (.ident name) w) : w = name.toList := by
  generalize ht : TokenKind.ident name = t at h
  cases h with
  | ident =>
    cases ht
    rw [String.toList_ofList]
  | keyword hk hw =>
    subst ht
    simp [keywords] at hk
  | _ => cases ht

theorem Misread.located {source : String} {e : ParseError} (h : Misread source e) : Located source.toList e := by
  cases e with
  | empty => trivial
  | unexpectedEnd => trivial
  | unexpectedChar found position =>
    rcases h with ⟨before, after, hstuck, -, rfl⟩ | ⟨tokens, -, hfaults⟩
    · exact hstuck.getElem?_eq
    · exact hfaults.elim
  | unterminatedString position =>
    rcases h with ⟨before, quote, after, hstuck, hquote, rfl⟩ | ⟨tokens, -, hfaults⟩
    · exact ⟨quote, hquote, hstuck.getElem?_eq⟩
    · exact hfaults.elim
  | unexpectedToken found position =>
    rcases h with h | ⟨tokens, hplaced, before, t, rest, rfl, -, -, -, rfl, rfl⟩
    · exact h.elim
    · obtain ⟨w, hw, hstands⟩ := hplaced.standsAt (t := t) (by simp)
      exact ⟨t.kind, w, rfl, hw, hstands⟩
  | missingArguments name position =>
    rcases h with h | ⟨tokens, hplaced, before, rest, rfl, -⟩
    · exact h.elim
    · obtain ⟨w, hw, hstands⟩ := hplaced.standsAt (t := ⟨.ident name, position⟩) (by simp)
      rwa [hw.eq_name] at hstands

theorem tokenize_eq_error_iff_misread {source : String} {e : ParseError} :
    tokenize source = .error e ↔ Misread source e ∧
      ((∃ found position, e = .unexpectedChar found position) ∨ ∃ position, e = .unterminatedString position) := by
  rw [tokenize_eq_error_iff]
  constructor
  · intro h
    refine ⟨.inl h, ?_⟩
    cases e with
    | unexpectedChar found position => exact .inl ⟨found, position, rfl⟩
    | unterminatedString position => exact .inr ⟨position, rfl⟩
    | _ => exact h.elim
  · rintro ⟨h | ⟨tokens, -, hfaults⟩, hlexical⟩
    · exact h
    · rcases hlexical with ⟨found, position, rfl⟩ | ⟨position, rfl⟩ <;> exact hfaults.elim

end Expression

open Expression

theorem ExpressionParser.standard_eq_error_iff {source : String} {e : ParseError} :
    ExpressionParser.standard source = .error e ↔ Misread source e := by
  rw [← ofSource_eq_error_iff, standard]
  cases ofSource source with
  | ok expression => exact iff_of_false (fun h => by cases h) (fun h => by cases h)
  | error e' => dsimp only; rw [Except.error.injEq, Except.error.injEq]

/-- **The error of the built-in parser is what is wrong with the text, at the place where it goes wrong.**  A text of white
space is empty; a text whose characters are stuck is reported for them and there; any other one is reported for the first
token with which no expression goes on, for a name without its arguments, or for its end. -/
theorem ExpressionParser.standard_error_exact (source : String) :
    (∀ e, ExpressionParser.standard source = .error e ↔ Misread source e) ∧
    (ExpressionParser.standard source = .error .empty ↔ IsBlank source.toList) ∧
    (∀ e, tokenize source = .error e ↔ ExpressionParser.standard source = .error e ∧
      ((∃ found position, e = .unexpectedChar found position) ∨ ∃ position, e = .unterminatedString position)) ∧
    ∀ e, ExpressionParser.standard source = .error e → Located source.toList e := by
  refine ⟨fun e => standard_eq_error_iff, ?_, fun e => ?_, fun e h => (standard_eq_error_iff.1 h).located⟩
  · rw [standard_eq_error_iff, misread_empty_iff]
  · rw [standard_eq_error_iff, tokenize_eq_error_iff_misread]

/-- The token after a complete call, behind letters beyond ASCII. -/
theorem ExpressionParser.standard_error_exact_trailing :
    Misread "hasRole('ééé') x" (.unexpectedToken "x" 15) ∧
      Located "hasRole('ééé') x".toList (.unexpectedToken "x" 15) := by
  have herror : ExpressionParser.standard "hasRole('ééé') x" = .error (.unexpectedToken "x" 15) := rfl
  obtain ⟨hexact, -, -, hlocated⟩ := ExpressionParser.standard_error_exact "hasRole('ééé') x"
  exact ⟨(hexact _).1 herror, hlocated _ herror⟩

end BrokerGuard
