import BrokerGuard.Proofs.Expression.Lexeme
/-!
# Placement — where the tokens of a text stand, and where no token begins

`Placed` is a spelling with positions: every token stands where its lexeme begins, counted in characters.  The reader answers
exactly the tokens that are placed in the text (`tokenize_eq_ok_iff`).

A text that spells nothing is stuck at one place (`Stuck`): what is before it spells tokens and does not end inside a word,
and what follows begins with neither white space nor a lexeme.  That there is such a place is shown from the front, a lexeme
at a time and always the longest (`spelling_or_stuck`).  At this place the reader stops, with an error that depends only on
whether a quotation mark stands there (`tokenize_eq_error_iff`).
-/
namespace BrokerGuard
namespace Expression

open Text (isWhiteSpace)

/-! ## Words inside a text -/

/-- The text is split between two characters of one word. -/
def CutsWord (before rest : List Char) : Prop :=
  ∃ us c d vs, before = us ++ [c] ∧ rest = d :: vs ∧ continuesWord c = true ∧ continuesWord d = true

theorem CutsWord.append_left {before rest : List Char} (h : CutsWord before rest) (us : List Char) :
    CutsWord (us ++ before) rest := by
  obtain ⟨vs, c, d, ws, rfl, hrest, hc, hd⟩ := h
  exact ⟨us ++ vs, c, d, ws, (List.append_assoc _ _ _).symm, hrest, hc, hd⟩

theorem CutsWord.of_append {us before rest : List Char} (h : CutsWord (us ++ before) rest) :
    before = [] ∧ CutsWord us rest ∨ CutsWord before rest := by
  rcases List.eq_nil_or_concat before with rfl | ⟨vs, e, rfl⟩
  · rw [List.append_nil] at h
    exact .inl ⟨rfl, h⟩
  · obtain ⟨ws, c, d, xs, heq, hrest, hc, hd⟩ := h
    rw [List.concat_eq_append, ← List.append_assoc] at heq
    obtain ⟨-, hlast⟩ := List.append_inj' heq rfl
    cases hlast
    exact .inr ⟨vs, _, d, xs, List.concat_eq_append, hrest, hc, hd⟩

theorem not_cutsWord_nil_left (rest : List Char) : ¬ CutsWord [] rest := by
  rintro ⟨us, c, d, vs, hnil, -⟩
  simp at hnil

theorem not_cutsWord_nil_right (before : List Char) : ¬ CutsWord before [] := by
  rintro ⟨us, c, d, vs, -, hnil, -⟩
  cases hnil

theorem IsWord.continues {w : List Char} (h : IsWord w) : ∀ c ∈ w, continuesWord c = true := by
  obtain ⟨c, cs, rfl, hc, hcs⟩ := h
  exact List.forall_mem_cons.2 ⟨continuesWord_of_startsWord hc, hcs⟩

theorem IsWord.append {w us : List Char} (h : IsWord w) (hus : ∀ c ∈ us, continuesWord c = true) : IsWord (w ++ us) := by
  obtain ⟨c, cs, rfl, hc, hcs⟩ := h
  exact ⟨c, cs ++ us, rfl, hc, List.forall_mem_append.2 ⟨hcs, hus⟩⟩

theorem IsWord.exists_concat {w : List Char} (h : IsWord w) : ∃ us c, w = us ++ [c] ∧ continuesWord c = true := by
  rcases List.eq_nil_or_concat w with rfl | ⟨us, c, rfl⟩
  · obtain ⟨c, cs, hnil, -⟩ := h
    cases hnil
  · rw [List.concat_eq_append] at h ⊢
    exact ⟨us, c, rfl, h.continues c (by simp)⟩

/-- Where no word is cut, the word at the end is complete. -/
theorem IsWord.endsWord {w rest : List Char} (h : IsWord w) (hcut : ¬ CutsWord w rest) : EndsWord rest := by
  obtain ⟨us, c, rfl, hc⟩ := h.exists_concat
  intro d hd
  rw [← Bool.not_eq_true]
  intro hd'
  obtain ⟨vs, rfl⟩ := List.head?_eq_some_iff.1 hd
  exact hcut ⟨us, c, d, vs, rfl, rfl, hc, hd'⟩

theorem EndsWord.append {cs : List Char} (h : EndsWord cs) (hne : cs ≠ []) (rest : List Char) : EndsWord (cs ++ rest) := by
  cases cs with
  | nil => exact absurd rfl hne
  | cons c cs => exact h

theorem BeginsWord.append {cs : List Char} (h : BeginsWord cs) (rest : List Char) : BeginsWord (cs ++ rest) := by
  obtain ⟨c, hc, hstart⟩ := h
  obtain ⟨ds, rfl⟩ := List.head?_eq_some_iff.1 hc
  exact ⟨c, rfl, hstart⟩

theorem Lexeme.ne_nil {t : TokenKind} {w : List Char} (h : Lexeme t w) : w ≠ [] := by
  rcases h.isWord_or_mark with ⟨c, cs, rfl, -⟩ | ⟨c, cs, rfl, -⟩ <;> exact List.cons_ne_nil _ _

/-- **A lexeme is a word, or ends with a mark.** -/
theorem Lexeme.isWord_or_mark_last {t : TokenKind} {w : List Char} (h : Lexeme t w) :
    IsWord w ∨ ∃ us c, w = us ++ [c] ∧ c ∈ marks := by
  cases h with
  | keyword hk hw => exact .inl (isWord_of_mem_keywords (List.mem_map.2 ⟨_, hk, hw.symm⟩))
  | ident h => exact .inl h.1
  | @str quote value body hq h =>
    refine .inr ⟨quote :: body, quote, rfl, ?_⟩
    rcases hq with rfl | rfl <;> decide
  | and => exact .inr ⟨['&'], _, rfl, by decide⟩
  | or => exact .inr ⟨['|'], _, rfl, by decide⟩
  | _ => exact .inr ⟨[], _, rfl, by decide⟩

/-- Only a word can be cut from what goes on it. -/
theorem Lexeme.not_cutsWord {t : TokenKind} {w rest : List Char} (h : Lexeme t w) (hends : IsWord w → EndsWord rest) :
    ¬ CutsWord w rest := by
  rintro ⟨us, c, d, vs, rfl, rfl, hc, hd⟩
  rcases h.isWord_or_mark_last with hword | ⟨us', c', heq, hmark⟩
  · have := hends hword d rfl
    rw [hd] at this
    cases this
  · obtain ⟨-, hlast⟩ := List.append_inj' heq rfl
    cases hlast
    rw [continuesWord_of_mem_marks c hmark] at hc
    cases hc

/-! ## Tokens at their places -/

/-- How tokens are written from a position on, each where its lexeme begins. -/
inductive Placed : Nat → List Token → List Char → Prop
  | blank {position : Nat} {ws : List Char} (h : IsBlank ws) : Placed position [] ws
  | lexeme {position : Nat} {ws w rest : List Char} {t : TokenKind} {tokens : List Token} (hws : IsBlank ws)
      (hw : Lexeme t w) (hnext : IsWord w → ¬ BeginsWord rest)
      (h : Placed (position + ws.length + w.length) tokens rest) :
      Placed position (⟨t, position + ws.length⟩ :: tokens) (ws ++ (w ++ rest))

theorem Placed.spelling {position : Nat} {tokens : List Token} {cs : List Char} (h : Placed position tokens cs) :
    Spelling (tokens.map Token.kind) cs := by
  induction h with
  | blank hws => exact .blank hws
  | lexeme hws hw hnext _ ih => exact .lexeme hws hw hnext ih

theorem Spelling.exists_placed {ts : List TokenKind} {cs : List Char} (h : Spelling ts cs) (position : Nat) :
    ∃ tokens, Placed position tokens cs := by
  induction h generalizing position with
  | blank hws => exact ⟨[], .blank hws⟩
  | lexeme hws hw hnext _ ih =>
    obtain ⟨tokens, htokens⟩ := ih _
    exact ⟨_, .lexeme hws hw hnext htokens⟩

/-- Every token stands at a lexeme of its own. -/
theorem Placed.exists_lexeme {position : Nat} {tokens : List Token} {cs : List Char} (h : Placed position tokens cs)
    {t : Token} (ht : t ∈ tokens) :
    ∃ us w rest, cs = us ++ (w ++ rest) ∧ t.position = position + us.length ∧ Lexeme t.kind w ∧
      (IsWord w → EndsWord rest) := by
  induction h with
  | blank => cases ht
  | @lexeme position ws w rest kind tokens hws hw hnext h ih =>
    rcases List.mem_cons.1 ht with rfl | ht
    · exact ⟨ws, w, rest, rfl, rfl, hw, fun hword => h.spelling.endsWord (hnext hword)⟩
    · obtain ⟨us, w', rest', rfl, hposition, hw', hends⟩ := ih ht
      refine ⟨ws ++ (w ++ us), w', rest', by simp, ?_, hw', hends⟩
      rw [hposition, List.length_append, List.length_append, Nat.add_assoc, Nat.add_assoc]

/-- **The reader goes over what is written and comes out between two lexemes.** -/
theorem scan_placed {position : Nat} {tokens : List Token} {before rest : List Char} (h : Placed position tokens before)
    (hcut : ¬ CutsWord before rest) :
    scan position .none (before ++ rest) = ahead tokens (scan (position + before.length) .none rest) := by
  induction h with
  | blank hws => rw [scan_blank hws, ahead_nil]
  | @lexeme position ws w cs t tokens hws hw hnext h ih =>
    have hends : IsWord w → EndsWord (cs ++ rest) := by
      intro hword
      by_cases hcs : cs = []
      · subst hcs
        rw [List.append_nil] at hcut
        exact hword.endsWord fun hcut' => hcut (hcut'.append_left ws)
      · exact (h.spelling.endsWord (hnext hword)).append hcs rest
    have hcut' : ¬ CutsWord cs rest := fun hcut' => hcut ((hcut'.append_left w).append_left ws)
    rw [List.append_assoc, List.append_assoc, scan_blank hws, scan_lexeme hw hends, ih hcut', ahead_ahead,
      List.length_append, List.length_append, ← Nat.add_assoc, ← Nat.add_assoc, List.singleton_append]

theorem scan_eq_of_placed {position : Nat} {tokens : List Token} {cs : List Char} (h : Placed position tokens cs) :
    scan position .none cs = .ok tokens := by
  have hscan := scan_placed h (not_cutsWord_nil_right cs)
  rw [List.append_nil] at hscan
  rw [hscan, scan, Pending.finish, ahead, Except.map, List.append_nil]

/-- **The reader answers exactly the tokens that are placed in the text.** -/
theorem tokenize_eq_ok_iff {source : String} {tokens : List Token} :
    tokenize source = .ok tokens ↔ Placed 0 tokens source.toList := by
  constructor
  · intro h
    have hspelling : Spelling (tokens.map Token.kind) source.toList := resumes_of_scan h
    obtain ⟨placed, hplaced⟩ := hspelling.exists_placed 0
    rw [tokenize, scan_eq_of_placed hplaced] at h
    cases h
    exact hplaced
  · exact fun h => scan_eq_of_placed h

/-! ## Where no token begins -/

/-- The text is written as tokens up to the character, and no token begins with it. -/
structure Stuck (text before : List Char) (c : Char) (after : List Char) : Prop where
  split : text = before ++ c :: after
  written : ∃ ts, Spelling ts before
  uncut : ¬ CutsWord before (c :: after)
  solid : isWhiteSpace c = false
  barren : ∀ t w, Lexeme t w → ¬ w <+: c :: after

/-- Of the lexemes that a text begins with, a longest one. -/
theorem Lexeme.exists_longest {t : TokenKind} {w text : List Char} (h : Lexeme t w) (hleads : w <+: text) :
    ∃ t w rest, text = w ++ rest ∧ Lexeme t w ∧ (IsWord w → EndsWord rest) := by
  obtain ⟨rest, rfl⟩ := hleads
  by_cases hword : IsWord w
  · have hlonger : IsWord (w ++ rest.takeWhile continuesWord) :=
      hword.append (List.all_eq_true.1 List.all_takeWhile)
    refine ⟨_, _, rest.dropWhile continuesWord, ?_, hlonger.lexeme, fun _ c hc => ?_⟩
    · rw [List.append_assoc, List.takeWhile_append_dropWhile]
    · have hhead := List.head?_dropWhile_not continuesWord rest
      rw [hc] at hhead
      exact hhead
  · exact ⟨t, w, rest, rfl, h, fun h => absurd h hword⟩

theorem Stuck.append_left {text before after : List Char} {c : Char} (h : Stuck text before c after) {us : List Char}
    (hcut : ¬ CutsWord us text) (hwritten : ∃ ts, Spelling ts (us ++ before)) : Stuck (us ++ text) (us ++ before) c after := by
  obtain ⟨rfl, -, huncut, hsolid, hbarren⟩ := h
  refine ⟨(List.append_assoc _ _ _).symm, hwritten, fun hcuts => ?_, hsolid, hbarren⟩
  rcases hcuts.of_append with ⟨rfl, hus⟩ | hbefore
  · exact hcut hus
  · exact huncut hbefore

/-- **A text that spells nothing is stuck somewhere.** -/
theorem spelling_or_stuck (text : List Char) :
    (∃ ts, Spelling ts text) ∨ ∃ before c after, Stuck text before c after := by
  by_cases hlexeme : ∃ t w, Lexeme t w ∧ w <+: text
  · obtain ⟨t, w, hw, hleads⟩ := hlexeme
    obtain ⟨t, w, rest, rfl, hlex, hends⟩ := hw.exists_longest hleads
    have hshorter : rest.length < (w ++ rest).length := by
      have := List.length_pos_iff.2 hlex.ne_nil
      rw [List.length_append]
      omega
    rcases spelling_or_stuck rest with ⟨ts, h⟩ | ⟨before, c, after, h⟩
    · exact .inl ⟨_, .adjoin hlex (fun hword => not_beginsWord_of_endsWord (hends hword)) h⟩
    · obtain ⟨us, hus⟩ := h.written
      have hnext : IsWord w → ¬ BeginsWord before := by
        intro hword hbegins
        rw [h.split] at hends
        exact not_beginsWord_of_endsWord (hends hword) (hbegins.append _)
      exact .inr ⟨_, _, _, h.append_left (hlex.not_cutsWord hends) ⟨_, .adjoin hlex hnext hus⟩⟩
  · cases text with
    | nil => exact .inl ⟨[], .blank fun c hc => absurd hc List.not_mem_nil⟩
    | cons c cs =>
      by_cases hblank : isWhiteSpace c = true
      · have hblanks : IsBlank [c] := List.forall_mem_singleton.2 hblank
        have hcut : ¬ CutsWord [c] cs := by
          rintro ⟨us, d, e, vs, heq, -, hd, -⟩
          obtain ⟨-, hlast⟩ := List.append_inj' (show [] ++ [c] = us ++ [d] from heq) rfl
          cases hlast
          rw [continuesWord_of_isWhiteSpace hblank] at hd
          cases hd
        rcases spelling_or_stuck cs with ⟨ts, h⟩ | ⟨before, d, after, h⟩
        · exact .inl ⟨ts, h.blank_append hblanks⟩
        · obtain ⟨us, hus⟩ := h.written
          exact .inr ⟨_, _, _, h.append_left hcut ⟨us, hus.blank_append hblanks⟩⟩
      · exact .inr ⟨[], c, cs, rfl, ⟨[], .blank fun c hc => absurd hc List.not_mem_nil⟩, not_cutsWord_nil_left _,
          Bool.eq_false_iff.2 hblank, fun t w hw hleads => hlexeme ⟨t, w, hw, hleads⟩⟩
termination_by text.length

/-! ## The error there -/

/-- Without a closing mark the quoted text is unterminated.  By induction on the text, an escaped character and its backslash
together. -/
theorem scan_unclosed {quote : Char} (hquote : quote ≠ '\\') (first : Nat) :
    ∀ {cs : List Char}, (∀ value body, QuotedBody quote value body → ¬ body ++ [quote] <+: cs) →
      ∀ position letters, scan position (.quoted first quote letters) cs = .error (.unterminatedString first)
  | [], _, _, _ => rfl
  | c :: cs, h, position, letters => by
    have hc : c ≠ quote := by
      rintro rfl
      exact h [] [] .nil (List.cons_prefix_cons.2 ⟨rfl, List.nil_prefix⟩)
    by_cases hb : c = '\\'
    · subst hb
      have hstep : (Pending.quoted first quote letters).step position '\\' = .ok ([], .escaped first quote letters) := by
        simp [Pending.step, hc]
      rw [scan_cons_nil hstep]
      cases cs with
      | nil => rfl
      | cons d cs =>
        have hnext : (Pending.escaped first quote letters).step (position + 1) d =
            .ok ([], .quoted first quote (d :: letters)) := rfl
        rw [scan_cons_nil hnext]
        refine scan_unclosed hquote first (fun value body hbody hleads => ?_) _ _
        exact h (d :: value) ('\\' :: d :: body) hbody.escaped
          (List.cons_prefix_cons.2 ⟨rfl, List.cons_prefix_cons.2 ⟨rfl, hleads⟩⟩)
    · have hstep : (Pending.quoted first quote letters).step position c = .ok ([], .quoted first quote (c :: letters)) := by
        simp [Pending.step, hc, hb]
      rw [scan_cons_nil hstep]
      refine scan_unclosed hquote first (fun value body hbody hleads => ?_) _ _
      exact h (c :: value) (c :: body) (hbody.plain hc hb) (List.cons_prefix_cons.2 ⟨rfl, hleads⟩)

theorem Stuck.scan_of_quote {text before after : List Char} {c : Char} (h : Stuck text before c after) (hc : IsQuote c)
    (position : Nat) : scan position .none (c :: after) = .error (.unterminatedString position) := by
  have hstep : Pending.none.step position c = .ok ([], .quoted position c []) := by
    rcases hc with rfl | rfl <;> rfl
  rw [scan_cons_nil hstep]
  have hbackslash : c ≠ '\\' := by rcases hc with rfl | rfl <;> decide
  refine scan_unclosed hbackslash position (fun value body hbody hleads => ?_) _ _
  exact h.barren _ _ (.str hc hbody) (List.cons_prefix_cons.2 ⟨rfl, hleads⟩)

theorem scan_cons_error {position : Nat} {pending : Pending} {c : Char} {e : ParseError}
    (h : pending.step position c = .error e) (cs : List Char) : scan position pending (c :: cs) = .error e := by
  rw [scan, h]

theorem Stuck.ne_of_lexeme {text before after : List Char} {c d : Char} {t : TokenKind} (h : Stuck text before c after)
    (hlex : Lexeme t [d]) : c ≠ d := by
  rintro rfl
  exact h.barren t [c] hlex (List.cons_prefix_cons.2 ⟨rfl, List.nil_prefix⟩)

theorem Stuck.scan_of_not_quote {text before after : List Char} {c : Char} (h : Stuck text before c after)
    (hc : ¬ IsQuote c) (position : Nat) : scan position .none (c :: after) = .error (.unexpectedChar c position) := by
  have hlparen := h.ne_of_lexeme .lparen
  have hrparen := h.ne_of_lexeme .rparen
  have hcomma := h.ne_of_lexeme .comma
  have hnot := h.ne_of_lexeme .not
  have hstart : ¬ startsWord c = true := by
    intro hstart
    have hword : IsWord [c] := ⟨c, [], rfl, hstart, fun d hd => absurd hd List.not_mem_nil⟩
    exact h.ne_of_lexeme hword.lexeme rfl
  by_cases hhalf : c = '&' ∨ c = '|'
  · -- half of an operator, and the other half is missing
    have hstep : Pending.none.step position c = .ok ([], .doubled position c) := by
      rcases hhalf with rfl | rfl <;> rfl
    rw [scan_cons_nil hstep]
    cases after with
    | nil => rfl
    | cons d after =>
      have hd : d ≠ c := by
        rintro rfl
        have hleads : [d, d] <+: d :: d :: after := ⟨after, rfl⟩
        rcases hhalf with rfl | rfl
        · exact h.barren _ _ .and hleads
        · exact h.barren _ _ .or hleads
      have hnext : (Pending.doubled position c).step (position + 1) d = .error (.unexpectedChar c position) := if_neg hd
      exact scan_cons_error hnext after
  · have hquote : ¬ (c = '\'' ∨ c = '"') := hc
    refine scan_cons_error ?_ after
    rw [Pending.step, Pending.start, if_neg (Bool.eq_false_iff.1 h.solid), if_neg hlparen, if_neg hrparen, if_neg hcomma,
      if_neg hnot, if_neg hhalf, if_neg hquote, if_neg hstart]

/-- What keeps a text from being tokens, for each error that says so. -/
def Misspelled (text : List Char) : ParseError → Prop
  | .unexpectedChar found position => ∃ before after, Stuck text before found after ∧ ¬ IsQuote found ∧
      position = before.length
  | .unterminatedString position => ∃ before quote after, Stuck text before quote after ∧ IsQuote quote ∧
      position = before.length
  | _ => False

theorem Stuck.scan_eq {text before after : List Char} {c : Char} (h : Stuck text before c after) :
    ∃ tokens, scan 0 .none text = ahead tokens (scan before.length .none (c :: after)) := by
  obtain ⟨ts, hts⟩ := h.written
  obtain ⟨tokens, htokens⟩ := hts.exists_placed 0
  exact ⟨tokens, by rw [h.split, scan_placed htokens h.uncut, Nat.zero_add]⟩

theorem Misspelled.tokenize_eq {source : String} {e : ParseError} (h : Misspelled source.toList e) :
    tokenize source = .error e := by
  cases e with
  | unexpectedChar found position =>
    obtain ⟨before, after, hstuck, hquote, rfl⟩ := h
    obtain ⟨tokens, htokens⟩ := hstuck.scan_eq
    rw [tokenize, htokens, hstuck.scan_of_not_quote hquote]
    rfl
  | unterminatedString position =>
    obtain ⟨before, quote, after, hstuck, hquote, rfl⟩ := h
    obtain ⟨tokens, htokens⟩ := hstuck.scan_eq
    rw [tokenize, htokens, hstuck.scan_of_quote hquote]
    rfl
  | _ => exact h.elim

theorem Stuck.exists_misspelled {text before after : List Char} {c : Char} (h : Stuck text before c after) :
    ∃ e, Misspelled text e := by
  by_cases hc : IsQuote c
  · exact ⟨.unterminatedString before.length, before, c, after, h, hc, rfl⟩
  · exact ⟨.unexpectedChar c before.length, before, after, h, hc, rfl⟩

/-- **The reader stops where no token begins.** -/
theorem tokenize_eq_error_iff {source : String} {e : ParseError} :
    tokenize source = .error e ↔ Misspelled source.toList e := by
  refine ⟨fun h => ?_, Misspelled.tokenize_eq⟩
  rcases spelling_or_stuck source.toList with ⟨ts, hts⟩ | ⟨before, c, after, hstuck⟩
  · obtain ⟨tokens, htokens⟩ := hts.exists_placed 0
    rw [tokenize_eq_ok_iff.2 htokens] at h
    cases h
  · obtain ⟨e', he'⟩ := hstuck.exists_misspelled
    rw [he'.tokenize_eq] at h
    cases h
    exact he'

end Expression
end BrokerGuard
