import BrokerGuard.Proofs.Expression.Lexeme
import BrokerGuard.Proofs.Expression.Derivation
/-!
# The grammar of access expressions

A text spells an expression when it spells tokens from which the grammar derives the expression (`Spells`).  The built-in
parser reads a text exactly when it spells an expression, and answers that expression, which is the only one the text spells;
an expression has a spelling exactly when its functions have names.
-/
namespace BrokerGuard
namespace Expression

/-- The text is a way to write the expression. -/
def Spells (source : String) (e : Expression) : Prop := ∃ ts, Spelling ts source.toList ∧ Derives .disj ts e

theorem ofSource_ok_iff {source : String} {e : Expression} : ofSource source = .ok e ↔ Spells source e := by
  rw [ofSource]
  constructor
  · intro h
    split at h
    · rename_i tokens htokens
      exact ⟨_, tokenize_ok_iff.1 ⟨tokens, htokens, rfl⟩, ofTokens_ok_iff.1 h⟩
    · cases h
  · rintro ⟨ts, hspelling, hderives⟩
    obtain ⟨tokens, htokens, rfl⟩ := tokenize_ok_iff.2 hspelling
    rw [htokens]
    exact ofTokens_ok_iff.2 hderives

theorem Spells.unique {source : String} {a b : Expression} (ha : Spells source a) (hb : Spells source b) : a = b := by
  have ha := ofSource_ok_iff.2 ha
  rw [ofSource_ok_iff.2 hb] at ha
  exact (Except.ok.inj ha).symm

/-! ## Which expressions have a spelling -/

/-- The functions of the expression have names that can be written. -/
def NamesFunctions (e : Expression) : Prop := ∀ name ∈ e.functionNames, IsIdentifier name.toList

/-- The tokens of the canonical text: every operation in parentheses, and every argument quoted. -/
def canonicalTokens : Expression → List TokenKind
  | literal value => [.bool value]
  | call name args => .ident name :: .lparen :: (listed (args.map .str) ++ [.rparen])
  | conj left right => .lparen :: ((left.canonicalTokens ++ .and :: right.canonicalTokens) ++ [.rparen])
  | disj left right => .lparen :: ((left.canonicalTokens ++ .or :: right.canonicalTokens) ++ [.rparen])
  | neg inner => .not :: inner.canonicalTokens

theorem derives_canonicalTokens (e : Expression) : Derives .unary e.canonicalTokens e := by
  induction e with
  | literal value => exact .ofPrimary (.literal value)
  | call name args => exact .ofPrimary (.call name (by simp [Function.comp_def, TokenKind.argument?]))
  | conj left right ihl ihr => exact .ofPrimary (.group (.ofConj (.conj (.ofUnary ihl) ihr)))
  | disj left right ihl ihr => exact .ofPrimary (.group (.disj (.ofConj (.ofUnary ihl)) (.ofUnary ihr)))
  | neg inner ih => exact .neg ih

theorem mem_listed {t : TokenKind} {ts : List TokenKind} (h : t ∈ listed ts) : t = .comma ∨ t ∈ ts := by
  cases ts with
  | nil => cases h
  | cons u ts =>
    simp only [listed_cons, List.mem_cons, List.mem_flatMap, List.not_mem_nil, or_false] at h
    rcases h with rfl | ⟨v, hv, rfl | rfl⟩ <;> simp_all

theorem exists_lexeme_str (value : String) : ∃ w, Lexeme (.str value) w := by
  have hbody : ∀ cs, ∃ body, QuotedBody '"' cs body := by
    intro cs
    induction cs with
    | nil => exact ⟨[], .nil⟩
    | cons c cs ih =>
      obtain ⟨body, h⟩ := ih
      exact ⟨'\\' :: c :: body, h.escaped⟩
  obtain ⟨body, h⟩ := hbody value.toList
  have hlex := Lexeme.str (.inr rfl) h
  rw [String.ofList_toList] at hlex
  exact ⟨_, hlex⟩

theorem exists_lexeme_ident {name : String} (h : IsIdentifier name.toList) : ∃ w, Lexeme (.ident name) w := by
  have hlex := Lexeme.ident h
  rw [String.ofList_toList] at hlex
  exact ⟨_, hlex⟩

theorem exists_lexeme_bool (value : Bool) : ∃ w, Lexeme (.bool value) w := by
  cases value with
  | true => exact ⟨_, .keyword (k := ['t', 'r', 'u', 'e']) (w := ['t', 'r', 'u', 'e']) (by decide) (by decide)⟩
  | false => exact ⟨_, .keyword (k := ['f', 'a', 'l', 's', 'e']) (w := ['f', 'a', 'l', 's', 'e']) (by decide) (by decide)⟩

/-- Operands that can be written can be written around an operator, in parentheses. -/
theorem exists_lexeme_of_mem_operation {ts us : List TokenKind} {operator : TokenKind}
    (hoperator : ∃ w, Lexeme operator w) (hts : ∀ t ∈ ts, ∃ w, Lexeme t w) (hus : ∀ t ∈ us, ∃ w, Lexeme t w) :
    ∀ t ∈ .lparen :: ((ts ++ operator :: us) ++ [.rparen]), ∃ w, Lexeme t w := by
  intro t ht
  simp only [List.mem_cons, List.mem_append, List.not_mem_nil, or_false] at ht
  rcases ht with rfl | (ht | rfl | ht) | rfl
  · exact ⟨_, .lparen⟩
  · exact hts t ht
  · exact hoperator
  · exact hus t ht
  · exact ⟨_, .rparen⟩

theorem exists_lexeme_of_mem_canonicalTokens {e : Expression} (h : e.NamesFunctions) :
    ∀ t ∈ e.canonicalTokens, ∃ w, Lexeme t w := by
  induction e with
  | literal value => exact List.forall_mem_singleton.2 (exists_lexeme_bool value)
  | call name args =>
    intro t ht
    simp only [canonicalTokens, List.mem_cons, List.mem_append, List.not_mem_nil, or_false] at ht
    rcases ht with rfl | rfl | ht | rfl
    · exact exists_lexeme_ident (h name (by simp [functionNames]))
    · exact ⟨_, .lparen⟩
    · rcases mem_listed ht with rfl | ht
      · exact ⟨_, .comma⟩
      · obtain ⟨arg, -, rfl⟩ := List.mem_map.1 ht
        exact exists_lexeme_str arg
    · exact ⟨_, .rparen⟩
  | conj left right ihl ihr =>
    simp only [NamesFunctions, functionNames, List.forall_mem_append] at h
    exact exists_lexeme_of_mem_operation ⟨_, .and⟩ (ihl h.1) (ihr h.2)
  | disj left right ihl ihr =>
    simp only [NamesFunctions, functionNames, List.forall_mem_append] at h
    exact exists_lexeme_of_mem_operation ⟨_, .or⟩ (ihl h.1) (ihr h.2)
  | neg inner ih => exact List.forall_mem_cons.2 ⟨⟨_, .not⟩, ih h⟩

/-- Tokens that can be written one by one can be written in a row, with a blank before each. -/
theorem exists_spelling {ts : List TokenKind} (h : ∀ t ∈ ts, ∃ w, Lexeme t w) :
    ∃ cs, Spelling ts (' ' :: cs) := by
  induction ts with
  | nil => exact ⟨[], .blank isBlank_space⟩
  | cons t ts ih =>
    obtain ⟨w, hw⟩ := h t (by simp)
    obtain ⟨cs, hcs⟩ := ih fun u hu => h u (by simp [hu])
    have hnext : ¬ BeginsWord (' ' :: cs) := not_beginsWord_of_endsWord (endsWord_cons (by decide))
    exact ⟨w ++ ' ' :: cs, .lexeme isBlank_space hw (fun _ => hnext) hcs⟩

theorem Lexeme.isIdentifier {name : String} {w : List Char} (h : Lexeme (.ident name) w) :
    IsIdentifier name.toList := by
  generalize ht : TokenKind.ident name = t at h
  cases h with
  | ident h =>
    cases ht
    rwa [String.toList_ofList]
  | keyword hk hw =>
    subst ht
    simp [keywords] at hk
  | _ => cases ht

theorem Spelling.isIdentifier {name : String} {ts : List TokenKind} {cs : List Char} (h : Spelling ts cs)
    (hmem : .ident name ∈ ts) : IsIdentifier name.toList := by
  induction h with
  | blank => cases hmem
  | lexeme _ hw _ _ ih =>
    rcases List.mem_cons.1 hmem with rfl | hmem
    · exact hw.isIdentifier
    · exact ih hmem

/-- The functions of an expression stand among the tokens it is derived from. -/
theorem Derives.ident_mem {tier : Tier} {ts : List TokenKind} {e : Expression} (h : Derives tier ts e) :
    ∀ name ∈ e.functionNames, .ident name ∈ ts := by
  induction h with
  | ofConj _ ih => exact ih
  | ofUnary _ ih => exact ih
  | ofPrimary _ ih => exact ih
  | neg _ ih => exact fun name hn => List.mem_cons_of_mem _ (ih name hn)
  | group _ ih => exact fun name hn => List.mem_cons_of_mem _ (List.mem_append_left _ (ih name hn))
  | disj _ _ iha ihb =>
    intro name hn
    rcases List.mem_append.1 hn with hn | hn
    · exact List.mem_append_left _ (iha name hn)
    · exact List.mem_append_right _ (List.mem_cons_of_mem _ (ihb name hn))
  | conj _ _ iha ihb =>
    intro name hn
    rcases List.mem_append.1 hn with hn | hn
    · exact List.mem_append_left _ (iha name hn)
    · exact List.mem_append_right _ (List.mem_cons_of_mem _ (ihb name hn))
  | literal value => exact fun name hn => absurd hn List.not_mem_nil
  | call name' _ =>
    intro name hn
    obtain rfl := List.mem_singleton.1 hn
    exact List.mem_cons_self

/-- **An expression can be written exactly when its functions have names.** -/
theorem exists_spells_iff {e : Expression} : (∃ source, Spells source e) ↔ e.NamesFunctions := by
  constructor
  · rintro ⟨source, ts, hspelling, hderives⟩ name hn
    exact hspelling.isIdentifier (hderives.ident_mem name hn)
  · intro h
    obtain ⟨cs, hcs⟩ := exists_spelling (exists_lexeme_of_mem_canonicalTokens h)
    refine ⟨String.ofList (' ' :: cs), _, ?_, .ofConj (.ofUnary e.derives_canonicalTokens)⟩
    rwa [String.toList_ofList]

end Expression

theorem ExpressionParser.standard_eq_ok_iff {source : String} {p : ParsedExpression} :
    ExpressionParser.standard source = .ok p ↔ p.source = source ∧ Expression.Spells source p.expression := by
  rw [← Expression.ofSource_ok_iff, standard]
  constructor
  · intro h
    split at h
    · rename_i e he
      cases h
      exact ⟨rfl, he⟩
    · cases h
  · rintro ⟨rfl, he⟩
    rw [he]

/-- **The built-in parser reads the spellings of expressions and nothing else.**  It answers the expression that a text
spells, together with the text; a text spells one expression at most, and an expression has a spelling as soon as the names
of its functions can be written. -/
theorem ExpressionParser.standard_reads_grammar :
    (∀ (source : String) (p : ParsedExpression),
      ExpressionParser.standard source = .ok p ↔ p.source = source ∧ Expression.Spells source p.expression) ∧
    (∀ (source : String) (a b : Expression), Expression.Spells source a → Expression.Spells source b → a = b) ∧
    (∀ e : Expression, (∃ source, Expression.Spells source e) ↔ e.NamesFunctions) :=
  ⟨fun _ _ => ExpressionParser.standard_eq_ok_iff, fun _ _ _ => Expression.Spells.unique,
    fun _ => Expression.exists_spells_iff⟩

end BrokerGuard
