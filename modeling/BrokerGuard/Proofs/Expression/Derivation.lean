import BrokerGuard.Expression.Parser
/-!
# Derivations — which expression a row of tokens derives

`Derives` is the grammar, over tokens without their positions.  Of the operators, `or` binds least, then `and`, then `not`;
`or` and `and` associate to the left; parentheses leave no trace in the expression.

The reader, a machine with a stack, follows the grammar (`ofTokens_ok_iff`).  The forward half says for each tier of the
grammar how the machine runs over what the tier derives (`Derives.runs`).  The backward half is an invariant of the machine:
`Reading.Stands` says which tokens a state stands for, and a step keeps it (`Reading.Stands.step`).
-/
namespace BrokerGuard
namespace Expression

/-- The tiers of the grammar, weakest operator first. -/
inductive Tier where
  | disj
  | conj
  | unary
  | primary

/-- The argument that a token is: a name or a quoted text. -/
def TokenKind.argument? : TokenKind → Option String
  | ident value => some value
  | str value => some value
  | _ => none

/-- Arguments in a row, with commas between them. -/
def listed (ts : List TokenKind) : List TokenKind := ts.intersperse .comma

/-- The grammar. -/
inductive Derives : Tier → List TokenKind → Expression → Prop
  | ofConj {ts : List TokenKind} {e : Expression} (h : Derives .conj ts e) : Derives .disj ts e
  | disj {ts us : List TokenKind} {a b : Expression} (ha : Derives .disj ts a) (hb : Derives .conj us b) :
      Derives .disj (ts ++ .or :: us) (.disj a b)
  | ofUnary {ts : List TokenKind} {e : Expression} (h : Derives .unary ts e) : Derives .conj ts e
  | conj {ts us : List TokenKind} {a b : Expression} (ha : Derives .conj ts a) (hb : Derives .unary us b) :
      Derives .conj (ts ++ .and :: us) (.conj a b)
  | ofPrimary {ts : List TokenKind} {e : Expression} (h : Derives .primary ts e) : Derives .unary ts e
  | neg {ts : List TokenKind} {e : Expression} (h : Derives .unary ts e) : Derives .unary (.not :: ts) (.neg e)
  | literal (value : Bool) : Derives .primary [.bool value] (.literal value)
  | group {ts : List TokenKind} {e : Expression} (h : Derives .disj ts e) :
      Derives .primary (.lparen :: (ts ++ [.rparen])) e
  | call {ts : List TokenKind} {args : List String} (name : String) (h : ts.map TokenKind.argument? = args.map some) :
      Derives .primary (.ident name :: .lparen :: (listed ts ++ [.rparen])) (.call name args)

theorem listed_cons : ∀ (t : TokenKind) (ts : List TokenKind), listed (t :: ts) = t :: ts.flatMap fun u => [.comma, u]
  | _, [] => rfl
  | t, u :: ts => by
    have ih := listed_cons u ts
    rw [listed] at ih ⊢
    rw [List.intersperse_cons_cons, ih]
    rfl

theorem listed_concat {ts : List TokenKind} (hts : ts ≠ []) (t : TokenKind) :
    listed (ts ++ [t]) = listed ts ++ [.comma, t] := by
  cases ts with
  | nil => exact absurd rfl hts
  | cons u ts => simp [listed_cons]

/-! ## The machine runs over what the grammar derives -/

theorem Reading.run_cons {r next : Reading} {t : Token} (h : r.step t = .ok next) (ts : List Token) :
    r.run (t :: ts) = next.run ts := by
  rw [run, h]

theorem negate_neg (n : Nat) (e : Expression) : negate n (.neg e) = negate (n + 1) e := by
  induction n with
  | zero => rfl
  | succ n ih => rw [negate, ih]; rfl

/-- The state after an operand of an `and` was read, inside parentheses whose weaker operators wait with `d`. -/
def afterOperand (d : Option Expression) (outer : List Level) (value : Expression) : Reading :=
  ⟨⟨d, none, 0⟩, outer, .operator value⟩

/-- How the machine runs over tokens that a tier derives, before whatever follows. -/
def Tier.Runs (us : List Token) (e : Expression) : Tier → Prop
  | .disj => ∀ outer rest, ∃ d value, (Level.mk d none 0).result value = e ∧
      Reading.run ⟨{}, outer, .operand⟩ (us ++ rest) = (afterOperand d outer value).run rest
  | .conj => ∀ d outer rest,
      Reading.run ⟨⟨d, none, 0⟩, outer, .operand⟩ (us ++ rest) = (afterOperand d outer e).run rest
  | .unary => ∀ level outer rest,
      Reading.run ⟨level, outer, .operand⟩ (us ++ rest) = (afterOperand level.disj outer (level.close e)).run rest
  | .primary => ∀ level outer rest,
      Reading.run ⟨level, outer, .operand⟩ (us ++ rest) = (afterOperand level.disj outer (level.close e)).run rest

theorem Reading.step_argument {t : Token} {arg : String} (h : t.kind.argument? = some arg) (level : Level)
    (outer : List Level) (name : String) (args : List String) :
    Reading.step ⟨level, outer, .argument name args⟩ t = .ok ⟨level, outer, .separator name (arg :: args)⟩ := by
  rw [Reading.step]
  cases hk : t.kind <;> rw [hk] at h <;> cases h <;> rfl

theorem Reading.step_firstArgument {t : Token} {arg : String} (h : t.kind.argument? = some arg) (level : Level)
    (outer : List Level) (name : String) :
    Reading.step ⟨level, outer, .firstArgument name⟩ t = .ok ⟨level, outer, .separator name [arg]⟩ := by
  rw [Reading.step]
  cases hk : t.kind <;> rw [hk] at h <;> cases h <;> rfl

theorem run_moreArguments (level : Level) (outer : List Level) (name : String) (rest : List Token) :
    ∀ {ts : List TokenKind} {args done : List String} {us : List Token}, ts.map TokenKind.argument? = args.map some →
      us.map Token.kind = (ts.flatMap fun t => [.comma, t]) →
      Reading.run ⟨level, outer, .separator name done⟩ (us ++ rest) =
        Reading.run ⟨level, outer, .separator name (args.reverse ++ done)⟩ rest
  | [], args, done, us, h, hus => by
    rw [List.map_eq_nil_iff.1 hus, List.map_eq_nil_iff.1 h.symm]
    rfl
  | t :: ts, args, done, us, h, hus => by
    obtain ⟨arg, args, rfl, harg, hargs⟩ := List.map_eq_cons_iff.1 h.symm
    obtain ⟨c, us, rfl, hc, hus⟩ := List.map_eq_cons_iff.1 hus
    obtain ⟨u, us, rfl, hu, hus⟩ := List.map_eq_cons_iff.1 hus
    have hcomma : Reading.step ⟨level, outer, .separator name done⟩ c = .ok ⟨level, outer, .argument name done⟩ := by
      simp only [Reading.step, hc]
    have hstep := Reading.step_argument (t := u) (hu ▸ harg.symm) level outer name done
    rw [List.cons_append, List.cons_append, Reading.run_cons hcomma, Reading.run_cons hstep,
      run_moreArguments level outer name rest hargs.symm hus, List.reverse_cons, List.append_assoc]
    rfl

/-- The machine runs over a list of arguments, be it empty or not, and its end. -/
theorem run_arguments {ts : List TokenKind} {args : List String} {us : List Token}
    (h : ts.map TokenKind.argument? = args.map some) (hus : us.map Token.kind = listed ts ++ [.rparen]) (level : Level)
    (outer : List Level) (name : String) (rest : List Token) :
    Reading.run ⟨level, outer, .firstArgument name⟩ (us ++ rest) =
      (afterOperand level.disj outer (level.close (.call name args))).run rest := by
  obtain ⟨vs, ends, rfl, hvs, hends⟩ := List.map_eq_append_iff.1 hus
  obtain ⟨p, rfl, hp⟩ := List.map_eq_singleton_iff.1 hends
  cases ts with
  | nil =>
    have hstep : Reading.step ⟨level, outer, .firstArgument name⟩ p =
        .ok (afterOperand level.disj outer (level.close (.call name []))) := by
      simp only [Reading.step, hp]
      rfl
    rw [List.map_eq_nil_iff.1 hvs, List.map_eq_nil_iff.1 h.symm]
    exact Reading.run_cons hstep rest
  | cons t ts =>
    rw [listed_cons] at hvs
    obtain ⟨arg, args, rfl, harg, hargs⟩ := List.map_eq_cons_iff.1 h.symm
    obtain ⟨u, vs, rfl, hu, hvs⟩ := List.map_eq_cons_iff.1 hvs
    have hfirst := Reading.step_firstArgument (t := u) (hu ▸ harg.symm) level outer name
    have hstep : Reading.step ⟨level, outer, .separator name (args.reverse ++ [arg])⟩ p =
        .ok (afterOperand level.disj outer (level.close (.call name (arg :: args)))) := by
      simp only [Reading.step, hp, List.reverse_append, List.reverse_reverse]
      rfl
    rw [List.append_assoc, List.cons_append, Reading.run_cons hfirst,
      run_moreArguments level outer name _ hargs.symm hvs]
    exact Reading.run_cons hstep rest

/-- **The machine runs over what the grammar derives, and then holds the expression.** -/
theorem Derives.runs {tier : Tier} {ts : List TokenKind} {e : Expression} (h : Derives tier ts e) :
    ∀ {us : List Token}, us.map Token.kind = ts → tier.Runs us e := by
  induction h with
  | ofConj _ ih => exact fun hus outer rest => ⟨none, _, rfl, ih hus none outer rest⟩
  | disj _ _ iha ihb =>
    intro us hus outer rest
    obtain ⟨vs, ws, rfl, hvs, hws⟩ := List.map_eq_append_iff.1 hus
    obtain ⟨o, ws, rfl, ho, hws⟩ := List.map_eq_cons_iff.1 hws
    obtain ⟨d, value, rfl, hrun⟩ := iha hvs outer (o :: ws ++ rest)
    have hstep : (afterOperand d outer value).step o =
        .ok ⟨⟨some ((Level.mk d none 0).result value), none, 0⟩, outer, .operand⟩ := by
      simp only [afterOperand, Reading.step, ho]
    refine ⟨some ((Level.mk d none 0).result value), _, rfl, ?_⟩
    rw [List.append_assoc, hrun, List.cons_append, Reading.run_cons hstep]
    exact ihb hws _ outer rest
  | ofUnary _ ih => exact fun hus d outer rest => ih hus ⟨d, none, 0⟩ outer rest
  | conj _ _ iha ihb =>
    intro us hus d outer rest
    obtain ⟨vs, ws, rfl, hvs, hws⟩ := List.map_eq_append_iff.1 hus
    obtain ⟨o, ws, rfl, ho, hws⟩ := List.map_eq_cons_iff.1 hws
    have hstep (value : Expression) : (afterOperand d outer value).step o =
        .ok ⟨⟨d, some value, 0⟩, outer, .operand⟩ := by
      simp only [afterOperand, Reading.step, ho]
    rw [List.append_assoc, iha hvs d outer, List.cons_append, Reading.run_cons (hstep _)]
    exact ihb hws ⟨d, some _, 0⟩ outer rest
  | ofPrimary _ ih => exact ih
  | neg _ ih =>
    intro us hus level outer rest
    obtain ⟨n, us, rfl, hn, hus⟩ := List.map_eq_cons_iff.1 hus
    have hstep : Reading.step ⟨level, outer, .operand⟩ n =
        .ok ⟨⟨level.disj, level.conj, level.negations + 1⟩, outer, .operand⟩ := by
      simp only [Reading.step, hn]
    rw [List.cons_append, Reading.run_cons hstep, ih hus]
    simp only [Level.close, negate_neg]
  | literal value =>
    intro us hus level outer rest
    obtain ⟨u, rfl, hu⟩ := List.map_eq_singleton_iff.1 hus
    have hstep : Reading.step ⟨level, outer, .operand⟩ u =
        .ok (afterOperand level.disj outer (level.close (.literal value))) := by
      simp only [Reading.step, hu]
      rfl
    exact Reading.run_cons hstep rest
  | group _ ih =>
    intro us hus level outer rest
    obtain ⟨l, us, rfl, hl, hus⟩ := List.map_eq_cons_iff.1 hus
    obtain ⟨vs, ends, rfl, hvs, hends⟩ := List.map_eq_append_iff.1 hus
    obtain ⟨p, rfl, hp⟩ := List.map_eq_singleton_iff.1 hends
    obtain ⟨d, value, rfl, hrun⟩ := ih hvs (level :: outer) ([p] ++ rest)
    have hopen : Reading.step ⟨level, outer, .operand⟩ l = .ok ⟨{}, level :: outer, .operand⟩ := by
      simp only [Reading.step, hl]
    have hclose : (afterOperand d (level :: outer) value).step p =
        .ok (afterOperand level.disj outer (level.close ((Level.mk d none 0).result value))) := by
      simp only [afterOperand, Reading.step, hp]
      rfl
    rw [List.cons_append, Reading.run_cons hopen, List.append_assoc, hrun]
    exact Reading.run_cons hclose rest
  | call name h =>
    intro us hus level outer rest
    obtain ⟨i, us, rfl, hi, hus⟩ := List.map_eq_cons_iff.1 hus
    obtain ⟨l, us, rfl, hl, hus⟩ := List.map_eq_cons_iff.1 hus
    have hname : Reading.step ⟨level, outer, .operand⟩ i = .ok ⟨level, outer, .opening name i.position⟩ := by
      simp only [Reading.step, hi]
    have hopen : Reading.step ⟨level, outer, .opening name i.position⟩ l = .ok ⟨level, outer, .firstArgument name⟩ := by
      simp only [Reading.step, hl]
    rw [List.cons_append, List.cons_append, Reading.run_cons hname, Reading.run_cons hopen]
    exact run_arguments h hus level outer name rest

/-! ## What a state of the machine stands for -/

/-- What waits, with its operator behind it: nothing, or tokens that a tier derives. -/
def Waits (op : TokenKind) (tier : Tier) (ts : List TokenKind) : Option Expression → Prop
  | none => ts = []
  | some e => ∃ us, ts = us ++ [op] ∧ Derives tier us e

/-- The tokens inside one pair of parentheses, up to the operand that is due. -/
def Level.Stands (l : Level) (ts : List TokenKind) : Prop :=
  ∃ ds cs, Waits .or .disj ds l.disj ∧ Waits .and .conj cs l.conj ∧
    ts = ds ++ (cs ++ List.replicate l.negations .not)

/-- The tokens up to the innermost open parenthesis. -/
def outerStands (ts : List TokenKind) : List Level → Prop
  | [] => ts = []
  | l :: outer => ∃ us vs, outerStands us outer ∧ l.Stands vs ∧ ts = us ++ (vs ++ [.lparen])

/-- The tokens of the operand that is due, as far as it was read. -/
def Expecting.Begun (ts : List TokenKind) : Expecting → Prop
  | operand => ts = []
  | opening name _ => ts = [.ident name]
  | firstArgument name => ts = [.ident name, .lparen]
  | argument name args => ∃ us, us ≠ [] ∧ us.map TokenKind.argument? = args.reverse.map some ∧
      ts = .ident name :: .lparen :: (listed us ++ [.comma])
  | separator name args => ∃ us, us ≠ [] ∧ us.map TokenKind.argument? = args.reverse.map some ∧
      ts = .ident name :: .lparen :: listed us
  | operator _ => False

/-- The tokens inside the innermost open parenthesis. -/
def Expecting.Stands (ts : List TokenKind) (l : Level) : Expecting → Prop
  | operator value => ∃ ds vs, Waits .or .disj ds l.disj ∧ Derives .conj vs value ∧ ts = ds ++ vs
  | expecting => ∃ us vs, l.Stands us ∧ expecting.Begun vs ∧ ts = us ++ vs

/-- **The tokens that a state stands for**: those up to the innermost open parenthesis, and those inside it. -/
def Reading.Stands (r : Reading) (ts : List TokenKind) : Prop :=
  ∃ us vs, outerStands us r.outer ∧ r.expecting.Stands vs r.level ∧ ts = us ++ vs

theorem Derives.negate {ts : List TokenKind} {e : Expression} (h : Derives .unary ts e) :
    ∀ n, Derives .unary (List.replicate n .not ++ ts) (negate n e)
  | 0 => h
  | n + 1 => (h.negate n).neg

/-- An operand completes the `and` chain before it. -/
theorem Level.Stands.close {l : Level} {us vs : List TokenKind} {e : Expression} (hl : l.Stands us)
    (he : Derives .primary vs e) :
    ∃ ds ws, Waits .or .disj ds l.disj ∧ Derives .conj ws (l.close e) ∧ us ++ vs = ds ++ ws := by
  obtain ⟨ds, cs, hd, hc, rfl⟩ := hl
  have hneg := (Derives.ofPrimary he).negate l.negations
  refine ⟨ds, cs ++ (List.replicate l.negations .not ++ vs), hd, ?_, by simp⟩
  rw [Level.close]
  cases hconj : l.conj with
  | none =>
    rw [hconj] at hc
    rw [show cs = [] from hc]
    exact .ofUnary hneg
  | some left =>
    rw [hconj] at hc
    obtain ⟨bs, rfl, hleft⟩ := hc
    rw [List.append_assoc, List.singleton_append]
    exact .conj hleft hneg

/-- An `and` chain completes the `or` chain before it. -/
theorem Waits.result {l : Level} {ds vs : List TokenKind} {value : Expression} (hd : Waits .or .disj ds l.disj)
    (hv : Derives .conj vs value) : Derives .disj (ds ++ vs) (l.result value) := by
  rw [Level.result]
  cases hdisj : l.disj with
  | none =>
    rw [hdisj] at hd
    rw [show ds = [] from hd]
    exact .ofConj hv
  | some left =>
    rw [hdisj] at hd
    obtain ⟨bs, rfl, hleft⟩ := hd
    rw [List.append_assoc, List.singleton_append]
    exact .disj hleft hv

theorem Reading.Stands.operandRead {l : Level} {outer : List Level} {expecting : Expecting} {us vs ws : List TokenKind}
    {e : Expression} (houter : outerStands us outer) (hl : l.Stands vs) (he : Derives .primary ws e) :
    (Reading.operandRead ⟨l, outer, expecting⟩ e).Stands (us ++ (vs ++ ws)) := by
  obtain ⟨ds, xs, hd, hx, heq⟩ := hl.close he
  exact ⟨us, ds ++ xs, houter, ⟨ds, xs, hd, hx, rfl⟩, by rw [heq]⟩

-- One lemma for each thing that the machine may expect.
section Step

variable {level : Level} {outer : List Level} {next : Reading} {t : Token} {us vs : List TokenKind} {name : String}
  {args : List String}

theorem stands_step_operand (houter : outerStands us outer) (hinner : Expecting.Stands vs level .operand)
    (hstep : Reading.step ⟨level, outer, .operand⟩ t = .ok next) : next.Stands (us ++ vs ++ [t.kind]) := by
  obtain ⟨ws, xs, hl, rfl, rfl⟩ := hinner
  rw [List.append_nil, List.append_assoc]
  rw [Reading.step] at hstep
  dsimp only at hstep
  split at hstep
  · rename_i value hk
    cases hstep
    rw [hk]
    exact .operandRead houter hl (.literal value)
  · rename_i hk
    cases hstep
    rw [hk]
    exact ⟨us ++ (ws ++ [.lparen]), [], ⟨us, ws, houter, hl, rfl⟩,
      ⟨[], [], ⟨[], [], rfl, rfl, rfl⟩, rfl, rfl⟩, by simp⟩
  · rename_i hk
    cases hstep
    rw [hk]
    obtain ⟨ds, cs, hd, hc, rfl⟩ := hl
    exact ⟨us, _, houter, ⟨_, [], ⟨ds, cs, hd, hc, rfl⟩, rfl, rfl⟩, by simp [List.replicate_succ']⟩
  · rename_i name hk
    cases hstep
    rw [hk]
    exact ⟨us, _, houter, ⟨ws, _, hl, rfl, rfl⟩, rfl⟩
  · cases hstep

theorem stands_step_opening {position : Nat} (houter : outerStands us outer)
    (hinner : Expecting.Stands vs level (.opening name position))
    (hstep : Reading.step ⟨level, outer, .opening name position⟩ t = .ok next) :
    next.Stands (us ++ vs ++ [t.kind]) := by
  obtain ⟨ws, xs, hl, rfl, rfl⟩ := hinner
  rw [Reading.step] at hstep
  dsimp only at hstep
  split at hstep
  · rename_i hk
    cases hstep
    rw [hk]
    exact ⟨us, _, houter, ⟨ws, _, hl, rfl, rfl⟩, by simp⟩
  · cases hstep

theorem stands_step_firstArgument (houter : outerStands us outer)
    (hinner : Expecting.Stands vs level (.firstArgument name))
    (hstep : Reading.step ⟨level, outer, .firstArgument name⟩ t = .ok next) :
    next.Stands (us ++ vs ++ [t.kind]) := by
  obtain ⟨ws, xs, hl, rfl, rfl⟩ := hinner
  rw [Reading.step] at hstep
  dsimp only at hstep
  split at hstep
  · rename_i hk
    cases hstep
    rw [hk, List.append_assoc, List.append_assoc]
    have hcall : Derives .primary (.ident name :: .lparen :: (listed [] ++ [.rparen])) (.call name []) :=
      .call name rfl
    exact .operandRead houter hl hcall
  · rename_i value hk
    cases hstep
    rw [hk]
    exact ⟨us, _, houter, ⟨ws, _, hl, ⟨[.str value], by simp, rfl, rfl⟩, rfl⟩, by simp [listed]⟩
  · rename_i value hk
    cases hstep
    rw [hk]
    exact ⟨us, _, houter, ⟨ws, _, hl, ⟨[.ident value], by simp, rfl, rfl⟩, rfl⟩, by simp [listed]⟩
  · cases hstep

theorem stands_step_argument (houter : outerStands us outer)
    (hinner : Expecting.Stands vs level (.argument name args))
    (hstep : Reading.step ⟨level, outer, .argument name args⟩ t = .ok next) :
    next.Stands (us ++ vs ++ [t.kind]) := by
  obtain ⟨ws, xs, hl, ⟨as, hne, has, rfl⟩, rfl⟩ := hinner
  have hnext (k : TokenKind) (value : String) (hk : k.argument? = some value) :
      Reading.Stands ⟨level, outer, .separator name (value :: args)⟩
        (us ++ (ws ++ .ident name :: .lparen :: (listed as ++ [.comma])) ++ [k]) :=
    ⟨us, _, houter, ⟨ws, _, hl, ⟨as ++ [k], by simp, by simp [has, hk], rfl⟩, rfl⟩, by simp [listed_concat hne]⟩
  rw [Reading.step] at hstep
  dsimp only at hstep
  split at hstep
  · rename_i value hk
    cases hstep
    rw [hk]
    exact hnext (.str value) value rfl
  · rename_i value hk
    cases hstep
    rw [hk]
    exact hnext (.ident value) value rfl
  · cases hstep

theorem stands_step_separator (houter : outerStands us outer)
    (hinner : Expecting.Stands vs level (.separator name args))
    (hstep : Reading.step ⟨level, outer, .separator name args⟩ t = .ok next) :
    next.Stands (us ++ vs ++ [t.kind]) := by
  obtain ⟨ws, xs, hl, ⟨as, hne, has, rfl⟩, rfl⟩ := hinner
  rw [Reading.step] at hstep
  dsimp only at hstep
  split at hstep
  · rename_i hk
    cases hstep
    rw [hk]
    exact ⟨us, _, houter, ⟨ws, _, hl, ⟨as, hne, has, rfl⟩, rfl⟩, by simp⟩
  · rename_i hk
    cases hstep
    rw [hk, List.append_assoc, List.append_assoc]
    exact .operandRead houter hl (.call name has)
  · cases hstep

theorem stands_step_operator {value : Expression} (houter : outerStands us outer)
    (hinner : Expecting.Stands vs level (.operator value))
    (hstep : Reading.step ⟨level, outer, .operator value⟩ t = .ok next) : next.Stands (us ++ vs ++ [t.kind]) := by
  obtain ⟨ds, xs, hd, hx, rfl⟩ := hinner
  rw [Reading.step] at hstep
  dsimp only at hstep
  split at hstep
  · rename_i hk
    cases hstep
    rw [hk]
    exact ⟨us, _, houter, ⟨_, [], ⟨ds, xs ++ [.and], hd, ⟨xs, rfl, hx⟩, rfl⟩, rfl, rfl⟩, by simp⟩
  · rename_i hk
    cases hstep
    rw [hk]
    exact ⟨us, _, houter, ⟨_, [], ⟨ds ++ xs ++ [.or], [], ⟨ds ++ xs, rfl, hd.result hx⟩, rfl, rfl⟩, rfl, rfl⟩,
      by simp⟩
  · rename_i hk
    rw [hk]
    split at hstep
    · cases hstep
    · rename_i enclosing outer
      cases hstep
      obtain ⟨us, ws, houter, hl, rfl⟩ := houter
      rw [show us ++ (ws ++ [.lparen]) ++ (ds ++ xs) ++ [.rparen] = us ++ (ws ++ .lparen :: (ds ++ xs ++ [.rparen]))
        by simp]
      exact .operandRead houter hl (.group (hd.result hx))
  · cases hstep

end Step

/-- **A step keeps what the state stands for**, with the token behind it. -/
theorem Reading.Stands.step {r next : Reading} {t : Token} {ts : List TokenKind} (h : r.Stands ts)
    (hstep : r.step t = .ok next) : next.Stands (ts ++ [t.kind]) := by
  obtain ⟨level, outer, expecting⟩ := r
  obtain ⟨us, vs, houter, hinner, rfl⟩ := h
  cases expecting with
  | operand => exact stands_step_operand houter hinner hstep
  | opening => exact stands_step_opening houter hinner hstep
  | firstArgument => exact stands_step_firstArgument houter hinner hstep
  | argument => exact stands_step_argument houter hinner hstep
  | separator => exact stands_step_separator houter hinner hstep
  | operator => exact stands_step_operator houter hinner hstep

theorem Reading.Stands.finish {r : Reading} {ts : List TokenKind} {e : Expression} (h : r.Stands ts)
    (hfinish : r.finish = .ok e) : Derives .disj ts e := by
  obtain ⟨level, outer, expecting⟩ := r
  obtain ⟨us, vs, houter, hinner, rfl⟩ := h
  cases expecting with
  | operator value =>
    obtain ⟨ds, xs, hd, hx, rfl⟩ := hinner
    cases outer with
    | nil =>
      cases hfinish
      rw [show us = [] from houter]
      exact hd.result hx
    | cons l outer => cases hfinish
  | _ => cases hfinish

/-- By induction on the tokens that are left, a step at a time. -/
theorem Reading.Stands.run : ∀ {tokens : List Token} {r : Reading} {ts : List TokenKind} {e : Expression},
    r.Stands ts → r.run tokens = .ok e → Derives .disj (ts ++ tokens.map Token.kind) e
  | [], r, ts, e, h, hrun => by
    rw [List.map_nil, List.append_nil]
    exact h.finish hrun
  | t :: tokens, r, ts, e, h, hrun => by
    rw [Reading.run] at hrun
    split at hrun
    · rename_i next hstep
      have := (h.step hstep).run hrun
      rwa [List.append_assoc, List.singleton_append] at this
    · cases hrun

theorem Derives.ne_nil {tier : Tier} {ts : List TokenKind} {e : Expression} (h : Derives tier ts e) : ts ≠ [] := by
  induction h with
  | ofConj _ ih => exact ih
  | ofUnary _ ih => exact ih
  | ofPrimary _ ih => exact ih
  | _ => simp

/-- **The reader answers an expression exactly when the grammar derives it from the tokens.** -/
theorem ofTokens_ok_iff {tokens : List Token} {e : Expression} :
    ofTokens tokens = .ok e ↔ Derives .disj (tokens.map Token.kind) e := by
  constructor
  · intro h
    rw [ofTokens] at h
    split at h
    · cases h
    · have hstart : Reading.Stands {} [] := ⟨[], [], rfl, ⟨[], [], ⟨[], [], rfl, rfl, rfl⟩, rfl, rfl⟩, rfl⟩
      exact hstart.run h
  · intro h
    have hne : tokens.isEmpty = false := by
      cases tokens with
      | nil => exact absurd rfl h.ne_nil
      | cons t ts => rfl
    obtain ⟨d, value, rfl, hrun⟩ := h.runs rfl [] []
    rw [List.append_nil] at hrun
    rw [ofTokens, hne, if_neg Bool.false_ne_true, hrun]
    rfl

end Expression
end BrokerGuard
