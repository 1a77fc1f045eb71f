import BrokerGuard.Proofs.Pattern.Regex.Continuation
/-!
# Sets in brackets — what is read does not depend on what stands behind it

The readers of sets call each other, and take the number of remaining steps.  A text with the closing behind it has more steps
than the text alone, so that the readers are compared for any two numbers in order (`SetsFollow`); one step of each reader
follows from those before it, and the whole by induction on the steps (`setsFollow`).
-/
namespace BrokerGuard
namespace Pattern
namespace Regex

open Text (CharSet)

/-! ## Items -/

theorem readNamedSet_of_head?_ne {cs : List Char} (hne : cs.head? ≠ some ':') : readNamedSet cs = none := by
  unfold readNamedSet
  split
  · exact absurd rfl hne
  · rfl

/-- A named set that is read is read the same with the closing behind the text, and where none stands, none comes in. -/
theorem readNamedSet_closing (cs : List Char) :
    readNamedSet (cs ++ closing) = (readNamedSet cs).map fun r => (r.1, r.2.1, r.2.2 ++ closing) := by
  by_cases hcolon : cs.head? = some ':'
  · obtain ⟨cs, rfl⟩ := List.head?_eq_some_iff.1 hcolon
    have hnegated : ((cs ++ closing).head? == some '^') = (cs.head? == some '^') := by
      cases cs <;> rfl
    have hname : (if (cs.head? == some '^') = true then (cs ++ closing).drop 1 else cs ++ closing) =
        (if (cs.head? == some '^') = true then cs.drop 1 else cs) ++ closing := by
      cases cs with
      | nil => rfl
      | cons => split <;> rfl
    simp only [List.cons_append, readNamedSet, hnegated, hname]
    generalize (if (cs.head? == some '^') = true then cs.drop 1 else cs) = text
    cases hstop : text.drop (text.takeWhile (· != ':')).length with
    | nil =>
      -- without a colon all of the text is a name, and so is the closing
      have hlength : (text.takeWhile (· != ':')).length = text.length :=
        Nat.le_antisymm (List.takeWhile_prefix _).length_le (List.drop_eq_nil_iff.1 hstop)
      have hall : (text ++ closing).takeWhile (· != ':') = text ++ closing := by
        rw [List.takeWhile_append, if_pos hlength]
        rfl
      simp [hall]
    | cons c after =>
      obtain ⟨htake, hdrop⟩ := takeWhile_append_of_stop hstop closing
      simp only [htake, hdrop]
      rcases after with _ | ⟨d, after⟩
      · simp [closing]
      by_cases hend : c = ':' ∧ d = ']'
      · obtain ⟨rfl, rfl⟩ := hend
        simp [Option.map_map, Function.comp_def]
      · split <;> split <;> simp_all
  · have hne : (cs ++ closing).head? ≠ some ':' := (Continues.behind cs).head?_ne (by decide) hcolon
    rw [readNamedSet_of_head?_ne hcolon, readNamedSet_of_head?_ne hne]
    rfl

/-- Reads a character or an escape. -/
def readAtom (f : Flags) : List Char → Option (Atom × List Char)
  | '\\' :: rest => readEscape f rest
  | c :: rest => some (.char c, rest)
  | [] => none

/-- An atom that may be a member of a set. -/
def Atom.inSet? (f : Flags) : Atom → Option Atom
  | .char c => if f.unicode || decide (c.toNat < 128) then some (.char c) else none
  | .set members => some (.set members)
  | .place _ => none

theorem readAtom_follows (f : Flags) : Follows (readAtom f) (readAtom f) := by
  intro cs ds hds atom rest h
  rcases cs with _ | ⟨c, cs⟩
  · cases h
  obtain ⟨ds, rfl, hrest⟩ := hds.cons_cases
  by_cases hslash : c = '\\'
  · subst hslash
    exact readEscape_follows f hrest h
  · simp only [readAtom] at h ⊢
    cases h
    exact ⟨ds, hrest, rfl⟩

theorem readSetAtom_eq (f : Flags) (cs : List Char) :
    readSetAtom f cs = (readAtom f cs).bind fun r => (r.1.inSet? f).map fun atom => (atom, r.2) := by
  have checked (r : Atom × List Char) : (match r.1 with
      | .char c => if f.unicode || decide (c.toNat < 128) then pure (r.1, r.2) else none
      | .set _ => pure (r.1, r.2)
      | .place _ => none) = (r.1.inSet? f).map fun atom => (atom, r.2) := by
    obtain ⟨atom, rest⟩ := r
    cases atom with
    | char c => cases hc : f.unicode || decide (c.toNat < 128) <;> simp [Atom.inSet?, hc]
    | set => rfl
    | place => rfl
  rcases cs with _ | ⟨c, rest⟩
  · rfl
  by_cases hslash : c = '\\'
  · subst hslash
    exact congrArg (readEscape f rest).bind (funext checked)
  · simp only [readSetAtom, readAtom]
    exact checked (.char c, rest)

theorem readSetAtom_follows (f : Flags) : Follows (readSetAtom f) (readSetAtom f) := by
  intro cs ds hds atom rest h
  rw [readSetAtom_eq] at h ⊢
  exact (readAtom_follows f).bind (fun atom => .keep (atom.inSet? f)) hds h

/-- The range between two atoms. -/
def Atom.rangeTo? : Atom → Atom → Option CharSet
  | .char low, .char high => if low ≤ high then some (.range low high) else none
  | _, _ => none

/-- Reads what follows an atom: the end of a range, if it is the beginning of one. -/
def readUpper (f : Flags) (low : Atom) : List Char → Option (CharSet × List Char)
  | [] => none
  | c :: after =>
    if c = '-' then
      if (f.skip after).head? = some ']' ∨ (f.skip after).head? = some '-' then some (low.members, '-' :: after)
      else (readSetAtom f (f.skip after)).bind fun r => (low.rangeTo? r.1).map fun set => (set, r.2)
    else some (low.members, c :: after)

theorem readUpper_follows (f : Flags) (low : Atom) : Follows (readUpper f low) (readUpper f low) := by
  intro cs ds hds set rest h
  rcases cs with _ | ⟨c, xs⟩
  · cases h
  obtain ⟨ys, rfl, hxy⟩ := hds.cons_cases
  have hskip := skip_continues f hxy
  simp only [readUpper] at h ⊢
  split at h
  · rename_i hdash
    rw [if_pos hdash]
    subst hdash
    split at h
    · rename_i hend
      have hend' : (f.skip ys).head? = some ']' ∨ (f.skip ys).head? = some '-' :=
        hend.imp hskip.head?_eq hskip.head?_eq
      rw [if_pos hend']
      cases h
      exact ⟨'-' :: ys, hds, rfl⟩
    · rename_i hend
      obtain ⟨hbracket, hdash⟩ := not_or.1 hend
      rw [if_neg (not_or.2 ⟨hskip.head?_ne (by decide) hbracket, hskip.head?_ne (by decide) hdash⟩)]
      exact (readSetAtom_follows f).bind (fun high => .keep (low.rangeTo? high)) hskip h
  · rename_i hdash
    rw [if_neg hdash]
    cases h
    exact ⟨c :: ys, hds, rfl⟩

theorem readSetItem_eq (f : Flags) (cs : List Char) :
    readSetItem f cs = (readSetAtom f cs).bind fun r => readUpper f r.1 (f.skip r.2) := by
  refine congrArg (readSetAtom f cs).bind (funext fun r => ?_)
  obtain ⟨low, rest⟩ := r
  simp only
  rcases f.skip rest with _ | ⟨c, after⟩
  · rfl
  by_cases hdash : c = '-'
  · subst hdash
    simp only [readUpper]
    split
    · rfl
    · refine congrArg (readSetAtom f (f.skip after)).bind (funext fun r => ?_)
      obtain ⟨high, rest⟩ := r
      cases low <;> cases high <;> try rfl
      simp only [Atom.rangeTo?]
      split <;> rfl
  · simp [readUpper, hdash]

theorem readSetItem_follows (f : Flags) : Follows (readSetItem f) (readSetItem f) := by
  intro cs ds hds set rest h
  rw [readSetItem_eq] at h ⊢
  exact (readSetAtom_follows f).bind (fun low _ _ hrest => readUpper_follows f low (skip_continues f hrest)) hds h

/-! ## The beginning of a set -/

theorem dropComments_length_le (inComment : Bool) (cs : List Char) : (dropComments inComment cs).length ≤ cs.length := by
  induction cs generalizing inComment with
  | nil => exact Nat.le_refl 0
  | cons c cs ih =>
    unfold dropComments
    split
    · exact Nat.le_succ_of_le (ih _)
    · split
      · exact Nat.le_succ_of_le (ih _)
      · split
        · exact Nat.le_succ_of_le (ih _)
        · exact Nat.le_refl _

theorem skip_length_le (f : Flags) (cs : List Char) : (f.skip cs).length ≤ cs.length := by
  unfold Flags.skip
  split
  · exact dropComments_length_le false cs
  · exact Nat.le_refl _

theorem readDashes_of_head?_ne {f : Flags} {steps : Nat} {r : SetReading} {cs : List Char} (hne : cs.head? ≠ some '-') :
    readDashes f steps r cs = (r, cs) := by
  cases steps with
  | zero => rfl
  | succ =>
    unfold readDashes
    split
    · exact absurd rfl hne
    · rfl

theorem readDashes_continues (f : Flags) {steps steps' : Nat} (hsteps : steps ≤ steps') (r : SetReading) {cs ds : List Char}
    (hlength : cs.length ≤ steps) (h : Continues cs ds) :
    ∃ rest', Continues (readDashes f steps r cs).2 rest' ∧
      readDashes f steps' r ds = ((readDashes f steps r cs).1, rest') := by
  induction steps generalizing steps' r cs ds with
  | zero =>
    cases List.length_eq_zero_iff.1 (Nat.le_zero.1 hlength)
    rw [readDashes_of_head?_ne (h.head?_ne (by decide) (by decide))]
    exact ⟨ds, h, rfl⟩
  | succ steps ih =>
    by_cases hdash : cs.head? = some '-'
    · obtain ⟨xs, ys, rfl, rfl, hxy⟩ := h.head_cases hdash
      cases steps' with
      | zero => cases hsteps
      | succ steps' =>
        have hshorter : (f.skip xs).length ≤ steps := Nat.le_trans (skip_length_le f xs) (Nat.le_of_succ_le_succ hlength)
        exact ih (Nat.le_of_succ_le_succ hsteps) (r.add (.single '-') 0) hshorter (skip_continues f hxy)
    · rw [readDashes_of_head?_ne hdash, readDashes_of_head?_ne (h.head?_ne (by decide) hdash)]
      exact ⟨ds, h, rfl⟩

theorem Continues.length_le {cs ds : List Char} (h : Continues cs ds) : cs.length ≤ ds.length := by
  cases h with
  | behind => simp
  | taken => exact Nat.le_refl 0

/-- Reads the closing bracket that stands for itself, if nothing stands before it. -/
def readFirstBracket (f : Flags) (r : SetReading) : List Char → SetReading × List Char
  | ']' :: after => if r.items = 0 then (r.add (.single ']') 0, f.skip after) else (r, ']' :: after)
  | rest => (r, rest)

theorem readFirstBracket_of_head?_ne {f : Flags} {r : SetReading} {cs : List Char} (hne : cs.head? ≠ some ']') :
    readFirstBracket f r cs = (r, cs) := by
  unfold readFirstBracket
  split
  · exact absurd rfl hne
  · rfl

theorem readSetStart_eq {f : Flags} {cs rest : List Char} {r : SetReading} (h : readDashes f cs.length {} cs = (r, rest)) :
    readSetStart f cs = readFirstBracket f r rest := by
  unfold readSetStart
  rw [h]
  simp only
  split
  · rfl
  · rename_i hne
    exact (readFirstBracket_of_head?_ne fun heq => (List.head?_eq_some_iff.1 heq).elim hne).symm

theorem readSetStart_continues (f : Flags) {cs ds : List Char} (h : Continues cs ds) :
    ∃ rest', Continues (readSetStart f cs).2 rest' ∧ readSetStart f ds = ((readSetStart f cs).1, rest') := by
  obtain ⟨between', hbetween, hread'⟩ := readDashes_continues f h.length_le {} (Nat.le_refl _) h
  cases hread : readDashes f cs.length {} cs with
  | mk r between =>
    rw [hread] at hbetween hread'
    rw [readSetStart_eq hread, readSetStart_eq hread']
    by_cases hbracket : between.head? = some ']'
    · obtain ⟨xs, ys, rfl, rfl, hxy⟩ := hbetween.head_cases hbracket
      simp only [readFirstBracket]
      split
      · exact ⟨_, skip_continues f hxy, rfl⟩
      · exact ⟨_, hbetween, rfl⟩
    · rw [readFirstBracket_of_head?_ne hbracket, readFirstBracket_of_head?_ne (hbetween.head?_ne (by decide) hbracket)]
      exact ⟨_, hbetween, rfl⟩

/-! ## Sets inside sets -/

/-- What the readers of sets read in so many steps, they read from a text that goes on after it in so many others. -/
structure SetsFollow (steps steps' : Nat) : Prop where
  set : ∀ (f : Flags) ⦃cs ds : List Char⦄, Continues cs ds → ∀ ⦃set : CharSet⦄ ⦃depth : Nat⦄ ⦃rest : List Char⦄,
    readSet steps f cs = some (set, depth, rest) → ∃ rest', Continues rest rest' ∧ readSet steps' f ds = some (set, depth, rest')
  union : ∀ (f : Flags) (r : SetReading), Follows (readUnion steps f r) (readUnion steps' f r)
  operations : ∀ (f : Flags) (left : CharSet) (d : Nat) ⦃cs ds : List Char⦄, Continues cs ds →
    ∀ ⦃set : CharSet⦄ ⦃depth : Nat⦄ ⦃rest : List Char⦄, readOperations steps f left d cs = some (set, depth, rest) →
      ∃ rest', Continues rest rest' ∧ readOperations steps' f left d ds = some (set, depth, rest')

/-- The sign of an operation stands at the beginning. -/
def startsOperation : List Char → Bool
  | '&' :: '&' :: _ => true
  | '-' :: '-' :: _ => true
  | '~' :: '~' :: _ => true
  | _ => false

theorem Continues.startsOperation_eq {cs ds : List Char} (h : Continues cs ds) : startsOperation ds = startsOperation cs := by
  cases h with
  | taken => rfl
  | behind =>
    rcases cs with _ | ⟨c, _ | ⟨d, cs⟩⟩
    · rfl
    · simp [startsOperation, closing]
    · simp only [startsOperation, List.cons_append]
      split <;> split <;> simp_all

/-- Reads what an opening bracket in a set begins: a named set, or a set of its own. -/
def readInnerSet (steps : Nat) (f : Flags) (cs : List Char) : Option ((CharSet × Nat) × List Char) :=
  match readNamedSet cs with
  | some (set, negated, rest) => (f.negate? negated (f.fold set)).map fun set => ((set, 0), rest)
  | none => (readSet steps f cs).map fun r => ((r.1, r.2.1), r.2.2)

theorem readUnion_succ (steps : Nat) (f : Flags) (r : SetReading) {cs rest : List Char} {c : Char}
    (hcs : f.skip cs = c :: rest) :
    readUnion (steps + 1) f r cs =
      if c = ']' ∨ startsOperation (c :: rest) = true then some (r, c :: rest)
      else if c = '[' then (readInnerSet steps f rest).bind fun s => readUnion steps f (r.add s.1.1 s.1.2) s.2
      else (readSetItem f (c :: rest)).bind fun s => readUnion steps f (r.add s.1 0) s.2 := by
  rw [readUnion, hcs]
  by_cases hend : c = ']'
  · subst hend
    simp
  by_cases hsign : startsOperation (c :: rest) = true
  · rw [if_pos (Or.inr hsign)]
    unfold startsOperation at hsign
    split at hsign <;> simp_all
  rw [if_neg (not_or.2 ⟨hend, hsign⟩)]
  by_cases hopen : c = '['
  · subst hopen
    unfold readInnerSet
    simp only
    cases readNamedSet rest with
    | none => cases readSet steps f rest <;> rfl
    | some named =>
      obtain ⟨set, negated, after⟩ := named
      simp only
      cases f.negate? negated (f.fold set) <;> rfl
  rw [if_neg hopen]
  split
  · rename_i heq
    cases heq
  · rename_i heq
    cases heq
    exact absurd rfl hend
  · rename_i heq
    cases heq
    exact absurd rfl hsign
  · rename_i heq
    cases heq
    exact absurd rfl hsign
  · rename_i heq
    cases heq
    exact absurd rfl hsign
  · rename_i heq
    cases heq
    exact absurd rfl hopen
  · rfl

theorem readInnerSet_follows {steps steps' : Nat} (h : SetsFollow steps steps') (f : Flags) :
    Follows (readInnerSet steps f) (readInnerSet steps' f) := by
  intro cs ds hds set rest hread
  unfold readInnerSet at hread ⊢
  cases hds with
  | taken =>
    obtain ⟨⟨members, depth, rest⟩, hset, heq⟩ := Option.map_eq_some_iff.1 hread
    cases heq
    obtain ⟨rest', hrest, hset'⟩ := h.set f .taken hset
    exact ⟨rest', hrest, by rw [hset']; rfl⟩
  | behind =>
    rw [readNamedSet_closing]
    cases hnamed : readNamedSet cs with
    | none =>
      rw [hnamed] at hread
      obtain ⟨⟨members, depth, rest⟩, hset, heq⟩ := Option.map_eq_some_iff.1 hread
      cases heq
      obtain ⟨rest', hrest, hset'⟩ := h.set f (.behind cs) hset
      exact ⟨rest', hrest, Option.map_eq_some_iff.2 ⟨_, hset', rfl⟩⟩
    | some named =>
      rw [hnamed] at hread
      obtain ⟨members, hmembers, heq⟩ := Option.map_eq_some_iff.1 hread
      cases heq
      exact ⟨_, .behind _, Option.map_eq_some_iff.2 ⟨members, hmembers, rfl⟩⟩

theorem readUnion_follows {steps steps' : Nat} (h : SetsFollow steps steps') (f : Flags) (r : SetReading) :
    Follows (readUnion (steps + 1) f r) (readUnion (steps' + 1) f r) := by
  intro cs ds hds read rest hread
  have hskip := skip_continues f hds
  cases hcs : f.skip cs with
  | nil =>
    rw [readUnion, hcs] at hread
    cases hread
  | cons c xs =>
    rw [hcs] at hskip
    obtain ⟨ys, hys, hxy⟩ := hskip.cons_cases
    rw [hys] at hskip
    rw [readUnion_succ steps f r hcs] at hread
    rw [readUnion_succ steps' f r hys, hskip.startsOperation_eq]
    split at hread
    · rename_i hend
      rw [if_pos hend]
      cases hread
      exact ⟨c :: ys, hskip, rfl⟩
    rename_i hend
    rw [if_neg hend]
    split at hread
    · rename_i hopen
      rw [if_pos hopen]
      exact (readInnerSet_follows h f).bind (fun set => h.union f (r.add set.1 set.2)) hxy hread
    · rename_i hopen
      rw [if_neg hopen]
      exact (readSetItem_follows f).bind (fun set => h.union f (r.add set 0)) hskip hread

theorem readSet_succ (steps : Nat) (f : Flags) (cs : List Char) :
    readSet (steps + 1) f cs =
      let negated := (f.skip cs).head? == some '^'
      let start := readSetStart f (if negated then f.skip ((f.skip cs).drop 1) else f.skip cs)
      (readUnion steps f start.1 start.2).bind fun first =>
        (readOperations steps f first.1.set first.1.nesting first.2).bind fun r =>
          (f.negate? negated (f.fold r.1)).map fun set => (set, r.2.1 + 1, r.2.2) := by
  rw [readSet]
  simp only [Option.map_eq_bind]
  rfl

/-- A circumflex at the beginning is one at the beginning of what goes on, and what stands behind it goes on, too. -/
theorem Continues.negated {cs ds : List Char} (f : Flags) (h : Continues cs ds) :
    (ds.head? == some '^') = (cs.head? == some '^') ∧
      Continues (if cs.head? == some '^' then f.skip (cs.drop 1) else cs)
        (if cs.head? == some '^' then f.skip (ds.drop 1) else ds) := by
  by_cases hnot : cs.head? = some '^'
  · obtain ⟨xs, ys, rfl, rfl, hxy⟩ := h.head_cases hnot
    exact ⟨rfl, skip_continues f hxy⟩
  · have hnot' := h.head?_ne (by decide) hnot
    rw [beq_eq_false_iff_ne.2 hnot, beq_eq_false_iff_ne.2 hnot']
    exact ⟨rfl, h⟩

theorem readSet_follows {steps steps' : Nat} (h : SetsFollow steps steps') (f : Flags) {cs ds : List Char}
    (hds : Continues cs ds) {set : CharSet} {depth : Nat} {rest : List Char}
    (hread : readSet (steps + 1) f cs = some (set, depth, rest)) :
    ∃ rest', Continues rest rest' ∧ readSet (steps' + 1) f ds = some (set, depth, rest') := by
  rw [readSet_succ] at hread ⊢
  obtain ⟨hnegated, hinner⟩ := (skip_continues f hds).negated f
  obtain ⟨between', hbetween, hstart⟩ := readSetStart_continues f hinner
  simp only [hnegated, hstart] at hread ⊢
  obtain ⟨⟨first, xs⟩, hfirst, hread⟩ := Option.bind_eq_some_iff.1 hread
  obtain ⟨⟨members, inner, xs⟩, hmembers, hread⟩ := Option.bind_eq_some_iff.1 hread
  obtain ⟨whole, hwhole, heq⟩ := Option.map_eq_some_iff.1 hread
  cases heq
  obtain ⟨ys, hxy, hfirst'⟩ := h.union f _ hbetween hfirst
  obtain ⟨rest', hrest, hmembers'⟩ := h.operations f _ _ hxy hmembers
  refine ⟨rest', hrest, ?_⟩
  rw [hfirst', Option.bind_some, hmembers', Option.bind_some, hwhole]
  rfl

/-- What the sign of an operation makes of two sets. -/
def operate (f : Flags) (sign : Char) (left right : CharSet) : CharSet :=
  if sign = '&' then (f.fold left).intersection (f.fold right)
  else if sign = '-' then (f.fold left).difference (f.fold right)
  else ((f.fold left).union (f.fold right)).difference ((f.fold left).intersection (f.fold right))

theorem readOperations_sign {sign : Char} (hend : sign ≠ ']') (steps : Nat) (f : Flags) (left : CharSet) (d : Nat)
    (second : Char) (rest : List Char) :
    readOperations (steps + 1) f left d (sign :: second :: rest) = (readUnion steps f {} rest).bind fun r =>
      readOperations steps f (operate f sign left r.1.set) (max d r.1.nesting + 1) r.2 := by
  rw [readOperations]
  · rfl
  · exact hend

theorem readOperations_follows {steps steps' : Nat} (h : SetsFollow steps steps') (f : Flags) (left : CharSet) (d : Nat)
    {cs ds : List Char} (hds : Continues cs ds) {set : CharSet} {depth : Nat} {rest : List Char}
    (hread : readOperations (steps + 1) f left d cs = some (set, depth, rest)) :
    ∃ rest', Continues rest rest' ∧ readOperations (steps' + 1) f left d ds = some (set, depth, rest') := by
  rcases cs with _ | ⟨sign, xs⟩
  · cases hread
  obtain ⟨ys, rfl, hxy⟩ := hds.cons_cases
  by_cases hend : sign = ']'
  · subst hend
    cases hread
    exact ⟨ys, hxy, rfl⟩
  rcases xs with _ | ⟨second, xs⟩
  · simp [readOperations, hend] at hread
  obtain ⟨ys, rfl, hrest⟩ := hxy.cons_cases
  rw [readOperations_sign hend] at hread ⊢
  obtain ⟨⟨right, between⟩, hright, hread⟩ := Option.bind_eq_some_iff.1 hread
  obtain ⟨between', hbetween, hright'⟩ := h.union f {} hrest hright
  rw [hright', Option.bind_some]
  exact h.operations f _ _ hbetween hread

/-- What a set is read from does not depend on what stands behind it. -/
theorem setsFollow : ∀ {steps steps' : Nat}, steps ≤ steps' → SetsFollow steps steps'
  | 0, _, _ =>
    { set := fun _ _ _ _ _ _ _ h => nomatch h
      union := fun _ _ _ _ _ _ _ h => nomatch h
      operations := fun _ _ _ _ _ _ _ _ _ h => nomatch h }
  | _ + 1, _ + 1, h =>
    have inner := setsFollow (Nat.le_of_succ_le_succ h)
    { set := fun f _ _ hds _ _ _ => readSet_follows inner f hds
      union := readUnion_follows inner
      operations := fun f left d _ _ hds _ _ _ => readOperations_follows inner f left d hds }

end Regex
end Pattern
end BrokerGuard
