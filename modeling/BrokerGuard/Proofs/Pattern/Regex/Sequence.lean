import BrokerGuard.Proofs.Pattern.Regex.Bracket
/-!
# Sequences and groups — what is read does not depend on what stands behind it

A group that captures is labelled with the number of characters behind its opening parenthesis.  The closing behind the text
adds to that number, the same for all groups, so that what is read from the longer text is what is read from the text alone
with the labels moved (`Regex.shift`).  As for sets, the readers are compared for any two numbers of steps in order
(`SequencesFollow`), and `sequencesFollow` is by induction on the steps.

A group that is open at the end of the text is closed by nothing in it.  It cannot be closed by the closing either, since a
reader that succeeds on the text alone leaves no group open (`readGroup_follows`).
-/
namespace BrokerGuard
namespace Pattern
namespace Regex

/-! ## Labels -/

/-- The expression with the labels of its groups moved by the length of the closing. -/
def shift : Regex → Regex
  | empty => empty
  | chars set unicode => chars set unicode
  | place anchor => place anchor
  | concat first second => concat first.shift second.shift
  | alt first second => alt first.shift second.shift
  | repetition body least most greedy => repetition body.shift least most greedy
  | group label body => group (label.map (· + closing.length)) body.shift

namespace Reading

/-- The reading with the labels of its groups moved. -/
def shift (r : Reading) : Reading := { r with regex := r.regex.shift }

theorem allOf_shift : ∀ rs : List Regex, (allOf rs).shift = allOf (rs.map Regex.shift)
  | [] => rfl
  | [_] => rfl
  | r :: s :: rest => congrArg (Regex.concat r.shift) (allOf_shift (s :: rest))

theorem anyOf_shift : ∀ rs : List Regex, (anyOf rs).shift = anyOf (rs.map Regex.shift)
  | [] => rfl
  | [_] => rfl
  | r :: s :: rest => congrArg (Regex.alt r.shift) (anyOf_shift (s :: rest))

theorem nesting_shift (rs : List Reading) : nesting (rs.map shift) = nesting rs := by
  unfold nesting
  rw [List.length_map, List.foldl_map]
  rfl

theorem ofItems_shift (items : List Reading) : (ofItems items).shift = ofItems (items.map shift) := by
  simp [ofItems, shift, allOf_shift, nesting_shift, List.flatMap_map, Function.comp_def]

theorem ofBranches_shift (branches : List Reading) : (ofBranches branches).shift = ofBranches (branches.map shift) := by
  simp [ofBranches, shift, anyOf_shift, nesting_shift, List.flatMap_map, Function.comp_def]

end Reading

/-! ## Operands and their marks -/

theorem readMarks_follows : ∀ {steps steps' : Nat}, steps ≤ steps' → ∀ (f : Flags) (r : Reading) {cs ds : List Char},
    Continues cs ds → ∀ {r₁ : Reading} {rest : List Char}, readMarks steps f r cs = some (r₁, rest) →
      ∃ rest', Continues rest rest' ∧ readMarks steps' f r.shift ds = some (r₁.shift, rest')
  | 0, _, _, _, _, _, _, _, _, _, h => nomatch h
  | steps + 1, steps' + 1, hsteps, f, r, cs, ds, hds, r₁, rest, h => by
    rw [readMarks_succ] at h ⊢
    obtain ⟨⟨mark, between⟩, hmark, h⟩ := Option.bind_eq_some_iff.1 h
    obtain ⟨between', hbetween, hmark'⟩ := readMark_follows f (skip_continues f hds) hmark
    rw [hmark', Option.bind_some]
    rcases mark with _ | ⟨least, most⟩
    · cases h
      exact ⟨between', hbetween, rfl⟩
    · obtain ⟨after', hafter, hgreed⟩ := readGreed_continues f hbetween
      simp only [hgreed] at h ⊢
      exact readMarks_follows (Nat.le_of_succ_le_succ hsteps) f _ hafter h

/-- What a character outside of sets and escapes stands for. -/
def single? (f : Flags) (c : Char) : Option Regex :=
  if c = '^' then some (.place f.start)
  else if c = '$' then some (.place f.stop)
  else if c = '.' then f.dot?.map fun set => .chars set f.unicode
  else if c = '*' ∨ c = '+' ∨ c = '?' ∨ c = '\x7b' then none
  else some ((Atom.char c).regex f)

theorem readOperand_of_ne {steps : Nat} {f : Flags} {c : Char} (hset : c ≠ '[') (hslash : c ≠ '\\') (rest : List Char) :
    readOperand steps f (c :: rest) = ((single? f c).map fun r => ⟨r, 0, []⟩).map fun r => (r, rest) := by
  by_cases hstart : c = '^'
  · subst hstart
    rfl
  by_cases hstop : c = '$'
  · subst hstop
    rfl
  by_cases hdot : c = '.'
  · subst hdot
    simp [readOperand, single?, Function.comp_def]
  simp only [readOperand, single?, if_neg hstart, if_neg hstop, if_neg hdot]
  split <;> rfl

theorem readOperand_follows {steps steps' : Nat} (hsteps : steps ≤ steps') (f : Flags) :
    Follows (readOperand steps f) (readOperand steps' f) := by
  intro cs ds hds r rest h
  rcases cs with _ | ⟨c, cs⟩
  · cases h
  obtain ⟨ds, rfl, hrest⟩ := hds.cons_cases
  by_cases hset : c = '['
  · subst hset
    obtain ⟨⟨set, depth, rest⟩, hread, heq⟩ := Option.map_eq_some_iff.1 h
    cases heq
    obtain ⟨rest', hcontinues, hread'⟩ := (setsFollow hsteps).set f hrest hread
    exact ⟨rest', hcontinues, Option.map_eq_some_iff.2 ⟨_, hread', rfl⟩⟩
  by_cases hslash : c = '\\'
  · subst hslash
    exact (readEscape_follows f).map (fun atom => (⟨atom.regex f, 0, []⟩ : Reading)) hrest h
  rw [readOperand_of_ne hset hslash] at h ⊢
  exact Follows.keep _ hrest h

theorem Atom.regex_shift (f : Flags) (atom : Atom) : (atom.regex f).shift = atom.regex f := by
  cases atom <;> rfl

theorem single?_shift {f : Flags} {c : Char} {r : Regex} (h : single? f c = some r) : r.shift = r := by
  unfold single? at h
  split at h
  · cases h
    rfl
  split at h
  · cases h
    rfl
  split at h
  · obtain ⟨_, -, rfl⟩ := Option.map_eq_some_iff.1 h
    rfl
  split at h
  · cases h
  · cases h
    rfl

/-- An operand that is no group has no labels. -/
theorem readOperand_shift {steps : Nat} {f : Flags} {cs rest : List Char} {r : Reading}
    (h : readOperand steps f cs = some (r, rest)) : r.shift = r := by
  have leaf {r : Regex} (hr : r.shift = r) : (⟨r, 0, []⟩ : Reading).shift = ⟨r, 0, []⟩ := by
    rw [Reading.shift, hr]
  rcases cs with _ | ⟨c, cs⟩
  · cases h
  by_cases hset : c = '['
  · subst hset
    obtain ⟨_, -, heq⟩ := Option.map_eq_some_iff.1 h
    cases heq
    rfl
  by_cases hslash : c = '\\'
  · subst hslash
    obtain ⟨⟨atom, _⟩, -, heq⟩ := Option.map_eq_some_iff.1 h
    cases heq
    exact leaf (atom.regex_shift f)
  rw [readOperand_of_ne hset hslash] at h
  obtain ⟨_, hread, heq⟩ := Option.map_eq_some_iff.1 h
  obtain ⟨single, hsingle, rfl⟩ := Option.map_eq_some_iff.1 hread
  cases heq
  exact leaf (single?_shift hsingle)

/-! ## Groups and sequences -/

/-- What the readers of alternatives and sequences read in so many steps, they read from a text that goes on after it in so
many others, with the labels moved. -/
structure SequencesFollow (steps steps' : Nat) : Prop where
  alternatives : ∀ (f : Flags) (earlier : List Reading) ⦃cs ds : List Char⦄, Continues cs ds →
    ∀ ⦃r : Reading⦄ ⦃rest : List Char⦄, readAlternatives steps f earlier cs = some (r, rest) →
      ∃ rest', Continues rest rest' ∧ readAlternatives steps' f (earlier.map Reading.shift) ds = some (r.shift, rest')
  sequence : ∀ (f : Flags) (items : List Reading) ⦃cs ds : List Char⦄, Continues cs ds →
    ∀ ⦃r : Reading⦄ ⦃after : Flags⦄ ⦃rest : List Char⦄, readSequence steps f items cs = some (r, after, rest) →
      ∃ rest', Continues rest rest' ∧ readSequence steps' f (items.map Reading.shift) ds = some (r.shift, after, rest')

/-- Reads a group, after what it begins with. -/
def readGroup (steps : Nat) (inner : Flags) (captures : Bool) (names : List (List Char)) (cs : List Char) :
    Option (Reading × List Char) :=
  (readAlternatives steps inner [] cs).bind fun body =>
    match body.2 with
    | ')' :: rest => some (body.1.grouped (if captures then some cs.length else none) names, rest)
    | _ => none

theorem readSequence_cons {f : Flags} {cs rest : List Char} {c : Char} (hcs : f.skip cs = c :: rest) (steps : Nat)
    (items : List Reading) :
    readSequence (steps + 1) f items cs =
      if c = '|' ∨ c = ')' then some (.ofItems items.reverse, f, c :: rest)
      else if c = '(' then (readOpening f rest).bind fun opening =>
        match opening.1 with
        | .group inner captures names => (readGroup steps inner captures names opening.2).bind fun r =>
          (readMarks steps f r.1 r.2).bind fun r => readSequence steps f (r.1 :: items) r.2
        | .flags inner => readSequence steps inner (⟨.empty, 0, []⟩ :: items) opening.2
      else (readOperand steps f (c :: rest)).bind fun r =>
        (readMarks steps f r.1 r.2).bind fun r => readSequence steps f (r.1 :: items) r.2 := by
  rw [readSequence, hcs]
  by_cases hbar : c = '|'
  · subst hbar
    simp
  by_cases hclose : c = ')'
  · subst hclose
    simp
  rw [if_neg (not_or.2 ⟨hbar, hclose⟩)]
  by_cases hopen : c = '('
  · subst hopen
    rw [if_pos rfl]
    refine congrArg (readOpening f rest).bind (funext fun opening => ?_)
    obtain ⟨opening, between⟩ := opening
    cases opening with
    | group inner captures names =>
      simp only [readGroup]
      cases readAlternatives steps inner [] between with
      | none => rfl
      | some body =>
        obtain ⟨body, after⟩ := body
        rcases after with _ | ⟨d, after⟩
        · rfl
        by_cases hend : d = ')'
        · subst hend
          rfl
        · simp [hend]
    | flags => rfl
  rw [if_neg hopen]
  split
  · rename_i heq
    cases heq
  · rename_i heq
    cases heq
    exact absurd rfl hbar
  · rename_i heq
    cases heq
    exact absurd rfl hclose
  · rename_i heq
    cases heq
    exact absurd rfl hopen
  · rfl

theorem readSequence_nil {f : Flags} {cs : List Char} (hcs : f.skip cs = []) (steps : Nat) (items : List Reading) :
    readSequence (steps + 1) f items cs = some (.ofItems items.reverse, f, []) := by
  rw [readSequence, hcs]

theorem readAlternatives_succ (steps : Nat) (f : Flags) (earlier : List Reading) (cs : List Char) :
    readAlternatives (steps + 1) f earlier cs = (readSequence steps f [] cs).bind fun s =>
      match s.2.2 with
      | '|' :: rest => readAlternatives steps s.2.1 (s.1 :: earlier) rest
      | rest => some (.ofBranches (s.1 :: earlier).reverse, rest) := by
  rw [readAlternatives]
  rfl

theorem skip_nil (f : Flags) : f.skip [] = [] := by
  unfold Flags.skip
  split <;> rfl

/-- Nothing is left of a text that is empty. -/
theorem readAlternatives_nil {steps : Nat} {f : Flags} {earlier : List Reading} {r : Reading} {rest : List Char}
    (h : readAlternatives steps f earlier [] = some (r, rest)) : rest = [] := by
  rcases steps with _ | _ | steps
  · cases h
  · cases h
  · rw [readAlternatives_succ, readSequence_nil (skip_nil f)] at h
    cases h
    rfl

theorem readGroup_follows {steps steps' : Nat} (h : SequencesFollow steps steps') (inner : Flags) (captures : Bool)
    (names : List (List Char)) {cs ds : List Char} (hds : Continues cs ds) {r : Reading} {rest : List Char}
    (hread : readGroup steps inner captures names cs = some (r, rest)) :
    ∃ rest', Continues rest rest' ∧ readGroup steps' inner captures names ds = some (r.shift, rest') := by
  obtain ⟨⟨body, after⟩, hbody, hread⟩ := Option.bind_eq_some_iff.1 hread
  rcases after with _ | ⟨c, after⟩
  · cases hread
  by_cases hclose : c = ')'
  · subst hclose
    cases hread
    obtain ⟨after', hafter, hbody'⟩ := h.alternatives inner [] hds hbody
    obtain ⟨rest', rfl, hrest⟩ := hafter.cons_cases
    cases hds with
    -- nothing is left of an empty text, so no parenthesis closes the group
    | taken => cases readAlternatives_nil hbody
    | behind =>
      refine ⟨rest', hrest, ?_⟩
      rw [List.map_nil] at hbody'
      rw [readGroup, hbody', Option.bind_some]
      cases captures with
      | false => rfl
      | true =>
        rw [List.length_append]
        rfl
  · simp [hclose] at hread

theorem readMarks_sequence_follows {steps steps' : Nat} (h : SequencesFollow steps steps') (hsteps : steps ≤ steps')
    (f : Flags) (items : List Reading) {cs ds : List Char} (hds : Continues cs ds) {operand r : Reading}
    {after : Flags} {rest : List Char}
    (hread : (readMarks steps f operand cs).bind (fun r => readSequence steps f (r.1 :: items) r.2) = some (r, after, rest)) :
    ∃ rest', Continues rest rest' ∧
      (readMarks steps' f operand.shift ds).bind (fun r => readSequence steps' f (r.1 :: items.map Reading.shift) r.2) =
        some (r.shift, after, rest') := by
  obtain ⟨⟨item, between⟩, hitem, hread⟩ := Option.bind_eq_some_iff.1 hread
  obtain ⟨between', hbetween, hitem'⟩ := readMarks_follows hsteps f operand hds hitem
  rw [hitem', Option.bind_some]
  exact h.sequence f (item :: items) hbetween hread

theorem readSequence_follows {steps steps' : Nat} (h : SequencesFollow steps steps') (hsteps : steps ≤ steps') (f : Flags)
    (items : List Reading) {cs ds : List Char} (hds : Continues cs ds) {r : Reading} {after : Flags} {rest : List Char}
    (hread : readSequence (steps + 1) f items cs = some (r, after, rest)) :
    ∃ rest', Continues rest rest' ∧
      readSequence (steps' + 1) f (items.map Reading.shift) ds = some (r.shift, after, rest') := by
  have hskip := skip_continues f hds
  cases hcs : f.skip cs with
  | nil =>
    rw [hcs] at hskip
    rw [readSequence_nil hcs] at hread
    cases hread
    rw [Reading.ofItems_shift, List.map_reverse]
    generalize hys : f.skip ds = ys at hskip
    -- what ends at the end of the text also ends at a closing parenthesis
    cases hskip with
    | behind =>
      refine ⟨closing, .behind [], ?_⟩
      rw [readSequence_cons hys]
      rfl
    | taken => exact ⟨[], .taken, readSequence_nil hys steps' _⟩
  | cons c xs =>
    rw [hcs] at hskip
    obtain ⟨ys, hys, hxy⟩ := hskip.cons_cases
    rw [hys] at hskip
    rw [readSequence_cons hcs] at hread
    rw [readSequence_cons hys]
    split at hread
    · rename_i hend
      rw [if_pos hend]
      cases hread
      refine ⟨c :: ys, hskip, ?_⟩
      rw [Reading.ofItems_shift, List.map_reverse]
    rename_i hend
    rw [if_neg hend]
    split at hread
    · rename_i hopen
      rw [if_pos hopen]
      obtain ⟨⟨opening, between⟩, hopening, hread⟩ := Option.bind_eq_some_iff.1 hread
      obtain ⟨between', hbetween, hopening'⟩ := readOpening_follows f hxy hopening
      rw [hopening', Option.bind_some]
      cases opening with
      | flags inner => exact h.sequence inner (⟨.empty, 0, []⟩ :: items) hbetween hread
      | group inner captures names =>
        obtain ⟨⟨body, xs⟩, hbody, hread⟩ := Option.bind_eq_some_iff.1 hread
        obtain ⟨ys, hxy, hbody'⟩ := readGroup_follows h inner captures names hbetween hbody
        simp only [hbody', Option.bind_some]
        exact readMarks_sequence_follows h hsteps f items hxy hread
    · rename_i hopen
      rw [if_neg hopen]
      obtain ⟨⟨operand, xs⟩, hoperand, hread⟩ := Option.bind_eq_some_iff.1 hread
      obtain ⟨ys, hxy, hoperand'⟩ := readOperand_follows hsteps f hskip hoperand
      rw [hoperand', Option.bind_some, ← readOperand_shift hoperand]
      exact readMarks_sequence_follows h hsteps f items hxy hread

theorem readAlternatives_follows {steps steps' : Nat} (h : SequencesFollow steps steps') (f : Flags)
    (earlier : List Reading) {cs ds : List Char} (hds : Continues cs ds) {r : Reading} {rest : List Char}
    (hread : readAlternatives (steps + 1) f earlier cs = some (r, rest)) :
    ∃ rest', Continues rest rest' ∧
      readAlternatives (steps' + 1) f (earlier.map Reading.shift) ds = some (r.shift, rest') := by
  rw [readAlternatives_succ] at hread ⊢
  obtain ⟨⟨branch, after, between⟩, hbranch, hread⟩ := Option.bind_eq_some_iff.1 hread
  obtain ⟨between', hbetween, hbranch'⟩ := h.sequence f [] hds hbranch
  rw [List.map_nil] at hbranch'
  rw [hbranch', Option.bind_some]
  by_cases hbar : between.head? = some '|'
  · obtain ⟨xs, ys, rfl, rfl, hxy⟩ := hbetween.head_cases hbar
    exact h.alternatives after (branch :: earlier) hxy hread
  · have hbar' := hbetween.head?_ne (by decide) hbar
    split at hread
    · rename_i heq
      exact absurd (congrArg List.head? heq) hbar
    cases hread
    refine ⟨between', hbetween, ?_⟩
    split
    · rename_i heq
      exact absurd (congrArg List.head? heq) hbar'
    · rw [Reading.ofBranches_shift, List.map_reverse]
      rfl

theorem sequencesFollow : ∀ {steps steps' : Nat}, steps ≤ steps' → SequencesFollow steps steps'
  | 0, _, _ =>
    { alternatives := fun _ _ _ _ _ _ _ h => nomatch h
      sequence := fun _ _ _ _ _ _ _ _ h => nomatch h }
  | _ + 1, _ + 1, h =>
    have inner := sequencesFollow (Nat.le_of_succ_le_succ h)
    { alternatives := fun f earlier _ _ hds _ _ => readAlternatives_follows inner f earlier hds
      sequence := fun f items _ _ hds _ _ _ => readSequence_follows inner (Nat.le_of_succ_le_succ h) f items hds }

end Regex
end Pattern
end BrokerGuard
