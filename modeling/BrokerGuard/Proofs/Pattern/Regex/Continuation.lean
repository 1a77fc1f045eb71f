import BrokerGuard.Pattern.Regex.Parser
/-!
# Continuations — what is read does not depend on what stands behind it

A text that is put into a group between anchors has a closing parenthesis and a dollar sign behind it.  The readers of parts of
an expression do not notice: what they read from the text, they read from the longer text, too, and leave what they left, with
the closing behind it (`Follows`).  There is one exception.  Where blanks and comments may stand between the parts, a comment
at the end of the text takes the closing away (`Continues`).

The closing helps no reader either: a reader that stops at the end of a text stops, or fails, at a closing parenthesis, because
no part begins with one (`Continues.head?_ne`).
-/
namespace BrokerGuard
namespace Pattern
namespace Regex

open Text (CharSet)

/-- What stands behind a text in its anchored form. -/
def closing : List Char := [')', '$']

/-- The second text goes on after the first: the closing stands behind it, or a comment in which the first ends has taken the
closing away. -/
inductive Continues : List Char → List Char → Prop
  | behind (cs : List Char) : Continues cs (cs ++ closing)
  | taken : Continues [] []

theorem Continues.cons_cases {c : Char} {cs ds : List Char} (h : Continues (c :: cs) ds) :
    ∃ ds', ds = c :: ds' ∧ Continues cs ds' := by
  cases h
  exact ⟨cs ++ closing, rfl, .behind cs⟩

theorem Continues.head_cases {c : Char} {cs ds : List Char} (h : Continues cs ds) (hc : cs.head? = some c) :
    ∃ cs' ds', cs = c :: cs' ∧ ds = c :: ds' ∧ Continues cs' ds' := by
  obtain ⟨cs', rfl⟩ := List.head?_eq_some_iff.1 hc
  obtain ⟨ds', rfl, hrest⟩ := h.cons_cases
  exact ⟨cs', ds', rfl, rfl, hrest⟩

theorem Continues.head?_eq {c : Char} {cs ds : List Char} (h : Continues cs ds) (hc : cs.head? = some c) :
    ds.head? = some c := by
  obtain ⟨_, _, -, rfl, -⟩ := h.head_cases hc
  rfl

/-- What goes on after a text begins with a closing parenthesis or as the text does. -/
theorem Continues.head?_ne {c : Char} (hc : c ≠ ')') {cs ds : List Char} (h : Continues cs ds) (hne : cs.head? ≠ some c) :
    ds.head? ≠ some c := by
  cases h with
  | taken => exact hne
  | behind =>
    cases cs with
    -- the closing parenthesis comes first
    | nil => exact fun heq => hc (Option.some.inj heq).symm
    | cons => exact hne

/-! ## What is skipped -/

theorem dropComments_continues : ∀ {cs ds : List Char} (inComment : Bool), Continues cs ds →
    Continues (dropComments inComment cs) (dropComments inComment ds)
  | [], _, inComment, h => by
    cases h with
    | behind =>
      cases inComment with
      | false => exact .behind []
      | true => exact .taken
    | taken => exact .taken
  | c :: cs, ds, inComment, h => by
    obtain ⟨ds, rfl, hrest⟩ := h.cons_cases
    unfold dropComments
    split
    · exact dropComments_continues _ hrest
    · split
      · exact dropComments_continues _ hrest
      · split
        · exact dropComments_continues _ hrest
        · exact h

theorem skip_continues (f : Flags) {cs ds : List Char} (h : Continues cs ds) : Continues (f.skip cs) (f.skip ds) := by
  unfold Flags.skip
  split
  · exact dropComments_continues false h
  · exact h

/-! ## Readers -/

/-- What the one reader reads from a text, the other reads from a text that goes on after it. -/
def Follows {α : Type} (read read' : List Char → Option (α × List Char)) : Prop :=
  ∀ ⦃cs ds : List Char⦄, Continues cs ds → ∀ ⦃x : α⦄ ⦃rest : List Char⦄, read cs = some (x, rest) →
    ∃ rest', Continues rest rest' ∧ read' ds = some (x, rest')

/-- One reader after another: what the second reads may depend on what the first has read. -/
theorem Follows.bind {α β : Type} {read read' : List Char → Option (α × List Char)}
    {next next' : α → List Char → Option (β × List Char)} (hread : Follows read read')
    (hnext : ∀ x, Follows (next x) (next' x)) :
    Follows (fun cs => (read cs).bind fun r => next r.1 r.2) (fun ds => (read' ds).bind fun r => next' r.1 r.2) := by
  intro cs ds hds y rest h
  obtain ⟨⟨x, between⟩, hx, hy⟩ := Option.bind_eq_some_iff.1 h
  obtain ⟨between', hbetween, hx'⟩ := hread hds hx
  obtain ⟨rest', hrest, hy'⟩ := hnext x hbetween hy
  exact ⟨rest', hrest, Option.bind_eq_some_iff.2 ⟨(x, between'), hx', hy'⟩⟩

/-- A reader that reads nothing. -/
theorem Follows.keep {α : Type} (x : Option α) :
    Follows (fun cs => x.map fun y => (y, cs)) (fun ds => x.map fun y => (y, ds)) := by
  intro cs ds hds y rest h
  obtain ⟨z, rfl, heq⟩ := Option.map_eq_some_iff.1 h
  cases heq
  exact ⟨ds, hds, rfl⟩

theorem Follows.map {α β : Type} {read read' : List Char → Option (α × List Char)} (hread : Follows read read') (g : α → β) :
    Follows (fun cs => (read cs).map fun r => (g r.1, r.2)) (fun ds => (read' ds).map fun r => (g r.1, r.2)) := by
  intro cs ds hds y rest h
  obtain ⟨⟨x, rest⟩, hx, heq⟩ := Option.map_eq_some_iff.1 h
  cases heq
  obtain ⟨rest', hrest, hx'⟩ := hread hds hx
  exact ⟨rest', hrest, Option.map_eq_some_iff.2 ⟨(x, rest'), hx', rfl⟩⟩

theorem readBraced_follows (verbose : Bool) : ∀ inComment : Bool,
    Follows (readBraced verbose inComment) (readBraced verbose inComment) := by
  intro inComment cs
  induction cs generalizing inComment with
  | nil => exact fun _ _ _ _ h => nomatch h
  | cons c cs ih =>
    intro ds hds content rest h
    obtain ⟨ds, rfl, hrest⟩ := hds.cons_cases
    unfold readBraced at h ⊢
    by_cases hcomment : inComment = true
    · rw [if_pos hcomment] at h ⊢
      exact ih _ hrest h
    rw [if_neg hcomment] at h ⊢
    by_cases hblank : (verbose && Text.isWhiteSpace c) = true
    · rw [if_pos hblank] at h ⊢
      exact ih _ hrest h
    rw [if_neg hblank] at h ⊢
    by_cases hsharp : (verbose && c == '#') = true
    · rw [if_pos hsharp] at h ⊢
      exact ih _ hrest h
    rw [if_neg hsharp] at h ⊢
    by_cases hend : c = '\x7d'
    · rw [if_pos hend] at h ⊢
      cases h
      exact ⟨ds, hrest, rfl⟩
    rw [if_neg hend] at h ⊢
    obtain ⟨⟨inner, rest⟩, hinner, heq⟩ := Option.map_eq_some_iff.1 h
    cases heq
    obtain ⟨rest', hcontinues, hread⟩ := ih _ hrest hinner
    exact ⟨rest', hcontinues, by rw [hread]; rfl⟩

/-! ## Escapes -/

theorem readHexDigits_follows (f : Flags) : ∀ count : Nat, Follows (readHexDigits f count) (readHexDigits f count)
  | 0, _, ds, hds, _, _, h => by
    cases h
    exact ⟨ds, hds, rfl⟩
  | count + 1, [], _, _, _, _, h => nomatch h
  | count + 1, c :: cs, ds, hds, digits, rest, h => by
    obtain ⟨ds, rfl, hrest⟩ := hds.cons_cases
    obtain ⟨⟨inner, rest⟩, hinner, heq⟩ := Option.map_eq_some_iff.1 h
    cases heq
    obtain ⟨rest', hcontinues, hread⟩ := readHexDigits_follows f count (skip_continues f hrest) hinner
    exact ⟨rest', hcontinues, by rw [readHexDigits, hread]; rfl⟩

theorem readHex_brace {f : Flags} {cs rest : List Char} (hcs : f.skip cs = '\x7b' :: rest) (count : Nat) :
    readHex f count cs = (readBraced f.verbose false rest).bind fun r =>
      ((hexValue? r.1).bind scalar?).map fun c => (c, f.skip r.2) := by
  unfold readHex
  rw [hcs]
  refine congrArg (readBraced f.verbose false rest).bind (funext fun r => ?_)
  cases hc : (hexValue? r.1).bind scalar? <;> simp [hc]

/-- The character with a number of so many digits. -/
def numbered? (f : Flags) (count : Nat) (digits : List Char) : Option Char :=
  ((hexValue? digits).bind scalar?).bind fun c => if count = 2 ∧ !f.unicode ∧ 128 ≤ c.toNat then none else some c

theorem readHex_of_head?_ne {f : Flags} {cs : List Char} (hne : (f.skip cs).head? ≠ some '\x7b') (count : Nat) :
    readHex f count cs = (readHexDigits f count (f.skip cs)).bind fun r =>
      (numbered? f count r.1).map fun c => (c, r.2) := by
  unfold readHex
  split
  · rename_i heq
    exact absurd (congrArg List.head? heq) hne
  · refine congrArg (readHexDigits f count (f.skip cs)).bind (funext fun r => ?_)
    unfold numbered?
    cases hc : (hexValue? r.1).bind scalar? with
    | none => simp [hc]
    | some c =>
      simp only [hc, Option.bind_eq_bind, Option.bind_some]
      split <;> rfl

theorem readHex_follows (f : Flags) (count : Nat) : Follows (readHex f count) (readHex f count) := by
  intro cs ds hds c rest h
  have hskip := skip_continues f hds
  by_cases hbrace : (f.skip cs).head? = some '\x7b'
  · obtain ⟨xs, ys, hxs, hys, hxy⟩ := hskip.head_cases hbrace
    rw [readHex_brace hxs] at h
    rw [readHex_brace hys]
    exact (readBraced_follows f.verbose false).bind
      (fun digits _ _ hrest => Follows.keep ((hexValue? digits).bind scalar?) (skip_continues f hrest)) hxy h
  · rw [readHex_of_head?_ne hbrace] at h
    rw [readHex_of_head?_ne (hskip.head?_ne (by decide) hbrace)]
    exact (readHexDigits_follows f count).bind (fun digits => .keep (numbered? f count digits)) hskip h

/-- The members of a property, before the flags are asked. -/
def readMembers (f : Flags) : List Char → Option ((CharSet × Bool) × List Char)
  | [] => none
  | c :: rest =>
    if c = '\x7b' then (readBraced f.verbose false rest).bind fun r => (bracedSet? r.1).map fun set => (set, r.2)
    else if c = '\\' then none
    else ((propertySet? [c]).map fun set => (set, false)).map fun set => (set, rest)

theorem readMembers_cons (f : Flags) (c : Char) (rest : List Char) :
    readMembers f (c :: rest) =
      if c = '\x7b' then (readBraced f.verbose false rest).bind fun r => (bracedSet? r.1).map fun set => (set, r.2)
      else if c = '\\' then none
      else ((propertySet? [c]).map fun set => (set, false)).map fun set => (set, rest) := rfl

theorem readMembers_follows (f : Flags) : Follows (readMembers f) (readMembers f) := by
  intro cs ds hds set rest h
  rcases cs with _ | ⟨c, xs⟩
  · cases h
  obtain ⟨ys, rfl, hxy⟩ := hds.cons_cases
  rw [readMembers_cons] at h ⊢
  by_cases hbrace : c = '\x7b'
  · rw [if_pos hbrace] at h ⊢
    exact (readBraced_follows f.verbose false).bind (fun content => .keep (bracedSet? content)) hxy h
  rw [if_neg hbrace] at h ⊢
  by_cases hslash : c = '\\'
  · rw [if_pos hslash] at h
    cases h
  · rw [if_neg hslash] at h ⊢
    exact Follows.keep _ hxy h

theorem readProperty_eq (f : Flags) (negated : Bool) (cs : List Char) :
    readProperty f negated cs = (readMembers f (f.skip cs)).bind fun r =>
      (if f.unicode then f.negate? (negated != r.1.2) (f.fold r.1.1) else none).map fun set => (set, r.2) := by
  unfold readProperty
  -- what follows the cases is shared by all of them and stands ahead of them, so every case is evaluated to its end
  rcases f.skip cs with _ | ⟨c, rest⟩
  · rfl
  rw [readMembers_cons]
  by_cases hbrace : c = '\x7b'
  · subst hbrace
    rw [if_pos rfl]
    cases hread : readBraced f.verbose false rest with
    | none => simp [hread]
    | some r =>
      cases hset : bracedSet? r.1 with
      | none => simp [hread, hset]
      | some set =>
        cases f.unicode <;> cases hneg : f.negate? (negated != set.2) (f.fold set.1) <;> simp [hread, hset, hneg]
  rw [if_neg hbrace]
  by_cases hslash : c = '\\'
  · subst hslash
    simp
  rw [if_neg hslash]
  cases hset : propertySet? [c] with
  | none => simp [hset]
  | some set => cases f.unicode <;> cases hneg : f.negate? negated (f.fold set) <;> simp [hset, hneg]

theorem readProperty_follows (f : Flags) (negated : Bool) : Follows (readProperty f negated) (readProperty f negated) := by
  intro cs ds hds set rest h
  rw [readProperty_eq] at h ⊢
  exact (readMembers_follows f).bind
    (fun set => .keep (if f.unicode then f.negate? (negated != set.2) (f.fold set.1) else none)) (skip_continues f hds) h

theorem readEdge_of_head?_ne {f : Flags} {cs : List Char} (hne : cs.head? ≠ some '\x7b') :
    readEdge f cs = some (.edge .either f.unicode, cs) := by
  unfold readEdge
  split
  · exact absurd rfl hne
  · rfl

theorem readEdge_brace {f : Flags} {cs xs : List Char} {c : Char} (hcs : f.skip cs = c :: xs) :
    readEdge f ('\x7b' :: cs) =
      if c.isAlpha || c == '-' then (readBraced f.verbose false cs).bind fun r =>
        ((edgeName? (String.ofList r.1)).map fun kind => .edge kind f.unicode).map fun edge => (edge, r.2)
      else some (.edge .either f.unicode, '\x7b' :: cs) := by
  simp only [readEdge, hcs]
  split
  · refine congrArg (readBraced f.verbose false cs).bind (funext fun r => ?_)
    cases edgeName? (String.ofList r.1) <;> rfl
  · rfl

theorem readEdge_follows (f : Flags) : Follows (readEdge f) (readEdge f) := by
  intro cs ds hds edge rest h
  by_cases hbrace : cs.head? = some '\x7b'
  · obtain ⟨cs, ds, rfl, rfl, hrest⟩ := hds.head_cases hbrace
    have hskip := skip_continues f hrest
    cases hcs : f.skip cs with
    | nil =>
      simp only [readEdge, hcs] at h
      cases h
    | cons c xs =>
      rw [hcs] at hskip
      obtain ⟨ys, hys, -⟩ := hskip.cons_cases
      rw [readEdge_brace hcs] at h
      rw [readEdge_brace hys]
      split at h
      · rename_i hname
        rw [if_pos hname]
        exact (readBraced_follows f.verbose false).bind (fun name =>
          .keep ((edgeName? (String.ofList name)).map fun kind => Anchor.edge kind f.unicode)) hrest h
      · rename_i hname
        rw [if_neg hname]
        cases h
        exact ⟨_, hds, rfl⟩
  · rw [readEdge_of_head?_ne hbrace] at h
    rw [readEdge_of_head?_ne (hds.head?_ne (by decide) hbrace)]
    cases h
    exact ⟨ds, hds, rfl⟩

/-- What a letter or sign stands for that reads nothing more. -/
def escaped? (f : Flags) (c : Char) : Option Atom :=
  match placeLetter? f c, setLetter? f c, controlLetter? c with
  | some anchor, _, _ => some (.place anchor)
  | none, some set, _ => some (.set set)
  | none, none, some control => some (.char control)
  | none, none, none => if isEscapable c then some (.char c) else none

theorem readEscape_of_ne {f : Flags} {c : Char} (hx : c ≠ 'x') (hu : c ≠ 'u') (hU : c ≠ 'U') (hp : c ≠ 'p') (hP : c ≠ 'P')
    (hb : c ≠ 'b') (rest : List Char) : readEscape f (c :: rest) = (escaped? f c).map fun atom => (atom, rest) := by
  rw [readEscape]
  · unfold escaped?
    split <;> simp [*]
  all_goals assumption

theorem readEscape_follows (f : Flags) : Follows (readEscape f) (readEscape f) := by
  intro cs ds hds atom rest h
  rcases cs with _ | ⟨c, cs⟩
  · cases h
  obtain ⟨ds, rfl, hrest⟩ := hds.cons_cases
  by_cases hx : c = 'x'
  · subst hx
    exact (readHex_follows f 2).map Atom.char hrest h
  by_cases hu : c = 'u'
  · subst hu
    exact (readHex_follows f 4).map Atom.char hrest h
  by_cases hU : c = 'U'
  · subst hU
    exact (readHex_follows f 8).map Atom.char hrest h
  by_cases hp : c = 'p'
  · subst hp
    exact (readProperty_follows f false).map Atom.set hrest h
  by_cases hP : c = 'P'
  · subst hP
    exact (readProperty_follows f true).map Atom.set hrest h
  by_cases hb : c = 'b'
  · subst hb
    exact (readEdge_follows f).map Atom.place hrest h
  rw [readEscape_of_ne hx hu hU hp hP hb] at h ⊢
  exact Follows.keep _ hrest h

/-! ## Repetition marks -/

theorem readGreed_continues (f : Flags) {cs ds : List Char} (h : Continues cs ds) :
    ∃ rest', Continues (readGreed f cs).2 rest' ∧ readGreed f ds = ((readGreed f cs).1, rest') := by
  have plain {xs : List Char} (hxs : xs.head? ≠ some '?') : readGreed f xs = (!f.swapGreed, xs) := by
    unfold readGreed
    split
    · exact absurd rfl hxs
    · rfl
  by_cases hmark : cs.head? = some '?'
  · obtain ⟨cs, ds, rfl, rfl, hrest⟩ := h.head_cases hmark
    exact ⟨ds, hrest, rfl⟩
  · rw [plain hmark, plain (h.head?_ne (by decide) hmark)]
    exact ⟨ds, h, rfl⟩

/-- The bounds of a mark that is one sign. -/
def signBounds? (c : Char) : Option (Nat × Option Nat) :=
  if c = '*' then some (0, none)
  else if c = '+' then some (1, none)
  else if c = '?' then some (0, some 1)
  else none

/-- Reads one repetition mark, if there is one: the least and the greatest number of rounds. -/
def readMark (f : Flags) : List Char → Option (Option (Nat × Option Nat) × List Char)
  | [] => some (none, [])
  | c :: rest =>
    match signBounds? c with
    | some bounds => some (some bounds, rest)
    | none =>
      if c = '\x7b' then
        (readBraced f.verbose false rest).bind fun r => ((bounds? r.1).map some).map fun mark => (mark, f.skip r.2)
      else some (none, c :: rest)

theorem readMarks_succ (steps : Nat) (f : Flags) (r : Reading) (cs : List Char) :
    readMarks (steps + 1) f r cs = (readMark f (f.skip cs)).bind fun mark =>
      match mark.1 with
      | some (least, most) =>
        readMarks steps f (r.repeated least most (readGreed f mark.2).1) (readGreed f mark.2).2
      | none => some (r, mark.2) := by
  rw [readMarks]
  rcases f.skip cs with _ | ⟨c, rest⟩
  · rfl
  by_cases hstar : c = '*'
  · subst hstar
    rfl
  by_cases hplus : c = '+'
  · subst hplus
    rfl
  by_cases hoption : c = '?'
  · subst hoption
    rfl
  by_cases hbrace : c = '\x7b'
  · subst hbrace
    cases hread : readBraced f.verbose false rest with
    | none => simp [readMark, signBounds?, hread]
    | some content => cases hbounds : bounds? content.1 <;> simp [readMark, signBounds?, hread, hbounds]
  · simp [readMark, signBounds?, hstar, hplus, hoption, hbrace]

theorem readMark_follows (f : Flags) : Follows (readMark f) (readMark f) := by
  intro cs ds hds mark rest h
  rcases cs with _ | ⟨c, xs⟩
  · cases h
    cases hds with
    | behind => exact ⟨closing, .behind [], rfl⟩
    | taken => exact ⟨[], .taken, rfl⟩
  obtain ⟨ys, rfl, hxy⟩ := hds.cons_cases
  simp only [readMark] at h ⊢
  cases hsign : signBounds? c with
  | some bounds =>
    rw [hsign] at h
    cases h
    exact ⟨ys, hxy, rfl⟩
  | none =>
    rw [hsign] at h
    by_cases hbrace : c = '\x7b'
    · simp only [if_pos hbrace] at h ⊢
      exact (readBraced_follows f.verbose false).bind
        (fun content _ _ hrest => Follows.keep ((bounds? content).map some) (skip_continues f hrest)) hxy h
    · simp only [if_neg hbrace] at h ⊢
      cases h
      exact ⟨c :: ys, hds, rfl⟩

/-! ## Openings -/

/-- Where a text is left in the middle, a text behind it changes nothing of what was taken. -/
theorem takeWhile_append_of_stop {p : Char → Bool} {cs rest : List Char} {c : Char}
    (hstop : cs.drop (cs.takeWhile p).length = c :: rest) (ds : List Char) :
    (cs ++ ds).takeWhile p = cs.takeWhile p ∧ (cs ++ ds).drop (cs.takeWhile p).length = c :: (rest ++ ds) := by
  have hlength : (cs.takeWhile p).length < cs.length := by
    have hleft := congrArg List.length hstop
    rw [List.length_drop, List.length_cons] at hleft
    omega
  refine ⟨?_, ?_⟩
  · rw [List.takeWhile_append, if_neg (Nat.ne_of_lt hlength)]
  · rw [List.drop_append_of_le_length (Nat.le_of_lt hlength), hstop]
    rfl

theorem readName_follows (f : Flags) : Follows (readName f) (readName f) := by
  intro cs ds hds opening rest h
  cases hds with
  | taken => cases h
  | behind =>
    unfold readName at h ⊢
    cases hstop : cs.drop (cs.takeWhile (· != '>')).length with
    | nil =>
      simp only [hstop] at h
      cases h
    | cons c after =>
      simp only [hstop] at h
      obtain ⟨hname, hafter⟩ := takeWhile_append_of_stop hstop closing
      simp only [hname, hafter]
      split at h
      · rename_i hsound
        cases h
        exact ⟨rest ++ closing, .behind rest, if_pos hsound⟩
      · cases h

theorem readFlags_follows (f : Flags) : Follows (readFlags f) (readFlags f) := by
  intro cs ds hds opening rest h
  cases hds with
  | taken => cases h
  | behind =>
    unfold readFlags at h ⊢
    cases hstop : cs.drop (cs.takeWhile fun c => c != ':' && c != ')').length with
    | nil =>
      simp only [hstop] at h
      split at h <;> cases h
    | cons c after =>
      obtain ⟨hletters, hafter⟩ := takeWhile_append_of_stop hstop closing
      simp only [hstop] at h
      simp only [hletters, hafter]
      split at h
      · cases h
      rename_i hsound
      rw [if_neg hsound]
      by_cases hcolon : c = ':'
      · subst hcolon
        cases h
        exact ⟨_, .behind _, rfl⟩
      · simp only at h ⊢
        split at h
        · cases h
        · rename_i hempty
          cases h
          exact ⟨_, .behind _, if_neg hempty⟩

/-- Reads what follows an opening parenthesis and a question mark. -/
def readSpecial (f : Flags) : List Char → Option (Opening × List Char)
  | '<' :: rest => if rest.head? = some '=' ∨ rest.head? = some '!' then none else readName f rest
  | 'P' :: '<' :: rest => readName f rest
  | rest => readFlags f rest

theorem readSpecial_letter {f : Flags} {cs : List Char} (hne : cs.head? ≠ some '<') :
    readSpecial f ('P' :: cs) = readFlags f ('P' :: cs) := by
  unfold readSpecial
  split <;> simp_all

theorem readSpecial_plain {f : Flags} {cs : List Char} (hangle : cs.head? ≠ some '<') (hletter : cs.head? ≠ some 'P') :
    readSpecial f cs = readFlags f cs := by
  unfold readSpecial
  split <;> simp_all

theorem readSpecial_follows (f : Flags) : Follows (readSpecial f) (readSpecial f) := by
  intro cs ds hds opening rest h
  by_cases hangle : cs.head? = some '<'
  · obtain ⟨xs, ys, rfl, rfl, hxy⟩ := hds.head_cases hangle
    simp only [readSpecial] at h ⊢
    split at h
    · cases h
    · rename_i haround
      obtain ⟨hbehind, hnot⟩ := not_or.1 haround
      rw [if_neg (not_or.2 ⟨hxy.head?_ne (by decide) hbehind, hxy.head?_ne (by decide) hnot⟩)]
      exact readName_follows f hxy h
  by_cases hletter : cs.head? = some 'P'
  · obtain ⟨xs, ys, rfl, rfl, hxy⟩ := hds.head_cases hletter
    by_cases hname : xs.head? = some '<'
    · obtain ⟨xs, ys, rfl, rfl, hrest⟩ := hxy.head_cases hname
      exact readName_follows f hrest h
    · rw [readSpecial_letter hname] at h
      rw [readSpecial_letter (hxy.head?_ne (by decide) hname)]
      exact readFlags_follows f hds h
  · rw [readSpecial_plain hangle hletter] at h
    rw [readSpecial_plain (hds.head?_ne (by decide) hangle) (hds.head?_ne (by decide) hletter)]
    exact readFlags_follows f hds h

theorem readOpening_mark {f : Flags} {cs rest : List Char} (hcs : f.skip cs = '?' :: rest) :
    readOpening f cs = readSpecial f rest := by
  unfold readOpening readSpecial
  rw [hcs]
  split <;> simp_all [List.head?_eq_some_iff]

theorem readOpening_of_head?_ne {f : Flags} {cs : List Char} (hne : (f.skip cs).head? ≠ some '?') :
    readOpening f cs = some (.group f true [], f.skip cs) := by
  unfold readOpening
  split <;> simp_all

theorem readOpening_follows (f : Flags) : Follows (readOpening f) (readOpening f) := by
  intro cs ds hds opening rest h
  have hskip := skip_continues f hds
  by_cases hmark : (f.skip cs).head? = some '?'
  · obtain ⟨xs, ys, hxs, hys, hxy⟩ := hskip.head_cases hmark
    rw [readOpening_mark hxs] at h
    rw [readOpening_mark hys]
    exact readSpecial_follows f hxy h
  · rw [readOpening_of_head?_ne hmark] at h
    rw [readOpening_of_head?_ne (hskip.head?_ne (by decide) hmark)]
    cases h
    exact ⟨_, hskip, rfl⟩

end Regex
end Pattern
end BrokerGuard
