import BrokerGuard.Pattern.Ant
import BrokerGuard.Proofs.Pattern.Star
import Mathlib.Logic.Relation
/-!
# Path patterns — the matcher decides what a pattern means

What a path pattern means is said in terms of texts alone: which parts the separators delimit (`PartsOf`), which parts of a
path fit one part of a pattern (`PartFits`), and how the parts of the path are shared out among the parts of the pattern
(`Splits`).  `Ant.accepts_iff_describes` says that the matcher decides exactly this, and that separators at either end or in
a row never count.  Patterns of plain names, with or without a `**` at the end, describe the paths that consist of the names
or begin with them (`Ant.accepts_literals_iff`, `Ant.accepts_literals_anyRun_iff`).
-/
namespace BrokerGuard
namespace Pattern

/-! ## Parts -/

theorem pieces_eq_splitOn (separator : Char) : ∀ cs : List Char, pieces separator cs = cs.splitOn separator
  | [] => rfl
  | c :: cs => by
    have ih := pieces_eq_splitOn separator cs
    unfold pieces
    rw [ih, List.splitOn_cons_eq_if_modifyHead]
    by_cases hc : c = separator
    · rw [if_pos hc, if_pos (beq_iff_eq.2 hc)]
    · rw [if_neg hc, if_neg (fun h => hc (beq_iff_eq.1 h))]
      cases hcs : cs.splitOn separator with
      | nil => exact absurd hcs (List.splitOn_ne_nil separator cs)
      | cons piece rest => rfl

theorem not_mem_of_mem_splitOn {separator : Char} :
    ∀ {cs piece : List Char}, piece ∈ cs.splitOn separator → separator ∉ piece
  | [], piece, h => by
    rw [List.mem_singleton.1 h]
    exact List.not_mem_nil
  | c :: cs, piece, h => by
    rw [List.splitOn_cons_eq_if_modifyHead] at h
    by_cases hc : c = separator
    · rw [if_pos (beq_iff_eq.2 hc)] at h
      rcases List.mem_cons.1 h with rfl | h
      · exact List.not_mem_nil
      · exact not_mem_of_mem_splitOn h
    · rw [if_neg (fun h => hc (beq_iff_eq.1 h))] at h
      cases hcs : cs.splitOn separator with
      | nil => exact absurd hcs (List.splitOn_ne_nil separator cs)
      | cons first rest =>
        have hmem : ∀ p ∈ first :: rest, separator ∉ p := fun p hp => not_mem_of_mem_splitOn (hcs ▸ hp)
        rw [hcs] at h
        rcases List.mem_cons.1 h with rfl | h
        · rw [List.mem_cons, not_or]
          exact ⟨Ne.symm hc, hmem first List.mem_cons_self⟩
        · exact hmem piece (List.mem_cons_of_mem first h)

/-- The parts of a text: what the separators delimit, less what is empty. -/
def PartsOf (separator : Char) (text : List Char) (parts : List (List Char)) : Prop :=
  ∃ pieces : List (List Char), pieces ≠ [] ∧ (∀ piece ∈ pieces, separator ∉ piece) ∧
    [separator].intercalate pieces = text ∧ pieces.filter (· ≠ []) = parts

theorem parts_eq_filter (separator : Char) (path : String) :
    parts separator path = (path.toList.splitOn separator).filter (· ≠ []) := by
  unfold parts
  rw [pieces_eq_splitOn]
  refine List.filter_congr fun piece _ => ?_
  cases piece <;> rfl

theorem partsOf_iff {separator : Char} {path : String} {ps : List (List Char)} :
    PartsOf separator path.toList ps ↔ ps = parts separator path := by
  rw [parts_eq_filter]
  constructor
  · rintro ⟨pieces, hne, hfree, hjoin, rfl⟩
    rw [← hjoin, List.splitOn_intercalate separator hfree hne]
  · rintro rfl
    exact ⟨path.toList.splitOn separator, List.splitOn_ne_nil _ _, fun _ => not_mem_of_mem_splitOn,
      List.intercalate_splitOn separator, rfl⟩

theorem ne_nil_of_mem_parts {separator : Char} {path : String} {part : List Char} (h : part ∈ parts separator path) :
    part ≠ [] := by
  rw [parts_eq_filter] at h
  exact of_decide_eq_true (List.mem_filter.1 h).2

/-- The same text with one separator more: in front, at the end, or next to another one. -/
inductive Padding (separator : Char) : List Char → List Char → Prop
  | leading (cs : List Char) : Padding separator cs (separator :: cs)
  | trailing (cs : List Char) : Padding separator cs (cs ++ [separator])
  | repeated (cs rest : List Char) : Padding separator (cs ++ separator :: rest) (cs ++ separator :: separator :: rest)

theorem Padding.filter_splitOn {separator : Char} {text padded : List Char} (h : Padding separator text padded) :
    (padded.splitOn separator).filter (· ≠ []) = (text.splitOn separator).filter (· ≠ []) := by
  cases h with
  | leading cs =>
    rw [List.splitOn_cons_eq_if_modifyHead, if_pos (beq_self_eq_true separator)]
    rfl
  | trailing =>
    rw [List.splitOn_append_cons_self, List.filter_append, List.splitOn_nil]
    exact List.append_nil _
  | repeated cs rest =>
    rw [List.splitOn_append_cons_self, List.splitOn_append_cons_self, List.filter_append, List.filter_append,
      List.splitOn_cons_eq_if_modifyHead, if_pos (beq_self_eq_true separator)]
    rfl

/-- **Separators at either end or in a row do not count.** -/
theorem parts_eq_of_padding {separator : Char} {a b : String}
    (h : Relation.EqvGen (Padding separator) a.toList b.toList) : parts separator a = parts separator b := by
  rw [parts_eq_filter, parts_eq_filter]
  generalize a.toList = cs, b.toList = ds at h
  induction h with
  | rel _ _ h => exact h.filter_splitOn.symm
  | refl => rfl
  | symm _ _ _ ih => exact ih.symm
  | trans _ _ _ _ _ ih ih' => exact ih.trans ih'

/-! ## One part -/

/-- The part stands in braces. -/
def InBraces (item : List Char) : Prop := ∃ name, item = '\x7b' :: (name ++ ['\x7d'])

/-- What the matcher compares in a letter case mode: the characters as they are, or all in lower case. -/
def inMode (caseSensitive : Bool) (cs : List Char) : List Char := if caseSensitive then cs else Text.lower cs

/-- Equal texts, but for the case of ASCII letters when the mode ignores it. -/
def EqualIn (caseSensitive : Bool) (cs ds : List Char) : Prop :=
  if caseSensitive then cs = ds else cs.map Char.toLower = ds.map Char.toLower

/-- A part of a path fits a part of a pattern that is not `**`. -/
inductive PartFits (caseSensitive : Bool) (item part : List Char) : Prop
  | braces (h : InBraces item)
  | wildcard (hbraces : ¬ InBraces item) (hwild : '*' ∈ item ∨ '?' ∈ item)
      (h : Splits (· = '*') (fun c d => c = '?' ∨ c = d) (inMode caseSensitive item) (inMode caseSensitive part))
  | literal (hbraces : ¬ InBraces item) (hstar : '*' ∉ item) (hquestion : '?' ∉ item) (h : EqualIn caseSensitive item part)

theorem glob_iff {pattern text : List Char} :
    glob pattern text = true ↔ Splits (· = '*') (fun c d => c = '?' ∨ c = d) pattern text := by
  rw [glob, starMatch_iff]
  refine splits_congr (fun c _ => beq_iff_eq) fun c _ _ d _ => ?_
  rw [Bool.or_eq_true, beq_iff_eq, beq_iff_eq]

theorem inBraces_iff {item : List Char} :
    item.head? = some '\x7b' ∧ item.getLast? = some '\x7d' ↔ InBraces item := by
  constructor
  · rintro ⟨hhead, hlast⟩
    obtain ⟨rest, rfl⟩ := List.head?_eq_some_iff.1 hhead
    obtain ⟨front, heq⟩ := List.getLast?_eq_some_iff.1 hlast
    cases front with
    | nil => cases heq
    | cons c name =>
      obtain ⟨rfl, rfl⟩ := List.cons.inj heq
      exact ⟨name, rfl⟩
  · rintro ⟨name, rfl⟩
    exact ⟨rfl, by rw [← List.cons_append, List.getLast?_append]; rfl⟩

theorem isAnyRun_ofPart_iff {item : List Char} : (Segment.ofPart item).isAnyRun = true ↔ item = ['*', '*'] := by
  unfold Segment.ofPart
  by_cases hany : item = ['*', '*']
  · rw [if_pos hany]
    exact ⟨fun _ => hany, fun _ => rfl⟩
  · rw [if_neg hany]
    refine ⟨fun h => ?_, fun h => absurd h hany⟩
    split at h
    · cases h
    · split at h <;> cases h

theorem fits_ofPart_iff (p : Ant) {item part : List Char} (hitem : item ≠ ['*', '*']) (hpart : part ≠ []) :
    p.fits (Segment.ofPart item) part = true ↔ PartFits p.caseSensitive item part := by
  unfold Segment.ofPart
  rw [if_neg hitem]
  by_cases hbraces : InBraces item
  · rw [if_pos (inBraces_iff.2 hbraces)]
    refine ⟨fun _ => .braces hbraces, fun _ => ?_⟩
    cases part with
    | nil => exact absurd rfl hpart
    | cons c cs => rfl
  · rw [if_neg (fun h => hbraces (inBraces_iff.1 h))]
    by_cases hwild : '*' ∈ item ∨ '?' ∈ item
    · have htest : (item.contains '*' || item.contains '?') = true := by
        rw [Bool.or_eq_true, List.contains_iff_mem, List.contains_iff_mem]
        exact hwild
      have hfits : p.fits (.wildcard item) part = glob (inMode p.caseSensitive item) (inMode p.caseSensitive part) := by
        unfold inMode
        cases hmode : p.caseSensitive with
        | true => simp only [Ant.fits, hmode, if_true]
        | false => simp only [Ant.fits, hmode, Bool.false_eq_true, if_false]
      rw [if_pos htest, hfits, glob_iff]
      constructor
      · exact .wildcard hbraces hwild
      · rintro (h | ⟨-, -, h⟩ | ⟨-, hstar, hquestion, -⟩)
        · exact absurd h hbraces
        · exact h
        · exact absurd hwild (not_or.2 ⟨hstar, hquestion⟩)
    · have htest : ¬ (item.contains '*' || item.contains '?') = true := by
        rw [Bool.or_eq_true, List.contains_iff_mem, List.contains_iff_mem]
        exact hwild
      have hfits : p.fits (.literal item) part = true ↔ EqualIn p.caseSensitive item part := by
        unfold EqualIn
        cases hmode : p.caseSensitive with
        | true => simp only [Ant.fits, hmode, if_true, beq_iff_eq]
        | false => simp only [Ant.fits, hmode, Bool.false_eq_true, if_false, Text.eqIgnoringCase, beq_iff_eq]
      rw [if_neg htest, hfits]
      obtain ⟨hstar, hquestion⟩ := not_or.1 hwild
      constructor
      · exact .literal hbraces hstar hquestion
      · rintro (h | ⟨-, h, -⟩ | ⟨-, -, -, h⟩)
        · exact absurd h hbraces
        · exact absurd h hwild
        · exact h

/-! ## The whole path -/

namespace Ant

/-- The parts are shared out among the segments. -/
def Covers (p : Ant) (segments : List Segment) (ps : List (List Char)) : Prop :=
  Splits (·.isAnyRun = true) (p.fits · · = true) segments ps

theorem accepts_iff_covers (p : Ant) (path : String) :
    p.accepts path = true ↔ p.Covers p.segments (parts p.separator path) :=
  starMatch_iff _ _ _ _

/-- The parts of the path are shared out among the parts of the pattern, in order: `**` takes any run of them, every other
part takes one that fits it. -/
def Describes (p : Ant) (path : String) : Prop :=
  ∃ items ps, PartsOf p.separator p.source.toList items ∧ PartsOf p.separator path.toList ps ∧
    Splits (· = ['*', '*']) (PartFits p.caseSensitive) items ps

theorem accepts_iff_parts (p : Ant) (path : String) :
    p.accepts path = true ↔
      Splits (· = ['*', '*']) (PartFits p.caseSensitive) (parts p.separator p.source) (parts p.separator path) := by
  rw [accepts_iff_covers, segments, Covers, splits_map_iff]
  refine splits_congr (fun _ _ => isAnyRun_ofPart_iff) fun item _ hitem part hpart => ?_
  exact fits_ofPart_iff p (mt isAnyRun_ofPart_iff.2 hitem) (ne_nil_of_mem_parts hpart)

/-- **The matcher decides what the pattern means**, for every pattern, separator, letter case mode and path; and separators
at either end or in a row, of the pattern or of the path, never change its answer. -/
theorem accepts_iff_describes (p : Ant) (path : String) :
    (p.accepts path = true ↔ p.Describes path) ∧
    ∀ source' path' : String, Relation.EqvGen (Padding p.separator) p.source.toList source'.toList →
      Relation.EqvGen (Padding p.separator) path.toList path'.toList →
      Ant.accepts { p with source := source' } path' = p.accepts path := by
  constructor
  · rw [accepts_iff_parts]
    constructor
    · intro h
      exact ⟨_, _, partsOf_iff.2 rfl, partsOf_iff.2 rfl, h⟩
    · rintro ⟨items, ps, hitems, hps, h⟩
      rw [partsOf_iff.1 hitems, partsOf_iff.1 hps] at h
      exact h
  · intro source' path' hsource hpath
    rw [Bool.eq_iff_iff, accepts_iff_parts, accepts_iff_parts, ← parts_eq_of_padding hpath]
    dsimp only
    rw [← parts_eq_of_padding hsource]

theorem accepts_iff_describes_padded :
    Relation.EqvGen (Padding '/') "/app/**/room-?".toList "app//**/room-?/".toList ∧
      Relation.EqvGen (Padding '/') "/app/x/y/room-1".toList "//app/x/y/room-1".toList ∧
      (ofSource "/app/**/room-?").Describes "/app/x/y/room-1" ∧
      (ofSource "app//**/room-?/").accepts "//app/x/y/room-1" = true := by
  have hsource : Relation.EqvGen (Padding '/') "/app/**/room-?".toList "app//**/room-?/".toList := by
    have hleading : Padding '/' "app/**/room-?".toList "/app/**/room-?".toList := .leading _
    have hrepeated : Padding '/' "app/**/room-?".toList "app//**/room-?".toList := .repeated "app".toList _
    have htrailing : Padding '/' "app//**/room-?".toList "app//**/room-?/".toList := .trailing "app//**/room-?".toList
    exact .trans _ _ _ (.symm _ _ (.rel _ _ hleading)) (.trans _ _ _ (.rel _ _ hrepeated) (.rel _ _ htrailing))
  have hpath : Relation.EqvGen (Padding '/') "/app/x/y/room-1".toList "//app/x/y/room-1".toList :=
    .rel _ _ (.leading _)
  obtain ⟨hmeaning, hpadding⟩ := accepts_iff_describes (ofSource "/app/**/room-?") "/app/x/y/room-1"
  have haccepts : (ofSource "/app/**/room-?").accepts "/app/x/y/room-1" = true := by decide
  exact ⟨hsource, hpath, hmeaning.1 haccepts, (hpadding _ _ hsource hpath).trans haccepts⟩

/-! ## Patterns of names -/

theorem covers_nil_iff {p : Ant} {ps : List (List Char)} : p.Covers [] ps ↔ ps = [] := splits_nil_iff

theorem covers_anyRun {p : Ant} (ps : List (List Char)) : p.Covers [.anyRun] ps :=
  splits_cons_iff.2 ⟨ps, [], (List.append_nil ps).symm, .inl rfl, covers_nil_iff.2 rfl⟩

theorem covers_literal_cons_iff {p : Ant} (hmode : p.caseSensitive = true) {name : List Char} {segments : List Segment}
    {ps : List (List Char)} :
    p.Covers (.literal name :: segments) ps ↔ ∃ rest, ps = name :: rest ∧ p.Covers segments rest := by
  have hfits (part : List Char) : p.fits (.literal name) part = true ↔ name = part := by
    simp only [fits, hmode, if_true, beq_iff_eq]
  unfold Covers
  rw [splits_cons_iff]
  constructor
  · rintro ⟨run, rest, rfl, hstar | ⟨part, rfl, hpart⟩, hrest⟩
    · cases hstar
    · rw [← (hfits part).1 hpart]
      exact ⟨rest, rfl, hrest⟩
  · rintro ⟨rest, rfl, hrest⟩
    exact ⟨[name], rest, rfl, .inr ⟨name, rfl, (hfits name).2 rfl⟩, hrest⟩

theorem covers_literals_append_iff {p : Ant} (hmode : p.caseSensitive = true) {segments : List Segment} :
    ∀ {names ps : List (List Char)},
      p.Covers (names.map .literal ++ segments) ps ↔ ∃ rest, ps = names ++ rest ∧ p.Covers segments rest
  | [], ps => ⟨fun h => ⟨ps, rfl, h⟩, fun ⟨_, heq, h⟩ => heq ▸ h⟩
  | name :: names, ps => by
    rw [List.map_cons, List.cons_append, covers_literal_cons_iff hmode]
    constructor
    · rintro ⟨_, rfl, h⟩
      obtain ⟨rest, rfl, hrest⟩ := (covers_literals_append_iff hmode).1 h
      exact ⟨rest, rfl, hrest⟩
    · rintro ⟨rest, rfl, hrest⟩
      exact ⟨names ++ rest, rfl, (covers_literals_append_iff hmode).2 ⟨rest, rfl, hrest⟩⟩

/-- A pattern of names takes the paths that consist of the names. -/
theorem accepts_literals_iff {p : Ant} (hmode : p.caseSensitive = true) {names : List (List Char)}
    (h : p.segments = names.map .literal) (path : String) : p.accepts path = true ↔ parts p.separator path = names := by
  rw [accepts_iff_covers, h, ← List.append_nil (names.map _), covers_literals_append_iff hmode]
  simp only [covers_nil_iff, exists_eq_right, List.append_nil]

/-- A pattern of names and a final `**` takes the paths that begin with the names. -/
theorem accepts_literals_anyRun_iff {p : Ant} (hmode : p.caseSensitive = true) {names : List (List Char)}
    (h : p.segments = names.map .literal ++ [.anyRun]) (path : String) :
    p.accepts path = true ↔ names <+: parts p.separator path := by
  rw [accepts_iff_covers, h, covers_literals_append_iff hmode]
  constructor
  · rintro ⟨rest, hparts, -⟩
    exact ⟨rest, hparts.symm⟩
  · rintro ⟨rest, hparts⟩
    exact ⟨rest, hparts.symm, covers_anyRun rest⟩

end Ant

end Pattern
end BrokerGuard
