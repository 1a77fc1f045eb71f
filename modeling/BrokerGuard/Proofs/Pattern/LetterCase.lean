import BrokerGuard.Proofs.Pattern.Ant
import Mathlib.Data.Set.Insert
/-!
# Letter case — when a pattern that ignores it takes at least as much

A pattern that ignores letter case compares a part with `*` or `?` in lower case, and puts the part of the pattern and the
part of the path in lower case each by itself.  Two characters do not stand this.  The dotted capital I becomes two
characters, of which a `?` takes one.  The capital sigma becomes one of two letters, depending on what stands around it, and
what stands around it in the pattern is not what stands around it in the path.

`Ant.ignoringCase_widens_iff` says that nothing else goes wrong: a pattern that ignores letter case accepts all that it
accepts otherwise, unless these characters meet what they do not stand.
-/
namespace BrokerGuard

namespace Text

theorem lowerFrom_cons_of_ne {c : Char} (hc : c ≠ 'Σ') (before cs : List Char) :
    lowerFrom before (c :: cs) = lowerForm c ++ lowerFrom (c :: before) cs := by
  rw [lowerFrom, if_neg hc]

theorem lowerForm_of_ne {c : Char} (hc : c ≠ 'İ') : lowerForm c = [lowerChar c] := if_neg hc

/-- Every character but the dotted capital I has one character for its lower case, whatever stands around it. -/
theorem exists_lowerFrom_cons {c : Char} (hc : c ≠ 'İ') (before cs : List Char) :
    ∃ d, lowerFrom before (c :: cs) = d :: lowerFrom (c :: before) cs := by
  by_cases hsigma : c = 'Σ'
  · rw [lowerFrom, if_pos hsigma]
    exact ⟨_, rfl⟩
  · rw [lowerFrom_cons_of_ne hsigma, lowerForm_of_ne hc]
    exact ⟨_, rfl⟩

/-- The lower case of the end of a text ends the lower case of the text. -/
theorem lowerFrom_suffix (run rest before : List Char) :
    lowerFrom (run.reverse ++ before) rest <:+ lowerFrom before (run ++ rest) := by
  induction run generalizing before with
  | nil => exact List.suffix_rfl
  | cons c run ih =>
    have htail : lowerFrom ((c :: run).reverse ++ before) rest <:+ lowerFrom (c :: before) (run ++ rest) := by
      have h := ih (c :: before)
      rwa [List.append_cons, ← List.reverse_cons] at h
    rw [List.cons_append, lowerFrom]
    exact htail.trans (List.suffix_append _ _)

theorem lowerFrom_of_not_mem {cs : List Char} (h : 'Σ' ∉ cs) (before : List Char) :
    lowerFrom before cs = cs.flatMap lowerForm := by
  induction cs generalizing before with
  | nil => rfl
  | cons c cs ih =>
    obtain ⟨hc, hcs⟩ := not_or.1 (mt List.mem_cons.2 h)
    rw [lowerFrom_cons_of_ne (Ne.symm hc), ih hcs, List.flatMap_cons]

end Text

namespace Pattern

open Text (lower lowerFrom lowerForm)

theorem Splits.exists_fits {α β : Type} {IsStar : α → Prop} {Fits : α → β → Prop} {pattern : List α} {text : List β}
    (h : Splits IsStar Fits pattern text) {item : α} (hmem : item ∈ pattern) (hitem : ¬ IsStar item) :
    ∃ piece ∈ text, Fits item piece := by
  induction pattern generalizing text with
  | nil => exact absurd hmem List.not_mem_nil
  | cons other items ih =>
    obtain ⟨run, rest, rfl, htakes, hrest⟩ := splits_cons_iff.1 h
    rcases List.mem_cons.1 hmem with rfl | hmem
    · obtain ⟨piece, rfl, hfits⟩ := htakes.resolve_left hitem
      exact ⟨piece, List.mem_cons_self, hfits⟩
    · obtain ⟨piece, hpiece, hfits⟩ := ih hrest hmem
      exact ⟨piece, List.mem_append_right run hpiece, hfits⟩

/-! ## The characters of a part -/

/-- The characters of the text are shared out among those of the pattern. -/
def Globs (pattern text : List Char) : Prop := Splits (· = '*') (fun c d => c = '?' ∨ c = d) pattern text

theorem globs_star_iff {items text : List Char} :
    Globs ('*' :: items) text ↔ ∃ rest, rest <:+ text ∧ Globs items rest :=
  @splits_star_iff Char Char (· = '*') _ '*' rfl items text

theorem globs_cons_iff {item : Char} (hitem : item ≠ '*') {items text : List Char} :
    Globs (item :: items) text ↔ ∃ c rest, text = c :: rest ∧ (item = '?' ∨ item = c) ∧ Globs items rest :=
  @splits_item_iff Char Char (· = '*') _ item hitem items text

theorem Globs.append_left {pattern text : List Char} (h : Globs pattern text) (cs : List Char) :
    Globs (cs ++ pattern) (cs ++ text) := by
  induction cs with
  | nil => exact h
  | cons c cs ih => exact splits_cons_iff.2 ⟨[c], cs ++ text, rfl, .inr ⟨c, rfl, .inr rfl⟩, ih⟩

/-- A capital sigma can stand in the text, where only stars and question marks take it. -/
theorem Globs.lowerFrom {pattern text : List Char} (h : Globs pattern text) (hsigma : 'Σ' ∉ pattern)
    (hdotted : '?' ∈ pattern → 'İ' ∉ text) (before : List Char) :
    Globs (pattern.flatMap lowerForm) (lowerFrom before text) := by
  induction pattern generalizing text before with
  | nil =>
    rw [splits_nil_iff.1 h]
    exact splits_nil_iff.2 rfl
  | cons item items ih =>
    obtain ⟨hitem, hitems⟩ := not_or.1 (mt List.mem_cons.2 hsigma)
    rw [List.flatMap_cons]
    by_cases hstar : item = '*'
    · subst hstar
      obtain ⟨rest, ⟨run, rfl⟩, hrest⟩ := globs_star_iff.1 h
      have hafter : '?' ∈ items → 'İ' ∉ rest := fun hquestion hmem =>
        hdotted (List.mem_cons_of_mem _ hquestion) (List.mem_append_right run hmem)
      have hform : lowerForm '*' = ['*'] := by decide
      rw [hform]
      exact globs_star_iff.2 ⟨_, Text.lowerFrom_suffix run rest before, ih hrest hitems hafter _⟩
    · obtain ⟨piece, rest, rfl, hfits, hrest⟩ := (globs_cons_iff hstar).1 h
      have hafter : '?' ∈ items → 'İ' ∉ rest := fun hquestion hmem =>
        hdotted (List.mem_cons_of_mem _ hquestion) (List.mem_cons_of_mem _ hmem)
      have htail := ih hrest hitems hafter (piece :: before)
      rcases hfits with rfl | rfl
      · have hpiece : piece ≠ 'İ' := fun heq => hdotted List.mem_cons_self (heq ▸ List.mem_cons_self)
        obtain ⟨d, hd⟩ := Text.exists_lowerFrom_cons hpiece before rest
        have hform : lowerForm '?' = ['?'] := by decide
        rw [hform, hd]
        exact (globs_cons_iff hstar).2 ⟨d, _, rfl, .inl rfl, htail⟩
      · rw [Text.lowerFrom_cons_of_ne (Ne.symm hitem)]
        exact htail.append_left _

/-- **Ignoring letter case takes no part away**, unless a `?` meets a dotted capital I, or a part with `*` or `?` and the
part of the path both have a capital sigma. -/
theorem PartFits.ignoringCase {item part : List Char} (h : PartFits true item part)
    (hdotted : '?' ∈ item → 'İ' ∉ part) (hsigma : '*' ∈ item ∨ '?' ∈ item → 'Σ' ∈ item → 'Σ' ∉ part) :
    PartFits false item part := by
  cases h with
  | braces hbraces => exact .braces hbraces
  | literal hbraces hstar hquestion hequal => exact .literal hbraces hstar hquestion (congrArg (List.map Char.toLower) hequal)
  | wildcard hbraces hwild hglobs =>
    have hglobs : Globs item part := hglobs
    have hitem : 'Σ' ∉ item := by
      intro hmem
      obtain ⟨piece, hpiece, hquestion | heq⟩ := hglobs.exists_fits hmem (by decide)
      · exact absurd hquestion (by decide)
      · exact hsigma hwild hmem (heq ▸ hpiece)
    refine .wildcard hbraces hwild ?_
    have hlower : lower item = item.flatMap lowerForm := Text.lowerFrom_of_not_mem hitem []
    have hmodes : Globs (lower item) (lower part) := hlower ▸ hglobs.lowerFrom hitem hdotted []
    exact hmodes

/-! ## The whole path -/

theorem mem_intercalate {separator piece : List Char} {c : Char} (hc : c ∈ piece) :
    ∀ {pieces : List (List Char)}, piece ∈ pieces → c ∈ separator.intercalate pieces
  | [], h => absurd h List.not_mem_nil
  | [only], h => by
    rw [List.intercalate_singleton, ← List.mem_singleton.1 h]
    exact hc
  | first :: next :: pieces, h => by
    rw [List.intercalate_cons_cons, List.mem_append, List.mem_append]
    rcases List.mem_cons.1 h with rfl | h
    · exact .inl (.inl hc)
    · exact .inr (mem_intercalate hc h)

theorem mem_of_mem_parts {separator : Char} {path : String} {part : List Char} (h : part ∈ parts separator path) {c : Char}
    (hc : c ∈ part) : c ∈ path.toList ∧ c ≠ separator := by
  rw [parts_eq_filter] at h
  have hpiece := (List.mem_filter.1 h).1
  constructor
  · have hjoin : [separator].intercalate (path.toList.splitOn separator) = path.toList := List.intercalate_splitOn separator
    rw [← hjoin]
    exact mem_intercalate hc hpiece
  · rintro rfl
    exact not_mem_of_mem_splitOn hpiece hc

theorem parts_ofList {separator : Char} {cs : List Char} (hne : cs ≠ []) (hfree : separator ∉ cs) :
    parts separator (String.ofList cs) = [cs] := by
  rw [parts_eq_filter, String.toList_ofList, List.splitOn_eq_singleton hfree]
  simp [hne]

namespace Ant

/-- What goes wrong with patterns of some characters and paths of others. -/
inductive Loses (separator : Char) (inPattern inPath : Set Char) : Prop
  /-- A `?` takes a character that becomes two. -/
  | dotted (hpattern : '?' ∈ inPattern \ {separator}) (hpath : 'İ' ∈ inPath \ {separator})
  /-- A capital sigma beside a `*` or `?` does not become the letter that it becomes in the path. -/
  | sigma (hwild : '*' ∈ inPattern \ {separator} ∨ '?' ∈ inPattern \ {separator})
      (hpattern : 'Σ' ∈ inPattern \ {separator}) (hpath : 'Σ' ∈ inPath \ {separator})

/-- Ignoring letter case loses no path. -/
def Widens (separator : Char) (inPattern inPath : Set Char) : Prop :=
  ∀ source path : String, (∀ c ∈ source.toList, c ∈ inPattern) → (∀ c ∈ path.toList, c ∈ inPath) →
    (withSeparator source separator).accepts path = true →
    (withSeparator source separator).ignoringCase.accepts path = true

variable {separator : Char} {inPattern inPath : Set Char}

theorem widens_of_not_loses (h : ¬ Loses separator inPattern inPath) : Widens separator inPattern inPath := by
  intro source path hsource hpath haccepts
  rw [accepts_iff_parts] at haccepts ⊢
  refine haccepts.mono (fun _ _ hitem => hitem) fun item hitem _ part hpart hfits => ?_
  have hitemChars : ∀ {c : Char}, c ∈ item → c ∈ inPattern \ {separator} := by
    intro c hc
    obtain ⟨hmem, hne⟩ := mem_of_mem_parts hitem hc
    exact ⟨hsource c hmem, hne⟩
  have hpartChars : ∀ {c : Char}, c ∈ part → c ∈ inPath \ {separator} := by
    intro c hc
    obtain ⟨hmem, hne⟩ := mem_of_mem_parts hpart hc
    exact ⟨hpath c hmem, hne⟩
  refine hfits.ignoringCase (fun hquestion hdotted => ?_) fun hwild hsigma hsigma' => ?_
  · exact h (.dotted (hitemChars hquestion) (hpartChars hdotted))
  · exact h (.sigma (hwild.imp hitemChars hitemChars) (hitemChars hsigma) (hpartChars hsigma'))

/-- A pattern and a path of one part each. -/
theorem accepts_part_iff (caseSensitive : Bool) {item part : List Char} (hitem : ∀ c ∈ item, c ≠ separator)
    (hpart : ∀ c ∈ part, c ≠ separator) (hitemNe : item ≠ []) (hpartNe : part ≠ []) (hstars : item ≠ ['*', '*']) :
    accepts ⟨String.ofList item, separator, caseSensitive⟩ (String.ofList part) = true ↔
      PartFits caseSensitive item part := by
  have hfree : ∀ {cs : List Char}, (∀ c ∈ cs, c ≠ separator) → separator ∉ cs := fun h hmem => h separator hmem rfl
  rw [accepts_iff_parts]
  dsimp only
  rw [parts_ofList hitemNe (hfree hitem), parts_ofList hpartNe (hfree hpart)]
  exact (@splits_item_cons_iff _ _ (· = ['*', '*']) _ item hstars [] part []).trans (and_iff_left (splits_nil_iff.2 rfl))

/-- A part that is lost takes its pattern with it. -/
theorem not_widens_of_part {item part : List Char} (hitem : ∀ c ∈ item, c ∈ inPattern \ {separator})
    (hpart : ∀ c ∈ part, c ∈ inPath \ {separator}) (hitemNe : item ≠ []) (hpartNe : part ≠ []) (hstars : item ≠ ['*', '*'])
    (hfits : PartFits true item part) (hlost : ¬ PartFits false item part) : ¬ Widens separator inPattern inPath := by
  intro h
  have hiff : ∀ mode : Bool, accepts ⟨String.ofList item, separator, mode⟩ (String.ofList part) = true ↔
      PartFits mode item part := fun mode =>
    accepts_part_iff mode (fun c hc => (hitem c hc).2) (fun c hc => (hpart c hc).2) hitemNe hpartNe hstars
  have hsource : ∀ c ∈ (String.ofList item).toList, c ∈ inPattern := by
    rw [String.toList_ofList]
    exact fun c hc => (hitem c hc).1
  have hpath : ∀ c ∈ (String.ofList part).toList, c ∈ inPath := by
    rw [String.toList_ofList]
    exact fun c hc => (hpart c hc).1
  exact hlost ((hiff false).1 (h _ _ hsource hpath ((hiff true).2 hfits)))

/-- **When ignoring letter case only widens a pattern.**  Of the patterns of some characters, none loses a path of some
characters, if and only if no `?` can meet a dotted capital I, and no capital sigma in a part with a `*` or `?` can meet
another one.  The separator does not count, since it stands in no part. -/
theorem ignoringCase_widens_iff (separator : Char) (inPattern inPath : Set Char) :
    Widens separator inPattern inPath ↔ ¬ Loses separator inPattern inPath := by
  refine ⟨fun hwidens hloses => ?_, widens_of_not_loses⟩
  cases hloses with
  | dotted hpattern hpath =>
    have hfits : PartFits true ['?'] ['İ'] := (fits_ofPart_iff (ofSource "?") (by decide) (by decide)).1 (by decide)
    have hlost : ¬ PartFits false ['?'] ['İ'] :=
      mt (fits_ofPart_iff (ofSource "?").ignoringCase (by decide) (by decide)).2 (by decide)
    refine not_widens_of_part ?_ ?_ (by decide) (by decide) (by decide) hfits hlost hwidens
    · exact List.forall_mem_singleton.2 hpattern
    · exact List.forall_mem_singleton.2 hpath
  | sigma hwild hpattern hpath =>
    have hpart : ∀ c ∈ ['Σ', 'Σ'], c ∈ inPath \ {separator} := by simpa using hpath
    -- in the path the second sigma ends a word, in the pattern it stands alone
    rcases hwild with hstar | hquestion
    · have hfits : PartFits true ['*', 'Σ'] ['Σ', 'Σ'] :=
        (fits_ofPart_iff (ofSource "*Σ") (by decide) (by decide)).1 (by decide)
      have hlost : ¬ PartFits false ['*', 'Σ'] ['Σ', 'Σ'] :=
        mt (fits_ofPart_iff (ofSource "*Σ").ignoringCase (by decide) (by decide)).2 (by decide +kernel)
      refine not_widens_of_part ?_ hpart (by decide) (by decide) (by decide) hfits hlost hwidens
      exact List.forall_mem_cons.2 ⟨hstar, List.forall_mem_singleton.2 hpattern⟩
    · have hfits : PartFits true ['?', 'Σ'] ['Σ', 'Σ'] :=
        (fits_ofPart_iff (ofSource "?Σ") (by decide) (by decide)).1 (by decide)
      have hlost : ¬ PartFits false ['?', 'Σ'] ['Σ', 'Σ'] :=
        mt (fits_ofPart_iff (ofSource "?Σ").ignoringCase (by decide) (by decide)).2 (by decide +kernel)
      refine not_widens_of_part ?_ hpart (by decide) (by decide) (by decide) hfits hlost hwidens
      exact List.forall_mem_cons.2 ⟨hquestion, List.forall_mem_singleton.2 hpattern⟩

theorem ignoringCase_widens_iff_sigma :
    (withSeparator "rooms.?-*" '.').accepts "rooms.Σ-ΟΔΟΣ" = true ∧
      (withSeparator "rooms.?-*" '.').ignoringCase.accepts "rooms.Σ-ΟΔΟΣ" = true := by
  have hkept : ¬ Loses '.' {c | c ∈ "rooms.?-*".toList} {c | c ∈ "rooms.Σ-ΟΔΟΣ".toList} := by
    rintro (⟨-, hdotted⟩ | ⟨-, hsigma, -⟩)
    · exact absurd hdotted.1 (by decide)
    · exact absurd hsigma.1 (by decide)
  have haccepts : (withSeparator "rooms.?-*" '.').accepts "rooms.Σ-ΟΔΟΣ" = true := by decide
  exact ⟨haccepts, (ignoringCase_widens_iff _ _ _).2 hkept _ _ (fun _ h => h) (fun _ h => h) haccepts⟩

/-- A `?` takes one character, and does not take this one when letter case is ignored; and a word of capitals that ends in a
sigma is lost by the pattern for all that ends in one. -/
theorem not_widens_capitals :
    ((withSeparator "/rooms/?" '/').accepts "/rooms/İ" = true ∧
      ¬ (withSeparator "/rooms/?" '/').ignoringCase.accepts "/rooms/İ" = true) ∧
    (withSeparator "/rooms/*Σ" '/').accepts "/rooms/ΟΔΟΣ" = true ∧
      ¬ (withSeparator "/rooms/*Σ" '/').ignoringCase.accepts "/rooms/ΟΔΟΣ" = true := by
  refine ⟨⟨?_, ?_⟩, ?_, ?_⟩ <;> decide +kernel

end Ant
end Pattern
end BrokerGuard
