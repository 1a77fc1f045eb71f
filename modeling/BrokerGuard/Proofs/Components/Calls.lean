import BrokerGuard.Proofs.Components.Entries
import Mathlib.Data.List.Nodup
/-!
# Calls — what one call does to a context

A call on a context registers a component, or looks one up by name and kind, to read it, to change it or to take it out
(`ContextCall`).  All that a call can do is listed once (`TypedContext.Step`), and the rest is read off this list: a call
changes nothing under another name (`Step.find?_of_ne`), what is found afterwards is what it put there or what was there and
stayed (`Step.find?_iff`), and the names only grow at the end or lose members (`Step.names`).

The calls are also written as they work on the entries in place, by position (`ContextCall.inPlace`).  As long as the names
are distinct this is the same (`Step.inPlace`), so a call that fails has not touched the entries.
-/
namespace BrokerGuard

/-- A call on a context. -/
inductive ContextCall (κ : Type) (Carrier : κ → Type) where
  | register (name : String) (kind : κ) (component : Carrier kind)
  | get (name : String) (kind : κ)
  | update (name : String) (kind : κ) (f : Carrier kind → Carrier kind)
  | remove (name : String) (kind : κ)

/-- What a call answers: the component that was looked up, with its kind, and nothing to a registration. -/
abbrev ContextAnswer (κ : Type) (Carrier : κ → Type) := Except (LookupError κ) (Option (Sigma Carrier))

variable {κ : Type} {Carrier : κ → Type}

namespace ContextCall

def name : ContextCall κ Carrier → String
  | .register name .. | .get name _ | .update name .. | .remove name _ => name

/-- The name and the kind that the call looks for; a registration looks for nothing. -/
def asked : ContextCall κ Carrier → Option (String × κ)
  | .register .. => none
  | .get name kind | .update name kind _ | .remove name kind => some (name, kind)

/-- The call puts another component under the name, or takes away the one that is there, of the kind. -/
def Displaces (name : String) (kind : κ) : ContextCall κ Carrier → Prop
  | .register n _ _ => n = name
  | .remove n k => n = name ∧ k = kind
  | .get .. | .update .. => False

variable [DecidableEq κ]

/-- What the call makes of the component of the kind under the name, as long as it stays there. -/
def revise (name : String) (kind : κ) (value : Carrier kind) : ContextCall κ Carrier → Carrier kind
  | .update n k f => if h : k = kind ∧ n = name then h.1 ▸ f (h.1 ▸ value) else value
  | .register .. | .get .. | .remove .. => value

/-- What the call answers, and the context after it. -/
def perform (c : TypedContext κ Carrier) : ContextCall κ Carrier → ContextAnswer κ Carrier × TypedContext κ Carrier
  | .register name kind component => (.ok none, c.register name kind component)
  | .get name kind => ((c.get name kind).map fun component => some ⟨kind, component⟩, c)
  | .update name kind f =>
    match c.update name kind f with
    | .ok changed => ((c.get name kind).map fun component => some ⟨kind, component⟩, changed)
    | .error e => (.error e, c)
  | .remove name kind =>
    match c.remove name kind with
    | .ok (component, rest) => (.ok (some ⟨kind, component⟩), rest)
    | .error e => (.error e, c)

/-! ## Calls in place -/

/-- The first entry of the name: its position, and the component. -/
def seek (name : String) (entries : List (String × Sigma Carrier)) : Option (Nat × Sigma Carrier) :=
  (entries.zipIdx.find? (·.1.1 == name)).map fun e => (e.2, e.1.2)

/-- Hands the component over, provided that it is of the kind. -/
def handOver (name : String) (kind : κ) (component : Sigma Carrier) : ContextAnswer κ Carrier :=
  if component.1 = kind then .ok (some component) else .error (.otherKind name kind)

/-- Changes the component, provided that it is of the kind. -/
def change (kind : κ) (f : Carrier kind → Carrier kind) (component : Sigma Carrier) : Sigma Carrier :=
  if h : component.1 = kind then ⟨kind, f (h ▸ component.2)⟩ else component

/-- The call as it works on the entries; what was done to them before it fails stays done. -/
def inPlace (entries : List (String × Sigma Carrier)) :
    ContextCall κ Carrier → ContextAnswer κ Carrier × List (String × Sigma Carrier)
  | .register name kind component =>
    match seek name entries with
    | some (place, _) => (.ok none, entries.modify place fun e => (e.1, ⟨kind, component⟩))
    | none => (.ok none, entries ++ [(name, ⟨kind, component⟩)])
  | .get name kind =>
    match seek name entries with
    | some (_, component) => (handOver name kind component, entries)
    | none => (.error (.unregistered name), entries)
  | .update name kind f =>
    match seek name entries with
    | some (place, component) => (handOver name kind component, entries.modify place fun e => (e.1, change kind f e.2))
    | none => (.error (.unregistered name), entries)
  | .remove name kind =>
    match seek name entries with
    | some (place, component) =>
      if component.1 = kind then (handOver name kind component, entries.eraseIdx place)
      else (.error (.otherKind name kind), entries)
    | none => (.error (.unregistered name), entries)

/-! ## Calls that a component does not notice -/

theorem keeps_of_ne {call : ContextCall κ Carrier} {name : String} (hne : name ≠ call.name) {kind : κ}
    (value : Carrier kind) : ¬ call.Displaces name kind ∧ call.revise name kind value = value := by
  cases call with
  | register n k component => exact ⟨fun h => hne h.symm, rfl⟩
  | get n k => exact ⟨id, rfl⟩
  | update n k f => exact ⟨id, dif_neg fun h => hne h.2.symm⟩
  | remove n k => exact ⟨fun h => hne h.1.symm, rfl⟩

theorem keeps_of_asked_ne {call : ContextCall κ Carrier} {asked kind : κ} {name : String}
    (hasked : call.asked = some (name, asked)) (hne : kind ≠ asked) (value : Carrier kind) :
    ¬ call.Displaces name kind ∧ call.revise name kind value = value := by
  cases call with
  | register n k component => cases hasked
  | get n k => exact ⟨id, rfl⟩
  | update n k f =>
    cases hasked
    exact ⟨id, dif_neg fun h => hne h.1.symm⟩
  | remove n k =>
    cases hasked
    exact ⟨fun h => hne h.2.symm, rfl⟩

omit [DecidableEq κ] in
theorem name_of_asked {call : ContextCall κ Carrier} {asked : String × κ} (hasked : call.asked = some asked) :
    call.name = asked.1 := by
  cases call with
  | register n k component => cases hasked
  | get n k => cases hasked; rfl
  | update n k f => cases hasked; rfl
  | remove n k => cases hasked; rfl

omit [DecidableEq κ] in
theorem ne_register_of_asked {call : ContextCall κ Carrier} {asked : String × κ} (hasked : call.asked = some asked)
    (name : String) (kind : κ) (component : Carrier kind) : call ≠ .register name kind component := by
  rintro rfl
  cases hasked

theorem revise_update_self (name : String) (kind : κ) (f : Carrier kind → Carrier kind) (value : Carrier kind) :
    (update name kind f : ContextCall κ Carrier).revise name kind value = f value :=
  dif_pos ⟨rfl, rfl⟩

end ContextCall

namespace TypedContext

variable {c c' : TypedContext κ Carrier} {call : ContextCall κ Carrier} {answer : ContextAnswer κ Carrier}

/-- All that a call can do: what it answers and the context after it. -/
inductive Step (c : TypedContext κ Carrier) : ContextCall κ Carrier → ContextAnswer κ Carrier → TypedContext κ Carrier → Prop
  | registered (name : String) (kind : κ) (component : Carrier kind) :
    Step c (.register name kind component) (.ok none) (c.register name kind component)
  | read {name : String} {kind : κ} {component : Carrier kind} (hfind : c.find? name = some ⟨kind, component⟩) :
    Step c (.get name kind) (.ok (some ⟨kind, component⟩)) c
  | updated {name : String} {kind : κ} {component : Carrier kind} (hfind : c.find? name = some ⟨kind, component⟩)
    (f : Carrier kind → Carrier kind) :
    Step c (.update name kind f) (.ok (some ⟨kind, component⟩)) (c.register name kind (f component))
  | removed {name : String} {kind : κ} {component : Carrier kind} (hfind : c.find? name = some ⟨kind, component⟩) :
    Step c (.remove name kind) (.ok (some ⟨kind, component⟩)) ⟨c.entries.filter (·.1 != name)⟩
  | unregistered {call : ContextCall κ Carrier} {name : String} {kind : κ} (hasked : call.asked = some (name, kind))
    (hfind : c.find? name = none) : Step c call (.error (.unregistered name)) c
  | otherKind {call : ContextCall κ Carrier} {name : String} {kind : κ} {found : Sigma Carrier}
    (hasked : call.asked = some (name, kind)) (hfind : c.find? name = some found) (hne : found.1 ≠ kind) :
    Step c call (.error (.otherKind name kind)) c

namespace Step

/-- **A call changes nothing under another name.** -/
theorem find?_of_ne (h : Step c call answer c') {other : String} (hne : other ≠ call.name) :
    c'.find? other = c.find? other := by
  cases h with
  | registered name kind component => exact find?_register_of_ne c hne kind component
  | updated hfind f => exact find?_register_of_ne c hne _ _
  | removed hfind => exact Bindings.lookup_filter_of_ne hne c.entries
  | read hfind => rfl
  | unregistered hasked hfind => rfl
  | otherKind hasked hfind hne => rfl

theorem eq_of_error {e : LookupError κ} (h : Step c call (.error e) c') : c' = c := by
  cases h with
  | unregistered hasked hfind => rfl
  | otherKind hasked hfind hne => rfl

/-! ## What is found afterwards -/

variable [DecidableEq κ] {name : String} {kind : κ} {value : Carrier kind}

/-- What was there stayed, and the call put nothing in its place. -/
theorem find?_iff_of_keeps (hregister : call ≠ .register name kind value) (hfind : c'.find? name = c.find? name)
    (hkeeps : ∀ old, c.find? name = some ⟨kind, old⟩ → ¬ call.Displaces name kind ∧ call.revise name kind old = old) :
    c'.find? name = some ⟨kind, value⟩ ↔
      call = .register name kind value ∨
        ∃ old, c.find? name = some ⟨kind, old⟩ ∧ ¬ call.Displaces name kind ∧ call.revise name kind old = value := by
  rw [hfind]
  constructor
  · intro hvalue
    exact .inr ⟨value, hvalue, hkeeps value hvalue⟩
  · rintro (hcall | ⟨old, hold, -, rfl⟩)
    · exact absurd hcall hregister
    · rw [(hkeeps old hold).2]
      exact hold

theorem find?_self_iff (h : Step c call answer c') :
    c'.find? call.name = some ⟨kind, value⟩ ↔
      call = .register call.name kind value ∨
        ∃ old, c.find? call.name = some ⟨kind, old⟩ ∧ ¬ call.Displaces call.name kind ∧
          call.revise call.name kind old = value := by
  cases h with
  | registered n k component =>
    have hself : (c.register n k component).find? n = some ⟨k, component⟩ := find?_register_self c n k component
    constructor
    · intro hvalue
      cases hself.symm.trans hvalue
      exact .inl rfl
    · rintro (hcall | ⟨old, -, hdisplaced, -⟩)
      · cases hcall
        exact hself
      · exact absurd rfl hdisplaced
  | @updated n k component hfind f =>
    have hself : (c.register n k (f component)).find? n = some ⟨k, f component⟩ :=
      find?_register_self c n k (f component)
    have hrevise := ContextCall.revise_update_self n k f component
    constructor
    · intro hvalue
      cases hself.symm.trans hvalue
      exact .inr ⟨component, hfind, id, hrevise⟩
    · rintro (hcall | ⟨old, hold, -, rfl⟩)
      · cases hcall
      · cases hfind.symm.trans hold
        exact hself.trans (by rw [← hrevise]; rfl)
  | @removed n k component hfind =>
    have hnone : (⟨c.entries.filter (·.1 != n)⟩ : TypedContext κ Carrier).find? n = none :=
      Bindings.lookup_filter_self n c.entries
    constructor
    · intro hvalue
      cases hnone.symm.trans hvalue
    · rintro (hcall | ⟨old, hold, hdisplaced, -⟩)
      · cases hcall
      · cases hfind.symm.trans hold
        exact absurd ⟨rfl, rfl⟩ hdisplaced
  | read hfind => exact find?_iff_of_keeps (fun hcall => by cases hcall) rfl fun old _ => ⟨id, rfl⟩
  | unregistered hasked hfind =>
    refine find?_iff_of_keeps (ContextCall.ne_register_of_asked hasked _ _ _) rfl fun old hold => ?_
    rw [ContextCall.name_of_asked hasked, hfind] at hold
    cases hold
  | otherKind hasked hfind hne =>
    refine find?_iff_of_keeps (ContextCall.ne_register_of_asked hasked _ _ _) rfl fun old hold => ?_
    rw [ContextCall.name_of_asked hasked] at hold ⊢
    cases hfind.symm.trans hold
    exact ContextCall.keeps_of_asked_ne hasked hne old

/-- **What is found after a call** is what it registered, or what was there and stayed, as the call revised it. -/
theorem find?_iff (h : Step c call answer c') :
    c'.find? name = some ⟨kind, value⟩ ↔
      call = .register name kind value ∨
        ∃ old, c.find? name = some ⟨kind, old⟩ ∧ ¬ call.Displaces name kind ∧ call.revise name kind old = value := by
  by_cases hname : name = call.name
  · subst hname
    exact h.find?_self_iff
  · refine find?_iff_of_keeps ?_ (h.find?_of_ne hname) fun old _ => ContextCall.keeps_of_ne hname old
    rintro rfl
    exact hname rfl

/-! ## The names afterwards -/

omit [DecidableEq κ] in
/-- **The names after a call**: a new one stands behind the others, and otherwise none is added or moved. -/
theorem names (h : Step c call answer c') :
    (∃ name kind component, call = .register name kind component ∧ name ∉ c.names ∧ c'.names = c.names ++ [name]) ∨
      c'.names.Sublist c.names := by
  cases h with
  | registered name kind component =>
    have hnames := names_register c name kind component
    by_cases hmem : name ∈ c.names
    · rw [if_pos hmem] at hnames
      exact .inr (hnames ▸ .refl c.names)
    · rw [if_neg hmem] at hnames
      exact .inl ⟨name, kind, component, rfl, hmem, hnames⟩
  | @updated name kind component hfind f =>
    have hnames := names_register c name kind (f component)
    rw [if_pos (mem_names_iff.2 ⟨_, hfind⟩)] at hnames
    exact .inr (hnames ▸ .refl c.names)
  | removed hfind => exact .inr (List.filter_sublist.map Prod.fst)
  | read hfind => exact .inr (.refl c.names)
  | unregistered hasked hfind => exact .inr (.refl c.names)
  | otherKind hasked hfind hne => exact .inr (.refl c.names)

omit [DecidableEq κ] in
theorem nodup_names (h : Step c call answer c') (hdistinct : c.names.Nodup) : c'.names.Nodup := by
  rcases h.names with ⟨name, -, -, -, hnew, hnames⟩ | hsublist
  · rw [hnames]
    exact List.concat_eq_append ▸ hdistinct.concat hnew
  · exact hdistinct.sublist hsublist

end Step

/-! ## The calls do this -/

variable [DecidableEq κ]

theorem perform_of_get_error {name : String} {kind : κ} {e : LookupError κ} (hasked : call.asked = some (name, kind))
    (hget : c.get name kind = .error e) : call.perform c = (.error e, c) := by
  cases call with
  | register n k component => cases hasked
  | get n k =>
    cases hasked
    simp only [ContextCall.perform, hget]
    rfl
  | update n k f =>
    cases hasked
    simp only [ContextCall.perform, update, hget]
  | remove n k =>
    cases hasked
    simp only [ContextCall.perform, remove, hget]

/-- **A call does one of the steps.** -/
theorem step_perform (c : TypedContext κ Carrier) (call : ContextCall κ Carrier) :
    Step c call (call.perform c).1 (call.perform c).2 := by
  cases hasked : call.asked with
  | none =>
    cases call with
    | register n k component => exact .registered n k component
    | get n k => cases hasked
    | update n k f => cases hasked
    | remove n k => cases hasked
  | some asked =>
    obtain ⟨name, kind⟩ := asked
    rcases c.get_cases name kind with ⟨hfind, hget⟩ | ⟨found, hfind, hne, hget⟩ | ⟨component, hfind, hget⟩
    · rw [perform_of_get_error hasked hget]
      exact .unregistered hasked hfind
    · rw [perform_of_get_error hasked hget]
      exact .otherKind hasked hfind hne
    · cases call with
      | register n k component => cases hasked
      | get n k =>
        cases hasked
        simp only [ContextCall.perform, hget]
        exact .read hfind
      | update n k f =>
        cases hasked
        simp only [ContextCall.perform, update, hget]
        exact .updated hfind f
      | remove n k =>
        cases hasked
        simp only [ContextCall.perform, remove, hget]
        exact .removed hfind

/-! ## Calls in place do this too -/

omit [DecidableEq κ] in
theorem seek_append {name : String} {found : Sigma Carrier} {before : List (String × Sigma Carrier)}
    (hbefore : ∀ entry ∈ before, entry.1 ≠ name) (after : List (String × Sigma Carrier)) :
    ContextCall.seek name (before ++ (name, found) :: after) = some (before.length, found) := by
  have hskip : before.zipIdx.find? (·.1.1 == name) = none := by
    refine List.find?_eq_none.2 fun e he => ?_
    exact fun hname => hbefore e.1 (List.fst_mem_of_mem_zipIdx he) (beq_iff_eq.1 hname)
  unfold ContextCall.seek
  rw [List.zipIdx_append, List.find?_append, hskip, Option.none_or, List.zipIdx_cons]
  simp

omit [DecidableEq κ] in
theorem seek_eq_none {name : String} {entries : List (String × Sigma Carrier)} (h : ∀ entry ∈ entries, entry.1 ≠ name) :
    ContextCall.seek name entries = none := by
  unfold ContextCall.seek
  rw [List.find?_eq_none.2 fun e he hname => h e.1 (List.fst_mem_of_mem_zipIdx he) (beq_iff_eq.1 hname)]
  rfl

omit [DecidableEq κ] in
/-- Among distinct names, taking a name out takes out its one entry. -/
theorem filter_append {name : String} {found : Sigma Carrier} {before after : List (String × Sigma Carrier)}
    (hdistinct : ((before ++ (name, found) :: after).map Prod.fst).Nodup) :
    (before ++ (name, found) :: after).filter (·.1 != name) = before ++ after := by
  rw [List.map_append, List.map_cons, List.nodup_middle, List.nodup_cons, ← List.map_append] at hdistinct
  have hothers : ∀ entry ∈ before ++ after, (entry.1 != name) = true := fun entry hentry =>
    bne_iff_ne.2 fun heq => hdistinct.1 (List.mem_map.2 ⟨entry, hentry, heq⟩)
  rw [List.filter_append, List.filter_cons_of_neg (by simp), ← List.filter_append]
  exact List.filter_eq_self.2 hothers

/-- **In place, a call does the same**, as long as the names are distinct. -/
theorem Step.inPlace (h : Step c call answer c') (hdistinct : c.names.Nodup) :
    call.inPlace c.entries = (answer, c'.entries) := by
  cases h with
  | registered n k component =>
    cases hfind : c.find? n with
    | none =>
      have hne := forall_ne_of_find? hfind
      simp only [ContextCall.inPlace, seek_eq_none hne, register, registerIn_of_forall_ne _ hne]
    | some found =>
      obtain ⟨before, after, hentries, hne⟩ := exists_split_of_find? hfind
      simp only [ContextCall.inPlace, hentries, seek_append hne, Bindings.modify_append, register, registerIn_append _ hne]
  | read hfind =>
    obtain ⟨before, after, hentries, hne⟩ := exists_split_of_find? hfind
    simp only [ContextCall.inPlace, hentries, seek_append hne, ContextCall.handOver, if_true]
  | updated hfind f =>
    obtain ⟨before, after, hentries, hne⟩ := exists_split_of_find? hfind
    simp only [ContextCall.inPlace, hentries, seek_append hne, Bindings.modify_append, register, registerIn_append _ hne,
      ContextCall.handOver, ContextCall.change, if_true, dite_true]
  | removed hfind =>
    obtain ⟨before, after, hentries, hne⟩ := exists_split_of_find? hfind
    -- by position one entry goes, by name every entry of the name: with distinct names this is the same
    rw [TypedContext.names, hentries] at hdistinct
    simp only [ContextCall.inPlace, hentries, seek_append hne, filter_append hdistinct, ContextCall.handOver, if_true]
    rw [List.eraseIdx_append_of_length_le (Nat.le_refl _), Nat.sub_self, List.eraseIdx_cons_zero]
  | unregistered hasked hfind =>
    have hseek := seek_eq_none (forall_ne_of_find? hfind)
    cases call with
    | register n k component => cases hasked
    | get n k =>
      cases hasked
      simp only [ContextCall.inPlace, hseek]
    | update n k f =>
      cases hasked
      simp only [ContextCall.inPlace, hseek]
    | remove n k =>
      cases hasked
      simp only [ContextCall.inPlace, hseek]
  | otherKind hasked hfind hne =>
    obtain ⟨before, after, hentries, hother⟩ := exists_split_of_find? hfind
    cases call with
    | register n k component => cases hasked
    | get n k =>
      cases hasked
      simp only [ContextCall.inPlace, hentries, seek_append hother, ContextCall.handOver, if_neg hne]
    | update n k f =>
      cases hasked
      simp only [ContextCall.inPlace, hentries, seek_append hother, Bindings.modify_append, ContextCall.handOver,
        ContextCall.change, if_neg hne, dif_neg hne]
    | remove n k =>
      cases hasked
      simp only [ContextCall.inPlace, hentries, seek_append hother, if_neg hne]

end TypedContext
end BrokerGuard
