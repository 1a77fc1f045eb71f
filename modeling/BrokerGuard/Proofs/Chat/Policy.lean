import BrokerGuard.Chat.Basic
import BrokerGuard.Proofs.Broker.Mediation
import BrokerGuard.Proofs.Message.RoleRules
import BrokerGuard.Proofs.Pattern.Ant
/-!
# Policy — who may send what to the chat, and where to

`Allowed` is the policy of the chat, in terms of the parts of a destination and the roles of a user.  The rules of the chat
overlap and the first one that applies decides; `exists_row` says that it decides as the policy does, for every message.  So
the channel of the chat hands a message to its handler exactly when the policy allows it, and a frame is answered with
success exactly when its message is handled (`channel_enforces`).
-/
namespace BrokerGuard
namespace Chat

open Pattern (Ant PartsOf parts partsOf_iff)
open Expression (Plain)
open BrokerSecurity (onBehalf)

variable {ω α : Type}

/-! ## The policy -/

/-- The parts of the destination are the names. -/
def Names (names : List String) (destination : String) : Prop :=
  PartsOf '/' destination.toList (names.map String.toList)

/-- The parts of the destination begin with the names. -/
def Beneath (names : List String) (destination : String) : Prop :=
  ∃ rest, PartsOf '/' destination.toList (names.map String.toList ++ rest)

/-- There is a user, and it has the role. -/
def InRole (user : Option User) (role : String) : Prop := ∃ u, user = some u ∧ role ∈ u.roles

/-- The policy of the chat. -/
inductive Allowed (user : Option User) (type : MessageType) : Option String → Prop
  | unaddressed {u} (huser : user = some u) : Allowed user type none
  | errors {d} (htype : type = .subscribe) (hd : Names ["user", "queue", "errors"] d) : Allowed user type (some d)
  | admin {d} (hd : Beneath ["app", "admin"] d) (hrole : InRole user "ADMIN") : Allowed user type (some d)
  | application {d} (hd : Beneath ["app"] d) (hadmin : ¬ Beneath ["app", "admin"] d) (hrole : InRole user "USER") :
    Allowed user type (some d)
  | feed {d} (htype : type = .subscribe) (hd : Beneath ["user"] d ∨ Beneath ["topic"] d) (hrole : InRole user "USER") :
    Allowed user type (some d)

section Destinations

variable {names : List String} {d : String}

theorem names_iff : Names names d ↔ parts '/' d = names.map String.toList := partsOf_iff.trans eq_comm

theorem beneath_iff : Beneath names d ↔ names.map String.toList <+: parts '/' d := by
  constructor
  · rintro ⟨rest, h⟩
    exact ⟨rest, partsOf_iff.1 h⟩
  · rintro ⟨rest, h⟩
    exact ⟨rest, partsOf_iff.2 h⟩

theorem Names.beneath (h : Names names d) : Beneath names d := ⟨[], by rw [List.append_nil]; exact h⟩

theorem Beneath.first {name : String} (h : Beneath (name :: names) d) : Beneath [name] d := by
  obtain ⟨rest, h⟩ := h
  exact ⟨names.map String.toList ++ rest, h⟩

/-- A destination does not begin with two different names. -/
theorem Beneath.head_eq {a b : String} {as bs : List String} (ha : Beneath (a :: as) d) (hb : Beneath (b :: bs) d) :
    a = b := by
  obtain ⟨rest, hrest⟩ := beneath_iff.1 ha
  obtain ⟨rest', hrest'⟩ := beneath_iff.1 hb
  have heq := hrest.trans hrest'.symm
  exact String.toList_inj.1 (List.cons.inj heq).1

theorem accepts_iff_names {source : String} (h : (Ant.ofSource source).segments = (names.map String.toList).map .literal) :
    (Ant.ofSource source).accepts d = true ↔ Names names d :=
  (Ant.accepts_literals_iff rfl h d).trans names_iff.symm

theorem accepts_iff_beneath {source : String}
    (h : (Ant.ofSource source).segments = (names.map String.toList).map .literal ++ [.anyRun]) :
    (Ant.ofSource source).accepts d = true ↔ Beneath names d :=
  (Ant.accepts_literals_anyRun_iff rfl h d).trans beneath_iff.symm

end Destinations

section Cases

variable {user : Option User} {type : MessageType} {d : String}

theorem Allowed.of_app (happ : Beneath ["app"] d) (h : Allowed user type (some d)) :
    (Beneath ["app", "admin"] d ∧ InRole user "ADMIN") ∨ (¬ Beneath ["app", "admin"] d ∧ InRole user "USER") := by
  have hother {name : String} {names : List String} (hname : name ≠ "app") : ¬ Beneath (name :: names) d :=
    fun h => hname (h.head_eq happ)
  cases h with
  | errors _ hnames => exact absurd hnames.beneath (hother (by decide))
  | admin hadmin hrole => exact .inl ⟨hadmin, hrole⟩
  | application _ hadmin hrole => exact .inr ⟨hadmin, hrole⟩
  | feed _ hfeed _ =>
    rcases hfeed with huser | htopic
    · exact absurd huser (hother (by decide))
    · exact absurd htopic (hother (by decide))

theorem Allowed.of_not_app (happ : ¬ Beneath ["app"] d) (h : Allowed user type (some d)) :
    type = .subscribe ∧
      (Names ["user", "queue", "errors"] d ∨ (Beneath ["user"] d ∨ Beneath ["topic"] d) ∧ InRole user "USER") := by
  cases h with
  | errors htype hnames => exact ⟨htype, .inl hnames⟩
  | admin hadmin _ => exact absurd hadmin.first happ
  | application hd _ _ => exact absurd hd happ
  | feed htype hfeed hrole => exact ⟨htype, .inr ⟨hfeed, hrole⟩⟩

end Cases

/-! ## What the rules demand -/

/-- A user meets what the rule demands. -/
inductive Meets : AccessRule → Option User → Prop
  | permitAll (user : Option User) : Meets .permitAll user
  | authenticated (u : User) : Meets .authenticated (some u)
  | hasRole {role user} (h : InRole user role) : Meets (.hasRole role) user

theorem meets_hasRole_iff {role : String} {user : Option User} : Meets (.hasRole role) user ↔ InRole user role :=
  ⟨fun | .hasRole h => h, .hasRole⟩

theorem not_meets_denyAll {user : Option User} : ¬ Meets .denyAll user := nofun

/-- The rule is read, and its expression is true for the users who meet the rule. -/
def Decides (rule : AccessRule) : Prop :=
  ∃ p, ExpressionParser.standard rule.expression = .ok p ∧
    ∀ m : Message, p.expression.evaluate Root.builtin (m.context m.user) = .ok true ↔ Meets rule m.user

theorem decides_of_value {rule : AccessRule} (expression : Expression) (value : Option User → Bool)
    (hp : ExpressionParser.standard rule.expression = .ok ⟨rule.expression, expression⟩)
    (hvalue : ∀ m : Message, expression.evaluate Root.builtin (m.context m.user) = .ok (value m.user))
    (hmeets : ∀ user, value user = true ↔ Meets rule user) : Decides rule := by
  refine ⟨_, hp, fun m => ?_⟩
  rw [hvalue, Except.ok.injEq]
  exact hmeets m.user

theorem decides_permitAll : Decides .permitAll := by
  refine decides_of_value (.call "permitAll" []) (fun _ => true) rfl (fun _ => rfl) fun user => ?_
  exact ⟨fun _ => .permitAll user, fun _ => rfl⟩

theorem decides_denyAll : Decides .denyAll :=
  decides_of_value (.call "denyAll" []) (fun _ => false) rfl (fun _ => rfl) fun _ =>
    ⟨fun h => absurd h Bool.false_ne_true, fun h => absurd h not_meets_denyAll⟩

theorem decides_authenticated : Decides .authenticated := by
  refine decides_of_value (.call "isAuthenticated" []) Option.isSome rfl (fun _ => rfl) fun user => ?_
  cases user with
  | none => exact ⟨nofun, nofun⟩
  | some u => exact ⟨fun _ => .authenticated u, fun _ => rfl⟩

theorem decides_hasRole {role : String} (hplain : Plain role) (hname : roleName role = role) : Decides (.hasRole role) := by
  have hcalls : (AccessRule.hasRole role).Calls "hasRole" [role] (·.hasRole role) := .hasRole role
  obtain ⟨p, hp, hcall⟩ := hcalls.standard_iff.2 (List.forall_mem_singleton.2 hplain)
  refine ⟨p, hp, fun m => ?_⟩
  rw [hcall, hcalls.evaluate_iff]
  have hhas (u : User) : u.hasRole role = true ↔ role ∈ u.roles := by
    rw [User.hasRole, hname, List.contains_iff_mem]
  simp only [hhas]
  exact meets_hasRole_iff.symm

/-- The matchers of the chat and their rules, in the order in which they are tried. -/
def table : List (MessageMatcher × AccessRule) :=
  [(.nullDestination, .authenticated),
   (.destination (.ofSource "/user/queue/errors") (some .subscribe), .permitAll),
   (.destination (.ofSource "/app/admin/**") none, .hasRole "ADMIN"),
   (.destination (.ofSource "/app/**") none, .hasRole "USER"),
   (.destination (.ofSource "/user/**") (some .subscribe), .hasRole "USER"),
   (.destination (.ofSource "/topic/**") (some .subscribe), .hasRole "USER"),
   (.types [.message, .subscribe], .denyAll),
   (.any, .denyAll)]

theorem entries_inboundRules : (({} : RuleRegistry).declareAll inboundRules).mappings.entries =
    table.map fun row => (row.1, [.raw row.2.expression]) := rfl

theorem decides_of_mem_table : ∀ row ∈ table, Decides row.2 := by
  have hadmin : Decides (.hasRole "ADMIN") := decides_hasRole (by decide) (by decide)
  have huser : Decides (.hasRole "USER") := decides_hasRole (by decide) (by decide)
  simp only [table, List.forall_mem_cons]
  exact ⟨decides_authenticated, decides_permitAll, hadmin, huser, huser, huser, decides_denyAll, decides_denyAll,
    fun _ h => absurd h List.not_mem_nil⟩

/-! ## The matchers of the table -/

section Addressed

variable {m : Message} {d : String} {source : String} {names : List String} {type : MessageType}

theorem applies_beneath_iff (hd : m.destination = some d)
    (h : (Ant.ofSource source).segments = (names.map String.toList).map .literal ++ [.anyRun]) :
    (MessageMatcher.destination (.ofSource source) none).applies m = true ↔ Beneath names d := by
  rw [← accepts_iff_beneath h]
  simp only [MessageMatcher.applies, hd, Bool.true_and]

theorem applies_typed_beneath_iff (hd : m.destination = some d)
    (h : (Ant.ofSource source).segments = (names.map String.toList).map .literal ++ [.anyRun]) :
    (MessageMatcher.destination (.ofSource source) (some type)).applies m = true ↔ m.type = type ∧ Beneath names d := by
  rw [← accepts_iff_beneath h, eq_comm (b := type)]
  simp only [MessageMatcher.applies, hd, Bool.and_eq_true, beq_iff_eq]

theorem applies_typed_names_iff (hd : m.destination = some d)
    (h : (Ant.ofSource source).segments = (names.map String.toList).map .literal) :
    (MessageMatcher.destination (.ofSource source) (some type)).applies m = true ↔ m.type = type ∧ Names names d := by
  rw [← accepts_iff_names h, eq_comm (b := type)]
  simp only [MessageMatcher.applies, hd, Bool.and_eq_true, beq_iff_eq]

end Addressed

/-! ## The first rule that decides -/

theorem exists_find?_cons {α : Type} {test : α → Bool} {Q : α → Prop} {a : α} {rest : List α} (hyes : test a = true → Q a)
    (hno : test a ≠ true → ∃ x, rest.find? test = some x ∧ Q x) : ∃ x, (a :: rest).find? test = some x ∧ Q x := by
  by_cases ha : test a = true
  · exact ⟨a, List.find?_cons_of_pos ha, hyes ha⟩
  · rw [List.find?_cons_of_neg ha]
    exact hno ha

theorem meets_authenticated_iff {user : Option User} {type : MessageType} :
    Meets .authenticated user ↔ Allowed user type none := by
  constructor
  · rintro ⟨u⟩
    exact .unaddressed rfl
  · rintro ⟨rfl⟩
    exact .authenticated _

section Addressed

variable {m : Message} {d : String}

/-- What the rules before leave is allowed to subscribers of two kinds of feeds. -/
theorem exists_row_feed (hd : m.destination = some d)
    (herrors : ¬ (m.type = .subscribe ∧ Names ["user", "queue", "errors"] d)) (happ : ¬ Beneath ["app"] d) :
    ∃ row, (table.drop 4).find? (fun row => row.1.applies m) = some row ∧
      (Meets row.2 m.user ↔ Allowed m.user m.type (some d)) := by
  have hleft (h : Allowed m.user m.type (some d)) :
      m.type = .subscribe ∧ (Beneath ["user"] d ∨ Beneath ["topic"] d) ∧ InRole m.user "USER" := by
    obtain ⟨htype, hnames | hfeed⟩ := h.of_not_app happ
    · exact absurd ⟨htype, hnames⟩ herrors
    · exact ⟨htype, hfeed⟩
  refine exists_find?_cons (fun h => ?_) fun hnoUser => ?_
  · have huser : m.type = .subscribe ∧ Beneath ["user"] d := (applies_typed_beneath_iff hd rfl).1 h
    rw [meets_hasRole_iff]
    exact ⟨.feed huser.1 (.inl huser.2), fun hallowed => (hleft hallowed).2.2⟩
  refine exists_find?_cons (fun h => ?_) fun hnoTopic => ?_
  · have htopic : m.type = .subscribe ∧ Beneath ["topic"] d := (applies_typed_beneath_iff hd rfl).1 h
    rw [meets_hasRole_iff]
    exact ⟨.feed htopic.1 (.inr htopic.2), fun hallowed => (hleft hallowed).2.2⟩
  have hdenied : Meets .denyAll m.user ↔ Allowed m.user m.type (some d) := by
    refine ⟨fun h => absurd h not_meets_denyAll, fun hallowed => ?_⟩
    obtain ⟨htype, hfeed, -⟩ := hleft hallowed
    rcases hfeed with h | h
    · exact absurd ((applies_typed_beneath_iff hd rfl).2 ⟨htype, h⟩) hnoUser
    · exact absurd ((applies_typed_beneath_iff hd rfl).2 ⟨htype, h⟩) hnoTopic
  refine exists_find?_cons (fun _ => hdenied) fun _ => ?_
  exact exists_find?_cons (fun _ => hdenied) fun h => absurd rfl h

theorem exists_row_addressed (hd : m.destination = some d) :
    ∃ row, table.tail.find? (fun row => row.1.applies m) = some row ∧
      (Meets row.2 m.user ↔ Allowed m.user m.type (some d)) := by
  -- each step is one row: where it applies it decides, and what it does not take is known of the rows behind it
  refine exists_find?_cons (fun h => ?_) fun hnoErrors => ?_
  · have herrors : m.type = .subscribe ∧ Names ["user", "queue", "errors"] d := (applies_typed_names_iff hd rfl).1 h
    exact ⟨fun _ => .errors herrors.1 herrors.2, fun _ => .permitAll m.user⟩
  refine exists_find?_cons (fun h => ?_) fun hnoAdmin => ?_
  · have hadmin : Beneath ["app", "admin"] d := (applies_beneath_iff hd rfl).1 h
    rw [meets_hasRole_iff]
    refine ⟨.admin hadmin, fun hallowed => ?_⟩
    rcases hallowed.of_app hadmin.first with ⟨-, hrole⟩ | ⟨hnot, -⟩
    · exact hrole
    · exact absurd hadmin hnot
  refine exists_find?_cons (fun h => ?_) fun hnoApp => ?_
  · have hadmin : ¬ Beneath ["app", "admin"] d := mt (applies_beneath_iff hd rfl).2 hnoAdmin
    have happ : Beneath ["app"] d := (applies_beneath_iff hd rfl).1 h
    rw [meets_hasRole_iff]
    refine ⟨.application happ hadmin, fun hallowed => ?_⟩
    rcases hallowed.of_app happ with ⟨h, -⟩ | ⟨-, hrole⟩
    · exact absurd h hadmin
    · exact hrole
  exact exists_row_feed hd (mt (applies_typed_names_iff hd rfl).2 hnoErrors) (mt (applies_beneath_iff hd rfl).2 hnoApp)

end Addressed

/-- **The first rule of the table that applies decides as the policy does**, and for every message there is one. -/
theorem exists_row (m : Message) :
    ∃ row, table.find? (fun row => row.1.applies m) = some row ∧
      (Meets row.2 m.user ↔ Allowed m.user m.type m.destination) := by
  refine exists_find?_cons (fun hnull => ?_) fun hnull => ?_
  · rw [Option.isNone_iff_eq_none.1 hnull]
    exact meets_authenticated_iff
  · obtain ⟨d, hd⟩ : ∃ d, m.destination = some d :=
      Option.ne_none_iff_exists'.1 fun h => hnull (Option.isNone_iff_eq_none.2 h)
    rw [hd]
    exact exists_row_addressed hd

/-! ## The channel -/

section Security

variable {sameOriginDisabled : Bool} {m : Message}

theorem exists_governs (m : Message) :
    ∃ p, RuleRegistry.Governs inboundRules m p ∧
      (p.expression.evaluate Root.builtin (m.context m.user) = .ok true ↔ Allowed m.user m.type m.destination) := by
  obtain ⟨row, hfind, hmeets⟩ := exists_row m
  obtain ⟨p, hp, hvalue⟩ := decides_of_mem_table row (List.mem_of_find?_eq_some hfind)
  refine ⟨p, RuleRegistry.governs_declareAll_iff.2 ⟨row.1, row.2.expression, ?_, hp⟩, (hvalue m).trans hmeets⟩
  rw [entries_inboundRules, List.find?_map]
  exact congrArg (Option.map _) hfind

theorem ruleForbids_iff :
    (security ω sameOriginDisabled).RuleForbids inboundRules m ↔ ¬ Allowed m.user m.type m.destination := by
  obtain ⟨p, hgoverns, hvalue⟩ := exists_governs m
  rw [← hvalue]
  constructor
  · rintro ⟨p', hgoverns', hfalse⟩
    rw [hgoverns.unique hgoverns']
    exact hfalse
  · intro hfalse
    exact ⟨p, hgoverns, hfalse⟩

theorem exists_mediated (ω : Type) (sameOriginDisabled : Bool) :
    ∃ channel, (security ω sameOriginDisabled).channel = .ok channel ∧
      ∀ {α : Type} (handler : MessageHandler ω α) (m : Message) (s : Surroundings ω),
        (security ω sameOriginDisabled).Mediated inboundRules [frameLogger] handler m s (channel.send handler m s) := by
  obtain ⟨rules, hrules⟩ : ∃ rules, (security ω sameOriginDisabled).registry.build = .ok rules := ⟨_, rfl⟩
  have hspares : ∀ i ∈ ([frameLogger] : List (ChannelInterceptor ω)), InboundChannel.SparesIdentity i := by
    intro i hi m s
    rw [List.mem_singleton.1 hi]
    rfl
  exact ⟨_, BrokerSecurity.channel_eq_of_build (fun _ _ => rfl) hrules, BrokerSecurity.mediated_send rfl hrules hspares⟩

end Security

/-! ## Messages and frames -/

/-- The name in which a frame of the user is acknowledged. -/
def senderName : Option User → String
  | some u => u.username
  | none => "anonymous"

/-- The channel hands a message to the handler if the policy allows it, and nothing happens if not.  A frame is answered
with success exactly when its message is handled, and the answer names the sender. -/
structure Enforces (b : BrokerSecurity ω) (channel : InboundChannel ω) : Prop where
  handled : ∀ {α : Type} (handler : MessageHandler ω α) (m : Message) (s : Surroundings ω), b.TokenPasses m →
    Allowed m.user m.type m.destination → channel.send handler m s =
      (.ok (handler m (onBehalf m s)).1, { s with world := (handler m (onBehalf m s)).2.world })
  denied : ∀ {α : Type} (handler : MessageHandler ω α) (m : Message) (s : Surroundings ω), b.TokenPasses m →
    ¬ Allowed m.user m.type m.destination → channel.send handler m s =
      (.error (.accessDenied m.type.name (m.destination.getD "<none>")), s)
  answered : ∀ text sessionId attributes user s, (handleFrame channel text sessionId attributes user s).1.ok = true ↔
    ∃ frame, Frame.ofText? text = some frame ∧ b.TokenPasses (frame.toMessage sessionId attributes user) ∧
      Allowed user frame.type frame.destination
  named : ∀ text sessionId attributes user s frame, Frame.ofText? text = some frame →
    (handleFrame channel text sessionId attributes user s).1.ok = true →
      (handleFrame channel text sessionId attributes user s).1.detail =
        (if frame.type = .connect then "CONNECTED " else frame.type.name ++ " " ++ frame.destination.getD "-" ++ " by ") ++
          senderName user

theorem acknowledge_eq (m : Message) (user : Option User) :
    acknowledge m (user.map Principal.mk) =
      (if m.type = .connect then "CONNECTED " else m.type.name ++ " " ++ m.destination.getD "-" ++ " by ") ++
        senderName user := by
  unfold acknowledge
  cases m.type <;> cases user <;> rfl

theorem handleFrame_of_malformed (channel : InboundChannel ω) {text : String} (h : Frame.ofText? text = none)
    (sessionId : String) (attributes : SessionAttributes) (user : Option User) (s : Surroundings ω) :
    (handleFrame channel text sessionId attributes user s).1 = ⟨false, "malformed frame"⟩ := by
  unfold handleFrame
  rw [h]
  rfl

theorem handleFrame_of_frame (channel : InboundChannel ω) {text : String} {frame : Frame}
    (h : Frame.ofText? text = some frame) (sessionId : String) (attributes : SessionAttributes) (user : Option User)
    (s : Surroundings ω) :
    (handleFrame channel text sessionId attributes user s).1 =
      match (channel.send deliver (frame.toMessage sessionId attributes user) s).1 with
      | .ok detail => ⟨true, detail⟩
      | .error e => ⟨false, e.message⟩ := by
  unfold handleFrame
  rw [h]
  rcases hsend : channel.send deliver (frame.toMessage sessionId attributes user) s with ⟨e | detail, after⟩
  · simp only [bind, StateT.bind, hsend]
    rfl
  · simp only [bind, StateT.bind, hsend]
    rfl

section Sent

variable {sameOriginDisabled : Bool} {channel : InboundChannel ω}

theorem send_of_allowed {handler : MessageHandler ω α} {m : Message} {s : Surroundings ω}
    (h : (security ω sameOriginDisabled).Mediated inboundRules [frameLogger] handler m s (channel.send handler m s))
    (hpasses : (security ω sameOriginDisabled).TokenPasses m) (hallowed : Allowed m.user m.type m.destination) :
    channel.send handler m s =
      (.ok (handler m (onBehalf m s)).1, { s with world := (handler m (onBehalf m s)).2.world }) := by
  have hrules : ¬ (security ω sameOriginDisabled).RuleForbids inboundRules m :=
    fun hforbids => ruleForbids_iff.1 hforbids hallowed
  exact (h.handled hpasses hrules ⟨m, [frameLogger], none⟩ (onBehalf m s) rfl rfl).2

theorem send_of_not_allowed {handler : MessageHandler ω α} {m : Message} {s : Surroundings ω}
    (h : (security ω sameOriginDisabled).Mediated inboundRules [frameLogger] handler m s (channel.send handler m s))
    (hpasses : (security ω sameOriginDisabled).TokenPasses m) (hdenied : ¬ Allowed m.user m.type m.destination) :
    channel.send handler m s = (.error (.accessDenied m.type.name (m.destination.getD "<none>")), s) :=
  h.forbidden hpasses (ruleForbids_iff.2 hdenied)

/-- A message is delivered or refused. -/
theorem deliver_cases {m : Message} {s : Surroundings ω}
    (h : (security ω sameOriginDisabled).Mediated inboundRules [frameLogger] deliver m s (channel.send deliver m s)) :
    ((security ω sameOriginDisabled).TokenPasses m ∧ Allowed m.user m.type m.destination ∧
      (channel.send deliver m s).1 = .ok (acknowledge m (m.user.map Principal.mk))) ∨
    (¬ ((security ω sameOriginDisabled).TokenPasses m ∧ Allowed m.user m.type m.destination) ∧
      ∃ e, (channel.send deliver m s).1 = .error e) := by
  by_cases hpasses : (security ω sameOriginDisabled).TokenPasses m
  · by_cases hallowed : Allowed m.user m.type m.destination
    · refine .inl ⟨hpasses, hallowed, ?_⟩
      rw [send_of_allowed h hpasses hallowed]
      rfl
    · have hsend := send_of_not_allowed h hpasses hallowed
      exact .inr ⟨fun hboth => hallowed hboth.2, _, congrArg Prod.fst hsend⟩
  · obtain ⟨e, he⟩ := h.error_of_not_passes hpasses
    exact .inr ⟨fun hboth => hpasses hboth.1, e, congrArg Prod.fst he⟩

end Sent

/-- **The chat enforces its policy on every message and every frame**, whether or not the same origin is enforced. -/
theorem channel_enforces (ω : Type) (sameOriginDisabled : Bool) :
    ∃ channel, (security ω sameOriginDisabled).channel = .ok channel ∧
      Enforces (security ω sameOriginDisabled) channel := by
  obtain ⟨channel, hchannel, hmediated⟩ := exists_mediated ω sameOriginDisabled
  refine ⟨channel, hchannel, ?_, ?_, ?_, ?_⟩
  · intro α handler m s
    exact send_of_allowed (hmediated handler m s)
  · intro α handler m s
    exact send_of_not_allowed (hmediated handler m s)
  · intro text sessionId attributes user s
    cases hframe : Frame.ofText? text with
    | none =>
      rw [handleFrame_of_malformed channel hframe]
      exact ⟨fun h => absurd h Bool.false_ne_true, fun ⟨_, h, _⟩ => nomatch h⟩
    | some frame =>
      simp only [Option.some.injEq, exists_eq_left']
      rw [handleFrame_of_frame channel hframe]
      rcases deliver_cases (hmediated deliver (frame.toMessage sessionId attributes user) s) with
        ⟨hpasses, hallowed, hsend⟩ | ⟨hnot, e, hsend⟩
      · rw [hsend]
        exact ⟨fun _ => ⟨hpasses, hallowed⟩, fun _ => rfl⟩
      · rw [hsend]
        exact ⟨fun h => absurd h Bool.false_ne_true, fun h => absurd h hnot⟩
  · intro text sessionId attributes user s frame hframe
    rw [handleFrame_of_frame channel hframe]
    rcases deliver_cases (hmediated deliver (frame.toMessage sessionId attributes user) s) with
      ⟨-, -, hsend⟩ | ⟨-, e, hsend⟩
    · rw [hsend]
      exact fun _ => acknowledge_eq _ user
    · rw [hsend]
      exact fun h => absurd h Bool.false_ne_true

theorem channel_enforces_subscribe :
    ∃ channel, (security Unit false).channel = .ok channel ∧ ∀ s,
      let reply := (handleFrame channel "\x7b\"type\":\"SUBSCRIBE\",\"destination\":\"//topic/a/\"\x7d" "1" {}
        (user? "user") s).1
      reply.ok = true ∧ reply.detail = "SUBSCRIBE //topic/a/ by user" := by
  obtain ⟨channel, hchannel, henforces⟩ := channel_enforces Unit false
  refine ⟨channel, hchannel, fun s => ?_⟩
  have hframe : Frame.ofText? "\x7b\"type\":\"SUBSCRIBE\",\"destination\":\"//topic/a/\"\x7d" =
      some { type := .subscribe, destination := some "//topic/a/" } := by decide +kernel
  have hpasses : (security Unit false).TokenPasses
      (Frame.toMessage { type := .subscribe, destination := some "//topic/a/" } "1" {} (user? "user")) := by
    constructor
    · rintro ⟨-, htype, -⟩
      cases htype
    · rintro token ⟨-, htype, -⟩
      cases htype
  have hallowed : Allowed (user? "user") .subscribe (some "//topic/a/") :=
    .feed rfl (.inr (beneath_iff.2 (by decide))) ⟨_, rfl, by decide⟩
  have hok := (henforces.answered _ "1" {} (user? "user") s).2 ⟨_, hframe, hpasses, hallowed⟩
  have hdetail := henforces.named _ "1" {} (user? "user") s _ hframe hok
  exact ⟨hok, hdetail⟩

end Chat
end BrokerGuard
