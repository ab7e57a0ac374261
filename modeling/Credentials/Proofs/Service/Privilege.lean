import Credentials.Proofs.Service.Revocation
import Credentials.Service.Hand

/-!
# What tokens can be traded in for

Every token that is handed out for another one is derived from it: for a
companion there is a login of the same subject, for a login a stored key, and
that for somebody else only if the policy agent says that the subject of the
login administers the platform. Over whole runs nobody gets beyond the subjects
of the tokens they began with, unless the agent says so of one of these.
-/

namespace Credentials

variable {σ : Type}

theorem Answer.mem_tokens_pair {token access refresh : String} :
    token ∈ (Answer.token (.pair access refresh)).tokens ↔ token = access ∨ token = refresh := by
  simp [tokens, Token.pair]

theorem Answer.mem_tokens_persisted {token access id : String} :
    token ∈ (Answer.token (.persisted access id)).tokens ↔ token = access := by
  simp [tokens, Token.persisted]

/-! ## What an agent says -/

/-- A gateway lets pass only what its agent affirms. -/
theorem Gateway.affirms_of_authorize {agent : Agent σ} {r : Relationship} {limit : Duration}
    {s t : σ} (h : authorize agent r limit s = (.value (), t)) : agent.Affirms limit s r := by
  rw [authorize, evaluate] at h
  split at h
  · cases h
  · rw [Call.andThen] at h
    split at h
    · next holds u hevaluate =>
      cases holds with
      | true => exact ⟨u, hevaluate⟩
      | false => cases h
    · cases h
    · cases h

/-- The agent in memory affirms what it holds and nothing else. -/
theorem World.holds_of_affirms {drawn : String} {limit : Duration} {w : World} {r : Relationship}
    (h : (World.backend drawn).agent.Affirms limit w r) : w.relations.holds r = true := by
  obtain ⟨v, h⟩ := h
  simp only [World.backend, Agent.onPart, Call.onPart, Relations.agent, Relations.ask] at h
  split at h
  · simpa using congrArg Prod.fst h
  · cases h

namespace Service

variable (svc : Service)

/-! ## What is derived from a token -/

/-- What the key of a new token has to do with the key of the token that was traded in, in the
eyes of an agent. -/
inductive Derives (affirms : Relationship → Prop) (caller key : Key) : Prop where
  /-- A companion brings the keys of a login of its subject. -/
  | login (companion : caller.keyType = .refresh) (own : key.subject = caller.subject)
  /-- A login brings stored keys of its subject, and of all subjects to an administrator. -/
  | stored (login : caller.keyType = .access)
      (persisted : key.keyType.persistence = .persisted)
      (entitled : key.subject = caller.subject ∨ affirms (.admin caller.subject))

/-- A token that tells a key derived from a token in hand. -/
def IsDerived (affirms : Relationship → Prop) (hand : Set String) (token : String) : Prop :=
  ∃ source ∈ hand, ∃ caller key, svc.codec.decode source = .ok caller ∧
    svc.codec.decode token = .ok key ∧ Derives affirms caller key

theorem Derives.persisted {affirms : Relationship → Prop} {caller key : Key}
    (h : Derives affirms caller key) (hcaller : caller.keyType ≠ .refresh) :
    key.keyType.persistence = .persisted := by
  cases h with
  | login companion => exact absurd companion hcaller
  | stored _ persisted => exact persisted

theorem not_derives {affirms : Relationship → Prop} {caller key : Key}
    (hlogin : caller.keyType ≠ .access) (hcompanion : caller.keyType ≠ .refresh) :
    ¬ Derives affirms caller key := by
  rintro (⟨companion, -⟩ | ⟨login, -, -⟩)
  · exact hcompanion companion
  · exact hlogin login

theorem subject_of_decode {token : String} {key : Key} (h : svc.codec.decode token = .ok key) :
    key.subject ≠ "" :=
  (svc.codec.isCanonical_of_decode h).subject_ne

/-! ## Logins -/

/-- The two tokens of a login are of its subject. -/
theorem tokens_of_loginPair {subject : String} {issuedAt : Instant} {t : Token}
    (h : svc.loginPair subject issuedAt = .ok t) (hsubject : subject ≠ "") {token : String}
    (htoken : token ∈ (Answer.token t).tokens) :
    ∃ key, svc.codec.decode token = .ok key ∧ key.subject = subject := by
  obtain ⟨accessExpiry, refreshExpiry, -, -, ht⟩ := svc.loginPair_eq_ok_iff.1 h
  rw [ht, Answer.mem_tokens_pair] at htoken
  rcases htoken with haccess | hrefresh
  · rw [haccess]
    exact ⟨_, svc.codec.decode_encode_of_subject_ne hsubject, rfl⟩
  · rw [hrefresh]
    exact ⟨_, svc.codec.decode_encode_of_subject_ne hsubject, rfl⟩

variable {svc} {affirms : Relationship → Prop} {hand : Set String} {clock : Clock}
  {source : String} {request : Key} {t : Token}

theorem isDerived_of_exchange (h : svc.exchange clock source = .ok t) (hsource : source ∈ hand)
    {token : String} (htoken : token ∈ (Answer.token t).tokens) :
    svc.IsDerived affirms hand token := by
  obtain ⟨caller, now, hcaller, -, hpair⟩ := svc.loginPair_of_exchange h
  obtain ⟨hdecode, -, htype⟩ := svc.caller_eq_ok_iff.1 hcaller
  obtain ⟨key, hkey, hsubject⟩ :=
    svc.tokens_of_loginPair hpair (svc.subject_of_decode hdecode) htoken
  exact ⟨source, hsource, caller, key, hdecode, hkey, .login htype hsubject⟩

theorem isDerived_of_login (htype : request.keyType = .refresh)
    (h : svc.login clock source request = .ok t) (hsource : source ∈ hand)
    {token : String} (htoken : token ∈ (Answer.token t).tokens) :
    svc.IsDerived affirms hand token := by
  obtain ⟨hpair, hcompanion⟩ := svc.loginPair_of_login h
  obtain ⟨caller, hcaller, hown⟩ := hcompanion htype
  obtain ⟨hdecode, -, hrefresh⟩ := svc.caller_eq_ok_iff.1 hcaller
  rw [← hown] at hpair
  obtain ⟨key, hkey, hsubject⟩ :=
    svc.tokens_of_loginPair hpair (svc.subject_of_decode hdecode) htoken
  exact ⟨source, hsource, caller, key, hdecode, hkey, .login hrefresh hsubject⟩

/-! ## Stored keys -/

theorem isDerived_of_issueStored {b : Backend σ} {s u : σ}
    (htype : request.keyType.persistence = .persisted) (hsubject : request.subject ≠ "")
    (h : svc.issueStored b clock source request s = .ok t u) (hsource : source ∈ hand)
    {token : String} (htoken : token ∈ (Answer.token t).tokens) :
    svc.IsDerived (b.agent.Affirms svc.backendTimeout s) hand token := by
  obtain ⟨caller, expiresAt, id, hcaller, -, hadmin, rfl⟩ := svc.issueStored_eq_ok h
  obtain ⟨hdecode, -, hlogin⟩ := svc.caller_eq_ok_iff.1 hcaller
  have hentitled : request.subject = caller.subject ∨
      b.agent.Affirms svc.backendTimeout s (.admin caller.subject) :=
    hadmin.imp_right fun ⟨_, hcheck⟩ => Gateway.affirms_of_authorize hcheck
  rw [handOut, Answer.mem_tokens_persisted] at htoken
  rw [htoken]
  exact ⟨source, hsource, caller, _, hdecode, svc.codec.decode_encode_of_subject_ne hsubject,
    .stored hlogin htype hentitled⟩

/-! ## One call -/

variable {b : Backend σ} {h : Hand σ} {op : Operation} {a : Answer}

theorem move_ask_of_ok {u : σ} (hperform : svc.perform b clock op h.state = .ok a u) :
    svc.move h (.ask b clock op)
      = (some a, { state := u, tokens := h.tokens ∪ { token | token ∈ a.tokens } }) := by
  rw [move, hperform]

theorem move_ask_eq_some (hanswer : (svc.move h (.ask b clock op)).1 = some a) :
    ∃ u, svc.perform b clock op h.state = .ok a u := by
  cases hperform : svc.perform b clock op h.state with
  | ok found u =>
    rw [move_ask_of_ok hperform] at hanswer
    cases hanswer
    exact ⟨u, rfl⟩
  | error halt u =>
    rw [move, hperform] at hanswer
    cases hanswer

/-- A call that is open to the party brings in a token or nothing, and what a token brings is
derived from the tokens in hand. -/
theorem isDerived_of_ask (hallowed : h.Allows (.ask b clock op))
    (hanswer : (svc.move h (.ask b clock op)).1 = some a) :
    ∃ t, a = .token t ∧ ∀ token ∈ (Answer.token t).tokens,
      svc.IsDerived (b.agent.Affirms svc.backendTimeout h.state) h.tokens token := by
  obtain ⟨u, hperform⟩ := move_ask_eq_some hanswer
  cases op with
  | refresh source =>
    obtain ⟨t, hrefresh, ht⟩ := map_eq_ok_iff.1 hperform
    have hexchange := (settle_eq_ok_iff.1 hrefresh).1
    exact ⟨t, ht.symm, fun token htoken => isDerived_of_exchange hexchange hallowed htoken⟩
  | issue source request =>
    obtain ⟨t, hissue, ht⟩ := map_eq_ok_iff.1 hperform
    obtain ⟨hsource, hkind⟩ := hallowed
    refine ⟨t, ht.symm, fun token htoken => ?_⟩
    cases htype : request.keyType.persistence with
    | stateless =>
      have hrefresh : request.keyType = .refresh := by
        cases hkey : request.keyType <;> simp_all [KeyType.persistence]
      rw [svc.issue_of_stateless h.state htype] at hissue
      exact isDerived_of_login hrefresh (settle_eq_ok_iff.1 hissue).1 hsource htoken
    | persisted =>
      obtain ⟨hvet, hstored⟩ := svc.issueStored_of_issue htype hissue
      exact isDerived_of_issueStored htype (svc.subject_of_vet hvet) hstored hsource htoken
  | _ => exact hallowed.elim

theorem isDerived_of_move {m : Move σ} (hallowed : h.Allows m)
    (hanswer : (svc.move h m).1 = some a) :
    ∃ t b, a = .token t ∧ m.backend? = some b ∧ ∀ token ∈ (Answer.token t).tokens,
      svc.IsDerived (b.agent.Affirms svc.backendTimeout h.state) h.tokens token := by
  cases m with
  | others change => cases hanswer
  | ask b clock op =>
    obtain ⟨t, ht, hderived⟩ := isDerived_of_ask hallowed hanswer
    exact ⟨t, b, ht, rfl, hderived⟩

/-! ## Whole runs -/

variable {m : Move σ} {moves : List (Move σ)} {token : String}

theorem mem_gains_cons :
    token ∈ svc.gains h (m :: moves) ↔
      (∃ a, (svc.move h m).1 = some a ∧ token ∈ a.tokens) ∨
        token ∈ svc.gains (svc.move h m).2 moves := by
  simp only [gains, play, Set.mem_ofPred_eq, List.mem_append, Option.mem_toList, or_and_right,
    exists_or]

theorem mem_tokens_move :
    token ∈ (svc.move h m).2.tokens ↔
      token ∈ h.tokens ∨ ∃ a, (svc.move h m).1 = some a ∧ token ∈ a.tokens := by
  cases m with
  | others change => simp [move]
  | ask b clock op =>
    cases hperform : svc.perform b clock op h.state with
    | ok a u => simp [move_ask_of_ok hperform]
    | error halt u => simp [move, hperform]

theorem throughout_true (svc : Service) (h : Hand σ) (moves : List (Move σ)) :
    svc.Throughout (fun _ _ => True) h moves := by
  induction moves generalizing h with
  | nil => trivial
  | cons m moves ih => exact ⟨fun _ _ => trivial, ih _⟩

/-- Whatever a run answers are tokens. -/
theorem token_of_mem_play (hallowed : svc.AllAllowed h moves) (hanswer : a ∈ svc.play h moves) :
    ∃ t, a = .token t ∧ t.accessToken ∈ svc.gains h moves := by
  induction moves generalizing h with
  | nil => cases hanswer
  | cons m moves ih =>
    obtain ⟨hallow, hallowed⟩ := hallowed
    rcases List.mem_append.1 hanswer with hnow | hlater
    · have hmove := Option.mem_toList.1 hnow
      obtain ⟨t, b, rfl, -⟩ := isDerived_of_move hallow hmove
      exact ⟨t, rfl, mem_gains_cons.2 (.inl ⟨_, hmove, List.mem_cons_self⟩)⟩
    · obtain ⟨t, rfl, hgain⟩ := ih hallowed hlater
      exact ⟨t, rfl, mem_gains_cons.2 (.inr hgain)⟩

/-- Over a run, whatever holds of the keys in hand and passes on to derived keys holds of all keys
that come in hand; and each token that is brought in tells a key derived from such a key. -/
theorem derives_of_mem_gains {P : Key → Prop} {condition : Backend σ → σ → Prop}
    (hpasses : ∀ b s caller key, condition b s → P caller →
      Derives (b.agent.Affirms svc.backendTimeout s) caller key → P key)
    (hallowed : svc.AllAllowed h moves) (hthroughout : svc.Throughout condition h moves)
    (hhand : ∀ token ∈ h.tokens, ∀ key, svc.codec.decode token = .ok key → P key)
    (htoken : token ∈ svc.gains h moves) :
    ∃ b s caller key, condition b s ∧ P caller ∧
      Derives (b.agent.Affirms svc.backendTimeout s) caller key ∧
      svc.codec.decode token = .ok key := by
  induction moves generalizing h with
  | nil =>
    obtain ⟨a, ha, -⟩ := htoken
    cases ha
  | cons m moves ih =>
    obtain ⟨hallow, hallowed⟩ := hallowed
    obtain ⟨hcondition, hthroughout⟩ := hthroughout
    have hfirst : ∀ new, (∃ a, (svc.move h m).1 = some a ∧ new ∈ a.tokens) →
        ∃ b s caller key, condition b s ∧ P caller ∧
          Derives (b.agent.Affirms svc.backendTimeout s) caller key ∧
          svc.codec.decode new = .ok key := by
      rintro new ⟨a, hanswer, hnew⟩
      obtain ⟨t, b, rfl, hb, hderived⟩ := isDerived_of_move hallow hanswer
      obtain ⟨source, hsource, caller, key, hcaller, hkey, hderives⟩ := hderived new hnew
      exact ⟨b, h.state, caller, key, hcondition b hb, hhand source hsource caller hcaller,
        hderives, hkey⟩
    rcases mem_gains_cons.1 htoken with hnow | hlater
    · exact hfirst token hnow
    · refine ih hallowed hthroughout ?_ hlater
      intro other hother key hkey
      rcases mem_tokens_move.1 hother with hold | hnew
      · exact hhand other hold key hkey
      · obtain ⟨b, s, caller, new, hcondition, hcaller, hderives, hnew⟩ := hfirst other hnew
        rw [hnew] at hkey
        cases hkey
        exact hpasses b s caller _ hcondition hcaller hderives

/-- The subjects of the tokens in a set. -/
def subjects (svc : Service) (tokens : Set String) : Set String :=
  { subject | ∃ token ∈ tokens, ∃ key, svc.codec.decode token = .ok key ∧ key.subject = subject }

/-- Whether no token in a set tells a key of a type. -/
def HasNo (svc : Service) (keyType : KeyType) (tokens : Set String) : Prop :=
  ∀ token ∈ tokens, ∀ key, svc.codec.decode token = .ok key → key.keyType ≠ keyType

theorem mem_subjects_of_derives {initial : Set String} {caller key : Key}
    (hadmin : ∀ subject ∈ svc.subjects initial, ¬ affirms (.admin subject))
    (hcaller : caller.subject ∈ svc.subjects initial) (h : Derives affirms caller key) :
    key.subject ∈ svc.subjects initial := by
  cases h with
  | login _ own => exact own ▸ hcaller
  | stored _ _ entitled =>
    rcases entitled with own | administers
    · exact own ▸ hcaller
    · exact absurd administers (hadmin _ hcaller)

/-- Tokens lead to no subject but those they began with, unless the policy agent says of one of
these that it administers the platform; without a companion they lead to stored keys only; and
without a login or a companion to nothing. This is so for every run of exchanges and requests with
tokens in hand, by any clocks, with any backends and whatever others do to them in between. -/
theorem privilege_is_closed (hallowed : svc.AllAllowed h moves) :
    (svc.Throughout (fun b s => ∀ subject ∈ svc.subjects h.tokens,
        ¬ b.agent.Affirms svc.backendTimeout s (.admin subject)) h moves →
      ∀ token ∈ svc.gains h moves, ∃ key, svc.codec.decode token = .ok key ∧
        key.subject ∈ svc.subjects h.tokens) ∧
    (svc.HasNo .refresh h.tokens →
      ∀ token ∈ svc.gains h moves, ∃ key, svc.codec.decode token = .ok key ∧
        (key.keyType = .api ∨ key.keyType = .recovery)) ∧
    (svc.HasNo .access h.tokens → svc.HasNo .refresh h.tokens → svc.play h moves = []) := by
  refine ⟨fun hadmin token htoken => ?_, fun hcompanion token htoken => ?_, ?_⟩
  · obtain ⟨b, s, caller, key, hs, hcaller, hderives, hkey⟩ := derives_of_mem_gains
      (P := fun key => key.subject ∈ svc.subjects h.tokens)
      (fun _ _ _ _ hadmin => mem_subjects_of_derives hadmin) hallowed hadmin
      (fun token htoken key hkey => ⟨token, htoken, key, hkey, rfl⟩) htoken
    exact ⟨key, hkey, mem_subjects_of_derives hs hcaller hderives⟩
  · -- a stored key brings in nothing, so no companion ever comes in hand
    obtain ⟨b, s, caller, key, -, hcaller, hderives, hkey⟩ := derives_of_mem_gains
      (P := fun key => key.keyType ≠ .refresh)
      (fun _ _ _ _ _ hcaller hderives => ne_refresh_of_persisted (hderives.persisted hcaller))
      hallowed (throughout_true svc h moves) hcompanion htoken
    exact ⟨key, hkey, persisted_iff.1 (hderives.persisted hcaller)⟩
  · intro hlogin hcompanion
    refine List.eq_nil_iff_forall_not_mem.2 fun a hanswer => ?_
    obtain ⟨t, rfl, hgain⟩ := token_of_mem_play hallowed hanswer
    obtain ⟨b, s, caller, key, -, hcaller, hderives, -⟩ := derives_of_mem_gains
      (P := fun key => key.keyType ≠ .access ∧ key.keyType ≠ .refresh)
      (fun _ _ _ _ _ hcaller hderives => absurd hderives (not_derives hcaller.1 hcaller.2))
      hallowed (throughout_true svc h moves)
      (fun token htoken key hkey =>
        ⟨hlogin token htoken key hkey, hcompanion token htoken key hkey⟩)
      hgain
    exact not_derives hcaller.1 hcaller.2 hderives

/-! ## A party at work -/

/-- The companion of a login on the morning of 14 November 2023. -/
def morningCompanion (subject : String) : Key where
  keyType := .refresh
  subject := subject
  issuedAt := morning
  expiresAt := some ⟨1700006400250000000, by decide, by decide⟩

theorem caller_morningCompanion {subject : String} (h : subject ≠ "") :
    usual.caller (.showing morning) (usual.codec.encode (morningCompanion subject)) .refresh
      = .ok (morningCompanion subject).signed := by
  have hissued : morning.floor ≤ morningTolerance := by decide
  have hexpiry : ¬ (1700006400000000000 : Int) ≤ morning.nanos := by decide
  have hcurrent : (morningCompanion subject).signed.IsCurrent morning morningTolerance :=
    Key.isCurrent_iff.2 ⟨hissued, decide_eq_false hexpiry⟩
  exact usual.caller_encode h ⟨morning, morningTolerance, rfl, rfl, hcurrent⟩

/-- Alice exchanges her companion after Bob was made an administrator. She gets tokens, and they
are all her own. -/
theorem privilege_is_closed_for_alice :
    let companion := usual.codec.encode (morningCompanion "alice")
    let hand : Hand World := { state := {}, tokens := {companion} }
    let moves : List (Move World) := [
      .others fun w => { w with relations := w.relations.insert (.admin "bob") },
      .ask (World.backend "") (.showing morning) (.refresh companion)]
    usual.AllAllowed hand moves ∧ (∃ token, token ∈ usual.gains hand moves) ∧
      ∀ token ∈ usual.gains hand moves, ∃ key, usual.codec.decode token = .ok key ∧
        key.subject ∈ usual.subjects hand.tokens := by
  intro companion hand moves
  have hcaller := caller_morningCompanion (show "alice" ≠ "" by decide)
  obtain ⟨t, hpair⟩ : ∃ t, usual.loginPair "alice" morning = .ok t :=
    ⟨_, usual.loginPair_eq_ok_iff.2 ⟨_, _, rfl, rfl, rfl⟩⟩
  have hexchange : usual.exchange (.showing morning) companion = .ok t :=
    bind_eq_ok_iff.2 ⟨_, hcaller, bind_eq_ok_iff.2 ⟨morning, rfl, hpair⟩⟩
  have hperform (w : World) :
      usual.perform (World.backend "") (.showing morning) (.refresh companion) w
        = .ok (.token t) w :=
    map_eq_ok_iff.2 ⟨t, settle_eq_ok_iff.2 ⟨hexchange, rfl⟩, rfl⟩
  have halice : ∀ subject ∈ usual.subjects hand.tokens, subject = "alice" := by
    rintro subject ⟨token, rfl, key, hkey, rfl⟩
    have htold : usual.codec.decode (usual.codec.encode (morningCompanion "alice"))
        = .ok (morningCompanion "alice").signed :=
      usual.codec.decode_encode_of_subject_ne (by decide)
    rw [htold] at hkey
    cases hkey
    rfl
  have hallowed : usual.AllAllowed hand moves := ⟨trivial, rfl, trivial⟩
  have hadmin : usual.Throughout (fun b s => ∀ subject ∈ usual.subjects hand.tokens,
      ¬ b.agent.Affirms usual.backendTimeout s (.admin subject)) hand moves := by
    refine ⟨fun _ hb => (by cases hb), ?_, trivial⟩
    rintro _ ⟨⟩ subject hsubject haffirms
    rw [halice subject hsubject] at haffirms
    have hholds := World.holds_of_affirms haffirms
    revert hholds
    decide
  have hgain : t.accessToken ∈ usual.gains hand moves := by
    refine mem_gains_cons.2 (.inr (mem_gains_cons.2 (.inl ⟨.token t, ?_, List.mem_cons_self⟩)))
    rw [move_ask_of_ok (hperform _)]
  exact ⟨hallowed, ⟨_, hgain⟩, (usual.privilege_is_closed hallowed).1 hadmin⟩

end Service

end Credentials
