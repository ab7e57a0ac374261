import Credentials.Proofs.Service.Revocation
import Credentials.Proofs.Store.Tenancy
import Credentials.Service.Tenancy

/-!
# Tenants do not see each other

Whoever has keys issued learns nothing from managing them about the keys of other
issuers, and notices nothing of how these manage theirs. Two runs are compared:
over two stores that agree on the records of one issuer, and with and without the
key management of the others.
-/

namespace Credentials

theorem Event.managerToken?_eq_some_iff {e : Event} {token : String} :
    e.managerToken? = some token ↔ ∃ clock drawn id,
      e = .call clock drawn (.retrieve token id) ∨ e = .call clock drawn (.revoke token id) := by
  constructor
  · intro h
    unfold managerToken? at h
    split at h
    · next clock drawn _ id =>
      cases h
      exact ⟨clock, drawn, id, .inl rfl⟩
    · next clock drawn _ id =>
      cases h
      exact ⟨clock, drawn, id, .inr rfl⟩
    · cases h
  · rintro ⟨clock, drawn, id, rfl | rfl⟩ <;> rfl

theorem Service.vouches_of_agreeOn {issuer : String} {s t : KeyStore}
    (h : KeyStore.AgreeOn issuer s t) {key : Key} (hissuer : key.issuer = issuer) (id : String) :
    vouches s id key = vouches t id key := by
  rw [Bool.eq_iff_iff, vouches_iff, vouches_iff]
  refine exists_congr fun record => ?_
  constructor
  · rintro ⟨hfound, howner, hsame⟩
    exact ⟨(h id record (howner.trans hissuer)).1 hfound, howner, hsame⟩
  · rintro ⟨hfound, howner, hsame⟩
    exact ⟨(h id record (howner.trans hissuer)).2 hfound, howner, hsame⟩

theorem Service.bearer_of_agreeOn {issuer : String} {s t : KeyStore}
    (h : KeyStore.AgreeOn issuer s t) {key : Key}
    (hissuer : key.keyType.persistence = .persisted → key.issuer = issuer) :
    bearer s key = bearer t key := by
  cases htype : key.keyType.persistence with
  | stateless => rw [bearer, bearer, htype]
  | persisted =>
    cases hid : key.id with
    | none => rw [bearer, bearer, confirmed, confirmed, hid]
    | some id =>
      rw [bearer_of_persisted htype hid, bearer_of_persisted htype hid,
        vouches_of_agreeOn h (hissuer htype) id]

namespace Service

variable {svc : Service} {subject token : String} {v w : World} {e : Event} {events : List Event}

/-! ## Who manages keys -/

theorem speaksFor_of_decode {key : Key} (h : svc.codec.decode token = .ok key) :
    svc.speaksFor subject token = decide (key.subject = subject) := by
  rw [speaksFor, h]
  rfl

/-- Key management leaves everything as it is, or removes a record for the subject of its token. -/
theorem react_of_managerToken (htoken : e.managerToken? = some token) (w : World) :
    (svc.react w e).2 = w ∨ ∃ caller id, svc.codec.decode token = .ok caller ∧
      (svc.react w e).2 = { w with keys := w.keys.remove caller.subject id } := by
  obtain ⟨clock, drawn, id, rfl | rfl⟩ := Event.managerToken?_eq_some_iff.1 htoken
  · exact .inl (by rw [react_retrieve])
  · rw [react_revoke]
    cases hcaller : svc.caller clock token .access with
    | error halt => exact .inl rfl
    | ok caller => exact .inr ⟨caller, id, (svc.caller_eq_ok_iff.1 hcaller).1, rfl⟩

theorem isOwn_iff : svc.isOwn subject e = true ↔
    ∃ token, e.managerToken? = some token ∧ svc.speaksFor subject token = true := by
  rw [isOwn, Option.any_eq_true]

theorem isForeign_iff : svc.isForeign subject e = true ↔
    ∃ token, e.managerToken? = some token ∧ svc.speaksFor subject token = false := by
  simp [isForeign, Option.any_eq_true]

theorem isOwn_of_concerns (htoken : e.managerToken? = some token)
    (h : svc.concerns subject e = true) : svc.isOwn subject e = true := by
  obtain ⟨clock, drawn, id, rfl | rfl⟩ := Event.managerToken?_eq_some_iff.1 htoken <;>
    simpa [concerns, isForeign, isOwn, Event.managerToken?] using h

theorem not_concerns_of_isForeign (h : svc.isForeign subject e = true) :
    ¬ svc.concerns subject e = true := by
  intro hconcerns
  obtain ⟨token, htoken, hspeaks⟩ := isForeign_iff.1 h
  obtain ⟨other, hother, hown⟩ := isOwn_iff.1 (isOwn_of_concerns htoken hconcerns)
  rw [htoken] at hother
  cases hother
  rw [hspeaks] at hown
  cases hown

theorem issuer_of_not_tellsForeignKey {key : Key} (hdecode : svc.codec.decode token = .ok key)
    (h : svc.tellsForeignKey subject token = false)
    (htype : key.keyType.persistence = .persisted) : key.issuer = subject := by
  simpa [tellsForeignKey, hdecode, htype, Except.toOption] using h

/-! ## One's own key management -/

/-- The records of a subject decide what its key management comes to, and it leaves two stores
that agree on them in agreement. -/
theorem react_own (h : KeyStore.AgreeOn subject v.keys w.keys)
    (he : svc.isOwn subject e = true) :
    (svc.react v e).1 = (svc.react w e).1 ∧
      KeyStore.AgreeOn subject (svc.react v e).2.keys (svc.react w e).2.keys := by
  obtain ⟨token, htoken, hspeaks⟩ := isOwn_iff.1 he
  obtain ⟨clock, drawn, id, rfl | rfl⟩ := Event.managerToken?_eq_some_iff.1 htoken
  · rw [react_retrieve, react_retrieve]
    refine ⟨?_, h⟩
    cases hcaller : svc.caller clock token .access with
    | error halt => rfl
    | ok caller =>
      have hown : caller.subject = subject := by
        simpa [speaksFor_of_decode (svc.caller_eq_ok_iff.1 hcaller).1] using hspeaks
      simp only [bind, Except.bind, hown, h.retrieve]
  · rw [react_revoke, react_revoke]
    cases svc.caller clock token .access with
    | error halt => exact ⟨rfl, h⟩
    | ok caller => exact ⟨rfl, h.remove caller.subject id⟩

/-- Key management touches no record of another issuer. -/
theorem agreeOn_react_own (he : svc.isOwn subject e = true) {issuer : String}
    (hissuer : issuer ≠ subject) (w : World) :
    KeyStore.AgreeOn issuer (svc.react w e).2.keys w.keys := by
  obtain ⟨token, htoken, hspeaks⟩ := isOwn_iff.1 he
  rcases react_of_managerToken htoken w with hsame | ⟨caller, id, hdecode, hremove⟩
  · rw [hsame]
    exact KeyStore.AgreeOn.refl issuer w.keys
  · have hown : caller.subject = subject := by
      simpa [speaksFor_of_decode hdecode] using hspeaks
    rw [hremove, hown]
    exact KeyStore.agreeOn_remove hissuer.symm w.keys id

theorem outcomes_own (h : KeyStore.AgreeOn subject v.keys w.keys)
    (hown : ∀ e ∈ events, svc.isOwn subject e = true) :
    svc.outcomes v events = svc.outcomes w events ∧
      KeyStore.AgreeOn subject (svc.run v events).keys (svc.run w events).keys := by
  induction events generalizing v w with
  | nil => exact ⟨rfl, h⟩
  | cons e events ih =>
    obtain ⟨he, hown⟩ := List.forall_mem_cons.1 hown
    obtain ⟨hfirst, hkeys⟩ := react_own h he
    obtain ⟨hrest, hrun⟩ := ih hkeys hown
    refine ⟨?_, hrun⟩
    rw [outcomes, outcomes, hfirst, hrest]

theorem agreeOn_run_own (hown : ∀ e ∈ events, svc.isOwn subject e = true) {issuer : String}
    (hissuer : issuer ≠ subject) (w : World) :
    KeyStore.AgreeOn issuer (svc.run w events).keys w.keys := by
  induction events generalizing w with
  | nil => exact KeyStore.AgreeOn.refl issuer w.keys
  | cons e events ih =>
    obtain ⟨he, hown⟩ := List.forall_mem_cons.1 hown
    exact (ih hown _).trans (agreeOn_react_own he hissuer w)

/-- To a caller who did not issue it, a key might as well not be there: it is not found, and there
is nothing to revoke. -/
theorem react_of_not_issued {clock : Clock} {caller : Key} {id : String}
    (hcaller : svc.caller clock token .access = .ok caller)
    (h : ∀ record, w.keys.find? id = some record → record.issuer ≠ caller.subject)
    (drawn : String) :
    svc.react w (.call clock drawn (.retrieve token id)) = (.halted (.refused .notFound), w) ∧
      svc.react w (.call clock drawn (.revoke token id)) = (.answered .done, w) := by
  have hnot : w.keys.owns caller.subject id = false := by
    rw [Bool.eq_false_iff]
    intro howns
    obtain ⟨record, hfound, hissuer⟩ := KeyStore.owns_iff.1 howns
    exact h record hfound hissuer
  constructor
  · have hretrieve : w.keys.retrieve caller.subject id = .error .notFound :=
      KeyStore.retrieve_eq_error_iff.2 ⟨rfl, hnot⟩
    rw [react_retrieve, hcaller]
    simp only [bind, Except.bind, hretrieve]
    rfl
  · rw [react_revoke, hcaller]
    simp only [KeyStore.remove_of_not_owns hnot]

/-- A caller learns nothing about the keys of other issuers. Over two stores that hold the same
records of a subject, whatever else is live or was removed in them, any key management of the
subject comes to the same, and leaves them with the same records of the subject and with all
records of others as they were. A key of another issuer is answered for like one that is not
there. -/
theorem management_tells_nothing_of_others (hrecords : KeyStore.AgreeOn subject v.keys w.keys)
    (hown : ∀ e ∈ events, svc.isOwn subject e = true) :
    svc.outcomes v events = svc.outcomes w events ∧
    KeyStore.AgreeOn subject (svc.run v events).keys (svc.run w events).keys ∧
    (∀ issuer, issuer ≠ subject →
      KeyStore.AgreeOn issuer (svc.run v events).keys v.keys ∧
        KeyStore.AgreeOn issuer (svc.run w events).keys w.keys) ∧
    ∀ (u : World) (clock : Clock) (drawn token id : String) (caller : Key),
      svc.caller clock token .access = .ok caller → caller.subject = subject →
      (∀ record, u.keys.find? id = some record → record.issuer ≠ subject) →
      svc.react u (.call clock drawn (.retrieve token id)) = (.halted (.refused .notFound), u) ∧
        svc.react u (.call clock drawn (.revoke token id)) = (.answered .done, u) := by
  obtain ⟨houtcomes, hrun⟩ := outcomes_own hrecords hown
  refine ⟨houtcomes, hrun, ?_, ?_⟩
  · intro issuer hissuer
    exact ⟨agreeOn_run_own hown hissuer v, agreeOn_run_own hown hissuer w⟩
  · rintro u clock drawn token id caller hcaller rfl hothers
    exact react_of_not_issued hcaller hothers drawn

/-- Two worlds in which Alice's one record is the same: in one Bob's key is live, in the other
it was removed. She asks for it, has it revoked, and asks for her own. -/
theorem management_tells_nothing_to_alice :
    let login := usual.codec.encode (morningLogin "alice")
    let now : Clock := .showing morning
    let events : List Event := [
      .call now "" (.retrieve login "k"),
      .call now "" (.revoke login "k"),
      .call now "" (.retrieve login "own")]
    let hers : Key := {
      id := some "own", keyType := .api, issuer := "alice", subject := "alice",
      issuedAt := morning }
    let his : Key := { hers with id := some "k", issuer := "bob", subject := "bob" }
    let v : World := { keys := { records := [("k", his), ("own", hers)] } }
    let w : World := { keys := { records := [("own", hers)], removed := ["k"] } }
    KeyStore.AgreeOn "alice" v.keys w.keys ∧ usual.outcomes v events = usual.outcomes w events ∧
      (usual.react v (.call now "" (.retrieve login "k")) = (.halted (.refused .notFound), v) ∧
        usual.react v (.call now "" (.revoke login "k")) = (.answered .done, v)) ∧
      usual.react w (.call now "" (.retrieve login "k")) = (.halted (.refused .notFound), w) ∧
        usual.react w (.call now "" (.revoke login "k")) = (.answered .done, w) := by
  intro login now events hers his v w
  have hlogin := caller_morningLogin (show "alice" ≠ "" by decide)
  have hown : ∀ e ∈ events, usual.isOwn "alice" e = true := by
    have hspeaks : usual.speaksFor "alice" login = true :=
      speaksFor_of_decode (usual.caller_eq_ok_iff.1 hlogin).1
    have hretrieve (id : String) : usual.isOwn "alice" (.call now "" (.retrieve login id)) = true :=
      isOwn_iff.2 ⟨login, rfl, hspeaks⟩
    have hrevoke (id : String) : usual.isOwn "alice" (.call now "" (.revoke login id)) = true :=
      isOwn_iff.2 ⟨login, rfl, hspeaks⟩
    intro e he
    simp only [events, List.mem_cons, List.not_mem_nil, or_false] at he
    rcases he with rfl | rfl | rfl
    · exact hretrieve "k"
    · exact hrevoke "k"
    · exact hretrieve "own"
  have hv : ∀ id, v.keys.find? id = if id = "k" then some his else w.keys.find? id := by
    intro id
    by_cases hid : id = "k"
    · subst hid
      rfl
    · have hne : (id == "k") = false := by simpa using hid
      simp [v, w, KeyStore.find?, List.lookup_cons, hne, hid]
  have hw : w.keys.find? "k" = none := by decide
  have hrecords : KeyStore.AgreeOn "alice" v.keys w.keys := by
    intro id record hissuer
    rw [hv]
    by_cases hid : id = "k"
    · subst hid
      rw [if_pos rfl, hw]
      constructor
      · intro hrecord
        cases hrecord
        exact absurd hissuer (by decide)
      · intro hrecord
        cases hrecord
    · rw [if_neg hid]
  obtain ⟨houtcomes, -, -, hothers⟩ :=
    usual.management_tells_nothing_of_others hrecords hown
  refine ⟨hrecords, houtcomes, hothers v now "" login "k" _ hlogin rfl ?_,
    hothers w now "" login "k" _ hlogin rfl ?_⟩
  · intro record hfound
    rw [hv] at hfound
    cases hfound
    decide
  · intro record hfound
    rw [hw] at hfound
    cases hfound

end Service

/-! ## Others' key management -/

/-- Two worlds that look the same to a subject, and to whoever has keys issued. -/
structure World.Alike (subject : String) (v w : World) : Prop where
  relations : v.relations = w.relations
  keys : KeyStore.Alike subject v.keys w.keys

namespace World.Alike

variable {svc : Service} {subject token : String} {v w : World} {e : Event}

theorem refl (subject : String) (w : World) : Alike subject w w where
  relations := rfl
  keys := KeyStore.Alike.refl subject w.keys

/-- A record is filed in both worlds or in neither, since an id is taken in both or in neither. -/
theorem filing (h : Alike subject v w) (id : String) (key : Key) (conflict filed : Outcome) :
    let filing (w : World) : Outcome × World :=
      if w.keys.IsTaken id then (conflict, w) else (filed, { w with keys := w.keys.file id key })
    (filing v).1 = (filing w).1 ∧ Alike subject (filing v).2 (filing w).2 := by
  intro filing
  simp only [filing]
  by_cases htaken : v.keys.IsTaken id
  · rw [if_pos htaken, if_pos ((h.keys.taken id).1 htaken)]
    exact ⟨rfl, h⟩
  · have hfree : ¬ w.keys.IsTaken id := fun hw => htaken ((h.keys.taken id).2 hw)
    rw [if_neg htaken, if_neg hfree]
    exact ⟨rfl, h.relations, h.keys.file htaken key⟩

theorem react_issue (h : Alike subject v w) (svc : Service) (clock : Clock) (drawn token : String)
    (key : Key) : let e : Event := .call clock drawn (.issue token key)
    (svc.react v e).1 = (svc.react w e).1 ∧ Alike subject (svc.react v e).2 (svc.react w e).2 := by
  intro e
  cases htype : key.keyType.persistence with
  | stateless =>
    rw [svc.react_issue_of_stateless v clock drawn htype,
      svc.react_issue_of_stateless w clock drawn htype]
    exact ⟨rfl, h⟩
  | persisted =>
    have hgrant : svc.grant v.relations clock token key = svc.grant w.relations clock token key := by
      rw [h.relations]
    rw [svc.react_issue_of_persisted v clock drawn htype,
      svc.react_issue_of_persisted w clock drawn htype, hgrant]
    cases svc.grant w.relations clock token key with
    | error halt => exact ⟨rfl, h⟩
    | ok record => exact h.filing drawn record _ _

theorem bearer_eq (h : Alike subject v w) (hown : svc.tellsForeignKey subject token = false)
    (clock : Clock) : (svc.liveKey clock token >>= Service.bearer v.keys)
      = svc.liveKey clock token >>= Service.bearer w.keys := by
  cases hlive : svc.liveKey clock token with
  | error halt => rfl
  | ok key =>
    have hdecode := (svc.liveKey_eq_ok_iff.1 hlive).1
    exact Service.bearer_of_agreeOn h.keys.records
      (Service.issuer_of_not_tellsForeignKey hdecode hown)

/-- Two worlds that look the same still do after whatever happens in both of them, and if it is a
concern of the subject, it comes to the same. -/
theorem react (h : Alike subject v w) (svc : Service) (e : Event) :
    (svc.concerns subject e = true → (svc.react v e).1 = (svc.react w e).1) ∧
      Alike subject (svc.react v e).2 (svc.react w e).2 := by
  cases e with
  | switch available =>
    refine ⟨fun _ => rfl, ?_, h.keys⟩
    change { v.relations with available } = { w.relations with available }
    rw [h.relations]
  | save drawn key =>
    obtain ⟨houtcome, hworld⟩ :=
      h.filing (key.id.getD drawn) key (.notSaved .conflict) (.saved (key.id.getD drawn))
    rw [svc.react_save, svc.react_save]
    exact ⟨fun _ => houtcome, hworld⟩
  | remove issuer id => exact ⟨fun _ => rfl, h.relations, h.keys.remove issuer id⟩
  | call clock drawn op =>
    cases op with
    | issue token key =>
      obtain ⟨houtcome, hworld⟩ := h.react_issue svc clock drawn token key
      exact ⟨fun _ => houtcome, hworld⟩
    | identify token =>
      rw [svc.react_identify, svc.react_identify]
      refine ⟨?_, h⟩
      intro hconcerns
      have hown : svc.tellsForeignKey subject token = false := by
        simpa [Service.concerns] using hconcerns
      rw [h.bearer_eq hown]
    | retrieve token id =>
      refine ⟨?_, ?_⟩
      · intro hconcerns
        exact (Service.react_own h.keys.records (Service.isOwn_of_concerns rfl hconcerns)).1
      · rw [svc.react_retrieve, svc.react_retrieve]
        exact h
    | revoke token id =>
      refine ⟨?_, ?_⟩
      · intro hconcerns
        exact (Service.react_own h.keys.records (Service.isOwn_of_concerns rfl hconcerns)).1
      · rw [svc.react_revoke, svc.react_revoke]
        cases svc.caller clock token .access with
        | error halt => exact h
        | ok caller => exact ⟨h.relations, h.keys.remove caller.subject id⟩
    | refresh token =>
      rw [svc.react_refresh, svc.react_refresh]
      exact ⟨fun _ => rfl, h⟩
    -- the rest asks the policy agent and nobody else
    | authorize r =>
      rw [svc.react_authorize, svc.react_authorize, h.relations]
      exact ⟨fun _ => rfl, h⟩
    | addPolicy r =>
      rw [svc.react_addPolicy, svc.react_addPolicy, h.relations]
      exact ⟨fun _ => rfl, rfl, h.keys⟩
    | deletePolicy r =>
      rw [svc.react_deletePolicy, svc.react_deletePolicy, h.relations]
      exact ⟨fun _ => rfl, rfl, h.keys⟩
    | listObjects subject relation =>
      rw [svc.react_listObjects, svc.react_listObjects, h.relations]
      exact ⟨fun _ => rfl, h⟩
    | listSubjects object relation =>
      rw [svc.react_listSubjects, svc.react_listSubjects, h.relations]
      exact ⟨fun _ => rfl, h⟩

/-- The key management of another changes nothing to look at. -/
theorem of_isForeign (h : Alike subject v w) (he : svc.isForeign subject e = true) :
    Alike subject (svc.react v e).2 w := by
  obtain ⟨token, htoken, hspeaks⟩ := Service.isForeign_iff.1 he
  rcases Service.react_of_managerToken htoken v with hsame | ⟨caller, id, hdecode, hremove⟩
  · rw [hsame]
    exact h
  · have hother : caller.subject ≠ subject := by
      simpa [Service.speaksFor_of_decode hdecode] using hspeaks
    rw [hremove]
    exact ⟨h.relations, h.keys.of_remove hother id⟩

end World.Alike

namespace Service

variable {svc : Service} {subject : String} {v w : World}

theorem view_cons (e : Event) (events : List Event) : svc.view subject w (e :: events) =
    if svc.concerns subject e then
      (e, (svc.react w e).1) :: svc.view subject (svc.react w e).2 events
    else svc.view subject (svc.react w e).2 events := by
  rw [view, transcript, outcomes, List.zip_cons_cons, List.filter_cons]
  rfl

/-- What a subject sees of a run does not change if foreign key management is left out. -/
theorem view_of_alike {kept : Event → Bool}
    (hkept : ∀ e, kept e = false → svc.isForeign subject e = true)
    (h : World.Alike subject v w) (events : List Event) :
    svc.view subject v events = svc.view subject w (events.filter kept) := by
  induction events generalizing v w with
  | nil => rfl
  | cons e events ih =>
    cases he : kept e with
    | true =>
      obtain ⟨houtcome, hworld⟩ := h.react svc e
      rw [List.filter_cons_of_pos he, view_cons, view_cons, ih hworld]
      by_cases hconcerns : svc.concerns subject e = true
      · rw [if_pos hconcerns, if_pos hconcerns, houtcome hconcerns]
      · rw [if_neg hconcerns, if_neg hconcerns]
    | false =>
      -- what is left out happens in the one world only, and both still look the same
      have hforeign := hkept e he
      rw [List.filter_cons_of_neg (by simp [he]), view_cons,
        if_neg (not_concerns_of_isForeign hforeign)]
      exact ih (h.of_isForeign hforeign)

variable (svc) in
/-- The key management of others never shows. Take any run from any world, and leave out of it the
retrievals and revocations of whoever is not the subject, all of them or all but some that are
spared. Everything that remains and is a concern of the subject comes to the same: its own key
management, all requests for keys and all changes and questions about relationships, and for whom
a key stands, unless it is a stored key that somebody else issued. -/
theorem others_management_never_shows (subject : String) (w : World) (events : List Event)
    (spared : Event → Bool) :
    svc.view subject w events
      = svc.view subject w (events.filter fun e => spared e || !svc.isForeign subject e) := by
  apply view_of_alike _ (World.Alike.refl subject w) events
  intro e he
  simpa using (Bool.or_eq_false_iff.1 he).2

end Service

end Credentials
